import CrudPlan.Descriptor.Document
import CrudPlan.Proofs.Document.Reader

/-!
# Dumps of descriptors can be read

* `Descriptor.Lawful` collects the rules that a document imposes on the parts of a descriptor;
* `Descriptor.yields_lawful`: a descriptor that was read is lawful;
* `Descriptor.read_toJson`: a lawful descriptor is what its dump is read as.
-/

namespace CrudPlan

namespace Reader

theorem fieldName_text {s : String} (h : isFieldName s = true) : fieldName (.text s) = .valid s :=
  textWhere_eq_valid_iff.2 ⟨h, rfl⟩

end Reader

/-! ### Parts -/

namespace Field

/-- The name of a field follows the rule of names. -/
def Lawful (f : Field) : Prop := isFieldName f.name = true

theorem yields_lawful : Field.read.Yields Field.Lawful := by
  refine Reader.yields_record fun members => ?_
  have hname : (Members.required members "name" .fieldName).Holds fun s => isFieldName s = true :=
    Members.holds_required (Reader.yields_textWhere _ _)
  exact .seqLeft <| .skip <| .skip <| .skip <| .skip <| .map fun name h _ _ _ _ => hname name h

theorem read_toJson {f : Field} (h : f.Lawful) : Field.read f.toJson = .valid f := by
  have hname := Reader.fieldName_text h
  simp [read, toJson, Reader.record, Members.required, Members.optional, List.lookup_cons, hname,
    Members.closed_eq_valid, keys]

end Field

namespace VirtualField

/-- The name of a virtual field follows the rule of names. -/
def Lawful (f : VirtualField) : Prop := isFieldName f.name = true

theorem yields_default (type : VirtualType) :
    (VirtualDefault.read type).Yields fun x => x.type = type := by
  intro v x h
  cases type <;> obtain ⟨value, -, rfl⟩ := Checked.map_eq_valid_iff.1 h <;> rfl

theorem yields_lawful_readAs (type : VirtualType) :
    (readAs type).Yields fun f => f.Lawful ∧ f.default.type = type := by
  refine Reader.yields_record fun members => ?_
  have hname : (Members.required members "name" .fieldName).Holds fun s => isFieldName s = true :=
    Members.holds_required (Reader.yields_textWhere _ _)
  have hdefault : (Members.optional members "default_value" (VirtualDefault.read type)
      (.absent type)).Holds fun x => x.type = type :=
    Members.holds_optional (yields_default type) (by cases type <;> rfl)
  exact .seqLeft <| .seq (.skip <| .skip <| .map fun name h _ _ _ htype => ⟨hname name h, htype⟩)
    hdefault

theorem yields_lawful : VirtualField.read.Yields VirtualField.Lawful := by
  intro v
  cases v with
  | object members =>
    exact .andThen fun type => .within fun f h => (yields_lawful_readAs type _ f h).1
  | _ => exact fun _ ha => nomatch ha

theorem choice_type (type : VirtualType) :
    Reader.choice VirtualType.text VirtualType.all (.text type.text) = .valid type := by
  cases type <;> rfl

theorem choice_own_type (type : VirtualType) :
    Reader.choice VirtualType.text [type] (.text type.text) = .valid type := by
  simp [Reader.choice]

theorem read_default (x : VirtualDefault) : VirtualDefault.read x.type x.toJson = .valid x := by
  rcases x with (_ | _) | (_ | _) | (_ | _) <;> rfl

theorem readAs_toJson {f : VirtualField} (h : f.Lawful) :
    readAs f.default.type f.toJson = .valid f := by
  have hname := Reader.fieldName_text h
  simp [readAs, toJson, Reader.record, Members.required, Members.optional, List.lookup_cons, hname,
    choice_own_type, read_default, Members.closed_eq_valid, keys]

theorem read_toJson {f : VirtualField} (h : f.Lawful) : VirtualField.read f.toJson = .valid f := by
  have hread := readAs_toJson h
  rw [toJson] at hread ⊢
  simp [read, readType, List.lookup_cons, choice_type, Checked.andThen, hread]

end VirtualField

namespace NestedQuery

/-- There are keys, and none of them is empty. -/
def Lawful (q : NestedQuery) : Prop := q.keys ≠ [] ∧ "" ∉ q.keys

theorem yields_lawful : NestedQuery.read.Yields NestedQuery.Lawful := by
  refine Reader.yields_record fun members => ?_
  have hkeys : (Members.required members "keys" (.nonEmptyListOf .nonEmptyText)).Holds
      fun keys => keys ≠ [] ∧ "" ∉ keys :=
    Members.holds_required Reader.yields_someNonEmptyTexts
  exact .seqLeft <| .skip <| .skip <| .map fun keys h _ _ => hkeys keys h

theorem read_toJson {q : NestedQuery} (h : q.Lawful) : NestedQuery.read q.toJson = .valid q := by
  have hkeys := Reader.nonEmptyListOf_texts h.1 h.2
  simp [read, toJson, Reader.record, Members.required, Members.optional, List.lookup_cons, hkeys,
    Members.closed_eq_valid, memberKeys]

end NestedQuery

theorem Verb.text_injective : Function.Injective Verb.text := by
  intro a b h
  cases a <;> cases b <;> simp_all [text]

@[simp] theorem Reader.oneOf_text {allowed : List Verb} (verb : OneOf allowed) :
    Reader.oneOf Verb.text allowed (.text verb.val.text) = .valid verb :=
  choice_text (List.mem_attach _ _) fun _ _ he => Subtype.ext (Verb.text_injective he)

theorem IamPolicy.read_toJson (p : IamPolicy) : IamPolicy.read p.toJson = .valid p := by
  simp [read, toJson, Reader.record, Members.optional, List.lookup_cons,
    Members.closed_eq_valid, keys]

namespace Timeouts

/-- There is time to wait. -/
def Lawful (t : Timeouts) : Prop :=
  0 < t.insertMinutes ∧ 0 < t.updateMinutes ∧ 0 < t.deleteMinutes

theorem yields_lawful : Timeouts.read.Yields Timeouts.Lawful := by
  refine Reader.yields_record fun members => ?_
  have hmember : ∀ key, (Members.optional members key .positive 20).Holds fun n => 0 < n :=
    fun key => Members.holds_optional Reader.yields_positive (by decide)
  refine .seqLeft <| .seq (.seq (.map ?_) (hmember _)) (hmember _)
  exact fun insert hinsert update hupdate delete hdelete =>
    ⟨hmember _ insert hinsert, hupdate, hdelete⟩

theorem read_toJson {t : Timeouts} (h : t.Lawful) : Timeouts.read t.toJson = .valid t := by
  obtain ⟨hinsert, hupdate, hdelete⟩ := h
  simp [read, toJson, Reader.record, Members.optional, List.lookup_cons, Reader.positive_nat,
    hinsert, hupdate, hdelete, Members.closed_eq_valid, keys]

end Timeouts

/-! ### Groups of members -/

section Groups

variable {members : Members}

theorem About.holds_read : (About.read members).Holds fun a => isResourceName a.name = true := by
  have hname : (Members.required members "name" .resourceName).Holds
      fun s => isResourceName s = true :=
    Members.holds_required (Reader.yields_textWhere _ _)
  exact .skip <| .skip <| .skip <| .skip <| .skip <| .map fun name h _ _ _ _ _ => hname name h

theorem About.read_of_include {a : About} (hname : isResourceName a.name = true)
    (h : members.Include a.toMembers) : About.read members = .valid a := by
  have hname : Reader.resourceName (.text a.name) = .valid a.name :=
    Reader.textWhere_eq_valid_iff.2 ⟨hname, rfl⟩
  have hversion : Reader.choice MinVersion.text MinVersion.all (.text a.minVersion.text) =
      .valid a.minVersion := by
    cases a.minVersion <;> rfl
  simp only [Members.Include, toMembers, List.forall_mem_cons] at h
  simp [read, Members.required, Members.optional, h, hname, hversion]

theorem Endpoints.holds_read : (Endpoints.read members).Holds fun e => e.baseUrl ≠ "" := by
  have hbase : (Members.required members "base_url" .nonEmptyText).Holds fun s => s ≠ "" :=
    Members.holds_required Reader.yields_nonEmptyText
  exact .skip <| .skip <| .skip <| .skip <| .skip <| .skip <| .skip <| .skip <| .skip <| .skip <|
    .skip <| .skip <| .map fun url h _ _ _ _ _ _ _ _ _ _ _ _ => hbase url h

theorem Endpoints.read_of_include {e : Endpoints} (hbase : e.baseUrl ≠ "")
    (h : members.Include e.toMembers) : Endpoints.read members = .valid e := by
  have hbase : Reader.nonEmptyText (.text e.baseUrl) = .valid e.baseUrl :=
    Reader.textWhere_eq_valid_iff.2 ⟨bne_iff_ne.2 hbase, rfl⟩
  simp only [Members.Include, toMembers, List.forall_mem_cons] at h
  simp [read, Members.required, Members.optional, h, hbase]

theorem IdentityRules.holds_read : (IdentityRules.read members).Holds fun r =>
    "" ∉ r.identity ∧ (∀ q ∈ r.nestedQuery, q.Lawful) ∧ "" ∉ r.importFormat := by
  have htexts := Members.holds_optional_texts members
  have hquery : (Members.optional members "nested_query" (.nullable NestedQuery.read) none).Holds
      fun query => ∀ q ∈ query, q.Lawful :=
    Members.holds_optional NestedQuery.yields_lawful.nullable nofun
  refine .seq (.skip (.seq (.map ?_) hquery)) (htexts _)
  exact fun identity hidentity query hquery _ formats hformats =>
    ⟨htexts _ identity hidentity, hquery, hformats⟩

theorem IdentityRules.read_of_include {r : IdentityRules}
    (hquery : ∀ q ∈ r.nestedQuery, q.Lawful) (h : members.Include r.toMembers) :
    IdentityRules.read members =
      (fun identity importFormat => { r with identity := identity, importFormat := importFormat })
        <$> Members.required [("identity", .texts r.identity)] "identity" (.listOf .nonEmptyText)
        <*> Members.required [("import_format", .texts r.importFormat)] "import_format"
          (.listOf .nonEmptyText) := by
  have hquery : Reader.nullable NestedQuery.read (.optJson NestedQuery.toJson r.nestedQuery) =
      .valid r.nestedQuery :=
    Reader.nullable_optJson (fun _ => nofun) fun q hq => NestedQuery.read_toJson (hquery q hq)
  simp only [Members.Include, toMembers, List.forall_mem_cons] at h
  simp only [read, Members.required, Members.optional, h, hquery, List.lookup_cons_self,
    Reader.nullable_optText, Checked.within_valid]
  cases (Reader.listOf Reader.nonEmptyText (.texts r.identity)).within (.key "identity") <;>
    cases (Reader.listOf Reader.nonEmptyText (.texts r.importFormat)).within
      (.key "import_format") <;> rfl

theorem StateRules.read_of_include {s : StateRules} (h : members.Include s.toMembers) :
    StateRules.read members = .valid s := by
  simp only [Members.Include, toMembers, List.forall_mem_cons] at h
  simp [read, Members.optional, h]

theorem Lifecycle.read_of_include {l : Lifecycle} (h : members.Include l.toMembers) :
    Lifecycle.read members = .valid l := by
  simp only [Members.Include, toMembers, List.forall_mem_cons] at h
  simp [read, Members.optional, h]

theorem RuntimeHooks.holds_read : (RuntimeHooks.read members).Holds fun k =>
    "" ∉ k.retryPredicates ∧ "" ∉ k.abortPredicates ∧ "" ∉ k.customDiff := by
  have htexts := Members.holds_optional_texts members
  refine .skip (.seq (.seq (.map ?_) (htexts _)) (htexts _))
  exact fun retry hretry abort habort diff hdiff _ => ⟨htexts _ retry hretry, habort, hdiff⟩

theorem RuntimeHooks.read_of_include {k : RuntimeHooks} (hretry : "" ∉ k.retryPredicates)
    (habort : "" ∉ k.abortPredicates) (hdiff : "" ∉ k.customDiff)
    (h : members.Include k.toMembers) : RuntimeHooks.read members = .valid k := by
  have hretry := Reader.nonEmptyTexts_texts hretry
  have habort := Reader.nonEmptyTexts_texts habort
  have hdiff := Reader.nonEmptyTexts_texts hdiff
  simp only [Members.Include, toMembers, List.forall_mem_cons] at h
  simp [read, Members.optional, h, hretry, habort, hdiff]

end Groups

/-! ### Descriptors -/

namespace Descriptor

variable {d : Descriptor}

/-- The rules for all members but the lists of the identity. -/
structure Regular (d : Descriptor) : Prop where
  name : isResourceName d.name = true
  baseUrl : d.endpoints.baseUrl ≠ ""
  nestedQuery : ∀ q ∈ d.identityRules.nestedQuery, q.Lawful
  timeouts : d.timeouts.Lawful
  retryPredicates : "" ∉ d.runtimeHooks.retryPredicates
  abortPredicates : "" ∉ d.runtimeHooks.abortPredicates
  customDiff : "" ∉ d.runtimeHooks.customDiff
  virtualFields : ∀ f ∈ d.virtualFields, f.Lawful
  properties : ∀ f ∈ d.properties, f.Lawful
  parameters : ∀ f ∈ d.parameters, f.Lawful

/-- The rules that a document imposes on a descriptor. -/
structure Lawful (d : Descriptor) : Prop extends Regular d where
  identity : "" ∉ d.identityRules.identity
  importFormat : "" ∉ d.identityRules.importFormat

/-- The members of the dump of a descriptor. -/
def toMembers (d : Descriptor) : Members :=
  d.about.toMembers ++ d.endpoints.toMembers ++ d.identityRules.toMembers ++
    [("mutex", .optText d.mutex)] ++ d.stateRules.toMembers ++ d.lifecycle.toMembers ++
    [("iam_policy", .optJson IamPolicy.toJson d.iamPolicy),
      ("timeouts", d.timeouts.toJson)] ++ d.runtimeHooks.toMembers ++
    [("virtual_fields", .listOf VirtualField.toJson d.virtualFields),
      ("properties", .listOf Field.toJson d.properties),
      ("parameters", .listOf Field.toJson d.parameters)]

theorem toJson_eq (d : Descriptor) : d.toJson = .object d.toMembers := rfl

theorem map_fst_toMembers (d : Descriptor) : d.toMembers.map Prod.fst = keys := rfl

theorem nodup_keys : keys.Nodup := by decide +kernel

theorem include_toMembers {part : Members} (h : part ⊆ d.toMembers) : d.toMembers.Include part :=
  Members.include_of_subset (map_fst_toMembers d ▸ nodup_keys) h

/-- A dump is read as the descriptor, except that an empty text in a list of the identity is a
fault. -/
theorem read_toJson_of_regular (h : d.Regular) :
    Descriptor.read d.toJson =
      (fun identity importFormat =>
        { d with
          identityRules := { d.identityRules with
            identity := identity, importFormat := importFormat } })
        <$> Members.required [("identity", .texts d.identityRules.identity)] "identity"
          (.listOf .nonEmptyText)
        <*> Members.required [("import_format", .texts d.identityRules.importFormat)]
          "import_format" (.listOf .nonEmptyText) := by
  have habout : About.read d.toMembers = .valid d.about :=
    About.read_of_include h.name (include_toMembers fun x hx => by simp [toMembers, hx])
  have hendpoints : Endpoints.read d.toMembers = .valid d.endpoints :=
    Endpoints.read_of_include h.baseUrl (include_toMembers fun x hx => by simp [toMembers, hx])
  have hidentity : IdentityRules.read d.toMembers = _ :=
    IdentityRules.read_of_include h.nestedQuery
      (include_toMembers fun x hx => by simp [toMembers, hx])
  have hstate : StateRules.read d.toMembers = .valid d.stateRules :=
    StateRules.read_of_include (include_toMembers fun x hx => by simp [toMembers, hx])
  have hlifecycle : Lifecycle.read d.toMembers = .valid d.lifecycle :=
    Lifecycle.read_of_include (include_toMembers fun x hx => by simp [toMembers, hx])
  have hhooks : RuntimeHooks.read d.toMembers = .valid d.runtimeHooks :=
    RuntimeHooks.read_of_include h.retryPredicates h.abortPredicates h.customDiff
      (include_toMembers fun x hx => by simp [toMembers, hx])
  -- the other members are not in a group
  have hrest : d.toMembers.Include [("mutex", .optText d.mutex),
      ("iam_policy", .optJson IamPolicy.toJson d.iamPolicy), ("timeouts", d.timeouts.toJson),
      ("virtual_fields", .listOf VirtualField.toJson d.virtualFields),
      ("properties", .listOf Field.toJson d.properties),
      ("parameters", .listOf Field.toJson d.parameters)] :=
    include_toMembers (by simp [toMembers])
  have hpolicy : Reader.nullable IamPolicy.read (.optJson IamPolicy.toJson d.iamPolicy) =
      .valid d.iamPolicy :=
    Reader.nullable_optJson (fun _ => nofun) fun p _ => IamPolicy.read_toJson p
  have hvirtual := Reader.listOf_listOf fun f hf => VirtualField.read_toJson (h.virtualFields f hf)
  have hproperties := Reader.listOf_listOf fun f hf => Field.read_toJson (h.properties f hf)
  have hparameters := Reader.listOf_listOf fun f hf => Field.read_toJson (h.parameters f hf)
  have hclosed : d.toMembers.closed keys = .valid () :=
    Members.closed_eq_valid fun key hkey => map_fst_toMembers d ▸ hkey
  simp only [Members.Include, List.forall_mem_cons] at hrest
  rw [toJson_eq, read, Reader.record]
  simp only [habout, hendpoints, hidentity, hstate, hlifecycle, hhooks, Members.optional, hrest,
    hpolicy, Timeouts.read_toJson h.timeouts, hvirtual, hproperties, hparameters,
    Reader.nullable_optText, Checked.within_valid, hclosed]
  -- all members are read by now but those two lists, which may have faults
  generalize Members.required [("identity", .texts d.identityRules.identity)] "identity"
    (.listOf .nonEmptyText) = identity
  generalize Members.required [("import_format", .texts d.identityRules.importFormat)]
    "import_format" (.listOf .nonEmptyText) = importFormat
  cases identity <;> cases importFormat <;> rfl

/-- **What is read from a document is lawful.** -/
theorem yields_lawful : Descriptor.read.Yields Descriptor.Lawful := by
  refine Reader.yields_record fun members => ?_
  have htimeouts : (Members.optional members "timeouts" Timeouts.read {}).Holds Timeouts.Lawful :=
    Members.holds_optional Timeouts.yields_lawful ⟨by decide, by decide, by decide⟩
  have hvirtual : (Members.optional members "virtual_fields" (.listOf VirtualField.read) []).Holds
      fun fields => ∀ f ∈ fields, f.Lawful :=
    Members.holds_optional VirtualField.yields_lawful.listOf nofun
  have hfields : ∀ key, (Members.optional members key (.listOf Field.read) []).Holds
      fun fields => ∀ f ∈ fields, f.Lawful :=
    fun _ => Members.holds_optional Field.yields_lawful.listOf nofun
  refine .seqLeft (.seq (.seq (.seq (.seq (.seq (.skip (.skip (.skip (.skip (.seq (.seq (.map ?_)
    Endpoints.holds_read) IdentityRules.holds_read))))) htimeouts) RuntimeHooks.holds_read)
    hvirtual) (hfields _)) (hfields _))
  rintro about habout endpoints hendpoints rules ⟨hidentity, hquery, hformats⟩ _ _ _ _ timeouts
    htimeouts hooks ⟨hretry, habort, hdiff⟩ virtual hvirtual properties hproperties parameters
    hparameters
  exact {
    name := About.holds_read about habout
    baseUrl := hendpoints
    nestedQuery := hquery
    timeouts := htimeouts
    retryPredicates := hretry
    abortPredicates := habort
    customDiff := hdiff
    virtualFields := hvirtual
    properties := hproperties
    parameters := hparameters
    identity := hidentity
    importFormat := hformats }

/-- **A lawful descriptor is what its dump is read as.** -/
theorem read_toJson (h : d.Lawful) : Descriptor.read d.toJson = .valid d := by
  have hidentity := (Members.required_texts_eq_valid_iff "identity").2 ⟨h.identity, rfl⟩
  have hformats := (Members.required_texts_eq_valid_iff "import_format").2 ⟨h.importFormat, rfl⟩
  rw [read_toJson_of_regular h.toRegular, hidentity, hformats]
  rfl

end Descriptor

end CrudPlan
