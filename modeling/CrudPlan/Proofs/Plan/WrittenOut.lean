import CrudPlan.Plan.WrittenOut
import CrudPlan.Proofs.Descriptor.Document
import CrudPlan.Proofs.Plan.Resolution

/-!
# Defaults written out keep the meaning

Writing out the defaults of a descriptor changes neither its plan nor its issues, and there is
nothing left to write out afterwards.

* `Descriptor.written` is the descriptor with the derived values of a plan, and
  `writeOut_eq_valid_iff` says when it may stand in a document;
* `Descriptor.writeOut_eq_read`: writing out is the same as dumping the descriptor, putting the
  derived values into the dump and reading it again;
* `Urls.resolve_written` and `Identity.resolve_written`: every derived value is a fixed point of the
  rule that derives it, also beside the other values written;
* `Plan.resolve_written` puts the parts together;
* `Descriptor.materialize_keeps_meaning` is the law of `Descriptor.materialize` that follows.
-/

namespace CrudPlan

/-! ### What is written -/

/-- Endpoints with the URLs of a plan. -/
def Endpoints.written (e : Endpoints) (urls : Urls) : Endpoints :=
  { e with
    selfLink := some urls.selfLink
    createUrl := some urls.createUrl
    updateUrl := some urls.updateUrl
    deleteUrl := some urls.deleteUrl
    collectionUrlKey := some urls.collectionUrlKey }

/-- Identity rules with the identity of a plan. -/
def IdentityRules.written (r : IdentityRules) (identity : Identity) : IdentityRules :=
  { r with
    identity := identity.fields
    idFormat := some identity.idFormat.source
    importFormat := identity.importFormats.map fun f => f.template.source }

/-- The descriptor with the derived values of a plan. -/
def Descriptor.written (d : Descriptor) (p : Plan) : Descriptor :=
  { d with
    endpoints := d.endpoints.written p.urls
    identityRules := d.identityRules.written p.identity
    stateRules := { d.stateRules with baseVersion := p.state.baseVersion } }

variable {d d' : Descriptor} {p : Plan}

theorem Descriptor.writeOut_eq_valid_iff :
    d.writeOut p = .valid d' ↔
      ("" ∉ p.identity.fields ∧ "" ∉ importFormats p) ∧ d' = d.written p := by
  rw [writeOut, Checked.seq_eq_valid_iff]
  constructor
  · rintro ⟨_, formats, hmap, hformats, rfl⟩
    obtain ⟨identity, hidentity, rfl⟩ := Checked.map_eq_valid_iff.1 hmap
    obtain ⟨hfilled, rfl⟩ := (Members.required_texts_eq_valid_iff _).1 hidentity
    obtain ⟨himport, rfl⟩ := (Members.required_texts_eq_valid_iff _).1 hformats
    exact ⟨⟨hfilled, himport⟩, rfl⟩
  · rintro ⟨⟨hidentity, hformats⟩, rfl⟩
    exact ⟨_, _, Checked.map_eq_valid_iff.2
      ⟨_, (Members.required_texts_eq_valid_iff _).2 ⟨hidentity, rfl⟩, rfl⟩,
      (Members.required_texts_eq_valid_iff _).2 ⟨hformats, rfl⟩, rfl⟩

/-! ### Writing out as reading again -/

/-- Members with new values for some keys. -/
def Members.overlaid (members updates : Members) : Members :=
  members.map fun x => (x.1, (updates.lookup x.1).getD x.2)

theorem Members.lookup_overlaid {members updates : Members} {key : String}
    (h : key ∉ updates.map Prod.fst) :
    (members.overlaid updates).lookup key = members.lookup key := by
  have hnone : updates.lookup key = none :=
    List.lookup_eq_none_iff.2 fun x hx =>
      bne_iff_ne.2 fun he => h (he ▸ List.mem_map_of_mem hx)
  induction members with
  | nil => rfl
  | cons x rest ih =>
    rw [overlaid, List.map_cons, List.lookup_cons, List.lookup_cons]
    cases hx : key == x.1 with
    | false => exact ih
    | true => rw [← beq_iff_eq.1 hx, hnone, Option.getD_none]

namespace Descriptor

/-- The derived members of a document, with the values of a plan. -/
def derivedMembers (p : Plan) : Members := [
  ("self_link", .text p.urls.selfLink),
  ("create_url", .text p.urls.createUrl),
  ("update_url", .text p.urls.updateUrl),
  ("delete_url", .text p.urls.deleteUrl),
  ("collection_url_key", .text p.urls.collectionUrlKey),
  ("identity", .texts p.identity.fields),
  ("id_format", .text p.identity.idFormat.source),
  ("import_format", .texts (importFormats p)),
  ("state_upgrade_base_schema_version", .nat p.state.baseVersion)]

/-- They are the fields that are marked as derived. -/
theorem map_fst_derivedMembers (d : Descriptor) (p : Plan) :
    (derivedMembers p).map Prod.fst = d.marking.derived.map Prod.fst := rfl

theorem toMembers_written (d : Descriptor) (p : Plan) :
    (d.written p).toMembers = d.toMembers.overlaid (derivedMembers p) := rfl

theorem regular_written (h : d.Regular) : (d.written p).Regular := { h with }

/-- **Writing out is reading again** what was dumped, with the values of the plan in place of those
that are derived. -/
theorem writeOut_eq_read {v : Json} (h : Descriptor.read v = .valid d) (p : Plan) :
    d.writeOut p = Descriptor.read (.object (d.toMembers.overlaid (derivedMembers p))) := by
  have hregular := (yields_lawful v d h).toRegular
  rw [← toMembers_written, ← toJson_eq, read_toJson_of_regular (regular_written hregular)]
  rfl

end Descriptor

/-! ### URLs -/

theorem plural_ne_nil (word : List Char) : plural word ≠ [] := by
  rw [plural]
  split
  · simp
  · split <;> simp

theorem collectionKey_ne_empty (resource : String) : collectionKey resource ≠ "" := by
  intro h
  rw [collectionKey, ← String.toList_inj, String.toList_ofList] at h
  exact plural_ne_nil _ h

namespace Urls

variable {e : Endpoints} {selfLink : String}

theorem selfLink?_mem_given (h : selfLink? e = some selfLink) : some selfLink ∈ given e := by
  rw [← h, selfLink?]
  cases hself : e.selfLink with
  | some url => simp [given, hself]
  | none =>
    cases hposted : isPosted e with
    | false => simp [given, hself]
    | true => simp [given]

theorem getD_mem_given {url : Option String} {default : String} (hurl : url ∈ given e)
    (hdefault : some default ∈ given e) : some (url.getD default) ∈ given e := by
  cases url with
  | some _ => exact hurl
  | none => exact hdefault

/-- No URL is written that is not there before, under whichever name. -/
theorem given_written_subset (name : String) (h : selfLink? e = some selfLink) :
    given (e.written (ofSelfLink name e selfLink)) ⊆ given e := by
  have hself := selfLink?_mem_given h
  have hbase : some e.baseUrl ∈ given e := List.mem_cons_self
  have hcreate : some (if isPosted e then e.baseUrl else selfLink) ∈ given e := by
    split
    · exact hbase
    · exact hself
  -- one case for each URL that is written
  intro url hurl
  simp only [given, List.mem_cons, List.not_mem_nil, or_false] at hurl
  rcases hurl with rfl | rfl | rfl | rfl | rfl | rfl
  · exact hbase
  · exact hself
  · exact getD_mem_given (by simp [given]) hcreate
  · exact getD_mem_given (by simp [given]) hself
  · exact getD_mem_given (by simp [given]) hself
  · simp [given, Endpoints.written]

theorem givenKey?_of_ne_empty {key : String} (h : key ≠ "") : givenKey? (some key) = some key := by
  rw [givenKey?]
  simpa using h

theorem collectionUrlKey_ofSelfLink_ne_empty (name : String) :
    (ofSelfLink name e selfLink).collectionUrlKey ≠ "" := by
  change (givenKey? e.collectionUrlKey).getD (collectionKey name) ≠ ""
  unfold givenKey?
  split
  · exact collectionKey_ne_empty name
  · next hne =>
    cases hkey : e.collectionUrlKey with
    | none => exact collectionKey_ne_empty name
    | some key => exact fun he => hne (hkey.trans (congrArg some he))

/-- Deriving the URLs again gives the same ones. -/
theorem ofSelfLink_written (name : String) :
    ofSelfLink name (e.written (ofSelfLink name e selfLink)) selfLink =
      ofSelfLink name e selfLink := by
  have hkey : givenKey? (some (ofSelfLink name e selfLink).collectionUrlKey) = some _ :=
    givenKey?_of_ne_empty (collectionUrlKey_ofSelfLink_ne_empty name)
  rw [ofSelfLink, Endpoints.written, hkey]
  rfl

theorem resolve_written (h : resolve d = .ok p.urls) : resolve (d.written p) = .ok p.urls := by
  obtain ⟨hcompiles, selfLink, hself, hurls⟩ := resolve_eq_ok_iff.1 h
  rw [resolve_eq_ok_iff]
  have hendpoints : (d.written p).endpoints = d.endpoints.written p.urls := rfl
  rw [hendpoints, hurls]
  refine ⟨fun source hsource => ?_, selfLink, rfl, (ofSelfLink_written _).symm⟩
  exact hcompiles source (given_written_subset _ hself hsource)

end Urls

/-! ### Identities -/

theorem Descriptor.identityFields_ne_nil (d : Descriptor) : d.identityFields ≠ [] := by
  rw [identityFields]
  split
  · simp
  · next h => simpa using h

namespace Identity

theorem consideredFormats_ne_nil {t : Template} (hid : checkedIdFormat d = .ok t)
    (hexclude : d.lifecycle.excludeImport = false) : consideredFormats d ≠ [] := by
  rw [consideredFormats, hexclude, hid]
  split
  · next h => cases h
  · split
    · simp
    · next h => simpa using h

/-- Fields that were left open are no longer so, but they are the same. -/
theorem identityFields_written (h : p.identity.fields = d.identityFields) :
    (d.written p).identityFields = d.identityFields := by
  have hwritten : (d.written p).identityRules.identity = d.identityFields := h
  rw [Descriptor.identityFields, hwritten, if_neg]
  simpa using d.identityFields_ne_nil

theorem checkedIdFormat_written (hfields : p.identity.fields = d.identityFields)
    (hid : checkedIdFormat d = .ok p.identity.idFormat) :
    checkedIdFormat (d.written p) = .ok p.identity.idFormat := by
  obtain ⟨hcompile, htokens⟩ := checkedIdFormat_eq_ok_iff.1 hid
  have htemplate : idTemplate (d.written p) = idTemplate d := Template.source_of_compile hcompile
  rw [checkedIdFormat_eq_ok_iff, htemplate, identityFields_written hfields]
  exact ⟨hcompile, htokens⟩

theorem consideredFormats_written (hid : checkedIdFormat d = .ok p.identity.idFormat)
    (hsources : Descriptor.importFormats p = consideredFormats d) :
    consideredFormats (d.written p) = consideredFormats d := by
  have hwritten : (d.written p).identityRules.importFormat = consideredFormats d := hsources
  have hlifecycle : (d.written p).lifecycle = d.lifecycle := rfl
  cases hexclude : d.lifecycle.excludeImport with
  | true => simp [consideredFormats, hlifecycle, hexclude]
  | false =>
    -- with formats to import, those written are taken as they are
    have hne := consideredFormats_ne_nil hid hexclude
    rw [consideredFormats, hlifecycle, hexclude, hwritten]
    simp [hne]

theorem nestedIssues_written (h : p.identity.fields = d.identityFields) :
    nestedIssues (d.written p) = [] := by
  have himplicit : (d.written p).hasImplicitIdentity = false := by
    change p.identity.fields.isEmpty = false
    rw [h]
    simpa using d.identityFields_ne_nil
  rw [nestedIssues, himplicit]
  simp

theorem excludedImportIssues_written
    (hsources : Descriptor.importFormats p = consideredFormats d) :
    excludedImportIssues (d.written p) = [] := by
  have hwritten : (d.written p).identityRules.importFormat = consideredFormats d := hsources
  have hlifecycle : (d.written p).lifecycle = d.lifecycle := rfl
  rw [excludedImportIssues, hlifecycle, hwritten, if_neg]
  rintro ⟨hexclude, hne⟩
  exact hne (by simp [consideredFormats, hexclude])

theorem resolve_written (h : resolve d = .ok p.identity) :
    resolve (d.written p) = .ok p.identity := by
  obtain ⟨⟨hissues, -, -⟩, hfields, hid, hformats⟩ := resolve_eq_ok_iff.1 h
  have hsources := map_source_of_forall₂ hformats
  have hidentity := identityFields_written hfields
  refine resolve_eq_ok_iff.2 ⟨⟨?_, nestedIssues_written hfields,
    excludedImportIssues_written hsources⟩, ?_, checkedIdFormat_written hfields hid, ?_⟩
  · rw [hidentity]
    exact hissues
  · rw [hidentity, hfields]
  · rw [hidentity, consideredFormats_written hid hsources]
    exact hformats

end Identity

/-! ### Plans -/

theorem StateUpgrades.stateRules_written {strict : Bool}
    (h : StateUpgrades.resolve strict d = .ok p.state) :
    (d.written p).stateRules = d.stateRules := by
  have hstate := (resolve_eq_ok_iff.1 h).2
  change { d.stateRules with baseVersion := p.state.baseVersion } = d.stateRules
  rw [hstate]
  rfl

/-- No mark speaks of the value of a derived field. -/
theorem Descriptor.marking_written : (d.written p).marking = d.marking := rfl

theorem Descriptor.hooks_written : (d.written p).hooks = d.hooks :=
  congrArg Marking.hooks marking_written

theorem Descriptor.flags_written : (d.written p).flags = d.flags :=
  congrArg Marking.flags marking_written

theorem LifecyclePolicy.issues_written (hooks : Option HookRegistry) :
    issues hooks (d.written p) = issues hooks d := by
  have hexclusion : exclusionIssues (d.written p) = exclusionIssues d := rfl
  simp only [issues, hookIssues, Descriptor.hooks_written, hexclusion]

theorem LifecyclePolicy.assemble_written (urls : Urls) :
    assemble (d.written p) urls = assemble d urls := by
  rw [assemble, assemble, Descriptor.flags_written]
  simp only [hooksOf, Descriptor.hooks_written]
  rfl

/-- **Writing out the defaults of a plan keeps every outcome**, also where the resolver is stricter
or knows the hooks. -/
theorem Plan.resolve_written {mode : ResolverMode} (h : Plan.resolve mode d = .ok p)
    (other : ResolverMode) : Plan.resolve other (d.written p) = Plan.resolve other d := by
  obtain ⟨hurls, hidentity, -, hstate⟩ := parts_of_resolve h
  have hfields := Identity.identityFields_written (Identity.resolve_eq_ok_iff.1 hidentity).2.1
  have hrules := StateUpgrades.stateRules_written hstate
  have hmutex : Lock.resolve (d.written p) d.identityFields = Lock.resolve d d.identityFields := rfl
  refine resolve_congr ?_ ?_
  · rw [parts, parts, Urls.resolve_written hurls, Identity.resolve_written hidentity, hfields,
      hmutex, LifecyclePolicy.issues_written, hurls, hidentity, StateUpgrades.resolve, hrules,
      StateUpgrades.resolve]
  · funext urls identity mutex state
    rw [assemble, assemble, LifecyclePolicy.assemble_written, hrules]
    rfl

/-! ### Defaults -/

namespace Descriptor

/-- The value of a field in the dump of a descriptor. -/
def dumped (d : Descriptor) (field : String) : Option Json :=
  match d.toJson with
  | .object members => members.lookup field
  | _ => none

theorem dumped_eq (d : Descriptor) (field : String) : d.dumped field = d.toMembers.lookup field :=
  rfl

/-- A descriptor with the derived fields of another one. -/
def withDerivedOf (d source : Descriptor) : Descriptor :=
  { d with
    endpoints := { d.endpoints with
      selfLink := source.endpoints.selfLink
      createUrl := source.endpoints.createUrl
      updateUrl := source.endpoints.updateUrl
      deleteUrl := source.endpoints.deleteUrl
      collectionUrlKey := source.endpoints.collectionUrlKey }
    identityRules := { d.identityRules with
      identity := source.identityRules.identity
      idFormat := source.identityRules.idFormat
      importFormat := source.identityRules.importFormat }
    stateRules := { d.stateRules with baseVersion := source.stateRules.baseVersion } }

/-- Nothing that can be derived is left open. -/
structure WrittenOut (d : Descriptor) : Prop where
  selfLink : d.endpoints.selfLink.isSome
  createUrl : d.endpoints.createUrl.isSome
  updateUrl : d.endpoints.updateUrl.isSome
  deleteUrl : d.endpoints.deleteUrl.isSome
  collectionUrlKey : ∃ key, d.endpoints.collectionUrlKey = some key ∧ key ≠ ""
  idFormat : d.identityRules.idFormat.isSome
  identity : d.identityRules.identity ≠ []
  importFormat : d.lifecycle.excludeImport = false → d.identityRules.importFormat ≠ []

theorem dumped_written {field : String} (h : field ∉ d.marking.derived.map Prod.fst) :
    (d.written p).dumped field = d.dumped field := by
  rw [dumped_eq, dumped_eq, toMembers_written, Members.lookup_overlaid]
  rwa [map_fst_derivedMembers d]

theorem materialize_eq_ok_iff :
    d.materialize = .ok d' ↔ ∃ p, Plan.resolve {} d = .ok p ∧
      ("" ∉ p.identity.fields ∧ "" ∉ importFormats p) ∧ d' = d.written p := by
  rw [materialize]
  cases Plan.resolve {} d with
  | error issues => simp
  | ok p =>
    simp only [Except.ok.injEq, exists_eq_left', ← writeOut_eq_valid_iff]
    cases d.writeOut p with
    | valid written => simp
    | invalid faults => simp

theorem writtenOut_written {mode : ResolverMode} (h : Plan.resolve mode d = .ok p) :
    (d.written p).WrittenOut := by
  obtain ⟨hurls, hidentity, -, -⟩ := Plan.parts_of_resolve h
  obtain ⟨-, selfLink, -, hlinks⟩ := Urls.resolve_eq_ok_iff.1 hurls
  obtain ⟨-, hfields, hid, hformats⟩ := Identity.resolve_eq_ok_iff.1 hidentity
  refine ⟨rfl, rfl, rfl, rfl, ⟨p.urls.collectionUrlKey, rfl, ?_⟩, rfl, ?_, fun hexclude => ?_⟩
  · rw [hlinks]
    exact Urls.collectionUrlKey_ofSelfLink_ne_empty _
  · change p.identity.fields ≠ []
    rw [hfields]
    exact d.identityFields_ne_nil
  · change importFormats p ≠ []
    rw [importFormats, Identity.map_source_of_forall₂ hformats]
    exact Identity.consideredFormats_ne_nil hid hexclude

/-- **Writing defaults out keeps the meaning.** However strict the resolver is and whichever hooks
it knows, the outcome is the same; only derived fields differ, and none of them is left open; and
writing out once more changes nothing. -/
theorem materialize_keeps_meaning (h : d.materialize = .ok d') :
    (∀ mode, Plan.resolve mode d' = Plan.resolve mode d) ∧
    (d' = d.withDerivedOf d' ∧
      ∀ field, field ∉ d.marking.derived.map Prod.fst → d'.dumped field = d.dumped field) ∧
    d'.WrittenOut ∧ d'.materialize = .ok d' := by
  obtain ⟨p, hp, hfilled, rfl⟩ := materialize_eq_ok_iff.1 h
  -- the plan of `d` is also that of what was written, which so is written out by the same plan
  have hkept := Plan.resolve_written hp
  refine ⟨hkept, ⟨rfl, fun _ => dumped_written⟩, writtenOut_written hp, ?_⟩
  exact materialize_eq_ok_iff.2 ⟨p, (hkept {}).trans hp, hfilled, rfl⟩

/-- A resource that leaves open all that can be derived. -/
def policies : Descriptor where
  about := { name := "Policy" }
  endpoints := { baseUrl := "projects/\x7b\x7bproject\x7d\x7d/policies" }
  parameters := [{ name := "project" }]

/-- The same resource with its defaults. -/
def policiesWritten : Descriptor :=
  { policies with
    endpoints := { policies.endpoints with
      selfLink := some "projects/\x7b\x7bproject\x7d\x7d/policies"
      createUrl := some "projects/\x7b\x7bproject\x7d\x7d/policies"
      updateUrl := some "projects/\x7b\x7bproject\x7d\x7d/policies"
      deleteUrl := some "projects/\x7b\x7bproject\x7d\x7d/policies"
      collectionUrlKey := some "policies" }
    identityRules := { policies.identityRules with
      identity := ["name"]
      idFormat := some "\x7b\x7bname\x7d\x7d"
      importFormat := ["\x7b\x7bname\x7d\x7d"] } }

theorem materialize_keeps_meaning_policies :
    policies.materialize = .ok policiesWritten ∧
    (∀ mode, Plan.resolve mode policiesWritten = Plan.resolve mode policies) ∧
    (policiesWritten = policies.withDerivedOf policiesWritten ∧
      ∀ field, field ∉ policies.marking.derived.map Prod.fst →
        policiesWritten.dumped field = policies.dumped field) ∧
    policiesWritten.WrittenOut ∧ policiesWritten.materialize = .ok policiesWritten := by
  have h : policies.materialize = .ok policiesWritten := by decide +kernel
  exact ⟨h, materialize_keeps_meaning h⟩

end Descriptor

end CrudPlan
