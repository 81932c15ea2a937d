import CrudPlan.Proofs.Descriptor.Document
import CrudPlan.Proofs.Plan.Acceptance

/-!
# Identities that are left open

A descriptor that gives no id template gets the one that lists its identity fields. That text is
made from names and then read like any other, and every name that a document may declare comes
through unharmed.

* `Template.listing` are the segments of a template that lists fields, and
  `Template.compile_joinTokens` reads them from its text, if the fields have identifiers for names;
* `Descriptor.isIdentifier_of_declares`: what a lawful descriptor declares is an identifier;
* `Identity.resolve_of_open`: with fields that are declared and distinct, the open parts of an
  identity are filled in by what lists the fields.
-/

namespace CrudPlan

/-! ### Templates that list fields -/

namespace Template

variable {fields : List String}

/-- The segments of a template that lists fields: their tokens, a slash between each two. -/
def listing (fields : List String) : List Segment :=
  (fields.map Segment.token).intersperse (.literal "/")

theorem listing_cons_cons (name next : String) (rest : List String) :
    listing (name :: next :: rest) = .token name :: .literal "/" :: listing (next :: rest) := by
  rw [listing, List.map_cons, List.map_cons, List.intersperse_cons_cons]
  rfl

theorem joinTokens_cons_cons (name next : String) (rest : List String) :
    joinTokens (name :: next :: rest) =
      (Segment.token name).text ++ "/" ++ joinTokens (next :: rest) := by
  rw [joinTokens, List.map_cons, List.map_cons, String.intercalate_cons_cons]
  rfl

theorem render_cons (s : Segment) (rest : List Segment) :
    render (s :: rest) = s.text ++ render rest := by
  simp [render]

theorem render_listing (fields : List String) : render (listing fields) = joinTokens fields := by
  induction fields with
  | nil => rfl
  | cons name rest ih =>
    cases rest with
    | nil => simp [listing, render, joinTokens]
    | cons next rest =>
      rw [listing_cons_cons, render_cons, render_cons, ih, joinTokens_cons_cons,
        String.append_assoc]
      rfl

theorem tokens_listing (fields : List String) :
    (listing fields).filterMap Segment.tokenName? = fields := by
  induction fields with
  | nil => rfl
  | cons name rest ih =>
    cases rest with
    | nil => rfl
    | cons next rest =>
      rw [listing_cons_cons]
      exact congrArg (name :: ·) ih

theorem head?_listing (name : String) (rest : List String) :
    (listing (name :: rest)).head? = some (.token name) := by
  cases rest <;> rfl

theorem wellFormed_listing (h : ∀ name ∈ fields, Segment.IsIdentifier name) :
    WellFormed (listing fields) := by
  induction fields with
  | nil => exact ⟨nofun, List.not_mem_nil, .nil⟩
  | cons name rest ih =>
    obtain ⟨hname, hrest⟩ := List.forall_mem_cons.1 h
    cases rest with
    | nil => exact ⟨List.forall_mem_singleton.2 hname, by simp [listing], .singleton _⟩
    | cons next rest =>
      obtain ⟨hlawful, hnonempty, hchain⟩ := ih hrest
      have hslash : (Segment.literal "/").Lawful := by decide
      -- a slash is followed by a token, and opens nothing in front of it
      have hahead : ∀ s ∈ (listing (next :: rest)).head?, (Segment.literal "/").MayPrecede s := by
        rw [head?_listing]
        rintro _ ⟨⟩
        exact (by decide : "/".toList.getLast? ≠ some '\x7b')
      rw [listing_cons_cons]
      refine ⟨List.forall_mem_cons.2 ⟨hname, List.forall_mem_cons.2 ⟨hslash, hlawful⟩⟩, ?_, ?_⟩
      · simpa using hnonempty
      · exact (hchain.cons hahead).cons fun _ _ => trivial

/-- **A template that lists fields can be read**, and names them in order. -/
theorem compile_joinTokens (h : ∀ name ∈ fields, Segment.IsIdentifier name) :
    compile (joinTokens fields) = .ok ⟨joinTokens fields, listing fields⟩ :=
  compile_eq_ok_iff.2 ⟨rfl, wellFormed_listing h, render_listing fields⟩

end Template

/-! ### Declared names -/

/-- Names of fields are identifiers in lower case. -/
theorem isIdentifier_of_isFieldName {name : String} (h : isFieldName name = true) :
    Segment.IsIdentifier name := by
  rw [← Template.isName_iff]
  rw [isFieldName] at h
  cases hname : name.toList with
  | nil => simp [hname] at h
  | cons c rest =>
    simp only [hname, Bool.and_eq_true, List.all_eq_true] at h
    have hletter : ∀ c : Char, c.isLower = true → c.isAlpha = true := fun c hc =>
      (congrArg (c.isUpper || ·) hc).trans (Bool.or_true _)
    simp only [Template.isName, Template.isNameStart, Template.isNameChar, Char.isAlphanum,
      Bool.and_eq_true, List.all_eq_true, Bool.or_eq_true]
    refine ⟨.inl (hletter c h.1), fun d hd => ?_⟩
    have := h.2 d hd
    simp only [Bool.or_eq_true] at this
    exact this.imp_left (Or.imp_left (hletter d))

namespace Descriptor

variable {d : Descriptor}

theorem isIdentifier_of_declares (h : d.Lawful) {name : String} (hname : d.Declares name) :
    Segment.IsIdentifier name := by
  have hfields : ∀ {fields : List Field}, (∀ f ∈ fields, f.Lawful) →
      name ∈ fields.map Field.name → Segment.IsIdentifier name := by
    intro fields hlawful hmem
    obtain ⟨f, hf, rfl⟩ := List.mem_map.1 hmem
    exact isIdentifier_of_isFieldName (hlawful f hf)
  rcases hname with rfl | hproperty | hparameter | hvirtual
  · decide
  · exact hfields h.properties hproperty
  · exact hfields h.parameters hparameter
  · obtain ⟨f, hf, rfl⟩ := List.mem_map.1 hvirtual
    exact isIdentifier_of_isFieldName (h.virtualFields f hf)

end Descriptor

/-! ### Open identities -/

namespace Identity

variable {d : Descriptor}

/-- The template of an id that lists the fields of the identity. -/
def listTemplate (d : Descriptor) : Template :=
  ⟨Template.joinTokens d.identityFields, Template.listing d.identityFields⟩

/-- What an identity is filled in with: its fields, listed also on import. -/
def filledIn (d : Descriptor) : Identity where
  fields := d.identityFields
  idFormat := listTemplate d
  importFormats := if d.lifecycle.excludeImport then [] else [⟨listTemplate d⟩]

theorem tokens_listTemplate (d : Descriptor) : (listTemplate d).tokens = d.identityFields :=
  Template.tokens_listing d.identityFields

/-- **An identity that is left open can be filled in.** If its fields are declared and distinct, the
template that lists them can be read, and names them in order. If no import formats are given
either, there is an identity, and this template is its only import format. -/
theorem resolve_of_open {v : Json} (hread : Descriptor.read v = .valid d)
    (hopen : d.identityRules.idFormat = none) (hnodup : d.identityFields.Nodup)
    (hdeclared : ∀ name ∈ d.identityFields, d.Declares name)
    (hnested : d.identityRules.nestedQuery.isSome → d.identityRules.identity ≠ []) :
    Template.compile (Template.joinTokens d.identityFields) = .ok (listTemplate d) ∧
      (listTemplate d).segments =
        (d.identityFields.map Segment.token).intersperse (.literal "/") ∧
      (listTemplate d).tokens = d.identityFields ∧
      (d.identityRules.importFormat = [] → resolve d = .ok (filledIn d)) := by
  have hlawful : d.Lawful := Descriptor.yields_lawful v d hread
  have hcompile : Template.compile (Template.joinTokens d.identityFields) = .ok (listTemplate d) :=
    Template.compile_joinTokens fun name hname =>
      Descriptor.isIdentifier_of_declares hlawful (hdeclared name hname)
  have htokens := tokens_listTemplate d
  refine ⟨hcompile, rfl, htokens, fun hnone => ?_⟩
  have hid : idTemplate d = Template.joinTokens d.identityFields := by rw [idTemplate, hopen]; rfl
  have hknown : (listTemplate d).tokens ⊆ d.identityFields := htokens ▸ List.Subset.refl _
  have hchecked : checkedIdFormat d = .ok (listTemplate d) :=
    checkedIdFormat_eq_ok_iff.2 ⟨hid ▸ hcompile, hknown⟩
  -- no field is listed twice, so the template is an import format too
  have hformat : FormatOf d.identityFields (idTemplate d) ⟨listTemplate d⟩ :=
    ⟨ImportFormat.compile_eq_ok_iff.2 ⟨hid ▸ hcompile, htokens ▸ hnodup⟩, hknown⟩
  have hfields : fieldIssues d.declaredNames [] d.identityFields = [] :=
    fieldIssues_eq_nil_iff.2 ⟨⟨hnodup, fun _ _ => List.not_mem_nil⟩, fun name hname =>
      Descriptor.mem_declaredNames_iff.2 (hdeclared name hname)⟩
  refine resolve_eq_ok_iff.2 ⟨⟨hfields, nestedIssues_eq_nil_iff.2 hnested,
    excludedImportIssues_eq_nil_iff.2 fun _ => hnone⟩, rfl, hchecked, ?_⟩
  rw [consideredFormats_of_checkedIdFormat hchecked, formatSources, if_pos hnone, filledIn]
  split
  · exact .nil
  · exact .cons hformat .nil

/-- A resource that is known by a parameter, a setting of the client and its name. -/
def zonalAddresses : Descriptor where
  about := { name := "Address" }
  endpoints := { baseUrl := "addresses" }
  identityRules := { identity := ["region", "zone_1", "name"] }
  virtualFields := [{ name := "zone_1", default := .string none }]
  parameters := [{ name := "region" }]

/-- Fields of every kind may be listed. -/
theorem resolve_of_open_addresses :
    Descriptor.read zonalAddresses.toJson = .valid zonalAddresses ∧
    (∀ name ∈ zonalAddresses.identityFields, zonalAddresses.Declares name) ∧
    Template.compile "\x7b\x7bregion\x7d\x7d/\x7b\x7bzone_1\x7d\x7d/\x7b\x7bname\x7d\x7d" =
      .ok (listTemplate zonalAddresses) ∧
    (listTemplate zonalAddresses).segments =
      [.token "region", .literal "/", .token "zone_1", .literal "/", .token "name"] ∧
    resolve zonalAddresses = .ok ⟨["region", "zone_1", "name"], listTemplate zonalAddresses,
      [⟨listTemplate zonalAddresses⟩]⟩ := by
  have hread : Descriptor.read zonalAddresses.toJson = .valid zonalAddresses := by decide +kernel
  have hdeclared : ∀ name ∈ zonalAddresses.identityFields, zonalAddresses.Declares name := by
    simp only [← Descriptor.mem_declaredNames_iff]
    decide
  obtain ⟨hcompile, hsegments, -, hresolve⟩ :=
    resolve_of_open hread rfl (by decide) hdeclared (by decide)
  exact ⟨hread, hdeclared, hcompile, hsegments, hresolve rfl⟩

end Identity

end CrudPlan
