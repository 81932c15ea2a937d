import CrudPlan.Proofs.Plan.Acceptance
import CrudPlan.Proofs.Plan.WrittenOut

/-!
# When defaults can be written out

A plan may hold a value that its descriptor must not: an id template may be empty, an import format
may not, and the one is the default of the other.

* `Descriptor.ImportsByEmptyId` is the condition under which this happens;
* `Identity.empty_notMem_fields` and `Descriptor.empty_notMem_importFormats` are about the two lists
  of a plan that a document has a rule for;
* `Descriptor.materialize_of_resolve`: writing out the defaults of a descriptor that has a plan
  fails under that condition, with a single fault, and succeeds otherwise;
* `Descriptor.materialize_emptyId` is a descriptor with a plan but without a written form.
-/

namespace CrudPlan

variable {d : Descriptor}

/-! ### Templates that list fields -/

/-- A template that lists fields begins with the first of them, so it is not empty. -/
theorem Template.joinTokens_ne_empty {fields : List String} (h : fields ≠ []) :
    joinTokens fields ≠ "" := by
  cases fields with
  | nil => exact absurd rfl h
  | cons name rest =>
    have htext : (Segment.token name).text ≠ "" := by
      rw [ne_eq, ← String.toList_eq_nil_iff, Segment.toList_text]
      simp [Segment.piece, Piece.chars]
    rw [joinTokens, List.map_cons]
    cases rest with
    | nil =>
      rw [List.map_nil, String.intercalate_singleton]
      exact htext
    | cons next rest =>
      rw [List.map_cons, String.intercalate_cons_cons]
      simp [htext]

/-- An id template is empty only if it is given so. -/
theorem Identity.idTemplate_eq_empty_iff :
    idTemplate d = "" ↔ d.identityRules.idFormat = some "" := by
  have hjoined := Template.joinTokens_ne_empty d.identityFields_ne_nil
  rw [idTemplate]
  cases d.identityRules.idFormat with
  | none => simpa using hjoined
  | some source => simp

/-- No identity of a lawful descriptor has a field without a name. -/
theorem Identity.empty_notMem_fields (h : d.Lawful) : "" ∉ d.identityFields := by
  rw [Descriptor.identityFields]
  split
  · simp [Descriptor.implicitField]
  · exact h.identity

/-! ### Writing out -/

namespace Descriptor

theorem importFormats_of_resolve {mode : ResolverMode} {p : Plan}
    (h : Plan.resolve mode d = .ok p) :
    importFormats p = if d.lifecycle.excludeImport then [] else Identity.formatSources d :=
  Identity.sources_formats_of_resolve (Plan.parts_of_resolve h).2.1

/-- The only import format of a resource is its id template, which is empty. -/
def ImportsByEmptyId (d : Descriptor) : Prop :=
  d.lifecycle.excludeImport = false ∧ d.identityRules.importFormat = [] ∧
    d.identityRules.idFormat = some ""

instance : DecidablePred ImportsByEmptyId := fun _ => inferInstanceAs (Decidable (_ ∧ _ ∧ _))

/-- The fault of an empty import format. -/
def emptyFormatFault : Fault := ⟨[.key "import_format", .index 0], .textTooShort⟩

theorem importFormats_of_importsByEmptyId {mode : ResolverMode} {p : Plan}
    (h : Plan.resolve mode d = .ok p) (hempty : d.ImportsByEmptyId) : importFormats p = [""] := by
  obtain ⟨hexclude, hnone, hid⟩ := hempty
  rw [importFormats_of_resolve h, hexclude, Identity.formatSources, hnone,
    Identity.idTemplate_eq_empty_iff.2 hid]
  rfl

theorem empty_notMem_importFormats {mode : ResolverMode} {p : Plan} (hlawful : d.Lawful)
    (h : Plan.resolve mode d = .ok p) (hfilled : ¬ d.ImportsByEmptyId) : "" ∉ importFormats p := by
  rw [importFormats_of_resolve h]
  cases hexclude : d.lifecycle.excludeImport with
  | true => simp
  | false =>
    rw [if_neg Bool.false_ne_true, Identity.formatSources]
    split
    · next hnone =>
      -- the id template is the only format
      rw [List.mem_singleton, eq_comm, Identity.idTemplate_eq_empty_iff]
      exact fun hid => hfilled ⟨hexclude, hnone, hid⟩
    · exact hlawful.importFormat

/-- Writing out the plan of a descriptor, found under whichever mode. -/
theorem writeOut_of_resolve {mode : ResolverMode} {p : Plan} (hlawful : d.Lawful)
    (h : Plan.resolve mode d = .ok p) :
    d.writeOut p =
      if d.ImportsByEmptyId then .invalid [emptyFormatFault] else .valid (d.written p) := by
  have hfields : "" ∉ p.identity.fields := by
    obtain ⟨-, hidentity, -, -⟩ := Plan.parts_of_resolve h
    rw [(Identity.resolve_eq_ok_iff.1 hidentity).2.1]
    exact Identity.empty_notMem_fields hlawful
  by_cases hempty : d.ImportsByEmptyId
  · rw [if_pos hempty, writeOut, importFormats_of_importsByEmptyId h hempty,
      (Members.required_texts_eq_valid_iff "identity").2 ⟨hfields, rfl⟩]
    rfl
  · rw [if_neg hempty, writeOut_eq_valid_iff]
    exact ⟨⟨hfields, empty_notMem_importFormats hlawful h hempty⟩, rfl⟩

/-- **Defaults can be written out unless the only import format is an empty id template.** There is
no other fault in what is written. -/
theorem materialize_of_resolve {v : Json} {p : Plan} (hread : Descriptor.read v = .valid d)
    (h : Plan.resolve {} d = .ok p) :
    d.materialize =
      if d.ImportsByEmptyId then .error (.faulty [emptyFormatFault]) else .ok (d.written p) := by
  have hwriteOut := writeOut_of_resolve (yields_lawful v d hread) h
  rw [materialize, h]
  dsimp only
  rw [hwriteOut]
  by_cases hempty : d.ImportsByEmptyId
  · rw [if_pos hempty, if_pos hempty]
  · rw [if_neg hempty, if_neg hempty]

theorem materialize_of_resolve_policies :
    ∃ p, (Descriptor.read policies.toJson = .valid policies ∧ Plan.resolve {} policies = .ok p) ∧
      ¬ policies.ImportsByEmptyId ∧ policies.materialize = .ok (policies.written p) := by
  have hread : Descriptor.read policies.toJson = .valid policies := by decide +kernel
  have hfilled : ¬ policies.ImportsByEmptyId := by decide
  obtain ⟨p, h⟩ : ∃ p, Plan.resolve {} policies = .ok p :=
    exists_eq_ok_of_isSome (by decide +kernel)
  refine ⟨p, ⟨hread, h⟩, hfilled, ?_⟩
  rw [materialize_of_resolve hread h, if_neg hfilled]

/-- A resource whose id is empty. -/
def emptyId : Descriptor where
  about := { name := "Singleton" }
  endpoints := { baseUrl := "settings" }
  identityRules := { idFormat := some "" }

/-- It may stand in a document and has a plan, but not with its defaults. -/
theorem materialize_emptyId :
    Descriptor.read emptyId.toJson = .valid emptyId ∧ (∃ p, Plan.resolve {} emptyId = .ok p) ∧
      emptyId.materialize = .error (.faulty [emptyFormatFault]) := by
  exact ⟨by decide +kernel, exists_eq_ok_of_isSome (by decide +kernel), by decide +kernel⟩

end Descriptor

end CrudPlan
