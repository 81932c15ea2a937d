import CrudPlan.Plan.Basic
import CrudPlan.Proofs.Json.Canonical
import Mathlib.Data.List.Perm.Basic

/-!
# Dumps of the parts of a plan

Every part of a plan can be told from its dump: the keys of a record are fixed, so records with the
same dump have the same fields, and so on down to texts, integers and truth values
(`Json.Faithful`). Three parts need an argument of their own.

* a segment is dumped with its sort, which tells the constructor (`Segment.faithful`);
* the default of a virtual field may be absent, so it is told from its dump and the type of the
  field together (`VirtualDefault.eq_of_same`);
* flags have keys of their own, which are in order (`Flags.faithful`).
-/

namespace CrudPlan

open Json (Faithful)

/-! ### Hooks and operations -/

theorem HookKind.text_injective : Function.Injective HookKind.text := by
  intro a b h
  cases a <;> cases b <;> simp_all [text]

theorem HookRef.faithful : Faithful HookRef.toJson where
  exact h := by simp [toJson, Json.exact_object, Faithful.text.exact]
  injective := by
    rintro ⟨name, kind⟩ ⟨name', kind'⟩ h
    simpa [HookKind.text_injective.eq_iff] using h.members rfl (by simp)

theorem HookRef.faithful_opt : Faithful (Json.optJson HookRef.toJson) :=
  HookRef.faithful.optJson fun _ => nofun

theorem Operation.faithful : Faithful Operation.toJson where
  exact o := by simp [toJson, Json.exact_object, Faithful.text.exact, Faithful.bool.exact]
  injective := by
    rintro ⟨url, verb, active⟩ ⟨url', verb', active'⟩ h
    simpa using h.members rfl (by simp)

/-! ### Templates, URLs and locks -/

theorem Segment.faithful : Faithful Segment.toJson where
  exact s := by simp [toJson, Json.exact_object, Faithful.text.exact]
  injective := by
    intro s t h
    have hmembers := h.members rfl (by simp)
    cases s <;> cases t <;> simp_all [kind, value]

theorem Template.faithful : Faithful Template.toJson where
  exact t := by
    simp [toJson, toMembers, Json.exact_object, Faithful.text.exact, Segment.faithful.listOf.exact]
  injective := by
    rintro ⟨source, segments⟩ ⟨source', segments'⟩ h
    simpa [toMembers, Segment.faithful.listOf.same_iff] using h.members rfl (by simp [toMembers])

theorem Urls.faithful : Faithful Urls.toJson where
  exact u := by simp [toJson, Json.exact_object, Faithful.text.exact, Faithful.optText.exact]
  injective := by
    intro u u' h
    cases u
    cases u'
    simpa [Faithful.optText.same_iff] using h.members rfl (by simp)

theorem Lock.faithful : Faithful Lock.toJson where
  exact l := by simp [toJson, Json.exact_object, Faithful.text.exact, Faithful.texts.exact]
  injective := by
    rintro ⟨template, tokens⟩ ⟨template', tokens'⟩ h
    simpa [Faithful.texts.same_iff] using h.members rfl (by simp)

theorem Lock.faithful_opt : Faithful (Json.optJson Lock.toJson) :=
  Lock.faithful.optJson fun _ => nofun

/-! ### Settings of the client -/

theorem Timeouts.faithful : Faithful Timeouts.toJson where
  exact t := by simp [toJson, Json.exact_object, Faithful.nat.exact]
  injective := by
    rintro ⟨insert, update, delete⟩ ⟨insert', update', delete'⟩ h
    simpa [Faithful.nat.same_iff] using h.members rfl (by simp)

theorem NestedQuery.faithful : Faithful NestedQuery.toJson where
  exact q := by simp [toJson, Json.exact_object, Faithful.texts.exact, Faithful.bool.exact]
  injective := by
    rintro ⟨keys, ids, patch⟩ ⟨keys', ids', patch'⟩ h
    simpa [Faithful.texts.same_iff] using h.members rfl (by simp)

theorem NestedQuery.faithful_opt : Faithful (Json.optJson NestedQuery.toJson) :=
  NestedQuery.faithful.optJson fun _ => nofun

/-! ### Virtual fields -/

namespace VirtualDefault

theorem toJson_boolean (value : Option Bool) : (boolean value).toJson = .optJson .bool value := by
  cases value <;> rfl

theorem toJson_string (value : Option String) : (string value).toJson = .optJson .text value := by
  cases value <;> rfl

theorem toJson_integer (value : Option Int) : (integer value).toJson = .optJson .int value := by
  cases value <;> rfl

theorem faithful_boolean : Faithful fun value => (boolean value).toJson :=
  funext toJson_boolean ▸ Faithful.bool.optJson fun _ => nofun

theorem faithful_string : Faithful fun value => (string value).toJson :=
  funext toJson_string ▸ Faithful.text.optJson fun _ => nofun

theorem faithful_integer : Faithful fun value => (integer value).toJson :=
  funext toJson_integer ▸ Faithful.int.optJson fun _ => nofun

theorem exact_toJson : ∀ x : VirtualDefault, x.toJson.Exact
  | .boolean value => faithful_boolean.exact value
  | .string value => faithful_string.exact value
  | .integer value => faithful_integer.exact value

/-- The dump alone does not tell the type, since there may be no value. -/
theorem eq_of_same {x y : VirtualDefault} (htype : x.type = y.type)
    (h : x.toJson.Same y.toJson) : x = y := by
  cases x with
  | boolean value =>
    cases y with
    | boolean value' => rw [faithful_boolean.injective h]
    | _ => cases htype
  | string value =>
    cases y with
    | string value' => rw [faithful_string.injective h]
    | _ => cases htype
  | integer value =>
    cases y with
    | integer value' => rw [faithful_integer.injective h]
    | _ => cases htype

end VirtualDefault

theorem VirtualType.text_injective : Function.Injective VirtualType.text := by
  intro a b h
  cases a <;> cases b <;> simp_all [text]

theorem VirtualField.faithful : Faithful VirtualField.toJson where
  exact f := by
    simp [toJson, Json.exact_object, Faithful.text.exact, VirtualDefault.exact_toJson]
  injective := by
    rintro ⟨name, description, default⟩ ⟨name', description', default'⟩ h
    have hmembers := h.members rfl (by simp)
    simp only [List.forall₂_cons, Json.same_text, VirtualType.text_injective.eq_iff] at hmembers
    obtain ⟨rfl, rfl, htype, hdefault, -⟩ := hmembers
    rw [VirtualDefault.eq_of_same htype hdefault]

/-! ### Flags -/

namespace Flags

theorem sortKeysMembers_entries (entries : List (String × Bool)) :
    Json.sortKeysMembers (entries.map fun (key, value) => (key, .bool value)) =
      entries.map fun (key, value) => (key, .bool value) := by
  rw [Json.sortKeysMembers_eq_map, List.map_map]
  rfl

/-- Entries in order are told apart as a set. -/
theorem entries_eq_of_perm {flags flags' : Flags} (h : flags.entries.Perm flags'.entries) :
    flags = flags' := by
  obtain ⟨entries, sorted⟩ := flags
  obtain ⟨entries', sorted'⟩ := flags'
  have hentries : entries = entries' :=
    h.eq_of_pairwise (fun a b _ _ hab hba => absurd hab (String.lt_asymm hba)) sorted sorted'
  subst hentries
  rfl

theorem faithful : Faithful Flags.toJson where
  exact flags := by
    refine Json.exact_object.2 fun m hm => ?_
    obtain ⟨e, -, rfl⟩ := List.mem_map.1 hm
    exact .bool e.2
  injective := by
    intro flags flags' h
    have hperm := h.perm
    rw [sortKeysMembers_entries, sortKeysMembers_entries, List.map_perm_map_iff] at hperm
    · exact entries_eq_of_perm hperm
    · rintro ⟨key, value⟩ ⟨key', value'⟩ heq
      simpa using heq

end Flags

/-! ### Policies -/

theorem LifecyclePolicy.faithful : Faithful LifecyclePolicy.toJson where
  exact p := by
    simp [toJson, Json.exact_object, Operation.faithful.exact, Flags.faithful.exact,
      HookRef.faithful.listOf.exact, HookRef.faithful_opt.exact, Timeouts.faithful.exact,
      NestedQuery.faithful_opt.exact, VirtualField.faithful.listOf.exact]
  injective := by
    intro p p' h
    cases p
    cases p'
    simpa [Operation.faithful.same_iff, Flags.faithful.same_iff,
      HookRef.faithful.listOf.same_iff, HookRef.faithful_opt.same_iff, Timeouts.faithful.same_iff,
      NestedQuery.faithful_opt.same_iff, VirtualField.faithful.listOf.same_iff]
      using h.members rfl (by simp)

end CrudPlan
