import Mathlib.Data.List.Nodup
import CrudPlan.Proofs.Hook.Growth

/-!
# Which hooks a registry takes

A hook is taken if its name is not empty and not taken already. So a table of hooks is taken as a
whole if no name in it is empty or occurs twice, under one kind or under two, and the order of the
table shows only in the order of the registrations.

* `HookRegistry.names` are the names that are taken;
* `HookRegistry.register_eq_ok_iff` says when a hook is taken and what the registry is then, and
  `HookRegistry.ofNames_eq_ok_iff` says it of a table. In between stands
  `HookRegistry.registerAll`, which adds the hooks of a list;
* `HookRegistry.find?_eq_of_perm`: a name finds the same registration in any order of them.
-/

namespace CrudPlan.HookRegistry

variable {r grown : HookRegistry} {name kind : String} {target : Json} {hook : Registration}
  {hooks : List Registration} {table : List (String × List String)}

/-! ### Names -/

/-- The names that are taken. -/
def names (r : HookRegistry) : List String := r.registrations.map Registration.name

/-- Hooks of which none has an empty name, or that of another. -/
def WellNamed (hooks : List Registration) : Prop :=
  "" ∉ hooks.map Registration.name ∧ (hooks.map Registration.name).Nodup

theorem WellNamed.of_perm {other : List Registration} (h : WellNamed hooks)
    (hperm : hooks.Perm other) : WellNamed other := by
  have hnames := hperm.map Registration.name
  exact ⟨fun hmem => h.1 (hnames.mem_iff.2 hmem), hnames.nodup_iff.1 h.2⟩

theorem find?_eq_none_iff : r.find? name = none ↔ name ∉ r.names := by
  simp only [find?, names, List.find?_eq_none, List.mem_map, beq_iff_eq, not_exists, not_and]

theorem mem_names_iff : name ∈ r.names ↔ ∃ registration, r.find? name = some registration := by
  rw [← Option.ne_none_iff_exists', ne_eq, find?_eq_none_iff, not_not]

theorem contains_iff : r.contains name = true ↔ name ∈ r.names := by
  rw [contains, Option.isSome_iff_ne_none, ne_eq, find?_eq_none_iff, not_not]

/-- Where no name is taken twice, a name finds its only registration. -/
theorem find?_eq_some_iff (hnames : r.names.Nodup) :
    r.find? name = some hook ↔ hook ∈ r.registrations ∧ hook.name = name := by
  constructor
  · intro h
    exact ⟨List.mem_of_find?_eq_some h, by simpa using List.find?_some h⟩
  · rintro ⟨hmem, rfl⟩
    obtain ⟨found, hfound⟩ := mem_names_iff.1 (List.mem_map_of_mem hmem)
    have hname : found.name = hook.name := by simpa using List.find?_some hfound
    rw [hfound, List.inj_on_of_nodup_map hnames (List.mem_of_find?_eq_some hfound) hmem hname]

/-- A hook is offered if it is registered for what it is used for. -/
theorem offers_iff {ref : HookRef} (hnames : r.names.Nodup) :
    r.Offers ref ↔ ∃ hook ∈ r.registrations, hook.name = ref.name ∧ hook.kind = ref.kind.text := by
  simp only [Offers, find?_eq_some_iff hnames, and_assoc]

/-- **A name finds the same registration in any order of them.** -/
theorem find?_eq_of_perm {other : HookRegistry} (hnames : r.names.Nodup)
    (hperm : r.registrations.Perm other.registrations) (name : String) :
    r.find? name = other.find? name := by
  have hother : other.names.Nodup := (hperm.map Registration.name).nodup_iff.1 hnames
  ext hook
  rw [find?_eq_some_iff hnames, find?_eq_some_iff hother, hperm.mem_iff]

/-! ### Hooks -/

/-- **A hook is taken under a name of its own**, after those before it. -/
theorem register_eq_ok_iff :
    r.register name kind target = .ok grown ↔
      (name ≠ "" ∧ name ∉ r.names) ∧ grown = ⟨r.registrations ++ [⟨name, kind, target⟩]⟩ := by
  rw [register]
  split_ifs with hempty htaken
  · simp [hempty]
  · simp [contains_iff.1 htaken]
  · have hfree : name ∉ r.names := fun hmem => htaken (contains_iff.2 hmem)
    simp [hempty, hfree, eq_comm]

theorem exists_register_error_iff :
    (∃ e, r.register name kind target = .error e) ↔ name = "" ∨ name ∈ r.names := by
  rw [register]
  split_ifs with hempty htaken
  · simp [hempty]
  · simp [contains_iff.1 htaken]
  · have hfree : name ∉ r.names := fun hmem => htaken (contains_iff.2 hmem)
    simp [hempty, hfree]

/-- Adds the hooks of a list. -/
def registerAll (r : HookRegistry) (hooks : List Registration) :
    Except RegistrationError HookRegistry :=
  hooks.foldlM (fun r hook => r.register hook.name hook.kind hook.target) r

theorem registerAll_append (first second : List Registration) :
    r.registerAll (first ++ second) = (r.registerAll first).bind (·.registerAll second) :=
  List.foldlM_append

theorem registerAll_cons_eq_ok_iff :
    r.registerAll (hook :: hooks) = .ok grown ↔
      ∃ next, r.register hook.name hook.kind hook.target = .ok next ∧
        next.registerAll hooks = .ok grown := by
  rw [registerAll, List.foldlM_cons]
  cases r.register hook.name hook.kind hook.target with
  | error e => simp [bind, Except.bind]
  | ok next => simp [bind, Except.bind, registerAll]

/-- A list of hooks is taken if each name in it is new, also to the list. -/
theorem registerAll_eq_ok_iff :
    r.registerAll hooks = .ok grown ↔
      ((∀ hook ∈ hooks, hook.name ≠ "" ∧ hook.name ∉ r.names) ∧
        (hooks.map Registration.name).Nodup) ∧
      grown = ⟨r.registrations ++ hooks⟩ := by
  induction hooks generalizing r with
  | nil =>
    have hnone : r.registerAll [] = .ok r := rfl
    rw [hnone, Except.ok.injEq, List.append_nil]
    exact ⟨fun h => ⟨⟨List.forall_mem_nil _, List.nodup_nil⟩, h.symm⟩, fun h => h.2.symm⟩
  | cons hook rest ih =>
    rw [registerAll_cons_eq_ok_iff, List.forall_mem_cons, List.map_cons, List.nodup_cons]
    constructor
    · rintro ⟨next, hfirst, hrest⟩
      obtain ⟨hfree, rfl⟩ := register_eq_ok_iff.1 hfirst
      obtain ⟨⟨hnew, hnodup⟩, rfl⟩ := ih.1 hrest
      have hother : hook.name ∉ rest.map Registration.name := by
        intro hmem
        obtain ⟨later, hlater, hname⟩ := List.mem_map.1 hmem
        exact (hnew later hlater).2 (by simp [names, hname])
      refine ⟨⟨⟨hfree, fun later hlater => ⟨(hnew later hlater).1, fun hmem => ?_⟩⟩,
        hother, hnodup⟩, by simp⟩
      exact (hnew later hlater).2 (by simp only [names] at hmem ⊢; simp [hmem])
    · rintro ⟨⟨⟨hfree, hnew⟩, hother, hnodup⟩, rfl⟩
      refine ⟨_, register_eq_ok_iff.2 ⟨hfree, rfl⟩, ih.2 ⟨⟨fun later hlater => ?_, hnodup⟩, by simp⟩⟩
      -- a later name is taken neither before the list nor by its head
      obtain ⟨hempty, htaken⟩ := hnew later hlater
      have hne : later.name ≠ hook.name := fun he => hother (he ▸ List.mem_map_of_mem hlater)
      refine ⟨hempty, fun hmem => ?_⟩
      simp only [names, List.map_append, List.map_cons, List.map_nil, List.mem_append,
        List.mem_singleton] at hmem
      exact hmem.elim htaken hne

/-! ### Tables -/

/-- The hooks that a table of kinds and names lists. -/
def listed (table : List (String × List String)) : List Registration :=
  table.flatMap fun (kind, names) => names.map fun name => ⟨name, kind, .null⟩

theorem registerNames_eq_registerAll (names : List String) :
    r.registerNames kind names = r.registerAll (names.map fun name => ⟨name, kind, .null⟩) := by
  rw [registerNames, registerAll, List.foldlM_map]

theorem ofNames_eq_registerAll : ofNames table = empty.registerAll (listed table) := by
  rw [ofNames]
  generalize empty = r
  induction table generalizing r with
  | nil => rfl
  | cons row rest ih =>
    obtain ⟨kind, names⟩ := row
    have hlisted : listed ((kind, names) :: rest) =
        (names.map fun name => ⟨name, kind, .null⟩) ++ listed rest := List.flatMap_cons
    rw [List.foldlM_cons, hlisted, registerAll_append, ← registerNames_eq_registerAll]
    exact congrArg _ (funext fun next => ih next)

/-- **A table is taken if no name in it is empty or occurs twice**, and the registry then holds its
hooks. -/
theorem ofNames_eq_ok_iff :
    ofNames table = .ok r ↔ WellNamed (listed table) ∧ r = ⟨listed table⟩ := by
  have hempty : (∀ hook ∈ listed table, hook.name ≠ "" ∧ hook.name ∉ empty.names) ↔
      "" ∉ (listed table).map Registration.name := by
    simp [names, empty]
  rw [ofNames_eq_registerAll, registerAll_eq_ok_iff, hempty, WellNamed]
  exact Iff.rfl

theorem exists_ofNames_iff : (∃ r, ofNames table = .ok r) ↔ WellNamed (listed table) := by
  simp only [ofNames_eq_ok_iff, exists_and_left, exists_eq, and_true]

end CrudPlan.HookRegistry
