import CrudPlan.Batch
import CrudPlan.Proofs.Plan.Resolution

/-!
# How a batch distributes its descriptors

A batch goes through its descriptors once and remembers the names it has met. This file says what
becomes of a descriptor without that memory, by what stands before it in the list.

* `Batch.outcomeIf`: what becomes of a descriptor by itself, once it is known whether its name is
  taken;
* `Batch.outcomesFrom_cons`: one step of a batch, as an outcome and the names remembered after it.
  What holds of a whole batch is proved by induction from this step;
* `Batch.inOrderOf_resolve` and the like say what follows for plans, failures and skipped names.
-/

namespace CrudPlan

/-! ### Outcomes -/

namespace Outcome

/-- The name of the resource. -/
def name : Outcome → String
  | .resolved plan => plan.resource
  | .failed failure => failure.name
  | .skipped name => name

variable {o : Outcome}

theorem resource_of_plan? {p : Plan} (h : p ∈ o.plan?) : p.resource = o.name := by
  cases o <;> cases h
  rfl

theorem name_of_failure? {f : Failure} (h : f ∈ o.failure?) : f.name = o.name := by
  cases o <;> cases h
  rfl

theorem name_of_skipped? {n : String} (h : n ∈ o.skipped?) : n = o.name := by
  cases o <;> cases h
  rfl

/-- What is chosen from outcomes under their names keeps their order. -/
theorem map_filterMap_sublist {α : Type} {choose : Outcome → Option α} {nameOf : α → String}
    (h : ∀ {o a}, a ∈ choose o → nameOf a = o.name) (outcomes : List Outcome) :
    ((outcomes.filterMap choose).map nameOf).Sublist (outcomes.map name) := by
  induction outcomes with
  | nil => exact .slnil
  | cons o rest ih =>
    rw [List.map_cons]
    cases hchosen : choose o with
    | none =>
      rw [List.filterMap_cons_none hchosen]
      exact ih.cons _
    | some a =>
      rw [List.filterMap_cons_some hchosen, List.map_cons, h hchosen]
      exact ih.cons_cons _

end Outcome

namespace BatchResult

/-- Every list follows the order of the names. -/
structure InOrderOf (names : List String) (r : BatchResult) : Prop where
  plans : (r.plans.map Plan.resource).Sublist names
  failures : (r.failures.map Failure.name).Sublist names
  skipped : r.skipped.Sublist names

/-- Another result begins with this one, list by list. -/
structure IsPrefixOf (r s : BatchResult) : Prop where
  plans : r.plans <+: s.plans
  failures : r.failures <+: s.failures
  skipped : r.skipped <+: s.skipped

/-- How many entries there are. -/
def size (r : BatchResult) : Nat := r.plans.length + r.failures.length + r.skipped.length

theorem ok_iff {r : BatchResult} : r.ok ↔ r.failures = [] := List.isEmpty_iff

theorem inOrderOf_ofOutcomes (outcomes : List Outcome) :
    (ofOutcomes outcomes).InOrderOf (outcomes.map Outcome.name) where
  plans := Outcome.map_filterMap_sublist Outcome.resource_of_plan? outcomes
  failures := Outcome.map_filterMap_sublist Outcome.name_of_failure? outcomes
  skipped := by
    rw [← (ofOutcomes outcomes).skipped.map_id]
    exact Outcome.map_filterMap_sublist Outcome.name_of_skipped? outcomes

theorem isPrefixOf_ofOutcomes_append (outcomes more : List Outcome) :
    (ofOutcomes outcomes).IsPrefixOf (ofOutcomes (outcomes ++ more)) := by
  simp only [ofOutcomes, List.filterMap_append]
  exact ⟨List.prefix_append .., List.prefix_append .., List.prefix_append ..⟩

/-- No outcome is lost, and none is counted twice. -/
theorem size_ofOutcomes (outcomes : List Outcome) :
    (ofOutcomes outcomes).size = outcomes.length := by
  induction outcomes with
  | nil => rfl
  | cons o rest ih =>
    rw [List.length_cons, ← ih]
    -- an outcome is in exactly one of the three lists
    cases o <;> simp only [size, ofOutcomes, List.filterMap_cons, Outcome.plan?, Outcome.failure?,
      Outcome.skipped?, List.length_cons] <;> omega

end BatchResult

/-! ### One step -/

namespace Batch

variable (mode : ResolverMode)

/-- What becomes of a descriptor, given whether its name is taken. -/
def outcomeIf (taken : Bool) (d : Descriptor) : Outcome :=
  if d.lifecycle.exclude then .skipped d.name
  else if taken then .failed ⟨d.name, .duplicateResource d.name⟩
  else outcome mode d

/-- The names that are taken after a descriptor. -/
def seenAfter (seen : List String) (d : Descriptor) : List String :=
  if d.lifecycle.exclude then seen
  else if seen.contains d.name then seen
  else d.name :: seen

variable {mode} {taken : Bool} {seen : List String} {d : Descriptor} {ds : List Descriptor}

theorem outcomesFrom_cons :
    outcomesFrom mode seen (d :: ds) =
      outcomeIf mode (seen.contains d.name) d :: outcomesFrom mode (seenAfter seen d) ds := by
  rw [outcomesFrom, outcomeIf, seenAfter]
  split_ifs <;> rfl

theorem mem_seenAfter_iff {name : String} :
    name ∈ seenAfter seen d ↔ name ∈ seen ∨ (d.lifecycle.exclude = false ∧ d.name = name) := by
  rw [seenAfter]
  split_ifs with hexclude hseen
  · simp [hexclude]
  · -- the name is remembered already
    have hmem : d.name ∈ seen := List.contains_iff_mem.1 hseen
    constructor
    · exact .inl
    · rintro (h | ⟨-, rfl⟩)
      · exact h
      · exact hmem
  · rw [Bool.not_eq_true] at hexclude
    simp [hexclude, or_comm, eq_comm]

theorem name_outcomeIf : (outcomeIf mode taken d).name = d.name := by
  rw [outcomeIf, outcome]
  split_ifs
  · rfl
  · rfl
  · cases h : Plan.resolve mode d with
    | ok p => exact Plan.resource_of_resolve h
    | error issues => rfl

/-- Only a descriptor with a name that is not taken yet has a plan. -/
theorem fresh_of_plan? {p : Plan} (h : p ∈ (outcomeIf mode taken d).plan?) :
    d.lifecycle.exclude = false ∧ taken = false := by
  rw [outcomeIf] at h
  split_ifs at h with hexclude htaken
  · cases h
  · cases h
  · exact ⟨Bool.eq_false_iff.2 hexclude, Bool.eq_false_iff.2 htaken⟩

/-! ### Whole batches -/

theorem outcomesFrom_append {es : List Descriptor} :
    outcomesFrom mode seen (ds ++ es) =
      outcomesFrom mode seen ds ++ outcomesFrom mode (ds.foldl seenAfter seen) es := by
  induction ds generalizing seen with
  | nil => rfl
  | cons d rest ih =>
    rw [List.cons_append, outcomesFrom_cons, outcomesFrom_cons, ih, List.foldl_cons,
      List.cons_append]

theorem map_name_outcomesFrom :
    (outcomesFrom mode seen ds).map Outcome.name = ds.map Descriptor.name := by
  induction ds generalizing seen with
  | nil => rfl
  | cons d rest ih =>
    rw [outcomesFrom_cons, List.map_cons, List.map_cons, ih, name_outcomeIf]

/-- The plans of a batch are of distinct resources, and of none whose name was taken before. -/
theorem nodup_plans_outcomesFrom :
    (((outcomesFrom mode seen ds).filterMap Outcome.plan?).map Plan.resource).Nodup ∧
      ∀ p ∈ (outcomesFrom mode seen ds).filterMap Outcome.plan?, p.resource ∉ seen := by
  induction ds generalizing seen with
  | nil => exact ⟨.nil, by simp [outcomesFrom]⟩
  | cons d rest ih =>
    obtain ⟨hnodup, hfresh⟩ := @ih (seenAfter seen d)
    have hrest : ∀ p ∈ (outcomesFrom mode (seenAfter seen d) rest).filterMap Outcome.plan?,
        p.resource ∉ seen := fun p hp hmem => hfresh p hp (mem_seenAfter_iff.2 (.inl hmem))
    rw [outcomesFrom_cons]
    cases hplan : (outcomeIf mode (seen.contains d.name) d).plan? with
    | none =>
      rw [List.filterMap_cons_none hplan]
      exact ⟨hnodup, hrest⟩
    | some p =>
      obtain ⟨hexclude, hfree⟩ := fresh_of_plan? hplan
      have hnew : d.name ∉ seen := by simpa using hfree
      have hname : p.resource = d.name := by
        rw [Outcome.resource_of_plan? hplan, name_outcomeIf]
      rw [List.filterMap_cons_some hplan, List.map_cons, List.nodup_cons, List.forall_mem_cons,
        hname]
      -- from here on the name is taken, so no later plan has it
      refine ⟨⟨fun hmem => ?_, hnodup⟩, hnew, hrest⟩
      obtain ⟨q, hq, hqname⟩ := List.mem_map.1 hmem
      exact hfresh q hq (mem_seenAfter_iff.2 (.inr ⟨hexclude, hqname.symm⟩))

/-- Excluded descriptors do not matter to what is not chosen from them. -/
theorem filterMap_outcomesFrom_filter {α : Type} {choose : Outcome → Option α}
    (hskipped : ∀ name, choose (.skipped name) = none) :
    (outcomesFrom mode seen (ds.filter fun d => !d.lifecycle.exclude)).filterMap choose =
      (outcomesFrom mode seen ds).filterMap choose := by
  induction ds generalizing seen with
  | nil => rfl
  | cons d rest ih =>
    rw [outcomesFrom_cons]
    cases hexclude : d.lifecycle.exclude with
    | true =>
      have hseen : seenAfter seen d = seen := by rw [seenAfter, if_pos hexclude]
      have hnone : choose (outcomeIf mode (seen.contains d.name) d) = none := by
        rw [outcomeIf, if_pos hexclude, hskipped]
      rw [List.filter_cons_of_neg (by simp [hexclude]), List.filterMap_cons_none hnone, hseen, ih]
    | false =>
      rw [List.filter_cons_of_pos (by simp [hexclude]), outcomesFrom_cons, List.filterMap_cons,
        List.filterMap_cons, ih]

/-! ### The lists of a result -/

/-- Every list follows the order of the descriptors. -/
theorem inOrderOf_resolve : (resolve mode ds).InOrderOf (ds.map Descriptor.name) := by
  rw [← map_name_outcomesFrom]
  exact BatchResult.inOrderOf_ofOutcomes _

/-- There is one entry for each descriptor. -/
theorem size_resolve : (resolve mode ds).size = ds.length := by
  rw [resolve, BatchResult.size_ofOutcomes, outcomes, ← List.length_map Outcome.name,
    map_name_outcomesFrom, List.length_map]

/-- More descriptors only add entries at the end. -/
theorem isPrefixOf_resolve_append (more : List Descriptor) :
    (resolve mode ds).IsPrefixOf (resolve mode (ds ++ more)) := by
  rw [resolve, resolve, outcomes, outcomes, outcomesFrom_append]
  exact BatchResult.isPrefixOf_ofOutcomes_append _ _

end Batch

end CrudPlan
