import CrudPlan.Proofs.Batch.Distribution
import CrudPlan.Proofs.Plan.Issues

/-!
# Strict and lenient resolution

A lenient resolver warns of state upgrades without steps, a strict one refuses them. Everything else
is the same, so a strict resolver can be told from a lenient one by the warnings alone.

* `StateUpgrades.promoted` is the issue that a warning becomes;
* `Plan.issues_parts_strict`: a strict resolver has the issues of a lenient one, and in the midst of
  them those that warnings become. From this follow `Plan.resolve_strict_eq_ok_iff` for plans and
  `Plan.exists_resolve_strict_error` for refusals;
* `Outcome.Promoted` relates what becomes of one descriptor under both. Names are remembered alike,
  so it relates a whole batch entry by entry (`Batch.promoted_outcomesFrom`), and the lists of the
  result follow;
* `Batch.strict_promotes_warnings` puts these together.
-/

namespace CrudPlan

/-! ### States -/

namespace StateUpgrades

variable {s : StateRules}

/-- The issue that a warning becomes if the resolver is strict. -/
def promoted (warning : String) : Issue :=
  ⟨.invalidStateVersionRange, resolver, "schema_version", warning⟩

theorem issues_lenient : issues false s = rangeIssues s ++ migrationIssues s :=
  List.append_nil _

theorem issues_strict : issues true s = issues false s ++ (warnings false s).map promoted := by
  rw [issues_lenient]
  rfl

/-- There is at most one warning. -/
theorem length_warnings_le {strict : Bool} : (warnings strict s).length ≤ 1 := by
  cases strict with
  | true => exact Nat.zero_le _
  | false => exact Option.length_toList_le

end StateUpgrades

/-! ### One descriptor -/

namespace Plan

variable {hooks : Option HookRegistry} {d : Descriptor} {p : Plan} {found : List Issue}

theorem warnings_of_resolve {mode : ResolverMode} (h : resolve mode d = .ok p) :
    p.warnings = StateUpgrades.warnings mode.strict d.stateRules := by
  obtain ⟨_, _, _, _, -, -, -, -, -, rfl⟩ := resolve_eq_ok_iff.1 h
  rfl

/-- A strict resolver has the issues of a lenient one, and in their midst those that warnings
become. -/
theorem issues_parts_strict (hooks : Option HookRegistry) (d : Descriptor) : ∃ before after,
    (parts ⟨false, hooks⟩ d).issues = before ++ after ∧
    (parts ⟨true, hooks⟩ d).issues = before ++
      (StateUpgrades.warnings false d.stateRules).map StateUpgrades.promoted ++ after := by
  refine ⟨issuesOf (Urls.resolve d) ++ issuesOf (Identity.resolve d) ++
    issuesOf (Lock.resolve d d.identityFields) ++ StateUpgrades.issues false d.stateRules,
    LifecyclePolicy.issues hooks d, ?_, ?_⟩
  · simp only [Parts.issues, parts, StateUpgrades.issuesOf_resolve]
  · simp only [Parts.issues, parts, StateUpgrades.issuesOf_resolve, StateUpgrades.issues_strict,
      List.append_assoc]

/-- **A strict resolver gives the plans without warnings.** -/
theorem resolve_strict_eq_ok_iff :
    resolve ⟨true, hooks⟩ d = .ok p ↔ resolve ⟨false, hooks⟩ d = .ok p ∧ p.warnings = [] := by
  have hstate : ∀ state, StateUpgrades.resolve true d = .ok state ↔
      StateUpgrades.resolve false d = .ok state ∧
        StateUpgrades.warnings false d.stateRules = [] := by
    intro state
    rw [StateUpgrades.resolve_eq_ok_iff, StateUpgrades.resolve_eq_ok_iff,
      StateUpgrades.issues_strict, List.append_eq_nil_iff, List.map_eq_nil_iff, and_right_comm]
  constructor
  · intro h
    obtain ⟨urls, identity, mutex, state, hurls, hidentity, hmutex, hresolve, hpolicy, rfl⟩ :=
      resolve_eq_ok_iff.1 h
    obtain ⟨hlenient, hnone⟩ := (hstate state).1 hresolve
    have hassemble : assemble ⟨true, hooks⟩ d urls identity mutex state =
        assemble ⟨false, hooks⟩ d urls identity mutex state := by
      rw [assemble, assemble, hnone]
      rfl
    exact ⟨resolve_eq_ok_iff.2
      ⟨urls, identity, mutex, state, hurls, hidentity, hmutex, hlenient, hpolicy, hassemble⟩, rfl⟩
  · rintro ⟨h, hnone⟩
    rw [warnings_of_resolve h] at hnone
    obtain ⟨urls, identity, mutex, state, hurls, hidentity, hmutex, hresolve, hpolicy, rfl⟩ :=
      resolve_eq_ok_iff.1 h
    refine resolve_eq_ok_iff.2 ⟨urls, identity, mutex, state, hurls, hidentity, hmutex,
      (hstate state).2 ⟨hresolve, hnone⟩, hpolicy, ?_⟩
    rw [assemble, assemble, hnone]
    rfl

/-- A descriptor that a lenient resolver refuses is refused by a strict one, with at most one more
issue. -/
theorem exists_resolve_strict_error (h : resolve ⟨false, hooks⟩ d = .error found) :
    ∃ before extra after, found = before ++ after ∧
      resolve ⟨true, hooks⟩ d = .error (before ++ extra ++ after) ∧ extra.length ≤ 1 ∧
      ∀ i ∈ extra, i.kind = .invalidStateVersionRange ∧ i.field = "schema_version" := by
  obtain ⟨hne, rfl⟩ := resolve_eq_error_iff.1 h
  obtain ⟨before, after, hlenient, hstrict⟩ := issues_parts_strict hooks d
  refine ⟨before, _, after, hlenient, resolve_eq_error_iff.2 ⟨?_, hstrict.symm⟩, ?_, ?_⟩
  · rw [hlenient] at hne
    simp only [ne_eq, List.append_eq_nil_iff] at hne ⊢
    tauto
  · rw [List.length_map]
    exact StateUpgrades.length_warnings_le
  · rintro i hi
    obtain ⟨warning, -, rfl⟩ := List.mem_map.1 hi
    exact ⟨rfl, rfl⟩

/-- A strict resolver refuses a descriptor for the warnings of its plan. -/
theorem resolve_strict_of_warnings (h : resolve ⟨false, hooks⟩ d = .ok p) (hne : p.warnings ≠ []) :
    resolve ⟨true, hooks⟩ d = .error (p.warnings.map StateUpgrades.promoted) := by
  obtain ⟨before, after, hlenient, hstrict⟩ := issues_parts_strict hooks d
  rw [(madeOfParts_of_resolve h).issues_parts, eq_comm, List.append_eq_nil_iff] at hlenient
  obtain ⟨rfl, rfl⟩ := hlenient
  rw [warnings_of_resolve h] at hne ⊢
  refine resolve_eq_error_iff.2 ⟨by simpa using hne, ?_⟩
  rw [hstrict, List.nil_append, List.append_nil]

end Plan

/-! ### Batches -/

/-- Whether the resource has no plan because another one has its name. -/
def Failure.isDuplicate (f : Failure) : Bool :=
  match f.problem with
  | .duplicateResource _ => true
  | _ => false

/-- What becomes of a descriptor under a lenient resolver, and under a strict one. -/
inductive Outcome.Promoted : Outcome → Outcome → Prop
  | skipped (name : String) : Promoted (.skipped name) (.skipped name)
  | duplicate (name : String) :
    Promoted (.failed ⟨name, .duplicateResource name⟩) (.failed ⟨name, .duplicateResource name⟩)
  | resolved (plan : Plan) (h : plan.warnings = []) : Promoted (.resolved plan) (.resolved plan)
  | warned (plan : Plan) (issues : List Issue) (h : plan.warnings ≠ []) :
    Promoted (.resolved plan)
      (.failed ⟨plan.resource, .unresolved (some plan.resource) issues⟩)
  | refused (name : String) (lenient strict : List Issue) :
    Promoted (.failed ⟨name, .unresolved (some name) lenient⟩)
      (.failed ⟨name, .unresolved (some name) strict⟩)

namespace BatchResult

variable {lenient strict : List Outcome}

/-- What follows for the lists of a result. -/
structure PromotedTo (lenient strict : BatchResult) : Prop where
  skipped : strict.skipped = lenient.skipped
  plans : strict.plans = lenient.plans.filter fun p => p.warnings = []
  duplicates : strict.failures.filter Failure.isDuplicate =
    lenient.failures.filter Failure.isDuplicate

theorem promotedTo_ofOutcomes (h : List.Forall₂ Outcome.Promoted lenient strict) :
    (ofOutcomes lenient).PromotedTo (ofOutcomes strict) := by
  induction h with
  | nil => exact ⟨rfl, rfl, rfl⟩
  | cons h _ ih =>
    obtain ⟨hskipped, hplans, hduplicates⟩ := ih
    simp only [ofOutcomes] at hskipped hplans hduplicates
    -- each case adds to the same list on both sides, but for a plan with warnings
    cases h with
    | skipped name => exact ⟨congrArg (name :: ·) hskipped, hplans, hduplicates⟩
    | duplicate name => exact ⟨hskipped, hplans, congrArg (List.cons _) hduplicates⟩
    | resolved plan hnone =>
      refine ⟨hskipped, ?_, hduplicates⟩
      simp only [ofOutcomes, List.filterMap_cons, Outcome.plan?]
      rw [List.filter_cons_of_pos (by simpa using hnone), hplans]
    | warned plan issues hsome =>
      refine ⟨hskipped, ?_, hduplicates⟩
      simp only [ofOutcomes, List.filterMap_cons, Outcome.plan?]
      rw [List.filter_cons_of_neg (by simpa using hsome), hplans]
    | refused name lenient strict => exact ⟨hskipped, hplans, hduplicates⟩

end BatchResult

namespace Batch

variable {hooks : Option HookRegistry} {taken : Bool} {seen : List String} {d : Descriptor}
  {ds : List Descriptor}

theorem promoted_outcome : (outcome ⟨false, hooks⟩ d).Promoted (outcome ⟨true, hooks⟩ d) := by
  rw [outcome, outcome]
  cases hlenient : Plan.resolve ⟨false, hooks⟩ d with
  | error found =>
    obtain ⟨before, extra, after, -, hstrict, -⟩ := Plan.exists_resolve_strict_error hlenient
    rw [hstrict]
    exact .refused ..
  | ok p =>
    by_cases hnone : p.warnings = []
    · rw [Plan.resolve_strict_eq_ok_iff.2 ⟨hlenient, hnone⟩]
      exact .resolved p hnone
    · rw [Plan.resolve_strict_of_warnings hlenient hnone, ← Plan.resource_of_resolve hlenient]
      exact .warned p _ hnone

theorem promoted_outcomeIf :
    (outcomeIf ⟨false, hooks⟩ taken d).Promoted (outcomeIf ⟨true, hooks⟩ taken d) := by
  rw [outcomeIf, outcomeIf]
  split_ifs
  · exact .skipped _
  · exact .duplicate _
  · exact promoted_outcome

/-- The names that are taken do not depend on what becomes of the descriptors. -/
theorem promoted_outcomesFrom :
    List.Forall₂ Outcome.Promoted (outcomesFrom ⟨false, hooks⟩ seen ds)
      (outcomesFrom ⟨true, hooks⟩ seen ds) := by
  induction ds generalizing seen with
  | nil => exact .nil
  | cons d rest ih =>
    rw [outcomesFrom_cons, outcomesFrom_cons]
    exact .cons promoted_outcomeIf ih

/-- **A strict resolver is a lenient one whose warnings are issues.** It gives exactly the plans
without warnings, and refuses the others for their warnings. What a lenient resolver refuses it
refuses too, for the same issues and at most one more, about the schema version. A strict batch
skips what a lenient one skips, has those of its plans that are without warnings, and the same
failures for names that are taken. -/
theorem strict_promotes_warnings (hooks : Option HookRegistry) :
    (∀ d p, Plan.resolve ⟨true, hooks⟩ d = .ok p ↔
      Plan.resolve ⟨false, hooks⟩ d = .ok p ∧ p.warnings = []) ∧
    (∀ d p, Plan.resolve ⟨false, hooks⟩ d = .ok p → p.warnings ≠ [] →
      Plan.resolve ⟨true, hooks⟩ d = .error (p.warnings.map StateUpgrades.promoted)) ∧
    (∀ d found, Plan.resolve ⟨false, hooks⟩ d = .error found →
      ∃ before extra after, found = before ++ after ∧
        Plan.resolve ⟨true, hooks⟩ d = .error (before ++ extra ++ after) ∧ extra.length ≤ 1 ∧
        ∀ i ∈ extra, i.kind = .invalidStateVersionRange ∧ i.field = "schema_version") ∧
    ∀ ds, (resolve ⟨false, hooks⟩ ds).PromotedTo (resolve ⟨true, hooks⟩ ds) :=
  ⟨fun _ _ => Plan.resolve_strict_eq_ok_iff, fun _ _ => Plan.resolve_strict_of_warnings,
    fun _ _ => Plan.exists_resolve_strict_error,
    fun _ => BatchResult.promotedTo_ofOutcomes promoted_outcomesFrom⟩

end Batch

end CrudPlan
