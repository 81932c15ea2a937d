import CrudPlan.Proofs.Plan.Acceptance
import Mathlib.Data.List.Sort

/-!
# The steps of state upgrades

A stored state is brought to the current schema one version at a time, whatever version it was
written with. For that the steps must form a chain: none is missing, none comes twice, and they come
in order.

* `StateUpgrades.stepsAbove` are the steps that a stored state still has to take;
* `StateUpgrades.filter_versionsAbove`: what is left of the steps above a version is what there
  would be if upgrades started from it;
* `StateUpgrades.warnings_eq_nil_iff` says when there is something to warn of;
* `StateUpgrades.gapFree_of_resolve` puts these together for every resolution with a result.
-/

namespace CrudPlan.StateUpgrades

variable {strict : Bool} {base version stored : Nat} {d : Descriptor} {rules : StateRules}
  {s : StateUpgrades}

/-! ### Steps -/

/-- The versions that a stored state goes through, in order. -/
def stepsAbove (s : StateUpgrades) (stored : Nat) : List Nat :=
  s.upgradeVersions.filter (stored < ·)

theorem pairwise_versionsAbove : (versionsAbove base version).Pairwise (· < ·) :=
  List.pairwise_lt_range'

/-- A state in the middle of the way takes the same steps as one that starts there. -/
theorem filter_versionsAbove (h : base ≤ stored) :
    (versionsAbove base version).filter (stored < ·) = versionsAbove stored version := by
  -- both lists are in order, so they are told apart by their members
  refine (pairwise_versionsAbove.filter _).eq_of_mem_iff pairwise_versionsAbove fun v => ?_
  rw [List.mem_filter, mem_versionsAbove, mem_versionsAbove, decide_eq_true_iff]
  omega

theorem upgradeVersions_ofRules_of_enabled (h : rules.upgraders = true) :
    (ofRules rules).upgradeVersions = versionsAbove rules.baseVersion rules.schemaVersion :=
  if_pos h

theorem upgradeVersions_ofRules_of_disabled (h : rules.upgraders = false) :
    (ofRules rules).upgradeVersions = [] :=
  if_neg (Bool.eq_false_iff.1 h)

/-! ### Warnings -/

theorem emptyRangeNotice?_eq_none_iff :
    emptyRangeNotice? rules = none ↔
      ¬ (rules.upgraders = true ∧ rules.schemaVersion = rules.baseVersion) := by
  rw [emptyRangeNotice?, ite_eq_right_iff]
  simp only [reduceCtorEq, imp_false]

/-- A lenient resolver warns of upgrades without steps, a strict one of nothing. -/
theorem warnings_eq_nil_iff :
    warnings strict rules = [] ↔
      (strict = false → rules.upgraders = true → rules.schemaVersion ≠ rules.baseVersion) := by
  cases strict with
  | true => simp [warnings]
  | false => simp [warnings, emptyRangeNotice?_eq_none_iff]

/-! ### Chains -/

/-- The steps are a chain from the base version to the current one. -/
structure GapFree (rules : StateRules) (s : StateUpgrades) : Prop where
  /-- There are no steps unless there may be some. -/
  disabled : rules.upgraders = false → s.upgradeVersions = []
  /-- The steps come in order, and none comes twice. -/
  increasing : s.upgradeVersions.Pairwise (· < ·)
  /-- They lead to every version above the base, up to the current one. -/
  mem_iff : rules.upgraders = true →
    ∀ v, v ∈ s.upgradeVersions ↔ rules.baseVersion < v ∧ v ≤ rules.schemaVersion
  /-- A stored state goes through every version after its own. -/
  stepsAbove : rules.upgraders = true → ∀ stored, rules.baseVersion ≤ stored →
    stored < rules.schemaVersion →
      s.stepsAbove stored = List.range' (stored + 1) (rules.schemaVersion - stored)

theorem gapFree_ofRules : (ofRules rules).GapFree rules where
  disabled := upgradeVersions_ofRules_of_disabled
  increasing := by
    cases h : rules.upgraders with
    | true =>
      rw [upgradeVersions_ofRules_of_enabled h]
      exact pairwise_versionsAbove
    | false =>
      rw [upgradeVersions_ofRules_of_disabled h]
      exact .nil
  mem_iff h v := by rw [upgradeVersions_ofRules_of_enabled h, mem_versionsAbove]
  stepsAbove h stored hbase _ := by
    rw [stepsAbove, upgradeVersions_ofRules_of_enabled h, filter_versionsAbove hbase, versionsAbove]

/-- **Upgrade steps form a chain without gaps**, if state upgrades are resolved at all. A warning
means that steps are asked for where there are none, and a strict resolver with a result has no
warning. -/
theorem gapFree_of_resolve (h : resolve strict d = .ok s) :
    s.GapFree d.stateRules ∧
    (warnings strict d.stateRules ≠ [] ↔
      d.stateRules.upgraders = true ∧ d.stateRules.schemaVersion = d.stateRules.baseVersion) ∧
    (strict = true → warnings strict d.stateRules = []) := by
  obtain ⟨hissues, rfl⟩ := resolve_eq_ok_iff.1 h
  obtain ⟨-, -, hsteps⟩ := issues_eq_nil_iff.1 hissues
  refine ⟨gapFree_ofRules, ?_, ?_⟩
  · rw [Ne, warnings_eq_nil_iff]
    cases strict with
    | true =>
      -- what a lenient resolver would warn of is an issue here
      simp only [forall_const] at hsteps
      simp only [Bool.true_eq_false, false_imp_iff, not_true_eq_false, false_iff, not_and]
      exact hsteps
    | false => simp
  · rintro rfl
    exact warnings_eq_nil_iff.2 nofun

/-- A resource whose stored states are upgraded in three steps. -/
def upgradedInstances : Descriptor where
  about := { name := "Instance" }
  endpoints := { baseUrl := "instances" }
  stateRules := { schemaVersion := 5, baseVersion := 2, upgraders := true }

/-- A state of the third version takes the last two of them. -/
theorem gapFree_of_resolve_instances :
    resolve true upgradedInstances = .ok ⟨5, 2, true, [3, 4, 5], none⟩ ∧
    (⟨5, 2, true, [3, 4, 5], none⟩ : StateUpgrades).GapFree upgradedInstances.stateRules ∧
    (⟨5, 2, true, [3, 4, 5], none⟩ : StateUpgrades).stepsAbove 3 = [4, 5] ∧
    warnings true upgradedInstances.stateRules = [] := by
  have h : resolve true upgradedInstances = .ok ⟨5, 2, true, [3, 4, 5], none⟩ := by decide +kernel
  obtain ⟨hchain, -, hwarnings⟩ := gapFree_of_resolve h
  exact ⟨h, hchain, hchain.stepsAbove rfl 3 (by decide) (by decide), hwarnings rfl⟩

end CrudPlan.StateUpgrades
