import CrudPlan.Proofs.Plan.Acceptance

/-!
# Which descriptors a machine can resolve

An acceptable descriptor has a plan, but a machine has to get to it. It lists every upgrade step,
and it writes versions whenever there is something to say about them, so that versions may be too
large for it.

* `StateRules.Bearable` says of versions that they are not, and
  `StateUpgrades.overload?_eq_none_iff` that this is all there is to it;
* `Plan.exists_attempt_iff_acceptable`: an attempt ends with a plan, with issues or with an
  overload, and which of these it is can be told from the descriptor;
* `Plan.attempt_archive` is an acceptable descriptor without a plan.
-/

namespace CrudPlan

/-! ### States -/

/-- The versions are not too large for what has to be done with them. -/
structure StateRules.Bearable (s : StateRules) : Prop where
  /-- A base version beyond the current one can be written. -/
  excess : s.schemaVersion < s.baseVersion → s.baseVersion < Overload.numberLimit
  /-- A version that leaves no steps can be written. -/
  notice : s.upgraders = true → s.schemaVersion = s.baseVersion →
    s.schemaVersion < Overload.numberLimit
  /-- The steps can be listed. -/
  steps : s.upgraders = true → s.schemaVersion - s.baseVersion < Overload.memoryLimit

theorem StateUpgrades.overload?_eq_none_iff {s : StateRules} :
    overload? s = none ↔ s.Bearable := by
  have hroom : 0 < Overload.memoryLimit := by decide
  rw [overload?]
  split_ifs with hlt hupgraders heq
  · -- the base version is written into an issue
    rw [Overload.writing?_eq_none_iff]
    constructor
    · intro h
      exact { excess := fun _ => h, notice := fun _ he => absurd he hlt.ne, steps := by omega }
    · intro h
      exact h.excess hlt
  · -- the version is written into a notice
    rw [Overload.writing?_eq_none_iff]
    constructor
    · intro h
      exact { excess := fun he => absurd he hlt, notice := fun _ _ => h, steps := by omega }
    · intro h
      exact h.notice hupgraders heq
  · -- the steps are listed
    rw [Overload.listing?_eq_none_iff]
    constructor
    · intro h
      exact { excess := fun he => absurd he hlt, notice := fun _ he => absurd he heq,
              steps := fun _ => h }
    · intro h
      exact h.steps hupgraders
  · -- there is nothing to do
    refine iff_of_true rfl ?_
    exact { excess := fun he => absurd he hlt, notice := fun he => absurd he hupgraders,
            steps := fun he => absurd he hupgraders }

/-! ### Descriptors -/

namespace Plan

variable {mode : ResolverMode} {d : Descriptor}

theorem exists_resolve_error_iff :
    (∃ issues, resolve mode d = .error issues) ↔ ¬ d.Acceptable mode := by
  rw [← exists_resolve_iff_acceptable]
  cases resolve mode d <;> simp

/-- **An attempt ends in one of three ways.** A descriptor has a plan exactly if it is acceptable
and its versions are not too large. If they are not but it is refused, it is told of its issues; if
they are, there is neither a plan nor issues, whatever else there is to say of it. -/
theorem exists_attempt_iff_acceptable :
    ((∃ p, attempt mode d = .ok p) ↔ d.Acceptable mode ∧ d.stateRules.Bearable) ∧
    ((∃ issues, attempt mode d = .error (.unresolved d.name issues)) ↔
      ¬ d.Acceptable mode ∧ d.stateRules.Bearable) ∧
    ((∃ cause, attempt mode d = .error (.overloaded cause)) ↔ ¬ d.stateRules.Bearable) := by
  rw [← StateUpgrades.overload?_eq_none_iff, ← exists_resolve_error_iff,
    ← exists_resolve_iff_acceptable]
  simp only [attempt_eq_ok_iff, attempt_eq_unresolved_iff, attempt_eq_overloaded_iff, true_and,
    exists_and_left]
  exact ⟨and_comm, and_comm, Option.ne_none_iff_exists'.symm⟩

/-- A descriptor that has been through more versions than can be listed. -/
def archive : Descriptor where
  about := { name := "Archive" }
  endpoints := { baseUrl := "archives" }
  stateRules := { schemaVersion := Overload.itemLimit, upgraders := true }

/-- The descriptor after its first version. -/
def youngArchive : Descriptor :=
  { archive with stateRules := { schemaVersion := 1, upgraders := true } }

/-- **An acceptable descriptor need not have a plan.** Its upgrade steps are too many. -/
theorem attempt_archive :
    archive.Acceptable {} ∧ attempt {} archive = .error (.overloaded .tooManyItems) := by
  have hyoung : youngArchive.Acceptable {} :=
    exists_resolve_iff_acceptable.1 (exists_eq_ok_of_isSome (by decide +kernel))
  refine ⟨{ hyoung with versions := Nat.zero_le _, migration := fun _ => rfl, steps := nofun }, ?_⟩
  exact attempt_eq_overloaded_iff.2 (by decide)

end Plan

end CrudPlan
