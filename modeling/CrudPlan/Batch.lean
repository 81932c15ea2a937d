import CrudPlan.Plan.Trace
import CrudPlan.Problem

/-!
# Batches

A batch resolves many descriptors, each by itself: one that fails does not keep the others from
being resolved. Excluded descriptors are skipped, and of descriptors with one name only the first
counts.

* `Batch.outcomes` classifies the descriptors in order, and `BatchResult.ofOutcomes` sorts the
  outcomes into plans, failures and skipped names;
* `Batch.attempt` resolves a batch as far as the machine goes. A failure is the matter of one
  resource, but with an overload the whole batch is lost;
* `Batch.trace` is the log of a batch.
-/

namespace CrudPlan

/-- A resource without a plan. -/
structure Failure where
  /-- The name of the resource. -/
  name : String
  /-- Why it has no plan. -/
  problem : Problem
  deriving DecidableEq, Repr

/-- What becomes of one descriptor of a batch. -/
inductive Outcome where
  | resolved (plan : Plan)
  | failed (failure : Failure)
  | skipped (name : String)
  deriving DecidableEq, Repr

namespace Outcome

/-- The plan, if there is one. -/
def plan? : Outcome → Option Plan
  | .resolved plan => some plan
  | _ => none

/-- The failure, if there is one. -/
def failure? : Outcome → Option Failure
  | .failed failure => some failure
  | _ => none

/-- The name, if it was skipped. -/
def skipped? : Outcome → Option String
  | .skipped name => some name
  | _ => none

end Outcome

/-- What becomes of a batch. -/
structure BatchResult where
  /-- The plans, in order. -/
  plans : List Plan := []
  /-- The failures, in order. -/
  failures : List Failure := []
  /-- The names of skipped resources, in order. -/
  skipped : List String := []
  deriving DecidableEq, Repr

namespace BatchResult

/-- The outcomes, sorted. -/
def ofOutcomes (outcomes : List Outcome) : BatchResult where
  plans := outcomes.filterMap Outcome.plan?
  failures := outcomes.filterMap Outcome.failure?
  skipped := outcomes.filterMap Outcome.skipped?

variable (r : BatchResult)

/-- Whether nothing failed. -/
def ok : Bool := r.failures.isEmpty

end BatchResult

/-- How many resources a batch resolved, failed to resolve and skipped. -/
structure BatchSummary where
  /-- How many have a plan. -/
  resolved : Nat
  /-- How many have none. -/
  failed : Nat
  /-- How many were skipped. -/
  skipped : Nat
  deriving DecidableEq, Repr

/-- The numbers of a batch. -/
def BatchResult.summary (r : BatchResult) : BatchSummary :=
  ⟨r.plans.length, r.failures.length, r.skipped.length⟩

namespace Batch

variable (mode : ResolverMode)

/-- What becomes of a descriptor whose name is new. -/
def outcome (d : Descriptor) : Outcome :=
  match Plan.resolve mode d with
  | .ok plan => .resolved plan
  | .error issues => .failed ⟨d.name, .unresolved (some d.name) issues⟩

/-- What becomes of each descriptor, if the names in `seen` are taken. -/
def outcomesFrom (seen : List String) : List Descriptor → List Outcome
  | [] => []
  | d :: rest =>
    if d.lifecycle.exclude then .skipped d.name :: outcomesFrom seen rest
    else if seen.contains d.name then
      .failed ⟨d.name, .duplicateResource d.name⟩ :: outcomesFrom seen rest
    else outcome mode d :: outcomesFrom (d.name :: seen) rest

/-- What becomes of each descriptor of a batch. -/
def outcomes (ds : List Descriptor) : List Outcome := outcomesFrom mode [] ds

/-- Resolves a batch, whatever it takes. -/
def resolve (ds : List Descriptor) : BatchResult := .ofOutcomes (outcomes mode ds)

/-! ### Limits -/

/-- The descriptors that have to be resolved, if the names in `seen` are taken. -/
def freshFrom (seen : List String) : List Descriptor → List Descriptor
  | [] => []
  | d :: rest =>
    if d.lifecycle.exclude || seen.contains d.name then freshFrom seen rest
    else d :: freshFrom (d.name :: seen) rest

/-- The first thing that the machine cannot do for descriptors, if the names in `seen` are taken. -/
def overloadFrom? (seen : List String) (ds : List Descriptor) : Option Overload :=
  (freshFrom seen ds).findSome? fun d => StateUpgrades.overload? d.stateRules

/-- The first thing that the machine cannot do for a batch. -/
def overload? (ds : List Descriptor) : Option Overload := overloadFrom? [] ds

/-- Resolves a batch. There is no result at all if the machine cannot resolve one of the
descriptors. -/
def attempt (ds : List Descriptor) : Except Overload BatchResult :=
  match overload? ds with
  | some cause => .error cause
  | none => .ok (resolve mode ds)

/-! ### Log -/

/-- The entry for a descriptor with issues. -/
def failureEntry (name : String) (issues : List Issue) : LogEntry :=
  ⟨.debug, .assembler,
    "Resolution of " ++ name ++ " failed with " ++ toString issues.length ++ " issue(s)"⟩

/-- What is logged for each descriptor, if the names in `seen` are taken. An overload ends it. -/
def entriesFrom (seen : List String) : List Descriptor → List LogEntry
  | [] => []
  | d :: rest =>
    if d.lifecycle.exclude then
      ⟨.debug, .assembler, "Skipping excluded resource " ++ d.name⟩ :: entriesFrom seen rest
    else if seen.contains d.name then entriesFrom seen rest
    else Plan.trace mode d ++
      match Plan.attempt mode d with
      | .ok _ => entriesFrom (d.name :: seen) rest
      | .error (.unresolved name issues) =>
        failureEntry name issues :: entriesFrom (d.name :: seen) rest
      | .error (.overloaded _) => []

/-- The last entry of a batch. -/
def summaryEntry (s : BatchSummary) : LogEntry :=
  let resolved := s.resolved
  let failed := s.failed
  let skipped := s.skipped
  ⟨.info, .assembler, s!"Resolved {resolved} resource(s): {failed} failed, {skipped} skipped"⟩

/-- What is logged while a batch is resolved. -/
def trace (ds : List Descriptor) : List LogEntry :=
  entriesFrom mode [] ds ++
    match attempt mode ds with
    | .ok r => [summaryEntry r.summary]
    | .error _ => []

end Batch

end CrudPlan
