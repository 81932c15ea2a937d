import CrudPlan.Json.Basic

/-!
# Hooks

A hook is a function of the runtime that a descriptor names: a predicate on errors, a difference
of states, a transformation.

* `HookKind` is what a hook is for, `HookRef` one use of a hook;
* `HookKind.field` is the descriptor field in which hooks of a kind are named.
-/

namespace CrudPlan

/-- What a hook is for. -/
inductive HookKind where
  | retryPredicate
  | abortPredicate
  | customDiff
  | readErrorTransform
  | migrateState
  deriving DecidableEq, Repr, Inhabited

namespace HookKind

/-- Every kind. -/
def all : List HookKind :=
  [.retryPredicate, .abortPredicate, .customDiff, .readErrorTransform, .migrateState]

/-- The name of a kind. -/
def text : HookKind → String
  | .retryPredicate => "retry_predicate"
  | .abortPredicate => "abort_predicate"
  | .customDiff => "custom_diff"
  | .readErrorTransform => "read_error_transform"
  | .migrateState => "migrate_state"

/-- The kind of a name. -/
def ofText? (s : String) : Option HookKind := all.find? (·.text == s)

/-- The descriptor field in which hooks of a kind are named. -/
def field : HookKind → String
  | .retryPredicate => "error_retry_predicates"
  | .abortPredicate => "error_abort_predicates"
  | .customDiff => "custom_diff"
  | .readErrorTransform => "read_error_transform"
  | .migrateState => "migrate_state"

end HookKind

/-- A hook that a descriptor names. -/
structure HookRef where
  /-- The name of the hook. -/
  name : String
  /-- What the descriptor uses it for. -/
  kind : HookKind
  deriving DecidableEq, Repr, Inhabited

/-- The dump of a hook. -/
def HookRef.toJson (h : HookRef) : Json := .object [
  ("name", .text h.name), ("kind", .text h.kind.text)]

end CrudPlan
