/-!
# Issues

An issue is one reason why a descriptor cannot be resolved. Resolution goes on after an issue, so
that all of them are reported together.

* `Issue.text` is the line that reports an issue;
* `Resolved α` is a result or the issues that stand in its way, and `issuesOf` lists the latter.
-/

namespace CrudPlan

/-- The sorts of issues. -/
inductive IssueKind where
  | unresolvableUrl
  | unknownIdentityToken
  | invalidStateVersionRange
  | conflictingOverride
  | malformedTemplate
  | unknownHook
  deriving DecidableEq, Repr

namespace IssueKind

/-- Every sort. -/
def all : List IssueKind :=
  [.unresolvableUrl, .unknownIdentityToken, .invalidStateVersionRange, .conflictingOverride,
    .malformedTemplate, .unknownHook]

/-- The name of a sort. -/
def text : IssueKind → String
  | .unresolvableUrl => "unresolvable-url"
  | .unknownIdentityToken => "unknown-identity-token"
  | .invalidStateVersionRange => "invalid-state-version-range"
  | .conflictingOverride => "conflicting-override"
  | .malformedTemplate => "malformed-template"
  | .unknownHook => "unknown-hook"

end IssueKind

/-- One reason why a descriptor cannot be resolved. -/
structure Issue where
  /-- Its sort. -/
  kind : IssueKind
  /-- The part of resolution that found it. -/
  resolver : String
  /-- The field that it is about. -/
  field : String
  /-- What is wrong. -/
  message : String
  deriving DecidableEq, Repr

/-- The line that reports an issue. -/
def Issue.text (i : Issue) : String :=
  "[" ++ i.resolver ++ "] " ++ i.field ++ ": " ++ i.message ++ " (" ++ i.kind.text ++ ")"

/-- A result, or the issues that stand in its way. -/
abbrev Resolved (α : Type) := Except (List Issue) α

/-- The issues that stand in the way of a result. -/
def issuesOf {α : Type} : Resolved α → List Issue
  | .ok _ => []
  | .error issues => issues

end CrudPlan
