import CrudPlan.Descriptor.Document
import CrudPlan.Template.Tokens

/-!
# Locks

Operations that must not run at the same time hold a lock, whose name is a template over the
identity of the resource.

* `Lock` is the lock of a resource;
* `Lock.resolve` checks the template that a descriptor gives and keeps it as it is.
-/

namespace CrudPlan

/-- The lock that operations on a resource hold. -/
structure Lock where
  /-- The template of its name. -/
  template : String
  /-- The fields that the template needs. -/
  tokens : List String
  deriving DecidableEq, Repr, Inhabited

namespace Lock

/-- The dump of a lock. -/
def toJson (l : Lock) : Json := .object [
  ("template", .text l.template), ("tokens", .texts l.tokens)]

/-- The name under which issues with locks are reported. -/
def resolver : String := "mutex"

/-- The lock of a resource with the given identity, or every issue with it. -/
def resolve (d : Descriptor) (identityFields : List String) : Resolved (Option Lock) :=
  match d.mutex with
  | none => .ok none
  | some source =>
    (Template.checked resolver "mutex" identityFields id (Template.compile source)).map fun t =>
      some ⟨t.source, t.tokens⟩

end Lock

end CrudPlan
