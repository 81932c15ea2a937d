import CrudPlan.Issue

/-!
# Problems

`Problem` is why a request could not be met, and `Problem.message` its report in one text.
-/

namespace CrudPlan

/-- Why a resource has no plan, or another request could not be met. -/
inductive Problem where
  /-- A descriptor has issues; the resource may be unknown. -/
  | unresolved (resource : Option String) (issues : List Issue)
  /-- Another descriptor has the same name. -/
  | duplicateResource (name : String)
  /-- No hook of the name is registered. -/
  | unknownHook (name : String)
  /-- The product file is at fault. -/
  | configuration (message : String)
  /-- Anything else. -/
  | other (message : String)
  deriving DecidableEq, Repr

namespace Problem

/-- The heading of a list of issues. -/
def heading : Option String → String
  | none => "Resolution failed"
  | some "" => "Resolution failed"
  | some name => s!"Resolution of {name} failed"

/-- The report of a problem. -/
def message : Problem → String
  | .unresolved resource issues =>
    heading resource ++ ":\n" ++ "\n".intercalate (issues.map fun i => "  - " ++ i.text)
  | .duplicateResource name => s!"Duplicate resource name: {name}"
  | .unknownHook name => s!"Unknown hook: {name}"
  | .configuration message => message
  | .other message => message

end Problem

end CrudPlan
