import CrudPlan.Log
import CrudPlan.Plan.Basic

/-!
# The log of a resolution

`Plan.trace` lists what is logged while a descriptor is resolved: an entry for each part that
succeeds, the warnings, and the plan if there is one. An overload ends the log, as states are the
last part.
-/

namespace CrudPlan.Plan

/-- The entries for a result. -/
def entriesOf {α : Type} (entry : α → List LogEntry) : Resolved α → List LogEntry
  | .ok a => entry a
  | .error _ => []

/-- The entry for the URLs of a resource. -/
def urlsEntry (name : String) (u : Urls) : LogEntry :=
  ⟨.debug, .urls, "Resolved URLs for " ++ name ++ ": self_link=" ++ u.selfLink⟩

/-- The entry for the identity of a resource. -/
def identityEntry (name : String) (i : Identity) : LogEntry :=
  ⟨.debug, .identity, "Compiled identity for " ++ name ++ ": fields=" ++ Text.quotedList i.fields ++
    ", " ++ toString i.importFormats.length ++ " import matcher(s)"⟩

/-- The entry for the lock of a resource, if it has one. -/
def lockEntries (name : String) (lock : Option Lock) : List LogEntry :=
  lock.toList.map fun l => ⟨.debug, .mutex, "Resolved mutex for " ++ name ++ ": " ++ l.template⟩

/-- The entry for a warning about states. -/
def warningEntry (name warning : String) : LogEntry :=
  ⟨.warning, .stateSchema, name ++ ": " ++ warning⟩

/-- The entry for a plan. -/
def planEntry (p : Plan) : LogEntry :=
  ⟨.debug, .assembler, "Resolved " ++ p.resource ++ ": active=" ++
    Text.quotedList p.activeOperations ++ ", " ++ toString p.state.upgradeVersions.length ++
    " upgrade step(s)"⟩

/-- What is logged while a descriptor is resolved. -/
def trace (mode : ResolverMode) (d : Descriptor) : List LogEntry :=
  entriesOf (fun u => [urlsEntry d.name u]) (Urls.resolve d) ++
    entriesOf (fun i => [identityEntry d.name i]) (Identity.resolve d) ++
    entriesOf (lockEntries d.name) (Lock.resolve d d.identityFields) ++
    match StateUpgrades.overload? d.stateRules with
    | some _ => []
    | none =>
      (StateUpgrades.warnings mode.strict d.stateRules).map (warningEntry d.name) ++
        entriesOf (fun p => [planEntry p]) (resolve mode d)

end CrudPlan.Plan
