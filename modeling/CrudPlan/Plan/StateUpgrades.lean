import CrudPlan.Descriptor.Document
import CrudPlan.Issue
import CrudPlan.Overload

/-!
# State upgrades

A stored state has the version of the schema it was written with. Upgrade steps bring it from the
base version to the current one, one version at a time.

* `StateUpgrades` lists the steps of a resource;
* `StateUpgrades.resolve` derives them. Steps that are asked for where there are none are an issue
  if the resolver is strict and a warning if it is not (`StateUpgrades.warnings`);
* `StateUpgrades.overload?` is what the machine cannot do of that. It has to list the steps, and to
  write the versions in issues and warnings.
-/

namespace CrudPlan

/-- How stored states of a resource are brought to the current schema. -/
structure StateUpgrades where
  /-- The current version. -/
  schemaVersion : Nat
  /-- The version that upgrades start from. -/
  baseVersion : Nat
  /-- Whether there are upgrade steps at all. -/
  enabled : Bool
  /-- The versions that the steps lead to, in order. -/
  upgradeVersions : List Nat := []
  /-- The hook that migrates states instead. -/
  migrateState : Option HookRef := none
  deriving DecidableEq, Repr, Inhabited

namespace StateUpgrades

/-- The dump of state upgrades. -/
def toJson (s : StateUpgrades) : Json := .object [
  ("schema_version", .nat s.schemaVersion),
  ("base_version", .nat s.baseVersion),
  ("enabled", .bool s.enabled),
  ("upgrade_versions", .listOf .nat s.upgradeVersions),
  ("migrate_state", .optJson HookRef.toJson s.migrateState)]

/-! ### Resolution -/

/-- The name under which issues with state versions are reported. -/
def resolver : String := "state_schema"

/-- The versions above `base`, up to `version`. -/
def versionsAbove (base version : Nat) : List Nat := List.range' (base + 1) (version - base)

theorem mem_versionsAbove {base version v : Nat} :
    v ∈ versionsAbove base version ↔ base < v ∧ v ≤ version := by
  simp only [versionsAbove, List.mem_range'_1]
  omega

/-- What is said of upgrades that are enabled but have no steps. -/
def emptyRangeNotice? (s : StateRules) : Option String :=
  let version := s.schemaVersion
  let base := s.baseVersion
  if s.upgraders ∧ version = base then
    some (s!"state_upgraders is enabled but schema_version {version} leaves " ++
      s!"no upgrade steps above base version {base}")
  else none

/-- The warnings about the states of a descriptor. -/
def warnings (strict : Bool) (s : StateRules) : List String :=
  if strict then [] else (emptyRangeNotice? s).toList

/-- The issue with a base version beyond the current one. -/
def rangeIssues (s : StateRules) : List Issue :=
  let version := s.schemaVersion
  let base := s.baseVersion
  if version < base then
    [⟨.invalidStateVersionRange, resolver, "state_upgrade_base_schema_version",
      s!"base version {base} exceeds schema_version {version}"⟩]
  else []

/-- The issue with upgrade steps beside a migration hook. -/
def migrationIssues (s : StateRules) : List Issue :=
  if s.upgraders ∧ s.migrateState.isSome then
    [⟨.conflictingOverride, resolver, "migrate_state",
      "migrate_state cannot be combined with state_upgraders"⟩]
  else []

/-- The issue with upgrades without steps, for a strict resolver. -/
def emptyRangeIssues (strict : Bool) (s : StateRules) : List Issue :=
  if strict then
    (emptyRangeNotice? s).toList.map fun notice =>
      ⟨.invalidStateVersionRange, resolver, "schema_version", notice⟩
  else []

/-- The issues with the states of a descriptor. -/
def issues (strict : Bool) (s : StateRules) : List Issue :=
  rangeIssues s ++ migrationIssues s ++ emptyRangeIssues strict s

/-- The state upgrades that rules without issues ask for. -/
def ofRules (s : StateRules) : StateUpgrades where
  schemaVersion := s.schemaVersion
  baseVersion := s.baseVersion
  enabled := s.upgraders
  upgradeVersions := if s.upgraders then versionsAbove s.baseVersion s.schemaVersion else []
  migrateState := s.migrateState.map fun name => ⟨name, .migrateState⟩

/-- The state upgrades of a resource, or every issue with them. -/
def resolve (strict : Bool) (d : Descriptor) : Resolved StateUpgrades :=
  match issues strict d.stateRules with
  | [] => .ok (ofRules d.stateRules)
  | found => .error found

/-! ### Limits -/

/-- What the machine cannot do for the states of a descriptor. Whether the resolver is strict does
not matter, for a notice is written before it becomes an issue or a warning. -/
def overload? (s : StateRules) : Option Overload :=
  let version := s.schemaVersion
  let base := s.baseVersion
  if version < base then Overload.writing? base
  else if s.upgraders then
    if version = base then Overload.writing? version else Overload.listing? (version - base)
  else none

end StateUpgrades

end CrudPlan
