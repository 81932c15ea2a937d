import CrudPlan.Descriptor.Basic
import CrudPlan.Descriptor.Flags

/-!
# Markings

Some fields of a record mean more to the resolver than their value: a field may be a flag of the
lifecycle policy, name hooks, or be derived when it is left open. A `Marking` lists the marked
fields of a record in the order of declaration.

* `Marking.flags`, `Marking.hooks` and `Marking.derived` collect the marks of each sort;
* `Descriptor.marking` is the marking of a descriptor.
-/

namespace CrudPlan

/-- The part of resolution that fills in a field. -/
inductive Source where
  | urls
  | identity
  | state
  deriving DecidableEq, Repr

/-- The name of a source. -/
def Source.text : Source → String
  | .urls => "urls"
  | .identity => "identity"
  | .state => "state"

/-- What a field means to the resolver. -/
inductive Mark where
  /-- A flag of the lifecycle policy, under the given key. -/
  | flag (key : String) (value : Bool)
  /-- The names of hooks. -/
  | hook (kind : HookKind) (names : List String)
  /-- A field that is filled in when it is left open. -/
  | derived (source : Source)
  deriving DecidableEq, Repr

/-- The marked fields of a record, in the order of declaration. -/
abbrev Marking := List (String × Mark)

namespace Marking

/-- The flags. -/
def flags (marking : Marking) : Flags :=
  .ofList <| marking.filterMap fun
    | (_, .flag key value) => some (key, value)
    | _ => none

/-- The hooks that are named, in the order of declaration. -/
def hooks (marking : Marking) : List HookRef :=
  marking.flatMap fun
    | (_, .hook kind names) => names.map fun name => ⟨name, kind⟩
    | _ => []

/-- The fields that are filled in, with what fills them in. -/
def derived (marking : Marking) : List (String × Source) :=
  marking.filterMap fun
    | (field, .derived source) => some (field, source)
    | _ => none

end Marking

namespace Descriptor

variable (d : Descriptor)

/-- A flag that is merged under the name of its field. -/
def flagMark (field : String) (value : Bool) : String × Mark := (field, .flag field value)

/-- The hooks that a field names. -/
def hookMark (kind : HookKind) (names : List String) : String × Mark :=
  (kind.field, .hook kind names)

/-- The marked fields of a descriptor. -/
def marking : Marking := [
  ("self_link", .derived .urls),
  ("create_url", .derived .urls),
  ("update_url", .derived .urls),
  ("delete_url", .derived .urls),
  ("collection_url_key", .derived .urls),
  flagMark "has_self_link" d.endpoints.hasSelfLink,
  ("identity", .derived .identity),
  ("id_format", .derived .identity),
  ("import_format", .derived .identity),
  ("state_upgrade_base_schema_version", .derived .state),
  hookMark .migrateState d.stateRules.migrateState.toList,
  flagMark "exclude_resource" d.lifecycle.excludeResource,
  flagMark "exclude_import" d.lifecycle.excludeImport,
  flagMark "exclude_tgc" d.lifecycle.excludeTgc,
  flagMark "immutable" d.lifecycle.immutable,
  flagMark "readonly" d.lifecycle.readonly,
  flagMark "update_mask" d.lifecycle.updateMask,
  flagMark "autogen_async" d.lifecycle.autogenAsync,
  flagMark "skip_read" d.lifecycle.skipRead,
  flagMark "skip_delete" d.lifecycle.skipDelete,
  flagMark "skip_sweeper" d.lifecycle.skipSweeper,
  flagMark "skip_default_cdiff" d.lifecycle.skipDefaultCdiff,
  flagMark "taint_resource_on_failed_create" d.lifecycle.taintOnFailedCreate,
  flagMark "legacy_long_form_project" d.lifecycle.legacyLongFormProject,
  flagMark "supports_indirect_user_project_override" d.lifecycle.userProjectOverride,
  hookMark .retryPredicate d.runtimeHooks.retryPredicates,
  hookMark .abortPredicate d.runtimeHooks.abortPredicates,
  hookMark .customDiff d.runtimeHooks.customDiff,
  hookMark .readErrorTransform d.runtimeHooks.readErrorTransform.toList]

/-- The hooks that a descriptor names, in the order of declaration. -/
def hooks : List HookRef := d.marking.hooks

/-- The flags of the lifecycle policy, by name. -/
def flags : Flags := d.marking.flags

end Descriptor

end CrudPlan
