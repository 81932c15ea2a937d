import CrudPlan.Descriptor.Marking
import CrudPlan.Hook.Registry
import CrudPlan.Plan.StateUpgrades
import CrudPlan.Plan.Urls

/-!
# Lifecycle policies

* `LifecyclePolicy` says for each operation where it is requested and whether it is active, and
  carries the flags, hooks and settings that the client needs for it;
* `LifecyclePolicy.issues` are the conflicts of flags and the hooks that are not registered;
* `LifecyclePolicy.assemble` builds the policy. An operation that is switched off keeps its URL.
-/

namespace CrudPlan

/-- How one operation is requested. -/
structure Operation where
  /-- Its URL. -/
  url : String
  /-- Its request method. -/
  verb : String
  /-- Whether the client offers it. -/
  active : Bool := true
  deriving DecidableEq, Repr, Inhabited

/-- The dump of an operation. -/
def Operation.toJson (o : Operation) : Json := .object [
  ("url", .text o.url), ("verb", .text o.verb), ("active", .bool o.active)]

/-- How the operations on a resource are requested and handled. -/
structure LifecyclePolicy where
  /-- Creating the resource. -/
  create : Operation
  /-- Reading it. -/
  read : Operation
  /-- Updating it. -/
  update : Operation
  /-- Deleting it. -/
  delete : Operation
  /-- The flags of the policy, by name. -/
  flags : Flags
  /-- Tell errors after which a request is sent again. -/
  retryPredicates : List HookRef := []
  /-- Tell errors after which it is given up. -/
  abortPredicates : List HookRef := []
  /-- Compute differences of states. -/
  customDiff : List HookRef := []
  /-- Transforms errors of reading. -/
  readErrorTransform : Option HookRef := none
  /-- How long the client waits. -/
  timeouts : Timeouts
  /-- Where in a response the resource is found. -/
  nestedQuery : Option NestedQuery := none
  /-- Settings that only the client knows. -/
  virtualFields : List VirtualField := []
  deriving DecidableEq, Repr

namespace LifecyclePolicy

/-- The dump of a policy. -/
def toJson (p : LifecyclePolicy) : Json := .object [
  ("create", p.create.toJson),
  ("read", p.read.toJson),
  ("update", p.update.toJson),
  ("delete", p.delete.toJson),
  ("flags", p.flags.toJson),
  ("retry_predicates", .listOf HookRef.toJson p.retryPredicates),
  ("abort_predicates", .listOf HookRef.toJson p.abortPredicates),
  ("custom_diff", .listOf HookRef.toJson p.customDiff),
  ("read_error_transform", .optJson HookRef.toJson p.readErrorTransform),
  ("timeouts", p.timeouts.toJson),
  ("nested_query", .optJson NestedQuery.toJson p.nestedQuery),
  ("virtual_fields", .listOf VirtualField.toJson p.virtualFields)]

/-- The names of the active operations. -/
def activeOperations (p : LifecyclePolicy) : List String :=
  ([("create", p.create), ("read", p.read), ("update", p.update), ("delete", p.delete)].filter
    (·.2.active)).map (·.1)

/-! ### Resolution -/

/-- The name under which issues with policies are reported. -/
def resolver : String := "policy"

/-- The issue with a resource of which nothing would be generated. -/
def exclusionIssues (d : Descriptor) : List Issue :=
  if d.lifecycle.excludeResource ∧ d.iamPolicy = none then
    [⟨.conflictingOverride, resolver, "exclude_resource",
      "exclude_resource requires an iam_policy; nothing would be generated"⟩]
  else []

/-- The issues with the hooks of a descriptor, if the hooks of the runtime are known. -/
def hookIssues (hooks : Option HookRegistry) (d : Descriptor) : List Issue :=
  match hooks with
  | none => []
  | some registry => registry.check d.hooks resolver

/-- The issues with the policy of a descriptor. -/
def issues (hooks : Option HookRegistry) (d : Descriptor) : List Issue :=
  exclusionIssues d ++ hookIssues hooks d

/-- The hooks of a kind that a descriptor names. -/
def hooksOf (d : Descriptor) (kind : HookKind) : List HookRef :=
  d.hooks.filter (·.kind = kind)

/-- The policy of a resource with the given URLs. -/
def assemble (d : Descriptor) (urls : Urls) : LifecyclePolicy where
  create := ⟨urls.createUrl, urls.createVerb, !d.lifecycle.readonly⟩
  read := ⟨urls.selfLink, urls.readVerb, !d.lifecycle.skipRead⟩
  update := ⟨urls.updateUrl, urls.updateVerb, !d.lifecycle.readonly && !d.lifecycle.immutable⟩
  delete := ⟨urls.deleteUrl, urls.deleteVerb, !d.lifecycle.readonly && !d.lifecycle.skipDelete⟩
  flags := d.flags
  retryPredicates := hooksOf d .retryPredicate
  abortPredicates := hooksOf d .abortPredicate
  customDiff := hooksOf d .customDiff
  readErrorTransform := (hooksOf d .readErrorTransform).head?
  timeouts := d.timeouts
  nestedQuery := d.identityRules.nestedQuery
  virtualFields := d.virtualFields

end LifecyclePolicy

end CrudPlan
