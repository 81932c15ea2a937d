import CrudPlan.Descriptor.Basic

/-!
# Descriptors as documents

* `Descriptor.read` reads a descriptor from a JSON object and reports every fault in it;
* `Descriptor.toJson` dumps a descriptor with every field, also those left open, in the order of
  the fields. Reading a dump gives the descriptor again.
-/

namespace CrudPlan

/-- An upper-case letter, then letters and digits. -/
def isResourceName (s : String) : Bool :=
  match s.toList with
  | [] => false
  | c :: rest => c.isUpper && rest.all Char.isAlphanum

/-- Reads the name of a resource. -/
def Reader.resourceName : Reader String := Reader.textWhere isResourceName .textPattern

namespace About

/-- The keys of these members. -/
def keys : List String :=
  ["name", "description", "min_version", "kind", "legacy_name", "deprecation_message"]

/-- Reads these members. -/
def read (ms : Members) : Checked About :=
  About.mk <$> Members.required ms "name" .resourceName
    <*> Members.optional ms "description" .text ""
    <*> Members.optional ms "min_version" (.choice MinVersion.text MinVersion.all) .ga
    <*> Members.optional ms "kind" .text ""
    <*> Members.optional ms "legacy_name" .text ""
    <*> Members.optional ms "deprecation_message" .text ""

/-- The dump of these members. -/
def toMembers (a : About) : Members := [
  ("name", .text a.name),
  ("description", .text a.description),
  ("min_version", .text a.minVersion.text),
  ("kind", .text a.kind),
  ("legacy_name", .text a.legacyName),
  ("deprecation_message", .text a.deprecationMessage)]

end About

namespace Endpoints

/-- The keys of these members. -/
def keys : List String :=
  ["base_url", "self_link", "create_url", "update_url", "delete_url", "create_verb", "read_verb",
    "update_verb", "delete_verb", "read_query_params", "collection_url_key", "has_self_link",
    "cai_base_url"]

/-- Reads these members. -/
def read (ms : Members) : Checked Endpoints :=
  Endpoints.mk <$> Members.required ms "base_url" .nonEmptyText
    <*> Members.optional ms "self_link" (.nullable .text) none
    <*> Members.optional ms "create_url" (.nullable .text) none
    <*> Members.optional ms "update_url" (.nullable .text) none
    <*> Members.optional ms "delete_url" (.nullable .text) none
    <*> Members.optional ms "create_verb" (.oneOf Verb.text _) CreateVerb.usual
    <*> Members.optional ms "read_verb" (.oneOf Verb.text _) ReadVerb.usual
    <*> Members.optional ms "update_verb" (.oneOf Verb.text _) UpdateVerb.usual
    <*> Members.optional ms "delete_verb" (.oneOf Verb.text _) DeleteVerb.usual
    <*> Members.optional ms "read_query_params" .text ""
    <*> Members.optional ms "collection_url_key" (.nullable .text) none
    <*> Members.optional ms "has_self_link" .bool false
    <*> Members.optional ms "cai_base_url" (.nullable .text) none

/-- The dump of these members. -/
def toMembers (e : Endpoints) : Members := [
  ("base_url", .text e.baseUrl),
  ("self_link", .optText e.selfLink),
  ("create_url", .optText e.createUrl),
  ("update_url", .optText e.updateUrl),
  ("delete_url", .optText e.deleteUrl),
  ("create_verb", .text e.createVerb.val.text),
  ("read_verb", .text e.readVerb.val.text),
  ("update_verb", .text e.updateVerb.val.text),
  ("delete_verb", .text e.deleteVerb.val.text),
  ("read_query_params", .text e.readQueryParams),
  ("collection_url_key", .optText e.collectionUrlKey),
  ("has_self_link", .bool e.hasSelfLink),
  ("cai_base_url", .optText e.caiBaseUrl)]

end Endpoints

namespace IdentityRules

/-- The keys of these members. -/
def keys : List String :=
  ["identity", "nested_query", "id_format", "import_format"]

/-- Reads these members. -/
def read (ms : Members) : Checked IdentityRules :=
  IdentityRules.mk <$> Members.optional ms "identity" (.listOf .nonEmptyText) []
    <*> Members.optional ms "nested_query" (.nullable NestedQuery.read) none
    <*> Members.optional ms "id_format" (.nullable .text) none
    <*> Members.optional ms "import_format" (.listOf .nonEmptyText) []

/-- The dump of these members. -/
def toMembers (r : IdentityRules) : Members := [
  ("identity", .texts r.identity),
  ("nested_query", .optJson NestedQuery.toJson r.nestedQuery),
  ("id_format", .optText r.idFormat),
  ("import_format", .texts r.importFormat)]

end IdentityRules

namespace StateRules

/-- The keys of these members. -/
def keys : List String :=
  ["schema_version", "state_upgrade_base_schema_version", "state_upgraders", "migrate_state"]

/-- Reads these members. -/
def read (ms : Members) : Checked StateRules :=
  StateRules.mk <$> Members.optional ms "schema_version" .nat 0
    <*> Members.optional ms "state_upgrade_base_schema_version" .nat 0
    <*> Members.optional ms "state_upgraders" .bool false
    <*> Members.optional ms "migrate_state" (.nullable .text) none

/-- The dump of these members. -/
def toMembers (s : StateRules) : Members := [
  ("schema_version", .nat s.schemaVersion),
  ("state_upgrade_base_schema_version", .nat s.baseVersion),
  ("state_upgraders", .bool s.upgraders),
  ("migrate_state", .optText s.migrateState)]

end StateRules

namespace Lifecycle

/-- The keys of these members. -/
def keys : List String :=
  ["exclude", "exclude_resource", "exclude_import", "exclude_tgc", "immutable", "readonly",
    "update_mask", "autogen_async", "skip_read", "skip_delete", "skip_sweeper",
    "skip_default_cdiff", "taint_resource_on_failed_create", "legacy_long_form_project",
    "supports_indirect_user_project_override"]

/-- Reads these members. -/
def read (ms : Members) : Checked Lifecycle :=
  Lifecycle.mk <$> Members.optional ms "exclude" .bool false
    <*> Members.optional ms "exclude_resource" .bool false
    <*> Members.optional ms "exclude_import" .bool false
    <*> Members.optional ms "exclude_tgc" .bool false
    <*> Members.optional ms "immutable" .bool false
    <*> Members.optional ms "readonly" .bool false
    <*> Members.optional ms "update_mask" .bool false
    <*> Members.optional ms "autogen_async" .bool false
    <*> Members.optional ms "skip_read" .bool false
    <*> Members.optional ms "skip_delete" .bool false
    <*> Members.optional ms "skip_sweeper" .bool false
    <*> Members.optional ms "skip_default_cdiff" .bool false
    <*> Members.optional ms "taint_resource_on_failed_create" .bool false
    <*> Members.optional ms "legacy_long_form_project" .bool false
    <*> Members.optional ms "supports_indirect_user_project_override" .bool false

/-- The dump of these members. -/
def toMembers (l : Lifecycle) : Members := [
  ("exclude", .bool l.exclude),
  ("exclude_resource", .bool l.excludeResource),
  ("exclude_import", .bool l.excludeImport),
  ("exclude_tgc", .bool l.excludeTgc),
  ("immutable", .bool l.immutable),
  ("readonly", .bool l.readonly),
  ("update_mask", .bool l.updateMask),
  ("autogen_async", .bool l.autogenAsync),
  ("skip_read", .bool l.skipRead),
  ("skip_delete", .bool l.skipDelete),
  ("skip_sweeper", .bool l.skipSweeper),
  ("skip_default_cdiff", .bool l.skipDefaultCdiff),
  ("taint_resource_on_failed_create", .bool l.taintOnFailedCreate),
  ("legacy_long_form_project", .bool l.legacyLongFormProject),
  ("supports_indirect_user_project_override", .bool l.userProjectOverride)]

end Lifecycle

namespace RuntimeHooks

/-- The keys of these members. -/
def keys : List String :=
  ["error_retry_predicates", "error_abort_predicates", "custom_diff", "read_error_transform"]

/-- Reads these members. -/
def read (ms : Members) : Checked RuntimeHooks :=
  RuntimeHooks.mk <$> Members.optional ms "error_retry_predicates" (.listOf .nonEmptyText) []
    <*> Members.optional ms "error_abort_predicates" (.listOf .nonEmptyText) []
    <*> Members.optional ms "custom_diff" (.listOf .nonEmptyText) []
    <*> Members.optional ms "read_error_transform" (.nullable .text) none

/-- The dump of these members. -/
def toMembers (h : RuntimeHooks) : Members := [
  ("error_retry_predicates", .texts h.retryPredicates),
  ("error_abort_predicates", .texts h.abortPredicates),
  ("custom_diff", .texts h.customDiff),
  ("read_error_transform", .optText h.readErrorTransform)]

end RuntimeHooks

namespace Descriptor

/-- The keys of a descriptor. -/
def keys : List String :=
  About.keys ++ Endpoints.keys ++ IdentityRules.keys ++ ["mutex"] ++ StateRules.keys ++
    Lifecycle.keys ++ ["iam_policy", "timeouts"] ++ RuntimeHooks.keys ++
    ["virtual_fields", "properties", "parameters"]

/-- Reads a descriptor. -/
def read : Reader Descriptor := Reader.record fun ms =>
  Descriptor.mk <$> About.read ms
    <*> Endpoints.read ms
    <*> IdentityRules.read ms
    <*> Members.optional ms "mutex" (.nullable .text) none
    <*> StateRules.read ms
    <*> Lifecycle.read ms
    <*> Members.optional ms "iam_policy" (.nullable IamPolicy.read) none
    <*> Members.optional ms "timeouts" Timeouts.read {}
    <*> RuntimeHooks.read ms
    <*> Members.optional ms "virtual_fields" (.listOf VirtualField.read) []
    <*> Members.optional ms "properties" (.listOf Field.read) []
    <*> Members.optional ms "parameters" (.listOf Field.read) []
    <* Members.closed ms keys

/-- The dump of a descriptor. -/
def toJson (d : Descriptor) : Json := .object (
  d.about.toMembers ++ d.endpoints.toMembers ++ d.identityRules.toMembers ++
    [("mutex", .optText d.mutex)] ++ d.stateRules.toMembers ++ d.lifecycle.toMembers ++
    [("iam_policy", .optJson IamPolicy.toJson d.iamPolicy),
      ("timeouts", d.timeouts.toJson)] ++ d.runtimeHooks.toMembers ++
    [("virtual_fields", .listOf VirtualField.toJson d.virtualFields),
      ("properties", .listOf Field.toJson d.properties),
      ("parameters", .listOf Field.toJson d.parameters)])

end Descriptor

end CrudPlan
