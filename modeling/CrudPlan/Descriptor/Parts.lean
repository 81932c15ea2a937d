import CrudPlan.Descriptor.Verb

/-!
# Parts of a descriptor

The records inside a descriptor, each with its reader and the JSON value that it is dumped as. A
dump has every field, so that reading it gives the record again.

* `Field` is a property or a parameter, `VirtualField` a setting that only the client knows;
* `NestedQuery` says where in a response the resource is found;
* `IamPolicy` and `Timeouts` are handed on to the generated client.
-/

namespace CrudPlan

/-- A lower-case letter, then lower-case letters, digits and underscores. -/
def isFieldName (s : String) : Bool :=
  match s.toList with
  | [] => false
  | c :: rest => c.isLower && rest.all fun c => c.isLower || c.isDigit || c == '_'

/-- Reads the name of a field. -/
def Reader.fieldName : Reader String := Reader.textWhere isFieldName .textPattern

/-! ### Fields -/

/-- A property or a parameter of a resource. -/
structure Field where
  /-- The name that templates refer to. -/
  name : String
  /-- The type of its values. -/
  type : String := "String"
  /-- What it means. -/
  description : String := ""
  /-- Whether it has to be given. -/
  required : Bool := false
  /-- Whether it only occurs in URLs. -/
  urlParamOnly : Bool := false
  deriving DecidableEq, Repr, Inhabited

namespace Field

/-- The keys of a field. -/
def keys : List String := ["name", "type", "description", "required", "url_param_only"]

/-- Reads a field. -/
def read : Reader Field := Reader.record fun ms =>
  Field.mk <$> Members.required ms "name" .fieldName
    <*> Members.optional ms "type" .text "String"
    <*> Members.optional ms "description" .text ""
    <*> Members.optional ms "required" .bool false
    <*> Members.optional ms "url_param_only" .bool false
    <* Members.closed ms keys

/-- The dump of a field. -/
def toJson (f : Field) : Json := .object [
  ("name", .text f.name),
  ("type", .text f.type),
  ("description", .text f.description),
  ("required", .bool f.required),
  ("url_param_only", .bool f.urlParamOnly)]

end Field

/-! ### Virtual fields -/

/-- The type of a virtual field. -/
inductive VirtualType where
  | boolean
  | string
  | integer
  deriving DecidableEq, Repr

namespace VirtualType

/-- Every type. -/
def all : List VirtualType := [.boolean, .string, .integer]

/-- The name of a type. -/
def text : VirtualType → String
  | .boolean => "Boolean"
  | .string => "String"
  | .integer => "Integer"

end VirtualType

/-- The type of a virtual field, with the value it has if none is given. -/
inductive VirtualDefault where
  | boolean (value : Option Bool)
  | string (value : Option String)
  | integer (value : Option Int)
  deriving DecidableEq, Repr

namespace VirtualDefault

/-- The type alone. -/
def type : VirtualDefault → VirtualType
  | .boolean _ => .boolean
  | .string _ => .string
  | .integer _ => .integer

/-- No value of a type. -/
def absent : VirtualType → VirtualDefault
  | .boolean => .boolean none
  | .string => .string none
  | .integer => .integer none

/-- Reads a value of a type, or `null`. -/
def read : VirtualType → Reader VirtualDefault
  | .boolean => fun v => (Reader.nullable .bool v).map .boolean
  | .string => fun v => (Reader.nullable .text v).map .string
  | .integer => fun v => (Reader.nullable .int v).map .integer

/-- The dump of the value. -/
def toJson : VirtualDefault → Json
  | .boolean (some b) => .bool b
  | .string (some s) => .text s
  | .integer (some n) => .int n
  | _ => .null

end VirtualDefault

/-- A setting that only the client knows. -/
structure VirtualField where
  /-- The name that templates refer to. -/
  name : String
  /-- What it means. -/
  description : String := ""
  /-- Its type and default. -/
  default : VirtualDefault
  deriving DecidableEq, Repr

namespace VirtualField

/-- The keys of a virtual field. -/
def keys : List String := ["name", "description", "type", "default_value"]

/-- Reads a virtual field of a known type; naming the type is optional. -/
def readAs (type : VirtualType) : Reader VirtualField := Reader.record fun ms =>
  (fun name description (_ : VirtualType) default => VirtualField.mk name description default)
    <$> Members.required ms "name" .fieldName
    <*> Members.optional ms "description" .text ""
    <*> Members.optional ms "type" (.choice VirtualType.text [type]) type
    <*> Members.optional ms "default_value" (VirtualDefault.read type) (.absent type)
    <* Members.closed ms keys

/-- The type that the members of a virtual field name. -/
def readType (ms : Members) : Checked VirtualType :=
  match ms.lookup "type" with
  | none => .fault .missingTag
  | some v =>
    match Reader.choice VirtualType.text VirtualType.all v with
    | .valid type => .valid type
    | .invalid _ => .fault .unknownTag

/-- Reads a virtual field of the type that it names. -/
def read : Reader VirtualField
  | .object ms =>
    (readType ms).andThen fun type => (readAs type (.object ms)).within (.key type.text)
  | _ => .fault .notTaggedRecord

/-- The dump of a virtual field. -/
def toJson (f : VirtualField) : Json := .object [
  ("name", .text f.name),
  ("description", .text f.description),
  ("type", .text f.default.type.text),
  ("default_value", f.default.toJson)]

end VirtualField

/-! ### Nested queries -/

/-- Where in a response the resource is found. -/
structure NestedQuery where
  /-- The keys that lead to it, from the outside in. -/
  keys : List String
  /-- Whether the response lists ids only. -/
  isListOfIds : Bool := false
  /-- Whether it is changed by patching what it is nested in. -/
  modifyByPatch : Bool := false
  deriving DecidableEq, Repr, Inhabited

namespace NestedQuery

/-- The keys of a nested query's own record. -/
def memberKeys : List String := ["keys", "is_list_of_ids", "modify_by_patch"]

/-- Reads a nested query. -/
def read : Reader NestedQuery := Reader.record fun ms =>
  NestedQuery.mk <$> Members.required ms "keys" (.nonEmptyListOf .nonEmptyText)
    <*> Members.optional ms "is_list_of_ids" .bool false
    <*> Members.optional ms "modify_by_patch" .bool false
    <* Members.closed ms memberKeys

/-- The dump of a nested query. -/
def toJson (q : NestedQuery) : Json := .object [
  ("keys", .texts q.keys),
  ("is_list_of_ids", .bool q.isListOfIds),
  ("modify_by_patch", .bool q.modifyByPatch)]

end NestedQuery

/-! ### Access policies -/

/-- Marks a resource that has an access policy of its own. -/
structure IamPolicy where
  /-- The attribute that names the resource the policy is for. -/
  parentResourceAttribute : String := "name"
  /-- What stands between the URL and the method of the policy. -/
  methodNameSeparator : String := ":"
  /-- The request method that fetches the policy. -/
  fetchVerb : FetchVerb := FetchVerb.usual
  /-- The request method that sets the policy. -/
  setVerb : SetVerb := SetVerb.usual
  deriving DecidableEq, Repr

namespace IamPolicy

/-- The keys of an access policy. -/
def keys : List String :=
  ["parent_resource_attribute", "method_name_separator", "fetch_iam_policy_verb",
    "set_iam_policy_verb"]

/-- Reads an access policy. -/
def read : Reader IamPolicy := Reader.record fun ms =>
  IamPolicy.mk <$> Members.optional ms "parent_resource_attribute" .text "name"
    <*> Members.optional ms "method_name_separator" .text ":"
    <*> Members.optional ms "fetch_iam_policy_verb" (.oneOf Verb.text _) FetchVerb.usual
    <*> Members.optional ms "set_iam_policy_verb" (.oneOf Verb.text _) SetVerb.usual
    <* Members.closed ms keys

/-- The dump of an access policy. -/
def toJson (p : IamPolicy) : Json := .object [
  ("parent_resource_attribute", .text p.parentResourceAttribute),
  ("method_name_separator", .text p.methodNameSeparator),
  ("fetch_iam_policy_verb", .text p.fetchVerb.val.text),
  ("set_iam_policy_verb", .text p.setVerb.val.text)]

end IamPolicy

/-! ### Timeouts -/

/-- How long the client waits for each operation, in minutes. -/
structure Timeouts where
  /-- For creating a resource. -/
  insertMinutes : Nat := 20
  /-- For updating it. -/
  updateMinutes : Nat := 20
  /-- For deleting it. -/
  deleteMinutes : Nat := 20
  deriving DecidableEq, Repr, Inhabited

namespace Timeouts

/-- The keys of the timeouts. -/
def keys : List String := ["insert_minutes", "update_minutes", "delete_minutes"]

/-- Reads the timeouts. -/
def read : Reader Timeouts := Reader.record fun ms =>
  Timeouts.mk <$> Members.optional ms "insert_minutes" .positive 20
    <*> Members.optional ms "update_minutes" .positive 20
    <*> Members.optional ms "delete_minutes" .positive 20
    <* Members.closed ms keys

/-- The dump of the timeouts. -/
def toJson (t : Timeouts) : Json := .object [
  ("insert_minutes", .nat t.insertMinutes),
  ("update_minutes", .nat t.updateMinutes),
  ("delete_minutes", .nat t.deleteMinutes)]

end Timeouts

end CrudPlan
