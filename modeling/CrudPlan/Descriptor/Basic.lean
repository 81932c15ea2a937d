import CrudPlan.Descriptor.Parts
import CrudPlan.Hook.Basic
import CrudPlan.Names

/-!
# Resource descriptors

A `Descriptor` says what a resource of an API is and how it is operated on. It is pure data: what
is left open here is filled in when the descriptor is resolved.

Its settings come in groups (`About`, `Endpoints`, `IdentityRules`, `StateRules`, `Lifecycle`,
`RuntimeHooks`), in the order in which a document lists them.
-/

namespace CrudPlan

/-- Stages of an API. -/
inductive MinVersion where
  | ga
  | beta
  deriving DecidableEq, Repr

namespace MinVersion

/-- Every stage. -/
def all : List MinVersion := [.ga, .beta]

/-- The name of a stage. -/
def text : MinVersion → String
  | .ga => "ga"
  | .beta => "beta"

end MinVersion

/-- What a resource is. -/
structure About where
  /-- The name of the resource. -/
  name : String
  /-- What it is for. -/
  description : String := ""
  /-- The first stage of the API that has it. -/
  minVersion : MinVersion := .ga
  /-- Its kind in the API. -/
  kind : String := ""
  /-- Its name in earlier versions. -/
  legacyName : String := ""
  /-- Why it should no longer be used. -/
  deprecationMessage : String := ""
  deriving DecidableEq, Repr

/-- Where and how the operations on a resource are requested. -/
structure Endpoints where
  /-- The URL of the collection. -/
  baseUrl : String
  /-- The URL of the resource. -/
  selfLink : Option String := none
  /-- The URL that creates it. -/
  createUrl : Option String := none
  /-- The URL that updates it. -/
  updateUrl : Option String := none
  /-- The URL that deletes it. -/
  deleteUrl : Option String := none
  /-- The method that creates it. -/
  createVerb : CreateVerb := CreateVerb.usual
  /-- The method that reads it. -/
  readVerb : ReadVerb := ReadVerb.usual
  /-- The method that updates it. -/
  updateVerb : UpdateVerb := UpdateVerb.usual
  /-- The method that deletes it. -/
  deleteVerb : DeleteVerb := DeleteVerb.usual
  /-- What is appended to the URL on reading. -/
  readQueryParams : String := ""
  /-- The key of the list in a response of the collection. -/
  collectionUrlKey : Option String := none
  /-- Whether responses hold the URL of the resource. -/
  hasSelfLink : Bool := false
  /-- The URL of the collection in the asset inventory. -/
  caiBaseUrl : Option String := none
  deriving DecidableEq, Repr

/-- What tells the resources of a kind apart. -/
structure IdentityRules where
  /-- The fields that identify a resource; none means its name. -/
  identity : List String := []
  /-- Where in a response the resource is found. -/
  nestedQuery : Option NestedQuery := none
  /-- The template of ids. -/
  idFormat : Option String := none
  /-- The templates of ids that a user may import. -/
  importFormat : List String := []
  deriving DecidableEq, Repr

/-- How stored states are brought to the current schema. -/
structure StateRules where
  /-- The version of the state schema. -/
  schemaVersion : Nat := 0
  /-- The version that upgrades start from. -/
  baseVersion : Nat := 0
  /-- Whether there are upgrade steps. -/
  upgraders : Bool := false
  /-- The hook that migrates states instead. -/
  migrateState : Option String := none
  deriving DecidableEq, Repr

/-- The flags that govern the operations on a resource. -/
structure Lifecycle where
  /-- Leave the whole resource out. -/
  exclude : Bool := false
  /-- Generate the access policy only. -/
  excludeResource : Bool := false
  /-- Do not support import. -/
  excludeImport : Bool := false
  /-- Leave it out of the conversion of assets. -/
  excludeTgc : Bool := false
  /-- It is never updated. -/
  immutable : Bool := false
  /-- It is only read. -/
  readonly : Bool := false
  /-- An update names the fields it changes. -/
  updateMask : Bool := false
  /-- Its operations are long-running. -/
  autogenAsync : Bool := false
  /-- It is never read. -/
  skipRead : Bool := false
  /-- It is never deleted. -/
  skipDelete : Bool := false
  /-- Left-overs of tests are not removed. -/
  skipSweeper : Bool := false
  /-- The usual differences are not computed. -/
  skipDefaultCdiff : Bool := false
  /-- It counts as tainted if creating it failed. -/
  taintOnFailedCreate : Bool := false
  /-- Its project may be given as a path. -/
  legacyLongFormProject : Bool := false
  /-- Requests may be billed to another project. -/
  userProjectOverride : Bool := false
  deriving DecidableEq, Repr

/-- The hooks that the runtime calls during operations. -/
structure RuntimeHooks where
  /-- Tell errors after which a request is sent again. -/
  retryPredicates : List String := []
  /-- Tell errors after which it is given up. -/
  abortPredicates : List String := []
  /-- Compute differences of states. -/
  customDiff : List String := []
  /-- Transforms errors of reading. -/
  readErrorTransform : Option String := none
  deriving DecidableEq, Repr

/-- The declarative description of one kind of resource. -/
structure Descriptor where
  /-- What the resource is. -/
  about : About
  /-- Where and how its operations are requested. -/
  endpoints : Endpoints
  /-- What tells resources of this kind apart. -/
  identityRules : IdentityRules := {}
  /-- The template of the lock that its operations hold. -/
  mutex : Option String := none
  /-- How stored states are upgraded. -/
  stateRules : StateRules := {}
  /-- The flags of its operations. -/
  lifecycle : Lifecycle := {}
  /-- The access policy of its own, if it has one. -/
  iamPolicy : Option IamPolicy := none
  /-- How long the client waits for its operations. -/
  timeouts : Timeouts := {}
  /-- The hooks that the runtime calls. -/
  runtimeHooks : RuntimeHooks := {}
  /-- Settings that only the client knows. -/
  virtualFields : List VirtualField := []
  /-- Its properties. -/
  properties : List Field := []
  /-- The parameters of its URLs. -/
  parameters : List Field := []
  deriving DecidableEq, Repr

namespace Descriptor

variable (d : Descriptor)

/-- The name of the resource. -/
abbrev name : String := d.about.name

/-- The field that every resource has. -/
def implicitField : String := "name"

/-- The names that identities and templates may use, each once, in the order of declaration. -/
def declaredNames : List String :=
  firstOccurrences (implicitField :: d.properties.map Field.name ++
    d.parameters.map Field.name ++ d.virtualFields.map VirtualField.name)

/-- The fields that identify a resource: those given, or its name. -/
def identityFields : List String :=
  if d.identityRules.identity.isEmpty then [implicitField] else d.identityRules.identity

/-- Whether the identity is left to the name. -/
def hasImplicitIdentity : Bool := d.identityRules.identity.isEmpty

end Descriptor

end CrudPlan
