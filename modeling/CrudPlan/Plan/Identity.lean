import CrudPlan.Descriptor.Document
import CrudPlan.Template.Document
import CrudPlan.Template.Tokens

/-!
# Identities

* `Identity` holds the fields that identify a resource, the template of its id and the formats in
  which an id may be imported;
* `Identity.resolve` compiles them. Every field has to be declared and listed once; templates may
  use the fields of the identity only. The id template lists the fields unless one is given, and
  the only import format is the id template unless some are given.
-/

namespace CrudPlan

/-- What identifies a resource, and the formats of its ids. -/
structure Identity where
  /-- The fields that identify the resource. -/
  fields : List String
  /-- The template of its id. -/
  idFormat : Template
  /-- The formats in which an id may be imported, the first that matches wins. -/
  importFormats : List ImportFormat := []
  deriving DecidableEq, Repr, Inhabited

namespace Identity

/-- The dump of an identity. -/
def toJson (i : Identity) : Json := .object [
  ("identity_fields", .texts i.fields),
  ("id_format", i.idFormat.toJson),
  ("import_matchers", .listOf ImportFormat.toJson i.importFormats)]

/-! ### Fields -/

/-- The name under which issues with the identity are reported. -/
def resolver : String := "identity"

/-- An issue with a field of the identity rules. -/
def issue (kind : IssueKind) (field message : String) : Issue := ⟨kind, resolver, field, message⟩

/-- The issue with a field that is listed again. -/
def repeatedIssue (name : String) : Issue :=
  issue .conflictingOverride "identity" s!"'{name}' listed more than once"

/-- The issue with a field that is not declared. -/
def undeclaredIssue (name : String) : Issue :=
  issue .unknownIdentityToken "identity"
    s!"'{name}' is not a declared property, parameter or virtual field"

/-- The issues with identity fields, of which those in `seen` came before. -/
def fieldIssues (declared seen : List String) : List String → List Issue
  | [] => []
  | name :: rest =>
    (if seen.contains name then [repeatedIssue name] else []) ++
      (if declared.contains name then [] else [undeclaredIssue name]) ++
      fieldIssues declared (name :: seen) rest

/-- The issue with a nested resource that leaves its identity open. -/
def nestedIssues (d : Descriptor) : List Issue :=
  if d.hasImplicitIdentity ∧ d.identityRules.nestedQuery.isSome then
    [issue .conflictingOverride "identity"
      "resources with nested_query must declare an explicit identity"]
  else []

/-! ### Formats -/

/-- The text of the id template. -/
def idTemplate (d : Descriptor) : String :=
  d.identityRules.idFormat.getD (Template.joinTokens d.identityFields)

/-- The id template, or the issues with it. -/
def checkedIdFormat (d : Descriptor) : Resolved Template :=
  Template.checked resolver "id_format" d.identityFields id (Template.compile (idTemplate d))

/-- The import format at a position of its list, or the issues with it. -/
def checkedFormat (known : List String) (source : String) (position : Nat) :
    Resolved ImportFormat :=
  Template.checked resolver s!"import_format[{position}]" known ImportFormat.template
    (ImportFormat.compile source)

/-- The import formats to compile: those given, else the id template if it is fit for use. -/
def consideredFormats (d : Descriptor) : List String :=
  if d.lifecycle.excludeImport then []
  else if d.identityRules.importFormat.isEmpty then
    match checkedIdFormat d with
    | .ok _ => [idTemplate d]
    | .error _ => []
  else d.identityRules.importFormat

/-- The import formats of a descriptor, each with its issues. -/
def checkedFormats (d : Descriptor) : List (Resolved ImportFormat) :=
  (consideredFormats d).zipIdx.map fun (source, position) =>
    checkedFormat d.identityFields source position

/-- The issue with import formats of a resource that cannot be imported. -/
def excludedImportIssues (d : Descriptor) : List Issue :=
  if d.lifecycle.excludeImport ∧ ¬ d.identityRules.importFormat.isEmpty then
    [issue .conflictingOverride "import_format"
      "import_format cannot be set when exclude_import is true"]
  else []

/-! ### Resolution -/

/-- The issues with the identity of a descriptor. -/
def issues (d : Descriptor) : List Issue :=
  fieldIssues d.declaredNames [] d.identityFields ++ nestedIssues d ++
    issuesOf (checkedIdFormat d) ++ excludedImportIssues d ++ (checkedFormats d).flatMap issuesOf

/-- The identity of a resource, or every issue with it. -/
def resolve (d : Descriptor) : Resolved Identity :=
  match issues d, checkedIdFormat d with
  | [], .ok idFormat =>
    .ok ⟨d.identityFields, idFormat, (checkedFormats d).filterMap (·.toOption)⟩
  | found, _ => .error found

end Identity

end CrudPlan
