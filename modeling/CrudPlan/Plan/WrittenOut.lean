import CrudPlan.Plan.Basic

/-!
# Defaults written out

`Descriptor.writeOut` copies the values that a plan derived back into a descriptor, so that nothing
derived is left open. The values written have to obey the rules of a document: an empty import
format, for instance, is a fault.
-/

namespace CrudPlan.Descriptor

/-- The templates of the import formats of a plan. -/
def importFormats (p : Plan) : List String :=
  p.identity.importFormats.map fun f => f.template.source

/-- The descriptor with the derived values of a plan, if the lists among them may stand in a
document. -/
def writeOut (d : Descriptor) (p : Plan) : Checked Descriptor :=
  (fun identity importFormat =>
    { d with
      endpoints := { d.endpoints with
        selfLink := some p.urls.selfLink
        createUrl := some p.urls.createUrl
        updateUrl := some p.urls.updateUrl
        deleteUrl := some p.urls.deleteUrl
        collectionUrlKey := some p.urls.collectionUrlKey }
      identityRules := { d.identityRules with
        identity := identity
        idFormat := some p.identity.idFormat.source
        importFormat := importFormat }
      stateRules := { d.stateRules with baseVersion := p.state.baseVersion } })
    <$> Members.required [("identity", .texts p.identity.fields)] "identity"
      (.listOf .nonEmptyText)
    <*> Members.required [("import_format", .texts (importFormats p))] "import_format"
      (.listOf .nonEmptyText)

/-- Why defaults cannot be written out. -/
inductive WriteOutError where
  /-- The descriptor has no plan. -/
  | unresolved (issues : List Issue)
  /-- The values may not stand in a document. -/
  | faulty (faults : List Fault)
  deriving DecidableEq, Repr

/-- The descriptor with the values of its own plan written out. -/
def materialize (d : Descriptor) : Except WriteOutError Descriptor :=
  match Plan.resolve {} d with
  | .error issues => .error (.unresolved issues)
  | .ok p =>
    match d.writeOut p with
    | .valid written => .ok written
    | .invalid faults => .error (.faulty faults)

end CrudPlan.Descriptor
