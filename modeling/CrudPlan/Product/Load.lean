import CrudPlan.Log
import CrudPlan.Product.Settings

/-!
# Loading products

* `Product.load` reads the product at a path of a workspace;
* `Product.loadTrace` is what is logged meanwhile.
-/

namespace CrudPlan.Product

/-- The settings that a document gives; a value that says nothing counts as none. -/
def rawSettings (path : FilePath) (ms : Members) : Except ConfigError Members :=
  match ms.lookup "settings" with
  | some (.object settings) => .ok settings
  | some v => if v.isVoid then .ok [] else .error (.settingsNotMapping path)
  | none => .ok []

/-- The text of the file of variables beside a product, if there is one. -/
def envFileFor (w : Workspace) (path : FilePath) : Option String :=
  w.text? (path.parent.child ".env")

/-- A value without faults, or the configuration error that reports them. -/
def ofChecked {α : Type} : Checked α → Except ConfigError α
  | .valid a => .ok a
  | .invalid faults => .error (.faulty faults)

/-- The product that a document holds. -/
def ofDocument (w : Workspace) (path : FilePath) : Json → Except ConfigError Product
  | .object ms => do
    let raw ← rawSettings path ms
    let settings ← Settings.resolve w (envFileFor w path) raw
    ofChecked (read (Settings.read w settings) ms)
  | _ => .error (.notMapping path)

/-- The product at a path. -/
def load (w : Workspace) (path : FilePath) : Except ConfigError Product :=
  match w.find path with
  | .error reason => .error (.unreadable path reason)
  | .ok document => ofDocument w path document

/-! ### Log -/

/-- The entry for a line of the file of variables that cannot be read. -/
def badLineEntry (line : Nat) : LogEntry :=
  ⟨.warning, .envFile, s!"python-dotenv could not parse statement starting at line {line}"⟩

/-- What is logged about files of variables: of the one beside the product, and of those that its
settings name, as far as loading gets. -/
def envFileEntries (w : Workspace) (path : FilePath) (raw : Members) : List LogEntry :=
  let envFile := envFileFor w path
  let named := match Settings.resolve w envFile raw with
    | .ok settings => (Settings.variableLookup settings).texts w
    | .error _ => []
  (envFile.toList ++ named).flatMap fun text => (EnvFile.badLines text).map badLineEntry

/-- The entry for a product. -/
def loadedEntry (path : FilePath) (p : Product) : LogEntry :=
  ⟨.info, .loader, "Loaded product " ++ p.name ++ " from " ++ path.text ++ " (" ++
    toString p.resources.length ++ " resources)"⟩

/-- What is logged while a product is loaded. -/
def loadTrace (w : Workspace) (path : FilePath) : List LogEntry :=
  let reading := match w.find path with
    | .ok (.object ms) => ((rawSettings path ms).toOption.map (envFileEntries w path)).getD []
    | _ => []
  reading ++
    match load w path with
    | .ok p => [loadedEntry path p]
    | .error _ => []

end CrudPlan.Product
