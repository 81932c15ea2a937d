import CrudPlan.Descriptor.Document
import CrudPlan.Hook.Registry
import CrudPlan.Product.Workspace
import CrudPlan.Text.Quoted

/-!
# Products

A `Product` is a group of resources that share settings and hooks.

* `Product.read` reads a product whose settings are given, and checks that its hooks can be
  registered;
* `ConfigError` is why a product, or a resource of it, cannot be used.
-/

namespace CrudPlan

/-- A named group of resources. -/
structure Product where
  /-- Its name. -/
  name : String
  /-- Whether state upgrades without steps are an issue. -/
  strict : Bool := false
  /-- The hooks that the runtime offers, if they are listed. -/
  hooks : Option (List (HookKind × List String)) := none
  /-- Its resources. -/
  resources : List Descriptor := []
  deriving DecidableEq, Repr

/-- Why a product, or a resource of it, cannot be used. -/
inductive ConfigError where
  /-- The file cannot be read. -/
  | unreadable (path : FilePath) (reason : ReadError)
  /-- The file holds no object. -/
  | notMapping (path : FilePath)
  /-- The settings are no object. -/
  | settingsNotMapping (path : FilePath)
  /-- A setting is given as a text that is no truth value. -/
  | invalidSwitch (source text : String)
  /-- The product has faults. -/
  | faulty (faults : List Fault)
  /-- The product has no resource of the name. -/
  | noResource (name product : String)
  /-- The resource of the name is excluded. -/
  | excludedResource (name product : String)
  deriving DecidableEq, Repr

/-- What the system says of a file that cannot be read. -/
def ReadError.message (path : FilePath) : ReadError → String
  | .missing => "[Errno 2] No such file or directory: " ++ Text.quoted path.text
  | .directory => "[Errno 21] Is a directory: " ++ Text.quoted path.text
  | .notDirectory => "[Errno 20] Not a directory: " ++ Text.quoted path.text
  | .nameTooLong => "[Errno 36] File name too long: " ++ Text.quoted path.text
  | .zeroCharacter => "embedded null byte"
  | .malformed reason => reason

/-- How many faults there are, in words. -/
def faultCount (faults : List Fault) : String :=
  let n := faults.length
  if n = 1 then "1 validation error for ProductConfig"
  else s!"{n} validation errors for ProductConfig"

/-- The report of a configuration error; of faults only their number is told. -/
def ConfigError.message : ConfigError → String
  | .unreadable path reason => "Failed to read " ++ path.text ++ ": " ++ reason.message path
  | .notMapping path => path.text ++ ": expected a mapping at the top level"
  | .settingsNotMapping path => path.text ++ ": settings must be a mapping"
  | .invalidSwitch source text =>
    "Invalid boolean for " ++ source ++ ": " ++ Text.quoted text
  | .faulty faults => faultCount faults
  | .noResource name product => s!"No resource named '{name}' in product {product}"
  | .excludedResource name product => s!"Resource '{name}' is excluded in product {product}"

namespace Product

/-- The keys of a product. -/
def keys : List String := ["name", "settings", "hooks", "resources", "config_dir"]

/-! ### Hooks -/

/-- Reads the hooks of one kind, under the key that names it. -/
def readHooks (key : String) (names : Json) : Checked (HookKind × List String) :=
  Prod.mk <$> (Reader.choice HookKind.text HookKind.all (.text key)).within (.key "[key]")
    <*> Reader.listOf .text names

/-- Reads the hooks of each kind. -/
def readHookTable : Members → Checked (List (HookKind × List String))
  | [] => .valid []
  | (key, names) :: rest =>
    List.cons <$> (readHooks key names).within (.key key) <*> readHookTable rest

/-- Reads the list of hooks. -/
def hookTable : Reader (List (HookKind × List String))
  | .object members => readHookTable members
  | _ => .fault .notMapping

/-- The registry of a table of hooks. -/
def registryOf (table : List (HookKind × List String)) :
    Except RegistrationError HookRegistry :=
  HookRegistry.ofNames (table.map fun (kind, names) => (kind.text, names))

/-- The registry of the hooks of a product, if they are listed. It is made anew for every use. -/
def registry (p : Product) : Except RegistrationError (Option HookRegistry) :=
  match p.hooks with
  | none => .ok none
  | some table => (registryOf table).map some

/-- A product whose hooks can be registered. -/
def checkHooks (p : Product) : Checked Product :=
  match p.registry with
  | .ok _ => .valid p
  | .error e => .fault (.rejected ("Value error, " ++ e.message))

/-! ### Documents -/

/-- Reads the directory of a product, which is then set to where it was found. -/
def directory : Reader Unit
  | .text _ => .valid ()
  | _ => .fault .notPath

/-- Reads resources; `null` is none. -/
def resourceList : Reader (List Descriptor)
  | .null => .valid []
  | v => Reader.listOf Descriptor.read v

/-- Reads a product; its settings are read by themselves. -/
def read (settings : Checked Bool) (ms : Members) : Checked Product :=
  (Product.mk <$> Members.required ms "name" .nonEmptyText
    <*> settings.within (.key "settings")
    <*> Members.optional ms "hooks" (.nullable hookTable) none
    <*> Members.optional ms "resources" resourceList []
    <* Members.optional ms "config_dir" directory ()
    <* Members.closed ms keys).andThen checkHooks

end Product

end CrudPlan
