import CrudPlan.Product.VariableLookup

/-!
# Settings

The settings of a product come from its file, then from the environment, then from the file of
variables beside it: the first source that has a value wins, and the others are not looked at.

* `Settings.source?` is the value of the strictness setting from the first source that has one;
* `Settings.resolve` puts it among the settings of the file;
* `Settings.read` reads completed settings. Keys may then be in upper or lower case, and if there is
  still no value, a variable is looked up as a `VariableLookup` says.
-/

namespace CrudPlan.Settings

/-- The key of the strictness setting. -/
def strictKey : String := "strict_state_upgrades"

/-- The variable of the strictness setting. -/
def strictVariable : String := "RESPLAN_STRICT_STATE_UPGRADES"

/-- The words that stand for truth values in settings. -/
def words : List (String × Bool) :=
  [("yes", true), ("no", false), ("y", true), ("n", false), ("true", true), ("false", false),
    ("on", true), ("off", false)]

/-- The truth value of a word, in upper or lower case. -/
def ofWord? (s : String) : Option Bool :=
  words.lookup (String.ofList (s.toList.map Char.toLower))

/-- A value that is not `null`. -/
def present? : Option Json → Option Json
  | some .null => none
  | v => v

/-- The value of a variable in the file of variables. -/
def fileVariable? (w : Workspace) (envFile : Option String) (name : String) : Option String :=
  envFile.bind fun text => ((EnvFile.values w.environment text).lookup name).join

/-- The strictness setting from the first source that has one. -/
def source? (w : Workspace) (envFile : Option String) (raw : Members) : Option Json :=
  present? (raw.lookup strictKey) <|> (w.valueOf? strictVariable).map .text <|>
    (fileVariable? w envFile strictVariable).map .text

/-- A setting as a truth value, if it is given as a word. -/
def switch : Json → Except ConfigError Json
  | .text s =>
    match ofWord? s with
    | some b => .ok (.bool b)
    | none => .error (.invalidSwitch strictVariable s)
  | v => .ok v

/-- The members with one of them set. -/
def setMember (key : String) (v : Json) (ms : Members) : Members :=
  if (ms.lookup key).isSome then ms.map fun m => if m.1 = key then (key, v) else m
  else ms ++ [(key, v)]

/-- The settings of a file, completed from the other sources. -/
def resolve (w : Workspace) (envFile : Option String) (raw : Members) :
    Except ConfigError Members :=
  match source? w envFile raw with
  | none => .ok raw
  | some v => (switch v).map fun v => setMember strictKey v raw

/-! ### Completed settings -/

/-- Whether a key is that of the strictness setting, in upper or lower case. -/
def isStrictKey (key : String) : Bool := Text.lower key == strictKey

/-- The strictness setting among completed settings: that of the first key which is its own. -/
def given? (ms : Members) : Option Json := (ms.find? fun (key, _) => isStrictKey key).map (·.2)

/-- How the variable of the strictness setting is looked up. -/
def variableLookup (ms : Members) : VariableLookup := .ofMembers strictKey ms

/-- Reads completed settings; without a strictness setting they are lenient. -/
def read (w : Workspace) (ms : Members) : Checked Bool :=
  let l := variableLookup ms
  (match given? ms <|> l.value? w with
    | some v => (Reader.bool v).within (.key strictKey)
    | none => .valid false)
    <* Members.closed ((l.strayNames w).map fun name => (name, .null)) [strictKey]
    <* Members.closed (ms.filter fun (key, _) => !isStrictKey key) VariableLookup.keys

end CrudPlan.Settings
