import CrudPlan.Product.Basic
import CrudPlan.Product.EnvFile
import CrudPlan.Text.LetterCase

/-!
# Looking variables up

A setting without a value is looked up in the environment, then in files of variables that the
settings name. Members of the settings whose keys start with an underscore say how.

* `VariableLookup.ofMembers` is how settings ask for a variable to be looked up;
* `VariableLookup.value?` is the value of that variable;
* `VariableLookup.strayNames` are the other variables of the files.
-/

namespace CrudPlan

/-- How a variable is looked up. -/
structure VariableLookup where
  /-- The name of the variable. -/
  name : String
  /-- Whether names have to agree in upper and lower case. -/
  exactCase : Bool := false
  /-- Whether variables without a text are passed over. -/
  ignoreEmpty : Bool := false
  /-- The text that stands for `null`, if there is one. -/
  nullWord : Option String := none
  /-- Files of variables that are looked at after the environment, the last one first. -/
  files : List FilePath := []
  deriving DecidableEq, Repr

namespace VariableLookup

/-! ### Members of the settings -/

/-- The keys of members that are no settings themselves but say how settings are found. What the
keys ask for that have to do with command lines, secrets or nested settings is left out: they are
only told from keys that do not exist. -/
def keys : List String := [
  "_case_sensitive", "_nested_model_default_partial_update", "_env_prefix", "_env_prefix_target",
  "_env_file", "_env_file_encoding", "_env_ignore_empty", "_env_nested_delimiter",
  "_env_nested_max_split", "_env_parse_none_str", "_env_parse_enums", "_cli_prog_name",
  "_cli_parse_args", "_cli_settings_source", "_cli_parse_none_str", "_cli_hide_none_type",
  "_cli_avoid_json", "_cli_enforce_required", "_cli_use_class_docs_for_groups",
  "_cli_exit_on_error", "_cli_prefix", "_cli_flag_prefix_char", "_cli_implicit_flags",
  "_cli_ignore_unknown_args", "_cli_kebab_case", "_cli_shortcuts", "_secrets_dir"]

/-- The texts of a value: its own, or those of its items. -/
def textsOf : Json → List String
  | .text s => [s]
  | .list items => items.filterMap fun
    | .text s => some s
    | _ => none
  | _ => []

/-- How settings ask for the variable of a setting to be looked up. Its name is the key of the
setting behind a word that all variables of the program start with. -/
def ofMembers (key : String) (ms : Members) : VariableLookup :=
  let isOn := fun name => ((ms.lookup name).map Json.isVoid).getD true == false
  let texts := fun name => ((ms.lookup name).map textsOf).getD []
  { name := (texts "_env_prefix").head?.getD "RESPLAN_" ++ key
    exactCase := isOn "_case_sensitive"
    ignoreEmpty := isOn "_env_ignore_empty"
    nullWord := (texts "_env_parse_none_str").head?
    files := (texts "_env_file").reverse.map .ofText }

/-! ### Values -/

variable (l : VariableLookup) (w : Workspace)

/-- A name as it is compared. -/
def folded (name : String) : String := if l.exactCase then name else Text.lower name

/-- Variables that are not passed over, with their names as they are compared. -/
def kept (bindings : List (String × String)) : List (String × String) :=
  (bindings.filter fun (_, text) => !(l.ignoreEmpty && text == "")).map fun (name, text) =>
    (l.folded name, text)

/-- The texts of the files of variables that there are. -/
def texts : List String := l.files.filterMap w.text?

/-- The variables of files, the latest first. -/
def fileVariables : List (String × String) :=
  l.kept ((l.texts w).flatMap fun text =>
    (EnvFile.values w.environment text).filterMap fun (name, value) => value.map ((name, ·)))

/-- The value of the variable that is looked up: of several in the environment that of the last. -/
def value? : Option Json :=
  let name := l.folded l.name
  let found := (l.kept w.environment.reverse).lookup name <|> (l.fileVariables w).lookup name
  found.map fun text => if l.nullWord = some text then .null else .text text

/-- The names of other variables of files that have a text. They belong to no setting. -/
def strayNames : List String :=
  let bindings := l.fileVariables w
  (firstOccurrences (bindings.reverse.map (·.1))).filter fun name =>
    name != l.folded l.name && (bindings.lookup name).getD "" != ""

end VariableLookup

end CrudPlan
