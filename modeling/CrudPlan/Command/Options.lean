/-!
# Options

Options come before the arguments of a command. A long option is a word after two dashes, its value
in the next argument or after `=`; short ones are letters after one dash, several in one argument,
the value of the last in the rest of it or in the next. Two dashes alone end the options.

* `OptionTable.read` reads the options of a table and gives back the other arguments.
-/

namespace CrudPlan

/-- Why a command line cannot be understood. -/
inductive UsageError where
  | unknownOption (name : String)
  | missingValue (option : String)
  | unexpectedValue (option : String)
  | missingCommand
  | unknownCommand (name : String)
  | missingArgument
  | extraArgument
  | conflictingOptions
  deriving DecidableEq, Repr

/-- What an option does to the settings of a command. -/
inductive OptionEffect (σ : Type) where
  /-- An option without a value. -/
  | flag (set : σ → σ)
  /-- An option with a value. -/
  | value (set : String → σ → σ)

/-- The options of a command, by their names with dashes. -/
abbrev OptionTable (σ : Type) := List (String × OptionEffect σ)

namespace OptionTable

variable {σ : Type} (table : OptionTable σ)

/-- What an argument that starts with a dash asks for. -/
inductive Request (σ : Type) where
  /-- The settings are changed. -/
  | done (settings : σ)
  /-- The next argument is a value. -/
  | needsValue (option : String) (set : String → σ → σ) (settings : σ)

/-- Reads the letters of short options. -/
def readShort (settings : σ) : List Char → Except UsageError (Request σ)
  | [] => .ok (.done settings)
  | c :: rest =>
    let name := String.ofList ['-', c]
    match table.lookup name with
    | none => .error (.unknownOption name)
    | some (.flag set) => readShort (set settings) rest
    | some (.value set) =>
      if rest.isEmpty then .ok (.needsValue name set settings)
      else .ok (.done (set (String.ofList rest) settings))

/-- Reads a long option, with its dashes. -/
def readLong (settings : σ) (argument : List Char) : Except UsageError (Request σ) :=
  let name := String.ofList (argument.takeWhile (· != '='))
  match table.lookup name, argument.dropWhile (· != '=') with
  | none, _ => .error (.unknownOption name)
  | some (.flag set), [] => .ok (.done (set settings))
  | some (.flag _), _ :: _ => .error (.unexpectedValue name)
  | some (.value set), [] => .ok (.needsValue name set settings)
  | some (.value set), _ :: value => .ok (.done (set (String.ofList value) settings))

/-- Reads an argument; `none` if it is no option. -/
def readArgument (settings : σ) (argument : String) : Option (Except UsageError (Request σ)) :=
  match argument.toList with
  | '-' :: '-' :: _ => some (readLong table settings argument.toList)
  | '-' :: c :: rest => some (readShort table settings (c :: rest))
  | _ => none

/-- Reads options, and gives back the settings and the other arguments. If options and arguments
may be `mixed`, options are also looked for behind the first argument. -/
def read (mixed : Bool) (settings : σ) : List String → Except UsageError (σ × List String)
  | [] => .ok (settings, [])
  | argument :: rest =>
    if argument = "--" then .ok (settings, rest)
    else
      match readArgument table settings argument with
      | none =>
        if mixed then
          (read mixed settings rest).map fun (settings, others) => (settings, argument :: others)
        else .ok (settings, argument :: rest)
      | some (.error e) => .error e
      | some (.ok (.done settings)) => read mixed settings rest
      | some (.ok (.needsValue option set settings)) =>
        match rest with
        | [] => .error (.missingValue option)
        | value :: rest => read mixed (set value settings) rest

end OptionTable

end CrudPlan
