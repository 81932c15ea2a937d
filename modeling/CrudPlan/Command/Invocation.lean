import CrudPlan.Command.Options
import CrudPlan.Product.Path

/-!
# The command line

* `CommandSettings` say where the product is and how it is resolved and reported;
* `Command` is what to do;
* `Invocation.ofArguments` reads a command line.
-/

namespace CrudPlan

/-- The options before the command. -/
structure CommandSettings where
  /-- Where the product is. -/
  config : String := "product.yaml"
  /-- Whether upgrades without steps are an issue, if the product does not decide. -/
  strict : Option Bool := none
  /-- Whether reports are left without colour. -/
  noColour : Bool := false
  /-- How much is logged. -/
  verbose : Nat := 0
  /-- Whether only errors are logged. -/
  quiet : Bool := false
  /-- Whether only the version is asked for. -/
  version : Bool := false
  deriving DecidableEq, Repr

/-- What to do with a product. -/
inductive Command where
  /-- Resolve one resource or all, and report in words or in JSON. -/
  | resolve (resource : Option String) (asJson : Bool)
  /-- Say whether every resource can be resolved. -/
  | validate
  /-- Draw the table of resources. -/
  | status
  /-- Match an id with the import formats of a resource. -/
  | matchId (resource id : String)
  deriving DecidableEq, Repr

/-- What a command line asks for. -/
inductive Invocation where
  /-- To tell the version. -/
  | version
  /-- To look for the product where no file can be. -/
  | impossible
  /-- To run a command. -/
  | perform (settings : CommandSettings) (command : Command)
  deriving DecidableEq, Repr

namespace Invocation

/-- The options before the command. -/
def globalOptions : OptionTable CommandSettings :=
  let config := OptionEffect.value fun value (s : CommandSettings) => { s with config := value }
  let verbose := OptionEffect.flag fun (s : CommandSettings) => { s with verbose := s.verbose + 1 }
  let quiet := OptionEffect.flag fun (s : CommandSettings) => { s with quiet := true }
  let version := OptionEffect.flag fun (s : CommandSettings) => { s with version := true }
  [("--config", config), ("-c", config),
    ("--strict-upgrades", .flag fun s => { s with strict := some true }),
    ("--lenient-upgrades", .flag fun s => { s with strict := some false }),
    ("--no-color", .flag fun s => { s with noColour := true }),
    ("--verbose", verbose), ("-v", verbose),
    ("--quiet", quiet), ("-q", quiet),
    ("--version", version), ("-V", version)]

/-- The options of the command that resolves: the name of a resource, and whether JSON is asked
for. -/
def resolveOptions : OptionTable (Option String × Bool) :=
  let resource := OptionEffect.value fun value (s : Option String × Bool) => (some value, s.2)
  [("--resource", resource), ("-r", resource), ("--json", .flag fun s => (s.1, true))]

/-- A command that takes neither options nor arguments. -/
def plainCommand (command : Command) (arguments : List String) : Except UsageError Command := do
  let (_, others) ← OptionTable.read (σ := Unit) [] true () arguments
  match others with
  | [] => return command
  | _ => throw .extraArgument

/-- Reads a command and its arguments. -/
def readCommand (name : String) (arguments : List String) : Except UsageError Command :=
  match name with
  | "resolve" => do
    let ((resource, asJson), others) ← resolveOptions.read true (none, false) arguments
    match others with
    | [] => return .resolve resource asJson
    | _ => throw .extraArgument
  | "validate" => plainCommand .validate arguments
  | "status" => plainCommand .status arguments
  | "match" => do
    let (_, others) ← OptionTable.read (σ := Unit) [] true () arguments
    match others with
    | [resource, id] => return .matchId resource id
    | _ :: _ :: _ => throw .extraArgument
    | _ => throw .missingArgument
  | _ => .error (.unknownCommand name)

/-- What options ask for whatever the command is: the version is told before the place of the
product is looked at, and no path has a zero character. -/
def ofSettings? (s : CommandSettings) : Option Invocation :=
  if s.version then some .version
  else if s.config.contains '\x00' then some .impossible
  else none

/-- What options at the head of arguments ask for whatever the command is, if they can be
understood. -/
def ofHead? (arguments : List String) : Option Invocation :=
  match globalOptions.read false {} arguments with
  | .ok (settings, _) => ofSettings? settings
  | .error _ => none

/-- Reads a command line. What options alone decide is done as soon as the options before the
command are understood, also if they stand where the command should be, behind two dashes. -/
def ofArguments (arguments : List String) : Except UsageError Invocation := do
  let (settings, others) ← globalOptions.read false {} arguments
  match ofSettings? settings <|> ofHead? others with
  | some invocation => return invocation
  | none =>
    match others with
    | [] => throw .missingCommand
    | name :: rest =>
      if settings.quiet ∧ settings.verbose ≠ 0 then throw .conflictingOptions
      else return .perform settings (← readCommand name rest)

end Invocation

end CrudPlan
