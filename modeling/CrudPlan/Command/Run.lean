import CrudPlan.Command.Invocation
import CrudPlan.Command.Transcript
import CrudPlan.Product.Resolve
import CrudPlan.Report.Block
import CrudPlan.Report.Table
import CrudPlan.Text.LetterCase

/-!
# Running commands

* `Command.run` runs a command on a workspace;
* `Invocation.run` runs a command line. A command line that cannot be understood has exit code 2,
  a product or a resource that cannot be resolved has exit code 1.
-/

namespace CrudPlan

/-! ### Complaints -/

/-- The look of complaints. -/
def complaintStyle (coloured : Bool) : Ansi.Style :=
  { colour := if coloured then some .red else none }

/-- The lines that complain about a problem. -/
def Problem.complaint : Problem → List String
  | .configuration message => ["Configuration error: " ++ message]
  | .unresolved resource issues =>
    let name := match resource with
      | none => "resource"
      | some "" => "resource"
      | some name => name
    ("Resolution of " ++ name ++ " failed:") :: issues.map fun i => "  - " ++ i.text
  | .duplicateResource name => ["Duplicate resource: " ++ name]
  | problem => ["Error: " ++ problem.message]

/-- The complaint about a problem. -/
def Problem.events (coloured : Bool) (p : Problem) : List Event :=
  p.complaint.map fun line => .complained ((complaintStyle coloured).paint line)

/-- The complaint about a configuration. The faults of a product are not listed, and the list is
left open. -/
def ConfigError.events (coloured : Bool) (e : ConfigError) : List Event :=
  match e with
  | .faulty faults =>
    [.complained ((complaintStyle coloured).start ++ "Configuration error: " ++ faultCount faults)]
  | e => e.problem.events coloured

/-- The complaint about a request. -/
def RequestError.events (coloured : Bool) : RequestError → List Event
  | .config e => e.events coloured
  | e => e.problem.events coloured

/-! ### Commands -/

/-- What commands share: where the product is and how it is resolved and reported. -/
structure CommandContext where
  /-- What the product is loaded from. -/
  workspace : Workspace
  /-- Where the product is. -/
  path : FilePath
  /-- Whether upgrades without steps are an issue, if the product does not decide. -/
  strict : Option Bool
  /-- Whether reports have colour. -/
  coloured : Bool
  /-- Which log entries are shown. -/
  log : LogChoice

namespace CommandContext

variable (c : CommandContext)

/-- Runs a command on the product, or complains about it. -/
def withProduct (run : Product → Transcript) : Transcript :=
  let loading := c.log.events (Product.loadTrace c.workspace c.path)
  match Product.load c.workspace c.path with
  | .error e => ⟨loading ++ e.events c.coloured, 1⟩
  | .ok p => let t := run p; ⟨loading ++ t.events, t.exitCode⟩

/-- Runs a command on the plan of a resource, or complains about it. -/
def withPlan (name : String) (run : Plan → Transcript) : Transcript :=
  c.withProduct fun p =>
    let resolving := c.log.events (p.resolveOneTrace name c.strict)
    match p.resolveOne name c.strict with
    | .error e => ⟨resolving ++ e.events c.coloured, 1⟩
    | .ok plan => let t := run plan; ⟨resolving ++ t.events, t.exitCode⟩

/-- Runs a command on the result of a batch, which decides the exit code, or complains if there is
none. There may be no report of the result, which counts as a failure. -/
def withBatch (report : BatchResult → Option (List Event)) : Transcript :=
  c.withProduct fun p =>
    let resolving := c.log.events (p.resolveAllTrace c.strict)
    match p.resolveAll c.strict with
    | .error crash => ⟨resolving ++ crash.problem.events c.coloured, 1⟩
    | .ok r =>
      match report r with
      | some events => ⟨resolving ++ events, if r.ok then 0 else 1⟩
      | none => ⟨resolving, 1⟩

/-- The report of a plan, which may have numbers that cannot be written. -/
def planText (asJson : Bool) (plan : Plan) : Except Overload String :=
  if asJson then .ok plan.toJson.document else Report.writtenPlan c.coloured plan

/-- Resolves one resource. -/
def resolveOne (name : String) (asJson : Bool) : Transcript :=
  c.withPlan name fun plan =>
    match c.planText asJson plan with
    | .ok text => ⟨[.printed text], 0⟩
    | .error _ => ⟨[], 1⟩

/-- The report of a batch, which may have numbers that cannot be written. -/
def batchEvents (asJson : Bool) (r : BatchResult) : Except Overload (List Event) :=
  if asJson then
    ((Json.listOf Plan.toJson r.plans).written Json.report).map fun text =>
      .printed text :: r.failures.flatMap fun f => f.problem.events c.coloured
  else
    (Report.writtenBatch c.coloured r).map fun text =>
      [.printed text, .printed "", .printed (Report.summary c.coloured r.summary)]

/-- Resolves every resource. -/
def resolveAll (asJson : Bool) : Transcript :=
  c.withBatch fun r => (c.batchEvents asJson r).toOption

/-- Says whether every resource can be resolved. -/
def validate : Transcript :=
  c.withBatch fun r => some <|
    if r.ok then
      [.printed (Ansi.painter c.coloured Report.resolvedStyle "Configuration is valid.")]
    else r.failures.map fun f => .complained (Report.failure c.coloured f)

/-- Draws the table of resources. -/
def status : Transcript := c.withBatch fun r => (Report.status r).map fun t => [.drawn t.text]

/-- The first import format that matches an id, with the values of its tokens. -/
def firstMatch? (formats : List ImportFormat) (id : String) :
    Option (ImportFormat × List (String × String)) :=
  formats.findSome? fun f => (f.values? id).map fun values => (f, values)

/-- Matches an id with the import formats of a resource. -/
def matchId (name id : String) : Transcript :=
  c.withPlan name fun plan =>
    let paint := Ansi.painter c.coloured
    match firstMatch? plan.identity.importFormats id with
    | some (f, values) =>
      ⟨.printed (paint Report.resolvedStyle ("Matched " ++ f.template.source)) ::
        values.map fun (token, value) => .printed ("  " ++ token ++ " = " ++ value), 0⟩
    | none =>
      ⟨[.complained (paint Report.failedStyle
        ("No import format of " ++ name ++ " matches '" ++ id ++ "'."))], 1⟩

/-- Runs a command. -/
def run : Command → Transcript
  | .resolve (some name) asJson => c.resolveOne name asJson
  | .resolve none asJson => c.resolveAll asJson
  | .validate => c.validate
  | .status => c.status
  | .matchId name id => c.matchId name id

end CommandContext

/-! ### Command lines -/

/-- The variable that chooses the log level. -/
def logVariable : String := "RESPLAN_LOG"

/-- The variable that turns colour off. -/
def noColourVariable : String := "NO_COLOR"

/-- The complaint about a log level that does not exist. -/
def badLevelEvent (name : String) : Event :=
  .complained ("WARNING: invalid RESPLAN_LOG level '" ++ name ++ "', expected one of " ++
    ", ".intercalate (LogLevel.all.map LogLevel.text) ++ "; using WARNING")

/-- The log entries that options ask for. -/
def CommandSettings.logChoice (s : CommandSettings) : LogChoice :=
  if s.quiet then .from .error
  else if 2 ≤ s.verbose then .from .debug
  else if s.verbose = 1 then .from .info
  else .messages

/-- The log entries to show, and a complaint if the environment asks for a level that does not
exist. The environment goes before the options. -/
def chooseLog (w : Workspace) (s : CommandSettings) : LogChoice × List Event :=
  match Text.upper ((w.valueOf? logVariable).getD "") with
  | "" => (s.logChoice, [])
  | name =>
    match LogLevel.all.find? (·.text == name) with
    | some level => (.from level, [])
    | none => (.from .warning, [badLevelEvent name])

/-- Whether reports have colour. -/
def CommandSettings.coloured (w : Workspace) (s : CommandSettings) : Bool :=
  !s.noColour && (w.valueOf? noColourVariable).getD "" == ""

namespace Invocation

/-- The line that tells the version. -/
def versionLine : String := "resplan 0.1.0"

/-- Runs what a command line asks for. -/
def run (w : Workspace) : Invocation → Transcript
  | .version => ⟨[.printed versionLine], 0⟩
  | .impossible => ⟨[], 1⟩
  | .perform settings command =>
    let (log, complaints) := chooseLog w settings
    let context : CommandContext :=
      ⟨w, .ofText settings.config, settings.strict, settings.coloured w, log⟩
    let t := context.run command
    ⟨complaints ++ t.events, t.exitCode⟩

/-- The exit code of a command line that cannot be understood. -/
def usageExitCode : Nat := 2

end Invocation

end CrudPlan
