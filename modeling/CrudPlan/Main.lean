import CrudPlan.Command.Run
import CrudPlan.Json.Parser

/-!
# The program

Reads the command line, the product file and the environment, runs the command and shows what it
has to say. Products are read as JSON.
-/

namespace CrudPlan.Main

/-- The variables of the environment that the program looks at, beside those that the file of
variables refers to. -/
def variableNames : List String :=
  [Settings.strictVariable, Text.lower Settings.strictVariable, logVariable, noColourVariable]

/-- The words of a text that may be names of variables. -/
def words (text : String) : List String :=
  ((text.toList.map fun c => if Template.isNameChar c then c else ' ').splitBy
    fun a b => (a == ' ') == (b == ' ')).map String.ofList

/-- The text of a file, if it can be read. -/
def readText? (path : FilePath) : IO (Option String) := do
  try
    return some (← IO.FS.readFile path.text)
  catch _ => return none

/-- The document of a text. -/
def readDocument (text : String) : Except ReadError Json :=
  match Json.parse? text with
  | some value => .ok value
  | none => .error (.malformed "not a JSON document")

/-- The workspace that the program runs in, with the product file at a path. -/
def workspace (path : FilePath) : IO Workspace := do
  let mut w : Workspace := {}
  let envPath := path.parent.child ".env"
  for file in [envPath, path] do
    if let some text := (← readText? file) then
      w := w.withFile file (.text text (readDocument text))
  for name in firstOccurrences (variableNames ++ words ((w.text? envPath).getD "")) do
    if let some value := (← IO.getEnv name) then
      w := { w with environment := w.environment ++ [(name, value)] }
  return w

/-- Shows a transcript and gives back its exit code. -/
def showTranscript (t : Transcript) : IO UInt32 := do
  let output ← IO.getStdout
  let errors ← IO.getStderr
  let outputIsTerminal ← output.isTty
  let errorsIsTerminal ← errors.isTty
  for e in t.events do
    output.putStr (e.output outputIsTerminal)
    errors.putStr (e.errors errorsIsTerminal)
  return t.exitCode.toUInt32

/-- Runs a command line. -/
def runArguments (arguments : List String) : IO UInt32 := do
  match Invocation.ofArguments arguments with
  | .error _ =>
    (← IO.getStderr).putStrLn "Usage: resplan [OPTIONS] COMMAND [ARGS]..."
    return Invocation.usageExitCode.toUInt32
  | .ok invocation =>
    let path := match invocation with
      | .perform settings _ => settings.config
      | _ => ""
    showTranscript (invocation.run (← workspace (.ofText path)))

end CrudPlan.Main

/-- The program. -/
def main (arguments : List String) : IO UInt32 := CrudPlan.Main.runArguments arguments
