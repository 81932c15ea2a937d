import CrudPlan.Log
import CrudPlan.Text.Ansi

/-!
# Transcripts

What a run of the program shows: events in order, and the exit code.

* `Transcript.output` and `Transcript.errors` are the texts of the two outputs. Escape sequences
  only reach a terminal;
* `LogChoice` says which log entries are shown, and how.
-/

namespace CrudPlan

/-- Something that a run shows. -/
inductive Event where
  /-- A line of the output. -/
  | printed (line : String)
  /-- Lines of the output that reach it as they are. -/
  | drawn (lines : String)
  /-- A line of the error output. -/
  | complained (line : String)
  /-- A line of the log, which goes to the error output as it is. -/
  | logged (line : String)
  deriving DecidableEq, Repr

/-- What a run shows, and its exit code. -/
structure Transcript where
  /-- What is shown, in order. -/
  events : List Event
  /-- The exit code. -/
  exitCode : Nat
  deriving DecidableEq, Repr

namespace Event

/-- A line as it reaches a terminal, or an output that is none. -/
def shown (terminal : Bool) (line : String) : String :=
  (if terminal then line else Ansi.strip line) ++ "\n"

/-- What an event adds to the output. -/
def output (terminal : Bool) : Event → String
  | .printed line => shown terminal line
  | .drawn lines => lines ++ "\n"
  | _ => ""

/-- What an event adds to the error output. -/
def errors (terminal : Bool) : Event → String
  | .complained line => shown terminal line
  | .logged line => line ++ "\n"
  | _ => ""

end Event

namespace Transcript

variable (t : Transcript)

/-- The output of a run. -/
def output (terminal : Bool) : String := String.join (t.events.map (Event.output terminal))

/-- The error output of a run. -/
def errors (terminal : Bool) : String := String.join (t.events.map (Event.errors terminal))

end Transcript

/-! ### The log -/

/-- Which log entries are shown. -/
inductive LogChoice where
  /-- Warnings and errors, their messages alone. -/
  | messages
  /-- Entries of at least a level, in full. -/
  | from (level : LogLevel)
  deriving DecidableEq, Repr

/-- The least level at which entries are shown; the reader of variable files always warns. -/
def LogChoice.threshold : LogChoice → Logger → LogLevel
  | .messages, _ => .warning
  | .from _, .envFile => .warning
  | .from level, _ => level

/-- The lines of the log that are shown. -/
def LogChoice.events (choice : LogChoice) (entries : List LogEntry) : List Event :=
  (entries.filter fun e => (choice.threshold e.logger).rank ≤ e.level.rank).map fun e =>
    match choice with
    | .messages => .logged e.message
    | .from _ => .logged e.line

end CrudPlan
