import CrudPlan.Text.Quoted

/-!
# Log entries

What the program tells about its work while it goes on.

* `LogEntry` has a level, the part of the program it comes from and a message;
* `LogEntry.line` writes an entry in full.
-/

namespace CrudPlan

/-- How much an entry matters. -/
inductive LogLevel where
  | debug
  | info
  | warning
  | error
  deriving DecidableEq, Repr

namespace LogLevel

/-- Every level, from the least to the greatest. -/
def all : List LogLevel := [.debug, .info, .warning, .error]

/-- The name of a level. -/
def text : LogLevel → String
  | .debug => "DEBUG"
  | .info => "INFO"
  | .warning => "WARNING"
  | .error => "ERROR"

/-- The place of a level among all. -/
def rank : LogLevel → Nat
  | .debug => 0
  | .info => 1
  | .warning => 2
  | .error => 3

end LogLevel

/-- The part of the program that an entry comes from. -/
inductive Logger where
  | envFile
  | loader
  | urls
  | identity
  | mutex
  | stateSchema
  | assembler
  deriving DecidableEq, Repr

/-- The name of a part. -/
def Logger.text : Logger → String
  | .envFile => "dotenv.main"
  | .loader => "resplan.config.loader"
  | .urls => "resplan.resolver.urls"
  | .identity => "resplan.resolver.identity"
  | .mutex => "resplan.resolver.mutex"
  | .stateSchema => "resplan.resolver.state_schema"
  | .assembler => "resplan.resolver.assembler"

/-- One entry of the log. -/
structure LogEntry where
  /-- How much it matters. -/
  level : LogLevel
  /-- Where it comes from. -/
  logger : Logger
  /-- What it says. -/
  message : String
  deriving DecidableEq, Repr

/-- The entry in full: level, part and message. -/
def LogEntry.line (e : LogEntry) : String :=
  e.level.text ++ " " ++ e.logger.text ++ ": " ++ e.message

end CrudPlan
