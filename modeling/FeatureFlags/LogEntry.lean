import FeatureFlags.SortedMap
import FeatureFlags.Task

/-!
# Log entries

What the library reports about its own work: a level, a message, and named fields whose
values are texts.
-/

namespace FeatureFlags

inductive LogLevel where
  | debug
  | warn
  | error
deriving DecidableEq, Inhabited

namespace LogLevel

def name : LogLevel → String
  | debug => "DEBUG"
  | warn => "WARN"
  | error => "ERROR"

end LogLevel

/-- One report. -/
structure LogEntry where
  level : LogLevel
  message : String
  fields : List (String × String)
deriving DecidableEq, Inhabited

namespace LogEntry

def debug (message : String) (fields : List (String × String)) : LogEntry :=
  ⟨.debug, message, fields⟩

def warn (message : String) (fields : List (String × String)) : LogEntry :=
  ⟨.warn, message, fields⟩

def error (message : String) (fields : List (String × String)) : LogEntry :=
  ⟨.error, message, fields⟩

/-- Level, message and fields by name. -/
def toMap (entry : LogEntry) : SortedMap String :=
  .ofList (("level", entry.level.name) :: ("message", entry.message) :: entry.fields)

end LogEntry

/-- How reports are kept in a state. -/
abbrev Journal (σ : Type) := LogEntry → σ → σ

/-- Keeps a report. -/
def Task.log {σ : Type} (journal : Journal σ) (entry : LogEntry) : Task σ Unit :=
  Task.modify (journal entry)

end FeatureFlags
