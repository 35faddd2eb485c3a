/-!
# Log entries

What the service says about its own work: a level, a message, and named values as text.
-/

namespace Gatehouse

namespace Log

/-- How much an entry matters, from most to least. -/
inductive Level where
  | error
  | warn
  | info
  | debug
  | trace
  deriving DecidableEq

/-- The name of a level. -/
def Level.name : Level → String
  | error => "ERROR"
  | warn => "WARN"
  | info => "INFO"
  | debug => "DEBUG"
  | trace => "TRACE"

/-- One entry of the log. -/
structure Entry where
  level : Level
  message : String
  fields : List (String × String)
  deriving DecidableEq

/-- An entry about details. -/
def debug (message : String) (fields : List (String × String)) : Entry := ⟨.debug, message, fields⟩

/-- An entry about the normal course of things. -/
def info (message : String) (fields : List (String × String)) : Entry := ⟨.info, message, fields⟩

/-- An entry about a failure. -/
def error (message : String) (fields : List (String × String)) : Entry := ⟨.error, message, fields⟩

/-- An entry about something lost. -/
def warn (message : String) (fields : List (String × String)) : Entry := ⟨.warn, message, fields⟩

/-- An entry about the finest details. -/
def trace (message : String) (fields : List (String × String)) : Entry := ⟨.trace, message, fields⟩

/-- A truth value as text. -/
def flag (b : Bool) : String := if b then "true" else "false"

end Log

end Gatehouse
