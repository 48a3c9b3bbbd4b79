/-!
# Log events

What the parts of the library note about their work, in the order in which it
happens.  An event has a level, a message and named fields.
-/

namespace TreeScan

/-- How important an event is. -/
inductive LogLevel where
  | trace | debug | warn | error
deriving DecidableEq, Repr

/-- A level as it is shown. -/
def LogLevel.name : LogLevel → String
  | .trace => "TRACE"
  | .debug => "DEBUG"
  | .warn => "WARN"
  | .error => "ERROR"

/-- The value of a field. -/
inductive LogValue where
  | text (value : String)
  | number (value : Nat)
deriving DecidableEq, Repr

/-- An event. -/
structure LogEvent where
  level : LogLevel
  message : String
  fields : List (String × LogValue)
deriving DecidableEq, Repr

end TreeScan
