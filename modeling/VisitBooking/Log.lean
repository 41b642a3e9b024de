/-!
# Log records

What the system tells its operators: a message with a level and with fields that have names.
-/

namespace VisitBooking

/-- How much a record matters. -/
inductive LogLevel where
  | debug
  | info
  | error
deriving DecidableEq, Repr, Inhabited

/-- The name of a level. -/
def LogLevel.name : LogLevel → String
  | .debug => "DEBUG"
  | .info => "INFO"
  | .error => "ERROR"

/-- One record. -/
structure LogRecord where
  level : LogLevel
  message : String
  fields : List (String × String) := []
deriving DecidableEq, Repr, Inhabited

/-- A record of the ordinary course of things. -/
def LogRecord.info (message : String) (fields : List (String × String)) : LogRecord :=
  { level := .info, message := message, fields := fields }

end VisitBooking
