-- SUMMARY: Log records: a level, a message and named fields.

/-!
# Log records

What the relay reports while it works. Fields are kept as text, in the order
they are given.
-/

namespace WebhookRelay

/-- How grave a record is. -/
inductive LogLevel where
  | error
  | warn
  | info
  | debug
  deriving DecidableEq, Repr

/-- The name of a level. -/
def LogLevel.name : LogLevel → String
  | .error => "ERROR"
  | .warn => "WARN"
  | .info => "INFO"
  | .debug => "DEBUG"

/-- One report. -/
structure LogRecord where
  level : LogLevel
  message : String
  fields : List (String × String)
  deriving DecidableEq, Repr

end WebhookRelay
