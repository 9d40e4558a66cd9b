import LspClient.Json.Value

/-!
# Log records

What the client reports beside its results: a level, a message, and named fields.
-/

namespace LspClient

/-- How much a record matters. -/
inductive LogLevel where
  | error
  | warn
  | info
  | debug
  deriving DecidableEq, Repr

/-- The level as a record shows it. -/
def LogLevel.label : LogLevel → String
  | .error => "ERROR"
  | .warn => "WARN"
  | .info => "INFO"
  | .debug => "DEBUG"

/-- One record. -/
structure LogRecord where
  level : LogLevel
  message : String
  fields : List (String × Json) := []

/-- A record of something that went wrong and could be dealt with. -/
def LogRecord.warning (message : String) (fields : List (String × Json) := []) : LogRecord :=
  ⟨.warn, message, fields⟩

end LspClient
