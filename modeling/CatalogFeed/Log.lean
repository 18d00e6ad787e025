/-!
# Log — events for the operator

A `LogEntry` has a level, a fixed message and named fields.
-/

namespace CatalogFeed

/-- How grave a log entry is. -/
inductive Level where
  | error
  | warn
  | info
  | debug
  deriving DecidableEq, Repr

/-- The name of a level. -/
def Level.name : Level → String
  | .error => "ERROR"
  | .warn => "WARN"
  | .info => "INFO"
  | .debug => "DEBUG"

/-- The value of a field. -/
inductive FieldValue where
  | text (s : String)
  | count (n : Nat)
  | flag (b : Bool)
  deriving DecidableEq, Repr

/-- One log entry. -/
structure LogEntry where
  level : Level
  message : String
  fields : List (String × FieldValue)
  deriving DecidableEq, Repr

namespace LogEntry

def error (message : String) (fields : List (String × FieldValue) := []) : LogEntry :=
  ⟨.error, message, fields⟩

def warn (message : String) (fields : List (String × FieldValue) := []) : LogEntry :=
  ⟨.warn, message, fields⟩

def info (message : String) (fields : List (String × FieldValue) := []) : LogEntry :=
  ⟨.info, message, fields⟩

def debug (message : String) (fields : List (String × FieldValue) := []) : LogEntry :=
  ⟨.debug, message, fields⟩

end LogEntry
end CatalogFeed
