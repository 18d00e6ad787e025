import CatalogFeed.Json.Problem
import CatalogFeed.Kafka.Error
import CatalogFeed.Text.Utf8

/-!
# Error — what can go wrong

`Error` covers both sides of the program: `CatalogError` for the catalog, the other constructors for
the message bus and its surroundings.  The failures of the Kafka client are of a type of their own,
by default that of what is asked of them.  Two questions decide how a publisher cleans up:

* `Error.isSessionInvalid`: the session is stale, and a new connection may help;
* `Error.poisonsSession`: the state of the session's transaction can no longer be trusted.
-/

namespace CatalogFeed

/-- What the catalog refuses. -/
inductive CatalogError where
  | noSuchObject (name : String)
  | invalidOperation (reason : String)
  | unavailable (reason : String)
  deriving DecidableEq, Repr

/-- The text of a catalog error. -/
def CatalogError.message : CatalogError → String
  | .noSuchObject name => "No such object: " ++ name
  | .invalidOperation reason => "Invalid operation: " ++ reason
  | .unavailable reason => "Catalog unavailable: " ++ reason

/-- Why a file or stream could not be read. -/
inductive ReadError where
  | invalidText (flaw : Text.Flaw)
  | notFound
  | other (reason : String)
  deriving DecidableEq, Repr

/-- The text of a flaw. -/
def Text.Flaw.message (flaw : Text.Flaw) : String :=
  match flaw.length with
  | some n =>
    "invalid utf-8 sequence of " ++ toString n ++ " bytes from index " ++ toString flaw.index
  | none => "incomplete utf-8 byte sequence from index " ++ toString flaw.index

/-- The text of a read error. -/
def ReadError.message : ReadError → String
  | .invalidText flaw => flaw.message
  | .notFound => "No such file or directory (os error 2)"
  | .other reason => reason

/-- What can go wrong, with a client whose failures are of the type `κ`. -/
inductive Error (κ : Type := KafkaError) where
  | config (reason : String)
  | kafka (cause : κ)
  | serialization (problem : Json.Problem)
  | io (cause : ReadError)
  /-- No connection factory is bound under the name. -/
  | lookup (name : String)
  | connection (reason : String)
  | sessionInvalid (reason : String)
  | broker (reason : String)
  | timeout (reason : String)
  | catalog (cause : CatalogError)
  deriving DecidableEq, Repr

/-- The text of a refused document. -/
def Json.Problem.message : Json.Problem → String
  | .grammar .malformed => "malformed document"
  | .grammar .cutShort => "unexpected end of document"
  | .meaning mismatch => mismatch.message .document

namespace Error

variable {κ : Type} [KafkaFailure κ]

/-- The text of an error. -/
def message : Error κ → String
  | .config reason => "Configuration error: " ++ reason
  | .kafka cause => "Kafka error: " ++ KafkaFailure.message cause
  | .serialization problem => "Serialization error: " ++ problem.message
  | .io cause => "IO error: " ++ cause.message
  | .lookup name => "Directory lookup failed: no connection factory bound to '" ++ name ++ "'"
  | .connection reason => "Connection error: " ++ reason
  | .sessionInvalid reason => "Session invalid: " ++ reason
  | .broker reason => "Broker error: " ++ reason
  | .timeout reason => "Timeout error: " ++ reason
  | .catalog cause => "Catalog error: " ++ cause.message

/-- Whether the session is stale, so that only a new connection can help. -/
def isSessionInvalid : Error κ → Bool
  | .sessionInvalid _ => true
  | .kafka cause => KafkaFailure.isFatal cause
  | _ => false

/-- Whether the session's transaction can no longer be trusted: the session is stale, or a call on
it was cut off. -/
def poisonsSession : Error κ → Bool
  | .timeout _ => true
  | e => e.isSessionInvalid

@[simp] theorem poisonsSession_timeout (reason : String) :
    (timeout reason : Error κ).poisonsSession = true := rfl

theorem poisonsSession_of_isSessionInvalid {e : Error κ} (h : e.isSessionInvalid = true) :
    e.poisonsSession = true := by
  cases e <;> simp_all [poisonsSession, isSessionInvalid]

end Error
end CatalogFeed
