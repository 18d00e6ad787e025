import CatalogFeed.Bus.Directory
import CatalogFeed.Kafka.Context
import CatalogFeed.Service

/-!
# Kafka/Session — transacted sessions of a Kafka client

A session is checked before any call leaves the client: a closed session, or one whose context has
seen a fatal error, is stale.  A call that passes the check is answered by the client's cluster.  A
transaction begins with the first message after a commit or a rollback, and a fatal answer makes
every session of the context stale.

* `Session.checked` is the check;
* `Client.unreached` answers as a client whose cluster cannot be reached, and `unreachable` is the
  bus whose factories open no connection.
-/

namespace CatalogFeed.Kafka

open Bus (access Call Timed)

variable {κ : Type} [KafkaFailure κ]

/-! ## Clients -/

/-- What the cluster of a client answers to the calls of a session. -/
structure Client (κ : Type) where
  declare : String → Except (Error κ) Unit
  beginTransaction : Except (Error κ) Unit
  produce : String → Message → Except (Error κ) Unit
  commit : Except (Error κ) Unit
  abort : Except (Error κ) Unit

/-- A client whose cluster cannot be reached: no topic is found, for which it has the failure
`noMetadata`, and no transaction begins, for which it has `notInitialized`. -/
def Client.unreached (noMetadata notInitialized : κ) : Client κ where
  declare _ := .error (.kafka noMetadata)
  beginTransaction := .error (.kafka notInitialized)
  produce _ _ := .error (.kafka notInitialized)
  commit := .error (.kafka notInitialized)
  abort := .error (.kafka notInitialized)

/-- The context after an answer: one that makes a session stale is fatal for all of them. -/
def Context.track (c : Context) : Except (Error κ) Unit → Context
  | .ok () => c
  | .error e => if e.isSessionInvalid then c.markFatal else c

/-! ## Sessions -/

/-- A session; its context is shared with the other sessions of the client. -/
structure Session where
  closed : Bool := false
  inTransaction : Bool := false
  deriving DecidableEq, Repr

namespace Session

/-- Refuses a session that is closed or whose context has seen a fatal error. -/
def checked (s : Session) (c : Context) : Except (Error κ) Unit :=
  if s.closed then .error (.sessionInvalid "Kafka session is closed")
  else if c.fatal then .error (.sessionInvalid "Kafka producer raised a fatal error")
  else .ok ()

/-- Goes on with a session that passes the check. -/
def ifChecked (s : Session) (c : Context)
    (next : Except (Error κ) Unit × Session × Context) :
    Except (Error κ) Unit × Session × Context :=
  match s.checked c with
  | .error e => (.error e, s, c)
  | .ok () => next

/-- Declares a topic. -/
def createTopic (client : Client κ) (name : String) (s : Session) (c : Context) :
    Except (Error κ) Unit × Session × Context :=
  s.ifChecked c (client.declare name, s, c.track (client.declare name))

/-- Hands a message to the cluster, in the transaction that has begun. -/
def produce (client : Client κ) (topic : String) (message : Message) (s : Session) (c : Context) :
    Except (Error κ) Unit × Session × Context :=
  (client.produce topic message, s, c.track (client.produce topic message))

/-- Sends a message, for which a transaction begins if there is none. -/
def send (client : Client κ) (topic : String) (message : Message) (s : Session) (c : Context) :
    Except (Error κ) Unit × Session × Context :=
  s.ifChecked c <|
    if s.inTransaction then s.produce client topic message c
    else
      match client.beginTransaction with
      | .error e => (.error e, s, c.track (.error e))
      | .ok () => produce client topic message { s with inTransaction := true } c

/-- Commits the transaction, if there is one. -/
def commit (client : Client κ) (s : Session) (c : Context) :
    Except (Error κ) Unit × Session × Context :=
  s.ifChecked c <|
    if !s.inTransaction then (.ok (), s, c)
    else
      match client.commit with
      | .error e => (.error e, s, c.track (.error e))
      | .ok () => (.ok (), { s with inTransaction := false }, c)

/-- Ends the transaction without its messages, if there is one. -/
def rollback (client : Client κ) (s : Session) (c : Context) :
    Except (Error κ) Unit × Session × Context :=
  if !s.inTransaction then (.ok (), s, c)
  else (client.abort, { s with inTransaction := false }, c.track client.abort)

/-- Closes the session, and with it a transaction that is open. -/
def close (s : Session) : Session := if s.closed then s else ⟨true, false⟩

end Session

/-- Opens a session on a connection that has not been started. -/
def sessionBeforeStart : Except Error Session :=
  .error (.connection "Kafka connection must be started before opening a session")

/-! ## A bus -/

/-- The failure to reach the cluster. -/
def noCluster : KafkaError where
  code? := some (.other "AllBrokersDown")
  message := "Global error: AllBrokersDown (Local: All broker connections are down)"

/-- A bus whose cluster cannot be reached: factories are found in the directory, and none opens a
connection. -/
def unreachable : Service access Bus.Directory where
  serve
    | .observe _, _, d => ⟨(), d, 0, []⟩
    | .call c _, _, d =>
      match c with
      | .lookup name => ⟨⟨.ofExcept (d.lookup name), 0⟩, d, 0, []⟩
      | _ => ⟨⟨.error (.kafka noCluster), 0⟩, d, 0, []⟩

end CatalogFeed.Kafka
