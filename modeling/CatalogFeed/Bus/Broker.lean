import CatalogFeed.Bus.Call
import CatalogFeed.Text.Quoted

/-!
# Bus/Broker — a message broker in memory

A broker keeps every connection and session ever opened, numbered in order of opening.  What is sent
on a session stays pending until the session commits; then it joins the log of delivered messages.
Troubles can be set up: an unreachable broker, stale-session signals, failing sends and commits,
latency, and the invalidation of all sessions opened so far.

`declareTopic` and `accept` are what a session call does before it pauses, `enqueue` what a send
does after the pause; `serve` puts the parts together under a limit of time.
-/

namespace CatalogFeed.Bus

/-- Who hears of the errors of a connection. -/
inductive Observer where
  /-- The publisher that opened the connection; it logs them. -/
  | publisher
  /-- Someone else, known by a tag. -/
  | named (tag : String)
  deriving DecidableEq, Repr

/-- A connection. -/
structure Connection where
  started : Bool := false
  closed : Bool := false
  observer : Option Observer := none
  deriving DecidableEq

/-- A transacted session. -/
structure Session where
  generation : Nat
  pending : List (String × Message) := []
  inTransaction : Bool := false
  closed : Bool := false
  deriving DecidableEq

/-- A message that has been committed, as subscribers see it. -/
structure Delivered where
  topic : String
  message : Message
  session : SessionId
  committedAt : Nat
  deriving DecidableEq

/-- A broker. -/
structure Broker where
  topics : Dict String Unit := ∅
  delivered : List Delivered := []
  connections : List Connection := []
  sessions : List Session := []
  generation : Nat := 0
  rollbacks : Nat := 0
  overlaps : Nat := 0
  unreachable : Bool := false
  staleSignals : Nat := 0
  sendFailures : Nat := 0
  commitFailures : Nat := 0
  latency : Option Nat := none
  deriving DecidableEq

/-- The number of a session, as it is shown. -/
def sessionNumber (s : SessionId) : Nat := s + 1

namespace Broker

/-! ## Counts -/

/-- How many connections have been opened. -/
def connectionsOpened (b : Broker) : Nat := b.connections.length

/-- How many connections have been closed. -/
def connectionsClosed (b : Broker) : Nat := b.connections.countP (·.closed)

/-- How many sessions have been opened. -/
def sessionsOpened (b : Broker) : Nat := b.sessions.length

/-- How many sessions have been closed. -/
def sessionsClosed (b : Broker) : Nat := b.sessions.countP (·.closed)

/-- The messages delivered to a topic. -/
def deliveredTo (b : Broker) (topic : String) : List Delivered :=
  b.delivered.filter (·.topic == topic)

/-- The observers of the connections, in order of opening. -/
def observers (b : Broker) : List Observer := b.connections.filterMap (·.observer)

/-! ## Troubles -/

/-- Lets new connections fail, or succeed again. -/
def setUnreachable (b : Broker) (unreachable : Bool) : Broker := { b with unreachable }

/-- Lets the next `count` declarations of topics report a stale session. -/
def signalStaleSessions (b : Broker) (count : Nat) : Broker := { b with staleSignals := count }

/-- Makes every session opened so far stale. -/
def invalidateSessions (b : Broker) : Broker := { b with generation := b.generation + 1 }

/-- Lets the next `count` sends fail. -/
def failNextSends (b : Broker) (count : Nat) : Broker := { b with sendFailures := count }

/-- Lets the next `count` commits fail. -/
def failNextCommits (b : Broker) (count : Nat) : Broker := { b with commitFailures := count }

/-- Delays declarations and sends. -/
def setLatency (b : Broker) (latency : Option Nat) : Broker := { b with latency }

/-- How long a declaration or a send pauses. -/
def pause (b : Broker) : Nat := b.latency.getD 0

/-! ## Connections -/

/-- Changes a connection. -/
def updateConnection (b : Broker) (c : ConnectionId) (f : Connection → Connection) : Broker :=
  { b with connections := b.connections.modify c f }

/-- Opens a connection. -/
def createConnection (b : Broker) : Except Error ConnectionId × Broker :=
  if b.unreachable then (.error (.connection "in-memory broker is unreachable"), b)
  else (.ok b.connections.length, { b with connections := b.connections ++ [{}] })

/-- Starts a connection, unless it is closed. -/
def start (b : Broker) (c : ConnectionId) : Except Error Unit × Broker :=
  match b.connections[c]? with
  | some connection =>
    if connection.closed then (.error (.connection "connection is closed"), b)
    else (.ok (), b.updateConnection c fun connection => { connection with started := true })
  | none => (.error (.connection "connection is closed"), b)

/-- Sets who hears of the errors of a connection, closed or not. -/
def observe (b : Broker) (c : ConnectionId) (observer : Observer) : Broker :=
  b.updateConnection c fun connection => { connection with observer := some observer }

/-- Opens a session on a connection that is started and not closed. -/
def createSession (b : Broker) (c : ConnectionId) : Except Error SessionId × Broker :=
  match b.connections[c]? with
  | some connection =>
    if !connection.started || connection.closed then
      (.error (.connection "connection is not started"), b)
    else
      (.ok b.sessions.length,
        { b with sessions := b.sessions ++ [⟨b.generation, [], false, false⟩] })
  | none => (.error (.connection "connection is not started"), b)

/-- A connection that has been closed; its observer is dropped when it is closed first. -/
def Connection.close (connection : Connection) : Connection :=
  if connection.closed then connection else { connection with closed := true, observer := none }

/-- Closes a connection. -/
def closeConnection (b : Broker) (c : ConnectionId) : Broker :=
  b.updateConnection c Connection.close

/-! ## Sessions -/

/-- Changes a session. -/
def updateSession (b : Broker) (s : SessionId) (f : Session → Session) : Broker :=
  { b with sessions := b.sessions.modify s f }

/-- The error of a session that is closed or was invalidated. -/
def staleError (s : SessionId) : Error :=
  .sessionInvalid ("in-memory session " ++ toString (sessionNumber s) ++ " is stale")

/-- The session, if it is neither closed nor invalidated. -/
def validSession (b : Broker) (s : SessionId) : Except Error Session :=
  match b.sessions[s]? with
  | some session =>
    if session.closed || session.generation != b.generation then .error (staleError s)
    else .ok session
  | none => .error (staleError s)

/-- The log entry for a topic that did not exist. -/
def createdEntry (name : String) : LogEntry := .debug ("Created topic '" ++ name ++ "'")

/-- What the declaration of a topic does before it pauses: it opens a transaction. -/
def declareTopic (b : Broker) (s : SessionId) (name : String) :
    Except Error Unit × Broker × List LogEntry :=
  if b.staleSignals ≠ 0 then
    (.error (.sessionInvalid
        ("in-memory session " ++ toString (sessionNumber s) ++ " was invalidated")),
      { b with staleSignals := b.staleSignals - 1 }, [])
  else
    match b.validSession s with
    | .error e => (.error e, b, [])
    | .ok session =>
      let b := if session.inTransaction then { b with overlaps := b.overlaps + 1 } else b
      let b := b.updateSession s fun session => { session with inTransaction := true }
      if b.topics.contains name then (.ok (), b, [])
      else (.ok (), { b with topics := b.topics.insert name () }, [createdEntry name])

/-- What a send does before it pauses: it may be refused. -/
def accept (b : Broker) (s : SessionId) (topic : String) : Except Error Unit × Broker :=
  match b.validSession s with
  | .error e => (.error e, b)
  | .ok _ =>
    if b.sendFailures ≠ 0 then
      (.error (.broker ("send to '" ++ topic ++ "' rejected")),
        { b with sendFailures := b.sendFailures - 1 })
    else (.ok (), b)

/-- What a send does after its pause: the message is pending. -/
def enqueue (b : Broker) (s : SessionId) (topic : String) (message : Message) : Broker :=
  b.updateSession s fun session => { session with pending := session.pending ++ [(topic, message)] }

/-- Delivers what is pending on a session and ends its transaction. -/
def commit (b : Broker) (s : SessionId) (now : Nat) : Except Error Unit × Broker :=
  match b.validSession s with
  | .error e => (.error e, b)
  | .ok session =>
    if b.commitFailures ≠ 0 then
      (.error (.broker "commit rejected"), { b with commitFailures := b.commitFailures - 1 })
    else
      let delivered := session.pending.map fun m => ⟨m.1, m.2, s, now⟩
      (.ok (),
        { b.updateSession s fun session => { session with pending := [], inTransaction := false }
          with delivered := b.delivered ++ delivered })

/-- Drops what is pending on a session and ends its transaction. -/
def rollback (b : Broker) (s : SessionId) : Broker :=
  { b.updateSession s fun session => { session with pending := [], inTransaction := false }
    with rollbacks := b.rollbacks + 1 }

/-- A session that has been closed. -/
def Session.close (session : Session) : Session :=
  if session.closed then session else { session with closed := true, pending := [] }

/-- Closes a session. -/
def closeSession (b : Broker) (s : SessionId) : Broker := b.updateSession s Session.close

/-! ## Calls -/

/-- An answer at once. -/
def atOnce {α : Type} (r : Except Error α × Broker) : Timed α × Broker × List LogEntry :=
  (⟨.ofExcept r.1, 0⟩, r.2, [])

/-- Answers a call within `limit`, at time `now`.  The directory answers look-ups. -/
def serve (b : Broker) (limit now : Nat) : (c : Call) → Timed c.Answer × Broker × List LogEntry
  | .lookup name => atOnce (.error (.lookup name), b)
  | .createConnection _ => atOnce b.createConnection
  | .start c => atOnce (b.start c)
  | .createSession c => atOnce (b.createSession c)
  | .createTopic s name =>
    match b.declareTopic s name with
    | (.error e, b, log) => (⟨.error e, 0⟩, b, log)
    | (.ok (), b, log) =>
      if b.pause ≤ limit then (⟨.ok name, b.pause⟩, b, log) else (⟨.silent, limit⟩, b, log)
  | .send s topic message =>
    match b.accept s topic with
    | (.error e, b) => (⟨.error e, 0⟩, b, [])
    | (.ok (), b) =>
      if b.pause ≤ limit then (⟨.ok (), b.pause⟩, b.enqueue s topic message, [])
      else (⟨.silent, limit⟩, b, [])
  | .commit s => atOnce (b.commit s now)
  | .rollback s => atOnce (.ok (), b.rollback s)
  | .closeSession s => atOnce (.ok (), b.closeSession s)
  | .closeConnection c => atOnce (.ok (), b.closeConnection c)

/-! ## Errors outside of calls -/

/-- The entry with which a publisher logs an error that its connection reports. -/
def reportedEntry (e : Error) : LogEntry :=
  .error "Message bus reported an error" [("error", .text e.message)]

/-- What the publishers log of an error that is reported on every open connection. -/
def reportEntries (b : Broker) (e : Error) : List LogEntry :=
  b.observers.filterMap fun
    | .publisher => some (reportedEntry e)
    | .named _ => none

/-- The others who hear of such an error. -/
def listeners (b : Broker) : List String :=
  b.observers.filterMap fun
    | .publisher => none
    | .named tag => some tag

/-- A broker as diagnostics show it. -/
def describe (b : Broker) : String :=
  "InMemoryBroker \x7b topics: " ++ Text.quotedSet b.topics.keys ++
    ", delivered: " ++ toString b.delivered.length ++
    ", connections_opened: " ++ toString b.connectionsOpened ++
    ", sessions_opened: " ++ toString b.sessionsOpened ++
    ", unreachable: " ++ (if b.unreachable then "true" else "false") ++ " \x7d"

end Broker
end CatalogFeed.Bus
