import CatalogFeed.Bus.Within

/-!
# Publish/Link — ownership of the one session

A `Publisher` shares one connection and one session among all its publishes.  What it holds is its
`Link`; every function here runs with exclusive use of it.  A session is opened when it is first
needed.  Opening and closing never fail: what goes wrong is logged, and a link without session is
left for the next one who asks.
-/

namespace CatalogFeed

open Bus (access Call ConnectionId SessionId Outcome Within)

/-- Who publishes: the name of its connection factory, and its limits in milliseconds for connecting
and for one step of a publish. -/
structure Publisher where
  factoryName : String
  connectLimit : Nat
  sendLimit : Nat
  deriving DecidableEq

/-- The connection and the session that a publisher holds. -/
structure Link where
  connection : Option ConnectionId := none
  session : Option SessionId := none
  deriving DecidableEq

/-- A program of a publisher, with exclusive use of its link. -/
abbrev Publishing (α : Type) : Type := StateT Link (Script access) α

namespace Publishing

/-- Writes a log entry. -/
def note (entry : LogEntry) : Publishing Unit := liftM (Script.note (I := access) entry)

/-- Runs calls within a limit of time. -/
def within {α : Type} (limit : Nat) (calls : Within α) : Publishing (Outcome α) :=
  liftM (calls.run limit)

end Publishing

namespace Publisher

open Publishing (note within)

/-- The error as a log field. -/
def errorField (e : Error) : String × FieldValue := ("error", .text e.message)

/-- The calls that open a connection and a session on it. -/
def establish (p : Publisher) : Within (ConnectionId × SessionId) := do
  let factory ← .call (.lookup p.factoryName)
  let connection ← .call (.createConnection factory)
  .call (.start connection)
  .observe connection
  let session ← .call (.createSession connection)
  return (connection, session)

/-- The log entry for an error in opening. -/
def connectFailure (e : Error) : LogEntry :=
  match e with
  | .lookup _ =>
    .error ("Directory error while setting up message bus connection. Make sure a connection " ++
      "factory is bound under this name ([directory] connection_factory in the configuration)")
      [errorField e]
  | .connection _ | .kafka _ =>
    .error "Failed to initialize connection to message bus" [errorField e]
  | _ => .error "Unable to connect to message bus provider" [errorField e]

/-- Opens a connection and a session, all within the limit for connecting. -/
def openLink (p : Publisher) : Publishing Unit := do
  match ← within p.connectLimit p.establish with
  | .ok (connection, session) =>
    note (.info "Connected to message bus")
    set (⟨some connection, some session⟩ : Link)
  | .error e => note (connectFailure e)
  | .silent =>
    note (.error "Timed out connecting to message bus" [("timeout_ms", .count p.connectLimit)])

/-- Closes what `call` closes within the limit for connecting; `thing` names it in the log. -/
def closeQuietly (p : Publisher) (thing : String) (call : Within Unit) : Publishing Unit := do
  match ← within p.connectLimit call with
  | .ok () => return
  | .error e => note (.info ("Failed to close message bus " ++ thing) [errorField e])
  | .silent => note (.warn ("Timed out closing message bus " ++ thing))

/-- Gives up the session, then the connection. -/
def releaseLink (p : Publisher) : Publishing Unit := do
  if let some session := (← get).session then
    modify fun link => { link with session := none }
    p.closeQuietly "session" (.call (.closeSession session))
  if let some connection := (← get).connection then
    modify fun link => { link with connection := none }
    p.closeQuietly "connection" (.call (.closeConnection connection))

/-- The session held, if any. -/
def current : Publishing (Option SessionId) := return (← get).session

/-- The session, opened first if there is none. -/
def session (p : Publisher) : Publishing (Option SessionId) := do
  if (← current).isNone then p.openLink
  current

/-- Gives up the link and opens a new one. -/
def reconnect (p : Publisher) : Publishing (Option SessionId) := do
  p.releaseLink
  p.openLink
  current

/-- Opens a session ahead of the first publish; whether there is one. -/
def connect (p : Publisher) : Publishing Bool := return (← p.session).isSome

/-- Gives up the link for good. -/
def close (p : Publisher) : Publishing Unit := do
  p.releaseLink
  note (.debug "Message bus connection released")

end Publisher
end CatalogFeed
