import CatalogFeed.Listener
import CatalogFeed.Publish.Link

/-!
# Publish/Send — one publish

A publish declares the topic, sends the message and commits, each step within the limit for sending.
A session that turns out stale when the topic is declared is replaced once.  After any other failure
the transaction is rolled back, or, if it can no longer be trusted, the session is discarded
(`Publisher.abandon`).  `Publisher.send` never fails: it reports a `Delivery`.
-/

namespace CatalogFeed

open Bus (access Call SessionId Outcome)

/-- What became of an event. -/
inductive Delivery where
  /-- Sent and committed. -/
  | delivered
  /-- Not of interest. -/
  | ignored
  /-- Without a topic. -/
  | suppressed
  /-- Publishing failed, which has been logged. -/
  | failed
  deriving DecidableEq, Repr

/-- The name of a delivery. -/
def Delivery.name : Delivery → String
  | .delivered => "Delivered"
  | .ignored => "Ignored"
  | .suppressed => "Suppressed"
  | .failed => "Failed"

namespace Publisher

open Publishing (note within)

/-- One step of a publish; no answer within the limit is an error. -/
def step (p : Publisher) (c : Call) : Publishing (Except Error c.Answer) := do
  match ← within p.sendLimit (.call c) with
  | .ok a => return .ok a
  | .error e => return .error e
  | .silent =>
    return .error (.timeout ("message bus did not answer within " ++ toString p.sendLimit ++ "ms"))

/-- Gives up a session that can no longer be used. -/
def discard (p : Publisher) (cause : Error) : Publishing Unit := do
  note (.warn "Discarding message bus session" [errorField cause])
  p.releaseLink

/-- Ends the transaction of a failed publish: by a rollback, or by discarding the session if the
transaction can no longer be trusted or the rollback fails. -/
def abandon (p : Publisher) (cause : Error) : Publishing Unit := do
  if cause.poisonsSession then p.discard cause
  else
    match ← current with
    | none => p.discard cause
    | some session =>
      match ← p.step (.rollback session) with
      | .ok () => note (.info "Rolled back notification transaction" [errorField cause])
      | .error e =>
        note (.warn "Failed to roll back notification transaction" [errorField e])
        p.discard cause

/-- Sends the message on a declared topic and commits. -/
def deliver (p : Publisher) (a : Announcement) (session : SessionId) (topic : String) :
    Publishing (Except Error Delivery) := do
  match ← p.step (.send session topic (a.payload.message a.tag)) with
  | .error e =>
    p.abandon e
    return .error e
  | .ok () =>
    match ← p.step (.commit session) with
    | .error e =>
      p.abandon e
      return .error e
    | .ok () =>
      note (.debug "Notification committed" [("topic", .text a.topic), ("event", .text a.tag.text)])
      return .ok .delivered

/-- Publishes on a new session after the old one turned out stale. -/
def retry (p : Publisher) (a : Announcement) : Publishing (Except Error Delivery) := do
  match ← p.reconnect with
  | none => return .error (.connection "reconnect after stale session failed")
  | some session =>
    match ← p.step (.createTopic session a.topic) with
    | .ok topic => p.deliver a session topic
    | .error e =>
      p.abandon e
      return .error e

/-- Publishes, or says what prevented it. -/
def trySend (p : Publisher) (a : Announcement) : Publishing (Except Error Delivery) := do
  match ← p.session with
  | none =>
    note (.error "No message bus session available, notification dropped"
      [("topic", .text a.topic), ("event", .text a.tag.text)])
    return .ok .failed
  | some session =>
    match ← p.step (.createTopic session a.topic) with
    | .ok topic => p.deliver a session topic
    | .error e =>
      if e.isSessionInvalid then
        note (.error "Message bus session is stale, reconnecting"
          [("topic", .text a.topic), errorField e])
        p.retry a
      else
        p.abandon e
        return .error e

/-- Publishes and reports what became of it. -/
def send (p : Publisher) (a : Announcement) : Publishing Delivery := do
  match ← p.trySend a with
  | .ok delivery => return delivery
  | .error e =>
    note (.error "Failed to publish notification"
      [("topic", .text a.topic), ("event", .text a.tag.text), errorField e])
    return .failed

/-- Does what has been decided about an event. -/
def carryOut (p : Publisher) : Decision → Publishing Delivery
  | .ignore => return .ignored
  | .suppress => return .suppressed
  | .announce a => p.send a

end Publisher
end CatalogFeed
