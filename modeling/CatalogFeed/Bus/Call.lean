import CatalogFeed.Message
import CatalogFeed.Script

/-!
# Bus/Call — what a publisher asks of a message bus

A publisher looks up a connection factory by name, opens and starts a connection, opens a transacted
session on it, declares topics, sends, and commits or rolls back.  Every call is made with a limit
of time, and is answered with success, with an error, or not at all within the limit.
-/

namespace CatalogFeed.Bus

/-- A connection factory of a directory. -/
abbrev FactoryId := Nat

/-- An open connection. -/
abbrev ConnectionId := Nat

/-- An open session. -/
abbrev SessionId := Nat

/-- The calls that a bus answers. -/
inductive Call where
  | lookup (name : String)
  | createConnection (factory : FactoryId)
  | start (connection : ConnectionId)
  | createSession (connection : ConnectionId)
  | createTopic (session : SessionId) (name : String)
  | send (session : SessionId) (topic : String) (message : Message)
  | commit (session : SessionId)
  | rollback (session : SessionId)
  | closeSession (session : SessionId)
  | closeConnection (connection : ConnectionId)

/-- What a call answers when it succeeds. -/
@[reducible] def Call.Answer : Call → Type
  | .lookup _ => FactoryId
  | .createConnection _ => ConnectionId
  | .createSession _ => SessionId
  | .createTopic _ _ => String
  | _ => Unit

/-- How a call ends. -/
inductive Outcome (α : Type) where
  | ok (value : α)
  | error (e : Error)
  /-- No answer within the limit. -/
  | silent
  deriving DecidableEq

/-- The outcome of a call that has been answered. -/
def Outcome.ofExcept {α : Type} : Except Error α → Outcome α
  | .ok a => .ok a
  | .error e => .error e

/-- How a call ended, and the milliseconds it took. -/
structure Timed (α : Type) where
  outcome : Outcome α
  spent : Nat

/-- What is asked of a bus: a call with its limit in milliseconds, or that the errors of a
connection be reported to the publisher. -/
inductive Request where
  | call (call : Call) (limit : Nat)
  | observe (connection : ConnectionId)

/-- What a bus replies. -/
@[reducible] def Request.Reply : Request → Type
  | .call c _ => Timed c.Answer
  | .observe _ => Unit

/-- Access to a message bus. -/
@[reducible] def access : Interface := ⟨Request, Request.Reply⟩

end CatalogFeed.Bus
