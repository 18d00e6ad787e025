import CatalogFeed.Bus.Call
import CatalogFeed.Catalog.Access
import CatalogFeed.Service

/-!
# Fault — troubles set up in advance

A `Fault` is set up for a kind of call and met by the first call of that kind: the call is delayed,
and then fails or is made after all.  `Bus.troubled` and `Catalog.troubled` are services that meet
the faults set up for them before they answer.
-/

namespace CatalogFeed

/-- A trouble: a delay in milliseconds, then perhaps an error in place of the call. -/
structure Fault (ε : Type) where
  delay : Nat := 0
  error : Option ε := none
  deriving DecidableEq

/-- Faults by kind of call, in the order in which they were set up. -/
abbrev Faults (π ε : Type) := List (π × Fault ε)

namespace Faults

variable {π ε : Type} [DecidableEq π]

/-- The first fault for a kind of call, and the faults that remain. -/
def take (point : π) : Faults π ε → Option (Fault ε) × Faults π ε
  | [] => (none, [])
  | (place, fault) :: rest =>
    if place = point then (some fault, rest)
    else
      let (found, rest) := take point rest
      (found, (place, fault) :: rest)

@[simp] theorem take_nil (point : π) : take point ([] : Faults π ε) = (none, []) := rfl

end Faults

namespace Bus

/-- The kinds of calls to a bus. -/
inductive Point where
  | lookup
  | createConnection
  | start
  | createSession
  | createTopic
  | send
  | commit
  | rollback
  | closeSession
  | closeConnection
  deriving DecidableEq, Repr

/-- The kind of a call. -/
def Call.point : Call → Point
  | .lookup _ => .lookup
  | .createConnection _ => .createConnection
  | .start _ => .start
  | .createSession _ => .createSession
  | .createTopic _ _ => .createTopic
  | .send _ _ _ => .send
  | .commit _ => .commit
  | .rollback _ => .rollback
  | .closeSession _ => .closeSession
  | .closeConnection _ => .closeConnection

variable {σ : Type}

/-- Makes a call after a delay; the delay counts against the limit. -/
def callAfter (service : Service access σ) (delay : Nat) (c : Call) (limit now : Nat) (state : σ) :
    Served (Timed c.Answer) σ :=
  let served := service.serve (.call c (limit - delay)) (now + delay) state
  ⟨⟨served.reply.outcome, delay + served.reply.spent⟩, served.state, delay + served.spent,
    served.entries⟩

/-- A bus that meets faults.  A delay beyond the limit uses the fault up. -/
def troubled (service : Service access σ) : Service access (σ × Faults Point Error) where
  serve
    | .observe connection, now, (state, faults) =>
      (service.serve (.observe connection) now state).within (·, faults)
    | .call c limit, now, (state, faults) =>
      match faults.take c.point with
      | (none, _) => (service.serve (.call c limit) now state).within (·, faults)
      | (some fault, faults) =>
        if limit < fault.delay then ⟨⟨.silent, limit⟩, (state, faults), limit, []⟩
        else
          match fault.error with
          | some e => ⟨⟨.error e, fault.delay⟩, (state, faults), fault.delay, []⟩
          | none => (callAfter service fault.delay c limit now state).within (·, faults)

end Bus

namespace Catalog

/-- The kinds of calls to a catalog that may fail. -/
inductive Point where
  | getTable
  | alterTable
  deriving DecidableEq, Repr

variable {σ : Type}

/-- Meets the fault set up for a call at time `now`; `call` makes the call at a given time. -/
def meet {α : Type} (faults : Faults Point CatalogError) (point : Point) (now : Nat) (state : σ)
    (call : Nat → Served (Except CatalogError α) σ) :
    Served (Except CatalogError α) (σ × Faults Point CatalogError) :=
  match faults.take point with
  | (none, _) => (call now).within (·, faults)
  | (some fault, faults) =>
    match fault.error with
    | some e => ⟨.error e, (state, faults), fault.delay, []⟩
    | none =>
      let served := (call (now + fault.delay)).within (·, faults)
      { served with spent := fault.delay + served.spent }

/-- A catalog that meets faults. -/
def troubled (service : Service access σ) :
    Service access (σ × Faults Point CatalogError) where
  serve
    | .setting key, now, (state, faults) =>
      (service.serve (.setting key) now state).within (·, faults)
    | .getTable database table, now, (state, faults) =>
      meet faults .getTable now state fun now => service.serve (.getTable database table) now state
    | .alterTable database table t, now, (state, faults) =>
      meet faults .alterTable now state fun now =>
        service.serve (.alterTable database table t) now state

end Catalog
end CatalogFeed
