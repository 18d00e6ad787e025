import CatalogFeed.Bus.Call

/-!
# Bus/Within — calls that share a limit of time

A `Within α` is a sequence of calls on one budget of milliseconds.  Each call may use what the ones
before it have left; the sequence ends with the first error or the first call that is not answered
in time.
-/

namespace CatalogFeed.Bus

/-- A sequence of calls: from the milliseconds left, to the outcome and what is then left. -/
def Within (α : Type) : Type := Nat → Script access (Outcome (α × Nat))

namespace Within

variable {α β : Type}

/-- Ends with a value. -/
def done (a : α) : Within α := fun left => .done (.ok (a, left))

/-- Goes on with the value, unless the sequence has ended. -/
def andThen (w : Within α) (next : α → Within β) : Within β := fun left =>
  (w left).bind fun outcome =>
    match outcome with
    | .ok (a, left) => next a left
    | .error e => .done (.error e)
    | .silent => .done .silent

instance : Monad Within where
  pure := done
  bind := andThen

/-- One call. -/
def call (c : Call) : Within c.Answer := fun left =>
  .ask (I := access) (.call c left) fun reply =>
    .done <|
      match reply.outcome with
      | .ok a => .ok (a, left - reply.spent)
      | .error e => .error e
      | .silent => .silent

/-- Has the errors of a connection reported. -/
def observe (connection : ConnectionId) : Within Unit := fun left =>
  .ask (I := access) (.observe connection) fun _ => .done (.ok ((), left))

/-- Runs a sequence within a limit. -/
def run (limit : Nat) (w : Within α) : Script access (Outcome α) :=
  (w limit).bind fun outcome =>
    .done <|
      match outcome with
      | .ok (a, _) => .ok a
      | .error e => .error e
      | .silent => .silent

end Within
end CatalogFeed.Bus
