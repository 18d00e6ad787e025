import CatalogFeed.Log

/-!
# Script — programs that ask and wait

A `Script` over an `Interface` is a program whose only effects are requests, each answered by a
reply of its own type, and log entries.  It is a tree of data: what a script does with its
surroundings is fixed by whoever answers, so one script serves a broker in memory, a broker that
fails, and any interleaving with others.

* `Script.run` answers every request with a `Handler`;
* `run_bind`: running a sequence is running its parts in order.
-/

namespace CatalogFeed

/-- What can be asked, and what is answered. -/
structure Interface where
  Request : Type
  Reply : Request → Type

/-- A program that asks requests of `I` and ends with an `α`. -/
inductive Script (I : Interface) (α : Type) where
  | done (value : α)
  | log (entry : LogEntry) (rest : Script I α)
  | ask (request : I.Request) (next : I.Reply request → Script I α)

namespace Script

variable {I : Interface} {α β γ σ : Type}

/-- Runs `next` on the value that the script ends with. -/
def bind : Script I α → (α → Script I β) → Script I β
  | done value, next => next value
  | log entry rest, next => log entry (rest.bind next)
  | ask request reply, next => ask request fun r => (reply r).bind next

instance : Monad (Script I) where
  pure := done
  bind := bind

/-- Asks one request. -/
def request (r : I.Request) : Script I (I.Reply r) := ask r done

/-- Writes one log entry. -/
def note (entry : LogEntry) : Script I Unit := log entry (done ())

@[simp] theorem pure_eq (a : α) : (pure a : Script I α) = done a := rfl
@[simp] theorem bind_eq (s : Script I α) (f : α → Script I β) : s >>= f = s.bind f := rfl
@[simp] theorem bind_done_left (a : α) (f : α → Script I β) : (done a).bind f = f a := rfl

@[simp] theorem bind_log (e : LogEntry) (s : Script I α) (f : α → Script I β) :
    (log e s).bind f = log e (s.bind f) := rfl

@[simp] theorem bind_ask (r : I.Request) (k : I.Reply r → Script I α) (f : α → Script I β) :
    (ask r k).bind f = ask r fun a => (k a).bind f := rfl

@[simp] theorem bind_done : ∀ s : Script I α, s.bind done = s
  | done _ => rfl
  | log e s => congrArg (log e) (bind_done s)
  | ask r k => congrArg (ask r) (funext fun a => bind_done (k a))

@[simp] theorem bind_assoc (f : α → Script I β) (g : β → Script I γ) :
    ∀ s : Script I α, (s.bind f).bind g = s.bind fun a => (f a).bind g
  | done _ => rfl
  | log e s => congrArg (log e) (bind_assoc f g s)
  | ask r k => congrArg (ask r) (funext fun a => bind_assoc f g (k a))

instance : LawfulMonad (Script I) :=
  .mk' _ (fun s => bind_done s) (fun _ _ => rfl) fun s f g => bind_assoc f g s

end Script

/-! ## Answering -/

/-- One who answers the requests of `I`, with a state of type `σ`. -/
structure Handler (I : Interface) (σ : Type) where
  serve : (request : I.Request) → σ → I.Reply request × σ
  note : LogEntry → σ → σ

namespace Script

variable {I : Interface} {α β σ : Type}

/-- Runs a script, answering its requests in order. -/
def run (h : Handler I σ) : Script I α → σ → α × σ
  | done value, s => (value, s)
  | log entry rest, s => rest.run h (h.note entry s)
  | ask request next, s =>
    let (reply, s) := h.serve request s
    (next reply).run h s

@[simp] theorem run_done (h : Handler I σ) (a : α) (s : σ) : (done a).run h s = (a, s) := rfl

@[simp] theorem run_log (h : Handler I σ) (e : LogEntry) (p : Script I α) (s : σ) :
    (log e p).run h s = p.run h (h.note e s) := rfl

@[simp] theorem run_ask (h : Handler I σ) (r : I.Request) (k : I.Reply r → Script I α) (s : σ) :
    (ask r k).run h s = (k (h.serve r s).1).run h (h.serve r s).2 := rfl

/-- **A sequence runs part by part.** -/
@[simp] theorem run_bind (h : Handler I σ) (f : α → Script I β) :
    ∀ (p : Script I α) (s : σ), (p.bind f).run h s = (f (p.run h s).1).run h (p.run h s).2
  | done _, _ => rfl
  | log e p, s => run_bind h f p (h.note e s)
  | ask r k, s => run_bind h f (k (h.serve r s).1) (h.serve r s).2

end Script
end CatalogFeed
