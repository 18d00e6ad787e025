import CatalogFeed.Error
import CatalogFeed.Log

/-!
# Kafka/Context — errors that the Kafka client reports on its own

A client reports errors outside of any call.  Its `Context` passes them on to whoever observes it,
and remembers whether one of them was fatal, after which its sessions are stale.  Copies of a
context share one state, so what happens to one happens to all.  All this is for any type `κ` of
failures of the client.

* `Context.report` notes an error and passes it on, or logs it while nobody observes;
* `ContextPool` holds several contexts, some of them copies of others.
-/

namespace CatalogFeed.Kafka

/-- The state that a context shares with its copies; an observer is known by a tag. -/
structure Context where
  observer : Option String := none
  fatal : Bool := false
  deriving DecidableEq, Repr

variable {κ : Type} [KafkaFailure κ]

/-- What became of a reported error. -/
inductive Reported (κ : Type) where
  /-- It was passed to the observer. -/
  | observed (tag : String) (error : Error κ)
  /-- Nobody observes, so it was logged. -/
  | logged (entry : LogEntry)
  deriving DecidableEq

namespace Context

/-- A context without observer that has seen no error. -/
def fresh : Context := ⟨none, false⟩

/-- Sets who observes, in place of an earlier one. -/
def observe (c : Context) (tag : String) : Context := { c with observer := some tag }

/-- Marks the sessions stale for good. -/
def markFatal (c : Context) : Context := { c with fatal := true }

/-- The log entry of an error that nobody observes. -/
def unobservedEntry (e : κ) (reason : String) : LogEntry :=
  .error "librdkafka error" [("error", .text (KafkaFailure.message e)), ("reason", .text reason)]

/-- Remembers whether an error was fatal. -/
def note (c : Context) (e : κ) : Context := if KafkaFailure.isFatal e then c.markFatal else c

@[simp] theorem fatal_note (c : Context) (e : κ) :
    (c.note e).fatal = (c.fatal || KafkaFailure.isFatal e) := by
  cases h : KafkaFailure.isFatal e <;> simp [note, markFatal, h]

@[simp] theorem observer_note (c : Context) (e : κ) : (c.note e).observer = c.observer := by
  cases h : KafkaFailure.isFatal e <;> simp [note, markFatal, h]

/-- Takes an error that the client reports: it is noted first, then passed on. -/
def report (c : Context) (e : κ) (reason : String) : Context × Reported κ :=
  let c := c.note e
  (c,
    match c.observer with
    | some tag => .observed tag (.kafka e)
    | none => .logged (unobservedEntry e reason))

end Context

/-! ## Copies -/

/-- Contexts in order of making: the states, and for each context the state that it shares. -/
structure ContextPool where
  states : List Context := [.fresh]
  holders : List Nat := [0]
  deriving DecidableEq

namespace ContextPool

/-- Makes a context with a state of its own. -/
def new (p : ContextPool) : ContextPool :=
  ⟨p.states ++ [.fresh], p.holders ++ [p.states.length]⟩

/-- Copies a context. -/
def copy (p : ContextPool) (i : Nat) : ContextPool :=
  { p with holders := p.holders ++ p.holders[i]?.toList }

/-- The state of a context. -/
def state (p : ContextPool) (i : Nat) : Context := (p.holders[i]?.bind (p.states[·]?)).getD .fresh

/-- Changes the state of a context, and so of its copies. -/
def update (p : ContextPool) (i : Nat) (f : Context → Context) : ContextPool :=
  match p.holders[i]? with
  | some s => { p with states := p.states.modify s f }
  | none => p

/-- Takes an error that the client of a context reports.  It is noted first; `hear` then says what
an observer makes of the error and of the contexts that it finds. -/
def reportTo {α : Type} (hear : String → Error κ → ContextPool → α) (p : ContextPool) (i : Nat)
    (e : κ) : ContextPool × Option α :=
  let p := p.update i (·.note e)
  (p, (p.state i).observer.map fun tag => hear tag (.kafka e) p)

/-- Takes an error that the client of a context reports; it is logged while nobody observes. -/
def report (p : ContextPool) (i : Nat) (e : κ) (reason : String) : ContextPool × Reported κ :=
  let (p, heard) := p.reportTo (fun tag error _ => Reported.observed tag error) i e
  (p, heard.getD (.logged (Context.unobservedEntry e reason)))

/-- Whether each context has seen a fatal error. -/
def fatalFlags (p : ContextPool) : List Bool :=
  (List.range p.holders.length).map fun i => (p.state i).fatal

end ContextPool
end CatalogFeed.Kafka
