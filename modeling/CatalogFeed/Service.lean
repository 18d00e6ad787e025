import CatalogFeed.Script

/-!
# Service — answers that take time and leave a log

A `Service` answers the requests of an interface: it gives the reply, its state after it, the
milliseconds that it took, and what it logged.  `Service.handler` runs scripts on a service and
keeps a `Journal`: the time that has passed, and the log of both script and service in order.
-/

namespace CatalogFeed

/-- The time in milliseconds, and everything logged so far, oldest entry first. -/
structure Journal where
  clock : Nat := 0
  entries : List LogEntry := []
  deriving DecidableEq

namespace Journal

/-- Writes entries. -/
def write (j : Journal) (entries : List LogEntry) : Journal :=
  { j with entries := j.entries ++ entries }

/-- Lets time pass. -/
def elapse (j : Journal) (spent : Nat) : Journal := { j with clock := j.clock + spent }

@[simp] theorem clock_write (j : Journal) (entries : List LogEntry) :
    (j.write entries).clock = j.clock := rfl

@[simp] theorem entries_elapse (j : Journal) (spent : Nat) :
    (j.elapse spent).entries = j.entries := rfl

@[simp] theorem write_write (j : Journal) (a b : List LogEntry) :
    (j.write a).write b = j.write (a ++ b) := by simp [write]

end Journal

/-- What a service did about a request. -/
structure Served (ρ σ : Type) where
  reply : ρ
  state : σ
  spent : Nat := 0
  entries : List LogEntry := []

/-- The same reply, with the state seen as part of another. -/
def Served.within {ρ σ τ : Type} (served : Served ρ σ) (embed : σ → τ) : Served ρ τ :=
  ⟨served.reply, embed served.state, served.spent, served.entries⟩

/-- One who answers the requests of `I` at a given time, with a state of type `σ`. -/
structure Service (I : Interface) (σ : Type) where
  serve : (request : I.Request) → (now : Nat) → σ → Served (I.Reply request) σ

namespace Service

variable {I : Interface} {α σ : Type}

/-- Answers requests and keeps the journal. -/
def handler (service : Service I σ) : Handler I (σ × Journal) where
  serve request := fun (state, journal) =>
    let served := service.serve request journal.clock state
    (served.reply, served.state, (journal.elapse served.spent).write served.entries)
  note entry := fun (state, journal) => (state, journal.write [entry])

/-- Runs a script on a service. -/
def run (service : Service I σ) (script : Script I α) (state : σ) (journal : Journal) :
    α × σ × Journal := script.run service.handler (state, journal)

end Service
end CatalogFeed
