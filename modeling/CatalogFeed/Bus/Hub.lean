import CatalogFeed.Bus.Broker
import CatalogFeed.Bus.Directory
import CatalogFeed.Service

/-!
# Bus/Hub — a directory in front of a broker

A `Hub` is a bus in memory: factories are looked up in its directory, and all of them belong to its
one broker.
-/

namespace CatalogFeed.Bus

/-- A directory and the broker behind its factories. -/
structure Hub where
  directory : Directory := {}
  broker : Broker := {}
  deriving DecidableEq

namespace Hub

/-- Answers a call within `limit`, at time `now`. -/
def call (h : Hub) (limit now : Nat) : (c : Call) → Served (Timed c.Answer) Hub
  | .lookup name => ⟨⟨.ofExcept (h.directory.lookup name), 0⟩, h, 0, []⟩
  | c =>
    let (timed, broker, entries) := h.broker.serve limit now c
    ⟨timed, { h with broker }, timed.spent, entries⟩

/-- Makes a call without limit: whoever makes it waits through the pause. -/
def callPatiently (h : Hub) (now : Nat) (c : Call) : Served (Timed c.Answer) Hub :=
  h.call h.broker.pause now c

/-- A bus in memory as a service. -/
def service : Service access Hub where
  serve
    | .call c limit, now, h => h.call limit now c
    | .observe connection, _, h =>
      ⟨(), { h with broker := h.broker.observe connection .publisher }, 0, []⟩

end Hub
end CatalogFeed.Bus
