import CatalogFeed.Catalog.Access
import CatalogFeed.Listener
import CatalogFeed.Publish.Send
import CatalogFeed.Service

/-!
# Feed — a listener at work

A `Feed` listens to a catalog and publishes on a bus.  Both are services of any kind: what is fixed
here is only that an event is first decided on with the catalog, and that the decision is then
carried out with the bus.  `Feed.handle` therefore fails only if the catalog does.
-/

namespace CatalogFeed

/-- Runs a publisher's program on a bus. -/
def Publishing.run {α β : Type} (program : Publishing α) (bus : Service Bus.access β) (link : Link)
    (state : β) (journal : Journal) : α × Link × β × Journal :=
  let ((a, link), state, journal) := bus.run (StateT.run program link) state journal
  (a, link, state, journal)

/-- A publisher with the catalog that it listens to and the bus that it publishes on. -/
structure Feed (κ β : Type) where
  publisher : Publisher
  catalog : Service Catalog.access κ
  bus : Service Bus.access β

/-- The state of a feed and its surroundings. -/
structure Feed.State (κ β : Type) where
  catalog : κ
  bus : β
  link : Link := {}
  journal : Journal := {}

namespace Feed

variable {α κ β : Type}

/-- Runs a program of the publisher. -/
def publish (f : Feed κ β) (program : Publisher → Publishing α) (s : State κ β) : α × State κ β :=
  let (a, link, bus, journal) := (program f.publisher).run f.bus s.link s.bus s.journal
  (a, { s with link, bus, journal })

/-- Decides on an event with the catalog. -/
def decide (f : Feed κ β) (e : CatalogEvent) (s : State κ β) :
    Except CatalogError Decision × State κ β :=
  let (decision, catalog, journal) := f.catalog.run (Listener.decide e) s.catalog s.journal
  (decision, { s with catalog, journal })

/-- Handles one event. -/
def handle (f : Feed κ β) (e : CatalogEvent) (s : State κ β) : Except Error Delivery × State κ β :=
  match f.decide e s with
  | (.error e, s) => (.error (.catalog e), s)
  | (.ok decision, s) =>
    let (delivery, s) := f.publish (fun p => p.carryOut decision) s
    (.ok delivery, s)

/-- Connects ahead of the first event; whether there is a session. -/
def start (f : Feed κ β) (s : State κ β) : Bool × State κ β := f.publish Publisher.connect s

/-- Gives up the link for good. -/
def shutdown (f : Feed κ β) (s : State κ β) : State κ β :=
  (f.publish (fun p => do p.close; Publishing.note (.info "Notification listener stopped")) s).2

end Feed
end CatalogFeed
