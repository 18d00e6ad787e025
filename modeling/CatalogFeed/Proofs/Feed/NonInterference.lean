import CatalogFeed.Proofs.Catalog.Decide
import CatalogFeed.Proofs.Publish.Handover
import CatalogFeed.Replay

/-!
# Proofs/Feed/NonInterference — no bus disturbs the catalog

A feed on a catalog in memory takes in events, recorded events and changes of settings.  What it
does to the catalog, and what it answers, up to the difference between delivered and failed, is a
function of the catalog alone (`Store.take`).

* `handle_cases`: what handling an event can do, on any catalog and bus;
* `take_onStore`: one input, on any bus;
* `buses_do_not_interfere`: two feeds that begin with the same catalog stay with the same catalog
  and give the same answers, whatever their publishers, buses, links and journals, and whatever
  happens to these between the inputs.
-/

namespace CatalogFeed

open Catalog (Store)

/-! ## Publishing on any bus -/

/-- What can be seen of a delivery without knowing whether publishing succeeded. -/
def Delivery.blurred : Delivery → Delivery
  | .failed => .delivered
  | d => d

/-- The delivery that a decision leads to, if publishing succeeds. -/
def Decision.intended : Decision → Delivery
  | .ignore => .ignored
  | .suppress => .suppressed
  | .announce _ => .delivered

/-- A publish is delivered or fails, on any bus. -/
theorem Publisher.send_blurred {β : Type} (p : Publisher) (a : Announcement)
    (bus : Service Bus.access β) (link : Link) (state : β) (journal : Journal) :
    ((p.send a).run bus link state journal).1.blurred = .delivered := by
  have hready : ∀ id, link.session = some id → Bus.Unspoilt id [] :=
    fun id _ x hx => absurd hx List.not_mem_nil
  have hsend := (Outline.handover_sound a).ensures_send p trivial hready
  refine Script.Ensures.run_value (Q := fun r => r.1.blurred = .delivered)
    (Script.Ensures.mono (fun r t _ h => ?_) hsend) bus.handler (state, journal)
  rcases h.2 with ⟨hd, -⟩ | ⟨hd, -⟩ <;> rw [hd] <;> rfl

theorem Publisher.carryOut_blurred {β : Type} (p : Publisher) (d : Decision)
    (bus : Service Bus.access β) (link : Link) (state : β) (journal : Journal) :
    ((p.carryOut d).run bus link state journal).1.blurred = d.intended := by
  cases d with
  | ignore => rfl
  | suppress => rfl
  | announce a => exact p.send_blurred a bus link state journal

/-! ## Handling an event -/

namespace Feed

variable {κ β : Type} (f : Feed κ β)

/-- **Handling an event fails as its decision fails, or carries the decision out.** -/
theorem handle_cases (e : CatalogEvent) (s : State κ β) :
    (∃ cause, (f.decide e s).1 = .error cause ∧
      f.handle e s = (.error (.catalog cause), (f.decide e s).2)) ∨
    ∃ decision, (f.decide e s).1 = .ok decision ∧
      f.handle e s = (f.publish (fun p => p.carryOut decision) (f.decide e s).2).map .ok id := by
  rw [handle]
  generalize f.decide e s = decided
  obtain ⟨cause | decision, t⟩ := decided
  · exact Or.inl ⟨cause, rfl, rfl⟩
  · exact Or.inr ⟨decision, rfl, rfl⟩

/-- Handling an event leaves the catalog as the decision has left it. -/
theorem catalog_handle (e : CatalogEvent) (s : State κ β) :
    (f.handle e s).2.catalog = (f.decide e s).2.catalog := by
  rcases f.handle_cases e s with ⟨cause, -, hhandle⟩ | ⟨decision, -, hhandle⟩
  · rw [hhandle]
  · rw [hhandle]
    rfl

/-- An event that is not announced leaves the link and the bus alone. -/
theorem handle_unannounced {e : CatalogEvent} {s : State κ β}
    (h : ∀ a, (f.decide e s).1 ≠ .ok (.announce a)) :
    (f.handle e s).1 ≠ .ok .delivered ∧ (f.handle e s).2.link = s.link ∧
      (f.handle e s).2.bus = s.bus := by
  rcases f.handle_cases e s with ⟨cause, -, hhandle⟩ | ⟨decision, hdecided, hhandle⟩ <;>
    rw [hhandle]
  · exact ⟨nofun, rfl, rfl⟩
  · cases decision with
    | ignore => exact ⟨nofun, rfl, rfl⟩
    | suppress => exact ⟨nofun, rfl, rfl⟩
    | announce a => exact absurd hdecided (h a)

end Feed

/-! ## Inputs -/

/-- What a feed on a catalog in memory takes in. -/
inductive Feed.Input where
  | event (e : CatalogEvent)
  /-- An event that was recorded: the catalog is first brought to the state that it reports. -/
  | recorded (e : CatalogEvent)
  | setting (key value : String)

/-- An answer to an input, if it has one. -/
abbrev Feed.Answer := Option (Except Error Delivery)

/-- What can be seen of an answer without knowing whether publishing succeeded. -/
def Feed.Answer.blurred : Feed.Answer → Feed.Answer := Option.map (Except.map Delivery.blurred)

/-- **What an input comes to**, as far as the catalog is concerned. -/
def Catalog.Store.take (s : Store) : Feed.Input → Feed.Answer × Store
  | .event e => answered (s.decide e)
  | .recorded e => answered ((s.reflect e).decide e)
  | .setting key value => (none, s.setSetting key value)
where
  /-- The answer to a decision. -/
  answered (d : Except CatalogError Decision × Store) : Feed.Answer × Store :=
    match d with
    | (.error e, s) => (some (.error (.catalog e)), s)
    | (.ok decision, s) => (some (.ok decision.intended), s)

namespace Feed

variable {β γ : Type}

/-- A feed on a catalog in memory. -/
def onStore (p : Publisher) (bus : Service Bus.access β) : Feed Store β := ⟨p, Store.service, bus⟩

/-- Takes in one input. -/
def take (f : Feed Store β) (i : Input) (s : State Store β) : Answer × State Store β :=
  match i with
  | .event e => ((some (f.handle e s).1), (f.handle e s).2)
  | .recorded e => ((some (f.apply e s).1), (f.apply e s).2)
  | .setting key value => (none, { s with catalog := s.catalog.setSetting key value })

/-- What is decided about an event depends on the catalog alone. -/
theorem decide_onStore (p : Publisher) (bus : Service Bus.access β) (e : CatalogEvent)
    (s : State Store β) : ∃ j, (onStore p bus).decide e s =
      ((s.catalog.decide e).1, { s with catalog := (s.catalog.decide e).2, journal := j }) := by
  obtain ⟨j, hj⟩ := Store.run_service (Listener.decide e) s.catalog s.journal
  refine ⟨j, ?_⟩
  rw [Feed.decide, onStore, hj]
  rfl

/-- Handling an event comes to what is decided with the catalog. -/
theorem handle_onStore (p : Publisher) (bus : Service Bus.access β) (e : CatalogEvent)
    (s : State Store β) :
    (Answer.blurred (some ((onStore p bus).handle e s).1), ((onStore p bus).handle e s).2.catalog) =
      Store.take.answered (s.catalog.decide e) := by
  obtain ⟨j, hd⟩ := decide_onStore p bus e s
  rw [handle, hd]
  generalize s.catalog.decide e = decided
  obtain ⟨cause | decision, c⟩ := decided
  · rfl
  · have hout := p.carryOut_blurred decision bus s.link s.bus j
    simp only [Answer.blurred, Option.map_some, Except.map, Store.take.answered]
    exact congrArg (fun d => (some (Except.ok d), c)) hout

/-- **One input comes to the same on every bus.** -/
theorem take_onStore (p : Publisher) (bus : Service Bus.access β) (i : Input) (s : State Store β) :
    (((onStore p bus).take i s).1.blurred, ((onStore p bus).take i s).2.catalog) =
      s.catalog.take i := by
  cases i with
  | event e => exact handle_onStore p bus e s
  | recorded e => exact handle_onStore p bus e { s with catalog := s.catalog.reflect e }
  | setting key value => rfl

/-! ## Any number of inputs -/

/-- What may happen to the link, the bus and the journal between two inputs. -/
abbrev Weather (β : Type) := Link × β × Journal → Link × β × Journal

/-- The state after some weather.  The catalog is not exposed to it. -/
def State.exposed (s : State Store β) (w : Weather β) : State Store β :=
  let (link, bus, journal) := w (s.link, s.bus, s.journal)
  { s with link, bus, journal }

/-- Takes in one input after another, each after some weather: the answers, and the catalog after
each of them. -/
def trace (f : Feed Store β) (s : State Store β) : List (Input × Weather β) → List (Answer × Store)
  | [] => []
  | (i, w) :: steps =>
    let (answer, s) := f.take i (s.exposed w)
    (answer, s.catalog) :: f.trace s steps

/-- What can be seen of an observation without knowing whether publishing succeeded. -/
def blurred (x : Answer × Store) : Answer × Store := (x.1.blurred, x.2)

end Feed

/-- What inputs come to one after another, as far as the catalog is concerned. -/
def Catalog.Store.trace (s : Store) : List Feed.Input → List (Feed.Answer × Store)
  | [] => []
  | i :: rest => s.take i :: (s.take i).2.trace rest

/-- Only the catalog makes an input fail. -/
theorem Catalog.Store.error_of_take {s : Store} {i : Feed.Input} {e : Error}
    (h : (s.take i).1 = some (.error e)) : ∃ cause, e = .catalog cause := by
  have hanswered : ∀ d, (Store.take.answered d).1 = some (.error e) →
      ∃ cause, e = .catalog cause := by
    rintro ⟨cause | decision, s⟩ hd
    · cases hd
      exact ⟨cause, rfl⟩
    · cases hd
  cases i with
  | event e => exact hanswered _ h
  | recorded e => exact hanswered _ h
  | setting key value => cases h

theorem Catalog.Store.error_of_trace {s : Store} {inputs : List Feed.Input}
    {x : Feed.Answer × Store} (hx : x ∈ s.trace inputs) {e : Error} (h : x.1 = some (.error e)) :
    ∃ cause, e = .catalog cause := by
  induction inputs generalizing s with
  | nil => exact absurd hx List.not_mem_nil
  | cons i rest ih =>
    rcases List.mem_cons.mp hx with rfl | hx
    · exact error_of_take h
    · exact ih hx

namespace Feed

variable {β γ : Type}

/-- **Any inputs come to the same on every bus**, in any weather. -/
theorem trace_onStore (p : Publisher) (bus : Service Bus.access β)
    (steps : List (Input × Weather β)) (s : State Store β) :
    ((onStore p bus).trace s steps).map blurred = s.catalog.trace (steps.map Prod.fst) := by
  induction steps generalizing s with
  | nil => rfl
  | cons step steps ih =>
    obtain ⟨i, w⟩ := step
    have htake : (((onStore p bus).take i (s.exposed w)).1.blurred,
        ((onStore p bus).take i (s.exposed w)).2.catalog) = s.catalog.take i :=
      take_onStore p bus i (s.exposed w)
    simp only [trace, List.map_cons, Store.trace, ih, ← htake]
    rfl

theorem error_of_trace_onStore {p : Publisher} {bus : Service Bus.access β}
    {steps : List (Input × Weather β)} {s : State Store β} {x : Answer × Store}
    (hx : x ∈ (onStore p bus).trace s steps) {e : Error} (h : x.1 = some (.error e)) :
    ∃ cause, e = .catalog cause := by
  have hmem : blurred x ∈ s.catalog.trace (steps.map Prod.fst) :=
    trace_onStore p bus steps s ▸ List.mem_map_of_mem hx
  refine Store.error_of_trace hmem ?_
  rw [blurred, h]
  rfl

/-- **No bus disturbs the catalog.**  Two feeds that begin with the same catalog and take in the
same inputs show the same catalog after each of them, and give the same answers up to the difference
between delivered and failed; and only the catalog makes them fail.  Their publishers and buses, the
links and journals that they begin with, and what happens to these in between may differ at will. -/
theorem buses_do_not_interfere (store : Store) (p q : Publisher) (bus : Service Bus.access β)
    (bus' : Service Bus.access γ) (steps : List (Input × Weather β × Weather γ)) (b : β) (b' : γ)
    (l l' : Link) (j j' : Journal) :
    let left := (onStore p bus).trace ⟨store, b, l, j⟩ (steps.map fun x => (x.1, x.2.1))
    let right := (onStore q bus').trace ⟨store, b', l', j'⟩ (steps.map fun x => (x.1, x.2.2))
    left.map blurred = right.map blurred ∧
      ∀ x ∈ left ++ right, ∀ e, x.1 = some (.error e) → ∃ cause, e = .catalog cause := by
  refine ⟨?_, fun x hx e he => ?_⟩
  · rw [trace_onStore, trace_onStore, List.map_map, List.map_map]
    rfl
  · rcases List.mem_append.mp hx with hx | hx
    · exact error_of_trace_onStore hx he
    · exact error_of_trace_onStore hx he

end Feed
end CatalogFeed
