import CatalogFeed.Bus.Hub
import CatalogFeed.Fault
import CatalogFeed.Proofs.Feed.NonInterference

/-!
# Proofs/Feed/Unpublished — what is not published leaves no trace

A feed decides on an event with the catalog, and turns to the bus only if there is something to
announce.  So an event that is ignored, suppressed or in error meets neither the link nor the bus;
and since only the creation of a table makes the listener ask for a change, every other event leaves
the catalog as it was.

* `Catalog.ReadsKeep`: reading leaves a catalog alone, as far as `view` shows it;
* `Listener.ensures_decide`: the listener only reads, unless a table was created;
* `Feed.unpublished_leaves_no_trace`: every event, every catalog and every bus.
-/

namespace CatalogFeed

/-! ## Catalogs that are only read -/

namespace Catalog

/-- Whether the request only reads. -/
def Request.reads : Request → Bool
  | .alterTable _ _ _ => false
  | _ => true

/-- **Reading leaves a catalog alone**, as far as `view` shows it. -/
def ReadsKeep {κ α : Type} (service : Service access κ) (view : κ → α) : Prop :=
  ∀ (r : Request) (now : Nat) (k : κ), r.reads = true → view (service.serve r now k).state = view k

theorem readsKeep_store : ReadsKeep Store.service id := by
  intro r now s hr
  cases r with
  | alterTable database table definition => cases hr
  | _ => rfl

/-- A fault is used up when it is met, but nothing is changed behind it. -/
theorem ReadsKeep.troubled {κ α : Type} {service : Service access κ} {view : κ → α}
    (h : ReadsKeep service view) : ReadsKeep (Catalog.troubled service) fun k => view k.1 := by
  rintro r now ⟨k, faults⟩ hr
  cases r with
  | setting key => exact h _ _ _ rfl
  | alterTable database table definition => cases hr
  | getTable database table =>
    simp only [Catalog.troubled, meet]
    split
    · exact h _ _ _ rfl
    · split
      · rfl
      · exact h _ _ _ rfl

end Catalog

/-- Requests that read leave the state alone; what others do is not known. -/
def Contract.reading (α : Type) : Contract Catalog.access α where
  answers r v _ v' := r.reads = true → v' = v
  holds _ := True

/-! ## The listener reads -/

section Reading

variable {α : Type} {v : α}

theorem Topic.ensures_configuredPrefix :
    configuredPrefix.Ensures (.reading α) (fun _ v' => v' = v) v :=
  ⟨trivial, fun _ _ hread => ⟨trivial, hread rfl⟩⟩

theorem Topic.ensures_resolve (source : Source) :
    (resolve source).Ensures (.reading α) (fun _ v' => v' = v) v := by
  cases source with
  | owningTable database table =>
    refine ⟨trivial, fun reply v' hread => ?_⟩
    obtain rfl := hread rfl
    cases reply <;> exact ⟨trivial, rfl⟩
  | storedOn t => exact ⟨trivial, rfl⟩
  | prefixAlone =>
    rw [resolve, Script.bind_eq, Script.ensures_bind]
    exact ensures_configuredPrefix.mono fun _ _ _ h => ⟨trivial, h⟩

theorem Listener.ensures_announceOn (source : Topic.Source) (silence : LogEntry) (entity : Snapshot)
    (tag : NoticeTag) :
    (announceOn source silence entity tag).Ensures (.reading α) (fun _ v' => v' = v) v := by
  rw [announceOn, Script.bind_eq, Script.ensures_bind]
  refine (Topic.ensures_resolve source).mono fun topic v' _ h => ?_
  obtain _ | _ | topic := topic <;> exact ⟨trivial, h⟩

/-- **The listener only reads the catalog, unless a table was created.** -/
theorem Listener.ensures_decide {e : CatalogEvent} (he : ∀ t, e ≠ .succeeded (.tableCreated t)) :
    (decide e).Ensures (.reading α) (fun _ v' => v' = v) v := by
  obtain ⟨status, change⟩ := e
  cases status with
  | false => exact ⟨trivial, rfl⟩
  | true =>
    cases change with
    | tableCreated t => exact absurd rfl (he t)
    | tableDropped t =>
      change (announceDroppedTable t).Ensures _ _ _
      rw [announceDroppedTable, Script.bind_eq, Script.ensures_bind]
      rw [Topic.databaseTopic, Script.bind_eq, Script.ensures_bind]
      exact Topic.ensures_configuredPrefix.mono fun _ _ _ h => ⟨trivial, trivial, h⟩
    | partitionAltered _ _ => exact ⟨trivial, rfl⟩
    | tableAltered _ _ => exact ⟨trivial, rfl⟩
    | _ => exact ensures_announceOn _ _ _ _

end Reading

/-- The entry of an event that has come in. -/
def Listener.receivedEntry (e : CatalogEvent) : LogEntry :=
  .debug "Catalog event received" [("event", .text e.change.name), ("status", .flag e.status)]

namespace Feed

variable {κ β : Type}

/-! ## Decisions -/

/-- A decision other than on a new table leaves the catalog alone. -/
theorem catalog_decide {α : Type} (f : Feed κ β) {view : κ → α}
    (hreads : Catalog.ReadsKeep f.catalog view) {e : CatalogEvent}
    (he : ∀ t, e ≠ .succeeded (.tableCreated t)) (s : State κ β) :
    view (f.decide e s).2.catalog = view s.catalog :=
  Script.Ensures.run (K := .reading α) (h := f.catalog.handler) (fun t : κ × Journal => view t.1)
    (fun r t hr => hreads r t.2.clock t.1 hr) (fun _ _ => rfl) (t := (s.catalog, s.journal))
    (Listener.ensures_decide he)

/-- What is announced is delivered, or fails: nothing else comes of a publish. -/
theorem publish_announcement (f : Feed κ β) (a : Announcement) (s : State κ β) :
    (f.publish (fun p => p.carryOut (.announce a)) s).1 = .delivered ∨
      (f.publish (fun p => p.carryOut (.announce a)) s).1 = .failed := by
  have hblurred := f.publisher.send_blurred a f.bus s.link s.bus s.journal
  change ((f.publish (fun p => p.carryOut (.announce a)) s).1).blurred = .delivered at hblurred
  cases h : (f.publish (fun p => p.carryOut (.announce a)) s).1 with
  | delivered => exact Or.inl rfl
  | failed => exact Or.inr rfl
  | ignored => rw [h] at hblurred; cases hblurred
  | suppressed => rw [h] at hblurred; cases hblurred

/-- **An event that is not published meets neither bus nor link.** -/
theorem handle_unpublished (f : Feed κ β) {e : CatalogEvent} {s : State κ β}
    (h : ∀ d, (f.handle e s).1 = .ok d → d = .ignored ∨ d = .suppressed) :
    (f.handle e s).2.bus = s.bus ∧ (f.handle e s).2.link = s.link := by
  rcases f.handle_cases e s with ⟨cause, -, hhandle⟩ | ⟨decision, hdecided, hhandle⟩
  · rw [hhandle]
    exact ⟨rfl, rfl⟩
  · have hunannounced : ∀ a, decision ≠ .announce a := by
      rintro a rfl
      have hanswer := h (f.publish (fun p => p.carryOut (.announce a)) (f.decide e s).2).1
        (congrArg Prod.fst hhandle)
      rcases f.publish_announcement a (f.decide e s).2 with hd | hd <;> rw [hd] at hanswer <;>
        rcases hanswer with hanswer | hanswer <;> cases hanswer
    have hkept := f.handle_unannounced fun a ha =>
      hunannounced a (Except.ok.inj (hdecided.symm.trans ha))
    exact hkept.2.symm

/-! ## Events -/

/-- **What is not published leaves no trace.**  Whatever the catalog, the bus and the state they are
in: an event that is ignored, suppressed or in error leaves the bus and the link exactly as they
were; the catalog stays as it was, unless a table was created; and the event of an operation that
failed does nothing at all, but for the entry that it has come in, also when it is replayed. -/
theorem unpublished_leaves_no_trace {α : Type} (f : Feed κ β) (view : κ → α)
    (hreads : Catalog.ReadsKeep f.catalog view) (e : CatalogEvent) (s : State κ β) :
    let handled := f.handle e s
    (handled.1 = .ok .ignored ∨ handled.1 = .ok .suppressed ∨ (∃ cause, handled.1 = .error cause) →
      handled.2.bus = s.bus ∧ handled.2.link = s.link) ∧
    ((∀ t, e ≠ .succeeded (.tableCreated t)) → view handled.2.catalog = view s.catalog) ∧
    (e.status = false → handled = (.ok .ignored, note (Listener.receivedEntry e) s) ∧
      ∀ (g : Feed Catalog.Store β) (r : State Catalog.Store β),
        g.apply e r = (.ok .ignored, note (Listener.receivedEntry e) r)) := by
  intro handled
  refine ⟨fun h => f.handle_unpublished fun d hd => ?_, fun he => ?_, fun hstatus => ?_⟩
  · rcases h with h | h | ⟨cause, h⟩ <;> cases h.symm.trans hd
    · exact Or.inl rfl
    · exact Or.inr rfl
  · exact (congrArg view (f.catalog_handle e s)).trans (f.catalog_decide hreads he s)
  · obtain ⟨status, change⟩ := e
    obtain rfl : status = false := hstatus
    exact ⟨rfl, fun g r => rfl⟩

/-! ### A partition while the catalog cannot be read -/

/-- A feed on a catalog and a bus that both meet faults. -/
def besetFeed : Feed (Catalog.Store × Faults Catalog.Point CatalogError)
    (Bus.Hub × Faults Bus.Point Error) :=
  ⟨⟨"cf", 1000, 200⟩, Catalog.troubled Catalog.Store.service, Bus.troubled Bus.Hub.service⟩

/-- The catalog is about to be unavailable once, the broker reports stale sessions, and the first
declaration of a topic will be delayed. -/
def besetState : State (Catalog.Store × Faults Catalog.Point CatalogError)
    (Bus.Hub × Faults Bus.Point Error) where
  catalog := ((Catalog.Store.ofSnapshot {}).putTable { name := "q1", database := "sales" },
    [(.getTable, { error := some (.unavailable "down") })])
  bus := (⟨Bus.Directory.bind {} "cf" 0, { staleSignals := 2, commitFailures := 1 }⟩,
    [(.createTopic, { delay := 5 })])

theorem unpublished_leaves_no_trace_of_unavailability :
    let handled := besetFeed.handle
      (.succeeded (.partitionAdded { values := ["eu"], database := "sales", table := "q1" }))
      besetState
    handled.1 = .error (.catalog (.unavailable "down")) ∧ handled.2.bus = besetState.bus ∧
      handled.2.link = {} ∧ handled.2.catalog.1 = besetState.catalog.1 := by
  intro handled
  have herror : handled.1 = .error (.catalog (.unavailable "down")) := rfl
  obtain ⟨hbus, hcatalog, -⟩ := unpublished_leaves_no_trace besetFeed Prod.fst
    (Catalog.readsKeep_store.troubled) (.succeeded (.partitionAdded
      { values := ["eu"], database := "sales", table := "q1" })) besetState
  exact ⟨herror, (hbus (Or.inr (Or.inr ⟨_, herror⟩))).1, (hbus (Or.inr (Or.inr ⟨_, herror⟩))).2,
    hcatalog (by simp [CatalogEvent.succeeded])⟩

end Feed
end CatalogFeed
