import CatalogFeed.CommandLine.Run
import CatalogFeed.Proofs.Bus.Ledger
import CatalogFeed.Proofs.Feed.NonInterference
import CatalogFeed.Proofs.Publish.Notices

/-!
# Proofs/Replay/Order — what a replay leaves on a bus in memory

A replay does nothing to a bus but carry out what is decided about events, so it keeps whatever that
keeps, and it goes the same way on a bus that shows only a part of another.  So a replay can be
watched on a bus that records its answers: what has been delivered in the end is what the record
says, commit by commit.

* `Feed.replayEvents_keeps`: what is kept from the start of a feed to its end;
* `Feed.carriesNotices_replayEvents`: only notices come to a bus in memory;
* `Feed.delivered_replayEvents`: they are delivered in the order in which they are committed.
-/

namespace CatalogFeed

open Bus (Hub)

namespace Feed

/-! ## What a replay keeps -/

section Keeps

variable {β : Type} {f : Feed Catalog.Store β} {P : β → Prop}
  (hdecision : ∀ (d : Decision) (s : State Catalog.Store β), P s.bus →
    P (f.publish (·.carryOut d) s).2.bus)
include hdecision

/-- An event keeps of the bus what its decision keeps. -/
theorem apply_keeps (e : CatalogEvent) {s : State Catalog.Store β} (h : P s.bus) :
    P (f.apply e s).2.bus := by
  have hdecided : P (f.decide e { s with catalog := s.catalog.reflect e }).2.bus := h
  rw [apply]
  rcases f.handle_cases e { s with catalog := s.catalog.reflect e } with
    ⟨cause, -, hhandle⟩ | ⟨decision, -, hhandle⟩
  · rw [hhandle]
    exact hdecided
  · rw [hhandle]
    exact hdecision decision _ hdecided

theorem replayLine_keeps (number : Nat) (line : String) (summary : Replay.Summary)
    {s : State Catalog.Store β} (h : P s.bus) : P (f.replayLine number line summary s).2.bus := by
  rw [replayLine]
  cases Replay.content? line with
  | none => exact h
  | some content =>
    dsimp only
    cases CatalogEvent.parse content with
    | error problem => exact h
    | ok e =>
      have happlied := apply_keeps hdecision e h
      dsimp only
      generalize f.apply e s = applied at happlied
      obtain ⟨cause | delivery, t⟩ := applied <;> exact happlied

/-- **Line by line**, whether they can be read or not. -/
theorem replayLines_keeps (number : Nat) (summary : Replay.Summary)
    (lines : List (Except Text.Flaw String)) {s : State Catalog.Store β} (h : P s.bus) :
    P (f.replayLines number summary lines s).2.bus := by
  induction lines generalizing number summary s with
  | nil => exact h
  | cons line lines ih =>
    cases line with
    | error flaw => exact h
    | ok line => exact ih _ _ (replayLine_keeps hdecision number line summary h)

/-- **A replay of a file keeps what decisions keep.** -/
theorem replayFile_keeps (path : String) (content : Option ByteArray) {s : State Catalog.Store β}
    (h : P s.bus) : P (f.replayFile path content s).2.bus := by
  cases content with
  | none => exact h
  | some bytes => exact replayLines_keeps hdecision 1 {} _ (s := note (Replay.fileEntry path) s) h

/-- **From the start of a feed to its end.** -/
theorem replayEvents_keeps (hstart : ∀ s, P s.bus → P (f.start s).2.bus)
    (hshutdown : ∀ s, P s.bus → P (f.shutdown s).bus) (o : CommandLine.Options)
    (events : Option ByteArray) {s : State Catalog.Store β} (h : P s.bus) :
    P (CommandLine.replayEvents f o events s).2.bus := by
  have hstarted := hstart s h
  rw [CommandLine.replayEvents]
  generalize f.start s = started at hstarted
  obtain ⟨isUp, t⟩ := started
  have hnoted : P (if isUp = true then t else note CommandLine.unavailableEntry t).bus := by
    split <;> exact hstarted
  exact hshutdown _ (replayFile_keeps hdecision o.events events hnoted)

end Keeps

/-! ## Notices -/

section Notices

variable (p : Publisher) {s : State Catalog.Store Hub} (h : s.bus.account.CarriesNotices)
include h

theorem carriesNotices_publish {α : Type} (program : Publisher → Publishing α)
    (hprogram : (program p).KeepsNotices) :
    ((onStore p Hub.service).publish program s).2.bus.account.CarriesNotices :=
  hprogram.run s.link s.journal h

/-- **From the start of a feed to its end**, only notices come to the bus. -/
theorem carriesNotices_replayEvents (o : CommandLine.Options) (events : Option ByteArray) :
    (CommandLine.replayEvents (onStore p Hub.service) o events s).2.bus.account.CarriesNotices :=
  replayEvents_keeps (f := onStore p Hub.service) (P := fun hub => hub.account.CarriesNotices)
    (fun d _ h => carriesNotices_publish p h (·.carryOut d) (p.keepsNotices_carryOut d))
    (fun _ h => carriesNotices_publish p h _ p.keepsNotices_connect)
    (fun _ h => carriesNotices_publish p h _
      (p.keepsNotices_close.bind fun _ => Publishing.keepsNotices_note _)) o events h

end Notices

/-! ## A bus that shows less -/

/-- The state with a part of its bus. -/
def State.onPart {β γ : Type} (part : γ → β) (s : State Catalog.Store γ) :
    State Catalog.Store β := ⟨s.catalog, part s.bus, s.link, s.journal⟩

section Part

variable {α β γ : Type} (p : Publisher) {bus : Service Bus.access β} {bus' : Service Bus.access γ}
  {part : γ → β} (h : ∀ r now t, (bus'.serve r now t).within part = bus.serve r now (part t))
include h

theorem publish_onPart (program : Publisher → Publishing α) (s : State Catalog.Store γ) :
    (onStore p bus).publish program (s.onPart part) =
      ((onStore p bus').publish program s).map id (·.onPart part) := by
  have hrun := Service.run_part h (StateT.run (program p) s.link) s.bus s.journal
  simp only [publish, onStore, Publishing.run, State.onPart, hrun]
  rfl

theorem handle_onPart (e : CatalogEvent) (s : State Catalog.Store γ) :
    (onStore p bus).handle e (s.onPart part) =
      ((onStore p bus').handle e s).map id (·.onPart part) := by
  have hdecide : (onStore p bus).decide e (s.onPart part) =
      ((onStore p bus').decide e s).map id (·.onPart part) := rfl
  rw [handle, handle, hdecide]
  generalize (onStore p bus').decide e s = decided
  obtain ⟨cause | decision, t⟩ := decided
  · rfl
  · have hpublish := publish_onPart p h (·.carryOut decision) t
    dsimp only [Prod.map, id] at hpublish ⊢
    rw [hpublish]

theorem apply_onPart (e : CatalogEvent) (s : State Catalog.Store γ) :
    (onStore p bus).apply e (s.onPart part) =
      ((onStore p bus').apply e s).map id (·.onPart part) :=
  handle_onPart p h e { s with catalog := s.catalog.reflect e }

theorem replayLine_onPart (number : Nat) (line : String) (summary : Replay.Summary)
    (s : State Catalog.Store γ) :
    (onStore p bus).replayLine number line summary (s.onPart part) =
      ((onStore p bus').replayLine number line summary s).map id (·.onPart part) := by
  rw [replayLine, replayLine]
  cases Replay.content? line with
  | none => rfl
  | some content =>
    dsimp only
    cases CatalogEvent.parse content with
    | error problem => rfl
    | ok e =>
      dsimp only
      rw [apply_onPart p h e s]
      generalize (onStore p bus').apply e s = applied
      obtain ⟨cause | delivery, t⟩ := applied <;> rfl

theorem replayLines_onPart (number : Nat) (summary : Replay.Summary)
    (lines : List (Except Text.Flaw String)) (s : State Catalog.Store γ) :
    (onStore p bus).replayLines number summary lines (s.onPart part) =
      ((onStore p bus').replayLines number summary lines s).map id (·.onPart part) := by
  induction lines generalizing number summary s with
  | nil => rfl
  | cons line lines ih =>
    cases line with
    | error flaw => rfl
    | ok line =>
      rw [replayLines, replayLines, replayLine_onPart p h]
      exact ih _ _ _

theorem replayFile_onPart (path : String) (content : Option ByteArray)
    (s : State Catalog.Store γ) :
    (onStore p bus).replayFile path content (s.onPart part) =
      ((onStore p bus').replayFile path content s).map id (·.onPart part) := by
  cases content with
  | none => rfl
  | some bytes => exact replayLines_onPart p h 1 {} _ (note (Replay.fileEntry path) s)

/-- **A replay leaves the same** on a bus that shows a part of another. -/
theorem replayEvents_onPart (o : CommandLine.Options) (events : Option ByteArray)
    (s : State Catalog.Store γ) :
    CommandLine.replayEvents (onStore p bus) o events (s.onPart part) =
      (CommandLine.replayEvents (onStore p bus') o events s).map id (·.onPart part) := by
  have hstart := publish_onPart p h Publisher.connect s
  rw [CommandLine.replayEvents, CommandLine.replayEvents, start, start, hstart]
  generalize (onStore p bus').publish Publisher.connect s = started
  obtain ⟨isUp, t⟩ := started
  have hnoted : (if isUp = true then t.onPart part
      else note CommandLine.unavailableEntry (t.onPart part)) =
      (if isUp = true then t else note CommandLine.unavailableEntry t).onPart part := by
    split <;> rfl
  dsimp only [Prod.map, id]
  rw [hnoted, replayFile_onPart p h]
  generalize (onStore p bus').replayFile o.events events _ = replayed
  obtain ⟨result, u⟩ := replayed
  have hshutdown := publish_onPart p h
    (fun p => do p.close; Publishing.note (.info "Notification listener stopped")) u
  exact congrArg (fun shut => (result, shut.2)) hshutdown

end Part

/-! ## The record -/

section Record

variable (p : Publisher) {s : State Catalog.Store (Hub × List Bus.Entry)}
  (h : s.bus.1.account.Agrees s.bus.2)
include h

theorem agrees_publish {α : Type} (program : Publisher → Publishing α) :
    let bus := ((onStore p Hub.recorded).publish program s).2.bus
    bus.1.account.Agrees bus.2 :=
  Service.run_keeps (P := fun t : Hub × List Bus.Entry => t.1.account.Agrees t.2)
    Hub.agrees_recorded (StateT.run (program p) s.link) h s.journal

/-- **From the start of a feed to its end**, the bus does what its record says. -/
theorem agrees_replayEvents (o : CommandLine.Options) (events : Option ByteArray) :
    let bus := (CommandLine.replayEvents (onStore p Hub.recorded) o events s).2.bus
    bus.1.account.Agrees bus.2 :=
  replayEvents_keeps (f := onStore p Hub.recorded)
    (P := fun t : Hub × List Bus.Entry => t.1.account.Agrees t.2)
    (fun d _ h => agrees_publish p h (·.carryOut d)) (fun _ h => agrees_publish p h _)
    (fun _ h => agrees_publish p h _) o events h

end Record

end Feed

namespace CommandLine

/-- **The record of a replay** on a bus in memory: the calls that the feed makes, with their
answers. -/
def busRecord (o : Options) (c : Config) (catalog : Catalog.Store) (events : Option ByteArray)
    (journal : Journal) : List Bus.Entry :=
  let f : Feed Catalog.Store (Hub × List Bus.Entry) :=
    ⟨c.publisher, Catalog.Store.service, Hub.recorded⟩
  (replayEvents f o events ⟨catalog, (⟨c.directoryOf, {}⟩, []), {}, journal⟩).2.bus.2

end CommandLine

/-- **A replay delivers commit by commit**, as its record says. -/
theorem Feed.delivered_replayEvents (o : CommandLine.Options) (c : Config)
    (catalog : Catalog.Store) (events : Option ByteArray) (journal : Journal) :
    (CommandLine.replayEvents (onStore c.publisher Hub.service) o events
        ⟨catalog, ⟨c.directoryOf, {}⟩, {}, journal⟩).2.bus.broker.delivered =
      Bus.ledger (CommandLine.busRecord o c catalog events journal) := by
  have hagrees := agrees_replayEvents c.publisher
    (s := ⟨catalog, (⟨c.directoryOf, {}⟩, []), {}, journal⟩) (Bus.Traffic.sound_start _).agrees o
    events
  have hpart := replayEvents_onPart c.publisher Hub.recorded_within o events
    ⟨catalog, (⟨c.directoryOf, {}⟩, []), {}, journal⟩
  refine Eq.trans ?_ hagrees.delivered
  exact congrArg (fun replayed => replayed.2.bus.broker.delivered) hpart

end CatalogFeed
