import CatalogFeed.Proofs.Feed.Policy
import CatalogFeed.Proofs.Publish.Posting
import CatalogFeed.Proofs.Replay.Course

/-!
# Proofs/Replay/Accounts — the summary of a replay is a true account

A replay of any text, on any catalog, link and bus, and whatever troubles strike the bus, ends with
a summary.  Each of its counts is the count of something else: of lines of the text, of events in
it, of what has come of them, or of messages that the bus has delivered.

* `Feed.State.Adds`: what an event adds to the bus, and in which order;
* `Feed.handle_adds`, `Feed.applyEach_adds`: one event, and one event after the other;
* `CatalogEvent.isIdle`, `Feed.handle_eq_ignored_iff`: the events that are ignored;
* `Feed.replay_accounts`: the whole account.
-/

namespace CatalogFeed

open Bus (Beset Delivered)
open Catalog (Store)

/-! ## What the listener decides -/

/-- Whether the operation failed, or is an alteration. -/
def CatalogEvent.isIdle (e : CatalogEvent) : Bool :=
  !e.status || match e.change with
    | .partitionAltered _ _ | .tableAltered _ _ => true
    | _ => false

theorem Delivery.blurred_eq_ignored_iff (d : Delivery) : d.blurred = .ignored ↔ d = .ignored := by
  cases d <;> simp [blurred]

theorem Decision.intended_eq_ignored_iff (d : Decision) : d.intended = .ignored ↔ d = .ignore := by
  cases d <;> simp [intended]

namespace Catalog.Store

/-- What is announced is one message. -/
theorem added_of_announce {s : Store} {e : CatalogEvent} {a : Announcement}
    (h : (s.decide e).1 = .ok (.announce a)) : (ruling (s.decide e)).added = [a.content] := by
  generalize s.decide e = decided at h
  obtain ⟨_, c⟩ := decided
  obtain rfl := h
  rfl

theorem announceOn_ne_ignore (s : Store) (source : Topic.Source) (silence : LogEntry)
    (entity : CatalogFeed.Snapshot) (tag : NoticeTag) :
    ((Listener.announceOn source silence entity tag).run handler s).1 ≠ .ok .ignore := by
  rw [Listener.announceOn, Script.bind_eq, Script.run_bind]
  generalize (Topic.resolve source).run handler s = resolved
  obtain ⟨cause | _ | topic, s'⟩ := resolved <;> rintro ⟨⟩

theorem announceNewTable_ne_ignore (s : Store) (t : Table) :
    ((Listener.announceNewTable t).run handler s).1 ≠ .ok .ignore := by
  rw [Listener.announceNewTable, Script.bind_eq, Script.run_bind, run_getTable]
  cases s.getTable t.database t.name with
  | error cause => rintro ⟨⟩
  | ok current =>
    simp only [Script.bind_eq, Script.run_bind, run_tableTopic]
    generalize Topic.store _ current = updated
    generalize (Catalog.alterTable updated.database updated.name updated).run handler s = altered
    obtain ⟨cause | _, s'⟩ := altered <;> rintro ⟨⟩

/-- **The listener ignores exactly these events.** -/
theorem decide_eq_ignore_iff (s : Store) (e : CatalogEvent) :
    (s.decide e).1 = .ok .ignore ↔ e.isIdle = true := by
  rw [decide, Listener.decide, Script.bind_eq, Script.run_bind, run_note, CatalogEvent.isIdle]
  cases e.status with
  | false => exact iff_of_true rfl rfl
  | true =>
    cases e.change with
    | partitionAltered _ _ => exact iff_of_true rfl rfl
    | tableAltered _ _ => exact iff_of_true rfl rfl
    | tableCreated t => exact iff_of_false (s.announceNewTable_ne_ignore t) Bool.false_ne_true
    | tableDropped t => exact iff_of_false (by rintro ⟨⟩) Bool.false_ne_true
    | _ => exact iff_of_false (s.announceOn_ne_ignore _ _ _ _) Bool.false_ne_true

end Catalog.Store

namespace Feed

variable {κ β : Type}

/-! ## What is added to the bus -/

namespace State

/-- The messages that the bus has delivered. -/
def delivered (s : State κ Beset) : List Delivered := s.bus.hub.broker.delivered

/-- What is pending on the session that the link holds. -/
def backlog (s : State κ Beset) : List (String × Message) := s.link.backlog s.bus.hub.core

/-- **Messages are added to the bus**, in this order.  A backlog may be carried along before them;
it stays as long as nothing is added, and is gone as soon as a publish has been tried. -/
def Adds (messages : List (String × Message)) (s s' : State κ Beset) : Prop :=
  ∃ carried announced : List Delivered,
    Carried s.backlog (carried.map Delivered.content) ∧
    announced.map Delivered.content = messages ∧
    s'.delivered = s.delivered ++ (carried ++ announced) ∧
    (s'.backlog = [] ∨ s'.backlog = s.backlog ∧ carried = [] ∧ announced = [])

namespace Adds

variable {messages messages' : List (String × Message)} {s s' s'' : State κ Beset}

theorem of_same (hdelivered : s'.delivered = s.delivered) (hbacklog : s'.backlog = s.backlog) :
    Adds [] s s' :=
  ⟨[], [], Or.inl rfl, rfl, hdelivered.trans (List.append_nil _).symm, Or.inr ⟨hbacklog, rfl, rfl⟩⟩

/-- Nothing is left pending where nothing was. -/
theorem backlog_eq_nil (h : Adds messages s s') (hs : s.backlog = []) : s'.backlog = [] := by
  obtain ⟨-, -, -, -, -, hgone | ⟨hstays, -, -⟩⟩ := h
  · exact hgone
  · exact hstays.trans hs

/-- **Messages after messages.** -/
theorem trans (h : Adds messages s s') (h' : Adds messages' s' s'') :
    Adds (messages ++ messages') s s'' := by
  obtain ⟨carried, announced, hcarried, rfl, hdelivered, hbacklog⟩ := h
  have hnext := h'
  obtain ⟨carried', announced', hcarried', rfl, hdelivered', hbacklog'⟩ := h'
  rcases hbacklog with hgone | ⟨hstays, rfl, rfl⟩
  · have hnone : carried' = [] := by
      rw [hgone] at hcarried'
      exact List.map_eq_nil_iff.mp (hcarried'.elim id id)
    subst hnone
    refine ⟨carried, announced ++ announced', hcarried, List.map_append, ?_, Or.inl ?_⟩
    · rw [hdelivered', hdelivered, List.nil_append, List.append_assoc, List.append_assoc]
    · exact hnext.backlog_eq_nil hgone
  · refine ⟨carried', announced', hstays ▸ hcarried', rfl, ?_, hstays ▸ hbacklog'⟩
    rw [hdelivered', hdelivered, List.append_nil, List.append_nil]

end Adds
end State

open State (Adds)

/-- **What handling an event adds that is announced**: if it is delivered, the message, and perhaps
the backlog before that; else nothing.  Afterwards there is no backlog. -/
theorem handle_announced (p : Publisher) {e : CatalogEvent} {s : State Store Beset}
    {a : Announcement} (ha : (s.catalog.decide e).1 = .ok (.announce a)) :
    let handled := (onStore p Beset.service).handle e s
    handled.2.backlog = [] ∧
      ∃ carried announced, Carried s.backlog (carried.map Delivered.content) ∧
        handled.2.delivered = s.delivered ++ (carried ++ announced) ∧
        (handled.1 = .ok .delivered ∧ announced.map Delivered.content = [a.content] ∨
          handled.1 = .ok .failed ∧ carried = [] ∧ announced = []) := by
  obtain ⟨j, hd⟩ := decide_onStore p Beset.service e s
  rw [handle, hd, ha]
  obtain ⟨hgone, carried, announced, hcarried, hdelivered, hends⟩ := p.send_beset a s.link s.bus j
  refine ⟨hgone, carried, announced, hcarried, hdelivered, ?_⟩
  exact hends.imp (And.imp_left (congrArg Except.ok)) (And.imp_left (congrArg Except.ok))

/-- **What handling an event adds**: if it is delivered, what is ruled about it. -/
theorem handle_adds (p : Publisher) (e : CatalogEvent) (s : State Store Beset) :
    let handled := (onStore p Beset.service).handle e s
    Adds (if handled.1 = .ok .delivered then (Store.ruling (s.catalog.decide e)).added else []) s
      handled.2 := by
  intro handled
  by_cases hannounced : ∃ a, (s.catalog.decide e).1 = .ok (.announce a)
  · obtain ⟨a, ha⟩ := hannounced
    obtain ⟨hgone, carried, announced, hcarried, hdelivered, hends⟩ := handle_announced p ha
    refine ⟨carried, announced, hcarried, ?_, hdelivered, Or.inl hgone⟩
    rcases hends with ⟨hd, hmessage⟩ | ⟨hd, -, rfl⟩
    · rw [if_pos hd, hmessage, Store.added_of_announce ha]
    · rw [if_neg (by rw [hd]; nofun)]
      rfl
  · obtain ⟨j, hdecided⟩ := decide_onStore p Beset.service e s
    obtain ⟨hd, hlink, hbus⟩ := (onStore p Beset.service).handle_unannounced fun a ha =>
      hannounced ⟨a, (congrArg Prod.fst hdecided).symm.trans ha⟩
    rw [if_neg hd]
    refine .of_same (congrArg (·.hub.broker.delivered) hbus) ?_
    rw [State.backlog, hlink, hbus, ← State.backlog]

/-- The messages of an event that has been applied. -/
def Applied.messages (x : Applied) : List (String × Message) :=
  if x.outcome = .ok .delivered then (Store.ruling (x.found.decide x.event)).added else []

/-- **What applying one event after the other adds.** -/
theorem applyEach_adds (p : Publisher) (es : List CatalogEvent) (s : State Store Beset) :
    let course := (onStore p Beset.service).applyEach es s
    Adds (course.1.flatMap Applied.messages) s course.2 := by
  induction es generalizing s with
  | nil => exact .of_same rfl rfl
  | cons e es ih =>
    exact (handle_adds p e { s with catalog := s.catalog.reflect e }).trans (ih _)

/-! ## What comes of an event -/

/-- What has come of an event, as far as it has been decided with the catalog. -/
theorem handle_outcome (p : Publisher) (bus : Service Bus.access β) (e : CatalogEvent)
    (s : State Store β) :
    (∃ cause, (s.catalog.decide e).1 = .error cause ∧
      ((onStore p bus).handle e s).1 = .error (.catalog cause)) ∨
    ∃ decision delivery, (s.catalog.decide e).1 = .ok decision ∧
      ((onStore p bus).handle e s).1 = .ok delivery ∧ delivery.blurred = decision.intended := by
  obtain ⟨j, hd⟩ := decide_onStore p bus e s
  rcases (onStore p bus).handle_cases e s with ⟨cause, hdecided, hhandle⟩ |
    ⟨decision, hdecided, hhandle⟩ <;> rw [hd] at hdecided
  · exact Or.inl ⟨cause, hdecided, congrArg Prod.fst hhandle⟩
  · exact Or.inr ⟨decision, _, hdecided, congrArg Prod.fst hhandle,
      p.carryOut_blurred decision bus _ _ _⟩

/-- **An event is ignored exactly if it is idle.** -/
theorem handle_eq_ignored_iff (p : Publisher) (bus : Service Bus.access β) (e : CatalogEvent)
    (s : State Store β) :
    ((onStore p bus).handle e s).1 = .ok .ignored ↔ e.isIdle = true := by
  rw [← s.catalog.decide_eq_ignore_iff]
  rcases handle_outcome p bus e s with
    ⟨cause, hdecided, houtcome⟩ | ⟨decision, delivery, hdecided, houtcome, hblurred⟩
  · rw [hdecided, houtcome]
    exact iff_of_false nofun nofun
  · rw [hdecided, houtcome]
    rw [Except.ok.injEq, Except.ok.injEq, ← delivery.blurred_eq_ignored_iff, hblurred,
      decision.intended_eq_ignored_iff]

/-- **An event that is delivered has one message.** -/
theorem length_added_of_delivered {p : Publisher} {bus : Service Bus.access β} {e : CatalogEvent}
    {s : State Store β} (h : ((onStore p bus).handle e s).1 = .ok .delivered) :
    (Store.ruling (s.catalog.decide e)).added.length = 1 := by
  rcases handle_outcome p bus e s with
    ⟨cause, hdecided, houtcome⟩ | ⟨decision, delivery, hdecided, houtcome, hblurred⟩
  · cases houtcome.symm.trans h
  · obtain rfl : delivery = .delivered := Except.ok.inj (houtcome.symm.trans h)
    generalize s.catalog.decide e = decided at hdecided
    obtain ⟨_, c⟩ := decided
    obtain rfl := hdecided
    cases decision with
    | announce a => rfl
    | _ => cases hblurred

namespace Applied

/-- Whether the catalog has contradicted the event. -/
def isContradicted (x : Applied) : Bool :=
  match x.outcome with
  | .error (.catalog _) => true
  | _ => false

/-- What is known of an event that has been applied. -/
structure Accounted (x : Applied) : Prop where
  ignored : x.outcome = .ok .ignored ↔ x.event.isIdle = true
  contradicted : x.isContradicted = !x.outcome.isOk
  messages : x.messages.length = if x.outcome = .ok .delivered then 1 else 0

variable {xs : List Applied}

/-- **As many messages as events were delivered.** -/
theorem length_messages (h : ∀ x ∈ xs, x.Accounted) : (xs.flatMap messages).length =
    (xs.map (·.outcome)).count (.ok .delivered) := by
  induction xs with
  | nil => rfl
  | cons x xs ih =>
    have hx := (h x List.mem_cons_self).messages
    have hxs := ih fun y hy => h y (List.mem_cons_of_mem x hy)
    rw [List.flatMap_cons, List.length_append, hx, hxs, List.map_cons, List.count_cons,
      Nat.add_comm]
    simp only [beq_iff_eq]

theorem count_ignored (h : ∀ x ∈ xs, x.Accounted) :
    (xs.map (·.outcome)).count (.ok .ignored) = (xs.map (·.event)).countP CatalogEvent.isIdle := by
  rw [List.count, List.countP_map, List.countP_map]
  refine List.countP_congr fun x hx => ?_
  simp only [Function.comp_apply, beq_iff_eq]
  exact (h x hx).ignored

theorem countP_contradicted (h : ∀ x ∈ xs, x.Accounted) :
    (xs.map (·.outcome)).countP (!·.isOk) = xs.countP isContradicted := by
  rw [List.countP_map]
  refine List.countP_congr fun x hx => ?_
  rw [(h x hx).contradicted]
  rfl

end Applied

/-- **What comes of an event is accounted for.** -/
theorem apply_accounted (p : Publisher) (bus : Service Bus.access β) (e : CatalogEvent)
    (s : State Store β) :
    Applied.Accounted ⟨e, s.catalog.reflect e, ((onStore p bus).apply e s).1⟩ where
  ignored := handle_eq_ignored_iff p bus e { s with catalog := s.catalog.reflect e }
  contradicted := by
    rcases handle_outcome p bus e { s with catalog := s.catalog.reflect e } with
      ⟨cause, -, houtcome⟩ | ⟨decision, delivery, -, houtcome, -⟩ <;>
    · rw [apply, houtcome]
      rfl
  messages := by
    rw [Applied.messages]
    split
    · next h => exact length_added_of_delivered h
    · rfl

/-! ## The account -/

/-- **The summary of a replay is a true account.**  A replay of any text ends, on any catalog, link
and bus, and whatever troubles strike.  It counts every line that is not blank; the events that are
ignored; the lines that are no event and the events that the catalog contradicts; the events that
were suppressed, and those that failed.  It has delivered as many events as messages were announced
on the bus, which are those of the events, in order.  Nothing else has been added to the bus but
what was pending on the session of the link before the replay began, if that was carried along;
after any schedule of publishes and troubles, nothing is. -/
theorem replay_accounts (p : Publisher) (text : String) (s : State Store Beset) :
    let feed := onStore p Beset.service
    let contents := Replay.contents text.toList
    let applied := (feed.applyEach (Replay.events contents) s).1
    let after := (feed.replayBytes text.toUTF8 s).2
    ∃ summary carried announced, (feed.replayBytes text.toUTF8 s).1 = .ok summary ∧
      summary.total =
        (Replay.cutAt '\n' text.toList).countP (·.any fun c => !Text.isBlank c) ∧
      after.delivered = s.delivered ++ (carried ++ announced) ∧
      Carried s.backlog (carried.map Delivered.content) ∧
      announced.map Delivered.content = applied.flatMap Applied.messages ∧
      summary.delivered = announced.length ∧
      summary.ignored = (Replay.events contents).countP CatalogEvent.isIdle ∧
      summary.errors = Replay.malformed contents + applied.countP Applied.isContradicted ∧
      summary.suppressed = (applied.map (·.outcome)).count (.ok .suppressed) ∧
      summary.failed = (applied.map (·.outcome)).count (.ok .failed) ∧
      ∀ directory schedule, ((World.start directory).run schedule).lock = some s.link →
        ((World.start directory).run schedule).hub = s.bus.hub → carried = [] := by
  intro feed contents applied after
  obtain ⟨hsummary, hafter⟩ := feed.replayBytes_course text s
  have haccounted : ∀ x ∈ applied, x.Accounted :=
    feed.forall_applyEach (fun e s => apply_accounted p Beset.service e s) _ s
  have hevents : applied.map (·.event) = Replay.events contents := feed.map_event_applyEach _ s
  obtain ⟨carried, announced, hcarried, hannounced, hdelivered, -⟩ :=
    applyEach_adds p (Replay.events contents) s
  refine ⟨_, carried, announced, hsummary, ?_, ?_, hcarried, hannounced, ?_, ?_, ?_, rfl, rfl,
    fun directory schedule hlock hhub => ?_⟩
  · have hlength : applied.length = (Replay.events contents).length := by
      rw [← hevents, List.length_map]
    rw [course, Replay.Summary.total_of, List.length_map, hlength, Nat.add_comm,
      Replay.length_events_add_malformed]
    exact Replay.length_contents text.toList
  · rw [← hdelivered]
    exact congrArg (·.hub.broker.delivered) hafter.bus
  · rw [← List.length_map (f := Delivered.content), hannounced]
    exact (Applied.length_messages haccounted).symm
  · exact (Applied.count_ignored haccounted).trans (by rw [hevents])
  · exact congrArg (Replay.malformed contents + ·) (Applied.countP_contradicted haccounted)
  · have hnone : s.backlog = [] := by
      rw [State.backlog, ← hhub]
      exact Link.backlog_eq_nil (((World.sound_start directory).run schedule).unburdened hlock)
    rw [hnone] at hcarried
    exact List.map_eq_nil_iff.mp (hcarried.elim id id)

end Feed
end CatalogFeed
