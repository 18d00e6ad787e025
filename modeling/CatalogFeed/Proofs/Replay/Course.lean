import CatalogFeed.Proofs.Replay.Contents

/-!
# Proofs/Replay/Course — a replay is the course of its events

What a feed does depends on its log in nothing.  A replay therefore amounts to applying, in order,
the events that its text records (`Feed.applyEach`), and to counting the lines that are no events
and what became of the others (`Replay.Summary.of`).

* `Feed.apply_congr`: an event comes to the same whatever has been logged;
* `Feed.applyEach_append`: events after events;
* `Feed.replayLines_append`: lines before others come to the course of their contents;
* `Feed.replayText_course`, `Feed.replayBytes_course`: every replay of a text ends, and is the
  course of the events in it.
-/

namespace CatalogFeed

/-! ## What does not depend on the log -/

/-- What a script does on a service depends on the time, and not on the log. -/
theorem Service.run_of_clock {I : Interface} {α σ : Type} (service : Service I σ)
    (script : Script I α) (state : σ) {j j' : Journal} (h : j.clock = j'.clock) :
    (service.run script state j).1 = (service.run script state j').1 ∧
      (service.run script state j).2.1 = (service.run script state j').2.1 ∧
      (service.run script state j).2.2.clock = (service.run script state j').2.2.clock := by
  induction script generalizing state j j' with
  | done a => exact ⟨rfl, rfl, h⟩
  | log e script ih => exact ih state h
  | ask r next ih =>
    simp only [Service.run, Script.run_ask, Service.handler, h]
    refine ih _ _ ?_
    simp only [Journal.clock_write, Journal.elapse, h]

namespace Feed

variable {α κ β : Type}

/-- The two states differ in their logs at most. -/
structure State.SameButLog (s s' : State κ β) : Prop where
  catalog : s.catalog = s'.catalog
  bus : s.bus = s'.bus
  link : s.link = s'.link
  clock : s.journal.clock = s'.journal.clock

namespace State.SameButLog

variable {s s' s'' : State κ β}

theorem refl (s : State κ β) : s.SameButLog s := ⟨rfl, rfl, rfl, rfl⟩

theorem symm (h : s.SameButLog s') : s'.SameButLog s :=
  ⟨h.catalog.symm, h.bus.symm, h.link.symm, h.clock.symm⟩

theorem trans (h : s.SameButLog s') (h' : s'.SameButLog s'') : s.SameButLog s'' :=
  ⟨h.catalog.trans h'.catalog, h.bus.trans h'.bus, h.link.trans h'.link, h.clock.trans h'.clock⟩

theorem note (entry : LogEntry) (s : State κ β) : (Feed.note entry s).SameButLog s :=
  ⟨rfl, rfl, rfl, rfl⟩

end State.SameButLog

section Congr

variable {s s' : State κ β} (h : s.SameButLog s')
include h

theorem decide_congr (f : Feed κ β) (e : CatalogEvent) :
    (f.decide e s).1 = (f.decide e s').1 ∧ (f.decide e s).2.SameButLog (f.decide e s').2 := by
  have hrun := f.catalog.run_of_clock (Listener.decide e) s.catalog h.clock
  rw [decide, decide, ← h.catalog]
  exact ⟨hrun.1, hrun.2.1, h.bus, h.link, hrun.2.2⟩

theorem publish_congr (f : Feed κ β) (program : Publisher → Publishing α) :
    (f.publish program s).1 = (f.publish program s').1 ∧
      (f.publish program s).2.SameButLog (f.publish program s').2 := by
  have hrun := f.bus.run_of_clock (StateT.run (program f.publisher) s.link) s.bus h.clock
  simp only [publish, Publishing.run, ← h.bus, ← h.link]
  exact ⟨congrArg Prod.fst hrun.1, h.catalog, hrun.2.1, congrArg Prod.snd hrun.1, hrun.2.2⟩

theorem handle_congr (f : Feed κ β) (e : CatalogEvent) :
    (f.handle e s).1 = (f.handle e s').1 ∧ (f.handle e s).2.SameButLog (f.handle e s').2 := by
  obtain ⟨hdecision, hstate⟩ := decide_congr h f e
  rw [handle, handle]
  generalize f.decide e s = decided at hdecision hstate
  generalize f.decide e s' = decided' at hdecision hstate
  obtain ⟨decision, t⟩ := decided
  obtain ⟨_, t'⟩ := decided'
  obtain rfl := hdecision
  cases decision with
  | error cause => exact ⟨rfl, hstate⟩
  | ok decision =>
    obtain ⟨hdelivery, hpublished⟩ := publish_congr hstate f fun p => p.carryOut decision
    exact ⟨congrArg Except.ok hdelivery, hpublished⟩

end Congr

/-! ## The course of events -/

variable (f : Feed Catalog.Store β)

/-- **An event comes to the same whatever has been logged.** -/
theorem apply_congr {s s' : State Catalog.Store β} (h : s.SameButLog s') (e : CatalogEvent) :
    (f.apply e s).1 = (f.apply e s').1 ∧ (f.apply e s).2.SameButLog (f.apply e s').2 :=
  have hreflected : State.SameButLog { s with catalog := s.catalog.reflect e }
      { s' with catalog := s'.catalog.reflect e } :=
    ⟨congrArg (·.reflect e) h.catalog, h.bus, h.link, h.clock⟩
  handle_congr hreflected f e

/-- An event that has been applied: the catalog that the listener found, and the outcome. -/
structure Applied where
  event : CatalogEvent
  found : Catalog.Store
  outcome : Except Error Delivery

/-- **The course of events**: applies them in order. -/
def applyEach : List CatalogEvent → State Catalog.Store β → List Applied × State Catalog.Store β
  | [], s => ([], s)
  | e :: rest, s =>
    let (outcome, s') := f.apply e s
    let (applied, s'') := applyEach rest s'
    (⟨e, s.catalog.reflect e, outcome⟩ :: applied, s'')

@[simp] theorem applyEach_nil (s : State Catalog.Store β) : f.applyEach [] s = ([], s) := rfl

@[simp] theorem applyEach_cons (e : CatalogEvent) (es : List CatalogEvent)
    (s : State Catalog.Store β) : f.applyEach (e :: es) s =
      (⟨e, s.catalog.reflect e, (f.apply e s).1⟩ :: (f.applyEach es (f.apply e s).2).1,
        (f.applyEach es (f.apply e s).2).2) := rfl

/-- **Events after events.** -/
theorem applyEach_append (es es' : List CatalogEvent) (s : State Catalog.Store β) :
    f.applyEach (es ++ es') s =
      ((f.applyEach es s).1 ++ (f.applyEach es' (f.applyEach es s).2).1,
        (f.applyEach es' (f.applyEach es s).2).2) := by
  induction es generalizing s with
  | nil => rfl
  | cons e es ih => rw [List.cons_append, applyEach_cons, ih, applyEach_cons, List.cons_append]

/-- Every event is applied, in order. -/
theorem map_event_applyEach (es : List CatalogEvent) (s : State Catalog.Store β) :
    (f.applyEach es s).1.map (·.event) = es := by
  induction es generalizing s with
  | nil => rfl
  | cons e es ih => rw [applyEach_cons, List.map_cons, ih]

/-- What holds of every event that is applied holds of all of them. -/
theorem forall_applyEach {P : Applied → Prop}
    (h : ∀ e s, P ⟨e, s.catalog.reflect e, (f.apply e s).1⟩) (es : List CatalogEvent)
    (s : State Catalog.Store β) : ∀ x ∈ (f.applyEach es s).1, P x := by
  induction es generalizing s with
  | nil => exact fun x hx => absurd hx List.not_mem_nil
  | cons e es ih =>
    intro x hx
    rw [applyEach_cons, List.mem_cons] at hx
    obtain rfl | hx := hx
    · exact h e s
    · exact ih _ x hx

/-- The course of events is the same whatever has been logged. -/
theorem applyEach_congr (es : List CatalogEvent) {s s' : State Catalog.Store β}
    (h : s.SameButLog s') : (f.applyEach es s).1 = (f.applyEach es s').1 ∧
      (f.applyEach es s).2.SameButLog (f.applyEach es s').2 := by
  induction es generalizing s s' with
  | nil => exact ⟨rfl, h⟩
  | cons e es ih =>
    obtain ⟨houtcome, hstate⟩ := f.apply_congr h e
    obtain ⟨happlied, hend⟩ := ih hstate
    refine ⟨?_, hend⟩
    rw [applyEach_cons, applyEach_cons, houtcome, happlied, h.catalog]

end Feed

/-! ## Summaries -/

namespace Replay

/-- The events among the contents of lines. -/
def events (contents : List String) : List CatalogEvent :=
  contents.filterMap fun content => (CatalogEvent.parse content).toOption

/-- How many contents are no event. -/
def malformed (contents : List String) : Nat :=
  contents.countP fun content => !(CatalogEvent.parse content).isOk

theorem events_append (a b : List String) : events (a ++ b) = events a ++ events b := by
  rw [events, List.filterMap_append, events, events]

theorem malformed_append (a b : List String) : malformed (a ++ b) = malformed a + malformed b := by
  rw [malformed, List.countP_append, malformed, malformed]

theorem events_of_error {content : String} {problem : Json.Problem}
    (h : CatalogEvent.parse content = .error problem) : events [content] = [] := by
  simp [events, h, Except.toOption]

theorem malformed_of_error {content : String} {problem : Json.Problem}
    (h : CatalogEvent.parse content = .error problem) : malformed [content] = 1 := by
  simp [malformed, h, Except.isOk, Except.toBool]

theorem events_of_ok {content : String} {e : CatalogEvent}
    (h : CatalogEvent.parse content = .ok e) : events [content] = [e] := by
  simp [events, h, Except.toOption]

theorem malformed_of_ok {content : String} {e : CatalogEvent}
    (h : CatalogEvent.parse content = .ok e) : malformed [content] = 0 := by
  simp [malformed, h, Except.isOk, Except.toBool]

/-- Every content is an event or is none. -/
theorem length_events_add_malformed (contents : List String) :
    (events contents).length + malformed contents = contents.length := by
  induction contents with
  | nil => rfl
  | cons content contents ih =>
    rw [← List.singleton_append, events_append, malformed_append, List.length_append,
      List.length_append, ← ih]
    cases h : CatalogEvent.parse content with
    | error problem =>
      rw [events_of_error h, malformed_of_error h]
      simp only [List.length_nil, List.length_singleton]
      omega
    | ok e =>
      rw [events_of_ok h, malformed_of_ok h]
      simp only [List.length_singleton]
      omega

namespace Summary

/-- What two replays met, taken together. -/
instance : Add Summary where
  add a b := ⟨a.delivered + b.delivered, a.ignored + b.ignored, a.suppressed + b.suppressed,
    a.failed + b.failed, a.errors + b.errors⟩

/-- The summary of lines of which so many are no event, and the others have these outcomes. -/
def of (malformed : Nat) (outcomes : List (Except Error Delivery)) : Summary where
  delivered := outcomes.count (.ok .delivered)
  ignored := outcomes.count (.ok .ignored)
  suppressed := outcomes.count (.ok .suppressed)
  failed := outcomes.count (.ok .failed)
  errors := malformed + outcomes.countP (!·.isOk)

theorem add_def (a b : Summary) : a + b = ⟨a.delivered + b.delivered, a.ignored + b.ignored,
    a.suppressed + b.suppressed, a.failed + b.failed, a.errors + b.errors⟩ := rfl

theorem add_assoc (a b c : Summary) : a + b + c = a + (b + c) := by
  simp only [add_def, Nat.add_assoc]

@[simp] theorem zero_add (a : Summary) : ({} : Summary) + a = a := by
  simp only [add_def, Nat.zero_add]

theorem of_append (m n : Nat) (outcomes outcomes' : List (Except Error Delivery)) :
    of (m + n) (outcomes ++ outcomes') = of m outcomes + of n outcomes' := by
  simp only [of, add_def, List.count_append, List.countP_append, mk.injEq, true_and]
  omega

theorem total_add (a b : Summary) : (a + b).total = a.total + b.total := by
  simp only [add_def, total]
  omega

/-- Every line is counted once, whatever became of it. -/
theorem total_of (malformed : Nat) (outcomes : List (Except Error Delivery)) :
    (of malformed outcomes).total = malformed + outcomes.length := by
  induction outcomes with
  | nil => simp [of, total]
  | cons outcome outcomes ih =>
    have hone : (of 0 [outcome]).total = 1 := by
      rcases outcome with cause | delivery
      · rfl
      · cases delivery <;> rfl
    rw [← Nat.zero_add malformed, ← List.singleton_append, of_append, total_add, hone, ih]
    simp only [List.length_append, List.length_singleton]
    omega

theorem countError_eq_add (a : Summary) : a.countError = a + of 1 [] := rfl

/-- What became of one event counts once. -/
theorem countOutcome_eq_add (a : Summary) (outcome : Except Error Delivery) :
    (match outcome with
      | .ok delivery => a.count delivery
      | .error _ => a.countError) = a + of 0 [outcome] := by
  rcases outcome with cause | delivery
  · rfl
  · cases delivery <;> rfl

end Summary
end Replay

/-! ## Replays -/

namespace Feed

open Replay (contents events malformed Summary)

variable {β : Type} (f : Feed Catalog.Store β)

/-- The course of the events among contents, and the summary of the contents. -/
def course (contents : List String) (s : State Catalog.Store β) : Summary × State Catalog.Store β :=
  let (applied, s) := f.applyEach (events contents) s
  (.of (malformed contents) (applied.map (·.outcome)), s)

/-- **Contents after contents.** -/
theorem course_append (a b : List String) (s : State Catalog.Store β) :
    f.course (a ++ b) s =
      ((f.course a s).1 + (f.course b (f.course a s).2).1, (f.course b (f.course a s).2).2) := by
  simp only [course, Replay.events_append, Replay.malformed_append, applyEach_append,
    List.map_append, Summary.of_append]

/-- **Every content is counted**, whatever becomes of it. -/
theorem total_course (a : List String) (s : State Catalog.Store β) :
    (f.course a s).1.total = a.length := by
  have hevents := congrArg List.length (f.map_event_applyEach (events a) s)
  rw [List.length_map] at hevents
  rw [course, Summary.total_of, List.length_map, hevents, Nat.add_comm,
    Replay.length_events_add_malformed]

theorem course_congr (a : List String) {s s' : State Catalog.Store β} (h : s.SameButLog s') :
    (f.course a s).1 = (f.course a s').1 ∧ (f.course a s).2.SameButLog (f.course a s').2 := by
  obtain ⟨happlied, hstate⟩ := f.applyEach_congr (events a) h
  exact ⟨by simp only [course, happlied], hstate⟩

/-- **A line comes to its content.** -/
theorem replayLine_course (number : Nat) (line : String) (summary : Summary)
    (s : State Catalog.Store β) :
    (f.replayLine number line summary s).1 =
        summary + (f.course (Replay.content? line).toList s).1 ∧
      (f.replayLine number line summary s).2.SameButLog
        (f.course (Replay.content? line).toList s).2 := by
  rw [replayLine]
  cases Replay.content? line with
  | none => exact ⟨rfl, .refl s⟩
  | some content =>
    simp only [Option.toList_some, course]
    cases hparse : CatalogEvent.parse content with
    | error problem =>
      rw [Replay.events_of_error hparse, Replay.malformed_of_error hparse]
      exact ⟨summary.countError_eq_add, .note _ s⟩
    | ok e =>
      rw [Replay.events_of_ok hparse, Replay.malformed_of_ok hparse]
      have hcount := summary.countOutcome_eq_add (f.apply e s).1
      simp only [applyEach_cons, applyEach_nil, List.map_singleton]
      generalize f.apply e s = applied at hcount
      obtain ⟨cause | delivery, t⟩ := applied
      · exact ⟨hcount, .note _ t⟩
      · exact ⟨hcount, .note _ t⟩

/-- **Lines before others come to the course of their contents.** -/
theorem replayLines_append (number : Nat) (lines : List String)
    (more : List (Except Text.Flaw String)) (summary : Summary) (s : State Catalog.Store β) :
    ∃ t : State Catalog.Store β,
      t.SameButLog (f.course (lines.filterMap Replay.content?) s).2 ∧
        f.replayLines number summary (lines.map .ok ++ more) s =
          f.replayLines (number + lines.length)
            (summary + (f.course (lines.filterMap Replay.content?) s).1) more t := by
  induction lines generalizing number summary s with
  | nil => exact ⟨s, .refl s, rfl⟩
  | cons line lines ih =>
    obtain ⟨hsummary, hstate⟩ := f.replayLine_course number line summary s
    have hcontents : (line :: lines).filterMap Replay.content? =
        (Replay.content? line).toList ++ lines.filterMap Replay.content? := by
      cases h : Replay.content? line <;> simp [h]
    rw [hcontents, course_append, List.map_cons, List.cons_append, replayLines]
    generalize f.replayLine number line summary s = replayed at hsummary hstate
    obtain ⟨summary', t⟩ := replayed
    obtain ⟨u, hu, hrest⟩ := ih (number + 1) summary' t
    obtain ⟨hsame, hlast⟩ := f.course_congr (lines.filterMap Replay.content?) hstate
    refine ⟨u, hu.trans hlast, ?_⟩
    dsimp only at hsummary hsame ⊢
    rw [hrest, hsummary, hsame, Summary.add_assoc, List.length_cons, Nat.add_assoc,
      Nat.add_comm 1]

/-- **A replay of lines ends, and is the course of their contents.** -/
theorem replayLines_course (number : Nat) (lines : List String) (summary : Summary)
    (s : State Catalog.Store β) :
    (f.replayLines number summary (lines.map .ok) s).1 =
        .ok (summary + (f.course (lines.filterMap Replay.content?) s).1) ∧
      (f.replayLines number summary (lines.map .ok) s).2.SameButLog
        (f.course (lines.filterMap Replay.content?) s).2 := by
  obtain ⟨t, ht, hlines⟩ := f.replayLines_append number lines [] summary s
  rw [List.append_nil] at hlines
  rw [hlines]
  exact ⟨rfl, (State.SameButLog.note _ t).trans ht⟩

/-- **A replay of a text ends, and is the course of its contents.** -/
theorem replayText_course (text : String) (s : State Catalog.Store β) :
    (f.replayText text s).1 = .ok (f.course (contents text.toList) s).1 ∧
      (f.replayText text s).2.SameButLog (f.course (contents text.toList) s).2 := by
  have hlines := f.replayLines_course 1
    ((Replay.cutAt '\n' text.toList).map String.ofList) {} s
  rw [List.filterMap_map, List.map_map, Summary.zero_add] at hlines
  exact hlines

/-- **So does a replay of its bytes.** -/
theorem replayBytes_course (text : String) (s : State Catalog.Store β) :
    (f.replayBytes text.toUTF8 s).1 = .ok (f.course (contents text.toList) s).1 ∧
      (f.replayBytes text.toUTF8 s).2.SameButLog (f.course (contents text.toList) s).2 := by
  obtain ⟨lines, hlines, hcontents⟩ := Replay.byteLines_toUTF8 text
  have hcourse := f.replayLines_course 1 lines {} s
  rw [hcontents, Summary.zero_add] at hcourse
  rw [replayBytes, hlines]
  exact hcourse

end Feed
end CatalogFeed
