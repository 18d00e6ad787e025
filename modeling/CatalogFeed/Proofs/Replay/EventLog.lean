import CatalogFeed.Proofs.Catalog.EventCodec
import CatalogFeed.Proofs.Replay.Lines

/-!
# Proofs/Replay/EventLog — a log of events is replayed as these events

The text of an event is one line that is not blank and parses as the event.  To replay a log, the
texts of events joined by feeds, is therefore to apply the events in order: no line is passed over.

* `Feed.replayLine_print`: one line;
* `Feed.replayLines_print`: the lines of a log, by induction on the events;
* `Feed.event_log_round_trip`: every event, and every log, as a text or as bytes.
-/

namespace CatalogFeed

open Json

/-! ## The line of an event -/

theorem Text.trim_of_ends {c d : Char} (cs : List Char) (hc : isBlank c = false)
    (hd : isBlank d = false) : trim (c :: (cs ++ [d])) = c :: (cs ++ [d]) := by
  rw [trim, List.dropWhile_cons_of_neg (by simp [hc]), ← List.cons_append, List.reverse_append,
    List.reverse_singleton, List.singleton_append, List.dropWhile_cons_of_neg (by simp [hd])]
  simp

namespace CatalogEvent

theorem content?_print (e : CatalogEvent) : Replay.content? e.print = some e.print := by
  obtain ⟨cs, hcs⟩ : ∃ cs, e.print.toList = '\x7b' :: (cs ++ ['\x7d']) := by
    rw [print, render, String.toList_ofList, encode, renderChars_record]
    exact ⟨_, rfl⟩
  have htrim : Text.trim e.print.toList = e.print.toList := by
    rw [hcs]
    exact Text.trim_of_ends cs (by decide) (by decide)
  have hne : e.print.toList.isEmpty = false := by rw [hcs]; rfl
  simp only [Replay.content?, htrim, hne, Bool.false_eq_true, if_false, String.ofList_toList]

theorem not_mem_print {c : Char} (hc : isPlain c = false) (e : CatalogEvent) :
    c ∉ e.print.toList := fun h => by simp [e.isPlain_of_mem_print c h] at hc

/-- The texts of events, joined by feeds. -/
def log (es : List CatalogEvent) : String := "\n".intercalate (es.map print)

theorem log_singleton (e : CatalogEvent) : log [e] = e.print := by simp [log]

theorem textLines_log {es : List CatalogEvent} (hes : es ≠ []) :
    Replay.textLines (log es) = es.map fun e => .ok e.print := by
  rw [log, Replay.textLines_intercalate (by simpa using hes), List.map_map]
  · rfl
  · rw [List.forall_mem_map]
    exact fun e _ => e.not_mem_print rfl

theorem byteLines_log {es : List CatalogEvent} (hes : es ≠ []) :
    Replay.byteLines (log es).toUTF8 = es.map fun e => .ok e.print := by
  rw [log, Replay.byteLines_intercalate (by simpa using hes), List.map_map]
  · rfl
  · rw [List.forall_mem_map]
    exact fun e _ => ⟨e.not_mem_print rfl, e.not_mem_print rfl⟩

/-- A log of no events is one blank line. -/
theorem byteLines_log_nil : Replay.byteLines (log []).toUTF8 = [.ok ""] :=
  Replay.byteLines_intercalate (List.cons_ne_nil "" []) (by simp)

end CatalogEvent

/-! ## What becomes of events -/

namespace Replay

/-- The entry of an event that was applied. -/
def outcomeEntry (number : Nat) (e : CatalogEvent) : Except Error Delivery → LogEntry
  | .ok delivery => handledEntry number e delivery
  | .error cause => contradictedEntry number e cause

namespace Summary

/-- Counts what became of an event that was applied. -/
def countOutcome (s : Summary) : Except Error Delivery → Summary
  | .ok delivery => s.count delivery
  | .error _ => s.countError

/-- Counts what became of the events that were applied. -/
def countOutcomes (s : Summary) (outcomes : List (Except Error Delivery)) : Summary :=
  outcomes.foldl countOutcome s

theorem errors_countOutcomes (s : Summary) (outcomes : List (Except Error Delivery)) :
    (s.countOutcomes outcomes).errors = s.errors + outcomes.countP (!·.isOk) := by
  induction outcomes generalizing s with
  | nil => rfl
  | cons outcome outcomes ih =>
    change ((s.countOutcome outcome).countOutcomes outcomes).errors = _
    rw [ih, List.countP_cons]
    rcases outcome with cause | delivery
    · simp [countOutcome, countError, Except.isOk, Except.toBool]
      omega
    · cases delivery <;> simp [countOutcome, count, Except.isOk, Except.toBool]

end Summary
end Replay

/-! ## Logs -/

namespace Feed

open Replay (Summary)

variable {β : Type} (f : Feed Catalog.Store β)

/-- Applies events in order and notes each of them; the first has the given number. -/
def applyAll (number : Nat) : List CatalogEvent → State Catalog.Store β →
    List (Except Error Delivery) × State Catalog.Store β
  | [], s => ([], s)
  | e :: rest, s =>
    let (outcome, s) := f.apply e s
    let (outcomes, s) := applyAll (number + 1) rest (note (Replay.outcomeEntry number e outcome) s)
    (outcome :: outcomes, s)

/-- **The line of an event is replayed as the event.** -/
theorem replayLine_print (number : Nat) (e : CatalogEvent) (summary : Summary)
    (s : State Catalog.Store β) : f.replayLine number e.print summary s =
      (summary.countOutcome (f.apply e s).1,
        note (Replay.outcomeEntry number e (f.apply e s).1) (f.apply e s).2) := by
  simp only [replayLine, e.content?_print, e.parse_print]
  generalize f.apply e s = applied
  obtain ⟨cause | delivery, s⟩ := applied <;> rfl

/-- **The lines of events are replayed as these events, in order.** -/
theorem replayLines_print (number : Nat) (es : List CatalogEvent) (summary : Summary)
    (s : State Catalog.Store β) :
    let applied := f.applyAll number es s
    let summary' := summary.countOutcomes applied.1
    f.replayLines number summary (es.map fun e => .ok e.print) s =
      (.ok summary', note summary'.entry applied.2) := by
  induction es generalizing number summary s with
  | nil => rfl
  | cons e es ih =>
    intro applied summary'
    rw [List.map_cons, replayLines, f.replayLine_print]
    exact ih (number + 1) _ _

/-- **A log of events is read back, and replayed as these events.**  The text of an event parses as
the event, names its kind once, and is one line that is not blank.  To replay a log is to apply its
events in order; only an event that the catalog contradicts is an error. -/
theorem event_log_round_trip :
    (∀ e : CatalogEvent, CatalogEvent.parse e.print = .ok e ∧
      (read e.print).value.valuesAt kindMember = [.text e.change.name] ∧
      Replay.textLines e.print = [.ok e.print] ∧
      Replay.byteLines e.print.toUTF8 = [.ok e.print] ∧
      Replay.content? e.print = some e.print) ∧
    ∀ (es : List CatalogEvent) (s : State Catalog.Store β),
      let applied := f.applyAll 1 es s
      let summary := Summary.countOutcomes {} applied.1
      let replayed := (.ok summary, note summary.entry applied.2)
      f.replayText (CatalogEvent.log es) s = replayed ∧
        f.replayBytes (CatalogEvent.log es).toUTF8 s = replayed ∧
        summary.errors = applied.1.countP (!·.isOk) := by
  refine ⟨fun e => ?_, fun es s => ?_⟩
  · have htext := CatalogEvent.textLines_log (List.cons_ne_nil e [])
    have hbytes := CatalogEvent.byteLines_log (List.cons_ne_nil e [])
    rw [CatalogEvent.log_singleton] at htext hbytes
    exact ⟨e.parse_print, e.valuesAt_kindMember, htext, hbytes, e.content?_print⟩
  · intro applied summary replayed
    have herrors : summary.errors = applied.1.countP (!·.isOk) := by
      simp [summary, Replay.Summary.errors_countOutcomes]
    by_cases hes : es = []
    · subst hes
      refine ⟨rfl, ?_, herrors⟩
      rw [replayBytes, CatalogEvent.byteLines_log_nil]
      rfl
    · refine ⟨?_, ?_, herrors⟩
      · rw [replayText, CatalogEvent.textLines_log hes]
        exact f.replayLines_print 1 es {} s
      · rw [replayBytes, CatalogEvent.byteLines_log hes]
        exact f.replayLines_print 1 es {} s

end Feed
end CatalogFeed
