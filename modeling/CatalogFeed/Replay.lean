import CatalogFeed.Catalog.EventJson
import CatalogFeed.Feed
import CatalogFeed.Text.Blank

/-!
# Replay — recorded events, one on a line

A replay reads events from text, brings the catalog to the state that each of them reports, and
hands it to the feed.  A line that is no event, or an event that the catalog contradicts, is counted
and passed over; only bytes that are not text end a replay early.

* `Summary.total` counts every line that is not blank.
-/

namespace CatalogFeed

/-! ## Summaries -/

/-- How many events met each end. -/
structure Replay.Summary where
  delivered : Nat := 0
  ignored : Nat := 0
  suppressed : Nat := 0
  failed : Nat := 0
  /-- Lines that are no event, and events that the catalog contradicts. -/
  errors : Nat := 0
  deriving DecidableEq, Repr

namespace Replay.Summary

/-- The number of events counted. -/
def total (s : Summary) : Nat := s.delivered + s.ignored + s.suppressed + s.failed + s.errors

/-- Counts what became of an event. -/
def count (s : Summary) : Delivery → Summary
  | .delivered => { s with delivered := s.delivered + 1 }
  | .ignored => { s with ignored := s.ignored + 1 }
  | .suppressed => { s with suppressed := s.suppressed + 1 }
  | .failed => { s with failed := s.failed + 1 }

/-- Counts a line in error. -/
def countError (s : Summary) : Summary := { s with errors := s.errors + 1 }

@[simp] theorem total_count (s : Summary) (d : Delivery) : (s.count d).total = s.total + 1 := by
  cases d <;> simp only [count, total] <;> omega

@[simp] theorem total_countError (s : Summary) : s.countError.total = s.total + 1 := rfl

/-- The entry at the end of a replay. -/
def entry (s : Summary) : LogEntry :=
  .info "Replay finished"
    [("delivered", .count s.delivered), ("ignored", .count s.ignored),
      ("suppressed", .count s.suppressed), ("failed", .count s.failed), ("errors", .count s.errors)]

end Replay.Summary

/-! ## The catalog behind the events -/

namespace Catalog.Store

/-- The catalog after a change. -/
def reflectChange (s : Store) : Change → Store
  | .databaseCreated d => s.putDatabase d
  | .tableCreated t => s.putTable t
  | .tableAltered _ t => s.putTable t
  | .tableDropped t => s.removeTable t.database t.name
  | _ => s

/-- The catalog after the operation that an event reports; a failed one changes nothing. -/
def reflect (s : Store) (e : CatalogEvent) : Store :=
  if e.status then s.reflectChange e.change else s

end Catalog.Store

/-! ## Lines -/

namespace Replay

/-- Cuts a list at every `mark`. -/
def cutAt {α : Type} [DecidableEq α] (mark : α) : List α → List (List α)
  | [] => [[]]
  | a :: rest =>
    if a = mark then [] :: cutAt mark rest
    else
      match cutAt mark rest with
      | [] => [[a]]
      | line :: lines => (a :: line) :: lines

/-- The lines without the return before the feed that ends each of them; no feed ends the last. -/
def dropReturns : List (List UInt8) → List (List UInt8)
  | [] => []
  | [last] => [last]
  | line :: rest => (if line.getLast? = some 13 then line.dropLast else line) :: dropReturns rest

/-- The lines of a text. -/
def textLines (text : String) : List (Except Text.Flaw String) :=
  (cutAt '\n' text.toList).map fun line => .ok (String.ofList line)

/-- The lines of a file. -/
def byteLines (bytes : ByteArray) : List (Except Text.Flaw String) :=
  (dropReturns (cutAt 10 bytes.toList)).map Text.decode

/-- The content of a line, nothing if it is blank. -/
def content? (line : String) : Option String :=
  let inner := Text.trim line.toList
  if inner.isEmpty then none else some (String.ofList inner)

/-- The entry of a line that is no event. -/
def malformedEntry (number : Nat) (problem : Json.Problem) : LogEntry :=
  .warn "Skipping malformed event" [("line", .count number), ("error", .text problem.message)]

/-- The entry of an event that the catalog contradicts. -/
def contradictedEntry (number : Nat) (e : CatalogEvent) (cause : Error) : LogEntry :=
  .error "Catalog event failed"
    [("line", .count number), ("event", .text e.change.name), ("error", .text cause.message)]

/-- The entry of an event that was handled. -/
def handledEntry (number : Nat) (e : CatalogEvent) (delivery : Delivery) : LogEntry :=
  .debug "Event replayed"
    [("line", .count number), ("event", .text e.change.name), ("delivery", .text delivery.name)]

/-- The entry at the start of a file. -/
def fileEntry (path : String) : LogEntry :=
  .info "Replaying catalog events" [("path", .text path)]

end Replay

/-! ## Replaying -/

namespace Feed

open Replay (Summary)

variable {κ β : Type}

/-- Writes a log entry. -/
def note (entry : LogEntry) (s : State κ β) : State κ β :=
  { s with journal := s.journal.write [entry] }

variable (f : Feed Catalog.Store β)

/-- Brings the catalog to the state that an event reports, then handles the event. -/
def apply (e : CatalogEvent) (s : State Catalog.Store β) :
    Except Error Delivery × State Catalog.Store β :=
  f.handle e { s with catalog := s.catalog.reflect e }

/-- Replays one line. -/
def replayLine (number : Nat) (line : String) (summary : Summary) (s : State Catalog.Store β) :
    Summary × State Catalog.Store β :=
  match Replay.content? line with
  | none => (summary, s)
  | some content =>
    match CatalogEvent.parse content with
    | .error problem => (summary.countError, note (Replay.malformedEntry number problem) s)
    | .ok e =>
      match f.apply e s with
      | (.ok delivery, s) =>
        (summary.count delivery, note (Replay.handledEntry number e delivery) s)
      | (.error cause, s) =>
        (summary.countError, note (Replay.contradictedEntry number e cause) s)

/-- Replays lines, of which the first has the given number. -/
def replayLines (number : Nat) (summary : Summary) :
    List (Except Text.Flaw String) → State Catalog.Store β →
      Except Error Summary × State Catalog.Store β
  | [], s => (.ok summary, note summary.entry s)
  | .error flaw :: _, s => (.error (.io (.invalidText flaw)), s)
  | .ok line :: rest, s =>
    let (summary, s) := f.replayLine number line summary s
    replayLines (number + 1) summary rest s

/-- Replays a text. -/
def replayText (text : String) (s : State Catalog.Store β) :
    Except Error Summary × State Catalog.Store β :=
  f.replayLines 1 {} (Replay.textLines text) s

/-- Replays bytes. -/
def replayBytes (bytes : ByteArray) (s : State Catalog.Store β) :
    Except Error Summary × State Catalog.Store β :=
  f.replayLines 1 {} (Replay.byteLines bytes) s

/-- Replays a file, if there is one at `path`. -/
def replayFile (path : String) (content : Option ByteArray) (s : State Catalog.Store β) :
    Except Error Summary × State Catalog.Store β :=
  match content with
  | none => (.error (.io .notFound), s)
  | some bytes => f.replayBytes bytes (note (Replay.fileEntry path) s)

end Feed
end CatalogFeed
