import CatalogFeed.Proofs.Feed.NonInterference

/-!
# Proofs/Feed/Creation — a new table fails only if the catalog does not have it

A catalog in memory is changed by the operations of its owner and by feeds that are told of new
tables (`Store.Operation`).  Every operation keeps each table under the key of its own names.  So
what is looked up has the names that it was looked up by, and a feed can always replace the
definition that it has read.

* `Keyed.perform`, `Keyed.performAll`: one operation, and any number of them;
* `Feed.creation_fails_iff`: the answer to the creation of a table, on any bus.
-/

namespace CatalogFeed

namespace Catalog.Store

/-! ## Operations -/

/-- What changes a catalog in memory. -/
inductive Operation where
  | setSetting (key value : String)
  | putDatabase (d : Database)
  | putTable (t : Table)
  | removeTable (database table : String)
  /-- The definition of a table is replaced, under the same names or others, if there is one. -/
  | alterTable (database table : String) (definition : Table)
  /-- A feed is told that a table was created, or that creating it failed. -/
  | announceTable (status : Bool) (t : Table)

/-- The catalog after an operation; one that fails changes nothing. -/
def perform (s : Store) : Operation → Store
  | .setSetting key value => s.setSetting key value
  | .putDatabase d => s.putDatabase d
  | .putTable t => s.putTable t
  | .removeTable database table => s.removeTable database table
  | .alterTable database table definition =>
    match s.alterTable database table definition with
    | .ok altered => altered
    | .error _ => s
  | .announceTable status t => (s.decide ⟨status, .tableCreated t⟩).2

/-- The catalog after one operation after the other. -/
def performAll (s : Store) (operations : List Operation) : Store := operations.foldl perform s

variable {s : Store}

/-- The requests of a listener keep every table under its own names. -/
theorem Keyed.answer (h : s.Keyed) (r : Catalog.Request) : (s.answer r).2.1.Keyed := by
  cases r with
  | alterTable database table definition =>
    rw [Store.answer]
    split
    · next ha => exact h.alterTable ha
    · exact h
  | _ => exact h

theorem Keyed.run {α : Type} (h : s.Keyed) (script : Script Catalog.access α) :
    (script.run handler s).2.Keyed := by
  induction script generalizing s with
  | done a => exact h
  | log e script ih => exact ih h
  | ask r next ih => exact ih _ (h.answer r)

/-- **Every operation keeps each table under its own names.** -/
theorem Keyed.perform (h : s.Keyed) (operation : Operation) : (s.perform operation).Keyed := by
  cases operation with
  | putTable t => exact h.putTable t
  | removeTable database table => exact keyed_erase h _
  | alterTable database table definition =>
    rw [Store.perform]
    split
    · next ha => exact h.alterTable ha
    · exact h
  | announceTable status t => exact h.run (Listener.decide ⟨status, .tableCreated t⟩)
  | _ => exact h

theorem Keyed.performAll (h : s.Keyed) (operations : List Operation) :
    (s.performAll operations).Keyed := by
  induction operations generalizing s with
  | nil => exact h
  | cons operation operations ih => exact ih (h.perform operation)

/-! ## The creation of a table -/

/-- What is ruled on the creation of a table: that there is none with its names, or that it is
announced. -/
theorem Keyed.answer_tableCreated (h : s.Keyed) (t : Table) :
    (ruling (s.decide (.succeeded (.tableCreated t)))).answer =
      if s.table? t.database t.name = none then
        .error (.catalog (.noSuchObject (qualify t.database t.name)))
      else .ok .delivered := by
  rw [h.ruling_decide]
  simp only [policy, CatalogEvent.succeeded, if_true, changePolicy]
  cases s.table? t.database t.name <;> rfl

end Catalog.Store

namespace Feed

open Catalog (Store)

variable {β : Type} {p : Publisher} {bus : Service Bus.access β}

/-- A feed fails exactly if it is ruled to. -/
theorem handle_eq_error_iff {e : CatalogEvent} {s : State Store β} {cause : Error} :
    ((onStore p bus).handle e s).1 = .error cause ↔
      (Store.ruling (s.catalog.decide e)).answer = .error cause := by
  obtain ⟨j, hd⟩ := decide_onStore p bus e s
  rw [handle, hd]
  generalize s.catalog.decide e = decided
  obtain ⟨cause' | decision, c⟩ := decided
  · rfl
  · cases decision <;> exact iff_of_false (by rintro ⟨⟩) (by rintro ⟨⟩)

/-- **The creation of a table fails exactly if the catalog does not have the table**, and then
because there is none with its names. -/
theorem creation_fails_iff {s : State Store β} (h : s.catalog.Keyed) (status : Bool) (t : Table)
    (cause : Error) : ((onStore p bus).handle ⟨status, .tableCreated t⟩ s).1 = .error cause ↔
      status = true ∧ s.catalog.table? t.database t.name = none ∧
        cause = .catalog (.noSuchObject (qualify t.database t.name)) := by
  rw [handle_eq_error_iff]
  cases status with
  | false =>
    rw [h.ruling_decide]
    exact ⟨nofun, fun hfails => absurd hfails.1 Bool.false_ne_true⟩
  | true =>
    have hanswer := h.answer_tableCreated t
    rw [CatalogEvent.succeeded] at hanswer
    rw [hanswer]
    split
    · next hnone => simp [hnone, eq_comm]
    · next hsome => exact ⟨nofun, fun hfails => absurd hfails.2.1 hsome⟩

/-- **Tables stand under their own names**, whatever operations have led to the catalog.  So what is
looked up has the names that it was looked up by, up to case; and the creation of a table fails, on
whatever bus, exactly if the operation succeeded and the catalog does not have the table, always
because there is no such table and never because it could not be given its topic. -/
theorem tables_stand_under_their_names (snapshot : Catalog.Snapshot)
    (operations : List Store.Operation) :
    let s := (Store.ofSnapshot snapshot).performAll operations
    (∀ key x, s.tables.get? key = some x → x.key = key) ∧
    (∀ database table x, s.getTable database table = .ok x → x.key = tableKey database table) ∧
    ∀ (β : Type) (p : Publisher) (bus : Service Bus.access β) (b : β) (link : Link) (j : Journal)
      (status : Bool) (created : Table) (cause : Error),
      ((onStore p bus).handle ⟨status, .tableCreated created⟩ ⟨s, b, link, j⟩).1 = .error cause ↔
        status = true ∧ s.table? created.database created.name = none ∧
          cause = .catalog (.noSuchObject (qualify created.database created.name)) := by
  intro s
  have hkeyed : s.Keyed := (Store.keyed_ofSnapshot snapshot).performAll operations
  refine ⟨hkeyed, fun database table x hx => ?_, fun β p bus b link j status created cause => ?_⟩
  · rw [Store.getTable] at hx
    split at hx
    · next t ht =>
      cases hx
      exact hkeyed.key_of_table? ht
    · cases hx
  · exact creation_fails_iff (s := ⟨s, b, link, j⟩) hkeyed status created cause

end Feed
end CatalogFeed
