import CatalogFeed.Bus.Hub
import CatalogFeed.Proofs.Dict
import CatalogFeed.Proofs.Feed.NonInterference
import CatalogFeed.Proofs.Replay.Course

/-!
# Proofs/Feed/Databases — a replay learns of databases, and never forgets one

The listener has no request that concerns databases, so in a replay only the record of a creation
changes which databases there are.  The record of a drop changes nothing: the catalog has a database
until the end if it ever had it.

* `get?_databases_applyEach`: after any events, a key has the database of its last creation;
* `databases_tracked_iff`: that is what the last record says of the key, unless it is a drop of a
  database that was there.
-/

namespace CatalogFeed

open Catalog (Store)

/-! ## Last words -/

/-- **Where only what there is counts**, the last of it is what the last word says, unless the last
word is that there is nothing any more. -/
theorem getLast?_kept_iff {α : Type} (words : List (Option α)) (before : Option α) :
    (words.filterMap id).getLast?.or before = words.getLast?.getD before ↔
      words.getLast? ≠ some none ∨ words.filterMap id = [] ∧ before = none := by
  rcases List.eq_nil_or_concat words with rfl | ⟨earlier, word, hwords⟩
  · simp
  · rw [List.concat_eq_append] at hwords
    subst hwords
    cases word with
    | none => simp
    | some a => simp

/-! ## What events say of databases -/

/-- The database, if it stands under the key. -/
def Database.under? (key : String) (d : Database) : Option Database :=
  if Text.lowerCase d.name = key then some d else none

namespace CatalogEvent

/-- **What an event says of the database under a key**, if it says anything: its definition if it
was created, and that there is none if it was dropped. -/
def reported? (key : String) (e : CatalogEvent) : Option (Option Database) :=
  if e.status then
    match e.change with
    | .databaseCreated d => (d.under? key).map some
    | .databaseDropped d => (d.under? key).map fun _ => none
    | _ => none
  else none

/-- The database that was created under a key, if one was. -/
def created? (key : String) (e : CatalogEvent) : Option Database := (e.reported? key).join

/-- Whether a database was created or dropped. -/
def concernsDatabases (e : CatalogEvent) : Bool :=
  e.status && (e.change.kind == .databaseCreated || e.change.kind == .databaseDropped)

end CatalogEvent

/-! ## The databases of a store -/

namespace Catalog.Store

variable {s : Store}

/-- No request of a listener concerns databases. -/
theorem databases_answer (s : Store) (r : Catalog.Request) :
    (s.answer r).2.1.databases = s.databases := by
  cases r with
  | alterTable database table definition =>
    rw [answer, alterTable]
    split
    · next haltered =>
      split at haltered
      · cases haltered
        rfl
      · cases haltered
    · rfl
  | _ => rfl

theorem databases_run {α : Type} (script : Script Catalog.access α) (s : Store) :
    (script.run handler s).2.databases = s.databases := by
  induction script generalizing s with
  | done a => rfl
  | log e script ih => exact ih s
  | ask r next ih => exact (ih _ _).trans (s.databases_answer r)

theorem get?_databases_putDatabase (s : Store) (d : Database) (key : String) :
    (s.putDatabase d).databases.get? key = (d.under? key).or (s.databases.get? key) :=
  s.databases.get?_insert (Text.lowerCase d.name) key d

/-- **A record stores the database that it says was created**, and no record removes one. -/
theorem get?_databases_reflect (s : Store) (e : CatalogEvent) (key : String) :
    (s.reflect e).databases.get? key = (e.created? key).or (s.databases.get? key) := by
  rw [reflect, CatalogEvent.created?, CatalogEvent.reported?]
  cases e.status with
  | false => rfl
  | true =>
    cases e.change with
    | databaseCreated d =>
      refine (s.get?_databases_putDatabase d key).trans ?_
      simp only [if_true]
      cases d.under? key <;> rfl
    | databaseDropped d =>
      simp only [if_true]
      cases d.under? key <;> rfl
    | _ => rfl

theorem databases_reflect (s : Store) {e : CatalogEvent} (he : e.concernsDatabases = false) :
    (s.reflect e).databases = s.databases := by
  rw [reflect]
  rw [CatalogEvent.concernsDatabases] at he
  cases hstatus : e.status with
  | false => rfl
  | true =>
    rw [hstatus] at he
    cases hchange : e.change <;> rw [hchange] at he <;> first | rfl | cases he

/-- **A store has of a snapshot the last database under each key.** -/
theorem get?_databases_ofSnapshot (snapshot : Snapshot) (key : String) :
    (ofSnapshot snapshot).databases.get? key =
      (snapshot.databases.filterMap (Database.under? key)).getLast? :=
  Dict.get?_foldl_insert (fun d : Database => Text.lowerCase d.name) snapshot.databases key

end Catalog.Store

/-! ## Replaying -/

namespace Feed

variable {β : Type} (p : Publisher) (bus : Service Bus.access β)

/-- **To apply an event does to the databases what its record does.** -/
theorem databases_apply (e : CatalogEvent) (s : State Store β) :
    ((onStore p bus).apply e s).2.catalog.databases = (s.catalog.reflect e).databases := by
  obtain ⟨j, hd⟩ := decide_onStore p bus e { s with catalog := s.catalog.reflect e }
  rw [apply, catalog_handle, hd]
  exact Store.databases_run _ _

theorem applyEach_eq_foldl {f : Feed Store β} (es : List CatalogEvent) (s : State Store β) :
    (f.applyEach es s).2 = es.foldl (fun s e => (f.apply e s).2) s := by
  induction es generalizing s with
  | nil => rfl
  | cons e es ih => rw [applyEach_cons, List.foldl_cons, ← ih]

/-- **After any events, a key has the database of its last creation**, or that of the beginning. -/
theorem get?_databases_applyEach (es : List CatalogEvent) (s : State Store β) (key : String) :
    ((onStore p bus).applyEach es s).2.catalog.databases.get? key =
      (es.filterMap (·.created? key)).getLast?.or (s.catalog.databases.get? key) := by
  rw [applyEach_eq_foldl]
  exact view_foldl (fun s : State Store β => s.catalog.databases.get? key)
    (fun s e => (congrArg (·.get? key) (databases_apply p bus e s)).trans
      (s.catalog.get?_databases_reflect e key)) es s

theorem filterMap_created (key : String) (es : List CatalogEvent) :
    es.filterMap (·.created? key) = (es.filterMap (·.reported? key)).filterMap id := by
  rw [List.filterMap_filterMap]
  exact List.filterMap_congr fun e _ => Option.bind_id_eq_join.symm

/-- **A replay follows the creations of databases, and not the drops.**  Begun with a snapshot, it
has under a key the database of the last creation, or else that of the snapshot.  That is what the
last record says of the key, unless it says that a database was dropped that had been there.  No
other event changes the databases. -/
theorem databases_tracked_iff (snapshot : Catalog.Snapshot) (es : List CatalogEvent)
    (s : State Store β) (key : String) :
    let before := (snapshot.databases.filterMap (Database.under? key)).getLast?
    let creations := es.filterMap (·.created? key)
    let reports := es.filterMap (·.reported? key)
    let after := ((onStore p bus).applyEach es { s with catalog := .ofSnapshot snapshot }).2
    after.catalog.databases.get? key = creations.getLast?.or before ∧
    (after.catalog.databases.get? key = reports.getLast?.getD before ↔
      reports.getLast? ≠ some none ∨ creations = [] ∧ before = none) ∧
    ∀ (e : CatalogEvent) (t : State Store β), e.concernsDatabases = true ∨
      ((onStore p bus).apply e t).2.catalog.databases = t.catalog.databases := by
  intro before creations reports after
  have hafter : after.catalog.databases.get? key = creations.getLast?.or before := by
    rw [get?_databases_applyEach]
    exact congrArg creations.getLast?.or (Store.get?_databases_ofSnapshot snapshot key)
  refine ⟨hafter, ?_, fun e t => ?_⟩
  · rw [hafter]
    simp only [creations, filterMap_created]
    exact getLast?_kept_iff reports before
  · cases he : e.concernsDatabases with
    | true => exact .inl rfl
    | false => exact .inr ((databases_apply p bus e t).trans (t.catalog.databases_reflect he))

/-! ### A database that is dropped -/

/-- **A replay keeps a database that was dropped**: the last record says that there is no
`sales`. -/
theorem dropped_database_is_kept :
    let es : List CatalogEvent := [.succeeded (.databaseCreated { name := "Sales" }),
      .succeeded (.databaseDropped { name := "sales" })]
    (es.filterMap (·.reported? "sales")).getLast? = some none ∧
    ((onStore ⟨"factory", 1000, 500⟩ Bus.Hub.service).applyEach es
      ⟨.ofSnapshot {}, {}, {}, {}⟩).2.catalog.databases.get? "sales" =
        some { name := "Sales" } := by
  decide +kernel

end Feed
end CatalogFeed
