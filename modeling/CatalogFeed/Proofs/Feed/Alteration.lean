import CatalogFeed.Bus.Hub
import CatalogFeed.Proofs.Feed.NonInterference

/-!
# Proofs/Feed/Alteration — a recorded alteration replaces a table, and never moves it

A catalog that alters a table moves it if its names change (`Store.alterTable`).  A replay that
meets the record of such an alteration stores the new definition and leaves the old one where it is.

* `tables_alterTable_eq_putTable_iff`: the two agree exactly if the names stay, up to case;
* `recorded_alteration_agrees_iff`: so a replay follows the catalog through alterations in place,
  and after a rename still finds the table under its old names.
-/

namespace CatalogFeed

open Catalog (Store)

/-! ## Moving and replacing -/

namespace Catalog.Store

variable {s altered : Store} {database table : String}

/-- A table that is there can be altered. -/
theorem alterTable_of_table? {before : Table} (h : s.table? database table = some before)
    (t : Table) : ∃ altered, s.alterTable database table t = .ok altered := by
  have hthere : s.tables.contains (tableKey database table) = true := by
    rw [Dict.contains, show s.tables.get? _ = some before from h]
    rfl
  simp only [alterTable, hthere, if_true]
  exact ⟨_, rfl⟩

/-- After an alteration a table is found under its new names only. -/
theorem table?_alterTable {t : Table} (h : s.alterTable database table t = .ok altered) :
    altered.table? database table = if t.key = tableKey database table then some t else none := by
  simp only [alterTable] at h
  split at h
  · cases h
    split
    · next hkey => rw [table?, ← hkey, Dict.get?_insert_self]
    · next hkey =>
      rw [table?, Dict.get?_insert_of_ne _ _ (Ne.symm hkey), Dict.get?_erase_self]
  · cases h

/-- A definition that is stored changes no table but its own. -/
theorem table?_putTable (s : Store) (t : Table) (database table : String) :
    (s.putTable t).table? database table =
      if t.key = tableKey database table then some t else s.table? database table := by
  rw [table?, putTable, Dict.get?_insert]
  split
  · rfl
  · exact Option.none_or

/-- **Moving and replacing agree exactly if the names stay**, up to case. -/
theorem tables_alterTable_eq_putTable_iff {before t : Table}
    (hb : s.table? database table = some before)
    (h : s.alterTable database table t = .ok altered) :
    (s.putTable t).tables = altered.tables ↔ t.key = tableKey database table := by
  constructor
  · intro heq
    by_contra hkey
    have hput := s.table?_putTable t database table
    have halt := table?_alterTable h
    rw [if_neg hkey] at hput halt
    rw [table?, heq] at hput
    rw [table?, hput, hb] at halt
    cases halt
  · intro hkey
    simp only [alterTable, if_pos hkey] at h
    split at h
    · cases h
      rfl
    · cases h

/-- A topic that is missing is no error. -/
theorem answer_publishedIf (s : Store) (topic : Option String) (entity : CatalogFeed.Snapshot)
    (tag : NoticeTag) : ∃ d, (s.publishedIf topic entity tag).answer = .ok d := by
  cases topic with
  | none => exact ⟨.suppressed, rfl⟩
  | some topic =>
    simp only [publishedIf]
    split
    · exact ⟨.suppressed, rfl⟩
    · exact ⟨.delivered, rfl⟩

/-- A partition of a table that the catalog has is no error. -/
theorem answer_partitionPolicy {x : Partition} {t : Table}
    (ht : s.table? x.database x.table = some t) (tag : NoticeTag) :
    ∃ d, (s.partitionPolicy x tag).answer = .ok d := by
  rw [partitionPolicy, ht]
  exact s.answer_publishedIf _ _ tag

theorem ruling_decide_partitionAdded (s : Store) (x : Partition) :
    ruling (s.decide (.succeeded (.partitionAdded x))) = s.partitionPolicy x .addPartition :=
  s.ruling_announcePartition x .addPartition

theorem ruling_decide_partitionDropped (s : Store) (x : Partition) :
    ruling (s.decide (.succeeded (.partitionDropped x))) =
      s.partitionPolicy x.sanitize .dropPartition :=
  s.ruling_announcePartition x.sanitize .dropPartition

end Catalog.Store

/-! ## Replaying -/

namespace Feed

variable {β : Type}

/-- A recorded alteration is ignored by the listener: the catalog is left as the record says. -/
theorem catalog_apply_tableAltered (p : Publisher) (bus : Service Bus.access β) (old new : Table)
    (s : State Store β) :
    ((onStore p bus).apply (.succeeded (.tableAltered old new)) s).2.catalog =
      s.catalog.putTable new := rfl

/-- A partition of a table that the catalog has is no error. -/
theorem handle_partition_of_table? (p : Publisher) (bus : Service Bus.access β) {x : Partition}
    {change : Change} (hchange : change = .partitionAdded x ∨ change = .partitionDropped x)
    {s : State Store β} {t : Table} (ht : s.catalog.table? x.database x.table = some t) :
    ∃ d, ((onStore p bus).handle (.succeeded change) s).1 = .ok d := by
  have hruling : ∃ d, (Store.ruling (s.catalog.decide (.succeeded change))).answer = .ok d := by
    rcases hchange with rfl | rfl
    · rw [Store.ruling_decide_partitionAdded]
      exact Store.answer_partitionPolicy ht _
    · rw [Store.ruling_decide_partitionDropped]
      exact Store.answer_partitionPolicy (x := x.sanitize) ht _
  obtain ⟨j, hd⟩ := decide_onStore p bus (.succeeded change) s
  rw [handle, hd]
  generalize s.catalog.decide (.succeeded change) = decided at hruling
  obtain ⟨cause | decision, c⟩ := decided
  · obtain ⟨d, hd⟩ := hruling
    cases hd
  · exact ⟨_, rfl⟩

/-- **A replay follows the catalog through an alteration exactly if the names stay**, up to case.
After a rename, it still finds the table under its old names, and its partitions are no error. -/
theorem recorded_alteration_agrees_iff (p : Publisher) (bus : Service Bus.access β)
    (old new : Table) {before : Table} (s : State Store β)
    (hb : s.catalog.table? old.database old.name = some before) :
    let after := ((onStore p bus).apply (.succeeded (.tableAltered old new)) s).2
    (∃ altered, s.catalog.alterTable old.database old.name new = .ok altered ∧
      (after.catalog.tables = altered.tables ↔ new.key = old.key)) ∧
    (new.key ≠ old.key → after.catalog.table? old.database old.name = some before) ∧
    ∀ x change, change = .partitionAdded x ∨ change = .partitionDropped x →
      tableKey x.database x.table = old.key →
      ∃ d, ((onStore p bus).apply (.succeeded change) after).1 = .ok d := by
  intro after
  have hfound : after.catalog.table? old.database old.name =
      if new.key = old.key then some new else some before := by
    rw [catalog_apply_tableAltered, Store.table?_putTable, hb]
    rfl
  refine ⟨?_, fun hkey => by rw [hfound, if_neg hkey], fun x change hchange hx => ?_⟩
  · obtain ⟨altered, h⟩ := Store.alterTable_of_table? hb new
    exact ⟨altered, h, Store.tables_alterTable_eq_putTable_iff hb h⟩
  · have hthere : ∃ t, after.catalog.table? x.database x.table = some t := by
      rw [Store.table?, hx]
      change ∃ t, after.catalog.table? old.database old.name = some t
      rw [hfound]
      split <;> exact ⟨_, rfl⟩
    obtain ⟨t, ht⟩ := hthere
    -- a partition event brings the catalog to no other state
    have hreflect : after.catalog.reflect (.succeeded change) = after.catalog := by
      rcases hchange with rfl | rfl <;> rfl
    rw [apply, hreflect]
    exact handle_partition_of_table? p bus hchange ht

/-! ### A table that is renamed -/

/-- A publisher without a bus to publish on. -/
def idlePublisher : Publisher := ⟨"cf", 1000, 200⟩

/-- A feed whose catalog has the one table `sales.q1`. -/
def oneTable : State Store Bus.Hub :=
  ⟨(Store.ofSnapshot {}).putTable { name := "q1", database := "sales" }, {}, {}, {}⟩

/-- What a replay makes of the record that `sales.q1` is now `sales.q2`. -/
def renamedTable : State Store Bus.Hub :=
  ((onStore idlePublisher Bus.Hub.service).apply (.succeeded (.tableAltered
    { name := "q1", database := "sales" } { name := "q2", database := "sales" })) oneTable).2

theorem recorded_alteration_agrees_iff_renamed :
    renamedTable.catalog.table? "sales" "q1" = some { name := "q1", database := "sales" } ∧
    ∃ d, ((onStore idlePublisher Bus.Hub.service).apply (.succeeded (.partitionAdded
      { values := ["eu"], database := "sales", table := "q1" })) renamedTable).1 = .ok d := by
  have hthere : oneTable.catalog.table? "sales" "q1" =
      some { name := "q1", database := "sales" } := by decide +kernel
  obtain ⟨-, hkept, hpartition⟩ := recorded_alteration_agrees_iff idlePublisher Bus.Hub.service
    { name := "q1", database := "sales" } { name := "q2", database := "sales" } oneTable hthere
  exact ⟨hkept (by decide +kernel), hpartition _ _ (Or.inl rfl) rfl⟩

/-- **A replay leaves a renamed table behind**: the name `sales.q2` is free, the catalog would move
`sales.q1` there, but the replay has both, and suppresses a partition of the old one. -/
theorem renamed_table_is_left_behind :
    oneTable.catalog.table? "sales" "q2" = none ∧
    (∃ altered, oneTable.catalog.alterTable "sales" "q1" { name := "q2", database := "sales" } =
        .ok altered ∧ altered.table? "sales" "q1" = none ∧
      renamedTable.catalog.tables ≠ altered.tables) ∧
    ((onStore idlePublisher Bus.Hub.service).apply (.succeeded (.partitionAdded
      { values := ["eu"], database := "sales", table := "q1" })) renamedTable).1 =
        .ok .suppressed := by
  refine ⟨by decide +kernel, ⟨_, rfl, by decide +kernel, by decide +kernel⟩, by decide +kernel⟩

end Feed
end CatalogFeed
