import CatalogFeed.Catalog.Access

/-!
# Proofs/Catalog/Keyed — every table stands under its own names

A store is reachable (`Reachable`) if it was loaded from a snapshot and then changed by the
operations of a catalog.  In every reachable store each table stands under the key of its own names
(`Reachable.keyed`), so a definition that was looked up can be replaced in place
(`Keyed.alterTable_looked_up`).
-/

namespace CatalogFeed.Catalog.Store

/-- The stores that the operations of a catalog lead to. -/
inductive Reachable : Store → Prop where
  | loaded (snapshot : Snapshot) : Reachable (ofSnapshot snapshot)
  | setSetting {s : Store} (key value : String) : Reachable s → Reachable (s.setSetting key value)
  | putDatabase {s : Store} (d : Database) : Reachable s → Reachable (s.putDatabase d)
  | putTable {s : Store} (t : Table) : Reachable s → Reachable (s.putTable t)
  | removeTable {s : Store} (database table : String) :
      Reachable s → Reachable (s.removeTable database table)
  | alterTable {s s' : Store} {database table : String} {t : Table} :
      Reachable s → s.alterTable database table t = .ok s' → Reachable s'

/-- Every table stands under the key of its own names. -/
def Keyed (s : Store) : Prop := ∀ key t, s.tables.get? key = some t → t.key = key

theorem keyed_insert {tables : Dict TableKey Table}
    (h : ∀ key t, tables.get? key = some t → t.key = key) (t : Table) :
    ∀ key t', (tables.insert t.key t).get? key = some t' → t'.key = key := by
  intro key t' ht'
  by_cases hkey : key = t.key
  · subst hkey
    rw [Dict.get?_insert_self] at ht'
    cases ht'
    rfl
  · rw [Dict.get?_insert_of_ne _ _ hkey] at ht'
    exact h key t' ht'

theorem keyed_erase {tables : Dict TableKey Table}
    (h : ∀ key t, tables.get? key = some t → t.key = key) (erased : TableKey) :
    ∀ key t', (tables.erase erased).get? key = some t' → t'.key = key := by
  intro key t' ht'
  by_cases hkey : key = erased
  · subst hkey
    rw [Dict.get?_erase_self] at ht'
    cases ht'
  · rw [Dict.get?_erase_of_ne _ hkey] at ht'
    exact h key t' ht'

theorem Keyed.putTable {s : Store} (h : s.Keyed) (t : Table) : (s.putTable t).Keyed :=
  keyed_insert h t

theorem Keyed.alterTable {s s' : Store} (h : s.Keyed) {database table : String} {t : Table}
    (ha : s.alterTable database table t = .ok s') : s'.Keyed := by
  simp only [Store.alterTable] at ha
  split at ha
  · cases ha
    refine keyed_insert ?_ t
    split
    · exact h
    · exact keyed_erase h _
  · cases ha

theorem keyed_ofSnapshot (snapshot : Snapshot) : (ofSnapshot snapshot).Keyed := by
  have htables (ts : List Table) (tables : Dict TableKey Table)
      (h : ∀ key t, tables.get? key = some t → t.key = key) :
      ∀ key t, (ts.foldl (fun tables t => tables.insert t.key t) tables).get? key = some t →
        t.key = key := by
    induction ts generalizing tables with
    | nil => exact h
    | cons t ts ih => exact ih _ (keyed_insert h t)
  refine htables snapshot.tables ∅ ?_
  intro key t h
  cases h

/-- **In a reachable store every table stands under its own names.** -/
theorem Reachable.keyed {s : Store} (h : s.Reachable) : s.Keyed := by
  induction h with
  | loaded snapshot => exact keyed_ofSnapshot snapshot
  | setSetting key value _ ih => exact ih
  | putDatabase d _ ih => exact ih
  | putTable t _ ih => exact ih.putTable t
  | removeTable database table _ ih => exact keyed_erase ih _
  | alterTable _ ha ih => exact ih.alterTable ha

/-- A table that is looked up has the names that it was looked up by, up to case. -/
theorem Keyed.key_of_table? {s : Store} (h : s.Keyed) {database table : String} {t : Table}
    (ht : s.table? database table = some t) : t.key = tableKey database table := h _ t ht

/-- **A definition that was looked up is replaced in place.** -/
theorem Keyed.alterTable_looked_up {s : Store} (h : s.Keyed) {database table : String}
    {t t' : Table} (ht : s.table? database table = some t) (hnames : t'.key = t.key) :
    s.alterTable t'.database t'.name t' = .ok (s.putTable t') := by
  have hkey : tableKey t'.database t'.name = tableKey database table :=
    hnames.trans (h.key_of_table? ht)
  have hthere : s.tables.contains (tableKey t'.database t'.name) = true := by
    rw [hkey, Dict.contains, show s.tables.get? _ = some t from ht]
    rfl
  simp only [Store.alterTable, hthere, if_true]
  rw [if_pos (show t'.key = tableKey t'.database t'.name from rfl)]
  rfl

end CatalogFeed.Catalog.Store
