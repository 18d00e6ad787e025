import CatalogFeed.Proofs.Catalog.Keyed
import CatalogFeed.Proofs.Dict

/-!
# Proofs/Catalog/Renaming — what becomes of the other tables when one is altered

An alteration takes a table from its old key and stores the new definition under the key of its own
names.  Nothing is asked about the new key, so a table that is already there gives way.

* `get?_moved_self` and its kin, `size_moved_eq_iff`: the tables after an alteration, key by key,
  and their number;
* `alteration_spares_others_iff`: every store and every alteration;
* `renaming_overwrites_a_table`: a table that is renamed to the name of another.
-/

namespace CatalogFeed

namespace Catalog.Store

variable {s : Store} {key : TableKey} {t : Table}

/-! ## The tables after an alteration -/

/-- The tables after the one under `key` has become `t`, under the names of `t`. -/
def moved (s : Store) (key : TableKey) (t : Table) : Dict TableKey Table :=
  (if t.key = key then s.tables else s.tables.erase key).insert t.key t

/-- An alteration is refused if there is no such table; otherwise the table moves. -/
theorem answer_alterTable (s : Store) (database table : String) (t : Table) :
    (s.tables.get? (tableKey database table) = none ∧
      s.answer (.alterTable database table t) = (.error (.invalidOperation
        ("alter table failed: " ++ qualify database table ++ " does not exist")), s, [])) ∨
    ∃ before, s.tables.get? (tableKey database table) = some before ∧
      s.answer (.alterTable database table t) =
        (.ok (), { s with tables := s.moved (tableKey database table) t },
          [alteredEntry database table]) := by
  rw [answer, alterTable]
  cases hfound : s.tables.get? (tableKey database table) with
  | none =>
    rw [if_neg (by simp [Dict.contains, hfound])]
    exact Or.inl ⟨rfl, rfl⟩
  | some before =>
    rw [if_pos (by simp [Dict.contains, hfound])]
    exact Or.inr ⟨before, rfl, rfl⟩

theorem get?_moved_self (s : Store) (key : TableKey) (t : Table) :
    (s.moved key t).get? t.key = some t := Dict.get?_insert_self _ _ _

/-- The old key is free unless it is also the new one. -/
theorem get?_moved_old (h : t.key ≠ key) : (s.moved key t).get? key = none := by
  rw [moved, if_neg h, Dict.get?_insert_of_ne _ _ h.symm, Dict.get?_erase_self]

/-- Every key but the old and the new one keeps its table. -/
theorem get?_moved_of_ne {other : TableKey} (hold : other ≠ key) (hnew : other ≠ t.key) :
    (s.moved key t).get? other = s.tables.get? other := by
  rw [moved, Dict.get?_insert_of_ne _ _ hnew]
  split
  · rfl
  · exact Dict.get?_erase_of_ne _ hold

/-- **The other tables are spared exactly if** the new key is the old one, or free, or has the very
definition that is stored. -/
theorem moved_spares_iff :
    (∀ other, other ≠ key → ∀ x, s.tables.get? other = some x →
        (s.moved key t).get? other = some x) ↔
      t.key = key ∨ s.tables.get? t.key = none ∨ s.tables.get? t.key = some t := by
  constructor
  · intro hspared
    by_cases hkey : t.key = key
    · exact Or.inl hkey
    · cases hthere : s.tables.get? t.key with
      | none => exact Or.inr (Or.inl rfl)
      | some x =>
        have hx := hspared t.key hkey x hthere
        rw [get?_moved_self] at hx
        exact Or.inr (Or.inr hx.symm)
  · intro hfree other hother x hx
    by_cases hnew : other = t.key
    · subst hnew
      rw [get?_moved_self]
      rcases hfree with hkey | hnone | hsame
      · exact absurd hkey hother
      · cases hnone.symm.trans hx
      · exact hsame.symm.trans hx
    · rw [get?_moved_of_ne hother hnew, hx]

/-- **The number of tables stays exactly if** the new key is the old one or free. -/
theorem size_moved_eq_iff {before : Table} (h : s.tables.get? key = some before) :
    (s.moved key t).size = s.tables.size ↔ t.key = key ∨ s.tables.get? t.key = none := by
  rw [moved]
  by_cases hkey : t.key = key
  · rw [if_pos hkey, hkey, Dict.size_insert_of_some h]
    exact iff_of_true rfl (Or.inl rfl)
  · rw [if_neg hkey]
    have herased : (s.tables.erase key).size + 1 = s.tables.size := Dict.size_erase_of_some h
    have hother : (s.tables.erase key).get? t.key = s.tables.get? t.key :=
      Dict.get?_erase_of_ne _ hkey
    cases hthere : s.tables.get? t.key with
    | none =>
      rw [Dict.size_insert_of_none (hother.trans hthere), herased]
      exact iff_of_true rfl (Or.inr rfl)
    | some x =>
      rw [Dict.size_insert_of_some (hother.trans hthere)]
      refine iff_of_false (by omega) ?_
      rintro (hsame | hnone)
      · exact hkey hsame
      · cases hnone

/-! ## One alteration -/

/-- **An alteration concerns one table exactly if the new names are free.**  An alteration that is
refused leaves the store as it was.  One that succeeds takes the table from its old key, unless this
is also the new one, and stores the definition under its own; settings and databases stay, and so do
the tables under all keys but these two.  Every other table is spared exactly if the two keys are
one, or the new one was free or had the same definition already; the number of tables stays exactly
if the two keys are one or the new one was free. -/
theorem alteration_spares_others_iff (s : Store) (database table : String) (t : Table) :
    let key := tableKey database table
    let answered := s.answer (.alterTable database table t)
    let after := answered.2.1
    (∀ e, answered.1 = .error e → after = s) ∧
    (answered.1 = .ok () →
      (t.key ≠ key → after.tables.get? key = none) ∧
      after.tables.get? t.key = some t ∧
      after.settings = s.settings ∧ after.databases = s.databases ∧
      (∀ other, other ≠ key → other ≠ t.key → after.tables.get? other = s.tables.get? other) ∧
      ((∀ other, other ≠ key → ∀ x, s.tables.get? other = some x →
          after.tables.get? other = some x) ↔
        t.key = key ∨ s.tables.get? t.key = none ∨ s.tables.get? t.key = some t) ∧
      (after.tables.size = s.tables.size ↔ t.key = key ∨ s.tables.get? t.key = none)) := by
  intro key answered after
  rcases s.answer_alterTable database table t with ⟨-, heq⟩ | ⟨before, hbefore, heq⟩
  · have hanswered : answered = _ := heq
    refine ⟨fun e _ => congrArg (fun x => x.2.1) hanswered, fun hok => ?_⟩
    rw [hanswered] at hok
    cases hok
  · have hanswered : answered = _ := heq
    have hafter : after = { s with tables := s.moved key t } :=
      congrArg (fun x => x.2.1) hanswered
    refine ⟨fun e he => ?_, fun _ => ?_⟩
    · rw [hanswered] at he
      cases he
    · rw [hafter]
      exact ⟨get?_moved_old, get?_moved_self s key t, rfl, rfl, fun _ => get?_moved_of_ne,
        moved_spares_iff, size_moved_eq_iff hbefore⟩

/-- Two tables of one database, of which the second has an owner. -/
def twoTables : Store :=
  ((ofSnapshot {}).putTable { name := "q1", database := "sales" }).putTable
    { name := "q2", database := "sales", owner := some "ann" }

/-- **A table that is renamed overwrites another**: after `sales.q1` has become `sales.q2`, the
owner of `sales.q2` is gone, and one table is left of two. -/
theorem renaming_overwrites_a_table :
    let answered := twoTables.answer
      (.alterTable "sales" "q1" { name := "q2", database := "sales" })
    twoTables.Reachable ∧
    answered.1 = .ok () ∧
    twoTables.table? "sales" "q2" =
      some { name := "q2", database := "sales", owner := some "ann" } ∧
    answered.2.1.table? "sales" "q2" = some { name := "q2", database := "sales" } ∧
    twoTables.tables.size = 2 ∧ answered.2.1.tables.size = 1 := by
  exact ⟨.putTable _ (.putTable _ (.loaded {})), rfl, by decide +kernel, by decide +kernel,
    by decide +kernel, by decide +kernel⟩

end Catalog.Store
end CatalogFeed
