import CatalogFeed.Proofs.Catalog.Decide
import CatalogFeed.Proofs.Text.Spelling

/-!
# Proofs/Catalog/Spelling — names that differ in spelling

A catalog looks at a name only through its small letters, and so do the topics.  Two spellings with
the same small letters stand for one entry (`Store.SameEntry`), whatever is done under them: a
spelling shows in the definition that is stored under it and in the texts of errors, nowhere else.

* `Store.sameEntry`: spellings with one key stand for one entry;
* `spelling_is_immaterial`: so do names in other cases of ASCII letters, and names in small letters.
-/

namespace CatalogFeed.Catalog

open Text (Respells)

namespace Store

variable {s : Store} {a a' b b' : String}

/-- **The names `a'.b'` stand for the entry of `a.b`.** -/
structure SameEntry (s : Store) (a b a' b' : String) : Prop where
  table? : s.table? a' b' = s.table? a b
  getTable : s.getTable a' b' =
    (s.getTable a b).mapError fun _ => .noSuchObject (qualify a' b')
  removeTable : s.removeTable a' b' = s.removeTable a b
  /-- The entry gives way to the new definition, or there is none. -/
  alterTable (t : Table) : s.alterTable a' b' t =
    (s.alterTable a b t).mapError fun _ =>
      .invalidOperation ("alter table failed: " ++ qualify a' b' ++ " does not exist")
  /-- A definition with the other spelling is put in the place of the entry. -/
  putTable (t : Table) : t.database = a' → t.name = b' →
    s.putTable t = { s with tables := s.tables.insert (tableKey a b) t }
  /-- Partitions are announced on the topic of the entry. -/
  partition (p : Partition) (kind : Partition → Change) :
    kind = .partitionAdded ∨ kind = .partitionDropped →
    s.topicOf (kind { p with database := a', table := b' }) =
      (s.topicOf (kind { p with database := a, table := b })).mapError fun _ =>
        .noSuchObject (qualify a' b')

theorem getTable_respelled (h : tableKey a' b' = tableKey a b) :
    s.getTable a' b' = (s.getTable a b).mapError fun _ => .noSuchObject (qualify a' b') := by
  rw [Store.getTable, Store.getTable, Store.table?, h, ← Store.table?]
  cases s.table? a b <;> rfl

/-- **Spellings with one key stand for one entry.** -/
theorem sameEntry (h : tableKey a' b' = tableKey a b) : s.SameEntry a b a' b' where
  table? := by rw [Store.table?, h, Store.table?]
  getTable := getTable_respelled h
  removeTable := by rw [Store.removeTable, h, Store.removeTable]
  alterTable t := by
    simp only [Store.alterTable, h]
    cases s.tables.contains (tableKey a b) <;> rfl
  putTable t hdatabase hname := by
    rw [Store.putTable, Table.key, hdatabase, hname, h]
  partition p kind hkind := by
    have hchange (p : Partition) :
        kind p = .partitionAdded p ∨ kind p = .partitionDropped p :=
      hkind.imp (congrFun · p) (congrFun · p)
    rw [topicOf_partition s (hchange _), topicOf_partition s (hchange _), getTable_respelled h]
    cases s.getTable a b <;> rfl

end Store

/-- **Names are not told apart by their spelling.**  A name in other cases of its ASCII letters, or
in small letters, has the key of the name; on every catalog it has the same topics, and in a store
it stands for the same entry. -/
theorem spelling_is_immaterial {a a' b b' : String} (ha : Respells a a') (hb : Respells b b') :
    tableKey a' b' = tableKey a b ∧
      Topic.databaseTopic a' = Topic.databaseTopic a ∧
      Topic.tableTopic a' b' = Topic.tableTopic a b ∧
      ∀ s : Store, s.SameEntry a b a' b' := by
  have hkey : tableKey a' b' = tableKey a b := by
    rw [tableKey, ha.lowerCase, hb.lowerCase, tableKey]
  have hdatabase (stem : String) : Topic.ofDatabase stem a' = Topic.ofDatabase stem a := by
    rw [Topic.ofDatabase, ha.lowerCase, Topic.ofDatabase]
  have htable (stem : String) : Topic.ofTable stem a' b' = Topic.ofTable stem a b := by
    rw [Topic.ofTable, ha.lowerCase, hb.lowerCase, Topic.ofTable]
  refine ⟨hkey, ?_, ?_, fun s => Store.sameEntry hkey⟩
  · simp only [Topic.databaseTopic, hdatabase]
  · simp only [Topic.tableTopic, htable]

/-- A capital sigma at the end of a word, and a letter whose small form is two characters. -/
theorem spelling_is_immaterial_final_sigma :
    Respells "ΟΔΟΣ" "οδος" ∧ Respells "İzmir_Q1Σ" "İZMIR_q1Σ" ∧
      tableKey "οδος" "İZMIR_q1Σ" = tableKey "ΟΔΟΣ" "İzmir_Q1Σ" ∧
      Topic.databaseTopic "οδος" = Topic.databaseTopic "ΟΔΟΣ" ∧
      Topic.tableTopic "οδος" "İZMIR_q1Σ" = Topic.tableTopic "ΟΔΟΣ" "İzmir_Q1Σ" ∧
      ∀ s : Store, s.SameEntry "ΟΔΟΣ" "İzmir_Q1Σ" "οδος" "İZMIR_q1Σ" := by
  have hsmall : Text.lowerCase "ΟΔΟΣ" = "οδος" := by decide +kernel
  have hdatabase : Respells "ΟΔΟΣ" "οδος" := hsmall ▸ .smallLetters
  have htable : Respells "İzmir_Q1Σ" "İZMIR_q1Σ" := .asciiCase (by decide +kernel)
  exact ⟨hdatabase, htable, spelling_is_immaterial hdatabase htable⟩

end CatalogFeed.Catalog
