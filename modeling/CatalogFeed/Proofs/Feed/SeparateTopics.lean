import CatalogFeed.Proofs.Feed.FixedTopic
import CatalogFeed.Proofs.Text.Spelling
import Mathlib.Data.List.Basic

/-!
# Proofs/Feed/SeparateTopics — topics that are computed do not meet

A computed topic is the prefix with one or two names behind it, each in small letters after a point.
A name without a point has none in small letters either, so the points after the prefix cut the
topic in one way, whatever points the prefix has.

* `Topic.ofTable_eq_iff`: two tables have one topic only if they are one table;
* `Topic.ofDatabase_ne_ofTable`: no table has the topic of a database;
* `topics_are_separate`: what follows for the topics of one catalog, and for its partitions.
-/

namespace CatalogFeed

namespace Topic

variable {stem d t d' t' : String}

/-! ## The names behind a prefix -/

/-- A name without a point stays without one. -/
theorem point_not_mem_lowerCase (h : '.' ∉ d.toList) : '.' ∉ (Text.lowerCase d).toList :=
  Text.not_mem_lowerCase (by decide) h

theorem toList_ofDatabase (stem database : String) :
    (ofDatabase stem database).toList = stem.toList ++ '.' :: (Text.lowerCase database).toList := by
  simp [ofDatabase]

theorem toList_ofTable (stem database table : String) :
    (ofTable stem database table).toList = stem.toList ++
      '.' :: ((Text.lowerCase database).toList ++ '.' :: (Text.lowerCase table).toList) := by
  simp [ofTable]

/-- **Databases have one topic only if their names are one in small letters.** -/
theorem ofDatabase_eq_iff :
    ofDatabase stem d = ofDatabase stem d' ↔ Text.lowerCase d = Text.lowerCase d' := by
  rw [← String.toList_inj, toList_ofDatabase, toList_ofDatabase, List.append_right_inj,
    List.cons_inj_right, String.toList_inj]

/-- **Tables have one topic only if they have one key**, as soon as the names of one of them have no
point. -/
theorem ofTable_eq_iff (hd : '.' ∉ d.toList) (ht : '.' ∉ t.toList) :
    ofTable stem d t = ofTable stem d' t' ↔ tableKey d t = tableKey d' t' := by
  rw [← String.toList_inj, toList_ofTable, toList_ofTable, List.append_right_inj,
    List.cons_inj_right,
    List.append_cons_inj_of_notMem (point_not_mem_lowerCase hd) (point_not_mem_lowerCase ht)]
  simp only [tableKey, TableKey.mk.injEq, String.toList_inj, true_and]

/-- **No table has the topic of a database** whose name has no point. -/
theorem ofDatabase_ne_ofTable (hd : '.' ∉ d.toList) : ofDatabase stem d ≠ ofTable stem d' t' := by
  intro h
  rw [← String.toList_inj, toList_ofDatabase, toList_ofTable, List.append_right_inj,
    List.cons_inj_right] at h
  exact point_not_mem_lowerCase hd (h ▸ List.mem_append_right _ List.mem_cons_self)

/-- Nothing that is put behind a prefix gives the prefix again. -/
theorem ne_of_toList_eq_append {topic : String} {c : Char} {cs : List Char}
    (h : topic.toList = stem.toList ++ c :: cs) : stem ≠ topic := by
  rintro rfl
  simp at h

theorem stem_ne_ofDatabase : stem ≠ ofDatabase stem d :=
  ne_of_toList_eq_append (toList_ofDatabase stem d)

theorem stem_ne_ofTable : stem ≠ ofTable stem d t :=
  ne_of_toList_eq_append (toList_ofTable stem d t)

end Topic

namespace Catalog.Store

variable {s : Store} {p : Partition} {topic : String}

/-- The events of a partition have the topic that its table carries. -/
theorem Carries.topicOf (h : s.Carries (tableKey p.database p.table) topic) (htopic : topic ≠ "")
    {change : Change} (hchange : change = .partitionAdded p ∨ change = .partitionDropped p) :
    s.topicOf change = .ok (some topic) := by
  obtain ⟨t, ht, hstored⟩ := h
  have hfound : s.getTable p.database p.table = .ok t := getTable_of_some ht
  have hnonEmpty : Topic.nonEmpty (some topic) = some topic := by
    simp [Topic.nonEmpty, htopic]
  rw [topicOf_partition s hchange, hfound, Except.map, hstored, hnonEmpty]

/-- **The topics of the table `d.t` and of its database are their own** in a catalog. -/
structure Separate (s : Store) (d t : String) : Prop where
  /-- No other table is given the topic of the table. -/
  table (d' t' : String) : s.ask (Topic.tableTopic d t) = s.ask (Topic.tableTopic d' t') ↔
    tableKey d t = tableKey d' t'
  /-- No other database has the topic of the database, … -/
  database (d' : String) : s.ask (Topic.databaseTopic d) = s.ask (Topic.databaseTopic d') ↔
    Text.lowerCase d = Text.lowerCase d'
  /-- … and no table is given it. -/
  database_ne_table (d' t' : String) :
    s.ask (Topic.databaseTopic d) ≠ s.ask (Topic.tableTopic d' t')
  stem_ne_database (d' : String) : s.ask Topic.configuredPrefix ≠ s.ask (Topic.databaseTopic d')
  stem_ne_table (d' t' : String) :
    s.ask Topic.configuredPrefix ≠ s.ask (Topic.tableTopic d' t')
  /-- The partitions of a table that carries the topic given to it are announced away from the
  prefix and the topic of the database, and on the topic of the table only if they are its own. -/
  partition (p : Partition) (change : Change) :
    change = .partitionAdded p ∨ change = .partitionDropped p →
    s.Carries (tableKey p.database p.table) (s.ask (Topic.tableTopic p.database p.table)) →
    ∃ topic, s.topicOf change = .ok (some topic) ∧
      topic ≠ s.ask Topic.configuredPrefix ∧ topic ≠ s.ask (Topic.databaseTopic d) ∧
      (topic = s.ask (Topic.tableTopic d t) ↔ tableKey p.database p.table = tableKey d t)

/-- **Topics that a catalog computes do not meet**, whatever its prefix is.  The names that they are
compared with may have points. -/
theorem topics_are_separate (s : Store) {d t : String} (hd : '.' ∉ d.toList)
    (ht : '.' ∉ t.toList) : s.Separate d t where
  table _ _ := Topic.ofTable_eq_iff hd ht
  database _ := Topic.ofDatabase_eq_iff
  database_ne_table _ _ := Topic.ofDatabase_ne_ofTable hd
  stem_ne_database _ := Topic.stem_ne_ofDatabase
  stem_ne_table _ _ := Topic.stem_ne_ofTable
  partition p change hchange hcarries := by
    refine ⟨_, hcarries.topicOf (Topic.ofTable_ne_empty _ _ _) hchange,
      Topic.stem_ne_ofTable.symm, (Topic.ofDatabase_ne_ofTable hd).symm, ?_⟩
    rw [eq_comm, eq_comm (a := tableKey p.database p.table)]
    exact Topic.ofTable_eq_iff hd ht

/-- With points in the prefix, and a database whose name begins like the prefix ends. -/
theorem topics_are_separate_pointed_stem :
    let s := ({} : Store).setSetting Topic.prefixSetting "eu..crm."
    '.' ∉ "CRM".toList ∧ '.' ∉ "İΣ".toList ∧ s.Separate "CRM" "İΣ" ∧
      s.ask (Topic.tableTopic "CRM" "İΣ") = "eu..crm..crm.i̇ς" := by
  refine ⟨by decide, by decide, topics_are_separate _ (by decide) (by decide), ?_⟩
  decide +kernel

end Catalog.Store
end CatalogFeed
