import CatalogFeed.Listener
import CatalogFeed.Proofs.Catalog.Keyed
import CatalogFeed.Proofs.Script.Contract
import CatalogFeed.Publish.Send

/-!
# Proofs/Catalog/Decide — what is decided about an event on a store

`Store.decide` is what the listener decides about an event, and the store after it.  `Store.policy`
is the table of rulings: for each kind of change where the topic comes from, what is announced under
which tag, and what becomes of the store.  What a drop announces of a layout is spelled out field by
field (`Storage.announced`), apart from what the listener does to come by it.

* `run_service`: a script does on a store what it does, whatever the time and the log;
* `Keyed.ruling_decide`: on a store whose tables stand under their own names, the listener decides
  as the policy rules;
* `topicOf_partition`: on which topic partitions are announced.
-/

namespace CatalogFeed

/-- The topic that a decision publishes on. -/
def Decision.topic? : Decision → Option String
  | .announce a => some a.topic
  | _ => none

/-- **What a drop announces of a layout**: no bucketing and sort columns, and no parameters of the
layout or of its row format; everything else as it is. -/
def Storage.announced (s : Storage) : Storage where
  columns := s.columns
  location := s.location
  inputFormat := s.inputFormat
  outputFormat := s.outputFormat
  compressed := s.compressed
  bucketCount := s.bucketCount
  rowFormat := ⟨s.rowFormat.name, s.rowFormat.library, ∅⟩
  bucketColumns := []
  sortColumns := []
  parameters := ∅

theorem Storage.sanitize_eq (s : Storage) : s.sanitize = s.announced := rfl

namespace Catalog.Store

/-! ## Scripts on a store -/

/-- Answers from a store, without time and log. -/
def handler : Handler Catalog.access Store where
  serve request s := ((s.answer request).1, (s.answer request).2.1)
  note _ s := s

/-- **What a script does on a store** depends neither on the time nor on the log. -/
theorem run_service {α : Type} (script : Script Catalog.access α) (s : Store) (j : Journal) :
    ∃ j', service.run script s j = ((script.run handler s).1, (script.run handler s).2, j') :=
  Service.run_timeless (fun _ _ => rfl) (fun _ _ _ => rfl) script s j

/-- What is decided about an event, and the catalog after the decision. -/
def decide (s : Store) (e : CatalogEvent) : Except CatalogError Decision × Store :=
  (Listener.decide e).run handler s

@[simp] theorem run_getTable (s : Store) (database table : String) :
    (Catalog.getTable database table).run handler s = (s.getTable database table, s) := rfl

theorem run_alterTable {s s' : Store} {database table : String} {t : Table}
    (h : s.alterTable database table t = .ok s') :
    (Catalog.alterTable database table t).run handler s = (.ok (), s') := by
  simp [Catalog.alterTable, Script.request, handler, answer, h]

@[simp] theorem run_note (s : Store) (e : LogEntry) : (Script.note e).run handler s = ((), s) := rfl

/-- The prefix in effect. -/
def stem (s : Store) : String := (s.setting? Topic.prefixSetting).getD Topic.defaultPrefix

@[simp] theorem run_databaseTopic (s : Store) (database : String) :
    (Topic.databaseTopic database).run handler s = (Topic.ofDatabase s.stem database, s) :=
  rfl

@[simp] theorem run_tableTopic (s : Store) (database table : String) :
    (Topic.tableTopic database table).run handler s = (Topic.ofTable s.stem database table, s) :=
  rfl

/-! ## The policy -/

/-- What comes of an event: the answer to it, the messages that it adds to a bus in order, each with
its topic, and the store after it. -/
structure Ruling where
  answer : Except Error Delivery
  added : List (String × Message)
  after : Store

/-- Nothing is published, and the catalog stays. -/
def silence (s : Store) (delivery : Delivery) : Ruling := ⟨.ok delivery, [], s⟩

/-- The catalog has no such table. -/
def missing (s : Store) (database table : String) : Ruling :=
  ⟨.error (.catalog (.noSuchObject (qualify database table))), [], s⟩

/-- One message is published on `topic`. -/
def published (s : Store) (topic : String) (entity : CatalogFeed.Snapshot)
    (tag : NoticeTag) : Ruling :=
  ⟨.ok .delivered, [(topic, (Payload.snapshot entity).message tag)], s⟩

/-- One message is published on a topic that may not be configured, or be empty. -/
def publishedIf (s : Store) (topic : Option String) (entity : CatalogFeed.Snapshot)
    (tag : NoticeTag) : Ruling :=
  match topic with
  | none => s.silence .suppressed
  | some topic => if topic.isEmpty then s.silence .suppressed else s.published topic entity tag

/-- A partition is announced on the topic that the catalog now has on its table. -/
def partitionPolicy (s : Store) (p : Partition) (tag : NoticeTag) : Ruling :=
  match s.table? p.database p.table with
  | none => s.missing p.database p.table
  | some t => s.publishedIf (Topic.stored? t) (.partition p) tag

/-- **The policy** for the change of an operation that succeeded. -/
def changePolicy (s : Store) : Change → Ruling
  | .partitionAdded p => s.partitionPolicy p .addPartition
  | .partitionDropped p =>
    s.partitionPolicy { p with storage := p.storage.announced } .dropPartition
  | .databaseCreated d => s.publishedIf (some s.stem) (.database d) .addDatabase
  | .databaseDropped d => s.publishedIf (some s.stem) (.database d) .dropDatabase
  | .tableCreated t =>
    match s.table? t.database t.name with
    | none => s.missing t.database t.name
    | some current =>
      let updated := Topic.store (Topic.ofTable s.stem t.database t.name) current
      (s.putTable updated).published (Topic.ofDatabase s.stem t.database) (.table updated) .addTable
  | .tableDropped t =>
    s.published (Topic.ofDatabase s.stem t.database)
      (.table { t with storage := t.storage.announced }) .dropTable
  | .partitionLoadCompleted t name =>
    s.publishedIf (Topic.stored? t) (.partitionName name) .partitionDone
  | .partitionAltered _ _ => s.silence .ignored
  | .tableAltered _ _ => s.silence .ignored

/-- **The policy** for an event. -/
def policy (s : Store) (e : CatalogEvent) : Ruling :=
  if e.status then s.changePolicy e.change else s.silence .ignored

/-! ## The listener follows the policy -/

/-- The ruling that a decision amounts to, if publishing succeeds. -/
def ruling : Except CatalogError Decision × Store → Ruling
  | (.error e, s) => ⟨.error (.catalog e), [], s⟩
  | (.ok .ignore, s) => s.silence .ignored
  | (.ok .suppress, s) => s.silence .suppressed
  | (.ok (.announce a), s) => ⟨.ok .delivered, [(a.topic, a.payload.message a.tag)], s⟩

theorem getTable_of_none {s : Store} {database table : String}
    (h : s.table? database table = none) :
    s.getTable database table = .error (.noSuchObject (qualify database table)) := by
  rw [getTable, h]

theorem getTable_of_some {s : Store} {database table : String} {t : Table}
    (h : s.table? database table = some t) : s.getTable database table = .ok t := by
  rw [getTable, h]

/-- What is announced on a topic that may be missing. -/
theorem ruling_announceOn {s : Store} {source : Topic.Source} {topic : Option String}
    (h : (Topic.resolve source).run handler s = (.ok (Topic.nonEmpty topic), s))
    (silence : LogEntry) (entity : CatalogFeed.Snapshot) (tag : NoticeTag) :
    ruling ((Listener.announceOn source silence entity tag).run handler s) =
      s.publishedIf topic entity tag := by
  rw [Listener.announceOn, Script.bind_eq, Script.run_bind, h]
  cases topic with
  | none => rfl
  | some topic =>
    simp only [publishedIf, Topic.nonEmpty, Option.filter_some]
    cases hempty : topic.isEmpty <;> rfl

theorem ruling_announcePartition (s : Store) (p : Partition) (tag : NoticeTag) :
    ruling ((Listener.announcePartition p tag).run handler s) = s.partitionPolicy p tag := by
  rw [Listener.announcePartition, partitionPolicy]
  cases ht : s.table? p.database p.table with
  | none =>
    have hresolve : (Topic.resolve (.owningTable p.database p.table)).run handler s =
        (.error (.noSuchObject (qualify p.database p.table)), s) := by
      rw [Topic.resolve, Script.bind_eq, Script.run_bind, run_getTable, getTable_of_none ht]
      rfl
    rw [Listener.announceOn, Script.bind_eq, Script.run_bind, hresolve]
    rfl
  | some t =>
    refine ruling_announceOn ?_ _ _ tag
    rw [Topic.resolve, Script.bind_eq, Script.run_bind, run_getTable, getTable_of_some ht]
    rfl

theorem ruling_announceDatabase (s : Store) (d : Database) (tag : NoticeTag) :
    ruling ((Listener.announceDatabase d tag).run handler s) =
      s.publishedIf (some s.stem) (.database d) tag :=
  ruling_announceOn rfl _ _ tag

/-- A new table is announced as the catalog then has it. -/
theorem Keyed.ruling_announceNewTable {s : Store} (h : s.Keyed) (t : Table) :
    ruling ((Listener.announceNewTable t).run handler s) = s.changePolicy (.tableCreated t) := by
  rw [Listener.announceNewTable, Script.bind_eq, Script.run_bind, run_getTable]
  simp only [changePolicy]
  cases ht : s.table? t.database t.name with
  | none =>
    rw [getTable_of_none ht]
    rfl
  | some current =>
    -- the names that the catalog has for the table differ from the event's at most in case
    have hkey : Text.lowerCase current.database = Text.lowerCase t.database ∧
        Text.lowerCase current.name = Text.lowerCase t.name := by
      simpa [Table.key, tableKey] using h.key_of_table? ht
    have htopic : Topic.ofTable s.stem current.database current.name =
        Topic.ofTable s.stem t.database t.name := by
      rw [Topic.ofTable, hkey.1, hkey.2, Topic.ofTable]
    rw [getTable_of_some ht]
    simp only [Script.bind_eq, Script.run_bind, run_tableTopic, htopic]
    generalize hupdated : Topic.store (Topic.ofTable s.stem t.database t.name) current = updated
    have hnames : updated.database = current.database ∧ updated.key = current.key := by
      rw [← hupdated]
      exact ⟨rfl, rfl⟩
    rw [run_alterTable (h.alterTable_looked_up ht hnames.2)]
    simp only [Script.run_bind, run_note, run_databaseTopic]
    rw [Topic.ofDatabase, hnames.1, hkey.1, ← Topic.ofDatabase]
    rfl

/-- **The listener decides as the policy rules**, on a store whose tables stand under their own
names. -/
theorem Keyed.ruling_decide {s : Store} (h : s.Keyed) (e : CatalogEvent) :
    ruling (s.decide e) = s.policy e := by
  rw [decide, Listener.decide, Script.bind_eq, Script.run_bind, run_note, policy]
  cases e.status with
  | false => rfl
  | true =>
    simp only [if_true]
    cases e.change with
    | partitionAdded p => exact s.ruling_announcePartition p _
    | partitionDropped p =>
      rw [changePolicy, ← p.storage.sanitize_eq]
      exact s.ruling_announcePartition p.sanitize _
    | databaseCreated d => exact s.ruling_announceDatabase d _
    | databaseDropped d => exact s.ruling_announceDatabase d _
    | tableCreated t => exact h.ruling_announceNewTable t
    | tableDropped t =>
      rw [changePolicy, ← t.storage.sanitize_eq]
      rfl
    | partitionLoadCompleted t name => exact ruling_announceOn rfl _ _ _
    | partitionAltered _ _ => rfl
    | tableAltered _ _ => rfl

/-! ## The topic of an event -/

/-- The topic that an event resolves to: none if nothing is published, an error if the catalog does
not have its table. -/
def topicOf (s : Store) (change : Change) : Except CatalogError (Option String) :=
  (s.decide (.succeeded change)).1.map Decision.topic?

/-- What is announced from a source has the topic from that source. -/
theorem topic?_announceOn (s : Store) (source : Topic.Source) (silence : LogEntry)
    (entity : CatalogFeed.Snapshot) (tag : NoticeTag) :
    ((Listener.announceOn source silence entity tag).run handler s).1.map Decision.topic? =
      ((Topic.resolve source).run handler s).1 := by
  rw [Listener.announceOn, Script.bind_eq, Script.run_bind]
  rcases ((Topic.resolve source).run handler s).1 with cause | topic
  · rfl
  · cases topic <;> rfl

/-- **The events of a partition have the topic that is now on its table.** -/
theorem topicOf_partition (s : Store) {p : Partition} {change : Change}
    (h : change = .partitionAdded p ∨ change = .partitionDropped p) :
    s.topicOf change =
      (s.getTable p.database p.table).map fun t => Topic.nonEmpty (Topic.stored? t) := by
  have hresolve : ((Topic.resolve (.owningTable p.database p.table)).run handler s).1 =
      (s.getTable p.database p.table).map fun t => Topic.nonEmpty (Topic.stored? t) := by
    rw [Topic.resolve, Script.bind_eq, Script.run_bind, run_getTable]
    cases s.getTable p.database p.table <;> rfl
  rcases h with rfl | rfl <;> exact (s.topic?_announceOn _ _ _ _).trans hresolve

end Catalog.Store
end CatalogFeed
