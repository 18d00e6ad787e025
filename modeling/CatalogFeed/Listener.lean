import CatalogFeed.Catalog.Event
import CatalogFeed.Notice
import CatalogFeed.Topic

/-!
# Listener — what each event gives rise to

`Listener.decide` looks at an event and at the catalog, and says whether to publish and what.  A new
table is given its topic in the catalog before anything is published.  Operations that failed and
alterations are ignored; events without a topic are suppressed.  Only the catalog can make it fail.
-/

namespace CatalogFeed

open Catalog (access)

/-- Something to publish: its body, its topic and its tag. -/
structure Announcement where
  payload : Payload
  topic : String
  tag : NoticeTag
  deriving DecidableEq

/-- What is to be done about an event. -/
inductive Decision where
  /-- The event is of no interest. -/
  | ignore
  /-- No topic is configured for it. -/
  | suppress
  | announce (announcement : Announcement)
  deriving DecidableEq

namespace Listener

/-- The entry for a table without topic. -/
def tableSuppressed (table : String) : LogEntry :=
  .info ("Topic name not found in catalog. Suppressing notification. To enable notifications " ++
      "for this table, set the table property " ++ Topic.nameProperty ++
      "=<dbname>.<tablename> or any other topic name")
    [("table", .text table)]

/-- The entry for a database while the prefix is empty. -/
def databaseSuppressed (database : String) : LogEntry :=
  .info ("Topic prefix is empty. Suppressing notification for database event. To enable " ++
      "database notifications, set " ++ Topic.prefixSetting ++ " in the host configuration")
    [("database", .text database)]

/-- Announces `entity` on the topic from `source`; without one, leaves the entry `silence`. -/
def announceOn (source : Topic.Source) (silence : LogEntry) (entity : Snapshot) (tag : NoticeTag) :
    Script access (Except CatalogError Decision) := do
  match ← Topic.resolve source with
  | .error e => return .error e
  | .ok none =>
    Script.note silence
    return .ok .suppress
  | .ok (some topic) => return .ok (.announce ⟨.snapshot entity, topic, tag⟩)

/-- A partition is announced on the topic of its table. -/
def announcePartition (p : Partition) (tag : NoticeTag) :
    Script access (Except CatalogError Decision) :=
  announceOn (.owningTable p.database p.table) (tableSuppressed p.qualifiedTableName)
    (.partition p) tag

/-- A database is announced on the prefix. -/
def announceDatabase (d : Database) (tag : NoticeTag) :
    Script access (Except CatalogError Decision) :=
  announceOn .prefixAlone (databaseSuppressed d.name) (.database d) tag

/-- A new table is given its topic in the catalog, then announced as the catalog has it. -/
def announceNewTable (created : Table) : Script access (Except CatalogError Decision) := do
  match ← Catalog.getTable created.database created.name with
  | .error e => return .error e
  | .ok current =>
    let topic ← Topic.tableTopic current.database current.name
    let updated := Topic.store topic current
    match ← Catalog.alterTable updated.database updated.name updated with
    | .error e => return .error e
    | .ok () =>
      Script.note (.debug "Stored table topic"
        [("table", .text updated.qualifiedName), ("topic", .text topic)])
      let topic ← Topic.databaseTopic updated.database
      return .ok (.announce ⟨.snapshot (.table updated), topic, .addTable⟩)

/-- A dropped table is announced on the topic of its database. -/
def announceDroppedTable (t : Table) : Script access (Except CatalogError Decision) := do
  let topic ← Topic.databaseTopic t.database
  return .ok (.announce ⟨.snapshot (.table t.sanitize), topic, .dropTable⟩)

/-- What a change of a successful operation gives rise to. -/
def decideChange : Change → Script access (Except CatalogError Decision)
  | .partitionAdded p => announcePartition p .addPartition
  | .partitionDropped p => announcePartition p.sanitize .dropPartition
  | .databaseCreated d => announceDatabase d .addDatabase
  | .databaseDropped d => announceDatabase d .dropDatabase
  | .tableCreated t => announceNewTable t
  | .tableDropped t => announceDroppedTable t
  | .partitionLoadCompleted t name =>
    announceOn (.storedOn t) (tableSuppressed t.qualifiedName) (.partitionName name) .partitionDone
  | .partitionAltered _ _ => return .ok .ignore
  | .tableAltered _ _ => return .ok .ignore

/-- What an event gives rise to. -/
def decide (e : CatalogEvent) : Script access (Except CatalogError Decision) := do
  Script.note (.debug "Catalog event received"
    [("event", .text e.change.name), ("status", .flag e.status)])
  if e.status then decideChange e.change else return .ok .ignore

end Listener
end CatalogFeed
