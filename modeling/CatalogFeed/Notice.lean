import CatalogFeed.Catalog.EntityJson

/-!
# Notice — what subscribers are told

A notice carries one tag, under the property `eventProperty`, so that subscribers can select by the
kind of event without reading the body.  The body is a `Payload`: named fields, or a snapshot of the
entity concerned, which is written as the bare entity.
-/

namespace CatalogFeed

/-- The message property that carries the tag. -/
def eventProperty : String := "HCAT_EVENT"

/-- The tags of the published events. -/
inductive NoticeTag where
  | addPartition
  | dropPartition
  | addDatabase
  | dropDatabase
  | addTable
  | dropTable
  | partitionDone
  deriving DecidableEq, Repr

namespace NoticeTag

/-- All tags, in order. -/
def all : List NoticeTag :=
  [addPartition, dropPartition, addDatabase, dropDatabase, addTable, dropTable, partitionDone]

/-- The text of a tag. -/
def text : NoticeTag → String
  | addPartition => "HCAT_ADD_PARTITION"
  | dropPartition => "HCAT_DROP_PARTITION"
  | addDatabase => "HCAT_ADD_DATABASE"
  | dropDatabase => "HCAT_DROP_DATABASE"
  | addTable => "HCAT_ADD_TABLE"
  | dropTable => "HCAT_DROP_TABLE"
  | partitionDone => "HCAT_PARTITION_DONE"

/-- The tag with a text. -/
def ofText? (text : String) : Option NoticeTag := all.find? (·.text == text)

@[simp] theorem ofText?_text (tag : NoticeTag) : ofText? tag.text = some tag := by
  cases tag <;> decide

/-- **No two tags share a text.** -/
theorem text_injective {a b : NoticeTag} (h : a.text = b.text) : a = b := by
  have := congrArg ofText? h
  simpa using this

end NoticeTag

/-- An entity as it was when the event fired. -/
inductive Snapshot where
  | database (d : Database)
  | table (t : Table)
  | partition (p : Partition)
  | partitionName (name : String)
  deriving DecidableEq

/-- The bare document of a snapshot. -/
def Snapshot.document : Snapshot → Json
  | .database d => toDocument d
  | .table t => toDocument t
  | .partition p => toDocument p
  | .partitionName name => toDocument name

/-- What a notice is about. -/
inductive Payload where
  | fields (named : Properties)
  | snapshot (entity : Snapshot)
  deriving DecidableEq

end CatalogFeed
