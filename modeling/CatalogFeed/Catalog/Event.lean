import CatalogFeed.Catalog.Entity

/-!
# Catalog/Event — what happened in the catalog

An event is a change and whether the operation behind it succeeded.  There are nine kinds of change,
each with a name of its own (`ChangeKind.name_injective`).
-/

namespace CatalogFeed

/-- The kinds of change, in the order in which they are numbered. -/
inductive ChangeKind where
  | partitionAdded
  | partitionDropped
  | databaseCreated
  | databaseDropped
  | tableCreated
  | tableDropped
  | partitionLoadCompleted
  | partitionAltered
  | tableAltered
  deriving DecidableEq, Repr

namespace ChangeKind

/-- All kinds, in order. -/
def all : List ChangeKind :=
  [partitionAdded, partitionDropped, databaseCreated, databaseDropped, tableCreated, tableDropped,
    partitionLoadCompleted, partitionAltered, tableAltered]

/-- The name of a kind. -/
def name : ChangeKind → String
  | partitionAdded => "partition_added"
  | partitionDropped => "partition_dropped"
  | databaseCreated => "database_created"
  | databaseDropped => "database_dropped"
  | tableCreated => "table_created"
  | tableDropped => "table_dropped"
  | partitionLoadCompleted => "partition_load_completed"
  | partitionAltered => "partition_altered"
  | tableAltered => "table_altered"

/-- The kind with a name. -/
def ofName? (name : String) : Option ChangeKind := all.find? (·.name == name)

@[simp] theorem ofName?_name (k : ChangeKind) : ofName? k.name = some k := by
  cases k <;> decide

/-- **No two kinds share a name.** -/
theorem name_injective {k l : ChangeKind} (h : k.name = l.name) : k = l := by
  have := congrArg ofName? h
  simpa using this

end ChangeKind

/-- One change of the catalog, with the entities concerned. -/
inductive Change where
  | partitionAdded (partition : Partition)
  | partitionDropped (partition : Partition)
  | databaseCreated (database : Database)
  | databaseDropped (database : Database)
  | tableCreated (table : Table)
  | tableDropped (table : Table)
  | partitionLoadCompleted (table : Table) (partitionName : String)
  | partitionAltered (before after : Partition)
  | tableAltered (before after : Table)
  deriving DecidableEq

/-- The kind of a change. -/
def Change.kind : Change → ChangeKind
  | .partitionAdded _ => .partitionAdded
  | .partitionDropped _ => .partitionDropped
  | .databaseCreated _ => .databaseCreated
  | .databaseDropped _ => .databaseDropped
  | .tableCreated _ => .tableCreated
  | .tableDropped _ => .tableDropped
  | .partitionLoadCompleted _ _ => .partitionLoadCompleted
  | .partitionAltered _ _ => .partitionAltered
  | .tableAltered _ _ => .tableAltered

/-- The name of a change is that of its kind. -/
def Change.name (c : Change) : String := c.kind.name

/-- A change as the catalog reports it; `status` is false if the operation failed. -/
structure CatalogEvent where
  status : Bool
  change : Change
  deriving DecidableEq

/-- The event of an operation that succeeded. -/
def CatalogEvent.succeeded (change : Change) : CatalogEvent := ⟨true, change⟩

/-- The event of an operation that failed. -/
def CatalogEvent.failed (change : Change) : CatalogEvent := ⟨false, change⟩

end CatalogFeed
