import CatalogFeed.Catalog.EntityJson
import CatalogFeed.Error
import CatalogFeed.Log
import CatalogFeed.Text.LowerCase

/-!
# Catalog/Store — a catalog in memory

A `Store` holds host settings, databases and tables.  Names are not told apart by case: a table is
kept under the small letters of its names (`tableKey`).

* `Store.ofSnapshot` loads a store from its document; of two entries with one name the last stays;
* `Store.alterTable` replaces a definition, and moves it if the name changes.
-/

namespace CatalogFeed

/-- The key of a table: the names of database and table in small letters. -/
structure TableKey where
  database : String
  table : String
  deriving DecidableEq, Repr

instance : Ord TableKey :=
  ⟨compareLex (compareOn TableKey.database) (compareOn TableKey.table)⟩

instance : Std.TransOrd TableKey :=
  inferInstanceAs
    (Std.TransCmp (compareLex (compareOn TableKey.database) (compareOn TableKey.table)))

instance : Std.LawfulEqOrd TableKey where
  eq_of_compare {a b} h := by
    have h : (compare a.database b.database).then (compare a.table b.table) = .eq := h
    rw [Ordering.then_eq_eq] at h
    cases a
    cases b
    simp_all

/-- The key of the table `database.table`. -/
def tableKey (database table : String) : TableKey :=
  ⟨Text.lowerCase database, Text.lowerCase table⟩

/-- The key of a table. -/
def Table.key (t : Table) : TableKey := tableKey t.database t.name

namespace Catalog

/-- The document form of a store. -/
structure Snapshot where
  settings : Properties := ∅
  databases : List Database := []
  tables : List Table := []

namespace Snapshot

@[reducible] def shape : Json.Shape :=
  .record "CatalogSnapshot" <|
    propertiesField "settings" <|
    listField "databases" Database.shape <|
    listField "tables" Table.shape .nil

def toRow (s : Snapshot) : shape.Value :=
  (s.settings, s.databases.map Database.toRow, s.tables.map Table.toRow, ())

def ofRow : shape.Value → Snapshot
  | (settings, databases, tables, ()) =>
    ⟨settings, databases.map Database.ofRow, tables.map Table.ofRow⟩

instance : Documented Snapshot := ⟨_, toRow, ofRow⟩

@[simp] theorem ofRow_toRow (s : Snapshot) : ofRow s.toRow = s := by
  simp [ofRow, toRow, Function.comp_def]

end Snapshot

/-- A catalog in memory. -/
structure Store where
  settings : Properties := ∅
  databases : Dict String Database := ∅
  tables : Dict TableKey Table := ∅
  deriving DecidableEq

namespace Store

/-! ## Settings and databases -/

/-- Sets a host setting. -/
def setSetting (s : Store) (key value : String) : Store :=
  { s with settings := s.settings.insert key value }

/-- The value of a host setting. -/
def setting? (s : Store) (key : String) : Option String := s.settings.get? key

/-- Stores a database under its name. -/
def putDatabase (s : Store) (d : Database) : Store :=
  { s with databases := s.databases.insert (Text.lowerCase d.name) d }

/-! ## Tables -/

/-- Stores a table under its names. -/
def putTable (s : Store) (t : Table) : Store := { s with tables := s.tables.insert t.key t }

/-- Removes a table. -/
def removeTable (s : Store) (database table : String) : Store :=
  { s with tables := s.tables.erase (tableKey database table) }

/-- The table with the given names. -/
def table? (s : Store) (database table : String) : Option Table :=
  s.tables.get? (tableKey database table)

/-- The table with the given names, or that there is none. -/
def getTable (s : Store) (database table : String) : Except CatalogError Table :=
  match s.table? database table with
  | some t => .ok t
  | none => .error (.noSuchObject (qualify database table))

/-- Replaces the definition of a table.  If the new definition has other names, the table moves to
them. -/
def alterTable (s : Store) (database table : String) (t : Table) : Except CatalogError Store :=
  let key := tableKey database table
  if s.tables.contains key then
    let tables := if t.key = key then s.tables else s.tables.erase key
    .ok { s with tables := tables.insert t.key t }
  else
    .error (.invalidOperation
      ("alter table failed: " ++ qualify database table ++ " does not exist"))

/-- The log entry of a definition that was replaced. -/
def alteredEntry (database table : String) : LogEntry :=
  .debug ("Altered table " ++ qualify database table)

/-! ## Loading -/

/-- The store that a snapshot describes.  Its entries are put under their keys one by one. -/
def ofSnapshot (snapshot : Snapshot) : Store where
  settings := snapshot.settings
  databases := snapshot.databases.foldl (fun databases d =>
    databases.insert (Text.lowerCase d.name) d) ∅
  tables := snapshot.tables.foldl (fun tables t => tables.insert t.key t) ∅

@[simp] theorem table?_putTable_self (s : Store) (t : Table) :
    (s.putTable t).table? t.database t.name = some t := by
  simp [putTable, table?, Table.key]

@[simp] theorem setting?_setSetting_self (s : Store) (key value : String) :
    (s.setSetting key value).setting? key = some value := by
  simp [setSetting, setting?]

end Store
end Catalog
end CatalogFeed
