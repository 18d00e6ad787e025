import CatalogFeed.Catalog.Entity
import CatalogFeed.Json.Shape

/-!
# Catalog/EntityJson — entities as documents

The `Shape` of each entity, and the passage between an entity and the row of its fields.  Only the
names that identify an entity are required; everything else may be left out.

* `Table.ofRow_toRow` and its kin: the passage loses nothing either way.
-/

namespace CatalogFeed

open Json (Shape Fields)

/-- A field that reads as null when it is left out. -/
def nullableText (name : String) (rest : Fields) : Fields :=
  .cons name (.optional .text) (some .null) rest

/-- A string map that is empty when it is left out. -/
def propertiesField (name : String) (rest : Fields) : Fields :=
  .cons name .dict (some (.record [])) rest

/-- A list that is empty when it is left out. -/
def listField (name : String) (item : Shape) (rest : Fields) : Fields :=
  .cons name (.list item) (some (.list [])) rest

/-- A field that must be there. -/
def required (name : String) (shape : Shape) (rest : Fields) : Fields :=
  .cons name shape none rest

attribute [reducible] nullableText propertiesField listField required

/-! ## Shapes -/

@[reducible] def Column.shape : Shape :=
  .record "FieldSchema" <|
    required "name" .text <| required "type" .text <| nullableText "comment" .nil

@[reducible] def SortColumn.shape : Shape :=
  .record "Order" <| required "col" .text <| required "order" .int32 .nil

@[reducible] def RowFormat.shape : Shape :=
  .record "SerDeInfo" <|
    nullableText "name" <| nullableText "serialization_lib" <| propertiesField "parameters" .nil

@[reducible] def Storage.shape : Shape :=
  .record "StorageDescriptor" <|
    listField "columns" Column.shape <|
    nullableText "location" <|
    nullableText "input_format" <|
    nullableText "output_format" <|
    .cons "compressed" .flag (some (.bool false)) <|
    .cons "num_buckets" .int32 (some (.int 0)) <|
    .cons "serde_info" RowFormat.shape (some (.record [])) <|
    listField "bucket_cols" .text <|
    listField "sort_cols" SortColumn.shape <|
    propertiesField "parameters" .nil

@[reducible] def Database.shape : Shape :=
  .record "Database" <|
    required "name" .text <|
    nullableText "description" <|
    nullableText "location_uri" <|
    propertiesField "parameters" .nil

@[reducible] def Table.shape : Shape :=
  .record "Table" <|
    required "table_name" .text <|
    required "db_name" .text <|
    nullableText "owner" <|
    .cons "create_time" .int64 (some (.int 0)) <|
    nullableText "table_type" <|
    .cons "storage" Storage.shape (some (.record [])) <|
    listField "partition_keys" Column.shape <|
    propertiesField "parameters" .nil

@[reducible] def Partition.shape : Shape :=
  .record "Partition" <|
    required "values" (.list .text) <|
    required "db_name" .text <|
    required "table_name" .text <|
    .cons "create_time" .int64 (some (.int 0)) <|
    .cons "storage" Storage.shape (some (.record [])) <|
    propertiesField "parameters" .nil

/-! ## Rows

`toRow` and `ofRow` go between an entity and the row of its fields, without loss in either
direction. -/

namespace Column

def toRow (c : Column) : shape.Value := (c.name, c.typeName, c.comment, ())

def ofRow : shape.Value → Column
  | (name, typeName, comment, ()) => ⟨name, typeName, comment⟩

@[simp] theorem ofRow_toRow (c : Column) : ofRow c.toRow = c := rfl
@[simp] theorem toRow_ofRow (r : shape.Value) : (ofRow r).toRow = r := rfl

end Column

namespace SortColumn

def toRow (c : SortColumn) : shape.Value := (c.column, c.order, ())

def ofRow : shape.Value → SortColumn
  | (column, order, ()) => ⟨column, order⟩

@[simp] theorem ofRow_toRow (c : SortColumn) : ofRow c.toRow = c := rfl
@[simp] theorem toRow_ofRow (r : shape.Value) : (ofRow r).toRow = r := rfl

end SortColumn

namespace RowFormat

def toRow (f : RowFormat) : shape.Value := (f.name, f.library, f.parameters, ())

def ofRow : shape.Value → RowFormat
  | (name, library, parameters, ()) => ⟨name, library, parameters⟩

@[simp] theorem ofRow_toRow (f : RowFormat) : ofRow f.toRow = f := rfl
@[simp] theorem toRow_ofRow (r : shape.Value) : (ofRow r).toRow = r := rfl

end RowFormat

namespace Storage

def toRow (s : Storage) : shape.Value :=
  (s.columns.map Column.toRow, s.location, s.inputFormat, s.outputFormat, s.compressed,
    s.bucketCount, s.rowFormat.toRow, s.bucketColumns, s.sortColumns.map SortColumn.toRow,
    s.parameters, ())

def ofRow : shape.Value → Storage
  | (columns, location, inputFormat, outputFormat, compressed, bucketCount, rowFormat,
      bucketColumns, sortColumns, parameters, ()) =>
    ⟨columns.map Column.ofRow, location, inputFormat, outputFormat, compressed, bucketCount,
      .ofRow rowFormat, bucketColumns, sortColumns.map SortColumn.ofRow, parameters⟩

@[simp] theorem ofRow_toRow (s : Storage) : ofRow s.toRow = s := by
  simp [ofRow, toRow, Function.comp_def]

@[simp] theorem toRow_ofRow (r : shape.Value) : (ofRow r).toRow = r := by
  simp [ofRow, toRow, Function.comp_def]

end Storage

namespace Database

def toRow (d : Database) : shape.Value := (d.name, d.description, d.location, d.parameters, ())

def ofRow : shape.Value → Database
  | (name, description, location, parameters, ()) => ⟨name, description, location, parameters⟩

@[simp] theorem ofRow_toRow (d : Database) : ofRow d.toRow = d := rfl
@[simp] theorem toRow_ofRow (r : shape.Value) : (ofRow r).toRow = r := rfl

end Database

namespace Table

def toRow (t : Table) : shape.Value :=
  (t.name, t.database, t.owner, t.createTime, t.kind, t.storage.toRow,
    t.partitionKeys.map Column.toRow, t.parameters, ())

def ofRow : shape.Value → Table
  | (name, database, owner, createTime, kind, storage, partitionKeys, parameters, ()) =>
    ⟨name, database, owner, createTime, kind, .ofRow storage, partitionKeys.map Column.ofRow,
      parameters⟩

@[simp] theorem ofRow_toRow (t : Table) : ofRow t.toRow = t := by
  simp [ofRow, toRow, Function.comp_def]

@[simp] theorem toRow_ofRow (r : shape.Value) : (ofRow r).toRow = r := by
  simp [ofRow, toRow, Function.comp_def]

end Table

namespace Partition

def toRow (p : Partition) : shape.Value :=
  (p.values, p.database, p.table, p.createTime, p.storage.toRow, p.parameters, ())

def ofRow : shape.Value → Partition
  | (values, database, table, createTime, storage, parameters, ()) =>
    ⟨values, database, table, createTime, .ofRow storage, parameters⟩

@[simp] theorem ofRow_toRow (p : Partition) : ofRow p.toRow = p := by
  simp [ofRow, toRow]

@[simp] theorem toRow_ofRow (r : shape.Value) : (ofRow r).toRow = r := by
  simp [ofRow, toRow]

end Partition

/-! ## Documents -/

/-- A type whose values are read from and written to documents. -/
class Documented (α : Type) where
  shape : Shape
  toRow : α → shape.Value
  ofRow : shape.Value → α

instance : Documented Column := ⟨_, Column.toRow, Column.ofRow⟩
instance : Documented SortColumn := ⟨_, SortColumn.toRow, SortColumn.ofRow⟩
instance : Documented RowFormat := ⟨_, RowFormat.toRow, RowFormat.ofRow⟩
instance : Documented Storage := ⟨_, Storage.toRow, Storage.ofRow⟩
instance : Documented Database := ⟨_, Database.toRow, Database.ofRow⟩
instance : Documented Table := ⟨_, Table.toRow, Table.ofRow⟩
instance : Documented Partition := ⟨_, Partition.toRow, Partition.ofRow⟩
instance : Documented String := ⟨.text, id, id⟩
instance : Documented Properties := ⟨.dict, id, id⟩

variable {α : Type} [Documented α]

/-- Reads a text as a value. -/
def parseAs (α : Type) [Documented α] (text : String) : Except Json.Problem α :=
  (Documented.shape α).parse text |>.map Documented.ofRow

/-- The document of a value. -/
def toDocument (v : α) : Json := (Documented.shape α).encode (Documented.toRow v)

/-- The compact text of a value. -/
def printDocument (v : α) : String := (toDocument v).render

end CatalogFeed
