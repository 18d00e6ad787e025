import CatalogFeed.Dict

/-!
# Catalog/Entity — databases, tables and partitions

The entities of a catalog with their physical layout.  A table and a partition know the names of the
database and table they belong to; `Table.qualifiedName` joins the two with a point.
-/

namespace CatalogFeed

/-- String properties by name. -/
abbrev Properties := Dict String String

/-- A column: its name, its type and a comment. -/
structure Column where
  name : String
  typeName : String
  comment : Option String
  deriving DecidableEq

/-- A sort column of a bucketed table; `1` sorts upward, `0` downward. -/
structure SortColumn where
  column : String
  order : Int32
  deriving DecidableEq

/-- How rows are written and read. -/
structure RowFormat where
  name : Option String := none
  library : Option String := none
  parameters : Properties := ∅
  deriving DecidableEq

/-- The physical layout of a table or partition. -/
structure Storage where
  columns : List Column := []
  location : Option String := none
  inputFormat : Option String := none
  outputFormat : Option String := none
  compressed : Bool := false
  bucketCount : Int32 := 0
  rowFormat : RowFormat := {}
  bucketColumns : List String := []
  sortColumns : List SortColumn := []
  parameters : Properties := ∅
  deriving DecidableEq

/-- A database. -/
structure Database where
  name : String
  description : Option String := none
  location : Option String := none
  parameters : Properties := ∅
  deriving DecidableEq

/-- A table of a database. -/
structure Table where
  name : String
  database : String
  owner : Option String := none
  createTime : Int64 := 0
  kind : Option String := none
  storage : Storage := {}
  partitionKeys : List Column := []
  parameters : Properties := ∅
  deriving DecidableEq

/-- A partition of a table, told from the others by its key values. -/
structure Partition where
  values : List String
  database : String
  table : String
  createTime : Int64 := 0
  storage : Storage := {}
  parameters : Properties := ∅
  deriving DecidableEq

/-- The name of a table with that of its database. -/
def qualify (database table : String) : String := database ++ "." ++ table

/-- `database.table` of a table. -/
def Table.qualifiedName (t : Table) : String := qualify t.database t.name

/-- `database.table` of the table that a partition belongs to. -/
def Partition.qualifiedTableName (p : Partition) : String := qualify p.database p.table

/-! ## What is kept back of a dropped entity -/

/-- A layout without bucketing and sort columns and without parameters. -/
def Storage.sanitize (s : Storage) : Storage :=
  { s with
    bucketColumns := []
    sortColumns := []
    parameters := ∅
    rowFormat := { s.rowFormat with parameters := ∅ } }

/-- The table with its layout sanitized. -/
def Table.sanitize (t : Table) : Table := { t with storage := t.storage.sanitize }

/-- The partition with its layout sanitized. -/
def Partition.sanitize (p : Partition) : Partition := { p with storage := p.storage.sanitize }

/-- A layout that has nothing to be kept back. -/
structure Storage.Bare (s : Storage) : Prop where
  bucketColumns : s.bucketColumns = []
  sortColumns : s.sortColumns = []
  parameters : s.parameters = ∅
  rowParameters : s.rowFormat.parameters = ∅

theorem Storage.bare_sanitize (s : Storage) : s.sanitize.Bare := ⟨rfl, rfl, rfl, rfl⟩

/-- **A layout is announced as it is only if it is bare.** -/
theorem Storage.sanitize_eq_self_iff {s : Storage} : s.sanitize = s ↔ s.Bare := by
  constructor
  · intro h
    exact h ▸ s.bare_sanitize
  · rintro ⟨hbucket, hsort, hparameters, hrow⟩
    have hformat : { s.rowFormat with parameters := ∅ } = s.rowFormat := hrow ▸ rfl
    rw [sanitize, hformat, ← hbucket, ← hsort, ← hparameters]

end CatalogFeed
