import CatalogFeed.Catalog.EntityJson
import CatalogFeed.Catalog.Event
import CatalogFeed.Json.Inspect

/-!
# Catalog/EventJson — events as documents

An event is an object with the member `event`, which names the kind of change, the members of that
kind, and optionally `status`.  Members may stand in any order, so all but `status` are put aside
until the kind is known.  What is put aside is checked on the spot, to a fixed depth of nesting.

The kind may also be given by its number.
-/

namespace CatalogFeed

open Json

/-- The member that names the kind of change. -/
def kindMember : String := "event"

/-- The member that says whether the operation succeeded. -/
def statusMember : String := "status"

/-! ## The members of each kind -/

namespace ChangeKind

/-- The members of a kind. -/
@[reducible] def fields : ChangeKind → Fields
  | partitionAdded => required "partition" Partition.shape .nil
  | partitionDropped => required "partition" Partition.shape .nil
  | databaseCreated => required "database" Database.shape .nil
  | databaseDropped => required "database" Database.shape .nil
  | tableCreated => required "table" Table.shape .nil
  | tableDropped => required "table" Table.shape .nil
  | partitionLoadCompleted =>
    required "table" Table.shape <| required "partition_name" .text .nil
  | partitionAltered =>
    required "old_partition" Partition.shape <| required "new_partition" Partition.shape .nil
  | tableAltered => required "old_table" Table.shape <| required "new_table" Table.shape .nil

/-- The change of a kind with the given members. -/
def changeOfRow : (kind : ChangeKind) → kind.fields.Row → Change
  | partitionAdded, (p, ()) => .partitionAdded (.ofRow p)
  | partitionDropped, (p, ()) => .partitionDropped (.ofRow p)
  | databaseCreated, (d, ()) => .databaseCreated (.ofRow d)
  | databaseDropped, (d, ()) => .databaseDropped (.ofRow d)
  | tableCreated, (t, ()) => .tableCreated (.ofRow t)
  | tableDropped, (t, ()) => .tableDropped (.ofRow t)
  | partitionLoadCompleted, (t, name, ()) => .partitionLoadCompleted (.ofRow t) name
  | partitionAltered, (p, q, ()) => .partitionAltered (.ofRow p) (.ofRow q)
  | tableAltered, (t, u, ()) => .tableAltered (.ofRow t) (.ofRow u)

end ChangeKind

/-- The members of a change. -/
def Change.toRow : (c : Change) → c.kind.fields.Row
  | .partitionAdded p => (p.toRow, ())
  | .partitionDropped p => (p.toRow, ())
  | .databaseCreated d => (d.toRow, ())
  | .databaseDropped d => (d.toRow, ())
  | .tableCreated t => (t.toRow, ())
  | .tableDropped t => (t.toRow, ())
  | .partitionLoadCompleted t name => (t.toRow, name, ())
  | .partitionAltered p q => (p.toRow, q.toRow, ())
  | .tableAltered t u => (t.toRow, u.toRow, ())

@[simp] theorem ChangeKind.changeOfRow_toRow (c : Change) : c.kind.changeOfRow c.toRow = c := by
  cases c <;> simp [Change.kind, Change.toRow, changeOfRow]

/-! ## Putting members aside -/

/-- Reads the status and puts the other members aside, in order. -/
def setAside (status : Option Bool) :
    List (Option String × Json) → Except Problem (Option Bool × List (String × Json))
  | [] => .ok (status, [])
  | (key, j) :: rest => do
    let key ← checkKey key
    if key = statusMember then
      if status.isSome then .error (.meaning (.duplicateField statusMember))
      let status ← decodeFlag j
      setAside (some status) rest
    else
      inspect (maxDepth - 1) j
      let (status, kept) ← setAside status rest
      .ok (status, (key, j) :: kept)

/-! ## The kind of change -/

/-- Reads the kind of change: a name, or a number below nine. -/
def decodeKind (j : Json) : Except Problem ChangeKind :=
  match j with
  | .string (some name) =>
    match ChangeKind.ofName? name with
    | some kind => .ok kind
    | none => .error (.meaning (.unknownVariant name (ChangeKind.all.map ChangeKind.name)))
  | j => do
    match ← finding j with
    | .integer n =>
      if n < 0 then .error (.meaning (.wrongType (.integer n) "variant identifier"))
      else
        match ChangeKind.all[n.toNat]? with
        | some kind => .ok kind
        | none => .error (.meaning (.wrongValue (.integer n) "variant index 0 <= i < 9"))
    | found => .error (.meaning (.wrongType found "variant identifier"))

/-- Takes the kind of change out of the members put aside. -/
def takeKind (kind : Option ChangeKind) :
    List (String × Json) → Except Problem (Option ChangeKind × List (String × Json))
  | [] => .ok (kind, [])
  | (key, j) :: rest =>
    if key = kindMember then do
      if kind.isSome then .error (.meaning (.duplicateField kindMember))
      let kind ← decodeKind j
      takeKind (some kind) rest
    else do
      let (kind, kept) ← takeKind kind rest
      .ok (kind, (key, j) :: kept)

/-! ## Events -/

namespace CatalogEvent

/-- Reads a document as an event. -/
def decode : Json → Except Problem CatalogEvent
  | .object members cut => do
    let (status, kept) ← setAside none members
    checkCut cut
    let (kind, kept) ← takeKind none kept
    match kind with
    | none => .error (.meaning (.missingField kindMember))
    | some kind =>
      let row ← (Shape.record kindMember kind.fields).decode .buffered (.record kept)
      .ok ⟨status.getD true, kind.changeOfRow row⟩
  | j => refuse j "struct CatalogEvent"

/-- The document of an event. -/
def encode (e : CatalogEvent) : Json :=
  .record ((statusMember, .bool e.status) :: (kindMember, .text e.change.name) ::
    e.change.kind.fields.encodeMembers e.change.toRow)

/-- Reads a text as an event. -/
def parse (text : String) : Except Problem CatalogEvent := do
  let document := read text
  let e ← decode document.value
  if document.ends then .ok e else .error (.grammar .malformed)

/-- The text of an event. -/
def print (e : CatalogEvent) : String := e.encode.render

end CatalogEvent
end CatalogFeed
