import CatalogFeed.Dict
import CatalogFeed.Json.Printer
import CatalogFeed.Json.Problem
import CatalogFeed.Json.Reader

/-!
# Json/Shape — what a document may hold, and the value it then has

A `Shape` describes a type of values: texts, flags, integers of a given width, optional values,
lists, string maps and records.  `Shape.Value` is the type itself, `Shape.decode` reads a document
as such a value and `Shape.encode` writes one.

A record is written as an object, or as an array of its fields in declaration order.  A field that
is left out reads as its `fallback` document, if it has one.  Members with other names are skipped.
-/

namespace CatalogFeed.Json

mutual

/-- A type of values, as far as documents are concerned. -/
inductive Shape where
  | text
  | flag
  | int32
  | int64
  | word64
  | optional (inner : Shape)
  | list (item : Shape)
  | dict
  | record (name : String) (fields : Fields)

/-- The fields of a record, in declaration order; what stands for a field that is left out. -/
inductive Fields where
  | nil
  | cons (name : String) (shape : Shape) (fallback : Option Json) (rest : Fields)

end

mutual

/-- The values of a shape. -/
@[reducible] def Shape.Value : Shape → Type
  | .text => String
  | .flag => Bool
  | .int32 => Int32
  | .int64 => Int64
  | .word64 => UInt64
  | .optional inner => Option inner.Value
  | .list item => List item.Value
  | .dict => Dict String String
  | .record _ fields => fields.Row

/-- The values of a record: one for each field. -/
@[reducible] def Fields.Row : Fields → Type
  | .nil => Unit
  | .cons _ shape _ rest => shape.Value × rest.Row

end

/-- A record under construction: the fields that have been read. -/
@[reducible] def Fields.Draft : Fields → Type
  | .nil => Unit
  | .cons _ shape _ rest => Option shape.Value × rest.Draft

/-- The draft with no field read. -/
def Fields.blank : (fields : Fields) → fields.Draft
  | .nil => ()
  | .cons _ _ _ rest => (none, rest.blank)

/-- The number of fields. -/
def Fields.size : Fields → Nat
  | .nil => 0
  | .cons _ _ _ rest => rest.size + 1

/-- The names of the fields. -/
def Fields.names : Fields → List String
  | .nil => []
  | .cons name _ _ rest => name :: rest.names

/-! ## Scalars -/

/-- Where a document comes from: straight from a text, or from members put aside, whose grammar has
been checked. -/
inductive Origin where
  | direct
  | buffered
  deriving DecidableEq

/-- What a document is, if its first value is sound; a fault of grammar otherwise. -/
def finding : Json → Except Problem Finding
  | .null => .ok .null
  | .bool b => .ok (.bool b)
  | .number n =>
    match n.value? with
    | some (.natural n) => .ok (.integer n)
    | some (.negative n) => .ok (.integer n)
    | some (.double x) => .ok (.double x)
    | none => .error (.grammar .malformed)
  | .string (some s) => .ok (.text s)
  | .string none => .error (.grammar .malformed)
  | .array _ _ => .ok .sequence
  | .object _ _ => .ok .map
  | .broken flaw => .error (.grammar flaw.checked)

/-- Refuses a document that is not what was `expected`. -/
def refuse {α : Type} (j : Json) (expected : String) : Except Problem α := do
  let found ← finding j
  .error (.meaning (.wrongType found expected))

/-- Reads a string. -/
def decodeText : Json → Except Problem String
  | .string (some s) => .ok s
  | j => refuse j "a string"

/-- Reads a truth value. -/
def decodeFlag : Json → Except Problem Bool
  | .bool b => .ok b
  | j => refuse j "a boolean"

/-- Reads an integer between `least` and `greatest`. -/
def decodeInt (least greatest : Int) (expected : String) (j : Json) : Except Problem Int :=
  match j with
  | .number n =>
    match n.value? with
    | some (.natural n) =>
      if (n : Int) ≤ greatest then .ok n
      else .error (.meaning (.wrongValue (.integer n) expected))
    | some (.negative n) =>
      if least ≤ n then .ok n else .error (.meaning (.wrongValue (.integer n) expected))
    | _ => refuse j expected
  | _ => refuse j expected

/-- A fault of grammar at the end of a container. -/
def checkCut (cut : Option Flaw) : Except Problem Unit :=
  match cut with
  | none => .ok ()
  | some flaw => .error (.grammar flaw.checked)

/-- Passes over a value without looking at it. -/
def skip (j : Json) : Except Problem Unit :=
  match j.flaw? with
  | none => .ok ()
  | some flaw => .error (.grammar flaw.skipped)

/-- The key of a member; it must be a string of characters. -/
def checkKey (key : Option String) : Except Problem String :=
  match key with
  | some key => .ok key
  | none => .error (.grammar .malformed)

/-- Reads the members of a string map; the last value of a key stays. -/
def decodeEntries (d : Dict String String) :
    List (Option String × Json) → Except Problem (Dict String String)
  | [] => .ok d
  | (key, value) :: rest => do
    let key ← checkKey key
    let value ← decodeText value
    decodeEntries (d.insert key value) rest

/-- Refuses items that a record has no field for. -/
def checkSurplus (origin : Origin) (used : Nat) (items : List Json) (cut : Option Flaw) :
    Except Problem Unit :=
  match items with
  | [] => checkCut cut
  | _ :: _ =>
    match origin with
    | .direct => .error (.grammar .malformed)
    | .buffered =>
      .error (.meaning
        (.wrongLength (used + items.length) (counted used "element" ++ " in sequence")))

/-- Reads members one by one with `store`, which says nothing of a name it does not know. -/
def decodeMembers {α : Type} (store : String → Json → α → Option (Except Problem α)) (draft : α) :
    List (Option String × Json) → Except Problem α
  | [] => .ok draft
  | (key, value) :: rest => do
    let key ← checkKey key
    match store key value draft with
    | some stored =>
      let draft ← stored
      decodeMembers store draft rest
    | none =>
      skip value
      decodeMembers store draft rest

/-! ## Decoding -/

mutual

/-- Reads a document as a value of the shape. -/
def Shape.decode (origin : Origin) : (shape : Shape) → Json → Except Problem shape.Value
  | .text, j => decodeText j
  | .flag, j => decodeFlag j
  | .int32, j => do
    let n ← decodeInt Int32.minValue.toInt Int32.maxValue.toInt "i32" j
    .ok (Int32.ofInt n)
  | .int64, j => do
    let n ← decodeInt Int64.minValue.toInt Int64.maxValue.toInt "i64" j
    .ok (Int64.ofInt n)
  | .word64, j => do
    let n ← decodeInt 0 (UInt64.size - 1) "u64" j
    .ok (UInt64.ofNat n.toNat)
  | .optional inner, j =>
    match j with
    | .null => .ok none
    | j => do
      let v ← inner.decode origin j
      .ok (some v)
  | .list item, j =>
    match j with
    | .array items cut => do
      let vs ← items.mapM (item.decode origin)
      checkCut cut
      .ok vs
    | j => refuse j "a sequence"
  | .dict, j =>
    match j with
    | .object members cut => do
      let d ← decodeEntries ∅ members
      checkCut cut
      .ok d
    | j => refuse j "a map"
  | .record name fields, j =>
    match j with
    | .object members cut => do
      let draft ← decodeMembers (fields.store origin) fields.blank members
      checkCut cut
      fields.finish origin draft
    | .array items cut =>
      fields.decodeItems origin ("struct " ++ name ++ " with " ++ counted fields.size "element") 0
        items cut
    | j => refuse j ("struct " ++ name)

/-- Puts the value of the member `key` into the draft; nothing if no field has that name. -/
def Fields.store (origin : Origin) :
    (fields : Fields) → String → Json → fields.Draft → Option (Except Problem fields.Draft)
  | .nil, _, _, _ => none
  | .cons name shape _ rest, key, j, (slot, more) =>
    if key = name then
      some <|
        match slot with
        | some _ => .error (.meaning (.duplicateField name))
        | none => do
          let v ← shape.decode origin j
          .ok (some v, more)
    else (rest.store origin key j more).map fun stored => do
      let more ← stored
      .ok (slot, more)

/-- Completes a draft with the fallbacks of the fields that were left out. -/
def Fields.finish (origin : Origin) : (fields : Fields) → fields.Draft → Except Problem fields.Row
  | .nil, _ => .ok ()
  | .cons name shape fallback rest, (slot, more) => do
    let v ←
      match slot with
      | some v => .ok v
      | none =>
        match fallback with
        | some j => shape.decode origin j
        | none => .error (.meaning (.missingField name))
    let row ← rest.finish origin more
    .ok (v, row)

/-- Reads a record from its fields in order; `used` items have been read. -/
def Fields.decodeItems (origin : Origin) (expected : String) (used : Nat) :
    (fields : Fields) → List Json → Option Flaw → Except Problem fields.Row
  | .nil, items, cut => do
    checkSurplus origin used items cut
    .ok ()
  | .cons _ shape fallback rest, items, cut =>
    match items with
    | j :: items => do
      let v ← shape.decode origin j
      let row ← rest.decodeItems origin expected (used + 1) items cut
      .ok (v, row)
    | [] => do
      checkCut cut
      match fallback with
      | none => .error (.meaning (.wrongLength used expected))
      | some j =>
        let v ← shape.decode origin j
        let row ← rest.decodeItems origin expected (used + 1) [] cut
        .ok (v, row)

end

/-! ## Encoding -/

mutual

/-- Writes a value as a document; records are objects. -/
def Shape.encode : (shape : Shape) → shape.Value → Json
  | .text, s => .text s
  | .flag, b => .bool b
  | .int32, n => .int n.toInt
  | .int64, n => .int n.toInt
  | .word64, n => .int n.toNat
  | .optional inner, v =>
    match v with
    | none => .null
    | some v => inner.encode v
  | .list item, vs => .list (vs.map item.encode)
  | .dict, d => .record (d.entries.map fun e => (e.1, .text e.2))
  | .record _ fields, row => .record (fields.encodeMembers row)

/-- Writes the fields of a record as members. -/
def Fields.encodeMembers : (fields : Fields) → fields.Row → List (String × Json)
  | .nil, _ => []
  | .cons name shape _ rest, (v, row) => (name, shape.encode v) :: rest.encodeMembers row

end

/-! ## Whole texts -/

/-- Reads a text as a value: a document of the shape with nothing after it. -/
def Shape.parse (shape : Shape) (text : String) : Except Problem shape.Value := do
  let document := read text
  let v ← shape.decode .direct document.value
  if document.ends then .ok v else .error (.grammar .malformed)

/-- The text of a value. -/
def Shape.print (shape : Shape) (v : shape.Value) : String := (shape.encode v).render

end CatalogFeed.Json
