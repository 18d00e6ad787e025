import CatalogFeed.Json.Shape
import CatalogFeed.Settings.Basic

/-!
# Settings/Reading — settings as typed values

`Setting.readAs` reads a setting as a value of a `Shape`, more freely than a document is read: texts
may be written as numbers or truth values, and integers as texts, truth values or decimals.  Fields
are looked up by name, and entries with other names are passed over.

A `Refusal` says what does not fit; for a scalar it also names the path and the source.
-/

namespace CatalogFeed

open Json (Shape Fields Finding Problem Mismatch)

/-- Why settings are refused. -/
inductive Setting.Refusal where
  /-- Something is missing, or a scalar stands where a list, map or record belongs. -/
  | structural (problem : Problem)
  /-- The scalar at `path` is not of the expected kind. -/
  | wrongType (found : Finding) (expected : String) (path : Option String)
      (source : Option Setting.Source)
  deriving DecidableEq, Repr

namespace Setting

/-! ## Reports -/

/-- Reports on settings have a word for null, and write doubles with all their digits. -/
def findingStyle : Finding.Style := ⟨"unit value", Binary64.positionalWithPoint⟩

/-- What a report says of a setting of the wrong kind. -/
def describe : Finding → String
  | .integer n => "64-bit integer `" ++ toString n ++ "`"
  | found => found.describe ⟨"unit value", Binary64.positional⟩

/-- What a setting is. -/
def finding : Setting → Finding
  | scalar .nil _ => .null
  | scalar (.bool b) _ => .bool b
  | scalar (.integer n) _ => .integer n.toInt
  | scalar (.decimal x) _ => .double x
  | scalar (.text s) _ => .text s
  | list _ _ => .sequence
  | table _ _ => .map

/-- The text of a refusal. -/
def Refusal.message : Refusal → String
  | .structural (.meaning mismatch) => mismatch.message findingStyle
  | .structural (.grammar _) => "malformed document"
  | .wrongType found expected _ _ => "invalid type: " ++ describe found ++ ", expected " ++ expected

/-- A key before the rest of a path; a point stands between, unless a bracket follows. -/
def joinPath (key : String) : Option String → String
  | none => key
  | some rest =>
    if rest.isEmpty || rest.startsWith "[" then key ++ rest else key ++ "." ++ rest

/-- The refusal as seen from a table that has the setting under `key`. -/
def Refusal.under (key : String) : Refusal → Refusal
  | .structural problem => .structural problem
  | .wrongType found expected path source =>
    .wrongType found expected (some (joinPath key path)) source

/-- The refusal as seen from a list that has the setting at place `i`. -/
def Refusal.atIndex (i : Nat) (refusal : Refusal) : Refusal :=
  refusal.under ("[" ++ toString i ++ "]")

/-- Refuses a setting. -/
def refuse {α : Type} (s : Setting) (expected : String) : Except Refusal α :=
  .error (.wrongType s.finding expected none s.source)

/-- Refuses a setting where something with parts was expected. -/
def refuseStructure {α : Type} (s : Setting) (expected : String) : Except Refusal α :=
  .error (.structural (.meaning (.wrongType s.finding expected)))

/-! ## Scalars -/

/-- Reads a text. -/
def readText (s : Setting) : Except Refusal String :=
  match s with
  | scalar (.text t) _ => .ok t
  | scalar (.integer n) _ => .ok (toString n.toInt)
  | scalar (.decimal x) _ => .ok x.positional
  | scalar (.bool b) _ => .ok (if b then "true" else "false")
  | s => refuse s "a string"

/-- The words for one and zero. -/
def wordValue? (word : String) : Option Int :=
  if ["true", "on", "yes"].contains word then some 1
  else if ["false", "off", "no"].contains word then some 0
  else none

/-- Reads decimal digits after an optional sign; a minus only if `signed`. -/
def decimal? (signed : Bool) (text : String) : Option Int :=
  let (negative, digits) := match text.toList with
    | '+' :: rest => (false, rest)
    | '-' :: rest => if signed then (true, rest) else (false, '-' :: rest)
    | rest => (false, rest)
  if digits.isEmpty || !digits.all Char.isDigit then none
  else
    let n : Int := Nat.ofDigitChars 10 digits 0
    some (if negative then -n else n)

/-- Reads an integer between `least` and `greatest`; an integer that is negative where it may not be
is refused as not `expected`. -/
def readInt (least greatest : Int) (expected : String) (s : Setting) : Except Refusal Int :=
  match s with
  | scalar (.integer n) _ => if least ≤ n.toInt then .ok n.toInt else refuse s expected
  | scalar (.bool b) _ => .ok (if b then 1 else 0)
  | scalar (.decimal x) _ => .ok (x.toIntClamped least greatest)
  | scalar (.text t) _ =>
    match wordValue? (Text.lowerCase t) with
    | some n => .ok n
    | none =>
      match decimal? (decide (least < 0)) t with
      | some n => if least ≤ n ∧ n ≤ greatest then .ok n else refuse s "an integer"
      | none => refuse s "an integer"
  | s => refuse s "an integer"

/-- Reads an integer of 64 bits. -/
def readInt64 : Setting → Except Refusal Int :=
  readInt Int64.minValue.toInt Int64.maxValue.toInt "an integer"

/-- Reads a natural number of 64 bits. -/
def readWord64 : Setting → Except Refusal Int :=
  readInt 0 (UInt64.size - 1) "an unsigned 64 bit or less integer"

/-- Reads an integer of 32 bits. -/
def readInt32 (s : Setting) : Except Refusal Int := do
  let n ← readInt64 s
  if Int32.minValue.toInt ≤ n ∧ n ≤ Int32.maxValue.toInt then .ok n
  else .error (.wrongType (.integer n) "an signed 32 bit integer" none none)

/-- Reads a truth value. -/
def readFlag (s : Setting) : Except Refusal Bool :=
  match s with
  | scalar (.bool b) _ => .ok b
  | scalar (.integer n) _ => .ok (n != 0)
  | scalar (.decimal x) _ => .ok (!x.isZero)
  | scalar (.text t) _ =>
    match wordValue? (Text.lowerCase t) with
    | some n => .ok (n != 0)
    | none => refuse s "a boolean"
  | s => refuse s "a boolean"

/-! ## Parts -/

/-- Reads items with `read`; the first has place `i`. -/
def readItems {α : Type} (read : Setting → Except Refusal α) (i : Nat) :
    List Setting → Except Refusal (List α)
  | [] => .ok []
  | s :: rest => do
    let v ← (read s).mapError (Refusal.atIndex i)
    let vs ← readItems read (i + 1) rest
    .ok (v :: vs)

/-- Reads entries as a string map, after those in `d`. -/
def readEntries (d : Dict String String) :
    List (String × Setting) → Except Refusal (Dict String String)
  | [] => .ok d
  | (key, s) :: rest => do
    let v ← (readText s).mapError (Refusal.under key)
    readEntries (d.insert key v) rest

/-! ## Shapes -/

mutual

/-- Reads a setting as a value of the shape. -/
def readAs : (shape : Shape) → Setting → Except Refusal shape.Value
  | .text, s => readText s
  | .flag, s => readFlag s
  | .int32, s => do
    let n ← readInt32 s
    .ok (Int32.ofInt n)
  | .int64, s => do
    let n ← readInt64 s
    .ok (Int64.ofInt n)
  | .word64, s => do
    let n ← readWord64 s
    .ok (UInt64.ofNat n.toNat)
  | .optional inner, s =>
    match s with
    | scalar .nil _ => .ok none
    | s => do
      let v ← readAs inner s
      .ok (some v)
  | .list item, s =>
    match s with
    | list items _ => readItems (readAs item) 0 items
    | s => refuseStructure s "a sequence"
  | .dict, s =>
    match s with
    | table entries _ => readEntries ∅ entries
    | s => refuseStructure s "a map"
  | .record name fields, s =>
    match s with
    | table entries _ => do
      let draft ← readFields fields entries
      (fields.finish .direct draft).mapError .structural
    | list items _ =>
      readRow ("struct " ++ name ++ " with " ++ Json.counted fields.size "element") 0 fields items
    | s => refuseStructure s ("struct " ++ name)

/-- Reads the fields that have an entry. -/
def readFields : (fields : Fields) → List (String × Setting) → Except Refusal fields.Draft
  | .nil, _ => .ok ()
  | .cons name shape _ rest, entries => do
    let slot ←
      match lookup name entries with
      | none => .ok none
      | some s => do
        let v ← (readAs shape s).mapError (Refusal.under name)
        .ok (some v)
    let more ← readFields rest entries
    .ok (slot, more)

/-- Reads fields in order from the items of a list, of which the first has place `i`. -/
def readRow (expected : String) (i : Nat) :
    (fields : Fields) → List Setting → Except Refusal fields.Row
  | .nil, _ => .ok ()
  | .cons _ shape _ rest, s :: items => do
    let v ← (readAs shape s).mapError (Refusal.atIndex i)
    let row ← readRow expected (i + 1) rest items
    .ok (v, row)
  | .cons _ shape fallback rest, [] => do
    let v ←
      match fallback with
      | none => .error (.structural (.meaning (.wrongLength i expected)))
      | some j => (shape.decode .direct j).mapError .structural
    let row ← readRow expected (i + 1) rest []
    .ok (v, row)

end

end Setting
end CatalogFeed
