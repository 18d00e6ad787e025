import CatalogFeed.Json.Inspect
import CatalogFeed.Settings.Basic

/-!
# Settings/Document — settings written as a JSON document

An object becomes a table, in which the last value of a key stays.  An integer that does not fit in
a signed word becomes a double.
-/

namespace CatalogFeed.Setting

open Json (Numeral)

/-- The number that a numeral stands for. -/
def ofNumeral (n : Numeral) : Scalar :=
  match n.value? with
  | some (.natural n) =>
    if (n : Int) ≤ Int64.maxValue.toInt then .integer (Int64.ofInt n) else .decimal (.ofNat n)
  | some (.negative n) => .integer (Int64.ofInt n)
  | some (.double x) => .decimal x
  | none => .nil

mutual

/-- A document as a setting. -/
def ofJson (source : Source) : Json → Setting
  | .null => scalar .nil (some source)
  | .bool b => scalar (.bool b) (some source)
  | .number n => scalar (ofNumeral n) (some source)
  | .string s => scalar (.text (s.getD "")) (some source)
  | .array items _ => list (ofItems source items) (some source)
  | .object members _ => table (ofMembers source [] members) (some source)
  | .broken _ => scalar .nil (some source)

/-- The items of an array as settings. -/
def ofItems (source : Source) : List Json → List Setting
  | [] => []
  | j :: rest => ofJson source j :: ofItems source rest

/-- The members of an object as entries, after those that have been read. -/
def ofMembers (source : Source) (entries : List (String × Setting)) :
    List (Option String × Json) → List (String × Setting)
  | [] => entries
  | (key, j) :: rest =>
    ofMembers source (alter (key.getD "") (fun _ => ofJson source j) entries) rest

end

/-- The entries that a JSON text holds; nothing if it is not an object, or not sound. -/
def readDocument (text : String) : Option (List (String × Setting)) :=
  let document := Json.read text
  match Json.inspect Json.maxDepth document.value, document.ends with
  | .ok (), true =>
    match ofJson .file document.value with
    | table entries _ => some entries
    | _ => none
  | _, _ => none

end CatalogFeed.Setting
