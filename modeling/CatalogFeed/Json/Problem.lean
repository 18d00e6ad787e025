import CatalogFeed.Json.Number
import CatalogFeed.Text.Quoted

/-!
# Json/Problem — why a document does not make a value

A document is refused for its grammar or for its meaning.  Faults of meaning name what was found and
what was expected; `Mismatch.message` is their text.
-/

namespace CatalogFeed.Json

/-- What stands in a document where something else was expected. -/
inductive Finding where
  | null
  | bool (value : Bool)
  | integer (n : Int)
  | double (x : Binary64)
  | text (s : String)
  | sequence
  | map
  deriving DecidableEq, Repr

/-- How a report names what it found: the word for null, and the text of a double. -/
structure Finding.Style where
  null : String
  double : Binary64 → String

/-- Reports on JSON texts write a double with the fewest digits. -/
def Finding.Style.document : Style := ⟨"null", Binary64.scientific⟩

/-- The text of a finding. -/
def Finding.describe (style : Style) : Finding → String
  | .null => style.null
  | .bool b => "boolean `" ++ (if b then "true" else "false") ++ "`"
  | .integer n => "integer `" ++ toString n ++ "`"
  | .double x => "floating point `" ++ style.double x ++ "`"
  | .text s => "string " ++ Text.quoted s
  | .sequence => "sequence"
  | .map => "map"

/-- A fault of meaning. -/
inductive Mismatch where
  | wrongType (found : Finding) (expected : String)
  | wrongValue (found : Finding) (expected : String)
  | wrongLength (found : Nat) (expected : String)
  | missingField (name : String)
  | duplicateField (name : String)
  | unknownVariant (name : String) (known : List String)
  deriving DecidableEq, Repr

/-- The text of a fault of meaning. -/
def Mismatch.message (style : Finding.Style) : Mismatch → String
  | .wrongType found expected =>
    "invalid type: " ++ found.describe style ++ ", expected " ++ expected
  | .wrongValue found expected =>
    "invalid value: " ++ found.describe style ++ ", expected " ++ expected
  | .wrongLength found expected =>
    "invalid length " ++ toString found ++ ", expected " ++ expected
  | .missingField name => "missing field `" ++ name ++ "`"
  | .duplicateField name => "duplicate field `" ++ name ++ "`"
  | .unknownVariant name known =>
    "unknown variant `" ++ name ++ "`, expected one of " ++
      ", ".intercalate (known.map fun k => "`" ++ k ++ "`")

/-- Why a document is refused. -/
inductive Problem where
  | grammar (cause : Cause)
  | meaning (mismatch : Mismatch)
  deriving DecidableEq, Repr

/-- `n` things of a kind, with the plural ending. -/
def counted (n : Nat) (thing : String) : String :=
  toString n ++ " " ++ thing ++ (if n = 1 then "" else "s")

end CatalogFeed.Json
