import CatalogFeed.Number.Binary64

/-!
# Json/Basic — documents as they are read

A `Json` is what a reader has seen of a JSON text.  A text may break off or go wrong anywhere; the
tree then holds what came before, and the place of the fault is a `broken` value or the `cut` of the
container it lies in.  A decoder that walks the tree in document order therefore meets faults of
meaning and faults of grammar in the order in which they stand in the text.

Two kinds of walk differ in what they check.  A value that is *looked at* must be sound in every
respect; a value that is *skipped* need only have the right grammar: its numbers may be out of range
and its escapes need not pair up.  A `Flaw` therefore records what either walk reports.
-/

namespace CatalogFeed

namespace Json

/-- Why a text is not a document. -/
inductive Cause where
  /-- Something stands where it may not. -/
  | malformed
  /-- The text ends too early. -/
  | cutShort
  deriving DecidableEq, Repr

/-- A fault of grammar, as reported when the value is looked at and when it is skipped. -/
structure Flaw where
  checked : Cause
  skipped : Cause
  deriving DecidableEq, Repr

/-- The same fault for both walks. -/
def Flaw.of (cause : Cause) : Flaw := ⟨cause, cause⟩

/-- An exponent part: its sign and its digits. -/
structure Exponent where
  negative : Bool
  magnitude : Nat
  deriving DecidableEq, Repr

/-- A number as it is written: sign, whole part, digits after the point, exponent. -/
structure Numeral where
  negative : Bool
  whole : Nat
  fraction : Option (List Nat)
  exponent : Option Exponent
  deriving DecidableEq, Repr

end Json

open Json in
/-- A JSON text as far as it could be read. -/
inductive Json where
  | null
  | bool (value : Bool)
  | number (value : Numeral)
  /-- A string; no value if its escapes do not make characters. -/
  | string (value : Option String)
  /-- An array; `cut` if it does not end with a bracket. -/
  | array (items : List Json) (cut : Option Flaw)
  /-- An object, with its members as they stand; `cut` if it does not end with a brace. -/
  | object (members : List (Option String × Json)) (cut : Option Flaw)
  /-- No value stands here. -/
  | broken (flaw : Flaw)

namespace Json

/-- The fault in the last place the reader came to, if the value is not complete. -/
def flaw? : Json → Option Flaw
  | .array _ cut => cut
  | .object _ cut => cut
  | .broken flaw => some flaw
  | _ => none

/-- A complete string. -/
def text (s : String) : Json := .string (some s)

/-- A complete array. -/
def list (items : List Json) : Json := .array items none

/-- A complete object. -/
def record (members : List (String × Json)) : Json :=
  .object (members.map fun m => (some m.1, m.2)) none

/-- An integer. -/
def int (n : Int) : Json := .number ⟨decide (n < 0), n.natAbs, none, none⟩

@[simp] theorem flaw?_text (s : String) : (text s).flaw? = none := rfl
@[simp] theorem flaw?_list (items : List Json) : (list items).flaw? = none := rfl
@[simp] theorem flaw?_record (members : List (String × Json)) : (record members).flaw? = none := rfl
@[simp] theorem flaw?_int (n : Int) : (int n).flaw? = none := rfl

end Json
end CatalogFeed
