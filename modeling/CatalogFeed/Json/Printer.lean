import CatalogFeed.Json.Basic

/-!
# Json/Printer — the compact text of a document

`render` writes a document without blanks.  Quotes, backslashes and controls are escaped, everything
else stands as it is.
-/

namespace CatalogFeed.Json

/-- A small hexadecimal digit. -/
def hexDigit (n : Nat) : Char := if n < 10 then Char.ofNat (48 + n) else Char.ofNat (87 + n)

/-- A character inside a string. -/
def escape (c : Char) : List Char :=
  match c with
  | '"' => ['\\', '"']
  | '\\' => ['\\', '\\']
  | '\x08' => ['\\', 'b']
  | '\x0c' => ['\\', 'f']
  | '\n' => ['\\', 'n']
  | '\r' => ['\\', 'r']
  | '\t' => ['\\', 't']
  | c =>
    if c.toNat < 0x20 then
      ['\\', 'u', '0', '0', hexDigit (c.toNat / 16), hexDigit (c.toNat % 16)]
    else [c]

/-- A string in quotes. -/
def renderString (s : String) : List Char := '"' :: (s.toList.flatMap escape ++ ['"'])

/-- The decimal digits of a natural number. -/
def renderNat (n : Nat) : List Char := Nat.toDigits 10 n

/-- A numeral. -/
def Numeral.render (n : Numeral) : List Char :=
  (if n.negative then ['-'] else []) ++ renderNat n.whole ++
    (match n.fraction with
      | none => []
      | some digits => '.' :: digits.map fun d => Char.ofNat (48 + d)) ++
    (match n.exponent with
      | none => []
      | some e => 'e' :: ((if e.negative then ['-'] else []) ++ renderNat e.magnitude))

mutual

/-- The compact text of a document. -/
def renderChars : Json → List Char
  | .null => ['n', 'u', 'l', 'l']
  | .bool true => ['t', 'r', 'u', 'e']
  | .bool false => ['f', 'a', 'l', 's', 'e']
  | .number n => n.render
  | .string value => renderString (value.getD "")
  | .array items _ => '[' :: (renderItems items ++ [']'])
  | .object members _ => '\x7b' :: (renderMembers members ++ ['\x7d'])
  | .broken _ => []

/-- The items of an array, with commas between. -/
def renderItems : List Json → List Char
  | [] => []
  | [item] => renderChars item
  | item :: rest => renderChars item ++ ',' :: renderItems rest

/-- The members of an object, with commas between. -/
def renderMembers : List (Option String × Json) → List Char
  | [] => []
  | [(key, value)] => renderString (key.getD "") ++ ':' :: renderChars value
  | (key, value) :: rest =>
    renderString (key.getD "") ++ ':' :: (renderChars value ++ ',' :: renderMembers rest)

end

/-- The compact text of a document. -/
def render (j : Json) : String := String.ofList (renderChars j)

end CatalogFeed.Json
