import CatalogFeed.Text.GlyphTable

/-!
# Text/Quoted — a text in quotes, as diagnostics show it

Quotes, backslashes and the four common controls get a backslash; a character that would not show
(`hiddenRuns`) or would melt into its neighbour (`extenderRuns`) is written `\\u{…}` with its code
point in hexadecimal.  Everything else stands for itself.
-/

namespace CatalogFeed.Text

/-- The digits of `n` in small hexadecimal. -/
def hexDigits (n : Nat) : String := String.ofList (Nat.toDigits 16 n)

/-- Whether a character is written by its code point. -/
def needsCodePoint (c : Char) : Bool :=
  inRuns c.toNat extenderRuns || inRuns c.toNat hiddenRuns

/-- A character inside quotes. -/
def quotedChar (c : Char) : String :=
  match c with
  | '\x00' => "\\0"
  | '\t' => "\\t"
  | '\r' => "\\r"
  | '\n' => "\\n"
  | '\\' => "\\\\"
  | '"' => "\\\""
  | c => if needsCodePoint c then "\\u\x7b" ++ hexDigits c.toNat ++ "\x7d" else c.toString

/-- The text between quotes. -/
def quoted (s : String) : String :=
  "\"" ++ String.join (s.toList.map quotedChar) ++ "\""

/-- Texts in quotes, as a bracketed list. -/
def quotedList (texts : List String) : String :=
  "[" ++ ", ".intercalate (texts.map quoted) ++ "]"

/-- Texts in quotes, as a braced set. -/
def quotedSet (texts : List String) : String :=
  "\x7b" ++ ", ".intercalate (texts.map quoted) ++ "\x7d"

end CatalogFeed.Text
