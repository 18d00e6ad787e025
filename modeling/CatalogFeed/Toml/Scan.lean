import CatalogFeed.Number.Binary64
import CatalogFeed.Toml.Moment

/-!
# Toml/Scan — the words of a TOML text

Blanks, comments, keys, strings, numbers, truth values, and moments, which are kept as the texts of
their normal forms.  Each scanner takes the characters and gives what it read with the characters
after it, or nothing if the text is not well formed.
-/

namespace CatalogFeed.Toml

open Setting (Scalar)

/-! ## Blanks -/

/-- A blank within a line. -/
def isBlank (c : Char) : Bool := c == ' ' || c == '\t'

/-- The characters from the first that is no blank. -/
def skipBlanks (cs : List Char) : List Char := cs.dropWhile isBlank

/-- Whether a character may stand in a comment or string. -/
def isPlain (c : Char) : Bool := c == '\t' || (0x20 ≤ c.toNat && c.toNat != 0x7F)

/-- The rest after a line break, if there is one. -/
def lineBreak? : List Char → Option (List Char)
  | '\n' :: rest => some rest
  | '\r' :: '\n' :: rest => some rest
  | _ => none

/-- The rest after a comment, if there is one. -/
def skipComment : List Char → List Char
  | '#' :: rest => rest.dropWhile isPlain
  | cs => cs

/-- The rest after the end of a line: blanks, a comment, and a line break or the end of the text. -/
def endLine? (cs : List Char) : Option (List Char) :=
  match skipComment (skipBlanks cs) with
  | [] => some []
  | rest => lineBreak? rest

/-- The characters after blanks, comments and line breaks. -/
def skipLines : Nat → List Char → Option (List Char)
  | 0, cs => some cs
  | fuel + 1, cs =>
    match skipBlanks cs with
    | '#' :: rest =>
      match rest.dropWhile isPlain with
      | [] => some []
      | rest => (lineBreak? rest).bind (skipLines fuel)
    | rest =>
      match lineBreak? rest with
      | some rest => skipLines fuel rest
      | none => some rest

/-! ## Strings -/

/-- The value of a hexadecimal digit. -/
def hexValue? (c : Char) : Option Nat :=
  if '0' ≤ c ∧ c ≤ '9' then some (c.toNat - '0'.toNat)
  else if 'a' ≤ c ∧ c ≤ 'f' then some (c.toNat - 'a'.toNat + 10)
  else if 'A' ≤ c ∧ c ≤ 'F' then some (c.toNat - 'A'.toNat + 10)
  else none

/-- The character whose code point the first `n` characters spell. -/
def scanCodePoint (n : Nat) (cs : List Char) : Option (Char × List Char) := do
  let digits := cs.take n
  if digits.length < n then none
  let value ← digits.foldlM (fun value c => (hexValue? c).map (value * 16 + ·)) 0
  if h : value.isValidChar then some (Char.ofNatAux value h, cs.drop n) else none

/-- Scans what follows a backslash. -/
def scanEscape : List Char → Option (Char × List Char)
  | 'b' :: rest => some ('\x08', rest)
  | 't' :: rest => some ('\t', rest)
  | 'n' :: rest => some ('\n', rest)
  | 'f' :: rest => some ('\x0c', rest)
  | 'r' :: rest => some ('\r', rest)
  | '"' :: rest => some ('"', rest)
  | '\\' :: rest => some ('\\', rest)
  | 'u' :: rest => scanCodePoint 4 rest
  | 'U' :: rest => scanCodePoint 8 rest
  | _ => none

/-- Scans a string on one line whose opening `quote` has been read; `seen` holds its characters so
far, last first.  Only strings in double quotes have escapes. -/
def scanLineString (quote : Char) (seen : List Char) :
    Nat → List Char → Option (String × List Char)
  | 0, _ => none
  | _, [] => none
  | fuel + 1, c :: rest =>
    if c = quote then some (String.ofList seen.reverse, rest)
    else if c = '\\' ∧ quote = '"' then do
      let (c, rest) ← scanEscape rest
      scanLineString quote (c :: seen) fuel rest
    else if isPlain c then scanLineString quote (c :: seen) fuel rest
    else none

/-- The characters after blanks and line breaks. -/
def skipBlankLines : Nat → List Char → List Char
  | 0, cs => cs
  | fuel + 1, cs =>
    match lineBreak? (skipBlanks cs) with
    | some rest => skipBlankLines fuel rest
    | none => skipBlanks cs

/-- Scans a string over several lines, as `scanLineString` does.  Up to two quotes may stand alone
or before the three that close it; a line break reads as one character, and a backslash before it
takes away all blanks and line breaks that follow. -/
def scanBlockString (quote : Char) (seen : List Char) :
    Nat → List Char → Option (String × List Char)
  | 0, _ => none
  | _, [] => none
  | fuel + 1, c :: rest =>
    if c = quote then
      let quotes := ((c :: rest).takeWhile (· == quote)).length
      if 3 ≤ quotes then
        let inner := min quotes 5 - 3
        some (String.ofList (seen.reverse ++ List.replicate inner quote), rest.drop (inner + 2))
      else scanBlockString quote (c :: seen) fuel rest
    else if c = '\\' ∧ quote = '"' then
      match lineBreak? (skipBlanks rest) with
      | some rest => scanBlockString quote seen fuel (skipBlankLines rest.length rest)
      | none => do
        let (c, rest) ← scanEscape rest
        scanBlockString quote (c :: seen) fuel rest
    else
      match lineBreak? (c :: rest) with
      | some rest => scanBlockString quote ('\n' :: seen) fuel rest
      | none => if isPlain c then scanBlockString quote (c :: seen) fuel rest else none

/-- Scans a string value whose opening quote has been read. -/
def scanString (quote : Char) (cs : List Char) : Option (String × List Char) :=
  match cs with
  | a :: b :: rest =>
    if a = quote ∧ b = quote then
      scanBlockString quote [] (rest.length + 1) ((lineBreak? rest).getD rest)
    else scanLineString quote [] (cs.length + 1) cs
  | _ => scanLineString quote [] (cs.length + 1) cs

/-! ## Keys -/

/-- A character of a key without quotes. -/
def isKeyChar (c : Char) : Bool := c.isAlphanum || c == '_' || c == '-'

/-- Scans one key. -/
def scanKey (cs : List Char) : Option (String × List Char) :=
  match cs with
  | '"' :: rest => scanLineString '"' [] (rest.length + 1) rest
  | '\'' :: rest => scanLineString '\'' [] (rest.length + 1) rest
  | cs =>
    let name := cs.takeWhile isKeyChar
    if name.isEmpty then none else some (String.ofList name, cs.dropWhile isKeyChar)

/-- How deep keys and values may be nested. -/
def nestingLimit : Nat := 79

/-- Scans keys separated by points, with the blanks around them; at most `room` of them. -/
def scanKeys : Nat → List Char → Option (List String × List Char)
  | 0, _ => none
  | room + 1, cs => do
    let (key, rest) ← scanKey (skipBlanks cs)
    match skipBlanks rest with
    | '.' :: rest =>
      let (keys, rest) ← scanKeys room rest
      some (key :: keys, rest)
    | rest => some ([key], rest)

/-! ## Numbers, truth values and moments -/

/-- The value of a digit in base `base`. -/
def digitValue? (base : Nat) (c : Char) : Option Nat := (hexValue? c).filter (· < base)

/-- Scans further digits, each perhaps after an underscore. -/
def scanMoreDigits (base : Nat) : List Char → Option (List Nat × List Char)
  | [] => some ([], [])
  | '_' :: c :: rest => do
    let d ← digitValue? base c
    let (ds, rest) ← scanMoreDigits base rest
    some (d :: ds, rest)
  | c :: rest =>
    match digitValue? base c with
    | none => some ([], c :: rest)
    | some d => do
      let (ds, rest) ← scanMoreDigits base rest
      some (d :: ds, rest)

/-- Scans digits, between which single underscores may stand; there is at least one. -/
def scanDigits (base : Nat) : List Char → Option (List Nat × List Char)
  | [] => none
  | c :: rest => do
    let d ← digitValue? base c
    let (ds, rest) ← scanMoreDigits base rest
    some (d :: ds, rest)

/-- The number that digits spell, after `n`. -/
def digitsValue (base n : Nat) (digits : List Nat) : Nat := digits.foldl (fun n d => n * base + d) n

/-- An integer, if it fits in a word. -/
def word? (n : Int) : Option Scalar :=
  if Int64.minValue.toInt ≤ n ∧ n ≤ Int64.maxValue.toInt then some (.integer (Int64.ofInt n))
  else none

/-- Scans an integer in base `base`. -/
def scanBased (base : Nat) (cs : List Char) : Option (Scalar × List Char) := do
  let (digits, rest) ← scanDigits base cs
  let value ← word? (digitsValue base 0 digits)
  some (value, rest)

/-- Scans an exponent; nothing if there is none. -/
def scanExponent (cs : List Char) : Option (Option Int × List Char) :=
  match cs with
  | c :: rest =>
    if c = 'e' ∨ c = 'E' then
      let (negative, rest) := match rest with
        | '-' :: rest => (true, rest)
        | '+' :: rest => (false, rest)
        | rest => (false, rest)
      do
        let (digits, rest) ← scanDigits 10 rest
        let n : Int := digitsValue 10 0 digits
        some (some (if negative then -n else n), rest)
    else some (none, cs)
  | [] => some (none, [])

/-- A double, unless it is too large; a negative one may be infinite. -/
def double? (negative : Bool) (digits : Nat) (exponent : Int) : Option Scalar :=
  match Binary64.ofDecimal negative digits exponent with
  | .infinite false => none
  | x => some (.decimal x)

/-- Scans a decimal number whose sign has been read; its whole part has no leading zeros. -/
def scanDecimal (negative : Bool) (cs : List Char) : Option (Scalar × List Char) := do
  let (whole, rest) ← match cs with
    | '0' :: rest => some ([0], rest)
    | cs => scanDigits 10 cs
  match rest with
  | '.' :: rest =>
    let (fraction, rest) ← scanDigits 10 rest
    let (exponent, rest) ← scanExponent rest
    let value ← double? negative (digitsValue 10 0 (whole ++ fraction))
      (exponent.getD 0 - fraction.length)
    some (value, rest)
  | rest =>
    let n := digitsValue 10 0 whole
    match ← scanExponent rest with
    | (some exponent, rest) =>
      let value ← double? negative n exponent
      some (value, rest)
    | (none, rest) =>
      let value ← word? (if negative then -(n : Int) else n)
      some (value, rest)

/-- Scans the letters of `word`. -/
def scanWord (value : Scalar) (word : String) (cs : List Char) : Option (Scalar × List Char) :=
  if word.toList.isPrefixOf cs then some (value, cs.drop word.length) else none

/-- Scans a number that may have a sign. -/
def scanSigned (negative : Bool) (cs : List Char) : Option (Scalar × List Char) :=
  match cs with
  | 'i' :: _ => scanWord (.decimal (.infinite negative)) "inf" cs
  | 'n' :: _ => scanWord (.decimal .nan) "nan" cs
  | cs => scanDecimal negative cs

/-- Scans a number, a truth value or a moment. -/
def scanScalar (cs : List Char) : Option (Scalar × List Char) :=
  match cs with
  | 't' :: _ => scanWord (.bool true) "true" cs
  | 'f' :: _ => scanWord (.bool false) "false" cs
  | '+' :: rest => scanSigned false rest
  | '-' :: rest => scanSigned true rest
  | '0' :: 'x' :: rest => scanBased 16 rest
  | '0' :: 'o' :: rest => scanBased 8 rest
  | '0' :: 'b' :: rest => scanBased 2 rest
  | cs =>
    match scanMoment cs with
    | some (moment, rest) => some (.text moment.text, rest)
    | none => scanSigned false cs

example : scanScalar "1979-05-27 07:32:00.500000000000-08:00, 1".toList =
    some (.text "1979-05-27T07:32:00.5-08:00", ", 1".toList) := by decide +kernel
example : scanScalar "2024-02-29 # leap".toList =
    some (.text "2024-02-29", " # leap".toList) := by decide +kernel
example : scanScalar "07:32:00\n".toList = some (.text "07:32:00", ['\n']) := by decide +kernel

end CatalogFeed.Toml
