import CatalogFeed.Json.Basic

/-!
# Json/Reader — from characters to documents

`read` turns a text into its first value and the characters after it.  It never fails: where the
grammar is broken the tree says so.  After a comma something is always begun, so a comma before a
closing bracket leaves a `broken` item.
-/

namespace CatalogFeed.Json

/-- The four blanks of the format. -/
def isSpace (c : Char) : Bool := c == ' ' || c == '\n' || c == '\t' || c == '\r'

/-- The characters from the first that is no blank. -/
def skipSpace (cs : List Char) : List Char := cs.dropWhile isSpace

/-- Whether a character is a decimal digit. -/
def isDigit (c : Char) : Bool := '0' ≤ c && c ≤ '9'

/-- The value of a decimal digit. -/
def digitValue (c : Char) : Nat := c.toNat - '0'.toNat

/-- The number that decimal digits spell, after `n`. -/
def digitsValue (n : Nat) (cs : List Char) : Nat := cs.foldl (fun n c => n * 10 + digitValue c) n

/-- The value of a hexadecimal digit. -/
def hexValue? (c : Char) : Option Nat :=
  if '0' ≤ c ∧ c ≤ '9' then some (c.toNat - '0'.toNat)
  else if 'a' ≤ c ∧ c ≤ 'f' then some (c.toNat - 'a'.toNat + 10)
  else if 'A' ≤ c ∧ c ≤ 'F' then some (c.toNat - 'A'.toNat + 10)
  else none

/-- The code unit that four hexadecimal digits spell. -/
def codeUnit? (a b c d : Char) : Option Nat :=
  match hexValue? a, hexValue? b, hexValue? c, hexValue? d with
  | some a, some b, some c, some d => some (((a * 16 + b) * 16 + c) * 16 + d)
  | _, _, _, _ => none

/-- What a one-letter escape stands for. -/
def escaped? (c : Char) : Option Char :=
  match c with
  | '"' => some '"'
  | '\\' => some '\\'
  | '/' => some '/'
  | 'b' => some '\x08'
  | 'f' => some '\x0c'
  | 'n' => some '\n'
  | 'r' => some '\r'
  | 't' => some '\t'
  | _ => none

/-! ## Strings -/

/-- A scanned string: closed with its value and the rest, or broken off. -/
inductive Scanned where
  | closed (value : Option String) (rest : List Char)
  | stopped (flaw : Flaw)

/-- How far the characters of a string make sense. -/
inductive Sense where
  /-- All escapes so far make characters. -/
  | sound
  /-- The first half of a pair of escapes has just been read. -/
  | half (unit : Nat)
  /-- Some escape makes no character. -/
  | spoiled

/-- A fault of grammar in a string, given the sense so far: a spoiled string is at fault already. -/
def Sense.flaw (sense : Sense) (cause : Cause) : Flaw :=
  match sense with
  | .spoiled => ⟨.malformed, cause⟩
  | _ => ⟨cause, cause⟩

/-- The sense after something other than the second half of a pair. -/
def Sense.afterOther : Sense → Sense
  | .sound => .sound
  | _ => .spoiled

/-- The sense after the code unit `unit`, and the character that it completes. -/
def Sense.afterUnit (sense : Sense) (unit : Nat) : Sense × List Char :=
  match sense with
  | .spoiled => (.spoiled, [])
  | .half high =>
    if 0xDC00 ≤ unit ∧ unit ≤ 0xDFFF then
      (.sound, [Char.ofNat ((high - 0xD800) * 0x400 + (unit - 0xDC00) + 0x10000)])
    else (.spoiled, [])
  | .sound =>
    if 0xDC00 ≤ unit ∧ unit ≤ 0xDFFF then (.spoiled, [])
    else if 0xD800 ≤ unit ∧ unit ≤ 0xDBFF then (.half unit, [])
    else (.sound, [Char.ofNat unit])

/-- The number of bytes of a text. -/
def byteCount (cs : List Char) : Nat := cs.foldl (fun n c => n + c.utf8Size) 0

/-- Scans the string whose opening quote has been read; `seen` holds its characters so far, last
first. -/
def scanString (sense : Sense) (seen : List Char) : List Char → Scanned
  | [] => .stopped (sense.flaw .cutShort)
  | '"' :: rest =>
    match sense with
    | .sound => .closed (some (String.ofList seen.reverse)) rest
    | _ => .closed none rest
  | '\\' :: rest =>
    match rest with
    | [] => .stopped (sense.flaw .cutShort)
    | 'u' :: a :: b :: c :: d :: rest =>
      match codeUnit? a b c d with
      | none => .stopped (.of .malformed)
      | some unit =>
        let (sense, made) := sense.afterUnit unit
        scanString sense (made ++ seen) rest
    | 'u' :: short =>
      .stopped (if byteCount short < 4 then sense.flaw .cutShort else .of .malformed)
    | c :: rest =>
      match escaped? c with
      | none => .stopped (.of .malformed)
      | some c => scanString sense.afterOther (c :: seen) rest
  | c :: rest =>
    if c.toNat < 0x20 then .stopped (.of .malformed)
    else scanString sense.afterOther (c :: seen) rest

/-! ## Numbers -/

/-- The fault of a number that lacks a digit before `rest`. -/
def digitFlaw (rest : List Char) : Flaw :=
  if rest.isEmpty then ⟨.cutShort, .malformed⟩ else .of .malformed

/-- Scans an optional exponent part. -/
def scanExponent (cs : List Char) : Except Flaw (Option Exponent × List Char) :=
  match cs with
  | c :: rest =>
    if c = 'e' ∨ c = 'E' then
      let (negative, rest) :=
        match rest with
        | '+' :: rest => (false, rest)
        | '-' :: rest => (true, rest)
        | rest => (false, rest)
      let digits := rest.takeWhile isDigit
      let rest := rest.dropWhile isDigit
      if digits.isEmpty then .error (digitFlaw rest)
      else .ok (some ⟨negative, digitsValue 0 digits⟩, rest)
    else .ok (none, cs)
  | [] => .ok (none, [])

/-- Scans an optional fraction part. -/
def scanFraction (cs : List Char) : Except Flaw (Option (List Nat) × List Char) :=
  match cs with
  | '.' :: rest =>
    let digits := rest.takeWhile isDigit
    let rest := rest.dropWhile isDigit
    if digits.isEmpty then .error (digitFlaw rest) else .ok (some (digits.map digitValue), rest)
  | cs => .ok (none, cs)

/-- Scans a whole part: a zero alone, or digits that do not start with zero. -/
def scanWhole (cs : List Char) : Except Flaw (Nat × List Char) :=
  match cs with
  | [] => .error (digitFlaw [])
  | '0' :: rest =>
    match rest with
    | d :: _ => if isDigit d then .error (.of .malformed) else .ok (0, rest)
    | [] => .ok (0, rest)
  | c :: _ =>
    if isDigit c then .ok (digitsValue 0 (cs.takeWhile isDigit), cs.dropWhile isDigit)
    else .error (.of .malformed)

/-- Scans a number whose sign has been read. -/
def scanNumber (negative : Bool) (cs : List Char) : Json × List Char :=
  let scanned : Except Flaw (Numeral × List Char) := do
    let (whole, cs) ← scanWhole cs
    let (fraction, cs) ← scanFraction cs
    let (exponent, cs) ← scanExponent cs
    .ok (⟨negative, whole, fraction, exponent⟩, cs)
  match scanned with
  | .ok (n, rest) => (.number n, rest)
  | .error flaw => (.broken flaw, [])

/-! ## Words -/

/-- Scans the letters `word`, which spell `value`. -/
def scanWord (value : Json) : List Char → List Char → Json × List Char
  | [], rest => (value, rest)
  | _ :: _, [] => (.broken (.of .cutShort), [])
  | w :: word, c :: rest =>
    if c = w then scanWord value word rest else (.broken (.of .malformed), [])

/-! ## Values -/

mutual

/-- Reads a value after blanks; `fuel` bounds the nesting and the number of items. -/
def readValue : Nat → List Char → Json × List Char
  | 0, _ => (.broken (.of .malformed), [])
  | fuel + 1, cs =>
    match skipSpace cs with
    | [] => (.broken (.of .cutShort), [])
    | c :: rest =>
      if c = 'n' then scanWord .null ['u', 'l', 'l'] rest
      else if c = 't' then scanWord (.bool true) ['r', 'u', 'e'] rest
      else if c = 'f' then scanWord (.bool false) ['a', 'l', 's', 'e'] rest
      else if c = '-' then scanNumber true rest
      else if isDigit c then scanNumber false (c :: rest)
      else if c = '"' then
        match scanString .sound [] rest with
        | .closed value rest => (.string value, rest)
        | .stopped flaw => (.broken flaw, [])
      else if c = '[' then
        match skipSpace rest with
        | [] => (.array [] (some (.of .cutShort)), [])
        | ']' :: rest => (.array [] none, rest)
        | rest =>
          let (items, cut, rest) := readItems fuel rest
          (.array items cut, rest)
      else if c = '\x7b' then
        match skipSpace rest with
        | [] => (.object [] (some (.of .cutShort)), [])
        | '\x7d' :: rest => (.object [] none, rest)
        | '"' :: rest =>
          let (members, cut, rest) := readMembers fuel rest
          (.object members cut, rest)
        | _ => (.object [] (some (.of .malformed)), [])
      else (.broken (.of .malformed), [])

/-- Reads an item and the items after it. -/
def readItems : Nat → List Char → List Json × Option Flaw × List Char
  | 0, _ => ([], some (.of .malformed), [])
  | fuel + 1, cs =>
    let (item, rest) := readValue fuel cs
    match item.flaw? with
    | some flaw => ([item], some flaw, [])
    | none =>
      match skipSpace rest with
      | [] => ([item], some (.of .cutShort), [])
      | ']' :: rest => ([item], none, rest)
      | ',' :: rest =>
        let (items, cut, rest) := readItems fuel rest
        (item :: items, cut, rest)
      | _ => ([item], some (.of .malformed), [])

/-- Reads a member, whose opening quote has been read, and the members after it. -/
def readMembers : Nat → List Char → List (Option String × Json) × Option Flaw × List Char
  | 0, _ => ([], some (.of .malformed), [])
  | fuel + 1, cs =>
    match scanString .sound [] cs with
    | .stopped flaw => ([], some flaw, [])
    | .closed key rest =>
      let (value, rest) : Json × List Char :=
        match skipSpace rest with
        | [] => (.broken (.of .cutShort), [])
        | ':' :: rest => readValue fuel rest
        | _ => (.broken (.of .malformed), [])
      match value.flaw? with
      | some flaw => ([(key, value)], some flaw, [])
      | none =>
        match skipSpace rest with
        | [] => ([(key, value)], some (.of .cutShort), [])
        | '\x7d' :: rest => ([(key, value)], none, rest)
        | ',' :: rest =>
          match skipSpace rest with
          | [] => ([(key, value)], some (.of .cutShort), [])
          | '"' :: rest =>
            let (members, cut, rest) := readMembers fuel rest
            ((key, value) :: members, cut, rest)
          | _ => ([(key, value)], some (.of .malformed), [])
        | _ => ([(key, value)], some (.of .malformed), [])

end

/-- A text as a document: its value, and whether only blanks follow. -/
structure Document where
  value : Json
  ends : Bool

/-- Reads a text. -/
def read (text : String) : Document :=
  let cs := text.toList
  let (value, rest) := readValue (2 * cs.length + 2) cs
  ⟨value, (skipSpace rest).isEmpty⟩

end CatalogFeed.Json
