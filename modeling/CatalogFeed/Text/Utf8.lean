/-!
# Text/Utf8 — bytes as text

`decode` reads bytes as UTF-8.  Bytes that are no text are refused with a `Flaw`: where the text
before them ends, and how many bytes are lost there.

* `decode_toUTF8`: every text is read back from its bytes.
-/

namespace CatalogFeed.Text

/-- The first place where bytes stop being text. -/
structure Flaw where
  /-- The number of bytes before it that are text. -/
  index : Nat
  /-- The number of bytes that the flaw takes up: one that starts no character, or the part of a
  character that the next byte does not go on with.  Nothing if the bytes end within a character. -/
  length : Option Nat
  deriving DecidableEq, Repr

/-- Bytes from `low` to `high`. -/
structure ByteRange where
  low : UInt8
  high : UInt8
  deriving DecidableEq, Repr

namespace ByteRange

/-- Whether a byte lies in the range. -/
def contains (r : ByteRange) (b : UInt8) : Bool := r.low ≤ b && b ≤ r.high

/-- The bytes that go on with a character. -/
def tail : ByteRange := ⟨0x80, 0xBF⟩

end ByteRange

/-- What must follow the first byte of a character; nothing for a byte that starts none.  The second
byte is narrower than `tail` where a shorter form, a surrogate or a number beyond the last code
point would be written. -/
def following? (b : UInt8) : Option (List ByteRange) :=
  if b ≤ 0x7F then some []
  else if b < 0xC2 then none
  else if b ≤ 0xDF then some [.tail]
  else if b = 0xE0 then some [⟨0xA0, 0xBF⟩, .tail]
  else if b = 0xED then some [⟨0x80, 0x9F⟩, .tail]
  else if b ≤ 0xEF then some [.tail, .tail]
  else if b = 0xF0 then some [⟨0x90, 0xBF⟩, .tail, .tail]
  else if b ≤ 0xF3 then some [.tail, .tail, .tail]
  else if b = 0xF4 then some [⟨0x80, 0x8F⟩, .tail, .tail]
  else none

/-- The first flaw of the bytes after a part of a character, which starts at `start`, has `read`
bytes and still lacks bytes of the given ranges. -/
def flawAfter (start read : Nat) : List ByteRange → List UInt8 → Flaw
  | [], [] => ⟨start + read, none⟩
  | _ :: _, [] => ⟨start, none⟩
  | [], b :: rest =>
    match following? b with
    | none => ⟨start + read, some 1⟩
    | some ranges => flawAfter (start + read) 1 ranges rest
  | r :: ranges, b :: rest =>
    if r.contains b then flawAfter start (read + 1) ranges rest else ⟨start, some read⟩

/-- The first flaw of bytes, which is at their end if they are text. -/
def firstFlaw (bytes : List UInt8) : Flaw := flawAfter 0 0 [] bytes

example : firstFlaw [0x61, 0xFF] = ⟨1, some 1⟩ := by decide
example : firstFlaw [0xED, 0xA0, 0x80] = ⟨0, some 1⟩ := by decide
example : firstFlaw [0xF0, 0x9F, 0x98, 0x61] = ⟨0, some 3⟩ := by decide
example : firstFlaw [0x61, 0xF0, 0x9F, 0x98] = ⟨1, none⟩ := by decide

/-- The text that bytes write. -/
def decode (bytes : List UInt8) : Except Flaw String :=
  match String.fromUTF8? ⟨bytes.toArray⟩ with
  | some text => .ok text
  | none => .error (firstFlaw bytes)

theorem decode_toUTF8 (text : String) : decode text.toUTF8.data.toList = .ok text := by
  have h : String.fromUTF8? text.toByteArray = some text := by
    rw [String.fromUTF8?, dif_pos text.isValidUTF8]
    rfl
  simp [decode, h]

end CatalogFeed.Text
