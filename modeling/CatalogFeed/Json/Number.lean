import CatalogFeed.Json.Basic

/-!
# Json/Number — what a numeral means

A numeral without point and exponent is an integer if it fits in 64 bits, signed or unsigned; `-0`
and every other numeral is a double.  The double is reached in one pass over the digits: as many
leading digits as fit in 64 bits, scaled by one rounded multiplication or division with a power of
ten.  A numeral whose double would be infinite has no value.
-/

namespace CatalogFeed.Json

/-- The value of a numeral. -/
inductive Number where
  /-- An integer from `0` to `2 ^ 64 - 1`. -/
  | natural (n : Nat)
  /-- An integer from `- 2 ^ 63` to `-1`. -/
  | negative (n : Int)
  | double (x : Binary64)
  deriving DecidableEq, Repr

/-- One more than the greatest 64-bit word. -/
def wordLimit : Nat := UInt64.size

/-- The longest leading part of `n` that fits in a word, with the number of digits left off. -/
def leadingWord : Nat → Nat → Nat → Nat × Nat
  | 0, n, dropped => (n, dropped)
  | fuel + 1, n, dropped =>
    if n < wordLimit then (n, dropped) else leadingWord fuel (n / 10) (dropped + 1)

/-- Appends digits to `significand` while the word does not overflow, counting them. -/
def appendDigits (significand : Nat) (count : Nat) : List Nat → Nat × Nat
  | [] => (significand, count)
  | d :: rest =>
    if significand * 10 + d < wordLimit then appendDigits (significand * 10 + d) (count + 1) rest
    else (significand, count)

/-- `10 ^ k` as a double, for `k ≤ 308`. -/
def powerOfTen (k : Nat) : Binary64 := .ofNat (Binary64.pow10 k)

/-- `x · 10 ^ exponent`, in steps of at most `10 ^ 308`; nothing if it is too large.  A number below
`2 ^ 64` is zero after three divisions by `10 ^ 308`. -/
def scaleByTen : Nat → Binary64 → Int → Option Binary64
  | 0, x, _ => some x
  | fuel + 1, x, exponent =>
    if exponent.natAbs ≤ 308 then
      if 0 ≤ exponent then
        match x.mul (powerOfTen exponent.natAbs) with
        | .infinite _ => none
        | y => some y
      else some (x.div (powerOfTen exponent.natAbs))
    else if x.isZero then some x
    else if 0 ≤ exponent then none
    else scaleByTen fuel (x.div (powerOfTen 308)) (exponent + 308)

/-- The greatest exponent that is taken as a number; beyond it only its sign matters. -/
def exponentLimit : Nat := 2147483647

namespace Numeral

/-- Whether a numeral has neither point nor exponent. -/
def isWhole (n : Numeral) : Bool := n.fraction.isNone && n.exponent.isNone

/-- The double that a numeral stands for, without its sign. -/
def magnitude? (n : Numeral) : Option Binary64 :=
  let (lead, dropped) := leadingWord n.whole n.whole 0
  let (significand, places) := appendDigits lead 0 (n.fraction.getD [])
  let shift : Int := (dropped : Int) - places
  match n.exponent with
  | none => scaleByTen 5 (.ofNat significand) shift
  | some e =>
    if exponentLimit < e.magnitude then
      if significand ≠ 0 ∧ !e.negative then none else some (.ofNat 0)
    else scaleByTen 5 (.ofNat significand)
      (if e.negative then shift - e.magnitude else shift + e.magnitude)

/-- The value of a numeral; none if it is too large for a double. -/
def value? (n : Numeral) : Option Number :=
  if n.isWhole && !n.negative && decide (n.whole < wordLimit) then some (.natural n.whole)
  else if n.isWhole && n.negative && decide (0 < n.whole) && decide (n.whole ≤ wordLimit / 2) then
    some (.negative (-(n.whole : Int)))
  else n.magnitude?.map fun x => .double (x.withSign n.negative)

end Numeral
end CatalogFeed.Json
