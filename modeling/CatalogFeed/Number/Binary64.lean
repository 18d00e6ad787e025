/-!
# Number/Binary64 — double-precision numbers in exact arithmetic

A `Binary64` is a double as a mantissa and a power of two.  Every operation computes the exact
quotient and rounds it once, to the nearest double and to the even one of two; nothing here uses the
machine's floating point.

* `ofRatio` rounds a quotient of natural numbers;
* `shortest` finds the fewest decimal digits that round back, with a `Tie` for the halves;
* `positional` and `scientific` write those digits out.
-/

namespace CatalogFeed

/-- A double: `± mantissa · 2 ^ exponent`, an infinity, or not a number. -/
inductive Binary64 where
  | finite (negative : Bool) (mantissa : Nat) (exponent : Int)
  | infinite (negative : Bool)
  | nan
  deriving DecidableEq, Repr

/-- The natural number nearest to `num / den`, the even one of two. -/
def roundHalfEven (num den : Nat) : Nat :=
  let q := num / den
  let r := num % den
  if 2 * r < den ∨ (2 * r = den ∧ q % 2 = 0) then q else q + 1

/-- The natural number nearest to `num / den`, the larger one of two. -/
def roundHalfUp (num den : Nat) : Nat := (2 * num + den) / (2 * den)

namespace Binary64

/-- The least exponent of a double. -/
def minExponent : Int := -1074

/-- The greatest exponent of a double. -/
def maxExponent : Int := 971

/-- `2 ^ e` for `e ≥ 0`, else `1`. -/
def pow2 (e : Int) : Nat := Nat.pow 2 e.toNat

/-- `10 ^ e` for `e ≥ 0`, else `1`. -/
def pow10 (e : Int) : Nat := Nat.pow 10 e.toNat

/-- `2 ^ 52`, the least mantissa of a double that is not among the smallest ones. -/
def leastNormal : Nat := 4503599627370496

/-- The greatest `k` with `2 ^ k ≤ num / den`. -/
def floorLog2 (num den : Nat) : Int :=
  let k : Int := (Nat.log2 num : Int) - (Nat.log2 den : Int)
  if num * pow2 (-k) < den * pow2 k then k - 1 else k

/-- The double nearest to `± num / den`. -/
def ofRatio (negative : Bool) (num den : Nat) : Binary64 :=
  if num = 0 then .finite negative 0 minExponent
  else
    let q := max (floorLog2 num den - 52) minExponent
    let n := roundHalfEven (num * pow2 (-q)) (den * pow2 q)
    let (n, q) := if n = 2 * leastNormal then (leastNormal, q + 1) else (n, q)
    if maxExponent < q then .infinite negative else .finite negative n q

/-- The double nearest to a natural number. -/
def ofNat (n : Nat) : Binary64 := ofRatio false n 1

/-- The double nearest to `± digits · 10 ^ exponent`.  From `10 ^ 400` on every number is infinite,
and below `10 ^ -400` it is zero. -/
def ofDecimal (negative : Bool) (digits : Nat) (exponent : Int) : Binary64 :=
  let top := exponent + (Nat.toDigits 10 digits).length
  if digits = 0 ∨ top < -400 then .finite negative 0 minExponent
  else if 400 < top then .infinite negative
  else ofRatio negative (digits * pow10 exponent) (pow10 (-exponent))

/-- The magnitude of a finite double as a quotient. -/
def ratio (mantissa : Nat) (exponent : Int) : Nat × Nat :=
  (mantissa * pow2 exponent, pow2 (-exponent))

/-- The product of two magnitudes, rounded. -/
def mul : Binary64 → Binary64 → Binary64
  | .finite s m e, .finite t n f =>
    let (a, b) := ratio m e
    let (c, d) := ratio n f
    ofRatio (s != t) (a * c) (b * d)
  | _, _ => .nan

/-- The quotient of two magnitudes, rounded; the divisor is not zero. -/
def div : Binary64 → Binary64 → Binary64
  | .finite s m e, .finite t n f =>
    let (a, b) := ratio m e
    let (c, d) := ratio n f
    ofRatio (s != t) (a * d) (b * c)
  | _, _ => .nan

/-- The sum of two non-negative doubles, rounded. -/
def addMagnitudes : Binary64 → Binary64 → Binary64
  | .finite _ m e, .finite _ n f =>
    let (a, b) := ratio m e
    let (c, d) := ratio n f
    ofRatio false (a * d + c * b) (b * d)
  | _, _ => .nan

/-- Whether the magnitude is zero. -/
def isZero : Binary64 → Bool
  | .finite _ m _ => m == 0
  | _ => false

/-- The double with the sign `negative`. -/
def withSign (negative : Bool) : Binary64 → Binary64
  | .finite _ m e => .finite negative m e
  | .infinite _ => .infinite negative
  | .nan => .nan

/-- Rounds to the nearest integer, halves away from zero, and clamps to the range. -/
def toIntClamped (least greatest : Int) : Binary64 → Int
  | .finite negative m e =>
    let (a, b) := ratio m e
    let n : Int := roundHalfUp a b
    max least (min greatest (if negative then -n else n))
  | .infinite negative => if negative then least else greatest
  | .nan => 0

/-! ## Shortest decimal digits -/

/-- Which of two neighbours on a decimal grid stands for a number half-way between them. -/
inductive Tie where
  /-- The one whose last digit is even. -/
  | even
  /-- The one that is farther from zero. -/
  | up
  deriving DecidableEq, Repr

/-- Whether `below`, of the neighbours `below` and `below + 1`, stands for a number half-way. -/
def Tie.staysBelow (below : Nat) : Tie → Bool
  | .even => below % 2 == 0
  | .up => false

/-- The least `p` from `start` up, in `fuel` steps, with `num < 10 ^ (p + 1) · den`. -/
def floorLog10From (num den : Nat) : Nat → Int → Int
  | 0, p => p
  | fuel + 1, p =>
    if num * pow10 (-(p + 1)) < den * pow10 (p + 1) then p
    else floorLog10From num den fuel (p + 1)

/-- The greatest `p` with `10 ^ p ≤ num / den`, for a double's magnitude. -/
def floorLog10 (num den : Nat) : Int := floorLog10From num den 640 (-325)

/-- The multiple of `10 ^ grid` nearest to `v = num / den` that lies between `low` and `high` (all
over the denominator `den`; the ends count if `closed`). -/
def gridPoint? (tie : Tie) (num low high den : Nat) (closed : Bool) (grid : Int) : Option Nat :=
  let unitNum := den * pow10 grid
  let scale := pow10 (-grid)
  let below := num * scale / unitNum
  let inside (c : Nat) : Bool :=
    if closed then low * scale ≤ c * unitNum && c * unitNum ≤ high * scale
    else low * scale < c * unitNum && c * unitNum < high * scale
  let down := num * scale - below * unitNum
  let up := (below + 1) * unitNum - num * scale
  let nearer := if down < up ∨ (down = up ∧ tie.staysBelow below) then below else below + 1
  let other := if nearer = below then below + 1 else below
  if inside nearer then some nearer else if inside other then some other else none

/-- Drops the trailing zeros of a digit string, in `fuel` steps. -/
def stripZeros : Nat → Nat → Int → Nat × Int
  | 0, digits, k => (digits, k)
  | fuel + 1, digits, k =>
    if digits ≠ 0 ∧ digits % 10 = 0 then stripZeros fuel (digits / 10) (k + 1) else (digits, k)

/-- Tries digit strings of growing length. -/
def shortestFrom (tie : Tie) (num low high den : Nat) (closed : Bool) (p : Int) :
    Nat → Nat → Nat × Int
  | 0, _ => (0, 0)
  | fuel + 1, length =>
    let grid := p - (length : Int) + 1
    match gridPoint? tie num low high den closed grid with
    | some c => stripZeros 20 c grid
    | none => shortestFrom tie num low high den closed p fuel (length + 1)

/-- The fewest digits `d`, with a power of ten `k`, such that `d · 10 ^ k` rounds to the magnitude;
of those the nearest to it, and of two as near the one that `tie` says. -/
def shortest (tie : Tie) (mantissa : Nat) (exponent : Int) : Nat × Int :=
  if mantissa = 0 then (0, 0)
  else
    let (num, den) := ratio (4 * mantissa) (exponent - 2)
    let step := pow2 (exponent - 2)
    let below := if mantissa = leastNormal ∧ minExponent < exponent then 1 else 2
    shortestFrom tie num (num - below * step) (num + 2 * step) den (mantissa % 2 == 0)
      (floorLog10 num den) 20 1

/-! ## Texts -/

/-- The digits of a natural number. -/
def digitText (n : Nat) : String := String.ofList (Nat.toDigits 10 n)

/-- A text of `n` zeros. -/
def zeros (n : Nat) : String := String.ofList (List.replicate n '0')

/-- `digits · 10 ^ k` without an exponent. -/
def positionalText (digits : Nat) (k : Int) : String :=
  let text := digitText digits
  if 0 ≤ k then text ++ zeros k.toNat
  else
    let places := (-k).toNat
    let padded := zeros (places + 1 - text.length) ++ text
    let whole := padded.length - places
    String.ofList (padded.toList.take whole) ++ "." ++ String.ofList (padded.toList.drop whole)

/-- The text `whole`, with `.0` if it has no point. -/
def withPoint (whole : String) : String :=
  if whole.toList.contains '.' then whole else whole ++ ".0"

/-- A sign before a text. -/
def signed (negative : Bool) (text : String) : String := if negative then "-" ++ text else text

/-- The shortest digits, never with an exponent; a half goes away from zero. -/
def positional : Binary64 → String
  | .finite negative m e => let (d, k) := shortest .up m e; signed negative (positionalText d k)
  | .infinite negative => signed negative "inf"
  | .nan => "NaN"

/-- The shortest digits, never with an exponent and always with a point; a half goes away from
zero. -/
def positionalWithPoint : Binary64 → String
  | .finite negative m e =>
    let (d, k) := shortest .up m e
    signed negative (withPoint (positionalText d k))
  | x => x.positional

/-- The shortest digits with a point; below `10 ^ -5` and from `10 ^ 16` on with an exponent, whose
sign is always written.  A half goes to the even digit. -/
def scientific : Binary64 → String
  | .finite negative m e =>
    let (d, k) := shortest .even m e
    let text := digitText d
    let power : Int := k + text.length - 1
    if d = 0 ∨ (-5 ≤ power ∧ power ≤ 15) then signed negative (withPoint (positionalText d k))
    else
      let tail := text.toList.drop 1
      let front := String.ofList (text.toList.take 1) ++
        (if tail.isEmpty then "" else "." ++ String.ofList tail)
      let sign := if power < 0 then "-" else "+"
      signed negative (front ++ "e" ++ sign ++ digitText power.natAbs)
  | x => x.positional

end Binary64
end CatalogFeed
