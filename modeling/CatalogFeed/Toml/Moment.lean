import CatalogFeed.Settings.Basic
import CatalogFeed.Text.Stamp

/-!
# Toml/Moment — dates and times

A `Moment` is a day, a time of day, or both, and then perhaps with its distance from universal time.
A TOML text has moments as words of their own.  It may also have one as a table whose first key is
`momentKey` and whose first value is the text of the moment; the other entries of such a table mean
nothing.

* `scanMoment` reads a moment and `Moment.text` writes it in its normal form;
* `withMoments` puts that form in place of the tables that stand for moments.
-/

namespace CatalogFeed.Toml

open Text (Day padded)

/-- A time of day. -/
structure Clock where
  hour : Nat
  minute : Nat
  second : Nat
  nanosecond : Nat := 0
  deriving DecidableEq, Repr

/-- How far a clock is ahead of universal time. -/
inductive Offset where
  /-- Universal time itself, written with a letter. -/
  | zero
  | minutes (ahead : Int)
  deriving DecidableEq, Repr

/-- A day, a time of day, or both. -/
inductive Moment where
  | date (day : Day)
  | time (clock : Clock)
  | dateTime (day : Day) (clock : Clock) (offset : Option Offset)
  deriving DecidableEq, Repr

/-! ## Reading -/

/-- Scans a number of exactly `width` digits. -/
def scanField (width : Nat) (cs : List Char) : Option (Nat × List Char) :=
  let digits := cs.take width
  if digits.length = width ∧ digits.all Char.isDigit then
    some (Nat.ofDigitChars 10 digits 0, cs.drop width)
  else none

/-- The characters after a mark, if they start with it. -/
def scanMark (mark : Char) : List Char → Option (List Char)
  | c :: rest => if c = mark then some rest else none
  | [] => none

/-- Whether a year has a leap day. -/
def isLeapYear (year : Nat) : Bool := year % 4 == 0 && (year % 100 != 0 || year % 400 == 0)

/-- The number of days in a month. -/
def monthLength (year month : Nat) : Nat :=
  if month = 2 then if isLeapYear year then 29 else 28
  else if [4, 6, 9, 11].contains month then 30
  else 31

/-- Scans a day of the calendar. -/
def scanDay (cs : List Char) : Option (Day × List Char) := do
  let (year, rest) ← scanField 4 cs
  let rest ← scanMark '-' rest
  let (month, rest) ← scanField 2 rest
  let rest ← scanMark '-' rest
  let (day, rest) ← scanField 2 rest
  if 1 ≤ month ∧ month ≤ 12 ∧ 1 ≤ day ∧ day ≤ monthLength year month then
    some (⟨year, month, day⟩, rest)
  else none

/-- Scans the nanoseconds after a point; digits after the ninth are passed over. -/
def scanFraction (cs : List Char) : Option (Nat × List Char) :=
  match cs with
  | '.' :: rest =>
    let digits := rest.takeWhile Char.isDigit
    if digits.isEmpty then none
    else
      let nine := (digits ++ List.replicate 9 '0').take 9
      some (Nat.ofDigitChars 10 nine 0, rest.dropWhile Char.isDigit)
  | cs => some (0, cs)

/-- Scans a time of day.  Every minute may have a leap second. -/
def scanClock (cs : List Char) : Option (Clock × List Char) := do
  let (hour, rest) ← scanField 2 cs
  let rest ← scanMark ':' rest
  let (minute, rest) ← scanField 2 rest
  let rest ← scanMark ':' rest
  let (second, rest) ← scanField 2 rest
  let (nanosecond, rest) ← scanFraction rest
  if hour ≤ 23 ∧ minute ≤ 59 ∧ second ≤ 60 then some (⟨hour, minute, second, nanosecond⟩, rest)
  else none

/-- Scans an offset, if there is one; it is less than a day. -/
def scanOffset (cs : List Char) : Option (Option Offset × List Char) :=
  match cs with
  | 'Z' :: rest | 'z' :: rest => some (some .zero, rest)
  | sign :: rest =>
    if sign = '+' ∨ sign = '-' then do
      let (hours, rest) ← scanField 2 rest
      let rest ← scanMark ':' rest
      let (minutes, rest) ← scanField 2 rest
      let total := hours * 60 + minutes
      if hours ≤ 23 ∧ minutes ≤ 59 then
        some (some (.minutes (if sign = '-' then -total else total)), rest)
      else none
    else some (none, cs)
  | [] => some (none, [])

/-- Scans a moment.  Day and time stand on both sides of a `T`, large or small, or of a blank, and
only such a moment has an offset. -/
def scanMoment (cs : List Char) : Option (Moment × List Char) :=
  if cs[2]? = some ':' then do
    let (clock, rest) ← scanClock cs
    some (.time clock, rest)
  else do
    let (day, rest) ← scanDay cs
    match rest with
    | mark :: digit :: more =>
      if ['T', 't', ' '].contains mark ∧ digit.isDigit then
        let (clock, rest) ← scanClock (digit :: more)
        let (offset, rest) ← scanOffset rest
        some (.dateTime day clock offset, rest)
      else some (.date day, rest)
    | rest => some (.date day, rest)

namespace Moment

/-- Reads a moment. -/
def read? (text : String) : Option Moment := do
  let (moment, rest) ← scanMoment text.toList
  if rest.isEmpty then some moment else none

/-! ## Writing -/

/-- The text of a day. -/
def dayText (d : Day) : String :=
  padded 4 d.year ++ "-" ++ padded 2 d.month ++ "-" ++ padded 2 d.day

/-- The text of a time of day, with a fraction only if there is one. -/
def clockText (c : Clock) : String :=
  let fraction := (padded 9 c.nanosecond).toList.reverse.dropWhile (· == '0')
  padded 2 c.hour ++ ":" ++ padded 2 c.minute ++ ":" ++ padded 2 c.second ++
    (if c.nanosecond = 0 then "" else "." ++ String.ofList fraction.reverse)

/-- The text of an offset. -/
def offsetText : Offset → String
  | .zero => "Z"
  | .minutes ahead =>
    (if ahead < 0 then "-" else "+") ++ padded 2 (ahead.natAbs / 60) ++ ":" ++
      padded 2 (ahead.natAbs % 60)

/-- The normal form of a moment. -/
def text : Moment → String
  | .date d => dayText d
  | .time c => clockText c
  | .dateTime d c offset => dayText d ++ "T" ++ clockText c ++ (offset.map offsetText).getD ""

end Moment

/-! ## Tables that stand for moments -/

/-- The first key of a table that stands for a moment. -/
def momentKey : String := "$__toml_private_datetime"

/-- The value under the first key, if that is `momentKey`. -/
def momentValue? : List (String × Setting) → Option Setting
  | (key, value) :: _ => if key = momentKey then some value else none
  | [] => none

/-- The normal form of the moment that a text spells. -/
def normalMoment? : Setting → Option Setting
  | .scalar (.text t) source => (Moment.read? t).map fun m => .scalar (.text m.text) source
  | _ => none

mutual

/-- The setting with a text in place of every table that stands for a moment; nothing if one of them
holds no moment. -/
def withMoments : Setting → Option Setting
  | .scalar value source => some (.scalar value source)
  | .list items source => do
    let items ← itemsWithMoments items
    some (.list items source)
  | .table entries source =>
    match momentValue? entries with
    | some value => normalMoment? value
    | none => do
      let entries ← entriesWithMoments entries
      some (.table entries source)

/-- The same for the items of a list. -/
def itemsWithMoments : List Setting → Option (List Setting)
  | [] => some []
  | item :: rest => do
    let item ← withMoments item
    let rest ← itemsWithMoments rest
    some (item :: rest)

/-- The same for the entries of a table. -/
def entriesWithMoments : List (String × Setting) → Option (List (String × Setting))
  | [] => some []
  | (key, value) :: rest => do
    let value ← withMoments value
    let rest ← entriesWithMoments rest
    some ((key, value) :: rest)

end

end CatalogFeed.Toml
