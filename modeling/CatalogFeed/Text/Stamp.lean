/-!
# Text/Stamp — points in time as text

`stamp` writes a number of nanoseconds since the start of 1970 as date and time in universal time,
with as many digits of the second as it takes: none, three, six or nine.
-/

namespace CatalogFeed.Text

/-- A day of the calendar. -/
structure Day where
  year : Nat
  month : Nat
  day : Nat
  deriving DecidableEq, Repr

/-- The day with a number, where `0` is the first day of 1970.  Years are counted from March, in
periods of four hundred. -/
def Day.ofNumber (n : Nat) : Day :=
  let n := n + 719468
  let period := n / 146097
  let inPeriod := n % 146097
  let yearOfPeriod := (inPeriod - inPeriod / 1460 + inPeriod / 36524 - inPeriod / 146096) / 365
  let inYear := inPeriod - (365 * yearOfPeriod + yearOfPeriod / 4 - yearOfPeriod / 100)
  let march := (5 * inYear + 2) / 153
  let month := if march < 10 then march + 3 else march - 9
  let year := period * 400 + yearOfPeriod
  ⟨if month ≤ 2 then year + 1 else year, month, inYear - (153 * march + 2) / 5 + 1⟩

/-- A number with at least `width` digits. -/
def padded (width n : Nat) : String :=
  let digits := Nat.toDigits 10 n
  String.ofList (List.replicate (width - digits.length) '0' ++ digits)

/-- A year; one of more than four digits has a sign. -/
def yearText (year : Nat) : String :=
  if year ≤ 9999 then padded 4 year else "+" ++ padded 4 year

/-- The part of a second. -/
def fractionText (nanoseconds : Nat) : String :=
  if nanoseconds = 0 then ""
  else if nanoseconds % 1000000 = 0 then "." ++ padded 3 (nanoseconds / 1000000)
  else if nanoseconds % 1000 = 0 then "." ++ padded 6 (nanoseconds / 1000)
  else "." ++ padded 9 nanoseconds

/-- Date and time. -/
def stamp (nanoseconds : Nat) : String :=
  let seconds := nanoseconds / 1000000000
  let day := Day.ofNumber (seconds / 86400)
  let time := seconds % 86400
  yearText day.year ++ "-" ++ padded 2 day.month ++ "-" ++ padded 2 day.day ++ "T" ++
    padded 2 (time / 3600) ++ ":" ++ padded 2 (time / 60 % 60) ++ ":" ++ padded 2 (time % 60) ++
    fractionText (nanoseconds % 1000000000) ++ "+00:00"

example : stamp 0 = "1970-01-01T00:00:00+00:00" := by decide +kernel
example : stamp 951782400120000000 = "2000-02-29T00:00:00.120+00:00" := by decide +kernel
example : stamp 951782400000004050 = "2000-02-29T00:00:00.000004050+00:00" := by decide +kernel

end CatalogFeed.Text
