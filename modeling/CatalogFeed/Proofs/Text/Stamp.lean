import CatalogFeed.Text.Stamp
import Mathlib.Data.Nat.Digits.Defs

/-!
# Proofs/Text/Stamp — a point in time is read back

The numbers in a stamp are those of its day and its time of day, and a day has the number that it
was made of.  So a point in time is read back from its stamp, to the nanosecond.

* `Day.number_ofNumber`: days;
* `moment_stamp`: points in time.
-/

namespace CatalogFeed.Text

/-! ## Days -/

/-- How many days before it there have been since the first of March of the year 0. -/
def Day.fromMarch (d : Day) : Nat :=
  let year := if d.month ≤ 2 then d.year - 1 else d.year
  let month := if d.month ≤ 2 then d.month + 9 else d.month - 3
  let ofPeriod := year % 400
  year / 400 * 146097 + (365 * ofPeriod + ofPeriod / 4 - ofPeriod / 100) +
    ((153 * month + 2) / 5 + d.day - 1)

/-- The number of a day, where `0` is the first day of 1970. -/
def Day.number (d : Day) : Nat := d.fromMarch - 719468

/-- A day of a period, its quarter of a century and its century give its year. -/
theorem year_of_day_in {r leap century y q : Nat} (hcentury3 : century ≤ 3)
    (hcentury : 36524 * century ≤ r ∧ r ≤ 36524 * century + 36524)
    (hleap : 1460 * leap ≤ r ∧ r < 1460 * leap + 1460)
    (hy : 365 * y + leap ≤ r + century ∧ r + century < 365 * y + 365 + leap)
    (hq : 4 * q ≤ y ∧ y < 4 * q + 4) :
    y < 400 ∧ y / 100 = century ∧ 365 * y + q - century ≤ r ∧
      r - (365 * y + q - century) < 366 := by
  refine ⟨?_, ?_, ?_, ?_⟩ <;> omega

/-- **The year of a day in a period**: year `y` begins with the day `365 * y + y / 4 - y / 100` and
has at most 366 days. -/
theorem year_of_day {r : Nat} (h : r < 146097) :
    ∃ y < 400, (r - r / 1460 + r / 36524 - r / 146096) / 365 = y ∧
      365 * y + y / 4 - y / 100 ≤ r ∧ r - (365 * y + y / 4 - y / 100) < 366 := by
  -- of the four centuries, the last has one day more
  obtain ⟨century, hcentury3, hlast, hcentury⟩ : ∃ k ≤ 3, r / 36524 = k + r / 146096 ∧
      36524 * k ≤ r ∧ r ≤ 36524 * k + 36524 := ⟨r / 36524 - r / 146096, by omega⟩
  obtain ⟨leap, hleaps, hleap⟩ : ∃ a, r / 1460 = a ∧ 1460 * a ≤ r ∧ r < 1460 * a + 1460 :=
    ⟨r / 1460, rfl, by omega⟩
  have hsub : r - leap + (century + r / 146096) - r / 146096 = r - leap + century := by omega
  rw [hlast, hleaps, hsub]
  obtain ⟨y, hy, hyear⟩ : ∃ y, (r - leap + century) / 365 = y ∧
      365 * y + leap ≤ r + century ∧ r + century < 365 * y + 365 + leap :=
    ⟨(r - leap + century) / 365, by omega⟩
  have hquarter : 4 * (y / 4) ≤ y ∧ y < 4 * (y / 4) + 4 := by omega
  obtain ⟨hy400, hcenturies, hspan⟩ := year_of_day_in hcentury3 hcentury hleap hyear hquarter
  rw [← hcenturies] at hspan
  exact ⟨y, hy400, hy, hspan⟩

/-- **The month of a day in a year** that begins with March. -/
theorem month_of_day {d : Nat} (h : d < 366) :
    ∃ m < 12, (5 * d + 2) / 153 = m ∧ (153 * m + 2) / 5 ≤ d :=
  ⟨(5 * d + 2) / 153, by omega⟩

/-- A day of a year that begins with March. -/
theorem Day.fromMarch_mk {y m d : Nat} (period : Nat) (hy : y < 400) (hm : m < 12)
    (hd : (153 * m + 2) / 5 ≤ d) :
    let month := if m < 10 then m + 3 else m - 9
    let year := period * 400 + y
    fromMarch ⟨if month ≤ 2 then year + 1 else year, month, d - (153 * m + 2) / 5 + 1⟩ =
      period * 146097 + (365 * y + y / 4 - y / 100) + d := by
  have hyear : (period * 400 + y) / 400 = period ∧ (period * 400 + y) % 400 = y := by omega
  have hday : (153 * m + 2) / 5 + (d - (153 * m + 2) / 5 + 1) - 1 = d := by omega
  intro month year
  rw [fromMarch]
  by_cases hm10 : m < 10
  · have hmonth : month = m + 3 := if_pos hm10
    have hlate : ¬m + 3 ≤ 2 := by omega
    simp only [hmonth, if_neg hlate, Nat.add_sub_cancel, year, hyear, hday]
  · have hmonth : month = m - 9 := if_neg hm10
    have hearly : m - 9 ≤ 2 := by omega
    have hmarch : m - 9 + 9 = m := by omega
    simp only [hmonth, if_pos hearly, hmarch, Nat.add_sub_cancel, year, hyear, hday]

theorem Day.fromMarch_ofNumber (n : Nat) : (ofNumber n).fromMarch = n + 719468 := by
  unfold ofNumber
  generalize n + 719468 = shifted
  obtain ⟨y, hy400, hy, hbegun, hend⟩ := year_of_day (Nat.mod_lt shifted (by decide))
  obtain ⟨m, hm12, hm, hmonth⟩ := month_of_day hend
  simp only [hy, hm]
  rw [fromMarch_mk (shifted / 146097) hy400 hm12 hmonth]
  omega

/-- **A day has the number that it was made of.** -/
theorem Day.number_ofNumber (n : Nat) : (ofNumber n).number = n :=
  Nat.sub_eq_of_eq_add (fromMarch_ofNumber n)

/-! ## Points in time -/

/-- The groups of digits in a text, between characters that are no digits. -/
def groups (text : List Char) : List (List Char) :=
  (text.splitOnP fun c => !c.isDigit).filter (!·.isEmpty)

/-- The number that a group of digits spells. -/
def number (digits : List Char) : Nat := Nat.ofDigitChars 10 digits 0

@[simp] theorem number_padded (width n : Nat) : number (padded width n).toList = n := by
  rw [number, padded, String.toList_ofList, Nat.ofDigitChars_append,
    Nat.ofDigitChars_replicate_zero, Nat.mul_zero, Nat.ofDigitChars_ten_toDigits]

theorem isDigit_of_mem_padded {width n : Nat} {c : Char} (h : c ∈ (padded width n).toList) :
    c.isDigit = true := by
  rw [padded, String.toList_ofList] at h
  rcases List.mem_append.mp h with h | h
  · rw [List.eq_of_mem_replicate h]
    rfl
  · exact Nat.isDigit_of_mem_toDigits (by decide) (by decide) h

theorem length_padded {width n : Nat} (hwidth : 0 < width) (h : n < 10 ^ width) :
    (padded width n).toList.length = width := by
  have hdigits := Nat.toDigits_length 10 n width hwidth h
  rw [padded, String.toList_ofList, List.length_append, List.length_replicate]
  omega

theorem padded_ne_nil (width n : Nat) : (padded width n).toList ≠ [] := by
  rw [padded, String.toList_ofList]
  exact List.append_ne_nil_of_right_ne_nil _ Nat.toDigits_ne_nil

theorem groups_padded (width n : Nat) {c : Char} (hc : c.isDigit = false) (rest : List Char) :
    groups ((padded width n).toList ++ c :: rest) = (padded width n).toList :: groups rest := by
  have hdigits : ∀ d ∈ (padded width n).toList, (!d.isDigit) = false := fun d hd => by
    rw [isDigit_of_mem_padded hd]
    rfl
  have hsome : (padded width n).toList.isEmpty = false :=
    List.isEmpty_eq_false_iff.mpr (padded_ne_nil width n)
  rw [groups, List.splitOnP_append_cons_of_forall_mem hdigits c (by rw [hc]; rfl),
    List.filter_cons, hsome]
  rfl

/-- A sign at the start is passed over. -/
theorem groups_sign (rest : List Char) : groups ('+' :: rest) = groups rest := by
  rw [groups, List.splitOnP_cons_eq_if_modifyHead, if_pos (by decide), List.filter_cons]
  rfl

theorem groups_year (year : Nat) {c : Char} (hc : c.isDigit = false) (rest : List Char) :
    groups ((yearText year).toList ++ c :: rest) = (padded 4 year).toList :: groups rest := by
  rw [yearText]
  split
  · exact groups_padded 4 year hc rest
  · have hsign : ("+" ++ padded 4 year).toList ++ c :: rest =
        '+' :: ((padded 4 year).toList ++ c :: rest) := by
      rw [String.toList_append, List.append_assoc]
      rfl
    rw [hsign, groups_sign, groups_padded 4 year hc rest]

/-- The part of a second is not written, or written with as many digits as it takes. -/
theorem fractionText_cases {nanoseconds : Nat} (h : nanoseconds < 1000000000) :
    (nanoseconds = 0 ∧ fractionText nanoseconds = "") ∨
      ∃ width n, 0 < width ∧ n < 10 ^ width ∧ n * 10 ^ (9 - width) = nanoseconds ∧
        fractionText nanoseconds = "." ++ padded width n := by
  rw [fractionText]
  split
  · exact .inl ⟨‹_›, rfl⟩
  · split
    · exact .inr ⟨3, nanoseconds / 1000000, by decide, by omega, by omega, rfl⟩
    · split
      · exact .inr ⟨6, nanoseconds / 1000, by decide, by omega, by omega, rfl⟩
      · exact .inr ⟨9, nanoseconds, by decide, by omega, by omega, rfl⟩

/-- A point in time of a day, in nanoseconds since the start of 1970. -/
def Day.at (d : Day) (hours minutes seconds nanoseconds : Nat) : Nat :=
  (((d.number * 24 + hours) * 60 + minutes) * 60 + seconds) * 1000000000 + nanoseconds

/-- The point in time that a text spells in groups of digits, in nanoseconds since the start of
1970.  The last two of them are for the zone. -/
def moment (text : String) : Nat :=
  match groups text.toList with
  | [year, month, day, hours, minutes, seconds, _, _] =>
    Day.at ⟨number year, number month, number day⟩ (number hours) (number minutes)
      (number seconds) 0
  | [year, month, day, hours, minutes, seconds, fraction, _, _] =>
    Day.at ⟨number year, number month, number day⟩ (number hours) (number minutes)
      (number seconds) (number fraction * 10 ^ (9 - fraction.length))
  | _ => 0

section OfDay

variable (d : Day) (hours minutes seconds : Nat) {nanoseconds : Nat}

/-- A point in time of a day, as it is written. -/
def Day.written (nanoseconds : Nat) : String :=
  yearText d.year ++ "-" ++ padded 2 d.month ++ "-" ++ padded 2 d.day ++ "T" ++
    padded 2 hours ++ ":" ++ padded 2 minutes ++ ":" ++ padded 2 seconds ++
    fractionText nanoseconds ++ "+00:00"

theorem moment_written (h : nanoseconds < 1000000000) :
    moment (d.written hours minutes seconds nanoseconds) =
      d.at hours minutes seconds nanoseconds := by
  have hzone : groups "00:00".toList = ["00".toList, "00".toList] := by decide +kernel
  rcases fractionText_cases h with ⟨rfl, htext⟩ | ⟨width, n, hwidth, hn, rfl, htext⟩
  · have hgroups : groups (d.written hours minutes seconds 0).toList =
        [(padded 4 d.year).toList, (padded 2 d.month).toList, (padded 2 d.day).toList,
          (padded 2 hours).toList, (padded 2 minutes).toList, (padded 2 seconds).toList,
          "00".toList, "00".toList] := by
      rw [← hzone]
      simp [Day.written, htext, groups_year, groups_padded]
    rw [moment, hgroups]
    simp
  · have hgroups : groups (d.written hours minutes seconds (n * 10 ^ (9 - width))).toList =
        [(padded 4 d.year).toList, (padded 2 d.month).toList, (padded 2 d.day).toList,
          (padded 2 hours).toList, (padded 2 minutes).toList, (padded 2 seconds).toList,
          (padded width n).toList, "00".toList, "00".toList] := by
      rw [← hzone]
      simp [Day.written, htext, groups_year, groups_padded]
    rw [moment, hgroups]
    simp [length_padded hwidth hn]

end OfDay

theorem stamp_eq_written (nanoseconds : Nat) : stamp nanoseconds =
    (Day.ofNumber (nanoseconds / 1000000000 / 86400)).written
      (nanoseconds / 1000000000 % 86400 / 3600) (nanoseconds / 1000000000 % 86400 / 60 % 60)
      (nanoseconds / 1000000000 % 86400 % 60) (nanoseconds % 1000000000) := by
  unfold stamp
  rfl

/-- **A point in time is read back from its stamp.** -/
theorem moment_stamp (nanoseconds : Nat) : moment (stamp nanoseconds) = nanoseconds := by
  rw [stamp_eq_written, moment_written _ _ _ _ (Nat.mod_lt _ (by decide)), Day.at,
    Day.number_ofNumber]
  omega

end CatalogFeed.Text
