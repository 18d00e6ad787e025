import CatalogFeed.Proofs.Text.LowerCase

/-!
# Proofs/Text/Spelling — what lower-casing makes of other spellings

Lower-casing is no map from letters to letters: a capital sigma is looked at with its neighbours,
and `İ` becomes two characters.  Still a text in small letters stays as it is, because no letter
becomes one that has a small form of its own; and the case of ASCII letters makes no difference,
because both forms of such a letter are cased and have the same small form.

* `isSmall_of_mem_lowerAt`: what comes of a character has no other small form;
* `lowerCase_lowerCase`: small letters stay;
* `lowerCase_congr_ascii`, `Respells.lowerCase`: spellings that come to the same;
* `not_mem_lowerCase`: no punctuation appears.
-/

namespace CatalogFeed.Text

/-! ## Small forms have no other small form -/

/-- No small form from the one run is a letter of the other: the runs are apart, or the small forms
fall between the letters. -/
def CaseRun.misses (run other : CaseRun) : Bool :=
  other.last.blt run.image || (run.image + (run.last - run.first)).blt other.first ||
    (run.step.beq 2 || run.first.beq run.last) && other.step.beq 2 &&
      ((run.image + other.first) % 2).beq 1

theorem CaseRun.map?_eq_some_iff {run : CaseRun} {c n : Nat} : run.map? c = some n ↔
    (run.first ≤ c ∧ c ≤ run.last ∧ (c - run.first) % run.step = 0) ∧
      n = run.image + (c - run.first) := by
  rw [map?, Option.ite_none_right_eq_some, Option.some_inj, eq_comm (a := n)]

theorem CaseRun.map?_of_misses {run other : CaseRun} {c n : Nat} (h : run.map? c = some n)
    (hmisses : run.misses other = true) : other.map? n = none := by
  refine Option.eq_none_iff_forall_not_mem.mpr fun m hm => ?_
  obtain ⟨⟨hfirst, hlast, hstep⟩, rfl⟩ := map?_eq_some_iff.mp h
  obtain ⟨⟨hfirst', hlast', hstep'⟩, -⟩ := map?_eq_some_iff.mp hm
  simp only [misses, Bool.or_eq_true, Bool.and_eq_true, Nat.blt_eq, Nat.beq_eq] at hmisses
  obtain (hbefore | hafter) | ⟨⟨heven | hsingle, htwo⟩, hodd⟩ := hmisses
  · omega
  · omega
  · rw [heven] at hstep
    rw [htwo] at hstep'
    omega
  · rw [htwo] at hstep'
    omega

/-- The capital letter that stands in no run. -/
def dottedRun : CaseRun := ⟨0x130, 0x130, 1, 0⟩

/-- **The small forms of the table have no small forms**, nor are they `İ`. -/
theorem lowerRuns_misses :
    lowerRuns.all (fun run => (dottedRun :: lowerRuns).all run.misses) = true := by
  decide +kernel

/-- The small forms of the table are characters, from the small letters of ASCII on. -/
theorem lowerRuns_valid : ∀ run ∈ lowerRuns, 0x61 ≤ run.image ∧
    (run.image + (run.last - run.first) < 0xD800 ∨
      0xDFFF < run.image ∧ run.image + (run.last - run.first) < 0x110000) := by
  decide +kernel

theorem toNat_smallForm {run : CaseRun} (hrun : run ∈ lowerRuns) {c n : Nat}
    (h : run.map? c = some n) : (Char.ofNat n).toNat = n ∧ 0x61 ≤ n := by
  obtain ⟨⟨_, hlast, -⟩, rfl⟩ := CaseRun.map?_eq_some_iff.mp h
  obtain ⟨hletter, hvalid⟩ := lowerRuns_valid run hrun
  refine ⟨?_, by omega⟩
  rw [Char.ofNat, dif_pos (show Nat.isValidChar _ from by rw [Nat.isValidChar]; omega)]
  rfl

/-- **What a character becomes**: two letters, its small form in the table, or itself. -/
theorem lowerChar_cases (c : Char) :
    c = 'İ' ∧ lowerChar c = ['i', '\u0307'] ∨
      (∃ run ∈ lowerRuns, ∃ n, run.map? c.toNat = some n ∧ lowerChar c = [Char.ofNat n]) ∨
      lowerChar c = [c] := by
  rw [lowerChar]
  split
  · next hc => exact Or.inl ⟨hc, rfl⟩
  · split
    · next n hn =>
      obtain ⟨run, hrun, hmap⟩ := List.exists_of_findSome?_eq_some hn
      exact Or.inr (Or.inl ⟨run, hrun, n, hmap, rfl⟩)
    · exact Or.inr (Or.inr rfl)

/-- A small form of the table has no other small form. -/
theorem isSmall_of_map? {run : CaseRun} (hrun : run ∈ lowerRuns) {c n : Nat}
    (h : run.map? c = some n) : IsSmall (Char.ofNat n) := by
  have hn : (Char.ofNat n).toNat = n := (toNat_smallForm hrun h).1
  have hmisses : ∀ other ∈ dottedRun :: lowerRuns, other.map? n = none := fun other hother =>
    run.map?_of_misses h (List.all_eq_true.mp (List.all_eq_true.mp lowerRuns_misses run hrun)
      other hother)
  obtain ⟨hdotted, htable⟩ := List.forall_mem_cons.mp hmisses
  have hnone : lowerRuns.findSome? (·.map? n) = none := List.findSome?_eq_none_iff.mpr htable
  have hne {d : Char} (hd : d.toNat ≠ n) : Char.ofNat n ≠ d :=
    fun hc => hd ((congrArg Char.toNat hc).symm.trans hn)
  refine ⟨hne ?_, ?_⟩
  · -- the capital sigma has a small form in the table
    rintro rfl
    exact absurd hnone (by decide +kernel)
  · rw [lowerChar, if_neg (hne ?_), hn, hnone]
    rintro rfl
    exact absurd hdotted (by decide)

/-- **What comes of a character has no other small form.** -/
theorem isSmall_of_mem_lowerAt {before rest : List Char} {c d : Char}
    (h : d ∈ lowerAt before c rest) : IsSmall d := by
  have hfinal : IsSmall 'ς' ∧ IsSmall 'σ' ∧ IsSmall 'i' ∧ IsSmall '\u0307' := by decide +kernel
  obtain ⟨hlast, hmiddle, hi, hdot⟩ := hfinal
  rw [lowerAt] at h
  split at h
  · split at h
    · exact List.mem_singleton.mp h ▸ hlast
    · exact List.mem_singleton.mp h ▸ hmiddle
  · next hsigma =>
    rcases lowerChar_cases c with ⟨-, hc⟩ | ⟨run, hrun, n, hmap, hc⟩ | hc <;> rw [hc] at h
    · rcases List.mem_cons.mp h with rfl | h
      · exact hi
      · exact List.mem_singleton.mp h ▸ hdot
    · exact List.mem_singleton.mp h ▸ isSmall_of_map? hrun hmap
    · obtain rfl := List.mem_singleton.mp h
      exact ⟨hsigma, hc⟩

/-- What comes of the characters of a text, in one list. -/
theorem mem_lowerFrom {before cs : List Char} {d : Char} (h : d ∈ lowerFrom before cs) :
    ∃ before c rest, c ∈ cs ∧ d ∈ lowerAt before c rest := by
  induction cs generalizing before with
  | nil => cases h
  | cons c rest ih =>
    rw [lowerFrom_cons] at h
    rcases List.mem_append.mp h with h | h
    · exact ⟨before, c, rest, List.mem_cons_self, h⟩
    · obtain ⟨before', c', rest', hc, hd⟩ := ih h
      exact ⟨before', c', rest', List.mem_cons_of_mem _ hc, hd⟩

/-- **Small letters stay.** -/
theorem lowerCase_lowerCase (s : String) : lowerCase (lowerCase s) = lowerCase s := by
  rw [lowerCase_eq_self_iff]
  intro c hc
  rw [lowerCase, String.toList_ofList] at hc
  obtain ⟨before, c', rest, -, hd⟩ := mem_lowerFrom hc
  exact isSmall_of_mem_lowerAt hd

/-! ## No punctuation appears -/

/-- What comes of a character and is below the small letters of ASCII is the character itself. -/
theorem eq_of_mem_lowerAt {before rest : List Char} {c d : Char} (hd : d.toNat < 0x61)
    (h : d ∈ lowerAt before c rest) : d = c := by
  have hne {e : Char} (he : 0x61 ≤ e.toNat) : d ≠ e := fun heq => by rw [heq] at hd; omega
  have hletters : d ≠ 'ς' ∧ d ≠ 'σ' ∧ d ≠ 'i' ∧ d ≠ '\u0307' :=
    ⟨hne (by decide), hne (by decide), hne (by decide), hne (by decide)⟩
  rw [lowerAt] at h
  split at h
  · split at h <;> simp_all
  · rcases lowerChar_cases c with ⟨-, hc⟩ | ⟨run, hrun, n, hmap, hc⟩ | hc <;> rw [hc] at h
    · simp_all
    · obtain ⟨hn, hletter⟩ := toNat_smallForm hrun hmap
      exact absurd (List.mem_singleton.mp h) (hne (by omega))
    · exact List.mem_singleton.mp h

/-- **No point appears**, nor any other character below the small letters of ASCII. -/
theorem not_mem_lowerCase {s : String} {d : Char} (hd : d.toNat < 0x61) (h : d ∉ s.toList) :
    d ∉ (lowerCase s).toList := by
  intro hmem
  rw [lowerCase, String.toList_ofList] at hmem
  obtain ⟨before, c, rest, hc, hat⟩ := mem_lowerFrom hmem
  exact h (eq_of_mem_lowerAt hd hat ▸ hc)

/-! ## The case of ASCII letters -/

/-- A character is its own small form in ASCII, or it is a capital letter. -/
theorem toLower_cases (c : Char) : c.toLower = c ∨
    0x41 ≤ c.toNat ∧ c.toNat ≤ 0x5A ∧ c.toLower.toNat = c.toNat + 0x20 := by
  by_cases h : 0x41 ≤ c.toNat ∧ c.toNat ≤ 0x5A
  · have hlower : c.toLower.toNat = (c.val + 0x20).toNat := congrArg Char.toNat (dif_pos h)
    have hval : c.val.toNat ≤ 0x5A := h.2
    refine Or.inr ⟨h.1, h.2, hlower.trans ?_⟩
    rw [UInt32.toNat_add]
    change (c.val.toNat + 0x20) % 2 ^ 32 = c.val.toNat + 0x20
    omega
  · exact Or.inl (dif_neg h)

/-- Letters of ASCII are cased. -/
theorem isCased_of_letter {c : Char}
    (h : 0x41 ≤ c.toNat ∧ c.toNat ≤ 0x5A ∨ 0x61 ≤ c.toNat ∧ c.toNat ≤ 0x7A) :
    isCased c = true := by
  have hruns : (0x41, 0x5A) ∈ casedRuns ∧ (0x61, 0x7A) ∈ casedRuns :=
    ⟨List.mem_cons_self, List.mem_cons_of_mem _ List.mem_cons_self⟩
  rw [isCased, inRuns, List.any_eq_true]
  rcases h with h | h
  · exact ⟨_, hruns.1, by simpa using h⟩
  · exact ⟨_, hruns.2, by simpa using h⟩

/-- No letter of ASCII is in a run of characters that are looked past. -/
theorem caseIgnorableRuns_letters : ∀ run ∈ caseIgnorableRuns,
    run.2 < 0x41 ∨ 0x5A < run.1 ∧ run.2 < 0x61 ∨ 0x7A < run.1 := by
  decide +kernel

theorem isCaseIgnorable_of_letter {c : Char}
    (h : 0x41 ≤ c.toNat ∧ c.toNat ≤ 0x5A ∨ 0x61 ≤ c.toNat ∧ c.toNat ≤ 0x7A) :
    isCaseIgnorable c = false := by
  rw [isCaseIgnorable, inRuns, List.any_eq_false]
  intro run hrun
  have hrun := caseIgnorableRuns_letters run hrun
  simp only [Bool.and_eq_true, decide_eq_true_eq]
  omega

theorem isCased_toLower (c : Char) : isCased c.toLower = isCased c := by
  rcases toLower_cases c with hc | ⟨hfirst, hlast, hlower⟩
  · rw [hc]
  · rw [isCased_of_letter (Or.inl ⟨hfirst, hlast⟩), isCased_of_letter (by omega)]

theorem isCaseIgnorable_toLower (c : Char) : isCaseIgnorable c.toLower = isCaseIgnorable c := by
  rcases toLower_cases c with hc | ⟨hfirst, hlast, hlower⟩
  · rw [hc]
  · rw [isCaseIgnorable_of_letter (Or.inl ⟨hfirst, hlast⟩), isCaseIgnorable_of_letter (by omega)]

theorem nextIsCased_map_toLower (cs : List Char) :
    nextIsCased (cs.map Char.toLower) = nextIsCased cs := by
  have hsame : isCaseIgnorable ∘ Char.toLower = isCaseIgnorable := funext isCaseIgnorable_toLower
  rw [nextIsCased, List.dropWhile_map, hsame, nextIsCased]
  cases cs.dropWhile isCaseIgnorable with
  | nil => rfl
  | cons c rest => exact isCased_toLower c

theorem lowerAt_map_toLower (before : List Char) (c : Char) (rest : List Char) :
    lowerAt (before.map Char.toLower) c.toLower (rest.map Char.toLower) =
      lowerAt before c rest := by
  rw [lowerAt, nextIsCased_map_toLower, nextIsCased_map_toLower, lowerAt]
  rcases toLower_cases c with hc | ⟨hfirst, hlast, hlower⟩
  · rw [hc]
  · have hcapital := lowerChar_of_ascii c (by omega)
    have hsmall := lowerChar_of_ascii c.toLower (by omega)
    rw [if_neg hcapital.1, if_neg hsmall.1, hcapital.2, hsmall.2]
    rcases toLower_cases c.toLower with hc | hcapital
    · rw [hc]
    · omega

theorem lowerFrom_map_toLower (before cs : List Char) :
    lowerFrom (before.map Char.toLower) (cs.map Char.toLower) = lowerFrom before cs := by
  induction cs generalizing before with
  | nil => rfl
  | cons c rest ih =>
    rw [List.map_cons, lowerFrom_cons, lowerFrom_cons, lowerAt_map_toLower]
    exact congrArg _ (ih (c :: before))

/-- **The case of ASCII letters makes no difference.** -/
theorem lowerCase_congr_ascii {s t : String}
    (h : t.toList.map Char.toLower = s.toList.map Char.toLower) : lowerCase t = lowerCase s := by
  rw [lowerCase, ← lowerFrom_map_toLower, h]
  exact congrArg String.ofList (lowerFrom_map_toLower [] s.toList)

/-! ## Spellings -/

/-- **Other spellings of a text**: other cases of its ASCII letters, and its small letters. -/
inductive Respells (s : String) : String → Prop where
  | asciiCase {t : String} (h : t.toList.map Char.toLower = s.toList.map Char.toLower) :
      Respells s t
  | smallLetters : Respells s (lowerCase s)

theorem Respells.lowerCase {s t : String} (h : Respells s t) :
    Text.lowerCase t = Text.lowerCase s := by
  cases h with
  | asciiCase h => exact lowerCase_congr_ascii h
  | smallLetters => exact lowerCase_lowerCase s

end CatalogFeed.Text
