import CatalogFeed.Text.LowerCase

/-!
# Proofs/Text/LowerCase — texts that are in small letters

* `lowerCase_eq_self_iff`: a text is in small letters if each of its characters is;
* `lowerCase_of_ascii`: in ASCII, letters are taken one by one.
-/

namespace CatalogFeed.Text

/-- The character stands for itself in small letters. -/
def IsSmall (c : Char) : Prop := c ≠ 'Σ' ∧ lowerChar c = [c]

instance (c : Char) : Decidable (IsSmall c) := inferInstanceAs (Decidable (_ ∧ _))

/-- What a character with these before and after it becomes. -/
def lowerAt (before : List Char) (c : Char) (rest : List Char) : List Char :=
  if c = 'Σ' then if nextIsCased before && !nextIsCased rest then ['ς'] else ['σ']
  else lowerChar c

theorem lowerFrom_cons (before : List Char) (c : Char) (rest : List Char) :
    lowerFrom before (c :: rest) = lowerAt before c rest ++ lowerFrom (c :: before) rest := rfl

theorem lowerChar_ne_nil (c : Char) : lowerChar c ≠ [] := by
  rw [lowerChar]
  split
  · exact List.cons_ne_nil _ _
  · split <;> exact List.cons_ne_nil _ _

theorem lowerAt_ne_nil (before : List Char) (c : Char) (rest : List Char) :
    lowerAt before c rest ≠ [] := by
  rw [lowerAt]
  split
  · split <;> exact List.cons_ne_nil _ _
  · exact lowerChar_ne_nil c

theorem lowerAt_eq_singleton_iff {before : List Char} {c : Char} {rest : List Char} :
    lowerAt before c rest = [c] ↔ IsSmall c := by
  by_cases h : c = 'Σ'
  · subst h
    refine ⟨fun hat => ?_, fun hsmall => absurd rfl hsmall.1⟩
    rw [lowerAt, if_pos rfl] at hat
    split at hat <;> exact absurd hat (by decide)
  · rw [lowerAt, if_neg h]
    exact ⟨fun hat => ⟨h, hat⟩, fun hsmall => hsmall.2⟩

/-- Small letters are no fewer. -/
theorem length_le_lowerFrom (before cs : List Char) :
    cs.length ≤ (lowerFrom before cs).length := by
  induction cs generalizing before with
  | nil => exact Nat.le_refl _
  | cons c rest ih =>
    have hat := List.length_pos_iff.mpr (lowerAt_ne_nil before c rest)
    rw [lowerFrom_cons, List.length_append, List.length_cons]
    have hrest := ih (c :: before)
    omega

theorem lowerFrom_eq_self_iff (before cs : List Char) :
    lowerFrom before cs = cs ↔ ∀ c ∈ cs, IsSmall c := by
  induction cs generalizing before with
  | nil => exact ⟨fun _ => nofun, fun _ => rfl⟩
  | cons c rest ih =>
    rw [List.forall_mem_cons, ← ih (c :: before), lowerFrom_cons]
    constructor
    · intro h
      -- No character becomes none, so none can become several.
      have hat := List.length_pos_iff.mpr (lowerAt_ne_nil before c rest)
      have hlength := congrArg List.length h
      have hrest := length_le_lowerFrom (c :: before) rest
      rw [List.length_append, List.length_cons] at hlength
      have hsplit : lowerAt before c rest ++ lowerFrom (c :: before) rest = [c] ++ rest := h
      obtain ⟨hc, hcs⟩ := List.append_inj hsplit (by rw [List.length_singleton]; omega)
      exact ⟨lowerAt_eq_singleton_iff.mp hc, hcs⟩
    · rintro ⟨hc, hrest⟩
      rw [lowerAt_eq_singleton_iff.mpr hc, hrest, List.singleton_append]

/-- **A text is in small letters just if each of its characters is.** -/
theorem lowerCase_eq_self_iff (s : String) :
    lowerCase s = s ↔ ∀ c ∈ s.toList, IsSmall c := by
  rw [← lowerFrom_eq_self_iff [] s.toList, lowerCase]
  exact String.ext_iff.trans (by rw [String.toList_ofList])

/-! ## The letters of ASCII -/

/-- What is so of the code points of ASCII is so of its characters. -/
theorem forall_ascii {P : Char → Prop} (h : ∀ n < 128, P (Char.ofNat n)) (c : Char)
    (hc : c.toNat < 128) : P c := by
  have hP := h c.toNat hc
  rwa [Char.ofNat_toNat] at hP

theorem lowerChar_of_ascii : ∀ c : Char, c.toNat < 128 → c ≠ 'Σ' ∧ lowerChar c = [c.toLower] :=
  forall_ascii (by decide +kernel)

theorem lowerFrom_of_ascii (before : List Char) {cs : List Char} (h : ∀ c ∈ cs, c.toNat < 128) :
    lowerFrom before cs = cs.map Char.toLower := by
  induction cs generalizing before with
  | nil => rfl
  | cons c rest ih =>
    obtain ⟨hc, hrest⟩ := List.forall_mem_cons.mp h
    obtain ⟨hsigma, hlower⟩ := lowerChar_of_ascii c hc
    rw [lowerFrom_cons, lowerAt, if_neg hsigma, hlower, ih (c :: before) hrest, List.map_cons,
      List.singleton_append]

/-- The text is of ASCII. -/
def isAscii (s : String) : Bool := s.toList.all fun c => decide (c.toNat < 128)

theorem isAscii_iff (s : String) : isAscii s = true ↔ ∀ c ∈ s.toList, c.toNat < 128 := by
  simp only [isAscii, List.all_eq_true, decide_eq_true_eq]

/-- **In ASCII, letter by letter.** -/
theorem lowerCase_of_ascii {s : String} (h : isAscii s = true) :
    lowerCase s = String.ofList (s.toList.map Char.toLower) := by
  rw [lowerCase, lowerFrom_of_ascii [] ((isAscii_iff s).mp h)]

theorem isSmall_of_ascii {c : Char} (hc : c.toNat < 128) (hlower : c.toLower = c) :
    IsSmall c := by
  obtain ⟨hsigma, h⟩ := lowerChar_of_ascii c hc
  exact ⟨hsigma, by rw [h, hlower]⟩

end CatalogFeed.Text
