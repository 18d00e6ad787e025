import CatalogFeed.Json.Number
import CatalogFeed.Json.Printer
import CatalogFeed.Proofs.Json.Grammar

/-!
# Proofs/Json/ReadBack — what is printed is read back

A document is `Whole` if nothing in it is missing, its strings are characters, and its numbers are
integers.  The compact text of a whole document has no control characters, and it spells the
document, so the reader makes of it the same document.

* `Whole.spells_renderChars`: one value;
* `Whole.read_render`: a whole text.
-/

namespace CatalogFeed.Json

/-- A document that a printer may be given. -/
inductive Whole : Json → Prop where
  | null : Whole .null
  | bool (b : Bool) : Whole (.bool b)
  | integer {n : Numeral} (h : n.isWhole = true) : Whole (.number n)
  | text (s : String) : Whole (.text s)
  | list {items : List Json} (h : ∀ j ∈ items, Whole j) : Whole (.list items)
  | record {members : List (String × Json)} (h : ∀ m ∈ members, Whole m.2) :
      Whole (.record members)

theorem Whole.int (n : Int) : Whole (.int n) := .integer rfl

theorem Whole.flaw? {j : Json} (h : Whole j) : j.flaw? = none := by
  cases h <;> rfl

/-- The members of a complete object, as they stand in the tree. -/
abbrev Member.keyed (m : String × Json) : Option String × Json := (some m.1, m.2)

/-! ## Strings -/

theorem codeUnit?_control : ∀ n < 32,
    codeUnit? '0' '0' (hexDigit (n / 16)) (hexDigit (n % 16)) = some n := by decide

/-- An escaped character is one piece of a string. -/
theorem exists_piece (c : Char) : ∃ piece : Piece, piece.chars = escape c ∧
    ∀ seen, piece.extend (.sound, seen) = (.sound, c :: seen) := by
  unfold escape
  split
  iterate 7 · exact ⟨.letter _ _ rfl, rfl, fun _ => rfl⟩
  · next hquote hslash _ _ _ _ _ =>
    split
    · next hc =>
      refine ⟨.unit '0' '0' _ _ c.toNat (codeUnit?_control _ hc), rfl, fun seen => ?_⟩
      have hlow : ¬ (0xDC00 ≤ c.toNat ∧ c.toNat ≤ 0xDFFF) := by omega
      have hhigh : ¬ (0xD800 ≤ c.toNat ∧ c.toNat ≤ 0xDBFF) := by omega
      simp only [Piece.extend, Sense.afterUnit, if_neg hlow, if_neg hhigh, Char.ofNat_toNat,
        List.singleton_append]
    · next hc => exact ⟨.plain c ⟨hquote, hslash, Nat.not_lt.mp hc⟩, rfl, fun _ => rfl⟩

/-- **Escaped characters spell their string.** -/
theorem spellsString_escape (s : String) : SpellsString (some s) (s.toList.flatMap escape) := by
  choose piece hchars hextend using exists_piece
  refine ⟨s.toList.map piece, ?_, ?_⟩
  · rw [List.flatMap_map, funext hchars]
  · have hfold (cs seen : List Char) :
        (cs.map piece).foldl Piece.extend (.sound, seen) = (.sound, cs.reverse ++ seen) := by
      induction cs generalizing seen with
      | nil => rfl
      | cons c cs ih => rw [List.map_cons, List.foldl_cons, hextend, ih]; simp
    simp [hfold, Piece.close]

/-! ## Numbers -/

theorem isDigit_of_mem_renderNat {n : Nat} {c : Char} (h : c ∈ renderNat n) : isDigit c = true :=
  Nat.isDigit_of_mem_toDigits (by decide) (by decide) h

theorem digitsValue_renderNat (n : Nat) : digitsValue 0 (renderNat n) = n := by
  have hfold : digitsValue 0 (renderNat n) = Nat.ofDigitChars 10 (renderNat n) 0 := by
    simp only [digitsValue, Nat.ofDigitChars_eq_foldl, digitValue, Nat.mul_comm]
  rw [hfold, renderNat, Nat.ofDigitChars_ten_toDigits]

/-- Only zero begins with a zero. -/
theorem head?_renderNat {n : Nat} (h : n ≠ 0) : (renderNat n).head? ≠ some '0' := by
  induction n using Nat.strongRecOn with
  | ind n ih =>
    rw [renderNat]
    by_cases hn : n < 10
    · rw [Nat.toDigits_of_lt_base hn]
      simpa using h
    · have hhead := ih (n / 10) (by omega) (by omega)
      obtain ⟨c, cs, hcs⟩ := List.exists_cons_of_ne_nil
        (Nat.toDigits_ne_nil : Nat.toDigits 10 (n / 10) ≠ [])
      rw [renderNat, hcs] at hhead
      rw [Nat.toDigits_of_base_le (by decide) (by omega), hcs]
      exact hhead

/-- The digits of a number are a whole part. -/
theorem spellsWhole_renderNat (n : Nat) : SpellsWhole n (renderNat n) := by
  by_cases hn : n = 0
  · subst hn
    exact .zero
  · have hdigits : Digits (renderNat n) :=
      ⟨Nat.toDigits_ne_nil, fun c => isDigit_of_mem_renderNat⟩
    have hwhole := SpellsWhole.digits hdigits (head?_renderNat hn)
    rwa [digitsValue_renderNat] at hwhole

theorem render_of_isWhole {n : Numeral} (h : n.isWhole = true) :
    n.render = (if n.negative then ['-'] else []) ++ renderNat n.whole := by
  obtain ⟨negative, whole, fraction, exponent⟩ := n
  simp only [Numeral.isWhole, Bool.and_eq_true, Option.isNone_iff_eq_none] at h
  obtain ⟨rfl, rfl⟩ := h
  simp [Numeral.render]

theorem spells_integer {n : Numeral} (h : n.isWhole = true) : Spells (.number n) n.render := by
  rw [render_of_isWhole h]
  obtain ⟨negative, whole, fraction, exponent⟩ := n
  simp only [Numeral.isWhole, Bool.and_eq_true, Option.isNone_iff_eq_none] at h
  obtain ⟨rfl, rfl⟩ := h
  exact .number ⟨_, [], [], spellsWhole_renderNat whole, .none, .none, by simp⟩

/-! ## Values -/

theorem renderItems_eq (items : List Json) :
    renderItems items = commas (items.map renderChars) := by
  induction items with
  | nil => rfl
  | cons j items ih =>
    cases items with
    | nil => rw [renderItems, List.map_singleton, commas_singleton]
    | cons j' items =>
      rw [renderItems, commas_cons, ih]
      simp

/-- A member as it is printed. -/
def renderMember (m : String × Json) : List Char :=
  '"' :: (m.1.toList.flatMap escape ++ '"' :: ':' :: renderChars m.2)

theorem renderMembers_eq (members : List (String × Json)) :
    renderMembers (members.map Member.keyed) = commas (members.map renderMember) := by
  induction members with
  | nil => rfl
  | cons m members ih =>
    cases members with
    | nil => simp [renderMembers, renderString, renderMember, commas_singleton]
    | cons m' members =>
      rw [commas_cons, ← ih, List.map_cons, renderMembers]
      · simp [renderString, renderMember]
      · simp

theorem renderChars_record (members : List (String × Json)) : renderChars (.record members) =
    '\x7b' :: (renderMembers (members.map Member.keyed) ++ ['\x7d']) := by
  rw [record, renderChars]

/-- The text of an object spells it if the texts of its values spell them. -/
theorem spells_record {members : List (String × Json)}
    (h : ∀ m ∈ members, Spells m.2 (renderChars m.2)) :
    Spells (.record members) (renderChars (.record members)) := by
  have hmembers : ∀ m ∈ members.map Member.keyed,
      SpellsString m.1 ((m.1.getD "").toList.flatMap escape) ∧ Spells m.2 (renderChars m.2) :=
    List.forall_mem_map.mpr fun m hm => ⟨spellsString_escape m.1, h m hm⟩
  have hspells := spells_compact_members hmembers
  rw [List.map_map] at hspells
  rw [renderChars_record, renderMembers_eq]
  exact hspells

/-- **The text of a whole document spells it.** -/
theorem Whole.spells_renderChars {j : Json} (h : Whole j) : Spells j (renderChars j) := by
  induction h with
  | null => exact .null
  | bool b =>
    cases b with
    | true => exact .yes
    | false => exact .no
  | integer h => exact spells_integer h
  | text s => exact .string (spellsString_escape s)
  | list h ih =>
    rw [Json.list, renderChars, renderItems_eq]
    exact spells_compact_items ih
  | record h ih => exact spells_record ih

theorem isText_render {j : Json} (h : Spells j (renderChars j)) : IsText j.render j :=
  ⟨⟨[], j, renderChars j, []⟩, ⟨nofun, h, nofun⟩, rfl, by simp [render, Part.text]⟩

/-- The text of a whole document is a way to write it. -/
theorem Whole.isText_render {j : Json} (h : Whole j) : IsText j.render j :=
  Json.isText_render h.spells_renderChars

/-- **A whole document is read back** from its text. -/
theorem Whole.read_render {j : Json} (h : Whole j) : read j.render = ⟨j, true⟩ :=
  (isText_iff.mp h.isText_render).1

/-! ## Characters -/

/-- Whether a character is none of the controls, among them the ends of lines. -/
def isPlain (c : Char) : Bool := 0x20 ≤ c.toNat

theorem isPlain_hexDigit : ∀ n < 16, isPlain (hexDigit n) = true := by decide

theorem isPlain_of_mem_escape (c : Char) : ∀ d ∈ escape c, isPlain d = true := by
  unfold escape
  split
  iterate 7 · exact List.all_eq_true.mp rfl
  split
  · next hc =>
    simp only [List.forall_mem_cons]
    exact ⟨rfl, rfl, rfl, rfl, isPlain_hexDigit _ (by omega), isPlain_hexDigit _ (by omega),
      by simp⟩
  · next hc => simpa [isPlain] using hc

theorem isPlain_of_isDigit {c : Char} (h : isDigit c = true) : isPlain c = true := by
  simp only [isDigit, Bool.and_eq_true, decide_eq_true_eq] at h
  simp only [isPlain, decide_eq_true_eq]
  exact Nat.le_trans (by decide) h.1

theorem isPlain_of_mem_renderString {s : String} {c : Char} (h : c ∈ renderString s) :
    isPlain c = true := by
  simp only [renderString, List.mem_cons, List.mem_append, List.mem_flatMap, List.not_mem_nil,
    or_false] at h
  obtain rfl | ⟨d, -, hd⟩ | rfl := h
  · rfl
  · exact isPlain_of_mem_escape d _ hd
  · rfl

theorem isPlain_of_mem_renderItems {items : List Json}
    (h : ∀ j ∈ items, ∀ c ∈ renderChars j, isPlain c = true) :
    ∀ c ∈ renderItems items, isPlain c = true := by
  induction items with
  | nil => simp [renderItems]
  | cons j items ih =>
    obtain ⟨hj, hitems⟩ := List.forall_mem_cons.mp h
    cases items with
    | nil => simpa [renderItems] using hj
    | cons j' items =>
      rw [renderItems, List.forall_mem_append]
      · exact ⟨hj, List.forall_mem_cons.mpr ⟨rfl, ih hitems⟩⟩
      · simp

theorem isPlain_of_mem_renderMembers {members : List (String × Json)}
    (h : ∀ m ∈ members, ∀ c ∈ renderChars m.2, isPlain c = true) :
    ∀ c ∈ renderMembers (members.map Member.keyed), isPlain c = true := by
  induction members with
  | nil => simp [renderMembers]
  | cons m members ih =>
    obtain ⟨hm, hmembers⟩ := List.forall_mem_cons.mp h
    cases members with
    | nil =>
      rw [List.map_singleton, renderMembers, List.forall_mem_append]
      exact ⟨fun c => isPlain_of_mem_renderString, List.forall_mem_cons.mpr ⟨rfl, hm⟩⟩
    | cons m' members =>
      rw [List.map_cons, renderMembers, List.forall_mem_append, List.forall_mem_cons,
        List.forall_mem_append]
      · exact ⟨fun c => isPlain_of_mem_renderString, rfl, hm,
          List.forall_mem_cons.mpr ⟨rfl, ih hmembers⟩⟩
      · simp

/-- **The text of a whole document has no control characters.** -/
theorem Whole.isPlain {j : Json} (h : Whole j) : ∀ c ∈ renderChars j, isPlain c = true := by
  induction h with
  | null => exact List.all_eq_true.mp rfl
  | bool b => cases b <;> exact List.all_eq_true.mp rfl
  | @integer n hn =>
    intro c hc
    rw [renderChars, render_of_isWhole hn, List.mem_append] at hc
    rcases hc with hc | hc
    · cases hneg : n.negative <;> simp_all [Json.isPlain]
    · exact isPlain_of_isDigit (isDigit_of_mem_renderNat hc)
  | text s => exact fun c => isPlain_of_mem_renderString
  | list h ih =>
    rw [Json.list, renderChars, List.forall_mem_cons, List.forall_mem_append]
    exact ⟨rfl, isPlain_of_mem_renderItems ih, List.all_eq_true.mp rfl⟩
  | record h ih =>
    rw [renderChars_record, List.forall_mem_cons, List.forall_mem_append]
    exact ⟨rfl, isPlain_of_mem_renderMembers ih, List.all_eq_true.mp rfl⟩

end CatalogFeed.Json
