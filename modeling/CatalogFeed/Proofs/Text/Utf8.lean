import CatalogFeed.Text.Utf8

/-!
# Proofs/Text/Utf8 — the bytes of a text

`bytesOf` gives the bytes of characters, one character after the other.  They are read as these
characters, a byte of the ASCII range stands for itself only, and the order of bytes is the order of
texts.

* `decode_bytesOf`: bytes of characters are these characters;
* `not_mem_bytesOf`: a mark that is no character is no byte;
* `bytesOf_lt`: texts are ordered as their bytes are.
-/

namespace CatalogFeed.Text

/-- The bytes of characters. -/
def bytesOf (cs : List Char) : List UInt8 := cs.flatMap String.utf8EncodeChar

/-! ## Byte arrays -/

theorem toList_loop (bytes : ByteArray) (i : Nat) (seen : List UInt8) :
    ByteArray.toList.loop bytes i seen = seen.reverse ++ bytes.data.toList.drop i := by
  fun_induction ByteArray.toList.loop bytes i seen with
  | case1 i seen hi ih =>
    have hi' : i < bytes.data.toList.length := hi
    have hget : bytes.get! i = bytes.data.toList[i] := by
      change bytes.data[i]! = _
      rw [getElem!_pos bytes.data i hi, Array.getElem_toList]
    rw [ih, List.drop_eq_getElem_cons hi', hget]
    simp
  | case2 i seen hi =>
    have hi' : bytes.data.toList.length ≤ i := Nat.not_lt.mp hi
    rw [List.drop_eq_nil_of_le hi', List.append_nil]

theorem toList_toUTF8 (text : String) : text.toUTF8.toList = bytesOf text.toList := by
  rw [ByteArray.toList, toList_loop]
  change text.toByteArray.data.toList = _
  rw [← String.utf8Encode_toList, List.utf8Encode, List.toList_data_toByteArray]
  rfl

/-- **Bytes are read as a text exactly if they are its bytes.** -/
theorem fromUTF8?_eq_some_iff {bytes : ByteArray} {text : String} :
    String.fromUTF8? bytes = some text ↔ bytes = text.toUTF8 := by
  constructor
  · intro h
    rw [String.fromUTF8?] at h
    split at h
    · cases h
      rfl
    · cases h
  · rintro rfl
    exact dif_pos text.isValidUTF8

/-- **Bytes of characters are read as these characters.** -/
theorem decode_bytesOf (cs : List Char) : decode (bytesOf cs) = .ok (String.ofList cs) := by
  have h := decode_toUTF8 (String.ofList cs)
  change decode (String.ofList cs).toByteArray.data.toList = _ at h
  rwa [String.toByteArray_ofList, List.utf8Encode, List.toList_data_toByteArray] at h

theorem decode_toList_toUTF8 (text : String) : decode text.toUTF8.toList = .ok text := by
  rw [toList_toUTF8, decode_bytesOf, String.ofList_toList]

/-! ## One character -/

theorem toNat_le (c : Char) : c.toNat ≤ 0x10FFFF := by
  rcases c.valid with h | h
  · exact Nat.le_of_lt (Nat.lt_of_lt_of_le h (by decide))
  · exact Nat.le_of_lt_succ h.2

/-- The bytes of a character, by the number of its code point. -/
theorem utf8EncodeChar_cases (c : Char) :
    (c.toNat ≤ 0x7F ∧ String.utf8EncodeChar c = [.ofNat c.toNat]) ∨
    (0x7F < c.toNat ∧ c.toNat ≤ 0x7FF ∧ String.utf8EncodeChar c =
      [.ofNat (c.toNat / 64 % 32 + 192), .ofNat (c.toNat % 64 + 128)]) ∨
    (0x7FF < c.toNat ∧ c.toNat ≤ 0xFFFF ∧ String.utf8EncodeChar c =
      [.ofNat (c.toNat / 4096 % 16 + 224), .ofNat (c.toNat / 64 % 64 + 128),
        .ofNat (c.toNat % 64 + 128)]) ∨
    (0xFFFF < c.toNat ∧ c.toNat ≤ 0x10FFFF ∧ String.utf8EncodeChar c =
      [.ofNat (c.toNat / 262144 % 8 + 240), .ofNat (c.toNat / 4096 % 64 + 128),
        .ofNat (c.toNat / 64 % 64 + 128), .ofNat (c.toNat % 64 + 128)]) := by
  by_cases hone : c.toNat ≤ 0x7F
  · exact .inl ⟨hone, if_pos hone⟩
  by_cases htwo : c.toNat ≤ 0x7FF
  · exact .inr (.inl ⟨by omega, htwo, (if_neg hone).trans (if_pos htwo)⟩)
  by_cases hthree : c.toNat ≤ 0xFFFF
  · exact .inr (.inr (.inl ⟨by omega, hthree,
      (if_neg hone).trans ((if_neg htwo).trans (if_pos hthree))⟩))
  · exact .inr (.inr (.inr ⟨by omega, toNat_le c,
      (if_neg hone).trans ((if_neg htwo).trans (if_neg hthree))⟩))

theorem toNat_ofNat {n : Nat} (h : n < 256) : (UInt8.ofNat n).toNat = n := Nat.mod_eq_of_lt h

/-- A byte of the ASCII range stands for itself only. -/
theorem toNat_of_mem_utf8EncodeChar {c : Char} {b : UInt8} (hb : b.toNat < 128)
    (h : b ∈ String.utf8EncodeChar c) : c.toNat = b.toNat := by
  rcases utf8EncodeChar_cases c with ⟨hc, he⟩ | ⟨-, -, he⟩ | ⟨-, -, he⟩ | ⟨-, -, he⟩ <;>
    simp only [he, List.mem_cons, List.not_mem_nil, or_false] at h
  · rw [h, toNat_ofNat (by omega)]
  · rcases h with rfl | rfl <;> rw [toNat_ofNat (by omega)] at hb <;> omega
  · rcases h with rfl | rfl | rfl <;> rw [toNat_ofNat (by omega)] at hb <;> omega
  · rcases h with rfl | rfl | rfl | rfl <;> rw [toNat_ofNat (by omega)] at hb <;> omega

/-- The bytes of a character come before those of a later one, whatever follows either. -/
theorem utf8EncodeChar_append_lt {c d : Char} (h : c < d) (xs ys : List UInt8) :
    String.utf8EncodeChar c ++ xs < String.utf8EncodeChar d ++ ys := by
  have hlt : c.toNat < d.toNat := h
  -- The digits of a code point to the base 64, which bytes carry one by one.
  have hdigits (c : Char) : c.toNat / 64 / 64 = c.toNat / 4096 ∧
      c.toNat / 4096 / 64 = c.toNat / 262144 ∧ c.toNat / 262144 % 8 = c.toNat / 262144 := by
    have := toNat_le c
    omega
  have hc := hdigits c
  have hd := hdigits d
  rcases utf8EncodeChar_cases c with ⟨_, he⟩ | ⟨_, _, he⟩ | ⟨_, _, he⟩ | ⟨_, _, he⟩ <;>
  rcases utf8EncodeChar_cases d with ⟨_, he'⟩ | ⟨_, _, he'⟩ | ⟨_, _, he'⟩ | ⟨_, _, he'⟩ <;>
  first
  | omega
  | simp (disch := omega) only [he, he', List.cons_append, List.nil_append,
      List.cons_lt_cons_iff, UInt8.lt_iff_toNat_lt, ← UInt8.toNat_inj, toNat_ofNat]
    omega

/-! ## Texts -/

theorem not_mem_bytesOf {cs : List Char} {c : Char} {b : UInt8} (hb : b.toNat < 128)
    (hc : c.toNat = b.toNat) (h : c ∉ cs) : b ∉ bytesOf cs := by
  intro hmem
  obtain ⟨d, hd, hbd⟩ := List.mem_flatMap.mp hmem
  have heq : d = c := Char.toNat_inj.mp ((toNat_of_mem_utf8EncodeChar hb hbd).trans hc.symm)
  exact h (heq ▸ hd)

theorem utf8EncodeChar_ne_nil (c : Char) : String.utf8EncodeChar c ≠ [] := by
  rcases utf8EncodeChar_cases c with ⟨-, he⟩ | ⟨-, -, he⟩ | ⟨-, -, he⟩ | ⟨-, -, he⟩ <;> simp [he]

/-- **Bytes are in the order of the characters they write.** -/
theorem bytesOf_lt : {cs ds : List Char} → cs < ds → bytesOf cs < bytesOf ds
  | [], [], h => absurd h (List.not_lt_nil _)
  | [], d :: ds, _ => by
    obtain ⟨b, bs, hb⟩ := List.exists_cons_of_ne_nil (utf8EncodeChar_ne_nil d)
    simp [bytesOf, hb]
  | c :: cs, [], h => absurd h (List.not_lt_nil _)
  | c :: cs, d :: ds, h => by
    rw [bytesOf, bytesOf, List.flatMap_cons, List.flatMap_cons]
    rcases List.cons_lt_cons_iff.mp h with hlt | ⟨rfl, hlt⟩
    · exact utf8EncodeChar_append_lt hlt _ _
    · exact List.append_left_lt (bytesOf_lt hlt)

/-- **Texts are in the order of their bytes.** -/
theorem toUTF8_lt {a b : String} (h : a < b) : a.toUTF8.toList < b.toUTF8.toList := by
  rw [toList_toUTF8, toList_toUTF8]
  exact bytesOf_lt (String.lt_iff.mp h)

end CatalogFeed.Text
