import CatalogFeed.Json.Reader
import CatalogFeed.Proofs.Fallible

/-!
# Proofs/Json/Token — strings and numbers as they are written

The grammar of the smallest parts of a text, and that the reader scans exactly what it allows.

* `scanString_eq_closed_iff`: a string is a list of pieces, up to the quote that ends it;
* `scanNumber_append`, `exists_of_scanNumber`: a number has a whole part, and may have a fraction
  and an exponent;
* `exists_of_scanWord`: a word.
-/

namespace CatalogFeed.Json

/-! ## Strings -/

/-- A piece of a string: a character that stands for itself, an escape of one letter, or an escape
of four hexadecimal digits. -/
inductive Piece where
  | plain (c : Char) (h : c ≠ '"' ∧ c ≠ '\\' ∧ 0x20 ≤ c.toNat)
  | letter (c value : Char) (h : escaped? c = some value)
  | unit (a b c d : Char) (value : Nat) (h : codeUnit? a b c d = some value)

namespace Piece

/-- The characters of a piece. -/
def chars : Piece → List Char
  | plain c _ => [c]
  | letter c _ _ => ['\\', c]
  | unit a b c d _ _ => ['\\', 'u', a, b, c, d]

/-- What a piece makes of the sense of a string, and of its characters so far, last first. -/
def extend : Sense × List Char → Piece → Sense × List Char
  | (sense, seen), plain c _ => (sense.afterOther, c :: seen)
  | (sense, seen), letter _ value _ => (sense.afterOther, value :: seen)
  | (sense, seen), unit _ _ _ _ value _ =>
    ((sense.afterUnit value).1, (sense.afterUnit value).2 ++ seen)

/-- The value of a string that ends: none if its escapes do not make characters. -/
def close : Sense × List Char → Option String
  | (.sound, seen) => some (String.ofList seen.reverse)
  | _ => none

end Piece

/-- **The characters between the quotes of a string**, with the value that they spell. -/
def SpellsString (value : Option String) (cs : List Char) : Prop :=
  ∃ pieces : List Piece, cs = pieces.flatMap Piece.chars ∧
    value = Piece.close (pieces.foldl Piece.extend (.sound, []))

theorem scanString_quote (sense : Sense) (seen rest : List Char) :
    scanString sense seen ('"' :: rest) = .closed (Piece.close (sense, seen)) rest := by
  cases sense <;> rfl

/-- A piece is scanned as a whole. -/
theorem scanString_piece (piece : Piece) (sense : Sense) (seen rest : List Char) :
    scanString sense seen (piece.chars ++ rest) =
      scanString (piece.extend (sense, seen)).1 (piece.extend (sense, seen)).2 rest := by
  cases piece with
  | plain c h =>
    obtain ⟨hquote, hslash, hcontrol⟩ := h
    rw [Piece.chars, List.singleton_append, scanString, if_neg (Nat.not_lt.mpr hcontrol)]
    · rfl
    · exact hquote
    · exact hslash
  | letter c value h =>
    have hunit : c ≠ 'u' := by
      rintro rfl
      cases h
    rw [Piece.chars, List.cons_append, List.singleton_append, scanString]
    · simp only [h]
      rfl
    · exact fun _ _ _ _ _ h => absurd h hunit
    · exact hunit
  | unit a b c d value h =>
    simp only [Piece.chars, List.cons_append, List.nil_append, scanString, h]
    rfl

theorem scanString_pieces (pieces : List Piece) (sense : Sense) (seen rest : List Char) :
    scanString sense seen (pieces.flatMap Piece.chars ++ '"' :: rest) =
      .closed (Piece.close (pieces.foldl Piece.extend (sense, seen))) rest := by
  induction pieces generalizing sense seen with
  | nil => exact scanString_quote sense seen rest
  | cons piece pieces ih =>
    rw [List.flatMap_cons, List.append_assoc, scanString_piece, ih, List.foldl_cons]

/-- The pieces, if any, that are scanned from a place on up to a quote. -/
def ScannedAs (state : Sense × List Char) (cs : List Char) (value : Option String)
    (rest : List Char) : Prop :=
  ∃ pieces : List Piece, cs = pieces.flatMap Piece.chars ++ '"' :: rest ∧
    value = Piece.close (pieces.foldl Piece.extend state)

theorem ScannedAs.cons {state : Sense × List Char} {cs rest : List Char} {value : Option String}
    (piece : Piece) (h : ScannedAs (piece.extend state) cs value rest) :
    ScannedAs state (piece.chars ++ cs) value rest := by
  obtain ⟨pieces, rfl, hvalue⟩ := h
  exact ⟨piece :: pieces, by rw [List.flatMap_cons, List.append_assoc], hvalue⟩

/-- **What is scanned up to a quote is made of pieces.** -/
theorem scannedAs_of_scanString {sense : Sense} {seen cs rest : List Char} {value : Option String}
    (h : scanString sense seen cs = .closed value rest) :
    ScannedAs (sense, seen) cs value rest := by
  fun_induction scanString sense seen cs with
  | case2 => cases h; exact ⟨[], rfl, rfl⟩
  | case3 sense seen rest hsense =>
    cases h
    cases sense with
    | sound => exact absurd rfl hsense
    | _ => exact ⟨[], rfl, rfl⟩
  | case6 sense seen a b c d rest value hvalue sense' made hunit ih =>
    have hextend :
        (Piece.unit a b c d value hvalue).extend (sense, seen) = (sense', made ++ seen) := by
      rw [Piece.extend, hunit]
    exact .cons (.unit a b c d value hvalue) (hextend ▸ ih h)
  | case9 sense seen c rest _ _ value hvalue ih => exact .cons (.letter c value hvalue) (ih h)
  | case11 sense seen c rest hquote hslash hcontrol ih =>
    exact .cons (.plain c ⟨hquote, hslash, Nat.not_lt.mp hcontrol⟩) (ih h)
  | _ => cases h

/-- **A string is scanned up to the quote that ends it.** -/
theorem scanString_eq_closed_iff {cs rest : List Char} {value : Option String} :
    scanString .sound [] cs = .closed value rest ↔
      ∃ body, SpellsString value body ∧ cs = body ++ '"' :: rest := by
  constructor
  · intro h
    obtain ⟨pieces, hcs, hvalue⟩ := scannedAs_of_scanString h
    exact ⟨_, ⟨pieces, rfl, hvalue⟩, hcs⟩
  · rintro ⟨_, ⟨pieces, rfl, rfl⟩, rfl⟩
    exact scanString_pieces pieces .sound [] rest

/-! ## Numbers -/

/-- One digit or more. -/
def Digits (cs : List Char) : Prop := cs ≠ [] ∧ ∀ c ∈ cs, isDigit c = true

/-- A whole part: a zero alone, or digits that do not start with zero. -/
inductive SpellsWhole : Nat → List Char → Prop
  | zero : SpellsWhole 0 ['0']
  | digits {cs : List Char} (h : Digits cs) (hzero : cs.head? ≠ some '0') :
      SpellsWhole (digitsValue 0 cs) cs

/-- A fraction part, which may be missing. -/
inductive SpellsFraction : Option (List Nat) → List Char → Prop
  | none : SpellsFraction none []
  | digits {cs : List Char} (h : Digits cs) : SpellsFraction (some (cs.map digitValue)) ('.' :: cs)

/-- The sign of an exponent, which may be missing. -/
inductive SpellsSign : Bool → List Char → Prop
  | none : SpellsSign false []
  | plus : SpellsSign false ['+']
  | minus : SpellsSign true ['-']

/-- An exponent part, which may be missing. -/
inductive SpellsExponent : Option Exponent → List Char → Prop
  | none : SpellsExponent none []
  | digits {c : Char} {negative : Bool} {sign cs : List Char} (hc : c = 'e' ∨ c = 'E')
      (hsign : SpellsSign negative sign) (h : Digits cs) :
      SpellsExponent (some ⟨negative, digitsValue 0 cs⟩) (c :: (sign ++ cs))

/-- **The characters of a number after its sign.** -/
def SpellsUnsigned (n : Numeral) (cs : List Char) : Prop :=
  ∃ whole fraction exponent, SpellsWhole n.whole whole ∧ SpellsFraction n.fraction fraction ∧
    SpellsExponent n.exponent exponent ∧ cs = whole ++ (fraction ++ exponent)

/-- Whether a character may stand after a value: a blank, a comma, a closing bracket or brace. -/
def isStop (c : Char) : Bool := isSpace c || c == ',' || c == ']' || c == '\x7d'

/-- Nothing follows, or what may follow a value. -/
def Stops (rest : List Char) : Prop := ∀ c ∈ rest.head?, isStop c = true

/-- No character of the kind follows. -/
def Misses (p : Char → Bool) (rest : List Char) : Prop := ∀ c ∈ rest.head?, p c = false

theorem stops_nil : Stops [] := nofun

theorem stops_cons {c : Char} (h : isStop c = true) (rest : List Char) : Stops (c :: rest) := by
  rintro _ ⟨⟩
  exact h

theorem Stops.misses {rest : List Char} (h : Stops rest) {p : Char → Bool}
    (hp : [' ', '\n', '\t', '\r', ',', ']', '\x7d'].any p = false) : Misses p rest := by
  intro c hc
  have hstop := h c hc
  simp only [isStop, isSpace, Bool.or_eq_true, beq_iff_eq, or_assoc] at hstop
  exact Bool.eq_false_iff.mpr (List.any_eq_false.mp hp c (by simpa using hstop))

theorem Misses.takeWhile {p : Char → Bool} {rest : List Char} (h : Misses p rest) :
    rest.takeWhile p = [] := by
  cases rest with
  | nil => rfl
  | cons c rest => rw [List.takeWhile_cons_of_neg (by simp [h c rfl])]

theorem Misses.dropWhile {p : Char → Bool} {rest : List Char} (h : Misses p rest) :
    rest.dropWhile p = rest := by
  cases rest with
  | nil => rfl
  | cons c rest => rw [List.dropWhile_cons_of_neg (by simp [h c rfl])]

theorem misses_dropWhile (p : Char → Bool) (cs : List Char) : Misses p (cs.dropWhile p) := by
  intro c hc
  have := List.head?_dropWhile_not p cs
  rw [Option.mem_def.mp hc] at this
  exact this

section Digits

variable {cs rest : List Char}

theorem Digits.takeWhile (h : Digits cs) (hrest : Misses isDigit rest) :
    (cs ++ rest).takeWhile isDigit = cs := by
  rw [List.takeWhile_append_of_pos h.2, hrest.takeWhile, List.append_nil]

theorem Digits.dropWhile (h : Digits cs) (hrest : Misses isDigit rest) :
    (cs ++ rest).dropWhile isDigit = rest := by
  rw [List.dropWhile_append_of_pos h.2, hrest.dropWhile]

theorem Digits.isEmpty (h : Digits cs) : cs.isEmpty = false :=
  List.isEmpty_eq_false_iff.mpr h.1

theorem digits_takeWhile (h : (cs.takeWhile isDigit).isEmpty = false) :
    Digits (cs.takeWhile isDigit) :=
  ⟨List.isEmpty_eq_false_iff.mp h, List.all_eq_true.mp List.all_takeWhile⟩

end Digits

/-! ### Part by part -/

theorem scanWhole_append {n : Nat} {cs rest : List Char} (h : SpellsWhole n cs)
    (hrest : Misses isDigit rest) : scanWhole (cs ++ rest) = .ok (n, rest) := by
  cases h with
  | zero =>
    cases rest with
    | nil => rfl
    | cons d rest =>
      have hd : isDigit d = false := hrest d rfl
      simp [scanWhole, hd]
  | digits hdigits hzero =>
    have htake := hdigits.takeWhile hrest
    have hdrop := hdigits.dropWhile hrest
    obtain ⟨c, cs, rfl⟩ := List.exists_cons_of_ne_nil hdigits.1
    rw [List.cons_append] at htake hdrop ⊢
    rw [scanWhole, if_pos (hdigits.2 c List.mem_cons_self), htake, hdrop]
    rintro rfl
    exact hzero rfl

theorem exists_of_scanWhole {cs rest : List Char} {n : Nat} (h : scanWhole cs = .ok (n, rest)) :
    ∃ whole, SpellsWhole n whole ∧ cs = whole ++ rest := by
  have hzero (rest' : List Char) (h : Except.ok (0, rest') = (.ok (n, rest) : Except Flaw _)) :
      ∃ whole, SpellsWhole n whole ∧ '0' :: rest' = whole ++ rest := by
    cases h
    exact ⟨['0'], .zero, rfl⟩
  rw [scanWhole.eq_def] at h
  split at h
  · cases h
  · next rest' =>
    split at h
    · split at h
      · cases h
      · exact hzero _ h
    · exact hzero _ h
  · next c tail hne =>
    split at h
    · next hc =>
      cases h
      have hdigits : Digits ((c :: tail).takeWhile isDigit) :=
        digits_takeWhile (by rw [List.takeWhile_cons_of_pos hc]; rfl)
      refine ⟨_, .digits hdigits ?_, List.takeWhile_append_dropWhile.symm⟩
      rw [List.takeWhile_cons_of_pos hc]
      rintro ⟨⟩
      exact hne rfl
    · cases h

theorem scanFraction_append {f : Option (List Nat)} {cs rest : List Char} (h : SpellsFraction f cs)
    (hdigit : Misses isDigit rest) (hpoint : Misses (· == '.') rest) :
    scanFraction (cs ++ rest) = .ok (f, rest) := by
  cases h with
  | none =>
    cases rest with
    | nil => rfl
    | cons c rest =>
      have hc : c ≠ '.' := by simpa using hpoint c rfl
      rw [List.nil_append, scanFraction]
      rintro _ ⟨⟩
      exact hc rfl
  | digits hdigits =>
    simp only [List.cons_append, scanFraction, hdigits.takeWhile hdigit, hdigits.dropWhile hdigit,
      hdigits.isEmpty, Bool.false_eq_true, if_false]

theorem exists_of_scanFraction {cs rest : List Char} {f : Option (List Nat)}
    (h : scanFraction cs = .ok (f, rest)) :
    ∃ fraction, SpellsFraction f fraction ∧ cs = fraction ++ rest := by
  rw [scanFraction.eq_def] at h
  split at h
  · next tail =>
    simp only at h
    split at h
    · cases h
    · next hne =>
      cases h
      exact ⟨_, .digits (digits_takeWhile (Bool.eq_false_iff.mpr hne)),
        by rw [List.cons_append, List.takeWhile_append_dropWhile]⟩
  · cases h
    exact ⟨[], .none, rfl⟩

/-- The sign of an exponent, and what follows it. -/
def takeSign : List Char → Bool × List Char
  | '+' :: rest => (false, rest)
  | '-' :: rest => (true, rest)
  | rest => (false, rest)

theorem scanExponent_mark {c : Char} (hc : c = 'e' ∨ c = 'E') (cs : List Char) :
    scanExponent (c :: cs) =
      if ((takeSign cs).2.takeWhile isDigit).isEmpty then
        .error (digitFlaw ((takeSign cs).2.dropWhile isDigit))
      else .ok (some ⟨(takeSign cs).1, digitsValue 0 ((takeSign cs).2.takeWhile isDigit)⟩,
        (takeSign cs).2.dropWhile isDigit) := by
  rw [scanExponent.eq_def]
  simp only [if_pos hc]
  rfl

theorem takeSign_append {negative : Bool} {sign cs : List Char} (hsign : SpellsSign negative sign)
    (h : Digits cs) (rest : List Char) :
    takeSign (sign ++ (cs ++ rest)) = (negative, cs ++ rest) := by
  cases hsign with
  | none =>
    obtain ⟨d, ds, rfl⟩ := List.exists_cons_of_ne_nil h.1
    have hd : isDigit d = true := h.2 d List.mem_cons_self
    rw [List.nil_append, List.cons_append, takeSign]
    · rintro _ ⟨⟩
      cases hd
    · rintro _ ⟨⟩
      cases hd
  | plus => rfl
  | minus => rfl

theorem spellsSign_takeSign (cs : List Char) :
    ∃ sign, SpellsSign (takeSign cs).1 sign ∧ cs = sign ++ (takeSign cs).2 := by
  rw [takeSign.eq_def]
  split
  · exact ⟨_, .plus, rfl⟩
  · exact ⟨_, .minus, rfl⟩
  · exact ⟨_, .none, rfl⟩

theorem scanExponent_append {x : Option Exponent} {cs rest : List Char} (h : SpellsExponent x cs)
    (hrest : Stops rest) : scanExponent (cs ++ rest) = .ok (x, rest) := by
  cases h with
  | none =>
    cases rest with
    | nil => rfl
    | cons c rest =>
      have hmark : Misses (fun c => c == 'e' || c == 'E') (c :: rest) := hrest.misses (by decide)
      have hc : ¬ (c = 'e' ∨ c = 'E') := by simpa using hmark c rfl
      rw [List.nil_append, scanExponent.eq_def]
      exact if_neg hc
  | digits hc hsign hdigits =>
    have hdigit : Misses isDigit rest := hrest.misses (by decide)
    rw [List.cons_append, List.append_assoc, scanExponent_mark hc, takeSign_append hsign hdigits,
      hdigits.takeWhile hdigit, hdigits.dropWhile hdigit, hdigits.isEmpty]
    rfl

theorem exists_of_scanExponent {cs rest : List Char} {x : Option Exponent}
    (h : scanExponent cs = .ok (x, rest)) :
    ∃ exponent, SpellsExponent x exponent ∧ cs = exponent ++ rest := by
  cases cs with
  | nil =>
    cases h
    exact ⟨[], .none, rfl⟩
  | cons c cs =>
    by_cases hc : c = 'e' ∨ c = 'E'
    · rw [scanExponent_mark hc] at h
      split at h
      · cases h
      · next hne =>
        cases h
        obtain ⟨sign, hsign, hcs⟩ := spellsSign_takeSign cs
        refine ⟨_, .digits hc hsign (digits_takeWhile (Bool.eq_false_iff.mpr hne)), ?_⟩
        rw [List.cons_append, List.append_assoc, List.takeWhile_append_dropWhile, ← hcs]
    · rw [scanExponent.eq_def] at h
      simp only [if_neg hc] at h
      cases h
      exact ⟨[], .none, rfl⟩

/-! ### As a whole -/

theorem misses_exponent {x : Option Exponent} {cs rest : List Char} (h : SpellsExponent x cs)
    (hrest : Stops rest) {p : Char → Bool}
    (hp : ['e', 'E', ' ', '\n', '\t', '\r', ',', ']', '\x7d'].any p = false) :
    Misses p (cs ++ rest) := by
  rw [List.any_cons, List.any_cons, Bool.or_eq_false_iff, Bool.or_eq_false_iff] at hp
  obtain ⟨hsmall, hlarge, hp⟩ := hp
  cases h with
  | none => exact hrest.misses hp
  | digits hc _ _ =>
    rintro _ ⟨⟩
    rcases hc with rfl | rfl
    · exact hsmall
    · exact hlarge

theorem misses_fraction {f : Option (List Nat)} {cs rest : List Char} (h : SpellsFraction f cs)
    (hrest : Misses isDigit rest) : Misses isDigit (cs ++ rest) := by
  cases h with
  | none => exact hrest
  | digits _ =>
    rintro _ ⟨⟩
    rfl

/-- **A number is scanned up to what may follow it**, from after its sign. -/
theorem scanNumber_append {n : Numeral} {cs rest : List Char} (h : SpellsUnsigned n cs)
    (hrest : Stops rest) : scanNumber n.negative (cs ++ rest) = (.number n, rest) := by
  obtain ⟨whole, fraction, exponent, hwhole, hfraction, hexponent, rfl⟩ := h
  have hdigit : Misses isDigit (exponent ++ rest) := misses_exponent hexponent hrest (by decide)
  have hpoint : Misses (· == '.') (exponent ++ rest) := misses_exponent hexponent hrest (by decide)
  have hdigit' := misses_fraction hfraction hdigit
  rw [List.append_assoc, List.append_assoc, scanNumber]
  simp only [scanWhole_append hwhole hdigit', scanFraction_append hfraction hdigit hpoint,
    scanExponent_append hexponent hrest, bind, Except.bind]

theorem exists_of_scanNumber {negative : Bool} {cs rest : List Char} {j : Json}
    (h : scanNumber negative cs = (j, rest)) (hj : j.flaw? = none) :
    ∃ n body, j = .number n ∧ n.negative = negative ∧ SpellsUnsigned n body ∧
      cs = body ++ rest := by
  rw [scanNumber] at h
  split at h
  · next hscanned =>
    cases h
    obtain ⟨⟨whole, _⟩, hwhole, hscanned⟩ := bind_eq_ok_iff.mp hscanned
    obtain ⟨⟨fraction, _⟩, hfraction, hscanned⟩ := bind_eq_ok_iff.mp hscanned
    obtain ⟨⟨exponent, _⟩, hexponent, hscanned⟩ := bind_eq_ok_iff.mp hscanned
    cases hscanned
    obtain ⟨w, hw, rfl⟩ := exists_of_scanWhole hwhole
    obtain ⟨f, hf, rfl⟩ := exists_of_scanFraction hfraction
    obtain ⟨x, hx, rfl⟩ := exists_of_scanExponent hexponent
    exact ⟨_, _, rfl, rfl, ⟨w, f, x, hw, hf, hx, rfl⟩, by simp⟩
  · cases h
    cases hj

/-! ## Words -/

theorem exists_of_scanWord {value j : Json} {word cs rest : List Char}
    (h : scanWord value word cs = (j, rest)) (hj : j.flaw? = none) :
    j = value ∧ cs = word ++ rest := by
  induction word generalizing cs with
  | nil =>
    cases h
    exact ⟨rfl, rfl⟩
  | cons w word ih =>
    cases cs with
    | nil =>
      cases h
      cases hj
    | cons c cs =>
      rw [scanWord] at h
      split at h
      · next hc =>
        obtain ⟨hvalue, rfl⟩ := ih h
        exact ⟨hvalue, by rw [hc, List.cons_append]⟩
      · cases h
        cases hj

end CatalogFeed.Json
