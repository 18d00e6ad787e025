import CatalogFeed.Proofs.Json.Token
import Mathlib.Tactic.Choose

/-!
# Proofs/Json/Grammar — which texts are read as which documents

`Spells j cs` is the grammar: the characters are a way to write the document, with blanks wherever
the format allows them.  The reader makes a document of a text if and only if the grammar does.

* `Spells.readFrom`: what is spelled is read, before anything that may stand after it;
* `foremost_of_readValue`: what is read without a flaw was spelled;
* `isText_iff`: whole texts.
-/

namespace CatalogFeed.Json

/-! ## The grammar -/

/-- Characters that are all blanks. -/
def Blank (cs : List Char) : Prop := ∀ c ∈ cs, isSpace c = true

/-- A value inside a text, with the blanks around it. -/
structure Part where
  before : List Char
  document : Json
  chars : List Char
  after : List Char

/-- A member inside a text: its name, with the characters between the quotes and the blanks around
them, and its value. -/
structure Entry where
  before : List Char
  key : Option String
  name : List Char
  after : List Char
  value : Part

def Part.text (p : Part) : List Char := p.before ++ (p.chars ++ p.after)

/-- The characters of a member after its opening quote. -/
def Entry.tail (e : Entry) : List Char := e.name ++ '"' :: (e.after ++ ':' :: e.value.text)

def Entry.text (e : Entry) : List Char := e.before ++ '"' :: e.tail

theorem Entry.length_text (e : Entry) : e.text.length = e.before.length + (e.tail.length + 1) := by
  rw [text, List.length_append, List.length_cons]

/-- The member of the object. -/
def Entry.member (e : Entry) : Option String × Json := (e.key, e.value.document)

/-- Parts with commas between. -/
def commas (texts : List (List Char)) : List Char := [','].intercalate texts

/-- **The characters spell the document.** -/
inductive Spells : Json → List Char → Prop
  | null : Spells .null ['n', 'u', 'l', 'l']
  | yes : Spells (.bool true) ['t', 'r', 'u', 'e']
  | no : Spells (.bool false) ['f', 'a', 'l', 's', 'e']
  | number {n : Numeral} {cs : List Char} (h : SpellsUnsigned n cs) :
      Spells (.number n) ((if n.negative then ['-'] else []) ++ cs)
  | string {value : Option String} {cs : List Char} (h : SpellsString value cs) :
      Spells (.string value) ('"' :: (cs ++ ['"']))
  | noItems {inside : List Char} (h : Blank inside) :
      Spells (.array [] none) ('[' :: (inside ++ [']']))
  | items {parts : List Part} (hne : parts ≠ [])
      (hblank : ∀ p ∈ parts, Blank p.before ∧ Blank p.after)
      (h : ∀ p ∈ parts, Spells p.document p.chars) :
      Spells (.array (parts.map Part.document) none)
        ('[' :: (commas (parts.map Part.text) ++ [']']))
  | noMembers {inside : List Char} (h : Blank inside) :
      Spells (.object [] none) ('\x7b' :: (inside ++ ['\x7d']))
  | members {entries : List Entry} (hne : entries ≠ [])
      (hname : ∀ e ∈ entries, Blank e.before ∧ SpellsString e.key e.name ∧ Blank e.after)
      (hblank : ∀ e ∈ entries, Blank e.value.before ∧ Blank e.value.after)
      (h : ∀ e ∈ entries, Spells e.value.document e.value.chars) :
      Spells (.object (entries.map Entry.member) none)
        ('\x7b' :: (commas (entries.map Entry.text) ++ ['\x7d']))

/-- The part is a value between blanks. -/
structure Part.Proper (p : Part) : Prop where
  before : Blank p.before
  spells : Spells p.document p.chars
  after : Blank p.after

/-- The entry is a name and a value between blanks. -/
structure Entry.Proper (e : Entry) : Prop where
  before : Blank e.before
  name : SpellsString e.key e.name
  after : Blank e.after
  value : e.value.Proper

/-- **The text is a way to write the document.** -/
def IsText (text : String) (j : Json) : Prop :=
  ∃ p : Part, p.Proper ∧ p.document = j ∧ text.toList = p.text

theorem Spells.flaw? {j : Json} {cs : List Char} (h : Spells j cs) : j.flaw? = none := by
  cases h <;> rfl

/-! ## Blanks -/

theorem skipSpace_append {before : List Char} (h : Blank before) (cs : List Char) :
    skipSpace (before ++ cs) = skipSpace cs :=
  List.dropWhile_append_of_pos h

theorem skipSpace_cons {c : Char} (h : isSpace c = false) (cs : List Char) :
    skipSpace (c :: cs) = c :: cs :=
  List.dropWhile_cons_of_neg (by simp [h])

theorem skipSpace_append_cons {before : List Char} (h : Blank before) {c : Char}
    (hc : isSpace c = false) (cs : List Char) : skipSpace (before ++ c :: cs) = c :: cs := by
  rw [skipSpace_append h, skipSpace_cons hc]

/-- Blanks, and what comes after them. -/
theorem exists_skipSpace (cs : List Char) :
    ∃ before, Blank before ∧ cs = before ++ skipSpace cs :=
  ⟨cs.takeWhile isSpace, List.all_eq_true.mp List.all_takeWhile,
    List.takeWhile_append_dropWhile.symm⟩

theorem readValue_skipSpace (fuel : Nat) (cs : List Char) :
    readValue fuel (skipSpace cs) = readValue fuel cs := by
  have hskip : skipSpace (skipSpace cs) = skipSpace cs := (misses_dropWhile isSpace cs).dropWhile
  cases fuel with
  | zero => rfl
  | succ fuel => rw [readValue, readValue, hskip]

theorem readValue_append {before : List Char} (h : Blank before) (fuel : Nat) (cs : List Char) :
    readValue fuel (before ++ cs) = readValue fuel cs := by
  rw [← readValue_skipSpace, skipSpace_append h, readValue_skipSpace]

theorem readItems_skipSpace (fuel : Nat) (cs : List Char) :
    readItems fuel (skipSpace cs) = readItems fuel cs := by
  cases fuel with
  | zero => rfl
  | succ fuel => rw [readItems, readItems, readValue_skipSpace]

theorem stops_append {after : List Char} (h : Blank after) {rest : List Char} (hrest : Stops rest) :
    Stops (after ++ rest) := by
  cases after with
  | nil => exact hrest
  | cons c after =>
    refine stops_cons ?_ _
    rw [isStop, h c List.mem_cons_self]
    rfl

/-! ## What is spelled is read -/

/-- The document is read from its characters with any fuel that they may need, whatever follows. -/
def ReadFrom (j : Json) (cs : List Char) : Prop :=
  ∀ fuel rest, cs.length ≤ fuel → Stops rest → readValue fuel (cs ++ rest) = (j, rest)

theorem commas_singleton (text : List Char) : commas [text] = text :=
  List.intercalate_singleton

theorem commas_cons {α : Type} (text : α → List Char) (a b : α) (l : List α) :
    commas ((a :: b :: l).map text) = text a ++ ',' :: commas ((b :: l).map text) := by
  rw [List.map_cons, List.map_cons, commas, List.intercalate_cons_cons, List.append_assoc]
  rfl

section Sequences

variable {fuel : Nat}

/-- A part is read up to the sign after it. -/
theorem Part.Proper.readValue {p : Part} (hp : p.Proper) (hread : ReadFrom p.document p.chars)
    (hfuel : p.text.length ≤ fuel) {c : Char} (hc : isStop c = true) (rest : List Char) :
    readValue fuel (p.text ++ c :: rest) = (p.document, p.after ++ c :: rest) := by
  have hlength : p.chars.length ≤ fuel := by
    simp only [Part.text, List.length_append] at hfuel
    omega
  have hstops : Stops (p.after ++ c :: rest) := stops_append hp.after (stops_cons hc rest)
  rw [Part.text, List.append_assoc, List.append_assoc, readValue_append hp.before,
    hread fuel _ hlength hstops]

theorem readItems_last {p : Part} (hp : p.Proper) (hread : ReadFrom p.document p.chars)
    (hfuel : p.text.length ≤ fuel) (rest : List Char) :
    readItems (fuel + 1) (p.text ++ ']' :: rest) = ([p.document], none, rest) := by
  have hskip : skipSpace (p.after ++ ']' :: rest) = ']' :: rest :=
    skipSpace_append_cons hp.after rfl rest
  rw [readItems, hp.readValue hread hfuel rfl]
  simp only [hp.spells.flaw?, hskip]

theorem readItems_comma {p : Part} (hp : p.Proper) (hread : ReadFrom p.document p.chars)
    (hfuel : p.text.length ≤ fuel) (rest : List Char) :
    readItems (fuel + 1) (p.text ++ ',' :: rest) =
      (p.document :: (readItems fuel rest).1, (readItems fuel rest).2) := by
  have hskip : skipSpace (p.after ++ ',' :: rest) = ',' :: rest :=
    skipSpace_append_cons hp.after rfl rest
  rw [readItems, hp.readValue hread hfuel rfl]
  simp only [hp.spells.flaw?, hskip]

/-- **Items are read** up to the bracket. -/
theorem readItems_commas {parts : List Part} (hne : parts ≠ [])
    (h : ∀ p ∈ parts, p.Proper ∧ ReadFrom p.document p.chars) (rest : List Char)
    (hfuel : (commas (parts.map Part.text)).length < fuel) :
    readItems fuel (commas (parts.map Part.text) ++ ']' :: rest) =
      (parts.map Part.document, none, rest) := by
  induction parts generalizing fuel with
  | nil => exact absurd rfl hne
  | cons p parts ih =>
    obtain ⟨⟨hp, hread⟩, hparts⟩ := List.forall_mem_cons.mp h
    obtain ⟨fuel, rfl⟩ := Nat.exists_eq_succ_of_ne_zero (Nat.ne_zero_of_lt hfuel)
    cases parts with
    | nil =>
      rw [List.map_singleton, commas_singleton] at hfuel ⊢
      exact readItems_last hp hread (by omega) rest
    | cons p' parts =>
      rw [commas_cons] at hfuel ⊢
      rw [List.length_append, List.length_cons] at hfuel
      have hless : (commas ((p' :: parts).map Part.text)).length < fuel := by omega
      have hrest := ih (by simp) hparts hless
      rw [List.append_assoc, List.cons_append, readItems_comma hp hread (by omega), hrest]
      rfl

/-- What is read of a member before the sign after it. -/
theorem readMembers_tail {e : Entry} (he : e.Proper) (cs : List Char) :
    scanString .sound [] (e.tail ++ cs) =
      .closed e.key (e.after ++ ':' :: (e.value.text ++ cs)) ∧
    skipSpace (e.after ++ ':' :: (e.value.text ++ cs)) = ':' :: (e.value.text ++ cs) := by
  refine ⟨scanString_eq_closed_iff.mpr ⟨e.name, he.name, ?_⟩, skipSpace_append_cons he.after rfl _⟩
  simp [Entry.tail]

theorem readMembers_last {e : Entry} (he : e.Proper)
    (hread : ReadFrom e.value.document e.value.chars) (hfuel : e.tail.length ≤ fuel)
    (rest : List Char) :
    readMembers (fuel + 1) (e.tail ++ '\x7d' :: rest) = ([e.member], none, rest) := by
  have hlength : e.value.text.length ≤ fuel := by
    simp only [Entry.tail, List.length_append, List.length_cons] at hfuel
    omega
  have hskip : skipSpace (e.value.after ++ '\x7d' :: rest) = '\x7d' :: rest :=
    skipSpace_append_cons he.value.after rfl rest
  have hvalue := he.value.readValue hread hlength (c := '\x7d') rfl rest
  obtain ⟨hname, hcolon⟩ := readMembers_tail he ('\x7d' :: rest)
  rw [readMembers, hname]
  simp only [hcolon, hvalue, he.value.spells.flaw?, hskip]
  rfl

theorem readMembers_comma {e e' : Entry} (he : e.Proper)
    (hread : ReadFrom e.value.document e.value.chars) (hbefore : Blank e'.before)
    (hfuel : e.tail.length ≤ fuel) (cs : List Char) :
    readMembers (fuel + 1) (e.tail ++ ',' :: (e'.before ++ '"' :: cs)) =
      (e.member :: (readMembers fuel cs).1, (readMembers fuel cs).2) := by
  have hlength : e.value.text.length ≤ fuel := by
    simp only [Entry.tail, List.length_append, List.length_cons] at hfuel
    omega
  have hskip : skipSpace (e.value.after ++ ',' :: (e'.before ++ '"' :: cs)) =
      ',' :: (e'.before ++ '"' :: cs) := skipSpace_append_cons he.value.after rfl _
  have hquote : skipSpace (e'.before ++ '"' :: cs) = '"' :: cs :=
    skipSpace_append_cons hbefore rfl cs
  have hvalue := he.value.readValue hread hlength (c := ',') rfl (e'.before ++ '"' :: cs)
  obtain ⟨hname, hcolon⟩ := readMembers_tail he (',' :: (e'.before ++ '"' :: cs))
  rw [readMembers, hname]
  simp only [hcolon, hvalue, he.value.spells.flaw?, hskip, hquote]
  rfl

/-- **Members are read** up to the brace, from after the first quote. -/
theorem readMembers_commas {e : Entry} {entries : List Entry}
    (h : ∀ e' ∈ e :: entries, e'.Proper ∧ ReadFrom e'.value.document e'.value.chars)
    (rest : List Char) (hfuel : (commas ((e :: entries).map Entry.text)).length < fuel) :
    ∃ cs, commas ((e :: entries).map Entry.text) ++ '\x7d' :: rest = e.before ++ '"' :: cs ∧
      readMembers fuel cs = ((e :: entries).map Entry.member, none, rest) := by
  induction entries generalizing e fuel with
  | nil =>
    obtain ⟨he, hread⟩ := h e List.mem_cons_self
    obtain ⟨fuel, rfl⟩ := Nat.exists_eq_succ_of_ne_zero (Nat.ne_zero_of_lt hfuel)
    rw [List.map_singleton, commas_singleton] at hfuel ⊢
    rw [e.length_text] at hfuel
    refine ⟨e.tail ++ '\x7d' :: rest, by simp [Entry.text], ?_⟩
    exact readMembers_last he hread (by omega) rest
  | cons e' entries ih =>
    obtain ⟨⟨he, hread⟩, hentries⟩ := List.forall_mem_cons.mp h
    obtain ⟨fuel, rfl⟩ := Nat.exists_eq_succ_of_ne_zero (Nat.ne_zero_of_lt hfuel)
    rw [commas_cons] at hfuel ⊢
    rw [List.length_append, List.length_cons, e.length_text] at hfuel
    have hless : (commas ((e' :: entries).map Entry.text)).length < fuel := by omega
    obtain ⟨cs, hcs, hrest⟩ := ih hentries hless
    have hbefore : Blank e'.before := (hentries e' List.mem_cons_self).1.before
    refine ⟨e.tail ++ ',' :: (e'.before ++ '"' :: cs), ?_, ?_⟩
    · rw [List.append_assoc, List.cons_append, hcs, Entry.text]
      simp
    · rw [readMembers_comma he hread hbefore (by omega), hrest]
      rfl

end Sequences

/-! ### One value -/

/-- A digit is no other character that a value may begin with. -/
theorem ne_of_isDigit {c d : Char} (hc : isDigit c = true) (hd : isDigit d = false) : c ≠ d := by
  rintro rfl
  exact absurd (hc.symm.trans hd) (by decide)

theorem isSpace_of_isDigit {c : Char} (hc : isDigit c = true) : isSpace c = false := by
  simp only [isSpace, Bool.or_eq_false_iff, beq_eq_false_iff_ne]
  exact ⟨⟨⟨ne_of_isDigit hc rfl, ne_of_isDigit hc rfl⟩, ne_of_isDigit hc rfl⟩,
    ne_of_isDigit hc rfl⟩

theorem SpellsWhole.digits_chars {n : Nat} {cs : List Char} (h : SpellsWhole n cs) :
    Digits cs := by
  cases h with
  | zero => exact ⟨by simp, by simp [isDigit]⟩
  | digits h _ => exact h

theorem SpellsUnsigned.exists_cons {n : Numeral} {cs : List Char} (h : SpellsUnsigned n cs) :
    ∃ c tail, cs = c :: tail ∧ isDigit c = true := by
  obtain ⟨whole, fraction, exponent, hwhole, -, -, rfl⟩ := h
  obtain ⟨c, tail, rfl⟩ := List.exists_cons_of_ne_nil hwhole.digits_chars.1
  exact ⟨c, _, rfl, hwhole.digits_chars.2 c List.mem_cons_self⟩

/-- No value begins with a blank or with a closing bracket. -/
theorem Spells.exists_cons {j : Json} {cs : List Char} (h : Spells j cs) :
    ∃ c tail, cs = c :: tail ∧ isSpace c = false ∧ c ≠ ']' := by
  cases h with
  | @number n cs h =>
    obtain ⟨c, tail, rfl, hc⟩ := h.exists_cons
    cases n.negative with
    | true => exact ⟨'-', _, rfl, rfl, by decide⟩
    | false => exact ⟨c, tail, rfl, isSpace_of_isDigit hc, ne_of_isDigit hc rfl⟩
  | _ => exact ⟨_, _, rfl, rfl, by decide⟩

section Values

variable (fuel : Nat)

theorem readValue_digit {c : Char} (h : isDigit c = true) (cs : List Char) :
    readValue (fuel + 1) (c :: cs) = scanNumber false (c :: cs) := by
  have hn : c ≠ 'n' := ne_of_isDigit h rfl
  have ht : c ≠ 't' := ne_of_isDigit h rfl
  have hf : c ≠ 'f' := ne_of_isDigit h rfl
  have hminus : c ≠ '-' := ne_of_isDigit h rfl
  simp only [readValue, skipSpace_cons (isSpace_of_isDigit h), hn, ht, hf, hminus, h, if_true,
    if_false]

theorem readValue_string (cs : List Char) :
    readValue (fuel + 1) ('"' :: cs) =
      match scanString .sound [] cs with
      | .closed value rest => (.string value, rest)
      | .stopped flaw => (.broken flaw, []) := rfl

theorem readValue_array (cs : List Char) :
    readValue (fuel + 1) ('[' :: cs) =
      match skipSpace cs with
      | [] => (.array [] (some (.of .cutShort)), [])
      | ']' :: rest => (.array [] none, rest)
      | rest => (.array (readItems fuel rest).1 (readItems fuel rest).2.1,
          (readItems fuel rest).2.2) := rfl

theorem readValue_object (cs : List Char) :
    readValue (fuel + 1) ('\x7b' :: cs) =
      match skipSpace cs with
      | [] => (.object [] (some (.of .cutShort)), [])
      | '\x7d' :: rest => (.object [] none, rest)
      | '"' :: rest => (.object (readMembers fuel rest).1 (readMembers fuel rest).2.1,
          (readMembers fuel rest).2.2)
      | _ => (.object [] (some (.of .malformed)), []) := rfl

theorem readValue_quote {value : Option String} {cs : List Char} (h : SpellsString value cs)
    (rest : List Char) :
    readValue (fuel + 1) ('"' :: (cs ++ '"' :: rest)) = (.string value, rest) := by
  rw [readValue_string, scanString_eq_closed_iff.mpr ⟨cs, h, rfl⟩]

theorem readValue_noItems {inside : List Char} (h : Blank inside) (rest : List Char) :
    readValue (fuel + 1) ('[' :: (inside ++ ']' :: rest)) = (.array [] none, rest) := by
  rw [readValue_array, skipSpace_append_cons h rfl]
  rfl

theorem readValue_bracket {c : Char} {cs tail : List Char} (h : skipSpace cs = c :: tail)
    (hc : c ≠ ']') : readValue (fuel + 1) ('[' :: cs) =
      (.array (readItems fuel cs).1 (readItems fuel cs).2.1, (readItems fuel cs).2.2) := by
  rw [readValue_array, ← readItems_skipSpace fuel cs, h]
  split
  · contradiction
  · next h => exact absurd (List.cons.inj h).1 hc
  · rfl

theorem readValue_noMembers {inside : List Char} (h : Blank inside) (rest : List Char) :
    readValue (fuel + 1) ('\x7b' :: (inside ++ '\x7d' :: rest)) = (.object [] none, rest) := by
  rw [readValue_object, skipSpace_append_cons h rfl]
  rfl

theorem readValue_brace {before : List Char} (h : Blank before) (cs : List Char) :
    readValue (fuel + 1) ('\x7b' :: (before ++ '"' :: cs)) =
      (.object (readMembers fuel cs).1 (readMembers fuel cs).2.1, (readMembers fuel cs).2.2) := by
  rw [readValue_object, skipSpace_append_cons h rfl]
  rfl

end Values

theorem readFrom_number {n : Numeral} {cs : List Char} (h : SpellsUnsigned n cs) :
    ReadFrom (.number n) ((if n.negative then ['-'] else []) ++ cs) := by
  intro fuel rest hfuel hrest
  obtain ⟨c, tail, rfl, hc⟩ := h.exists_cons
  have hscan := scanNumber_append h hrest
  rw [List.length_append, List.length_cons] at hfuel
  obtain ⟨fuel, rfl⟩ := Nat.exists_eq_succ_of_ne_zero (show fuel ≠ 0 by omega)
  cases hsign : n.negative with
  | true =>
    rw [hsign] at hscan
    exact hscan
  | false =>
    rw [hsign] at hscan
    exact (readValue_digit fuel hc _).trans hscan

/-- Items begin as the first of them does. -/
theorem exists_commas (p : Part) (parts : List Part) :
    ∃ more, commas ((p :: parts).map Part.text) = p.before ++ (p.chars ++ more) := by
  cases parts with
  | nil => exact ⟨p.after, commas_singleton p.text⟩
  | cons p' parts =>
    refine ⟨p.after ++ ',' :: commas ((p' :: parts).map Part.text), ?_⟩
    rw [commas_cons, Part.text]
    simp only [List.append_assoc]

theorem readFrom_items {parts : List Part} (hne : parts ≠ [])
    (h : ∀ p ∈ parts, p.Proper ∧ ReadFrom p.document p.chars) :
    ReadFrom (.array (parts.map Part.document) none)
      ('[' :: (commas (parts.map Part.text) ++ [']'])) := by
  intro fuel rest hfuel _
  rw [List.length_cons, List.length_append, List.length_singleton] at hfuel
  obtain ⟨fuel, rfl⟩ := Nat.exists_eq_succ_of_ne_zero (show fuel ≠ 0 by omega)
  have hless : (commas (parts.map Part.text)).length < fuel := by omega
  have hitems := readItems_commas hne h rest hless
  obtain ⟨p, parts, rfl⟩ := List.exists_cons_of_ne_nil hne
  obtain ⟨hp, -⟩ := h p List.mem_cons_self
  obtain ⟨more, hmore⟩ := exists_commas p parts
  obtain ⟨c, tail, hchars, hspace, hc⟩ := hp.spells.exists_cons
  have hskip : skipSpace (commas ((p :: parts).map Part.text) ++ ']' :: rest) =
      c :: (tail ++ (more ++ ']' :: rest)) := by
    rw [hmore, hchars, List.append_assoc, List.append_assoc, List.cons_append,
      skipSpace_append_cons hp.before hspace]
  rw [List.cons_append, List.append_assoc, List.singleton_append, readValue_bracket fuel hskip hc,
    hitems]

theorem readFrom_members {entries : List Entry} (hne : entries ≠ [])
    (h : ∀ e ∈ entries, e.Proper ∧ ReadFrom e.value.document e.value.chars) :
    ReadFrom (.object (entries.map Entry.member) none)
      ('\x7b' :: (commas (entries.map Entry.text) ++ ['\x7d'])) := by
  intro fuel rest hfuel _
  obtain ⟨e, entries, rfl⟩ := List.exists_cons_of_ne_nil hne
  rw [List.length_cons, List.length_append, List.length_singleton] at hfuel
  obtain ⟨fuel, rfl⟩ := Nat.exists_eq_succ_of_ne_zero (show fuel ≠ 0 by omega)
  have hless : (commas ((e :: entries).map Entry.text)).length < fuel := by omega
  obtain ⟨cs, hcs, hmembers⟩ := readMembers_commas h rest hless
  rw [List.cons_append, List.append_assoc, List.singleton_append, hcs,
    readValue_brace fuel (h e List.mem_cons_self).1.before, hmembers]

/-- Every value has characters, so there is fuel for a first step. -/
theorem Spells.readFrom_of_succ {j : Json} {cs : List Char} (h : Spells j cs)
    (hsucc : ∀ fuel rest, cs.length ≤ fuel + 1 → Stops rest →
      readValue (fuel + 1) (cs ++ rest) = (j, rest)) : ReadFrom j cs := by
  intro fuel rest hfuel hrest
  obtain ⟨c, tail, rfl, -⟩ := h.exists_cons
  obtain ⟨fuel, rfl⟩ := Nat.exists_eq_succ_of_ne_zero (Nat.ne_zero_of_lt hfuel)
  exact hsucc fuel rest hfuel hrest

/-- **What is spelled is read.** -/
theorem Spells.readFrom {j : Json} {cs : List Char} (h : Spells j cs) : ReadFrom j cs := by
  induction h with
  | null => exact Spells.null.readFrom_of_succ fun _ _ _ _ => rfl
  | yes => exact Spells.yes.readFrom_of_succ fun _ _ _ _ => rfl
  | no => exact Spells.no.readFrom_of_succ fun _ _ _ _ => rfl
  | number h => exact readFrom_number h
  | string h =>
    refine (Spells.string h).readFrom_of_succ fun fuel rest _ _ => ?_
    rw [List.cons_append, List.append_assoc]
    exact readValue_quote fuel h rest
  | noItems h =>
    refine (Spells.noItems h).readFrom_of_succ fun fuel rest _ _ => ?_
    rw [List.cons_append, List.append_assoc]
    exact readValue_noItems fuel h rest
  | items hne hblank h ih =>
    exact readFrom_items hne fun p hp =>
      ⟨⟨(hblank p hp).1, h p hp, (hblank p hp).2⟩, ih p hp⟩
  | noMembers h =>
    refine (Spells.noMembers h).readFrom_of_succ fun fuel rest _ _ => ?_
    rw [List.cons_append, List.append_assoc]
    exact readValue_noMembers fuel h rest
  | members hne hname hblank h ih =>
    refine readFrom_members hne fun e he => ⟨⟨?_, ?_, ?_, ?_⟩, ih e he⟩
    · exact (hname e he).1
    · exact (hname e he).2.1
    · exact (hname e he).2.2
    · exact ⟨(hblank e he).1, h e he, (hblank e he).2⟩

/-! ## What is read was spelled -/

/-- A value at the front of a text, with the blanks before it. -/
def Foremost (j : Json) (cs rest : List Char) : Prop :=
  ∃ before body, Blank before ∧ Spells j body ∧ cs = before ++ (body ++ rest)

/-- The value is a part of the text, up to the next sign. -/
theorem Foremost.exists_part {j : Json} {cs rest : List Char} (h : Foremost j cs rest) :
    ∃ p : Part, p.Proper ∧ p.document = j ∧ cs = p.text ++ skipSpace rest := by
  obtain ⟨before, body, hbefore, hbody, rfl⟩ := h
  obtain ⟨after, hafter, hrest⟩ := exists_skipSpace rest
  refine ⟨⟨before, j, body, after⟩, ⟨hbefore, hbody, hafter⟩, rfl, ?_⟩
  rw [Part.text, List.append_assoc, List.append_assoc, ← hrest]

section Steps

variable {fuel : Nat} {cs rest : List Char}

/-- What was read as items, if nothing is wrong: a value and a bracket, or a value, a comma and
items. -/
theorem exists_of_readItems {items : List Json}
    (h : readItems (fuel + 1) cs = (items, none, rest)) :
    ∃ j cs₁, readValue fuel cs = (j, cs₁) ∧ j.flaw? = none ∧
      (skipSpace cs₁ = ']' :: rest ∧ items = [j] ∨
        ∃ cs₂ more, skipSpace cs₁ = ',' :: cs₂ ∧ readItems fuel cs₂ = (more, none, rest) ∧
          items = j :: more) := by
  rw [readItems] at h
  split at h
  next j cs₁ hread =>
  split at h
  · cases h
  · next hflaw =>
    refine ⟨j, cs₁, hread, hflaw, ?_⟩
    split at h
    · cases h
    · next cs₂ hskip =>
      cases h
      exact .inl ⟨hskip, rfl⟩
    · next cs₂ hskip =>
      split at h
      next more cut cs₃ hmore =>
      cases h
      exact .inr ⟨cs₂, more, hskip, hmore, rfl⟩
    · cases h

/-- What was read as members, if nothing is wrong: a name, a colon, a value and a brace, or these
with a comma and members. -/
theorem exists_of_readMembers {members : List (Option String × Json)}
    (h : readMembers (fuel + 1) cs = (members, none, rest)) :
    ∃ key j cs₁ cs₂ cs₃, scanString .sound [] cs = .closed key cs₁ ∧
      skipSpace cs₁ = ':' :: cs₂ ∧ readValue fuel cs₂ = (j, cs₃) ∧ j.flaw? = none ∧
      (skipSpace cs₃ = '\x7d' :: rest ∧ members = [(key, j)] ∨
        ∃ cs₄ cs₅ more, skipSpace cs₃ = ',' :: cs₄ ∧ skipSpace cs₄ = '"' :: cs₅ ∧
          readMembers fuel cs₅ = (more, none, rest) ∧ members = (key, j) :: more) := by
  rw [readMembers] at h
  split at h
  · cases h
  · next key cs₁ hkey =>
    split at h
    next j cs₃ hvalue =>
    split at h
    · cases h
    · next hflaw =>
      have hcolon : ∃ cs₂, skipSpace cs₁ = ':' :: cs₂ ∧ readValue fuel cs₂ = (j, cs₃) := by
        split at hvalue
        · cases hvalue
          cases hflaw
        · next cs₂ hcs₂ => exact ⟨cs₂, hcs₂, hvalue⟩
        · cases hvalue
          cases hflaw
      obtain ⟨cs₂, hcs₂, hread⟩ := hcolon
      refine ⟨key, j, cs₁, cs₂, cs₃, hkey, hcs₂, hread, hflaw, ?_⟩
      split at h
      · cases h
      · next cs₄ hskip =>
        cases h
        exact .inl ⟨hskip, rfl⟩
      · next cs₄ hskip =>
        split at h
        · cases h
        · next cs₅ hquote =>
          split at h
          next more cut cs₆ hmore =>
          cases h
          exact .inr ⟨cs₄, cs₅, more, hskip, hquote, hmore, rfl⟩
        · cases h
      · cases h

end Steps

/-- The items of an array, up to its bracket. -/
def ItemsFrom (items : List Json) (cs rest : List Char) : Prop :=
  ∃ parts : List Part, parts ≠ [] ∧ (∀ p ∈ parts, p.Proper) ∧ items = parts.map Part.document ∧
    cs = commas (parts.map Part.text) ++ ']' :: rest

/-- The members of an object, up to its brace. -/
def MembersFrom (members : List (Option String × Json)) (cs rest : List Char) : Prop :=
  ∃ entries : List Entry, entries ≠ [] ∧ (∀ e ∈ entries, e.Proper) ∧
    members = entries.map Entry.member ∧ cs = commas (entries.map Entry.text) ++ '\x7d' :: rest

/-- More blanks may stand before the members. -/
theorem MembersFrom.append {members : List (Option String × Json)} {cs rest before : List Char}
    (h : MembersFrom members cs rest) (hbefore : Blank before) :
    MembersFrom members (before ++ cs) rest := by
  obtain ⟨entries, hne, hproper, rfl, rfl⟩ := h
  obtain ⟨e, entries, rfl⟩ := List.exists_cons_of_ne_nil hne
  obtain ⟨he, hentries⟩ := List.forall_mem_cons.mp hproper
  refine ⟨{ e with before := before ++ e.before } :: entries, by simp,
    List.forall_mem_cons.mpr ⟨⟨?_, he.name, he.after, he.value⟩, hentries⟩, rfl, ?_⟩
  · exact fun c hc => (List.mem_append.mp hc).elim (hbefore c) (he.before c)
  · cases entries with
    | nil => simp [commas_singleton, Entry.text, Entry.tail]
    | cons e' entries =>
      rw [commas_cons, commas_cons]
      simp [Entry.text, Entry.tail]

section Fuel

variable {fuel : Nat} {cs rest : List Char}
  (hvalue : ∀ {j cs rest}, readValue fuel cs = (j, rest) → j.flaw? = none → Foremost j cs rest)

include hvalue

theorem itemsFrom_of_readItems {items : List Json}
    (hitems : ∀ {items cs rest}, readItems fuel cs = (items, none, rest) → ItemsFrom items cs rest)
    (h : readItems (fuel + 1) cs = (items, none, rest)) : ItemsFrom items cs rest := by
  obtain ⟨j, cs₁, hread, hflaw, hnext⟩ := exists_of_readItems h
  obtain ⟨p, hp, rfl, rfl⟩ := (hvalue hread hflaw).exists_part
  obtain ⟨hskip, rfl⟩ | ⟨cs₂, more, hskip, hmore, rfl⟩ := hnext
  · exact ⟨[p], by simp, by simpa using hp, rfl, by
      rw [List.map_singleton, commas_singleton, hskip]⟩
  · obtain ⟨parts, hne, hparts, rfl, rfl⟩ := hitems hmore
    obtain ⟨p', parts, rfl⟩ := List.exists_cons_of_ne_nil hne
    refine ⟨p :: p' :: parts, by simp, List.forall_mem_cons.mpr ⟨hp, hparts⟩, rfl, ?_⟩
    rw [hskip, commas_cons, List.append_assoc, List.cons_append]

theorem membersFrom_of_readMembers {members : List (Option String × Json)}
    (hmembers : ∀ {members cs rest}, readMembers fuel cs = (members, none, rest) →
      MembersFrom members ('"' :: cs) rest)
    (h : readMembers (fuel + 1) cs = (members, none, rest)) :
    MembersFrom members ('"' :: cs) rest := by
  obtain ⟨key, j, cs₁, cs₂, cs₃, hkey, hcolon, hread, hflaw, hnext⟩ := exists_of_readMembers h
  obtain ⟨name, hname, rfl⟩ := scanString_eq_closed_iff.mp hkey
  obtain ⟨after, hafter, hcs₁⟩ := exists_skipSpace cs₁
  obtain ⟨p, hp, rfl, rfl⟩ := (hvalue hread hflaw).exists_part
  rw [hcolon] at hcs₁
  subst hcs₁
  let e : Entry := ⟨[], key, name, after, p⟩
  have he : e.Proper := ⟨by simp [e, Blank], hname, hafter, hp⟩
  obtain ⟨hskip, rfl⟩ | ⟨cs₄, cs₅, more, hskip, hquote, hmore, rfl⟩ := hnext
  · refine ⟨[e], by simp, by simpa using he, rfl, ?_⟩
    rw [List.map_singleton, commas_singleton, hskip]
    simp [e, Entry.text, Entry.tail]
  · obtain ⟨before, hbefore, hcs₄⟩ := exists_skipSpace cs₄
    rw [hquote] at hcs₄
    subst hcs₄
    obtain ⟨entries, hne, hentries, rfl, hcs⟩ := (hmembers hmore).append hbefore
    obtain ⟨e', entries, rfl⟩ := List.exists_cons_of_ne_nil hne
    refine ⟨e :: e' :: entries, by simp, List.forall_mem_cons.mpr ⟨he, hentries⟩, rfl, ?_⟩
    rw [hskip, hcs, commas_cons]
    simp [e, Entry.text, Entry.tail]

end Fuel

section Step

variable {fuel : Nat} {j : Json} {cs rest : List Char}

theorem spells_of_items {items : List Json} (h : ItemsFrom items cs rest) :
    ∃ body, Spells (.array items none) body ∧ '[' :: cs = body ++ rest := by
  obtain ⟨parts, hne, hparts, rfl, rfl⟩ := h
  refine ⟨_, .items hne (fun p hp => ⟨(hparts p hp).before, (hparts p hp).after⟩)
    (fun p hp => (hparts p hp).spells), ?_⟩
  rw [List.cons_append, List.append_assoc, List.singleton_append]

theorem spells_of_members {members : List (Option String × Json)}
    (h : MembersFrom members cs rest) :
    ∃ body, Spells (.object members none) body ∧ '\x7b' :: cs = body ++ rest := by
  obtain ⟨entries, hne, hentries, rfl, rfl⟩ := h
  refine ⟨_, .members hne
    (fun e he => ⟨(hentries e he).before, (hentries e he).name, (hentries e he).after⟩)
    (fun e he => ⟨(hentries e he).value.before, (hentries e he).value.after⟩)
    (fun e he => (hentries e he).value.spells), ?_⟩
  rw [List.cons_append, List.append_assoc, List.singleton_append]

theorem spells_of_readString (h : readValue (fuel + 1) ('"' :: cs) = (j, rest))
    (hflaw : j.flaw? = none) : ∃ body, Spells j body ∧ '"' :: cs = body ++ rest := by
  rw [readValue_string] at h
  split at h
  · next value cs₁ hscan =>
    cases h
    obtain ⟨body, hbody, rfl⟩ := scanString_eq_closed_iff.mp hscan
    exact ⟨_, .string hbody, by simp⟩
  · cases h
    cases hflaw

theorem spells_of_readArray
    (hitems : ∀ {items cs rest}, readItems fuel cs = (items, none, rest) → ItemsFrom items cs rest)
    (h : readValue (fuel + 1) ('[' :: cs) = (j, rest)) (hflaw : j.flaw? = none) :
    ∃ body, Spells j body ∧ '[' :: cs = body ++ rest := by
  obtain ⟨inside, hinside, htail⟩ := exists_skipSpace cs
  rw [readValue_array] at h
  split at h
  · cases h
    cases hflaw
  · next hskip =>
    cases h
    exact ⟨_, .noItems hinside, by rw [htail, hskip]; simp⟩
  · cases h
    rw [readItems_skipSpace] at hflaw ⊢
    have hcut : (readItems fuel cs).2.1 = none := hflaw
    rw [hcut]
    exact spells_of_items (hitems (Prod.ext rfl (Prod.ext hcut rfl)))

theorem spells_of_readObject
    (hmembers : ∀ {members cs rest}, readMembers fuel cs = (members, none, rest) →
      MembersFrom members ('"' :: cs) rest)
    (h : readValue (fuel + 1) ('\x7b' :: cs) = (j, rest)) (hflaw : j.flaw? = none) :
    ∃ body, Spells j body ∧ '\x7b' :: cs = body ++ rest := by
  obtain ⟨inside, hinside, htail⟩ := exists_skipSpace cs
  rw [readValue_object] at h
  split at h
  · cases h
    cases hflaw
  · next hskip =>
    cases h
    exact ⟨_, .noMembers hinside, by rw [htail, hskip]; simp⟩
  · next cs₁ hskip =>
    cases h
    have hcut : (readMembers fuel cs₁).2.1 = none := hflaw
    rw [htail, hskip, hcut]
    exact spells_of_members ((hmembers (Prod.ext rfl (Prod.ext hcut rfl))).append hinside)
  · cases h
    cases hflaw

/-- The step of reading a value, by the character that it begins with. -/
theorem spells_of_readValue
    (hitems : ∀ {items cs rest}, readItems fuel cs = (items, none, rest) → ItemsFrom items cs rest)
    (hmembers : ∀ {members cs rest}, readMembers fuel cs = (members, none, rest) →
      MembersFrom members ('"' :: cs) rest)
    (h : readValue (fuel + 1) cs = (j, rest)) (hflaw : j.flaw? = none) :
    ∃ body, Spells j body ∧ skipSpace cs = body ++ rest := by
  have hspace : Misses isSpace (skipSpace cs) := misses_dropWhile isSpace cs
  rw [← readValue_skipSpace] at h
  cases hskip : skipSpace cs with
  | nil =>
    rw [hskip] at h
    cases h
    cases hflaw
  | cons c tail =>
    rw [hskip] at h hspace
    by_cases hquote : c = '"'
    · subst hquote
      exact spells_of_readString h hflaw
    by_cases hbracket : c = '['
    · subst hbracket
      exact spells_of_readArray hitems h hflaw
    by_cases hbrace : c = '\x7b'
    · subst hbrace
      exact spells_of_readObject hmembers h hflaw
    rw [readValue, skipSpace_cons (hspace c rfl)] at h
    simp only [if_neg hquote, if_neg hbracket, if_neg hbrace] at h
    split at h
    · next hn =>
      obtain ⟨rfl, rfl⟩ := exists_of_scanWord h hflaw
      exact ⟨_, .null, by rw [hn]; rfl⟩
    split at h
    · next ht =>
      obtain ⟨rfl, rfl⟩ := exists_of_scanWord h hflaw
      exact ⟨_, .yes, by rw [ht]; rfl⟩
    split at h
    · next hf =>
      obtain ⟨rfl, rfl⟩ := exists_of_scanWord h hflaw
      exact ⟨_, .no, by rw [hf]; rfl⟩
    split at h
    · next hminus =>
      obtain ⟨n, body, rfl, hsign, hbody, rfl⟩ := exists_of_scanNumber h hflaw
      exact ⟨_, .number hbody, by rw [hminus, hsign]; rfl⟩
    split at h
    · obtain ⟨n, body, rfl, hsign, hbody, hcs⟩ := exists_of_scanNumber h hflaw
      exact ⟨_, .number hbody, by rw [hcs, hsign]; rfl⟩
    · cases h
      cases hflaw

end Step

/-- **What is read without a flaw was spelled.** -/
theorem foremost_of_readValue {fuel : Nat} :
    (∀ {j cs rest}, readValue fuel cs = (j, rest) → j.flaw? = none → Foremost j cs rest) ∧
    (∀ {items cs rest}, readItems fuel cs = (items, none, rest) → ItemsFrom items cs rest) ∧
    (∀ {members cs rest}, readMembers fuel cs = (members, none, rest) →
      MembersFrom members ('"' :: cs) rest) := by
  induction fuel with
  | zero =>
    refine ⟨fun h hflaw => ?_, fun h => ?_, fun h => ?_⟩
    · cases h
      cases hflaw
    · cases h
    · cases h
  | succ fuel ih =>
    obtain ⟨hvalue, hitems, hmembers⟩ := ih
    refine ⟨@fun j cs rest h hflaw => ?_, itemsFrom_of_readItems hvalue hitems,
      membersFrom_of_readMembers hvalue hmembers⟩
    obtain ⟨before, hbefore, hcs⟩ := exists_skipSpace cs
    obtain ⟨body, hbody, hrest⟩ := spells_of_readValue hitems hmembers h hflaw
    exact ⟨before, body, hbefore, hbody, hrest ▸ hcs⟩

/-! ## Whole texts -/

theorem Blank.skipSpace_eq_nil {cs : List Char} (h : Blank cs) : skipSpace cs = [] := by
  have hskip := skipSpace_append h []
  rwa [List.append_nil] at hskip

theorem Part.Proper.readValue_text {p : Part} (hp : p.Proper) {fuel : Nat}
    (hfuel : p.text.length ≤ fuel) : Json.readValue fuel p.text = (p.document, p.after) := by
  have hlength : p.chars.length ≤ fuel := by
    simp only [Part.text, List.length_append] at hfuel
    omega
  have hstops : Stops p.after := by simpa using stops_append hp.after stops_nil
  rw [Part.text, readValue_append hp.before, hp.spells.readFrom fuel p.after hlength hstops]

/-- **A text is read as the document that it spells**, and as no other. -/
theorem isText_iff {text : String} {j : Json} :
    IsText text j ↔ read text = ⟨j, true⟩ ∧ j.flaw? = none := by
  constructor
  · rintro ⟨p, hp, rfl, htext⟩
    have hlength : p.text.length ≤ 2 * p.text.length + 2 := by omega
    have hread := hp.readValue_text hlength
    refine ⟨?_, hp.spells.flaw?⟩
    rw [read, htext, hread]
    simp [hp.after.skipSpace_eq_nil]
  · rintro ⟨hread, hflaw⟩
    rw [read] at hread
    split at hread
    next j' rest hvalue =>
    simp only [Document.mk.injEq, List.isEmpty_iff] at hread
    obtain ⟨rfl, hrest⟩ := hread
    obtain ⟨p, hp, hdocument, htext⟩ := (foremost_of_readValue.1 hvalue hflaw).exists_part
    exact ⟨p, hp, hdocument, by rw [htext, hrest, List.append_nil]⟩

/-- A text spells one document at most. -/
theorem IsText.unique {text : String} {j j' : Json} (h : IsText text j) (h' : IsText text j') :
    j = j' := by
  have hread := (isText_iff.mp h).1
  rw [(isText_iff.mp h').1] at hread
  exact (congrArg Document.value hread).symm

/-! ## Documents that can be spelled -/

/-- Items may be spelled without blanks. -/
theorem spells_compact_items {items : List Json} {chars : Json → List Char}
    (h : ∀ j ∈ items, Spells j (chars j)) :
    Spells (.array items none) ('[' :: (commas (items.map chars) ++ [']'])) := by
  let part (j : Json) : Part := ⟨[], j, chars j, []⟩
  have hdocuments : (items.map part).map Part.document = items := by simp [part, Function.comp_def]
  have htexts : (items.map part).map Part.text = items.map chars := by
    simp [part, Part.text, Function.comp_def]
  cases items with
  | nil => exact .noItems nofun
  | cons j items =>
    have hitems : Spells (.array (((j :: items).map part).map Part.document) none)
        ('[' :: (commas (((j :: items).map part).map Part.text) ++ [']'])) :=
      .items (by simp) (List.forall_mem_map.mpr fun _ _ => ⟨nofun, nofun⟩)
        (List.forall_mem_map.mpr h)
    rwa [hdocuments, htexts] at hitems

/-- Members may be spelled without blanks. -/
theorem spells_compact_members {members : List (Option String × Json)}
    {name chars : Option String × Json → List Char}
    (h : ∀ m ∈ members, SpellsString m.1 (name m) ∧ Spells m.2 (chars m)) :
    Spells (.object members none) ('\x7b' ::
      (commas (members.map fun m => '"' :: (name m ++ '"' :: ':' :: chars m)) ++ ['\x7d'])) := by
  let entry (m : Option String × Json) : Entry := ⟨[], m.1, name m, [], ⟨[], m.2, chars m, []⟩⟩
  have hmembers : (members.map entry).map Entry.member = members := by
    simp [entry, Entry.member, Function.comp_def]
  have htexts : (members.map entry).map Entry.text =
      members.map fun m => '"' :: (name m ++ '"' :: ':' :: chars m) := by
    simp [entry, Entry.text, Entry.tail, Part.text, Function.comp_def]
  cases members with
  | nil => exact .noMembers nofun
  | cons m members =>
    have hobject : Spells (.object (((m :: members).map entry).map Entry.member) none)
        ('\x7b' :: (commas (((m :: members).map entry).map Entry.text) ++ ['\x7d'])) :=
      .members (by simp) (List.forall_mem_map.mpr fun m hm => ⟨nofun, (h m hm).1, nofun⟩)
        (List.forall_mem_map.mpr fun _ _ => ⟨nofun, nofun⟩)
        (List.forall_mem_map.mpr fun m hm => (h m hm).2)
    rwa [hmembers, htexts] at hobject

/-- Some characters spell the document. -/
def Spellable (j : Json) : Prop := ∃ cs, Spells j cs

/-- Some characters spell the name of the member, and some its value. -/
def SpellableMember (m : Option String × Json) : Prop :=
  (∃ cs, SpellsString m.1 cs) ∧ Spellable m.2

theorem Spellable.flaw? {j : Json} (h : Spellable j) : j.flaw? = none :=
  h.choose_spec.flaw?

theorem Spellable.exists_isText {j : Json} (h : Spellable j) : ∃ text, IsText text j := by
  obtain ⟨cs, hcs⟩ := h
  exact ⟨String.ofList cs, ⟨[], j, cs, []⟩, ⟨nofun, hcs, nofun⟩, rfl, by simp [Part.text]⟩

theorem IsText.spellable {text : String} {j : Json} (h : IsText text j) : Spellable j := by
  obtain ⟨p, hp, rfl, -⟩ := h
  exact ⟨p.chars, hp.spells⟩

/-- **An array can be spelled** if it ends and its items can. -/
theorem spellable_array_iff {items : List Json} {cut : Option Flaw} :
    Spellable (.array items cut) ↔ cut = none ∧ ∀ j ∈ items, Spellable j := by
  constructor
  · rintro ⟨cs, hcs⟩
    cases hcs with
    | noItems => exact ⟨rfl, nofun⟩
    | items hne hblank h => exact ⟨rfl, List.forall_mem_map.mpr fun p hp => ⟨_, h p hp⟩⟩
  · rintro ⟨rfl, h⟩
    choose! chars hchars using h
    exact ⟨_, spells_compact_items hchars⟩

/-- **An object can be spelled** if it ends and its members can. -/
theorem spellable_object_iff {members : List (Option String × Json)} {cut : Option Flaw} :
    Spellable (.object members cut) ↔ cut = none ∧ ∀ m ∈ members, SpellableMember m := by
  constructor
  · rintro ⟨cs, hcs⟩
    cases hcs with
    | noMembers => exact ⟨rfl, nofun⟩
    | members hne hname hblank h =>
      exact ⟨rfl, List.forall_mem_map.mpr fun e he => ⟨⟨_, (hname e he).2.1⟩, ⟨_, h e he⟩⟩⟩
  · rintro ⟨rfl, h⟩
    choose! name hname using fun m hm => (h m hm).1
    choose! chars hchars using fun m hm => (h m hm).2
    exact ⟨_, spells_compact_members fun m hm => ⟨hname m hm, hchars m hm⟩⟩

end CatalogFeed.Json
