import CatalogFeed.Proofs.Replay.Lines
import Mathlib.Data.List.TakeWhile

/-!
# Proofs/Replay/Contents — what a replay reads in a text

Of a text, a replay reads the contents of its lines: of every line that is not blank, what is left
without the blanks at both ends.  So it does not matter how lines end, how they are padded, and how
many blank lines there are.

* `byteLines_toUTF8`: the lines of a file have the contents of the lines of its text;
* `contents_line`: the contents of a text that goes on after a line;
* `contents_append_blanks`, `contents_blanks_append`: blanks at the end of a line and before one.
-/

namespace CatalogFeed

/-! ## Blanks at the ends -/

namespace Text

/-- A return is a blank. -/
theorem isBlank_return : ∀ c ∈ ['\r'], isBlank c = true := List.forall_mem_singleton.mpr rfl

theorem trim_append_blanks (cs : List Char) {blanks : List Char}
    (h : ∀ c ∈ blanks, isBlank c = true) : trim (cs ++ blanks) = trim cs := by
  have hreverse : ∀ c ∈ blanks.reverse, isBlank c = true := by simpa using h
  rw [trim, trim, List.dropWhile_append]
  split
  · next hempty =>
    rw [List.isEmpty_iff.mp hempty, List.dropWhile_eq_nil_iff.mpr h]
  · rw [List.reverse_append, List.dropWhile_append_of_pos hreverse]

theorem trim_blanks_append (cs : List Char) {blanks : List Char}
    (h : ∀ c ∈ blanks, isBlank c = true) : trim (blanks ++ cs) = trim cs := by
  rw [trim, List.dropWhile_append_of_pos h, trim]

theorem trim_eq_nil_iff (cs : List Char) : trim cs = [] ↔ ∀ c ∈ cs, isBlank c = true := by
  constructor
  · intro h
    rw [trim, List.reverse_eq_nil_iff, List.dropWhile_eq_nil_iff] at h
    by_contra hne
    have hfirst : cs.dropWhile isBlank ≠ [] := fun hnil => hne (List.dropWhile_eq_nil_iff.mp hnil)
    have hblank := h _ (List.mem_reverse.mpr (List.head_mem hfirst))
    exact absurd hblank (by simpa using List.head_dropWhile_not isBlank hfirst)
  · intro h
    simpa [trim] using trim_append_blanks [] h

end Text

namespace Replay

open Text (bytesOf isBlank trim)

/-! ## The content of a line -/

theorem content?_ofList (line : List Char) : content? (String.ofList line) =
    if (trim line).isEmpty then none else some (String.ofList (trim line)) := by
  rw [content?, String.toList_ofList]

theorem content?_congr {line line' : List Char} (h : trim line = trim line') :
    content? (String.ofList line) = content? (String.ofList line') := by
  rw [content?_ofList, content?_ofList, h]

/-- A line has a content if it is not blank. -/
theorem isSome_content? (line : List Char) :
    (content? (String.ofList line)).isSome = line.any fun c => !isBlank c := by
  have hblank : (trim line).isEmpty = line.all isBlank := by
    rw [Bool.eq_iff_iff, List.isEmpty_iff, Text.trim_eq_nil_iff, List.all_eq_true]
  rw [content?_ofList, hblank, List.any_eq_not_all_not]
  cases h : line.all isBlank <;> simp [h]

/-! ## Cutting, line by line -/

section Cutting

variable {α : Type} [DecidableEq α] {mark : α}

theorem cutAt_ne_nil (mark : α) (text : List α) : cutAt mark text ≠ [] := by
  cases text with
  | nil => exact List.cons_ne_nil _ _
  | cons a text =>
    rw [cutAt]
    split
    · exact List.cons_ne_nil _ _
    · split <;> exact List.cons_ne_nil _ _

/-- **A text is a line, or a line and a text after it.** -/
theorem induction_on_lines (mark : α) {P : List α → Prop} (last : ∀ line, mark ∉ line → P line)
    (next : ∀ line rest, mark ∉ line → P rest → P (line ++ mark :: rest)) (text : List α) :
    P text := by
  induction hlength : text.length using Nat.strongRecOn generalizing text with
  | ind n ih =>
    by_cases hmem : mark ∈ text
    · obtain ⟨line, rest, htext, hline⟩ := List.eq_append_cons_of_mem hmem
      subst htext
      refine next line rest hline (ih rest.length ?_ rest rfl)
      rw [← hlength, List.length_append, List.length_cons]
      omega
    · exact last text hmem

/-- A text that goes on after a mark is cut there. -/
theorem cutAt_append_mark (before after : List α) :
    cutAt mark (before ++ mark :: after) = cutAt mark before ++ cutAt mark after := by
  induction before using induction_on_lines mark with
  | last line hline => rw [cutAt_append_cons hline, cutAt_of_not_mem hline, List.singleton_append]
  | next line rest hline ih =>
    rw [List.append_assoc, List.cons_append, cutAt_append_cons hline, ih, cutAt_append_cons hline,
      List.cons_append]

/-- What stands before the first mark belongs to the first line. -/
theorem cutAt_append_of_not_mem {before : List α} (h : mark ∉ before) (text : List α) :
    cutAt mark (before ++ text) = (cutAt mark text).modifyHead (before ++ ·) := by
  induction text using induction_on_lines mark with
  | last line hline =>
    have hboth : mark ∉ before ++ line := by simp [h, hline]
    rw [cutAt_of_not_mem hboth, cutAt_of_not_mem hline, List.modifyHead_cons]
  | next line rest hline _ =>
    have hboth : mark ∉ before ++ line := by simp [h, hline]
    rw [← List.append_assoc, cutAt_append_cons hboth, cutAt_append_cons hline,
      List.modifyHead_cons]

/-- No line has a mark in it. -/
theorem not_mem_of_mem_cutAt {text line : List α} (h : line ∈ cutAt mark text) : mark ∉ line := by
  induction text using induction_on_lines mark with
  | last text htext =>
    rw [cutAt_of_not_mem htext, List.mem_singleton] at h
    exact h ▸ htext
  | next first rest hfirst ih =>
    rw [cutAt_append_cons hfirst, List.mem_cons] at h
    exact h.elim (· ▸ hfirst) ih

/-- What is cut apart is joined again. -/
theorem intercalate_cutAt (mark : α) (text : List α) :
    [mark].intercalate (cutAt mark text) = text := by
  induction text using induction_on_lines mark with
  | last line hline => rw [cutAt_of_not_mem hline, List.intercalate_singleton]
  | next line rest hline ih =>
    obtain ⟨first, more, hcut⟩ := List.exists_cons_of_ne_nil (cutAt_ne_nil mark rest)
    rw [cutAt_append_cons hline, hcut, List.intercalate_cons_cons, ← hcut, ih, List.append_assoc,
      List.singleton_append]

end Cutting

/-! ## The contents of a text -/

/-- **The contents of the lines of a text**, in order. -/
def contents (text : List Char) : List String :=
  (cutAt '\n' text).filterMap fun line => content? (String.ofList line)

/-- There are as many contents as lines that are not blank. -/
theorem length_contents (text : List Char) : (contents text).length =
    (cutAt '\n' text).countP fun line => line.any fun c => !isBlank c := by
  rw [contents, List.length_filterMap_eq_countP]
  exact List.countP_congr fun line _ => by rw [isSome_content?]

theorem contents_of_not_mem {line : List Char} (h : '\n' ∉ line) :
    contents line = (content? (String.ofList line)).toList := by
  rw [contents, cutAt_of_not_mem h]
  cases hc : content? (String.ofList line) <;> simp [hc]

/-- **The contents of a text that goes on after a line.** -/
theorem contents_line (before after : List Char) :
    contents (before ++ '\n' :: after) = contents before ++ contents after := by
  rw [contents, cutAt_append_mark, List.filterMap_append, contents, contents]

/-- A feed at the end adds no content. -/
theorem contents_append_feed (text : List Char) : contents (text ++ ['\n']) = contents text := by
  rw [contents_line]
  exact List.append_nil _

section Blanks

variable {blanks : List Char} (h : ∀ c ∈ blanks, isBlank c = true) (hfeed : '\n' ∉ blanks)
include h hfeed

/-- **Blanks before a line** are not read. -/
theorem contents_blanks_append (text : List Char) : contents (blanks ++ text) = contents text := by
  rw [contents, cutAt_append_of_not_mem hfeed, contents]
  obtain ⟨line, lines, hlines⟩ := List.exists_cons_of_ne_nil (cutAt_ne_nil '\n' text)
  rw [hlines, List.modifyHead_cons, List.filterMap_cons, List.filterMap_cons,
    content?_congr (Text.trim_blanks_append line h)]

/-- **Blanks at the end of a line** are not read. -/
theorem contents_append_blanks (text : List Char) : contents (text ++ blanks) = contents text := by
  induction text using induction_on_lines '\n' with
  | last line hline =>
    have hboth : '\n' ∉ line ++ blanks := by simp [hline, hfeed]
    rw [contents_of_not_mem hboth, contents_of_not_mem hline,
      content?_congr (Text.trim_append_blanks line h)]
  | next line rest _ ih =>
    rw [List.append_assoc, List.cons_append, contents_line, contents_line, ih]

end Blanks

/-! ## The lines of a file -/

/-- The bytes of a text are cut where the text is. -/
theorem cutAt_bytesOf (text : List Char) :
    cutAt 10 (bytesOf text) = (cutAt '\n' text).map bytesOf := by
  have hbytes : ∀ line : List Char, '\n' ∉ line → (10 : UInt8) ∉ bytesOf line :=
    fun line => Text.not_mem_bytesOf (by decide) rfl
  induction text using induction_on_lines '\n' with
  | last line hline =>
    rw [cutAt_of_not_mem (hbytes line hline), cutAt_of_not_mem hline, List.map_singleton]
  | next line rest hline ih =>
    have happend : bytesOf (line ++ '\n' :: rest) = bytesOf line ++ 10 :: bytesOf rest := by
      rw [bytesOf, List.flatMap_append, List.flatMap_cons]
      rfl
    rw [happend, cutAt_append_cons (hbytes line hline), cutAt_append_cons hline, ih, List.map_cons]

/-- Only a return at the end of a line has the byte of the return. -/
theorem exists_of_getLast?_bytesOf {line : List Char} (h : (bytesOf line).getLast? = some 13) :
    ∃ line', line = line' ++ ['\r'] ∧ (bytesOf line).dropLast = bytesOf line' := by
  rcases List.eq_nil_or_concat line with rfl | ⟨line', c, hline⟩
  · cases h
  · rw [List.concat_eq_append] at hline
    subst hline
    have hc : bytesOf (line' ++ [c]) = bytesOf line' ++ String.utf8EncodeChar c := by
      rw [bytesOf, List.flatMap_append, List.flatMap_singleton, ← bytesOf]
    have hlast : (13 : UInt8) ∈ String.utf8EncodeChar c := by
      have hne := Text.utf8EncodeChar_ne_nil c
      rw [hc, List.getLast?_append, List.getLast?_eq_some_getLast hne, Option.some_or] at h
      exact Option.some.inj h ▸ List.getLast_mem hne
    obtain rfl : c = '\r' :=
      Char.toNat_inj.mp (Text.toNat_of_mem_utf8EncodeChar (by decide) hlast)
    refine ⟨line', rfl, ?_⟩
    rw [hc]
    exact List.dropLast_concat

/-- Dropping the returns leaves the lines of a text, with the same contents. -/
theorem dropReturns_bytesOf (lines : List (List Char)) :
    ∃ lines' : List (List Char), dropReturns (lines.map bytesOf) = lines'.map bytesOf ∧
      lines'.map trim = lines.map trim := by
  induction lines with
  | nil => exact ⟨[], rfl, rfl⟩
  | cons line lines ih =>
    cases lines with
    | nil => exact ⟨[line], rfl, rfl⟩
    | cons next lines =>
      obtain ⟨rest, hrest, htrim⟩ := ih
      rw [List.map_cons, List.map_cons, dropReturns, ← List.map_cons, hrest]
      · split
        · next hreturn =>
          obtain ⟨line', rfl, hline'⟩ := exists_of_getLast?_bytesOf hreturn
          refine ⟨line' :: rest, by rw [hline', List.map_cons], ?_⟩
          rw [List.map_cons, htrim, ← Text.trim_append_blanks line' Text.isBlank_return,
            ← List.map_cons]
        · exact ⟨line :: rest, rfl, by rw [List.map_cons, htrim, ← List.map_cons]⟩
      · rintro ⟨⟩

/-- **The lines of a file have the contents of its text.** -/
theorem byteLines_toUTF8 (text : String) : ∃ lines : List String,
    byteLines text.toUTF8 = lines.map .ok ∧ lines.filterMap content? = contents text.toList := by
  obtain ⟨lines, hlines, htrim⟩ := dropReturns_bytesOf (cutAt '\n' text.toList)
  refine ⟨lines.map String.ofList, ?_, ?_⟩
  · rw [byteLines, Text.toList_toUTF8, cutAt_bytesOf, hlines, List.map_map, List.map_map]
    exact List.map_congr_left fun line _ => Text.decode_bytesOf line
  · have hcontent : (content? ∘ String.ofList) = (fun inner : List Char =>
        if inner.isEmpty then none else some (String.ofList inner)) ∘ trim :=
      funext content?_ofList
    rw [List.filterMap_map, contents, ← Function.comp_def content?, hcontent,
      ← List.filterMap_map, ← List.filterMap_map, htrim]

end Replay
end CatalogFeed
