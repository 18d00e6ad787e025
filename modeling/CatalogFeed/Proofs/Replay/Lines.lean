import CatalogFeed.Proofs.Text.Utf8
import CatalogFeed.Replay

/-!
# Proofs/Replay/Lines — a text is cut where its lines were joined

Lines without ends of lines in them, joined by feeds, are what a replay finds in the text, whether
it is given the text or its bytes.

* `textLines_intercalate`: in a text;
* `byteLines_intercalate`: in the bytes of a text, since no character but the feed has the byte of
  the feed in its encoding.
-/

namespace CatalogFeed.Replay

open Text (bytesOf)

/-! ## Cutting -/

section Cutting

variable {α : Type} [DecidableEq α] {mark : α}

theorem cutAt_of_not_mem {line : List α} (h : mark ∉ line) : cutAt mark line = [line] := by
  induction line with
  | nil => rfl
  | cons a line ih =>
    rw [List.mem_cons, not_or] at h
    rw [cutAt, if_neg (Ne.symm h.1), ih h.2]

theorem cutAt_append_cons {line : List α} (h : mark ∉ line) (rest : List α) :
    cutAt mark (line ++ mark :: rest) = line :: cutAt mark rest := by
  induction line with
  | nil => rw [List.nil_append, cutAt, if_pos rfl]
  | cons a line ih =>
    rw [List.mem_cons, not_or] at h
    rw [List.cons_append, cutAt, if_neg (Ne.symm h.1), ih h.2]

/-- **Joined lines are cut apart again.** -/
theorem cutAt_intercalate {lines : List (List α)} (hne : lines ≠ [])
    (h : ∀ line ∈ lines, mark ∉ line) : cutAt mark ([mark].intercalate lines) = lines := by
  induction lines with
  | nil => exact absurd rfl hne
  | cons line lines ih =>
    obtain ⟨hline, hlines⟩ := List.forall_mem_cons.mp h
    cases lines with
    | nil =>
      rw [List.intercalate_singleton]
      exact cutAt_of_not_mem hline
    | cons line' lines =>
      rw [List.intercalate_cons_cons, List.append_assoc, List.singleton_append,
        cutAt_append_cons hline, ih (by simp) hlines]

end Cutting

theorem dropReturns_of_not_mem {lines : List (List UInt8)} (h : ∀ line ∈ lines, 13 ∉ line) :
    dropReturns lines = lines := by
  induction lines with
  | nil => rfl
  | cons line lines ih =>
    obtain ⟨hline, hlines⟩ := List.forall_mem_cons.mp h
    have hlast : line.getLast? ≠ some 13 := fun h => hline (List.mem_of_getLast? h)
    cases lines with
    | nil => rfl
    | cons line' lines => rw [dropReturns, if_neg hlast, ih hlines]; nofun

/-! ## Bytes -/

theorem bytesOf_intercalate (lines : List (List Char)) :
    bytesOf (['\n'].intercalate lines) = [10].intercalate (lines.map bytesOf) := by
  induction lines with
  | nil => rfl
  | cons line lines ih =>
    cases lines with
    | nil => simp
    | cons line' lines =>
      rw [List.map_cons, List.map_cons, List.intercalate_cons_cons, List.intercalate_cons_cons,
        ← List.map_cons, ← ih, bytesOf, List.flatMap_append, List.flatMap_append]
      rfl

/-! ## Lines -/

theorem textLines_intercalate {lines : List String} (hne : lines ≠ [])
    (h : ∀ line ∈ lines, '\n' ∉ line.toList) :
    textLines ("\n".intercalate lines) = lines.map .ok := by
  have hcut : cutAt '\n' ("\n".intercalate lines).toList = lines.map String.toList := by
    rw [String.toList_intercalate]
    exact cutAt_intercalate (by simpa using hne) (by simpa using h)
  rw [textLines, hcut]
  simp

/-- **The bytes of joined lines are cut where the lines were joined.** -/
theorem byteLines_intercalate {lines : List String} (hne : lines ≠ [])
    (h : ∀ line ∈ lines, '\n' ∉ line.toList ∧ '\r' ∉ line.toList) :
    byteLines ("\n".intercalate lines).toUTF8 = lines.map .ok := by
  have hcut : cutAt 10 ("\n".intercalate lines).toUTF8.toList =
      lines.map fun line => bytesOf line.toList := by
    rw [Text.toList_toUTF8, String.toList_intercalate]
    change cutAt 10 (bytesOf (['\n'].intercalate _)) = _
    rw [bytesOf_intercalate, List.map_map]
    refine cutAt_intercalate (by simpa using hne) ?_
    rw [List.forall_mem_map]
    exact fun line hline => Text.not_mem_bytesOf (by decide) rfl (h line hline).1
  have hdrop : dropReturns (lines.map fun line => bytesOf line.toList) =
      lines.map fun line => bytesOf line.toList := by
    refine dropReturns_of_not_mem ?_
    rw [List.forall_mem_map]
    exact fun line hline => Text.not_mem_bytesOf (by decide) rfl (h line hline).2
  rw [byteLines, hcut, hdrop, List.map_map]
  simp [Function.comp_def, Text.decode_bytesOf]

end CatalogFeed.Replay
