import CatalogFeed.Bus.Hub
import CatalogFeed.Proofs.Replay.Course
import Mathlib.Data.List.Basic
import Mathlib.Data.Set.List

/-!
# Proofs/Replay/Encoding — which bytes are replayed to their end

Bytes are cut into lines before it is known whether they are text, and each line is read on its own.
If all lines can be read, the bytes are a text, and its replay ends with a count of all lines that
are not blank.  The first line that cannot be read ends the replay: nothing is counted, and no line
after it is looked at.

* `forall_isOk_byteLines_iff`: all lines can be read just if the bytes are a text;
* `Feed.replayBytes_flawed`: a replay that meets a line that cannot be read;
* `Feed.replayBytes_ends_iff`: the replays that end with a summary of all lines.
-/

namespace CatalogFeed

/-! ## Bytes that are text -/

namespace Text

theorem toList_eq (bytes : ByteArray) : bytes.toList = bytes.data.toList := by
  rw [ByteArray.toList, toList_loop]
  rfl

theorem toList_inj {a b : ByteArray} : a.toList = b.toList ↔ a = b := by
  rw [toList_eq, toList_eq, Array.toList_inj]
  exact ⟨ByteArray.ext, congrArg ByteArray.data⟩

/-- **Bytes are read as the text whose bytes they are.** -/
theorem decode_eq_ok_iff {bytes : List UInt8} {text : String} :
    decode bytes = .ok text ↔ bytes = bytesOf text.toList := by
  constructor
  · intro h
    rw [decode] at h
    split at h
    · next text' hread =>
      cases h
      rw [← toList_toUTF8, ← fromUTF8?_eq_some_iff.mp hread, toList_eq]
    · cases h
  · rintro rfl
    rw [decode_bytesOf, String.ofList_toList]

/-- The bytes are those of a text. -/
def IsText (bytes : ByteArray) : Prop := ∃ text : String, bytes = text.toUTF8

theorem isText_iff (bytes : ByteArray) : IsText bytes ↔ ∃ cs, bytes.toList = bytesOf cs := by
  constructor
  · rintro ⟨text, rfl⟩
    exact ⟨text.toList, toList_toUTF8 text⟩
  · rintro ⟨cs, hcs⟩
    refine ⟨String.ofList cs, toList_inj.mp ?_⟩
    rw [hcs, toList_toUTF8, String.toList_ofList]

end Text

/-! ## Lines that can be read -/

namespace Replay

open Text (IsText bytesOf)

/-- If lines can be read without their returns, they can be read. -/
theorem forall_of_dropReturns {lines : List (List UInt8)}
    (h : ∀ line ∈ dropReturns lines, ∃ cs, bytesOf cs = line) :
    ∀ line ∈ lines, ∃ cs, bytesOf cs = line := by
  induction lines with
  | nil => exact List.forall_mem_nil _
  | cons line lines ih =>
    cases lines with
    | nil => exact h
    | cons next lines =>
      rw [dropReturns, List.forall_mem_cons] at h
      · refine List.forall_mem_cons.mpr ⟨?_, ih h.2⟩
        obtain ⟨cs, hcs⟩ := h.1
        split at hcs
        · next hreturn =>
          refine ⟨cs ++ ['\r'], ?_⟩
          rw [bytesOf, List.flatMap_append, ← bytesOf, hcs]
          exact List.dropLast_append_getLast? _ hreturn
        · exact ⟨cs, hcs⟩
      · intro heq
        cases heq

/-- **All lines can be read just if the bytes are a text.** -/
theorem forall_isOk_byteLines_iff (bytes : ByteArray) :
    (∀ line ∈ byteLines bytes, line.isOk = true) ↔ IsText bytes := by
  constructor
  · intro h
    have hlines : ∀ line ∈ cutAt 10 bytes.toList, ∃ cs, bytesOf cs = line := by
      refine forall_of_dropReturns fun line hline => ?_
      have hok := h _ (List.mem_map_of_mem hline)
      cases hread : Text.decode line with
      | error flaw =>
        rw [hread] at hok
        cases hok
      | ok text => exact ⟨text.toList, (Text.decode_eq_ok_iff.mp hread).symm⟩
    obtain ⟨lines, hcut⟩ : cutAt 10 bytes.toList ∈ Set.range (List.map bytesOf) := by
      rw [Set.range_list_map]
      exact hlines
    refine (Text.isText_iff bytes).mpr ⟨['\n'].intercalate lines, ?_⟩
    rw [bytesOf_intercalate, hcut, intercalate_cutAt]
  · rintro ⟨text, rfl⟩
    obtain ⟨lines, hlines, -⟩ := byteLines_toUTF8 text
    rw [hlines, List.forall_mem_map]
    exact fun _ _ => rfl

/-- A line that is not blank, or cannot be read. -/
def isFilled : Except Text.Flaw String → Bool
  | .ok line => (content? line).isSome
  | .error _ => true

/-- **How many lines of a file are not blank**, whether they can be read or not. -/
def filledLines (bytes : ByteArray) : Nat := (byteLines bytes).countP isFilled

/-- Lines can all be read, or one of them is the first that cannot. -/
theorem exists_readable (lines : List (Except Text.Flaw String)) :
    (∃ texts : List String, lines = texts.map .ok) ∨
      ∃ (before : List String) (flaw : Text.Flaw) (after : List (Except Text.Flaw String)),
        lines = before.map .ok ++ .error flaw :: after := by
  induction lines with
  | nil => exact .inl ⟨[], rfl⟩
  | cons line lines ih =>
    cases line with
    | error flaw => exact .inr ⟨[], flaw, lines, rfl⟩
    | ok text =>
      obtain ⟨texts, rfl⟩ | ⟨before, flaw, after, rfl⟩ := ih
      · exact .inl ⟨text :: texts, rfl⟩
      · exact .inr ⟨text :: before, flaw, after, rfl⟩

end Replay

/-! ## Replays -/

namespace Feed

open Replay (Summary byteLines filledLines)
open Text (IsText)

variable {β : Type} (f : Feed Catalog.Store β)

/-- **A replay of lines that can all be read** ends with a count of those that are not blank. -/
theorem replayBytes_readable {bytes : ByteArray} {texts : List String}
    (h : byteLines bytes = texts.map .ok) (s : State Catalog.Store β) :
    ∃ summary, (f.replayBytes bytes s).1 = .ok summary ∧ summary.total = filledLines bytes := by
  obtain ⟨hsummary, -⟩ := f.replayLines_course 1 texts {} s
  refine ⟨_, by rw [replayBytes, h]; exact hsummary, ?_⟩
  rw [Summary.zero_add, total_course, filledLines, h, List.countP_map,
    List.length_filterMap_eq_countP]
  rfl

/-- **The first line that cannot be read ends a replay**, after the lines before it. -/
theorem replayBytes_flawed {bytes : ByteArray} {before : List String} {flaw : Text.Flaw}
    {after : List (Except Text.Flaw String)}
    (h : byteLines bytes = before.map .ok ++ .error flaw :: after) (s : State Catalog.Store β) :
    (f.replayBytes bytes s).1 = .error (.io (.invalidText flaw)) ∧
      (f.replayBytes bytes s).2.SameButLog
        (f.course (before.filterMap Replay.content?) s).2 := by
  obtain ⟨t, ht, hlines⟩ := f.replayLines_append 1 before (.error flaw :: after) {} s
  rw [replayBytes, h, hlines, replayLines]
  exact ⟨rfl, ht⟩

/-- **A replay ends with a count of all lines that are not blank just if its bytes are a text**,
whatever is in the lines.  Otherwise it fails at the first line that cannot be read: what has come
of the lines before stays, and the lines after it come to nothing. -/
theorem replayBytes_ends_iff (bytes : ByteArray) (s : State Catalog.Store β) :
    ((∃ summary, (f.replayBytes bytes s).1 = .ok summary ∧ summary.total = filledLines bytes) ↔
      IsText bytes) ∧
    (IsText bytes ∨ ∃ (before : List String) (flaw : Text.Flaw)
        (after : List (Except Text.Flaw String)),
      byteLines bytes = before.map .ok ++ .error flaw :: after ∧
      (f.replayBytes bytes s).1 = .error (.io (.invalidText flaw)) ∧
      (f.replayBytes bytes s).2.SameButLog
        (f.course (before.filterMap Replay.content?) s).2) := by
  rw [← Replay.forall_isOk_byteLines_iff]
  obtain ⟨texts, htexts⟩ | ⟨before, flaw, after, hflawed⟩ :=
    Replay.exists_readable (byteLines bytes)
  · have hok : ∀ line ∈ byteLines bytes, line.isOk = true := by
      rw [htexts, List.forall_mem_map]
      exact fun _ _ => rfl
    exact ⟨iff_of_true (f.replayBytes_readable htexts s) hok, .inl hok⟩
  · obtain ⟨hends, hstate⟩ := f.replayBytes_flawed hflawed s
    have hbad : ¬ ∀ line ∈ byteLines bytes, line.isOk = true := by
      rw [hflawed]
      exact fun hok => Bool.noConfusion (hok (.error flaw) (by simp))
    refine ⟨iff_of_false ?_ hbad, .inr ⟨before, flaw, after, hflawed, hends, hstate⟩⟩
    rintro ⟨summary, hsummary, -⟩
    cases hends.symm.trans hsummary

/-! ### A line that cannot be read -/

/-- A feed on a catalog and a bus in memory. -/
def smallFeed : Feed Catalog.Store Bus.Hub :=
  ⟨⟨"factory", 1000, 500⟩, Catalog.Store.service, Bus.Hub.service⟩

/-- Its state at the beginning: the factory is bound, and there is nothing else. -/
def smallState : State Catalog.Store Bus.Hub :=
  ⟨.ofSnapshot {}, { directory := ({} : Bus.Directory).bind "factory" 0 }, {}, {}⟩

/-- The record of a database that was created. -/
def createdLine : String :=
  "\x7b\"event\":\"database_created\",\"database\":\x7b\"name\":\"sales\"\x7d\x7d"

/-- **A line that cannot be read ends a replay**: nothing is counted, and the database on the next
line is not created.  After a line that is no event, it is. -/
theorem unreadable_line_ends_replay :
    filledLines (⟨#[0xFF, 0x0A]⟩ ++ createdLine.toUTF8) = 2 ∧
    ¬ (∃ summary,
      (smallFeed.replayBytes (⟨#[0xFF, 0x0A]⟩ ++ createdLine.toUTF8) smallState).1 =
        .ok summary) ∧
    (smallFeed.replayBytes (⟨#[0xFF, 0x0A]⟩ ++ createdLine.toUTF8) smallState).2.catalog.databases =
      ∅ ∧
    (smallFeed.replayBytes ("?\n" ++ createdLine).toUTF8 smallState).1 =
      .ok { delivered := 1, errors := 1 } := by
  have hends : (smallFeed.replayBytes (⟨#[0xFF, 0x0A]⟩ ++ createdLine.toUTF8) smallState).1 =
      .error (.io (.invalidText ⟨0, some 1⟩)) := by decide +kernel
  refine ⟨by decide +kernel, ?_, by decide +kernel, by decide +kernel⟩
  rintro ⟨summary, hsummary⟩
  cases hends.symm.trans hsummary

end Feed
end CatalogFeed
