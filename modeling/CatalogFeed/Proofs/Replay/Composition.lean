import CatalogFeed.Proofs.Replay.Course

/-!
# Proofs/Replay/Composition — replays compose, and bad lines stay apart

A text that follows complete lines is replayed as if it were replayed on its own, in the state that
the lines leave behind.  Therefore a line that is no event adds one error, wherever it stands, and
neither blank lines, nor the padding of lines, nor the way in which they end make a difference.

* `EndsLine.contents_append`: the contents of a text after complete lines;
* `Edited`: the edits that change nothing but the number of errors;
* `Edited.reads`: what they do to the contents;
* `Feed.replays_compose`: the sum of two replays, and the replay of an edited text.
-/

namespace CatalogFeed
namespace Replay

open Text (isBlank)

/-! ## Complete lines -/

/-- The text is empty or ends in a feed, so that a line begins after it. -/
def EndsLine (text : String) : Prop := text = "" ∨ ∃ lines : String, text = lines ++ "\n"

/-- **The contents of a text after complete lines.** -/
theorem EndsLine.contents_append {before : String} (h : EndsLine before) (after : String) :
    contents (before ++ after).toList = contents before.toList ++ contents after.toList := by
  rw [String.toList_append]
  rcases h with rfl | ⟨lines, rfl⟩
  · rfl
  · have hfeed : (lines ++ "\n").toList = lines.toList ++ ['\n'] := String.toList_append
    rw [hfeed, contents_append_feed, List.append_assoc, List.singleton_append, contents_line]

theorem contents_feed (before after : String) :
    contents (before ++ ("\n" ++ after)).toList =
      contents before.toList ++ contents after.toList := by
  have hfeed : (before ++ ("\n" ++ after)).toList = before.toList ++ '\n' :: after.toList := by
    rw [String.toList_append, String.toList_append]
    rfl
  rw [hfeed, contents_line]

/-! ## Padding -/

/-- Blanks that end no line. -/
def Padding (blanks : String) : Prop := '\n' ∉ blanks.toList ∧ ∀ c ∈ blanks.toList, isBlank c = true

theorem padding_return : Padding "\r" := ⟨by decide, Text.isBlank_return⟩

theorem Padding.contents_append {blanks : String} (h : Padding blanks) (before : String) :
    contents (before ++ blanks).toList = contents before.toList := by
  rw [String.toList_append, contents_append_blanks h.2 h.1]

theorem Padding.contents_prepend {blanks : String} (h : Padding blanks) (after : String) :
    contents (blanks ++ after).toList = contents after.toList := by
  rw [String.toList_append, contents_blanks_append h.2 h.1]

theorem contents_return_feed (before after : String) :
    contents (before ++ ("\r\n" ++ after)).toList =
      contents before.toList ++ contents after.toList := by
  have hreturn : "\r\n" = "\r" ++ "\n" := by decide
  rw [hreturn, String.append_assoc, ← String.append_assoc, contents_feed,
    padding_return.contents_append]

/-- A line ends where the text begins. -/
def AtLineEnd (text : String) : Prop :=
  text = "" ∨ (∃ rest : String, text = "\n" ++ rest) ∨ ∃ rest : String, text = "\r\n" ++ rest

/-- **Blanks at the end of a line** are not read, whatever ends the line. -/
theorem Padding.contents_atLineEnd {blanks after : String} (h : Padding blanks)
    (hend : AtLineEnd after) (before : String) :
    contents (before ++ (blanks ++ after)).toList = contents (before ++ after).toList := by
  rw [← String.append_assoc]
  obtain rfl | ⟨rest, rfl⟩ | ⟨rest, rfl⟩ := hend
  · rw [String.append_empty, String.append_empty, h.contents_append]
  · rw [contents_feed, contents_feed, h.contents_append]
  · rw [contents_return_feed, contents_return_feed, h.contents_append]

/-! ## Edits -/

/-- **The edits that add so many errors**, and make no other difference. -/
inductive Edited : Nat → String → String → Prop where
  | nothing (text : String) : Edited 0 text text
  | andThen {m n : Nat} {text text' text'' : String} :
      Edited m text text' → Edited n text' text'' → Edited (m + n) text text''
  /-- A line that is blank. -/
  | blankLine {before line : String} (after : String) : EndsLine before → '\n' ∉ line.toList →
      content? line = none → Edited 0 (before ++ after) (before ++ (line ++ ("\n" ++ after)))
  /-- A line that is no event. -/
  | badLine {before line content : String} {problem : Json.Problem} (after : String) :
      EndsLine before → '\n' ∉ line.toList → content? line = some content →
      CatalogEvent.parse content = .error problem →
      Edited 1 (before ++ after) (before ++ (line ++ ("\n" ++ after)))
  /-- The other end of a line. -/
  | returned (before after : String) :
      Edited 0 (before ++ ("\n" ++ after)) (before ++ ("\r\n" ++ after))
  | finalFeed (text : String) : Edited 0 text (text ++ "\n")
  | noFinalFeed (text : String) : Edited 0 (text ++ "\n") text
  /-- Blanks before a line. -/
  | padBefore {before blanks : String} (after : String) : EndsLine before → Padding blanks →
      Edited 0 (before ++ after) (before ++ (blanks ++ after))
  /-- Blanks at the end of a line. -/
  | padAfter (before : String) {blanks after : String} : Padding blanks → AtLineEnd after →
      Edited 0 (before ++ after) (before ++ (blanks ++ after))

/-- A line between complete lines and what follows them adds its content. -/
theorem contents_insert {before line : String} (h : EndsLine before) (hline : '\n' ∉ line.toList)
    (after : String) : contents (before ++ (line ++ ("\n" ++ after))).toList =
      contents before.toList ++ ((content? line).toList ++ contents after.toList) := by
  rw [h.contents_append, contents_feed, contents_of_not_mem hline, String.ofList_toList]

/-- **An edit adds so many lines that are no event**, and leaves the events as they are. -/
theorem Edited.reads {n : Nat} {text text' : String} (h : Edited n text text') :
    events (contents text'.toList) = events (contents text.toList) ∧
      malformed (contents text'.toList) = malformed (contents text.toList) + n := by
  have hsame : ∀ {a b : List String}, a = b → events a = events b ∧ malformed a = malformed b + 0 :=
    fun hab => hab ▸ ⟨rfl, rfl⟩
  induction h with
  | nothing text => exact hsame rfl
  | andThen _ _ ih ih' => exact ⟨ih'.1.trans ih.1, by rw [ih'.2, ih.2, Nat.add_assoc]⟩
  | blankLine after hends hline hblank =>
    refine hsame ?_
    rw [contents_insert hends hline, hblank, hends.contents_append]
    rfl
  | badLine after hends hline hcontent hparse =>
    rw [contents_insert hends hline, hcontent, hends.contents_append, Option.toList_some,
      events_append, events_append, events_append, events_of_error hparse, malformed_append,
      malformed_append, malformed_append, malformed_of_error hparse]
    exact ⟨rfl, by omega⟩
  | returned before after => exact hsame (by rw [contents_return_feed, contents_feed])
  | finalFeed text => exact hsame (by rw [String.toList_append]; exact contents_append_feed _)
  | noFinalFeed text =>
    exact hsame (by rw [String.toList_append]; exact (contents_append_feed _).symm)
  | padBefore after hends hpadding =>
    exact hsame (by rw [hends.contents_append, hpadding.contents_prepend, hends.contents_append])
  | padAfter before hpadding hend => exact hsame (hpadding.contents_atLineEnd hend before)

end Replay

/-! ## Replays -/

namespace Feed

open Replay (Edited EndsLine Summary contents)

variable {β : Type} (f : Feed Catalog.Store β)

/-- More lines that are no event are more errors. -/
theorem course_of_reads {a b : List String} {n : Nat} (hevents : Replay.events b = Replay.events a)
    (hmalformed : Replay.malformed b = Replay.malformed a + n) (s : State Catalog.Store β) :
    f.course b s =
      ({ (f.course a s).1 with errors := (f.course a s).1.errors + n }, (f.course a s).2) := by
  simp only [course, hevents, hmalformed, Summary.of, Prod.mk.injEq, Summary.mk.injEq, true_and,
    and_true]
  omega

/-- **Replays compose, and bad lines stay apart.**  To replay a text after complete lines is to
replay both in turn: it leaves the same catalog, link and bus behind, and the summaries add up.  An
edit of a text adds its number of errors to the summary, and changes nothing else. -/
theorem replays_compose (s : State Catalog.Store β) :
    (∀ a b : String, EndsLine a → ∃ m n : Summary,
      (f.replayBytes a.toUTF8 s).1 = .ok m ∧
      (f.replayBytes b.toUTF8 (f.replayBytes a.toUTF8 s).2).1 = .ok n ∧
      (f.replayBytes (a ++ b).toUTF8 s).1 = .ok (m + n) ∧
      (f.replayBytes (a ++ b).toUTF8 s).2.SameButLog
        (f.replayBytes b.toUTF8 (f.replayBytes a.toUTF8 s).2).2) ∧
    ∀ (n : Nat) (text text' : String), Edited n text text' → ∃ m : Summary,
      (f.replayBytes text.toUTF8 s).1 = .ok m ∧
      (f.replayBytes text'.toUTF8 s).1 = .ok { m with errors := m.errors + n } ∧
      (f.replayBytes text'.toUTF8 s).2.SameButLog (f.replayBytes text.toUTF8 s).2 := by
  constructor
  · intro a b ha
    obtain ⟨hfirst, hafter⟩ := f.replayBytes_course a s
    obtain ⟨hsecond, hend⟩ := f.replayBytes_course b (f.replayBytes a.toUTF8 s).2
    obtain ⟨hboth, hlast⟩ := f.replayBytes_course (a ++ b) s
    obtain ⟨hsame, hcourse⟩ := f.course_congr (contents b.toList) hafter
    rw [ha.contents_append, course_append] at hboth hlast
    exact ⟨_, _, hfirst, hsecond, hsame ▸ hboth, hlast.trans (hend.trans hcourse).symm⟩
  · intro n text text' hedited
    obtain ⟨hevents, hmalformed⟩ := hedited.reads
    obtain ⟨hbefore, hstate⟩ := f.replayBytes_course text s
    obtain ⟨hafter, hstate'⟩ := f.replayBytes_course text' s
    rw [f.course_of_reads hevents hmalformed] at hafter hstate'
    exact ⟨_, hbefore, hafter, hstate'.trans hstate.symm⟩

end Feed
end CatalogFeed
