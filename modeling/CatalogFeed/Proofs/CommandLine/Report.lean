import CatalogFeed.Proofs.Catalog.EventCodec
import CatalogFeed.Proofs.Replay.Contents
import CatalogFeed.Proofs.Replay.Order
import CatalogFeed.Proofs.Text.Stamp

/-!
# Proofs/CommandLine/Report — what can be read in the report of a run

A dry run prints one line for each message that it delivered, in the order in which they were
committed, and a line that sums it up.  Tags and bodies have no control characters in them, and
neither do times, so whatever is wrong with a report is wrong with a topic: topics are printed as
they are.

* `finished_of_publishEvents`: a dry run that finishes has delivered notices, commit by commit;
* `cutFirst_intercalate`: columns;
* `report_read_back_iff`: a report is read back if and only if no topic has a tab or a feed in it.
-/

namespace CatalogFeed

open Bus (Delivered)
open Json (isPlain)

/-! ## Texts without control characters -/

/-- A text without control characters. -/
def Text.Plain (text : String) : Prop := ∀ c ∈ text.toList, isPlain c = true

namespace Text

instance (text : String) : Decidable (Plain text) :=
  decidable_of_iff (text.toList.all isPlain = true) List.all_eq_true

theorem Plain.not_mem {text : String} (h : Plain text) {c : Char} (hc : isPlain c = false) :
    c ∉ text.toList := fun hmem => by simp [h c hmem] at hc

theorem plain_append (a b : String) : Plain (a ++ b) ↔ Plain a ∧ Plain b := by
  simp only [Plain, String.toList_append, List.forall_mem_append]

theorem plain_toDigits (n : Nat) : ∀ c ∈ Nat.toDigits 10 n, isPlain c = true := fun _ h =>
  Json.isPlain_of_isDigit (Nat.isDigit_of_mem_toDigits (by decide) (by decide) h)

theorem plain_toString (n : Nat) : Plain (toString n) := by
  rw [Plain, Nat.toString_eq_repr, Nat.toList_repr]
  exact plain_toDigits n

theorem plain_padded (width n : Nat) : Plain (padded width n) := by
  rw [Plain, padded, String.toList_ofList]
  refine List.forall_mem_append.mpr ⟨fun c hc => ?_, plain_toDigits n⟩
  rw [List.eq_of_mem_replicate hc]
  rfl

theorem plain_yearText (year : Nat) : Plain (yearText year) := by
  rw [yearText]
  split
  · exact plain_padded 4 year
  · exact (plain_append _ _).mpr ⟨by decide, plain_padded 4 year⟩

theorem plain_fractionText {nanoseconds : Nat} (h : nanoseconds < 1000000000) :
    Plain (fractionText nanoseconds) := by
  rcases fractionText_cases h with ⟨-, htext⟩ | ⟨width, n, -, -, -, htext⟩ <;> rw [htext]
  · decide
  · exact (plain_append _ _).mpr ⟨by decide, plain_padded width n⟩

theorem plain_stamp (nanoseconds : Nat) : Plain (stamp nanoseconds) := by
  have hfraction := plain_fractionText (Nat.mod_lt nanoseconds (by decide : 0 < 1000000000))
  simp only [stamp, plain_append, plain_yearText, plain_padded, hfraction, true_and]
  decide

end Text

open Text (Plain)

theorem plain_printDocument {α : Type} [Documented α] (v : α) : Plain (printDocument v) := by
  rw [Plain, printDocument, Json.render, String.toList_ofList]
  exact (Json.Shape.whole_encode (Documented.shape α) (Documented.toRow v)).isPlain

/-- **The body of a notice has no control characters.** -/
theorem Message.IsNotice.plain_encodeBody {m : Message} (h : m.IsNotice) : Plain m.encodeBody := by
  obtain ⟨payload, tag, rfl⟩ := h
  rcases payload with named | (d | t | q | name)
  · exact plain_printDocument named
  · exact plain_printDocument d
  · exact plain_printDocument t
  · exact plain_printDocument q
  · exact plain_printDocument name

/-- **A notice has a tag**, which has no control characters. -/
theorem Message.IsNotice.plain_tag {m : Message} (h : m.IsNotice) :
    Plain ((m.property? eventProperty).getD "") := by
  obtain ⟨payload, tag, rfl⟩ := h
  have htag : (payload.message tag).property? eventProperty = some tag.text :=
    Dict.get?_insert_self _ _ _
  rw [htag, Option.getD_some]
  cases tag <;> decide

/-! ## Columns -/

section Columns

variable {α : Type} [DecidableEq α] {mark : α}

/-- A line cut at the first marks in it, at `n` of them at most. -/
def cutFirst (mark : α) : Nat → List α → List (List α)
  | 0, line => [line]
  | n + 1, line =>
    match line.dropWhile (· ≠ mark) with
    | [] => [line]
    | _ :: rest => line.takeWhile (· ≠ mark) :: cutFirst mark n rest

theorem cutFirst_ne_nil (mark : α) (n : Nat) (line : List α) : cutFirst mark n line ≠ [] := by
  cases n with
  | zero => exact List.cons_ne_nil _ _
  | succ n =>
    rw [cutFirst]
    split <;> exact List.cons_ne_nil _ _

/-- What is in a column is in the line. -/
theorem subset_of_mem_cutFirst {n : Nat} {line column : List α}
    (h : column ∈ cutFirst mark n line) : column ⊆ line := by
  induction n generalizing line with
  | zero => exact List.mem_singleton.mp h ▸ List.Subset.refl line
  | succ n ih =>
    rw [cutFirst] at h
    split at h
    · exact List.mem_singleton.mp h ▸ List.Subset.refl line
    · next first rest hrest =>
      rcases List.mem_cons.mp h with rfl | h
      · exact (List.takeWhile_sublist _).subset
      · have hdrop : first :: rest ⊆ line := hrest ▸ (List.dropWhile_sublist _).subset
        exact fun a ha => hdrop (List.mem_cons_of_mem first (ih h ha))

/-- **Only the last column may have a mark in it.** -/
theorem not_mem_of_mem_dropLast_cutFirst {n : Nat} {line column : List α}
    (h : column ∈ (cutFirst mark n line).dropLast) : mark ∉ column := by
  induction n generalizing line with
  | zero => cases h
  | succ n ih =>
    rw [cutFirst] at h
    split at h
    · cases h
    · next first rest hrest =>
      rw [List.dropLast_cons_of_ne_nil (cutFirst_ne_nil mark n rest)] at h
      rcases List.mem_cons.mp h with rfl | h
      · exact fun hmem => by simpa using List.mem_takeWhile_imp hmem
      · exact ih h

theorem cutFirst_append_cons {column : List α} (h : mark ∉ column) (n : Nat) (rest : List α) :
    cutFirst mark (n + 1) (column ++ mark :: rest) = column :: cutFirst mark n rest := by
  have hcolumn : ∀ a ∈ column, decide (a ≠ mark) = true := fun a ha =>
    decide_eq_true fun heq => h (heq ▸ ha)
  rw [cutFirst, List.dropWhile_append_of_pos hcolumn, List.takeWhile_append_of_pos hcolumn,
    List.dropWhile_cons_of_neg (by simp), List.takeWhile_cons_of_neg (by simp), List.append_nil]

/-- **Columns are cut apart again** if only the last may have a mark in it. -/
theorem cutFirst_intercalate {n : Nat} {columns : List (List α)} (hn : columns.length = n + 1)
    (h : ∀ column ∈ columns.dropLast, mark ∉ column) :
    cutFirst mark n ([mark].intercalate columns) = columns := by
  induction columns generalizing n with
  | nil => cases hn
  | cons column columns ih =>
    cases columns with
    | nil =>
      obtain rfl : n = 0 := by simpa using hn.symm
      rw [List.intercalate_singleton, cutFirst]
    | cons column' columns =>
      obtain ⟨n, rfl⟩ : ∃ m, n = m + 1 := ⟨columns.length, by simpa using hn.symm⟩
      rw [List.dropLast_cons_of_ne_nil (List.cons_ne_nil _ _), List.forall_mem_cons] at h
      rw [List.intercalate_cons_cons, List.append_assoc, List.singleton_append,
        cutFirst_append_cons h.1, ih (Nat.succ.inj hn) h.2]

end Columns

namespace CommandLine

/-! ## Lines -/

/-- The text of printed lines: each of them is ended. -/
def printed (lines : List String) : String := String.join (lines.map (· ++ "\n"))

/-- The lines of a text in which each of them is ended. -/
def linesOf (text : String) : List String :=
  (Replay.cutAt '\n' text.toList).dropLast.map String.ofList

theorem not_mem_of_mem_linesOf {text line : String} (h : line ∈ linesOf text) :
    '\n' ∉ line.toList := by
  obtain ⟨chars, hchars, rfl⟩ := List.mem_map.mp h
  rw [String.toList_ofList]
  exact Replay.not_mem_of_mem_cutAt (List.dropLast_subset _ hchars)

theorem cutAt_printed {lines : List String} (h : ∀ line ∈ lines, '\n' ∉ line.toList) :
    Replay.cutAt '\n' (printed lines).toList = lines.map String.toList ++ [[]] := by
  induction lines with
  | nil => rfl
  | cons line lines ih =>
    obtain ⟨hline, hlines⟩ := List.forall_mem_cons.mp h
    have htext : (printed (line :: lines)).toList =
        line.toList ++ '\n' :: (printed lines).toList := by
      simp [printed]
    rw [htext, Replay.cutAt_append_cons hline, ih hlines, List.map_cons, List.cons_append]

/-- **Lines are read back** if they are lines. -/
theorem linesOf_printed {lines : List String} (h : ∀ line ∈ lines, '\n' ∉ line.toList) :
    linesOf (printed lines) = lines := by
  rw [linesOf, cutAt_printed h, List.dropLast_concat, List.map_map]
  simp [Function.comp_def]

/-! ## Reports -/

/-- What a line of a report says of a message. -/
structure Row where
  /-- In nanoseconds since the start of 1970. -/
  time : Nat
  topic : String
  tag : String
  body : String
  deriving DecidableEq

/-- Reads a line that was cut at its first three tabs. -/
def Row.ofColumns? : List String → Option Row
  | [time, topic, tag, body] => some ⟨Text.moment time, topic, tag, body⟩
  | _ => none

/-- Reads a line: it is cut at its first three tabs. -/
def Row.read? (line : String) : Option Row :=
  Row.ofColumns? ((cutFirst '\t' 3 line.toList).map String.ofList)

/-- What a reader finds in a report: a row in each line but the last, and the last line. -/
structure Report where
  rows : List (Option Row)
  summary : Option String
  deriving DecidableEq

/-- Reads a report. -/
def Report.read (text : String) : Report :=
  ⟨(linesOf text).dropLast.map Row.read?, (linesOf text).getLast?⟩

/-- What is to be read of a delivered message that was committed at a time. -/
def row (time : Nat) (d : Delivered) : Row :=
  ⟨time, d.topic, (d.message.property? eventProperty).getD "", d.message.encodeBody⟩

/-- The text can be told from what stands around it in a report: it has no tab and no line feed. -/
def IsSeparable (text : String) : Prop := '\t' ∉ text.toList ∧ '\n' ∉ text.toList

theorem isSeparable_of_plain {text : String} (h : Plain text) : IsSeparable text :=
  ⟨h.not_mem rfl, h.not_mem rfl⟩

/-- The columns of the line of a message. -/
def columns (time : Nat) (d : Delivered) : List String :=
  [Text.stamp time, d.topic, (d.message.property? eventProperty).getD "", d.message.encodeBody]

theorem ofColumns?_columns (time : Nat) (d : Delivered) :
    Row.ofColumns? (columns time d) = some (row time d) := by
  rw [columns, Row.ofColumns?, Text.moment_stamp, row]

theorem toList_deliveredLine (time : Nat) (d : Delivered) :
    (deliveredLine time d).toList =
      ['\t'].intercalate ((columns time d).map String.toList) := by
  simp [deliveredLine, entryText, columns, List.intercalate]

/-- **The line of a notice is read back** if its topic has no tab in it. -/
theorem read?_deliveredLine (time : Nat) {d : Delivered} (hd : d.message.IsNotice)
    (htopic : '\t' ∉ d.topic.toList) :
    Row.read? (deliveredLine time d) = some (row time d) := by
  have hcut : cutFirst '\t' 3 (deliveredLine time d).toList =
      (columns time d).map String.toList := by
    rw [toList_deliveredLine]
    refine cutFirst_intercalate rfl ?_
    simp only [columns, List.map_cons, List.map_nil, List.dropLast_cons_cons,
      List.dropLast_singleton, List.forall_mem_cons]
    exact ⟨(Text.plain_stamp _).not_mem rfl, htopic, hd.plain_tag.not_mem rfl, nofun⟩
  rw [Row.read?, hcut, List.map_map, ← ofColumns?_columns]
  simp [Function.comp_def]

/-- **The line of a notice is a line** if its topic is one. -/
theorem not_mem_deliveredLine (time : Nat) {d : Delivered} (hd : d.message.IsNotice)
    (htopic : '\n' ∉ d.topic.toList) : '\n' ∉ (deliveredLine time d).toList := by
  have hstamp := (Text.plain_stamp time).not_mem (c := '\n') rfl
  have htag := hd.plain_tag.not_mem (c := '\n') rfl
  have hbody := hd.plain_encodeBody.not_mem (c := '\n') rfl
  simp [deliveredLine, entryText, hstamp, htopic, htag, hbody]

theorem Row.exists_of_ofColumns? {columns : List String} {r : Row}
    (h : ofColumns? columns = some r) : ∃ time, columns = [time, r.topic, r.tag, r.body] := by
  unfold ofColumns? at h
  split at h
  · cases h
    exact ⟨_, rfl⟩
  · cases h

/-- **What is read of a line** has a topic without tabs and feeds. -/
theorem topic_of_read? {line : String} {r : Row} (h : Row.read? line = some r)
    (hline : '\n' ∉ line.toList) : IsSeparable r.topic := by
  obtain ⟨time, htexts⟩ := Row.exists_of_ofColumns? h
  have hcut : cutFirst '\t' 3 line.toList =
      [time.toList, r.topic.toList, r.tag.toList, r.body.toList] := by
    simpa [Function.comp_def] using congrArg (List.map String.toList) htexts
  have htopic : r.topic.toList ∈ (cutFirst '\t' 3 line.toList).dropLast := by simp [hcut]
  exact ⟨not_mem_of_mem_dropLast_cutFirst htopic,
    fun hmem => hline (subset_of_mem_cutFirst (List.dropLast_subset _ htopic) hmem)⟩

theorem plain_summaryLine (summary : Replay.Summary) : Plain (summaryLine summary) := by
  unfold summaryLine
  simp only [Text.plain_append, Text.plain_toString, and_true]
  decide

/-- **The report of notices is read back** exactly if their topics have no tabs and feeds. -/
theorem read_printed_iff (times : Nat → Nat) {delivered : List Delivered}
    (h : ∀ d ∈ delivered, d.message.IsNotice) {last : String} (hlast : Plain last) :
    Report.read (printed ((delivered.mapIdx fun i d => deliveredLine (times i) d) ++ [last])) =
        ⟨delivered.mapIdx fun i d => some (row (times i) d), some last⟩ ↔
      ∀ d ∈ delivered, IsSeparable d.topic := by
  rw [Report.read, Report.mk.injEq]
  constructor
  · rintro ⟨hrows, -⟩ d hd
    obtain ⟨i, hi⟩ := List.getElem?_of_mem hd
    have hrow : some (row (times i) d) ∈ delivered.mapIdx fun i d => some (row (times i) d) :=
      List.mem_of_getElem? (i := i) (by rw [List.getElem?_mapIdx, hi, Option.map_some])
    rw [← hrows] at hrow
    obtain ⟨line, hline, hread⟩ := List.mem_map.mp hrow
    exact topic_of_read? hread (not_mem_of_mem_linesOf (List.dropLast_subset _ hline))
  · intro hseparable
    have hlines : ∀ line ∈ (delivered.mapIdx fun i d => deliveredLine (times i) d) ++ [last],
        '\n' ∉ line.toList := by
      refine List.forall_mem_append.mpr ⟨fun line hline => ?_, ?_⟩
      · obtain ⟨i, hi, rfl⟩ := List.mem_mapIdx.mp hline
        have hmem := List.getElem_mem hi
        exact not_mem_deliveredLine _ (h _ hmem) (hseparable _ hmem).2
      · exact List.forall_mem_singleton.mpr (hlast.not_mem rfl)
    rw [linesOf_printed hlines, List.dropLast_concat]
    refine ⟨List.ext_getElem (by simp) fun i hi _ => ?_, List.getLast?_concat⟩
    have hbound : i < delivered.length := by simpa using hi
    have hmem := List.getElem_mem hbound
    rw [List.getElem_map, List.getElem_mapIdx, List.getElem_mapIdx]
    exact read?_deliveredLine _ (h _ hmem) (hseparable _ hmem).1

/-! ## Runs -/

/-- **A dry run that finishes** has delivered notices, commit by commit. -/
theorem finished_of_publishEvents {o : Options} (ho : o.dryRun = true) {c : Config}
    {catalog : Catalog.Store} {events : Option ByteArray} {journal : Journal}
    {delivered : List Delivered} {summary : Replay.Summary}
    (h : (publishEvents o c catalog events journal).outcome = .finished delivered summary) :
    delivered = Bus.ledger (busRecord o c catalog events journal) ∧
      ∀ d ∈ delivered, d.message.IsNotice := by
  have hdelivered := Feed.delivered_replayEvents o c catalog events journal
  have hnotices := Feed.carriesNotices_replayEvents c.publisher
    (s := ⟨catalog, ⟨c.directoryOf, {}⟩, {}, journal⟩) (Bus.Account.Carries.empty 0) o events
  rw [publishEvents, if_pos ho] at h
  dsimp only [Feed.onStore] at hdelivered hnotices h
  generalize replayEvents ⟨c.publisher, Catalog.Store.service, Bus.Hub.service⟩ o events
    ⟨catalog, ⟨c.directoryOf, {}⟩, {}, journal⟩ = replayed at hdelivered hnotices h
  obtain ⟨result, s⟩ := replayed
  cases result with
  | ok _ =>
    obtain ⟨rfl, -⟩ := Outcome.finished.inj h
    exact ⟨hdelivered, hnotices.delivered⟩
  | error _ => cases h

/-- A run that finishes has had options, a configuration and a catalog. -/
theorem exists_of_run {arguments : List String} {s : Surroundings} {delivered : List Delivered}
    {summary : Replay.Summary} (h : (run arguments s).outcome = .finished delivered summary) :
    ∃ o c catalog, Options.ofArguments arguments = .ok o ∧ loadConfig s o.config = .ok c ∧
      loadCatalog s c o.catalog = .ok catalog ∧
      (publishEvents o c catalog (s.read o.events) (startJournal o c)).outcome =
        .finished delivered summary := by
  rw [run] at h
  split at h
  · cases h
  · cases h
  · next o ho =>
    rw [runWith] at h
    split at h
    · cases h
    · next c hc =>
      dsimp only at h
      split at h
      · cases h
      · next catalog hcatalog => exact ⟨o, c, catalog, ho, hc, hcatalog, h⟩

/-- **A report is read back exactly if its topics can be told from what stands around them.**  A dry
run that finishes prints the messages that were delivered, commit by commit, each on a line, and
then one line that sums the run up.  With whatever times they were committed at, time, topic, tag
and body are read back from the lines exactly if there is no tab and no line feed in a topic; there
are none in a time, a tag, a body or the last line. -/
theorem report_read_back_iff {arguments : List String} {s : Surroundings} {o : Options}
    {delivered : List Delivered} {summary : Replay.Summary}
    (ho : Options.ofArguments arguments = .ok o) (hdry : o.dryRun = true)
    (h : (run arguments s).outcome = .finished delivered summary) (times : Nat → Nat) :
    (∃ c catalog, loadConfig s o.config = .ok c ∧ loadCatalog s c o.catalog = .ok catalog ∧
      delivered =
        Bus.ledger (busRecord o c catalog (s.read o.events) (startJournal o c))) ∧
    (Report.read (printed ((run arguments s).outcome.output times)) =
        ⟨delivered.mapIdx fun i d => some (row (times i) d), some (summaryLine summary)⟩ ↔
      ∀ d ∈ delivered, IsSeparable d.topic) ∧
    (∀ time, IsSeparable (Text.stamp time)) ∧
    (∀ d ∈ delivered, IsSeparable ((d.message.property? eventProperty).getD "") ∧
      IsSeparable d.message.encodeBody) ∧
    IsSeparable (summaryLine summary) := by
  obtain ⟨o', c, catalog, ho', hc, hcatalog, hfinished⟩ := exists_of_run h
  obtain rfl : o = o' := Except.ok.inj (ho.symm.trans ho')
  obtain ⟨hledger, hnotices⟩ := finished_of_publishEvents hdry hfinished
  rw [h]
  refine ⟨⟨c, catalog, hc, hcatalog, hledger⟩,
    read_printed_iff times hnotices (plain_summaryLine summary),
    fun time => isSeparable_of_plain (Text.plain_stamp time), fun d hd => ?_,
    isSeparable_of_plain (plain_summaryLine summary)⟩
  exact ⟨isSeparable_of_plain (hnotices d hd).plain_tag,
    isSeparable_of_plain (hnotices d hd).plain_encodeBody⟩

/-! ### The creation of a database, under two prefixes -/

deriving instance DecidableEq for Outcome

/-- A dry run. -/
def dryRun : List String := ["--config=c.json", "--events=events", "--dry-run"]

/-- Its files: a configuration, and the creation of one database. -/
def filesWith (config : String) : Surroundings where
  read path :=
    if path = "c.json" then some config.toUTF8
    else if path = "events" then
      some "\x7b\"event\":\"database_created\",\"database\":\x7b\"name\":\"sales\"\x7d\x7d".toUTF8
    else none
  environment := []

/-- A configuration without a prefix of topics. -/
def plainConfig : String := "\x7b\"broker\":\x7b\"brokers\":[]\x7d\x7d"

/-- A configuration with a tab in the prefix of topics. -/
def tabbedConfig : String :=
  "\x7b\"broker\":\x7b\"brokers\":[]\x7d,\"host\":\x7b\"properties\":" ++
    "\x7b\"hcat.msgbus.topic.prefix\":\"a\\tb\"\x7d\x7d\x7d"

/-- The message that is delivered to a topic. -/
def announced (topic : String) : Delivered where
  topic := topic
  message := (Payload.snapshot (.database { name := "sales" })).message .addDatabase
  session := 0
  committedAt := 0

/-- A time in the year 2024, to the microsecond. -/
def someTime : Nat := 1704067200000250000

theorem report_read_back_plain :
    (run dryRun (filesWith plainConfig)).outcome = .finished [announced "hcat"] { delivered := 1 } ∧
      Report.read (printed ((run dryRun (filesWith plainConfig)).outcome.output
          fun _ => someTime)) =
        ⟨[some (row someTime (announced "hcat"))], some (summaryLine { delivered := 1 })⟩ := by
  have hfinished : (run dryRun (filesWith plainConfig)).outcome =
      .finished [announced "hcat"] { delivered := 1 } := by decide +kernel
  obtain ⟨o, ho, hdry⟩ : ∃ o, Options.ofArguments dryRun = .ok o ∧ o.dryRun = true :=
    ⟨_, rfl, rfl⟩
  obtain ⟨-, hread, -⟩ := report_read_back_iff ho hdry hfinished fun _ => someTime
  exact ⟨hfinished, hread.mpr (List.forall_mem_singleton.mpr ⟨by decide, by decide⟩)⟩

/-- **A topic with a tab in it is misread.** -/
theorem tabbed_topic_is_misread :
    (run dryRun (filesWith tabbedConfig)).outcome =
        .finished [announced "a\tb"] { delivered := 1 } ∧
      Report.read (printed ((run dryRun (filesWith tabbedConfig)).outcome.output
          fun _ => someTime)) ≠
        ⟨[some (row someTime (announced "a\tb"))], some (summaryLine { delivered := 1 })⟩ := by
  have hfinished : (run dryRun (filesWith tabbedConfig)).outcome =
      .finished [announced "a\tb"] { delivered := 1 } := by decide +kernel
  have hnotices : ∀ d ∈ [announced "a\tb"], d.message.IsNotice :=
    List.forall_mem_singleton.mpr ⟨_, _, rfl⟩
  refine ⟨hfinished, fun hread => ?_⟩
  rw [hfinished] at hread
  have hseparable := (read_printed_iff (fun _ => someTime) hnotices (plain_summaryLine _)).mp hread
  exact (hseparable _ List.mem_cons_self).1 (by decide)

end CommandLine
end CatalogFeed
