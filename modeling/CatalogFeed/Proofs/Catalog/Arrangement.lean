import CatalogFeed.Proofs.Catalog.EventCodec
import CatalogFeed.Proofs.Json.Arrangement

/-!
# Proofs/Catalog/Arrangement — texts that differ in the order of members or have more of them

The text of an entity may be rearranged, and members added that it knows nothing of, without any
effect.  The same goes for events, but what is added to an event is put aside and checked with the
rest: a number in it must be within the range of a double, a string must be made of characters, and
it must not be nested too deeply.

* `CatalogEvent.decode_of_step`: one change in an event;
* `arrangement_is_immaterial`: all texts, however they are rearranged.
-/

namespace CatalogFeed

open Json

/-! ## Events -/

/-- The members of an event of a kind: its status, which may be left out, its kind, and the members
of the kind. -/
def ChangeKind.eventFields (kind : ChangeKind) : Fields :=
  .cons statusMember .flag (some (.bool true)) (required kindMember .text kind.fields)

/-- An event of a kind, as far as the arrangement of its document is concerned. -/
def ChangeKind.eventShape (kind : ChangeKind) : Shape :=
  .record "CatalogEvent" kind.eventFields

theorem ChangeKind.nodup_eventFields (kind : ChangeKind) : kind.eventFields.names.Nodup := by
  refine List.nodup_cons.mpr ⟨?_, List.nodup_cons.mpr
    ⟨kind.kindMember_not_mem_names, kind.nodup_names⟩⟩
  rw [required, Fields.names, List.mem_cons, not_or]
  exact ⟨kindMember_ne_statusMember.symm, kind.statusMember_not_mem_names⟩

namespace CatalogEvent

/-- **An event is read as the same event after a change**, if it may still be put aside. -/
theorem decode_of_step {e : CatalogEvent} {j j' : Json} (h : e.change.kind.eventShape.Step j j')
    (hheld : Held maxDepth j') (he : decode j = .ok e) : decode j' = .ok e := by
  obtain ⟨members, rfl⟩ := exists_of_decode he
  obtain ⟨members', rfl, -, hkept⟩ := h.exists_members e.change.kind.nodup_eventFields
  obtain ⟨-, hstatus, kind, row, ⟨k, hk, hkind⟩, htell, hchange⟩ := decode_object_iff.mp he
  rw [hchange, kind.kind_changeOfRow] at hkept
  have hmembers := held_object_iff.mp hheld
  refine decode_object_iff.mpr ⟨fun m hm => ⟨(hmembers m hm).1, fun _ => (hmembers m hm).2⟩, ?_,
    kind, row, ⟨k, ?_, hkind⟩, ?_, hchange⟩
  · refine (hkept statusMember .flag List.mem_cons_self).settles ?_ hstatus
    intro _ _ hstep
    cases hstep
  · -- The kind is a scalar, in which nothing can be changed.
    obtain hperm | ⟨_, _, _, _, _, _, hstep⟩ :=
      hkept kindMember .text (List.mem_cons_of_mem _ List.mem_cons_self)
    · rw [hk] at hperm
      exact (List.singleton_perm.mp hperm).symm
    · cases hstep
  · refine kind.fields.tell_of_kept kind.sound_fields _ _ (fun key shape hkey => ?_) row htell
    exact hkept key shape (List.mem_cons_of_mem _ (List.mem_cons_of_mem _ hkey))

/-- **An event is read as the same event however it is rearranged**, if it may still be put
aside. -/
theorem decode_of_rearranged {e : CatalogEvent} {j j' : Json}
    (h : e.change.kind.eventShape.Rearranged j j') (hheld : Held maxDepth j')
    (he : decode j = .ok e) : decode j' = .ok e := by
  induction h with
  | refl => exact he
  | tail _ hstep ih => exact decode_of_step hstep hheld (ih (hstep.held hheld))

end CatalogEvent

/-! ## Texts -/

/-- **Texts are parsed as the same value however they are arranged**: from every text that is
parsed, as long as the document is `arranged` in this way, it can be written, and every text of it
is parsed as the same value. -/
def ParsedHowever {β : Type} (parse : String → Except Problem β)
    (arranged : β → Json → Json → Prop) : Prop :=
  ∀ text v, parse text = .ok v → ∃ j, IsText text j ∧ ∀ j', arranged v j j' →
    (∃ text', IsText text' j') ∧ ∀ text', IsText text' j' → parse text' = .ok v

theorem parsedHowever_parseAs (α : Type) [Documented α] [LawfulDocumented α] :
    ParsedHowever (parseAs α) fun _ => (Documented.shape α).Rearranged := by
  intro text v h
  obtain ⟨row, hrow, rfl⟩ := map_eq_ok_iff.mp h
  obtain ⟨j, htext, hdecode⟩ := Shape.parse_eq_ok_iff.mp hrow
  refine ⟨j, htext, fun j' harranged => ⟨(harranged.spellable htext.spellable).exists_isText,
    fun text' htext' => ?_⟩⟩
  have hdecode' := harranged.decode LawfulDocumented.sound hdecode
  exact map_eq_ok_iff.mpr ⟨row, Shape.parse_eq_ok_iff.mpr ⟨j', htext', hdecode'⟩, rfl⟩

theorem parsedHowever_event : ParsedHowever CatalogEvent.parse fun e j j' =>
    e.change.kind.eventShape.Rearranged j j' ∧ Held maxDepth j' := by
  intro text e h
  obtain ⟨j, htext, hdecode⟩ := CatalogEvent.parse_eq_ok_iff.mp h
  refine ⟨j, htext, fun j' ⟨harranged, hheld⟩ =>
    ⟨(harranged.spellable htext.spellable).exists_isText, fun text' htext' => ?_⟩⟩
  exact CatalogEvent.parse_eq_ok_iff.mpr
    ⟨j', htext', CatalogEvent.decode_of_rearranged harranged hheld hdecode⟩

/-- **The arrangement of a text is immaterial.**  An event may be rearranged, too, as long as its
document may be put aside; otherwise it is not parsed as anything. -/
theorem arrangement_is_immaterial :
    (ParsedHowever (parseAs Database) fun _ => Database.shape.Rearranged) ∧
      (ParsedHowever (parseAs Table) fun _ => Table.shape.Rearranged) ∧
      (ParsedHowever (parseAs Partition) fun _ => Partition.shape.Rearranged) ∧
      (ParsedHowever CatalogEvent.parse fun e j j' =>
        e.change.kind.eventShape.Rearranged j j' ∧ Held maxDepth j') ∧
      ∀ text j e, IsText text j → CatalogEvent.parse text = .ok e → Held maxDepth j := by
  refine ⟨parsedHowever_parseAs _, parsedHowever_parseAs _, parsedHowever_parseAs _,
    parsedHowever_event, fun text j e htext h => ?_⟩
  obtain ⟨j', htext', hdecode⟩ := CatalogEvent.parse_eq_ok_iff.mp h
  cases htext.unique htext'
  exact CatalogEvent.held_of_decode hdecode

/-! ### An event, arranged in two ways -/

/-- The creation of a database. -/
def salesCreated : CatalogEvent := ⟨true, .databaseCreated { name := "sales" }⟩

/-- The members that say so. -/
def salesMembers : List (String × Json) :=
  [(statusMember, .bool true), (kindMember, .text "database_created"),
    ("database", .record [("name", .text "sales")])]

/-- A text of the event. -/
def salesText : String :=
  "\x7b\"status\":true,\"event\":\"database_created\",\"database\":\x7b\"name\":\"sales\"\x7d\x7d"

theorem form_salesCreated : salesCreated.Form (.record salesMembers) := by
  refine ⟨[("database", .record [("name", .text "sales")])], ?_, rfl⟩
  refine .inl ⟨_, _, rfl, .inl ⟨_, rfl, .inl ⟨_, _, rfl, rfl, ?_⟩⟩, rfl⟩
  exact .inr ⟨⟨_, rfl, rfl⟩, .inr ⟨⟨_, rfl, rfl⟩, .inr ⟨⟨_, rfl, rfl⟩, rfl⟩⟩⟩

theorem isText_salesText : IsText salesText (.record salesMembers) := by
  have hrender : (Json.record salesMembers).render = salesText := by decide +kernel
  rw [← hrender]
  exact (CatalogEvent.whole_form form_salesCreated).isText_render

/-- The same members in the opposite order, with one that belongs to other kinds of events. -/
def salesMembersMoved : List (String × Json) :=
  [("database", .record [("name", .text "sales")]), (kindMember, .text "database_created"),
    (statusMember, .bool true), ("partition_name", .int 7)]

/-- A text of them. -/
def salesTextMoved : String :=
  "\x7b\"database\":\x7b\"name\":\"sales\"\x7d,\"event\":\"database_created\",\"status\":true," ++
    "\"partition_name\":7\x7d"

theorem isText_salesTextMoved : IsText salesTextMoved (.record salesMembersMoved) := by
  have hrender : (Json.record salesMembersMoved).render = salesTextMoved := by decide +kernel
  rw [← hrender]
  refine Whole.isText_render (Whole.record fun m hm => ?_)
  obtain rfl | rfl | rfl | rfl := by simpa [salesMembersMoved] using hm
  · exact Whole.record (by simp [Whole.text])
  · exact Whole.text _
  · exact Whole.bool true
  · exact Whole.int 7

theorem rearranged_salesMembers : salesCreated.change.kind.eventShape.Rearranged
    (.record salesMembers) (.record salesMembersMoved) := by
  have hadded : salesCreated.change.kind.eventShape.Step
      (.object ([] ++ salesMembers.map Member.keyed) none)
      (.object ([] ++ (some "partition_name", .int 7) :: salesMembers.map Member.keyed) none) :=
    .unknown (by decide) ⟨_, (Whole.int 7).spells_renderChars⟩
  have hmoved : List.Perm ((some "partition_name", .int 7) :: salesMembers.map Member.keyed)
      (salesMembersMoved.map Member.keyed) := (List.reverse_perm _).symm
  exact .tail (.single hadded) (.members hmoved)

theorem arrangement_is_immaterial_sales :
    CatalogEvent.parse salesTextMoved = .ok salesCreated := by
  have hparse : CatalogEvent.parse salesText = .ok salesCreated :=
    CatalogEvent.parse_eq_ok_iff.mpr
      ⟨_, isText_salesText, CatalogEvent.decode_form form_salesCreated⟩
  obtain ⟨j, htext, hmoved⟩ := arrangement_is_immaterial.2.2.2.1 salesText salesCreated hparse
  cases isText_salesText.unique htext
  have hheld : Held maxDepth (.record salesMembersMoved) := inspect_eq_ok_iff.mp rfl
  exact (hmoved _ ⟨rearranged_salesMembers, hheld⟩).2 _ isText_salesTextMoved

/-! ### A number that is no double

What is added to an event must be held, not only be well-formed: a number that is beyond the range
of a double is refused, though nothing would ever look at it. -/

/-- `1e999`. -/
def vast : Json := .number ⟨false, 1, none, some ⟨false, 999⟩⟩

/-- The same text with a member more. -/
def vastText : String :=
  "\x7b\"status\":true,\"event\":\"database_created\"," ++
    "\"database\":\x7b\"name\":\"sales\"\x7d,\"x\":1e999\x7d"

theorem spells_vast : Spells vast (renderChars vast) := by
  have hone : Digits ['1'] := ⟨by simp, List.all_eq_true.mp rfl⟩
  have hnines : Digits ['9', '9', '9'] := ⟨by simp, List.all_eq_true.mp rfl⟩
  have hwhole : SpellsWhole 1 ['1'] := .digits hone (by simp)
  have hexponent : SpellsExponent (some ⟨false, 999⟩) ['e', '9', '9', '9'] :=
    .digits (.inl rfl) .none hnines
  exact .number ⟨['1'], [], _, hwhole, .none, hexponent, rfl⟩

theorem isText_vastText : IsText vastText (.record (salesMembers ++ [("x", vast)])) := by
  have hrender : (Json.record (salesMembers ++ [("x", vast)])).render = vastText := by
    decide +kernel
  rw [← hrender]
  refine isText_render (spells_record fun m hm => ?_)
  obtain rfl | rfl | rfl | rfl := by simpa [salesMembers] using hm
  · exact .yes
  · exact .string (spellsString_escape _)
  · exact (Whole.record (by simp [Whole.text])).spells_renderChars
  · exact spells_vast

/-- **Not every member may be added to an event**, even if its value is well-formed and not nested
at all. -/
theorem vast_number_refused :
    CatalogEvent.parse salesText = .ok salesCreated ∧
      (∃ j j', IsText salesText j ∧ IsText vastText j' ∧
        salesCreated.change.kind.eventShape.Rearranged j j') ∧
      ∀ e, CatalogEvent.parse vastText ≠ .ok e := by
  refine ⟨?_, ⟨_, _, isText_salesText, isText_vastText, ?_⟩, fun e h => ?_⟩
  · exact CatalogEvent.parse_eq_ok_iff.mpr
      ⟨_, isText_salesText, CatalogEvent.decode_form form_salesCreated⟩
  · have hstep : salesCreated.change.kind.eventShape.Step
        (.object (salesMembers.map Member.keyed ++ []) none)
        (.object (salesMembers.map Member.keyed ++ [(some "x", vast)]) none) :=
      .unknown (by decide) ⟨_, spells_vast⟩
    exact .single hstep
  · obtain ⟨j', htext, hdecode⟩ := CatalogEvent.parse_eq_ok_iff.mp h
    cases isText_vastText.unique htext
    have hheld := held_object_iff.mp (CatalogEvent.held_of_decode hdecode)
    cases (hheld (some "x", vast) (by simp)).2 with
    | number _ hvalue => exact hvalue (by decide)

end CatalogFeed
