import CatalogFeed.Proofs.Catalog.EventReading
import CatalogFeed.Proofs.Json.Codec

/-!
# Proofs/Catalog/EventCodec — entities and events are read back

The shapes of the entities are sound, so an entity is read back from its document and its text.  An
event is written as one flat object: its status, its kind, the members of that kind.  Since no
member of a kind is named like the first two, and none is nested too deeply to be put aside, the
event is read back too.

* `parseAs_printDocument`: entities;
* `CatalogEvent.decode_encode`, `CatalogEvent.parse_print`: events;
* `CatalogEvent.valuesAt_kindMember`: the text names the kind;
* `CatalogEvent.isPlain_of_mem_print`: the text of an event is one line.
-/

namespace CatalogFeed

open Json

/-- The values of the members of an object that have the given name, in order. -/
def Json.valuesAt (name : String) : Json → List Json
  | .object members _ => (members.filter (·.1 = some name)).map (·.2)
  | _ => []

/-! ## Entities -/

/-- A type whose values are read back from their documents. -/
class LawfulDocumented (α : Type) [Documented α] : Prop where
  sound : (Documented.shape α).sound = true
  ofRow_toRow (v : α) : Documented.ofRow (Documented.toRow v) = v

instance : LawfulDocumented Column := ⟨rfl, Column.ofRow_toRow⟩
instance : LawfulDocumented SortColumn := ⟨rfl, SortColumn.ofRow_toRow⟩
instance : LawfulDocumented RowFormat := ⟨rfl, RowFormat.ofRow_toRow⟩
instance : LawfulDocumented Storage := ⟨rfl, Storage.ofRow_toRow⟩
instance : LawfulDocumented Database := ⟨rfl, Database.ofRow_toRow⟩
instance : LawfulDocumented Table := ⟨rfl, Table.ofRow_toRow⟩
instance : LawfulDocumented Partition := ⟨rfl, Partition.ofRow_toRow⟩
instance : LawfulDocumented String := ⟨rfl, fun _ => rfl⟩
instance : LawfulDocumented Properties := ⟨rfl, fun _ => rfl⟩

section Entities

variable {α : Type} [Documented α] [LawfulDocumented α]

/-- **An entity is read back from its text.** -/
theorem parseAs_printDocument (v : α) : parseAs α (printDocument v) = .ok v := by
  have h := Shape.parse_print (LawfulDocumented.sound (α := α)) (Documented.toRow v)
  change ((Documented.shape α).parse ((Documented.shape α).print (Documented.toRow v))).map _ = _
  rw [h]
  exact congrArg Except.ok (LawfulDocumented.ofRow_toRow v)

/-- **No two entities of a type have the same text.** -/
theorem printDocument_injective {v w : α} (h : printDocument v = printDocument w) : v = w := by
  have hrow : Documented.toRow v = Documented.toRow w :=
    Shape.print_injective (LawfulDocumented.sound (α := α)) h
  rw [← LawfulDocumented.ofRow_toRow v, hrow, LawfulDocumented.ofRow_toRow]

end Entities

/-! ## Members of events -/

namespace ChangeKind

theorem sound_fields (kind : ChangeKind) : kind.fields.sound = true := by
  cases kind <;> rfl

theorem depth_fields_le (kind : ChangeKind) : kind.fields.depth ≤ maxDepth - 1 := by
  cases kind <;> decide

end ChangeKind

theorem decodeKind_name (kind : ChangeKind) : decodeKind (.text kind.name) = .ok kind := by
  rw [text, decodeKind, ChangeKind.ofName?_name]

/-! ## Events -/

namespace CatalogEvent

/-- The members of an event before those of its kind. -/
def heading (e : CatalogEvent) : List (String × Json) :=
  [(statusMember, .bool e.status), (kindMember, .text e.change.name)]

/-- **The document is a form of the event**: its status, its kind, and the members of that kind in
any form. -/
def Form (e : CatalogEvent) (j : Json) : Prop :=
  ∃ members, e.change.kind.fields.FormMembers e.change.toRow members ∧
    j = .record (e.heading ++ members)

theorem form_encode (e : CatalogEvent) : e.Form e.encode :=
  ⟨_, e.change.kind.fields.formMembers_encodeMembers e.change.toRow, rfl⟩

theorem under_of_mem_names {e : CatalogEvent} {members : List (String × Json)} {name : String}
    (hname : name ∈ e.change.kind.fields.names) :
    under name ((e.heading ++ members).map Member.keyed) =
      under name (members.map Member.keyed) := by
  have hstatus : statusMember ≠ name :=
    fun heq => e.change.kind.statusMember_not_mem_names (heq ▸ hname)
  have hkind : kindMember ≠ name := fun heq => e.change.kind.kindMember_not_mem_names (heq ▸ hname)
  rw [heading, List.cons_append, List.map_cons, under_cons_of_ne hstatus, List.cons_append,
    List.map_cons, under_cons_of_ne hkind, List.nil_append]

section Members

variable {e : CatalogEvent} {members : List (String × Json)}
  (h : (members.map (·.1)).Sublist e.change.kind.fields.names)

include h

theorem under_statusMember :
    under statusMember ((e.heading ++ members).map Member.keyed) = [.bool e.status] := by
  have hrest := under_eq_nil (some_not_mem_of_sublist h e.change.kind.statusMember_not_mem_names)
  rw [heading, List.cons_append, List.map_cons, under_cons_self, List.cons_append, List.map_cons,
    under_cons_of_ne kindMember_ne_statusMember, List.nil_append, hrest]

theorem under_kindMember :
    under kindMember ((e.heading ++ members).map Member.keyed) = [.text e.change.name] := by
  have hrest := under_eq_nil (some_not_mem_of_sublist h e.change.kind.kindMember_not_mem_names)
  rw [heading, List.cons_append, List.map_cons, under_cons_of_ne kindMember_ne_statusMember.symm,
    List.cons_append, List.map_cons, under_cons_self, List.nil_append, hrest]

end Members

/-- **Every form of an event is read as the event.** -/
theorem decode_form {e : CatalogEvent} {j : Json} (h : e.Form j) : decode j = .ok e := by
  obtain ⟨members, hform, rfl⟩ := h
  have hstand := e.change.kind.fields.membersStand_of_form _ _ hform
  refine decode_object_iff.mpr ⟨List.forall_mem_map.mpr fun m hm =>
      ⟨Option.some_ne_none _, fun hstatus => ?_⟩,
    ?_, e.change.kind, e.change.toRow, ⟨_, under_kindMember hform.sublist, decodeKind_name _⟩, ?_,
    (ChangeKind.changeOfRow_toRow e.change).symm⟩
  · obtain hheading | hmember := List.mem_append.mp hm
    · obtain rfl | rfl := by simpa [heading] using hheading
      · exact absurd rfl hstatus
      · exact .text _ _
    · exact (hstand.held m hmember).mono e.change.kind.depth_fields_le
  · rw [under_statusMember hform.sublist]
    rfl
  · exact (hstand.tell e.change.kind.sound_fields .buffered).congr
      fun name hname => under_of_mem_names hname

theorem whole_form {e : CatalogEvent} {j : Json} (h : e.Form j) : Whole j := by
  obtain ⟨members, hform, rfl⟩ := h
  exact .record (List.forall_mem_cons.mpr ⟨.bool _, List.forall_mem_cons.mpr ⟨.text _,
    (e.change.kind.fields.membersStand_of_form _ _ hform).whole⟩⟩)

/-- **An event is decoded from its document.** -/
theorem decode_encode (e : CatalogEvent) : decode e.encode = .ok e :=
  decode_form e.form_encode

theorem whole_encode (e : CatalogEvent) : Whole e.encode :=
  whole_form e.form_encode

/-- **A text is parsed as an event** if it spells a document that is read as it. -/
theorem parse_eq_ok_iff {text : String} {e : CatalogEvent} :
    parse text = .ok e ↔ ∃ j, IsText text j ∧ decode j = .ok e := by
  rw [parse, bind_eq_ok_iff]
  constructor
  · rintro ⟨e', he', h⟩
    cases hends : (read text).ends with
    | false => simp [hends] at h
    | true =>
      simp only [hends, if_true] at h
      cases h
      obtain ⟨members, hmembers⟩ := exists_of_decode he'
      have hread : read text = ⟨(read text).value, true⟩ := by rw [← hends]
      exact ⟨_, isText_iff.mpr ⟨hread, by rw [hmembers]; rfl⟩, he'⟩
  · rintro ⟨j, hj, he⟩
    rw [(isText_iff.mp hj).1]
    exact ⟨e, he, rfl⟩

/-- **An event is parsed from its text.** -/
theorem parse_print (e : CatalogEvent) : parse e.print = .ok e :=
  parse_eq_ok_iff.mpr ⟨_, e.whole_encode.isText_render, e.decode_encode⟩

/-- **The text of an event names its kind**, and does so once. -/
theorem valuesAt_kindMember (e : CatalogEvent) :
    (read e.print).value.valuesAt kindMember = [.text e.change.name] := by
  rw [print, e.whole_encode.read_render]
  exact under_kindMember (e.change.kind.fields.formMembers_encodeMembers e.change.toRow).sublist

/-- **The text of an event has no control characters**, so it is one line. -/
theorem isPlain_of_mem_print (e : CatalogEvent) : ∀ c ∈ e.print.toList, isPlain c = true := by
  rw [print, render, String.toList_ofList]
  exact e.whole_encode.isPlain

end CatalogEvent
end CatalogFeed
