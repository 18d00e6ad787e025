import CatalogFeed.Proofs.Catalog.EventCodec

/-!
# Proofs/Catalog/Forms — entities as arrays and as objects

An entity may be written as an object or as an array of its first fields, and so may each entity
inside it.  All of these are read alike, alone or inside an event; only an array that is too short
or too long is never read.

* `Table.form_default` and its kin: what is left out holds the default of its type;
* `array_and_object_forms_agree`: every form is parsed as the value.
-/

namespace CatalogFeed

open Json

/-! ## Defaults

What is left out holds the default of its type. -/

theorem RowFormat.form_default : RowFormat.shape.Form (RowFormat.toRow {}) (.record []) :=
  .inl ⟨[], rfl, .inr ⟨⟨_, rfl, rfl⟩, .inr ⟨⟨_, rfl, rfl⟩, .inr ⟨⟨_, rfl, rfl⟩, rfl⟩⟩⟩⟩

theorem Storage.form_default : Storage.shape.Form (Storage.toRow {}) (.record []) := by
  have hlist {item : Shape} : (Shape.list item).Form [] (.list []) := ⟨[], rfl, .nil⟩
  refine .inl ⟨[], rfl, ?_⟩
  exact .inr ⟨⟨_, rfl, hlist⟩, .inr ⟨⟨_, rfl, rfl⟩, .inr ⟨⟨_, rfl, rfl⟩, .inr ⟨⟨_, rfl, rfl⟩,
    .inr ⟨⟨_, rfl, rfl⟩, .inr ⟨⟨_, rfl, rfl⟩, .inr ⟨⟨_, rfl, RowFormat.form_default⟩,
    .inr ⟨⟨_, rfl, hlist⟩, .inr ⟨⟨_, rfl, hlist⟩, .inr ⟨⟨_, rfl, rfl⟩, rfl⟩⟩⟩⟩⟩⟩⟩⟩⟩⟩

theorem Database.form_default (name : String) :
    Database.shape.Form (Database.toRow { name }) (.list [.text name]) :=
  .inr ⟨_, rfl, rfl, ⟨_, rfl, rfl⟩, ⟨_, rfl, rfl⟩, ⟨_, rfl, rfl⟩, rfl⟩

theorem Table.form_default (name database : String) :
    Table.shape.Form (Table.toRow { name, database }) (.list [.text name, .text database]) :=
  .inr ⟨_, rfl, rfl, rfl, ⟨_, rfl, rfl⟩, ⟨_, rfl, rfl⟩, ⟨_, rfl, rfl⟩,
    ⟨_, rfl, Storage.form_default⟩, ⟨_, rfl, [], rfl, .nil⟩, ⟨_, rfl, rfl⟩, rfl⟩

theorem Partition.form_default (values : List String) (database table : String) :
    Partition.shape.Form (Partition.toRow { values, database, table })
      (.list [.list (values.map .text), .text database, .text table]) :=
  .inr ⟨_, rfl, Shape.form_encode (.list .text) values, rfl, rfl, ⟨_, rfl, rfl⟩,
    ⟨_, rfl, Storage.form_default⟩, ⟨_, rfl, rfl⟩, rfl⟩

/-! ## Forms -/

/-- **The forms of the values of a type agree.** -/
structure FormsAgree (α : Type) [Documented α] : Prop where
  /-- Every form of a value is the document of some text, and is parsed as the value from each. -/
  parse_form (v : α) (j : Json) (h : (Documented.shape α).Form (Documented.toRow v) j) :
    (∃ text, IsText text j) ∧ ∀ text, IsText text j → parseAs α text = .ok v
  /-- So is the object with all members. -/
  parse_object (v : α) : parseAs α (printDocument v) = .ok v
  /-- An array that is too short or too long is not parsed, wherever in the document it stands. -/
  measured (text : String) (j : Json) (htext : IsText text j) (v : α)
    (h : parseAs α text = .ok v) : (Documented.shape α).Measured j

theorem formsAgree (α : Type) [Documented α] [LawfulDocumented α] : FormsAgree α where
  parse_form v j h := by
    have hstands := (Documented.shape α).stands_of_form _ _ h
    refine ⟨⟨_, hstands.whole.isText_render⟩, fun text htext => ?_⟩
    have hdecode := hstands.decodes LawfulDocumented.sound .direct
    rw [parseAs, Shape.parse_eq_ok_iff.mpr ⟨j, htext, hdecode⟩]
    exact congrArg Except.ok (LawfulDocumented.ofRow_toRow v)
  parse_object v := parseAs_printDocument v
  measured text j htext v h := by
    obtain ⟨row, hrow, -⟩ := map_eq_ok_iff.mp h
    obtain ⟨j', htext', hdecode⟩ := Shape.parse_eq_ok_iff.mp hrow
    cases htext.unique htext'
    exact (Documented.shape α).measured_of_decode LawfulDocumented.sound j row hdecode

/-- **The forms of the entities in an event agree.** -/
structure EventFormsAgree : Prop where
  /-- Every form of an event is the document of some text, and is parsed as the event from each. -/
  parse_form (e : CatalogEvent) (j : Json) (h : e.Form j) :
    (∃ text, IsText text j) ∧ ∀ text, IsText text j → CatalogEvent.parse text = .ok e
  /-- So is the event with all members of its entities. -/
  parse_object (e : CatalogEvent) : CatalogEvent.parse e.print = .ok e
  /-- No event is parsed in which an array for an entity is too short or too long. -/
  measured (text : String) (members : List (Option String × Json)) (cut : Option Flaw)
    (htext : IsText text (.object members cut)) (e : CatalogEvent)
    (h : CatalogEvent.parse text = .ok e) : e.change.kind.fields.MembersMeasured members

theorem eventFormsAgree : EventFormsAgree where
  parse_form e j h :=
    ⟨⟨_, (CatalogEvent.whole_form h).isText_render⟩, fun _ htext =>
      CatalogEvent.parse_eq_ok_iff.mpr ⟨j, htext, CatalogEvent.decode_form h⟩⟩
  parse_object e := e.parse_print
  measured text members cut htext e h := by
    obtain ⟨j', htext', hdecode⟩ := CatalogEvent.parse_eq_ok_iff.mp h
    cases htext.unique htext'
    obtain rfl : cut = none := htext.spellable.flaw?
    obtain ⟨kind, row, -, htell, hchange⟩ := (CatalogEvent.decode_object_iff.mp hdecode).kind
    rw [hchange, kind.kind_changeOfRow row]
    exact kind.fields.membersMeasured_of_tell kind.sound_fields members row htell

/-- **Array form and object form agree.** -/
theorem array_and_object_forms_agree :
    (FormsAgree Database ∧ FormsAgree Table ∧ FormsAgree Partition) ∧
      (FormsAgree Storage ∧ FormsAgree RowFormat ∧ FormsAgree Column ∧ FormsAgree SortColumn) ∧
      EventFormsAgree :=
  ⟨⟨formsAgree _, formsAgree _, formsAgree _⟩,
    ⟨formsAgree _, formsAgree _, formsAgree _, formsAgree _⟩, eventFormsAgree⟩

/-- A table by its name and its database, in this order. -/
theorem array_and_object_forms_agree_sales :
    parseAs Table "[\"q1\",\"sales\"]" = .ok { name := "q1", database := "sales" } ∧
      ∀ t, parseAs Table "[\"q1\"]" ≠ .ok t := by
  have hagree := array_and_object_forms_agree.1.2.1
  refine ⟨(hagree.parse_form _ _ (Table.form_default "q1" "sales")).2 _ ?_, fun t h => ?_⟩
  · have hrender : (Json.list [.text "q1", .text "sales"]).render = "[\"q1\",\"sales\"]" := by
      decide +kernel
    rw [← hrender]
    exact Whole.isText_render (.list (by simp [Whole.text]))
  · have hrender : (Json.list [.text "q1"]).render = "[\"q1\"]" := by decide +kernel
    have htext : IsText "[\"q1\"]" (.list [.text "q1"]) := by
      rw [← hrender]
      exact Whole.isText_render (.list (by simp [Whole.text]))
    have hmeasured := hagree.measured _ _ htext t h
    exact absurd hmeasured.1 (by decide)

end CatalogFeed
