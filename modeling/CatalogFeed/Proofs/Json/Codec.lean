import CatalogFeed.Proofs.Json.Forms

/-!
# Proofs/Json/Codec — what is encoded is decoded

What a value is encoded as is one of its forms: objects with all their members.  So of a sound shape
every value is read back from its document, from a text or from members put aside, and from its
text.

* `Shape.form_encode`: the document is a form of the value;
* `Shape.decode_encode`, `Shape.parse_print`: the value is read back;
* `Shape.print_injective`: so no two values have the same text;
* `Shape.inspect_encode`: the document passes inspection if there is room for its nesting.
-/

namespace CatalogFeed.Json

theorem Fields.map_encodeMembers : (fields : Fields) → (row : fields.Row) →
    (fields.encodeMembers row).map (·.1) = fields.names
  | .nil, _ => rfl
  | .cons name shape fallback rest, (v, row) => by
    rw [encodeMembers, List.map_cons, names, map_encodeMembers rest row]

/-! ## Documents -/

mutual

/-- **What is encoded is a form of the value.** -/
theorem Shape.form_encode : (shape : Shape) → (v : shape.Value) → shape.Form v (shape.encode v)
  | .text, _ | .flag, _ | .int32, _ | .int64, _ | .word64, _ | .dict, _ => rfl
  | .optional _, none => rfl
  | .optional inner, some v => inner.form_encode v
  | .list item, _ => ⟨_, rfl, List.forall₂_map_right_iff.mpr
      (List.forall₂_same.mpr fun v _ => item.form_encode v)⟩
  | .record _ fields, row => .inl ⟨_, rfl, fields.formMembers_encodeMembers row⟩

theorem Fields.formMembers_encodeMembers : (fields : Fields) → (row : fields.Row) →
    fields.FormMembers row (fields.encodeMembers row)
  | .nil, _ => rfl
  | .cons _ shape _ rest, (v, row) =>
    .inl ⟨_, _, rfl, shape.form_encode v, rest.formMembers_encodeMembers row⟩

end

theorem Shape.stands_encode (shape : Shape) (v : shape.Value) : shape.Stands v (shape.encode v) :=
  shape.stands_of_form v _ (shape.form_encode v)

/-- **What is encoded is decoded.** -/
theorem Shape.decode_encode (origin : Origin) (shape : Shape) (h : shape.sound = true)
    (v : shape.Value) : shape.decode origin (shape.encode v) = .ok v :=
  (shape.stands_encode v).decodes h origin

/-- **What is encoded passes inspection** wherever there is room for its nesting. -/
theorem Shape.inspect_encode (shape : Shape) {room : Nat} (h : shape.depth ≤ room)
    (v : shape.Value) : inspect room (shape.encode v) = .ok () :=
  inspect_of_held ((shape.stands_encode v).held.mono h)

/-! ## Arrays

A record may also be written as the array of its first fields, if the others hold their
fallbacks. -/

/-- The documents of the fields, in order. -/
def Fields.encodeItems : (fields : Fields) → fields.Row → List Json
  | .nil, _ => []
  | .cons _ shape _ rest, (v, row) => shape.encode v :: rest.encodeItems row

/-- The fields from place `n` on hold their fallbacks. -/
def Fields.SparesFrom : (fields : Fields) → Nat → fields.Row → Prop
  | .nil, _, _ => True
  | .cons _ shape fallback rest, 0, (v, row) =>
    (∃ j, fallback = some j ∧ shape.Form v j) ∧ rest.SparesFrom 0 row
  | .cons _ _ _ rest, n + 1, (_, row) => rest.SparesFrom n row

/-- **The first `n` items are a form of the record** if the fields from place `n` on hold their
fallbacks. -/
theorem Fields.formItems_take : (fields : Fields) → (n : Nat) → (row : fields.Row) →
    fields.SparesFrom n row → fields.FormItems row ((fields.encodeItems row).take n)
  | .nil, _, _, _ => by
    rw [encodeItems, List.take_nil]
    rfl
  | .cons _ _ _ rest, 0, (_, row), ⟨hv, hrow⟩ => ⟨hv, rest.formItems_take 0 row hrow⟩
  | .cons _ shape _ rest, n + 1, (v, row), h => ⟨shape.form_encode v, rest.formItems_take n row h⟩

/-! ## Texts -/

/-- **What is encoded may be printed.** -/
theorem Shape.whole_encode (shape : Shape) (v : shape.Value) : Whole (shape.encode v) :=
  (shape.stands_encode v).whole

/-- **A text is parsed as a value** if it spells a document that is read as it. -/
theorem Shape.parse_eq_ok_iff {shape : Shape} {text : String} {v : shape.Value} :
    shape.parse text = .ok v ↔ ∃ j, IsText text j ∧ shape.decode .direct j = .ok v := by
  rw [parse, bind_eq_ok_iff]
  constructor
  · rintro ⟨w, hw, h⟩
    cases hends : (read text).ends with
    | false => simp [hends] at h
    | true =>
      simp only [hends, if_true] at h
      cases h
      have hread : read text = ⟨(read text).value, true⟩ := by rw [← hends]
      exact ⟨_, isText_iff.mpr ⟨hread, flaw?_eq_none_of_decode hw⟩, hw⟩
  · rintro ⟨j, hj, hv⟩
    rw [(isText_iff.mp hj).1]
    exact ⟨v, hv, rfl⟩

/-- **What is printed is parsed.** -/
theorem Shape.parse_print {shape : Shape} (h : shape.sound = true) (v : shape.Value) :
    shape.parse (shape.print v) = .ok v :=
  parse_eq_ok_iff.mpr ⟨_, (shape.whole_encode v).isText_render, shape.decode_encode .direct h v⟩

/-- **No two values of a sound shape have the same text.** -/
theorem Shape.print_injective {shape : Shape} (h : shape.sound = true) {v w : shape.Value}
    (hprint : shape.print v = shape.print w) : v = w := by
  have hv := shape.parse_print h v
  rw [hprint, shape.parse_print h w] at hv
  exact (Except.ok.inj hv).symm

end CatalogFeed.Json
