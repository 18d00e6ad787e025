import CatalogFeed.Json.Shape
import CatalogFeed.Proofs.Fallible
import Mathlib.Data.List.Nodup

/-!
# Proofs/Json/Members — what a decoder asks of each kind of document

A decoder that succeeds has seen a whole document.  What it asks of one is said here without the
order in which it looks: a record asks of an object what stands under each name (`Fields.Tell`), and
of an array what stands at each place (`Fields.TellItems`).

* `decode_object_iff`, `decode_array_iff`: records;
* `decode_list_iff`, `decode_dict_iff`: lists and string maps;
* `flaw?_eq_none_of_decode`: nothing is missing.
-/

namespace CatalogFeed

namespace Json

variable {origin : Origin} {name : String} {shape : Shape} {fallback : Option Json}
  {fields : Fields}

/-! ## Scalars -/

theorem refuse_ne_ok {α : Type} (j : Json) (expected : String) (a : α) :
    refuse j expected ≠ .ok a := by
  rw [refuse, Ne, bind_eq_ok_iff]
  rintro ⟨_, -, h⟩
  cases h

theorem checkCut_eq_ok_iff {cut : Option Flaw} {u : Unit} : checkCut cut = .ok u ↔ cut = none := by
  cases cut <;> simp [checkCut]

theorem skip_eq_ok_iff {j : Json} {u : Unit} : skip j = .ok u ↔ j.flaw? = none := by
  rw [skip]
  cases j.flaw? <;> simp

theorem checkKey_eq_ok_iff {key : Option String} {k : String} :
    checkKey key = .ok k ↔ key = some k := by
  cases key <;> simp [checkKey]

theorem decodeText_eq_ok_iff {j : Json} {s : String} : decodeText j = .ok s ↔ j = text s := by
  constructor
  · intro h
    rw [decodeText.eq_def] at h
    split at h
    · cases h
      rfl
    · exact absurd h (refuse_ne_ok _ _ _)
  · rintro rfl
    rfl

theorem decodeFlag_eq_ok_iff {j : Json} {b : Bool} : decodeFlag j = .ok b ↔ j = .bool b := by
  constructor
  · intro h
    rw [decodeFlag.eq_def] at h
    split at h
    · cases h
      rfl
    · exact absurd h (refuse_ne_ok _ _ _)
  · rintro rfl
    rfl

theorem exists_of_decodeInt {least greatest n : Int} {expected : String} {j : Json}
    (h : decodeInt least greatest expected j = .ok n) : ∃ numeral, j = .number numeral := by
  rw [decodeInt.eq_def] at h
  split at h
  · exact ⟨_, rfl⟩
  · exact absurd h (refuse_ne_ok _ _ _)

/-! ## Lists and maps -/

theorem decode_list_iff {item : Shape} {j : Json} {vs : List item.Value} :
    (Shape.list item).decode origin j = .ok vs ↔ ∃ items, j = list items ∧
      List.Forall₂ (fun j v => item.decode origin j = .ok v) items vs := by
  constructor
  · intro h
    rw [Shape.decode.eq_def] at h
    simp only at h
    split at h
    · next items cut =>
      simp only [bind_eq_ok_iff, mapM_eq_ok_iff, checkCut_eq_ok_iff] at h
      obtain ⟨vs, hvs, -, rfl, h⟩ := h
      cases h
      exact ⟨items, rfl, hvs⟩
    · exact absurd h (refuse_ne_ok _ _ _)
  · rintro ⟨items, rfl, h⟩
    change (items.mapM (item.decode origin) >>= fun vs => .ok vs) = _
    rw [mapM_eq_ok_iff.mpr h]
    rfl

/-- A map reads texts under names. -/
theorem decodeEntries_eq_ok_iff {d e : Dict String String} {members : List (Option String × Json)} :
    decodeEntries d members = .ok e ↔ ∃ entries : List (String × String),
      members = entries.map (fun e => (some e.1, text e.2)) ∧
      entries.foldl (fun d e => d.insert e.1 e.2) d = e := by
  induction members generalizing d with
  | nil => simp [decodeEntries]
  | cons m members ih =>
    obtain ⟨key, j⟩ := m
    simp only [decodeEntries, bind_eq_ok_iff, checkKey_eq_ok_iff, decodeText_eq_ok_iff, ih]
    constructor
    · rintro ⟨k, rfl, v, rfl, entries, rfl, rfl⟩
      exact ⟨(k, v) :: entries, rfl, rfl⟩
    · rintro ⟨entries, h, rfl⟩
      obtain ⟨e, entries, rfl, he, rfl⟩ := List.map_eq_cons_iff.mp h.symm
      cases he
      exact ⟨e.1, rfl, e.2, rfl, entries, rfl, rfl⟩

theorem decode_dict_iff {j : Json} {d : Dict String String} :
    Shape.dict.decode origin j = .ok d ↔ ∃ entries : List (String × String),
      j = record (entries.map fun e => (e.1, text e.2)) ∧ Dict.ofList entries = d := by
  constructor
  · intro h
    rw [Shape.decode.eq_def] at h
    simp only at h
    split at h
    · next members cut =>
      simp only [bind_eq_ok_iff, decodeEntries_eq_ok_iff, checkCut_eq_ok_iff] at h
      obtain ⟨d, ⟨entries, rfl, rfl⟩, -, rfl, h⟩ := h
      cases h
      exact ⟨entries, by simp [record, Function.comp_def], rfl⟩
    · exact absurd h (refuse_ne_ok _ _ _)
  · rintro ⟨entries, rfl, rfl⟩
    have hmembers : (entries.map fun e => (e.1, text e.2)).map
        (fun m => (some m.1, m.2)) = entries.map fun e => (some e.1, text e.2) := by
      rw [List.map_map]
      rfl
    have hentries : decodeEntries ∅ (entries.map fun e => (some e.1, text e.2)) =
        .ok (Dict.ofList entries) := decodeEntries_eq_ok_iff.mpr ⟨entries, rfl, rfl⟩
    rw [record, hmembers, Shape.decode, hentries]
    rfl

/-! ## Optional values -/

/-- Whether null is a value of the shape. -/
def Shape.isOptional : Shape → Bool
  | .optional _ => true
  | _ => false

/-- Null is no value of a shape that is not optional. -/
theorem decode_null_ne_ok (h : shape.isOptional = false) (v : shape.Value) :
    shape.decode origin .null ≠ .ok v := by
  cases shape with
  | optional inner => cases h
  | _ => exact nofun

/-- An optional value is null or a value. -/
theorem exists_of_decode_optional {j : Json} {v : Option shape.Value}
    (h : (Shape.optional shape).decode origin j = .ok v) :
    j = .null ∨ ∃ w, shape.decode origin j = .ok w := by
  cases j with
  | null => exact .inl rfl
  | _ =>
    simp only [Shape.decode, bind_eq_ok_iff] at h
    exact .inr ⟨h.choose, h.choose_spec.1⟩

/-- **What is no null is read as the value inside.** -/
theorem decode_some_iff (h : shape.isOptional = false) {j : Json} {v : shape.Value} :
    (Shape.optional shape).decode origin j = .ok (some v) ↔ shape.decode origin j = .ok v := by
  cases j with
  | null => exact iff_of_false nofun (decode_null_ne_ok h v)
  | _ => simp [Shape.decode, bind_eq_ok_iff]

/-! ## Records from arrays -/

/-- **What is found settles the value of a field**: the one value that is there, or if there is none
the fallback. -/
def Shape.Settles (origin : Origin) (shape : Shape) (fallback : Option Json) (found : List Json)
    (v : shape.Value) : Prop :=
  match found with
  | [] => ∃ j, fallback = some j ∧ shape.decode origin j = .ok v
  | [j] => shape.decode origin j = .ok v
  | _ => False

/-- What is found is read as the value. -/
theorem settles_of_mem {found : List Json} {v : shape.Value}
    (h : shape.Settles origin fallback found v) {j : Json} (hj : j ∈ found) :
    shape.decode origin j = .ok v := by
  match found, h with
  | [j'], h => exact List.mem_singleton.mp hj ▸ h

/-- **The items settle the fields** one after the other, and none is left. -/
def Fields.TellItems (origin : Origin) : (fields : Fields) → List Json → fields.Row → Prop
  | .nil, items, _ => items = []
  | .cons _ shape fallback rest, items, (v, row) =>
    shape.Settles origin fallback (items.take 1) v ∧ rest.TellItems origin (items.drop 1) row

theorem checkSurplus_eq_ok_iff {used : Nat} {items : List Json} {cut : Option Flaw} {u : Unit} :
    checkSurplus origin used items cut = .ok u ↔ cut = none ∧ items = [] := by
  cases items with
  | nil => simp [checkSurplus, checkCut_eq_ok_iff]
  | cons j items => cases origin <;> simp [checkSurplus]

theorem decodeItems_eq_ok_iff {expected : String} : {fields : Fields} → {used : Nat} →
    {items : List Json} → {cut : Option Flaw} → {row : fields.Row} →
    (fields.decodeItems origin expected used items cut = .ok row ↔
      cut = none ∧ fields.TellItems origin items row)
  | .nil, used, items, cut, () => by
    simp [Fields.decodeItems, Fields.TellItems, bind_eq_ok_iff, checkSurplus_eq_ok_iff]
  | .cons name shape fallback rest, used, j :: items, cut, (v, row) => by
    simp only [Fields.decodeItems, Fields.TellItems, bind_eq_ok_iff, decodeItems_eq_ok_iff,
      List.take_succ_cons, List.take_zero, List.drop_succ_cons, List.drop_zero, Shape.Settles]
    constructor
    · rintro ⟨v, hv, row, ⟨hcut, hrow⟩, h⟩
      cases h
      exact ⟨hcut, hv, hrow⟩
    · rintro ⟨hcut, hv, hrow⟩
      exact ⟨v, hv, row, ⟨hcut, hrow⟩, rfl⟩
  | .cons name shape fallback rest, used, [], cut, (v, row) => by
    simp only [Fields.decodeItems, Fields.TellItems, bind_eq_ok_iff, checkCut_eq_ok_iff,
      List.take_nil, List.drop_nil, Shape.Settles]
    cases fallback with
    | none => simp
    | some j =>
      simp only [bind_eq_ok_iff, decodeItems_eq_ok_iff]
      constructor
      · rintro ⟨-, hcut, v, hv, row, ⟨-, hrow⟩, h⟩
        cases h
        exact ⟨hcut, ⟨j, rfl, hv⟩, hrow⟩
      · rintro ⟨hcut, ⟨_, ⟨⟩, hv⟩, hrow⟩
        exact ⟨(), hcut, v, hv, row, ⟨hcut, hrow⟩, rfl⟩

/-- **An array is read as a record** if its items settle the fields. -/
theorem decode_array_iff {items : List Json} {cut : Option Flaw} {row : fields.Row} :
    (Shape.record name fields).decode origin (.array items cut) = .ok row ↔
      cut = none ∧ fields.TellItems origin items row :=
  decodeItems_eq_ok_iff

/-! ## What is missing -/

/-- **What is decoded is complete.** -/
theorem flaw?_eq_none_of_decode {j : Json} : {shape : Shape} → {v : shape.Value} →
    shape.decode origin j = .ok v → j.flaw? = none
  | .text, _, h => by
    rw [Shape.decode, decodeText_eq_ok_iff] at h
    rw [h, flaw?_text]
  | .flag, _, h => by
    rw [Shape.decode, decodeFlag_eq_ok_iff] at h
    rw [h]
    rfl
  | .int32, _, h | .int64, _, h | .word64, _, h => by
    obtain ⟨n, hn, -⟩ := bind_eq_ok_iff.mp h
    obtain ⟨numeral, rfl⟩ := exists_of_decodeInt hn
    rfl
  | .optional inner, _, h => by
    rw [Shape.decode.eq_def] at h
    simp only at h
    split at h
    · rfl
    · obtain ⟨v, hv, -⟩ := bind_eq_ok_iff.mp h
      exact flaw?_eq_none_of_decode hv
  | .list item, _, h => by
    obtain ⟨items, rfl, -⟩ := decode_list_iff.mp h
    rfl
  | .dict, _, h => by
    obtain ⟨entries, rfl, -⟩ := decode_dict_iff.mp h
    rfl
  | .record name fields, _, h => by
    rw [Shape.decode.eq_def] at h
    simp only at h
    split at h
    · simp only [bind_eq_ok_iff, checkCut_eq_ok_iff] at h
      obtain ⟨_, -, _, hcut, -⟩ := h
      exact hcut
    · exact (decodeItems_eq_ok_iff.mp h).1
    · exact absurd h (refuse_ne_ok _ _ _)

/-! ## Records from objects -/

/-- The values of the members that have the name, in order. -/
def under (name : String) (members : List (Option String × Json)) : List Json :=
  (members.filter (·.1 = some name)).map (·.2)

/-- The member has a name that is text, and its value is complete. -/
def Legible (m : Option String × Json) : Prop := m.1 ≠ none ∧ m.2.flaw? = none

/-- **What is found under their names settles the fields.** -/
def Fields.Tell (origin : Origin) : (fields : Fields) → (find : String → List Json) → fields.Row →
    Prop
  | .nil, _, _ => True
  | .cons name shape fallback rest, find, (v, row) =>
    shape.Settles origin fallback (find name) v ∧ rest.Tell origin find row

section Under

variable {key : String} {value : Json} {members : List (Option String × Json)}

@[simp] theorem under_nil : under name [] = [] := rfl

theorem under_cons_self :
    under key ((some key, value) :: members) = value :: under key members := by
  simp [under]

theorem under_cons_of_ne (h : key ≠ name) :
    under name ((some key, value) :: members) = under name members := by
  simp [under, h]

theorem under_append (before after : List (Option String × Json)) :
    under name (before ++ after) = under name before ++ under name after := by
  simp [under]

end Under

/-- Members are read one after the other: those that `store` knows are stored, the others need only
be complete. -/
theorem decodeMembers_cons_iff {α : Type} {store : String → Json → α → Option (Except Problem α)}
    {draft draft' : α} {m : Option String × Json} {members : List (Option String × Json)} :
    decodeMembers store draft (m :: members) = .ok draft' ↔ ∃ key, m.1 = some key ∧
      match store key m.2 draft with
      | none => m.2.flaw? = none ∧ decodeMembers store draft members = .ok draft'
      | some stored =>
        ∃ next, stored = .ok next ∧ decodeMembers store next members = .ok draft' := by
  obtain ⟨key, j⟩ := m
  rw [decodeMembers, bind_eq_ok_iff]
  simp only [checkKey_eq_ok_iff]
  refine exists_congr fun k => and_congr_right fun _ => ?_
  cases store k j draft with
  | none => simp [bind_eq_ok_iff, skip_eq_ok_iff]
  | some stored => simp [bind_eq_ok_iff]

/-- What is found is read into a slot, or leaves the slot as it is; nothing is read twice. -/
def Fills {α : Type} (read : Json → Except Problem α) (slot : Option α) (found : List Json)
    (slot' : Option α) : Prop :=
  match slot, found with
  | slot, [] => slot' = slot
  | none, [j] => ∃ v, read j = .ok v ∧ slot' = some v
  | _, _ => False

section Fills

variable {α : Type} {read : Json → Except Problem α} {slot' : Option α} {found : List Json}

theorem fills_nil_iff {slot : Option α} : Fills read slot [] slot' ↔ slot' = slot := by
  cases slot <;> rfl

theorem fills_cons_iff {slot : Option α} {j : Json} : Fills read slot (j :: found) slot' ↔
    slot = none ∧ ∃ v, read j = .ok v ∧ Fills read (some v) found slot' := by
  cases slot <;> cases found <;> simp [Fills]

/-- An empty slot is filled by the one value that is there. -/
theorem fills_none_iff {v : α} :
    Fills read none found (some v) ↔ ∃ j, found = [j] ∧ read j = .ok v := by
  match found with
  | [] => simp [Fills]
  | [j] => simp [Fills]
  | _ :: _ :: _ => simp [Fills]

end Fills

theorem Fields.store_eq_none {key : String} {j : Json} : {fields : Fields} →
    {draft : fields.Draft} → key ∉ fields.names → fields.store origin key j draft = none
  | .nil, _, _ => rfl
  | .cons name shape fallback rest, (slot, more), h => by
    rw [Fields.names, List.mem_cons, not_or] at h
    simp only [Fields.store, if_neg h.1, Fields.store_eq_none h.2, Option.map_none]

section Drafts

variable {rest : Fields} {slot slot' : Option shape.Value} {more more' : rest.Draft} {key : String}
  {j : Json} {members : List (Option String × Json)}

/-- The member of the first field is stored if the slot is free. -/
theorem decodeMembers_first_iff :
    decodeMembers ((Fields.cons name shape fallback rest).store origin)
      (slot, more) ((some name, j) :: members) = .ok (slot', more') ↔
    slot = none ∧ ∃ v, shape.decode origin j = .ok v ∧
      decodeMembers ((Fields.cons name shape fallback rest).store origin) (some v, more) members =
        .ok (slot', more') := by
  rw [decodeMembers_cons_iff]
  cases slot <;> simp [Fields.store, bind_eq_ok_iff]

/-- Another member is stored as if the first field were not there. -/
theorem decodeMembers_other_iff (hkey : key ≠ name) :
    decodeMembers ((Fields.cons name shape fallback rest).store origin) (slot, more)
        ((some key, j) :: members) = .ok (slot', more') ↔
      match rest.store origin key j more with
      | none => j.flaw? = none ∧
        decodeMembers ((Fields.cons name shape fallback rest).store origin) (slot, more) members =
          .ok (slot', more')
      | some stored => ∃ next, stored = .ok next ∧
        decodeMembers ((Fields.cons name shape fallback rest).store origin) (slot, next) members =
          .ok (slot', more') := by
  rw [decodeMembers_cons_iff]
  simp only [Option.some.injEq, exists_eq_left', Fields.store, if_neg hkey]
  cases rest.store origin key j more <;> simp [bind_eq_ok_iff]

/-- **The first field is filled by what is under its name**, and the others as if they stood
alone. -/
theorem decodeMembers_fields_cons_iff (hname : name ∉ rest.names) :
    decodeMembers ((Fields.cons name shape fallback rest).store origin) (slot, more) members =
        .ok (slot', more') ↔
      Fills (shape.decode origin) slot (under name members) slot' ∧
        decodeMembers (rest.store origin) more members = .ok more' := by
  induction members generalizing slot more with
  | nil =>
    simp [decodeMembers, fills_nil_iff, eq_comm]
  | cons m members ih =>
    obtain ⟨key, j⟩ := m
    cases key with
    | none => simp [decodeMembers_cons_iff]
    | some key =>
      by_cases hkey : key = name
      · subst hkey
        rw [decodeMembers_first_iff, under_cons_self, decodeMembers_cons_iff, fills_cons_iff]
        simp only [ih, Option.some.injEq, exists_eq_left', Fields.store_eq_none hname]
        constructor
        · rintro ⟨hfree, v, hv, hfills, hmore⟩
          exact ⟨⟨hfree, v, hv, hfills⟩, flaw?_eq_none_of_decode hv, hmore⟩
        · rintro ⟨⟨hfree, v, hv, hfills⟩, -, hmore⟩
          exact ⟨hfree, v, hv, hfills, hmore⟩
      · rw [decodeMembers_other_iff hkey, under_cons_of_ne hkey, decodeMembers_cons_iff]
        simp only [ih, Option.some.injEq, exists_eq_left']
        cases rest.store origin key j more with
        | none => simp [and_left_comm]
        | some stored =>
          constructor
          · rintro ⟨next, hnext, hfills, hmore⟩
            exact ⟨hfills, next, hnext, hmore⟩
          · rintro ⟨hfills, next, hnext, hmore⟩
            exact ⟨next, hnext, hfills, hmore⟩

end Drafts

/-- Without fields all members are passed over. -/
theorem decodeMembers_nil_iff {draft draft' : Unit} {members : List (Option String × Json)} :
    decodeMembers (Fields.nil.store origin) draft members = .ok draft' ↔
      ∀ m ∈ members, Legible m := by
  induction members with
  | nil => simp [decodeMembers]
  | cons m members ih =>
    rw [decodeMembers_cons_iff, List.forall_mem_cons, ← ih, Legible, Option.ne_none_iff_exists',
      and_assoc]
    simp [Fields.store]

/-- Fields are filled one after the other. -/
theorem finish_cons_iff {rest : Fields} {slot : Option shape.Value} {more : rest.Draft}
    {v : shape.Value} {row : rest.Row} :
    (Fields.cons name shape fallback rest).finish origin (slot, more) = .ok (v, row) ↔
      (match slot with
        | some w => w = v
        | none => ∃ j, fallback = some j ∧ shape.decode origin j = .ok v) ∧
      rest.finish origin more = .ok row := by
  cases slot with
  | some w => simp [Fields.finish, bind_eq_ok_iff, and_comm]
  | none => cases fallback <;> simp [Fields.finish, bind_eq_ok_iff]

/-- What fills a slot and what then stands for it settle the value together. -/
theorem settles_iff {found : List Json} {v : shape.Value} :
    shape.Settles origin fallback found v ↔ ∃ slot, Fills (shape.decode origin) none found slot ∧
      match slot with
      | some w => w = v
      | none => ∃ j, fallback = some j ∧ shape.decode origin j = .ok v := by
  match found with
  | [] => simp [Shape.Settles, Fills]
  | [j] => simp [Shape.Settles, Fills]
  | _ :: _ :: _ => simp [Shape.Settles, Fills]

/-- **Members are read as a row** if all are legible and what is under their names settles the
fields. -/
theorem decodeMembers_finish_iff : {fields : Fields} → fields.names.Nodup →
    {members : List (Option String × Json)} → {row : fields.Row} →
    ((∃ draft, decodeMembers (fields.store origin) fields.blank members = .ok draft ∧
        fields.finish origin draft = .ok row) ↔
      (∀ m ∈ members, Legible m) ∧ fields.Tell origin (under · members) row)
  | .nil, _, members, () => by
    have hread : decodeMembers (Fields.nil.store origin) Fields.nil.blank members = .ok () ↔
        ∀ m ∈ members, Legible m := decodeMembers_nil_iff
    rw [← hread]
    exact ⟨fun ⟨_, h, _⟩ => ⟨h, trivial⟩, fun ⟨h, _⟩ => ⟨(), h, rfl⟩⟩
  | .cons name shape fallback rest, hnames, members, (v, row) => by
    obtain ⟨hname, hrest⟩ := List.nodup_cons.mp hnames
    rw [Fields.Tell, settles_iff, and_left_comm, ← decodeMembers_finish_iff hrest]
    constructor
    · rintro ⟨⟨slot, more⟩, hread, hfinish⟩
      obtain ⟨hslot, hmore⟩ := (decodeMembers_fields_cons_iff hname).mp hread
      obtain ⟨hvalue, hrow⟩ := finish_cons_iff.mp hfinish
      exact ⟨⟨slot, hslot, hvalue⟩, more, hmore, hrow⟩
    · rintro ⟨⟨slot, hslot, hvalue⟩, more, hmore, hrow⟩
      exact ⟨(slot, more), (decodeMembers_fields_cons_iff hname).mpr ⟨hslot, hmore⟩,
        finish_cons_iff.mpr ⟨hvalue, hrow⟩⟩

/-- **An object is read as a record** if its members are legible and what is under their names
settles the fields: neither their order nor any other member counts. -/
theorem decode_object_iff (h : fields.names.Nodup) {members : List (Option String × Json)}
    {cut : Option Flaw} {row : fields.Row} :
    (Shape.record name fields).decode origin (.object members cut) = .ok row ↔
      cut = none ∧ (∀ m ∈ members, Legible m) ∧ fields.Tell origin (under · members) row := by
  rw [← decodeMembers_finish_iff h]
  simp only [Shape.decode, bind_eq_ok_iff, checkCut_eq_ok_iff]
  constructor
  · rintro ⟨draft, hread, -, hcut, hfinish⟩
    exact ⟨hcut, draft, hread, hfinish⟩
  · rintro ⟨hcut, draft, hread, hfinish⟩
    exact ⟨draft, hread, (), hcut, hfinish⟩

/-! ### Members in turn -/

/-- Only what is found under the names of the fields counts. -/
theorem Fields.Tell.congr {find find' : String → List Json} : {fields : Fields} →
    {row : fields.Row} → fields.Tell origin find row →
    (∀ name ∈ fields.names, find' name = find name) → fields.Tell origin find' row
  | .nil, _, _, _ => trivial
  | .cons name _ _ rest, (_, _), ⟨hv, hrow⟩, h => by
    obtain ⟨hname, hrest⟩ := List.forall_mem_cons.mp h
    exact ⟨hname ▸ hv, hrow.congr hrest⟩

section Turns

variable {rest : Fields} {v : shape.Value} {row : rest.Row} {j : Json}
  {members : List (Option String × Json)}

theorem under_eq_nil (h : some name ∉ members.map (·.1)) : under name members = [] := by
  rw [under, List.map_eq_nil_iff, List.filter_eq_nil_iff]
  intro m hm heq
  exact h (List.mem_map.mpr ⟨m, hm, by simpa using heq⟩)

/-- A field more, and the member for it. -/
theorem tell_cons_member (hname : name ∉ rest.names) (hnew : some name ∉ members.map (·.1))
    (hj : shape.decode origin j = .ok v) (hrest : rest.Tell origin (under · members) row) :
    (Fields.cons name shape fallback rest).Tell origin (under · ((some name, j) :: members))
      (v, row) := by
  refine ⟨?_, hrest.congr fun other hother => under_cons_of_ne fun heq => hname (heq ▸ hother)⟩
  simp only [under_cons_self, under_eq_nil hnew]
  exact hj

/-- A field more, for which a fallback stands. -/
theorem tell_cons_fallback (hnew : some name ∉ members.map (·.1))
    (hj : shape.decode origin j = .ok v) (hrest : rest.Tell origin (under · members) row) :
    (Fields.cons name shape (some j) rest).Tell origin (under · members) (v, row) := by
  refine ⟨?_, hrest⟩
  simp only [under_eq_nil hnew]
  exact ⟨j, rfl, hj⟩

end Turns

end Json
end CatalogFeed
