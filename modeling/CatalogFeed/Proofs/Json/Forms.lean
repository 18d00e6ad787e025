import CatalogFeed.Proofs.Json.Inspection
import CatalogFeed.Proofs.Json.ReadBack
import Mathlib.Algebra.Group.Int.Defs

/-!
# Proofs/Json/Forms — the ways to write a value

A record may be written as an object, with or without the fields that hold their fallbacks, or as an
array that stops before such fields; the records inside it may each be written in either way.
Scalars and maps are written in one way.  `Shape.Form` says which documents are forms of a value.

* `Shape.stands_of_form`: every form can be printed and put aside, and is read as the value;
* `Shape.measured_of_decode`: an array that is read as a record has no more items than the record
  has fields, and no fewer than must be there.
-/

namespace CatalogFeed.Json

/-! ## Sound shapes

A shape is `sound` if no optional value is optional again, so that null means one thing, and if no
record has two fields of one name. -/

mutual

/-- Whether the values of a shape have documents of their own. -/
def Shape.sound : Shape → Bool
  | .optional inner => !inner.isOptional && inner.sound
  | .list item => item.sound
  | .record _ fields => fields.sound
  | .text | .flag | .int32 | .int64 | .word64 | .dict => true

/-- Whether the names of the fields differ, and their shapes are sound. -/
def Fields.sound : Fields → Bool
  | .nil => true
  | .cons name shape _ rest => !rest.names.contains name && shape.sound && rest.sound

end

theorem Fields.sound_cons_iff {name : String} {shape : Shape} {fallback : Option Json}
    {rest : Fields} : (Fields.cons name shape fallback rest).sound = true ↔
      name ∉ rest.names ∧ shape.sound = true ∧ rest.sound = true := by
  simp [Fields.sound, and_assoc]

theorem Fields.nodup_names : {fields : Fields} → fields.sound = true → fields.names.Nodup
  | .nil, _ => List.nodup_nil
  | .cons _ _ _ _, h => by
    obtain ⟨hname, -, hrest⟩ := sound_cons_iff.mp h
    exact List.nodup_cons.mpr ⟨hname, nodup_names hrest⟩

/-! ## Numbers -/

theorem value?_int_of_nonneg {n : Int} (hn : 0 ≤ n) (hlimit : n < 2 ^ 64) :
    (⟨decide (n < 0), n.natAbs, none, none⟩ : Numeral).value? = some (.natural n.natAbs) := by
  have hsize : n.natAbs < wordLimit := by
    change n.natAbs < 2 ^ 64
    omega
  rw [Numeral.value?, if_pos (by simp [Numeral.isWhole, hn, hsize])]

theorem value?_int_of_neg {n : Int} (hn : n < 0) (hlimit : -2 ^ 63 ≤ n) :
    (⟨decide (n < 0), n.natAbs, none, none⟩ : Numeral).value? = some (.negative n) := by
  have hsize : n.natAbs ≤ wordLimit / 2 := by
    change n.natAbs ≤ 2 ^ 64 / 2
    omega
  have hpos : 0 < n.natAbs := by omega
  have hcast : -(n.natAbs : Int) = n := by omega
  rw [Numeral.value?, if_neg (by simp [hn]), if_pos (by simp [Numeral.isWhole, hn, hsize, hpos]),
    hcast]

theorem decodeInt_int {least greatest n : Int} {expected : String} (hleast : -2 ^ 63 ≤ least)
    (hgreatest : greatest < 2 ^ 64) (hn : least ≤ n ∧ n ≤ greatest) :
    decodeInt least greatest expected (.int n) = .ok n := by
  by_cases h : n < 0
  · simp only [decodeInt, int, value?_int_of_neg h (by omega), if_pos hn.1]
  · have hcast : (n.natAbs : Int) = n := by omega
    simp only [decodeInt, int, value?_int_of_nonneg (by omega : 0 ≤ n) (by omega), hcast,
      if_pos hn.2]

/-! ## Nesting -/

mutual

/-- How deeply the documents of a shape are nested. -/
def Shape.depth : Shape → Nat
  | .optional inner => inner.depth
  | .list item => item.depth + 1
  | .dict => 1
  | .record _ fields => fields.depth + 1
  | .text | .flag | .int32 | .int64 | .word64 => 0

/-- How deeply the fields of a record are nested. -/
def Fields.depth : Fields → Nat
  | .nil => 0
  | .cons _ shape _ rest => max shape.depth rest.depth

end

/-! ## Forms -/

mutual

/-- **The document is a form of the value.** -/
def Shape.Form : (shape : Shape) → shape.Value → Json → Prop
  | .text, s, j => j = .text s
  | .flag, b, j => j = .bool b
  | .int32, n, j => j = .int n.toInt
  | .int64, n, j => j = .int n.toInt
  | .word64, n, j => j = .int n.toNat
  | .optional inner, v, j =>
    match v with
    | none => j = .null
    | some v => inner.Form v j
  | .list item, vs, j => ∃ items, j = .list items ∧ List.Forall₂ item.Form vs items
  | .dict, d, j => j = .record (d.entries.map fun e => (e.1, .text e.2))
  | .record _ fields, row, j =>
    (∃ members, j = .record members ∧ fields.FormMembers row members) ∨
      ∃ items, j = .list items ∧ fields.FormItems row items

/-- **The members are forms of the fields in their order**, where a field that holds its fallback
may be left out. -/
def Fields.FormMembers : (fields : Fields) → fields.Row → List (String × Json) → Prop
  | .nil, _, members => members = []
  | .cons name shape fallback rest, (v, row), members =>
    (∃ j more, members = (name, j) :: more ∧ shape.Form v j ∧ rest.FormMembers row more) ∨
      (∃ j, fallback = some j ∧ shape.Form v j) ∧ rest.FormMembers row members

/-- **The items are forms of the first fields**, and the other fields hold their fallbacks. -/
def Fields.FormItems : (fields : Fields) → fields.Row → List Json → Prop
  | .nil, _, items => items = []
  | .cons _ shape fallback rest, (v, row), items =>
    match items with
    | j :: items => shape.Form v j ∧ rest.FormItems row items
    | [] => (∃ j, fallback = some j ∧ shape.Form v j) ∧ rest.FormItems row []

end

/-- The members of a form have names of fields. -/
theorem Fields.FormMembers.sublist : {fields : Fields} → {row : fields.Row} →
    {members : List (String × Json)} → fields.FormMembers row members →
    (members.map (·.1)).Sublist fields.names
  | .nil, _, _, h => by
    rw [FormMembers] at h
    rw [h]
    exact .slnil
  | .cons name shape fallback rest, (v, row), _, h => by
    rw [FormMembers] at h
    obtain ⟨j, more, rfl, -, hmore⟩ | ⟨-, hmore⟩ := h
    · exact hmore.sublist.cons_cons name
    · exact hmore.sublist.cons name

/-! ## What a form is good for -/

/-- **The document stands for the value**: it can be printed, it can be put aside, and it is read as
the value wherever it comes from. -/
structure Shape.Stands (shape : Shape) (v : shape.Value) (j : Json) : Prop where
  whole : Whole j
  held : Held shape.depth j
  decodes (h : shape.sound = true) (origin : Origin) : shape.decode origin j = .ok v

/-- **The members stand for the fields.** -/
structure Fields.MembersStand (fields : Fields) (row : fields.Row)
    (members : List (String × Json)) : Prop where
  whole : ∀ m ∈ members, Whole m.2
  held : ∀ m ∈ members, Held fields.depth m.2
  tell (h : fields.sound = true) (origin : Origin) :
    fields.Tell origin (under · (members.map Member.keyed)) row

/-- **The items stand for the fields.** -/
structure Fields.ItemsStand (fields : Fields) (row : fields.Row) (items : List Json) : Prop where
  whole : ∀ j ∈ items, Whole j
  held : ∀ j ∈ items, Held fields.depth j
  tell (h : fields.sound = true) (origin : Origin) : fields.TellItems origin items row

theorem held_int {n : Int} (room : Nat) (hleast : -2 ^ 63 ≤ n) (hgreatest : n < 2 ^ 64) :
    Held room (.int n) := by
  refine .number room ?_
  by_cases h : n < 0
  · rw [value?_int_of_neg h hleast]
    exact nofun
  · rw [value?_int_of_nonneg (by omega) hgreatest]
    exact nofun

theorem stands_int32 (n : Int32) : Shape.int32.Stands n (.int n.toInt) := by
  have hleast := n.le_toInt
  have hgreatest := n.toInt_lt
  refine ⟨.int _, held_int _ (by omega) (by omega), fun _ origin => ?_⟩
  rw [Shape.decode, decodeInt_int (by decide) (by decide) ⟨n.minValue_le_toInt, n.toInt_le⟩]
  exact congrArg Except.ok n.ofInt_toInt

theorem stands_int64 (n : Int64) : Shape.int64.Stands n (.int n.toInt) := by
  have hgreatest := n.toInt_lt
  refine ⟨.int _, held_int _ n.le_toInt (by omega), fun _ origin => ?_⟩
  rw [Shape.decode, decodeInt_int (by decide) (by decide) ⟨n.minValue_le_toInt, n.toInt_le⟩]
  exact congrArg Except.ok n.ofInt_toInt

theorem stands_word64 (n : UInt64) : Shape.word64.Stands n (.int n.toNat) := by
  have hgreatest := n.toNat_lt
  have hlimit : (n.toNat : Int) ≤ UInt64.size - 1 := by
    change _ ≤ ((2 ^ 64 : Nat) : Int) - 1
    omega
  refine ⟨.int _, held_int _ (by omega) (by omega), fun _ origin => ?_⟩
  rw [Shape.decode, decodeInt_int (by decide) (by decide) ⟨by omega, hlimit⟩]
  exact congrArg Except.ok UInt64.ofNat_toNat

theorem stands_some {inner : Shape} {v : inner.Value} {j : Json} (h : inner.Stands v j) :
    (Shape.optional inner).Stands (some v) j := by
  refine ⟨h.whole, h.held, fun hsound origin => ?_⟩
  simp only [Shape.sound, Bool.and_eq_true, Bool.not_eq_true'] at hsound
  exact (decode_some_iff hsound.1).mpr (h.decodes hsound.2 origin)

theorem stands_list {item : Shape} {vs : List item.Value} {items : List Json}
    (h : List.Forall₂ item.Stands vs items) : (Shape.list item).Stands vs (.list items) := by
  have hitems : ∀ j ∈ items, ∃ v, item.Stands v j := fun j hj => by
    obtain ⟨v, -, hv⟩ := exists_of_mem_forall₂ h.flip hj
    exact ⟨v, hv⟩
  refine ⟨.list fun j hj => (hitems j hj).choose_spec.whole,
    .array fun j hj => (hitems j hj).choose_spec.held, fun hsound origin => ?_⟩
  exact decode_list_iff.mpr ⟨items, rfl, h.flip.imp fun _ _ hv => hv.decodes hsound origin⟩

theorem stands_dict (d : Dict String String) :
    Shape.dict.Stands d (.record (d.entries.map fun e => (e.1, .text e.2))) := by
  refine ⟨.record (List.forall_mem_map.mpr fun e _ => .text e.2), .object ?_ ?_, fun _ origin =>
    decode_dict_iff.mpr ⟨d.entries, rfl, Dict.ofList_entries d⟩⟩
  · exact List.forall_mem_map.mpr fun _ _ => nofun
  · exact List.forall_mem_map.mpr (List.forall_mem_map.mpr fun e _ => .text 0 e.2)

section Rows

variable {name : String} {shape : Shape} {fallback : Option Json} {rest : Fields}
  {v : shape.Value} {row : rest.Row} {j : Json}

theorem some_not_mem_of_sublist {members : List (String × Json)}
    (h : (members.map (·.1)).Sublist rest.names) (hname : name ∉ rest.names) :
    some name ∉ (members.map Member.keyed).map (·.1) := by
  rw [List.map_map]
  intro hmem
  obtain ⟨m, hm, heq⟩ := List.mem_map.mp hmem
  cases heq
  exact hname (h.subset (List.mem_map_of_mem hm))

section Members

variable {members : List (String × Json)} (hj : shape.Stands v j)
  (hnames : (members.map (·.1)).Sublist rest.names) (h : rest.MembersStand row members)

include hj hnames h

theorem Shape.Stands.member :
    (Fields.cons name shape fallback rest).MembersStand (v, row) ((name, j) :: members) := by
  refine ⟨List.forall_mem_cons.mpr ⟨hj.whole, h.whole⟩, List.forall_mem_cons.mpr
    ⟨hj.held.mono (Nat.le_max_left _ _), fun m hm => (h.held m hm).mono (Nat.le_max_right _ _)⟩,
    fun hsound origin => ?_⟩
  obtain ⟨hname, hshape, hrest⟩ := Fields.sound_cons_iff.mp hsound
  exact tell_cons_member hname (some_not_mem_of_sublist hnames hname) (hj.decodes hshape origin)
    (h.tell hrest origin)

theorem Shape.Stands.noMember :
    (Fields.cons name shape (some j) rest).MembersStand (v, row) members := by
  refine ⟨h.whole, fun m hm => (h.held m hm).mono (Nat.le_max_right _ _), fun hsound origin => ?_⟩
  obtain ⟨hname, hshape, hrest⟩ := Fields.sound_cons_iff.mp hsound
  exact tell_cons_fallback (some_not_mem_of_sublist hnames hname) (hj.decodes hshape origin)
    (h.tell hrest origin)

end Members

theorem Shape.Stands.item {items : List Json} (hj : shape.Stands v j)
    (h : rest.ItemsStand row items) :
    (Fields.cons name shape fallback rest).ItemsStand (v, row) (j :: items) := by
  refine ⟨List.forall_mem_cons.mpr ⟨hj.whole, h.whole⟩, List.forall_mem_cons.mpr
    ⟨hj.held.mono (Nat.le_max_left _ _), fun m hm => (h.held m hm).mono (Nat.le_max_right _ _)⟩,
    fun hsound origin => ?_⟩
  obtain ⟨-, hshape, hrest⟩ := Fields.sound_cons_iff.mp hsound
  exact ⟨hj.decodes hshape origin, h.tell hrest origin⟩

theorem Shape.Stands.noItem (hj : shape.Stands v j) (h : rest.ItemsStand row []) :
    (Fields.cons name shape (some j) rest).ItemsStand (v, row) [] := by
  refine ⟨nofun, nofun, fun hsound origin => ?_⟩
  obtain ⟨-, hshape, hrest⟩ := Fields.sound_cons_iff.mp hsound
  exact ⟨⟨j, rfl, hj.decodes hshape origin⟩, h.tell hrest origin⟩

end Rows

section Records

variable {name : String} {fields : Fields} {row : fields.Row}

theorem stands_object {members : List (String × Json)} (h : fields.MembersStand row members) :
    (Shape.record name fields).Stands row (.record members) := by
  refine ⟨.record h.whole, .object ?_ ?_, fun hsound origin =>
    (decode_object_iff (Fields.nodup_names hsound)).mpr ⟨rfl, ?_, h.tell hsound origin⟩⟩
  · exact List.forall_mem_map.mpr fun m _ => nofun
  · exact List.forall_mem_map.mpr fun m hm => h.held m hm
  · exact List.forall_mem_map.mpr fun m hm => ⟨Option.some_ne_none _, (h.whole m hm).flaw?⟩

theorem stands_array {items : List Json} (h : fields.ItemsStand row items) :
    (Shape.record name fields).Stands row (.list items) :=
  ⟨.list h.whole, .array h.held, fun hsound origin =>
    decode_array_iff.mpr ⟨rfl, h.tell hsound origin⟩⟩

end Records

mutual

/-- **Every form stands for the value.** -/
theorem Shape.stands_of_form : (shape : Shape) → (v : shape.Value) → (j : Json) →
    shape.Form v j → shape.Stands v j
  | .text, s, _, rfl => ⟨.text s, .text 0 s, fun _ _ => rfl⟩
  | .flag, b, _, rfl => ⟨.bool b, .bool 0 b, fun _ _ => rfl⟩
  | .int32, n, _, rfl => stands_int32 n
  | .int64, n, _, rfl => stands_int64 n
  | .word64, n, _, rfl => stands_word64 n
  | .optional _, none, _, rfl => ⟨.null, .null _, fun _ _ => rfl⟩
  | .optional inner, some v, j, h => stands_some (inner.stands_of_form v j h)
  | .list item, _, _, ⟨_, rfl, hitems⟩ =>
    stands_list (hitems.imp fun v j h => item.stands_of_form v j h)
  | .dict, d, _, rfl => stands_dict d
  | .record _ fields, row, _, .inl ⟨members, rfl, h⟩ =>
    stands_object (fields.membersStand_of_form row members h)
  | .record _ fields, row, _, .inr ⟨items, rfl, h⟩ =>
    stands_array (fields.itemsStand_of_form row items h)

theorem Fields.membersStand_of_form : (fields : Fields) → (row : fields.Row) →
    (members : List (String × Json)) → fields.FormMembers row members →
    fields.MembersStand row members
  | .nil, _, _, rfl => ⟨nofun, nofun, fun _ _ => trivial⟩
  | .cons _ shape _ rest, (v, row), _, .inl ⟨j, more, rfl, hj, hmore⟩ =>
    (shape.stands_of_form v j hj).member hmore.sublist (rest.membersStand_of_form row more hmore)
  | .cons _ shape _ rest, (v, row), members, .inr ⟨⟨j, rfl, hj⟩, hmore⟩ =>
    (shape.stands_of_form v j hj).noMember hmore.sublist
      (rest.membersStand_of_form row members hmore)

theorem Fields.itemsStand_of_form : (fields : Fields) → (row : fields.Row) →
    (items : List Json) → fields.FormItems row items → fields.ItemsStand row items
  | .nil, _, _, rfl => ⟨nofun, nofun, fun _ _ => rfl⟩
  | .cons _ shape _ rest, (v, row), j :: items, ⟨hj, hitems⟩ =>
    (shape.stands_of_form v j hj).item (rest.itemsStand_of_form row items hitems)
  | .cons _ shape _ rest, (v, row), [], ⟨⟨j, rfl, hj⟩, hitems⟩ =>
    (shape.stands_of_form v j hj).noItem (rest.itemsStand_of_form row [] hitems)

end

/-- **A document is a form of one value at most.** -/
theorem Shape.Form.unique {shape : Shape} (h : shape.sound = true) {v w : shape.Value} {j : Json}
    (hv : shape.Form v j) (hw : shape.Form w j) : v = w := by
  have hdecode := (shape.stands_of_form v j hv).decodes h .direct
  rw [(shape.stands_of_form w j hw).decodes h .direct] at hdecode
  exact (Except.ok.inj hdecode).symm

/-! ## How long an array may be -/

/-- The number of fields that must be there before the first that has a fallback. -/
def Fields.required : Fields → Nat
  | .cons _ _ none rest => rest.required + 1
  | _ => 0

mutual

/-- **No array that stands for a record is too short or too long**, however deep it lies: it has no
fewer items than the fields that must be there, and no more than there are fields. -/
def Shape.Measured : Shape → Json → Prop
  | .optional inner, j => j = .null ∨ inner.Measured j
  | .list item, j => ∀ items, j = .list items → ∀ i ∈ items, item.Measured i
  | .record _ fields, .object members _ => fields.MembersMeasured members
  | .record _ fields, .array items _ =>
    fields.required ≤ items.length ∧ items.length ≤ fields.size ∧ fields.ItemsMeasured items
  | _, _ => True

def Fields.MembersMeasured : Fields → List (Option String × Json) → Prop
  | .nil, _ => True
  | .cons name shape _ rest, members =>
    (∀ j ∈ under name members, shape.Measured j) ∧ rest.MembersMeasured members

def Fields.ItemsMeasured : Fields → List Json → Prop
  | .cons _ shape _ rest, j :: items => shape.Measured j ∧ rest.ItemsMeasured items
  | _, _ => True

end

theorem required_le_of_tellItems {origin : Origin} : {fields : Fields} → {items : List Json} →
    {row : fields.Row} → fields.TellItems origin items row →
    fields.required ≤ items.length ∧ items.length ≤ fields.size
  | .nil, _, _, rfl => ⟨Nat.le_refl 0, Nat.le_refl 0⟩
  | .cons _ _ fallback rest, [], (_, _), ⟨hv, hrow⟩ => by
    obtain ⟨j, rfl, -⟩ := hv
    exact ⟨Nat.zero_le _, Nat.zero_le _⟩
  | .cons _ _ fallback rest, j :: items, (_, _), ⟨hv, hrow⟩ => by
    obtain ⟨hleast, hmost⟩ := required_le_of_tellItems hrow
    refine ⟨?_, Nat.succ_le_succ hmost⟩
    cases fallback with
    | none => exact Nat.succ_le_succ hleast
    | some _ => exact Nat.zero_le _

mutual

/-- **Every array in a document that is read has the right length.** -/
theorem Shape.measured_of_decode {origin : Origin} : (shape : Shape) → shape.sound = true →
    (j : Json) → (v : shape.Value) → shape.decode origin j = .ok v → shape.Measured j
  | .text, _, _, _, _ | .flag, _, _, _, _ | .int32, _, _, _, _ | .int64, _, _, _, _
  | .word64, _, _, _, _ | .dict, _, _, _, _ => by trivial
  | .optional inner, hsound, j, v, h => by
    simp only [Shape.sound, Bool.and_eq_true] at hsound
    obtain rfl | ⟨w, hw⟩ := exists_of_decode_optional h
    · exact .inl rfl
    · exact .inr (inner.measured_of_decode hsound.2 j w hw)
  | .list item, hsound, _, _, h => by
    obtain ⟨items, rfl, hitems⟩ := decode_list_iff.mp h
    rintro _ ⟨⟩ i hi
    obtain ⟨v, -, hv⟩ := exists_of_mem_forall₂ hitems hi
    exact item.measured_of_decode hsound i v hv
  | .record _ fields, hsound, .object members cut, row, h => by
    obtain ⟨-, -, htell⟩ := (decode_object_iff (Fields.nodup_names hsound)).mp h
    exact fields.membersMeasured_of_tell hsound members row htell
  | .record _ fields, hsound, .array items cut, row, h => by
    obtain ⟨-, hitems⟩ := decode_array_iff.mp h
    have ⟨hleast, hmost⟩ := required_le_of_tellItems hitems
    exact ⟨hleast, hmost, fields.itemsMeasured_of_tell hsound items row hitems⟩
  | .record _ _, _, .null, _, _ => trivial
  | .record _ _, _, .bool _, _, _ => trivial
  | .record _ _, _, .number _, _, _ => trivial
  | .record _ _, _, .string _, _, _ => trivial
  | .record _ _, _, .broken _, _, _ => trivial

theorem Fields.membersMeasured_of_tell {origin : Origin} : (fields : Fields) →
    fields.sound = true → (members : List (Option String × Json)) → (row : fields.Row) →
    fields.Tell origin (under · members) row → fields.MembersMeasured members
  | .nil, _, _, _, _ => trivial
  | .cons name shape _ rest, hsound, members, (v, row), ⟨hv, hrow⟩ => by
    obtain ⟨-, hshape, hrest⟩ := Fields.sound_cons_iff.mp hsound
    refine ⟨fun j hj => ?_, rest.membersMeasured_of_tell hrest members row hrow⟩
    exact shape.measured_of_decode hshape j v (settles_of_mem hv hj)

theorem Fields.itemsMeasured_of_tell {origin : Origin} : (fields : Fields) →
    fields.sound = true → (items : List Json) → (row : fields.Row) →
    fields.TellItems origin items row → fields.ItemsMeasured items
  | .nil, _, _, _, _ => trivial
  | .cons _ _ _ _, _, [], (_, _), _ => trivial
  | .cons name shape _ rest, hsound, j :: items, (v, row), ⟨hv, hrow⟩ => by
    obtain ⟨-, hshape, hrest⟩ := Fields.sound_cons_iff.mp hsound
    exact ⟨shape.measured_of_decode hshape j v hv, rest.itemsMeasured_of_tell hrest items row hrow⟩

end

end CatalogFeed.Json
