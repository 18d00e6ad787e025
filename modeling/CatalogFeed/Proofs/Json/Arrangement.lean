import CatalogFeed.Proofs.Json.Forms
import Mathlib.Logic.Relation

/-!
# Proofs/Json/Arrangement — what may be moved and added in a document

The members of a record may stand in any order, and other members may stand among them; the entries
of a string map may change places unless they have the same key.  A `Step` is one such change
anywhere in a document, and a document is `Rearranged` by any number of them.

* `Shape.decode_of_step`: a document is read as the same value after a step;
* `Shape.Rearranged.decode`: and so however it is rearranged;
* `Shape.Rearranged.spellable`: what is rearranged can be written.
-/

namespace CatalogFeed.Json

/-! ## Steps -/

/-- The names and shapes of the fields, in order. -/
def Fields.typed : Fields → List (String × Shape)
  | .nil => []
  | .cons name shape _ rest => (name, shape) :: rest.typed

/-- **One change of the arrangement of a document of the shape.** -/
inductive Shape.Step : Shape → Json → Json → Prop where
  /-- A change in a value that is optional. -/
  | optional {inner : Shape} {j j' : Json} (h : inner.Step j j') : (Shape.optional inner).Step j j'
  /-- A change in an item. -/
  | item {item : Shape} {before after : List Json} {j j' : Json} (h : item.Step j j') :
      (Shape.list item).Step (.array (before ++ j :: after) none)
        (.array (before ++ j' :: after) none)
  /-- Entries with different keys change places. -/
  | entries {before after : List (Option String × Json)} {e e' : Option String × Json}
      (h : e.1 ≠ e'.1) : Shape.dict.Step (.object (before ++ e :: e' :: after) none)
        (.object (before ++ e' :: e :: after) none)
  /-- The members of a record are put into another order. -/
  | members {name : String} {fields : Fields} {members members' : List (Option String × Json)}
      (h : members.Perm members') :
      (Shape.record name fields).Step (.object members none) (.object members' none)
  /-- A member is added that has not the name of a field; its value may be anything. -/
  | unknown {name : String} {fields : Fields} {before after : List (Option String × Json)}
      {key : String} {value : Json} (hkey : key ∉ fields.names) (hvalue : Spellable value) :
      (Shape.record name fields).Step (.object (before ++ after) none)
        (.object (before ++ (some key, value) :: after) none)
  /-- A change in the member of a field. -/
  | member {name : String} {fields : Fields} {before after : List (Option String × Json)}
      {key : String} {shape : Shape} {j j' : Json} (hkey : (key, shape) ∈ fields.typed)
      (h : shape.Step j j') :
      (Shape.record name fields).Step (.object (before ++ (some key, j) :: after) none)
        (.object (before ++ (some key, j') :: after) none)
  /-- A change in the item of a field, where the record is an array. -/
  | position {name : String} {fields : Fields} {before after : List Json} {key : String}
      {shape : Shape} {j j' : Json} (hkey : fields.typed[before.length]? = some (key, shape))
      (h : shape.Step j j') :
      (Shape.record name fields).Step (.array (before ++ j :: after) none)
        (.array (before ++ j' :: after) none)

/-- **The document is rearranged** by any number of steps. -/
def Shape.Rearranged (shape : Shape) : Json → Json → Prop := Relation.ReflTransGen shape.Step

namespace Shape.Step

variable {shape : Shape} {j j' : Json}

/-- Only arrays and objects are rearranged. -/
theorem ne_null (h : shape.Step j j') : j ≠ .null ∧ j' ≠ .null := by
  induction h with
  | optional h ih => exact ih
  | _ => exact ⟨nofun, nofun⟩

theorem flaw? (h : shape.Step j j') : j'.flaw? = none := by
  induction h with
  | optional h ih => exact ih
  | _ => rfl

/-- **What is rearranged can be written.** -/
theorem spellable (h : shape.Step j j') (hj : Spellable j) : Spellable j' := by
  induction h with
  | optional h ih => exact ih hj
  | item h ih | position hkey h ih =>
    rw [spellable_array_iff, List.forall_mem_append, List.forall_mem_cons] at hj ⊢
    exact ⟨rfl, hj.2.1, ih hj.2.2.1, hj.2.2.2⟩
  | entries h =>
    rw [spellable_object_iff] at hj ⊢
    exact ⟨rfl, fun m hm => hj.2 m (by simpa [or_left_comm] using hm)⟩
  | members h =>
    rw [spellable_object_iff] at hj ⊢
    exact ⟨rfl, fun m hm => hj.2 m (h.mem_iff.mpr hm)⟩
  | unknown hkey hvalue =>
    rw [spellable_object_iff, List.forall_mem_append] at hj ⊢
    rw [List.forall_mem_cons]
    exact ⟨rfl, hj.2.1, ⟨⟨_, spellsString_escape _⟩, hvalue⟩, hj.2.2⟩
  | member hkey h ih =>
    rw [spellable_object_iff, List.forall_mem_append, List.forall_mem_cons] at hj ⊢
    exact ⟨rfl, hj.2.1, ⟨hj.2.2.1.1, ih hj.2.2.1.2⟩, hj.2.2.2⟩

/-- **What may be put aside after a change could be put aside before.** -/
theorem held {room : Nat} (h : shape.Step j j') (hj : Held room j') : Held room j := by
  induction h generalizing room with
  | optional h ih => exact ih hj
  | item h ih | position hkey h ih =>
    cases hj with
    | array hitems =>
      rw [List.forall_mem_append, List.forall_mem_cons] at hitems
      refine .array ?_
      rw [List.forall_mem_append, List.forall_mem_cons]
      exact ⟨hitems.1, ih hitems.2.1, hitems.2.2⟩
  | @entries before after e e' h =>
    cases hj with
    | object hkey hvalue =>
      have hmem : ∀ m, m ∈ before ++ e :: e' :: after ↔ m ∈ before ++ e' :: e :: after := by
        simp [or_left_comm]
      exact .object (fun m hm => hkey m ((hmem m).mp hm)) fun m hm => hvalue m ((hmem m).mp hm)
  | members h =>
    cases hj with
    | object hkey hvalue =>
      exact .object (fun m hm => hkey m (h.mem_iff.mp hm)) fun m hm => hvalue m (h.mem_iff.mp hm)
  | @unknown name fields before after key value hnew hspell =>
    cases hj with
    | object hkey hvalue =>
      have hmem : ∀ m ∈ before ++ after, m ∈ before ++ (some key, value) :: after := by
        simp +contextual [or_imp]
      exact .object (fun m hm => hkey m (hmem m hm)) fun m hm => hvalue m (hmem m hm)
  | member hkey h ih =>
    cases hj with
    | object hnames hvalue =>
      rw [List.forall_mem_append, List.forall_mem_cons] at hnames hvalue
      refine .object ?_ ?_
      · rw [List.forall_mem_append, List.forall_mem_cons]
        exact ⟨hnames.1, nofun, hnames.2.2⟩
      · rw [List.forall_mem_append, List.forall_mem_cons]
        exact ⟨hvalue.1, ih hvalue.2.1, hvalue.2.2⟩

end Shape.Step

/-! ## What is found under a name -/

/-- What is found under the name of a field after a change: the same values in some order, or one
of them changed. -/
def Kept (shape : Shape) (found found' : List Json) : Prop :=
  found.Perm found' ∨ ∃ before j j' after, found = before ++ j :: after ∧
    found' = before ++ j' :: after ∧ shape.Step j j'

theorem mem_names_of_mem_typed : {fields : Fields} → {key : String} → {shape : Shape} →
    (key, shape) ∈ fields.typed → key ∈ fields.names
  | .cons _ _ _ _, _, _, h => by
    rw [Fields.typed, List.mem_cons, Prod.mk.injEq] at h
    obtain ⟨rfl, rfl⟩ | h := h
    · exact List.mem_cons_self
    · exact List.mem_cons_of_mem _ (mem_names_of_mem_typed h)

/-- A name stands for one field. -/
theorem eq_of_mem_typed : {fields : Fields} → fields.names.Nodup → {key : String} →
    {shape shape' : Shape} → (key, shape) ∈ fields.typed → (key, shape') ∈ fields.typed →
    shape = shape'
  | .cons _ _ _ _, hnodup, _, _, _, h, h' => by
    obtain ⟨hname, hrest⟩ := List.nodup_cons.mp hnodup
    rw [Fields.typed, List.mem_cons, Prod.mk.injEq] at h h'
    obtain ⟨rfl, rfl⟩ | h := h <;> obtain ⟨heq, rfl⟩ | h' := h'
    · rfl
    · exact absurd (mem_names_of_mem_typed h') hname
    · exact absurd (mem_names_of_mem_typed h) (heq ▸ hname)
    · exact eq_of_mem_typed hrest h h'

/-- **A change in an object** leaves it legible, and keeps what is found under each name. -/
theorem Shape.Step.exists_members {name : String} {fields : Fields} (hnodup : fields.names.Nodup)
    {members : List (Option String × Json)} {j : Json}
    (h : (Shape.record name fields).Step (.object members none) j) :
    ∃ members', j = .object members' none ∧
      ((∀ m ∈ members, Legible m) → ∀ m ∈ members', Legible m) ∧
      ∀ key shape, (key, shape) ∈ fields.typed →
        Kept shape (under key members) (under key members') := by
  cases h with
  | @members _ _ _ members' h =>
    exact ⟨members', rfl, fun hlegible m hm => hlegible m (h.mem_iff.mpr hm),
      fun key shape _ => .inl ((h.filter _).map _)⟩
  | @unknown _ _ before after new value hnew hvalue =>
    refine ⟨_, rfl, fun hlegible => ?_, fun key shape hkey => .inl ?_⟩
    · rw [List.forall_mem_append] at hlegible
      rw [List.forall_mem_append, List.forall_mem_cons]
      exact ⟨hlegible.1, ⟨nofun, hvalue.flaw?⟩, hlegible.2⟩
    · have hne : new ≠ key := fun heq => hnew (heq ▸ mem_names_of_mem_typed hkey)
      rw [under_append, under_append, under_cons_of_ne hne]
  | @member _ _ before after own shape' j j' hown h =>
    refine ⟨_, rfl, fun hlegible => ?_, fun key shape hkey => ?_⟩
    · rw [List.forall_mem_append, List.forall_mem_cons] at hlegible ⊢
      exact ⟨hlegible.1, ⟨nofun, h.flaw?⟩, hlegible.2.2⟩
    · by_cases heq : own = key
      · subst heq
        obtain rfl := eq_of_mem_typed hnodup hkey hown
        rw [under_append, under_append, under_cons_self, under_cons_self]
        exact .inr ⟨_, j, j', _, rfl, rfl, h⟩
      · rw [under_append, under_append, under_cons_of_ne heq, under_cons_of_ne heq]
        exact .inl (.refl _)

/-- What is kept settles the value all the same, if a change does not. -/
theorem Kept.settles {shape : Shape} {found found' : List Json} (h : Kept shape found found')
    {origin : Origin} (hdecode : ∀ j j', shape.Step j j' → ∀ v,
      shape.decode origin j = .ok v → shape.decode origin j' = .ok v)
    {fallback : Option Json} {v : shape.Value} (hv : shape.Settles origin fallback found v) :
    shape.Settles origin fallback found' v := by
  obtain hperm | ⟨before, j, j', after, rfl, rfl, hstep⟩ := h
  · match found, hv with
    | [], hv => rwa [hperm.nil_eq] at hv
    | [j], hv => rwa [List.singleton_perm.mp hperm] at hv
  · match before, after, hv with
    | [], [], hv => exact hdecode j j' hstep v hv
    | _ :: _ :: _, _, hv => exact hv.elim
    | [_], _, hv => exact hv.elim
    | [], _ :: _, hv => exact hv.elim

/-! ## What is read -/

/-- One item of a list may be replaced by another that agrees with whatever it agreed with. -/
theorem forall₂_replace {α β : Type} {R : α → β → Prop} {before after : List α} {a a' : α}
    {bs : List β} (h : List.Forall₂ R (before ++ a :: after) bs) (ha : ∀ b, R a b → R a' b) :
    List.Forall₂ R (before ++ a' :: after) bs := by
  induction before generalizing bs with
  | nil =>
    cases h with
    | cons hb hrest => exact .cons (ha _ hb) hrest
  | cons c before ih =>
    cases h with
    | cons hc hrest => exact .cons hc (ih hrest)

theorem ofList_swap {before after : List (String × String)} {e e' : String × String}
    (h : e.1 ≠ e'.1) :
    Dict.ofList (before ++ e' :: e :: after) = Dict.ofList (before ++ e :: e' :: after) := by
  simp only [Dict.ofList, List.foldl_append, List.foldl_cons]
  rw [Dict.insert_comm _ _ _ h]

theorem decode_dict_swap {origin : Origin} {before after : List (Option String × Json)}
    {e e' : Option String × Json} (h : e.1 ≠ e'.1) {d : Dict String String}
    (hd : Shape.dict.decode origin (.object (before ++ e :: e' :: after) none) = .ok d) :
    Shape.dict.decode origin (.object (before ++ e' :: e :: after) none) = .ok d := by
  obtain ⟨entries, hentries, rfl⟩ := decode_dict_iff.mp hd
  rw [record, List.map_map, Json.object.injEq] at hentries
  obtain ⟨before, rest, rfl, rfl, hrest⟩ := List.map_eq_append_iff.mp hentries.1.symm
  obtain ⟨a, rest, rfl, rfl, hafter⟩ := List.map_eq_cons_iff.mp hrest
  obtain ⟨b, after, rfl, rfl, rfl⟩ := List.map_eq_cons_iff.mp hafter
  have hne : a.1 ≠ b.1 := fun heq => h (congrArg some heq)
  exact decode_dict_iff.mpr ⟨before ++ b :: a :: after, by simp [record], ofList_swap hne⟩

theorem decode_optional_of_ne_null {origin : Origin} {inner : Shape} {j : Json} (h : j ≠ .null)
    {v : Option inner.Value} : (Shape.optional inner).decode origin j = .ok v ↔
      ∃ w, inner.decode origin j = .ok w ∧ some w = v := by
  cases j with
  | null => exact absurd rfl h
  | _ => simp [Shape.decode, bind_eq_ok_iff]

mutual

/-- **A document is read as the same value after a change.** -/
theorem Shape.decode_of_step {origin : Origin} : (shape : Shape) → shape.sound = true →
    (j j' : Json) → shape.Step j j' → (v : shape.Value) → shape.decode origin j = .ok v →
    shape.decode origin j' = .ok v
  | .text, _, _, _, h, _, _ | .flag, _, _, _, h, _, _ | .int32, _, _, _, h, _, _
  | .int64, _, _, _, h, _, _ | .word64, _, _, _, h, _, _ => nomatch h
  | .optional inner, hsound, j, j', .optional h, v, hv => by
    simp only [Shape.sound, Bool.and_eq_true] at hsound
    obtain ⟨w, hw, rfl⟩ := (decode_optional_of_ne_null h.ne_null.1).mp hv
    exact (decode_optional_of_ne_null h.ne_null.2).mpr
      ⟨w, inner.decode_of_step hsound.2 j j' h w hw, rfl⟩
  | .list item, hsound, _, _, .item h, vs, hvs => by
    obtain ⟨items, hitems, hdecode⟩ := decode_list_iff.mp hvs
    cases hitems
    exact decode_list_iff.mpr ⟨_, rfl, forall₂_replace hdecode fun v hv =>
      item.decode_of_step hsound _ _ h v hv⟩
  | .dict, _, _, _, .entries h, _, hd => decode_dict_swap h hd
  | .record _ fields, hsound, .object members none, j', h, row, hrow => by
    have hnodup := Fields.nodup_names hsound
    obtain ⟨members', rfl, hlegible, hkept⟩ := h.exists_members hnodup
    obtain ⟨-, hmembers, htell⟩ := (decode_object_iff hnodup).mp hrow
    exact (decode_object_iff hnodup).mpr ⟨rfl, hlegible hmembers,
      fields.tell_of_kept hsound _ _ (fun key shape hkey => hkept key shape hkey) row htell⟩
  | .record _ fields, hsound, _, _, .position hkey h, row, hrow => by
    obtain ⟨-, hitems⟩ := decode_array_iff.mp hrow
    exact decode_array_iff.mpr ⟨rfl, fields.tellItems_of_step hsound _ hkey _ _ h _ row hitems⟩

/-- What is kept under each name settles the fields all the same. -/
theorem Fields.tell_of_kept {origin : Origin} : (fields : Fields) → fields.sound = true →
    (find find' : String → List Json) → (∀ key shape, (key, shape) ∈ fields.typed →
      Kept shape (find key) (find' key)) →
    (row : fields.Row) → fields.Tell origin find row → fields.Tell origin find' row
  | .nil, _, _, _, _, _, _ => trivial
  | .cons name shape _ rest, hsound, find, find', h, (v, row), ⟨hv, hrow⟩ => by
    obtain ⟨-, hshape, hrest⟩ := Fields.sound_cons_iff.mp hsound
    refine ⟨(h name shape List.mem_cons_self).settles (shape.decode_of_step hshape) hv,
      rest.tell_of_kept hrest find find' (fun key shape hkey => h key shape ?_) row hrow⟩
    exact List.mem_cons_of_mem _ hkey

/-- Items settle the fields all the same after a change in one of them. -/
theorem Fields.tellItems_of_step {origin : Origin} : (fields : Fields) → fields.sound = true →
    (before : List Json) → {key : String} → {shape : Shape} →
    fields.typed[before.length]? = some (key, shape) → (j j' : Json) → shape.Step j j' →
    (after : List Json) → (row : fields.Row) → fields.TellItems origin (before ++ j :: after) row →
    fields.TellItems origin (before ++ j' :: after) row
  | .nil, _, before, _, _, hkey, _, _, _, _, _, _ => nomatch hkey
  | .cons name shape _ rest, hsound, [], _, _, hkey, j, j', h, after, (v, row), ⟨hv, hrow⟩ => by
    obtain ⟨-, hshape, hrest⟩ := Fields.sound_cons_iff.mp hsound
    cases hkey
    exact ⟨shape.decode_of_step hshape j j' h v hv, hrow⟩
  | .cons name shape _ rest, hsound, _ :: before, _, _, hkey, j, j', h, after, (v, row),
      ⟨hv, hrow⟩ => by
    obtain ⟨-, hshape, hrest⟩ := Fields.sound_cons_iff.mp hsound
    exact ⟨hv, rest.tellItems_of_step hrest before hkey j j' h after row hrow⟩

end

/-! ## Any number of changes -/

namespace Shape.Rearranged

variable {shape : Shape} {j j' : Json}

/-- **What is rearranged can be written.** -/
theorem spellable (h : shape.Rearranged j j') (hj : Spellable j) : Spellable j' := by
  induction h with
  | refl => exact hj
  | tail _ hstep ih => exact hstep.spellable ih

/-- **A document is read as the same value however it is rearranged.** -/
theorem decode (h : shape.Rearranged j j') (hsound : shape.sound = true) {origin : Origin}
    {v : shape.Value} (hv : shape.decode origin j = .ok v) : shape.decode origin j' = .ok v := by
  induction h with
  | refl => exact hv
  | tail _ hstep ih => exact shape.decode_of_step hsound _ _ hstep v ih

end Shape.Rearranged

end CatalogFeed.Json
