import CatalogFeed.Proofs.Json.Members
import CatalogFeed.Proofs.Settings.Order
import CatalogFeed.Settings.Reading

/-!
# Proofs/Settings/Records — what settings read as, field by field

A record is read from a table field by field, and nothing else of the table counts (`FieldsRead`).
A map is read entry by entry.

* `readAs_record_iff`, `fieldReads_record_iff`: a record that is there, and one that may be missing;
* `readAs_dict_under`: a map with one entry more, or changed;
* `isScalar_of_readAs_dict`: a map has only scalars;
* `Agree.readAs`: trees that are alike and have no key twice read alike.
-/

namespace CatalogFeed.Setting

open Json (Shape Fields finish_cons_iff)

/-! ## Records -/

/-- **What is found for a field reads as a value**: itself if it is there, else its fallback. -/
def FieldReads (shape : Shape) (fallback : Option Json) (found : Option Setting)
    (v : shape.Value) : Prop :=
  match found with
  | some s => readAs shape s = .ok v
  | none => ∃ j, fallback = some j ∧ shape.decode .direct j = .ok v

theorem FieldReads.unique {shape : Shape} {fallback : Option Json} {found : Option Setting}
    {v w : shape.Value} (hv : FieldReads shape fallback found v)
    (hw : FieldReads shape fallback found w) : v = w := by
  cases found with
  | some s => exact Except.ok.inj (hv.symm.trans hw)
  | none =>
    obtain ⟨j, hj, hv⟩ := hv
    obtain ⟨j', hj', hw⟩ := hw
    cases hj.symm.trans hj'
    exact Except.ok.inj (hv.symm.trans hw)

/-- **The fields of a record read as a row**, where `find` says what is found for a name. -/
def FieldsRead : (fields : Fields) → (find : String → Option Setting) → fields.Row → Prop
  | .nil, _, _ => True
  | .cons name shape fallback rest, find, (v, row) =>
    FieldReads shape fallback (find name) v ∧ FieldsRead rest find row

/-- Fields are read one after the other. -/
theorem readFields_cons_iff {name : String} {shape : Shape} {fallback : Option Json}
    {rest : Fields} {entries : List (String × Setting)} {slot : Option shape.Value}
    {more : rest.Draft} :
    readFields (.cons name shape fallback rest) entries = .ok (slot, more) ↔
      (match lookup name entries with
        | none => none = slot
        | some s => ∃ v, readAs shape s = .ok v ∧ some v = slot) ∧
      readFields rest entries = .ok more := by
  rw [readFields]
  cases lookup name entries <;>
    simp [bind_eq_ok_iff, mapError_eq_ok_iff, and_comm, and_left_comm]

/-- Reading what is there and then filling the rest amounts to reading field by field. -/
theorem readFields_finish_iff : (fields : Fields) → (entries : List (String × Setting)) →
    (row : fields.Row) → ((∃ draft, readFields fields entries = .ok draft ∧
      fields.finish .direct draft = .ok row) ↔ FieldsRead fields (lookup · entries) row)
  | .nil, _, _ => ⟨fun _ => trivial, fun _ => ⟨(), rfl, rfl⟩⟩
  | .cons name shape fallback rest, entries, (v, row) => by
    rw [FieldsRead, ← readFields_finish_iff rest entries row]
    constructor
    · rintro ⟨⟨slot, more⟩, hread, hfinish⟩
      obtain ⟨hslot, hmore⟩ := readFields_cons_iff.mp hread
      obtain ⟨hvalue, hrow⟩ := finish_cons_iff.mp hfinish
      refine ⟨?_, more, hmore, hrow⟩
      cases hfound : lookup name entries with
      | none =>
        rw [hfound] at hslot
        obtain rfl : none = slot := hslot
        exact hvalue
      | some s =>
        rw [hfound] at hslot
        obtain ⟨w, hw, rfl⟩ := hslot
        obtain rfl : w = v := hvalue
        exact hw
    · rintro ⟨hvalue, more, hmore, hrow⟩
      cases hfound : lookup name entries with
      | none =>
        rw [hfound] at hvalue
        exact ⟨(none, more), readFields_cons_iff.mpr ⟨by rw [hfound], hmore⟩,
          finish_cons_iff.mpr ⟨hvalue, hrow⟩⟩
      | some s =>
        rw [hfound] at hvalue
        exact ⟨(some v, more),
          readFields_cons_iff.mpr ⟨by rw [hfound]; exact ⟨v, hvalue, rfl⟩, hmore⟩,
          finish_cons_iff.mpr ⟨rfl, hrow⟩⟩

/-- **A table reads as a record whose fields read.** -/
theorem readAs_record_iff {name : String} {fields : Fields} {row : fields.Row} {s : Setting}
    (h : s.isTable = true) :
    readAs (.record name fields) s = .ok row ↔ FieldsRead fields (s.get? ·) row := by
  cases s with
  | table entries source =>
    rw [readAs, bind_eq_ok_iff]
    simp only [mapError_eq_ok_iff]
    exact readFields_finish_iff fields entries row
  | _ => cases h

theorem readFields_nil : ∀ fields : Fields, readFields fields [] = .ok fields.blank
  | .nil => rfl
  | .cons _ _ _ rest => readFields_cons_iff.mpr ⟨rfl, readFields_nil rest⟩

/-- What stands for a record that is missing is a table without entries. -/
theorem decode_record_nil {name : String} {fields : Fields} {row : fields.Row} :
    (Shape.record name fields).decode .direct (.record []) = .ok row ↔
      readAs (.record name fields) emptyTable = .ok row := by
  rw [emptyTable, readAs, readFields_nil]
  exact (mapError_eq_ok_iff (x := fields.finish .direct fields.blank)).symm

/-- **A record that may be missing reads field by field all the same.** -/
theorem fieldReads_record_iff {name : String} {fields : Fields} {found : Option Setting}
    {row : fields.Row} (h : ∀ s ∈ found, s.isTable = true) :
    FieldReads (.record name fields) (some (.record [])) found row ↔
      FieldsRead fields (fun field => found.bind (·.get? field)) row := by
  cases found with
  | some s => exact readAs_record_iff (h s rfl)
  | none =>
    simp only [FieldReads, Option.some.injEq, exists_eq_left', Option.bind_none]
    exact decode_record_nil.trans (readAs_record_iff rfl)

/-- A record with a required field is not missing. -/
theorem fieldReads_required_iff {name field : String} {shape : Shape} {rest : Fields}
    {found : Option Setting} {row : (Fields.cons field shape none rest).Row}
    (h : ∀ s ∈ found, s.isTable = true) :
    FieldReads (.record name (.cons field shape none rest)) none found row ↔
      FieldsRead (.cons field shape none rest) (fun field => found.bind (·.get? field)) row := by
  cases found with
  | some s => exact readAs_record_iff (h s rfl)
  | none =>
    constructor
    · rintro ⟨j, hj, -⟩
      cases hj
    · rintro ⟨⟨j, hj, -⟩, -⟩
      cases hj

/-! ## Maps -/

theorem fieldReads_dict_iff {found : Option Setting} {d : Dict String String} :
    FieldReads .dict (some (.record [])) found d ↔
      readAs .dict (found.getD emptyTable) = .ok d := by
  cases found with
  | some s => rfl
  | none =>
    simp [FieldReads, Shape.decode, Json.record, Json.decodeEntries, Json.checkCut, readAs,
      emptyTable, readEntries, bind, Except.bind]

variable {key : String} {entries : List (String × Setting)} {d e : Dict String String}
  {s t : Setting}

theorem readEntries_cons_iff :
    readEntries d ((key, s) :: entries) = .ok e ↔
      ∃ text, readText s = .ok text ∧ readEntries (d.insert key text) entries = .ok e := by
  rw [readEntries, bind_eq_ok_iff]
  simp only [mapError_eq_ok_iff]

/-- **What is found for a key of a map reads as its text**; without an entry it is what it was. -/
def EntryReads (found : Option Setting) (before text : Option String) : Prop :=
  match found with
  | some s => ∃ t, readText s = .ok t ∧ text = some t
  | none => text = before

theorem lookup_eq_none (h : key ∉ entries.map Prod.fst) : lookup key entries = none :=
  Option.eq_none_iff_forall_not_mem.mpr fun _ hs => h (List.mem_map_of_mem (mem_of_lookup hs))

/-- Entries with different keys are read key by key. -/
theorem readEntries_iff (h : (entries.map Prod.fst).Nodup) :
    readEntries d entries = .ok e ↔
      ∀ key, EntryReads (lookup key entries) (d.get? key) (e.get? key) := by
  induction entries generalizing d with
  | nil =>
    refine ⟨?_, fun hreads => congrArg Except.ok (Dict.ext_get? fun key => (hreads key).symm)⟩
    rintro ⟨⟩ key
    rfl
  | cons entry entries ih =>
    obtain ⟨k, s⟩ := entry
    obtain ⟨hnew, hnodup⟩ := List.nodup_cons.mp h
    have hself : lookup k ((k, s) :: entries) = some s := if_pos rfl
    have hother {key : String} (hkey : key ≠ k) :
        lookup key ((k, s) :: entries) = lookup key entries := if_neg hkey.symm
    simp only [readEntries_cons_iff, ih hnodup]
    constructor
    · rintro ⟨t, ht, hrest⟩ key
      have hreads := hrest key
      by_cases hkey : key = k
      · rw [hkey, lookup_eq_none hnew, Dict.get?_insert_self] at hreads
        rw [hkey, hself]
        exact ⟨t, ht, hreads⟩
      · rwa [hother hkey, ← Dict.get?_insert_of_ne d t hkey]
    · intro hreads
      obtain ⟨t, ht, hvalue⟩ : EntryReads (some s) _ (e.get? k) := hself ▸ hreads k
      refine ⟨t, ht, fun key => ?_⟩
      by_cases hkey : key = k
      · rw [hkey, lookup_eq_none hnew, Dict.get?_insert_self]
        exact hvalue
      · rw [Dict.get?_insert_of_ne d t hkey, ← hother hkey]
        exact hreads key

/-- **A table reads as a map whose entries read**, if it has no key twice. -/
theorem readAs_dict_iff (h : s.Tidy) :
    readAs .dict s = .ok d ↔
      s.isTable = true ∧ ∀ key, EntryReads (s.get? key) none (d.get? key) := by
  cases s with
  | table entries source => exact (readEntries_iff h.nodup).trans (and_iff_right rfl).symm
  | _ => exact iff_of_false nofun nofun

/-- **A text that is laid under a key of a map is what the key then has in it.** -/
theorem readAs_dict_under (h : readAs .dict s = .ok d) (hs : s.Tidy) (key v : String)
    (source : Option Source) :
    readAs .dict (under key (fun _ => scalar (.text v) source) s) = .ok (d.insert key v) := by
  obtain ⟨-, hreads⟩ := (readAs_dict_iff hs).mp h
  refine (readAs_dict_iff (hs.under (.scalar _ _))).mpr ⟨isTable_under _ _ _, fun other => ?_⟩
  by_cases hkey : other = key
  · rw [hkey, get?_under_self, Dict.get?_insert_self]
    exact ⟨v, rfl, rfl⟩
  · rw [get?_under_of_ne hkey, Dict.get?_insert_of_ne d v hkey]
    exact hreads other

theorem isScalar_of_readText {text : String} (h : readText s = .ok text) : s.isScalar = true := by
  cases s with
  | scalar value source => rfl
  | _ => cases h

/-- **A map has only scalars.** -/
theorem isScalar_of_readAs_dict (h : readAs .dict s = .ok d) (hs : s.Tidy)
    (hfound : s.get? key = some t) : t.isScalar = true := by
  have hreads := ((readAs_dict_iff hs).mp h).2 key
  rw [hfound] at hreads
  obtain ⟨text, htext, -⟩ := hreads
  exact isScalar_of_readText htext

/-! ## Trees that are alike -/

/-- A setting that is like a scalar is that scalar. -/
theorem Alike.eq_scalar {value : Scalar} {source : Option Source}
    (h : Alike (scalar value source) t) : scalar value source = t := by
  have hface := h.face
  cases t with
  | scalar value' source' =>
    cases hface
    rfl
  | _ => cases hface

theorem Alike.eq_list {items : List Setting} {source : Option Source}
    (h : Alike (list items source) t) : ∃ items' source', t = list items' source' ∧
      List.Forall₂ (fun s t : Setting => Alike s t) items items' := by
  have hface := h.face
  cases t with
  | list items' source' =>
    have hplaces (i : Nat) : Alike items[i]? items'[i]? := h.at? (.item i)
    refine ⟨items', source', rfl, List.forall₂_iff_get.mpr ⟨length_eq_of_alike hplaces, ?_⟩⟩
    intro i hi hi'
    have hitem := hplaces i
    rwa [List.getElem?_eq_getElem hi, List.getElem?_eq_getElem hi'] at hitem
  | _ => cases hface

theorem readItems_iff {α : Type} {read : Setting → Except Refusal α} {i : Nat}
    {items : List Setting} {vs : List α} :
    readItems read i items = .ok vs ↔ List.Forall₂ (fun s v => read s = .ok v) items vs := by
  induction items generalizing i vs with
  | nil => simp [readItems, eq_comm]
  | cons s items ih =>
    rw [readItems, bind_eq_ok_iff]
    simp only [bind_eq_ok_iff, mapError_eq_ok_iff, ih, List.forall₂_cons_left_iff]
    constructor
    · rintro ⟨v, hv, vs, hvs, h⟩
      cases h
      exact ⟨v, vs, hv, hvs, rfl⟩
    · rintro ⟨v, vs, hv, hvs, rfl⟩
      exact ⟨v, hv, vs, hvs, rfl⟩

theorem EntryReads.of_alike {found found' : Option Setting} {before text : Option String}
    (h : Alike found found') (hreads : EntryReads found before text) :
    EntryReads found' before text := by
  cases found with
  | none =>
    obtain rfl := alike_none_iff.mp h
    exact hreads
  | some s =>
    cases found' with
    | none => cases alike_none_iff.mp h.symm
    | some t =>
      obtain ⟨u, hu, htext⟩ := hreads
      refine ⟨u, ?_, htext⟩
      cases s with
      | scalar value source => exact h.eq_scalar ▸ hu
      | _ => cases hu

/-- **Two settings agree**: they are alike, and no table in them has a key twice. -/
structure Agree (s t : Setting) : Prop where
  alike : Alike s t
  left : s.Tidy
  right : t.Tidy

theorem Agree.items {items : List Setting} {source : Option Source}
    (h : Agree (list items source) t) :
    ∃ items' source', t = list items' source' ∧ List.Forall₂ Agree items items' := by
  obtain ⟨items', source', rfl, hitems⟩ := h.alike.eq_list
  refine ⟨items', source', rfl, ?_⟩
  refine List.forall₂_iff_get.mpr ⟨hitems.length_eq, fun i hi hi' => ⟨?_, ?_, ?_⟩⟩
  · exact hitems.get hi hi'
  · exact h.left.item _ (List.get_mem _ _)
  · exact h.right.item _ (List.get_mem _ _)

/-- What is looked up in settings that agree agrees. -/
theorem Agree.get? (h : Agree s t) (key : String) :
    Option.Rel Agree (s.get? key) (t.get? key) := by
  have halike := h.alike.get? key
  cases hs : s.get? key with
  | none =>
    rw [hs, alike_none_iff] at halike
    rw [halike]
    exact .none
  | some s' =>
    cases ht : t.get? key with
    | none =>
      rw [hs, ht] at halike
      cases alike_none_iff.mp halike.symm
    | some t' =>
      rw [hs, ht] at halike
      exact .some ⟨halike, h.left.get? hs, h.right.get? ht⟩

/-- Only an optional value reads otherwise from a scalar. -/
theorem readAs_optional_iff {inner : Shape} {v : Option inner.Value} (h : s.isScalar = false) :
    readAs (.optional inner) s = .ok v ↔ ∃ w, readAs inner s = .ok w ∧ some w = v := by
  cases s with
  | scalar value source => cases h
  | _ =>
    rw [readAs, bind_eq_ok_iff]
    · simp only [Except.ok.injEq]
    · exact nofun

theorem Agree.isScalar (h : Agree s t) : s.isScalar = t.isScalar := by
  have hface := h.alike.face
  cases s <;> cases t <;> first | rfl | cases hface

theorem readItems_of_agree {α : Type} {read : Setting → Except Refusal α} {i : Nat}
    {items items' : List Setting} {vs : List α} (h : List.Forall₂ Agree items items')
    (hagree : ∀ {s t : Setting} {v : α}, Agree s t → read s = .ok v → read t = .ok v)
    (hread : readItems read i items = .ok vs) : readItems read i items' = .ok vs := by
  rw [readItems_iff] at hread ⊢
  induction h generalizing vs with
  | nil => exact hread
  | cons hst _ ih =>
    cases hread with
    | cons hv hvs => exact .cons (hagree hst hv) (ih hvs)

theorem FieldReads.of_agree {shape : Shape} {fallback : Option Json} {v : shape.Value}
    {found found' : Option Setting} (h : Option.Rel Agree found found')
    (hagree : ∀ {s t : Setting}, Agree s t → readAs shape s = .ok v → readAs shape t = .ok v)
    (hread : FieldReads shape fallback found v) : FieldReads shape fallback found' v := by
  cases h with
  | none => exact hread
  | some hst => exact hagree hst hread

mutual

/-- **Settings that agree read as the same value.** -/
theorem Agree.readAs : ∀ (shape : Shape) {s t : Setting} {v : shape.Value}, Agree s t →
    readAs shape s = .ok v → readAs shape t = .ok v
  | _, scalar _ _, _, _, h, hread => h.alike.eq_scalar ▸ hread
  | .optional inner, list _ _, _, _, h, hread | .optional inner, table _ _, _, _, h, hread => by
    obtain ⟨w, hw, hv⟩ := (readAs_optional_iff rfl).mp hread
    exact (readAs_optional_iff (h.isScalar ▸ rfl)).mpr ⟨w, Agree.readAs inner h hw, hv⟩
  | .list item, list items source, _, _, h, hread => by
    obtain ⟨items', source', rfl, hitems⟩ := h.items
    exact readItems_of_agree hitems (Agree.readAs item) hread
  | .dict, table entries source, _, _, h, hread => by
    obtain ⟨htable, hreads⟩ := (readAs_dict_iff h.left).mp hread
    exact (readAs_dict_iff h.right).mpr ⟨h.alike.isTable ▸ htable,
      fun key => (hreads key).of_alike (h.alike.get? key)⟩
  | .record _ fields, list items source, _, _, h, hread => by
    obtain ⟨items', source', rfl, hitems⟩ := h.items
    exact readRow_of_agree fields hitems hread
  | .record _ fields, table entries source, _, _, h, hread =>
    (readAs_record_iff (h.alike.isTable ▸ rfl)).mpr
      (fieldsRead_of_agree fields h.get? ((readAs_record_iff rfl).mp hread))

/-- Fields for which what is found agrees read as the same row. -/
theorem fieldsRead_of_agree : ∀ (fields : Fields) {find find' : String → Option Setting}
    {row : fields.Row}, (∀ key, Option.Rel Agree (find key) (find' key)) →
    FieldsRead fields find row → FieldsRead fields find' row
  | .nil, _, _, _, _, _ => trivial
  | .cons name shape _ rest, _, _, (_, _), h, hread =>
    ⟨hread.1.of_agree (h name) (Agree.readAs shape), fieldsRead_of_agree rest h hread.2⟩

theorem readRow_of_agree : ∀ (fields : Fields) {expected : String} {i : Nat}
    {items items' : List Setting} {row : fields.Row}, List.Forall₂ Agree items items' →
    readRow expected i fields items = .ok row → readRow expected i fields items' = .ok row
  | .nil, _, _, _, _, _, _, _ => rfl
  | .cons _ _ _ _, _, _, _, _, _, .nil, hread => hread
  | .cons _ shape _ rest, _, _, _, _, (v, row), .cons hst hitems, hread => by
    simp only [readRow, bind_eq_ok_iff, mapError_eq_ok_iff] at hread ⊢
    obtain ⟨w, hw, row', hrow, heq⟩ := hread
    exact ⟨w, Agree.readAs shape hst hw, row', readRow_of_agree rest hitems hrow, heq⟩

end

end CatalogFeed.Setting
