import CatalogFeed.Proofs.Dict
import CatalogFeed.Proofs.Json.Codec
import CatalogFeed.Proofs.Settings.Records
import CatalogFeed.Settings.Document

/-!
# Proofs/Settings/Codec — what is written as a document reads back as settings

A document is read as a value at once, or it is made into settings, these are laid over others, and
what then stands there is read.  A document `Loads` as a value if each of these gives the value.  To
lay a table under a new key leaves its entries as they are, if their keys are in small letters; so
documents of lists, maps and records load if their parts do.

* `loads_map`, `LoadsAll.loads`: maps, in whatever order their entries are written, and records;
* `loads_encode`: the document of a value that fits (`Fits`) loads as the value;
* `readDocument_render`, `parse_render`: texts.
-/

namespace CatalogFeed

namespace Setting

open Json (Shape Fields Whole inspect)

/-! ## Settings under a new key -/

theorem alter_of_not_mem {key : String} (f : Option Setting → Setting) :
    ∀ {entries : List (String × Setting)}, key ∉ entries.map Prod.fst →
      alter key f entries = entries ++ [(key, f none)]
  | [], _ => rfl
  | (k, s) :: rest, h => by
    rw [List.map_cons, List.mem_cons, not_or] at h
    rw [alter, if_neg (Ne.symm h.1), alter_of_not_mem f h.2, List.cons_append]

/-- **The first setting stands as the second** where it is laid under a new key in small letters. -/
def Stands (s s' : Setting) : Prop :=
  ∀ key entries source, Text.lowerCase key = key → key ∉ entries.map Prod.fst →
    place key s (table entries source) = table (entries ++ [(key, s')]) source

/-- **The first entries stand as the second** where they are laid over a table with other keys. -/
def StandAll (entries entries' : List (String × Setting)) : Prop :=
  entries'.map Prod.fst = entries.map Prod.fst ∧
    ∀ before source, (∀ key ∈ entries.map Prod.fst, key ∉ before.map Prod.fst) →
      placeAll entries (table before source) = table (before ++ entries') source

theorem Stands.of_not_isTable {s : Setting} (h : s.isTable = false) : Stands s s := by
  intro key entries source hsmall hnew
  have hplace : place key s (table entries source) =
      under (Text.lowerCase key) (fun _ => s) (table entries source) := by
    rw [place]
    rintro entries source rfl
    cases h
  rw [hplace, hsmall, under, alter_of_not_mem _ hnew]

theorem StandAll.stands {entries entries' : List (String × Setting)} (h : StandAll entries entries')
    (source : Option Source) : Stands (table entries source) (table entries' none) := by
  intro key before source' hsmall hnew
  have hover := h.2 [] none fun _ _ => nofun
  rw [place, hsmall, under, alter_of_not_mem _ hnew, Option.getD_none, emptyTable, hover,
    List.nil_append]

theorem StandAll.nil : StandAll [] [] :=
  ⟨rfl, fun before source _ => by rw [placeAll, List.append_nil]⟩

theorem StandAll.cons {key : String} {s s' : Setting} {entries entries' : List (String × Setting)}
    (hsmall : Text.lowerCase key = key) (hnew : key ∉ entries.map Prod.fst) (h : Stands s s')
    (hrest : StandAll entries entries') :
    StandAll ((key, s) :: entries) ((key, s') :: entries') := by
  refine ⟨by rw [List.map_cons, List.map_cons, hrest.1], fun before source hbefore => ?_⟩
  obtain ⟨hkey, hentries⟩ := List.forall_mem_cons.mp hbefore
  have happ := hrest.2 (before ++ [(key, s')]) source fun k hk => by
    rw [List.map_append, List.mem_append, not_or]
    refine ⟨hentries k hk, fun h => hnew ?_⟩
    rwa [← show k = key from List.mem_singleton.mp h]
  rw [placeAll, h key before source hsmall hkey, happ, List.append_assoc, List.singleton_append]

/-! ## Documents as settings -/

/-- Members of a document as entries. -/
def fileEntries (members : List (String × Json)) : List (String × Setting) :=
  members.map fun m => (m.1, ofJson .file m.2)

theorem map_fst_fileEntries (members : List (String × Json)) :
    (fileEntries members).map Prod.fst = members.map (·.1) := by
  rw [fileEntries, List.map_map]
  rfl

theorem ofMembers_keyed (before : List (String × Setting)) {members : List (String × Json)}
    (h : (before.map Prod.fst ++ members.map (·.1)).Nodup) :
    ofMembers .file before (members.map Json.Member.keyed) = before ++ fileEntries members := by
  induction members generalizing before with
  | nil => rw [List.map_nil, ofMembers, fileEntries, List.map_nil, List.append_nil]
  | cons m members ih =>
    have hnew : m.1 ∉ before.map Prod.fst := fun hm =>
      (List.nodup_append.mp h).2.2 m.1 hm m.1 List.mem_cons_self rfl
    rw [List.map_cons, ofMembers, Option.getD_some, alter_of_not_mem _ hnew,
      ih _ (by simpa using h), List.append_assoc]
    rfl

/-- An object without a key twice is a table of its members. -/
theorem ofJson_record {members : List (String × Json)} (h : (members.map (·.1)).Nodup) :
    ofJson .file (.record members) = table (fileEntries members) (some .file) := by
  have hmembers := ofMembers_keyed [] h
  rw [Json.record, ofJson]
  exact congrArg (table · (some .file)) hmembers

theorem ofItems_eq_map (source : Source) : ∀ items : List Json,
    ofItems source items = items.map (ofJson source)
  | [] => rfl
  | j :: rest => by rw [ofItems, ofItems_eq_map source rest, List.map_cons]

/-- **An integer of 64 bits with a sign is itself.** -/
theorem ofJson_int {n : Int} (hleast : -2 ^ 63 ≤ n) (hgreatest : n < 2 ^ 63) :
    ofJson .file (.int n) = scalar (.integer (Int64.ofInt n)) (some .file) := by
  rw [Json.int, ofJson, ofNumeral]
  by_cases h : n < 0
  · rw [Json.value?_int_of_neg h hleast]
  · have hcast : (n.natAbs : Int) = n := by omega
    have hmax : n ≤ Int64.maxValue.toInt := by
      change n ≤ 2 ^ 63 - 1
      omega
    rw [Json.value?_int_of_nonneg (by omega : 0 ≤ n) (by omega)]
    simp only [hcast, if_pos hmax]

/-! ## Documents that load -/

/-- **The document loads as the value**, read at once or by way of settings. -/
structure Loads (shape : Shape) (v : shape.Value) (j : Json) : Prop where
  whole : Whole j
  inspected : ∀ {room}, shape.depth ≤ room → inspect room j = .ok ()
  decodes : shape.decode .direct j = .ok v
  reads : readAs shape (ofJson .file j) = .ok v
  /-- It still reads as the value once it has been laid somewhere. -/
  stands : ∃ s, Stands (ofJson .file j) s ∧ readAs shape s = .ok v

/-- **The members load as the fields of a record**, which have different names in small letters. -/
inductive LoadsAll : (fields : Fields) → fields.Row → List (String × Json) → Prop
  | nil : LoadsAll .nil () []
  | cons {name : String} {shape : Shape} {d : Option Json} {rest : Fields}
      {v : shape.Value} {row : rest.Row} {j : Json} {members : List (String × Json)}
      (hsmall : Text.lowerCase name = name) (hnew : name ∉ rest.names) (h : Loads shape v j)
      (hrest : LoadsAll rest row members) :
      LoadsAll (.cons name shape d rest) (v, row) ((name, j) :: members)

/-- What is no table may be laid anywhere. -/
theorem Loads.of_not_isTable {shape : Shape} {v : shape.Value} {j : Json} (hwhole : Whole j)
    (hinspected : ∀ {room}, shape.depth ≤ room → inspect room j = .ok ())
    (hdecodes : shape.decode .direct j = .ok v) (hreads : readAs shape (ofJson .file j) = .ok v)
    (h : (ofJson .file j).isTable = false) : Loads shape v j :=
  ⟨hwhole, hinspected, hdecodes, hreads, _, .of_not_isTable h, hreads⟩

/-! ### Scalars -/

theorem loads_text (s : String) : Loads .text s (.text s) :=
  .of_not_isTable (.text s) (fun _ => rfl) rfl rfl rfl

theorem loads_flag (b : Bool) : Loads .flag b (.bool b) :=
  .of_not_isTable (.bool b) (fun _ => rfl) rfl rfl rfl

theorem toInt_ofInt {n : Int} (hleast : -2 ^ 63 ≤ n) (hgreatest : n < 2 ^ 63) :
    (Int64.ofInt n).toInt = n :=
  Int64.toInt_ofInt_of_le hleast hgreatest

theorem readInt64_ofInt {n : Int} (hleast : -2 ^ 63 ≤ n) (hgreatest : n < 2 ^ 63) :
    readInt64 (scalar (.integer (Int64.ofInt n)) (some .file)) = .ok n := by
  rw [readInt64, readInt, toInt_ofInt hleast hgreatest]
  exact if_pos hleast

theorem loads_int64 (n : Int64) : Loads .int64 n (.int n.toInt) := by
  have hint := ofJson_int n.le_toInt n.toInt_lt
  refine .of_not_isTable (.int _) (Shape.inspect_encode .int64 · n)
    (Shape.decode_encode .direct .int64 rfl n) ?_ (by rw [hint]; rfl)
  rw [readAs, hint, readInt64_ofInt n.le_toInt n.toInt_lt]
  exact congrArg Except.ok n.ofInt_toInt

theorem loads_int32 (n : Int32) : Loads .int32 n (.int n.toInt) := by
  have hleast : -2 ^ 63 ≤ n.toInt := by
    have := n.le_toInt
    omega
  have hgreatest : n.toInt < 2 ^ 63 := by
    have := n.toInt_lt
    omega
  have hint := ofJson_int hleast hgreatest
  refine .of_not_isTable (.int _) (Shape.inspect_encode .int32 · n)
    (Shape.decode_encode .direct .int32 rfl n) ?_ (by rw [hint]; rfl)
  have hread : readInt32 (scalar (.integer (Int64.ofInt n.toInt)) (some .file)) = .ok n.toInt := by
    rw [readInt32, readInt64_ofInt hleast hgreatest]
    exact if_pos ⟨n.minValue_le_toInt, n.toInt_le⟩
  rw [readAs, hint, hread]
  exact congrArg Except.ok n.ofInt_toInt

/-- A natural number loads if it is an integer with a sign too. -/
theorem loads_word64 {n : UInt64} (h : (n.toNat : Int) ≤ Int64.maxValue.toInt) :
    Loads .word64 n (.int n.toNat) := by
  have hgreatest : (n.toNat : Int) < 2 ^ 63 := Int.lt_of_le_sub_one h
  have hint := ofJson_int (by omega) hgreatest
  refine .of_not_isTable (.int _) (Shape.inspect_encode .word64 · n)
    (Shape.decode_encode .direct .word64 rfl n) ?_ (by rw [hint]; rfl)
  have hread : readWord64 (scalar (.integer (Int64.ofInt n.toNat)) (some .file)) =
      .ok (n.toNat : Int) := by
    rw [readWord64, readInt, toInt_ofInt (by omega) hgreatest]
    exact if_pos (by omega)
  rw [readAs, hint, hread]
  exact congrArg Except.ok UInt64.ofNat_toNat

/-! ### Optional values and lists -/

theorem loads_none (inner : Shape) : Loads (.optional inner) none .null :=
  .of_not_isTable .null (fun _ => rfl) rfl rfl rfl

/-- Only an optional value is read from a setting that is not filled. -/
theorem readAs_some {inner : Shape} (hinner : inner.isOptional = false) {v : inner.Value}
    {s : Setting} (h : readAs inner s = .ok v) : readAs (.optional inner) s = .ok (some v) := by
  cases s with
  | scalar value source =>
    cases value with
    | nil =>
      cases inner with
      | optional inner => cases hinner
      | _ => cases h
    | _ =>
      rw [readAs, h]
      · rfl
      · intro _ heq
        cases heq
  | _ =>
    rw [readAs, h]
    · rfl
    · intro _ heq
      cases heq

theorem Loads.some {inner : Shape} (hinner : inner.isOptional = false) {v : inner.Value} {j : Json}
    (h : Loads inner v j) : Loads (.optional inner) (some v) j := by
  obtain ⟨s, hstands, hs⟩ := h.stands
  exact ⟨h.whole, h.inspected, (Json.decode_some_iff hinner).mpr h.decodes,
    readAs_some hinner h.reads, s, hstands, readAs_some hinner hs⟩

theorem readItems_docs {item : Shape} {vs : List item.Value} {docs : List Json}
    (h : List.Forall₂ (Loads item) vs docs) (i : Nat) :
    readItems (readAs item) i (docs.map (ofJson .file)) = .ok vs :=
  readItems_iff.mpr (List.forall₂_map_left_iff.mpr (h.flip.imp fun _ _ hj => hj.reads))

/-- **A list loads if its items do.**  Items are laid nowhere by themselves. -/
theorem loads_list {item : Shape} {vs : List item.Value} {docs : List Json}
    (h : List.Forall₂ (Loads item) vs docs) : Loads (.list item) vs (.list docs) := by
  have hdocs : ∀ j ∈ docs, ∃ v, Loads item v j := fun j hj => by
    obtain ⟨v, -, hv⟩ := exists_of_mem_forall₂ h.flip hj
    exact ⟨v, hv⟩
  refine .of_not_isTable (.list fun j hj => ?_) ?_ ?_ ?_ rfl
  · obtain ⟨v, hv⟩ := hdocs j hj
    exact hv.whole
  · rintro (_ | room) hroom
    · exact absurd hroom (Nat.not_succ_le_zero _)
    · refine Json.inspect_array_iff.mpr ⟨room, rfl, rfl, fun j hj => ?_⟩
      obtain ⟨v, hv⟩ := hdocs j hj
      exact hv.inspected (Nat.le_of_succ_le_succ hroom)
  · exact Json.decode_list_iff.mpr ⟨docs, rfl, h.flip.imp fun _ _ hj => hj.decodes⟩
  · rw [Json.list, ofJson, ofItems_eq_map]
    exact readItems_docs h 0

/-! ### Maps -/

/-- Texts as entries. -/
def textEntries (pairs : List (String × String)) : List (String × Setting) :=
  pairs.map fun e => (e.1, scalar (.text e.2) (some .file))

theorem readEntries_textEntries (pairs : List (String × String)) (d : Dict String String) :
    readEntries d (textEntries pairs) = .ok (pairs.foldl (fun d e => d.insert e.1 e.2) d) := by
  induction pairs generalizing d with
  | nil => rfl
  | cons e pairs ih => exact readEntries_cons_iff.mpr ⟨e.2, rfl, ih (d.insert e.1 e.2)⟩

theorem standAll_textEntries {pairs : List (String × String)} (hnodup : (pairs.map (·.1)).Nodup)
    (hsmall : ∀ e ∈ pairs, Text.lowerCase e.1 = e.1) :
    StandAll (textEntries pairs) (textEntries pairs) := by
  induction pairs with
  | nil => exact .nil
  | cons e pairs ih =>
    obtain ⟨hnew, hnodup⟩ := List.nodup_cons.mp hnodup
    obtain ⟨he, hpairs⟩ := List.forall_mem_cons.mp hsmall
    refine .cons he ?_ (.of_not_isTable rfl) (ih hnodup hpairs)
    change e.1 ∉ (textEntries pairs).map Prod.fst
    rwa [textEntries, List.map_map]

/-- **A map loads in whatever order its entries are written**, if its keys are in small letters. -/
theorem loads_map {d : Dict String String} {order : List (String × String)}
    (horder : order.Perm d.entries) (hsmall : ∀ e ∈ d.entries, Text.lowerCase e.1 = e.1) :
    Loads .dict d (.record (order.map fun e => (e.1, .text e.2))) := by
  have hnodup := Dict.nodup_of_perm horder
  have hfold := Dict.ofList_of_perm horder
  have hentries : fileEntries (order.map fun e => (e.1, Json.text e.2)) = textEntries order := by
    rw [fileEntries, List.map_map]
    rfl
  have hread (source : Option Source) :
      readAs .dict (table (textEntries order) source) = .ok d := by
    rw [readAs, readEntries_textEntries, ← Dict.ofList, hfold]
  have hjson : ofJson .file (.record (order.map fun e => (e.1, .text e.2))) =
      table (textEntries order) (some .file) := by
    rw [ofJson_record (by rwa [List.map_map]), hentries]
  refine ⟨.record ?_, ?_, ?_, ?_, table (textEntries order) none, ?_, hread _⟩
  · rw [List.forall_mem_map]
    exact fun e _ => .text e.2
  · rintro (_ | room) hroom
    · exact absurd hroom (Nat.not_succ_le_zero _)
    · refine Json.inspect_object_iff.mpr ⟨room, rfl, rfl, ?_⟩
      exact List.forall_mem_map.mpr
        (List.forall_mem_map.mpr fun _ _ => ⟨Option.some_ne_none _, rfl⟩)
  · exact Json.decode_dict_iff.mpr ⟨order, rfl, hfold⟩
  · rw [hjson, hread]
  · rw [hjson]
    exact (standAll_textEntries hnodup fun e he => hsmall e (horder.mem_iff.mp he)).stands _

/-! ### Records -/

theorem fieldsRead_congr {find find' : String → Option Setting} : {fields : Fields} →
    (∀ name ∈ fields.names, find name = find' name) → {row : fields.Row} →
    FieldsRead fields find row → FieldsRead fields find' row
  | .nil, _, _, _ => trivial
  | .cons name shape fallback rest, hfind, (v, row), h => by
    obtain ⟨hname, hrest⟩ := List.forall_mem_cons.mp hfind
    exact ⟨hname ▸ h.1, fieldsRead_congr hrest h.2⟩

namespace LoadsAll

variable {fields : Fields} {row : fields.Row} {members : List (String × Json)}

theorem map_fst (h : LoadsAll fields row members) : members.map (·.1) = fields.names := by
  induction h with
  | nil => rfl
  | cons hsmall hnew hj hrest ih => rw [List.map_cons, ih, Fields.names]

theorem nodup (h : LoadsAll fields row members) : (members.map (·.1)).Nodup := by
  induction h with
  | nil => exact List.nodup_nil
  | cons hsmall hnew hj hrest ih =>
    exact List.nodup_cons.mpr ⟨by rwa [hrest.map_fst], ih⟩

theorem whole (h : LoadsAll fields row members) : ∀ m ∈ members, Whole m.2 := by
  induction h with
  | nil => exact List.forall_mem_nil _
  | cons hsmall hnew hj hrest ih => exact List.forall_mem_cons.mpr ⟨hj.whole, ih⟩

theorem inspected {room : Nat} (h : LoadsAll fields row members) (hroom : fields.depth ≤ room) :
    ∀ m ∈ members, inspect room m.2 = .ok () := by
  induction h with
  | nil => exact List.forall_mem_nil _
  | cons hsmall hnew hj hrest ih =>
    exact List.forall_mem_cons.mpr ⟨hj.inspected (Nat.le_trans (Nat.le_max_left _ _) hroom),
      ih (Nat.le_trans (Nat.le_max_right _ _) hroom)⟩

theorem tell (h : LoadsAll fields row members) :
    fields.Tell .direct (Json.under · (members.map Json.Member.keyed)) row := by
  induction h with
  | nil => trivial
  | @cons name shape fallback rest v row j members hsmall hnew hj hrest ih =>
    refine Json.tell_cons_member hnew (Json.some_not_mem_of_sublist ?_ hnew) hj.decodes ih
    rw [hrest.map_fst]

/-- An entry more for a field more. -/
theorem fieldsRead_entry {name : String} {shape : Shape} {fallback : Option Json} {rest : Fields}
    {v : shape.Value} {row : rest.Row} {s : Setting} {entries : List (String × Setting)}
    (hnew : name ∉ rest.names) (hs : readAs shape s = .ok v)
    (hrest : FieldsRead rest (lookup · entries) row) :
    FieldsRead (.cons name shape fallback rest) (lookup · ((name, s) :: entries)) (v, row) := by
  have hhead : lookup name ((name, s) :: entries) = some s := if_pos rfl
  refine ⟨?_, fieldsRead_congr (fun other hother => ?_) hrest⟩
  · change FieldReads shape fallback (lookup name ((name, s) :: entries)) v
    rw [hhead]
    exact hs
  · exact (if_neg fun heq : name = other => hnew (heq ▸ hother)).symm

/-- **The members read field by field**, as they are written and where they stand. -/
theorem exists_standAll (h : LoadsAll fields row members) :
    FieldsRead fields (lookup · (fileEntries members)) row ∧
      ∃ entries, StandAll (fileEntries members) entries ∧
        FieldsRead fields (lookup · entries) row := by
  induction h with
  | nil => exact ⟨trivial, [], .nil, trivial⟩
  | @cons name shape fallback rest v row j members hsmall hnew hj hrest ih =>
    obtain ⟨hread, entries, hentries, hstand⟩ := ih
    obtain ⟨s, hs, hv⟩ := hj.stands
    refine ⟨fieldsRead_entry hnew hj.reads hread, (name, s) :: entries, .cons hsmall ?_ hs hentries,
      fieldsRead_entry hnew hv hstand⟩
    change name ∉ (fileEntries members).map Prod.fst
    rwa [map_fst_fileEntries, hrest.map_fst]

/-- **A record loads if its members do.** -/
theorem loads (h : LoadsAll fields row members) (name : String) :
    Loads (.record name fields) row (.record members) := by
  obtain ⟨hread, entries, hentries, hstand⟩ := h.exists_standAll
  refine ⟨.record h.whole, ?_, ?_, ?_, table entries none, ?_, ?_⟩
  · rintro (_ | room) hroom
    · exact absurd hroom (Nat.not_succ_le_zero _)
    · exact Json.inspect_object_iff.mpr ⟨room, rfl, rfl, List.forall_mem_map.mpr fun m hm =>
        ⟨nofun, h.inspected (Nat.le_of_succ_le_succ hroom) m hm⟩⟩
  · refine (Json.decode_object_iff (h.map_fst ▸ h.nodup)).mpr ⟨rfl, ?_, h.tell⟩
    exact List.forall_mem_map.mpr fun m hm => ⟨nofun, (h.whole m hm).flaw?⟩
  · rw [ofJson_record h.nodup]
    exact (readAs_record_iff rfl).mpr hread
  · rw [ofJson_record h.nodup]
    exact hentries.stands _
  · exact (readAs_record_iff rfl).mpr hstand

end LoadsAll

/-! ## Values that fit -/

mutual

/-- **The value fits a file of settings**: no natural number in it is too great for an integer with
a sign, and all keys are in small letters. -/
def Fits : (shape : Shape) → shape.Value → Prop
  | .word64, n => (n.toNat : Int) ≤ Int64.maxValue.toInt
  | .optional inner, v => ∀ w ∈ v, Fits inner w
  | .list item, vs => ∀ v ∈ vs, Fits item v
  | .dict, d => ∀ e ∈ d.entries, Text.lowerCase e.1 = e.1
  | .record _ fields, row => FieldsFit fields row
  | .text, _ | .flag, _ | .int32, _ | .int64, _ => True

/-- The same of the fields of a record. -/
def FieldsFit : (fields : Fields) → fields.Row → Prop
  | .nil, _ => True
  | .cons name shape _ rest, (v, row) =>
    Text.lowerCase name = name ∧ Fits shape v ∧ FieldsFit rest row

end

mutual

/-- **The document of a value that fits loads as the value.** -/
theorem loads_encode : (shape : Shape) → shape.sound = true → (v : shape.Value) → Fits shape v →
    Loads shape v (shape.encode v)
  | .text, _, s, _ => loads_text s
  | .flag, _, b, _ => loads_flag b
  | .int32, _, n, _ => loads_int32 n
  | .int64, _, n, _ => loads_int64 n
  | .word64, _, n, h => loads_word64 h
  | .optional inner, _, none, _ => loads_none inner
  | .optional inner, hsound, some v, h => by
    simp only [Shape.sound, Bool.and_eq_true, Bool.not_eq_true'] at hsound
    exact (loads_encode inner hsound.2 v (h v rfl)).some hsound.1
  | .list item, hsound, vs, h =>
    loads_list (List.forall₂_map_right_iff.mpr (List.forall₂_same.mpr fun v hv =>
      loads_encode item hsound v (h v hv)))
  | .dict, _, d, h => loads_map (.refl _) h
  | .record name fields, hsound, row, h =>
    (loadsAll_encodeMembers fields hsound row h).loads name

theorem loadsAll_encodeMembers : (fields : Fields) → fields.sound = true → (row : fields.Row) →
    FieldsFit fields row → LoadsAll fields row (fields.encodeMembers row)
  | .nil, _, (), _ => .nil
  | .cons name shape fallback rest, hsound, (v, row), ⟨hsmall, hv, hrow⟩ => by
    simp only [Fields.sound, Bool.and_eq_true, Bool.not_eq_true', List.contains_eq_mem,
      decide_eq_false_iff_not] at hsound
    obtain ⟨⟨hnew, hshape⟩, hrest⟩ := hsound
    exact .cons hsmall hnew (loads_encode shape hshape v hv)
      (loadsAll_encodeMembers rest hrest row hrow)

end

/-! ## Texts -/

section Texts

variable {fields : Fields} {row : fields.Row} {members : List (String × Json)}

/-- **The entries of a text are the members of its object.** -/
theorem readDocument_render (h : LoadsAll fields row members)
    (hdepth : fields.depth < Json.maxDepth) :
    readDocument (Json.record members).render = some (fileEntries members) := by
  have hloads := h.loads ""
  rw [readDocument, hloads.whole.read_render]
  simp only [hloads.inspected hdepth, ofJson_record h.nodup]

/-- **The text of a document that loads is parsed as the value.** -/
theorem parse_render {shape : Shape} {v : shape.Value} {j : Json} (h : Loads shape v j) :
    shape.parse j.render = .ok v := by
  rw [Shape.parse, h.whole.read_render]
  simp only [h.decodes, if_true]
  rfl

end Texts

end Setting
end CatalogFeed
