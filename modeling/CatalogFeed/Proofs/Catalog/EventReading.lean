import CatalogFeed.Catalog.EventJson
import CatalogFeed.Proofs.Json.Inspection

/-!
# Proofs/Catalog/EventReading — what is asked of the document of an event

An event is read in three passes: the status is taken out and the rest put aside, then the kind is
taken out, then the members of that kind are read.  What all this asks of the document is said here
member by member, without the order.

* `CatalogEvent.decode_object_iff`: the object of an event;
* `CatalogEvent.exists_of_decode`: nothing else is an event;
* `CatalogEvent.held_of_decode`: what is an event may be put aside as a whole.
-/

namespace CatalogFeed

open Json

theorem kindMember_ne_statusMember : kindMember ≠ statusMember := by decide

namespace ChangeKind

theorem statusMember_not_mem_names (kind : ChangeKind) : statusMember ∉ kind.fields.names := by
  cases kind <;> decide

theorem kindMember_not_mem_names (kind : ChangeKind) : kindMember ∉ kind.fields.names := by
  cases kind <;> decide

@[simp] theorem kind_changeOfRow (kind : ChangeKind) (row : kind.fields.Row) :
    (kind.changeOfRow row).kind = kind := by
  cases kind <;> rfl

theorem nodup_names (kind : ChangeKind) : kind.fields.names.Nodup := by
  cases kind <;> decide

end ChangeKind

/-! ## Members put aside -/

/-- The members whose names are text. -/
def named (members : List (Option String × Json)) : List (String × Json) :=
  members.filterMap fun m => m.1.map (·, m.2)

/-- The members that are not called this. -/
def without (name : String) (members : List (Option String × Json)) :
    List (Option String × Json) :=
  members.filter (·.1 ≠ some name)

section Aside

variable {name : String} {members : List (Option String × Json)}

theorem mem_named_iff {m : String × Json} : m ∈ named members ↔ (some m.1, m.2) ∈ members := by
  simp only [named, List.mem_filterMap, Option.map_eq_some_iff]
  constructor
  · rintro ⟨⟨_, j⟩, hm, key, rfl, rfl⟩
    exact hm
  · exact fun h => ⟨_, h, m.1, rfl, rfl⟩

/-- What stands under a name does not depend on members without one. -/
theorem under_named : under name ((named members).map fun m => (some m.1, m.2)) =
    under name members := by
  induction members with
  | nil => rfl
  | cons m members ih =>
    obtain ⟨key, j⟩ := m
    cases key with
    | none => simpa [named, under] using ih
    | some key =>
      by_cases h : key = name <;> simpa [named, under, h] using ih

theorem under_without {other : String} (h : name ≠ other) :
    under name (without other members) = under name members := by
  rw [under, without, List.filter_filter]
  congr 2
  funext m
  by_cases hm : m.1 = some name <;> simp [hm, h]

theorem filter_named : (named members).filter (·.1 ≠ name) = named (without name members) := by
  simp only [named, without, List.filter_filterMap, List.filterMap_filter]
  congr 1
  funext m
  obtain ⟨key, j⟩ := m
  cases key <;> simp [Option.filter]

end Aside

/-! ## The passes -/

/-- The member has a name that is text, and unless it is the status, its value may be put aside. -/
def Storable (m : Option String × Json) : Prop :=
  m.1 ≠ none ∧ (m.1 ≠ some statusMember → Held (maxDepth - 1) m.2)

/-- What may be read once is read into a free slot. -/
theorem once_eq_ok_iff {α β : Type} {read : Json → Except Problem α} {slot : Option α}
    {twice : Problem} {next : α → Except Problem β} {j : Json} {b : β} :
    (do
      if slot.isSome then Except.error twice
      let a ← read j
      next a) = .ok b ↔ slot = none ∧ ∃ a, read j = .ok a ∧ next a = .ok b := by
  cases slot with
  | none => simp [bind_eq_ok_iff]
  | some _ => simp [bind, Except.bind]

section Passes

variable {status status' : Option Bool} {kind kind' : Option ChangeKind}

/-- **The status is read and the rest put aside**, if all of it may be. -/
theorem setAside_eq_ok_iff {members : List (Option String × Json)} {kept : List (String × Json)} :
    setAside status members = .ok (status', kept) ↔ (∀ m ∈ members, Storable m) ∧
      Fills decodeFlag status (under statusMember members) status' ∧
      kept = named (without statusMember members) := by
  induction members generalizing status kept with
  | nil => simp [setAside, fills_nil_iff, named, without, eq_comm]
  | cons m members ih =>
    obtain ⟨key, j⟩ := m
    rw [List.forall_mem_cons]
    cases key with
    | none => simp [setAside, checkKey, Storable, bind, Except.bind]
    | some key =>
      rw [setAside, bind_eq_ok_iff]
      simp only [checkKey_eq_ok_iff, Option.some.injEq, exists_eq_left']
      by_cases hkey : key = statusMember
      · subst hkey
        have hkept : without statusMember ((some statusMember, j) :: members) =
            without statusMember members := List.filter_cons_of_neg (by simp)
        have hstorable : Storable (some statusMember, j) :=
          ⟨Option.some_ne_none _, fun h => absurd rfl h⟩
        rw [if_pos rfl, under_cons_self, hkept, once_eq_ok_iff, fills_cons_iff]
        simp only [ih]
        constructor
        · rintro ⟨hfree, b, hb, hmembers, hfills, rfl⟩
          exact ⟨⟨hstorable, hmembers⟩, ⟨hfree, b, hb, hfills⟩, rfl⟩
        · rintro ⟨⟨-, hmembers⟩, ⟨hfree, b, hb, hfills⟩, rfl⟩
          exact ⟨hfree, b, hb, hmembers, hfills, rfl⟩
      · have hkept : named (without statusMember ((some key, j) :: members)) =
            (key, j) :: named (without statusMember members) := by
          simp [named, without, hkey]
        have hstorable : Storable (some key, j) ↔ Held (maxDepth - 1) j := by
          simp [Storable, hkey]
        rw [if_neg hkey, under_cons_of_ne hkey, hkept, check_bind_eq_ok_iff, inspect_eq_ok_iff,
          hstorable]
        simp only [bind_eq_ok_iff, Prod.exists]
        constructor
        · rintro ⟨hj, status'', kept', hrest, h⟩
          cases h
          obtain ⟨hmembers, hfills, rfl⟩ := ih.mp hrest
          exact ⟨⟨hj, hmembers⟩, hfills, rfl⟩
        · rintro ⟨⟨hj, hmembers⟩, hfills, rfl⟩
          exact ⟨hj, status', _, ih.mpr ⟨hmembers, hfills, rfl⟩, rfl⟩

/-- **The kind is taken out of what was put aside.** -/
theorem takeKind_eq_ok_iff {members kept : List (String × Json)} :
    takeKind kind members = .ok (kind', kept) ↔
      Fills decodeKind kind (under kindMember (members.map fun m => (some m.1, m.2))) kind' ∧
      kept = members.filter (·.1 ≠ kindMember) := by
  induction members generalizing kind kept with
  | nil => simp [takeKind, fills_nil_iff, eq_comm]
  | cons m members ih =>
    obtain ⟨key, j⟩ := m
    rw [takeKind, List.map_cons]
    by_cases hkey : key = kindMember
    · subst hkey
      rw [if_pos rfl, under_cons_self, List.filter_cons_of_neg (by simp), once_eq_ok_iff,
        fills_cons_iff]
      simp only [ih]
      constructor
      · rintro ⟨hfree, k, hk, hfills, rfl⟩
        exact ⟨⟨hfree, k, hk, hfills⟩, rfl⟩
      · rintro ⟨⟨hfree, k, hk, hfills⟩, rfl⟩
        exact ⟨hfree, k, hk, hfills, rfl⟩
    · rw [if_neg hkey, under_cons_of_ne hkey, List.filter_cons_of_pos (by simpa using hkey)]
      simp only [bind_eq_ok_iff, Prod.exists]
      constructor
      · rintro ⟨kind'', kept', hrest, h⟩
        cases h
        obtain ⟨hfills, rfl⟩ := ih.mp hrest
        exact ⟨hfills, rfl⟩
      · rintro ⟨hfills, rfl⟩
        exact ⟨kind', _, ih.mpr ⟨hfills, rfl⟩, rfl⟩

end Passes

/-! ## Events -/

namespace CatalogEvent

/-- **What an object must be to be an event**: its members may be put aside, one at most is the
status, one names the kind, and what is under the names of that kind settles its members. -/
structure Tells (members : List (Option String × Json)) (e : CatalogEvent) : Prop where
  storable : ∀ m ∈ members, Storable m
  status : Shape.flag.Settles .direct (some (.bool true)) (under statusMember members) e.status
  kind : ∃ kind row, (∃ j, under kindMember members = [j] ∧ decodeKind j = .ok kind) ∧
    kind.fields.Tell .buffered (under · members) row ∧ e.change = kind.changeOfRow row

theorem exists_of_decode {j : Json} {e : CatalogEvent} (h : decode j = .ok e) :
    ∃ members, j = .object members none := by
  rw [decode.eq_def] at h
  split at h
  · next members cut =>
    simp only [bind_eq_ok_iff, checkCut_eq_ok_iff] at h
    obtain ⟨_, -, _, rfl, -⟩ := h
    exact ⟨members, rfl⟩
  · exact absurd h (refuse_ne_ok _ _ _)

section Object

variable {members : List (Option String × Json)}

/-- What was put aside is legible. -/
theorem legible_kept (h : ∀ m ∈ members, Storable m) :
    ∀ m ∈ (named (without kindMember (without statusMember members))).map
      (fun m => (some m.1, m.2)), Legible m := by
  refine List.forall_mem_map.mpr fun m hm => ⟨Option.some_ne_none _, ?_⟩
  have hmem := mem_named_iff.mp hm
  simp only [without, List.mem_filter, decide_eq_true_eq] at hmem
  exact ((h _ hmem.1.1).2 hmem.1.2).flaw?

/-- **What was put aside is read as the members of the kind**, as if nothing had been taken out. -/
theorem decode_kept_iff (h : ∀ m ∈ members, Storable m) {kind : ChangeKind}
    {row : kind.fields.Row} :
    (Shape.record kindMember kind.fields).decode .buffered
        (.record (named (without kindMember (without statusMember members)))) = .ok row ↔
      kind.fields.Tell .buffered (under · members) row := by
  have hunder : ∀ name ∈ kind.fields.names,
      under name ((named (without kindMember (without statusMember members))).map
        fun m => (some m.1, m.2)) = under name members := by
    intro name hname
    have hkind : name ≠ kindMember := fun heq => kind.kindMember_not_mem_names (heq ▸ hname)
    have hstatus : name ≠ statusMember := fun heq => kind.statusMember_not_mem_names (heq ▸ hname)
    rw [under_named, under_without hkind, under_without hstatus]
  rw [record, Json.decode_object_iff kind.nodup_names]
  constructor
  · rintro ⟨-, -, htell⟩
    exact htell.congr fun name hname => (hunder name hname).symm
  · intro htell
    exact ⟨rfl, legible_kept h, htell.congr hunder⟩

theorem settles_status_iff {found : List Json} {b : Bool} :
    Shape.flag.Settles .direct (some (.bool true)) found b ↔
      ∃ status : Option Bool, Fills decodeFlag none found status ∧ status.getD true = b := by
  rw [settles_iff]
  refine exists_congr fun status => and_congr_right fun _ => ?_
  cases status <;> simp [Shape.decode, decodeFlag]

/-- **An object is read as the event that it tells.** -/
theorem decode_object_iff {e : CatalogEvent} :
    decode (.object members none) = .ok e ↔ e.Tells members := by
  simp only [decode, bind_eq_ok_iff, Prod.exists]
  constructor
  · rintro ⟨status, kept, haside, -, -, kind, kept', htake, h⟩
    obtain ⟨hstorable, hstatus, rfl⟩ := setAside_eq_ok_iff.mp haside
    obtain ⟨hkind, rfl⟩ := takeKind_eq_ok_iff.mp htake
    rw [under_named, under_without kindMember_ne_statusMember] at hkind
    rw [filter_named] at h
    cases kind with
    | none => cases h
    | some kind =>
      obtain ⟨row, hrow, h⟩ := bind_eq_ok_iff.mp h
      cases h
      exact ⟨hstorable, settles_status_iff.mpr ⟨status, hstatus, rfl⟩, kind, row,
        fills_none_iff.mp hkind, (decode_kept_iff hstorable).mp hrow, rfl⟩
  · rintro ⟨hstorable, hstatus, kind, row, hkind, hrow, hchange⟩
    obtain ⟨status, hstatus, hsettled⟩ := settles_status_iff.mp hstatus
    refine ⟨status, _, setAside_eq_ok_iff.mpr ⟨hstorable, hstatus, rfl⟩, (), rfl, some kind, _,
      takeKind_eq_ok_iff.mpr ⟨?_, rfl⟩, ?_⟩
    · rw [under_named, under_without kindMember_ne_statusMember]
      exact fills_none_iff.mpr hkind
    · rw [filter_named]
      refine bind_eq_ok_iff.mpr ⟨row, (decode_kept_iff hstorable).mpr hrow, ?_⟩
      rw [hsettled, ← hchange]

end Object

/-- **The document of an event may be put aside** as a whole, its status too, for that is a truth
value. -/
theorem held_of_decode {j : Json} {e : CatalogEvent} (h : decode j = .ok e) : Held maxDepth j := by
  obtain ⟨members, rfl⟩ := exists_of_decode h
  obtain ⟨hstorable, hstatus, -⟩ := decode_object_iff.mp h
  refine held_object_iff.mpr fun m hm => ⟨(hstorable m hm).1, ?_⟩
  by_cases hname : m.1 = some statusMember
  · have hfound : m.2 ∈ under statusMember members :=
      List.mem_map_of_mem (List.mem_filter.mpr ⟨hm, decide_eq_true hname⟩)
    have hflag := settles_of_mem hstatus hfound
    rw [Shape.decode, decodeFlag_eq_ok_iff] at hflag
    rw [hflag]
    exact .bool _ _
  · exact (hstorable m hm).2 hname

end CatalogEvent
end CatalogFeed
