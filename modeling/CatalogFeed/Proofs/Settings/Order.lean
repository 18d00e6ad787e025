import CatalogFeed.Proofs.Settings.Layers
import Mathlib.Logic.Relation

/-!
# Proofs/Settings/Order — the order in which entries are laid

Two trees are alike if the same is seen at every place in them (`Alike`); neither the order in which
a table has its entries is seen, nor where it was written.  Entries with different keys can be
laid in any order, and so can settings whose paths part.

* `assignFrom_comm`: settings whose paths part may be laid in either order;
* `alike_assignAll_of_perm`, `alike_placeAll_of_perm`: and so may many of them;
* `Shuffle.laidAlike`: so a tree with the entries of a table in another order is laid alike.
-/

namespace CatalogFeed.Setting

/-! ## What is seen of a tree -/

/-- A place in a setting: under a key of a table, or in a list. -/
inductive Place where
  | key (name : String)
  | item (i : Nat)

/-- What is seen of a setting that is not looked into. -/
inductive Face where
  | scalar (value : Scalar) (source : Option Source)
  | list
  | table

def face : Setting → Face
  | scalar value source => .scalar value source
  | list _ _ => .list
  | table _ _ => .table

/-- The setting at a place. -/
def at? : Place → Setting → Option Setting
  | .key name, s => s.get? name
  | .item i, list items _ => items[i]?
  | .item _, _ => none

/-- The setting at the end of a chain of places. -/
def seek : List Place → Setting → Option Setting
  | [], s => some s
  | place :: path, s => (s.at? place).bind (seek path)

/-- **Two settings are alike**, which may both be missing: the same is seen at every place. -/
def Alike (s t : Option Setting) : Prop :=
  ∀ path, (s.bind (seek path)).map face = (t.bind (seek path)).map face

variable {key other : String} {f g : Option Setting → Setting} {s t v w target : Setting}
  {a b c : Option Setting}

namespace Alike

@[refl] theorem refl (a : Option Setting) : Alike a a := fun _ => rfl

theorem of_eq (h : a = b) : Alike a b := h ▸ refl a

@[symm] theorem symm (h : Alike a b) : Alike b a := fun path => (h path).symm

theorem trans (h : Alike a b) (h' : Alike b c) : Alike a c := fun path => (h path).trans (h' path)

end Alike

/-- Settings are alike if they are by themselves, and at each place in them. -/
theorem alike_some_iff :
    Alike s t ↔ s.face = t.face ∧ ∀ place, Alike (s.at? place) (t.at? place) := by
  constructor
  · exact fun h => ⟨Option.some.inj (h []), fun place path => h (place :: path)⟩
  · rintro ⟨hface, hplaces⟩ (_ | ⟨place, path⟩)
    · exact congrArg some hface
    · exact hplaces place path

theorem alike_none_iff : Alike none a ↔ a = none := by
  constructor
  · intro h
    cases a with
    | none => rfl
    | some s => cases h []
  · rintro rfl
    rfl

namespace Alike

theorem face (h : Alike s t) : s.face = t.face := (alike_some_iff.mp h).1

theorem at? (h : Alike s t) (place : Place) : Alike (s.at? place) (t.at? place) :=
  (alike_some_iff.mp h).2 place

theorem get? (h : Alike s t) (key : String) : Alike (s.get? key) (t.get? key) := h.at? (.key key)

theorem getD (h : Alike a b) (fallback : Setting) : Alike (a.getD fallback) (b.getD fallback) := by
  cases a with
  | none =>
    obtain rfl := alike_none_iff.mp h
    rfl
  | some s =>
    cases b with
    | none => cases alike_none_iff.mp h.symm
    | some t => exact h

theorem isTable (h : Alike s t) : s.isTable = t.isTable := by
  have hface := h.face
  cases s <;> cases t <;> first | rfl | cases hface

end Alike

/-- Tables are alike if they are under each key. -/
theorem alike_of_isTable (hs : s.isTable = true) (ht : t.isTable = true)
    (h : ∀ key, Alike (s.get? key) (t.get? key)) : Alike s t := by
  cases s with
  | table entries source =>
    cases t with
    | table entries' source' =>
      refine alike_some_iff.mpr ⟨rfl, fun place => ?_⟩
      cases place with
      | key name => exact h name
      | item i => rfl
    | _ => cases ht
  | _ => cases hs

theorem alike_list {items items' : List Setting} {source source' : Option Source}
    (h : ∀ i : Nat, Alike items[i]? items'[i]?) : Alike (list items source) (list items' source') :=
  alike_some_iff.mpr ⟨rfl, fun
    | .key _ => .refl none
    | .item i => h i⟩

theorem length_eq_of_alike {items items' : List Setting}
    (h : ∀ i : Nat, Alike items[i]? items'[i]?) : items.length = items'.length := by
  have hnone (i : Nat) : items[i]? = none ↔ items'[i]? = none := by
    constructor <;> intro hi
    · exact alike_none_iff.mp (hi ▸ h i)
    · exact alike_none_iff.mp (hi ▸ (h i).symm)
  simp only [List.getElem?_eq_none_iff] at hnone
  exact Nat.le_antisymm ((hnone _).mpr (Nat.le_refl _)) ((hnone _).mp (Nat.le_refl _))

/-! ## Changes under a key -/

/-- **Changes under a key are alike** if what they make of it is, and all else was. -/
theorem Alike.under (hs : ∀ other ≠ key, Alike (s.get? other) (t.get? other))
    (h : Alike (f (s.get? key)) (g (t.get? key))) : Alike (under key f s) (under key g t) := by
  refine alike_of_isTable (isTable_under _ _ _) (isTable_under _ _ _) fun other => ?_
  by_cases hother : other = key
  · rw [hother, get?_under_self, get?_under_self]
    exact h
  · rw [get?_under_of_ne hother, get?_under_of_ne hother]
    exact hs other hother

/-- Changes under different keys may be made in either order. -/
theorem under_comm (hne : key ≠ other) (f g : Option Setting → Setting) (s : Setting) :
    Alike (under key f (under other g s)) (under other g (under key f s)) := by
  refine alike_of_isTable (isTable_under _ _ _) (isTable_under _ _ _) fun name => ?_
  by_cases hkey : name = key
  · rw [hkey, get?_under_self, get?_under_of_ne hne, get?_under_of_ne hne, get?_under_self]
  · by_cases hother : name = other
    · rw [hother, get?_under_self, get?_under_of_ne hne.symm, get?_under_of_ne hne.symm,
        get?_under_self]
    · rw [get?_under_of_ne hkey, get?_under_of_ne hother, get?_under_of_ne hother,
        get?_under_of_ne hkey]

/-- Two changes under one key are one change. -/
theorem under_under (key : String) (f g : Option Setting → Setting) (s : Setting) :
    Alike (under key f (under key g s)) (under key (fun there => f (some (g there))) s) := by
  refine alike_of_isTable (isTable_under _ _ _) (isTable_under _ _ _) fun name => ?_
  by_cases hname : name = key
  · rw [hname, get?_under_self, get?_under_self, get?_under_self]
  · rw [get?_under_of_ne hname, get?_under_of_ne hname, get?_under_of_ne hname]

/-! ## Changes in a list -/

theorem getElem?_atPosition (n : Nat) (f : Setting → Setting) (items : List Setting) (i : Nat) :
    (atPosition n f items)[i]? =
      if i = n then some (f (items[i]?.getD unset))
      else if i < n then some (items[i]?.getD unset) else items[i]? := by
  rw [atPosition, List.getElem?_modify, List.getElem?_append, List.getElem?_replicate]
  by_cases hlength : i < items.length
  · simp only [hlength, if_true, List.getElem?_eq_getElem]
    split_ifs <;> first | rfl | omega
  · rw [if_neg hlength, List.getElem?_eq_none (Nat.le_of_not_lt hlength)]
    split_ifs <;> first | rfl | omega

theorem alike_atPosition {f g : Setting → Setting} {items items' : List Setting}
    (hitems : ∀ i : Nat, Alike items[i]? items'[i]?)
    (h : ∀ {s t : Setting}, Alike s t → Alike (f s) (g t)) (n i : Nat) :
    Alike (atPosition n f items)[i]? (atPosition n g items')[i]? := by
  rw [getElem?_atPosition, getElem?_atPosition]
  split_ifs
  · exact h ((hitems i).getD unset)
  · exact (hitems i).getD unset
  · exact hitems i

/-- **Changes in a list are alike** if what they make of an item is. -/
theorem Alike.within (i : Int) {f g : Setting → Setting} (hs : Alike s t)
    (h : ∀ {s t : Setting}, Alike s t → Alike (f s) (g t)) :
    Alike (within i f s) (within i g t) := by
  have hnone (n : Nat) : Alike (list (atPosition n f []) none) (list (atPosition n g []) none) :=
    alike_list (alike_atPosition (fun _ => .refl none) h n)
  have hface := hs.face
  cases s with
  | list items source =>
    cases t with
    | list items' source' =>
      have hplaces (i : Nat) : Alike items[i]? items'[i]? := hs.at? (.item i)
      rw [Setting.within, Setting.within, length_eq_of_alike hplaces]
      exact alike_list (alike_atPosition hplaces h _)
    | _ => cases hface
  | scalar value source =>
    cases t with
    | scalar value' source' => exact hnone _
    | _ => cases hface
  | table entries source =>
    cases t with
    | table entries' source' => exact hnone _
    | _ => cases hface

/-! ## Settings that are laid alike -/

/-- What comes to stand where a setting is laid. -/
def placed : Setting → Option Setting → Setting
  | table entries _, there => placeAll entries (there.getD emptyTable)
  | s, _ => s

theorem place_eq_under (key : String) (s target : Setting) :
    place key s target = under (Text.lowerCase key) (placed s) target := by
  cases s with
  | table entries source => rw [place]; rfl
  | scalar value source => exact place_scalar key value source target
  | list items source =>
    rw [place]
    · rfl
    · intro _ _ h
      cases h

/-- **Two settings are laid alike**: they are, and so is what comes to stand where they are laid. -/
structure LaidAlike (v w : Setting) : Prop where
  raw : Alike v w
  placed {a b : Option Setting} (h : Alike a b) : Alike (v.placed a) (w.placed b)

theorem LaidAlike.place (h : LaidAlike v w) (key : String) (ht : Alike s t) :
    Alike (place key v s) (place key w t) := by
  rw [place_eq_under, place_eq_under]
  exact .under (fun other _ => ht.get? other) (h.placed (ht.get? _))

mutual

/-- What is laid over trees that are alike leaves them alike. -/
theorem alike_placed : ∀ (s : Setting) {a b : Option Setting}, Alike a b →
    Alike (placed s a) (placed s b)
  | table entries _, _, _, h => alike_placeAll entries (h.getD emptyTable)
  | list _ _, _, _, _ => .refl _
  | scalar _ _, _, _, _ => .refl _

theorem alike_placeAll : ∀ (entries : List (String × Setting)) {s t : Setting}, Alike s t →
    Alike (placeAll entries s) (placeAll entries t)
  | [], _, _, h => h
  | (key, s) :: rest, _, _, h =>
    alike_placeAll rest (LaidAlike.place ⟨.refl s, alike_placed s⟩ key h)

end

@[refl] theorem LaidAlike.refl (v : Setting) : LaidAlike v v := ⟨.refl v, alike_placed v⟩

namespace LaidAlike

mutual

/-- **What is laid alike over trees that are alike leaves them alike**, at the end of any path. -/
theorem assignFrom (h : LaidAlike v w) : ∀ (name : String) (steps : List Step) {s t : Setting},
    Alike s t → Alike (assignFrom v name steps s) (assignFrom w name steps t)
  | name, [], _, _, ht => h.place name ht
  | _, .key next :: steps, _, _, ht =>
    .under (fun other _ => ht.get? other) (assignFrom h next steps ((ht.get? _).getD unset))
  | _, .index i :: steps, _, _, ht =>
    .under (fun other _ => ht.get? other) (assignWithin h i steps ((ht.get? _).getD unset))

theorem assignWithin (h : LaidAlike v w) : ∀ (i : Int) (steps : List Step) {s t : Setting},
    Alike s t → Alike (assignFrom.assignWithin v i steps s) (assignFrom.assignWithin w i steps t)
  | i, [], _, _, ht => ht.within i fun _ => h.raw
  | i, .key next :: steps, _, _, ht => ht.within i (assignFrom h next steps)
  | i, .index j :: steps, _, _, ht => ht.within i (assignWithin h j steps)

end

theorem assign (h : LaidAlike v w) (path : Path) (ht : Alike s t) :
    Alike (assign path v s) (assign path w t) := h.assignFrom path.head path.steps ht

end LaidAlike

/-- Layers laid over trees that are alike leave them alike. -/
theorem Alike.assignAll (layer : List (Path × Setting)) (h : Alike s t) :
    Alike (assignAll layer s) (assignAll layer t) := by
  induction layer generalizing s t with
  | nil => exact h
  | cons entry layer ih => exact ih ((LaidAlike.refl entry.2).assign entry.1 h)

/-! ## Paths that part -/

/-- The keys at the beginning of steps, in small letters. -/
def leadingKeys : List Step → List String
  | .key name :: steps => Text.lowerCase name :: leadingKeys steps
  | _ => []

/-- The keys at the beginning of a path, in small letters. -/
def Path.chain (path : Path) : List String := Text.lowerCase path.head :: leadingKeys path.steps

theorem Diverge.symm {p q : List String} (h : Diverge p q) : Diverge q p := by
  induction h with
  | here p q hne => exact .here q p hne.symm
  | there key _ ih => exact .there key ih

/-- What comes to stand under the first key of a path. -/
def assigned (value : Setting) : List Step → Option Setting → Setting
  | [], there => placed value there
  | .key next :: steps, there => assignFrom value next steps (there.getD unset)
  | .index i :: steps, there => assignFrom.assignWithin value i steps (there.getD unset)

theorem assignFrom_eq_under (value : Setting) (name : String) (steps : List Step)
    (target : Setting) : assignFrom value name steps target =
      under (Text.lowerCase name) (assigned value steps) target := by
  cases steps with
  | nil => exact place_eq_under name value target
  | cons step steps => cases step <;> rfl

/-- **Settings whose paths part may be laid in either order.** -/
theorem assignFrom_comm (v w : Setting) : ∀ (name name' : String) (steps steps' : List Step)
    (target : Setting), Diverge (Path.chain ⟨name, steps⟩) (Path.chain ⟨name', steps'⟩) →
    Alike (assignFrom v name steps (assignFrom w name' steps' target))
      (assignFrom w name' steps' (assignFrom v name steps target))
  | name, name', steps, steps', target, h => by
    simp only [assignFrom_eq_under v name, assignFrom_eq_under w name']
    rw [Path.chain, Path.chain] at h
    generalize hkey : Text.lowerCase name = key at h ⊢
    generalize hother : Text.lowerCase name' = other at h ⊢
    cases h with
    | here _ _ hne => exact under_comm hne _ _ target
    | there _ h =>
      -- Both go on below the same key, for two chains that part have a first key.
      refine (under_under _ _ _ target).trans (.trans ?_ (under_under _ _ _ target).symm)
      refine .under (fun _ _ => .refl _) ?_
      match steps, steps', h with
      | .key next :: steps, .key next' :: steps', h =>
        exact assignFrom_comm v w next next' steps steps' _ h

theorem alike_assign_comm {e e' : Path × Setting} (h : Diverge e.1.chain e'.1.chain)
    (target : Setting) : Alike (assign e.1 e.2 (assign e'.1 e'.2 target))
      (assign e'.1 e'.2 (assign e.1 e.2 target)) :=
  assignFrom_comm e.2 e'.2 _ _ _ _ target h

/-- **Settings whose paths part may be laid in any order.** -/
theorem alike_assignAll_of_perm {layer order : List (Path × Setting)} (h : layer.Perm order)
    (hpart : layer.Pairwise fun e e' => Diverge e.1.chain e'.1.chain) (target : Setting) :
    Alike (assignAll layer target) (assignAll order target) := by
  induction h generalizing target with
  | nil => rfl
  | cons e _ ih => exact ih (List.pairwise_cons.mp hpart).2 _
  | swap e e' rest =>
    have he := (List.pairwise_cons.mp hpart).1 e List.mem_cons_self
    exact (alike_assign_comm he.symm target).assignAll rest
  | trans h _ ih ih' =>
    exact (ih hpart target).trans (ih' (h.pairwise hpart Diverge.symm) target)

/-- Entries are laid like settings at paths of one key. -/
theorem placeAll_eq_assignAll (entries : List (String × Setting)) (target : Setting) :
    placeAll entries target = assignAll (entries.map fun e => (⟨e.1, []⟩, e.2)) target := by
  induction entries generalizing target with
  | nil => rfl
  | cons e entries ih => exact ih _

/-- **Entries whose keys differ, however they are spelled, may be laid in any order.** -/
theorem alike_placeAll_of_perm {entries order : List (String × Setting)} (h : entries.Perm order)
    (hkeys : entries.Pairwise fun e e' => Text.lowerCase e.1 ≠ Text.lowerCase e'.1)
    (target : Setting) : Alike (placeAll entries target) (placeAll order target) := by
  rw [placeAll_eq_assignAll, placeAll_eq_assignAll]
  refine alike_assignAll_of_perm (h.map _) (List.pairwise_map.mpr (hkeys.imp fun hne => ?_)) target
  exact .here _ _ hne

/-! ## Trees with their entries in another order -/

/-- **One table in the tree has its entries in another order.** -/
inductive Shuffle : Setting → Setting → Prop where
  | entries {entries order : List (String × Setting)} (source : Option Source)
      (h : entries.Perm order) : Shuffle (table entries source) (table order source)
  /-- The table is inside the value of an entry. -/
  | value (before after : List (String × Setting)) (key : String) (source : Option Source)
      {s t : Setting} (h : Shuffle s t) :
      Shuffle (table (before ++ (key, s) :: after) source)
        (table (before ++ (key, t) :: after) source)
  /-- The table is inside an item of a list. -/
  | item (before after : List Setting) (source : Option Source) {s t : Setting}
      (h : Shuffle s t) :
      Shuffle (list (before ++ s :: after) source) (list (before ++ t :: after) source)

/-- **Tables in the tree have their entries in another order.** -/
def Rearranged : Setting → Setting → Prop := Relation.ReflTransGen Shuffle

/-- Keys that differ in each table still do. -/
theorem Shuffle.apart {spell : String → String} (h : Shuffle s t) (hs : s.Apart spell) :
    t.Apart spell := by
  induction h with
  | entries source h =>
    cases hs with
    | table _ hkeys hvalues =>
      exact .table source (h.pairwise hkeys Ne.symm) fun e he => hvalues e (h.mem_iff.mpr he)
  | value before after key source h ih =>
    cases hs with
    | table _ hkeys hvalues =>
      rw [List.forall_mem_append, List.forall_mem_cons] at hvalues
      refine .table source ?_ ?_
      · simpa [List.pairwise_append] using hkeys
      · rw [List.forall_mem_append, List.forall_mem_cons]
        exact ⟨hvalues.1, ih hvalues.2.1, hvalues.2.2⟩
  | item before after source h ih =>
    cases hs with
    | list _ hitems =>
      rw [List.forall_mem_append, List.forall_mem_cons] at hitems
      refine .list source ?_
      rw [List.forall_mem_append, List.forall_mem_cons]
      exact ⟨hitems.1, ih hitems.2.1, hitems.2.2⟩

theorem Rearranged.apart {spell : String → String} (h : Rearranged s t) (hs : s.Apart spell) :
    t.Apart spell := by
  induction h with
  | refl => exact hs
  | tail _ hstep ih => exact hstep.apart ih

theorem lookup_eq_some_iff {entries : List (String × Setting)}
    (h : (entries.map Prod.fst).Nodup) : lookup key entries = some s ↔ (key, s) ∈ entries := by
  refine ⟨mem_of_lookup, fun hmem => ?_⟩
  induction entries with
  | nil => cases hmem
  | cons e rest ih =>
    obtain ⟨k, t⟩ := e
    obtain ⟨hnew, hrest⟩ := List.nodup_cons.mp h
    rcases List.mem_cons.mp hmem with heq | hmem
    · cases heq
      exact if_pos rfl
    · have hkey : key ∈ rest.map Prod.fst := List.mem_map_of_mem hmem
      have hne : k ≠ key := fun heq => hnew (heq ▸ hkey)
      rw [lookup, if_neg hne]
      exact ih hrest hmem

/-- The order of entries with different keys does not matter where one is looked up. -/
theorem lookup_of_perm {entries order : List (String × Setting)} (h : entries.Perm order)
    (hnodup : (entries.map Prod.fst).Nodup) (key : String) :
    lookup key entries = lookup key order := by
  ext s
  rw [lookup_eq_some_iff hnodup, lookup_eq_some_iff ((h.map _).nodup hnodup), h.mem_iff]

theorem lookup_append (key : String) (entries rest : List (String × Setting)) :
    lookup key (entries ++ rest) = (lookup key entries).or (lookup key rest) := by
  induction entries with
  | nil => rfl
  | cons e entries ih =>
    obtain ⟨k, s⟩ := e
    rw [List.cons_append, lookup, lookup, ih]
    split <;> rfl

/-- **A tree with the entries of a table in another order is alike**, if it is tidy. -/
theorem Shuffle.alike (h : Shuffle s t) (hs : s.Tidy) : Alike s t := by
  induction h with
  | entries source h =>
    exact alike_of_isTable rfl rfl fun key => .of_eq (lookup_of_perm h hs.nodup key)
  | @value before after key source s t h ih =>
    have hvalue : s.Tidy := hs.entry (key, s) (by simp)
    refine alike_of_isTable rfl rfl fun name => ?_
    simp only [Setting.get?, lookup_append, lookup]
    cases lookup name before with
    | some there => rfl
    | none =>
      by_cases hkey : key = name
      · simpa only [if_pos hkey, Option.none_or] using ih hvalue
      · simp only [if_neg hkey]
        rfl
  | @item before after source s t h ih =>
    have hitem : s.Tidy := hs.item s (by simp)
    refine alike_list fun i => ?_
    rcases Nat.lt_trichotomy i before.length with hlt | rfl | hgt
    · rw [List.getElem?_append_left hlt, List.getElem?_append_left hlt]
    · simpa using ih hitem
    · obtain ⟨n, rfl⟩ : ∃ n, i = before.length + (n + 1) := ⟨i - before.length - 1, by omega⟩
      simp only [List.getElem?_append_right (Nat.le_add_right _ _), Nat.add_sub_cancel_left,
        List.getElem?_cons_succ]
      rfl

theorem placeAll_append (entries rest : List (String × Setting)) (target : Setting) :
    placeAll (entries ++ rest) target = placeAll rest (placeAll entries target) := by
  simp only [placeAll_eq_assignAll, assignAll, List.map_append, List.foldl_append]

/-- **It is laid alike**, if its keys differ however they are spelled. -/
theorem Shuffle.laidAlike (h : Shuffle s t) (hs : s.Apart Text.lowerCase) : LaidAlike s t := by
  refine ⟨h.alike hs.tidy, ?_⟩
  induction h with
  | @entries entries order source h =>
    intro a b hab
    cases hs with
    | table _ hkeys _ =>
      exact (alike_placeAll_of_perm h hkeys _).trans (alike_placeAll order (hab.getD emptyTable))
  | @value before after key source s t h ih =>
    intro a b hab
    have hvalue : s.Apart Text.lowerCase := hs.entry (key, s) (by simp)
    have hlaid : LaidAlike s t := ⟨h.alike hvalue.tidy, ih hvalue⟩
    simp only [Setting.placed, placeAll_append, placeAll]
    exact alike_placeAll after (hlaid.place key (alike_placeAll before (hab.getD emptyTable)))
  | item before after source h ih =>
    intro _ _ _
    exact (Shuffle.item before after source h).alike hs.tidy

end CatalogFeed.Setting
