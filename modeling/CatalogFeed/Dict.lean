/-!
# Dict — finite maps kept in key order

A `Dict κ α` is its list of entries, strictly increasing in key, so two dictionaries with the same
entries are equal and the order in which entries are written out is the order of the keys.

* `get?_insert_self`, `get?_insert_of_ne`: an insertion is read back, and changes no other key;
* `get?_erase_self`, `get?_erase_of_ne`: the same for removal;
* `ext_get?`: a dictionary is determined by what it answers;
* `ofList_entries`: and by its entries, from which it is made again.
-/

namespace CatalogFeed

/-- A finite map from `κ` to `α`. The entries are in strictly increasing key order. -/
structure Dict (κ : Type) [Ord κ] (α : Type) where
  entries : List (κ × α)
  increasing : entries.Pairwise (fun a b => compare a.1 b.1 = .lt)

namespace Dict

variable {κ α : Type} [Ord κ]

/-! ## Entry lists -/

/-- The entries with `key` set to `value`: replaced where the key is, else put in its place. -/
def put (key : κ) (value : α) : List (κ × α) → List (κ × α)
  | [] => [(key, value)]
  | (k, v) :: rest =>
    match compare key k with
    | .lt => (key, value) :: (k, v) :: rest
    | .eq => (key, value) :: rest
    | .gt => (k, v) :: put key value rest

/-- The entries without `key`. -/
def drop (key : κ) : List (κ × α) → List (κ × α)
  | [] => []
  | (k, v) :: rest =>
    match compare key k with
    | .eq => rest
    | _ => (k, v) :: drop key rest

/-- The value that an entry list has for `key`. -/
def find (key : κ) : List (κ × α) → Option α
  | [] => none
  | (k, v) :: rest =>
    match compare key k with
    | .eq => some v
    | _ => find key rest

theorem mem_put {key : κ} {value : α} {e : κ × α} :
    ∀ {entries : List (κ × α)}, e ∈ put key value entries → e = (key, value) ∨ e ∈ entries
  | [], h => by simpa [put] using h
  | (k, v) :: rest, h => by
    rw [put] at h
    split at h
    · simpa using h
    · rcases List.mem_cons.mp h with h | h
      · exact Or.inl h
      · exact Or.inr (List.mem_cons_of_mem _ h)
    · rcases List.mem_cons.mp h with h | h
      · exact Or.inr (h ▸ List.mem_cons_self)
      · exact (mem_put h).imp_right (List.mem_cons_of_mem _)

theorem drop_sublist (key : κ) : ∀ entries : List (κ × α), (drop key entries).Sublist entries
  | [] => .slnil
  | (k, v) :: rest => by
    rw [drop]
    split
    · exact List.sublist_cons_self _ _
    · exact (drop_sublist key rest).cons_cons _

theorem pairwise_put [Std.TransOrd κ] [Std.LawfulEqOrd κ] (key : κ) (value : α) :
    ∀ {entries : List (κ × α)}, entries.Pairwise (fun a b => compare a.1 b.1 = .lt) →
    (put key value entries).Pairwise (fun a b => compare a.1 b.1 = .lt)
  | [], _ => List.pairwise_singleton _ _
  | (k, v) :: rest, h => by
    obtain ⟨hk, hrest⟩ := List.pairwise_cons.mp h
    rw [put]
    split
    · next hlt =>
      refine List.pairwise_cons.mpr ⟨fun e he => ?_, h⟩
      rcases List.mem_cons.mp he with rfl | he
      · exact hlt
      · exact Std.TransCmp.lt_trans hlt (hk e he)
    · next heq =>
      obtain rfl := Std.compare_eq_iff_eq.mp heq
      exact List.pairwise_cons.mpr ⟨hk, hrest⟩
    · next hgt =>
      refine List.pairwise_cons.mpr ⟨fun e he => ?_, pairwise_put key value hrest⟩
      rcases mem_put he with rfl | he
      · exact Std.OrientedCmp.lt_of_gt hgt
      · exact hk e he

/-! ## Operations -/

/-- The map without entries. -/
def empty : Dict κ α := ⟨[], .nil⟩

instance : EmptyCollection (Dict κ α) := ⟨empty⟩
instance : Inhabited (Dict κ α) := ⟨∅⟩

/-- Sets `key` to `value`, in place of any earlier value. -/
def insert [Std.TransOrd κ] [Std.LawfulEqOrd κ] (d : Dict κ α) (key : κ) (value : α) : Dict κ α :=
  ⟨put key value d.entries, pairwise_put key value d.increasing⟩

/-- Removes `key`. -/
def erase (d : Dict κ α) (key : κ) : Dict κ α :=
  ⟨drop key d.entries, d.increasing.sublist (drop_sublist key d.entries)⟩

/-- The value at `key`. -/
def get? (d : Dict κ α) (key : κ) : Option α := find key d.entries

/-- Whether `key` has a value. -/
def contains (d : Dict κ α) (key : κ) : Bool := (d.get? key).isSome

/-- Inserts the pairs in order, so the last value of a key stays. -/
def ofList [Std.TransOrd κ] [Std.LawfulEqOrd κ] (pairs : List (κ × α)) : Dict κ α :=
  pairs.foldl (fun d e => d.insert e.1 e.2) ∅

/-- The keys, in order. -/
def keys (d : Dict κ α) : List κ := d.entries.map (·.1)

instance [DecidableEq κ] [DecidableEq α] : DecidableEq (Dict κ α) := fun d e =>
  decidable_of_iff (d.entries = e.entries) (by cases d; cases e; simp)

/-! ## What is read back -/

section Lookup

@[simp] theorem get?_empty (key : κ) : (∅ : Dict κ α).get? key = none := rfl

variable [Std.LawfulEqOrd κ]

theorem find_cons [DecidableEq κ] (key : κ) (e : κ × α) (rest : List (κ × α)) :
    find key (e :: rest) = (if e.1 = key then some e.2 else none).or (find key rest) := by
  rw [find]
  split
  · next heq => rw [if_pos (Std.compare_eq_iff_eq.mp heq).symm, Option.some_or]
  · next hne =>
    rw [if_neg fun h => hne (Std.compare_eq_iff_eq.mpr h.symm), Option.none_or]

theorem find_put_self (key : κ) (value : α) :
    ∀ entries : List (κ × α), find key (put key value entries) = some value
  | [] => by simp [put, find]
  | (k, v) :: rest => by
    rw [put]
    split
    · simp [find]
    · simp [find]
    · next h => simp [find, h, find_put_self key value rest]

theorem find_put_of_ne {key other : κ} (value : α) (h : other ≠ key) :
    ∀ entries : List (κ × α), find other (put key value entries) = find other entries
  | [] => by simp [put, find, mt Std.compare_eq_iff_eq.mp h]
  | (k, v) :: rest => by
    have hne : compare other key ≠ .eq := mt Std.compare_eq_iff_eq.mp h
    rw [put]
    split
    · rw [find]
      split
      · exact absurd ‹_› hne
      · rfl
    · next heq =>
      obtain rfl := Std.compare_eq_iff_eq.mp heq
      simp [find]
    · rw [find, find, find_put_of_ne value h rest]

variable [Std.TransOrd κ]

@[simp] theorem get?_insert_self (d : Dict κ α) (key : κ) (value : α) :
    (d.insert key value).get? key = some value := find_put_self key value d.entries

theorem get?_insert_of_ne (d : Dict κ α) {key other : κ} (value : α) (h : other ≠ key) :
    (d.insert key value).get? other = d.get? other := find_put_of_ne value h d.entries

theorem get?_insert [DecidableEq κ] (d : Dict κ α) (key other : κ) (value : α) :
    (d.insert key value).get? other =
      (if key = other then some value else none).or (d.get? other) := by
  split
  · next h => exact h ▸ get?_insert_self d key value
  · next h => exact get?_insert_of_ne d value (Ne.symm h)

omit [Std.LawfulEqOrd κ] [Std.TransOrd κ] in
theorem find_eq_none_of_lt {key : κ} : ∀ {entries : List (κ × α)},
    (∀ e ∈ entries, compare key e.1 = .lt) → find key entries = none
  | [], _ => rfl
  | (k, v) :: rest, h => by
    rw [find, h (k, v) List.mem_cons_self]
    exact find_eq_none_of_lt fun e he => h e (List.mem_cons_of_mem _ he)

omit [Std.TransOrd κ] in
theorem find_drop_self (key : κ) : ∀ {entries : List (κ × α)},
    entries.Pairwise (fun a b => compare a.1 b.1 = .lt) → find key (drop key entries) = none
  | [], _ => rfl
  | (k, v) :: rest, h => by
    obtain ⟨hk, hrest⟩ := List.pairwise_cons.mp h
    rw [drop]
    split
    · next heq =>
      obtain rfl := Std.compare_eq_iff_eq.mp heq
      exact find_eq_none_of_lt hk
    · next hne => simp [find, find_drop_self key hrest]

omit [Std.TransOrd κ] in
theorem find_drop_of_ne {key other : κ} (h : other ≠ key) :
    ∀ entries : List (κ × α), find other (drop key entries) = find other entries
  | [] => rfl
  | (k, v) :: rest => by
    rw [drop]
    split
    · next heq =>
      obtain rfl := Std.compare_eq_iff_eq.mp heq
      simp [find, mt Std.compare_eq_iff_eq.mp h]
    · rw [find, find, find_drop_of_ne h rest]

omit [Std.TransOrd κ] in
@[simp] theorem get?_erase_self (d : Dict κ α) (key : κ) : (d.erase key).get? key = none :=
  find_drop_self key d.increasing

omit [Std.TransOrd κ] in
theorem get?_erase_of_ne (d : Dict κ α) {key other : κ} (h : other ≠ key) :
    (d.erase key).get? other = d.get? other := find_drop_of_ne h d.entries

end Lookup

/-! ## Extensionality -/

section Ext

variable [Std.TransOrd κ] [Std.LawfulEqOrd κ]

theorem eq_of_find_eq : ∀ {xs ys : List (κ × α)},
    xs.Pairwise (fun a b => compare a.1 b.1 = .lt) →
    ys.Pairwise (fun a b => compare a.1 b.1 = .lt) → (∀ key, find key xs = find key ys) → xs = ys
  | [], [], _, _, _ => rfl
  | [], (k, v) :: _, _, _, h => by simpa [find] using h k
  | (k, v) :: _, [], _, _, h => by simpa [find] using h k
  | (k, v) :: xs, (l, w) :: ys, hx, hy, h => by
    obtain ⟨hk, hxs⟩ := List.pairwise_cons.mp hx
    obtain ⟨hl, hys⟩ := List.pairwise_cons.mp hy
    have hkl : k = l := by
      have h₁ := h k
      have h₂ := h l
      rcases hc : compare k l with _ | _ | _
      · rw [find, find] at h₁
        simp only [Std.compare_self, hc] at h₁
        rw [find_eq_none_of_lt fun e he => Std.TransCmp.lt_trans hc (hl e he)] at h₁
        simp at h₁
      · exact Std.compare_eq_iff_eq.mp hc
      · have hc' : compare l k = .lt := Std.OrientedCmp.lt_of_gt hc
        rw [find, find] at h₂
        simp only [Std.compare_self, hc'] at h₂
        rw [find_eq_none_of_lt fun e he => Std.TransCmp.lt_trans hc' (hk e he)] at h₂
        simp at h₂
    subst hkl
    have hvw : v = w := by simpa [find] using h k
    subst hvw
    congr 1
    refine eq_of_find_eq hxs hys fun key => ?_
    by_cases hkey : key = k
    · subst hkey
      rw [find_eq_none_of_lt hk, find_eq_none_of_lt hl]
    · have := h key
      simpa [find, mt Std.compare_eq_iff_eq.mp hkey] using this

/-- **A dictionary is what it answers.** -/
theorem ext_get? {d e : Dict κ α} (h : ∀ key, d.get? key = e.get? key) : d = e := by
  cases d with
  | mk xs hx =>
    cases e with
    | mk ys hy =>
      obtain rfl := eq_of_find_eq hx hy h
      rfl

/-- A key that is erased might as well not have been inserted. -/
theorem erase_insert (d : Dict κ α) (key : κ) (value : α) :
    (d.insert key value).erase key = d.erase key := by
  refine ext_get? fun other => ?_
  by_cases h : other = key
  · rw [h, get?_erase_self, get?_erase_self]
  · rw [get?_erase_of_ne _ h, get?_erase_of_ne _ h, get?_insert_of_ne _ _ h]

/-- Different keys may be set in either order. -/
theorem insert_comm (d : Dict κ α) {key other : κ} (v w : α) (h : key ≠ other) :
    (d.insert key v).insert other w = (d.insert other w).insert key v := by
  refine ext_get? fun k => ?_
  by_cases hk : k = key
  · rw [hk, get?_insert_of_ne _ _ h, get?_insert_self, get?_insert_self]
  · rw [get?_insert_of_ne (d.insert other w) _ hk]
    by_cases ho : k = other
    · rw [ho, get?_insert_self, get?_insert_self]
    · rw [get?_insert_of_ne _ _ ho, get?_insert_of_ne _ _ ho, get?_insert_of_ne _ _ hk]

omit [Std.LawfulEqOrd κ] in
/-- A key after all others is put at the end. -/
theorem put_of_lt {key : κ} (value : α) : ∀ {entries : List (κ × α)},
    (∀ e ∈ entries, compare e.1 key = .lt) → put key value entries = entries ++ [(key, value)]
  | [], _ => rfl
  | (k, v) :: rest, h => by
    have hgt : compare key k = .gt := Std.OrientedCmp.gt_of_lt (h (k, v) List.mem_cons_self)
    simp only [put, hgt, put_of_lt value fun e he => h e (List.mem_cons_of_mem _ he),
      List.cons_append]

theorem entries_foldl_insert {entries : List (κ × α)} {d : Dict κ α}
    (h : (d.entries ++ entries).Pairwise (fun a b => compare a.1 b.1 = .lt)) :
    (entries.foldl (fun d e => d.insert e.1 e.2) d).entries = d.entries ++ entries := by
  induction entries generalizing d with
  | nil => simp
  | cons e entries ih =>
    have hlast : (d.insert e.1 e.2).entries = d.entries ++ [e] :=
      put_of_lt e.2 fun e' he' => (List.pairwise_append.mp h).2.2 e' he' e List.mem_cons_self
    rw [List.foldl_cons, ih (by simpa [hlast] using h), hlast, List.append_assoc,
      List.singleton_append]

/-- **A dictionary is made again from its entries.** -/
@[simp] theorem ofList_entries (d : Dict κ α) : ofList d.entries = d := by
  obtain ⟨xs, hx⟩ := d
  have h : (ofList xs).entries = xs := entries_foldl_insert (d := ∅) hx
  rcases hmade : ofList xs with ⟨ys, hy⟩
  rw [hmade] at h
  obtain rfl : ys = xs := h
  rfl

end Ext

end Dict
end CatalogFeed
