import CatalogFeed.Dict
import CatalogFeed.Proofs.Lists
import Mathlib.Data.List.Nodup

/-!
# Proofs/Dict — dictionaries as a whole

The lemmas beside the operations say what is read back of one key.  Here is what follows for all of
the entries: how many there are, and in which orders they may be taken or have come about.

* `size_insert_of_some`, `size_insert_of_none`, `size_erase_of_some`: the number of entries after a
  change;
* `foldl_of_perm`, `ofList_of_perm`: entries are taken in any order;
* `get?_foldl_insert`: of all that is put under a key, the last stays.
-/

namespace CatalogFeed.Dict

variable {κ α : Type} [Ord κ] {key : κ}

/-! ## The number of entries -/

/-- The number of entries. -/
def size (d : Dict κ α) : Nat := d.entries.length

theorem length_put_of_some [Std.TransOrd κ] {old : α} (value : α) :
    ∀ {entries : List (κ × α)}, entries.Pairwise (fun a b => compare a.1 b.1 = .lt) →
    find key entries = some old → (put key value entries).length = entries.length
  | [], _, hfind => nomatch hfind
  | (k, v) :: rest, hsorted, hfind => by
    obtain ⟨hk, hrest⟩ := List.pairwise_cons.mp hsorted
    rw [find] at hfind
    rw [put]
    rcases hc : compare key k with _ | _ | _ <;> simp only [hc] at hfind ⊢
    · -- what comes before the first entry comes before every other
      rw [find_eq_none_of_lt fun e he => Std.TransCmp.lt_trans hc (hk e he)] at hfind
      cases hfind
    · rfl
    · rw [List.length_cons, List.length_cons, length_put_of_some value hrest hfind]

theorem length_put_of_none (value : α) : ∀ {entries : List (κ × α)}, find key entries = none →
    (put key value entries).length = entries.length + 1
  | [], _ => rfl
  | (k, v) :: rest, hfind => by
    rw [find] at hfind
    rw [put]
    rcases hc : compare key k with _ | _ | _ <;> simp only [hc] at hfind ⊢
    · rfl
    · cases hfind
    · rw [List.length_cons, List.length_cons, length_put_of_none value hfind]

theorem length_drop_of_some {old : α} : ∀ {entries : List (κ × α)}, find key entries = some old →
    (drop key entries).length + 1 = entries.length
  | [], hfind => nomatch hfind
  | (k, v) :: rest, hfind => by
    rw [find] at hfind
    rw [drop]
    rcases hc : compare key k with _ | _ | _ <;> simp only [hc] at hfind ⊢
    · rw [List.length_cons, List.length_cons, length_drop_of_some hfind]
    · rfl
    · rw [List.length_cons, List.length_cons, length_drop_of_some hfind]

theorem size_erase_of_some {d : Dict κ α} {old : α} (h : d.get? key = some old) :
    (d.erase key).size + 1 = d.size := length_drop_of_some h

variable [Std.LawfulEqOrd κ] {d : Dict κ α}

section Insertion

variable [Std.TransOrd κ]

theorem size_insert_of_some {old : α} (h : d.get? key = some old) (value : α) :
    (d.insert key value).size = d.size := length_put_of_some value d.increasing h

theorem size_insert_of_none (h : d.get? key = none) (value : α) :
    (d.insert key value).size = d.size + 1 := length_put_of_none value h

/-- What is stored already might as well be stored again. -/
theorem insert_of_get? {value : α} (h : d.get? key = some value) : d.insert key value = d := by
  refine ext_get? fun other => ?_
  by_cases hother : other = key
  · rw [hother, get?_insert_self, h]
  · exact get?_insert_of_ne _ _ hother

end Insertion

/-! ## The entries in any order -/

section AnyOrder

variable {order : List (κ × α)}

theorem nodup_of_perm (h : order.Perm d.entries) : (order.map (·.1)).Nodup := by
  refine (h.map _).nodup_iff.mpr (List.pairwise_map.mpr (d.increasing.imp ?_))
  intro a b hlt heq
  rw [heq, Std.compare_self] at hlt
  cases hlt

/-- **The entries of a dictionary may be taken in any order**, if any two of different keys may. -/
theorem foldl_of_perm {σ : Type} {step : σ → κ × α → σ}
    (hcomm : ∀ (s : σ) (a b : κ × α), a.1 ≠ b.1 → step (step s a) b = step (step s b) a)
    (h : order.Perm d.entries) (s : σ) : order.foldl step s = d.entries.foldl step s := by
  refine h.foldl_eq' (fun a ha b hb s => ?_) s
  by_cases hkey : a.1 = b.1
  · rw [List.inj_on_of_nodup_map (nodup_of_perm h) ha hb hkey]
  · exact hcomm s a b hkey

/-- **A dictionary is made again from its entries in any order.** -/
theorem ofList_of_perm [Std.TransOrd κ] (h : order.Perm d.entries) : ofList order = d :=
  calc ofList order = ofList d.entries :=
        foldl_of_perm (fun d a b hkey => d.insert_comm a.2 b.2 hkey) h ∅
    _ = d := d.ofList_entries

end AnyOrder

/-! ## What is put under a key -/

/-- **Of all that is put under a key, the last stays.** -/
theorem get?_foldl_insert [Std.TransOrd κ] [DecidableEq κ] (keyOf : α → κ) (as : List α) (key : κ) :
    (as.foldl (fun d a => d.insert (keyOf a) a) (∅ : Dict κ α)).get? key =
      (as.filterMap fun a => if keyOf a = key then some a else none).getLast? :=
  (view_foldl (fun d : Dict κ α => d.get? key) (fun d a => d.get?_insert (keyOf a) key a)
    as ∅).trans Option.or_none

end CatalogFeed.Dict
