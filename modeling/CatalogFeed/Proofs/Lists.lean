/-!
# Proofs/Lists — last words, and lists that are changed in one place

* `getLast?_filterMap_cons`, `view_foldl`: of all that is said in a list, the last word counts;
* `map_modify`, `forall_mem_modify`: a change of one element seen through a map, and what it keeps;
* `filterMap_eq_filterMap_iff`: two selections, one of which leaves out more.
-/

namespace CatalogFeed

variable {σ α β : Type}

/-! ## Last words -/

/-- The first word counts if it is the last. -/
theorem getLast?_filterMap_cons (said : α → Option β) (a : α) (as : List α) :
    ((a :: as).filterMap said).getLast? = (as.filterMap said).getLast?.or (said a) := by
  rw [List.filterMap_cons]
  cases said a with
  | none => exact Option.or_none.symm
  | some b => cases hlast : (as.filterMap said).getLast? <;> simp [List.getLast?_cons, hlast]

/-- **The last word counts**, if each step from where `I` holds shows what it says, or else what was
shown before. -/
theorem view_foldl_of {I : σ → Prop} (view : σ → Option β) {step : σ → α → σ}
    {said : α → Option β} {as : List α}
    (h : ∀ s, I s → ∀ a ∈ as, I (step s a) ∧ view (step s a) = (said a).or (view s)) {s : σ}
    (hs : I s) :
    I (as.foldl step s) ∧
      view (as.foldl step s) = (as.filterMap said).getLast?.or (view s) := by
  induction as generalizing s with
  | nil => exact ⟨hs, rfl⟩
  | cons a as ih =>
    obtain ⟨hstep, hview⟩ := h s hs a List.mem_cons_self
    obtain ⟨hrest, hlast⟩ := ih (fun s hs b hb => h s hs b (List.mem_cons_of_mem a hb)) hstep
    refine ⟨hrest, hlast.trans ?_⟩
    rw [hview, getLast?_filterMap_cons, Option.or_assoc]

/-- **The last word counts**: if each step shows what it says, or else what was shown before, then
in the end the last that was said is shown. -/
theorem view_foldl (view : σ → Option β) {step : σ → α → σ} {said : α → Option β}
    (h : ∀ s a, view (step s a) = (said a).or (view s)) (as : List α) (s : σ) :
    view (as.foldl step s) = (as.filterMap said).getLast?.or (view s) :=
  (view_foldl_of (I := fun _ => True) view (fun s _ a _ => ⟨trivial, h s a⟩) trivial).2

/-! ## Maps and selections -/

theorem map_modify (g : α → β) {f : α → α} {e : β → β} (h : ∀ a, g (f a) = e (g a))
    (l : List α) (i : Nat) : (l.modify i f).map g = (l.map g).modify i e := by
  refine List.ext_getElem? fun j => ?_
  rw [List.getElem?_map, List.getElem?_modify, List.getElem?_modify, List.getElem?_map]
  cases l[j]? with
  | none => rfl
  | some a => by_cases hij : i = j <;> simp [hij, h]

/-- What holds of all elements, and still holds of one that is changed, holds after the change. -/
theorem forall_mem_modify {P : α → Prop} {l : List α} (h : ∀ a ∈ l, P a) {f : α → α}
    (hf : ∀ a, P a → P (f a)) (i : Nat) : ∀ a ∈ l.modify i f, P a := by
  intro a ha
  obtain ⟨j, hj⟩ := List.getElem?_of_mem ha
  rw [List.getElem?_modify, Option.map_eq_map, Option.map_eq_some_iff] at hj
  obtain ⟨b, hb, rfl⟩ := hj
  have hmem := h b (List.mem_of_getElem? hb)
  split
  · exact hf b hmem
  · exact hmem

/-- Where one function gives at least as much as another, they give the same only if they agree. -/
theorem filterMap_eq_filterMap_iff {f g : α → Option β} (h : ∀ a, f a = none ∨ g a = f a)
    (l : List α) : l.filterMap g = l.filterMap f ↔ ∀ a ∈ l, g a = f a := by
  induction l with
  | nil => simp
  | cons a l ih =>
    rw [List.forall_mem_cons, ← ih]
    rcases h a with hnone | hsame
    · cases hg : g a with
      | none => simp [hnone, hg]
      | some b =>
        -- no element of the shorter list is left for `b`
        have hlength : (l.filterMap f).length ≤ (l.filterMap g).length := by
          rw [List.length_filterMap_eq_countP, List.length_filterMap_eq_countP]
          refine List.countP_mono_left fun a _ hsome => ?_
          rcases h a with hnone | hsame
          · simp [hnone] at hsome
          · rwa [hsame]
        refine iff_of_false (fun heq => ?_) (by simp [hnone])
        have := congrArg List.length heq
        simp only [List.filterMap_cons, hnone, hg, List.length_cons] at this
        omega
    · rw [List.filterMap_cons, List.filterMap_cons, hsame]
      cases f a <;> simp

end CatalogFeed
