import CatalogFeed.Proofs.Lists
import CatalogFeed.Settings.Path
import Mathlib.Data.List.Nodup

/-!
# Proofs/Settings/Layers — what stands where after a setting is laid over others

A tree of settings is seen through what stands at the end of each chain of keys (`descend`).  To lay
a scalar at the end of one chain (`layAt`) leaves every chain alone that parts from it (`Diverge`).

* `descend_layAt_append`, `descend_layAt_of_diverge`: what is then found, on the way and elsewhere;
* `assignFrom_keys`, `descend_assignFrom_beyond`: a path of keys is a chain; longer paths end in it;
* `Tidy.assignAll`: settings laid over one another have no key twice in one table.
-/

namespace CatalogFeed.Setting

/-! ## Tables -/

/-- The setting is a table. -/
def isTable : Setting → Bool
  | table _ _ => true
  | _ => false

/-- The setting under a key, if this is a table that has it. -/
def get? (key : String) : Setting → Option Setting
  | table entries _ => lookup key entries
  | _ => none

variable {key other : String} {f : Option Setting → Setting} {s target value : Setting}

theorem isTable_of_get? (h : s.get? key = some target) : s.isTable = true := by
  cases s with
  | table entries source => rfl
  | _ => cases h

@[simp] theorem isTable_under (key : String) (f : Option Setting → Setting) (s : Setting) :
    (under key f s).isTable = true := by
  cases s <;> rfl

@[simp] theorem get?_under_self (key : String) (f : Option Setting → Setting) (s : Setting) :
    (under key f s).get? key = some (f (s.get? key)) := by
  cases s with
  | table entries source => exact lookup_alter_self key f entries
  | _ => exact lookup_alter_self key f []

/-- A place that is not filled gives way to a table, like a table without entries. -/
theorem under_unset (key : String) (f : Option Setting → Setting) (found : Option Setting) :
    under key f (found.getD unset) = under key f (found.getD emptyTable) := by
  cases found <;> rfl

theorem get?_under_of_ne (h : other ≠ key) (f : Option Setting → Setting) (s : Setting) :
    (under key f s).get? other = s.get? other := by
  cases s with
  | table entries source => exact lookup_alter_of_ne h f entries
  | _ => exact lookup_alter_of_ne h f []

/-! ## Chains of keys -/

/-- The setting at the end of a chain of keys. -/
def descend : List String → Setting → Option Setting
  | [], s => some s
  | key :: path, s => (s.get? key).bind (descend path)

theorem descend_singleton (key : String) (s : Setting) : s.descend [key] = s.get? key :=
  Option.bind_fun_some _

theorem descend_pair (key field : String) (s : Setting) :
    s.descend [key, field] = (s.get? key).bind (·.get? field) :=
  congrArg (s.get? key).bind (funext (descend_singleton field))

/-- Lays a setting at the end of a chain of keys, and tables where there are none on the way. -/
def layAt (value : Setting) : List String → Setting → Setting
  | [], _ => value
  | key :: path, target => under key (fun there => layAt value path (there.getD unset)) target

/-- **Two chains part**: they have different keys after the same ones. -/
inductive Diverge : List String → List String → Prop where
  | here {a b : String} (p q : List String) : a ≠ b → Diverge (a :: p) (b :: q)
  | there (key : String) {p q : List String} : Diverge p q → Diverge (key :: p) (key :: q)

theorem getD_descend_getD (found : Option Setting) (path : List String) :
    ((found.getD unset).descend path).getD unset = (found.bind (descend path)).getD unset := by
  cases found with
  | none => cases path <;> rfl
  | some s => rfl

/-- On the way to the end of a chain there is what the rest of the chain makes of what was there. -/
theorem descend_layAt_append (value : Setting) (path rest : List String) (target : Setting) :
    (layAt value (path ++ rest) target).descend path =
      some (layAt value rest ((target.descend path).getD unset)) := by
  induction path generalizing target with
  | nil => rfl
  | cons key path ih =>
    rw [List.cons_append, layAt, descend, get?_under_self, Option.bind_some, ih, descend,
      getD_descend_getD]

/-- A setting that is laid at the end of a chain is there. -/
theorem descend_layAt_self (value : Setting) (path : List String) (target : Setting) :
    (layAt value path target).descend path = some value := by
  simpa [layAt] using descend_layAt_append value path [] target

theorem Diverge.descend_unset {p q : List String} (h : Diverge p q) : unset.descend q = none := by
  cases h <;> rfl

/-- **Chains that part from the one at whose end a setting is laid are left alone.** -/
theorem descend_layAt_of_diverge {p q : List String} (h : Diverge p q) (value target : Setting) :
    (layAt value p target).descend q = target.descend q := by
  induction h generalizing target with
  | here p q hne => rw [layAt, descend, get?_under_of_ne hne.symm, descend]
  | there key hpq ih =>
    rw [layAt, descend, get?_under_self, Option.bind_some, ih, descend]
    cases target.get? key with
    | none => exact hpq.descend_unset
    | some there => rfl

/-! ## Assignments -/

theorem place_scalar (key : String) (value : Scalar) (source : Option Source) (target : Setting) :
    place key (scalar value source) target =
      under (Text.lowerCase key) (fun _ => scalar value source) target := by
  rw [place]
  exact nofun

/-- **A path of keys in small letters is a chain.** -/
theorem assignFrom_keys (value : Scalar) (source : Option Source) : ∀ (name : String)
    (keys : List String) (target : Setting), (∀ key ∈ name :: keys, Text.lowerCase key = key) →
    assignFrom (scalar value source) name (keys.map .key) target =
      layAt (scalar value source) (name :: keys) target
  | name, [], target, h => by
    rw [List.map_nil, assignFrom, place_scalar, h name List.mem_cons_self]
    rfl
  | name, key :: keys, target, h => by
    rw [List.map_cons, assignFrom, h name List.mem_cons_self, layAt]
    congr 1
    funext there
    exact assignFrom_keys value source key keys _ fun k hk => h k (List.mem_cons_of_mem _ hk)

/-- The setting is a scalar. -/
def isScalar : Setting → Bool
  | scalar _ _ => true
  | _ => false

theorem isTable_assignFrom (value : Setting) (name : String) (steps : List Step)
    (target : Setting) : (assignFrom value name steps target).isTable = true := by
  cases steps with
  | nil =>
    cases value <;> rw [assignFrom, place] <;> first | exact isTable_under _ _ _ | exact nofun
  | cons step steps => cases step <;> exact isTable_under _ _ _

/-- Settings laid over a table are a table. -/
theorem isTable_assignAll {layer : List (Path × Setting)} (h : target.isTable = true) :
    (assignAll layer target).isTable = true := by
  induction layer generalizing target with
  | nil => exact h
  | cons entry layer ih => exact ih (isTable_assignFrom entry.2 entry.1.head entry.1.steps target)

theorem within_eq_list (i : Int) (f : Setting → Setting) (s : Setting) :
    ∃ items source, within i f s = list items source := by
  cases s <;> exact ⟨_, _, rfl⟩

theorem assignWithin_eq_list (value : Setting) (i : Int) (steps : List Step) (target : Setting) :
    ∃ items source, assignFrom.assignWithin value i steps target = list items source := by
  cases steps with
  | nil => exact within_eq_list _ _ _
  | cons step steps => cases step <;> exact within_eq_list _ _ _

theorem isScalar_of_isTable (h : s.isTable = true) : s.isScalar = false := by
  cases s with
  | table entries source => rfl
  | _ => cases h

/-- **Beyond a chain there is a table or a list**, whatever is assigned there. -/
theorem descend_assignFrom_beyond (value : Setting) (step : Step) (steps : List Step) :
    ∀ (name : String) (keys : List String) (target : Setting),
    (∀ key ∈ name :: keys, Text.lowerCase key = key) → ∃ found,
      (assignFrom value name (keys.map .key ++ step :: steps) target).descend (name :: keys) =
        some found ∧ found.isScalar = false
  | name, [], target, h => by
    rw [List.map_nil, List.nil_append]
    cases step with
    | key next =>
      rw [assignFrom, h name List.mem_cons_self, descend, get?_under_self]
      exact ⟨_, rfl, isScalar_of_isTable (isTable_assignFrom _ _ _ _)⟩
    | index i =>
      rw [assignFrom, h name List.mem_cons_self, descend, get?_under_self]
      obtain ⟨items, source, hlist⟩ :=
        assignWithin_eq_list value i steps ((target.get? name).getD unset)
      exact ⟨_, rfl, by rw [hlist]; rfl⟩
  | name, key :: keys, target, h => by
    rw [List.map_cons, List.cons_append, assignFrom, h name List.mem_cons_self, descend,
      get?_under_self, Option.bind_some]
    exact descend_assignFrom_beyond value step steps key keys _ fun k hk =>
      h k (List.mem_cons_of_mem _ hk)

/-! ## Keys that differ -/

/-- **No table in the tree has two keys that are the same** once they are spelled by `spell`. -/
inductive Apart (spell : String → String) : Setting → Prop where
  | scalar (value : Scalar) (source : Option Source) : Apart spell (.scalar value source)
  | list {items : List Setting} (source : Option Source) (h : ∀ s ∈ items, Apart spell s) :
      Apart spell (.list items source)
  | table {entries : List (String × Setting)} (source : Option Source)
      (hkeys : entries.Pairwise fun x y => spell x.1 ≠ spell y.1)
      (h : ∀ e ∈ entries, Apart spell e.2) : Apart spell (.table entries source)

theorem Apart.entry {spell : String → String} {entries : List (String × Setting)}
    {source : Option Source} (h : (Setting.table entries source).Apart spell) :
    ∀ e ∈ entries, e.2.Apart spell := by
  cases h with
  | table _ _ hvalues => exact hvalues

theorem Apart.item {spell : String → String} {items : List Setting} {source : Option Source}
    (h : (Setting.list items source).Apart spell) : ∀ s ∈ items, s.Apart spell := by
  cases h with
  | list _ hitems => exact hitems

/-- **No table in the tree has a key twice.** -/
abbrev Tidy (s : Setting) : Prop := s.Apart id

/-- Keys that differ however they are spelled are different keys. -/
theorem Apart.tidy {spell : String → String} (h : s.Apart spell) : s.Tidy := by
  induction h with
  | scalar value source => exact .scalar value source
  | list source h ih => exact .list source ih
  | table source hkeys h ih =>
    exact .table source (hkeys.imp fun hne heq => hne (congrArg spell heq)) ih

theorem map_fst_alter (key : String) (f : Option Setting → Setting) :
    ∀ entries : List (String × Setting), (alter key f entries).map Prod.fst =
      if key ∈ entries.map Prod.fst then entries.map Prod.fst
      else entries.map Prod.fst ++ [key]
  | [] => rfl
  | (k, s) :: rest => by
    by_cases h : k = key
    · simp [alter, h]
    · simp only [alter, if_neg h, List.map_cons, map_fst_alter key f rest, List.mem_cons,
        Ne.symm h, false_or]
      split <;> rfl

theorem nodup_alter {entries : List (String × Setting)} (h : (entries.map Prod.fst).Nodup) :
    ((alter key f entries).map Prod.fst).Nodup := by
  rw [map_fst_alter]
  split
  · exact h
  · next hnew =>
    refine List.nodup_append.mpr ⟨h, List.nodup_singleton _, fun k hk k' hk' heq => hnew ?_⟩
    rwa [← List.mem_singleton.mp hk', ← heq]

theorem mem_of_lookup : ∀ {entries : List (String × Setting)}, lookup key entries = some s →
    (key, s) ∈ entries
  | (k, t) :: rest, h => by
    by_cases hk : k = key
    · rw [lookup, if_pos hk] at h
      cases h
      exact hk ▸ .head _
    · rw [lookup, if_neg hk] at h
      exact .tail _ (mem_of_lookup h)

theorem mem_alter {e : String × Setting} : ∀ {entries : List (String × Setting)},
    e ∈ alter key f entries → e ∈ entries ∨ e = (key, f (lookup key entries))
  | [], h => .inr (List.mem_singleton.mp h)
  | (k, t) :: rest, h => by
    by_cases hk : k = key
    · subst hk
      rw [alter, if_pos rfl] at h
      rw [lookup, if_pos rfl]
      exact (List.mem_cons.mp h).symm.imp (List.mem_cons_of_mem _) id
    · rw [alter, if_neg hk] at h
      rw [lookup, if_neg hk]
      rcases List.mem_cons.mp h with rfl | h
      · exact .inl (.head _)
      · exact (mem_alter h).imp_left (List.mem_cons_of_mem _)

namespace Tidy

/-- A table that is tidy has no key twice itself. -/
theorem nodup {entries : List (String × Setting)} {source : Option Source}
    (h : (table entries source).Tidy) : (entries.map Prod.fst).Nodup := by
  cases h with
  | table _ hkeys _ => exact List.pairwise_map.mpr hkeys

theorem emptyTable : emptyTable.Tidy := .table none .nil nofun

theorem unset : unset.Tidy := .scalar .nil none

/-- What stands under a key is tidy. -/
theorem get? (h : s.Tidy) (hs : s.get? key = some target) : target.Tidy := by
  cases h with
  | table source hkeys h => exact h _ (mem_of_lookup hs)
  | _ => cases hs

theorem getD (h : s.Tidy) (key : String) {fallback : Setting} (hf : fallback.Tidy) :
    ((s.get? key).getD fallback).Tidy := by
  cases hthere : s.get? key with
  | none => exact hf
  | some there => exact h.get? hthere

/-- What stands at the end of a chain is tidy. -/
theorem getD_descend (h : s.Tidy) (path : List String) :
    ((s.descend path).getD Setting.emptyTable).Tidy := by
  induction path generalizing s with
  | nil => exact h
  | cons key path ih =>
    rw [descend]
    cases hthere : s.get? key with
    | none => exact emptyTable
    | some there => exact ih (h.get? hthere)

theorem under (h : s.Tidy) (hf : (f (s.get? key)).Tidy) : (under key f s).Tidy := by
  cases h with
  | @table entries source hkeys hvalues =>
    refine .table source (List.pairwise_map.mp (nodup_alter (List.pairwise_map.mpr hkeys))) ?_
    intro e he
    rcases mem_alter he with he | rfl
    · exact hvalues e he
    · exact hf
  | _ => exact .table none (List.pairwise_singleton _ _) (List.forall_mem_singleton.mpr hf)

theorem within (h : s.Tidy) (i : Int) {f : Setting → Setting} (hf : ∀ t, t.Tidy → (f t).Tidy) :
    (within i f s).Tidy := by
  have hitems {items : List Setting} (h : ∀ t ∈ items, t.Tidy) (n : Nat) :
      ∀ t ∈ atPosition n f items, t.Tidy := by
    refine forall_mem_modify (List.forall_mem_append.mpr ⟨h, fun t ht => ?_⟩) hf n
    rw [List.eq_of_mem_replicate ht]
    exact unset
  cases h with
  | list source h => exact .list source (hitems h _)
  | _ => exact .list none (hitems (List.forall_mem_nil _) _)

mutual

theorem place (key : String) : ∀ s target : Setting, s.Tidy → target.Tidy →
    (place key s target).Tidy
  | table entries _, target, hs, h => by
    rw [Setting.place]
    exact h.under (placeAll entries _ hs.entry (h.getD _ emptyTable))
  | list items source, target, hs, h => by
    rw [Setting.place]
    · exact h.under hs
    · exact nofun
  | scalar value source, target, hs, h => by
    rw [place_scalar]
    exact h.under hs

theorem placeAll : ∀ (entries : List (String × Setting)) (target : Setting),
    (∀ e ∈ entries, e.2.Tidy) → target.Tidy → (placeAll entries target).Tidy
  | [], _, _, h => h
  | (key, s) :: rest, target, hs, h => by
    obtain ⟨hs, hrest⟩ := List.forall_mem_cons.mp hs
    exact placeAll rest _ hrest (place key s target hs h)

end

mutual

theorem assignFrom (hv : value.Tidy) : ∀ (name : String) (steps : List Step) (target : Setting),
    target.Tidy → (assignFrom value name steps target).Tidy
  | name, [], target, h => place name value target hv h
  | _, .key next :: steps, _, h => h.under (assignFrom hv next steps _ (h.getD _ unset))
  | _, .index i :: steps, _, h => h.under (assignWithin hv i steps _ (h.getD _ unset))

theorem assignWithin (hv : value.Tidy) : ∀ (i : Int) (steps : List Step) (target : Setting),
    target.Tidy → (assignFrom.assignWithin value i steps target).Tidy
  | i, [], _, h => h.within i fun _ _ => hv
  | i, .key next :: steps, _, h => h.within i fun t ht => assignFrom hv next steps t ht
  | i, .index j :: steps, _, h => h.within i fun t ht => assignWithin hv j steps t ht

end

/-- **Settings laid over one another have no key twice**, if none of them has. -/
theorem assignAll {layer : List (Path × Setting)} (hlayer : ∀ e ∈ layer, e.2.Tidy)
    (h : target.Tidy) : (assignAll layer target).Tidy := by
  induction layer generalizing target with
  | nil => exact h
  | cons entry layer ih =>
    obtain ⟨hentry, hlayer⟩ := List.forall_mem_cons.mp hlayer
    exact ih hlayer (assignFrom hentry entry.1.head entry.1.steps _ h)

end Tidy

end CatalogFeed.Setting
