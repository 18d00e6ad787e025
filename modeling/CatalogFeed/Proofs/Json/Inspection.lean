import CatalogFeed.Json.Inspect
import CatalogFeed.Proofs.Json.Members

/-!
# Proofs/Json/Inspection — which documents may be put aside

What is put aside is checked through and through.  A document passes if it is `Held`: its numbers
have a value, its strings are characters, and there is room for its nesting.

* `inspect_eq_ok_iff`: what passes inspection;
* `Held.mono`: more room does no harm.
-/

namespace CatalogFeed.Json

/-- **A document that may be put aside** where `room` containers may be nested: every number in it
has a value, every string and every name is made of characters, and nothing is missing. -/
inductive Held : Nat → Json → Prop where
  | null (room : Nat) : Held room .null
  | bool (room : Nat) (b : Bool) : Held room (.bool b)
  | number (room : Nat) {n : Numeral} (h : n.value? ≠ none) : Held room (.number n)
  | text (room : Nat) (s : String) : Held room (.text s)
  | array {room : Nat} {items : List Json} (h : ∀ j ∈ items, Held room j) :
      Held (room + 1) (.array items none)
  | object {room : Nat} {members : List (Option String × Json)}
      (hkey : ∀ m ∈ members, m.1 ≠ none) (h : ∀ m ∈ members, Held room m.2) :
      Held (room + 1) (.object members none)

theorem Held.flaw? {room : Nat} {j : Json} (h : Held room j) : j.flaw? = none := by
  cases h <;> rfl

theorem Held.mono {room room' : Nat} (hle : room ≤ room') {j : Json} (h : Held room j) :
    Held room' j := by
  induction h generalizing room' with
  | null => exact .null _
  | bool _ b => exact .bool _ b
  | number _ h => exact .number _ h
  | text _ s => exact .text _ s
  | array h ih =>
    obtain ⟨room', rfl⟩ := Nat.exists_eq_succ_of_ne_zero (Nat.ne_zero_of_lt hle)
    exact .array fun j hj => ih j hj (Nat.le_of_succ_le_succ hle)
  | object hkey h ih =>
    obtain ⟨room', rfl⟩ := Nat.exists_eq_succ_of_ne_zero (Nat.ne_zero_of_lt hle)
    exact .object hkey fun m hm => ih m hm (Nat.le_of_succ_le_succ hle)

theorem inspectItems_eq_ok_iff {room : Nat} {items : List Json} {u : Unit} :
    inspectItems room items = .ok u ↔ ∀ j ∈ items, inspect room j = .ok () := by
  induction items with
  | nil => simp [inspectItems]
  | cons j items ih => simp [inspectItems, check_bind_eq_ok_iff, ih]

theorem inspectMembers_eq_ok_iff {room : Nat} {members : List (Option String × Json)} {u : Unit} :
    inspectMembers room members = .ok u ↔
      ∀ m ∈ members, m.1 ≠ none ∧ inspect room m.2 = .ok () := by
  induction members with
  | nil => simp [inspectMembers]
  | cons m members ih =>
    obtain ⟨key, j⟩ := m
    rw [inspectMembers, bind_eq_ok_iff]
    cases key <;> simp [check_bind_eq_ok_iff, checkKey_eq_ok_iff, ih]

theorem inspect_array_iff {room : Nat} {items : List Json} {cut : Option Flaw} :
    inspect room (.array items cut) = .ok () ↔
      ∃ room', room = room' + 1 ∧ cut = none ∧ ∀ j ∈ items, inspect room' j = .ok () := by
  cases room <;>
    simp [inspect, bind_eq_ok_iff, inspectItems_eq_ok_iff, checkCut_eq_ok_iff, and_comm]

theorem inspect_object_iff {room : Nat} {members : List (Option String × Json)}
    {cut : Option Flaw} :
    inspect room (.object members cut) = .ok () ↔ ∃ room', room = room' + 1 ∧ cut = none ∧
      ∀ m ∈ members, m.1 ≠ none ∧ inspect room' m.2 = .ok () := by
  cases room <;>
    simp [inspect, bind_eq_ok_iff, inspectMembers_eq_ok_iff, checkCut_eq_ok_iff, and_comm]

theorem inspect_number_iff {room : Nat} {n : Numeral} :
    inspect room (.number n) = .ok () ↔ n.value? ≠ none := by
  cases hvalue : n.value? with
  | none => simp [inspect, finding, hvalue, bind, Except.bind]
  | some value => cases value <;> simp [inspect, finding, hvalue, bind, Except.bind]

theorem inspect_of_held {room : Nat} {j : Json} (h : Held room j) : inspect room j = .ok () := by
  induction h with
  | null => rfl
  | bool => rfl
  | number _ h => exact inspect_number_iff.mpr h
  | text => rfl
  | array h ih => exact inspect_array_iff.mpr ⟨_, rfl, rfl, ih⟩
  | object hkey h ih => exact inspect_object_iff.mpr ⟨_, rfl, rfl, fun m hm => ⟨hkey m hm, ih m hm⟩⟩

theorem held_of_inspect : (room : Nat) → (j : Json) → inspect room j = .ok () → Held room j
  | _, .null, _ => .null _
  | _, .bool b, _ => .bool _ b
  | _, .number n, h => .number _ (inspect_number_iff.mp h)
  | _, .string (some s), _ => .text _ s
  | _, .string none, h => by cases h
  | _, .broken flaw, h => by cases h
  | 0, .array items cut, h => by cases h
  | room + 1, .array items cut, h => by
    obtain ⟨_, ⟨⟩, rfl, hitems⟩ := inspect_array_iff.mp h
    exact .array fun j hj => held_of_inspect room j (hitems j hj)
  | 0, .object members cut, h => by cases h
  | room + 1, .object members cut, h => by
    obtain ⟨_, ⟨⟩, rfl, hmembers⟩ := inspect_object_iff.mp h
    exact .object (fun m hm => (hmembers m hm).1)
      fun m hm => held_of_inspect room m.2 (hmembers m hm).2

/-- **A document passes inspection if and only if it may be put aside.** -/
theorem inspect_eq_ok_iff {room : Nat} {j : Json} : inspect room j = .ok () ↔ Held room j :=
  ⟨held_of_inspect room j, inspect_of_held⟩

/-- What is in an object that may be put aside may be put aside. -/
theorem held_object_iff {room : Nat} {members : List (Option String × Json)} :
    Held (room + 1) (.object members none) ↔ ∀ m ∈ members, m.1 ≠ none ∧ Held room m.2 := by
  constructor
  · rintro ⟨⟩
    next hkey h => exact fun m hm => ⟨hkey m hm, h m hm⟩
  · exact fun h => .object (fun m hm => (h m hm).1) fun m hm => (h m hm).2

end CatalogFeed.Json
