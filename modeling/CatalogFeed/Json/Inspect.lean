import CatalogFeed.Json.Shape

/-!
# Json/Inspect — checking a whole value

Some values are kept for later, before it is known what they mean.  `inspect` checks everything in
such a value in document order: its grammar, its numbers, its strings, and the depth of nesting.
-/

namespace CatalogFeed.Json

/-- The depth to which a document may be nested. -/
def maxDepth : Nat := 127

mutual

/-- Checks everything in a value; `room` containers may be nested in it. -/
def inspect : Nat → Json → Except Problem Unit
  | room, .array items cut =>
    match room with
    | 0 => .error (.grammar .malformed)
    | room + 1 => do
      inspectItems room items
      checkCut cut
  | room, .object members cut =>
    match room with
    | 0 => .error (.grammar .malformed)
    | room + 1 => do
      inspectMembers room members
      checkCut cut
  | _, j => do
    let _ ← finding j
    .ok ()

/-- Checks the items of an array in order. -/
def inspectItems (room : Nat) : List Json → Except Problem Unit
  | [] => .ok ()
  | j :: rest => do
    inspect room j
    inspectItems room rest

/-- Checks the members of an object in order. -/
def inspectMembers (room : Nat) : List (Option String × Json) → Except Problem Unit
  | [] => .ok ()
  | (key, j) :: rest => do
    let _ ← checkKey key
    inspect room j
    inspectMembers room rest

end

end CatalogFeed.Json
