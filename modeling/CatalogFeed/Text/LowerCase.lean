import CatalogFeed.Text.CaseTable

/-!
# Text/LowerCase — full Unicode lower-casing

`lowerCase` maps each character to its small form.  One mapping looks at the neighbours: a capital
sigma that ends a word becomes `ς`, every other one `σ`.  One mapping gives two characters: `İ`
becomes `i` with a dot above.
-/

namespace CatalogFeed.Text

/-- Whether the character has case. -/
def isCased (c : Char) : Bool := inRuns c.toNat casedRuns

/-- Whether the character is looked past in the search for a cased neighbour. -/
def isCaseIgnorable (c : Char) : Bool := inRuns c.toNat caseIgnorableRuns

/-- The small form of a character away from its neighbours. -/
def lowerChar (c : Char) : List Char :=
  if c = 'İ' then ['i', '\u0307']
  else match lowerRuns.findSome? (·.map? c.toNat) with
    | some n => [Char.ofNat n]
    | none => [c]

/-- Whether the nearest character that is not ignorable is cased. -/
def nextIsCased (cs : List Char) : Bool :=
  match cs.dropWhile isCaseIgnorable with
  | [] => false
  | c :: _ => isCased c

/-- Lower-cases `rest`, where `before` is what precedes it, nearest character first. -/
def lowerFrom (before : List Char) : List Char → List Char
  | [] => []
  | c :: rest =>
    let small :=
      if c = 'Σ' then if nextIsCased before && !nextIsCased rest then ['ς'] else ['σ']
      else lowerChar c
    small ++ lowerFrom (c :: before) rest

/-- The text in small letters. -/
def lowerCase (s : String) : String := String.ofList (lowerFrom [] s.toList)

end CatalogFeed.Text
