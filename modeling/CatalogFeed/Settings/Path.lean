import CatalogFeed.Settings.Basic

/-!
# Settings/Path — paths into a tree of settings

A path such as `broker.brokers[0]` leads from a table to a setting in it: by keys, separated by
points, and by places in lists.  `Setting.assign` lays a setting at the end of a path, and makes on
the way whatever tables and lists are missing.
-/

namespace CatalogFeed.Setting

/-- A step of a path. -/
inductive Step where
  | key (name : String)
  /-- A place in a list; a negative one counts from the end. -/
  | index (i : Int)
  deriving DecidableEq, Repr

/-- A path: a key, then further steps. -/
structure Path where
  head : String
  steps : List Step
  deriving DecidableEq, Repr

namespace Path

/-- The characters of a key in a path. -/
def isKeyChar (c : Char) : Bool := c.isAlphanum || c == ' ' || c == '_' || c == '-'

/-- The blanks around an index. -/
def isIndexBlank (c : Char) : Bool := c == ' ' || c == '\t'

/-- The greatest index. -/
def indexLimit : Nat := UInt64.size / 2

/-- Reads the number of an index; what does not fit in a word is no index. -/
def readIndex? (cs : List Char) : Option Int :=
  let (negative, digits) := match cs with
    | '-' :: rest => (true, rest)
    | rest => (false, rest)
  if digits.isEmpty || !digits.all Char.isDigit then none
  else
    let n := Nat.ofDigitChars 10 digits 0
    if negative then if n ≤ indexLimit then some (-(n : Int)) else none
    else if n < indexLimit then some n else none

/-- Reads the steps after the head, at most `fuel` of them. -/
def readSteps : Nat → List Char → Option (List Step)
  | _, [] => some []
  | 0, _ => none
  | fuel + 1, '.' :: rest =>
    let name := rest.takeWhile isKeyChar
    if name.isEmpty then none
    else (readSteps fuel (rest.dropWhile isKeyChar)).map (.key (String.ofList name) :: ·)
  | fuel + 1, '[' :: rest =>
    let inner := rest.takeWhile (· != ']')
    let number := ((inner.dropWhile isIndexBlank).reverse.dropWhile isIndexBlank).reverse
    match rest.dropWhile (· != ']') with
    | [] => none
    | _ :: rest =>
      match readIndex? number with
      | none => none
      | some i => (readSteps fuel rest).map (.index i :: ·)
  | _, _ => none

/-- Reads a path. -/
def read? (text : String) : Option Path :=
  let cs := text.toList
  let head := cs.takeWhile isKeyChar
  if head.isEmpty then none
  else (readSteps cs.length (cs.dropWhile isKeyChar)).map (⟨String.ofList head, ·⟩)

/-- The path of a key; a key that is no path is taken as it is. -/
def ofKey (key : String) : Path := (read? key).getD ⟨key, []⟩

end Path

/-! ## Assignment -/

/-- The place in a list of `length` items that an index stands for. -/
def position (i : Int) (length : Nat) : Nat :=
  if 0 ≤ i then i.toNat else length - i.natAbs

/-- Changes the item at a place; missing items before it are unset. -/
def atPosition (n : Nat) (f : Setting → Setting) (items : List Setting) : List Setting :=
  let padded := items ++ List.replicate (n + 1 - items.length) unset
  padded.modify n f

/-- Changes the item at an index; a setting that is no list gives way to one. -/
def within (i : Int) (f : Setting → Setting) : Setting → Setting
  | list items source => list (atPosition (position i items.length) f items) source
  | _ => list (atPosition (position i 0) f []) none

/-- Lays a setting at the end of a path: a key, then steps. -/
def assignFrom (value : Setting) (name : String) : List Step → Setting → Setting
  | [] => place name value
  | .key next :: steps =>
    under (Text.lowerCase name) fun there => assignFrom value next steps (there.getD unset)
  | .index i :: steps =>
    under (Text.lowerCase name) fun there => assignWithin value i steps (there.getD unset)
where
  /-- The same at a place in a list. -/
  assignWithin (value : Setting) (i : Int) : List Step → Setting → Setting
    | [] => within i fun _ => value
    | .key next :: steps => within i (assignFrom value next steps)
    | .index j :: steps => within i (assignWithin value j steps)

/-- Lays a setting at a path of a table. -/
def assign (path : Path) (value target : Setting) : Setting :=
  assignFrom value path.head path.steps target

/-- Lays settings over a table, each at its path, in order. -/
def assignAll (layer : List (Path × Setting)) (target : Setting) : Setting :=
  layer.foldl (fun target entry => assign entry.1 entry.2 target) target

end CatalogFeed.Setting
