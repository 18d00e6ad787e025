import CatalogFeed.Toml.Scan
import CatalogFeed.Toml.Tree

/-!
# Toml/Reader — settings written as a TOML text

A text is a sequence of lines: headers of tables, and pairs of keys and values that belong to the
table of the last header.  `readText` gives the entries of the outermost table.
-/

namespace CatalogFeed.Toml

open Setting (Scalar)

/-! ## Values -/

mutual

/-- Reads a value; `room` lists and tables may be nested in it. -/
def readValue : Nat → Nat → List Char → Option (Setting × List Char)
  | 0, _, _ => none
  | fuel + 1, room, cs =>
    match cs with
    | '"' :: rest => do
      let (s, rest) ← scanString '"' rest
      some (.scalar (.text s) (some .file), rest)
    | '\'' :: rest => do
      let (s, rest) ← scanString '\'' rest
      some (.scalar (.text s) (some .file), rest)
    | '[' :: rest =>
      match room with
      | 0 => none
      | room + 1 => do
        let (items, rest) ← readItems fuel room rest
        some (.list items (some .file), rest)
    | '\x7b' :: rest =>
      match room with
      | 0 => none
      | room + 1 =>
        match skipBlanks rest with
        | '\x7d' :: rest => some (.table [] (some .file), rest)
        | rest => do
          let (entries, rest) ← readPairs fuel room [] rest
          some (.table (settingsOf entries) (some .file), rest)
    | cs => do
      let (value, rest) ← scanScalar cs
      some (.scalar value (some .file), rest)

/-- Reads the items of a list, between which blanks, comments and line breaks may stand, up to the
closing bracket. -/
def readItems : Nat → Nat → List Char → Option (List Setting × List Char)
  | 0, _, _ => none
  | fuel + 1, room, cs => do
    match ← skipLines cs.length cs with
    | ']' :: rest => some ([], rest)
    | cs =>
      let (item, rest) ← readValue fuel room cs
      match ← skipLines rest.length rest with
      | ']' :: rest => some ([item], rest)
      | ',' :: rest =>
        let (items, rest) ← readItems fuel room rest
        some (item :: items, rest)
      | _ => none

/-- Reads pairs on one line up to the closing brace; `entries` are those before. -/
def readPairs : Nat → Nat → Tree → List Char → Option (Tree × List Char)
  | 0, _, _, _ => none
  | fuel + 1, room, entries, cs => do
    let (keys, rest) ← scanKeys nestingLimit cs
    match rest with
    | '=' :: rest =>
      let (value, rest) ← readValue fuel room (skipBlanks rest)
      let entries ← Tree.insert value true keys entries
      match skipBlanks rest with
      | '\x7d' :: rest => some (entries, rest)
      | ',' :: rest => readPairs fuel room entries rest
      | _ => none
    | _ => none

end

/-! ## Lines -/

/-- What a line says. -/
inductive Line where
  | header (keys : List String)
  | itemHeader (keys : List String)
  | pair (keys : List String) (value : Setting)

/-- Reads a line, which starts with neither blank nor comment nor line break. -/
def readLine (cs : List Char) : Option (Line × List Char) :=
  match cs with
  | '[' :: '[' :: rest => do
    let (keys, rest) ← scanKeys nestingLimit rest
    match rest with
    | ']' :: ']' :: rest => some (.itemHeader keys, rest)
    | _ => none
  | '[' :: rest => do
    let (keys, rest) ← scanKeys nestingLimit rest
    match rest with
    | ']' :: rest => some (.header keys, rest)
    | _ => none
  | cs => do
    let (keys, rest) ← scanKeys nestingLimit cs
    match rest with
    | '=' :: rest =>
      let (value, rest) ← readValue (rest.length + 1) nestingLimit (skipBlanks rest)
      some (.pair keys value, rest)
    | _ => none

/-- Reads lines, at most `fuel` of them. -/
def readLines : Nat → List Char → Option (List Line)
  | 0, _ => none
  | fuel + 1, cs => do
    match ← skipLines cs.length cs with
    | [] => some []
    | cs =>
      let (line, rest) ← readLine cs
      let rest ← endLine? rest
      let lines ← readLines fuel rest
      some (line :: lines)

/-- The tree that lines build up, after `tree`; pairs belong to the table at `place`. -/
def build (place : List String) (tree : Tree) : List Line → Option Tree
  | [] => some tree
  | .header keys :: rest => do
    let tree ← Tree.openTable keys tree
    build keys tree rest
  | .itemHeader keys :: rest => do
    let tree ← Tree.openItem keys tree
    build keys tree rest
  | .pair keys value :: rest => do
    let tree ← Tree.descend (Tree.insert value true keys) place tree
    build place tree rest

/-- The entries that a text holds; nothing if it is not well formed, or stands as a whole for a
moment. -/
def readText (text : String) : Option (List (String × Setting)) := do
  let cs := match text.toList with
    | '\uFEFF' :: rest => rest
    | cs => cs
  let lines ← readLines (cs.length + 1) cs
  let tree ← build [] [] lines
  match ← withMoments (.table (settingsOf tree) (some .file)) with
  | .table entries _ => some entries
  | _ => none

end CatalogFeed.Toml
