import CatalogFeed.Settings.Basic

/-!
# Toml/Tree — tables as a TOML text builds them up

A text fills its tables in any order, but each table is defined once: by a header, by dotted keys,
or in passing, as part of the name of another.  `Tree` remembers how each table came about, so that
a second definition is refused.

* `Tree.insert` puts a value under dotted keys;
* `Tree.openTable`, `Tree.openItem` make the table of a header.
-/

namespace CatalogFeed.Toml

/-- How a table came about. -/
inductive Making where
  /-- By a header of its own. -/
  | header
  /-- As part of the name in a header. -/
  | passing
  /-- By dotted keys. -/
  | dotted
  deriving DecidableEq, Repr

/-- What stands under a key. -/
inductive Node where
  | value (setting : Setting)
  | table (making : Making) (entries : List (String × Node))
  /-- A list of tables, last one first. -/
  | tables (items : List (List (String × Node)))

/-- The entries of a table. -/
abbrev Tree := List (String × Node)

namespace Tree

/-- The node under `key`. -/
def lookup (key : String) : Tree → Option Node
  | [] => none
  | (k, node) :: rest => if k = key then some node else lookup key rest

/-- Sets the node under `key`. -/
def set (key : String) (node : Node) : Tree → Tree
  | [] => [(key, node)]
  | (k, old) :: rest => if k = key then (k, node) :: rest else (k, old) :: set key node rest

/-- The table without what stands under `key`. -/
def erase (key : String) (tree : Tree) : Tree := tree.filter fun entry => entry.1 != key

/-! ## Values -/

/-- Puts a value under dotted keys of a table; the last of them is new.  A table that is reached by
dotted keys takes the value only if dotted keys have made it; `takes` says so of the table
itself. -/
def insert (value : Setting) (takes : Bool) : List String → Tree → Option Tree
  | [], _ => none
  | [key], tree =>
    match takes, lookup key tree with
    | true, none => some (set key (.value value) tree)
    | _, _ => none
  | key :: keys, tree =>
    match lookup key tree with
    | none => do
      let inner ← insert value true keys []
      some (set key (.table .dotted inner) tree)
    | some (.table .header _) => none
    | some (.table making inner) => do
      let inner ← insert value (making == .dotted) keys inner
      some (set key (.table making inner) tree)
    | some (.tables (item :: items)) => do
      let item ← insert value false keys item
      some (set key (.tables (item :: items)) tree)
    | some _ => none

/-! ## Headers -/

/-- Changes the table that keys lead to, through tables and the last items of lists; missing tables
are made in passing. -/
def descend (f : Tree → Option Tree) : List String → Tree → Option Tree
  | [], tree => f tree
  | key :: keys, tree =>
    match lookup key tree with
    | none => do
      let inner ← descend f keys []
      some (set key (.table .passing inner) tree)
    | some (.table making inner) => do
      let inner ← descend f keys inner
      some (set key (.table making inner) tree)
    | some (.tables (item :: items)) => do
      let item ← descend f keys item
      some (set key (.tables (item :: items)) tree)
    | some _ => none

/-- Makes the table of a header.  A table that was made in passing keeps its entries, and moves to
the end. -/
def openTable (keys : List String) (tree : Tree) : Option Tree :=
  match keys.getLast? with
  | none => none
  | some key =>
    descend (fun parent =>
      match lookup key parent with
      | none => some (set key (.table .header []) parent)
      | some (.table .passing inner) => some (erase key parent ++ [(key, .table .header inner)])
      | some _ => none) keys.dropLast tree

/-- Makes a new item in the list of tables of a header. -/
def openItem (keys : List String) (tree : Tree) : Option Tree :=
  match keys.getLast? with
  | none => none
  | some key =>
    descend (fun parent =>
      match lookup key parent with
      | none => some (set key (.tables [[]]) parent)
      | some (.tables items) => some (set key (.tables ([] :: items)) parent)
      | some _ => none) keys.dropLast tree

end Tree

/-! ## Settings -/

mutual

/-- A node as a setting. -/
def Node.setting : Node → Setting
  | .value s => s
  | .table _ entries => .table (settingsOf entries) (some .file)
  | .tables items => .list (itemsOf items).reverse (some .file)

/-- Entries as settings. -/
def settingsOf : List (String × Node) → List (String × Setting)
  | [] => []
  | (key, node) :: rest => (key, node.setting) :: settingsOf rest

/-- Tables as settings. -/
def itemsOf : List (List (String × Node)) → List Setting
  | [] => []
  | entries :: rest => .table (settingsOf entries) (some .file) :: itemsOf rest

end

end CatalogFeed.Toml
