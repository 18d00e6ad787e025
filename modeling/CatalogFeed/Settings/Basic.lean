import CatalogFeed.Number.Binary64
import CatalogFeed.Text.LowerCase

/-!
# Settings/Basic — trees of settings in layers

A `Setting` is a scalar, a list or a table, and remembers where it was written.  Settings are laid
over one another: a table joins the table that is there already, key by key, and anything else takes
the place of what is there.  Keys are not told apart by case; they are kept in small letters.

* `Setting.place` lays a value under a key of a table.
-/

namespace CatalogFeed

/-- Where a setting was written. -/
inductive Setting.Source where
  | file
  | environment
  deriving DecidableEq, Repr

/-- A setting that is neither list nor table. -/
inductive Setting.Scalar where
  | nil
  | bool (value : Bool)
  | integer (value : Int64)
  | decimal (value : Binary64)
  | text (value : String)
  deriving DecidableEq, Repr

/-- A setting; `source` is none for a list or table that was made to hold others. -/
inductive Setting where
  | scalar (value : Setting.Scalar) (source : Option Setting.Source)
  | list (items : List Setting) (source : Option Setting.Source)
  | table (entries : List (String × Setting)) (source : Option Setting.Source)

namespace Setting

/-- Where the setting was written. -/
def source : Setting → Option Source
  | scalar _ source => source
  | list _ source => source
  | table _ source => source

/-- A place that is not filled. -/
def unset : Setting := scalar .nil none

/-- A table without entries. -/
def emptyTable : Setting := table [] none

instance : Inhabited Setting := ⟨unset⟩

/-! ## Entries -/

/-- The setting under `key`. -/
def lookup (key : String) : List (String × Setting) → Option Setting
  | [] => none
  | (k, s) :: rest => if k = key then some s else lookup key rest

/-- The entries with `f` applied under `key`, which is added at the end if it is new. -/
def alter (key : String) (f : Option Setting → Setting) :
    List (String × Setting) → List (String × Setting)
  | [] => [(key, f none)]
  | (k, s) :: rest => if k = key then (k, f (some s)) :: rest else (k, s) :: alter key f rest

theorem lookup_alter_self (key : String) (f : Option Setting → Setting) :
    ∀ entries, lookup key (alter key f entries) = some (f (lookup key entries))
  | [] => by simp [alter, lookup]
  | (k, s) :: rest => by
    by_cases h : k = key
    · simp [alter, lookup, h]
    · simp [alter, lookup, h, lookup_alter_self key f rest]

theorem lookup_alter_of_ne {key other : String} (h : other ≠ key)
    (f : Option Setting → Setting) :
    ∀ entries, lookup other (alter key f entries) = lookup other entries
  | [] => by simp [alter, lookup, Ne.symm h]
  | (k, s) :: rest => by
    by_cases hk : k = key
    · simp [alter, lookup, hk, Ne.symm h]
    · simp [alter, lookup, hk, lookup_alter_of_ne h f rest]

/-- Changes what is under `key`; a setting that is no table gives way to one. -/
def under (key : String) (f : Option Setting → Setting) : Setting → Setting
  | table entries source => table (alter key f entries) source
  | _ => table (alter key f []) none

/-! ## Laying settings over one another -/

mutual

/-- Lays a setting under `key` of a table. -/
def place (key : String) : Setting → Setting → Setting
  | table entries _, target =>
    under (Text.lowerCase key) (fun there => placeAll entries (there.getD emptyTable)) target
  | s, target => under (Text.lowerCase key) (fun _ => s) target

/-- Lays entries over a table, in the order in which they are given. -/
def placeAll : List (String × Setting) → Setting → Setting
  | [], target => target
  | (key, s) :: rest, target => placeAll rest (place key s target)

end

end Setting
end CatalogFeed
