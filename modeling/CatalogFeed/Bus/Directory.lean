import CatalogFeed.Bus.Call
import CatalogFeed.Text.Quoted

/-!
# Bus/Directory — connection factories by name

A directory binds names to connection factories.  Names are told apart by case.
-/

namespace CatalogFeed.Bus

/-- Connection factories by name. -/
structure Directory where
  bindings : Dict String FactoryId := ∅
  deriving DecidableEq

namespace Directory

/-- Binds a name, in place of any earlier binding. -/
def bind (d : Directory) (name : String) (factory : FactoryId) : Directory :=
  ⟨d.bindings.insert name factory⟩

/-- The factory bound to a name. -/
def lookup (d : Directory) (name : String) : Except Error FactoryId :=
  match d.bindings.get? name with
  | some factory => .ok factory
  | none => .error (.lookup name)

/-- A directory as diagnostics show it: the bound names, in order. -/
def describe (d : Directory) : String :=
  "StaticDirectory \x7b bindings: " ++ Text.quotedList d.bindings.keys ++ " \x7d"

end Directory
end CatalogFeed.Bus
