import CatalogFeed.Catalog.Store
import CatalogFeed.Service

/-!
# Catalog/Access — the catalog as others see it

What a listener may ask of the catalog that raised an event: a host setting, a table, and the
replacement of a table.  `Store.service` answers these requests from a store in memory.
-/

namespace CatalogFeed.Catalog

/-- What can be asked of a catalog. -/
inductive Request where
  | setting (key : String)
  | getTable (database table : String)
  | alterTable (database table : String) (definition : Table)

/-- What a catalog answers. -/
@[reducible] def Request.Reply : Request → Type
  | .setting _ => Option String
  | .getTable _ _ => Except CatalogError Table
  | .alterTable _ _ _ => Except CatalogError Unit

/-- Access to a catalog. -/
@[reducible] def access : Interface := ⟨Request, Request.Reply⟩

/-- The value of a host setting. -/
def setting? (key : String) : Script access (Option String) :=
  Script.request (I := access) (.setting key)

/-- The current definition of a table. -/
def getTable (database table : String) : Script access (Except CatalogError Table) :=
  Script.request (I := access) (.getTable database table)

/-- Replaces the definition of a table. -/
def alterTable (database table : String) (definition : Table) :
    Script access (Except CatalogError Unit) :=
  Script.request (I := access) (.alterTable database table definition)

namespace Store

/-- The answer to a request, the store after it, and the log entries that it leaves. -/
def answer (s : Store) : (r : Request) → r.Reply × Store × List LogEntry
  | .setting key => (s.setting? key, s, [])
  | .getTable database table => (s.getTable database table, s, [])
  | .alterTable database table definition =>
    match s.alterTable database table definition with
    | .ok s => (.ok (), s, [alteredEntry database table])
    | .error e => (.error e, s, [])

/-- A catalog in memory as a service. -/
def service : Service access Store where
  serve request _ s :=
    let (reply, s, entries) := s.answer request
    ⟨reply, s, 0, entries⟩

/-- What a script ends with on a store. -/
def ask {α : Type} (s : Store) (script : Script access α) : α := (service.run script s {}).1

end Store
end CatalogFeed.Catalog
