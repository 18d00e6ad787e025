import CatalogFeed.Catalog.Access

/-!
# Topic — where a notice is published

Partitions are announced on the topic that their table carries as a property; databases on the
prefix that the host configures; tables on the prefix followed by the database.  A table is given
its own topic when it is created: prefix, database and table, joined by points.  The names are in
small letters, the prefix stays as it is.
-/

namespace CatalogFeed

open Catalog (access)

namespace Topic

/-- The table property that holds the table's topic. -/
def nameProperty : String := "hcat.msgbus.topic.name"

/-- The host setting that holds the prefix. -/
def prefixSetting : String := "hcat.msgbus.topic.prefix"

/-- The prefix of a host that sets none. -/
def defaultPrefix : String := "hcat"

/-- The topic of table events in a database. -/
def ofDatabase (stem database : String) : String := stem ++ "." ++ Text.lowerCase database

/-- The topic given to a new table. -/
def ofTable (stem database table : String) : String :=
  stem ++ "." ++ Text.lowerCase database ++ "." ++ Text.lowerCase table

/-- The topic that a table carries. -/
def stored? (t : Table) : Option String := t.parameters.get? nameProperty

/-- A table that carries a topic. -/
def store (topic : String) (t : Table) : Table :=
  { t with parameters := t.parameters.insert nameProperty topic }

@[simp] theorem stored?_store (topic : String) (t : Table) : stored? (store topic t) = some topic :=
  by simp [stored?, store]

/-! ## Reading from the catalog -/

/-- The configured prefix.  It is read on every use, so that it can be changed at run time. -/
def configuredPrefix : Script access String := do
  let value ← Catalog.setting? prefixSetting
  return value.getD defaultPrefix

/-- The topic of table events in a database. -/
def databaseTopic (database : String) : Script access String := do
  let stem ← configuredPrefix
  return ofDatabase stem database

/-- The topic to be given to a new table. -/
def tableTopic (database table : String) : Script access String := do
  let stem ← configuredPrefix
  return ofTable stem database table

/-- Where the topic of an event comes from. -/
inductive Source where
  /-- The current definition of a table. -/
  | owningTable (database table : String)
  /-- A definition that the event carries. -/
  | storedOn (t : Table)
  /-- The prefix alone. -/
  | prefixAlone

/-- An empty name is no topic. -/
def nonEmpty (name : Option String) : Option String := name.filter (!·.isEmpty)

/-- The topic from a source: nothing if none is configured, an error if the owning table cannot be
read. -/
def resolve : Source → Script access (Except CatalogError (Option String))
  | .owningTable database table => do
    match ← Catalog.getTable database table with
    | .ok t => return .ok (nonEmpty (stored? t))
    | .error e => return .error e
  | .storedOn t => return .ok (nonEmpty (stored? t))
  | .prefixAlone => do
    let stem ← configuredPrefix
    return .ok (nonEmpty (some stem))

end Topic
end CatalogFeed
