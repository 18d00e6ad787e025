import CatalogFeed.Catalog.Store
import CatalogFeed.Config

/-!
# Seed — the catalog at the start

A catalog starts from a snapshot, if there is one.  The host properties of the configuration fill in
the settings that the snapshot leaves open.

* `Config.seed` is that catalog.
-/

namespace CatalogFeed

/-- The settings with one more, unless there is one under its key. -/
def Properties.fillIn (settings : Properties) (entry : String × String) : Properties :=
  if settings.contains entry.1 then settings else settings.insert entry.1 entry.2

/-- The catalog of a snapshot whose settings are filled in from properties, one after the other. -/
def Catalog.Snapshot.seed (snapshot : Snapshot) (properties : List (String × String)) : Store :=
  .ofSnapshot { snapshot with settings := properties.foldl Properties.fillIn snapshot.settings }

/-- The catalog that a configuration and a snapshot describe. -/
def Config.seed (c : Config) (snapshot : Catalog.Snapshot) : Catalog.Store :=
  snapshot.seed c.host.properties.entries

end CatalogFeed
