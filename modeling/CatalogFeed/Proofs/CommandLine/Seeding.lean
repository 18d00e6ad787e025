import CatalogFeed.CommandLine.Run
import CatalogFeed.Proofs.Catalog.EventCodec
import CatalogFeed.Proofs.Fallible
import CatalogFeed.Proofs.Feed.Databases
import CatalogFeed.Proofs.Settings.Codec
import CatalogFeed.Proofs.Text.Utf8

/-!
# Proofs/CommandLine/Seeding — what a run finds in its catalog

A run begins with the catalog of its snapshot.  The properties of the host are filled in one after
the other, where the snapshot leaves a setting open; the entries of the snapshot are put under their
keys in one go, and not by the operations that later put one.

* `Properties.get?_foldl_fillIn`: a setting is that of the snapshot, or else that of the host;
* `Catalog.Snapshot.seed_of_perm`: the properties may be filled in in any order;
* `Store.foldl_put`: to put databases and tables one by one does to the databases what the databases
  do, and to the tables what the tables do;
* `catalog_is_seeded`: so the catalog is the one that its snapshot and the host describe.
-/

namespace CatalogFeed

open Catalog (Store)

/-! ## Settings that are filled in -/

namespace Properties

/-- A setting that is filled in is seen only where there was none. -/
theorem get?_fillIn (settings : Properties) (entry : String × String) (key : String) :
    (settings.fillIn entry).get? key =
      (settings.get? key).or (if entry.1 = key then some entry.2 else none) := by
  rw [fillIn, Dict.contains]
  by_cases hkey : entry.1 = key
  · rw [if_pos hkey, ← hkey]
    cases hfound : settings.get? entry.1 with
    | none => exact Dict.get?_insert_self settings entry.1 entry.2
    | some value => exact hfound
  · rw [if_neg hkey, Option.or_none]
    split
    · rfl
    · exact Dict.get?_insert_of_ne settings entry.2 (Ne.symm hkey)

/-- **A setting is what it was, or else the first that is filled in under its key.** -/
theorem get?_foldl_fillIn (entries : List (String × String)) (settings : Properties)
    (key : String) :
    (entries.foldl fillIn settings).get? key = (settings.get? key).or (Dict.find key entries) := by
  induction entries generalizing settings with
  | nil => exact Option.or_none.symm
  | cons entry entries ih =>
    rw [List.foldl_cons, ih, get?_fillIn, Option.or_assoc, Dict.find_cons]

/-- Settings under different keys are filled in in either order. -/
theorem fillIn_comm (settings : Properties) {a b : String × String} (h : a.1 ≠ b.1) :
    (settings.fillIn a).fillIn b = (settings.fillIn b).fillIn a := by
  refine Dict.ext_get? fun key => ?_
  simp only [get?_fillIn, Option.or_assoc]
  by_cases ha : a.1 = key
  · have hb : b.1 ≠ key := fun hb => h (ha.trans hb.symm)
    rw [if_neg hb, Option.none_or, Option.or_none]
  · rw [if_neg ha, Option.none_or, Option.or_none]

end Properties

/-- **The properties of a host may be filled in in any order.** -/
theorem Catalog.Snapshot.seed_of_perm (snapshot : Catalog.Snapshot) {properties : Properties}
    {order : List (String × String)} (h : order.Perm properties.entries) :
    snapshot.seed order = snapshot.seed properties.entries := by
  rw [seed, seed, Dict.foldl_of_perm (fun settings _ _ hkey => settings.fillIn_comm hkey) h]

/-! ## Entries that are put -/

/-- The table, if it stands under the key. -/
def Table.under? (key : TableKey) (t : Table) : Option Table := if t.key = key then some t else none

namespace Catalog.Store

/-- Stores a database or a table. -/
def put (s : Store) : Database ⊕ Table → Store
  | .inl d => s.putDatabase d
  | .inr t => s.putTable t

/-- **Databases and tables are put without regard to one another.** -/
theorem foldl_put (puts : List (Database ⊕ Table)) (s : Store) :
    puts.foldl put s =
      { s with
        databases := (puts.filterMap Sum.getLeft?).foldl (fun databases d =>
          databases.insert (Text.lowerCase d.name) d) s.databases
        tables := (puts.filterMap Sum.getRight?).foldl (fun tables t =>
          tables.insert t.key t) s.tables } := by
  induction puts generalizing s with
  | nil => rfl
  | cons entry puts ih =>
    cases entry with
    | inl d => exact ih (s.putDatabase d)
    | inr t => exact ih (s.putTable t)

/-- **A store has of a snapshot the last table under each key.** -/
theorem get?_tables_ofSnapshot (snapshot : Catalog.Snapshot) (key : TableKey) :
    (ofSnapshot snapshot).tables.get? key =
      (snapshot.tables.filterMap (Table.under? key)).getLast? :=
  Dict.get?_foldl_insert Table.key snapshot.tables key

/-- **A store is the one that a configuration and a snapshot describe.** -/
structure IsSeeded (s : Store) (c : Config) (snapshot : Catalog.Snapshot) : Prop where
  /-- A setting is that of the snapshot, be it empty, or else the property of the host. -/
  setting (key : String) :
    s.setting? key = (snapshot.settings.get? key).or (c.host.properties.get? key)
  /-- So is the prefix of topics.  Where neither has one it is the default. -/
  stem :
    s.ask Topic.configuredPrefix =
      ((snapshot.settings.get? Topic.prefixSetting).or
        (c.host.properties.get? Topic.prefixSetting)).getD Topic.defaultPrefix
  /-- The databases and the tables are those that are there when the entries of the snapshot have
  been put one by one, each kind in its order, into an empty store. -/
  entries (puts : List (Database ⊕ Table))
    (hdatabases : puts.filterMap Sum.getLeft? = snapshot.databases)
    (htables : puts.filterMap Sum.getRight? = snapshot.tables) :
    s.databases = (puts.foldl put {}).databases ∧ s.tables = (puts.foldl put {}).tables
  /-- Of the databases under a key the last is there. -/
  database (key : String) :
    s.databases.get? key = (snapshot.databases.filterMap (Database.under? key)).getLast?
  /-- Of the tables under a key the last is there. -/
  table (key : TableKey) :
    s.tables.get? key = (snapshot.tables.filterMap (Table.under? key)).getLast?
  /-- The properties of the host may come in any order. -/
  unordered (order : List (String × String)) (h : order.Perm c.host.properties.entries) :
    snapshot.seed order = s

end Catalog.Store

/-! ## Loading -/

namespace CommandLine

/-- What a run is given for a snapshot at a path: nothing without a path, or else what the text of
the file says. -/
inductive Surroundings.Gives (s : Surroundings) :
    Option String → Option Catalog.Snapshot → Prop where
  | nothing : s.Gives none none
  | file {path text : String} {snapshot : Catalog.Snapshot}
      (hfile : s.read path = some text.toUTF8)
      (htext : parseAs Catalog.Snapshot text = .ok snapshot) : s.Gives (some path) (some snapshot)

variable {s : Surroundings} {path : Option String}

/-- **A snapshot is loaded exactly if it is given**; the empty one stands for none. -/
theorem loadSnapshot_eq_ok_iff {snapshot : Catalog.Snapshot} :
    loadSnapshot s path = .ok snapshot ↔
      ∃ given, s.Gives path given ∧ given.getD {} = snapshot := by
  constructor
  · intro h
    cases path with
    | none =>
      cases h
      exact ⟨none, .nothing, rfl⟩
    | some path =>
      rw [loadSnapshot] at h
      split at h
      · cases h
      · next text hread =>
        obtain ⟨bytes, hfile, hbytes⟩ := Option.bind_eq_some_iff.mp hread
        obtain rfl := Text.fromUTF8?_eq_some_iff.mp hbytes
        split at h
        · next given htext => exact ⟨some given, .file hfile htext, Except.ok.inj h⟩
        · cases h
  · rintro ⟨given, hgiven, rfl⟩
    cases hgiven with
    | nothing => rfl
    | file hfile htext =>
      rw [loadSnapshot, hfile, Option.bind_some, Text.fromUTF8?_eq_some_iff.mpr rfl]
      simp only [htext]
      rfl

/-- **A run that is given a snapshot, or none, begins with the catalog that the snapshot and the
host describe.** -/
theorem catalog_is_seeded (c : Config) {given : Option Catalog.Snapshot} (h : s.Gives path given) :
    ∃ store, loadCatalog s c path = .ok store ∧ store.IsSeeded c (given.getD {}) := by
  generalize hsnapshot : given.getD {} = snapshot
  have hload : loadCatalog s c path = .ok (c.seed snapshot) :=
    map_eq_ok_iff.mpr ⟨snapshot, loadSnapshot_eq_ok_iff.mpr ⟨given, h, hsnapshot⟩, rfl⟩
  have hsetting (key : String) : (c.seed snapshot).setting? key =
      (snapshot.settings.get? key).or (c.host.properties.get? key) :=
    Properties.get?_foldl_fillIn c.host.properties.entries snapshot.settings key
  refine ⟨c.seed snapshot, hload, ?_⟩
  exact
    { setting := hsetting
      stem := congrArg (·.getD Topic.defaultPrefix) (hsetting Topic.prefixSetting)
      entries := by
        intro puts hdatabases htables
        rw [Store.foldl_put, hdatabases, htables]
        exact ⟨rfl, rfl⟩
      database := Store.get?_databases_ofSnapshot _
      table := Store.get?_tables_ofSnapshot _
      unordered := fun _ horder => snapshot.seed_of_perm horder }

/-! ### Names that differ by case, and an empty prefix -/

instance : LawfulDocumented Catalog.Snapshot := ⟨rfl, Catalog.Snapshot.ofRow_toRow⟩

/-- A snapshot with an empty prefix, and with two entries under each key. -/
def respelledSnapshot : Catalog.Snapshot where
  settings := .ofList [(Topic.prefixSetting, "")]
  databases := [{ name := "Sales" }, { name := "SALES", description := some "in capitals" }]
  tables := [{ name := "q1", database := "sales" },
    { name := "Q1", database := "Sales", owner := some "ann" }]

/-- Its entries, a table after each database. -/
def respelledEntries : List (Database ⊕ Table) :=
  [.inl { name := "Sales" }, .inr { name := "q1", database := "sales" },
    .inl { name := "SALES", description := some "in capitals" },
    .inr { name := "Q1", database := "Sales", owner := some "ann" }]

/-- A host with a prefix of its own, and a region. -/
def regionalConfig : Config where
  broker := { brokers := [] }
  host := ⟨.ofList [(Topic.prefixSetting, "conf"), ("region", "eu")]⟩

/-- Surroundings whose one file is the snapshot. -/
def respelledFile : Surroundings where
  read path := if path = "catalog.json" then some (printDocument respelledSnapshot).toUTF8 else none
  environment := []

theorem catalog_is_seeded_respelled :
    respelledFile.Gives (some "catalog.json") (some respelledSnapshot) ∧
    ∃ store, loadCatalog respelledFile regionalConfig (some "catalog.json") = .ok store ∧
      store.setting? Topic.prefixSetting = some "" ∧ store.setting? "region" = some "eu" ∧
      store.setting? "zone" = none ∧ store.ask Topic.configuredPrefix = "" ∧
      store.databases = (respelledEntries.foldl Store.put {}).databases ∧
      store.tables = (respelledEntries.foldl Store.put {}).tables ∧
      store.databases.get? "sales" =
        some { name := "SALES", description := some "in capitals" } ∧
      store.table? "SALES" "Q1" =
        some { name := "Q1", database := "Sales", owner := some "ann" } ∧
      respelledSnapshot.seed [("region", "eu"), (Topic.prefixSetting, "conf")] = store := by
  have hfile : respelledFile.read "catalog.json" =
      some (printDocument respelledSnapshot).toUTF8 := by
    simp [respelledFile]
  have hgives : respelledFile.Gives (some "catalog.json") (some respelledSnapshot) :=
    .file hfile (parseAs_printDocument respelledSnapshot)
  obtain ⟨store, hload, hseeded⟩ := catalog_is_seeded regionalConfig hgives
  obtain ⟨hdatabases, htables⟩ := hseeded.entries respelledEntries rfl rfl
  refine ⟨hgives, store, hload, ?_, ?_, ?_, ?_, hdatabases, htables, ?_, ?_, ?_⟩
  · exact (hseeded.setting _).trans (by decide +kernel)
  · exact (hseeded.setting _).trans (by decide +kernel)
  · exact (hseeded.setting _).trans (by decide +kernel)
  · exact hseeded.stem.trans (by decide +kernel)
  · exact (hseeded.database _).trans (by decide +kernel)
  · exact (hseeded.table _).trans (by decide +kernel)
  · exact hseeded.unordered _ (by decide +kernel)

end CommandLine
end CatalogFeed
