import CatalogFeed.Config.Load
import CatalogFeed.Proofs.Settings.Records

/-!
# Proofs/Config/Variables — what is made of a file and the environment

A configuration is read off the tree of all settings, section by section (`loadEntries_ok_iff`).
Variables are laid over the tree one by one (`combine_append`), and those of other programs do not
count (`environmentLayer_cons_foreign`).

The entries of a file are laid in no fixed order.  So a file is `Accepted` as a configuration if it
gives it in every order (`Reordered`), as it does if no two of its entries are for one place
(`Unambiguous.accepted`).
-/

namespace CatalogFeed.Config

open Setting

variable {name : String} {entries order : List (String × Setting)}
  {environment : List (String × String)} {c : Config}

/-! ## Variables -/

/-- **A variable of another program**: its name, in small letters, does not start with the stem. -/
def Foreign (name : String) : Prop :=
  ¬ environmentStem.toList <+: (Text.lowerCase name).toList

instance (name : String) : Decidable (Foreign name) := inferInstanceAs (Decidable (¬ _))

theorem environmentKey?_of_foreign (h : Foreign name) : environmentKey? name = none :=
  if_neg fun hprefix => h (List.isPrefixOf_iff_prefix.mp hprefix)

theorem environmentKey?_of_lowerCase {rest : String}
    (h : Text.lowerCase name = environmentStem ++ rest) :
    environmentKey? name = some (String.ofList (pointed rest.toList)) := by
  have hname : (Text.lowerCase name).toList = environmentStem.toList ++ rest.toList := by
    rw [h, String.toList_append]
  rw [environmentKey?, hname, List.drop_left]
  exact if_pos (List.isPrefixOf_iff_prefix.mpr (List.prefix_append _ _))

/-- Variables are laid over the tree in their order. -/
theorem combine_append (entries : List (String × Setting)) (before after : List (String × String)) :
    combine entries (before ++ after) =
      assignAll (environmentLayer after) (combine entries before) := by
  rw [combine, environmentLayer, List.filterMap_append, assignAll, List.foldl_append]
  rfl

/-- A variable that sets something, before others. -/
theorem environmentLayer_cons {key : String} (hname : environmentKey? name = some key)
    (value : String) (environment : List (String × String)) :
    environmentLayer ((name, value) :: environment) =
      (.ofKey key, .scalar (.text value) (some .environment)) :: environmentLayer environment := by
  simp only [environmentLayer, List.filterMap_cons, hname, Option.map_some]

theorem environmentLayer_cons_foreign (h : Foreign name) (value : String)
    (environment : List (String × String)) :
    environmentLayer ((name, value) :: environment) = environmentLayer environment := by
  simp only [environmentLayer, List.filterMap_cons, environmentKey?_of_foreign h, Option.map_none]

theorem environmentLayer_of_foreign (h : ∀ x ∈ environment, Foreign x.1) :
    environmentLayer environment = [] := by
  induction environment with
  | nil => rfl
  | cons x environment ih =>
    obtain ⟨hx, hrest⟩ := List.forall_mem_cons.mp h
    exact (environmentLayer_cons_foreign hx x.2 environment).trans (ih hrest)

/-! ## The tree of all settings -/

/-- The environment is laid over what is made of the file. -/
theorem combine_eq (entries : List (String × Setting)) (environment : List (String × String)) :
    combine entries environment =
      assignAll (environmentLayer environment) (combine entries []) :=
  combine_append entries [] environment

theorem isTable_combine (entries : List (String × Setting)) (environment : List (String × String)) :
    (combine entries environment).isTable = true :=
  isTable_assignAll (isTable_assignAll rfl)

theorem combine_nil (entries : List (String × Setting)) :
    combine entries [] = assignAll (fileLayer entries) emptyTable := rfl

theorem tidy_combine (h : (table entries none).Tidy) : (combine entries []).Tidy := by
  rw [combine_nil]
  exact Tidy.assignAll (List.forall_mem_map.mpr h.entry) Tidy.emptyTable

theorem loadEntries_eq_ok_iff :
    loadEntries entries environment = .ok c ↔
      readAs shape (combine entries environment) = .ok c.toRow := by
  rw [loadEntries]
  cases readAs shape (combine entries environment) with
  | error refusal => simp
  | ok row => exact ⟨fun h => by cases h; rfl, fun h => by cases h; rfl⟩

/-- What is read from a text is loaded with the environment. -/
theorem load_of_read {format : FileFormat} {text : String} (h : format.read text = some entries) :
    load format (some text) environment = loadEntries entries environment := by
  simp only [load, h]

/-- **A configuration is read section by section.** -/
theorem loadEntries_ok_iff :
    loadEntries entries environment = .ok c ↔
      FieldReads BrokerConfig.shape none ((combine entries environment).get? "broker")
        c.broker.toRow ∧
      FieldReads DirectoryConfig.shape (some (.record []))
        ((combine entries environment).get? "directory") c.directory.toRow ∧
      FieldReads HostConfig.shape (some (.record [])) ((combine entries environment).get? "host")
        c.host.toRow := by
  rw [loadEntries_eq_ok_iff, readAs_record_iff (isTable_combine entries environment)]
  simp only [FieldsRead, toRow, and_true]

/-- **The host's section is its properties**, which are a map. -/
theorem host_reads_iff {s : Setting} (h : ∀ host ∈ s.get? "host", host.isTable = true)
    {host : HostConfig} :
    FieldReads HostConfig.shape (some (.record [])) (s.get? "host") host.toRow ↔
      readAs .dict ((s.descend ["host", "properties"]).getD emptyTable) = .ok host.properties := by
  rw [fieldReads_record_iff h, FieldsRead, FieldsRead, and_true, fieldReads_dict_iff,
    descend_pair]
  rfl

/-! ## The order of entries -/

/-- **The entries of a file in another order**, and those of the tables in it. -/
def Reordered (entries order : List (String × Setting)) : Prop :=
  Rearranged (table entries none) (table order none)

theorem Reordered.refl (entries : List (String × Setting)) : Reordered entries entries :=
  Relation.ReflTransGen.refl

/-- **The file is accepted as the configuration**: no table in it has a key twice, and it gives the
configuration in whatever order its entries are laid. -/
structure Accepted (entries : List (String × Setting)) (c : Config) : Prop where
  tidy : (table entries none).Tidy
  loads {order : List (String × Setting)} (h : Reordered entries order) :
    loadEntries order [] = .ok c

/-- The chain of the path that a key of a file is read as. -/
def fileChain (key : String) : List String := (Path.ofKey (Text.lowerCase key)).chain

/-- **No two entries of the file are for one place**: in each table the keys differ however they are
spelled, and the paths of the outermost ones part. -/
structure Unambiguous (entries : List (String × Setting)) : Prop where
  apart : (table entries none).Apart Text.lowerCase
  part : (entries.map Prod.fst).Pairwise fun key key' => Diverge (fileChain key) (fileChain key')

theorem assignAll_append (layer rest : List (Path × Setting)) (target : Setting) :
    assignAll (layer ++ rest) target = assignAll rest (assignAll layer target) :=
  List.foldl_append

/-- **After a change of order** nothing is for one place still, and the tree is alike. -/
theorem Unambiguous.shuffle (h : Unambiguous entries)
    (horder : Shuffle (table entries none) (table order none)) :
    Unambiguous order ∧ Alike (combine entries []) (combine order []) := by
  have hapart := horder.apart h.apart
  cases horder with
  | entries _ hperm =>
    have hlayer : (fileLayer entries).Pairwise fun e e' => Diverge e.1.chain e'.1.chain := by
      have hpart := h.part
      rw [List.pairwise_map] at hpart
      rwa [fileLayer, List.pairwise_map]
    refine ⟨⟨hapart, (hperm.map _).pairwise h.part Diverge.symm⟩, ?_⟩
    rw [combine_nil, combine_nil]
    exact alike_assignAll_of_perm (hperm.map _) hlayer emptyTable
  | @value before after key _ s t hvalue =>
    refine ⟨⟨hapart, by simpa using h.part⟩, ?_⟩
    have hs : s.Apart Text.lowerCase := h.apart.entry (key, s) (by simp)
    simp only [combine_nil, fileLayer, List.map_append, List.map_cons, assignAll_append]
    exact ((hvalue.laidAlike hs).assign _ (.refl _)).assignAll _

/-- **However its entries are ordered**, the tree of an unambiguous file is alike. -/
theorem Unambiguous.reordered (h : Unambiguous entries) (horder : Reordered entries order) :
    Unambiguous order ∧ Alike (combine entries []) (combine order []) := by
  have hall {s : Setting} (hs : Rearranged (table entries none) s) : ∃ order,
      s = table order none ∧ Unambiguous order ∧
        Alike (combine entries []) (combine order []) := by
    induction hs with
    | refl => exact ⟨entries, rfl, h, .refl _⟩
    | @tail s t _ hstep ih =>
      obtain ⟨order, rfl, horder, halike⟩ := ih
      obtain ⟨order', rfl⟩ : ∃ order', t = table order' none := by
        cases hstep <;> exact ⟨_, rfl⟩
      obtain ⟨horder', halike'⟩ := horder.shuffle hstep
      exact ⟨order', rfl, horder', halike.trans halike'⟩
  obtain ⟨order', heq, horder', halike⟩ := hall horder
  cases heq
  exact ⟨horder', halike⟩

/-- **A file whose entries are for different places is accepted**, if it is in the order in which it
is written. -/
theorem Unambiguous.accepted (h : Unambiguous entries) (hload : loadEntries entries [] = .ok c) :
    Accepted entries c := by
  refine ⟨h.apart.tidy, fun {order} horder => ?_⟩
  obtain ⟨horder, halike⟩ := h.reordered horder
  have hagree : Agree (combine entries []) (combine order []) :=
    ⟨halike, tidy_combine h.apart.tidy, tidy_combine horder.apart.tidy⟩
  exact loadEntries_eq_ok_iff.mpr (hagree.readAs _ (loadEntries_eq_ok_iff.mp hload))

/-! ## A small file -/

/-- A file with the address of one broker, and one more setting. -/
def oneBrokerFile : String := "[broker]\nbrokers = [\"localhost:9092\"]\nacks = \"1\"\n"

/-- Its entries. -/
def oneBrokerEntries : List (String × Setting) :=
  [("broker", table [("brokers", list [scalar (.text "localhost:9092") (some .file)] (some .file)),
    ("acks", scalar (.text "1") (some .file))] (some .file))]

def oneBrokerConfig : Config := { broker := { brokers := ["localhost:9092"], acks := "1" } }

theorem accepted_oneBrokerEntries : Accepted oneBrokerEntries oneBrokerConfig := by
  have hbroker : (table [("brokers", list [scalar (.text "localhost:9092") (some .file)]
      (some .file)), ("acks", scalar (.text "1") (some .file))] (some .file)).Apart
      Text.lowerCase := by
    refine .table _ (List.pairwise_pair.mpr (by decide +kernel)) ?_
    simp only [List.forall_mem_cons]
    exact ⟨.list _ (List.forall_mem_singleton.mpr (.scalar _ _)), .scalar _ _, nofun⟩
  refine Unambiguous.accepted ⟨?_, List.pairwise_singleton _ _⟩ (by decide +kernel)
  exact .table none (List.pairwise_singleton _ _) (List.forall_mem_singleton.mpr hbroker)

end CatalogFeed.Config
