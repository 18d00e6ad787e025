import CatalogFeed.Proofs.Config.Variables
import CatalogFeed.Proofs.Settings.Codec
import CatalogFeed.Proofs.Text.LowerCase

/-!
# Proofs/Config/RoundTrip — a configuration is loaded from its own text

The text of a configuration goes two ways: it is parsed as it stands, or it is loaded as a file of
settings.  The names of the sections are plain paths (`assignAll_fileLayer`), and what stands below
them is taken literally, whatever characters are in the keys of the properties.  So both ways give
the configuration again (`load_document`), in whatever order its properties were written.
-/

namespace CatalogFeed.Config

open Json (Shape Fields)
open Setting

/-! ## Documents -/

/-- The sections of a configuration, with the properties of the host in the given order. -/
def sections (c : Config) (order : List (String × String)) : List (String × Json) :=
  [("broker", toDocument c.broker), ("directory", toDocument c.directory),
    ("host", .record [("properties", .record (order.map fun e => (e.1, .text e.2)))])]

/-- **A document of the configuration**, with the properties of the host in the given order. -/
def document (c : Config) (order : List (String × String)) : Json := .record (c.sections order)

/-- **The configuration fits a file**: its numbers of milliseconds are integers with a sign, and the
keys of its properties are in small letters. -/
structure FitsFile (c : Config) : Prop where
  messageTimeout : (c.broker.messageTimeoutMs.toNat : Int) ≤ Int64.maxValue.toInt
  connectTimeout : (c.broker.connectTimeoutMs.toNat : Int) ≤ Int64.maxValue.toInt
  sendTimeout : (c.broker.sendTimeoutMs.toNat : Int) ≤ Int64.maxValue.toInt
  keys : ∀ key ∈ c.host.properties.keys, Text.lowerCase key = key

variable {c : Config}

/-! ## Sections -/

/-- The names of the sections and of their fields are in small letters. -/
theorem lowerCase_name : ∀ name ∈ ["broker", "directory", "host", "brokers", "transactional_id",
    "compression", "acks", "message_timeout_ms", "topic_partitions", "topic_replication_factor",
    "connect_timeout_ms", "send_timeout_ms", "connection_factory", "properties"],
    Text.lowerCase name = name := by
  intro name h
  have hascii : (Text.isAscii name && (name.toList.map Char.toLower == name.toList)) = true := by
    revert name
    decide +kernel
  simp only [Bool.and_eq_true, beq_iff_eq] at hascii
  rw [Text.lowerCase_of_ascii hascii.1, hascii.2, String.ofList_toList]

theorem FitsFile.fits_broker (h : c.FitsFile) : Fits BrokerConfig.shape c.broker.toRow :=
  ⟨lowerCase_name _ (by decide), fun _ _ => trivial,
    lowerCase_name _ (by decide), trivial,
    lowerCase_name _ (by decide), trivial,
    lowerCase_name _ (by decide), trivial,
    lowerCase_name _ (by decide), h.messageTimeout,
    lowerCase_name _ (by decide), trivial,
    lowerCase_name _ (by decide), trivial,
    lowerCase_name _ (by decide), h.connectTimeout,
    lowerCase_name _ (by decide), h.sendTimeout, trivial⟩

theorem fits_directory (c : Config) : Fits DirectoryConfig.shape c.directory.toRow :=
  ⟨lowerCase_name _ (by decide), trivial, trivial⟩

theorem loads_host {order : List (String × String)} (horder : order.Perm c.host.properties.entries)
    (h : c.FitsFile) : Loads HostConfig.shape c.host.toRow
      (.record [("properties", .record (order.map fun e => (e.1, .text e.2)))]) := by
  have hmap := loads_map horder fun e he => h.keys e.1 (List.mem_map_of_mem he)
  exact (LoadsAll.cons (lowerCase_name _ (by decide)) List.not_mem_nil hmap .nil).loads "HostConfig"

/-! ## Files -/

/-- **Plain keys are laid as they are**: if each is a path of one step, the entries of a file stand
where a table with these entries has them. -/
theorem assignAll_fileLayer {entries : List (String × Setting)}
    (h : ∀ key ∈ entries.map Prod.fst, Path.ofKey (Text.lowerCase key) = ⟨key, []⟩)
    (target : Setting) : assignAll (fileLayer entries) target = placeAll entries target := by
  induction entries generalizing target with
  | nil => rw [placeAll]; rfl
  | cons entry entries ih =>
    obtain ⟨hentry, hentries⟩ := List.forall_mem_cons.mp h
    obtain ⟨key, s⟩ := entry
    have hassign : assign ⟨key, []⟩ s target = place key s target := by
      rw [assign, assignFrom]
    rw [fileLayer, List.map_cons, assignAll, List.foldl_cons]
    dsimp only at hentry ⊢
    rw [hentry, hassign, placeAll]
    exact ih hentries (place key s target)

/-- The names of the sections are paths of one step. -/
theorem ofKey_section : ∀ name ∈ ["broker", "directory", "host"],
    Path.ofKey (Text.lowerCase name) = ⟨name, []⟩ := by
  intro name h
  have hofKey : Path.ofKey name = ⟨name, []⟩ := by
    revert name
    decide +kernel
  rw [lowerCase_name name (by revert name; decide), hofKey]

/-- **A record is read from the tree of a file** if the members of the file load as its fields. -/
theorem readAs_combine {fields : Fields} {row : fields.Row} {members : List (String × Json)}
    (h : LoadsAll fields row members)
    (hkeys : ∀ key ∈ members.map (·.1), Path.ofKey (Text.lowerCase key) = ⟨key, []⟩)
    (name : String) :
    readAs (.record name fields) (combine (fileEntries members) []) = .ok row := by
  obtain ⟨-, entries, hentries, hread⟩ := h.exists_standAll
  have hcombine : combine (fileEntries members) [] = table entries none :=
    calc combine (fileEntries members) []
        = assignAll (fileLayer (fileEntries members)) emptyTable := rfl
      _ = placeAll (fileEntries members) emptyTable :=
          assignAll_fileLayer (by rwa [map_fst_fileEntries]) emptyTable
      _ = table entries none := hentries.2 [] none fun _ _ => List.not_mem_nil
  rw [hcombine]
  exact (readAs_record_iff rfl).mpr hread

/-- **A configuration is loaded from each of its documents**, and the document is parsed as the same
configuration. -/
theorem load_document (c : Config) {order : List (String × String)}
    (horder : order.Perm c.host.properties.entries) (h : c.FitsFile) :
    load .json (some (c.document order).render) [] = .ok c ∧
      parseAs Config (c.document order).render = .ok c := by
  have hall : LoadsAll _ c.toRow (c.sections order) :=
    .cons (d := none) (lowerCase_name _ (by decide)) (by decide)
        (loads_encode BrokerConfig.shape rfl _ h.fits_broker) <|
      .cons (d := some (.record [])) (lowerCase_name _ (by decide)) (by decide)
        (loads_encode DirectoryConfig.shape rfl _ c.fits_directory) <|
      .cons (d := some (.record [])) (lowerCase_name _ (by decide)) List.not_mem_nil
        (loads_host horder h) .nil
  have hfile : FileFormat.json.read (c.document order).render =
      some (fileEntries (c.sections order)) := by
    rw [FileFormat.json, document]
    dsimp only
    rw [readDocument_render hall (by decide)]
  have hread : readAs shape (combine (fileEntries (c.sections order)) []) = .ok c.toRow :=
    readAs_combine hall ofKey_section "Config"
  have hparse : shape.parse (c.document order).render = .ok c.toRow :=
    parse_render (hall.loads "Config")
  have hload : load .json (some (c.document order).render) [] = .ok c := by
    rw [load_of_read hfile]
    exact loadEntries_eq_ok_iff.mpr hread
  exact ⟨hload, congrArg (·.map ofRow) hparse⟩

/-- A configuration at the limits of what fits, with keys that elsewhere would be paths. -/
def extremeConfig : Config where
  broker :=
    { brokers := ["", "a\tb"]
      messageTimeoutMs := 9223372036854775807
      topicPartitions := -2147483648 }
  directory := {}
  host := ⟨.ofList [("hcat.msgbus.topic.prefix", "é"), ("a[0].b", "1"), ("", "\x00"), ("x y", "")]⟩

theorem load_document_extremeConfig :
    extremeConfig.FitsFile ∧
      load .json (some (extremeConfig.document
        extremeConfig.host.properties.entries.reverse).render) [] = .ok extremeConfig ∧
      parseAs Config (extremeConfig.document
        extremeConfig.host.properties.entries.reverse).render = .ok extremeConfig := by
  have hfits : extremeConfig.FitsFile :=
    ⟨by decide, by decide, by decide, by decide +kernel⟩
  exact ⟨hfits, load_document extremeConfig (List.reverse_perm _) hfits⟩

end CatalogFeed.Config
