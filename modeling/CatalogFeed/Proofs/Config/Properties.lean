import CatalogFeed.Proofs.Config.Variables
import CatalogFeed.Proofs.Text.LowerCase
import Mathlib.Data.List.TakeWhile

/-!
# Proofs/Config/Properties — the host's properties in the environment

In a file the name of a property is a key as it stands.  In the environment it is the end of a path,
where a point begins a further step: a variable sets the property of its name if there is no point
in it (`loadEntries_property`), and is passed over or refused otherwise
(`loadEntries_pointed_property`).
-/

namespace CatalogFeed

open Setting

/-! ## Steps of a path -/

namespace Setting.Path

/-- A step to a key, with the characters that may stand in one. -/
theorem readSteps_key (fuel : Nat) (cs : List Char) (h : cs.takeWhile isKeyChar ≠ []) :
    readSteps (fuel + 1) ('.' :: cs) = (readSteps fuel (cs.dropWhile isKeyChar)).map
      (.key (String.ofList (cs.takeWhile isKeyChar)) :: ·) := by
  rw [readSteps]
  exact if_neg (by simpa using h)

/-- What follows a point is not read with the key before it. -/
theorem takeWhile_key {name : List Char} (h : name.all isKeyChar = true) (cs : List Char) :
    (name ++ '.' :: cs).takeWhile isKeyChar = name := by
  rw [List.takeWhile_append_of_pos (List.all_eq_true.mp h),
    List.takeWhile_cons_of_neg (by decide), List.append_nil]

theorem dropWhile_key {name : List Char} (h : name.all isKeyChar = true) (cs : List Char) :
    (name ++ '.' :: cs).dropWhile isKeyChar = '.' :: cs := by
  rw [List.dropWhile_append_of_pos (List.all_eq_true.mp h), List.dropWhile_cons_of_neg (by decide)]

theorem read?_key {text : String} {name cs : List Char} (htext : text.toList = name ++ '.' :: cs)
    (hname : name ≠ []) (h : name.all isKeyChar = true) :
    read? text = (readSteps text.toList.length ('.' :: cs)).map (⟨String.ofList name, ·⟩) := by
  simp only [read?, htext, takeWhile_key h, dropWhile_key h, List.isEmpty_iff, if_neg hname]

theorem readSteps_no_key (fuel : Nat) (cs : List Char) (h : cs.takeWhile isKeyChar = []) :
    readSteps (fuel + 1) ('.' :: cs) = none := by
  rw [readSteps]
  exact if_pos (by simpa using h)

theorem readSteps_ne_nil {fuel : Nat} {cs : List Char} (h : cs ≠ []) :
    readSteps fuel cs ≠ some [] := by
  fun_cases readSteps fuel cs <;> simp_all

end Setting.Path

namespace Config

/-! ## Names of properties -/

/-- The characters of names of properties: small letters, digits, points, dashes, underscores. -/
def isPropertyChar (c : Char) : Bool :=
  c.isLower || c.isDigit || c == '.' || c == '-' || c == '_'

/-- **The name of a property**: not empty, and without two underscores in a row. -/
structure IsPropertyName (k : String) : Prop where
  ne_empty : k ≠ ""
  chars : k.toList.all isPropertyChar = true
  single : ¬ ['_', '_'] <:+: k.toList

/-- The variable that is there to set a property: its name in capitals, after those of the stem, the
section and the map. -/
def propertyVariable (k : String) : String :=
  "CATALOG_NOTIFY_HOST__PROPERTIES__" ++ String.ofList (k.toList.map Char.toUpper)

/-- The key of a property. -/
def propertyKey (k : String) : String := "host.properties." ++ k

theorem toList_propertyKey (k : String) :
    (propertyKey k).toList = "host.properties.".toList ++ k.toList :=
  String.toList_append

/-- The configuration with a property set. -/
def withProperty (c : Config) (k v : String) : Config :=
  { c with host := { c.host with properties := c.host.properties.insert k v } }

theorem toNat_lt_of_isPropertyChar {c : Char} (h : isPropertyChar c = true) : c.toNat < 128 := by
  simp only [isPropertyChar, Bool.or_eq_true, beq_iff_eq] at h
  rcases h with (((hlower | hdigit) | rfl) | rfl) | rfl
  · obtain ⟨-, hle⟩ := Bool.and_eq_true_iff.mp hlower
    exact Nat.lt_of_le_of_lt (UInt32.le_iff_toNat_le.mp (of_decide_eq_true hle)) (by decide)
  · obtain ⟨-, hle⟩ := Bool.and_eq_true_iff.mp hdigit
    exact Nat.lt_of_le_of_lt (UInt32.le_iff_toNat_le.mp (of_decide_eq_true hle)) (by decide)
  all_goals decide

/-- Such a character is small, its capital is of ASCII and leads back to it, and it may stand in a
key of a path unless it is a point. -/
theorem isPropertyChar_spec {c : Char} (h : isPropertyChar c = true) :
    c.toLower = c ∧ c.toUpper.toNat < 128 ∧ c.toUpper.toLower = c ∧
      (Path.isKeyChar c = true ↔ c ≠ '.') :=
  Text.forall_ascii (P := fun c => isPropertyChar c = true → c.toLower = c ∧
    c.toUpper.toNat < 128 ∧ c.toUpper.toLower = c ∧ (Path.isKeyChar c = true ↔ c ≠ '.'))
    (by decide +kernel) c (toNat_lt_of_isPropertyChar h) h

variable {k : String}

namespace IsPropertyName

theorem isPropertyChar (hk : IsPropertyName k) {c : Char} (hc : c ∈ k.toList) :
    isPropertyChar c = true :=
  List.all_eq_true.mp hk.chars c hc

theorem isSmall (hk : IsPropertyName k) : ∀ c ∈ k.toList, Text.IsSmall c := fun _ hc =>
  Text.isSmall_of_ascii (toNat_lt_of_isPropertyChar (hk.isPropertyChar hc))
    (isPropertyChar_spec (hk.isPropertyChar hc)).1

theorem lowerCase (hk : IsPropertyName k) : Text.lowerCase k = k :=
  (Text.lowerCase_eq_self_iff k).mpr hk.isSmall

theorem forall_isKeyChar_iff (hk : IsPropertyName k) :
    (∀ c ∈ k.toList, Path.isKeyChar c = true) ↔ '.' ∉ k.toList := by
  constructor
  · exact fun h hpoint => absurd (h '.' hpoint) (by decide)
  · intro h c hc
    exact (isPropertyChar_spec (hk.isPropertyChar hc)).2.2.2.mpr (ne_of_mem_of_not_mem hc h)

theorem map_toLower_map_toUpper (hk : IsPropertyName k) :
    (k.toList.map Char.toUpper).map Char.toLower = k.toList := by
  rw [List.map_map]
  conv_rhs => rw [← List.map_id k.toList]
  exact List.map_congr_left fun c hc => (isPropertyChar_spec (hk.isPropertyChar hc)).2.2.1

theorem lowerCase_propertyVariable (hk : IsPropertyName k) :
    Text.lowerCase (propertyVariable k) = environmentStem ++ ("host__properties__" ++ k) := by
  have htoList : (propertyVariable k).toList =
      "CATALOG_NOTIFY_HOST__PROPERTIES__".toList ++ k.toList.map Char.toUpper :=
    String.toList_append.trans (congrArg (_ ++ ·) String.toList_ofList)
  have hascii : Text.isAscii (propertyVariable k) = true := by
    rw [Text.isAscii_iff, htoList, List.forall_mem_append, List.forall_mem_map, ← Text.isAscii_iff]
    exact ⟨by decide +kernel, fun c hc => (isPropertyChar_spec (hk.isPropertyChar hc)).2.1⟩
  have hstem : String.ofList ("CATALOG_NOTIFY_HOST__PROPERTIES__".toList.map Char.toLower) =
      environmentStem ++ "host__properties__" := by decide +kernel
  rw [Text.lowerCase_of_ascii hascii, htoList, List.map_append, hk.map_toLower_map_toUpper,
    String.ofList_append, hstem, String.ofList_toList (s := k), String.append_assoc]

theorem lowerCase_propertyKey (hk : IsPropertyName k) :
    Text.lowerCase (propertyKey k) = propertyKey k := by
  have hstem : Text.lowerCase "host.properties." = "host.properties." := by decide +kernel
  refine (Text.lowerCase_eq_self_iff _).mpr ?_
  rw [toList_propertyKey]
  exact List.forall_mem_append.mpr ⟨(Text.lowerCase_eq_self_iff _).mp hstem, hk.isSmall⟩

end IsPropertyName

theorem pointed_eq_self {cs : List Char} (h : ¬ ['_', '_'] <:+: cs) : pointed cs = cs := by
  fun_induction pointed cs with
  | case1 rest ih => exact absurd ⟨[], rest, rfl⟩ h
  | case2 c rest hne ih => rw [ih fun hrest => h (hrest.trans (List.suffix_cons c rest).isInfix)]
  | case3 => rfl

theorem pointed_property (h : ¬ ['_', '_'] <:+: k.toList) :
    String.ofList (pointed ("host__properties__" ++ k).toList) = propertyKey k := by
  have hpointed : pointed ("host__properties__".toList ++ k.toList) =
      "host.properties.".toList ++ pointed k.toList := rfl
  rw [String.toList_append, hpointed, pointed_eq_self h, ← toList_propertyKey,
    String.ofList_toList]

theorem propertyKey_ne {key : String} (h : key.toList.length < 16) : propertyKey k ≠ key := by
  rintro rfl
  have hlength : (propertyKey k).toList.length = k.toList.length + 16 := by
    rw [toList_propertyKey]
    rfl
  omega

/-- The path of a property, up to its name. -/
theorem read?_propertyKey (k : String) : ∃ fuel, Path.read? (propertyKey k) =
    (Path.readSteps (fuel + 1) ('.' :: k.toList)).map
      fun steps => ⟨"host", .key "properties" :: steps⟩ := by
  have htoList : (propertyKey k).toList =
      "host".toList ++ '.' :: ("properties".toList ++ '.' :: k.toList) := toList_propertyKey k
  have hlength : (propertyKey k).toList.length = k.toList.length + 14 + 1 + 1 := by
    rw [toList_propertyKey]
    rfl
  have hkey : "properties".toList.all Path.isKeyChar = true := by decide +kernel
  refine ⟨k.toList.length + 14, ?_⟩
  rw [Path.read?_key htoList (by decide) (by decide +kernel), hlength,
    Path.readSteps_key _ _ (by rw [Path.takeWhile_key hkey]; decide), Path.takeWhile_key hkey,
    Path.dropWhile_key hkey, Option.map_map]
  rfl

/-- **The path of a property whose name is a key.** -/
theorem ofKey_propertyKey (hne : k ≠ "") (h : ∀ c ∈ k.toList, Path.isKeyChar c = true) :
    Path.ofKey (propertyKey k) = ⟨"host", [.key "properties", .key k]⟩ := by
  have htake : k.toList.takeWhile Path.isKeyChar = k.toList := List.takeWhile_eq_self_iff.mpr h
  have hdrop : k.toList.dropWhile Path.isKeyChar = [] := List.dropWhile_eq_nil_iff.mpr h
  obtain ⟨fuel, hread⟩ := read?_propertyKey k
  have hkey : k.toList.takeWhile Path.isKeyChar ≠ [] := by
    rw [htake]
    exact mt String.toList_eq_nil_iff.mp hne
  rw [Path.ofKey, hread, Path.readSteps_key _ _ hkey, htake, hdrop, Path.readSteps,
    String.ofList_toList]
  rfl

/-- The path of any other property: none at all, or one that goes on after a key. -/
theorem ofKey_propertyKey_cases (h : ¬ ∀ c ∈ k.toList, Path.isKeyChar c = true) :
    Path.ofKey (propertyKey k) = ⟨propertyKey k, []⟩ ∨
      ∃ step steps, Path.ofKey (propertyKey k) =
        ⟨"host", ["properties", String.ofList (k.toList.takeWhile Path.isKeyChar)].map .key ++
          step :: steps⟩ := by
  have hdrop : k.toList.dropWhile Path.isKeyChar ≠ [] := mt List.dropWhile_eq_nil_iff.mp h
  obtain ⟨fuel, hread⟩ := read?_propertyKey k
  rw [Path.ofKey, hread]
  by_cases htake : k.toList.takeWhile Path.isKeyChar = []
  · rw [Path.readSteps_no_key _ _ htake]
    exact .inl rfl
  · rw [Path.readSteps_key _ _ htake]
    cases hsteps : Path.readSteps fuel (k.toList.dropWhile Path.isKeyChar) with
    | none => exact .inl rfl
    | some steps =>
      cases steps with
      | nil => exact absurd hsteps (Path.readSteps_ne_nil hdrop)
      | cons step steps => exact .inr ⟨step, steps, rfl⟩

/-! ## Setting a property -/

variable {entries order : List (String × Setting)} {before after : List (String × String)}
  {c : Config}

/-- What the variable of a property adds to the tree, if there are no others of ours. -/
theorem combine_property (hk : IsPropertyName k) (hbefore : ∀ x ∈ before, Foreign x.1)
    (hafter : ∀ x ∈ after, Foreign x.1) (v : String) :
    combine entries (before ++ (propertyVariable k, v) :: after) =
      assign (.ofKey (propertyKey k)) (scalar (.text v) (some .environment))
        (combine entries []) := by
  have hkey := environmentKey?_of_lowerCase hk.lowerCase_propertyVariable
  rw [pointed_property hk.single] at hkey
  rw [combine_append, environmentLayer_cons hkey, environmentLayer_of_foreign hafter,
    combine_eq entries before, environmentLayer_of_foreign hbefore]
  rfl

theorem lowerCase_chain {name : String} (h : Text.lowerCase name = name) :
    ∀ key ∈ ["host", "properties", name], Text.lowerCase key = key := by
  simp only [List.forall_mem_cons]
  exact ⟨by decide +kernel, by decide +kernel, h, nofun⟩

/-- **A property without a point in its name is set.** -/
theorem loadEntries_property (htidy : (table entries none).Tidy)
    (hload : loadEntries entries [] = .ok c)
    (hhost : ∀ host ∈ (combine entries []).get? "host", host.isTable = true)
    (hk : IsPropertyName k) (hkey : ∀ ch ∈ k.toList, Path.isKeyChar ch = true)
    (hbefore : ∀ x ∈ before, Foreign x.1) (hafter : ∀ x ∈ after, Foreign x.1) (v : String) :
    loadEntries entries (before ++ (propertyVariable k, v) :: after) =
      .ok (c.withProperty k v) := by
  obtain ⟨hbroker, hdirectory, hproperties⟩ := loadEntries_ok_iff.mp hload
  rw [host_reads_iff hhost] at hproperties
  have hcombine : combine entries (before ++ (propertyVariable k, v) :: after) =
      layAt (scalar (.text v) (some .environment)) ["host", "properties", k]
        (combine entries []) := by
    rw [combine_property hk hbefore hafter, ofKey_propertyKey hk.ne_empty hkey,
      ← assignFrom_keys _ _ _ _ _ (lowerCase_chain hk.lowerCase)]
    rfl
  have hmap : (layAt (scalar (.text v) (some .environment)) ["host", "properties", k]
      (combine entries [])).descend ["host", "properties"] =
        some (under k (fun _ => scalar (.text v) (some .environment))
          (((combine entries []).descend ["host", "properties"]).getD unset)) :=
    descend_layAt_append _ _ [k] _
  rw [loadEntries_ok_iff, hcombine]
  refine ⟨?_, ?_, ?_⟩
  · rw [← descend_singleton, descend_layAt_of_diverge (.here _ _ (by decide)), descend_singleton]
    exact hbroker
  · rw [← descend_singleton, descend_layAt_of_diverge (.here _ _ (by decide)), descend_singleton]
    exact hdirectory
  · rw [host_reads_iff, hmap, Option.getD_some, under_unset]
    · exact readAs_dict_under hproperties ((tidy_combine htidy).getD_descend _) k v _
    · intro host hfound
      rw [layAt, get?_under_self] at hfound
      cases hfound
      exact isTable_under _ _ _

/-- A property whose key is no path is passed over. -/
theorem loadEntries_property_of_no_path (hload : loadEntries entries [] = .ok c)
    (hk : IsPropertyName k) (hpath : Path.ofKey (propertyKey k) = ⟨propertyKey k, []⟩)
    (hbefore : ∀ x ∈ before, Foreign x.1) (hafter : ∀ x ∈ after, Foreign x.1) (v : String) :
    loadEntries entries (before ++ (propertyVariable k, v) :: after) = .ok c := by
  have hcombine : combine entries (before ++ (propertyVariable k, v) :: after) =
      layAt (scalar (.text v) (some .environment)) [propertyKey k] (combine entries []) := by
    rw [combine_property hk hbefore hafter, hpath, ← assignFrom_keys _ _ _ []]
    · rfl
    · exact List.forall_mem_singleton.mpr hk.lowerCase_propertyKey
  have hsection {key : String} (hkey : key.toList.length < 16) :
      (combine entries (before ++ (propertyVariable k, v) :: after)).get? key =
        (combine entries []).get? key := by
    rw [← descend_singleton, hcombine, descend_layAt_of_diverge (.here _ _ (propertyKey_ne hkey)),
      descend_singleton]
  rw [loadEntries_ok_iff, hsection (by decide), hsection (by decide), hsection (by decide)]
  exact loadEntries_ok_iff.mp hload

/-- A property whose path goes on after a key is refused, for the map then holds a table or list. -/
theorem loadEntries_property_of_long_path (htidy : (table entries none).Tidy)
    (hk : IsPropertyName k) {name : String} (hname : Text.lowerCase name = name) {step : Step}
    {steps : List Step}
    (hpath : Path.ofKey (propertyKey k) =
      ⟨"host", ["properties", name].map .key ++ step :: steps⟩)
    (hbefore : ∀ x ∈ before, Foreign x.1) (hafter : ∀ x ∈ after, Foreign x.1) (v : String) :
    loadEntries entries (before ++ (propertyVariable k, v) :: after) ≠ .ok c := by
  intro hload
  obtain ⟨found, hfound, hscalar⟩ := descend_assignFrom_beyond
    (scalar (.text v) (some .environment)) step steps _ _ (combine entries [])
    (lowerCase_chain hname)
  have hcombine : combine entries (before ++ (propertyVariable k, v) :: after) =
      assignFrom (scalar (.text v) (some .environment)) "host"
        (["properties", name].map .key ++ step :: steps) (combine entries []) := by
    rw [combine_property hk hbefore hafter, hpath]
    rfl
  have htree := Tidy.assignFrom (.scalar (.text v) (some .environment)) "host"
    (["properties", name].map .key ++ step :: steps) _ (tidy_combine htidy)
  obtain ⟨-, -, hhost⟩ := loadEntries_ok_iff.mp hload
  rw [hcombine] at hhost
  rw [descend, Option.bind_eq_some_iff] at hfound
  obtain ⟨host, hgethost, hfound⟩ := hfound
  rw [descend_pair, Option.bind_eq_some_iff] at hfound
  obtain ⟨properties, hgetproperties, hfound⟩ := hfound
  rw [host_reads_iff, descend_pair, hgethost, Option.bind_some, hgetproperties,
    Option.getD_some] at hhost
  · have hproperties := (htree.get? hgethost).get? hgetproperties
    rw [isScalar_of_readAs_dict hhost hproperties hfound] at hscalar
    cases hscalar
  · rw [hgethost]
    rintro s ⟨⟩
    exact isTable_of_get? hgetproperties

/-- **A property with a point in its name is passed over or refused**, whatever its value. -/
theorem loadEntries_pointed_property (htidy : (table entries none).Tidy)
    (hload : loadEntries entries [] = .ok c) (hk : IsPropertyName k)
    (hkey : ¬ ∀ ch ∈ k.toList, Path.isKeyChar ch = true)
    (hbefore : ∀ x ∈ before, Foreign x.1) (hafter : ∀ x ∈ after, Foreign x.1) :
    (∀ v, loadEntries entries (before ++ (propertyVariable k, v) :: after) = .ok c) ∨
      ∀ v c', loadEntries entries (before ++ (propertyVariable k, v) :: after) ≠ .ok c' := by
  rcases ofKey_propertyKey_cases hkey with hpath | ⟨step, steps, hpath⟩
  · exact .inl (loadEntries_property_of_no_path hload hk hpath hbefore hafter)
  · have hname : Text.lowerCase (String.ofList (k.toList.takeWhile Path.isKeyChar)) =
        String.ofList (k.toList.takeWhile Path.isKeyChar) := by
      refine (Text.lowerCase_eq_self_iff _).mpr fun ch hch => hk.isSmall ch ?_
      rw [String.toList_ofList] at hch
      exact (List.takeWhile_prefix _).subset hch
    exact .inr fun v _ =>
      loadEntries_property_of_long_path htidy hk hname hpath hbefore hafter v

/-- **The environment sets a property just if there is no point in its name.**  Over a file that is
accepted as it is, the variable of a property, with any value, leads to the same configuration with
the property set; the variable of a property with a point in its name does not.  So it is in
whatever order the entries of the file are laid, if the host's section is a table then. -/
theorem property_set_iff (hfile : Accepted entries c) (horder : Reordered entries order)
    (hhost : ∀ host ∈ (combine order []).get? "host", host.isTable = true)
    (hk : IsPropertyName k) (hbefore : ∀ x ∈ before, Foreign x.1)
    (hafter : ∀ x ∈ after, Foreign x.1) :
    (∀ v, loadEntries order (before ++ (propertyVariable k, v) :: after) =
      .ok (c.withProperty k v)) ↔ '.' ∉ k.toList := by
  have htidy := horder.apart hfile.tidy
  have hload := hfile.loads horder
  rw [← hk.forall_isKeyChar_iff]
  refine ⟨fun hset => by_contra fun hkey => ?_,
    fun hkey v => loadEntries_property htidy hload hhost hk hkey hbefore hafter v⟩
  rcases loadEntries_pointed_property htidy hload hk hkey hbefore hafter with hsame | hrefused
  · -- The same configuration cannot have two values for one property.
    have hvalue (v : String) : c.host.properties.get? k = some v := by
      have hc : c = c.withProperty k v := Except.ok.inj ((hsame v).symm.trans (hset v))
      rw [hc]
      exact Dict.get?_insert_self _ k v
    exact absurd (Option.some.inj ((hvalue "").symm.trans (hvalue "a"))) (by decide)
  · exact hrefused "" _ (hset "")

theorem region_set :
    loadEntries oneBrokerEntries
        [("HOME", "/root"), ("CATALOG_NOTIFY_HOST__PROPERTIES__REGION", "eu")] =
      .ok (oneBrokerConfig.withProperty "region" "eu") := by
  have hname : IsPropertyName "region" := ⟨by decide, by decide +kernel, by decide +kernel⟩
  have hvariable : propertyVariable "region" = "CATALOG_NOTIFY_HOST__PROPERTIES__REGION" := by
    decide +kernel
  have hbefore : ∀ x ∈ [("HOME", "/root")], Foreign x.1 := by decide +kernel
  have hafter : ∀ x ∈ ([] : List (String × String)), Foreign x.1 := nofun
  rw [← hvariable]
  exact (property_set_iff accepted_oneBrokerEntries (.refl _) (by decide +kernel) hname
    hbefore hafter).mpr (by decide +kernel) "eu"

/-- **The prefix of topics cannot be set from the environment**: the file is accepted, and refused
with the variable that is there to set the prefix. -/
theorem topic_prefix_refused :
    IsPropertyName "hcat.msgbus.topic.prefix" ∧
    propertyVariable "hcat.msgbus.topic.prefix" =
      "CATALOG_NOTIFY_HOST__PROPERTIES__HCAT.MSGBUS.TOPIC.PREFIX" ∧
    load .toml (some oneBrokerFile) [] = .ok oneBrokerConfig ∧
    load .toml (some oneBrokerFile)
        [("CATALOG_NOTIFY_HOST__PROPERTIES__HCAT.MSGBUS.TOPIC.PREFIX", "Env")] =
      .error (.refused (.wrongType .map "a string" (some "host.properties.hcat") none)) :=
  ⟨⟨by decide, by decide +kernel, by decide +kernel⟩, by decide +kernel, by decide +kernel,
    by decide +kernel⟩

end Config
end CatalogFeed
