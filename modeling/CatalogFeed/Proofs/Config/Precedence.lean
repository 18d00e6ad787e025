import CatalogFeed.Proofs.Config.Variables
import CatalogFeed.Proofs.Text.LowerCase
import Mathlib.Tactic.Choose

/-!
# Proofs/Config/Precedence — the environment takes precedence, field by field

The scalar settings of a configuration are its `Field`s.  A variable that `Names` one is laid at the
end of its chain of keys; chains of different fields part, and all of them part from the addresses
and from the host's section.
-/

namespace CatalogFeed.Config

open Json (Shape)
open Setting

/-! ## What a text stands for -/

/-- The number between the bounds that a text stands for: a word for one or zero, in any letter
case, or decimal digits after an optional sign. -/
def numeral? (least greatest : Int) (text : String) : Option Int :=
  ((wordValue? (Text.lowerCase text)).or (decimal? (decide (least < 0)) text)).filter
    fun n => decide (least ≤ n ∧ n ≤ greatest)

/-- The kinds of scalar settings. -/
inductive Kind where
  | text
  | word64
  | int32
  deriving DecidableEq, Repr

namespace Kind

@[reducible] def shape : Kind → Shape
  | text => .text
  | word64 => .word64
  | int32 => .int32

/-- **What a text of the environment becomes**, if it can become anything of the kind. -/
def coerce : (kind : Kind) → String → Option kind.shape.Value
  | text, s => some s
  | word64, s => (numeral? 0 (UInt64.size - 1) s).map fun n => UInt64.ofNat n.toNat
  | int32, s => (numeral? Int32.minValue.toInt Int32.maxValue.toInt s).map Int32.ofInt

end Kind

theorem wordValue?_bounds {word : String} {n : Int} (h : wordValue? word = some n) :
    0 ≤ n ∧ n ≤ 1 := by
  rw [wordValue?] at h
  split at h
  · cases h
    decide
  · split at h <;> cases h
    decide

theorem readInt_text_iff {least greatest : Int} (hzero : least ≤ 0) (hone : 1 ≤ greatest)
    {expected text : String} {source : Option Source} {n : Int} :
    readInt least greatest expected (scalar (.text text) source) = .ok n ↔
      numeral? least greatest text = some n := by
  rw [readInt, numeral?]
  cases hword : wordValue? (Text.lowerCase text) with
  | some w =>
    obtain ⟨hw, hw'⟩ := wordValue?_bounds hword
    have hbounds : least ≤ w ∧ w ≤ greatest := by omega
    simp [Option.filter, hbounds]
  | none =>
    cases decimal? (decide (least < 0)) text with
    | none => simp [refuse]
    | some m => by_cases hm : least ≤ m ∧ m ≤ greatest <;> simp [Option.filter, hm, refuse]

theorem numeral?_narrow {least greatest least' greatest' : Int} {text : String} {n : Int}
    (hleast : least ≤ least') (hneg : least' < 0) (hgreatest : greatest' ≤ greatest) :
    (numeral? least greatest text = some n ∧ least' ≤ n ∧ n ≤ greatest') ↔
      numeral? least' greatest' text = some n := by
  have hneg' : least < 0 := by omega
  simp only [numeral?, hneg, hneg', Option.filter_eq_some_iff, decide_eq_true_eq]
  constructor
  · rintro ⟨⟨hn, -⟩, hbounds⟩
    exact ⟨hn, hbounds⟩
  · rintro ⟨hn, hbounds⟩
    exact ⟨⟨hn, by omega, by omega⟩, hbounds⟩

theorem readInt32_text_iff {text : String} {source : Option Source} {n : Int} :
    readInt32 (scalar (.text text) source) = .ok n ↔
      numeral? Int32.minValue.toInt Int32.maxValue.toInt text = some n := by
  have hread : readInt64 (scalar (.text text) source) = .ok n ↔
      numeral? Int64.minValue.toInt Int64.maxValue.toInt text = some n :=
    readInt_text_iff (by decide) (by decide)
  have hleast : Int64.minValue.toInt ≤ Int32.minValue.toInt := by decide
  have hgreatest : Int32.maxValue.toInt ≤ Int64.maxValue.toInt := by decide
  rw [← numeral?_narrow hleast (by decide) hgreatest, ← hread, readInt32, bind_eq_ok_iff]
  constructor
  · rintro ⟨m, hm, hn⟩
    split at hn <;> cases hn
    exact ⟨hm, ‹_›⟩
  · rintro ⟨hm, hn⟩
    exact ⟨n, hm, if_pos hn⟩

/-- **A text of the environment reads as what it becomes.** -/
theorem readAs_text_iff {kind : Kind} {text : String} {source : Option Source}
    {v : kind.shape.Value} :
    readAs kind.shape (scalar (.text text) source) = .ok v ↔ kind.coerce text = some v := by
  cases kind with
  | text => simp [readAs, readText, Kind.coerce]
  | word64 =>
    have hread (n : Int) : readWord64 (scalar (.text text) source) = .ok n ↔
        numeral? 0 (UInt64.size - 1) text = some n :=
      readInt_text_iff (by decide) (by decide)
    rw [readAs, Kind.coerce, Option.map_eq_some_iff, bind_eq_ok_iff]
    simp only [hread, Except.ok.injEq]
  | int32 =>
    rw [readAs, Kind.coerce, Option.map_eq_some_iff, bind_eq_ok_iff]
    simp only [readInt32_text_iff, Except.ok.injEq]

/-! ## Fields -/

/-- The scalar settings of a configuration. -/
inductive Field where
  | transactionalId
  | compression
  | acks
  | messageTimeoutMs
  | topicPartitions
  | topicReplicationFactor
  | connectTimeoutMs
  | sendTimeoutMs
  | connectionFactory
  deriving DecidableEq, Repr

namespace Field

/-- The section that the field is in. -/
def table : Field → String
  | connectionFactory => "directory"
  | _ => "broker"

/-- The key of the field in its section. -/
def name : Field → String
  | transactionalId => "transactional_id"
  | compression => "compression"
  | acks => "acks"
  | messageTimeoutMs => "message_timeout_ms"
  | topicPartitions => "topic_partitions"
  | topicReplicationFactor => "topic_replication_factor"
  | connectTimeoutMs => "connect_timeout_ms"
  | sendTimeoutMs => "send_timeout_ms"
  | connectionFactory => "connection_factory"

/-- What the field holds. -/
@[reducible] def kind : Field → Kind
  | transactionalId | compression | acks | connectionFactory => .text
  | topicPartitions | topicReplicationFactor => .int32
  | messageTimeoutMs | connectTimeoutMs | sendTimeoutMs => .word64

/-- What stands for the field if it is not set. -/
def fallback : Field → Json
  | transactionalId => .text "catalog-notify"
  | compression => .text "snappy"
  | acks => .text "all"
  | messageTimeoutMs => .int 30000
  | topicPartitions => .int 1
  | topicReplicationFactor => .int 1
  | connectTimeoutMs => .int 10000
  | sendTimeoutMs => .int 5000
  | connectionFactory => .text defaultFactoryName

/-- The chain of keys that leads to the field. -/
def path (f : Field) : List String := [f.table, f.name]

theorem name_injective {f g : Field} (h : f.name = g.name) : f = g := by
  cases f <;> cases g <;> first | rfl | exact absurd h (by decide)

theorem diverge_path {f g : Field} (h : f ≠ g) : Diverge f.path g.path := by
  have hname : f.name ≠ g.name := fun heq => h (name_injective heq)
  by_cases htable : f.table = g.table
  · rw [path, path, htable]
    exact .there _ (.here _ _ hname)
  · exact .here _ _ htable

theorem diverge_brokers (f : Field) : Diverge f.path ["broker", "brokers"] := by
  cases f <;> first | exact .here _ _ (by decide) | exact .there _ (.here _ _ (by decide))

theorem diverge_host (f : Field) : Diverge f.path ["host"] := by
  cases f <;> exact .here _ _ (by decide)

end Field

/-- The value of a field. -/
def get (c : Config) : (f : Field) → f.kind.shape.Value
  | .transactionalId => c.broker.transactionalId
  | .compression => c.broker.compression
  | .acks => c.broker.acks
  | .messageTimeoutMs => c.broker.messageTimeoutMs
  | .topicPartitions => c.broker.topicPartitions
  | .topicReplicationFactor => c.broker.topicReplicationFactor
  | .connectTimeoutMs => c.broker.connectTimeoutMs
  | .sendTimeoutMs => c.broker.sendTimeoutMs
  | .connectionFactory => c.directory.connectionFactory

/-- The configuration with these values in its fields. -/
def withFields (c : Config) (value : (f : Field) → f.kind.shape.Value) : Config where
  broker :=
    { brokers := c.broker.brokers
      transactionalId := value .transactionalId
      compression := value .compression
      acks := value .acks
      messageTimeoutMs := value .messageTimeoutMs
      topicPartitions := value .topicPartitions
      topicReplicationFactor := value .topicReplicationFactor
      connectTimeoutMs := value .connectTimeoutMs
      sendTimeoutMs := value .sendTimeoutMs }
  directory := { connectionFactory := value .connectionFactory }
  host := c.host

@[simp] theorem get_withFields (c : Config) (value : (f : Field) → f.kind.shape.Value)
    (f : Field) : (c.withFields value).get f = value f := by
  cases f <;> rfl

/-- The sections that fields are in are tables, where they are there. -/
def Sectioned (s : Setting) : Prop :=
  ∀ f : Field, ∀ t ∈ s.get? f.table, t.isTable = true

variable {name : String} {entries order : List (String × Setting)}
  {environment : List (String × String)} {c : Config} {f : Field} {target : Setting}

/-- **A configuration is read field by field.** -/
theorem loadEntries_ok_iff_fields (hsections : Sectioned (combine entries environment)) :
    loadEntries entries environment = .ok c ↔
      FieldReads (.list .text) none
        ((combine entries environment).descend ["broker", "brokers"]) c.broker.brokers ∧
      (∀ f : Field, FieldReads f.kind.shape (some f.fallback)
        ((combine entries environment).descend f.path) (c.get f)) ∧
      FieldReads HostConfig.shape (some (.record []))
        ((combine entries environment).get? "host") c.host.toRow := by
  rw [loadEntries_ok_iff, ← and_assoc, ← and_assoc]
  refine and_congr_left fun _ => (and_congr (fieldReads_required_iff (hsections .acks))
    (fieldReads_record_iff (hsections .connectionFactory))).trans ?_
  simp only [Field.path, descend_pair]
  constructor
  · rintro ⟨⟨hbrokers, h₁, h₂, h₃, h₄, h₅, h₆, h₇, h₈, -⟩, h₉, -⟩
    exact ⟨hbrokers, fun f => by cases f <;> assumption⟩
  · rintro ⟨hbrokers, h⟩
    exact ⟨⟨hbrokers, h .transactionalId, h .compression, h .acks, h .messageTimeoutMs,
      h .topicPartitions, h .topicReplicationFactor, h .connectTimeoutMs, h .sendTimeoutMs,
      trivial⟩, h .connectionFactory, trivial⟩

/-! ## Variables that name fields -/

/-- **The variable sets the field**: in small letters, its name is the stem, the section, two
underscores and the key. -/
def Names (name : String) (f : Field) : Prop :=
  Text.lowerCase name = environmentStem ++ (f.table ++ "__" ++ f.name)

instance (name : String) (f : Field) : Decidable (Names name f) :=
  inferInstanceAs (Decidable (_ = _))

theorem Names.not_foreign (h : Names name f) : ¬ Foreign name := fun hforeign =>
  hforeign (by rw [h, String.toList_append]; exact List.prefix_append _ _)

/-- The key that names a field leads to it. -/
theorem ofKey_pointed (f : Field) :
    Path.ofKey (String.ofList (pointed (f.table ++ "__" ++ f.name).toList)) =
      ⟨f.table, [.key f.name]⟩ := by
  cases f <;> decide +kernel

theorem Names.unique {g : Field} (hf : Names name f) (hg : Names name g) : f = g := by
  have hkey := congrArg (fun key => Path.ofKey (String.ofList (pointed key.toList)))
    ((String.append_right_inj _).mp (hf.symm.trans hg))
  simp only [ofKey_pointed, Setting.Path.mk.injEq, List.cons.injEq, Step.key.injEq] at hkey
  exact Field.name_injective hkey.2.1

theorem lowerCase_path (f : Field) : ∀ key ∈ [f.table, f.name], Text.lowerCase key = key := by
  simp only [List.forall_mem_cons]
  refine ⟨?_, ?_, nofun⟩ <;>
    cases f <;> exact (Text.lowerCase_of_ascii (by decide +kernel)).trans (by decide +kernel)

/-- **A variable that names a field is laid at the end of its chain.** -/
theorem assignAll_named (h : Names name f) (value : String)
    (environment : List (String × String)) (target : Setting) :
    assignAll (environmentLayer ((name, value) :: environment)) target =
      assignAll (environmentLayer environment)
        (layAt (scalar (.text value) (some .environment)) f.path target) := by
  rw [environmentLayer_cons (environmentKey?_of_lowerCase h), ofKey_pointed, Field.path,
    ← assignFrom_keys _ _ _ _ _ (lowerCase_path f)]
  rfl

/-- **The variables are those of the scalar settings**, and those of other programs. -/
def NameFields (environment : List (String × String)) : Prop :=
  ∀ x ∈ environment, Foreign x.1 ∨ ∃ f, Names x.1 f

/-- What holds of a tree, and still holds when one of these variables is laid over it, holds of the
tree under all of them. -/
theorem assignAll_environment_induction {motive : Setting → Prop} (hvars : NameFields environment)
    (hstep : ∀ x ∈ environment, ∀ f, Names x.1 f → ∀ target, motive target →
      motive (layAt (scalar (.text x.2) (some .environment)) f.path target))
    (h : motive target) : motive (assignAll (environmentLayer environment) target) := by
  induction environment generalizing target with
  | nil => exact h
  | cons x environment ih =>
    obtain ⟨hx, hrest⟩ := List.forall_mem_cons.mp hvars
    obtain ⟨hstepx, hsteps⟩ := List.forall_mem_cons.mp hstep
    rcases hx with hforeign | ⟨f, hf⟩
    · rw [environmentLayer_cons_foreign hforeign]
      exact ih hrest hsteps h
    · rw [assignAll_named hf]
      exact ih hrest hsteps (hstepx f hf target h)

/-- **Chains that part from those of the variables are left alone.** -/
theorem descend_environment_of_diverge (hvars : NameFields environment) {q : List String}
    (hq : ∀ x ∈ environment, ∀ f, Names x.1 f → Diverge f.path q) :
    (assignAll (environmentLayer environment) target).descend q = target.descend q :=
  assignAll_environment_induction (motive := fun s => s.descend q = target.descend q) hvars
    (fun x hx f hf s hs => (descend_layAt_of_diverge (hq x hx f hf) _ s).trans hs) rfl

theorem descend_environment_unnamed (hvars : NameFields environment)
    (hf : ∀ x ∈ environment, ¬ Names x.1 f) :
    (assignAll (environmentLayer environment) target).descend f.path = target.descend f.path :=
  descend_environment_of_diverge hvars fun x hx _ hg =>
    Field.diverge_path fun heq => hf x hx (heq ▸ hg)

/-- **A variable that names a field is found there**, if no later one names it. -/
theorem descend_environment_named (hvars : NameFields environment)
    (hdistinct : environment.Pairwise fun x y => ∀ f, Names x.1 f → ¬ Names y.1 f)
    {x : String × String} (hx : x ∈ environment) (hf : Names x.1 f) :
    (assignAll (environmentLayer environment) target).descend f.path =
      some (scalar (.text x.2) (some .environment)) := by
  induction environment generalizing target with
  | nil => cases hx
  | cons y environment ih =>
    obtain ⟨hy, hrest⟩ := List.forall_mem_cons.mp hvars
    obtain ⟨hothers, hdistinct⟩ := List.pairwise_cons.mp hdistinct
    rcases List.mem_cons.mp hx with rfl | hx
    · rw [assignAll_named hf,
        descend_environment_unnamed hrest fun y hy => hothers y hy f hf, descend_layAt_self]
    · rcases hy with hforeign | ⟨g, hg⟩
      · rw [environmentLayer_cons_foreign hforeign]
        exact ih hrest hdistinct hx
      · rw [assignAll_named hg]
        exact ih hrest hdistinct hx

theorem Sectioned.layAt (h : Sectioned target) (value : Setting) (f : Field) :
    Sectioned (layAt value f.path target) := by
  intro g t ht
  by_cases htable : g.table = f.table
  · rw [htable, Field.path, Setting.layAt, get?_under_self] at ht
    cases ht
    exact isTable_under _ _ _
  · rw [Field.path, Setting.layAt, get?_under_of_ne htable] at ht
    exact h g t ht

/-- Sections stay tables. -/
theorem Sectioned.assignAll (h : Sectioned target) (hvars : NameFields environment) :
    Sectioned (assignAll (environmentLayer environment) target) :=
  assignAll_environment_induction hvars (fun _ _ f _ _ hs => hs.layAt _ f) h

/-! ## Precedence -/

/-- What is read under the environment: only the fields are looked up in the whole tree. -/
theorem loadEntries_under_environment_iff (hsections : Sectioned (combine entries []))
    (hvars : NameFields environment) (c' : Config) :
    loadEntries entries environment = .ok c' ↔
      FieldReads (.list .text) none ((combine entries []).descend ["broker", "brokers"])
        c'.broker.brokers ∧
      (∀ f : Field, FieldReads f.kind.shape (some f.fallback)
        ((combine entries environment).descend f.path) (c'.get f)) ∧
      FieldReads HostConfig.shape (some (.record [])) ((combine entries []).get? "host")
        c'.host.toRow := by
  have hcombine := combine_eq entries environment
  have hbrokers : (combine entries environment).descend ["broker", "brokers"] =
      (combine entries []).descend ["broker", "brokers"] :=
    hcombine ▸ descend_environment_of_diverge hvars fun _ _ f _ => f.diverge_brokers
  have hhost : (combine entries environment).get? "host" = (combine entries []).get? "host" := by
    rw [← descend_singleton, ← descend_singleton]
    exact hcombine ▸ descend_environment_of_diverge hvars fun _ _ f _ => f.diverge_host
  rw [loadEntries_ok_iff_fields (hcombine ▸ hsections.assignAll hvars), hbrokers, hhost]

/-- A field that a variable names reads as what its value becomes. -/
theorem fieldReads_named_iff (hvars : NameFields environment)
    (hdistinct : environment.Pairwise fun x y => ∀ f, Names x.1 f → ¬ Names y.1 f)
    {x : String × String} (hx : x ∈ environment) (hf : Names x.1 f) {v : f.kind.shape.Value} :
    FieldReads f.kind.shape (some f.fallback) ((combine entries environment).descend f.path) v ↔
      f.kind.coerce x.2 = some v := by
  have hfound : (combine entries environment).descend f.path =
      some (scalar (.text x.2) (some .environment)) :=
    combine_eq entries environment ▸ descend_environment_named hvars hdistinct hx hf
  rw [hfound]
  exact readAs_text_iff

/-- Any other field reads as it does in the file. -/
theorem fieldReads_unnamed_iff (hvars : NameFields environment)
    (hf : ∀ x ∈ environment, ¬ Names x.1 f) {v : f.kind.shape.Value} :
    FieldReads f.kind.shape (some f.fallback) ((combine entries environment).descend f.path) v ↔
      FieldReads f.kind.shape (some f.fallback) ((combine entries []).descend f.path) v := by
  have hfound : (combine entries environment).descend f.path =
      (combine entries []).descend f.path :=
    combine_eq entries environment ▸ descend_environment_unnamed hvars hf
  rw [hfound]

/-- **The environment takes precedence, field by field.**  Over a file that is accepted as it is,
variables that name different scalar settings are accepted just if each of their values can become
what its field holds.  Then these fields have these values, and all else is as in the file.  So it
is in whatever order the entries of the file are laid, if its sections are tables then. -/
theorem load_under_environment (hfile : Accepted entries c) (horder : Reordered entries order)
    (hsections : Sectioned (combine order [])) (hvars : NameFields environment)
    (hdistinct : environment.Pairwise fun x y => ∀ f, Names x.1 f → ¬ Names y.1 f) :
    ((∃ c', loadEntries order environment = .ok c') ↔
      ∀ x ∈ environment, ∀ f, Names x.1 f → ∃ value, f.kind.coerce x.2 = some value) ∧
    ∀ c', loadEntries order environment = .ok c' →
      (∀ x ∈ environment, ∀ f, Names x.1 f → f.kind.coerce x.2 = some (c'.get f)) ∧
      (∀ f, (∀ x ∈ environment, ¬ Names x.1 f) → c'.get f = c.get f) ∧
      c'.broker.brokers = c.broker.brokers ∧ c'.host = c.host := by
  have hread {c' : Config} := loadEntries_under_environment_iff hsections hvars c'
  obtain ⟨hbrokers, hfields, hhost⟩ :=
    (loadEntries_ok_iff_fields hsections).mp (hfile.loads horder)
  refine ⟨⟨fun ⟨c', hload'⟩ x hx f hf => ?_, fun hcoerce => ?_⟩, fun c' hload' => ?_⟩
  · obtain ⟨-, hfields', -⟩ := hread.mp hload'
    exact ⟨_, (fieldReads_named_iff hvars hdistinct hx hf).mp (hfields' f)⟩
  · have hvalues (f : Field) : ∃ value, FieldReads f.kind.shape (some f.fallback)
        ((combine order environment).descend f.path) value := by
      by_cases hf : ∃ x ∈ environment, Names x.1 f
      · obtain ⟨x, hx, hf⟩ := hf
        obtain ⟨value, hvalue⟩ := hcoerce x hx f hf
        exact ⟨value, (fieldReads_named_iff hvars hdistinct hx hf).mpr hvalue⟩
      · have hnot : ∀ x ∈ environment, ¬ Names x.1 f := fun x hx hx' => hf ⟨x, hx, hx'⟩
        exact ⟨c.get f, (fieldReads_unnamed_iff hvars hnot).mpr (hfields f)⟩
    choose value hvalue using hvalues
    exact ⟨c.withFields value, hread.mpr
      ⟨hbrokers, fun f => (get_withFields c value f).symm ▸ hvalue f, hhost⟩⟩
  · obtain ⟨hbrokers', hfields', hhost'⟩ := hread.mp hload'
    refine ⟨fun x hx f hf => (fieldReads_named_iff hvars hdistinct hx hf).mp (hfields' f),
      fun f hf => ?_, hbrokers'.unique hbrokers, ?_⟩
    · exact ((fieldReads_unnamed_iff hvars hf).mp (hfields' f)).unique (hfields f)
    · exact congrArg HostConfig.ofRow (hhost'.unique hhost)

/-- Two variables that name fields, in different cases, and one of another program. -/
def threeVariables : List (String × String) :=
  [("CATALOG_NOTIFY_BROKER__SEND_TIMEOUT_MS", "Yes"), ("HOME", "/root"),
    ("catalog_notify_Directory__connection_factory", "Other")]

/-- The entries of the small file, with those of its section in the other order. -/
def oneBrokerOrder : List (String × Setting) :=
  [("broker", table [("acks", scalar (.text "1") (some .file)),
    ("brokers", list [scalar (.text "localhost:9092") (some .file)] (some .file))] (some .file))]

theorem load_under_three_variables :
    ∃ c, loadEntries oneBrokerOrder threeVariables = .ok c ∧
    c.broker.sendTimeoutMs = 1 ∧ c.directory.connectionFactory = "Other" ∧
    c.broker.acks = "1" ∧ c.broker.brokers = ["localhost:9092"] := by
  have horder : Reordered oneBrokerEntries oneBrokerOrder :=
    .single (.value [] [] "broker" none (.entries (some .file) (.swap _ _ [])))
  have hsend : Names "CATALOG_NOTIFY_BROKER__SEND_TIMEOUT_MS" .sendTimeoutMs :=
    (Text.lowerCase_of_ascii (by decide +kernel)).trans (by decide +kernel)
  have hhome : Foreign "HOME" := by decide +kernel
  have hfactory : Names "catalog_notify_Directory__connection_factory" .connectionFactory :=
    (Text.lowerCase_of_ascii (by decide +kernel)).trans (by decide +kernel)
  have hvars : NameFields threeVariables := List.forall_mem_cons.mpr ⟨.inr ⟨_, hsend⟩,
    List.forall_mem_cons.mpr ⟨.inl hhome, List.forall_mem_cons.mpr ⟨.inr ⟨_, hfactory⟩, nofun⟩⟩⟩
  have hdistinct : threeVariables.Pairwise fun x y => ∀ f, Names x.1 f → ¬ Names y.1 f := by
    simp only [threeVariables, List.pairwise_cons, List.forall_mem_cons]
    refine ⟨⟨fun f _ hf => hf.not_foreign hhome, fun f hf hf' => ?_, nofun⟩,
      ⟨fun f hf => absurd hhome hf.not_foreign, nofun⟩, nofun, .nil⟩
    cases hf.unique hsend
    cases hf'.unique hfactory
  have hsections : Sectioned (combine oneBrokerOrder []) := by
    have hbroker : ∀ t ∈ (combine oneBrokerOrder []).get? "broker", t.isTable = true := by
      decide +kernel
    have hdirectory : ∀ t ∈ (combine oneBrokerOrder []).get? "directory", t.isTable = true := by
      decide +kernel
    intro f
    cases f with
    | connectionFactory => exact hdirectory
    | _ => exact hbroker
  obtain ⟨hiff, hread⟩ := load_under_environment accepted_oneBrokerEntries horder hsections hvars
    hdistinct
  obtain ⟨c, hc⟩ := hiff.mpr <| List.forall_mem_cons.mpr
    ⟨fun f hf => by cases hf.unique hsend; exact ⟨1, by decide +kernel⟩, List.forall_mem_cons.mpr
      ⟨fun f hf => absurd hhome hf.not_foreign, List.forall_mem_cons.mpr
        ⟨fun f hf => by cases hf.unique hfactory; exact ⟨"Other", rfl⟩, nofun⟩⟩⟩
  obtain ⟨hnamed, hunnamed, hbrokers, -⟩ := hread c hc
  refine ⟨c, hc, ?_, ?_, ?_, hbrokers⟩
  · have hvalue := hnamed _ List.mem_cons_self _ hsend
    exact Option.some.inj (hvalue.symm.trans (by decide +kernel))
  · exact (Option.some.inj (hnamed _ (.tail _ (.tail _ (.head _))) _ hfactory)).symm
  · refine hunnamed .acks ?_
    simp only [threeVariables, List.forall_mem_cons]
    exact ⟨fun hf => (by cases hf.unique hsend), fun hf => hf.not_foreign hhome,
      fun hf => (by cases hf.unique hfactory), nofun⟩

end CatalogFeed.Config
