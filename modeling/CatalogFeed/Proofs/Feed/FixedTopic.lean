import CatalogFeed.Proofs.Feed.Alteration
import CatalogFeed.Proofs.Replay.Accounts

/-!
# Proofs/Feed/FixedTopic — a table keeps the topic that it was created with

The topic of a table is stored with its definition before anything is published, under the prefix
that is then in effect.  Whatever a feed takes in afterwards, the partitions of the table go to this
topic, until the table is created again, altered or dropped.

* `Store.Carries`: the catalog has a table with that key, and the table carries the topic;
* `Store.Carries.take`: so it stays with every other input;
* `Feed.topic_is_fixed`: from the creation of a table to the partitions of it.
-/

namespace CatalogFeed

open Bus (Beset Delivered)
open Catalog (Store)

/-! ## Inputs that redefine a table -/

/-- Whether the event is a successful creation, alteration or drop of a table with that key. -/
def CatalogEvent.redefines (key : TableKey) (e : CatalogEvent) : Bool :=
  e.status && match e.change with
    | .tableCreated t => t.key == key
    | .tableAltered before after => before.key == key || after.key == key
    | .tableDropped t => t.key == key
    | _ => false

/-- Whether the input is such an event. -/
def Feed.Input.redefines (key : TableKey) : Input → Bool
  | .event e => e.redefines key
  | .recorded e => e.redefines key
  | .setting _ _ => false

/-- The topic of a table is never empty. -/
theorem Topic.ofTable_ne_empty (stem database table : String) :
    ofTable stem database table ≠ "" := by
  intro h
  have hlength := congrArg String.length h
  have hpoint : ".".length = 1 := by decide
  have hempty : "".length = 0 := by decide
  simp only [ofTable, String.length_append] at hlength
  omega

namespace Catalog.Store

variable {s : Store} {key : TableKey} {topic : String}

/-! ## The catalog after an input -/

theorem Reachable.reflect (h : s.Reachable) (e : CatalogEvent) : (s.reflect e).Reachable := by
  rw [Store.reflect]
  split
  · cases e.change with
    | databaseCreated d => exact h.putDatabase d
    | tableCreated t => exact h.putTable t
    | tableAltered before after => exact h.putTable after
    | tableDropped t => exact h.removeTable t.database t.name
    | _ => exact h
  · exact h

theorem after_ruling (d : Except CatalogError Decision × Store) : (ruling d).after = d.2 := by
  obtain ⟨cause | decision, s⟩ := d
  · rfl
  · cases decision <;> rfl

/-- **A decision changes the catalog only for a new table**, which is given its topic. -/
theorem Keyed.after_decide (h : s.Keyed) (e : CatalogEvent) : (s.decide e).2 = s ∨
    ∃ t current, e = .succeeded (.tableCreated t) ∧ s.table? t.database t.name = some current ∧
      (s.decide e).2 =
        s.putTable (Topic.store (Topic.ofTable s.stem t.database t.name) current) := by
  have hpublishedIf : ∀ topic entity tag, (s.publishedIf topic entity tag).after = s := by
    intro topic entity tag
    cases topic with
    | none => rfl
    | some topic =>
      simp only [publishedIf]
      split <;> rfl
  have hpartition : ∀ p tag, (s.partitionPolicy p tag).after = s := by
    intro p tag
    rw [partitionPolicy]
    split
    · rfl
    · exact hpublishedIf _ _ _
  rw [← after_ruling, h.ruling_decide, policy]
  obtain ⟨status, change⟩ := e
  cases status with
  | false => exact Or.inl rfl
  | true =>
    simp only [if_true]
    cases change with
    | tableCreated t =>
      simp only [changePolicy]
      cases ht : s.table? t.database t.name with
      | none => exact Or.inl rfl
      | some current => exact Or.inr ⟨t, current, rfl, ht, rfl⟩
    | partitionAdded p => exact Or.inl (hpartition p _)
    | partitionDropped p => exact Or.inl (hpartition _ _)
    | partitionAltered _ _ => exact Or.inl rfl
    | tableAltered _ _ => exact Or.inl rfl
    | tableDropped t => exact Or.inl rfl
    | _ => exact Or.inl (hpublishedIf _ _ _)

theorem Reachable.decide (h : s.Reachable) (e : CatalogEvent) : (s.decide e).2.Reachable := by
  rcases h.keyed.after_decide e with hsame | ⟨t, current, -, -, hput⟩
  · rw [hsame]
    exact h
  · exact hput ▸ h.putTable _

/-- What is ruled to be delivered is announced. -/
theorem announces_of_answer {d : Except CatalogError Decision × Store}
    (h : (ruling d).answer = .ok .delivered) :
    ∃ a, d.1 = .ok (.announce a) ∧ (ruling d).added = [a.content] := by
  obtain ⟨cause | decision, s⟩ := d
  · cases h
  · cases decision with
    | announce a => exact ⟨a, rfl, rfl⟩
    | _ => cases h

/-- A new table that the catalog has is announced, and given its topic. -/
theorem policy_tableCreated {t current : Table} (h : s.table? t.database t.name = some current) :
    s.policy (.succeeded (.tableCreated t)) =
      (s.putTable (Topic.store (Topic.ofTable s.stem t.database t.name) current)).published
        (Topic.ofDatabase s.stem t.database)
        (.table (Topic.store (Topic.ofTable s.stem t.database t.name) current)) .addTable := by
  simp only [policy, CatalogEvent.succeeded, if_true, changePolicy, h]

/-- What an input leaves of the catalog. -/
theorem after_answered (d : Except CatalogError Decision × Store) : (take.answered d).2 = d.2 := by
  obtain ⟨cause | decision, s⟩ := d <;> rfl

theorem Reachable.take (h : s.Reachable) (i : Feed.Input) : (s.take i).2.Reachable := by
  cases i with
  | event e => exact after_answered _ ▸ h.decide e
  | recorded e => exact after_answered _ ▸ (h.reflect e).decide e
  | setting name value => exact h.setSetting name value

/-! ## Topics that stay -/

/-- **The table with that key carries the topic.** -/
def Carries (s : Store) (key : TableKey) (topic : String) : Prop :=
  ∃ t, s.tables.get? key = some t ∧ Topic.stored? t = some topic

theorem carries_putTable (s : Store) (t : Table) (topic : String) :
    (s.putTable (Topic.store topic t)).Carries t.key topic :=
  ⟨Topic.store topic t, Dict.get?_insert_self _ _ _, Topic.stored?_store topic t⟩

namespace Carries

theorem putTable (h : s.Carries key topic) {t : Table} (ht : t.key ≠ key) :
    (s.putTable t).Carries key topic := by
  obtain ⟨found, hfound, htopic⟩ := h
  exact ⟨found, (Dict.get?_insert_of_ne _ _ ht.symm).trans hfound, htopic⟩

theorem removeTable (h : s.Carries key topic) {t : Table} (ht : t.key ≠ key) :
    (s.removeTable t.database t.name).Carries key topic := by
  obtain ⟨found, hfound, htopic⟩ := h
  exact ⟨found, (Dict.get?_erase_of_ne _ ht.symm).trans hfound, htopic⟩

/-- A recorded event that does not redefine the table leaves its topic. -/
theorem reflect (h : s.Carries key topic) {e : CatalogEvent} (he : e.redefines key = false) :
    (s.reflect e).Carries key topic := by
  rw [Store.reflect]
  split
  · next hstatus =>
    rw [CatalogEvent.redefines, hstatus, Bool.true_and] at he
    cases hchange : e.change with
    | databaseCreated d => exact h
    | tableCreated t => exact h.putTable (by simpa [hchange] using he)
    | tableAltered before after =>
      have hkeys : before.key ≠ key ∧ after.key ≠ key := by simpa [hchange] using he
      exact h.putTable hkeys.2
    | tableDropped t => exact h.removeTable (by simpa [hchange] using he)
    | _ => exact h
  · exact h

/-- So does a decision. -/
theorem decide (h : s.Carries key topic) (hs : s.Reachable) {e : CatalogEvent}
    (he : e.redefines key = false) : (s.decide e).2.Carries key topic := by
  rcases hs.keyed.after_decide e with hsame | ⟨t, current, rfl, ht, hput⟩
  · rw [hsame]
    exact h
  · have hother : t.key ≠ key := by simpa [CatalogEvent.redefines, CatalogEvent.succeeded] using he
    have hcurrent : current.key = t.key := hs.keyed.key_of_table? ht
    exact hput ▸ h.putTable (hcurrent ▸ hother)

/-- **So does every input that does not redefine the table.** -/
theorem take (h : s.Carries key topic) (hs : s.Reachable) {i : Feed.Input}
    (hi : i.redefines key = false) : (s.take i).2.Carries key topic := by
  cases i with
  | event e => exact after_answered _ ▸ h.decide hs hi
  | recorded e => exact after_answered _ ▸ (h.reflect hi).decide (hs.reflect e) hi
  | setting name value => exact h

/-- **A partition of the table is announced on its topic.** -/
theorem partitionPolicy_eq {x : Partition} (h : s.Carries (tableKey x.database x.table) topic)
    (htopic : topic ≠ "") (tag : NoticeTag) :
    s.partitionPolicy x tag = s.published topic (.partition x) tag := by
  obtain ⟨t, ht, hstored⟩ := h
  have hfound : s.table? x.database x.table = some t := ht
  simp only [partitionPolicy, hfound, hstored, publishedIf, String.isEmpty_iff, if_neg htopic]

end Carries
end Catalog.Store

namespace Feed

/-! ## From the creation of a table to its partitions -/

/-- The state after a feed has taken in one input after the other. -/
def takeAll {β : Type} (f : Feed Store β) (inputs : List Input) (s : State Store β) :
    State Store β := inputs.foldl (fun s i => (f.take i s).2) s

/-- What is known from the creation of a table on: its topic stays, and nothing is left pending. -/
structure Keeps (key : TableKey) (topic : String) (s : State Store Beset) : Prop where
  reachable : s.catalog.Reachable
  carries : s.catalog.Carries key topic
  backlog : s.backlog = []

variable {p : Publisher} {key : TableKey} {topic : String} {s : State Store Beset}

/-- **Every input keeps this**, unless it redefines the table. -/
theorem Keeps.take (h : Keeps key topic s) {i : Input} (hi : i.redefines key = false) :
    Keeps key topic ((onStore p Beset.service).take i s).2 := by
  have hcatalog : ((onStore p Beset.service).take i s).2.catalog = (s.catalog.take i).2 :=
    congrArg Prod.snd (take_onStore p Beset.service i s)
  refine ⟨hcatalog ▸ h.reachable.take i, hcatalog ▸ h.carries.take h.reachable hi, ?_⟩
  cases i with
  | event e => exact (handle_adds p e s).backlog_eq_nil h.backlog
  | recorded e =>
    exact (handle_adds p e { s with catalog := s.catalog.reflect e }).backlog_eq_nil h.backlog
  | setting name value => exact h.backlog

theorem Keeps.takeAll {inputs : List Input} (h : Keeps key topic s)
    (hinputs : ∀ i ∈ inputs, i.redefines key = false) :
    Keeps key topic ((onStore p Beset.service).takeAll inputs s) := by
  induction inputs generalizing s with
  | nil => exact h
  | cons i inputs ih =>
    exact ih (h.take (hinputs i List.mem_cons_self)) fun j hj =>
      hinputs j (List.mem_cons_of_mem i hj)

/-- **So it is from the creation of the table on**, whether or not it could be announced. -/
theorem keeps_created (p : Publisher) (created : Table) (hs : s.catalog.Reachable) :
    Keeps created.key (Topic.ofTable s.catalog.stem created.database created.name)
      ((onStore p Beset.service).apply (.succeeded (.tableCreated created)) s).2 := by
  have hreachable := hs.putTable created
  have hpolicy := hreachable.keyed.ruling_decide (.succeeded (.tableCreated created))
  rw [Store.policy_tableCreated (s.catalog.table?_putTable_self created)] at hpolicy
  have hcatalog :
      ((onStore p Beset.service).apply (.succeeded (.tableCreated created)) s).2.catalog =
        (s.catalog.putTable created).putTable
          (Topic.store (Topic.ofTable s.catalog.stem created.database created.name) created) := by
    have htake := congrArg Prod.snd
      (take_onStore p Beset.service (.recorded (.succeeded (.tableCreated created))) s)
    refine htake.trans ((Store.after_answered _).trans ?_)
    exact (Store.after_ruling _).symm.trans (congrArg Store.Ruling.after hpolicy)
  refine ⟨hcatalog ▸ hreachable.putTable _, hcatalog ▸ Store.carries_putTable _ created _, ?_⟩
  obtain ⟨a, ha, -⟩ := Store.announces_of_answer (congrArg Store.Ruling.answer hpolicy)
  exact (handle_announced p (s := { s with catalog := s.catalog.putTable created }) ha).1

/-- A successful change of a partition is announced on the topic that its table carries. -/
theorem announces_partition {c : Store} {x : Partition} {change : Change}
    (hchange : change = .partitionAdded x ∨ change = .partitionDropped x)
    (h : c.Carries (tableKey x.database x.table) topic) (htopic : topic ≠ "") :
    ∃ a, (c.decide (.succeeded change)).1 = .ok (.announce a) ∧ a.topic = topic := by
  have hruling : ∃ y tag, Store.ruling (c.decide (.succeeded change)) =
      c.published topic (.partition y) tag := by
    rcases hchange with rfl | rfl
    · exact ⟨x, _, (c.ruling_decide_partitionAdded x).trans (h.partitionPolicy_eq htopic _)⟩
    · have hpolicy := h.partitionPolicy_eq (x := x.sanitize) htopic .dropPartition
      exact ⟨x.sanitize, _, (c.ruling_decide_partitionDropped x).trans hpolicy⟩
  obtain ⟨y, tag, hruling⟩ := hruling
  obtain ⟨a, ha, hadded⟩ := Store.announces_of_answer (congrArg Store.Ruling.answer hruling)
  have hcontent := hadded.symm.trans (congrArg Store.Ruling.added hruling)
  exact ⟨a, ha, congrArg Prod.fst (List.singleton_inj.mp hcontent)⟩

/-- **A table keeps the topic that it was created with.**  After the creation of a table, in
whatever weather, and any inputs that do not redefine it, every partition that is added to it or
dropped, under whatever spelling of its names, is published on the topic that the prefix gave the
table when it was created: it is delivered there, or it fails, and nothing else is published. -/
theorem topic_is_fixed (p : Publisher) (created : Table) (s : State Store Beset)
    (hs : s.catalog.Reachable) (inputs : List Input)
    (hinputs : ∀ i ∈ inputs, i.redefines created.key = false) (x : Partition)
    (hx : tableKey x.database x.table = created.key) (change : Change)
    (hchange : change = .partitionAdded x ∨ change = .partitionDropped x) :
    let feed := onStore p Beset.service
    let topic := Topic.ofTable s.catalog.stem created.database created.name
    let before := feed.takeAll inputs (feed.apply (.succeeded (.tableCreated created)) s).2
    let applied := feed.apply (.succeeded change) before
    (before.catalog.table? x.database x.table).bind Topic.stored? = some topic ∧
      (applied.1 = .ok .failed ∧ applied.2.delivered = before.delivered ∨
        applied.1 = .ok .delivered ∧
          ∃ d, applied.2.delivered = before.delivered ++ [d] ∧ d.topic = topic) := by
  intro feed topic before applied
  have hkeeps : Keeps created.key topic before := (keeps_created p created hs).takeAll hinputs
  have hcarries : before.catalog.Carries (tableKey x.database x.table) topic := hx ▸ hkeeps.carries
  obtain ⟨t, ht, hstored⟩ := hcarries
  have hfound : before.catalog.table? x.database x.table = some t := ht
  refine ⟨by rw [hfound, Option.bind_some, hstored], ?_⟩
  -- a partition event brings the catalog to no other state
  have hreflect : before.catalog.reflect (.succeeded change) = before.catalog := by
    rcases hchange with rfl | rfl <;> rfl
  have happlied : applied = feed.handle (.succeeded change) before := by
    simp only [applied, apply, hreflect]
  obtain ⟨a, ha, htopic⟩ :=
    announces_partition hchange ⟨t, ht, hstored⟩ (Topic.ofTable_ne_empty _ _ _)
  obtain ⟨-, carried, announced, hcarried, hdelivered, hends⟩ := handle_announced p ha
  have hnone : carried = [] := by
    rw [hkeeps.backlog] at hcarried
    exact List.map_eq_nil_iff.mp (hcarried.elim id id)
  subst hnone
  rw [happlied]
  rcases hends with ⟨hd, hannounced⟩ | ⟨hd, -, rfl⟩
  · obtain ⟨d, rfl, hcontent⟩ := List.map_eq_singleton_iff.mp hannounced
    exact Or.inr ⟨hd, d, hdelivered, (congrArg Prod.fst hcontent).trans htopic⟩
  · exact Or.inl ⟨hd, hdelivered.trans (List.append_nil _)⟩

/-! ### A table created during an outage -/

/-- A bus that cannot be reached until the third request. -/
def outage : Beset :=
  ⟨{ directory := Bus.Directory.bind {} "cf" 0 }, [[.reachability true], [], [.reachability false]]⟩

/-- The prefix changes after the creation of `Sales.Q1`, which could not be announced. -/
theorem topic_is_fixed_during_outage :
    let feed := onStore samplePublisher Beset.service
    let creation := feed.apply (.succeeded (.tableCreated { name := "Q1", database := "Sales" }))
      ⟨Store.ofSnapshot {}, outage, {}, {}⟩
    let before := feed.takeAll [.setting Topic.prefixSetting "other"] creation.2
    let applied := feed.apply (.succeeded (.partitionAdded
      { values := ["eu"], database := "SALES", table := "q1" })) before
    creation.1 = .ok .failed ∧ applied.1 = .ok .delivered ∧
      ∃ d, applied.2.delivered = before.delivered ++ [d] ∧ d.topic = "hcat.sales.q1" := by
  intro feed creation before applied
  obtain ⟨-, hends⟩ := topic_is_fixed samplePublisher { name := "Q1", database := "Sales" }
    ⟨Store.ofSnapshot {}, outage, {}, {}⟩ (.loaded {}) [.setting Topic.prefixSetting "other"]
    (by decide) { values := ["eu"], database := "SALES", table := "q1" } (by decide +kernel) _
    (Or.inl rfl)
  have hdelivered : applied.1 = .ok .delivered := by decide +kernel
  refine ⟨by decide +kernel, hdelivered, ?_⟩
  rcases hends with ⟨hfailed, -⟩ | ⟨-, d, hd, htopic⟩
  · cases hfailed.symm.trans hdelivered
  · exact ⟨d, hd, htopic.trans (by decide +kernel)⟩

end Feed
end CatalogFeed
