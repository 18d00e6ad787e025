import CatalogFeed.Proofs.Dict
import CatalogFeed.Proofs.Feed.Contention
import CatalogFeed.Proofs.Script.Transcript

/-!
# Proofs/Feed/Persistence — a new table is announced only once its topic is stored

When a table is created, the catalog is asked for its definition, for the prefix, and to replace the
definition by the same with its topic; only then is there something to announce.  `Course` lists the
ways this may go on any catalog, with all that was asked and answered.

* `Listener.ensures_course`: there are no other ways, and an error leaves the catalog as it was;
* `Store.Keyed.decide_tableCreated`: the way it goes on a catalog in memory;
* `Store.TopicAdded`: two stores that differ in the topic of one table;
* `Feed.stored_before_announced`: every catalog, every bus, and what a second creation does.
-/

namespace CatalogFeed

/-! ## Refusals -/

namespace Catalog

/-- The error in an answer of a catalog, if it is one. -/
def Request.failure? : (r : Request) → r.Reply → Option CatalogError
  | .setting _, _ => none
  | .getTable _ _, .ok _ => none
  | .getTable _ _, .error e => some e
  | .alterTable _ _ _, .ok _ => none
  | .alterTable _ _ _, .error e => some e

theorem Request.eq_error_of_failure? {database table : String} {t : Table}
    {reply : Except CatalogError Unit} {e : CatalogError}
    (h : (Request.alterTable database table t).failure? reply = some e) : reply = .error e := by
  cases reply with
  | ok a => cases h
  | error e' => exact congrArg Except.error (Option.some.inj h)

/-- The error in an exchange with a catalog, if it ended in one. -/
def failure? (x : Exchange access) : Option CatalogError := x.request.failure? x.reply

/-- **An alteration that is refused leaves a catalog alone**, as far as `view` shows it. -/
def RefusalsKeep {κ α : Type} (service : Service access κ) (view : κ → α) : Prop :=
  ∀ (database table : String) (t : Table) (now : Nat) (k : κ) (e : CatalogError),
    (service.serve (.alterTable database table t) now k).reply = .error e →
      view (service.serve (.alterTable database table t) now k).state = view k

theorem refusalsKeep_store : RefusalsKeep Store.service id := by
  intro database table t now s e he
  simp only [Store.service, Store.answer] at he ⊢
  cases halter : s.alterTable database table t with
  | ok altered =>
    rw [halter] at he
    cases he
  | error e => rfl

/-- A fault that stands in for a catalog's answer changes nothing behind it. -/
theorem RefusalsKeep.troubled {κ α : Type} {service : Service access κ} {view : κ → α}
    (h : RefusalsKeep service view) : RefusalsKeep (troubled service) fun k => view k.1 := by
  rintro database table t now ⟨k, faults⟩ e he
  simp only [Catalog.troubled, meet] at he ⊢
  split at he
  · exact h _ _ _ _ _ e he
  · split at he
    · rfl
    · exact h _ _ _ _ _ e he

end Catalog

/-- Everything is written down; what reads, and what fails, leaves alone what can be seen. -/
def Contract.observing (α : Type) : Contract Catalog.access (α × Transcript Catalog.access) where
  answers r s reply s' := s'.2 = s.2 ++ [⟨r, reply⟩] ∧
    (r.reads = true ∨ (∃ e, r.failure? reply = some e) → s'.1 = s.1)
  holds _ := True

/-! ## The course of a creation -/

/-- A definition with the topic that comes of a prefix that is configured or not. -/
def Topic.given (stem : Option String) (t : Table) : Table :=
  store (ofTable (stem.getD defaultPrefix) t.database t.name) t

namespace Listener

open Catalog (access)

/-- The announcement of a new table. -/
def newTable (stem : Option String) (updated : Table) : Announcement :=
  ⟨.snapshot (.table updated), Topic.ofDatabase (stem.getD Topic.defaultPrefix) updated.database,
    .addTable⟩

/-- **The course of a creation**: what is asked of the catalog, with the answers, and what is
decided after them. -/
inductive Course (created : Table) :
    Transcript access → Except CatalogError Decision → Prop where
  /-- The table cannot be read. -/
  | unread (e : CatalogError) :
      Course created [⟨.getTable created.database created.name, .error e⟩] (.error e)
  /-- The table cannot be given its topic. -/
  | refused (current : Table) (stem : Option String) (e : CatalogError) :
      Course created
        [⟨.getTable created.database created.name, .ok current⟩,
          ⟨.setting Topic.prefixSetting, stem⟩,
          ⟨.alterTable current.database current.name (Topic.given stem current), .error e⟩]
        (.error e)
  /-- The table has its topic. -/
  | stored (current : Table) (stem later : Option String) :
      Course created
        [⟨.getTable created.database created.name, .ok current⟩,
          ⟨.setting Topic.prefixSetting, stem⟩,
          ⟨.alterTable current.database current.name (Topic.given stem current), .ok ()⟩,
          ⟨.setting Topic.prefixSetting, later⟩]
        (.ok (.announce (newTable later (Topic.given stem current))))

/-- An answer that is an error is the decision. -/
theorem Course.eq_error {created : Table} {calls : Transcript access}
    {d : Except CatalogError Decision} (h : Course created calls d) {x : Exchange access}
    (hx : x ∈ calls) {cause : CatalogError} (hcause : Catalog.failure? x = some cause) :
    d = .error cause := by
  cases h with
  | unread e =>
    obtain rfl := List.mem_singleton.mp hx
    exact congrArg Except.error (Option.some.inj hcause)
  | refused current stem e =>
    simp only [List.mem_cons, List.not_mem_nil, or_false] at hx
    rcases hx with rfl | rfl | rfl
    · cases hcause
    · cases hcause
    · exact congrArg Except.error (Option.some.inj hcause)
  | stored current stem later =>
    simp only [List.mem_cons, List.not_mem_nil, or_false] at hx
    rcases hx with rfl | rfl | rfl | rfl <;> cases hcause

/-- Without an error, what the catalog was given is announced. -/
theorem Course.eq_announce {created : Table} {calls : Transcript access}
    {d : Except CatalogError Decision} (h : Course created calls d)
    (hnone : ∀ x ∈ calls, Catalog.failure? x = none) : ∃ updated topic,
      ⟨.alterTable updated.database updated.name updated, .ok ()⟩ ∈ calls ∧
        d = .ok (.announce ⟨.snapshot (.table updated), topic, .addTable⟩) := by
  cases h with
  | unread e => cases hnone _ List.mem_cons_self
  | refused current stem e =>
    cases hnone _ (List.mem_cons_of_mem _ (List.mem_cons_of_mem _ List.mem_cons_self))
  | stored current stem later =>
    exact ⟨Topic.given stem current, _,
      List.mem_cons_of_mem _ (List.mem_cons_of_mem _ List.mem_cons_self), rfl⟩

/-- **A creation takes one of these courses**, and an error leaves alone what can be seen. -/
theorem ensures_course {α : Type} (created : Table) (v : α) :
    (decide (.succeeded (.tableCreated created))).Ensures (.observing α)
      (fun d s => Course created s.2 d ∧ ((∃ e, d = .error e) → s.1 = v)) (v, []) := by
  rw [decide_tableCreated]
  refine ⟨trivial, ?_⟩
  rintro (e | current) ⟨seen, calls⟩ ⟨rfl, hread⟩
  · exact ⟨trivial, .unread e, fun _ => hread (Or.inl rfl)⟩
  obtain rfl : seen = v := hread (Or.inl rfl)
  refine ⟨trivial, ?_⟩
  rintro stem ⟨seen', calls⟩ ⟨rfl, hread⟩
  obtain rfl : seen' = seen := hread (Or.inl rfl)
  refine ⟨trivial, ?_⟩
  rintro (e | ⟨⟩) ⟨seen, calls⟩ ⟨rfl, hrefused⟩
  · exact ⟨trivial, .refused current stem e, fun _ => hrefused (Or.inr ⟨e, rfl⟩)⟩
  · refine ⟨trivial, ?_⟩
    rintro later ⟨seen, calls⟩ ⟨rfl, -⟩
    exact ⟨trivial, .stored current stem later, nofun⟩

end Listener

namespace Feed

variable {κ β : Type}

/-- What is asked of the catalog about an event, with the answers. -/
def consulted (f : Feed κ β) (e : CatalogEvent) (s : State κ β) : Transcript Catalog.access :=
  (f.catalog.recorded.run (Listener.decide e) (s.catalog, []) s.journal).2.1.2

/-- What is decided on the creation of a table, on any catalog. -/
theorem decide_course {α : Type} (f : Feed κ β) {view : κ → α}
    (hreads : Catalog.ReadsKeep f.catalog view) (hrefusals : Catalog.RefusalsKeep f.catalog view)
    (created : Table) (s : State κ β) :
    let e := CatalogEvent.succeeded (.tableCreated created)
    Listener.Course created (f.consulted e s) (f.decide e s).1 ∧
      ((∃ cause, (f.decide e s).1 = .error cause) →
        view (f.decide e s).2.catalog = view s.catalog) := by
  intro e
  have hrun := Script.Ensures.run (K := .observing α) (h := f.catalog.recorded.handler)
    (fun t : (κ × Transcript Catalog.access) × Journal => (view t.1.1, t.1.2)) (fun r t => ?_)
    (fun _ _ => rfl) (t := ((s.catalog, []), s.journal))
    (Listener.ensures_course created (view s.catalog))
  · have hsame := f.catalog.recorded_run (Listener.decide e) s.catalog [] s.journal
    simp only [consulted, decide, ← hsame]
    exact hrun
  · refine ⟨rfl, ?_⟩
    rintro (hr | ⟨cause, hcause⟩)
    · exact hreads r t.2.clock t.1.1 hr
    · cases r with
      | alterTable database table t' =>
        exact hrefusals database table t' t.2.clock t.1.1 cause
          (Catalog.Request.eq_error_of_failure? hcause)
      | _ => exact hreads _ t.2.clock t.1.1 rfl

end Feed

/-! ## A catalog in memory -/

/-- After its first request a script goes on with the reply. -/
theorem Script.run_ask_of {I : Interface} {α σ : Type} {h : Handler I σ} {r : I.Request}
    {next : I.Reply r → Script I α} {s s' : σ} {reply : I.Reply r}
    (hserve : h.serve r s = (reply, s')) : (ask r next).run h s = (next reply).run h s' := by
  rw [run_ask, hserve]

namespace Catalog.Store

variable {s : Store} {created current : Table}

/-- A definition that may be replaced is announced with its topic. -/
theorem run_storeTopic_of_ok {after : Store} {topic : String}
    (h : s.alterTable current.database current.name (Topic.store topic current) = .ok after) :
    (Listener.storeTopic topic current).run handler s =
      (.ok (.announce (Listener.newTable (after.setting? Topic.prefixSetting)
        (Topic.store topic current))), after) := by
  have hserve : handler.serve
      (.alterTable current.database current.name (Topic.store topic current)) s =
        (.ok (), after) := by
    rw [serve_handler, answer, h]
  exact Script.run_ask_of hserve

/-- **A new table that a catalog has is given its topic and announced** as the catalog then has
it. -/
theorem Keyed.decide_tableCreated (h : s.Keyed)
    (hfound : s.table? created.database created.name = some current) :
    s.decide (.succeeded (.tableCreated created)) =
      (.ok (.announce (Listener.newTable (s.setting? Topic.prefixSetting) (s.withTopic current))),
        s.putTable (s.withTopic current)) := by
  have hkey : (s.withTopic current).key = current.key := rfl
  have halter : s.alterTable current.database current.name (s.withTopic current) =
      .ok (s.putTable (s.withTopic current)) :=
    h.alterTable_looked_up hfound hkey
  have hserve : handler.serve (.getTable created.database created.name) s = (.ok current, s) := by
    rw [serve_handler, Store.answer, getTable_of_some hfound]
  rw [decide, Listener.decide_tableCreated, Script.run_log]
  exact (Script.run_ask_of hserve).trans (run_storeTopic_of_ok halter)

/-- A table that has its topic already is stored as it is. -/
theorem Keyed.decide_tableCreated_again (h : s.Keyed)
    (hfound : s.table? created.database created.name = some current)
    (htopic : Topic.stored? current = some (Topic.ofTable s.stem current.database current.name)) :
    (s.decide (.succeeded (.tableCreated created))).2 = s := by
  have hwith : s.withTopic current = current := by
    rw [withTopic, Topic.store, Dict.insert_of_get? htopic]
  have hthere : s.tables.get? current.key = some current := by
    rw [h.key_of_table? hfound]
    exact hfound
  rw [h.decide_tableCreated hfound, hwith]
  exact congrArg (fun tables => { s with tables }) (Dict.insert_of_get? hthere)

/-- The topics of a table depend on its names only up to case. -/
theorem ofTable_of_key (h : current.key = created.key) (stem : String) :
    Topic.ofTable stem current.database current.name =
        Topic.ofTable stem created.database created.name ∧
      Topic.ofDatabase stem current.database = Topic.ofDatabase stem created.database := by
  obtain ⟨hdatabase, hname⟩ := TableKey.mk.injEq .. ▸ h
  rw [Topic.ofTable, Topic.ofTable, Topic.ofDatabase, Topic.ofDatabase, hdatabase, hname]
  exact ⟨rfl, rfl⟩

/-- **Two stores that differ in the topic of one table**, and in nothing else. -/
structure TopicAdded (key : TableKey) (topic : String) (s s' : Store) : Prop where
  settings : s'.settings = s.settings
  databases : s'.databases = s.databases
  others : ∀ other, other ≠ key → s'.tables.get? other = s.tables.get? other
  table : ∃ t, s.tables.get? key = some t ∧ s'.tables.get? key =
    some { t with parameters := t.parameters.insert Topic.nameProperty topic }

theorem topicAdded_putTable {key : TableKey} {topic : String} {t : Table}
    (hfound : s.tables.get? key = some t) (hkey : t.key = key) :
    s.TopicAdded key topic (s.putTable (Topic.store topic t)) where
  settings := rfl
  databases := rfl
  others _ hother := Dict.get?_insert_of_ne _ _ fun heq => hother (heq.trans hkey)
  table := ⟨t, hfound, hkey ▸ Dict.get?_insert_self _ t.key _⟩

end Catalog.Store

/-! ## Storing comes before announcing -/

namespace Feed

open Catalog (Store failure?)

variable {κ β : Type}

/-- Nothing was asked of the bus, and the catalog is as it was, as far as `view` shows it. -/
structure Untouched {α : Type} (view : κ → α) (s s' : State κ β) : Prop where
  bus : s'.bus = s.bus
  link : s'.link = s.link
  catalog : view s'.catalog = view s.catalog

/-- **The event is answered by publishing** `a`, in the state that the decision has left. -/
def AnswersBySending (f : Feed κ β) (e : CatalogEvent) (s : State κ β) (a : Announcement) : Prop :=
  f.handle e s = (f.publish (·.send a) (f.decide e s).2).map .ok id

theorem answersBySending {f : Feed κ β} {e : CatalogEvent} {s : State κ β} {a : Announcement}
    (h : (f.decide e s).1 = .ok (.announce a)) : f.AnswersBySending e s a := by
  rcases f.handle_cases e s with ⟨cause, hdecided, -⟩ | ⟨decision, hdecided, hhandle⟩
  · cases hdecided.symm.trans h
  · cases hdecided.symm.trans h
    exact hhandle

/-- **Any catalog**: an error is passed on and nothing else is done, and what is published is what
the catalog was given. -/
theorem handle_course {α : Type} (f : Feed κ β) {view : κ → α}
    (hreads : Catalog.ReadsKeep f.catalog view) (hrefusals : Catalog.RefusalsKeep f.catalog view)
    (created : Table) (s : State κ β) :
    let e := CatalogEvent.succeeded (.tableCreated created)
    (∀ x ∈ f.consulted e s, ∀ cause, failure? x = some cause →
      (f.handle e s).1 = .error (.catalog cause) ∧ Untouched view s (f.handle e s).2) ∧
    ((∀ x ∈ f.consulted e s, failure? x = none) → ∃ updated topic,
      ⟨.alterTable updated.database updated.name updated, .ok ()⟩ ∈ f.consulted e s ∧
        f.AnswersBySending e s ⟨.snapshot (.table updated), topic, .addTable⟩) := by
  intro e
  obtain ⟨hcourse, hview⟩ := f.decide_course hreads hrefusals created s
  constructor
  · intro x hx cause hcause
    have hdecided := hcourse.eq_error hx hcause
    rcases f.handle_cases e s with ⟨cause', hdecided', hhandle⟩ | ⟨decision, hdecided', -⟩
    · cases hdecided'.symm.trans hdecided
      rw [hhandle]
      exact ⟨rfl, rfl, rfl, hview ⟨cause, hdecided⟩⟩
    · cases hdecided'.symm.trans hdecided
  · intro hnone
    obtain ⟨updated, topic, hcalls, hdecided⟩ := hcourse.eq_announce hnone
    exact ⟨updated, topic, hcalls, answersBySending hdecided⟩

variable {s : State Store β}

/-- A new table that the catalog in memory has is given its topic before it is announced. -/
theorem decide_onStore_created (p : Publisher) (bus : Service Bus.access β)
    (hs : s.catalog.Keyed) {created current : Table}
    (hfound : s.catalog.table? created.database created.name = some current) :
    let e := CatalogEvent.succeeded (.tableCreated created)
    ((onStore p bus).decide e s).1 = .ok (.announce (Listener.newTable
        (s.catalog.setting? Topic.prefixSetting) (s.catalog.withTopic current))) ∧
      ((onStore p bus).decide e s).2.catalog = s.catalog.putTable (s.catalog.withTopic current) ∧
      ((onStore p bus).handle e s).2.catalog =
        s.catalog.putTable (s.catalog.withTopic current) := by
  intro e
  obtain ⟨j, hdecide⟩ := decide_onStore p bus e s
  rw [catalog_handle, hdecide, hs.decide_tableCreated hfound]
  exact ⟨rfl, rfl, rfl⟩

/-- **A new table is announced only once its topic is stored.**

On any catalog and any bus: if an answer of the catalog is an error, then this is the answer to the
creation, nothing is asked of the bus, and the catalog is as it was, as far as can be seen where
reading and refused alterations leave no trace.  Otherwise the catalog has replaced the definition
of the table, and the definition that it was given is what is then published.

In memory the catalog has the table or not.  If it does, the catalog afterwards differs from what it
was in one place, the topic in the properties of that table; this was so before the bus was turned
to, and stays so whatever comes of it; what is published is the table as the catalog then has it;
and another creation under the same prefix, on whatever bus, changes nothing. -/
theorem stored_before_announced :
    (∀ {κ β α : Type} (f : Feed κ β) (view : κ → α), Catalog.ReadsKeep f.catalog view →
      Catalog.RefusalsKeep f.catalog view → ∀ (created : Table) (s : State κ β),
      let e := CatalogEvent.succeeded (.tableCreated created)
      (∀ x ∈ f.consulted e s, ∀ cause, failure? x = some cause →
        (f.handle e s).1 = .error (.catalog cause) ∧ Untouched view s (f.handle e s).2) ∧
      ((∀ x ∈ f.consulted e s, failure? x = none) → ∃ updated topic,
        ⟨.alterTable updated.database updated.name updated, .ok ()⟩ ∈ f.consulted e s ∧
          f.AnswersBySending e s ⟨.snapshot (.table updated), topic, .addTable⟩)) ∧
    ∀ {β : Type} (p : Publisher) (bus : Service Bus.access β) (created current : Table)
      (s : State Store β), s.catalog.Reachable →
      s.catalog.table? created.database created.name = some current →
      let f := onStore p bus
      let e := CatalogEvent.succeeded (.tableCreated created)
      let after := (f.handle e s).2.catalog
      s.catalog.TopicAdded created.key
        (Topic.ofTable s.catalog.stem created.database created.name) after ∧
      (f.decide e s).2.catalog = after ∧
      (∃ updated, after.table? created.database created.name = some updated ∧
        f.AnswersBySending e s ⟨.snapshot (.table updated),
          Topic.ofDatabase s.catalog.stem created.database, .addTable⟩) ∧
      ∀ {γ : Type} (q : Publisher) (bus' : Service Bus.access γ) (again : Table)
        (settings : Properties) (b : γ) (link : Link) (j : Journal), again.key = created.key →
        Store.stem { after with settings } = s.catalog.stem →
        ((onStore q bus').handle (.succeeded (.tableCreated again))
          ⟨{ after with settings }, b, link, j⟩).2.catalog = { after with settings } := by
  refine ⟨handle_course, ?_⟩
  intro β p bus created current s hs hfound f e after
  have hkeyed := hs.keyed
  obtain ⟨hdecided, hbefore, hafter⟩ := decide_onStore_created p bus hkeyed hfound
  have hkey : current.key = created.key := hkeyed.key_of_table? hfound
  obtain ⟨htopic, hdatabase⟩ := Store.ofTable_of_key hkey s.catalog.stem
  have hthere : after.tables.get? created.key = some (s.catalog.withTopic current) := by
    rw [show after = _ from hafter, ← hkey]
    exact Dict.get?_insert_self _ _ _
  refine ⟨?_, hbefore.trans hafter.symm, ⟨_, hthere, ?_⟩, ?_⟩
  · rw [show after = _ from hafter, ← htopic]
    exact Store.topicAdded_putTable hfound hkey
  · rw [← hdatabase]
    exact answersBySending hdecided
  · intro γ q bus' again settings b link j hagain hstem
    have hlater : Store.Keyed { after with settings } := by
      rw [show after = _ from hafter]
      exact hkeyed.putTable _
    have hfound' : Store.table? { after with settings } again.database again.name =
        some (s.catalog.withTopic current) :=
      (congrArg after.tables.get? hagain).trans hthere
    have hsame : (Store.decide { after with settings } (.succeeded (.tableCreated again))).2 =
        { after with settings } := by
      refine hlater.decide_tableCreated_again hfound' ?_
      rw [hstem]
      exact Topic.stored?_store _ _
    obtain ⟨j', hdecide⟩ := decide_onStore q bus' (.succeeded (.tableCreated again))
      ⟨{ after with settings }, b, link, j⟩
    rw [catalog_handle, hdecide]
    exact hsame

/-! ### A creation that is refused, and one that is not -/

/-- A table under another spelling of the names that the catalog has for it. -/
def respelled : Table := { name := "Q1", database := "Sales" }

/-- The catalog has `sales.q1`, and is about to refuse an alteration once. -/
def refusingState : State (Store × Faults Catalog.Point CatalogError)
    (Bus.Hub × Faults Bus.Point Error) :=
  { besetState with
    catalog := (oneTable.catalog, [(.alterTable, { error := some (.unavailable "down") })]) }

theorem stored_before_announced_or_refused :
    (besetFeed.handle (.succeeded (.tableCreated respelled)) refusingState).1 =
        .error (.catalog (.unavailable "down")) ∧
      Untouched Prod.fst refusingState
        (besetFeed.handle (.succeeded (.tableCreated respelled)) refusingState).2 ∧
      oneTable.catalog.TopicAdded ⟨"sales", "q1"⟩ "hcat.sales.q1" ((onStore idlePublisher
        Bus.Hub.service).handle (.succeeded (.tableCreated respelled)) oneTable).2.catalog := by
  obtain ⟨hany, hmemory⟩ := stored_before_announced
  obtain ⟨herror, -⟩ := hany besetFeed Prod.fst Catalog.readsKeep_store.troubled
    Catalog.refusalsKeep_store.troubled respelled refusingState
  have hcalls : (besetFeed.consulted (.succeeded (.tableCreated respelled)) refusingState).map
      failure? = [none, none, some (.unavailable "down")] := by decide +kernel
  have hmem : some (.unavailable "down") ∈
      (besetFeed.consulted (.succeeded (.tableCreated respelled)) refusingState).map failure? := by
    rw [hcalls]
    exact List.mem_of_getElem? (i := 2) rfl
  obtain ⟨x, hx, hcause⟩ := List.mem_map.mp hmem
  obtain ⟨hrefused, huntouched⟩ := herror x hx _ hcause
  obtain ⟨hadded, -⟩ := hmemory idlePublisher Bus.Hub.service respelled
    { name := "q1", database := "sales" } oneTable (.putTable _ (.loaded {})) (by decide +kernel)
  have hkey : respelled.key = ⟨"sales", "q1"⟩ := by decide +kernel
  have htopic : Topic.ofTable oneTable.catalog.stem respelled.database respelled.name =
      "hcat.sales.q1" := by decide +kernel
  rw [hkey, htopic] at hadded
  exact ⟨hrefused, huntouched, hadded⟩

end Feed
end CatalogFeed
