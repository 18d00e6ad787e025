import CatalogFeed.Proofs.Feed.Alteration
import CatalogFeed.Proofs.Feed.Unpublished

/-!
# Proofs/Feed/Contention — a table is written while it is announced

A new table is given its topic by a look-up and a replacement of what was looked up.  Each of the
two is one step of the catalog, but another task may write between them.  `Contested.service` is a
catalog in memory to which another task writes once: when so many requests were answered, or at the
end.

* `creation_early`, `creation_between`, `creation_late`: what the write and the new topic come to,
  by the moment of the write;
* `Feed.concurrent_write_kept_iff`: the write is kept unless it falls between the two, and there if
  it wrote what had been looked up;
* `Feed.concurrent_write_is_lost`: a table that gets an owner and loses it.
-/

namespace CatalogFeed

/-! ## Definitions that differ in their topic -/

/-- A definition without its topic. -/
def Topic.erase (t : Table) : Table := { t with parameters := t.parameters.erase nameProperty }

@[simp] theorem Topic.erase_store (topic : String) (t : Table) :
    erase (store topic t) = erase t := by
  rw [erase, store]
  simp only [Dict.erase_insert]
  rfl

namespace Catalog

/-- The catalog has a definition, changed at most in its topic. -/
def Store.Keeps (s : Store) (t : Table) : Prop :=
  ∃ held, s.table? t.database t.name = some held ∧ Topic.erase held = Topic.erase t

theorem Store.keeps_putTable_of_eq {s : Store} {x t : Table} (h : x.key = t.key) :
    (s.putTable x).Keeps t ↔ Topic.erase x = Topic.erase t := by
  rw [Keeps, table?_putTable, if_pos (show x.key = tableKey t.database t.name from h)]
  exact ⟨fun ⟨held, hheld, heq⟩ => by cases hheld; exact heq, fun heq => ⟨x, rfl, heq⟩⟩

theorem Store.keeps_putTable_of_ne {s : Store} {x t : Table} (h : x.key ≠ t.key) :
    (s.putTable x).Keeps t ↔ s.Keeps t := by
  rw [Keeps, table?_putTable, if_neg (show x.key ≠ tableKey t.database t.name from h), Keeps]

/-! ## A write of another task -/

/-- A definition that another task writes. -/
inductive Write where
  | put (definition : Table)
  /-- The definition of a table is replaced, under the same names or others. -/
  | alter (database table : String) (definition : Table)

/-- What is written. -/
def Write.definition : Write → Table
  | .put t => t
  | .alter _ _ t => t

/-- The store after a write, or why it was refused. -/
def Store.write (s : Store) : Write → Except CatalogError Store
  | .put t => .ok (s.putTable t)
  | .alter database table t => s.alterTable database table t

/-- What was written is there. -/
theorem Store.table?_write {s written : Store} {w : Write} (h : s.write w = .ok written) :
    written.table? w.definition.database w.definition.name = some w.definition := by
  cases w with
  | put t =>
    cases h
    exact s.table?_putTable_self t
  | alter database table t =>
    rw [write, alterTable] at h
    split at h
    · cases h
      exact Dict.get?_insert_self _ t.key t
    · cases h

theorem Store.Keyed.write {s written : Store} (hs : s.Keyed) {w : Write}
    (h : s.write w = .ok written) : written.Keyed := by
  cases w with
  | put t =>
    cases h
    exact hs.putTable t
  | alter database table t => exact hs.alterTable h

/-- Whether another task has written. -/
inductive Turn where
  /-- It will write once so many more requests were answered. -/
  | due (requests : Nat)
  /-- It has written, and was answered this. -/
  | made (answer : Except CatalogError Unit)

/-- A catalog in memory to which another task writes. -/
structure Contested where
  store : Store
  turn : Turn

namespace Contested

/-- The other task writes. -/
def strike (w : Write) (s : Store) : Contested :=
  match s.write w with
  | .ok written => ⟨written, .made (.ok ())⟩
  | .error e => ⟨s, .made (.error e)⟩

/-- Before a request, the other task writes if its turn has come. -/
def advance (w : Write) (c : Contested) : Contested :=
  match c.turn with
  | .due 0 => strike w c.store
  | .due (n + 1) => ⟨c.store, .due n⟩
  | .made _ => c

/-- In the end the other task has written. -/
def settle (w : Write) (c : Contested) : Contested :=
  match c.turn with
  | .due _ => strike w c.store
  | .made _ => c

/-- A contested catalog as a service. -/
def service (w : Write) : Service access Contested where
  serve request now c :=
    let c := c.advance w
    (Store.service.serve request now c.store).within (⟨·, c.turn⟩)

/-- Answers from a contested catalog, without time and log. -/
def handler (w : Write) : Handler access Contested where
  serve request c :=
    let c := c.advance w
    ((c.store.answer request).1, ⟨(c.store.answer request).2.1, c.turn⟩)
  note _ c := c

variable {α : Type} {w : Write} {s : Store}

theorem run_service (script : Script access α) (c : Contested) (j : Journal) :
    ∃ j', (service w).run script c j =
      ((script.run (handler w) c).1, (script.run (handler w) c).2, j') :=
  Service.run_timeless (fun _ _ => rfl) (fun _ _ _ => rfl) script c j

/-! ## The moment of the write -/

theorem strike_made (w : Write) (s : Store) : ∃ a, (strike w s).turn = .made a := by
  rw [strike]
  split
  · exact ⟨_, rfl⟩
  · exact ⟨_, rfl⟩

theorem write_of_strike (h : (strike w s).turn = .made (.ok ())) :
    s.write w = .ok (strike w s).store := by
  rw [strike] at h ⊢
  split at h
  · next written hw => rw [hw]
  · cases h

@[simp] theorem settle_made {a : Except CatalogError Unit} : settle w ⟨s, .made a⟩ = ⟨s, .made a⟩ :=
  rfl

/-- After the write a script runs as on any store. -/
theorem run_made (script : Script access α) (s : Store) (a : Except CatalogError Unit) :
    script.run (handler w) ⟨s, .made a⟩ =
      ((script.run Store.handler s).1, ⟨(script.run Store.handler s).2, .made a⟩) := by
  induction script generalizing s with
  | done a => rfl
  | log e script ih => exact ih s
  | ask r next ih => exact ih _ _

theorem run_strike (script : Script access α) (s : Store) :
    script.run (handler w) (strike w s) =
      ((script.run Store.handler (strike w s).store).1,
        ⟨(script.run Store.handler (strike w s).store).2, (strike w s).turn⟩) := by
  obtain ⟨a, ha⟩ := strike_made w s
  have hstruck : strike w s = ⟨(strike w s).store, .made a⟩ := by rw [← ha]
  rw [ha, hstruck]
  exact run_made script _ a

/-- What comes of a script if the other task writes once `n` requests were answered, or at the end,
and the catalog after both. -/
def beside (w : Write) (n : Nat) (script : Script access α) (s : Store) : α × Contested :=
  ((script.run (handler w) ⟨s, .due n⟩).1, (script.run (handler w) ⟨s, .due n⟩).2.settle w)

/-- A write that comes first might as well have been made before. -/
theorem beside_zero (script : Script access α) (s : Store) :
    beside w 0 script s = ((script.run Store.handler (strike w s).store).1,
      ⟨(script.run Store.handler (strike w s).store).2, (strike w s).turn⟩) := by
  induction script generalizing s with
  | done a => rfl
  | log e script ih => exact ih s
  | ask r next ih =>
    have hmade : beside w 0 (.ask r next) s =
        (((Script.ask r next).run (handler w) (strike w s)).1,
          ((Script.ask r next).run (handler w) (strike w s)).2.settle w) := by
      obtain ⟨a, ha⟩ := strike_made w s
      simp only [beside, Script.run_ask, handler, advance, ha]
    rw [hmade, run_strike]
    obtain ⟨a, ha⟩ := strike_made w s
    rw [ha, settle_made]

theorem beside_log (n : Nat) (e : LogEntry) (rest : Script access α) (s : Store) :
    beside w n (.log e rest) s = beside w n rest s := rfl

theorem beside_ask (n : Nat) (r : Request) (next : r.Reply → Script access α) (s : Store) :
    beside w (n + 1) (.ask r next) s = beside w n (next (s.answer r).1) (s.answer r).2.1 := rfl

end Contested
end Catalog

/-! ## The creation of a table -/

namespace Listener

/-- Replaces a definition that was looked up by the same with its topic, and announces it. -/
def storeTopic (topic : String) (current : Table) :
    Script Catalog.access (Except CatalogError Decision) :=
  let updated := Topic.store topic current
  .ask (.alterTable updated.database updated.name updated) fun
    | .error e => .done (.error e)
    | .ok () =>
      .log (.debug "Stored table topic"
          [("table", .text updated.qualifiedName), ("topic", .text topic)]) <|
        .ask (.setting Topic.prefixSetting) fun stem =>
          .done (.ok (.announce ⟨.snapshot (.table updated),
            Topic.ofDatabase (stem.getD Topic.defaultPrefix) updated.database, .addTable⟩))

/-- What is done about a new table once it was looked up. -/
def giveTopic (current : Table) : Script Catalog.access (Except CatalogError Decision) :=
  .ask (.setting Topic.prefixSetting) fun stem =>
    storeTopic (Topic.ofTable (stem.getD Topic.defaultPrefix) current.database current.name) current

/-- The requests that the creation of a table leads to. -/
theorem decide_tableCreated (t : Table) :
    decide (.succeeded (.tableCreated t)) =
      .log (receivedEntry (.succeeded (.tableCreated t))) (.ask (.getTable t.database t.name) fun
        | .error e => .done (.error e)
        | .ok current => giveTopic current) := by
  refine congrArg (Script.log _) (congrArg (Script.ask _) (funext fun found => ?_))
  cases found with
  | error e => rfl
  | ok current =>
    refine congrArg (Script.ask _) (funext fun stem => congrArg (Script.ask _) (funext fun r => ?_))
    cases r <;> rfl

end Listener

namespace Catalog

/-- A definition with the topic that is computed for it. -/
def Store.withTopic (s : Store) (t : Table) : Table :=
  Topic.store (Topic.ofTable s.stem t.database t.name) t

@[simp] theorem Store.key_withTopic (s : Store) (t : Table) : (s.withTopic t).key = t.key := rfl

/-- A definition that is replaced under its own names stays there. -/
theorem Store.answer_alterTable_own (s : Store) (t : Table) :
    (s.answer (.alterTable t.database t.name t)).1 = .ok () ∧
        (s.answer (.alterTable t.database t.name t)).2.1 = s.putTable t ∨
      ∃ e, (s.answer (.alterTable t.database t.name t)).1 = .error e := by
  rw [answer, alterTable]
  cases s.tables.contains (tableKey t.database t.name) with
  | true =>
    refine Or.inl ⟨rfl, ?_⟩
    simp only [if_true, Table.key, putTable]
  | false => exact Or.inr ⟨_, rfl⟩

theorem Store.serve_handler (s : Store) (r : Request) :
    handler.serve r s = ((s.answer r).1, (s.answer r).2.1) := rfl

theorem Store.run_storeTopic {s : Store} {topic : String} {t : Table} {decision : Decision}
    (hok : ((Listener.storeTopic topic t).run handler s).1 = .ok decision) :
    ((Listener.storeTopic topic t).run handler s).2 = s.putTable (Topic.store topic t) := by
  rw [Listener.storeTopic, Script.run_ask, serve_handler] at hok ⊢
  rcases s.answer_alterTable_own (Topic.store topic t) with ⟨hanswer, hafter⟩ | ⟨e, hanswer⟩
  · simp only [hanswer, hafter]
    rfl
  · simp only [hanswer] at hok
    cases hok

theorem Store.run_giveTopic {s : Store} {t : Table} {decision : Decision}
    (hok : ((Listener.giveTopic t).run handler s).1 = .ok decision) :
    ((Listener.giveTopic t).run handler s).2 = s.putTable (s.withTopic t) :=
  run_storeTopic hok

namespace Contested

variable {w : Write} {s : Store} {t : Table} {topic : String} {decision : Decision}

theorem setting?_strike (key : String) : (strike w s).store.setting? key = s.setting? key := by
  rw [strike]
  cases w with
  | put t => rfl
  | alter database table t =>
    rw [Store.write, Store.alterTable]
    cases s.tables.contains (tableKey database table) <;> rfl

theorem withTopic_strike : (strike w s).store.withTopic t = s.withTopic t := by
  rw [Store.withTopic, Store.stem, setting?_strike]
  rfl

theorem beside_storeTopic {n : Nat}
    (hok : (beside w (n + 1) (Listener.storeTopic topic t) s).1 = .ok decision) :
    (beside w (n + 1) (Listener.storeTopic topic t) s).2 =
      strike w (s.putTable (Topic.store topic t)) := by
  rw [Listener.storeTopic, beside_ask] at hok ⊢
  rcases s.answer_alterTable_own (Topic.store topic t) with ⟨hanswer, hafter⟩ | ⟨e, hanswer⟩
  · simp only [hanswer, hafter]
    cases n with
    | zero =>
      rw [beside_zero]
      rfl
    | succ n => rfl
  · simp only [hanswer] at hok
    cases hok

/-- What is decided about a new table while another task writes, and the catalog after both. -/
def creation (w : Write) (n : Nat) (t : Table) (s : Store) :
    Except CatalogError Decision × Contested :=
  beside w n (Listener.decide (.succeeded (.tableCreated t))) s

/-- **A write before the look-up** is what is given its topic. -/
theorem creation_early (hok : (creation w 0 t s).1 = .ok decision) :
    ∃ current, (strike w s).store.table? t.database t.name = some current ∧
      (creation w 0 t s).2 =
        ⟨(strike w s).store.putTable ((strike w s).store.withTopic current),
          (strike w s).turn⟩ := by
  rw [creation, Listener.decide_tableCreated, beside_log, beside_zero, Script.run_ask,
    Store.serve_handler] at hok ⊢
  simp only [Store.answer] at hok ⊢
  cases hfound : (strike w s).store.table? t.database t.name with
  | none =>
    rw [Store.getTable_of_none hfound] at hok
    cases hok
  | some current =>
    rw [Store.getTable_of_some hfound] at hok ⊢
    refine ⟨current, rfl, ?_⟩
    rw [Store.run_giveTopic hok]

/-- After the look-up a new table that was found is given its topic. -/
theorem creation_succ {n : Nat} (hok : (creation w (n + 1) t s).1 = .ok decision) :
    ∃ current, s.table? t.database t.name = some current ∧
      creation w (n + 1) t s = beside w n (Listener.giveTopic current) s := by
  rw [creation, Listener.decide_tableCreated, beside_log, beside_ask] at hok ⊢
  simp only [Store.answer] at hok ⊢
  cases hfound : s.table? t.database t.name with
  | none =>
    rw [Store.getTable_of_none hfound] at hok
    cases hok
  | some current => exact ⟨current, rfl, by rw [Store.getTable_of_some hfound]⟩

/-- **A write between the look-up and the replacement** is followed by what was looked up. -/
theorem creation_between {n : Nat} (hn : n < 2) (hok : (creation w (n + 1) t s).1 = .ok decision) :
    ∃ current, s.table? t.database t.name = some current ∧
      (creation w (n + 1) t s).2 =
        ⟨(strike w s).store.putTable (s.withTopic current), (strike w s).turn⟩ := by
  obtain ⟨current, hfound, heq⟩ := creation_succ hok
  rw [heq] at hok ⊢
  refine ⟨current, hfound, ?_⟩
  -- the prefix is the same on both sides of the write
  match n, hn with
  | 0, _ =>
    rw [beside_zero] at hok ⊢
    rw [Store.run_giveTopic hok, withTopic_strike]
  | 1, _ =>
    rw [Listener.giveTopic, beside_ask, beside_zero] at hok ⊢
    rw [Store.run_storeTopic hok]
    rfl

/-- **A write after the replacement** comes on top of it. -/
theorem creation_late {n : Nat} (hok : (creation w (n + 3) t s).1 = .ok decision) :
    ∃ current, s.table? t.database t.name = some current ∧
      (creation w (n + 3) t s).2 = strike w (s.putTable (s.withTopic current)) := by
  obtain ⟨current, hfound, heq⟩ := creation_succ hok
  rw [heq, Listener.giveTopic, beside_ask] at hok ⊢
  exact ⟨current, hfound, beside_storeTopic hok⟩

theorem keeps_strike (hmade : (strike w s).turn = .made (.ok ())) :
    (strike w s).store.Keeps w.definition := ⟨_, Store.table?_write (write_of_strike hmade), rfl⟩

theorem keeps_creation_early (hs : s.Keyed) (hok : (creation w 0 t s).1 = .ok decision)
    (hmade : (creation w 0 t s).2.turn = .made (.ok ())) :
    (creation w 0 t s).2.store.Keeps w.definition := by
  obtain ⟨current, hfound, heq⟩ := creation_early hok
  rw [heq] at hmade ⊢
  have hwritten := write_of_strike hmade
  have hcurrent : current.key = t.key := (hs.write hwritten).key_of_table? hfound
  by_cases hkey : current.key = w.definition.key
  · have hsame : tableKey t.database t.name = w.definition.key := hcurrent.symm.trans hkey
    rw [Store.table?, hsame] at hfound
    obtain rfl : w.definition = current :=
      Option.some.inj ((Store.table?_write hwritten).symm.trans hfound)
    rw [Store.keeps_putTable_of_eq (Store.key_withTopic _ _), Store.withTopic, Topic.erase_store]
  · have hapart : ((strike w s).store.withTopic current).key ≠ w.definition.key := hkey
    rw [Store.keeps_putTable_of_ne hapart]
    exact keeps_strike hmade

theorem keeps_creation_between {n : Nat} (hn : n < 2) (hs : s.Keyed)
    (hok : (creation w (n + 1) t s).1 = .ok decision)
    (hmade : (creation w (n + 1) t s).2.turn = .made (.ok ())) :
    (creation w (n + 1) t s).2.store.Keeps w.definition ↔ w.definition.key ≠ t.key ∨
      ∃ old, s.table? t.database t.name = some old ∧
        Topic.erase old = Topic.erase w.definition := by
  obtain ⟨old, hfound, heq⟩ := creation_between hn hok
  rw [heq] at hmade ⊢
  have hold : old.key = t.key := hs.key_of_table? hfound
  by_cases hkey : w.definition.key = t.key
  · have hkept : (s.withTopic old).key = w.definition.key := hold.trans hkey.symm
    rw [Store.keeps_putTable_of_eq hkept, Store.withTopic, Topic.erase_store, hfound]
    simp [hkey]
  · have hapart : (s.withTopic old).key ≠ w.definition.key := fun h => hkey (h.symm.trans hold)
    rw [Store.keeps_putTable_of_ne hapart]
    exact ⟨fun _ => Or.inl hkey, fun _ => keeps_strike hmade⟩

/-- **A write is kept unless it falls between the look-up and the replacement**, and there if it
wrote nothing new. -/
theorem keeps_creation_iff {n : Nat} (hs : s.Keyed) (hok : (creation w n t s).1 = .ok decision)
    (hmade : (creation w n t s).2.turn = .made (.ok ())) :
    (creation w n t s).2.store.Keeps w.definition ↔
      w.definition.key ≠ t.key ∨ n = 0 ∨ 3 ≤ n ∨
        ∃ old, s.table? t.database t.name = some old ∧
          Topic.erase old = Topic.erase w.definition := by
  match n with
  | 0 => simp [keeps_creation_early hs hok hmade]
  | 1 => simp [keeps_creation_between Nat.zero_lt_two hs hok hmade]
  | 2 => simp [keeps_creation_between Nat.one_lt_two hs hok hmade]
  | n + 3 =>
    obtain ⟨current, -, heq⟩ := creation_late hok
    rw [heq] at hmade ⊢
    simp [keeps_strike hmade]

/-- **A write that is lost** has been replaced by what was looked up before it. -/
theorem table?_creation_of_lost {n : Nat} (hs : s.Keyed)
    (hok : (creation w n t s).1 = .ok decision)
    (hmade : (creation w n t s).2.turn = .made (.ok ()))
    (hlost : ¬ (creation w n t s).2.store.Keeps w.definition) :
    ∃ old, s.table? t.database t.name = some old ∧
      (creation w n t s).2.store.table? t.database t.name = some (s.withTopic old) := by
  have hbetween : ∃ m < 2, n = m + 1 := by
    rw [keeps_creation_iff hs hok hmade] at hlost
    push Not at hlost
    exact ⟨n - 1, by omega, by omega⟩
  obtain ⟨m, hm, rfl⟩ := hbetween
  obtain ⟨old, hfound, heq⟩ := creation_between hm hok
  have hkey : (s.withTopic old).key = tableKey t.database t.name :=
    (s.key_withTopic old).trans (hs.key_of_table? hfound)
  rw [heq]
  exact ⟨old, hfound, by rw [Store.table?_putTable, if_pos hkey]⟩

end Contested
end Catalog

namespace Feed

open Catalog (Store Contested)

variable {β : Type}

/-- A feed on a catalog to which another task writes. -/
def contested (w : Catalog.Write) (p : Publisher) (bus : Service Bus.access β) :
    Feed Contested β := ⟨p, Contested.service w, bus⟩

/-- What a feed makes of a new table on a contested catalog. -/
theorem catalog_handle_contested {p : Publisher} {bus : Service Bus.access β} {w : Catalog.Write}
    {n : Nat} {t : Table} {s : Store} {b : β} {link : Link} {j : Journal} {d : Delivery}
    (h : ((contested w p bus).handle (.succeeded (.tableCreated t)) ⟨⟨s, .due n⟩, b, link, j⟩).1 =
      .ok d) :
    ∃ decision, (Contested.creation w n t s).1 = .ok decision ∧
      (Contested.creation w n t s).2 = ((contested w p bus).handle (.succeeded (.tableCreated t))
        ⟨⟨s, .due n⟩, b, link, j⟩).2.catalog.settle w := by
  rcases (contested w p bus).handle_cases (.succeeded (.tableCreated t)) ⟨⟨s, .due n⟩, b, link, j⟩
    with ⟨cause, -, hhandle⟩ | ⟨decision, hdecision, -⟩
  · rw [hhandle] at h
    cases h
  obtain ⟨j', hrun⟩ := Contested.run_service (w := w)
    (Listener.decide (.succeeded (.tableCreated t))) ⟨s, .due n⟩ j
  rw [catalog_handle]
  rw [decide, contested, hrun] at hdecision ⊢
  exact ⟨decision, hdecision, rfl⟩

/-- **A write that comes while a new table is announced is kept exactly if** it concerns another
table, comes before the table is looked up or after its definition is replaced, or wrote what was
looked up.  Otherwise it is lost: the catalog has the definition that was looked up, with its topic.

The table is looked up by the first request and its definition replaced by the third. -/
theorem concurrent_write_kept_iff (p : Publisher) (bus : Service Bus.access β) (w : Catalog.Write)
    (n : Nat) (created : Table) {s : Store} (hs : s.Keyed) (b : β) (link : Link) (j : Journal)
    {d : Delivery} :
    let handled := (contested w p bus).handle (.succeeded (.tableCreated created))
      ⟨⟨s, .due n⟩, b, link, j⟩
    let final := handled.2.catalog.settle w
    handled.1 = .ok d → final.turn = .made (.ok ()) →
      (final.store.Keeps w.definition ↔
        w.definition.key ≠ created.key ∨ n = 0 ∨ 3 ≤ n ∨
          ∃ old, s.table? created.database created.name = some old ∧
            Topic.erase old = Topic.erase w.definition) ∧
      (¬ final.store.Keeps w.definition →
        ∃ old, s.table? created.database created.name = some old ∧
          final.store.table? created.database created.name = some (s.withTopic old)) := by
  intro handled final hanswer hmade
  obtain ⟨decision, hok, hfinal⟩ : ∃ decision, (Contested.creation w n created s).1 = .ok decision ∧
      (Contested.creation w n created s).2 = final := catalog_handle_contested hanswer
  rw [← hfinal] at hmade ⊢
  exact ⟨Contested.keeps_creation_iff hs hok hmade, Contested.table?_creation_of_lost hs hok hmade⟩

/-! ### A table gets an owner while it is announced -/

/-- Another task gives the table `sales.q1` an owner. -/
def ownership : Catalog.Write := .put { name := "q1", database := "sales", owner := some "ann" }

/-- The creation of `sales.q1` is announced; it gets its owner right after it was looked up. -/
def ownedMeanwhile : Except Error Delivery × State Contested Bus.Hub :=
  (contested ownership ⟨"cf", 1000, 200⟩ Bus.Hub.service).handle
    (.succeeded (.tableCreated { name := "q1", database := "sales" }))
    ⟨⟨(Store.ofSnapshot {}).putTable { name := "q1", database := "sales" }, .due 1⟩,
      ⟨Bus.Directory.bind {} "cf" 0, {}⟩, {}, {}⟩

theorem concurrent_write_kept_iff_owned :
    ¬ (ownedMeanwhile.2.catalog.settle ownership).store.Keeps ownership.definition := by
  have hkeyed := (Catalog.Store.keyed_ofSnapshot {}).putTable { name := "q1", database := "sales" }
  obtain ⟨hkept, -⟩ := concurrent_write_kept_iff ⟨"cf", 1000, 200⟩ Bus.Hub.service ownership 1
    { name := "q1", database := "sales" } hkeyed ⟨Bus.Directory.bind {} "cf" 0, {}⟩ {} {}
    (show ownedMeanwhile.1 = .ok .delivered by decide +kernel) rfl
  rw [ownedMeanwhile, hkept]
  rintro (hkey | hn | hn | ⟨old, hold, heq⟩)
  · exact hkey rfl
  · cases hn
  · exact absurd hn (by decide)
  · cases hold
    exact absurd heq (by decide +kernel)

/-- **A write that falls between is lost.**  Both the announcement and the write succeed, and the
catalog has a table without an owner. -/
theorem concurrent_write_is_lost :
    ownedMeanwhile.1 = .ok .delivered ∧
    (ownedMeanwhile.2.catalog.settle ownership).turn = .made (.ok ()) ∧
    (ownedMeanwhile.2.catalog.settle ownership).store.table? "sales" "q1" =
      some (Topic.store "hcat.sales.q1" { name := "q1", database := "sales" }) ∧
    ¬ (ownedMeanwhile.2.catalog.settle ownership).store.Keeps ownership.definition := by
  have hheld : (ownedMeanwhile.2.catalog.settle ownership).store.table? "sales" "q1" =
      some (Topic.store "hcat.sales.q1" { name := "q1", database := "sales" }) := by decide +kernel
  refine ⟨by decide +kernel, rfl, hheld, ?_⟩
  rintro ⟨held, hfound, heq⟩
  cases hheld.symm.trans hfound
  exact absurd heq (by decide +kernel)

end Feed
end CatalogFeed
