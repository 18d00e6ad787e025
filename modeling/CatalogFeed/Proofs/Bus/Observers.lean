import CatalogFeed.Proofs.Bus.Inventory

/-!
# Proofs/Bus/Observers — who hears of the errors of a broker

An error outside of calls is reported to the observers of a broker.  A `Diary` keeps, beside a bus
in memory, the `Career` of each connection: the observers that were set on it, and when it was
closed.  The careers alone say who hears (`Diary.Kept`).

The last observer of each connection that is not closed ought to hear, and no one else.  So it is
until an observer is set on a connection that has been closed: unlike a start or a new session, that
is not refused, and a second close does not undo it.

* `Career.watch_eq`: who hears of the errors of one connection;
* `Diary.Kept.add`, `Diary.kept`: step by step, then for all that is done with a bus;
* `Diary.errors_reach_open_connections_iff`: when it is who ought to hear.
-/

namespace CatalogFeed.Bus

/-! ## The career of a connection -/

/-- What can be done with a connection that concerns its observer. -/
inductive Deed where
  | observe (observer : Observer)
  | close
  deriving DecidableEq

/-- The observer that is set. -/
def Deed.observer? : Deed → Option Observer
  | .observe observer => some observer
  | .close => none

/-- What has been done with a connection, in order. -/
abbrev Career := List Deed

/-- What of a connection decides who hears of its errors. -/
@[ext]
structure Watch where
  closed : Bool := false
  observer : Option Observer := none

/-- The part of a connection that decides it. -/
def Connection.watch (connection : Connection) : Watch := ⟨connection.closed, connection.observer⟩

/-- What a deed does to it: an observer is set at any time, and dropped by the first close. -/
def Watch.undergo (w : Watch) : Deed → Watch
  | .observe observer => { w with observer := some observer }
  | .close => if w.closed then w else ⟨true, none⟩

namespace Career

/-- The observer that was set last. -/
def lastObserver (career : Career) : Option Observer := (career.filterMap Deed.observer?).getLast?

/-- What was done after the connection was first closed. -/
def afterClosing (career : Career) : Career := (career.dropWhile (· != .close)).tail

/-- **Who ought to hear**: the observer that was set last, unless the connection has been closed. -/
def entitled (career : Career) : Option Observer :=
  if .close ∈ career then none else career.lastObserver

/-- **Who hears**: the observer that was set last, or last since the connection was closed. -/
def audience (career : Career) : Option Observer :=
  if .close ∈ career then career.afterClosing.lastObserver else career.lastObserver

/-- What becomes of a new connection. -/
def watch (career : Career) : Watch := career.foldl Watch.undergo {}

variable {career : Career}

theorem lastObserver_eq_none_iff :
    career.lastObserver = none ↔ ∀ observer, .observe observer ∉ career := by
  rw [lastObserver, List.getLast?_eq_none_iff, List.filterMap_eq_nil_iff]
  constructor
  · intro h observer hmem
    cases h _ hmem
  · rintro h (observer | _) hmem
    · exact absurd hmem (h observer)
    · rfl

/-- **Once the connection is closed, or as long as no one closes it**, observers are only set. -/
theorem foldl_undergo {w : Watch} (h : w.closed = true ∨ .close ∉ career) :
    career.foldl Watch.undergo w = ⟨w.closed, career.lastObserver.or w.observer⟩ := by
  have hstep (w' : Watch) (hw : w'.closed = w.closed) (deed : Deed) (hdeed : deed ∈ career) :
      (w'.undergo deed).closed = w.closed ∧
        (w'.undergo deed).observer = deed.observer?.or w'.observer := by
    cases deed with
    | observe observer => exact ⟨hw, rfl⟩
    | close =>
      have hclosed : w'.closed = true := hw.trans (h.resolve_right fun h => h hdeed)
      rw [Watch.undergo, if_pos hclosed]
      exact ⟨hw, rfl⟩
  obtain ⟨hclosed, hobserver⟩ :=
    view_foldl_of (I := fun w' => w'.closed = w.closed) Watch.observer hstep rfl
  exact Watch.ext hclosed hobserver

/-- What was done before anyone closed the connection is not done after closing it. -/
theorem afterClosing_append {before : Career} (h : .close ∉ before) (after : Career) :
    afterClosing (before ++ after) = (after.dropWhile (· != .close)).tail := by
  have hpos : ∀ deed ∈ before, (deed != .close) = true := fun deed hdeed =>
    bne_iff_ne.mpr fun heq => h (heq ▸ hdeed)
  rw [afterClosing, List.dropWhile_append_of_pos hpos]

/-- **Who hears of the errors of a connection**, and whether it is closed. -/
theorem watch_eq (career : Career) :
    career.watch = ⟨decide (.close ∈ career), career.audience⟩ := by
  rw [watch, audience]
  by_cases hclose : .close ∈ career
  · -- the career falls into what was done before the first close and after it
    obtain ⟨before, after, hcareer, hbefore⟩ := List.eq_append_cons_of_mem hclose
    have hafter : career.afterClosing = after := hcareer ▸ afterClosing_append hbefore _
    rw [if_pos hclose, hafter, decide_eq_true hclose, hcareer, List.foldl_append, List.foldl_cons,
      foldl_undergo (Or.inr hbefore)]
    exact (foldl_undergo (Or.inl rfl)).trans (by simp [Watch.undergo])
  · rw [if_neg hclose, decide_eq_false hclose, foldl_undergo (Or.inr hclose), Option.or_none]

/-- **Who ought to hear does**, as long as no observer is set on a connection that was closed. -/
theorem audience_eq_entitled_iff :
    career.audience = career.entitled ↔ ∀ observer, .observe observer ∉ career.afterClosing := by
  rw [audience, entitled, ← lastObserver_eq_none_iff]
  split
  · rfl
  · next hclose =>
    have hafter : career.afterClosing = [] := by
      rw [← career.append_nil, afterClosing_append hclose]
      rfl
    rw [hafter]
    exact iff_of_true rfl rfl

end Career

/-! ## The careers of all connections -/

/-- What is done with a bus: a call, with a limit and at some time; an observer that is set; or a
trouble. -/
inductive Usage where
  | call (c : Call) (limit now : Nat)
  | observe (connection : ConnectionId) (observer : Observer)
  | strike (trouble : Trouble)

/-- What an answered call adds to the careers: a connection that was opened has a new one, one that
was closed has a deed more. -/
def Call.enter (careers : List Career) : (c : Call) → Outcome c.Answer → List Career
  | .createConnection _, .ok _ => careers ++ [[]]
  | .closeConnection connection, _ => careers.modify connection (· ++ [.close])
  | _, _ => careers

/-- A bus in memory, and the careers of its connections in order of opening. -/
structure Diary where
  hub : Hub := {}
  careers : List Career := []

namespace Diary

/-- The diary after one thing more has been done. -/
def add (d : Diary) : Usage → Diary
  | .call c limit now =>
    let served := d.hub.call limit now c
    ⟨served.state, c.enter d.careers served.reply.outcome⟩
  | .observe connection observer =>
    ⟨{ d.hub with broker := d.hub.broker.observe connection observer },
      d.careers.modify connection (· ++ [.observe observer])⟩
  | .strike trouble => { d with hub := { d.hub with broker := d.hub.broker.struck trouble } }

/-- The diary of a new broker behind a directory, after all that has been done with it. -/
def ofUsages (directory : Directory) (usages : List Usage) : Diary :=
  usages.foldl add { hub := { directory } }

/-- **Every connection is what its career has made of it.** -/
def Kept (d : Diary) : Prop :=
  d.hub.broker.connections.map Connection.watch = d.careers.map Career.watch

end Diary

/-- What is done with one connection is one deed more in its career. -/
theorem watches_modify {connections : List Connection} {careers : List Career}
    (h : connections.map Connection.watch = careers.map Career.watch) (c : ConnectionId)
    {f : Connection → Connection} {deed : Deed}
    (hf : ∀ connection, (f connection).watch = connection.watch.undergo deed) :
    (connections.modify c f).map Connection.watch =
      (careers.modify c (· ++ [deed])).map Career.watch := by
  have hcareer (career : Career) : Career.watch (career ++ [deed]) = career.watch.undergo deed :=
    List.foldl_append
  rw [map_modify Connection.watch (e := (·.undergo deed)) hf, h,
    map_modify Career.watch (e := (·.undergo deed)) hcareer]

theorem watch_close (connection : Connection) :
    (Broker.Connection.close connection).watch = connection.watch.undergo .close := by
  rw [Broker.Connection.close, Watch.undergo]
  change _ = if connection.closed then _ else _
  split <;> rfl

/-- **A call enters into the careers what it does to the connections.** -/
theorem Inventory.Allows.watches {k k' : Inventory} {c : Call} {out : Outcome c.Answer}
    (h : k.Allows c out k') {careers : List Career}
    (hk : k.connections.map Connection.watch = careers.map Career.watch) :
    k'.connections.map Connection.watch = (c.enter careers out).map Career.watch := by
  cases h with
  | aloof hc out =>
    cases c with
    | lookup _ | createTopic _ _ | send _ _ _ | rollback _ => exact hk
    | _ => cases hc
  | connected => simp only [Call.enter, List.map_append, hk]; rfl
  | started c =>
    have hsame := map_modify Connection.watch (e := id)
      (f := fun connection => { connection with started := true }) (fun _ => rfl) k.connections c
    rw [List.modify_id] at hsame
    exact hsame.trans hk
  | connectionClosed c => exact watches_modify hk c watch_close
  | _ => exact hk

namespace Diary

variable {d : Diary}

/-! ### Step by step -/

/-- **Whatever is done with a bus, its careers tell of it.** -/
theorem Kept.add (h : d.Kept) (u : Usage) : (d.add u).Kept := by
  cases u with
  | call c limit now => exact (d.hub.inventory_call limit now c).watches h
  | observe connection observer => exact watches_modify h connection fun _ => rfl
  | strike trouble =>
    exact (congrArg (fun k : Inventory => k.connections.map Connection.watch)
      (d.hub.broker.inventory_struck trouble)).trans h

theorem kept (directory : Directory) (usages : List Usage) : (ofUsages directory usages).Kept := by
  have hrun (d : Diary) (h : d.Kept) : (usages.foldl Diary.add d).Kept := by
    induction usages generalizing d with
    | nil => exact h
    | cons u usages ih => exact ih _ (h.add u)
  exact hrun _ rfl

/-- **Who hears of an error**, connection by connection. -/
theorem Kept.observers (h : d.Kept) :
    d.hub.broker.observers = d.careers.filterMap Career.audience :=
  calc d.hub.broker.observers
      = (d.hub.broker.connections.map Connection.watch).filterMap Watch.observer := by
        rw [List.filterMap_map]
        rfl
    _ = (d.careers.map Career.watch).filterMap Watch.observer := by rw [h]
    _ = d.careers.filterMap Career.audience := by
      rw [List.filterMap_map]
      exact congrArg (d.careers.filterMap ·) (funext fun career =>
        congrArg Watch.observer career.watch_eq)

/-- The connections that have been closed. -/
theorem Kept.connectionsClosed (h : d.Kept) :
    d.hub.broker.connectionsClosed = d.careers.countP (.close ∈ ·) :=
  calc d.hub.broker.connectionsClosed
      = (d.hub.broker.connections.map Connection.watch).countP Watch.closed := by
        rw [List.countP_map]
        rfl
    _ = (d.careers.map Career.watch).countP Watch.closed := by rw [h]
    _ = d.careers.countP (.close ∈ ·) := by
      rw [List.countP_map]
      exact congrArg (d.careers.countP ·) (funext fun career =>
        congrArg Watch.closed career.watch_eq)

/-! ### Who ought to hear -/

/-- **Errors reach the observers of open connections** if and only if no observer was set on a
connection after it was closed: whatever calls have been made of a broker, in whatever order, and
whatever troubles it has had.  In any case each connection has at most one observer that hears: the
one that was set last, and since the connection was closed if it was. -/
theorem errors_reach_open_connections_iff (directory : Directory) (usages : List Usage) :
    let d := ofUsages directory usages
    d.careers.length = d.hub.broker.connectionsOpened ∧
      d.careers.countP (.close ∈ ·) = d.hub.broker.connectionsClosed ∧
      d.hub.broker.observers = d.careers.filterMap Career.audience ∧
      (d.hub.broker.observers = d.careers.filterMap Career.entitled ↔
        ∀ career ∈ d.careers, ∀ observer, .observe observer ∉ career.afterClosing) := by
  intro d
  have hkept : d.Kept := kept directory usages
  refine ⟨?_, hkept.connectionsClosed.symm, hkept.observers, ?_⟩
  · simpa [Broker.connectionsOpened] using (congrArg List.length hkept).symm
  · have hless (career : Career) :
        career.entitled = none ∨ career.audience = career.entitled := by
      rw [Career.entitled, Career.audience]
      split
      · exact Or.inl rfl
      · exact Or.inr rfl
    rw [hkept.observers, filterMap_eq_filterMap_iff hless]
    exact forall₂_congr fun _ _ => Career.audience_eq_entitled_iff

/-- An observer that is set on a closed connection hears of every error. -/
theorem closed_connection_is_observed :
    let d := ofUsages {} [.call (.createConnection 0) 0 0, .observe 0 (.named "a"),
      .call (.closeConnection 0) 0 0, .observe 0 (.named "b")]
    d.careers = [[.observe (.named "a"), .close, .observe (.named "b")]] ∧
      d.careers.filterMap Career.entitled = [] ∧ d.hub.broker.observers = [.named "b"] := by
  decide

end Diary
end CatalogFeed.Bus
