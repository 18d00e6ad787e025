import CatalogFeed.Proofs.Publish.Ownership

/-!
# Proofs/Publish/Custody — one link, whatever is done with it and strikes its broker

A `Holding` is a link with the broker that it leads to.  One errand at a time has the link.  An
errand goes on in steps of one request, and a request that pauses takes two; between any two steps
troubles may strike the broker and time may pass.  Tasks that wait for the link do nothing, so any
number of tasks that share it are errands one after the other.

* `Holding.Sound.act`, `Holding.Sound.run`: the link owns what is open when it is free, and what is
  open is tidy at every moment;
* `Holding.comes_free`: every errand comes to its end;
* `Holding.link_owns_what_is_open`: the counts of the broker, from the start.
-/

namespace CatalogFeed

open Bus (access Call Hub Inventory Timed Trouble)

/-! ## Errands -/

namespace Errand

/-- What an errand leaves: a link that owns what is open, and nothing if the link is given up. -/
def Leaves (errand : Errand) (l : Link) (k : Inventory) : Prop :=
  l.Owns k ∧ (errand.givesUp = true → l = {})

theorem ensures_program (errand : Errand) {l : Link} {k : Inventory} (h : l.Owns k) :
    Publishing.Ensures Inventory.contract (fun _ l k => errand.Leaves l k) errand.program l k :=
  Publisher.owns_invariant.ensures_program errand h

end Errand

/-! ## Holdings -/

/-- Who has the link. -/
inductive Custody where
  /-- No one; `last` is what was done with it last. -/
  | free (link : Link) (last : Option Errand)
  /-- An errand, with the rest of its program before it. -/
  | running (errand : Errand) (rest : Script access (Unit × Link))
  /-- An errand in the middle of a call that was made at time `since`. -/
  | paused (errand : Errand) (call : Call) (limit since : Nat)
      (next : Timed call.Answer → Script access (Unit × Link))

/-- A link and the bus that it leads to. -/
structure Holding where
  hub : Hub
  clock : Nat := 0
  custody : Custody := .free {} none

/-- Something that happens to a holding. -/
inductive Occurrence where
  /-- An errand takes the link, if it is free. -/
  | undertake (errand : Errand)
  /-- The errand under way does its next step. -/
  | step
  /-- The call under way reaches its limit of time. -/
  | cutOff
  | strike (trouble : Trouble)
  | elapse (ms : Nat)

namespace Holding

/-- A broker on which nothing has been opened, behind a directory. -/
def start (directory : Bus.Directory) : Holding := { hub := { directory } }

/-- An errand takes the link. -/
def undertake (w : Holding) (errand : Errand) : Holding :=
  match w.custody with
  | .free link _ => { w with custody := .running errand (StateT.run errand.program link) }
  | _ => w

/-- The errand under way makes a request. -/
def ask (w : Holding) (errand : Errand) :
    (r : Bus.Request) → (r.Reply → Script access (Unit × Link)) → Holding
  | .observe connection, next =>
    { w with
      hub := (Hub.service.serve (.observe connection) w.clock w.hub).state
      custody := .running errand (next ()) }
  | .call c limit, next =>
    match w.hub.attempt w.clock c with
    | (some timed, hub) => { w with hub, custody := .running errand (next timed) }
    | (none, hub) => { w with hub, custody := .paused errand c limit w.clock next }

/-- The errand under way does its next step. -/
def step (w : Holding) : Holding :=
  match w.custody with
  | .free _ _ => w
  | .running errand (.done r) => { w with custody := .free r.2 (some errand) }
  | .running errand (.log _ rest) => { w with custody := .running errand rest }
  | .running errand (.ask request next) => w.ask errand request next
  | .paused errand c _ since next =>
    match w.hub.resume c with
    | some (answer, hub) =>
      { w with hub, custody := .running errand (next ⟨.ok answer, w.clock - since⟩) }
    | none => w

/-- The call under way is cut off. -/
def cutOff (w : Holding) : Holding :=
  match w.custody with
  | .paused errand _ limit _ next => { w with custody := .running errand (next ⟨.silent, limit⟩) }
  | _ => w

/-- **What an occurrence does to a holding.** -/
def act (w : Holding) : Occurrence → Holding
  | .undertake errand => w.undertake errand
  | .step => w.step
  | .cutOff => w.cutOff
  | .strike trouble => { w with hub := { w.hub with broker := w.hub.broker.struck trouble } }
  | .elapse ms => { w with clock := w.clock + ms }

/-- The holding after a schedule. -/
def run (w : Holding) (schedule : List Occurrence) : Holding := schedule.foldl act w

/-! ## Soundness -/

/-- What an errand still has to ensure. -/
def Owes (errand : Errand) (rest : Script access (Unit × Link)) (k : Inventory) : Prop :=
  rest.Ensures Inventory.contract (fun r k => errand.Leaves r.2 k) k

/-- **The link owns what is open**, or the errand that has it will leave it so. -/
def Sound (w : Holding) : Prop :=
  match w.custody with
  | .free link last =>
    link.Owns w.hub.inventory ∧ ∀ errand, last = some errand → errand.givesUp = true → link = {}
  | .running errand rest => Owes errand rest w.hub.inventory
  | .paused errand _ _ _ next =>
    w.hub.inventory.Tidy ∧ ∀ reply, Owes errand (next reply) w.hub.inventory

theorem sound_start (directory : Bus.Directory) : (start directory).Sound := by
  have hvacant : Inventory.Vacant ⟨[], [], []⟩ :=
    ⟨List.forall_mem_nil _, List.forall_mem_nil _, .nil, List.forall_mem_nil _⟩
  exact ⟨Or.inl ⟨rfl, hvacant⟩, fun _ h => by cases h⟩

/-- What is open is tidy at every moment. -/
theorem Sound.tidy {w : Holding} (h : w.Sound) : w.hub.inventory.Tidy := by
  rw [Sound] at h
  split at h
  · exact h.1.tidy
  · exact h.holds
  · exact h.1

/-- What leaves custody and inventory alone changes nothing. -/
theorem Sound.of_eq {w w' : Holding} (h : w.Sound) (hcustody : w'.custody = w.custody)
    (hinventory : w'.hub.inventory = w.hub.inventory) : w'.Sound := by
  rw [Sound, hcustody, hinventory]
  exact h

theorem Sound.undertake {w : Holding} (h : w.Sound) (errand : Errand) :
    (w.undertake errand).Sound := by
  rw [Holding.undertake]
  split
  · next link last hc =>
    rw [Sound, hc] at h
    exact errand.ensures_program h.1
  · exact h

theorem sound_ask {w : Holding} {errand : Errand} {request : Bus.Request}
    {next : request.Reply → Script access (Unit × Link)}
    (h : Owes errand (.ask request next) w.hub.inventory) : (w.ask errand request next).Sound := by
  cases request with
  | observe connection => exact h.2 () _ rfl
  | call c limit =>
    rw [ask]
    split
    · next timed hub ha => exact h.2 timed _ (Hub.inventory_attempt ha)
    · next hub ha =>
      obtain ⟨haloof, hinventory⟩ := Hub.inventory_pause ha
      change hub.inventory.Tidy ∧ ∀ reply, Owes errand (next reply) hub.inventory
      rw [hinventory]
      exact ⟨h.1, fun reply => h.2 reply _ (.aloof _ haloof _)⟩

theorem Sound.step {w : Holding} (h : w.Sound) : w.step.Sound := by
  rw [Holding.step]
  split
  · exact h
  · next errand r hc =>
    rw [Sound, hc] at h
    exact ⟨h.2.1, fun errand' he => by cases he; exact h.2.2⟩
  · next errand entry rest hc =>
    rw [Sound, hc] at h
    exact h
  · next errand request next hc =>
    rw [Sound, hc] at h
    exact sound_ask h
  · next errand c limit since next hc =>
    split
    · next answer hub hr =>
      rw [Sound, hc] at h
      change Owes errand _ hub.inventory
      rw [Hub.inventory_resume hr]
      exact h.2 _
    · exact h

theorem Sound.cutOff {w : Holding} (h : w.Sound) : w.cutOff.Sound := by
  rw [Holding.cutOff]
  split
  · next hc =>
    rw [Sound, hc] at h
    exact h.2 _
  · exact h

/-- **Whatever happens to a sound holding, it stays sound.** -/
theorem Sound.act {w : Holding} (h : w.Sound) (occurrence : Occurrence) :
    (w.act occurrence).Sound := by
  cases occurrence with
  | undertake errand => exact h.undertake errand
  | step => exact h.step
  | cutOff => exact h.cutOff
  | strike trouble => exact h.of_eq rfl (w.hub.broker.inventory_struck trouble)
  | elapse ms => exact h.of_eq rfl rfl

theorem Sound.run {w : Holding} (h : w.Sound) (schedule : List Occurrence) :
    (w.run schedule).Sound := by
  induction schedule generalizing w with
  | nil => exact h
  | cons occurrence schedule ih => exact ih (h.act occurrence)

/-! ## Errands come to their end -/

/-- The link becomes free if nothing happens but steps of the errand under way. -/
def ComesFree (w : Holding) : Prop :=
  ∃ schedule : List Occurrence, (∀ o ∈ schedule, o = .step ∨ o = .cutOff) ∧
    ∃ link last, (w.run schedule).custody = .free link last

theorem comesFree_of_act {w : Holding} {o : Occurrence} (ho : o = .step ∨ o = .cutOff)
    (h : (w.act o).ComesFree) : w.ComesFree := by
  obtain ⟨schedule, hall, hfree⟩ := h
  exact ⟨o :: schedule, List.forall_mem_cons.mpr ⟨ho, hall⟩, hfree⟩

theorem comesFree_of_running {w : Holding} {errand : Errand} {rest : Script access (Unit × Link)}
    (h : w.custody = .running errand rest) : w.ComesFree := by
  induction rest generalizing w with
  | done r =>
    refine ⟨[.step], by simp, r.2, some errand, ?_⟩
    simp only [run, List.foldl_cons, List.foldl_nil, act, step, h]
  | log entry rest ih =>
    refine comesFree_of_act (Or.inl rfl) (ih ?_)
    simp only [act, step, h]
  | ask request next ih =>
    refine comesFree_of_act (Or.inl rfl) ?_
    simp only [act, step, h]
    cases request with
    | observe connection => exact ih () rfl
    | call c limit =>
      rw [ask]
      split
      · exact ih _ rfl
      · -- the pause may be cut off at once
        exact comesFree_of_act (Or.inr rfl) (ih ⟨.silent, limit⟩ rfl)

/-- **Every errand comes to its end**, and leaves the link free. -/
theorem comes_free (w : Holding) : w.ComesFree := by
  cases hc : w.custody with
  | free link last => exact ⟨[], List.forall_mem_nil _, link, last, hc⟩
  | running errand rest => exact comesFree_of_running hc
  | paused errand c limit since next =>
    have hnext : (w.act .cutOff).custody = .running errand (next ⟨.silent, limit⟩) := by
      simp only [act, cutOff, hc]
    exact comesFree_of_act (Or.inr rfl) (comesFree_of_running hnext)

end Holding

/-! ## Counts -/

/-- How many sessions a link holds. -/
def Link.held (l : Link) : Nat := if l.session.isSome then 1 else 0

namespace Bus

theorem Inventory.Tidy.counts {b : Broker} (h : b.inventory.Tidy) :
    b.connectionsOpened ≤ b.connectionsClosed + 1 ∧ b.sessionsOpened ≤ b.sessionsClosed + 1 := by
  have hsessions := h.sessions
  rw [Broker.inventory, List.length_map, List.countP_map] at hsessions
  exact ⟨h.connections, hsessions⟩

theorem observers_over {connections : List Connection} (h : ∀ c ∈ connections, c.Over) :
    connections.filterMap (·.observer) = [] :=
  List.filterMap_eq_nil_iff.mpr fun c hc => (h c hc).2

end Bus

/-- **The counts of a broker under a link that owns what is open.** -/
theorem Link.Owns.counts {l : Link} {b : Bus.Broker} (h : l.Owns b.inventory) :
    l.connection.isSome = l.session.isSome ∧
      b.connectionsOpened = b.connectionsClosed + l.held ∧
      b.sessionsOpened = b.sessionsClosed + l.held ∧
      b.observers = List.replicate l.held .publisher := by
  have hclosed : b.inventory.closed.countP id = b.sessionsClosed := List.countP_map
  have hopened : b.inventory.closed.length = b.sessionsOpened := List.length_map _
  obtain ⟨rfl, h⟩ | ⟨c, s, rfl, h⟩ := h
  · refine ⟨rfl, ?_, ?_, Bus.observers_over h.connections⟩
    · exact (List.countP_eq_length.mpr fun x hx => (h.connections x hx).1).symm
    · rw [← hclosed, ← hopened]
      exact (List.countP_eq_length.mpr h.sessions).symm
  · refine ⟨rfl, ?_, ?_, ?_⟩
    · exact h.connections.countP (p := (·.closed)) (fun _ hx => hx.1) rfl
    · rw [← hclosed, ← hopened]
      exact h.sessions.countP (p := id) (fun _ hx => hx) rfl
    · obtain ⟨earlier, hconnections, -, hearlier⟩ := h.connections
      change b.connections.filterMap (·.observer) = _
      rw [show b.connections = earlier ++ [Inventory.inUse] from hconnections,
        List.filterMap_append, Bus.observers_over hearlier]
      rfl

namespace Holding

/-- **The link names what is open.**  Start from a fresh broker, and let anything be done with the
link and anything strike the broker, in any order.  At every moment at most one connection and one
session are open, and the sessions of the delivered messages ascend.  Whenever the link is free, it
names a connection if and only if it names a session; exactly these are open, and exactly one
observer hears of errors; or nothing is open, and no observer hears.  After closing nothing is open,
and closing again changes nothing. -/
theorem link_owns_what_is_open (directory : Bus.Directory) (schedule : List Occurrence) :
    let w := (start directory).run schedule
    let b := w.hub.broker
    (b.connectionsOpened ≤ b.connectionsClosed + 1 ∧ b.sessionsOpened ≤ b.sessionsClosed + 1 ∧
      (b.delivered.map (·.session)).Pairwise (· ≤ ·)) ∧
    ∀ link last, w.custody = .free link last →
      link.connection.isSome = link.session.isSome ∧
      b.connectionsOpened = b.connectionsClosed + link.held ∧
      b.sessionsOpened = b.sessionsClosed + link.held ∧
      b.observers = List.replicate link.held .publisher ∧
      ∀ p, last = some (.close p) →
        b.connectionsOpened = b.connectionsClosed ∧ b.sessionsOpened = b.sessionsClosed ∧
        ∀ q, w.run [.undertake (.close q), .step, .step] =
          { w with custody := .free link (some (.close q)) } := by
  intro w b
  have hsound : w.Sound := (sound_start directory).run schedule
  refine ⟨⟨hsound.tidy.counts.1, hsound.tidy.counts.2, hsound.tidy.orderly.ascending⟩, ?_⟩
  intro link last hfree
  rw [Sound, hfree] at hsound
  obtain ⟨howns, hleft⟩ := hsound
  obtain ⟨hboth, hconnections, hsessions, hobservers⟩ := howns.counts
  refine ⟨hboth, hconnections, hsessions, hobservers, fun p hlast => ?_⟩
  obtain rfl : link = {} := hleft _ hlast rfl
  refine ⟨hconnections, hsessions, fun q => ?_⟩
  simp only [run, List.foldl_cons, List.foldl_nil, act, undertake, hfree]
  rfl

/-- Where the factory is bound, a publisher that connects holds the first connection and the first
session. -/
example :
    let p : Publisher := ⟨"cf", 1000, 200⟩
    let w := (start (Bus.Directory.bind {} "cf" 0)).run
      (.undertake (.connect p) :: List.replicate 7 .step)
    w.custody = .free ⟨some 0, some 0⟩ (some (.connect p)) ∧
      w.hub.broker.connectionsOpened = 1 ∧ w.hub.broker.observers = [.publisher] := ⟨rfl, rfl, rfl⟩

end Holding
end CatalogFeed
