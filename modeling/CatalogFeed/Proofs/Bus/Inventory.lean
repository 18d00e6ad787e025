import CatalogFeed.Proofs.Bus.Core
import CatalogFeed.Proofs.Lists
import CatalogFeed.Proofs.Script.Contract

/-!
# Proofs/Bus/Inventory — what of a broker is open

Of a broker, an owner of connections sees the connections, which sessions are closed, and on which
session each message was delivered: its `Inventory`.  `Inventory.Allows` lists what a call may
answer and what it then does to the inventory.  No trouble touches the inventory, and neither do the
calls that pause, before the pause or after it.

* `Hub.inventory_attempt`, `Hub.inventory_pause`, `Hub.inventory_resume`: both parts of a call;
* `Hub.inventory_call`: a whole call;
* `Inventory.Vacant`, `Inventory.Linked`, `Inventory.Occupied`: nothing is open; only the newest
  connection is; only the newest connection and the newest session are.
-/

namespace CatalogFeed.Bus

/-! ## The inventory -/

/-- What an owner of connections sees of a broker. -/
structure Inventory where
  connections : List Connection
  /-- Of each session, whether it is closed. -/
  closed : List Bool
  /-- The session of each delivered message, oldest first. -/
  served : List SessionId

/-- The inventory of a broker. -/
def Broker.inventory (b : Broker) : Inventory :=
  ⟨b.connections, b.sessions.map (·.closed), b.delivered.map (·.session)⟩

/-- The inventory of the broker behind a directory. -/
def Hub.inventory (h : Hub) : Inventory := h.broker.inventory

/-- Changes a connection. -/
def Inventory.update (k : Inventory) (c : ConnectionId) (f : Connection → Connection) : Inventory :=
  { k with connections := k.connections.modify c f }

/-- Whether a call leaves the inventory alone, whatever it answers. -/
def Call.isAloof : Call → Bool
  | .lookup _ | .createTopic _ _ | .send _ _ _ | .rollback _ => true
  | _ => false

/-- **What a call may answer, and what it does to the inventory.** -/
inductive Inventory.Allows : Inventory → (c : Call) → Outcome c.Answer → Inventory → Prop where
  | aloof (k : Inventory) {c : Call} (h : c.isAloof = true) (out : Outcome c.Answer) :
      Allows k c out k
  | unreachable (k : Inventory) (factory : FactoryId) (e : Error) :
      Allows k (.createConnection factory) (.error e) k
  | connected (k : Inventory) (factory : FactoryId) :
      Allows k (.createConnection factory) (.ok k.connections.length)
        { k with connections := k.connections ++ [{}] }
  | notStarted (k : Inventory) (c : ConnectionId) (e : Error)
      (h : ∀ connection, k.connections[c]? = some connection → connection.closed = true) :
      Allows k (.start c) (.error e) k
  | started (k : Inventory) (c : ConnectionId) :
      Allows k (.start c) (.ok ())
        (k.update c fun connection => { connection with started := true })
  | notOpened (k : Inventory) (c : ConnectionId) (e : Error)
      (h : ∀ connection, k.connections[c]? = some connection →
        connection.started = false ∨ connection.closed = true) :
      Allows k (.createSession c) (.error e) k
  | opened (k : Inventory) (c : ConnectionId) :
      Allows k (.createSession c) (.ok k.closed.length) { k with closed := k.closed ++ [false] }
  | notCommitted (k : Inventory) (s : SessionId) (e : Error) : Allows k (.commit s) (.error e) k
  | committed (k : Inventory) (s : SessionId) (count : Nat) :
      Allows k (.commit s) (.ok ()) { k with served := k.served ++ List.replicate count s }
  | sessionClosed (k : Inventory) (s : SessionId) :
      Allows k (.closeSession s) (.ok ()) { k with closed := k.closed.modify s fun _ => true }
  | connectionClosed (k : Inventory) (c : ConnectionId) :
      Allows k (.closeConnection c) (.ok ()) (k.update c Broker.Connection.close)

theorem Inventory.Allows.of_eq {k k' : Inventory} {c : Call} (hc : c.isAloof = true) (hk : k' = k)
    (out : Outcome c.Answer) : k.Allows c out k' := hk ▸ .aloof k' hc out

namespace Inventory.Allows

variable {k k' : Inventory} {c : ConnectionId} {connection : Connection}

theorem eq_of_isAloof {call : Call} {out : Outcome call.Answer} (h : k.Allows call out k')
    (hc : call.isAloof = true) : k' = k := by
  cases h with
  | aloof => rfl
  | _ => cases hc

theorem createConnection {factory : FactoryId} {out : Outcome ConnectionId}
    (h : k.Allows (.createConnection factory) out k') :
    (∃ e, out = .error e ∧ k' = k) ∨
      out = .ok k.connections.length ∧ k' = { k with connections := k.connections ++ [{}] } := by
  cases h with
  | aloof hc => cases hc
  | unreachable _ e => exact Or.inl ⟨e, rfl, rfl⟩
  | connected => exact Or.inr ⟨rfl, rfl⟩

/-- An open connection can be started. -/
theorem start {out : Outcome Unit} (h : k.Allows (.start c) out k')
    (hc : k.connections[c]? = some connection) (hopen : connection.closed = false) :
    out = .ok () ∧ k' = k.update c fun connection => { connection with started := true } := by
  cases h with
  | aloof hc => cases hc
  | notStarted _ e hclosed => exact absurd (hclosed connection hc) (by simp [hopen])
  | started => exact ⟨rfl, rfl⟩

/-- A session can be opened on a connection that is started and open. -/
theorem createSession {out : Outcome SessionId} (h : k.Allows (.createSession c) out k')
    (hc : k.connections[c]? = some connection) (hstarted : connection.started = true)
    (hopen : connection.closed = false) :
    out = .ok k.closed.length ∧ k' = { k with closed := k.closed ++ [false] } := by
  cases h with
  | aloof hc => cases hc
  | notOpened _ e hclosed => exact absurd (hclosed connection hc) (by simp [hstarted, hopen])
  | opened => exact ⟨rfl, rfl⟩

theorem commit {s : SessionId} {out : Outcome Unit} (h : k.Allows (.commit s) out k') :
    k' = k ∨ ∃ count, k' = { k with served := k.served ++ List.replicate count s } := by
  cases h with
  | aloof hc => cases hc
  | notCommitted => exact Or.inl rfl
  | committed _ count => exact Or.inr ⟨count, rfl⟩

theorem closeSession {s : SessionId} {out : Outcome Unit} (h : k.Allows (.closeSession s) out k') :
    k' = { k with closed := k.closed.modify s fun _ => true } := by
  cases h with
  | aloof hc => cases hc
  | sessionClosed => rfl

theorem closeConnection {out : Outcome Unit} (h : k.Allows (.closeConnection c) out k') :
    k' = k.update c Broker.Connection.close := by
  cases h with
  | aloof hc => cases hc
  | connectionClosed => rfl

end Inventory.Allows

/-- **Troubles leave the inventory alone.** -/
@[simp] theorem Broker.inventory_struck (b : Broker) (t : Trouble) :
    (b.struck t).inventory = b.inventory := by
  cases t <;> rfl

/-! ## One call -/

namespace Broker

/-- What is done to a session without closing it leaves the inventory alone. -/
theorem inventory_updateSession (b : Broker) (s : SessionId) {f : Session → Session}
    (h : ∀ session, (f session).closed = session.closed) :
    (b.updateSession s f).inventory = b.inventory := by
  have hclosed := map_modify Session.closed (e := id) h b.sessions s
  rw [List.modify_id] at hclosed
  simp only [inventory, updateSession, hclosed]

theorem inventory_closeSession (b : Broker) (s : SessionId) :
    (b.closeSession s).inventory =
      { b.inventory with closed := b.inventory.closed.modify s fun _ => true } := by
  have hclose : ∀ session : Session, (Session.close session).closed = true := by
    intro session
    rw [Session.close]
    split
    · assumption
    · rfl
  simp only [inventory, closeSession, updateSession,
    map_modify Session.closed (e := fun _ => true) hclose]

theorem inventory_createConnection (b : Broker) (factory : FactoryId) :
    b.inventory.Allows (.createConnection factory) (.ofExcept b.createConnection.1)
      b.createConnection.2.inventory := by
  rw [createConnection]
  split
  · exact .unreachable _ _ _
  · exact .connected b.inventory factory

theorem inventory_start (b : Broker) (c : ConnectionId) :
    b.inventory.Allows (.start c) (.ofExcept (b.start c).1) (b.start c).2.inventory := by
  rw [start]
  split
  · next connection hconnection =>
    split
    · next hclosed =>
      refine .notStarted b.inventory c _ fun connection' h => ?_
      obtain rfl : connection = connection' := Option.some.inj (hconnection.symm.trans h)
      exact hclosed
    · exact .started b.inventory c
  · next hnone => exact .notStarted b.inventory c _ fun _ h => absurd (hnone.symm.trans h) (by simp)

theorem inventory_createSession (b : Broker) (c : ConnectionId) :
    b.inventory.Allows (.createSession c) (.ofExcept (b.createSession c).1)
      (b.createSession c).2.inventory := by
  rw [createSession]
  split
  · next connection hconnection =>
    split
    · next hclosed =>
      refine .notOpened b.inventory c _ fun connection' h => ?_
      obtain rfl : connection = connection' := Option.some.inj (hconnection.symm.trans h)
      simpa using hclosed
    · have := Inventory.Allows.opened b.inventory c
      simp only [inventory, List.length_map, List.map_append, List.map_singleton] at this ⊢
      exact this
  · next hnone => exact .notOpened b.inventory c _ fun _ h => absurd (hnone.symm.trans h) (by simp)

/-- Declarations and sends open and close nothing before they pause. -/
theorem detached_inventory : Detached inventory :=
  ⟨fun _ _ => rfl, fun _ _ => rfl, fun _ _ => rfl, fun _ _ => rfl,
    fun b s => b.inventory_updateSession s (f := Session.begun) fun _ => rfl⟩

theorem inventory_commit (b : Broker) (s : SessionId) (now : Nat) :
    b.inventory.Allows (.commit s) (.ofExcept (b.commit s now).1) (b.commit s now).2.inventory := by
  rw [commit]
  split
  · exact .notCommitted _ _ _
  · next session hv =>
    split
    · exact .notCommitted _ _ _
    · have hclosed : (b.updateSession s Session.ended).sessions.map (·.closed) =
          b.inventory.closed :=
        congrArg Inventory.closed (b.inventory_updateSession s (f := Session.ended) fun _ => rfl)
      have hserved : (b.delivered ++ session.pending.map fun m => Delivered.mk m.1 m.2 s now).map
          (·.session) = b.inventory.served ++ List.replicate session.pending.length s := by
        rw [List.map_append, List.map_map, ← List.map_const']
        rfl
      have hallows : b.inventory.Allows (.commit s) (.ok ()) ⟨b.connections, b.inventory.closed,
          b.inventory.served ++ List.replicate session.pending.length s⟩ :=
        .committed b.inventory s session.pending.length
      rw [← hserved, ← hclosed] at hallows
      exact hallows

end Broker

/-! ## Two parts of a call -/

namespace Hub

variable {h h' : Hub} {now : Nat} {c : Call}

/-- **An attempt that is answered does what the inventory allows.** -/
theorem inventory_attempt {timed : Timed c.Answer} (ha : h.attempt now c = (some timed, h')) :
    h.inventory.Allows c timed.outcome h'.inventory := by
  cases c with
  | createTopic s name =>
    exact .of_eq rfl (view_attempt Broker.detached_inventory rfl ha) _
  | send s topic message =>
    exact .of_eq rfl (view_attempt Broker.detached_inventory rfl ha) _
  | lookup name => cases ha; exact .aloof _ rfl _
  | createConnection factory => cases ha; exact h.broker.inventory_createConnection factory
  | start connection => cases ha; exact h.broker.inventory_start connection
  | createSession connection => cases ha; exact h.broker.inventory_createSession connection
  | commit s => cases ha; exact h.broker.inventory_commit s now
  | rollback s =>
    cases ha
    exact .of_eq rfl (h.broker.inventory_updateSession s (f := Session.ended) fun _ => rfl) _
  | closeSession s =>
    cases ha
    change h.inventory.Allows (.closeSession s) (.ok ()) (h.broker.closeSession s).inventory
    rw [h.broker.inventory_closeSession s]
    exact .sessionClosed h.inventory s
  | closeConnection connection => cases ha; exact .connectionClosed h.inventory connection

/-- **A call that pauses leaves the inventory alone**, before its pause and after it. -/
theorem inventory_pause (ha : h.attempt now c = (none, h')) :
    c.isAloof = true ∧ h'.inventory = h.inventory := by
  cases c with
  | createTopic s name => exact ⟨rfl, view_attempt Broker.detached_inventory rfl ha⟩
  | send s topic message => exact ⟨rfl, view_attempt Broker.detached_inventory rfl ha⟩
  | _ => cases ha

theorem inventory_resume {answer : c.Answer} (hr : h.resume c = some (answer, h')) :
    h'.inventory = h.inventory := by
  cases c with
  | createTopic s name => cases hr; rfl
  | send s topic message =>
    cases hr
    exact h.broker.inventory_updateSession s (f := Session.extended topic message) fun _ => rfl
  | _ => cases hr

/-- **A call does what the inventory allows.** -/
theorem inventory_call (h : Hub) (limit now : Nat) (c : Call) :
    h.inventory.Allows c (h.call limit now c).reply.outcome (h.call limit now c).state.inventory :=
  call_cases (P := fun out h' => h.inventory.Allows c out h'.inventory) inventory_attempt
    (fun ha hr => .of_eq (inventory_pause ha).1
      ((inventory_resume hr).trans (inventory_pause ha).2) _)
    (fun ha => .of_eq (inventory_pause ha).1 (inventory_pause ha).2 _) limit

end Hub

/-! ## What is open -/

/-- A connection that is over: it is closed, and no one hears of its errors. -/
def Connection.Over (connection : Connection) : Prop :=
  connection.closed = true ∧ connection.observer = none

/-- The last entry of a list is `a`, at place `i`, and all entries before it are spent. -/
def Last {α : Type} (spent : α → Prop) (l : List α) (i : Nat) (a : α) : Prop :=
  ∃ earlier, l = earlier ++ [a] ∧ i = earlier.length ∧ ∀ x ∈ earlier, spent x

section Last

variable {α : Type} {spent : α → Prop} {l : List α} {i : Nat} {a : α}

theorem last_concat (h : ∀ x ∈ l, spent x) (a : α) : Last spent (l ++ [a]) l.length a :=
  ⟨l, rfl, rfl, h⟩

theorem Last.getElem? (h : Last spent l i a) : l[i]? = some a := by
  obtain ⟨earlier, rfl, rfl, -⟩ := h
  exact List.getElem?_concat_length

theorem Last.modify (h : Last spent l i a) (f : α → α) : Last spent (l.modify i f) i (f a) := by
  obtain ⟨earlier, rfl, rfl, hearlier⟩ := h
  exact ⟨earlier, List.modifyTailIdx_add _ 0 earlier [a], rfl, hearlier⟩

/-- With the last entry spent, all are. -/
theorem Last.forall_mem (h : Last spent l i a) (ha : spent a) : ∀ x ∈ l, spent x := by
  obtain ⟨earlier, rfl, -, hearlier⟩ := h
  exact List.forall_mem_append.mpr ⟨hearlier, by simpa using ha⟩

/-- Only the last entry lacks what all that is spent has. -/
theorem Last.countP (h : Last spent l i a) {p : α → Bool} (hp : ∀ x, spent x → p x = true)
    (ha : p a = false) : l.length = l.countP p + 1 := by
  obtain ⟨earlier, rfl, -, hearlier⟩ := h
  have hall : earlier.countP p = earlier.length :=
    List.countP_eq_length.mpr fun x hx => hp x (hearlier x hx)
  simp [ha, hall]

end Last

namespace Inventory

/-- Messages were delivered on known sessions, and on each session after the ones before it. -/
structure Orderly (k : Inventory) : Prop where
  ascending : k.served.Pairwise (· ≤ ·)
  known : ∀ s ∈ k.served, s < k.closed.length

/-- Nothing is open. -/
structure Vacant (k : Inventory) : Prop where
  connections : ∀ connection ∈ k.connections, connection.Over
  sessions : ∀ closed ∈ k.closed, closed = true
  orderly : k.Orderly

/-- Of the connections only `c` is open, the newest, which is as given; no session is open. -/
structure Linked (connection : Connection) (c : ConnectionId) (k : Inventory) : Prop where
  connections : Last Connection.Over k.connections c connection
  sessions : ∀ closed ∈ k.closed, closed = true
  orderly : k.Orderly

/-- A connection in use: its publisher hears of its errors. -/
def inUse : Connection := ⟨true, false, some .publisher⟩

/-- Of the connections only `c` is open, and of the sessions only `s`, the newest of each. -/
structure Occupied (c : ConnectionId) (s : SessionId) (k : Inventory) : Prop where
  connections : Last Connection.Over k.connections c inUse
  sessions : Last (· = true) k.closed s false
  orderly : k.Orderly

/-- At most one connection and one session are open, and messages were delivered in order. -/
structure Tidy (k : Inventory) : Prop where
  connections : k.connections.length ≤ k.connections.countP (·.closed) + 1
  sessions : k.closed.length ≤ k.closed.countP id + 1
  orderly : k.Orderly

variable {k : Inventory} {c : ConnectionId} {s : SessionId}

theorem Vacant.tidy (h : k.Vacant) : k.Tidy := by
  refine ⟨?_, ?_, h.orderly⟩
  · have hall : k.connections.countP (·.closed) = k.connections.length :=
      List.countP_eq_length.mpr fun x hx => (h.connections x hx).1
    omega
  · have hall : k.closed.countP id = k.closed.length := List.countP_eq_length.mpr h.sessions
    omega

theorem Linked.tidy {connection : Connection} (h : Linked connection c k)
    (hopen : connection.closed = false) : k.Tidy := by
  refine ⟨?_, ?_, h.orderly⟩
  · exact Nat.le_of_eq (h.connections.countP (p := (·.closed)) (fun _ hx => hx.1) hopen)
  · have hall : k.closed.countP id = k.closed.length := List.countP_eq_length.mpr h.sessions
    omega

theorem Occupied.tidy (h : Occupied c s k) : k.Tidy :=
  ⟨Nat.le_of_eq (h.connections.countP (p := (·.closed)) (fun _ hx => hx.1) rfl),
    Nat.le_of_eq (h.sessions.countP (p := id) (fun _ hx => hx) rfl), h.orderly⟩

/-! ### From one to the next -/

theorem Vacant.connected (h : k.Vacant) :
    Linked {} k.connections.length { k with connections := k.connections ++ [{}] } :=
  ⟨last_concat h.connections _, h.sessions, h.orderly.ascending, h.orderly.known⟩

theorem Linked.update {connection : Connection} (h : Linked connection c k)
    (f : Connection → Connection) : Linked (f connection) c (k.update c f) :=
  ⟨h.connections.modify f, h.sessions, h.orderly.ascending, h.orderly.known⟩

theorem Linked.opened (h : Linked inUse c k) :
    Occupied c k.closed.length { k with closed := k.closed ++ [false] } where
  connections := h.connections
  sessions := last_concat h.sessions false
  orderly := ⟨h.orderly.ascending, fun s hs => by
    rw [List.length_append]
    exact Nat.lt_add_right 1 (h.orderly.known s hs)⟩

/-- Messages that are delivered on the newest session come after all others. -/
theorem Occupied.committed (h : Occupied c s k) (count : Nat) :
    Occupied c s { k with served := k.served ++ List.replicate count s } where
  connections := h.connections
  sessions := h.sessions
  orderly := by
    obtain ⟨earlier, hclosed, rfl, -⟩ := h.sessions
    have hknown : ∀ x ∈ k.served, x < earlier.length + 1 := by
      intro x hx
      have := h.orderly.known x hx
      rwa [hclosed, List.length_append, List.length_singleton] at this
    refine ⟨List.pairwise_append.mpr ⟨h.orderly.ascending, ?_, fun x hx y hy => ?_⟩, ?_⟩
    · exact List.pairwise_replicate.mpr (Or.inr (Nat.le_refl _))
    · rw [List.eq_of_mem_replicate hy]
      exact Nat.le_of_lt_succ (hknown x hx)
    · change ∀ x ∈ k.served ++ List.replicate count earlier.length, x < k.closed.length
      rw [hclosed, List.length_append, List.length_singleton, List.forall_mem_append]
      exact ⟨hknown, fun x hx =>
        Nat.lt_succ_of_le (Nat.le_of_eq (List.eq_of_mem_replicate hx))⟩

theorem Occupied.sessionClosed (h : Occupied c s k) :
    Linked inUse c { k with closed := k.closed.modify s fun _ => true } where
  connections := h.connections
  sessions := (h.sessions.modify fun _ => true).forall_mem rfl
  orderly := ⟨h.orderly.ascending, by simpa using h.orderly.known⟩

theorem Linked.connectionClosed {connection : Connection} (h : Linked connection c k)
    (hopen : connection.closed = false) : (k.update c Broker.Connection.close).Vacant where
  connections := by
    refine (h.connections.modify Broker.Connection.close).forall_mem ?_
    rw [Broker.Connection.close, hopen, if_neg Bool.false_ne_true]
    exact ⟨rfl, rfl⟩
  sessions := h.sessions
  orderly := ⟨h.orderly.ascending, h.orderly.known⟩

end Inventory

end CatalogFeed.Bus
