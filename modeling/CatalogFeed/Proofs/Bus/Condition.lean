import CatalogFeed.Proofs.Bus.Core
import CatalogFeed.Proofs.Publish.Rules

/-!
# Proofs/Bus/Condition — what a publish meets, and what it leaves behind

The `Condition` of a hub is what decides how the calls of a publish are answered, the state of its
sessions apart: the troubles that are set up, with the log and the count of rollbacks.  There is one
lemma for each call: how it is answered in a given condition, and in which condition it leaves the
hub.  A session that a call goes to is `Hub.Valid` or not.

* `condition_housekeeping`: opening and closing change no condition;
* `Hub.declare_signalled`, `Hub.declare_stale`, `Hub.declare_valid`: the declaration of a topic;
* `Hub.send_refused`, `Hub.send_taken`, `Hub.commit_refused`, `Hub.commit_taken`,
  `Hub.rollback_counted`: the rest of a transaction.
-/

namespace CatalogFeed.Bus

/-- What decides how the calls of a publish are answered, and what a publish changes of it. -/
structure Condition where
  directory : Directory
  unreachable : Bool
  staleSignals : Nat
  sendFailures : Nat
  commitFailures : Nat
  latency : Option Nat
  rollbacks : Nat
  delivered : List Delivered

/-- The condition of a hub. -/
def Hub.condition (h : Hub) : Condition where
  directory := h.directory
  unreachable := h.broker.unreachable
  staleSignals := h.broker.staleSignals
  sendFailures := h.broker.sendFailures
  commitFailures := h.broker.commitFailures
  latency := h.broker.latency
  rollbacks := h.broker.rollbacks
  delivered := h.broker.delivered

/-- How long a declaration or a send pauses. -/
def Condition.pause (x : Condition) : Nat := x.latency.getD 0

/-- A call is answered within the limit: its latency is absent, or below the limit. -/
def Condition.Prompt (x : Condition) (limit : Nat) : Prop := ∀ ms ∈ x.latency, ms < limit

instance (x : Condition) (limit : Nat) : Decidable (x.Prompt limit) :=
  inferInstanceAs (Decidable (∀ ms ∈ x.latency, ms < limit))

theorem Condition.pause_le_iff {x : Condition} {limit : Nat} (hne : x.latency ≠ some limit) :
    x.pause ≤ limit ↔ x.Prompt limit := by
  rw [pause, Prompt]
  cases hlatency : x.latency with
  | none => simp
  | some ms =>
    have hms : ms ≠ limit := fun h => hne (hlatency.trans (congrArg some h))
    simpa using Nat.le_iff_lt_or_eq.trans (or_iff_left hms)

/-- A connection can be opened: its factory is bound under this name, and the broker reachable. -/
def Condition.Opens (x : Condition) (name : String) : Prop :=
  x.unreachable = false ∧ (x.directory.lookup name).isOk = true

instance (x : Condition) (name : String) : Decidable (x.Opens name) :=
  inferInstanceAs (Decidable (_ ∧ _))

/-! ## Connections and sessions -/

namespace Hub

variable {h : Hub} {x : Condition} {pending : List (String × Message)}

/-- The connection is open. -/
def Connected (h : Hub) (c : ConnectionId) : Prop :=
  ∃ connection, h.broker.connections[c]? = some connection ∧ connection.closed = false

/-- The connection is open and started. -/
def Started (h : Hub) (c : ConnectionId) : Prop :=
  ∃ connection, h.broker.connections[c]? = some connection ∧ connection.closed = false ∧
    connection.started = true

/-- The session is valid, and `pending` is pending on it. -/
def Valid (h : Hub) (id : SessionId) (pending : List (String × Message)) : Prop :=
  ∃ session, h.broker.validSession id = .ok session ∧ session.pending = pending

/-- Nothing is pending on the session, whether it is valid or stale. -/
def Unburdened (h : Hub) (id : SessionId) : Prop :=
  ∀ session, h.broker.sessions[id]? = some session → session.pending = []

/-- The session is valid. -/
def Usable (h : Hub) (id : SessionId) : Prop := ∃ session, h.broker.validSession id = .ok session

theorem Unburdened.valid {id : SessionId} (hf : h.Unburdened id) (hu : h.Usable id) :
    h.Valid id [] := by
  obtain ⟨session, hv⟩ := hu
  exact ⟨session, hv, hf session (Broker.sessions_of_validSession hv)⟩

theorem Valid.usable {id : SessionId} (hv : h.Valid id pending) : h.Usable id := by
  obtain ⟨session, hv, -⟩ := hv
  exact ⟨session, hv⟩

theorem Valid.unburdened {id : SessionId} (hv : h.Valid id []) : h.Unburdened id := by
  intro session hs
  obtain ⟨session', hv, hp⟩ := hv
  obtain rfl : session' = session :=
    Option.some.inj ((Broker.sessions_of_validSession hv).symm.trans hs)
  exact hp

theorem lookup_ok_iff {name : String} (limit now : Nat) (hx : h.condition = x) :
    (∃ factory, (h.call limit now (.lookup name)).reply.outcome = .ok factory) ↔
      (x.directory.lookup name).isOk = true := by
  subst hx
  change (∃ factory, Outcome.ofExcept (h.directory.lookup name) = .ok factory) ↔
    (h.directory.lookup name).isOk = true
  cases h.directory.lookup name with
  | ok factory => exact ⟨fun _ => rfl, fun _ => ⟨factory, rfl⟩⟩
  | error e => exact ⟨fun ⟨_, h⟩ => (nomatch h), fun h => (nomatch h)⟩

theorem createConnection_reachable (hx : h.condition = x) (hu : x.unreachable = false) :
    ∃ c, h.broker.createConnection.1 = .ok c ∧
      Connected { h with broker := h.broker.createConnection.2 } c := by
  have hu : h.broker.unreachable = false := (congrArg Condition.unreachable hx).trans hu
  rw [Broker.createConnection, hu, if_neg Bool.false_ne_true]
  exact ⟨_, rfl, {}, List.getElem?_concat_length, rfl⟩

theorem createConnection_unreachable (hx : h.condition = x) (hu : x.unreachable = true) :
    ∃ e, h.broker.createConnection.1 = .error e := by
  have hu : h.broker.unreachable = true := (congrArg Condition.unreachable hx).trans hu
  rw [Broker.createConnection, hu, if_pos rfl]
  exact ⟨_, rfl⟩

theorem Connected.start {c : ConnectionId} (ho : h.Connected c) :
    (h.broker.start c).1 = .ok () ∧ Started { h with broker := (h.broker.start c).2 } c := by
  obtain ⟨connection, hconn, hclosed⟩ := ho
  simp only [Broker.start, hconn, hclosed, if_neg Bool.false_ne_true]
  refine ⟨trivial, { connection with started := true }, ?_, hclosed, rfl⟩
  simp [Broker.updateConnection, hconn]

theorem Started.observe {c : ConnectionId} (ho : h.Started c) (o : Observer) :
    Started { h with broker := h.broker.observe c o } c := by
  obtain ⟨connection, hconn, hclosed, hstarted⟩ := ho
  refine ⟨{ connection with observer := some o }, ?_, hclosed, hstarted⟩
  simp [Broker.observe, Broker.updateConnection, hconn]

theorem Started.createSession {c : ConnectionId} (ho : h.Started c) :
    ∃ id, (h.broker.createSession c).1 = .ok id ∧
      Valid { h with broker := (h.broker.createSession c).2 } id [] := by
  obtain ⟨connection, hconn, hclosed, hstarted⟩ := ho
  refine ⟨h.broker.sessions.length, ?_, ⟨h.broker.generation, [], false, false⟩, ?_, rfl⟩
  · simp [Broker.createSession, hconn, hclosed, hstarted]
  · simp [Broker.createSession, hconn, hclosed, hstarted, Broker.validSession]

end Hub

/-- **Opening and closing change no condition.** -/
theorem condition_housekeeping {r : Request} (hr : r.isHousekeeping = true) (now : Nat) (h : Hub) :
    (Hub.service.serve r now h).state.condition = h.condition := by
  rcases r with ⟨c, limit⟩ | connection
  · cases c with
    | lookup _ => rfl
    | createConnection factory =>
      change Hub.condition { h with broker := h.broker.createConnection.2 } = _
      rw [Broker.createConnection]
      split <;> rfl
    | start c =>
      change Hub.condition { h with broker := (h.broker.start c).2 } = _
      rw [Broker.start]
      split
      · split <;> rfl
      · rfl
    | createSession c =>
      change Hub.condition { h with broker := (h.broker.createSession c).2 } = _
      rw [Broker.createSession]
      split
      · split <;> rfl
      · rfl
    | closeSession s => rfl
    | closeConnection c => rfl
    | createTopic | send | commit | rollback => cases hr
  · rfl

/-! ## One transaction -/

/-- A session stays valid if neither its generation changes nor it is closed. -/
theorem Broker.validSession_update {b : Broker} {s : SessionId} {session : Session}
    (hv : b.validSession s = .ok session) {f : Session → Session}
    (hf : ∀ session, (f session).closed = session.closed ∧
      (f session).generation = session.generation) :
    (b.updateSession s f).validSession s = .ok (f session) := by
  rw [validSession] at hv
  split at hv
  · next session' hs =>
    split at hv
    · cases hv
    · next hok =>
      cases hv
      have hs' : (b.updateSession s f).sessions[s]? = some (f session) := by
        simp [updateSession, hs]
      simp only [validSession, hs', hf]
      exact if_neg hok
  · cases hv

theorem Broker.isSessionInvalid_of_validSession {b : Broker} {s : SessionId} {e : Error}
    (hv : b.validSession s = .error e) : e.isSessionInvalid = true := by
  rw [validSession] at hv
  split at hv
  · split at hv
    · cases hv
      rfl
    · cases hv
  · cases hv
    rfl

namespace Hub

variable {h : Hub} {x : Condition} {id : SessionId} {pending : List (String × Message)}
  (topic : String) (message : Message) (limit now : Nat)

/-- **A stale signal is used up by a declaration**, whatever session it is made on. -/
theorem declare_signalled (id : SessionId) (hx : h.condition = x) (hs : x.staleSignals ≠ 0) :
    ∃ e, (h.call limit now (.createTopic id topic)).reply.outcome = .error e ∧
      e.isSessionInvalid = true ∧ (h.call limit now (.createTopic id topic)).state.condition =
        { x with staleSignals := x.staleSignals - 1 } := by
  subst hx
  simp only [call, Broker.serve, Broker.declareTopic]
  rw [if_pos (show h.broker.staleSignals ≠ 0 from hs)]
  exact ⟨_, rfl, rfl, rfl⟩

/-- **A stale session says so** when a topic is declared on it, and nothing else happens. -/
theorem declare_stale (hx : h.condition = x) (hs : x.staleSignals = 0)
    (hv : ¬ h.Usable id) :
    ∃ e, (h.call limit now (.createTopic id topic)).reply.outcome = .error e ∧
      e.isSessionInvalid = true ∧
      (h.call limit now (.createTopic id topic)).state.condition = x := by
  subst hx
  have hs : h.broker.staleSignals = 0 := hs
  cases hstale : h.broker.validSession id with
  | ok session => exact absurd ⟨session, hstale⟩ hv
  | error e =>
    refine ⟨e, ?_⟩
    simp only [call, Broker.serve, Broker.declareTopic, hs, hstale]
    exact ⟨rfl, Broker.isSessionInvalid_of_validSession hstale, rfl⟩

/-- **A topic is declared on a valid session**, if that takes no longer than the limit. -/
theorem declare_valid (hx : h.condition = x) (hs : x.staleSignals = 0) (hv : h.Valid id []) :
    (h.call limit now (.createTopic id topic)).reply.outcome =
        (if x.pause ≤ limit then .ok topic else .silent) ∧
      (h.call limit now (.createTopic id topic)).state.condition = x ∧
      (h.call limit now (.createTopic id topic)).state.Valid id [] := by
  subst hx
  obtain ⟨session, hv, hp⟩ := hv
  obtain ⟨b, log, hdeclare, hcondition, hpause, hv'⟩ :
      ∃ b log, h.broker.declareTopic id topic = (.ok (), b, log) ∧
        Hub.condition { h with broker := b } = h.condition ∧ b.pause = h.condition.pause ∧
        b.validSession id = .ok { session with inTransaction := true } := by
    rw [Broker.declareTopic, if_neg (show ¬ h.broker.staleSignals ≠ 0 from not_not_intro hs), hv]
    dsimp only
    generalize hb : (if session.inTransaction then
      { h.broker with overlaps := h.broker.overlaps + 1 } else h.broker) = b
    have hkept : Hub.condition { h with broker := b } = h.condition ∧
        b.pause = h.condition.pause ∧ b.validSession id = .ok session := by
      rw [← hb]
      split <;> exact ⟨rfl, rfl, hv⟩
    have hv' := Broker.validSession_update hkept.2.2
      (f := fun session => { session with inTransaction := true }) fun _ => ⟨rfl, rfl⟩
    split
    · exact ⟨_, _, rfl, hkept.1, hkept.2.1, hv'⟩
    · exact ⟨_, _, rfl, hkept.1, hkept.2.1, hv'⟩
  simp only [call, Broker.serve, hdeclare, hpause]
  split
  · exact ⟨rfl, hcondition, _, hv', hp⟩
  · exact ⟨rfl, hcondition, _, hv', hp⟩

/-- **A send that is to fail is refused**, and the failure used up. -/
theorem send_refused (hx : h.condition = x) (hv : h.Valid id pending) (hf : x.sendFailures ≠ 0) :
    ∃ e, (h.call limit now (.send id topic message)).reply.outcome = .error e ∧
      e.poisonsSession = false ∧ (h.call limit now (.send id topic message)).state.condition =
        { x with sendFailures := x.sendFailures - 1 } := by
  subst hx
  obtain ⟨session, hv, -⟩ := hv
  simp only [call, Broker.serve, Broker.accept, hv]
  rw [if_pos (show h.broker.sendFailures ≠ 0 from hf)]
  exact ⟨_, rfl, rfl, rfl⟩

/-- **Any other is taken**, if that takes no longer than the limit. -/
theorem send_taken (hx : h.condition = x) (hv : h.Valid id pending) (hf : x.sendFailures = 0)
    (hpause : x.pause ≤ limit) :
    (h.call limit now (.send id topic message)).reply.outcome = .ok () ∧
      (h.call limit now (.send id topic message)).state.condition = x ∧
      (h.call limit now (.send id topic message)).state.Valid id
        (pending ++ [(topic, message)]) := by
  subst hx
  obtain ⟨session, hv, hp⟩ := hv
  have hf : h.broker.sendFailures = 0 := hf
  have hpause : h.broker.pause ≤ limit := hpause
  have hcall : h.call limit now (.send id topic message) =
      ⟨⟨.ok (), h.broker.pause⟩, { h with broker := h.broker.enqueue id topic message },
        h.broker.pause, []⟩ := by
    simp [call, Broker.serve, Broker.accept, hv, hf, hpause]
  rw [hcall]
  refine ⟨rfl, rfl, _, Broker.validSession_update hv fun _ => ⟨rfl, rfl⟩, ?_⟩
  rw [hp]

/-- **A commit that is to fail is refused**, and the failure used up. -/
theorem commit_refused (hx : h.condition = x) (hv : h.Valid id pending)
    (hc : x.commitFailures ≠ 0) :
    ∃ e, (h.call limit now (.commit id)).reply.outcome = .error e ∧
      e.poisonsSession = false ∧ (h.call limit now (.commit id)).state.condition =
        { x with commitFailures := x.commitFailures - 1 } := by
  subst hx
  obtain ⟨session, hv, -⟩ := hv
  simp only [call, Broker.serve, Broker.atOnce, Broker.commit, hv]
  rw [if_pos (show h.broker.commitFailures ≠ 0 from hc)]
  exact ⟨_, rfl, rfl, rfl⟩

/-- **Any other delivers what is pending.** -/
theorem commit_taken (hx : h.condition = x) (hv : h.Valid id pending)
    (hc : x.commitFailures = 0) :
    (h.call limit now (.commit id)).reply.outcome = .ok () ∧
      (h.call limit now (.commit id)).state.condition =
        { x with delivered := x.delivered ++ pending.map fun m => ⟨m.1, m.2, id, now⟩ } := by
  subst hx
  obtain ⟨session, hv, rfl⟩ := hv
  simp only [call, Broker.serve, Broker.atOnce, Broker.commit, hv]
  rw [if_neg (show ¬ h.broker.commitFailures ≠ 0 from not_not_intro hc)]
  exact ⟨rfl, rfl⟩

/-- **A rollback is counted.** -/
theorem rollback_counted (id : SessionId) (hx : h.condition = x) :
    (h.call limit now (.rollback id)).reply.outcome = .ok () ∧
      (h.call limit now (.rollback id)).state.condition =
        { x with rollbacks := x.rollbacks + 1 } := by
  subst hx
  exact ⟨rfl, rfl⟩

end Hub
end CatalogFeed.Bus
