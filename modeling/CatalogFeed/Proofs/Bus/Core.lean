import CatalogFeed.Bus.Hub

/-!
# Proofs/Bus/Core — what a broker is to its transactions, whatever strikes it

Of a broker, transactions see the delivered messages, the sessions, and the count of overlaps: its
`Core`.  `Core.Allows` lists what a call may answer and what it then does to the core.  No trouble
that can be set up touches the core, and neither does time; a call that pauses does one part of its
work before the pause and one after.

* `core_struck`: troubles leave the core alone;
* `Broker.Detached`: what declarations and sends cannot change before they pause;
* `Hub.call_eq_attempt`, `Hub.call_cases`: a call is its attempt, and, if that pauses, what is done
  after the pause;
* `Hub.allows_attempt`, `Hub.midway_attempt`: both parts together do what the core allows, even if
  other things happened to the broker during the pause;
* `Hub.allows_call`: so does a whole call.
-/

namespace CatalogFeed.Bus

/-! ## The core -/

/-- The content of a delivered message: its topic, and the message. -/
def Delivered.content (d : Delivered) : String × Message := (d.topic, d.message)

/-- What transactions see of a broker. -/
structure Core where
  /-- The contents of the delivered messages, oldest first. -/
  contents : List (String × Message)
  sessions : List Session
  overlaps : Nat

/-- The core of a broker. -/
def Broker.core (b : Broker) : Core :=
  ⟨b.delivered.map Delivered.content, b.sessions, b.overlaps⟩

/-- The core of the broker behind a directory. -/
def Hub.core (h : Hub) : Core := h.broker.core

/-- Changes a session. -/
def Core.update (k : Core) (s : SessionId) (f : Session → Session) : Core :=
  { k with sessions := k.sessions.modify s f }

/-- A session in which a transaction has begun. -/
def Session.begun (session : Session) : Session := { session with inTransaction := true }

/-- A session with one more message pending. -/
def Session.extended (topic : String) (message : Message) (session : Session) : Session :=
  { session with pending := session.pending ++ [(topic, message)] }

/-- A session whose transaction has ended. -/
def Session.ended (session : Session) : Session :=
  { session with pending := [], inTransaction := false }

/-- **What a call may answer, and what it does to the core.**  Any call may be refused. -/
inductive Core.Allows : Core → (c : Call) → Outcome c.Answer → Core → Prop where
  | refused (k : Core) (c : Call) (e : Error) : Allows k c (.error e) k
  | lookedUp (k : Core) (name : String) (factory : FactoryId) :
      Allows k (.lookup name) (.ok factory) k
  | connected (k : Core) (factory : FactoryId) (connection : ConnectionId) :
      Allows k (.createConnection factory) (.ok connection) k
  | started (k : Core) (connection : ConnectionId) : Allows k (.start connection) (.ok ()) k
  | opened (k : Core) (connection : ConnectionId) (generation : Nat) :
      Allows k (.createSession connection) (.ok k.sessions.length)
        { k with sessions := k.sessions ++ [⟨generation, [], false, false⟩] }
  | declared (k : Core) (s : SessionId) (name : String) {session : Session}
      (h : k.sessions[s]? = some session) {out : Outcome String}
      (hout : out = .ok name ∨ out = .silent) :
      Allows k (.createTopic s name) out
        { k.update s Session.begun with
          overlaps := k.overlaps + if session.inTransaction then 1 else 0 }
  | accepted (k : Core) (s : SessionId) (topic : String) (message : Message) :
      Allows k (.send s topic message) .silent k
  | queued (k : Core) (s : SessionId) (topic : String) (message : Message) :
      Allows k (.send s topic message) (.ok ()) (k.update s (Session.extended topic message))
  | committed (k : Core) (s : SessionId) {session : Session} (h : k.sessions[s]? = some session) :
      Allows k (.commit s) (.ok ())
        { k.update s Session.ended with contents := k.contents ++ session.pending }
  | rolledBack (k : Core) (s : SessionId) :
      Allows k (.rollback s) (.ok ()) (k.update s Session.ended)
  | sessionClosed (k : Core) (s : SessionId) :
      Allows k (.closeSession s) (.ok ()) (k.update s Broker.Session.close)
  | connectionClosed (k : Core) (connection : ConnectionId) :
      Allows k (.closeConnection connection) (.ok ()) k

/-! ## Troubles -/

/-- A trouble that can be set up for a broker. -/
inductive Trouble where
  | reachability (unreachable : Bool)
  | staleSignals (count : Nat)
  | invalidation
  | sendFailures (count : Nat)
  | commitFailures (count : Nat)
  | latency (ms : Option Nat)

namespace Broker

/-- A broker that a trouble has struck. -/
def struck (b : Broker) : Trouble → Broker
  | .reachability unreachable => b.setUnreachable unreachable
  | .staleSignals count => b.signalStaleSessions count
  | .invalidation => b.invalidateSessions
  | .sendFailures count => b.failNextSends count
  | .commitFailures count => b.failNextCommits count
  | .latency ms => b.setLatency ms

/-- **Troubles leave the core alone.** -/
@[simp] theorem core_struck (b : Broker) (t : Trouble) : (b.struck t).core = b.core := by
  cases t <;> rfl

/-- A valid session is one of the sessions. -/
theorem sessions_of_validSession {b : Broker} {s : SessionId} {session : Session}
    (h : b.validSession s = .ok session) : b.sessions[s]? = some session := by
  rw [validSession] at h
  split at h
  · next session' hs =>
    split at h
    · cases h
    · cases h
      exact hs
  · cases h

/-! ## One call -/

theorem allows_createConnection (b : Broker) (factory : FactoryId) :
    b.core.Allows (.createConnection factory) (.ofExcept b.createConnection.1)
      b.createConnection.2.core := by
  rw [createConnection]
  split
  · exact .refused _ _ _
  · exact .connected _ _ _

theorem allows_start (b : Broker) (c : ConnectionId) :
    b.core.Allows (.start c) (.ofExcept (b.start c).1) (b.start c).2.core := by
  rw [start]
  split
  · split
    · exact .refused _ _ _
    · exact .started _ _
  · exact .refused _ _ _

theorem allows_createSession (b : Broker) (c : ConnectionId) :
    b.core.Allows (.createSession c) (.ofExcept (b.createSession c).1)
      (b.createSession c).2.core := by
  rw [createSession]
  split
  · split
    · exact .refused _ _ _
    · exact .opened b.core c b.generation
  · exact .refused _ _ _

/-- A declaration that is refused does nothing; else, by the time it pauses, the transaction has
begun. -/
theorem core_declareTopic {b b' : Broker} {s : SessionId} {name : String} {r : Except Error Unit}
    {log : List LogEntry} (h : b.declareTopic s name = (r, b', log)) :
    (∃ e, r = .error e ∧ b'.core = b.core) ∨
    ∃ session, r = .ok () ∧ b.core.sessions[s]? = some session ∧
      b'.core = { b.core.update s Session.begun with
        overlaps := b.core.overlaps + if session.inTransaction then 1 else 0 } := by
  rw [declareTopic] at h
  split at h
  · cases h
    exact Or.inl ⟨_, rfl, rfl⟩
  · cases hv : b.validSession s with
    | error e =>
      simp only [hv] at h
      cases h
      exact Or.inl ⟨_, rfl, rfl⟩
    | ok session =>
      simp only [hv] at h
      refine Or.inr ⟨session, ?_⟩
      generalize hb :
        (if session.inTransaction then { b with overlaps := b.overlaps + 1 } else b) = b₁ at h
      have hcore : (b₁.updateSession s Session.begun).core = { b.core.update s Session.begun with
          overlaps := b.core.overlaps + if session.inTransaction then 1 else 0 } := by
        rw [← hb]
        split <;> rfl
      split at h <;> cases h <;> exact ⟨rfl, sessions_of_validSession hv, hcore⟩

/-- By the time a send pauses, nothing has happened. -/
theorem core_accept {b b' : Broker} {s : SessionId} {topic : String} {r : Except Error Unit}
    (h : b.accept s topic = (r, b')) : b'.core = b.core := by
  rw [accept] at h
  split at h
  · cases h
    rfl
  · split at h <;> cases h <;> rfl

theorem allows_commit (b : Broker) (s : SessionId) (now : Nat) :
    b.core.Allows (.commit s) (.ofExcept (b.commit s now).1) (b.commit s now).2.core := by
  rw [commit]
  split
  · exact .refused _ _ _
  · next session hv =>
    split
    · exact .refused _ _ _
    · have hcontents : b.delivered.map Delivered.content ++ session.pending =
          (b.delivered ++ session.pending.map fun m => Delivered.mk m.1 m.2 s now).map
            Delivered.content := by
        simp [Delivered.content, Function.comp_def]
      have := Core.Allows.committed b.core s (sessions_of_validSession hv)
      rw [show b.core.contents = b.delivered.map Delivered.content from rfl, hcontents] at this
      exact this

end Broker

/-! ## What is not seen of a call -/

/-- What is seen of a broker depends neither on its topics, nor on overlaps, nor on the counts of
signals and sends to fail, nor on whether transactions have begun. -/
structure Broker.Detached {α : Type} (view : Broker → α) : Prop where
  topics : ∀ b topics, view { b with topics } = view b
  overlaps : ∀ b overlaps, view { b with overlaps } = view b
  staleSignals : ∀ b staleSignals, view { b with staleSignals } = view b
  sendFailures : ∀ b sendFailures, view { b with sendFailures } = view b
  begun : ∀ b s, view (b.updateSession s Session.begun) = view b

namespace Broker.Detached

variable {α : Type} {view : Broker → α}

theorem declareTopic (hview : Detached view) (b : Broker) (s : SessionId) (name : String) :
    view (b.declareTopic s name).2.1 = view b := by
  rw [Broker.declareTopic]
  split
  · exact hview.staleSignals b _
  · cases b.validSession s with
    | error e => rfl
    | ok session =>
      dsimp only
      generalize hb :
        (if session.inTransaction then { b with overlaps := b.overlaps + 1 } else b) = b₁
      have hbegun : view (b₁.updateSession s Session.begun) = view b := by
        rw [hview.begun, ← hb]
        split
        · exact hview.overlaps b _
        · rfl
      split
      · exact hbegun
      · exact (hview.topics _ _).trans hbegun

theorem accept (hview : Detached view) (b : Broker) (s : SessionId) (topic : String) :
    view (b.accept s topic).2 = view b := by
  rw [Broker.accept]
  split
  · rfl
  · split
    · exact hview.sendFailures b _
    · rfl

end Broker.Detached

/-- Whether a call pauses before it is answered, unless it is refused. -/
def Call.pauses : Call → Bool
  | .createTopic _ _ | .send _ _ _ => true
  | _ => false

/-! ## Two parts of a call -/

namespace Hub

/-- The first part of a call at time `now`: its answer, unless it pauses. -/
def attempt (h : Hub) (now : Nat) : (c : Call) → Option (Timed c.Answer) × Hub
  | .createTopic s name =>
    match h.broker.declareTopic s name with
    | (.error e, broker, _) => (some ⟨.error e, 0⟩, { h with broker })
    | (.ok (), broker, _) => (none, { h with broker })
  | .send s topic _ =>
    match h.broker.accept s topic with
    | (.error e, broker) => (some ⟨.error e, 0⟩, { h with broker })
    | (.ok (), broker) => (none, { h with broker })
  | c => (some (h.call 0 now c).reply, (h.call 0 now c).state)

/-- The second part of a call that paused and was not cut off: what it answers, and what it does.
Only declarations and sends pause. -/
def resume (h : Hub) : (c : Call) → Option (c.Answer × Hub)
  | .createTopic _ name => some (name, h)
  | .send s topic message => some ((), { h with broker := h.broker.enqueue s topic message })
  | _ => none

/-- **A call is its attempt, and, if that pauses, the rest** within the limit, or silence. -/
theorem call_eq_attempt (h : Hub) (limit now : Nat) (c : Call) :
    ((h.call limit now c).reply, (h.call limit now c).state) =
      match h.attempt now c with
      | (some timed, h') => (timed, h')
      | (none, h') =>
        if h'.broker.pause ≤ limit then
          match h'.resume c with
          | some (answer, h'') => (⟨.ok answer, h'.broker.pause⟩, h'')
          | none => (⟨.silent, limit⟩, h')
        else (⟨.silent, limit⟩, h') := by
  cases c with
  | createTopic s name =>
    simp only [call, attempt, Broker.serve]
    rcases h.broker.declareTopic s name with ⟨_ | _, b, log⟩
    · rfl
    · dsimp only
      split <;> rfl
  | send s topic message =>
    simp only [call, attempt, Broker.serve]
    rcases h.broker.accept s topic with ⟨_ | _, b⟩
    · rfl
    · dsimp only
      split <;> rfl
  | _ => rfl

/-- **What a call does before it pauses** cannot be seen in what is detached from it. -/
theorem view_attempt {α : Type} {view : Broker → α} (hview : Broker.Detached view) {h h' : Hub}
    {now : Nat} {c : Call} {answer : Option (Timed c.Answer)} (hc : c.pauses = true)
    (ha : h.attempt now c = (answer, h')) : view h'.broker = view h.broker := by
  cases c with
  | createTopic s name =>
    have hb := hview.declareTopic h.broker s name
    rw [attempt] at ha
    split at ha <;> next hd =>
      cases ha
      rw [hd] at hb
      exact hb
  | send s topic message =>
    have hb := hview.accept h.broker s topic
    rw [attempt] at ha
    split at ha <;> next hd =>
      cases ha
      rw [hd] at hb
      exact hb
  | _ => cases hc

/-- **What comes of both parts of a call comes of the call.** -/
theorem call_cases {h : Hub} {now : Nat} {c : Call} {P : Outcome c.Answer → Hub → Prop}
    (answered : ∀ {timed h'}, h.attempt now c = (some timed, h') → P timed.outcome h')
    (resumed : ∀ {h' answer h''}, h.attempt now c = (none, h') →
      h'.resume c = some (answer, h'') → P (.ok answer) h'')
    (cutOff : ∀ {h'}, h.attempt now c = (none, h') → P .silent h') (limit : Nat) :
    P (h.call limit now c).reply.outcome (h.call limit now c).state := by
  have hcall := h.call_eq_attempt limit now c
  generalize (h.call limit now c).reply = reply at hcall
  generalize (h.call limit now c).state = state at hcall
  split at hcall
  · next timed h' ha =>
    cases hcall
    exact answered ha
  · next h' ha =>
    split at hcall
    · split at hcall
      · next answer h'' hr =>
        cases hcall
        exact resumed ha hr
      · cases hcall
        exact cutOff ha
    · cases hcall
      exact cutOff ha

/-- **An attempt that is answered does what the core allows.** -/
theorem allows_attempt {h h' : Hub} {now : Nat} {c : Call} {timed : Timed c.Answer}
    (ha : h.attempt now c = (some timed, h')) : h.core.Allows c timed.outcome h'.core := by
  cases c with
  | createTopic s name =>
    rw [attempt] at ha
    split at ha
    · next e b log he =>
      cases ha
      rcases Broker.core_declareTopic he with ⟨e', -, hcore⟩ | ⟨session, hr, -⟩
      · have : b.core = h.core := hcore
        exact this ▸ .refused b.core _ _
      · cases hr
    · cases ha
  | send s topic message =>
    rw [attempt] at ha
    split at ha
    · next e b he =>
      cases ha
      have : b.core = h.core := Broker.core_accept he
      exact this ▸ .refused b.core _ _
    · cases ha
  | lookup name =>
    cases ha
    change h.core.Allows (.lookup name) (Outcome.ofExcept (h.directory.lookup name)) h.core
    cases h.directory.lookup name with
    | ok factory => exact .lookedUp _ _ _
    | error e => exact .refused _ _ _
  | createConnection factory => cases ha; exact h.broker.allows_createConnection factory
  | start connection => cases ha; exact h.broker.allows_start connection
  | createSession connection => cases ha; exact h.broker.allows_createSession connection
  | commit s => cases ha; exact h.broker.allows_commit s now
  | rollback s => cases ha; exact .rolledBack _ s
  | closeSession s => cases ha; exact .sessionClosed _ s
  | closeConnection connection => cases ha; exact .connectionClosed _ connection

/-- A call made at core `k₀` has paused, and `k` is the core now: it may still be cut off, or be
answered after the rest of its work. -/
structure Midway (k₀ : Core) (c : Call) (k : Core) : Prop where
  cutOff : k₀.Allows c .silent k
  resumed : ∀ {h h' : Hub} {answer : c.Answer}, h.core = k → h.resume c = some (answer, h') →
    k₀.Allows c (.ok answer) h'.core

/-- **An attempt that pauses is midway through what the core allows.** -/
theorem midway_attempt {h h' : Hub} {now : Nat} {c : Call} (ha : h.attempt now c = (none, h')) :
    Midway h.core c h'.core := by
  cases c with
  | createTopic s name =>
    rw [attempt] at ha
    split at ha
    · cases ha
    · next b log he =>
      cases ha
      obtain ⟨e, hr, -⟩ | ⟨session, -, hs, hcore⟩ := Broker.core_declareTopic he
      · cases hr
      have hb : ∀ out : Outcome String, out = .ok name ∨ out = .silent →
          h.core.Allows (.createTopic s name) out b.core := by
        intro out hout
        rw [hcore]
        exact .declared h.core s name hs hout
      refine ⟨hb _ (Or.inr rfl), fun {g g' answer} hg hr => ?_⟩
      cases hr
      rw [hg]
      exact hb _ (Or.inl rfl)
  | send s topic message =>
    rw [attempt] at ha
    split at ha
    · cases ha
    · next b he =>
      cases ha
      have hcore : b.core = h.core := Broker.core_accept he
      refine ⟨hcore ▸ .accepted b.core s topic message, fun {g g' answer} hg hr => ?_⟩
      cases hr
      have : g.core = h.core := hg.trans hcore
      exact this ▸ .queued g.core s topic message
  | lookup name => cases ha
  | createConnection factory => cases ha
  | start connection => cases ha
  | createSession connection => cases ha
  | commit s => cases ha
  | rollback s => cases ha
  | closeSession s => cases ha
  | closeConnection connection => cases ha

/-- **A call does what the core allows.** -/
theorem allows_call (h : Hub) (limit now : Nat) (c : Call) :
    h.core.Allows c (h.call limit now c).reply.outcome (h.call limit now c).state.core :=
  call_cases (P := fun out h' => h.core.Allows c out h'.core) allows_attempt
    (fun ha hr => (midway_attempt ha).resumed rfl hr) (fun ha => (midway_attempt ha).cutOff) limit

end Hub
end CatalogFeed.Bus
