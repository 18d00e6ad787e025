import CatalogFeed.Proofs.Bus.Inventory

/-!
# Proofs/Bus/Account — what a broker has delivered, and what it may still deliver

What a broker delivers depends on what it has delivered, on what is pending on each session, and on
which sessions are still valid: its `Account`.  `Account.Allows` lists what a call may answer at a
given time and what it then does to the account.  Of the troubles, only the invalidation of sessions
touches it.

* `Hub.account_attempt`, `Hub.account_pause`, `Hub.account_resume`: both parts of a call;
* `Hub.account_call`: a whole call;
* `Account.Allows.delivered_grows`: what has been delivered stays, in the same order.
-/

namespace CatalogFeed.Bus

/-! ## The account -/

/-- What matters of a session for delivery. -/
structure Slip where
  generation : Nat
  pending : List (String × Message)
  closed : Bool

namespace Slip

/-- One more message is pending. -/
def extended (m : String × Message) (slip : Slip) : Slip :=
  { slip with pending := slip.pending ++ [m] }

/-- Nothing is pending any more. -/
def cleared (slip : Slip) : Slip := { slip with pending := [] }

/-- The session is closed. -/
def close (slip : Slip) : Slip :=
  if slip.closed then slip else { slip with closed := true, pending := [] }

@[simp] theorem closed_close (slip : Slip) : slip.close.closed = true := by
  rw [close]
  split <;> first | assumption | rfl

@[simp] theorem generation_close (slip : Slip) : slip.close.generation = slip.generation := by
  rw [close]
  split <;> rfl

end Slip

/-- The slip of a session. -/
def Session.slip (session : Session) : Slip :=
  ⟨session.generation, session.pending, session.closed⟩

/-- What the delivery of messages depends on. -/
structure Account where
  delivered : List Delivered
  slips : List Slip
  generation : Nat

/-- The account of a broker. -/
def Broker.account (b : Broker) : Account :=
  ⟨b.delivered, b.sessions.map Session.slip, b.generation⟩

/-- The account of the broker behind a directory. -/
def Hub.account (h : Hub) : Account := h.broker.account

/-- A message as it is delivered from a session at a time. -/
def Delivered.of (s : SessionId) (time : Nat) (m : String × Message) : Delivered :=
  ⟨m.1, m.2, s, time⟩

namespace Account

/-- Changes a slip. -/
def update (k : Account) (s : SessionId) (f : Slip → Slip) : Account :=
  { k with slips := k.slips.modify s f }

/-- The session is neither closed nor invalidated. -/
structure Valid (k : Account) (s : SessionId) (slip : Slip) : Prop where
  held : k.slips[s]? = some slip
  isOpen : slip.closed = false
  current : slip.generation = k.generation

end Account

/-- Whether an answer bears on the account. -/
def Call.bears : (c : Call) → Outcome c.Answer → Bool
  | .createSession _, .ok _ => true
  | .send _ _ _, .ok _ => true
  | .commit _, .ok _ => true
  | .rollback _, .ok _ => true
  | .closeSession _, .ok _ => true
  | _, _ => false

/-- **What a call may answer at a time, and what it does to the account.** -/
inductive Account.Allows (now : Nat) :
    Account → (c : Call) → Outcome c.Answer → Account → Prop where
  | quiet (k : Account) {c : Call} {out : Outcome c.Answer} (h : c.bears out = false) :
      Allows now k c out k
  | opened (k : Account) (c : ConnectionId) :
      Allows now k (.createSession c) (.ok k.slips.length)
        { k with slips := k.slips ++ [⟨k.generation, [], false⟩] }
  | sent (k : Account) (s : SessionId) (topic : String) (message : Message) :
      Allows now k (.send s topic message) (.ok ()) (k.update s (Slip.extended (topic, message)))
  | committed (k : Account) (s : SessionId) {slip : Slip} (h : k.Valid s slip) :
      Allows now k (.commit s) (.ok ()) { k.update s Slip.cleared with
        delivered := k.delivered ++ slip.pending.map (Delivered.of s now) }
  | rolledBack (k : Account) (s : SessionId) :
      Allows now k (.rollback s) (.ok ()) (k.update s Slip.cleared)
  | closed (k : Account) (s : SessionId) :
      Allows now k (.closeSession s) (.ok ()) (k.update s Slip.close)

namespace Account.Allows

variable {now : Nat} {k k' : Account} {c : Call} {out : Outcome c.Answer}

theorem of_eq (hout : c.bears out = false) (hk : k' = k) : Allows now k c out k' :=
  hk ▸ .quiet k' hout

/-- **What has been delivered stays.** -/
theorem delivered_grows (h : Allows now k c out k') : k.delivered <+: k'.delivered := by
  cases h with
  | committed s hv => exact List.prefix_append _ _
  | _ => exact List.prefix_refl _

/-- No session is ever forgotten. -/
theorem slips_le (h : Allows now k c out k') : k.slips.length ≤ k'.slips.length := by
  cases h with
  | quiet => exact Nat.le_refl _
  | opened => exact Nat.le.intro List.length_append.symm
  | _ => exact Nat.le_of_eq (List.length_modify _ _ _).symm

end Account.Allows

/-- How many generations of sessions a trouble invalidates. -/
def Trouble.generations : Trouble → Nat
  | .invalidation => 1
  | _ => 0

namespace Broker

/-- **Of the troubles, only an invalidation touches the account.** -/
theorem account_struck (b : Broker) (t : Trouble) : (b.struck t).account =
    { b.account with generation := b.generation + t.generations } := by
  cases t <;> rfl

/-! ## One call -/

theorem account_updateSession (b : Broker) (s : SessionId) {f : Session → Session}
    {g : Slip → Slip} (h : ∀ session, (f session).slip = g session.slip) :
    (b.updateSession s f).account = b.account.update s g := by
  simp only [account, updateSession, Account.update, map_modify Session.slip h]

/-- What is done to a session without changing its slip leaves the account alone. -/
theorem account_updateSession_same (b : Broker) (s : SessionId) {f : Session → Session}
    (h : ∀ session, (f session).slip = session.slip) :
    (b.updateSession s f).account = b.account := by
  rw [b.account_updateSession s (g := id) h, Account.update, List.modify_id]

/-- A valid session is valid on the account. -/
theorem valid_of_validSession {b : Broker} {s : SessionId} {session : Session}
    (h : b.validSession s = .ok session) : b.account.Valid s session.slip := by
  have hs := sessions_of_validSession h
  rw [validSession, hs] at h
  dsimp only at h
  split at h
  · cases h
  · next hvalid =>
    simp only [Bool.or_eq_true, bne_iff_ne, not_or, Bool.not_eq_true, Decidable.not_not] at hvalid
    refine ⟨?_, hvalid.1, hvalid.2⟩
    simp only [account, List.getElem?_map, hs, Option.map_some]

theorem account_createConnection (b : Broker) : b.createConnection.2.account = b.account := by
  rw [createConnection]
  split <;> rfl

theorem account_start (b : Broker) (c : ConnectionId) : (b.start c).2.account = b.account := by
  rw [start]
  split
  · split <;> rfl
  · rfl

theorem account_createSession (b : Broker) (now : Nat) (c : ConnectionId) :
    b.account.Allows now (.createSession c) (.ofExcept (b.createSession c).1)
      (b.createSession c).2.account := by
  rw [createSession]
  split
  · split
    · exact .quiet _ rfl
    · have hopened : b.account.Allows now (.createSession c) _ _ := .opened b.account c
      simp only [account, List.length_map, List.map_append, List.map_singleton] at hopened ⊢
      exact hopened
  · exact .quiet _ rfl

/-- Declarations and sends leave the account alone before they pause. -/
theorem detached_account : Detached account :=
  ⟨fun _ _ => rfl, fun _ _ => rfl, fun _ _ => rfl, fun _ _ => rfl,
    fun b s => b.account_updateSession_same s (f := Session.begun) fun _ => rfl⟩

/-- A send that is accepted is on a valid session. -/
theorem valid_of_accept {b b' : Broker} {s : SessionId} {topic : String}
    (h : b.accept s topic = (.ok (), b')) : ∃ slip, b.account.Valid s slip := by
  rw [accept] at h
  split at h
  · cases h
  · next session hv => exact ⟨_, valid_of_validSession hv⟩

theorem account_commit (b : Broker) (s : SessionId) (now : Nat) :
    b.account.Allows now (.commit s) (.ofExcept (b.commit s now).1) (b.commit s now).2.account := by
  rw [commit]
  split
  · exact .quiet _ rfl
  · next session hv =>
    split
    · exact .quiet _ rfl
    · have hcommitted : b.account.Allows now (.commit s) _ _ :=
        .committed b.account s (valid_of_validSession hv)
      have hended := b.account_updateSession s (f := Session.ended) (g := Slip.cleared) fun _ => rfl
      rw [← hended] at hcommitted
      exact hcommitted

theorem account_closeSession (b : Broker) (s : SessionId) :
    (b.closeSession s).account = b.account.update s Slip.close := by
  refine b.account_updateSession s fun session => ?_
  rw [Session.close, Slip.close]
  split <;> next hclosed => simp [Session.slip, hclosed]

end Broker

/-! ## Two parts of a call -/

namespace Hub

variable {h h' : Hub} {now : Nat} {c : Call}

/-- **An attempt that is answered does what the account allows.** -/
theorem account_attempt {timed : Timed c.Answer} (ha : h.attempt now c = (some timed, h')) :
    h.account.Allows now c timed.outcome h'.account := by
  cases c with
  | createTopic s name => exact .of_eq rfl (view_attempt Broker.detached_account rfl ha)
  | send s topic message =>
    have hsame := view_attempt Broker.detached_account rfl ha
    rw [attempt] at ha
    split at ha
    · cases ha
      exact .of_eq rfl hsame
    · cases ha
  | lookup name => cases ha; exact .quiet _ rfl
  | createConnection factory => cases ha; exact .of_eq rfl h.broker.account_createConnection
  | start connection => cases ha; exact .of_eq rfl (h.broker.account_start connection)
  | createSession connection => cases ha; exact h.broker.account_createSession now connection
  | commit s => cases ha; exact h.broker.account_commit s now
  | rollback s =>
    cases ha
    have hended := h.broker.account_updateSession s (f := Session.ended) (g := Slip.cleared)
      fun _ => rfl
    change h.account.Allows now (.rollback s) (.ok ())
      (h.broker.updateSession s Session.ended).account
    rw [hended]
    exact .rolledBack h.account s
  | closeSession s =>
    cases ha
    change h.account.Allows now (.closeSession s) (.ok ()) (h.broker.closeSession s).account
    rw [h.broker.account_closeSession s]
    exact .closed h.account s
  | closeConnection connection => cases ha; exact .quiet _ rfl

/-- **A call that pauses leaves the account alone until then**; a send that pauses is on a valid
session. -/
theorem account_pause (ha : h.attempt now c = (none, h')) : h'.account = h.account ∧
    ∀ s topic message, c = .send s topic message → ∃ slip, h.account.Valid s slip := by
  cases c with
  | createTopic s name => exact ⟨view_attempt Broker.detached_account rfl ha, nofun⟩
  | send s topic message =>
    refine ⟨view_attempt Broker.detached_account rfl ha, fun s' topic' message' hc => ?_⟩
    cases hc
    rw [attempt] at ha
    split at ha
    · cases ha
    · next hd => exact Broker.valid_of_accept hd
  | _ => cases ha

/-- **After its pause a call does what the account allows.** -/
theorem account_resume {answer : c.Answer} (now : Nat) (hr : h.resume c = some (answer, h')) :
    h.account.Allows now c (.ok answer) h'.account := by
  cases c with
  | createTopic s name => cases hr; exact .quiet _ rfl
  | send s topic message =>
    cases hr
    have hsent := h.broker.account_updateSession s (f := Session.extended topic message)
      (g := Slip.extended (topic, message)) fun _ => rfl
    change h.account.Allows now _ _
      (h.broker.updateSession s (Session.extended topic message)).account
    rw [hsent]
    exact .sent h.account s topic message
  | _ => cases hr

/-- **A call does what the account allows.** -/
theorem account_call (h : Hub) (limit now : Nat) (c : Call) :
    h.account.Allows now c (h.call limit now c).reply.outcome (h.call limit now c).state.account :=
  call_cases (P := fun out h' => h.account.Allows now c out h'.account) account_attempt
    (fun ha hr => (account_pause ha).1 ▸ account_resume now hr)
    (fun ha => .of_eq (by cases c <;> rfl) (account_pause ha).1) limit

end Hub
end CatalogFeed.Bus
