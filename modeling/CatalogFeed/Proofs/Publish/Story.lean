import CatalogFeed.Proofs.Bus.Condition
import CatalogFeed.Proofs.Publish.Books
import CatalogFeed.Proofs.Script.Transcript

/-!
# Proofs/Publish/Story — how a publish goes

A publish on a hub declares its topic once or twice, on the session that it finds or on one that it
opens, and ends its transaction if the topic has been declared.  Each part of it is described by
what it answers and by how it changes the condition of the hub:

* `Declares`: the declaration of a topic;
* `Finish`: the transaction on a declared topic;
* `Round`: both of them on one session;
* `Story`: the whole publish, with the sessions that it opened and the declarations that it made.

`ensures_send_story`: every publish goes as a story, whatever link and hub it begins with.
-/

namespace CatalogFeed

open Bus (access Broker Call Condition ConnectionId Delivered Hub Outcome SessionId Timed Within)

namespace Bus

/-! ## Milestones -/

/-- What a transcript shows of the sessions of a publish. -/
inductive Milestone where
  /-- A session was opened. -/
  | opened (session : SessionId)
  /-- A topic was declared on a session, with this outcome. -/
  | declared (session : SessionId) (outcome : Outcome String)

/-- The milestone that an exchange is, if it is one. -/
def milestone? : Exchange access → Option Milestone
  | ⟨.call (.createSession _) _, ⟨.ok session, _⟩⟩ => some (.opened session)
  | ⟨.call (.createTopic session _) _, ⟨outcome, _⟩⟩ => some (.declared session outcome)
  | _ => none

/-- The milestones of a transcript, oldest first. -/
def milestones (t : Transcript access) : List Milestone := t.filterMap milestone?

/-- A hub in a condition, with the milestones that a publish has passed. -/
structure Stands (x : Condition) (path : List Milestone) (s : Hub × Transcript access) : Prop where
  condition : s.1.condition = x
  path : milestones s.2 = path

variable {x : Condition} {path : List Milestone} {s : Hub × Transcript access}

/-- Requests are answered by a hub, and written down. -/
abbrev recorded : Contract access (Hub × Transcript access) := .exact Hub.service.recorded

theorem milestones_concat (t : Transcript access) (e : Exchange access) :
    milestones (t ++ [e]) = milestones t ++ (milestone? e).toList := by
  rw [milestones, List.filterMap_append]
  cases h : milestone? e <;> simp [milestones, h]

theorem Stands.answered (h : Stands x path s) {r : Request} {reply : r.Reply}
    {s' : Hub × Transcript access} (hr : r.isHousekeeping = true)
    (ha : recorded.answers r s reply s') :
    Stands x (path ++ (milestone? ⟨r, reply⟩).toList) s' := by
  obtain ⟨now, rfl, rfl⟩ := ha
  refine ⟨(condition_housekeeping hr now s.1).trans h.condition, ?_⟩
  rw [← h.path]
  exact milestones_concat s.2 _

theorem milestone?_createSession {c : ConnectionId} {limit : Nat} {reply : Timed SessionId}
    {id : SessionId} (h : reply.outcome = .ok id) :
    milestone? ⟨.call (.createSession c) limit, reply⟩ = some (.opened id) := by
  obtain ⟨out, spent⟩ := reply
  obtain rfl : out = .ok id := h
  rfl

/-- A request for opening or closing that is no milestone leaves everything as it stands. -/
theorem Stands.kept (h : Stands x path s) {r : Request} {reply : r.Reply}
    {s' : Hub × Transcript access} (hr : r.isHousekeeping = true)
    (hm : milestone? ⟨r, reply⟩ = none) (ha : recorded.answers r s reply s') :
    Stands x path s' := by
  have h' := h.answered hr ha
  rw [hm, Option.toList_none, List.append_nil] at h'
  exact h'

end Bus

namespace Publisher

open Bus (Condition Milestone Stands milestone? milestones recorded)
open Publishing (Ensures)

variable {p : Publisher} {a : Announcement} {x : Condition} {path : List Milestone}
  {s : Hub × Transcript access} {l : Link} {id : SessionId}

/-! ## Opening and closing -/

/-- A call for opening or closing that is no milestone leaves everything as it stands, whatever it
answers. -/
theorem gives_standing (h : Stands x path s) {c : Call} {Q : c.Answer → Prop}
    (hk : ∀ limit, Bus.Request.isHousekeeping (.call c limit) = true)
    (hm : ∀ limit reply, milestone? ⟨.call c limit, reply⟩ = none)
    (hout : ∀ limit now v, (s.1.call limit now c).reply.outcome = .ok v → Q v) :
    Within.Gives recorded (Stands x path) (fun v _ => Q v) (.call c) s := by
  refine Within.gives_call trivial
    (fun limit reply _ hr => ⟨trivial, h.kept (hk limit) (hm limit reply) hr⟩) ?_
  rintro limit reply s' v ⟨now, rfl, -⟩ hv
  exact hout limit now v hv

/-- The same, if it is answered with success. -/
theorem succeeds_standing (h : Stands x path s) {c : Call} {Q : c.Answer → Hub → Prop}
    (hk : ∀ limit, Bus.Request.isHousekeeping (.call c limit) = true)
    (hm : ∀ limit reply, milestone? ⟨.call c limit, reply⟩ = none)
    (hout : ∀ limit now, ∃ v, (s.1.call limit now c).reply.outcome = .ok v ∧
      Q v (s.1.call limit now c).state) :
    Within.Succeeds recorded (fun v s' => Stands x path s' ∧ Q v s'.1) (.call c) s := by
  refine Within.succeeds_call trivial fun limit reply s' hr => ⟨trivial, ?_⟩
  have h' := h.kept (hk limit) (hm limit reply) hr
  obtain ⟨now, rfl, rfl⟩ := hr
  obtain ⟨v, hv, hq⟩ := hout limit now
  exact ⟨v, hv, h', hq⟩

theorem ensures_releaseLink_stands (h : Stands x path s) :
    Ensures recorded (fun _ l' s' => l' = {} ∧ Stands x path s') p.releaseLink l s :=
  ensures_releaseLink_by p l trivial (fun _ => h)
    (fun _ _ => gives_standing h (fun _ => rfl) (fun _ _ => rfl) fun _ _ _ _ => trivial)
    (fun _ h' _ => h')
    fun _ _ _ h' _ => gives_standing h' (fun _ => rfl) (fun _ _ => rfl) fun _ _ _ _ => trivial

theorem succeeds_observe_stands {c : ConnectionId} (h : Stands x path s) (hs : s.1.Started c) :
    Within.Succeeds recorded (fun _ s' => Stands x path s' ∧ s'.1.Started c) (.observe c) s := by
  refine Within.succeeds_observe trivial fun _ s' hr => ⟨trivial, h.kept rfl rfl hr, ?_⟩
  obtain ⟨now, -, rfl⟩ := hr
  exact hs.observe .publisher

theorem succeeds_createSession_opened {c : ConnectionId} (h : Stands x path s)
    (hs : s.1.Started c) :
    Within.Succeeds recorded
      (fun id s' => Stands x (path ++ [.opened id]) s' ∧ s'.1.Valid id [])
      (.call (.createSession c)) s := by
  refine Within.succeeds_call trivial fun limit reply s' hr => ⟨trivial, ?_⟩
  have h' := h.answered rfl hr
  obtain ⟨now, hreply, rfl⟩ := hr
  obtain ⟨id, hout, hvalid⟩ := hs.createSession
  have hopened : reply.outcome = .ok id := by
    rw [hreply]
    exact congrArg Outcome.ofExcept hout
  rw [Bus.milestone?_createSession hopened] at h'
  exact ⟨id, hopened, h', hvalid⟩

/-- **If a connection can be opened**, a session is. -/
theorem succeeds_establish_opened (h : Stands x path s) (ho : x.Opens p.factoryName) :
    Within.Succeeds recorded
      (fun v s' => Stands x (path ++ [.opened v.2]) s' ∧ s'.1.Valid v.2 []) p.establish s := by
  have hlookup := succeeds_standing h (c := .lookup p.factoryName) (Q := fun _ _ => True)
    (fun _ => rfl) (fun _ _ => rfl) fun limit now =>
      ((Hub.lookup_ok_iff limit now h.condition).mpr ho.2).imp fun _ hout => ⟨hout, trivial⟩
  refine hlookup.bind fun factory s hs => ?_
  obtain ⟨h, -⟩ := hs
  obtain ⟨c, hout, hcon⟩ := Hub.createConnection_reachable h.condition ho.1
  have hconnect := succeeds_standing h (c := .createConnection factory)
    (Q := fun c h => h.Connected c) (fun _ => rfl) (fun _ _ => rfl)
    fun _ _ => ⟨c, congrArg Outcome.ofExcept hout, hcon⟩
  refine hconnect.bind fun c s hs => ?_
  obtain ⟨h, hcon⟩ := hs
  have hstart := succeeds_standing h (c := .start c) (Q := fun _ h => h.Started c)
    (fun _ => rfl) (fun _ _ => rfl)
    fun _ _ => ⟨(), congrArg Outcome.ofExcept hcon.start.1, hcon.start.2⟩
  refine hstart.bind fun _ s hs => (succeeds_observe_stands hs.1 hs.2).bind fun _ s hs => ?_
  exact (succeeds_createSession_opened hs.1 hs.2).bind fun _ _ hid =>
    Within.succeeds_pure trivial hid

theorem ensures_openLink_opened (h : Stands x path s) (ho : x.Opens p.factoryName) :
    Ensures recorded (fun _ l' s' => ∃ c id, l' = ⟨some c, some id⟩ ∧
      Stands x (path ++ [.opened id]) s' ∧ s'.1.Valid id []) p.openLink l s := by
  refine ensures_openLink_by ((succeeds_establish_opened h ho).run p.connectLimit) ?opened ?nothing
  case opened =>
    rintro r s' ⟨v, hv, hid⟩
    cases hv
    exact ⟨r.1, r.2, rfl, hid⟩
  case nothing =>
    rintro out s' hout ⟨v, hv, -⟩
    exact (hout v hv).elim

/-- **If none can be opened**, none is: the factory is not found, or gives no connection. -/
theorem gives_establish_nothing (h : Stands x path s) (ho : ¬ x.Opens p.factoryName) :
    Within.Gives recorded (Stands x path) (fun _ _ => False) p.establish s := by
  have hlookup := gives_standing h (c := .lookup p.factoryName)
    (Q := fun _ => (x.directory.lookup p.factoryName).isOk = true) (fun _ => rfl) (fun _ _ => rfl)
    fun limit now factory hout => (Hub.lookup_ok_iff limit now h.condition).mp ⟨factory, hout⟩
  refine hlookup.bind fun factory s h hbound => ?_
  have hu : x.unreachable = true := (Bool.not_eq_false _).mp fun hu => ho ⟨hu, hbound⟩
  obtain ⟨e, he⟩ := Hub.createConnection_unreachable h.condition hu
  have hconnect := gives_standing h (c := .createConnection factory) (Q := fun _ => False)
    (fun _ => rfl) (fun _ _ => rfl) fun _ _ _ hout => by
      cases hout.symm.trans (congrArg Outcome.ofExcept he)
  exact hconnect.bind fun _ _ _ h => h.elim

theorem ensures_openLink_unopened (h : Stands x path s) (ho : ¬ x.Opens p.factoryName) :
    Ensures recorded (fun _ l' s' => l' = l ∧ Stands x path s') p.openLink l s := by
  exact ensures_openLink_by ((gives_establish_nothing h ho).run p.connectLimit)
    (fun v _ h' => (h'.2 v rfl).elim) fun _ _ _ h' => ⟨rfl, h'.1⟩

/-! ## One step -/

/-- **One step of a publish** is one call, and a declaration is a milestone. -/
theorem ensures_step_milestone {c : Call}
    {Q : Except Error c.Answer → Link → Hub × Transcript access → Prop}
    (h : milestones s.2 = path)
    (hstep : ∀ now s', s'.1 = (s.1.call p.sendLimit now c).state →
      milestones s'.2 =
        path ++ (milestone? ⟨.call c p.sendLimit, (s.1.call p.sendLimit now c).reply⟩).toList →
      Q (p.verdict (s.1.call p.sendLimit now c).reply.outcome) l s') :
    Ensures recorded Q (p.step c) l s := by
  refine (ensures_step p c Q l s).mpr ⟨trivial, ?_⟩
  subst h
  rintro reply s' ⟨now, rfl, rfl⟩
  exact ⟨trivial, hstep now _ rfl (Bus.milestones_concat s.2 _)⟩

theorem ensures_discard_stands (h : Stands x path s) (e : Error) :
    Ensures recorded (fun _ l' s' => l' = {} ∧ Stands x path s') (p.discard e) l s := by
  simp only [discard, Publishing.ensures_bind, Publishing.ensures_note]
  exact ⟨trivial, ensures_releaseLink_stands h⟩

/-- **A poisoned session is given up.** -/
theorem ensures_abandon_poisoned (h : Stands x path s) {e : Error} (he : e.poisonsSession = true) :
    Ensures recorded (fun _ l' s' => l' = {} ∧ Stands x path s') (p.abandon e) l s := by
  rw [abandon, if_pos he]
  exact ensures_discard_stands h e

/-- **Any other is kept**, and its transaction rolled back. -/
theorem ensures_abandon_trusted (h : Stands x path s) {e : Error} (he : e.poisonsSession = false)
    (hl : l.session = some id) :
    Ensures recorded (fun _ l' s' => l' = l ∧
      Stands { x with rollbacks := x.rollbacks + 1 } path s') (p.abandon e) l s := by
  simp only [abandon, he, Bool.false_eq_true, if_false, Publishing.ensures_bind,
    Publishing.ensures_current, hl]
  refine ⟨trivial, ensures_step_milestone h.path fun now s' hs' hm => ?_⟩
  obtain ⟨-, hcondition⟩ := Hub.rollback_counted p.sendLimit now id h.condition
  rw [← hs'] at hcondition
  exact ⟨trivial, rfl, hcondition, hm.trans (List.append_nil _)⟩

/-! ## A transaction on a declared topic -/

/-- How a transaction on a declared topic ends, from a condition to a condition. -/
inductive Finish (a : Announcement) (x : Condition) : Except Error Delivery → Condition → Prop
  /-- The send is refused, and the transaction rolled back. -/
  | rejected (e : Error) (hf : x.sendFailures ≠ 0) :
      Finish a x (.error e)
        { x with sendFailures := x.sendFailures - 1, rollbacks := x.rollbacks + 1 }
  /-- The commit is refused, and the transaction rolled back. -/
  | uncommitted (e : Error) (hf : x.sendFailures = 0) (hc : x.commitFailures ≠ 0) :
      Finish a x (.error e)
        { x with commitFailures := x.commitFailures - 1, rollbacks := x.rollbacks + 1 }
  | committed (d : Delivered) (hf : x.sendFailures = 0) (hc : x.commitFailures = 0)
      (hd : d.content = a.content) :
      Finish a x (.ok .delivered) { x with delivered := x.delivered ++ [d] }

/-- **A transaction on a declared topic ends** as the failures set up for it say. -/
theorem ensures_deliver_finish (h : Stands x path s) (hv : s.1.Valid id [])
    (hpause : x.pause ≤ p.sendLimit) (hl : l.session = some id) :
    Ensures recorded (fun r l' s' => l' = l ∧ ∃ y, Finish a x r y ∧ Stands y path s')
      (p.deliver a id a.topic) l s := by
  rw [deliver, Publishing.ensures_bind]
  refine ensures_step_milestone h.path fun now s₁ hs₁ hm₁ => ?_
  by_cases hf : x.sendFailures = 0
  · obtain ⟨hout, hcondition, hv₁⟩ := Hub.send_taken a.topic (a.payload.message a.tag)
      p.sendLimit now h.condition hv hf hpause
    rw [← hs₁] at hcondition hv₁
    simp only [hout, verdict, Publishing.ensures_bind]
    refine ensures_step_milestone (hm₁.trans (List.append_nil _)) fun now s₂ hs₂ hm₂ => ?_
    by_cases hc : x.commitFailures = 0
    · obtain ⟨hout, hcondition⟩ := Hub.commit_taken p.sendLimit now hcondition hv₁ hc
      rw [← hs₂] at hcondition
      simp only [hout, verdict]
      exact ⟨trivial, rfl, _, .committed _ hf hc rfl, hcondition, hm₂.trans (List.append_nil _)⟩
    · obtain ⟨e, hout, he, hcondition⟩ := Hub.commit_refused p.sendLimit now hcondition hv₁ hc
      rw [← hs₂] at hcondition
      simp only [hout, verdict]
      rw [ensures_abandon_error]
      refine (ensures_abandon_trusted ⟨hcondition, hm₂.trans (List.append_nil _)⟩ he hl).mono
        fun _ l' s' _ h' => ?_
      exact ⟨h'.1, _, .uncommitted e hf hc, h'.2⟩
  · obtain ⟨e, hout, he, hcondition⟩ := Hub.send_refused a.topic (a.payload.message a.tag)
      p.sendLimit now h.condition hv hf
    rw [← hs₁] at hcondition
    simp only [hout, verdict]
    rw [ensures_abandon_error]
    refine (ensures_abandon_trusted ⟨hcondition, hm₁.trans (List.append_nil _)⟩ he hl).mono
      fun _ l' s' _ h' => ?_
    exact ⟨h'.1, _, .rejected e hf, h'.2⟩

/-! ## The declaration of a topic -/

/-- How the declaration of a topic on a session is answered, from a condition to a condition. -/
inductive Declares (p : Publisher) (usable : Prop) (x : Condition) :
    Outcome String → Condition → Prop
  /-- A stale signal is used up, whether the session is stale or not. -/
  | signalled (e : Error) (hs : x.staleSignals ≠ 0) (he : e.isSessionInvalid = true) :
      Declares p usable x (.error e) { x with staleSignals := x.staleSignals - 1 }
  | stale (e : Error) (hs : x.staleSignals = 0) (hv : ¬ usable) (he : e.isSessionInvalid = true) :
      Declares p usable x (.error e) x
  | late (hs : x.staleSignals = 0) (hv : usable) (ht : p.sendLimit < x.pause) :
      Declares p usable x .silent x
  | done (topic : String) (hs : x.staleSignals = 0) (hv : usable) (ht : x.pause ≤ p.sendLimit) :
      Declares p usable x (.ok topic) x

/-- **A topic is declared** as the condition and the session say. -/
theorem ensures_declare (h : Stands x path s) (hfree : s.1.Unburdened id) :
    Ensures recorded (fun r l' s' => l' = l ∧ ∃ out y,
        Declares p (s.1.Usable id) x out y ∧ r = p.verdict out ∧
        Stands y (path ++ [.declared id out]) s' ∧
        ∀ topic, out = .ok topic → topic = a.topic ∧ s'.1.Valid id [])
      (p.step (.createTopic id a.topic)) l s := by
  refine ensures_step_milestone (c := .createTopic id a.topic) h.path
    fun now s' hs' hm =>
      ⟨rfl, (s.1.call p.sendLimit now (.createTopic id a.topic)).reply.outcome, ?_⟩
  by_cases hs : x.staleSignals = 0
  · by_cases hv : s.1.Usable id
    · obtain ⟨hout, hcondition, hv'⟩ := Hub.declare_valid a.topic p.sendLimit now h.condition hs
        (hfree.valid hv)
      rw [← hs'] at hcondition hv'
      refine ⟨x, ?_, rfl, ⟨hcondition, hm⟩, fun topic htopic => ?_⟩
      · rw [hout]
        split
        · next ht => exact .done _ hs hv ht
        · next ht => exact .late hs hv (Nat.lt_of_not_le ht)
      · rw [hout] at htopic
        split at htopic <;> cases htopic
        exact ⟨rfl, hv'⟩
    · obtain ⟨e, hout, he, hcondition⟩ :=
        Hub.declare_stale a.topic p.sendLimit now h.condition hs hv
      rw [← hs'] at hcondition
      refine ⟨x, ?_, rfl, ⟨hcondition, hm⟩, fun topic htopic => ?_⟩
      · rw [hout]
        exact .stale e hs hv he
      · cases hout.symm.trans htopic
  · obtain ⟨e, hout, he, hcondition⟩ :=
      Hub.declare_signalled a.topic p.sendLimit now id h.condition hs
    rw [← hs'] at hcondition
    refine ⟨_, ?_, rfl, ⟨hcondition, hm⟩, fun topic htopic => ?_⟩
    · rw [hout]
      exact .signalled e hs he
    · cases hout.symm.trans htopic

/-- An answer other than success to a declaration poisons the session. -/
theorem Declares.poisonsSession {usable : Prop} {out : Outcome String} {y : Condition} {e : Error}
    (h : Declares p usable x out y) (he : p.verdict out = .error e) : e.poisonsSession = true := by
  cases h with
  | signalled e' _ he' =>
    cases he
    exact Error.poisonsSession_of_isSessionInvalid he'
  | stale e' _ _ he' =>
    cases he
    exact Error.poisonsSession_of_isSessionInvalid he'
  | late =>
    cases he
    rfl
  | done => cases he

/-! ## A publish on one session -/

/-- How a publish goes on a session that is not to be replaced any more. -/
inductive Round (p : Publisher) (a : Announcement) (usable : Prop) (x : Condition) (l : Link) :
    Outcome String → Except Error Delivery → Link → Condition → Prop
  | finished {topic : String} {r : Except Error Delivery} {y z : Condition}
      (hd : Declares p usable x (.ok topic) y) (hf : Finish a y r z) :
      Round p a usable x l (.ok topic) r l z
  | discarded {out : Outcome String} {y : Condition} (e : Error)
      (hd : Declares p usable x out y) (hout : p.verdict out = .error e) :
      Round p a usable x l out (.error e) {} y

/-- **Without a declared topic**, a publish is given up. -/
theorem Round.ensures_abandon {usable : Prop} {out : Outcome String} {y : Condition} {e : Error}
    (a : Announcement) (hd : Declares p usable x out y) (h : Stands y path s)
    (hout : p.verdict out = .error e) :
    Ensures recorded (fun r l' s' => ∃ z, Round p a usable x l out r l' z ∧ Stands z path s')
      (do p.abandon e; return .error e) l s := by
  rw [ensures_abandon_error]
  refine (ensures_abandon_poisoned h (hd.poisonsSession hout)).mono fun _ l' s' _ h' => ?_
  obtain ⟨rfl, h'⟩ := h'
  exact ⟨y, .discarded e hd hout, h'⟩

/-- **On a declared topic**, it goes on. -/
theorem Round.ensures_deliver {usable : Prop} {y : Condition}
    (hd : Declares p usable x (.ok a.topic) y) (h : Stands y path s) (hv : s.1.Valid id [])
    (hl : l.session = some id) :
    Ensures recorded (fun r l' s' => ∃ z, Round p a usable x l (.ok a.topic) r l' z ∧
      Stands z path s') (p.deliver a id a.topic) l s := by
  have hpause : y.pause ≤ p.sendLimit := by
    cases hd with
    | done _ _ _ ht => exact ht
  refine (ensures_deliver_finish h hv hpause hl).mono fun r l' s' _ h' => ?_
  obtain ⟨rfl, z, hz, h'⟩ := h'
  exact ⟨z, .finished hd hz, h'⟩

/-! ## A whole publish -/

/-- How a publish comes by a session: the link that holds it, whether it is usable, and the
milestones on the way. -/
inductive Begins (p : Publisher) (l : Link) (usable : Prop) (x : Condition) :
    Link → SessionId → Prop → List Milestone → Prop
  | held (id : SessionId) (hl : l.session = some id) : Begins p l usable x l id usable []
  | opened (c : ConnectionId) (id : SessionId) (hl : l.session = none)
      (ho : x.Opens p.factoryName) :
      Begins p l usable x ⟨some c, some id⟩ id True [.opened id]

/-- **How a publish can go**: what it ends with, the link and the condition that it leaves, and its
milestones. -/
inductive Story (p : Publisher) (a : Announcement) (l : Link) (usable : Prop) (x : Condition) :
    Except Error Delivery → Link → Condition → List Milestone → Prop
  /-- No session was held, and none could be opened. -/
  | unopened (hl : l.session = none) (ho : ¬ x.Opens p.factoryName) :
      Story p a l usable x (.ok .failed) l x []
  /-- The first session was not reported stale. -/
  | settled {l₁ l' : Link} {id : SessionId} {usable₁ : Prop} {before : List Milestone}
      {out : Outcome String} {r : Except Error Delivery} {y : Condition}
      (hb : Begins p l usable x l₁ id usable₁ before) (hr : Round p a usable₁ x l₁ out r l' y)
      (hout : ∀ e, out = .error e → e.isSessionInvalid = false) :
      Story p a l usable x r l' y (before ++ [.declared id out])
  /-- The first session was reported stale, and no other could be opened. -/
  | stranded {l₁ : Link} {id : SessionId} {usable₁ : Prop} {before : List Milestone}
      {e : Error} {y : Condition} (e' : Error)
      (hb : Begins p l usable x l₁ id usable₁ before) (hd : Declares p usable₁ x (.error e) y)
      (ho : ¬ x.Opens p.factoryName) :
      Story p a l usable x (.error e') {} y (before ++ [.declared id (.error e)])
  /-- The first session was reported stale, and the publish went on on a second one. -/
  | again {l₁ l' : Link} {id id' : SessionId} {c : ConnectionId} {usable₁ : Prop}
      {before : List Milestone} {e : Error} {out : Outcome String} {r : Except Error Delivery}
      {y z : Condition}
      (hb : Begins p l usable x l₁ id usable₁ before) (hd : Declares p usable₁ x (.error e) y)
      (ho : x.Opens p.factoryName)
      (hr : Round p a True y ⟨some c, some id'⟩ out r l' z) :
      Story p a l usable x r l' z
        (before ++ [.declared id (.error e), .opened id', .declared id' out])

theorem Declares.isSessionInvalid {usable : Prop} {y : Condition} {e : Error}
    (h : Declares p usable x (.error e) y) : e.isSessionInvalid = true := by
  cases h <;> assumption

/-- **A declaration uses up one stale signal**, if there is one, and changes nothing else. -/
theorem Declares.condition {usable : Prop} {out : Outcome String} {y : Condition}
    (h : Declares p usable x out y) : y = { x with staleSignals := x.staleSignals - 1 } := by
  have hnone : x.staleSignals = 0 → x = { x with staleSignals := x.staleSignals - 1 } := by
    intro hs
    simp only [hs, Nat.zero_sub]
    rw [← hs]
  cases h with
  | signalled => rfl
  | stale _ hs => exact hnone hs
  | late hs => exact hnone hs
  | done _ hs => exact hnone hs

theorem Declares.of_usable {usable : Prop} {out : Outcome String} {y : Condition}
    (h : Declares p usable x out y) (hu : usable) : Declares p True x out y := by
  cases h with
  | signalled e hs he => exact .signalled e hs he
  | stale e hs hv he => exact absurd hu hv
  | late hs _ ht => exact .late hs trivial ht
  | done topic hs _ ht => exact .done topic hs trivial ht

/-- **A session that was reported stale is replaced**, if another can be opened. -/
theorem ensures_retry_story (h : Stands x path s) :
    Ensures recorded (fun r l' s' =>
      (∃ e, r = .error e ∧ ¬ x.Opens p.factoryName ∧ l' = {} ∧ Stands x path s') ∨
      ∃ c id out z, x.Opens p.factoryName ∧ Round p a True x ⟨some c, some id⟩ out r l' z ∧
        Stands z (path ++ [.opened id, .declared id out]) s') (p.retry a) l s := by
  simp only [retry, reconnect, Publishing.ensures_bind]
  refine (ensures_releaseLink_stands h).mono fun _ l₁ s₁ _ hrel => ?_
  obtain ⟨rfl, h₁⟩ := hrel
  by_cases ho : x.Opens p.factoryName
  · rw [Publishing.ensures_bind]
    refine (ensures_openLink_opened h₁ ho).mono fun _ l₂ s₂ _ hopen => ?_
    obtain ⟨c, id, rfl, h₂, hv⟩ := hopen
    simp only [Publishing.ensures_current, Publishing.ensures_bind]
    refine ⟨trivial, (ensures_declare h₂ hv.unburdened).mono fun r l₃ s₃ _ hd => ?_⟩
    obtain ⟨rfl, out, y, hd, rfl, h₃, hok⟩ := hd
    have hd := hd.of_usable hv.usable
    rw [List.append_assoc] at h₃
    cases hverdict : p.verdict out with
    | ok topic =>
      obtain rfl := verdict_eq_ok hverdict
      obtain ⟨rfl, hv₃⟩ := hok topic rfl
      refine (Round.ensures_deliver hd h₃ hv₃ rfl).mono fun r l' s' _ h' => ?_
      obtain ⟨z, hr, hz⟩ := h'
      exact Or.inr ⟨c, id, _, z, ho, hr, hz⟩
    | error e =>
      refine (Round.ensures_abandon a hd h₃ hverdict).mono fun r l' s' _ h' => ?_
      obtain ⟨z, hr, hz⟩ := h'
      exact Or.inr ⟨c, id, _, z, ho, hr, hz⟩
  · rw [Publishing.ensures_bind]
    refine (ensures_openLink_unopened h₁ ho).mono fun _ l₂ s₂ _ hopen => ?_
    obtain ⟨rfl, h₂⟩ := hopen
    exact ⟨trivial, trivial, Or.inl ⟨_, rfl, ho, rfl, h₂⟩⟩

/-- **A publish begins** on the session that is held, or on a new one. -/
theorem ensures_session_begins (h : Stands x path s)
    (hl : ∀ id, l.session = some id → s.1.Unburdened id) :
    Ensures recorded (fun held l₁ s₁ =>
      (held = none ∧ l.session = none ∧ ¬ x.Opens p.factoryName ∧ l₁ = l ∧ Stands x path s₁) ∨
      ∃ id usable before, held = some id ∧ l₁.session = some id ∧
        Begins p l (∃ id, l.session = some id ∧ s.1.Usable id) x l₁ id usable before ∧
        Stands x (path ++ before) s₁ ∧ s₁.1.Unburdened id ∧ (s₁.1.Usable id ↔ usable))
      p.session l s := by
  simp only [session, Publishing.ensures_bind, Publishing.ensures_current]
  refine ⟨trivial, ?_⟩
  cases hsession : l.session with
  | some id =>
    refine ⟨trivial, Or.inr ⟨id, _, [], hsession, hsession, .held id hsession, ?_,
      hl id hsession, ?_⟩⟩
    · rwa [List.append_nil]
    · simp
  | none =>
    simp only [Option.isNone_none, if_true, Publishing.ensures_bind]
    by_cases ho : x.Opens p.factoryName
    · refine (ensures_openLink_opened h ho).mono fun _ l₁ s₁ _ hopen => ?_
      obtain ⟨c, id, rfl, h₁, hv⟩ := hopen
      exact ⟨trivial, Or.inr ⟨id, True, [.opened id], rfl, rfl, .opened c id hsession ho, h₁,
        hv.unburdened, iff_true_intro hv.usable⟩⟩
    · refine (ensures_openLink_unopened h ho).mono fun _ l₁ s₁ _ hopen => ?_
      obtain ⟨rfl, h₁⟩ := hopen
      exact ⟨trivial, Or.inl ⟨hsession, trivial, ho, rfl, h₁⟩⟩

/-- **Every publish goes as a story.** -/
theorem ensures_trySend_story (h : Stands x path s)
    (hl : ∀ id, l.session = some id → s.1.Unburdened id) :
    Ensures recorded (fun r l' s' => ∃ y after,
        Story p a l (∃ id, l.session = some id ∧ s.1.Usable id) x r l' y after ∧
        Stands y (path ++ after) s') (p.trySend a) l s := by
  rw [trySend, Publishing.ensures_bind]
  refine (ensures_session_begins h hl).mono fun held l₁ s₁ _ hheld => ?_
  obtain ⟨rfl, hnone, hu, rfl, h₁⟩ | ⟨id, usable, before, rfl, hid, hb, h₁, hfree, husable⟩ := hheld
  · rw [Publishing.ensures_bind, Publishing.ensures_note]
    refine ⟨trivial, trivial, x, [], .unopened hnone hu, ?_⟩
    rwa [List.append_nil]
  · rw [Publishing.ensures_bind]
    refine (ensures_declare h₁ hfree).mono fun r l₂ s₂ _ hd => ?_
    obtain ⟨rfl, out, y, hd, rfl, h₂, hok⟩ := hd
    rw [husable] at hd
    rw [List.append_assoc] at h₂
    cases hverdict : p.verdict out with
    | ok topic =>
      obtain rfl := verdict_eq_ok hverdict
      obtain ⟨rfl, hv₂⟩ := hok topic rfl
      refine (Round.ensures_deliver hd h₂ hv₂ hid).mono fun r l' s' _ h' => ?_
      obtain ⟨z, hr, hz⟩ := h'
      exact ⟨z, _, .settled hb hr (by rintro e ⟨⟩), hz⟩
    | error e =>
      -- a session that is reported stale is replaced, any other error ends the publish
      by_cases he : e.isSessionInvalid = true
      · obtain rfl := eq_error_of_verdict hverdict he
        simp only [he, if_true, Publishing.ensures_bind, Publishing.ensures_note]
        have hopens : y.Opens p.factoryName ↔ x.Opens p.factoryName := by rw [hd.condition]; rfl
        refine ⟨trivial, (ensures_retry_story h₂).mono fun r l' s' _ h' => ?_⟩
        rw [hopens] at h'
        obtain ⟨e', rfl, hu, rfl, hz⟩ | ⟨c, id', out', z, hu, hr, hz⟩ := h'
        · exact ⟨y, _, .stranded e' hb hd hu, hz⟩
        · rw [List.append_assoc, List.append_assoc] at hz
          exact ⟨z, _, .again hb hd hu hr, hz⟩
      · simp only [he, Bool.false_eq_true, if_false]
        refine (Round.ensures_abandon a hd h₂ hverdict).mono fun r l' s' _ h' => ?_
        obtain ⟨z, hr, hz⟩ := h'
        refine ⟨z, _, .settled hb hr fun e' he' => ?_, hz⟩
        subst he'
        cases hverdict
        simpa using he

/-- What is reported of a publish. -/
def reported : Except Error Delivery → Delivery
  | .ok delivery => delivery
  | .error _ => .failed

/-- **…and the error that it ends with is reported as a failure.** -/
theorem ensures_send_story (h : Stands x path s)
    (hl : ∀ id, l.session = some id → s.1.Unburdened id) :
    Ensures recorded (fun d l' s' => ∃ r y after,
        Story p a l (∃ id, l.session = some id ∧ s.1.Usable id) x r l' y after ∧
        d = reported r ∧ Stands y (path ++ after) s') (p.send a) l s := by
  rw [send, Publishing.ensures_bind]
  refine (ensures_trySend_story h hl).mono fun r l' s' _ h' => ?_
  obtain ⟨y, after, hstory, hstands⟩ := h'
  cases r with
  | ok d => exact ⟨trivial, _, y, after, hstory, rfl, hstands⟩
  | error e => exact ⟨trivial, _, y, after, hstory, rfl, hstands⟩

end Publisher

end CatalogFeed
