import CatalogFeed.Proofs.Publish.Rules

/-!
# Proofs/Publish/Outline — what is known at each point of one publish

An `Outline` gives one assertion for each point of a publish and says how the answers of the bus
lead from one to the next.  Every outline carries through the whole of `Publisher.send`:

    idle 0 ──declare──▸ declared ──send──▸ queued ──commit──▸ delivered, settled
      │ stale                │ fails           │ fails
      ▾                      ▾                 ▾
    idle 1 ──declare──▸ …   lost, and settled after a rollback, else no session

* `Outline.ensures_send`: a publish ends delivered or lost, and the session that is still held at
  the end is settled.
-/

namespace CatalogFeed

open Bus (access Call SessionId Outcome)

/-- Whether a call was answered with success. -/
def Bus.Outcome.isOk {α : Type} : Outcome α → Bool
  | .ok _ => true
  | _ => false

/-- What is known at each point of the publish of `a`, under the contract `K`. -/
structure Outline {σ : Type} (K : Contract access σ) (a : Announcement) where
  /-- After `n` declarations that failed. -/
  idle : Nat → σ → Prop
  /-- A publish can begin on the session. -/
  ready : SessionId → σ → Prop
  declared : SessionId → String → σ → Prop
  queued : SessionId → σ → Prop
  /-- Nothing more will come of this publish. -/
  lost : σ → Prop
  delivered : σ → Prop
  /-- The transaction of the session can be rolled back. -/
  trusted : SessionId → σ → Prop
  /-- The session can be left to the next publish. -/
  settled : SessionId → σ → Prop

namespace Outline

variable {σ : Type} {K : Contract access σ} {a : Announcement}

/-- A step on session `id` failed: the publish is lost, and the session still trusted unless the
failure poisons it. -/
def Fails (o : Outline K a) (id : SessionId) {α : Type} (out : Outcome α) (s : σ) : Prop :=
  out.isOk = false ∧ o.lost s ∧ ∀ e, out = .error e → e.poisonsSession = false → o.trusted id s

/-- The answers lead from each assertion to the next. -/
structure Sound (o : Outline K a) : Prop where
  idle_sheltered : ∀ n, Publisher.Sheltered K (o.idle n)
  lost_sheltered : Publisher.Sheltered K o.lost
  declared_holds : ∀ {id topic s}, o.declared id topic s → K.holds s
  queued_holds : ∀ {id s}, o.queued id s → K.holds s
  delivered_holds : ∀ {s}, o.delivered s → K.holds s
  lost_of_idle : ∀ {n s}, o.idle n s → o.lost s
  created : ∀ {n c limit s reply s' id}, o.idle n s →
    K.answers (.call (.createSession c) limit) s reply s' → reply.outcome = .ok id →
    o.ready id s'
  declare : ∀ {n id limit s reply s'}, n < 2 → o.idle n s → o.ready id s →
    K.answers (.call (.createTopic id a.topic) limit) s reply s' →
    (∃ topic, reply.outcome = .ok topic ∧ o.declared id topic s') ∨
      o.idle (n + 1) s' ∧ o.Fails id reply.outcome s'
  send : ∀ {id topic limit s reply s'}, o.declared id topic s →
    K.answers (.call (.send id topic (a.payload.message a.tag)) limit) s reply s' →
    reply.outcome = .ok () ∧ o.queued id s' ∨ o.Fails id reply.outcome s'
  commit : ∀ {id limit s reply s'}, o.queued id s →
    K.answers (.call (.commit id) limit) s reply s' →
    reply.outcome = .ok () ∧ o.delivered s' ∧ o.settled id s' ∨ o.Fails id reply.outcome s'
  rollback : ∀ {id limit s reply s'}, o.lost s → o.trusted id s →
    K.answers (.call (.rollback id) limit) s reply s' →
    o.lost s' ∧ (reply.outcome = .ok () → o.settled id s')

/-! ## The whole of a publish -/

open Publishing (Ensures)

/-- Whatever session the link still holds is settled. -/
def Left (o : Outline K a) (l : Link) (s : σ) : Prop := ∀ id, l.session = some id → o.settled id s

/-- How a publish ends. -/
def Ends (o : Outline K a) (result : Except Error Delivery) (l : Link) (s : σ) : Prop :=
  o.Left l s ∧ (result = .ok .delivered ∧ o.delivered s ∨
    (result = .ok .failed ∨ ∃ e, result = .error e) ∧ o.lost s)

variable {o : Outline K a}

theorem Fails.verdict {id : SessionId} {α : Type} {out : Outcome α} {s : σ} (h : o.Fails id out s)
    (p : Publisher) :
    ∃ e, p.verdict out = .error e ∧ (e.poisonsSession = false → o.trusted id s) := by
  obtain ⟨hout, -, ht⟩ := h
  cases out with
  | ok v => cases hout
  | error e => exact ⟨e, rfl, ht e rfl⟩
  | silent => exact ⟨_, rfl, fun hp => absurd hp (by simp)⟩

theorem Sound.ensures_discard (ho : o.Sound) (p : Publisher) (e : Error) (l : Link) {s : σ}
    (h : o.lost s) : Ensures K (fun _ l' s' => o.Left l' s' ∧ o.lost s') (p.discard e) l s := by
  simp only [Publisher.discard, Publishing.ensures_bind, Publishing.ensures_note]
  refine ⟨ho.lost_sheltered.holds s h, ?_⟩
  refine (Publisher.ensures_releaseLink ho.lost_sheltered p l h).mono fun _ l' s' _ h' => ?_
  obtain ⟨rfl, h'⟩ := h'
  exact ⟨fun id hid => absurd hid (by simp), h'⟩

/-- **Abandoning leaves no session, or a settled one.** -/
theorem Sound.ensures_abandon (ho : o.Sound) (p : Publisher) (e : Error) {l : Link} {id : SessionId}
    {s : σ} (hl : l.session = some id) (h : o.lost s)
    (ht : e.poisonsSession = false → o.trusted id s) :
    Ensures K (fun _ l' s' => o.Left l' s' ∧ o.lost s') (p.abandon e) l s := by
  rw [Publisher.abandon]
  split
  · exact ho.ensures_discard p e l h
  · next he =>
    have hs : K.holds s := ho.lost_sheltered.holds s h
    simp only [Publishing.ensures_bind, Publishing.ensures_current, hl]
    refine ⟨hs, (Publisher.ensures_step p _ _ l s).mpr ⟨hs, fun reply s' hr => ?_⟩⟩
    obtain ⟨h', hset⟩ := ho.rollback h (ht (by simpa using he)) hr
    refine ⟨ho.lost_sheltered.holds s' h', ?_⟩
    obtain ⟨out, spent⟩ := reply
    cases out with
    | ok _ =>
      refine ⟨ho.lost_sheltered.holds s' h', fun id' hid' => ?_, h'⟩
      obtain rfl : id = id' := Option.some.inj (hl.symm.trans hid')
      exact hset rfl
    | error e' => exact ho.ensures_discard p e l h'
    | silent => exact ho.ensures_discard p e l h'

/-- A step that failed is followed by abandoning. -/
theorem Sound.ensures_abandon_error (ho : o.Sound) (p : Publisher) (e : Error) {l : Link}
    {id : SessionId} {s : σ} (hl : l.session = some id) (h : o.lost s)
    (ht : e.poisonsSession = false → o.trusted id s) :
    Ensures K o.Ends (do p.abandon e; return .error e) l s := by
  rw [Publisher.ensures_abandon_error]
  exact (ho.ensures_abandon p e hl h ht).mono fun _ _ _ _ h' =>
    ⟨h'.1, Or.inr ⟨Or.inr ⟨e, rfl⟩, h'.2⟩⟩

/-- **Sending and committing** on a declared topic ends the publish. -/
theorem Sound.ensures_deliver (ho : o.Sound) (p : Publisher) {l : Link} {id : SessionId}
    {topic : String} {s : σ} (hl : l.session = some id) (h : o.declared id topic s) :
    Ensures K o.Ends (p.deliver a id topic) l s := by
  rw [Publisher.deliver, Publishing.ensures_bind, Publisher.ensures_step]
  refine ⟨ho.declared_holds h, fun reply s' hr => ?_⟩
  rcases ho.send h hr with ⟨hout, h'⟩ | hfail
  · refine ⟨ho.queued_holds h', ?_⟩
    rw [hout]
    simp only [Publisher.verdict, Publishing.ensures_bind]
    refine (Publisher.ensures_step p _ _ l s').mpr ⟨ho.queued_holds h', fun reply s'' hr => ?_⟩
    rcases ho.commit h' hr with ⟨hout, hd, hset⟩ | hfail
    · refine ⟨ho.delivered_holds hd, ?_⟩
      rw [hout]
      simp only [Publisher.verdict, Publishing.ensures_bind, Publishing.ensures_note,
        Publishing.ensures_pure]
      refine ⟨ho.delivered_holds hd, ho.delivered_holds hd, fun id' hid' => ?_, Or.inl ⟨rfl, hd⟩⟩
      obtain rfl : id = id' := Option.some.inj (hl.symm.trans hid')
      exact hset
    · obtain ⟨e, he, ht⟩ := hfail.verdict p
      rw [he]
      exact ⟨ho.lost_sheltered.holds s'' hfail.2.1,
        ho.ensures_abandon_error p e hl hfail.2.1 ht⟩
  · obtain ⟨e, he, ht⟩ := hfail.verdict p
    rw [he]
    exact ⟨ho.lost_sheltered.holds s' hfail.2.1, ho.ensures_abandon_error p e hl hfail.2.1 ht⟩

/-- A session that has just been opened is ready. -/
theorem Sound.ensures_openLink (ho : o.Sound) (p : Publisher) {n : Nat} {l : Link} {s : σ}
    (hl : l.session = none) (h : o.idle n s) :
    Ensures K (fun _ l' s' => o.idle n s' ∧ ∀ id, l'.session = some id → o.ready id s')
      p.openLink l s := by
  refine (Publisher.ensures_openLink (R := o.ready) (ho.idle_sheltered n)
    (fun c limit s reply s' id h hr hid => ho.created h hr hid) p h).mono fun _ l' s' _ h' => ?_
  obtain ⟨h', rfl | ⟨c, id, rfl, ht⟩⟩ := h'
  · exact ⟨h', fun id hid => by simp [hl] at hid⟩
  · refine ⟨h', fun id' hid' => ?_⟩
    cases hid'
    exact ht

/-- **Publishing on a new session.** -/
theorem Sound.ensures_retry (ho : o.Sound) (p : Publisher) (l : Link) {s : σ} (h : o.idle 1 s) :
    Ensures K o.Ends (p.retry a) l s := by
  simp only [Publisher.retry, Publisher.reconnect, Publishing.ensures_bind]
  refine (Publisher.ensures_releaseLink (ho.idle_sheltered 1) p l h).mono fun _ l' s' _ h' => ?_
  obtain ⟨rfl, h'⟩ := h'
  rw [Publishing.ensures_bind]
  refine (ho.ensures_openLink (l := {}) p rfl h').mono fun _ l' s' hs' h' => ?_
  obtain ⟨h', ht⟩ := h'
  rw [Publishing.ensures_current]
  refine ⟨hs', ?_⟩
  cases hl : l'.session with
  | none =>
    exact ⟨hs', fun id hid => by simp [hl] at hid, Or.inr ⟨Or.inr ⟨_, rfl⟩, ho.lost_of_idle h'⟩⟩
  | some id =>
    rw [Publishing.ensures_bind, Publisher.ensures_step]
    refine ⟨hs', fun reply s'' hr => ?_⟩
    rcases ho.declare (by omega) h' (ht id hl) hr with ⟨topic, hout, hd⟩ | ⟨h'', hfail⟩
    · rw [hout]
      exact ⟨ho.declared_holds hd, ho.ensures_deliver p hl hd⟩
    · obtain ⟨e, he, ht⟩ := hfail.verdict p
      rw [he]
      exact ⟨ho.lost_sheltered.holds s'' hfail.2.1, ho.ensures_abandon_error p e hl hfail.2.1 ht⟩

/-- **Every sound outline carries through a publish** that starts on a session that is ready, or on
none. -/
theorem Sound.ensures_trySend (ho : o.Sound) (p : Publisher) {l : Link} {s : σ} (h : o.idle 0 s)
    (ht : ∀ id, l.session = some id → o.ready id s) :
    Ensures K o.Ends (p.trySend a) l s := by
  rw [Publisher.trySend, Publishing.ensures_bind]
  refine (Publisher.ensures_session (R := o.ready) (ho.idle_sheltered 0)
    (fun c limit s reply s' id h hr hid => ho.created h hr hid) p h ht).mono
    fun held l' s' hs' h' => ?_
  obtain ⟨rfl, h', ht'⟩ := h'
  cases hl : l'.session with
  | none =>
    exact ⟨hs', fun id hid => by simp [hl] at hid, Or.inr ⟨Or.inl rfl, ho.lost_of_idle h'⟩⟩
  | some id =>
    rw [Publishing.ensures_bind, Publisher.ensures_step]
    refine ⟨hs', fun reply s'' hr => ?_⟩
    rcases ho.declare (by omega) h' (ht' id hl) hr with ⟨topic, hout, hd⟩ | ⟨h'', hfail⟩
    · rw [hout]
      exact ⟨ho.declared_holds hd, ho.ensures_deliver p hl hd⟩
    · obtain ⟨e, he, ht⟩ := hfail.verdict p
      have hs'' : K.holds s'' := ho.lost_sheltered.holds s'' hfail.2.1
      rw [he]
      refine ⟨hs'', ?_⟩
      dsimp only
      split
      · exact ho.ensures_retry p l' h''
      · exact ho.ensures_abandon_error p e hl hfail.2.1 ht

/-- **A publish ends delivered or lost**, and leaves no session, or a settled one. -/
theorem Sound.ensures_send (ho : o.Sound) (p : Publisher) {l : Link} {s : σ} (h : o.idle 0 s)
    (ht : ∀ id, l.session = some id → o.ready id s) :
    Ensures K (fun d l' s' => o.Left l' s' ∧
      (d = .delivered ∧ o.delivered s' ∨ d = .failed ∧ o.lost s')) (p.send a) l s := by
  rw [Publisher.send, Publishing.ensures_bind]
  refine (ho.ensures_trySend p h ht).mono fun result l' s' hs' h' => ?_
  obtain ⟨hleft, ⟨rfl, hd⟩ | ⟨rfl | ⟨e, rfl⟩, hlost⟩⟩ := h'
  · exact ⟨hs', hleft, Or.inl ⟨rfl, hd⟩⟩
  · exact ⟨hs', hleft, Or.inr ⟨rfl, hlost⟩⟩
  · exact ⟨hs', hleft, Or.inr ⟨rfl, hlost⟩⟩

end Outline
end CatalogFeed
