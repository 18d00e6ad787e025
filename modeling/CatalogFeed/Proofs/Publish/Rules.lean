import CatalogFeed.Feed
import CatalogFeed.Proofs.Script.Contract

/-!
# Proofs/Publish/Rules — what each program of a publisher asks

One rule for each program of `Publish/Link` and `Publish/Send`, under any `Contract` with the bus:
`Publishing.Ensures` reads `Script.Ensures` with the link that is held.

* `ensures_openLink`, `ensures_releaseLink`: opening and closing keep whatever the requests for it
  keep, and a link is left as it was, newly opened, or empty;
* `ensures_step`: one step of a publish is one call, and silence is an error.
-/

namespace CatalogFeed

open Bus (access Call ConnectionId SessionId Outcome Within Timed)

/-! ## Requests by purpose -/

/-- Whether the request opens or closes something, and so has no part in a transaction. -/
def Bus.Request.isHousekeeping : Bus.Request → Bool
  | .call (.createTopic _ _) _ => false
  | .call (.send _ _ _) _ => false
  | .call (.commit _) _ => false
  | .call (.rollback _) _ => false
  | _ => true

/-! ## Programs on a link -/

namespace Publishing

variable {α β σ : Type} {K : Contract access σ}

/-- **What a program of a publisher ensures** of its value, its link and the state. -/
def Ensures (K : Contract access σ) (Q : α → Link → σ → Prop) (m : Publishing α) (l : Link)
    (s : σ) : Prop :=
  (StateT.run m l).Ensures K (fun r s => Q r.1 r.2 s) s

theorem Ensures.mono {Q Q' : α → Link → σ → Prop} {m : Publishing α} {l : Link} {s : σ}
    (h : Ensures K Q m l s) (hQ : ∀ a l s, K.holds s → Q a l s → Q' a l s) :
    Ensures K Q' m l s :=
  Script.Ensures.mono (fun r s hs => hQ r.1 r.2 s hs) h

@[simp] theorem ensures_pure (Q : α → Link → σ → Prop) (a : α) (l : Link) (s : σ) :
    Ensures K Q (pure a) l s ↔ K.holds s ∧ Q a l s := Iff.rfl

@[simp] theorem ensures_bind (Q : β → Link → σ → Prop) (m : Publishing α)
    (f : α → Publishing β) (l : Link) (s : σ) :
    Ensures K Q (m >>= f) l s ↔ Ensures K (fun a => Ensures K Q (f a)) m l s :=
  Script.ensures_bind _ _ _ s

@[simp] theorem ensures_get (Q : Link → Link → σ → Prop) (l : Link) (s : σ) :
    Ensures K Q get l s ↔ K.holds s ∧ Q l l s := Iff.rfl

@[simp] theorem ensures_set (Q : PUnit → Link → σ → Prop) (l l' : Link) (s : σ) :
    Ensures K Q (set l') l s ↔ K.holds s ∧ Q ⟨⟩ l' s := Iff.rfl

@[simp] theorem ensures_modify (Q : PUnit → Link → σ → Prop) (f : Link → Link) (l : Link) (s : σ) :
    Ensures K Q (modify f) l s ↔ K.holds s ∧ Q ⟨⟩ (f l) s := Iff.rfl

@[simp] theorem ensures_note (Q : Unit → Link → σ → Prop) (e : LogEntry) (l : Link) (s : σ) :
    Ensures K Q (note e) l s ↔ K.holds s ∧ Q () l s := Iff.rfl

@[simp] theorem ensures_current (Q : Option SessionId → Link → σ → Prop) (l : Link) (s : σ) :
    Ensures K Q Publisher.current l s ↔ K.holds s ∧ Q l.session l s := Iff.rfl

theorem ensures_within (Q : Outcome α → Link → σ → Prop) (limit : Nat) (w : Within α) (l : Link)
    (s : σ) : Ensures K Q (within limit w) l s ↔
      (w.run limit).Ensures K (fun out s => Q out l s) s := by
  change ((w.run limit).bind _).Ensures K _ s ↔ _
  rw [Script.ensures_bind]
  exact ⟨fun h => h.mono fun a s _ h => h.2, fun h => h.mono fun a s hs h => ⟨hs, h⟩⟩

end Publishing

/-! ## Sequences of calls

`P` is kept by every request of the sequence; what is known of the value that a request answers is
carried along by the rule for `>>=`. -/

namespace Bus.Within

variable {α β σ : Type} {K : Contract access σ} {P : σ → Prop}

/-- **What a sequence of calls keeps and gives**: `P` throughout, and `R` of its value. -/
def Gives (K : Contract access σ) (P : σ → Prop) (R : α → σ → Prop) (w : Within α) (s : σ) : Prop :=
  ∀ left, (w left).Ensures K
    (fun out s => P s ∧ ∀ a left, out = .ok (a, left) → R a s) s

theorem gives_pure {R : α → σ → Prop} {a : α} {s : σ} (hK : K.holds s) (hP : P s) (hR : R a s) :
    Gives K P R (pure a) s := by
  intro left
  refine ⟨hK, hP, fun b n h => ?_⟩
  cases h
  exact hR

theorem Gives.bind {R : α → σ → Prop} {R' : β → σ → Prop} {w : Within α} {f : α → Within β} {s : σ}
    (hw : Gives K P R w s) (hf : ∀ a s, P s → R a s → Gives K P R' (f a) s) :
    Gives K P R' (w >>= f) s := by
  intro left
  change ((w left).bind _).Ensures K _ s
  rw [Script.ensures_bind]
  refine (hw left).mono fun out s hs h => ?_
  cases out with
  | ok r => exact hf r.1 s h.1 (h.2 r.1 r.2 rfl) r.2
  | error e => exact ⟨hs, h.1, fun _ _ h => by cases h⟩
  | silent => exact ⟨hs, h.1, fun _ _ h => by cases h⟩

theorem gives_call {c : Call} {R : c.Answer → σ → Prop} {s : σ} (hK : K.holds s)
    (hkeep : ∀ limit reply s', K.answers (.call c limit) s reply s' → K.holds s' ∧ P s')
    (hgive : ∀ limit reply s' a, K.answers (.call c limit) s reply s' → reply.outcome = .ok a →
      R a s') : Gives K P R (call c) s := by
  intro left
  refine ⟨hK, fun reply s' hr => ⟨(hkeep left reply s' hr).1, (hkeep left reply s' hr).2, ?_⟩⟩
  intro a n h
  refine hgive left reply s' a hr ?_
  cases ho : reply.outcome <;> simp_all

theorem gives_observe {c : ConnectionId} {R : Unit → σ → Prop} {s : σ} (hK : K.holds s)
    (hkeep : ∀ reply s', K.answers (.observe c) s reply s' → K.holds s' ∧ P s' ∧ R () s') :
    Gives K P R (observe c) s := by
  intro left
  refine ⟨hK, fun reply s' hr => ⟨(hkeep reply s' hr).1, (hkeep reply s' hr).2.1, ?_⟩⟩
  intro a n _
  exact (hkeep reply s' hr).2.2

/-- Run within a limit, a sequence of calls still keeps and gives the same. -/
theorem Gives.run {R : α → σ → Prop} {w : Within α} {s : σ} (hw : Gives K P R w s) (limit : Nat) :
    (w.run limit).Ensures K (fun out s => P s ∧ ∀ a, out = .ok a → R a s) s := by
  rw [Within.run, Script.ensures_bind]
  refine (hw limit).mono fun out s hs h => ?_
  cases out with
  | ok r =>
    refine ⟨hs, h.1, fun b hb => ?_⟩
    cases hb
    exact h.2 r.1 r.2 rfl
  | error e => exact ⟨hs, h.1, fun _ h => by cases h⟩
  | silent => exact ⟨hs, h.1, fun _ h => by cases h⟩

/-! ### Sequences that succeed -/

/-- The sequence of calls succeeds, with a value of which `Q` holds. -/
def Succeeds (K : Contract access σ) (Q : α → σ → Prop) (w : Within α) (s : σ) : Prop :=
  ∀ left, (w left).Ensures K (fun out s => ∃ a left, out = .ok (a, left) ∧ Q a s) s

theorem succeeds_pure {Q : α → σ → Prop} {a : α} {s : σ} (hK : K.holds s) (h : Q a s) :
    Succeeds K Q (pure a) s := fun left => ⟨hK, a, left, rfl, h⟩

theorem Succeeds.bind {Q : α → σ → Prop} {Q' : β → σ → Prop} {w : Within α} {f : α → Within β}
    {s : σ} (hw : Succeeds K Q w s) (hf : ∀ a s, Q a s → Succeeds K Q' (f a) s) :
    Succeeds K Q' (w >>= f) s := by
  intro left
  change ((w left).bind _).Ensures K _ s
  rw [Script.ensures_bind]
  refine (hw left).mono fun out s _ h => ?_
  obtain ⟨a, n, rfl, h⟩ := h
  exact hf a s h n

theorem succeeds_call {c : Call} {Q : c.Answer → σ → Prop} {s : σ} (hK : K.holds s)
    (h : ∀ limit reply s', K.answers (.call c limit) s reply s' →
      K.holds s' ∧ ∃ a, reply.outcome = .ok a ∧ Q a s') : Succeeds K Q (call c) s := by
  intro left
  refine ⟨hK, fun reply s' hr => ?_⟩
  obtain ⟨hK', a, ha, hq⟩ := h left reply s' hr
  refine ⟨hK', a, left - reply.spent, ?_, hq⟩
  rw [ha]

theorem succeeds_observe {c : ConnectionId} {Q : Unit → σ → Prop} {s : σ} (hK : K.holds s)
    (h : ∀ reply s', K.answers (.observe c) s reply s' → K.holds s' ∧ Q () s') :
    Succeeds K Q (observe c) s := fun left =>
  ⟨hK, fun reply s' hr => ⟨(h reply s' hr).1, (), left, rfl, (h reply s' hr).2⟩⟩

theorem Succeeds.run {Q : α → σ → Prop} {w : Within α} {s : σ} (hw : Succeeds K Q w s)
    (limit : Nat) : (w.run limit).Ensures K (fun out s => ∃ a, out = .ok a ∧ Q a s) s := by
  rw [Within.run, Script.ensures_bind]
  refine (hw limit).mono fun out s hs h => ?_
  obtain ⟨a, n, rfl, h⟩ := h
  exact ⟨hs, a, rfl, h⟩

end Bus.Within

/-! ## Opening, closing, one step -/

namespace Publisher

open Publishing (Ensures ensures_within)

variable {σ : Type} {K : Contract access σ} {P : σ → Prop}

/-- Whether `P` guarantees what has to hold, and no opening or closing takes it away. -/
structure Sheltered (K : Contract access σ) (P : σ → Prop) : Prop where
  holds : ∀ s, P s → K.holds s
  keeps : ∀ r s reply s', r.isHousekeeping = true → P s → K.answers r s reply s' → P s'

theorem Sheltered.gives_call (hP : Sheltered K P) (c : Call) {s : σ} (h : P s)
    (hc : ∀ limit, Bus.Request.isHousekeeping (.call c limit) = true) :
    Within.Gives K P (fun _ _ => True) (.call c) s := by
  refine Within.gives_call (hP.holds s h) (fun limit reply s' hr => ?_) fun _ _ _ _ _ _ => trivial
  have hs' : P s' := hP.keeps _ s reply s' (hc limit) h hr
  exact ⟨hP.holds s' hs', hs'⟩

/-- **Opening takes hold of what it is answered**, and leaves the link as it was if it is answered
nothing. -/
theorem ensures_openLink_by {Q : Outcome (ConnectionId × SessionId) → σ → Prop}
    {J : Link → σ → Prop} {p : Publisher} {l : Link} {s : σ}
    (hw : (p.establish.run p.connectLimit).Ensures K Q s)
    (hopened : ∀ r s, Q (.ok r) s → J ⟨some r.1, some r.2⟩ s)
    (hnothing : ∀ out s, (∀ r, out ≠ .ok r) → Q out s → J l s) :
    Ensures K (fun _ => J) p.openLink l s := by
  rw [openLink, Publishing.ensures_bind, ensures_within]
  refine hw.mono fun out s' hs' h' => ?_
  cases out with
  | ok r =>
    simp only [Publishing.ensures_bind, Publishing.ensures_note, Publishing.ensures_set]
    exact ⟨hs', hs', hopened r s' h'⟩
  | error e => exact ⟨hs', hnothing _ s' (fun _ h => by cases h) h'⟩
  | silent => exact ⟨hs', hnothing _ s' (fun _ h => by cases h) h'⟩

/-- **Opening keeps what is sheltered** and leaves the link as it was, or newly opened on a session
of which `R` holds if it holds of every session that is opened. -/
theorem ensures_openLink {R : SessionId → σ → Prop} (hP : Sheltered K P)
    (hR : ∀ c limit s reply s' id, P s → K.answers (.call (.createSession c) limit) s reply s' →
      reply.outcome = .ok id → R id s')
    (p : Publisher) {l : Link} {s : σ} (h : P s) :
    Ensures K (fun _ l' s' => P s' ∧ (l' = l ∨ ∃ c id, l' = ⟨some c, some id⟩ ∧ R id s'))
      p.openLink l s := by
  have hopen : Within.Gives K P (fun a s => R a.2 s) p.establish s := by
    refine (hP.gives_call _ h fun _ => rfl).bind fun factory s hs _ => ?_
    refine (hP.gives_call _ hs fun _ => rfl).bind fun c s hs _ => ?_
    refine (hP.gives_call _ hs fun _ => rfl).bind fun _ s hs _ => ?_
    refine Within.Gives.bind (R := fun _ _ => True) (Within.gives_observe (hP.holds s hs) ?_)
      fun _ s hs _ => ?_
    · intro reply s' hr
      have := hP.keeps _ s reply s' rfl hs hr
      exact ⟨hP.holds s' this, this, trivial⟩
    refine Within.Gives.bind (R := R) ?_ fun id s hs hid => Within.gives_pure (hP.holds s hs) hs hid
    refine Within.gives_call (hP.holds s hs) (fun limit reply s' hr => ?_)
      fun limit reply s' a hr ha => hR c limit s reply s' a hs hr ha
    have := hP.keeps _ s reply s' rfl hs hr
    exact ⟨hP.holds s' this, this⟩
  exact ensures_openLink_by (hopen.run p.connectLimit)
    (fun r s' h' => ⟨h'.1, Or.inr ⟨r.1, r.2, rfl, h'.2 r rfl⟩⟩)
    fun _ s' _ h' => ⟨h'.1, Or.inl rfl⟩

/-- **Asking for the session** opens one if there is none; `R` holds of the session that is then
held. -/
theorem ensures_session {R : SessionId → σ → Prop} (hP : Sheltered K P)
    (hR : ∀ c limit s reply s' id, P s → K.answers (.call (.createSession c) limit) s reply s' →
      reply.outcome = .ok id → R id s')
    (p : Publisher) {l : Link} {s : σ} (h : P s) (hl : ∀ id, l.session = some id → R id s) :
    Ensures K (fun held l' s' => held = l'.session ∧ P s' ∧ ∀ id, l'.session = some id → R id s')
      p.session l s := by
  have hs : K.holds s := hP.holds s h
  simp only [session, Publishing.ensures_bind, Publishing.ensures_current]
  refine ⟨hs, ?_⟩
  cases hsession : l.session with
  | some id => exact ⟨hs, rfl, h, hl⟩
  | none =>
    simp only [Option.isNone_none, if_true, Publishing.ensures_bind]
    refine (ensures_openLink hP hR p h).mono fun _ l' s' hs' h' => ⟨hs', rfl, h'.1, ?_⟩
    obtain ⟨-, rfl | ⟨c, id, rfl, hid⟩⟩ := h'
    · exact fun id hid => by simp [hsession] at hid
    · intro id' hid'
      cases hid'
      exact hid

/-- Closing quietly changes no link. -/
theorem ensures_closeQuietly {w : Within Unit} {s : σ}
    (hw : Within.Gives K P (fun _ _ => True) w s) (p : Publisher) (thing : String) (l : Link) :
    Ensures K (fun _ l' s' => l' = l ∧ P s') (p.closeQuietly thing w) l s := by
  rw [closeQuietly, Publishing.ensures_bind, ensures_within]
  refine (hw.run p.connectLimit).mono fun out s' hs' h' => ?_
  cases out with
  | ok _ => exact ⟨hs', rfl, h'.1⟩
  | error e => exact ⟨hs', rfl, h'.1⟩
  | silent => exact ⟨hs', rfl, h'.1⟩

/-- **Closing empties the link**: `M` holds once the session is closed, and `N` once the connection
is. -/
theorem ensures_releaseLink_by {M N : σ → Prop} (p : Publisher) (l : Link) {s : σ} (hs : K.holds s)
    (hunheld : l.session = none → M s)
    (hsession : ∀ id, l.session = some id →
      Within.Gives K M (fun _ _ => True) (.call (.closeSession id)) s)
    (hunconnected : ∀ s', M s' → l.connection = none → N s')
    (hconnection : ∀ c s', K.holds s' → M s' → l.connection = some c →
      Within.Gives K N (fun _ _ => True) (.call (.closeConnection c)) s') :
    Ensures K (fun _ l' s' => l' = {} ∧ N s') p.releaseLink l s := by
  rw [releaseLink]
  obtain ⟨_ | c, _ | id⟩ := l <;>
    simp only [Publishing.ensures_bind, Publishing.ensures_get, Publishing.ensures_modify]
  · exact ⟨hs, hs, hs, rfl, hunconnected s (hunheld rfl) rfl⟩
  · refine ⟨hs, hs, (ensures_closeQuietly (hsession id rfl) p _ _).mono fun _ l' s' hs' h' => ?_⟩
    obtain ⟨rfl, h'⟩ := h'
    exact ⟨hs', rfl, hunconnected s' h' rfl⟩
  · exact ⟨hs, hs, hs, ensures_closeQuietly (hconnection c s hs (hunheld rfl) rfl) p _ _⟩
  · refine ⟨hs, hs, (ensures_closeQuietly (hsession id rfl) p _ _).mono fun _ l' s' hs' h' => ?_⟩
    obtain ⟨rfl, h'⟩ := h'
    exact ensures_closeQuietly (hconnection c s' hs' h' rfl) p _ _

/-- **Closing keeps what is sheltered** and empties the link. -/
theorem ensures_releaseLink (hP : Sheltered K P) (p : Publisher) (l : Link) {s : σ} (h : P s) :
    Ensures K (fun _ l' s' => l' = {} ∧ P s') p.releaseLink l s :=
  ensures_releaseLink_by p l (hP.holds s h) (fun _ => h)
    (fun _ _ => hP.gives_call _ h fun _ => rfl) (fun _ h' _ => h')
    fun _ _ _ h' _ => hP.gives_call _ h' fun _ => rfl

/-- What a step of a publish makes of an outcome. -/
def verdict {α : Type} (p : Publisher) : Outcome α → Except Error α
  | .ok a => .ok a
  | .error e => .error e
  | .silent =>
    .error (.timeout ("message bus did not answer within " ++ toString p.sendLimit ++ "ms"))

theorem verdict_eq_ok {α : Type} {p : Publisher} {out : Outcome α} {v : α}
    (h : p.verdict out = .ok v) : out = .ok v := by
  cases out with
  | ok _ =>
    cases h
    rfl
  | error _ => cases h
  | silent => cases h

theorem eq_error_of_verdict {α : Type} {p : Publisher} {out : Outcome α} {e : Error}
    (h : p.verdict out = .error e) (he : e.isSessionInvalid = true) : out = .error e := by
  cases out with
  | ok _ => cases h
  | error _ =>
    cases h
    rfl
  | silent =>
    cases h
    cases he

/-- **One step is one call.** -/
theorem ensures_step (p : Publisher) (c : Call) (Q : Except Error c.Answer → Link → σ → Prop)
    (l : Link) (s : σ) : Ensures K Q (p.step c) l s ↔ K.holds s ∧
      ∀ reply s', K.answers (.call c p.sendLimit) s reply s' →
        K.holds s' ∧ Q (p.verdict reply.outcome) l s' := by
  rw [step, Publishing.ensures_bind, ensures_within, Within.run, Script.ensures_bind]
  refine and_congr_right fun _ => forall_congr' fun reply => forall_congr' fun s' =>
    imp_congr_right fun _ => ?_
  obtain ⟨out, spent⟩ := reply
  cases out <;> exact ⟨fun h => h.2.2, fun h => ⟨h.1, h.1, h⟩⟩

/-- A publish that is abandoned ends with the error that it was abandoned for. -/
theorem ensures_abandon_error {p : Publisher} {e : Error}
    {Q : Except Error Delivery → Link → σ → Prop} {l : Link} {s : σ} :
    Ensures K Q (do p.abandon e; return .error e) l s ↔
      Ensures K (fun _ l' s' => Q (.error e) l' s') (p.abandon e) l s := by
  rw [Publishing.ensures_bind]
  exact ⟨fun h => h.mono fun _ _ _ _ h' => h'.2, fun h => h.mono fun _ _ _ hs' h' => ⟨hs', h'⟩⟩

end Publisher
end CatalogFeed
