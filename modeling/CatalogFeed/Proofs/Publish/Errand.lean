import CatalogFeed.Proofs.Bus.Inventory
import CatalogFeed.Proofs.Publish.Rules

/-!
# Proofs/Publish/Errand — what can be done with a link, and what all of it keeps

An `Errand` is a program that has the link of a publisher for itself: it opens or replaces the
session, gives it up, closes, or publishes.  A `Link.Invariant` says something of the link and of
the bus behind it that opening, giving up and the steps of a publish keep.

* `Link.Invariant.ensures_send`: so a publish keeps it, wherever it fails;
* `Link.Invariant.ensures_program`: and so does every errand.
-/

namespace CatalogFeed

open Bus (access Call SessionId)

/-! ## Errands -/

/-- What can be done with a link. -/
inductive Errand where
  | connect (publisher : Publisher)
  | session (publisher : Publisher)
  | reconnect (publisher : Publisher)
  | invalidate (publisher : Publisher)
  | close (publisher : Publisher)
  | send (publisher : Publisher) (announcement : Announcement)

namespace Errand

/-- The program of an errand. -/
def program : Errand → Publishing Unit
  | connect p => do let _ ← p.connect
  | session p => do let _ ← p.session
  | reconnect p => do let _ ← p.reconnect
  | invalidate p => p.releaseLink
  | close p => p.close
  | send p a => do let _ ← p.send a

/-- Whether an errand gives the link up. -/
def givesUp : Errand → Bool
  | invalidate _ | close _ => true
  | _ => false

end Errand

/-! ## Invariants of a link -/

open Publishing (Ensures)

variable {σ : Type}

/-- **What is kept of a link and of the bus behind it.** -/
structure Link.Invariant (K : Contract access σ) (J : Link → σ → Prop) : Prop where
  holds : ∀ {l s}, J l s → K.holds s
  opened : ∀ (p : Publisher) {l s}, J l s → l.session = none →
    Ensures K (fun _ => J) p.openLink l s
  released : ∀ (p : Publisher) {l s}, J l s →
    Ensures K (fun _ l' s' => l' = {} ∧ J l' s') p.releaseLink l s
  /-- A publish commits on the session that is held, and asks nothing else that does more than
  declare, send and roll back. -/
  stepped : ∀ {c : Call} {limit l s reply s'}, J l s →
    c.isAloof = true ∨ (∃ id, c = .commit id ∧ l.session = some id) →
    K.answers (.call c limit) s reply s' → J l s'

namespace Link.Invariant

variable {K : Contract access σ} {J : Link → σ → Prop} {l : Link} {s : σ}

/-! ### Sessions -/

theorem ensures_session (hJ : Invariant K J) (p : Publisher) (h : J l s) :
    Ensures K (fun held l s => held = l.session ∧ J l s) p.session l s := by
  have hs : K.holds s := hJ.holds h
  simp only [Publisher.session, Publishing.ensures_bind, Publishing.ensures_current]
  refine ⟨hs, ?_⟩
  cases hl : l.session with
  | some id => exact ⟨hs, rfl, h⟩
  | none =>
    simp only [Option.isNone_none, if_true, Publishing.ensures_bind]
    exact (hJ.opened p h hl).mono fun _ l' s' hs' h' => ⟨hs', rfl, h'⟩

theorem ensures_reconnect (hJ : Invariant K J) (p : Publisher) (h : J l s) :
    Ensures K (fun held l s => held = l.session ∧ J l s) p.reconnect l s := by
  simp only [Publisher.reconnect, Publishing.ensures_bind]
  refine (hJ.released p h).mono fun _ l' s' _ h' => ?_
  obtain ⟨rfl, h'⟩ := h'
  rw [Publishing.ensures_bind]
  exact (hJ.opened p h' rfl).mono fun _ l'' s'' hs'' h'' => ⟨hs'', rfl, h''⟩

theorem ensures_close (hJ : Invariant K J) (p : Publisher) (h : J l s) :
    Ensures K (fun _ l s => l = {} ∧ J l s) p.close l s := by
  rw [Publisher.close, Publishing.ensures_bind]
  exact (hJ.released p h).mono fun _ l' s' hs' h' => ⟨hs', h'⟩

/-! ### Publishes -/

/-- A step of a publish changes no link. -/
theorem ensures_step (hJ : Invariant K J) (p : Publisher) {c : Call} (h : J l s)
    (hc : c.isAloof = true ∨ ∃ id, c = .commit id ∧ l.session = some id) :
    Ensures K (fun _ l' s' => l' = l ∧ J l s') (p.step c) l s := by
  refine (Publisher.ensures_step p c _ l s).mpr ⟨hJ.holds h, fun reply s' hr => ?_⟩
  have h' : J l s' := hJ.stepped h hc hr
  exact ⟨hJ.holds h', rfl, h'⟩

theorem ensures_discard (hJ : Invariant K J) (p : Publisher) (e : Error) (h : J l s) :
    Ensures K (fun _ => J) (p.discard e) l s := by
  simp only [Publisher.discard, Publishing.ensures_bind, Publishing.ensures_note]
  exact ⟨hJ.holds h, (hJ.released p h).mono fun _ l' s' _ h' => h'.2⟩

theorem ensures_abandon (hJ : Invariant K J) (p : Publisher) (e : Error) (h : J l s) :
    Ensures K (fun _ => J) (p.abandon e) l s := by
  rw [Publisher.abandon]
  split
  · exact hJ.ensures_discard p e h
  · simp only [Publishing.ensures_bind, Publishing.ensures_current]
    refine ⟨hJ.holds h, ?_⟩
    cases l.session with
    | none => exact hJ.ensures_discard p e h
    | some id =>
      rw [Publishing.ensures_bind]
      refine (hJ.ensures_step p h (Or.inl rfl)).mono fun result l' s' hs' h' => ?_
      obtain ⟨rfl, h'⟩ := h'
      cases result with
      | ok _ => exact ⟨hs', h'⟩
      | error e' =>
        rw [Publishing.ensures_bind, Publishing.ensures_note]
        exact ⟨hs', hJ.ensures_discard p e h'⟩

/-- A step that failed is followed by abandoning. -/
theorem ensures_abandon_error (hJ : Invariant K J) (p : Publisher) (e : Error) (h : J l s) :
    Ensures K (fun _ => J) (do p.abandon e; return (.error e : Except Error Delivery)) l s :=
  Publisher.ensures_abandon_error.mpr (hJ.ensures_abandon p e h)

theorem ensures_deliver (hJ : Invariant K J) (p : Publisher) (a : Announcement) {id : SessionId}
    (topic : String) (h : J l s) (hl : l.session = some id) :
    Ensures K (fun _ => J) (p.deliver a id topic) l s := by
  rw [Publisher.deliver, Publishing.ensures_bind]
  refine (hJ.ensures_step p h (Or.inl rfl)).mono fun result l' s' hs' h' => ?_
  obtain ⟨rfl, h'⟩ := h'
  cases result with
  | error e => exact hJ.ensures_abandon_error p e h'
  | ok _ =>
    simp only [Publishing.ensures_bind]
    refine (hJ.ensures_step p h' (Or.inr ⟨id, rfl, hl⟩)).mono fun result l'' s'' hs'' h'' => ?_
    obtain ⟨rfl, h''⟩ := h''
    cases result with
    | error e => exact hJ.ensures_abandon_error p e h''
    | ok _ => exact ⟨hs'', h''⟩

theorem ensures_retry (hJ : Invariant K J) (p : Publisher) (a : Announcement) (h : J l s) :
    Ensures K (fun _ => J) (p.retry a) l s := by
  rw [Publisher.retry, Publishing.ensures_bind]
  refine (hJ.ensures_reconnect p h).mono fun held l' s' hs' h' => ?_
  obtain ⟨rfl, h'⟩ := h'
  cases hl : l'.session with
  | none => exact ⟨hs', h'⟩
  | some id =>
    rw [Publishing.ensures_bind]
    refine (hJ.ensures_step p h' (Or.inl rfl)).mono fun result l'' s'' hs'' h'' => ?_
    obtain ⟨rfl, h''⟩ := h''
    cases result with
    | error e => exact hJ.ensures_abandon_error p e h''
    | ok topic => exact hJ.ensures_deliver p a topic h'' hl

theorem ensures_trySend (hJ : Invariant K J) (p : Publisher) (a : Announcement) (h : J l s) :
    Ensures K (fun _ => J) (p.trySend a) l s := by
  rw [Publisher.trySend, Publishing.ensures_bind]
  refine (hJ.ensures_session p h).mono fun held l' s' hs' h' => ?_
  obtain ⟨rfl, h'⟩ := h'
  cases hl : l'.session with
  | none => exact ⟨hs', h'⟩
  | some id =>
    rw [Publishing.ensures_bind]
    refine (hJ.ensures_step p h' (Or.inl rfl)).mono fun result l'' s'' hs'' h'' => ?_
    obtain ⟨rfl, h''⟩ := h''
    cases result with
    | ok topic => exact hJ.ensures_deliver p a topic h'' hl
    | error e =>
      dsimp only
      split
      · rw [Publishing.ensures_bind, Publishing.ensures_note]
        exact ⟨hs'', hJ.ensures_retry p a h''⟩
      · exact hJ.ensures_abandon_error p e h''

/-- **A publish keeps the invariant**, however it ends. -/
theorem ensures_send (hJ : Invariant K J) (p : Publisher) (a : Announcement) (h : J l s) :
    Ensures K (fun _ => J) (p.send a) l s := by
  rw [Publisher.send, Publishing.ensures_bind]
  refine (hJ.ensures_trySend p a h).mono fun result l' s' hs' h' => ?_
  cases result with
  | ok delivery => exact ⟨hs', h'⟩
  | error e => exact ⟨hs', h'⟩

/-! ### Errands -/

/-- **Every errand keeps the invariant**, and one that gives the link up leaves it empty. -/
theorem ensures_program (hJ : Invariant K J) (errand : Errand) (h : J l s) :
    Ensures K (fun _ l s => J l s ∧ (errand.givesUp = true → l = {})) errand.program l s := by
  cases errand with
  | connect p =>
    rw [Errand.program, Publisher.connect]
    simp only [Publishing.ensures_bind]
    exact (hJ.ensures_session p h).mono fun _ l s hs h =>
      ⟨hs, hs, h.2, (absurd · Bool.false_ne_true)⟩
  | session p =>
    rw [Errand.program, Publishing.ensures_bind]
    exact (hJ.ensures_session p h).mono fun _ l s hs h =>
      ⟨hs, h.2, (absurd · Bool.false_ne_true)⟩
  | reconnect p =>
    rw [Errand.program, Publishing.ensures_bind]
    exact (hJ.ensures_reconnect p h).mono fun _ l s hs h =>
      ⟨hs, h.2, (absurd · Bool.false_ne_true)⟩
  | invalidate p => exact (hJ.released p h).mono fun _ l s _ h => ⟨h.2, fun _ => h.1⟩
  | close p => exact (hJ.ensures_close p h).mono fun _ l s _ h => ⟨h.2, fun _ => h.1⟩
  | send p a =>
    rw [Errand.program, Publishing.ensures_bind]
    exact (hJ.ensures_send p a h).mono fun _ l s hs h => ⟨hs, h, (absurd · Bool.false_ne_true)⟩

/-- **So does any sequence of errands.** -/
theorem ensures_programs (hJ : Invariant K J) (errands : List Errand) (h : J l s) :
    Ensures K (fun _ => J) (forM errands Errand.program) l s := by
  induction errands generalizing l s with
  | nil => exact ⟨hJ.holds h, h⟩
  | cons errand errands ih =>
    rw [List.forM_cons, Publishing.ensures_bind]
    exact (hJ.ensures_program errand h).mono fun _ l' s' _ h' => ih h'.1

end Link.Invariant
end CatalogFeed
