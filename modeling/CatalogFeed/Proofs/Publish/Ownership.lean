import CatalogFeed.Proofs.Publish.Errand

/-!
# Proofs/Publish/Ownership — a publisher owns what its link names

Between programs, a link either names nothing and nothing is open, or it names the one connection
and the one session that are (`Link.Owns`).  Every errand keeps this, whatever the bus answers, and
at every request in between the inventory is tidy.

* `leads_establish`: opening succeeds, or opens nothing;
* `owns_releaseLink`: closing leaves nothing open;
* `owns_invariant`: nothing else opens or closes anything.
-/

namespace CatalogFeed

open Bus (access Call ConnectionId Hub Inventory Outcome SessionId Within)

/-! ## Answers -/

/-- Requests are answered as the inventory allows, and it has to be tidy throughout. -/
def Bus.Inventory.contract : Contract access Inventory where
  answers
    | .call c _, k, reply, k' => k.Allows c reply.outcome k'
    | .observe c, k, _, k' => k' = k.update c fun connection =>
        { connection with observer := some .publisher }
  holds := Inventory.Tidy

/-! ## Sequences of calls that succeed or fail -/

/-- Either there is a value, and `Q` holds of it, or there is none, and `F` holds. -/
def Bus.Outcome.Leads {α σ : Type} (Q : α → σ → Prop) (F : σ → Prop) : Outcome α → σ → Prop
  | .ok a, s => Q a s
  | .error _, s | .silent, s => F s

namespace Bus.Within

variable {α β σ : Type} {K : Contract access σ} {F : σ → Prop}

/-- **What a sequence of calls leads to**: `Q` of its value, or `F` if it ends without one. -/
def Leads (K : Contract access σ) (Q : α → σ → Prop) (F : σ → Prop) (w : Within α) (s : σ) : Prop :=
  ∀ left, (w left).Ensures K (Outcome.Leads (fun r => Q r.1) F) s

theorem leads_pure {Q : α → σ → Prop} {a : α} {s : σ} (hK : K.holds s) (h : Q a s) :
    Leads K Q F (pure a) s := fun _ => ⟨hK, h⟩

theorem Leads.bind {Q : α → σ → Prop} {Q' : β → σ → Prop} {w : Within α} {f : α → Within β} {s : σ}
    (hw : Leads K Q F w s) (hf : ∀ a s, Q a s → Leads K Q' F (f a) s) :
    Leads K Q' F (w >>= f) s := by
  intro left
  change ((w left).bind _).Ensures K _ s
  rw [Script.ensures_bind]
  refine (hw left).mono fun out s hs h => ?_
  cases out with
  | ok r => exact hf r.1 s h r.2
  | error e => exact ⟨hs, h⟩
  | silent => exact ⟨hs, h⟩

theorem leads_call {c : Call} {Q : c.Answer → σ → Prop} {s : σ} (hK : K.holds s)
    (h : ∀ limit reply s', K.answers (.call c limit) s reply s' →
      K.holds s' ∧ reply.outcome.Leads Q F s') :
    Leads K Q F (call c) s := by
  intro left
  refine ⟨hK, fun reply s' hr => ?_⟩
  have h' := h left reply s' hr
  obtain ⟨out, spent⟩ := reply
  cases out <;> exact h'

theorem leads_observe {c : ConnectionId} {Q : Unit → σ → Prop} {s : σ} (hK : K.holds s)
    (h : ∀ reply s', K.answers (.observe c) s reply s' → K.holds s' ∧ Q () s') :
    Leads K Q F (observe c) s := fun _ => ⟨hK, h⟩

theorem Leads.run {Q : α → σ → Prop} {w : Within α} {s : σ} (hw : Leads K Q F w s) (limit : Nat) :
    (w.run limit).Ensures K (Outcome.Leads Q F) s := by
  rw [Within.run, Script.ensures_bind]
  refine (hw limit).mono fun out s hs h => ?_
  cases out <;> exact ⟨hs, h⟩

end Bus.Within

namespace Publisher

/-- **Opening leaves the link as it was, or newly opened.** -/
theorem ensures_openLink_of_leads {σ : Type} {K : Contract access σ}
    {Q : ConnectionId × SessionId → σ → Prop} {F : σ → Prop} {J : Link → σ → Prop} {p : Publisher}
    {l : Link} {s : σ} (hw : Within.Leads K Q F p.establish s)
    (hQ : ∀ r s, Q r s → J ⟨some r.1, some r.2⟩ s) (hF : ∀ s, F s → J l s) :
    Publishing.Ensures K (fun _ => J) p.openLink l s := by
  refine ensures_openLink_by (hw.run p.connectLimit) hQ fun out s' hout h' => ?_
  cases out with
  | ok r => exact (hout r rfl).elim
  | error e => exact hF s' h'
  | silent => exact hF s' h'

end Publisher

/-! ## Ownership -/

/-- **The link names what is open**: nothing, or the one connection and the one session. -/
def Link.Owns (l : Link) (k : Inventory) : Prop :=
  l = {} ∧ k.Vacant ∨ ∃ c s, l = ⟨some c, some s⟩ ∧ k.Occupied c s

theorem Link.Owns.tidy {l : Link} {k : Inventory} (h : l.Owns k) : k.Tidy := by
  obtain ⟨-, h⟩ | ⟨c, s, -, h⟩ := h
  · exact h.tidy
  · exact h.tidy

/-- A link without session owns nothing. -/
theorem Link.Owns.vacant {l : Link} {k : Inventory} (h : l.Owns k) (hl : l.session = none) :
    l = {} ∧ k.Vacant := by
  obtain h | ⟨c, s, rfl, -⟩ := h
  · exact h
  · cases hl

namespace Publisher

open Publishing (Ensures)

variable {k : Inventory} {l : Link}

/-- **Opening succeeds, or opens nothing**: once there is a connection, nothing can fail. -/
theorem leads_establish (p : Publisher) (h : k.Vacant) :
    Within.Leads Inventory.contract (fun r k => k.Occupied r.1 r.2) Inventory.Vacant p.establish
      k := by
  refine Within.Leads.bind (Q := fun _ k => k.Vacant) ?_ fun factory k h => ?_
  · refine Within.leads_call h.tidy fun limit reply k' hr => ?_
    obtain rfl := hr.eq_of_isAloof rfl
    refine ⟨h.tidy, ?_⟩
    cases reply.outcome <;> exact h
  refine Within.Leads.bind (Q := fun c k => k.Linked {} c) ?_ fun c k h => ?_
  · refine Within.leads_call h.tidy fun limit reply k' hr => ?_
    obtain ⟨e, hout, rfl⟩ | ⟨hout, rfl⟩ := hr.createConnection <;> rw [hout]
    · exact ⟨h.tidy, h⟩
    · exact ⟨h.connected.tidy rfl, h.connected⟩
  refine Within.Leads.bind (Q := fun _ k => k.Linked { started := true } c) ?_ fun _ k h => ?_
  · refine Within.leads_call (c := .start c) (h.tidy rfl) fun limit reply k' hr => ?_
    have h' := h.update fun connection => { connection with started := true }
    obtain ⟨hout, rfl⟩ := hr.start h.connections.getElem? rfl
    rw [hout]
    exact ⟨h'.tidy rfl, h'⟩
  refine Within.Leads.bind (Q := fun _ k => k.Linked Inventory.inUse c) ?_ fun _ k h => ?_
  · refine Within.leads_observe (h.tidy rfl) fun _ k' hr => ?_
    have h' := h.update fun connection => { connection with observer := some .publisher }
    obtain rfl : k' = k.update c _ := hr
    exact ⟨h'.tidy rfl, h'⟩
  refine Within.Leads.bind (Q := fun s k => k.Occupied c s) ?_ fun s k h =>
    Within.leads_pure h.tidy h
  refine Within.leads_call (h.tidy rfl) fun limit reply k' hr => ?_
  obtain ⟨hout, rfl⟩ := hr.createSession h.connections.getElem? rfl rfl
  rw [hout]
  exact ⟨h.opened.tidy, h.opened⟩

/-- **Opening leaves a link that owns what is open.** -/
theorem owns_openLink (p : Publisher) (h : k.Vacant) :
    Ensures Inventory.contract (fun _ l k => l.Owns k) p.openLink {} k :=
  ensures_openLink_of_leads (leads_establish p h)
    (fun r _ h' => Or.inr ⟨r.1, r.2, rfl, h'⟩) fun _ h' => Or.inl ⟨rfl, h'⟩

/-- **Closing leaves nothing open**, and an empty link. -/
theorem owns_releaseLink (p : Publisher) (h : l.Owns k) :
    Ensures Inventory.contract (fun _ l k => l = {} ∧ k.Vacant) p.releaseLink l k := by
  obtain ⟨rfl, h⟩ | ⟨c, s, rfl, h⟩ := h
  · exact ensures_releaseLink_by p _ h.tidy (fun _ => h) nofun (fun _ h' _ => h') nofun
  refine ensures_releaseLink_by (M := Inventory.Linked Inventory.inUse c) p _ h.tidy nofun ?_
    nofun ?_
  · rintro _ ⟨⟩
    refine Within.gives_call h.tidy (fun limit reply k' hr => ?_) fun _ _ _ _ _ _ => trivial
    obtain rfl := hr.closeSession
    exact ⟨h.sessionClosed.tidy rfl, h.sessionClosed⟩
  · rintro _ k' hk' h' ⟨⟩
    refine Within.gives_call hk' (fun limit reply k'' hr => ?_) fun _ _ _ _ _ _ => trivial
    obtain rfl := hr.closeConnection
    have h'' := h'.connectionClosed rfl
    exact ⟨h''.tidy, h''⟩

/-- **What a link owns is kept**: a step of a publish opens and closes nothing. -/
theorem owns_invariant : Link.Invariant Inventory.contract Link.Owns where
  holds h := h.tidy
  opened p _ _ h hl := by
    obtain ⟨rfl, hvacant⟩ := h.vacant hl
    exact owns_openLink p hvacant
  released p _ _ h := (owns_releaseLink p h).mono fun _ _ _ _ h' => ⟨h'.1, Or.inl h'⟩
  stepped := by
    rintro c limit l k reply k' h (haloof | ⟨s, rfl, hs⟩) hr
    · obtain rfl := Inventory.Allows.eq_of_isAloof hr haloof
      exact h
    · obtain rfl | ⟨count, rfl⟩ := Inventory.Allows.commit hr
      · exact h
      · obtain ⟨rfl, -⟩ | ⟨c, s', rfl, h⟩ := h
        · cases hs
        · cases hs
          exact Or.inr ⟨c, s, rfl, h.committed count⟩

end Publisher
end CatalogFeed
