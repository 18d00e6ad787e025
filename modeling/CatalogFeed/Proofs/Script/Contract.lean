import CatalogFeed.Service

/-!
# Proofs/Script/Contract — what a script ensures, whoever answers it

A `Contract` says how the requests of a script may be answered, and what has to hold whenever the
script stands still.  `p.Ensures K Q s` means: answered under `K` from state `s`, the script `p`
keeps what has to hold, and `Q` holds of its value and of the state that it ends in.

* `ensures_bind`: a sequence ensures what its parts ensure one after the other;
* `Ensures.run`: what a script ensures is what comes out of running it on any handler that honours
  the contract.
-/

namespace CatalogFeed

/-- How requests may be answered, and what has to hold whenever a script stands still. -/
structure Contract (I : Interface) (σ : Type) where
  /-- In the first state the reply may be given, leaving the second state. -/
  answers : (request : I.Request) → σ → I.Reply request → σ → Prop
  holds : σ → Prop

namespace Script

variable {I : Interface} {α β σ τ : Type} {K : Contract I σ}

/-- **What a script ensures**: `K.holds` before every request and at the end, and there `Q`. -/
def Ensures (K : Contract I σ) (Q : α → σ → Prop) : Script I α → σ → Prop
  | done a, s => K.holds s ∧ Q a s
  | log _ p, s => p.Ensures K Q s
  | ask r k, s => K.holds s ∧ ∀ reply s', K.answers r s reply s' → (k reply).Ensures K Q s'

theorem Ensures.holds {Q : α → σ → Prop} {p : Script I α} {s : σ} (h : p.Ensures K Q s) :
    K.holds s := by
  induction p with
  | done a => exact h.1
  | log e p ih => exact ih h
  | ask r k ih => exact h.1

theorem Ensures.mono {Q Q' : α → σ → Prop} (hQ : ∀ a s, K.holds s → Q a s → Q' a s)
    {p : Script I α} {s : σ} (h : p.Ensures K Q s) : p.Ensures K Q' s := by
  induction p generalizing s with
  | done a => exact ⟨h.1, hQ a s h.1 h.2⟩
  | log e p ih => exact ih h
  | ask r k ih => exact ⟨h.1, fun reply s' hr => ih reply (h.2 reply s' hr)⟩

/-- **A sequence ensures what its parts ensure in turn.** -/
@[simp] theorem ensures_bind (Q : β → σ → Prop) (f : α → Script I β) (p : Script I α) (s : σ) :
    (p.bind f).Ensures K Q s ↔ p.Ensures K (fun a s => (f a).Ensures K Q s) s := by
  induction p generalizing s with
  | done a => exact ⟨fun h => ⟨h.holds, h⟩, fun h => h.2⟩
  | log e p ih => exact ih s
  | ask r k ih =>
    exact and_congr_right fun _ => forall_congr' fun reply => forall_congr' fun s' =>
      imp_congr_right fun _ => ih reply s'

/-- **Running a script brings about what it ensures**, on any handler that honours the contract on
the part of its state that the contract is about. -/
theorem Ensures.run {Q : α → σ → Prop} {h : Handler I τ} (part : τ → σ)
    (hs : ∀ r t, K.answers r (part t) (h.serve r t).1 (part (h.serve r t).2))
    (hn : ∀ e t, part (h.note e t) = part t) {p : Script I α} {t : τ}
    (hp : p.Ensures K Q (part t)) : Q (p.run h t).1 (part (p.run h t).2) := by
  induction p generalizing t with
  | done a => exact hp.2
  | log e p ih =>
    refine ih (t := h.note e t) ?_
    rw [hn]
    exact hp
  | ask r k ih => exact ih _ (hp.2 _ _ (hs r t))

end Script

/-! ## Services -/

/-- Requests are answered exactly as the service does at some time. -/
def Contract.exact {I : Interface} {σ : Type} (service : Service I σ) : Contract I σ where
  answers r s reply s' :=
    ∃ now, reply = (service.serve r now s).reply ∧ s' = (service.serve r now s).state
  holds _ := True

/-- What a script ensures with a service it brings about on the service. -/
theorem Script.Ensures.run_exact {I : Interface} {α σ : Type} {service : Service I σ}
    {Q : α → σ → Prop} {p : Script I α} {s : σ} (h : p.Ensures (.exact service) Q s) (j : Journal) :
    Q (service.run p s j).1 (service.run p s j).2.1 :=
  Script.Ensures.run (K := .exact service) (h := service.handler) (fun s : σ × Journal => s.1)
    (fun _ t => ⟨t.2.clock, rfl, rfl⟩) (fun _ _ => rfl) h

/-- **A service that does not look at the clock** does to its state what a handler does. -/
theorem Service.run_timeless {I : Interface} {α σ : Type} {service : Service I σ}
    {h : Handler I σ} (hnote : ∀ e s, h.note e s = s)
    (hserve : ∀ r now s,
      h.serve r s = ((service.serve r now s).reply, (service.serve r now s).state))
    (script : Script I α) (s : σ) (j : Journal) :
    ∃ j', service.run script s j = ((script.run h s).1, (script.run h s).2, j') := by
  induction script generalizing s j with
  | done a => exact ⟨j, rfl⟩
  | log e script ih =>
    rw [Script.run_log, hnote]
    exact ih s _
  | ask r next ih =>
    rw [Script.run_ask, hserve r j.clock s]
    exact ih _ _ _

end CatalogFeed
