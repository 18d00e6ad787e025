import CatalogFeed.Proofs.Script.Contract

/-!
# Proofs/Script/Transcript — the record of what was asked and answered

A `Transcript` lists the requests of a script with their replies.  `Contract.recording` lets every
request be answered at will and keeps only the transcript; `Service.recorded` keeps the transcript
of any service.  So what a script ensures under the one contract it brings about on every service
(`Ensures.run_recorded`).

A service that does to a part of its state what another does runs scripts as the other
(`Service.run_part`), and keeps whatever its answers keep (`Service.run_keeps`).
-/

namespace CatalogFeed

/-- A request with the reply that it was given. -/
structure Exchange (I : Interface) where
  request : I.Request
  reply : I.Reply request

/-- Requests with their replies, oldest first. -/
abbrev Transcript (I : Interface) := List (Exchange I)

variable {I : Interface} {α σ τ : Type}

/-! ## Parts of a state -/

/-- **What a service does to a part of its state** it does in every run. -/
theorem Service.run_part {service : Service I σ} {service' : Service I τ} {part : τ → σ}
    (h : ∀ r now t, (service'.serve r now t).within part = service.serve r now (part t))
    (p : Script I α) (t : τ) (j : Journal) :
    service.run p (part t) j =
      ((service'.run p t j).1, part (service'.run p t j).2.1, (service'.run p t j).2.2) := by
  induction p generalizing t j with
  | done a => rfl
  | log e p ih => exact ih t _
  | ask r k ih =>
    rw [Service.run, Script.run_ask]
    dsimp only [Service.handler]
    rw [← h r j.clock t]
    exact ih _ _ _

/-- **What each answer keeps** is kept in every run. -/
theorem Service.run_keeps {service : Service I σ} {P : σ → Prop}
    (h : ∀ r now s, P s → P (service.serve r now s).state) (p : Script I α) {s : σ} (hs : P s)
    (j : Journal) : P (service.run p s j).2.1 := by
  induction p generalizing s j with
  | done a => exact hs
  | log e p ih => exact ih hs _
  | ask r k ih => exact ih _ (h r j.clock s hs) _

/-! ## Transcripts -/

/-- Any reply may be given, and is written down; `H` has to hold of the transcript. -/
def Contract.recording (H : Transcript I → Prop) : Contract I (Transcript I) where
  answers r t reply t' := t' = t ++ [⟨r, reply⟩]
  holds := H

/-- The service, with a transcript of what it was asked and what it answered. -/
def Service.recorded (service : Service I σ) : Service I (σ × Transcript I) where
  serve r now s :=
    let served := service.serve r now s.1
    served.within fun state => (state, s.2 ++ [⟨r, served.reply⟩])

/-- **Keeping a transcript changes nothing else.** -/
theorem Service.recorded_run (service : Service I σ) (p : Script I α) (s : σ) (t : Transcript I)
    (j : Journal) :
    let after := service.recorded.run p (s, t) j
    (after.1, after.2.1.1, after.2.2) = service.run p s j := by
  have hserve (r : I.Request) (now : Nat) (u : σ × Transcript I) :
      (service.recorded.serve r now u).within Prod.fst = service.serve r now u.1 := rfl
  exact (Service.run_part hserve p (s, t) j).symm

/-- **Every service answers at will**, so a script brings about on it what it ensures. -/
theorem Script.Ensures.run_recorded {H : Transcript I → Prop} {Q : α → Transcript I → Prop}
    {p : Script I α} {t : Transcript I} (h : p.Ensures (.recording H) Q t) (service : Service I σ)
    (s : σ) (j : Journal) :
    Q (service.recorded.run p (s, t) j).1 (service.recorded.run p (s, t) j).2.1.2 :=
  Script.Ensures.run (h := service.recorded.handler) (fun s : (σ × Transcript I) × Journal => s.1.2)
    (fun _ _ => rfl) (fun _ _ => rfl) h

/-- What a script ensures of its value alone it brings about on every handler. -/
theorem Script.Ensures.run_value {H : Transcript I → Prop} {Q : α → Prop} {p : Script I α}
    {t : Transcript I} (h : p.Ensures (.recording H) (fun a _ => Q a) t) (handler : Handler I σ)
    (s : σ) : Q (p.run handler s).1 := by
  induction p generalizing t s with
  | done a => exact h.2
  | log e p ih => exact ih h _
  | ask r k ih => exact ih _ (h.2 (handler.serve r s).1 _ rfl) _

end CatalogFeed
