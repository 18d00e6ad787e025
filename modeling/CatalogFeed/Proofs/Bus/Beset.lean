import CatalogFeed.Proofs.Bus.Account
import CatalogFeed.Proofs.Script.Contract

/-!
# Proofs/Bus/Beset — a bus in memory that troubles go on striking

A `Beset` bus is a hub together with the troubles that are still to strike it, some before each
request.  A trouble that strikes during the pause of a call could as well strike after it, since
what a call does after its pause depends on no trouble; so this is all that can happen to a bus.

* `Contract.core`: calls are answered as the core allows;
* `Beset.answers_core`: whatever strikes it, a bus in memory honours this contract;
* `Beset.delivered_run`: and keeps what it has delivered.
-/

namespace CatalogFeed

open Bus (access Core)

/-! ## Answers as the core allows -/

/-- Calls are answered as the core allows. -/
def Contract.core : Contract access Core where
  answers
    | .call c _, k, reply, k' => k.Allows c reply.outcome k'
    | .observe _, k, _, k' => k' = k
  holds _ := True

namespace Bus

/-! ## Troubles before each request -/

/-- A bus in memory, and the troubles that are still to strike it, before one request after the
other. -/
structure Beset where
  hub : Hub
  troubles : List (List Trouble) := []

namespace Beset

/-- The hub that the next request meets. -/
def struck (b : Beset) : Hub :=
  { b.hub with broker := (b.troubles.headD []).foldl Broker.struck b.hub.broker }

/-- A bus in memory that troubles go on striking. -/
def service : Service access Beset where
  serve request now b :=
    (Hub.service.serve request now b.struck).within fun hub => ⟨hub, b.troubles.tail⟩

/-- What no trouble touches, no number of troubles touches. -/
theorem foldl_struck {α : Type} {view : Broker → α} (h : ∀ b t, view (b.struck t) = view b)
    (troubles : List Trouble) (broker : Broker) :
    view (troubles.foldl Broker.struck broker) = view broker := by
  induction troubles generalizing broker with
  | nil => rfl
  | cons t troubles ih => rw [List.foldl_cons, ih, h]

theorem core_struck (b : Beset) : b.struck.core = b.hub.core :=
  foldl_struck Broker.core_struck (b.troubles.headD []) b.hub.broker

theorem delivered_struck (b : Beset) : b.struck.broker.delivered = b.hub.broker.delivered :=
  foldl_struck (fun broker t => congrArg Account.delivered (broker.account_struck t))
    (b.troubles.headD []) b.hub.broker

/-- **Whatever strikes it, a bus in memory answers as the core allows.** -/
theorem answers_core (request : Request) (now : Nat) (b : Beset) :
    Contract.core.answers request b.hub.core (service.serve request now b).reply
      (service.serve request now b).state.hub.core := by
  cases request with
  | call c limit => exact b.core_struck ▸ b.struck.allows_call limit now c
  | observe connection => exact b.core_struck

/-- **And what it has delivered stays.** -/
theorem delivered_serve (request : Request) (now : Nat) (b : Beset) :
    b.hub.broker.delivered <+: (service.serve request now b).state.hub.broker.delivered := by
  rw [← b.delivered_struck]
  cases request with
  | call c limit => exact (b.struck.account_call limit now c).delivered_grows
  | observe connection => exact List.prefix_refl _

theorem delivered_run {α : Type} (script : Script access α) (b : Beset) (j : Journal) :
    b.hub.broker.delivered <+: (service.run script b j).2.1.hub.broker.delivered := by
  induction script generalizing b j with
  | done a => exact List.prefix_refl _
  | log e script ih => exact ih b _
  | ask r next ih => exact (b.delivered_serve r j.clock).trans (ih _ _ _)

end Beset
end Bus

open Bus (Beset)

/-- **A script brings about on a bus in memory what it ensures**, whatever strikes the bus. -/
theorem Script.Ensures.run_beset {α : Type} {Q : α → Core → Prop} {p : Script access α} {b : Beset}
    (h : p.Ensures .core Q b.hub.core) (j : Journal) :
    Q (Beset.service.run p b j).1 (Beset.service.run p b j).2.1.hub.core :=
  Script.Ensures.run (K := .core) (h := Beset.service.handler)
    (fun s : Beset × Journal => s.1.hub.core) (fun r t => t.1.answers_core r t.2.clock)
    (fun _ _ => rfl) h

end CatalogFeed
