import CatalogFeed.Proofs.Bus.Ledger
import CatalogFeed.Proofs.Publish.Outline

/-!
# Proofs/Publish/Notices — what a publisher brings to a bus in memory are notices

Of what a publisher does, only its sends bring something to a bus, and a publish sends only the
message of its payload and tag.  So on a bus in memory every message that is pending or delivered
came about in this way.

* `Bus.Account.Carries.allows`: one call;
* `Outline.keeping_sound`: an outline of a publish that keeps whatever its calls keep;
* `Publishing.KeepsNotices`: what publishers do.
-/

namespace CatalogFeed

open Bus (access Account Call ConnectionId Delivered Hub Outcome Request SessionId Slip)

/-! ## Messages on an account -/

namespace Bus

/-- The request sends no message without `P`. -/
def Request.SendsOnly (P : Message → Prop) : Request → Prop
  | .call (.send _ _ message) _ => P message
  | _ => True

theorem Request.sendsOnly_of_housekeeping {P : Message → Prop} {r : Request}
    (h : r.isHousekeeping = true) : r.SendsOnly P := by
  cases r with
  | observe _ => trivial
  | call c _ => cases c <;> trivial

namespace Account

/-- **The account carries only messages with `P`**, pending or delivered. -/
structure Carries (P : Message → Prop) (k : Account) : Prop where
  pending : ∀ (s : SessionId) (slip : Slip), k.slips[s]? = some slip → ∀ m ∈ slip.pending, P m.2
  delivered : ∀ d ∈ k.delivered, P d.message

namespace Carries

variable {P : Message → Prop} {now : Nat} {k k' : Account}

theorem empty (generation : Nat) : Carries P ⟨[], [], generation⟩ :=
  ⟨fun _ _ h => by simp at h, nofun⟩

theorem update (h : k.Carries P) (s : SessionId) {f : Slip → Slip}
    (hf : ∀ slip, (∀ m ∈ slip.pending, P m.2) → ∀ m ∈ (f slip).pending, P m.2) :
    (k.update s f).Carries P := by
  refine ⟨fun i slip hslip => ?_, h.delivered⟩
  obtain ⟨before, hbefore, rfl⟩ := exists_of_modify hslip
  split
  · exact hf before (h.pending i before hbefore)
  · exact h.pending i before hbefore

/-- **A call that sends only such messages** leaves only such messages. -/
theorem allows (h : k.Carries P) {c : Call} {limit : Nat} {out : Outcome c.Answer}
    (hc : (Request.call c limit).SendsOnly P) (ha : k.Allows now c out k') : k'.Carries P := by
  have hcleared : ∀ slip : Slip, (∀ m ∈ slip.pending, P m.2) →
      ∀ m ∈ slip.cleared.pending, P m.2 := fun _ _ => List.forall_mem_nil _
  cases ha with
  | quiet => exact h
  | opened =>
    refine ⟨fun s slip hslip => ?_, h.delivered⟩
    rw [List.getElem?_append] at hslip
    split at hslip
    · exact h.pending s slip hslip
    · obtain rfl := List.mem_singleton.mp (List.mem_of_getElem? hslip)
      exact List.forall_mem_nil _
  | sent s topic message =>
    exact h.update s fun slip hslip =>
      List.forall_mem_append.mpr ⟨hslip, List.forall_mem_singleton.mpr hc⟩
  | @committed s slip hv =>
    exact ⟨(h.update s hcleared).pending, List.forall_mem_append.mpr
      ⟨h.delivered, List.forall_mem_map.mpr (h.pending s slip hv.held)⟩⟩
  | rolledBack s => exact h.update s hcleared
  | closed s =>
    refine h.update s fun slip hslip => ?_
    rw [Slip.close]
    split
    · exact hslip
    · exact List.forall_mem_nil _

end Carries
end Account

/-- Calls are answered as the account allows at some time. -/
def lawful : Contract access Account where
  answers
    | .call c _, k, reply, k' => ∃ now, k.Allows now c reply.outcome k'
    | .observe _, k, _, k' => k' = k
  holds _ := True

theorem Account.Carries.answers {P : Message → Prop} {k k' : Account} {r : Request}
    {reply : access.Reply r} (h : k.Carries P) (hr : r.SendsOnly P)
    (ha : lawful.answers r k reply k') : k'.Carries P := by
  cases r with
  | call c limit =>
    obtain ⟨now, hallows⟩ := ha
    exact h.allows hr hallows
  | observe connection => exact ha ▸ h

/-- **A bus in memory answers in this way.** -/
theorem Hub.lawful_serve (r : Request) (t : Hub × Journal) :
    lawful.answers r t.1.account (Hub.service.handler.serve r t).1
      (Hub.service.handler.serve r t).2.1.account := by
  cases r with
  | call c limit => exact ⟨t.2.clock, t.1.account_call limit t.2.clock c⟩
  | observe connection => rfl

end Bus

/-! ## Publishes that keep something -/

namespace Outline

variable {σ : Type} {K : Contract access σ}

/-- The outline of a publish of which nothing is known but that `P` holds all along. -/
def keeping (P : σ → Prop) (a : Announcement) : Outline K a where
  idle _ := P
  ready _ _ := True
  declared _ _ := P
  queued _ := P
  lost := P
  delivered := P
  trusted _ _ := True
  settled _ _ := True

/-- The contract keeps `P` under every request that sends nothing but the message of `a`. -/
structure Kept (K : Contract access σ) (P : σ → Prop) (a : Announcement) : Prop where
  holds : ∀ s, P s → K.holds s
  answers : ∀ (r : Request) {s reply s'}, r.SendsOnly (· = a.payload.message a.tag) → P s →
    K.answers r s reply s' → P s'

variable {P : σ → Prop} {a : Announcement}

theorem Kept.sheltered (h : Kept K P a) : Publisher.Sheltered K P :=
  ⟨h.holds, fun r _ _ _ hr => h.answers r (Request.sendsOnly_of_housekeeping hr)⟩

/-- A step either succeeds or fails. -/
theorem keeping_step {id : SessionId} {α : Type} {s : σ} (h : P s) (out : Outcome α) :
    (∃ answer, out = .ok answer) ∨ (keeping (K := K) P a).Fails id out s := by
  cases out with
  | ok answer => exact Or.inl ⟨answer, rfl⟩
  | error e => exact Or.inr ⟨rfl, h, fun _ _ _ => trivial⟩
  | silent => exact Or.inr ⟨rfl, h, fun _ _ _ => trivial⟩

/-- **A publish keeps what its requests keep.** -/
theorem keeping_sound (h : Kept K P a) : (keeping (K := K) P a).Sound where
  idle_sheltered _ := h.sheltered
  lost_sheltered := h.sheltered
  declared_holds := h.holds _
  queued_holds := h.holds _
  delivered_holds := h.holds _
  lost_of_idle hs := hs
  created _ _ _ := trivial
  declare := by
    intro n id limit s reply s' _ hs _ ha
    have hs' : P s' := h.answers (.call (.createTopic id a.topic) limit) trivial hs ha
    exact (keeping_step hs' reply.outcome).imp (fun ⟨topic, hout⟩ => ⟨topic, hout, hs'⟩)
      fun hfails => ⟨hs', hfails⟩
  send := by
    intro id topic limit s reply s' hs ha
    have hs' : P s' := h.answers (.call (.send id topic _) limit) rfl hs ha
    exact (keeping_step hs' reply.outcome).imp_left fun ⟨_, hout⟩ => ⟨hout, hs'⟩
  commit := by
    intro id limit s reply s' hs ha
    have hs' : P s' := h.answers (.call (.commit id) limit) trivial hs ha
    exact (keeping_step hs' reply.outcome).imp_left fun ⟨_, hout⟩ => ⟨hout, hs', trivial⟩
  rollback := by
    intro id limit s reply s' hs _ ha
    exact ⟨h.answers (.call (.rollback id) limit) trivial hs ha, fun _ => trivial⟩

end Outline

/-! ## Notices -/

/-- The message of a payload with a tag. -/
def Message.IsNotice (m : Message) : Prop :=
  ∃ (payload : Payload) (tag : NoticeTag), m = payload.message tag

/-- The account carries only notices. -/
def Bus.Account.CarriesNotices (k : Account) : Prop := k.Carries Message.IsNotice

theorem Outline.kept_notices (a : Announcement) : Kept Bus.lawful Account.CarriesNotices a where
  holds _ _ := trivial
  answers r _ _ _ hr hs ha := by
    refine Account.Carries.answers hs ?_ ha
    cases r with
    | observe _ => trivial
    | call c _ =>
      cases c with
      | send _ _ message => exact ⟨a.payload, a.tag, hr⟩
      | _ => trivial

/-- Opening and closing bring no messages. -/
theorem Publisher.sheltered_notices : Sheltered Bus.lawful Account.CarriesNotices :=
  ⟨fun _ _ => trivial, fun _ _ _ _ hr hs =>
    Account.Carries.answers hs (Request.sendsOnly_of_housekeeping hr)⟩

namespace Publishing

variable {α : Type}

/-- **The program brings only notices** to a bus in memory. -/
def KeepsNotices (program : Publishing α) : Prop :=
  ∀ l (k : Account), k.CarriesNotices →
    Ensures Bus.lawful (fun _ _ k => Account.CarriesNotices k) program l k

theorem keepsNotices_pure (a : α) : KeepsNotices (pure a) := fun _ _ h => ⟨trivial, h⟩

theorem keepsNotices_note (entry : LogEntry) : KeepsNotices (note entry) :=
  fun _ _ h => ⟨trivial, h⟩

theorem KeepsNotices.bind {β : Type} {program : Publishing α} {next : α → Publishing β}
    (h : KeepsNotices program) (hnext : ∀ a, KeepsNotices (next a)) :
    KeepsNotices (program >>= next) :=
  fun l k hk => (ensures_bind _ _ _ l k).mpr ((h l k hk).mono fun a l k _ hk => hnext a l k hk)

/-- **Run on a bus in memory**, the program leaves only notices. -/
theorem KeepsNotices.run {program : Publishing α} (h : KeepsNotices program) (link : Link)
    {hub : Hub} (j : Journal) (hk : hub.account.CarriesNotices) :
    (program.run Hub.service link hub j).2.2.1.account.CarriesNotices :=
  Script.Ensures.run (K := Bus.lawful) (h := Hub.service.handler)
    (fun t : Hub × Journal => t.1.account) Bus.Hub.lawful_serve (fun _ _ => rfl) (h link _ hk)

end Publishing

namespace Publisher

open Publishing (KeepsNotices)

/-- **To carry a decision out** brings only notices. -/
theorem keepsNotices_carryOut (p : Publisher) (decision : Decision) :
    KeepsNotices (p.carryOut decision) := by
  cases decision with
  | ignore => exact Publishing.keepsNotices_pure _
  | suppress => exact Publishing.keepsNotices_pure _
  | announce a =>
    intro l k hk
    have hsound := Outline.keeping_sound (Outline.kept_notices a)
    refine (hsound.ensures_send p hk fun _ _ => trivial).mono fun _ _ k' _ hk' => ?_
    exact hk'.2.elim (fun h => h.2) fun h => h.2

theorem keepsNotices_connect (p : Publisher) : KeepsNotices p.connect := by
  have hsession : KeepsNotices p.session := fun l k hk =>
    (ensures_session (R := fun _ _ => True) sheltered_notices (fun _ _ _ _ _ _ _ _ _ => trivial) p
      hk fun _ _ => trivial).mono fun _ _ _ _ hk' => hk'.2.1
  exact hsession.bind fun _ => Publishing.keepsNotices_pure _

theorem keepsNotices_close (p : Publisher) : KeepsNotices p.close := by
  have hrelease : KeepsNotices p.releaseLink := fun l k hk =>
    (ensures_releaseLink sheltered_notices p l hk).mono fun _ _ _ _ hk' => hk'.2
  exact hrelease.bind fun _ => Publishing.keepsNotices_note _

end Publisher
end CatalogFeed
