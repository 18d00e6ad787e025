import CatalogFeed.Proofs.Publish.Outline
import CatalogFeed.Proofs.Script.Transcript
import Mathlib.Data.List.DropRight

/-!
# Proofs/Publish/Handover — no transaction is left half open, whatever the bus answers

One publisher after another uses the same link.  The bus may answer every call with success, with
any error, or not at all, and the calls that clean up may fail as well.

* `sends_hand_over`: when a publish returns, the link holds no session, or one whose last call in a
  transaction was a commit or a rollback that succeeded, and on which, since it was opened, no call
  was cut off, reported it stale, or failed to roll back.
-/

namespace CatalogFeed

open Bus (access Call SessionId Outcome)

namespace Bus

/-! ## Reading a transcript -/

/-- Whether the exchange is a call in a transaction of the session. -/
def transacts (id : SessionId) (x : Exchange access) : Bool :=
  match x.request with
  | .call (.createTopic s _) _ => s == id
  | .call (.send s _ _) _ => s == id
  | .call (.commit s) _ => s == id
  | .call (.rollback s) _ => s == id
  | _ => false

/-- Whether the exchange opens the session. -/
def opens (id : SessionId) : Exchange access → Bool
  | ⟨.call (.createSession _) _, ⟨.ok s, _⟩⟩ => s == id
  | _ => false

/-- Whether the exchange ends a transaction: a commit or a rollback that succeeded. -/
def settles : Exchange access → Bool
  | ⟨.call (.commit _) _, ⟨.ok _, _⟩⟩ => true
  | ⟨.call (.rollback _) _, ⟨.ok _, _⟩⟩ => true
  | _ => false

/-- Whether the exchange leaves a transaction in doubt: a rollback that failed, a call that was cut
off, or an answer that poisons the session. -/
def spoils : Exchange access → Bool
  | ⟨.call (.rollback _) _, ⟨.error _, _⟩⟩ => true
  | ⟨.call _ _, ⟨.error e, _⟩⟩ => e.poisonsSession
  | ⟨.call _ _, ⟨.silent, _⟩⟩ => true
  | _ => false

/-- What has been exchanged since the session was opened last. -/
def sinceOpened (id : SessionId) (t : Transcript access) : Transcript access :=
  t.rtakeWhile fun x => !opens id x

/-- Since the session was opened, nothing has left its transaction in doubt. -/
def Unspoilt (id : SessionId) (t : Transcript access) : Prop :=
  ∀ x ∈ sinceOpened id t, transacts id x = true → spoils x = false

/-- **The session can be handed over**: nothing has left its transaction in doubt, and the last one
has been ended. -/
structure HandedOver (id : SessionId) (t : Transcript access) : Prop where
  unspoilt : Unspoilt id t
  settled : ∃ x, ((sinceOpened id t).filter (transacts id)).getLast? = some x ∧ settles x = true

/-! ### One exchange more -/

theorem sinceOpened_append {id : SessionId} (t : Transcript access) {x : Exchange access}
    (hx : transacts id x = true) : sinceOpened id (t ++ [x]) = sinceOpened id t ++ [x] := by
  refine List.rtakeWhile_concat_pos _ _ x ?_
  obtain ⟨_ | _, _⟩ := x
  · next c limit reply => cases c <;> first | rfl | exact absurd hx Bool.false_ne_true
  · rfl

theorem unspoilt_append {id : SessionId} {t : Transcript access} {x : Exchange access}
    (h : Unspoilt id t) (hx : transacts id x = true → spoils x = false) :
    Unspoilt id (t ++ [x]) := by
  intro y hy htr
  rw [sinceOpened, List.rtakeWhile_concat] at hy
  split at hy
  · rcases List.mem_append.mp hy with hy | hy
    · exact h y hy htr
    · obtain rfl := List.mem_singleton.mp hy
      exact hx htr
  · exact absurd hy List.not_mem_nil

/-- A session that has just been opened is unspoilt. -/
theorem unspoilt_of_opens {id : SessionId} {t : Transcript access} {x : Exchange access}
    (hx : opens id x = true) : Unspoilt id (t ++ [x]) := by
  intro y hy
  rw [sinceOpened, List.rtakeWhile_concat, if_neg (by simp [hx])] at hy
  exact absurd hy List.not_mem_nil

theorem handedOver_append {id : SessionId} {t : Transcript access} {x : Exchange access}
    (h : Unspoilt id t) (htr : transacts id x = true) (hset : settles x = true)
    (hx : spoils x = false) : HandedOver id (t ++ [x]) where
  unspoilt := unspoilt_append h fun _ => hx
  settled := ⟨x, by simp [sinceOpened_append t htr, htr], hset⟩

end Bus

/-! ## The outline -/

namespace Outline

open Bus (Unspoilt HandedOver unspoilt_append unspoilt_of_opens handedOver_append)

/-- **What is known of a session while a bus answers at will**: nothing has left its transaction in
doubt. -/
def handover (a : Announcement) : Outline (Contract.recording fun _ => True) a where
  idle _ _ := True
  ready id t := Unspoilt id t
  declared id _ t := Unspoilt id t
  queued id t := Unspoilt id t
  lost _ := True
  delivered _ := True
  trusted id t := Unspoilt id t
  settled id t := HandedOver id t

theorem handover_fails {a : Announcement} {id : SessionId} {t : Transcript access} {c : Call}
    {limit spent : Nat} {out : Outcome c.Answer} (h : Unspoilt id t) (hout : out.isOk = false)
    (hc : ∀ e, Bus.spoils ⟨.call c limit, ⟨.error e, spent⟩⟩ = e.poisonsSession) :
    (handover a).Fails id out (t ++ [⟨.call c limit, ⟨out, spent⟩⟩]) := by
  refine ⟨hout, trivial, ?_⟩
  rintro e rfl hp
  exact unspoilt_append h fun _ => (hc e).trans hp

theorem handover_sound (a : Announcement) : (handover a).Sound where
  idle_sheltered _ := ⟨fun _ _ => trivial, fun _ _ _ _ _ _ _ => trivial⟩
  lost_sheltered := ⟨fun _ _ => trivial, fun _ _ _ _ _ _ _ => trivial⟩
  declared_holds _ := trivial
  queued_holds _ := trivial
  delivered_holds _ := trivial
  lost_of_idle _ := trivial
  created := by
    rintro n c limit t ⟨out, spent⟩ t' id - rfl rfl
    exact unspoilt_of_opens (beq_self_eq_true id)
  declare := by
    rintro n id limit t ⟨out, spent⟩ t' - - h rfl
    cases out with
    | ok topic => exact Or.inl ⟨topic, rfl, unspoilt_append h fun _ => rfl⟩
    | error e => exact Or.inr ⟨trivial, handover_fails h rfl fun _ => rfl⟩
    | silent => exact Or.inr ⟨trivial, handover_fails h rfl fun _ => rfl⟩
  send := by
    rintro id topic limit t ⟨out, spent⟩ t' h rfl
    cases out with
    | ok v => exact Or.inl ⟨rfl, unspoilt_append h fun _ => rfl⟩
    | error e => exact Or.inr (handover_fails h rfl fun _ => rfl)
    | silent => exact Or.inr (handover_fails h rfl fun _ => rfl)
  commit := by
    rintro id limit t ⟨out, spent⟩ t' h rfl
    cases out with
    | ok v => exact Or.inl ⟨rfl, trivial, handedOver_append h (beq_self_eq_true id) rfl rfl⟩
    | error e => exact Or.inr (handover_fails h rfl fun _ => rfl)
    | silent => exact Or.inr (handover_fails h rfl fun _ => rfl)
  rollback := by
    rintro id limit t ⟨out, spent⟩ t' - h rfl
    refine ⟨trivial, ?_⟩
    rintro rfl
    exact handedOver_append h (beq_self_eq_true id) rfl rfl

end Outline

/-! ## One publish after another -/

open Publishing (Ensures)

/-- What every publish needs of its link and leaves behind. -/
def Unencumbered (l : Link) (t : Transcript access) : Prop :=
  l.session = none ∨ ∃ id, l.session = some id ∧ Bus.HandedOver id t

theorem ensures_send_unencumbered (p : Publisher) (a : Announcement) {l : Link}
    {t : Transcript access} (h : Unencumbered l t) :
    Ensures (.recording fun _ => True) (fun _ => Unencumbered) (p.send a) l t := by
  have ht : ∀ id, l.session = some id → Bus.Unspoilt id t := by
    intro id hid
    rcases h with h | ⟨id', hid', h⟩
    · simp [h] at hid
    · obtain rfl : id' = id := Option.some.inj (hid'.symm.trans hid)
      exact h.unspoilt
  refine ((Outline.handover_sound a).ensures_send p trivial ht).mono fun _ l' t' _ h' => ?_
  cases hl : l'.session with
  | none => exact Or.inl hl
  | some id => exact Or.inr ⟨id, hl, h'.1 id hl⟩

theorem ensures_sends_unencumbered (sends : List (Publisher × Announcement)) {l : Link}
    {t : Transcript access} (h : Unencumbered l t) :
    Ensures (.recording fun _ => True) (fun _ => Unencumbered)
      (sends.mapM fun s => s.1.send s.2) l t := by
  induction sends generalizing l t with
  | nil => exact ⟨trivial, h⟩
  | cons s sends ih =>
    rw [List.mapM_cons, Publishing.ensures_bind]
    refine (ensures_send_unencumbered s.1 s.2 h).mono fun d l' t' _ h' => ?_
    rw [Publishing.ensures_bind]
    exact (ih h').mono fun ds l'' t'' hs h'' => ⟨hs, h''⟩

/-- **No half-open transaction is inherited.**  Whatever bus answers, when the last of any sequence
of publishes returns, the link is unencumbered. -/
theorem sends_hand_over {σ : Type} (bus : Service access σ) (state : σ)
    (sends : List (Publisher × Announcement)) (journal : Journal) :
    let program := sends.mapM fun s => s.1.send s.2
    let after := program.run bus.recorded {} (state, []) journal
    Unencumbered after.2.1 after.2.2.1.2 :=
  (ensures_sends_unencumbered sends (Or.inl rfl)).run_recorded bus state journal

end CatalogFeed
