import CatalogFeed.Proofs.Bus.Account
import Mathlib.Data.List.DropRight

/-!
# Proofs/Bus/Ledger — a broker delivers what its sessions commit, and nothing else

Any number of clients use one broker at once (`Traffic`): they ask calls on whatever connections and
sessions they like, a call that pauses is answered or given up later, and troubles strike in
between.  Every answer is recorded, and the record alone says what has to be delivered (`ledger`):
with every commit that succeeds, what was sent on its session since the last transaction of that
session ended.

* `Account.Agrees`: the account of a broker agrees with a record;
* `Account.Agrees.entry`: and still does after one more entry;
* `Account.Void`: a session that delivers nothing any more;
* `Hub.agrees_recorded`: a bus in memory that records its answers agrees with them;
* `Traffic.delivers_by_ledger`: any moves of any clients, and any troubles.
-/

namespace CatalogFeed.Bus

/-! ## The record -/

/-- A call that has been answered, and when. -/
structure Entry where
  call : Call
  outcome : Outcome call.Answer
  time : Nat

/-- The message that has been sent on session `s`, if this is such an answer. -/
def Entry.sent? (s : SessionId) : Entry → Option (String × Message)
  | ⟨.send s' topic message, .ok (), _⟩ => if s' = s then some (topic, message) else none
  | _ => none

/-- Whether a transaction of session `s` has ended, by a commit or by a rollback. -/
def Entry.ends (s : SessionId) : Entry → Bool
  | ⟨.commit s', .ok (), _⟩ => s' == s
  | ⟨.rollback s', .ok (), _⟩ => s' == s
  | _ => false

/-- **What was sent on a session since its last transaction ended**, in order. -/
def sentSince (s : SessionId) (record : List Entry) : List (String × Message) :=
  (record.rtakeWhile fun x => !x.ends s).filterMap (Entry.sent? s)

/-- What an entry delivers after those before it: a commit delivers what was sent. -/
def Entry.delivers (past : List Entry) : Entry → List Delivered
  | ⟨.commit s, .ok (), time⟩ => (sentSince s past).map (Delivered.of s time)
  | _ => []

/-- What a record delivers after those entries. -/
def ledgerAfter (past : List Entry) : List Entry → List Delivered
  | [] => []
  | x :: later => x.delivers past ++ ledgerAfter (past ++ [x]) later

/-- **What has to be delivered**, as the record says. -/
def ledger (record : List Entry) : List Delivered := ledgerAfter [] record

theorem ledgerAfter_concat (past record : List Entry) (x : Entry) :
    ledgerAfter past (record ++ [x]) = ledgerAfter past record ++ x.delivers (past ++ record) := by
  induction record generalizing past with
  | nil => simp [ledgerAfter]
  | cons y record ih => simp [ledgerAfter, ih]

theorem ledger_concat (record : List Entry) (x : Entry) :
    ledger (record ++ [x]) = ledger record ++ x.delivers record := ledgerAfter_concat [] record x

theorem sentSince_concat (s : SessionId) (record : List Entry) (x : Entry) :
    sentSince s (record ++ [x]) =
      if x.ends s then [] else sentSince s record ++ (x.sent? s).toList := by
  rw [sentSince, List.rtakeWhile_concat]
  cases x.ends s with
  | true => rfl
  | false =>
    simp only [Bool.not_false, if_true, List.filterMap_append, Bool.false_eq_true, if_false,
      sentSince]
    cases h : x.sent? s <;> simp [h]

/-- An entry that neither ends a transaction nor reports a message. -/
theorem sentSince_concat_of_idle {s : SessionId} {x : Entry} (hends : x.ends s = false)
    (hsent : x.sent? s = none) (record : List Entry) :
    sentSince s (record ++ [x]) = sentSince s record := by
  simp [sentSince_concat, hends, hsent]

/-- An answer that bears on no account has no part in the ledger. -/
theorem Entry.idle {x : Entry} (h : x.call.bears x.outcome = false) :
    (∀ s, x.ends s = false) ∧ (∀ s, x.sent? s = none) ∧ ∀ past, x.delivers past = [] := by
  obtain ⟨call, outcome, time⟩ := x
  cases call <;> cases outcome <;>
    first | exact ⟨fun _ => rfl, fun _ => rfl, fun _ => rfl⟩ | cases h

/-- Only a commit that succeeds delivers something. -/
theorem Entry.delivers_cases (x : Entry) (past : List Entry) : x.delivers past = [] ∨
    ∃ s, x = ⟨.commit s, .ok (), x.time⟩ ∧
      x.delivers past = (sentSince s past).map (Delivered.of s x.time) := by
  obtain ⟨call, outcome, time⟩ := x
  cases call with
  | commit s =>
    cases outcome with
    | ok _ => exact Or.inr ⟨s, rfl, rfl⟩
    | _ => exact Or.inl rfl
  | _ => exact Or.inl rfl

/-! ## Accounts that agree with a record -/

namespace Account

variable {k k' : Account}

/-- What a slip was before a change. -/
theorem exists_of_modify {slips : List Slip} {s i : SessionId} {f : Slip → Slip} {slip : Slip}
    (h : (slips.modify s f)[i]? = some slip) :
    ∃ before, slips[i]? = some before ∧ slip = if s = i then f before else before := by
  rw [List.getElem?_modify, Option.map_eq_map, Option.map_eq_some_iff] at h
  obtain ⟨before, hbefore, rfl⟩ := h
  refine ⟨before, hbefore, ?_⟩
  split <;> rfl

/-- **The account agrees with a record**: it has delivered what the record says, and on every
session that is not closed, what was sent since its last transaction ended is pending. -/
structure Agrees (k : Account) (record : List Entry) : Prop where
  delivered : k.delivered = ledger record
  pending : ∀ (s : SessionId) (slip : Slip), k.slips[s]? = some slip → slip.closed = false →
    slip.pending = sentSince s record
  /-- Nothing was sent on sessions that do not exist. -/
  fresh : ∀ s, k.slips.length ≤ s → sentSince s record = []
  /-- No session is from the future. -/
  ages : ∀ (s : SessionId) (slip : Slip), k.slips[s]? = some slip → slip.generation ≤ k.generation

namespace Agrees

variable {record : List Entry}

/-- It still does after sessions have been invalidated. -/
theorem aged (h : k.Agrees record) (n : Nat) :
    ({ k with generation := k.generation + n } : Account).Agrees record :=
  ⟨h.delivered, h.pending, h.fresh, fun s slip hs => Nat.le_add_right_of_le (h.ages s slip hs)⟩

/-- It still does after one more entry that concerns only session `s`, and does `f` to it. -/
theorem about (h : k.Agrees record) {x : Entry} {s : SessionId} {f : Slip → Slip}
    (hslips : k'.slips = k.slips.modify s f) (hgeneration : k'.generation = k.generation)
    (hdelivered : k'.delivered = k.delivered ++ x.delivers record)
    (hothers : ∀ i, s ≠ i → x.ends i = false ∧ x.sent? i = none)
    (hfresh : k.slips.length ≤ s → sentSince s (record ++ [x]) = [])
    (hpending : ∀ before, k.slips[s]? = some before → (f before).closed = false →
      (f before).pending = sentSince s (record ++ [x]))
    (hage : ∀ before, (f before).generation = before.generation) : k'.Agrees (record ++ [x]) where
  delivered := by rw [hdelivered, ledger_concat, h.delivered]
  pending i slip hi hopen := by
    rw [hslips] at hi
    obtain ⟨before, hbefore, rfl⟩ := exists_of_modify hi
    by_cases hsi : s = i
    · subst hsi
      rw [if_pos rfl] at hopen ⊢
      exact hpending before hbefore hopen
    · obtain ⟨hends, hsent⟩ := hothers i hsi
      rw [if_neg hsi] at hopen ⊢
      rw [sentSince_concat_of_idle hends hsent, h.pending i before hbefore hopen]
  fresh i hi := by
    rw [hslips, List.length_modify] at hi
    by_cases hsi : s = i
    · subst hsi
      exact hfresh hi
    · obtain ⟨hends, hsent⟩ := hothers i hsi
      rw [sentSince_concat_of_idle hends hsent, h.fresh i hi]
  ages i slip hi := by
    rw [hslips] at hi
    obtain ⟨before, hbefore, rfl⟩ := exists_of_modify hi
    have hsame : (if s = i then f before else before).generation = before.generation := by
      split
      · exact hage before
      · rfl
    rw [hsame, hgeneration]
    exact h.ages i before hbefore

/-- It still does after one more entry that has no part in the ledger, if no slip has changed but
new ones, with nothing pending. -/
theorem idle (h : k.Agrees record) {x : Entry} (hends : ∀ s, x.ends s = false)
    (hsent : ∀ s, x.sent? s = none) (hdelivers : x.delivers record = []) {opened : List Slip}
    (hopened : ∀ slip ∈ opened, slip.pending = [] ∧ slip.generation ≤ k.generation) :
    ({ k with slips := k.slips ++ opened } : Account).Agrees (record ++ [x]) := by
  have hsame (s) := sentSince_concat_of_idle (hends s) (hsent s) record
  have hslip : ∀ (s : SessionId) (slip : Slip), (k.slips ++ opened)[s]? = some slip →
      k.slips[s]? = some slip ∨ slip ∈ opened ∧ k.slips.length ≤ s := by
    intro s slip hs
    rw [List.getElem?_append] at hs
    split at hs
    · exact Or.inl hs
    · exact Or.inr ⟨List.mem_of_getElem? hs, by omega⟩
  refine ⟨?_, fun s slip hs hopen => ?_, fun s hs => ?_, fun s slip hs => ?_⟩
  · rw [ledger_concat, hdelivers, List.append_nil, h.delivered]
  · rw [hsame]
    obtain hs | ⟨hmem, hlength⟩ := hslip s slip hs
    · exact h.pending s slip hs hopen
    · rw [(hopened slip hmem).1, h.fresh s hlength]
  · rw [hsame]
    rw [List.length_append] at hs
    exact h.fresh s (by omega)
  · obtain hs | ⟨hmem, -⟩ := hslip s slip hs
    · exact h.ages s slip hs
    · exact (hopened slip hmem).2

/-- **The account still agrees with the record after one more entry** that it allows, if what was
sent was sent on a session that exists. -/
theorem entry (h : k.Agrees record) {now : Nat} {c : Call} {out : Outcome c.Answer}
    (ha : k.Allows now c out k')
    (hplaced : ∀ s m, Entry.sent? s ⟨c, out, now⟩ = some m → s < k.slips.length) :
    k'.Agrees (record ++ [⟨c, out, now⟩]) := by
  cases ha with
  | quiet hquiet =>
    obtain ⟨hends, hsent, hdelivers⟩ := Entry.idle (x := ⟨c, out, now⟩) hquiet
    have hidle : ({ k with slips := k.slips ++ [] } : Account).Agrees _ :=
      h.idle hends hsent (hdelivers record) nofun
    rwa [List.append_nil] at hidle
  | opened connection =>
    refine h.idle (fun _ => rfl) (fun _ => rfl) rfl fun slip hslip => ?_
    obtain rfl := List.mem_singleton.mp hslip
    exact ⟨rfl, Nat.le_refl _⟩
  | sent s topic message =>
    have hsince : sentSince s (record ++ [⟨.send s topic message, .ok (), now⟩]) =
        sentSince s record ++ [(topic, message)] := by
      simp [sentSince_concat, Entry.ends, Entry.sent?]
    refine h.about (f := Slip.extended (topic, message)) rfl rfl (List.append_nil _).symm
      (fun i hi => ⟨rfl, if_neg hi⟩) (fun hlength => ?_) (fun before hbefore hopen => ?_)
      fun _ => rfl
    · exact absurd (hplaced s (topic, message) (if_pos rfl)) (Nat.not_lt.mpr hlength)
    · rw [hsince, ← h.pending s before hbefore hopen, Slip.extended]
  | @committed s slip hv =>
    have hsince : sentSince s (record ++ [⟨.commit s, .ok (), now⟩]) = [] := by
      simp [sentSince_concat, Entry.ends]
    refine h.about (f := Slip.cleared) rfl rfl ?_ (fun i hi => ⟨by simp [Entry.ends, hi], rfl⟩)
      (fun _ => hsince) (fun _ _ _ => hsince.symm) fun _ => rfl
    rw [Entry.delivers, ← h.pending s slip hv.held hv.isOpen]
  | rolledBack s =>
    have hsince : sentSince s (record ++ [⟨.rollback s, .ok (), now⟩]) = [] := by
      simp [sentSince_concat, Entry.ends]
    exact h.about (f := Slip.cleared) rfl rfl (List.append_nil _).symm
      (fun i hi => ⟨by simp [Entry.ends, hi], rfl⟩) (fun _ => hsince) (fun _ _ _ => hsince.symm)
      fun _ => rfl
  | closed s =>
    have hsince := sentSince_concat_of_idle (s := s) (x := ⟨.closeSession s, .ok (), now⟩) rfl rfl
      record
    exact h.about (f := Slip.close) rfl rfl (List.append_nil _).symm (fun i hi => ⟨rfl, rfl⟩)
      (fun hlength => hsince.trans (h.fresh s hlength)) (fun before _ hopen => by simp at hopen)
      Slip.generation_close

end Agrees

/-! ## Sessions that deliver nothing any more -/

/-- The session is closed or invalidated. -/
def Void (k : Account) (s : SessionId) : Prop :=
  ∃ slip, k.slips[s]? = some slip ∧ (slip.closed = true ∨ slip.generation < k.generation)

/-- What has been delivered from a session. -/
def deliveredFrom (k : Account) (s : SessionId) : List Delivered :=
  k.delivered.filter (·.session == s)

/-- A session that has been closed is void. -/
theorem void_close {s : SessionId} (h : s < k.slips.length) : (k.update s Slip.close).Void s := by
  refine ⟨k.slips[s].close, ?_, Or.inl (Slip.closed_close _)⟩
  rw [update, List.getElem?_modify_eq, List.getElem?_eq_getElem h]
  rfl

/-- Every session that exists is void after an invalidation. -/
theorem Agrees.void_aged {record : List Entry} (h : k.Agrees record) {s : SessionId}
    (hs : s < k.slips.length) : ({ k with generation := k.generation + 1 } : Account).Void s :=
  have hslip := List.getElem?_eq_getElem hs
  ⟨k.slips[s], hslip, Or.inr (Nat.lt_succ_of_le (h.ages s _ hslip))⟩

namespace Void

variable {s : SessionId}

theorem aged (h : k.Void s) (n : Nat) :
    ({ k with generation := k.generation + n } : Account).Void s := by
  obtain ⟨slip, hs, hvoid⟩ := h
  exact ⟨slip, hs, hvoid.imp_right fun hold => Nat.lt_add_right n hold⟩

/-- A session stays void when slips are changed that stay closed, and keep their generation. -/
theorem modify (h : k.Void s) {i : SessionId} {f : Slip → Slip}
    (hslips : k'.slips = k.slips.modify i f) (hgeneration : k'.generation = k.generation)
    (hclosed : ∀ slip, slip.closed = true → (f slip).closed = true)
    (hage : ∀ slip, (f slip).generation = slip.generation) : k'.Void s := by
  obtain ⟨slip, hs, hvoid⟩ := h
  refine ⟨if i = s then f slip else slip, ?_, ?_⟩
  · rw [hslips, List.getElem?_modify, hs]
    split <;> rfl
  · rw [hgeneration]
    split
    · exact hvoid.imp (hclosed slip) fun hold => (hage slip).symm ▸ hold
    · exact hvoid

/-- **A void session stays void, and nothing more is delivered from it.** -/
theorem allows (h : k.Void s) {now : Nat} {c : Call} {out : Outcome c.Answer}
    (ha : k.Allows now c out k') : k'.Void s ∧ k'.deliveredFrom s = k.deliveredFrom s := by
  cases ha with
  | quiet => exact ⟨h, rfl⟩
  | opened =>
    obtain ⟨slip, hs, hvoid⟩ := h
    obtain ⟨hlength, -⟩ := List.getElem?_eq_some_iff.mp hs
    exact ⟨⟨slip, (List.getElem?_append_left hlength).trans hs, hvoid⟩, rfl⟩
  | sent => exact ⟨h.modify rfl rfl (fun _ hc => hc) fun _ => rfl, rfl⟩
  | @committed i valid hv =>
    refine ⟨h.modify rfl rfl (fun _ hc => hc) fun _ => rfl, ?_⟩
    -- a session that commits is valid, and so is another one
    have hother : i ≠ s := by
      rintro rfl
      obtain ⟨slip, hs, hvoid⟩ := h
      obtain rfl : slip = valid := Option.some.inj (hs.symm.trans hv.held)
      rcases hvoid with hclosed | hold
      · exact absurd (hclosed.symm.trans hv.isOpen) (by decide)
      · exact absurd hv.current (Nat.ne_of_lt hold)
    have hnone : (valid.pending.map (Delivered.of i now)).filter (·.session == s) = [] := by
      rw [List.filter_eq_nil_iff]
      intro d hd
      obtain ⟨m, -, rfl⟩ := List.mem_map.mp hd
      simpa [Delivered.of] using hother
    rw [deliveredFrom, List.filter_append, hnone, List.append_nil, deliveredFrom]
  | rolledBack => exact ⟨h.modify rfl rfl (fun _ hc => hc) fun _ => rfl, rfl⟩
  | closed =>
    exact ⟨h.modify rfl rfl (fun slip _ => slip.closed_close) Slip.generation_close, rfl⟩

end Void
end Account

/-! ## Traffic -/

/-- Any number of clients at one broker. -/
structure Traffic where
  hub : Hub
  clock : Nat := 0
  /-- The calls that pause. -/
  underway : List Call := []
  /-- The answers so far, oldest first. -/
  record : List Entry := []

/-- Something that happens. -/
inductive Traffic.Move where
  /-- A client asks a call. -/
  | ask (call : Call)
  /-- The pause of a call ends. -/
  | answer (i : Nat)
  /-- A client gives up a call that pauses. -/
  | giveUp (i : Nat)
  | observe (connection : ConnectionId) (observer : Observer)
  | strike (trouble : Trouble)
  | elapse (ms : Nat)

namespace Traffic

/-- A broker that no one has used. -/
def start (directory : Directory) : Traffic := { hub := { directory } }

/-- A call has been answered. -/
def answered (t : Traffic) (hub : Hub) (c : Call) (outcome : Outcome c.Answer) : Traffic :=
  { t with hub, record := t.record ++ [⟨c, outcome, t.clock⟩] }

/-- **What a move does.** -/
def act (t : Traffic) : Move → Traffic
  | .ask c =>
    match t.hub.attempt t.clock c with
    | (some timed, hub) => t.answered hub c timed.outcome
    | (none, hub) => { t with hub, underway := t.underway ++ [c] }
  | .answer i =>
    match t.underway[i]? with
    | some c =>
      match t.hub.resume c with
      | some (answer, hub) =>
        { t.answered hub c (.ok answer) with underway := t.underway.eraseIdx i }
      | none => t
    | none => t
  | .giveUp i => { t with underway := t.underway.eraseIdx i }
  | .observe connection observer =>
    { t with hub := { t.hub with broker := t.hub.broker.observe connection observer } }
  | .strike trouble => { t with hub := { t.hub with broker := t.hub.broker.struck trouble } }
  | .elapse ms => { t with clock := t.clock + ms }

/-- What has come of any number of moves. -/
def run (t : Traffic) (moves : List Move) : Traffic := moves.foldl act t

/-- The messages delivered so far. -/
def delivered (t : Traffic) : List Delivered := t.hub.broker.delivered

/-- **A move either answers one call, as the account allows, or it leaves the account alone** but
for the invalidation of sessions.  A send that goes underway is on a session that exists. -/
inductive Goes (t : Traffic) (move : Move) (t' : Traffic) : Prop where
  | answers (c : Call) (outcome : Outcome c.Answer)
      (commit : ∀ s, c = .commit s → move = .ask (.commit s))
      (record : t'.record = t.record ++ [⟨c, outcome, t.clock⟩])
      (allows : t.hub.account.Allows t.clock c outcome t'.hub.account)
      (sent : ∀ s m, Entry.sent? s ⟨c, outcome, t.clock⟩ = some m → .send s m.1 m.2 ∈ t.underway)
      (underway : t'.underway ⊆ t.underway)
  | stays (n : Nat) (record : t'.record = t.record)
      (account : t'.hub.account =
        { t.hub.account with generation := t.hub.account.generation + n })
      (underway : ∀ s topic message, .send s topic message ∈ t'.underway →
        .send s topic message ∈ t.underway ∨ s < t.hub.account.slips.length)

/-- A send that is answered at once is refused. -/
theorem sent?_attempt {h h' : Hub} {now : Nat} {c : Call} {timed : Timed c.Answer}
    (ha : h.attempt now c = (some timed, h')) (s : SessionId) :
    Entry.sent? s ⟨c, timed.outcome, now⟩ = none := by
  cases c with
  | send s' topic message =>
    rw [Hub.attempt] at ha
    split at ha
    · cases ha
      rfl
    · cases ha
  | _ => rfl

/-- What pauses has been sent only if it is a send. -/
theorem eq_send_of_sent? {c : Call} {outcome : Outcome c.Answer} {time : Nat} {s : SessionId}
    {m : String × Message} (h : Entry.sent? s ⟨c, outcome, time⟩ = some m) :
    c = .send s m.1 m.2 := by
  cases c with
  | send s' topic message =>
    cases outcome with
    | ok _ =>
      simp only [Entry.sent?, Option.ite_none_right_eq_some, Option.some.injEq] at h
      obtain ⟨rfl, rfl⟩ := h
      rfl
    | _ => cases h
  | _ => cases h

theorem goes_act (t : Traffic) (move : Move) : t.Goes move (t.act move) := by
  have hsame : ∀ {t' : Traffic}, t'.record = t.record → t'.hub.account = t.hub.account →
      t'.underway ⊆ t.underway → t.Goes move t' :=
    fun hrecord haccount hunderway =>
      .stays 0 hrecord haccount fun s topic message hmem => Or.inl (hunderway hmem)
  cases move with
  | ask c =>
    rw [act]
    cases ha : t.hub.attempt t.clock c with
    | mk timed? hub =>
      cases timed? with
      | some timed =>
        refine .answers c timed.outcome (fun s hs => hs ▸ rfl) rfl (Hub.account_attempt ha)
          (fun s m hm => ?_) (List.Subset.refl _)
        exact absurd ((sent?_attempt ha s).symm.trans hm) nofun
      | none =>
        obtain ⟨haccount, hvalid⟩ := Hub.account_pause ha
        refine .stays 0 rfl haccount fun s topic message hmem => ?_
        rcases List.mem_append.mp hmem with hmem | hmem
        · exact Or.inl hmem
        · obtain ⟨slip, hslip⟩ := hvalid s topic message (List.mem_singleton.mp hmem).symm
          exact Or.inr (List.getElem?_eq_some_iff.mp hslip.held).1
  | answer i =>
    rw [act]
    cases hc : t.underway[i]? with
    | none => exact hsame rfl rfl (List.Subset.refl _)
    | some c =>
      dsimp only
      cases hr : t.hub.resume c with
      | none => exact hsame rfl rfl (List.Subset.refl _)
      | some resumed =>
        refine .answers c (.ok resumed.1) (fun s hs => ?_) rfl (Hub.account_resume t.clock hr)
          (fun s m hm => ?_) List.eraseIdx_subset
        · subst hs
          cases hr
        · exact eq_send_of_sent? hm ▸ List.mem_of_getElem? hc
  | giveUp i => exact hsame rfl rfl List.eraseIdx_subset
  | observe connection observer => exact hsame rfl rfl (List.Subset.refl _)
  | strike trouble =>
    exact .stays trouble.generations rfl (t.hub.broker.account_struck trouble)
      fun s topic message hmem => Or.inl hmem
  | elapse ms => exact hsame rfl rfl (List.Subset.refl _)

/-- **What holds at any moment**: the account agrees with the record, and what is being sent is sent
on sessions that exist. -/
structure Sound (t : Traffic) : Prop where
  agrees : t.hub.account.Agrees t.record
  underway : ∀ s topic message, .send s topic message ∈ t.underway →
    s < t.hub.account.slips.length

theorem sound_start (directory : Directory) : (start directory).Sound where
  agrees := ⟨rfl, nofun, fun _ _ => rfl, nofun⟩
  underway _ _ _ hmem := by cases hmem

namespace Sound

variable {t : Traffic}

/-- **Every move keeps it.** -/
theorem act (h : t.Sound) (move : Move) : (t.act move).Sound := by
  rcases t.goes_act move with ⟨c, outcome, -, hrecord, hallows, hsent, hunderway⟩ |
    ⟨n, hrecord, haccount, hunderway⟩
  · refine ⟨?_, fun s topic message hmem => ?_⟩
    · rw [hrecord]
      exact h.agrees.entry hallows fun s m hm => h.underway s m.1 m.2 (hsent s m hm)
    · exact Nat.lt_of_lt_of_le (h.underway s topic message (hunderway hmem)) hallows.slips_le
  · refine ⟨?_, fun s topic message hmem => ?_⟩
    · rw [hrecord, haccount]
      exact h.agrees.aged n
    · rw [haccount]
      exact (hunderway s topic message hmem).elim (h.underway s topic message) id

theorem run (h : t.Sound) (moves : List Move) : (t.run moves).Sound := by
  induction moves generalizing t with
  | nil => exact h
  | cons move moves ih => exact ih (h.act move)

end Sound

/-- **A session is void once it is closed, or all sessions are invalidated.** -/
theorem Sound.void_act {t : Traffic} (h : t.Sound) {s : SessionId} {move : Move}
    (hs : s < t.hub.account.slips.length)
    (hmove : move = .ask (.closeSession s) ∨ move = .strike .invalidation) :
    (t.act move).hub.account.Void s ∧
      (t.act move).hub.account.deliveredFrom s = t.hub.account.deliveredFrom s := by
  rcases hmove with rfl | rfl
  · have hclosed : (t.act (.ask (.closeSession s))).hub.account =
        t.hub.account.update s Slip.close := t.hub.broker.account_closeSession s
    rw [hclosed]
    exact ⟨Account.void_close hs, rfl⟩
  · exact ⟨h.agrees.void_aged hs, rfl⟩

/-- **Nothing more is delivered from a void session**, whatever happens. -/
theorem void_run {t : Traffic} {s : SessionId} (h : t.hub.account.Void s) (moves : List Move) :
    (t.run moves).hub.account.deliveredFrom s = t.hub.account.deliveredFrom s := by
  induction moves generalizing t with
  | nil => rfl
  | cons move moves ih =>
    have hstep : (t.act move).hub.account.Void s ∧
        (t.act move).hub.account.deliveredFrom s = t.hub.account.deliveredFrom s := by
      rcases t.goes_act move with ⟨c, outcome, -, -, hallows, -⟩ | ⟨n, -, haccount, -⟩
      · exact h.allows hallows
      · rw [haccount]
        exact ⟨h.aged n, rfl⟩
    exact (ih hstep.1).trans hstep.2

/-- **A broker delivers what its sessions commit, and nothing else.**  After any moves of any
clients and any troubles, what has been delivered is what the record says.  A move delivers
something only if it is a commit that succeeds.  A commit that fails delivers nothing, and what was
sent stays sent.  From the moment a session is closed, or all sessions are invalidated, nothing more
is delivered from it. -/
theorem delivers_by_ledger (directory : Directory) (moves : List Move) (move : Move) :
    let t := (start directory).run moves
    let t' := t.act move
    t.delivered = ledger t.record ∧
    (t'.delivered = t.delivered ∨ ∃ s, move = .ask (.commit s) ∧
      t'.record = t.record ++ [⟨.commit s, .ok (), t.clock⟩] ∧
      t'.delivered = t.delivered ++ (sentSince s t.record).map (Delivered.of s t.clock)) ∧
    (∀ s e, t'.record = t.record ++ [⟨.commit s, .error e, t.clock⟩] →
      t'.delivered = t.delivered ∧ ∀ i, sentSince i t'.record = sentSince i t.record) ∧
    ∀ s, s < t.hub.broker.sessionsOpened →
      move = .ask (.closeSession s) ∨ move = .strike .invalidation →
      ∀ later, (t'.run later).delivered.filter (·.session == s) =
        t.delivered.filter (·.session == s) := by
  intro t t'
  have hsound : t.Sound := (sound_start directory).run moves
  have hledger : t.delivered = ledger t.record := hsound.agrees.delivered
  have hledger' : t'.delivered = ledger t'.record := (hsound.act move).agrees.delivered
  refine ⟨hledger, ?_, fun s e hrecord => ?_, fun s hs hmove later => ?_⟩
  · rcases t.goes_act move with ⟨c, outcome, hcommit, hrecord, -⟩ | ⟨n, hrecord, -⟩
    · rw [hledger', hledger, hrecord, ledger_concat]
      rcases Entry.delivers_cases ⟨c, outcome, t.clock⟩ t.record with hnone | ⟨s, hentry, hdelivers⟩
      · exact Or.inl (by rw [hnone, List.append_nil])
      · have hc : c = .commit s := congrArg Entry.call hentry
        exact Or.inr ⟨s, hcommit s hc, by rw [hentry], by rw [hdelivers]⟩
    · exact Or.inl (by rw [hledger', hrecord, hledger])
  · refine ⟨?_, fun i => ?_⟩
    · rw [hledger', hrecord, ledger_concat, hledger]
      exact List.append_nil _
    · rw [hrecord, sentSince_concat_of_idle rfl rfl]
  · have hlength : s < t.hub.account.slips.length := by
      rw [Hub.account, Broker.account, List.length_map]
      exact hs
    obtain ⟨hvoid, hstep⟩ := hsound.void_act hlength hmove
    exact (void_run hvoid later).trans hstep

/-- A commit that fails keeps its message until the session commits again. -/
example :
    let send (s : SessionId) (topic : String) : List Move :=
      [.ask (.createTopic s topic), .answer 0, .ask (.send s topic (.map [])), .answer 0]
    let t := (start {}).run <|
      [.ask (.createConnection 0), .ask (.start 0), .ask (.createSession 0),
        .ask (.createSession 0)] ++ send 0 "a" ++ send 1 "b" ++
      [.strike (.commitFailures 1), .ask (.commit 0), .ask (.commit 1), .ask (.commit 0)]
    t.delivered.map (·.topic) = ["b", "a"] ∧ (ledger t.record).map (·.topic) = ["b", "a"] := by
  decide +kernel

end Traffic

/-! ## A bus with its record -/

namespace Hub

/-- A send that succeeds is on a session that exists. -/
theorem lt_of_sent? {h : Hub} {limit now : Nat} {c : Call} {s : SessionId} {m : String × Message}
    (hsent : Entry.sent? s ⟨c, (h.call limit now c).reply.outcome, now⟩ = some m) :
    s < h.account.slips.length := by
  refine call_cases (P := fun out _ => Entry.sent? s ⟨c, out, now⟩ = some m →
    s < h.account.slips.length) (fun ha hs => ?_) (fun ha _ hs => ?_) (fun _ hs => ?_) limit hsent
  · exact absurd ((Traffic.sent?_attempt ha s).symm.trans hs) nofun
  · obtain ⟨slip, hslip⟩ := (account_pause ha).2 s m.1 m.2 (Traffic.eq_send_of_sent? hs)
    exact (List.getElem?_eq_some_iff.mp hslip.held).1
  · cases c <;> cases hs

/-- A bus in memory that keeps a record of its answers. -/
def recorded : Service access (Hub × List Entry) where
  serve
    | .call c limit, now, (h, record) =>
      let served := service.serve (.call c limit) now h
      served.within fun h => (h, record ++ [⟨c, served.reply.outcome, now⟩])
    | .observe connection, now, (h, record) =>
      (service.serve (.observe connection) now h).within fun h => (h, record)

/-- **Keeping a record changes nothing else.** -/
theorem recorded_within (r : Request) (now : Nat) (t : Hub × List Entry) :
    (recorded.serve r now t).within Prod.fst = service.serve r now t.1 := by
  cases r <;> rfl

/-- **The account of the bus agrees with its record**, whatever it is asked. -/
theorem agrees_recorded (r : Request) (now : Nat) (t : Hub × List Entry)
    (h : t.1.account.Agrees t.2) :
    let t' := (recorded.serve r now t).state
    t'.1.account.Agrees t'.2 := by
  cases r with
  | call c limit => exact h.entry (t.1.account_call limit now c) fun _ _ => lt_of_sent?
  | observe connection => exact h

end Hub
end CatalogFeed.Bus
