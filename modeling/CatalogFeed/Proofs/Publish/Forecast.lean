import CatalogFeed.Proofs.Publish.ExactlyOnce
import CatalogFeed.Proofs.Publish.Story

/-!
# Proofs/Publish/Forecast — what comes of a publish

What a publish ends with, which troubles it uses up and which session it leaves held are all decided
by the condition of the hub and by the session that is held when it begins.

* `Settles`: what a publish does once it is known whether its topic is declared;
* `Forecast`: the whole outcome, with the declarations and sessions that its milestones show;
* `send_as_forecast`: every publish that begins with a free link, after any schedule of publishes
  and troubles, comes out as forecast, unless the latency is exactly the limit: which of the two
  ends first is then left open.
-/

namespace CatalogFeed

open Bus (Condition Delivered Hub Milestone Outcome SessionId milestones)

namespace Bus

/-! ## Reading the milestones -/

/-- How often the topic was declared. -/
def attempts : List Milestone → Nat
  | [] => 0
  | .opened _ :: path => attempts path
  | .declared _ _ :: path => attempts path + 1

/-- The session on which the topic was declared in the end, if it was. -/
def declaredOn (path : List Milestone) : Option SessionId :=
  match path.getLast? with
  | some (.declared id (.ok _)) => some id
  | _ => none

/-- The outcome of the first declaration, and the milestones after it. -/
def firstDeclared : List Milestone → Option (Outcome String × List Milestone)
  | [] => none
  | .opened _ :: path => firstDeclared path
  | .declared _ out :: path => some (out, path)

/-- **The publish has reconnected**: its first declaration reported the session invalid, and after
that a session was opened. -/
def Reconnected (path : List Milestone) : Prop :=
  ∃ e rest id, firstDeclared path = some (.error e, rest) ∧ e.isSessionInvalid = true ∧
    .opened id ∈ rest

theorem declaredOn_concat (path : List Milestone) (id : SessionId) (out : Outcome String) :
    declaredOn (path ++ [.declared id out]) = if out.isOk then some id else none := by
  rw [declaredOn, List.getLast?_concat]
  cases out <;> rfl

theorem isSome_declaredOn (path : List Milestone) (id : SessionId) (out : Outcome String) :
    (declaredOn (path ++ [.declared id out])).isSome = out.isOk := by
  rw [declaredOn_concat]
  cases out.isOk <;> rfl

end Bus

namespace Publisher

open Bus (Reconnected attempts declaredOn firstDeclared)

variable {p : Publisher} {a : Announcement} {x y z : Condition} {l l' : Link} {usable : Prop}
  {d : Delivery} {declared : Bool}

/-! ## Once the topic is declared -/

/-- **What a publish does** to a condition, given whether its topic is `declared`: it uses up at
most one failure, and rolls back if it does. -/
structure Settles (a : Announcement) (x : Condition) (declared : Bool) (d : Delivery)
    (y : Condition) : Prop where
  delivered_iff_declared : d = .delivered ↔
    declared = true ∧ x.sendFailures = 0 ∧ x.commitFailures = 0
  delivered : d = .delivered →
    ∃ m : Delivered, m.content = a.content ∧ y.delivered = x.delivered ++ [m]
  failed : d ≠ .delivered → d = .failed ∧ y.delivered = x.delivered
  sendFailures : y.sendFailures =
    if declared = true ∧ 0 < x.sendFailures then x.sendFailures - 1 else x.sendFailures
  commitFailures : y.commitFailures =
    if declared = true ∧ x.sendFailures = 0 ∧ 0 < x.commitFailures then x.commitFailures - 1
    else x.commitFailures
  rollbacks : y.rollbacks =
    if declared = true ∧ (0 < x.sendFailures ∨ 0 < x.commitFailures) then x.rollbacks + 1
    else x.rollbacks
  unreachable : y.unreachable = x.unreachable
  latency : y.latency = x.latency
  directory : y.directory = x.directory

/-- Without a declared topic, a publish fails and changes nothing but the stale signals. -/
theorem settles_undeclared (signals : Nat) :
    Settles a x false .failed { x with staleSignals := signals } := by
  constructor <;> simp

theorem Finish.settles {r : Except Error Delivery} (h : Finish a x r y) :
    Settles a x true (reported r) y := by
  cases h with
  | rejected e hf => constructor <;> simp [reported, hf, Nat.pos_of_ne_zero hf]
  | uncommitted e hf hc => constructor <;> simp [reported, hf, hc, Nat.pos_of_ne_zero hc]
  | committed m hf hc hm =>
    constructor <;> simp [reported, hf, hc]
    exact hm

/-- Stale signals have nothing to do with it. -/
theorem Settles.of_signals {signals : Nat}
    (h : Settles a { x with staleSignals := signals } declared d y) : Settles a x declared d y where
  delivered_iff_declared := h.delivered_iff_declared
  delivered := h.delivered
  failed := h.failed
  sendFailures := h.sendFailures
  commitFailures := h.commitFailures
  rollbacks := h.rollbacks
  unreachable := h.unreachable
  latency := h.latency
  directory := h.directory

/-! ## One session -/

theorem Declares.isOk_iff {out : Outcome String} (h : Declares p usable x out y)
    (hne : x.latency ≠ some p.sendLimit) :
    out.isOk = true ↔ x.Prompt p.sendLimit ∧ usable ∧ x.staleSignals = 0 := by
  rw [← Condition.pause_le_iff hne]
  cases h with
  | signalled e hs he => simp [Outcome.isOk, hs]
  | stale e hs hv he => simp [Outcome.isOk, hv]
  | late hs hv ht => simp [Outcome.isOk, Nat.not_le.mpr ht]
  | done topic hs hv ht => simp [Outcome.isOk, hs, hv, ht]

/-- **A session is reported stale** by a signal, or because it is. -/
theorem Declares.invalid_iff {out : Outcome String} (h : Declares p usable x out y) :
    (∃ e, out = .error e ∧ e.isSessionInvalid = true) ↔ ¬ (usable ∧ x.staleSignals = 0) := by
  cases h with
  | signalled e hs he => simp [hs, he]
  | stale e hs hv he => simp [hv, he]
  | late hs hv ht => simp [hs, hv]
  | done topic hs hv ht => simp [hs, hv]

/-- What a publish on one session comes to. -/
theorem Round.outcome {out : Outcome String} {r : Except Error Delivery}
    (h : Round p a usable x l out r l' z) :
    (∃ y, Declares p usable x out y) ∧ z.staleSignals = x.staleSignals - 1 ∧
      Settles a x out.isOk (reported r) z ∧ l' = if out.isOk then l else {} := by
  cases h with
  | finished hd hf =>
    have hs := hf.settles
    obtain rfl := hd.condition
    refine ⟨⟨_, hd⟩, ?_, hs.of_signals, rfl⟩
    cases hf <;> rfl
  | discarded e hd hverdict =>
    obtain rfl := hd.condition
    cases out with
    | ok topic => cases hverdict
    | error e' => exact ⟨⟨_, hd⟩, rfl, settles_undeclared _, rfl⟩
    | silent => exact ⟨⟨_, hd⟩, rfl, settles_undeclared _, rfl⟩

/-! ## The forecast -/

/-- **What comes of a publish** of `a` that begins in condition `x` with the link `l`, whose session
is `usable` or not: what it answers, the link and the condition that it leaves, and the milestones
on the way. -/
structure Forecast (p : Publisher) (a : Announcement) (l : Link) (usable : Prop) (x : Condition)
    (d : Delivery) (l' : Link) (y : Condition) (path : List Milestone) : Prop
    extends Settles a x (declaredOn path).isSome d y where
  /-- When it is delivered. -/
  delivered_iff : d = .delivered ↔ x.Prompt p.sendLimit ∧ x.sendFailures = 0 ∧
    x.commitFailures = 0 ∧
    (usable ∧ x.staleSignals = 0 ∨ x.Opens p.factoryName ∧ x.staleSignals ≤ 1)
  /-- When its topic is declared. -/
  declared_iff : (declaredOn path).isSome = true ↔ x.Prompt p.sendLimit ∧
    (usable ∧ x.staleSignals = 0 ∨ x.Opens p.factoryName ∧ x.staleSignals ≤ 1)
  attempts_le : attempts path ≤ 2
  /-- A second declaration is made only after a reconnect, and always then. -/
  second_iff : attempts path = 2 ↔ Reconnected path
  /-- Every declaration uses up a stale signal, as long as there are any. -/
  staleSignals : y.staleSignals = x.staleSignals - min x.staleSignals (attempts path)
  /-- The session on which the topic was declared is kept, and no other. -/
  session : l'.session = declaredOn path
  /-- A failure without rollback leaves no session. -/
  released : d = .failed → y.rollbacks = x.rollbacks → l'.session = none
  /-- A session that is not reported stale is not replaced. -/
  held : x.Prompt p.sendLimit → usable → x.staleSignals = 0 → l' = l

theorem Begins.session {l₁ : Link} {id : SessionId} {usable₁ : Prop} {before : List Milestone}
    (h : Begins p l usable x l₁ id usable₁ before) : l₁.session = some id := by
  cases h with
  | held id hl => exact hl
  | opened => rfl

theorem Begins.attempts {l₁ : Link} {id : SessionId} {usable₁ : Prop} {before : List Milestone}
    (h : Begins p l usable x l₁ id usable₁ before) (out : Outcome String)
    (rest : List Milestone) :
    attempts (before ++ .declared id out :: rest) = attempts rest + 1 := by
  cases h <;> rfl

theorem Begins.reconnected_iff {l₁ : Link} {id : SessionId} {usable₁ : Prop}
    {before : List Milestone} (h : Begins p l usable x l₁ id usable₁ before)
    (out : Outcome String) (rest : List Milestone) :
    Reconnected (before ++ .declared id out :: rest) ↔
      (∃ e, out = .error e ∧ e.isSessionInvalid = true) ∧ ∃ id, .opened id ∈ rest := by
  have hfirst : firstDeclared (before ++ .declared id out :: rest) = some (out, rest) := by
    cases h <;> rfl
  rw [Reconnected, hfirst]
  constructor
  · rintro ⟨e, _, id', ⟨⟩, hinvalid, hid'⟩
    exact ⟨⟨e, rfl, hinvalid⟩, id', hid'⟩
  · rintro ⟨⟨e, rfl, hinvalid⟩, id', hid'⟩
    exact ⟨e, rest, id', rfl, hinvalid, hid'⟩

/-- The first session is usable if it was held so, or has just been opened. -/
theorem Begins.usable_iff {l₁ : Link} {id : SessionId} {usable₁ : Prop} {before : List Milestone}
    (h : Begins p l usable x l₁ id usable₁ before) :
    usable₁ ↔ usable ∨ l.session = none ∧ x.Opens p.factoryName := by
  cases h with
  | held id hl => simp [hl]
  | opened c id hl ho => simp [hl, ho]

/-- A first session that is reported stale was not held usable, or a signal was pending. -/
theorem Begins.not_usable {l₁ : Link} {id : SessionId} {usable₁ : Prop} {before : List Milestone}
    {e : Error} (h : Begins p l usable x l₁ id usable₁ before)
    (hd : Declares p usable₁ x (.error e) y) : ¬ (usable ∧ x.staleSignals = 0) := by
  rintro ⟨hu, hs⟩
  exact hd.invalid_iff.mp ⟨e, rfl, hd.isSessionInvalid⟩ ⟨h.usable_iff.mpr (.inl hu), hs⟩

theorem Begins.eq_of_usable {l₁ : Link} {id : SessionId} {usable₁ : Prop}
    {before : List Milestone} (h : Begins p l usable x l₁ id usable₁ before)
    (hnone : l.session = none → ¬ usable) (hu : usable) : l₁ = l := by
  cases h with
  | held => rfl
  | opened c id hl => exact absurd hu (hnone hl)

/-- The rest of a forecast follows from when the topic is declared. -/
theorem Settles.forecast {path : List Milestone}
    (hs : Settles a x (declaredOn path).isSome d y)
    (hdeclared : (declaredOn path).isSome = true ↔ x.Prompt p.sendLimit ∧
      (usable ∧ x.staleSignals = 0 ∨ x.Opens p.factoryName ∧ x.staleSignals ≤ 1))
    (hattempts : attempts path ≤ 2) (hsecond : attempts path = 2 ↔ Reconnected path)
    (hsignals : y.staleSignals = x.staleSignals - min x.staleSignals (attempts path))
    (hsession : l'.session = declaredOn path)
    (hheld : x.Prompt p.sendLimit → usable → x.staleSignals = 0 → l' = l) :
    Forecast p a l usable x d l' y path where
  toSettles := hs
  delivered_iff := by
    rw [hs.delivered_iff_declared, hdeclared]
    exact ⟨fun ⟨⟨ht, hsession⟩, hf, hc⟩ => ⟨ht, hf, hc, hsession⟩,
      fun ⟨ht, hf, hc, hsession⟩ => ⟨⟨ht, hsession⟩, hf, hc⟩⟩
  declared_iff := hdeclared
  attempts_le := hattempts
  second_iff := hsecond
  staleSignals := hsignals
  session := hsession
  released := by
    rintro rfl hrollbacks
    rw [hsession]
    by_contra hsome
    rw [← ne_eq, Option.ne_none_iff_isSome] at hsome
    have hfailure := hs.rollbacks
    have hdelivered := hs.delivered_iff_declared
    simp only [hsome, true_and, reduceCtorEq, false_iff] at hfailure hdelivered
    split at hfailure <;> omega
  held := hheld

/-- **Every story comes out as forecast.** -/
theorem Story.forecast {r : Except Error Delivery} {path : List Milestone}
    (h : Story p a l usable x r l' y path) (hnone : l.session = none → ¬ usable)
    (hne : x.latency ≠ some p.sendLimit) :
    Forecast p a l usable x (reported r) l' y path := by
  cases h with
  | unopened hl ho =>
    have hu := hnone hl
    refine (settles_undeclared x.staleSignals).forecast ?_ ?_ ?_ ?_ hl ?_
    · simp [declaredOn, ho, hu]
    · exact Nat.zero_le 2
    · simp [attempts, Reconnected, firstDeclared]
    · simp [attempts]
    · exact fun _ hu' _ => absurd hu' hu
  | @settled l₁ _ id usable₁ before out _ _ hb hr hout =>
    -- the session is usable and no signal is pending, so only the pause decides
    obtain ⟨⟨_, hd⟩, hsignals, hsettles, hlink⟩ := hr.outcome
    have hvalid : ¬ ∃ e, out = .error e ∧ e.isSessionInvalid = true := by
      rintro ⟨e, he, hinvalid⟩
      exact absurd hinvalid (by simp [hout e he])
    obtain ⟨hu, hs⟩ := not_not.mp (hd.invalid_iff.not.mp hvalid)
    have hok : out.isOk = true ↔ x.Prompt p.sendLimit := by simp [hd.isOk_iff hne, hu, hs]
    rw [← Bus.isSome_declaredOn before id] at hsettles
    refine hsettles.forecast ?_ ?_ ?_ ?_ ?_ ?_
    · rw [Bus.isSome_declaredOn, hok, hs]
      have husable := hb.usable_iff.mp hu
      exact (and_iff_left (husable.imp (⟨·, rfl⟩) fun ho => ⟨ho.2, Nat.zero_le 1⟩)).symm
    · simp [hb.attempts, attempts]
    · simp [hb.attempts, hb.reconnected_iff, attempts]
    · rw [hsignals, hs, Nat.zero_min]
    · rw [hlink, Bus.declaredOn_concat, apply_ite Link.session, hb.session]
    · intro ht hu' _
      rw [hlink, if_pos (hok.mpr ht), hb.eq_of_usable hnone hu']
  | @stranded l₁ id usable₁ before e _ e' hb hd ho =>
    have hstale := hb.not_usable hd
    obtain rfl := hd.condition
    have hnever : (declaredOn (before ++ [.declared id (.error e)])).isSome = false :=
      Bus.isSome_declaredOn before id (.error e)
    have hsettles := settles_undeclared (a := a) (x := x) (x.staleSignals - 1)
    rw [← hnever] at hsettles
    refine hsettles.forecast ?_ ?_ ?_ ?_ ?_ ?_
    · rw [hnever]
      exact iff_of_false Bool.false_ne_true fun h => h.2.elim hstale fun h => ho h.1
    · simp [hb.attempts, attempts]
    · simp [hb.attempts, hb.reconnected_iff, attempts]
    · simp only [hb.attempts, attempts]
      omega
    · rw [Bus.declaredOn_concat]
      rfl
    · exact fun _ hu hs => absurd ⟨hu, hs⟩ hstale
  | @again l₁ _ id id' c usable₁ before e out _ y _ hb hd ho hr =>
    have hstale := hb.not_usable hd
    have hreconnected := (hb.reconnected_iff (.error e) [.opened id', .declared id' out]).mpr
      ⟨⟨e, rfl, hd.isSessionInvalid⟩, id', .head _⟩
    obtain rfl := hd.condition
    -- the second session is usable, so only a second signal or the pause can stop the publish
    obtain ⟨⟨_, hd'⟩, hsignals, hsettles, hlink⟩ := hr.outcome
    have hok : out.isOk = true ↔ x.Prompt p.sendLimit ∧ x.staleSignals ≤ 1 := by
      rw [hd'.isOk_iff hne, true_and]
      exact and_congr_right fun _ => Nat.sub_eq_zero_iff_le
    have hon : declaredOn (before ++ [.declared id (.error e), .opened id', .declared id' out]) =
        if out.isOk then some id' else none := by
      rw [← Bus.declaredOn_concat (before ++ [.declared id (.error e), .opened id']),
        List.append_assoc]
      rfl
    have hsome : (declaredOn (before ++
        [.declared id (.error e), .opened id', .declared id' out])).isSome = out.isOk := by
      rw [hon]
      cases out.isOk <;> rfl
    rw [← hsome] at hsettles
    refine hsettles.of_signals.forecast ?_ ?_ ?_ ?_ ?_ ?_
    · rw [hsome, hok]
      exact and_congr_right fun _ =>
        ⟨fun h => .inr ⟨ho, h⟩, fun h => h.elim (absurd · hstale) And.right⟩
    · simp [hb.attempts, attempts]
    · simp [hb.attempts, attempts, hreconnected]
    · simp only [hb.attempts, attempts, hsignals]
      omega
    · rw [hlink, hon, apply_ite Link.session]
    · exact fun _ hu hs => absurd ⟨hu, hs⟩ hstale

end Publisher

/-! ## Every publish -/

/-- A link that is free after a schedule leaves nothing pending. -/
theorem World.Sound.unburdened {w : World} (h : w.Sound) {link : Link} (hl : w.lock = some link) :
    ∀ id, link.session = some id → w.hub.Unburdened id := by
  intro id hid session hs
  rcases h.turn with ⟨link', hf⟩ | ⟨before, i, task, hh⟩
  · obtain rfl : link = link' := Option.some.inj (hl.symm.trans hf.lock)
    exact (hf.settled id hid session hs).1
  · exact absurd (hl.symm.trans hh.lock) (by simp)

namespace Publisher

/-- **A publish comes out as forecast** if nothing is pending on the session held. -/
theorem forecast_of_unburdened (p : Publisher) (a : Announcement) {hub : Hub} {link : Link}
    (hl : ∀ id, link.session = some id → hub.Unburdened id)
    (hne : hub.condition.latency ≠ some p.sendLimit) (j : Journal) :
    let after := (p.send a).run Hub.service.recorded link (hub, []) j
    Forecast p a link (∃ id, link.session = some id ∧ hub.Usable id) hub.condition
      after.1 after.2.1 after.2.2.1.1.condition (milestones after.2.2.1.2) := by
  intro after
  have hstart : Bus.Stands hub.condition [] (hub, []) := ⟨rfl, rfl⟩
  obtain ⟨r, y, path, hstory, hd, hstands⟩ :=
    Script.Ensures.run_exact (ensures_send_story (p := p) (a := a) hstart hl) j
  have hheld : link.session = none → ¬ ∃ id, link.session = some id ∧ hub.Usable id := by
    rintro hnone ⟨id, hid, -⟩
    cases hnone.symm.trans hid
  have hforecast := hstory.forecast hheld hne
  have hpath : milestones after.2.2.1.2 = path := hstands.path
  rw [← hd, ← hstands.condition, ← hpath] at hforecast
  exact hforecast

/-- **Every publish comes out as forecast** that begins with a free link and a latency that is
absent, below the limit or above it: whatever publishes and troubles came before, and whether the
session held is none, a valid one, or one that has become stale. -/
theorem send_as_forecast (p : Publisher) (a : Announcement) (directory : Bus.Directory)
    (schedule : List Action) (link : Link) (j : Journal)
    (hl : ((World.start directory).run schedule).lock = some link)
    (hne : ((World.start directory).run schedule).hub.condition.latency ≠ some p.sendLimit) :
    let hub := ((World.start directory).run schedule).hub
    let after := (p.send a).run Hub.service.recorded link (hub, []) j
    Forecast p a link (∃ id, link.session = some id ∧ hub.Usable id) hub.condition
      after.1 after.2.1 after.2.2.1.1.condition (milestones after.2.2.1.2) :=
  forecast_of_unburdened p a (((World.sound_start directory).run schedule).unburdened hl) hne j

/-! ### Troubles that coincide -/

/-- A publisher that waits for five seconds. -/
def newsroom : Publisher := ⟨"cf", 1000, 5000⟩

/-- Something to publish. -/
def bulletin : Announcement := ⟨.fields {}, "hcat.sales", .addTable⟩

/-- After the newsroom has connected, its session becomes stale, a stale signal is set up as well,
two sends are to fail, and every answer takes a second. -/
def besetSchedule : List Action :=
  [.spawn (.connect newsroom), .enter 0] ++ List.replicate 7 (.move 0) ++
    [.strike .invalidation, .strike (.staleSignals 1), .strike (.sendFailures 2),
      .strike (.latency (some 1000))]

/-- The publish reconnects once, since the signal is spent on the stale session, and is rolled back
on the new one. -/
theorem send_as_forecast_beset :
    let hub := ((World.start (Bus.Directory.bind {} "cf" 0)).run besetSchedule).hub
    let after := (newsroom.send bulletin).run Hub.service.recorded ⟨some 0, some 0⟩ (hub, []) {}
    hub.condition.latency = some 1000 ∧ after.1 = .failed ∧ after.2.1.session.isSome = true ∧
      after.2.2.1.1.condition.sendFailures = 1 ∧ after.2.2.1.1.condition.rollbacks = 1 := by
  intro hub after
  have hl : ((World.start (Bus.Directory.bind {} "cf" 0)).run besetSchedule).lock =
      some ⟨some 0, some 0⟩ := by decide +kernel
  obtain ⟨hlatency, hopens, hsignals, hsends, hrollbacks⟩ : hub.condition.latency = some 1000 ∧
      hub.condition.Opens newsroom.factoryName ∧ hub.condition.staleSignals ≤ 1 ∧
      hub.condition.sendFailures = 2 ∧ hub.condition.rollbacks = 0 := by
    decide +kernel +revert
  have hne : hub.condition.latency ≠ some newsroom.sendLimit := by
    rw [hlatency]
    decide
  have hprompt : hub.condition.Prompt newsroom.sendLimit := by
    rw [Condition.Prompt, hlatency]
    decide
  have hforecast := send_as_forecast newsroom bulletin _ besetSchedule _ {} hl hne
  have hdeclared := hforecast.declared_iff.mpr ⟨hprompt, .inr ⟨hopens, hsignals⟩⟩
  have hfails : 0 < hub.condition.sendFailures := by omega
  refine ⟨hlatency, ?_, ?_, ?_, ?_⟩
  · exact (hforecast.failed fun hd => Nat.ne_of_gt hfails (hforecast.delivered_iff.mp hd).2.1).1
  · rw [hforecast.session]
    exact hdeclared
  · rw [hforecast.sendFailures, if_pos ⟨hdeclared, hfails⟩, hsends]
  · rw [hforecast.rollbacks, if_pos ⟨hdeclared, .inl hfails⟩, hrollbacks]

/-! ### A factory that is not bound -/

/-- **Reachability alone does not decide.**  A broker that can be reached, without any trouble set
up, is of no use to a publisher whose factory is not bound. -/
theorem unbound_factory_fails :
    (World.start {}).lock = some {} ∧
      (World.start {}).hub.condition = ⟨{}, false, 0, 0, 0, none, 0, []⟩ ∧
      ((newsroom.send bulletin).run Hub.service {} (World.start {}).hub {}).1 = .failed :=
  ⟨by decide +kernel, rfl, by decide +kernel⟩

end Publisher
end CatalogFeed
