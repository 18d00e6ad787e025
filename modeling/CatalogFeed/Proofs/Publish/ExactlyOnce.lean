import CatalogFeed.Proofs.Publish.Books
import Mathlib.Data.List.Basic

/-!
# Proofs/Publish/ExactlyOnce — every commit is delivered once, under any schedule

Tasks that share a link and a broker in memory run under an arbitrary schedule (`World`).  The
invariant `World.Sound` says that at most one task is past the lock and not yet back, that the ones
before it have closed their books, and that its own books balance on top of theirs.

* `Sound.act`, `Sound.run`: every action keeps the invariant;
* `exactly_once`: in every reachable world the delivered messages are those of the sends that have
  committed, once each and in the order in which they took the lock.
-/

namespace CatalogFeed

open Bus (access Call Core Delivered Hub Timed)

/-! ## Accounts -/

namespace Task

/-- Whether a commit of the task has succeeded. -/
def committed (task : Task) : Bool := Bus.committed task.transcript

/-- The calls that the task has made, also one that is still in flight. -/
def calls (task : Task) : List Call :=
  Bus.calls task.transcript ++ match task.stage with
    | .paused c _ _ _ => [c]
    | _ => []

/-- The message that the task has added to the broker, with its topic. -/
def credit? (task : Task) : Option (String × Message) :=
  if task.committed then task.job.content? else none

theorem toList_credit? (task : Task) :
    task.credit?.toList = if task.committed then task.job.content?.toList else [] := by
  rw [credit?]
  split <;> rfl

/-- The task has returned, with the truth. -/
def Closed (task : Task) : Prop :=
  ∃ returned, task.stage = .finished returned ∧ task.job.Tells task.committed returned ∧
    Bus.Sparing task.calls

/-- **What is known of a task past the lock**: it began on `base`, the core is now `k`, and the rest
of its program keeps its books. -/
def Goes (task : Task) (base : List (String × Message)) (k : Core) : Prop :=
  match task.stage with
  | .running rest =>
    rest.Ensures (.books base task.job.content?) task.job.Ends (k, task.transcript)
  | .paused c limit _ next => ∃ k₀, Hub.Midway k₀ c k ∧
    (Script.ask (I := access) (.call c limit) next).Ensures (.books base task.job.content?)
      task.job.Ends (k₀, task.transcript)
  | _ => False

section
variable {task : Task} {base : List (String × Message)} {k : Core}

theorem Goes.running {rest : Script access (Returned × Link)} (h : task.Goes base k)
    (hs : task.stage = .running rest) :
    rest.Ensures (.books base task.job.content?) task.job.Ends (k, task.transcript) := by
  rw [Goes, hs] at h
  exact h

/-- A paused task goes on with whatever answer the core allowed where its call began. -/
theorem Goes.paused {c : Call} {limit since : Nat}
    {next : Timed c.Answer → Script access (Returned × Link)} (h : task.Goes base k)
    (hs : task.stage = .paused c limit since next) :
    ∃ k₀, Hub.Midway k₀ c k ∧ ∀ reply k', k₀.Allows c reply.outcome k' →
      (next reply).Ensures (.books base task.job.content?) task.job.Ends
        (k', task.transcript ++ [⟨.call c limit, reply⟩]) := by
  rw [Goes, hs] at h
  obtain ⟨k₀, hmid, -, hnext⟩ := h
  exact ⟨k₀, hmid, fun reply k' hk => hnext reply (k', _) ⟨hk, rfl⟩⟩

/-- A task past the lock neither waits nor has returned. -/
theorem Goes.underway (h : task.Goes base k) :
    task.stage ≠ .waiting ∧ ∀ returned, task.stage ≠ .finished returned := by
  rw [Goes] at h
  constructor
  · intro hs
    rw [hs] at h
    exact h
  · intro returned hs
    rw [hs] at h
    exact h

/-- Past the lock, the books balance at every moment. -/
theorem Goes.balanced (h : task.Goes base k) :
    Balanced base task.job.content? k task.committed task.calls := by
  rw [calls]
  cases hs : task.stage with
  | waiting => exact absurd hs h.underway.1
  | running rest => simpa [Contract.books, committed] using (h.running hs).holds
  | paused c limit since next =>
    -- an answer may still fail to come, and that would end the call where it stands
    obtain ⟨k₀, hmid, hnext⟩ := h.paused hs
    have hcut := (hnext ⟨.silent, limit⟩ k hmid.cutOff).holds
    have hc : Bus.commits ⟨.call c limit, ⟨.silent, limit⟩⟩ = false := by cases c <;> rfl
    simpa [Contract.books, committed, hc, Bus.Request.call?] using hcut
  | finished returned => exact absurd hs (h.underway.2 returned)

end

end Task

namespace World

/-- The message that task `i` has added. -/
def credit? (w : World) (i : Nat) : Option (String × Message) := w.tasks[i]?.bind Task.credit?

/-- The messages that the tasks have added, one after the other. -/
def credits (w : World) (order : List Nat) : List (String × Message) := order.filterMap w.credit?

/-- Task `i` has returned, with the truth. -/
def Closed (w : World) (i : Nat) : Prop := ∃ task, w.tasks[i]? = some task ∧ task.Closed

theorem credits_congr {w w' : World} {order : List Nat}
    (h : ∀ i ∈ order, w'.tasks[i]? = w.tasks[i]?) : w'.credits order = w.credits order :=
  List.filterMap_congr fun i hi => by rw [credit?, h i hi, credit?]

theorem credits_concat {w : World} {i : Nat} {task : Task} (h : w.tasks[i]? = some task)
    (order : List Nat) : w.credits (order ++ [i]) = w.credits order ++
      if task.committed then task.job.content?.toList else [] := by
  have hi : w.credit? i = task.credit? := by rw [credit?, h, Option.bind_some]
  rw [credits, List.filterMap_append, ← task.toList_credit?, ← hi]
  cases hc : w.credit? i <;> simp [credits, hc]

theorem tasks_put_of_ne (w : World) {i j : Nat} (task : Task) (h : i ≠ j) :
    (w.put i task).tasks[j]? = w.tasks[j]? := List.getElem?_set_ne h

/-! ## The invariant -/

/-- The link is free: everyone who took it has closed, and the session that is left is settled. -/
structure Free (w : World) (link : Link) : Prop where
  lock : w.lock = some link
  closed : ∀ i ∈ w.order, w.Closed i
  overlaps : w.hub.core.overlaps = 0
  contents : w.hub.core.contents = w.credits w.order
  settled : ∀ id, link.session = some id → w.hub.core.Settled id

/-- Task `i` has the link, which the tasks in `before` have had before it. -/
structure Held (w : World) (before : List Nat) (i : Nat) (task : Task) : Prop where
  lock : w.lock = none
  order : w.order = before ++ [i]
  closed : ∀ j ∈ before, w.Closed j
  task_at : w.tasks[i]? = some task
  goes : task.Goes (w.credits before) w.hub.core

/-- **The invariant of all schedules.** -/
structure Sound (w : World) : Prop where
  fresh : ∀ i task, w.tasks[i]? = some task → i ∉ w.order →
    task.stage = .waiting ∧ task.transcript = []
  nodup : w.order.Nodup
  turn : (∃ link, w.Free link) ∨ ∃ before i task, w.Held before i task

theorem sound_start (directory : Bus.Directory) : (start directory).Sound where
  fresh i task h := by simp [start] at h
  nodup := List.nodup_nil
  turn := Or.inl ⟨{}, rfl, fun _ hi => absurd hi List.not_mem_nil, rfl, rfl,
    fun id hid => absurd hid (by simp)⟩

/-- What does not touch the lock, the core, or a task that is there, keeps the turn. -/
theorem Sound.keep {w w' : World} (h : w.Sound) (hlock : w'.lock = w.lock)
    (horder : w'.order = w.order) (hcore : w'.hub.core = w.hub.core)
    (htasks : ∀ (i : Nat) (task : Task), w.tasks[i]? = some task → w'.tasks[i]? = some task)
    (hfresh : ∀ (i : Nat) (task : Task), w'.tasks[i]? = some task → w.tasks[i]? = none →
      task.stage = .waiting ∧ task.transcript = []) : w'.Sound := by
  have hclosed : ∀ i, w.Closed i → w'.Closed i := by
    rintro i ⟨task, hi, hc⟩
    exact ⟨task, htasks i task hi, hc⟩
  have hcredits : ∀ order, (∀ i ∈ order, w.Closed i) → w'.credits order = w.credits order := by
    intro order ho
    refine credits_congr fun i hi => ?_
    obtain ⟨task, hi, -⟩ := ho i hi
    rw [hi, htasks i task hi]
  refine ⟨fun i task hi hn => ?_, horder ▸ h.nodup, ?_⟩
  · cases hw : w.tasks[i]? with
    | none => exact hfresh i task hi hw
    | some t =>
      obtain rfl : t = task := Option.some.inj ((htasks i t hw).symm.trans hi)
      exact h.fresh i t hw (horder ▸ hn)
  · rcases h.turn with ⟨link, hf⟩ | ⟨before, i, task, hh⟩
    · refine Or.inl ⟨link, hlock.trans hf.lock, ?_, ?_, ?_, ?_⟩
      · exact fun i hi => hclosed i (hf.closed i (horder ▸ hi))
      · rw [hcore, hf.overlaps]
      · rw [hcore, hf.contents, horder, hcredits _ hf.closed]
      · rw [hcore]
        exact hf.settled
    · refine Or.inr ⟨before, i, task, hlock.trans hh.lock, horder.trans hh.order, ?_, ?_, ?_⟩
      · exact fun j hj => hclosed j (hh.closed j hj)
      · exact htasks i task hh.task_at
      · rw [hcore, hcredits _ hh.closed]
        exact hh.goes

/-- A task has not taken the lock yet, or has closed, or has the link. -/
theorem Sound.status {w : World} (h : w.Sound) {i : Nat} {task : Task}
    (hi : w.tasks[i]? = some task) :
    (task.stage = .waiting ∧ task.transcript = []) ∨
      i ∈ w.order ∧ (task.Closed ∨ ∃ before, w.Held before i task) := by
  by_cases hmem : i ∈ w.order
  · refine Or.inr ⟨hmem, ?_⟩
    have hclosed : w.Closed i → task.Closed := by
      rintro ⟨t, ht, hc⟩
      exact Option.some.inj (ht.symm.trans hi) ▸ hc
    rcases h.turn with ⟨link, hfree⟩ | ⟨before, j, t, hh⟩
    · exact Or.inl (hclosed (hfree.closed i hmem))
    · rw [hh.order, List.mem_append, List.mem_singleton] at hmem
      rcases hmem with hb | rfl
      · exact Or.inl (hclosed (hh.closed i hb))
      · obtain rfl : t = task := Option.some.inj (hh.task_at.symm.trans hi)
        exact Or.inr ⟨before, hh⟩
  · exact Or.inl (h.fresh i task hi hmem)

/-- Whoever is neither waiting nor finished has the link. -/
theorem Sound.held {w : World} (h : w.Sound) {i : Nat} {task : Task} (hi : w.tasks[i]? = some task)
    (hw : task.stage ≠ .waiting) (hf : ∀ r, task.stage ≠ .finished r) :
    ∃ before, w.Held before i task := by
  rcases h.status hi with ⟨hwait, -⟩ | ⟨-, ⟨r, hr, -⟩ | hh⟩
  · exact absurd hwait hw
  · exact absurd hr (hf r)
  · exact hh

/-- A task that runs has the link, and the rest of its program keeps its books. -/
theorem Sound.running {w : World} (h : w.Sound) {i : Nat} {task : Task}
    (hi : w.tasks[i]? = some task) {rest : Script access (Returned × Link)}
    (hs : task.stage = .running rest) : ∃ before, w.Held before i task ∧
      rest.Ensures (.books (w.credits before) task.job.content?) task.job.Ends
        (w.hub.core, task.transcript) := by
  obtain ⟨before, hh⟩ := h.held hi (by simp [hs]) (by simp [hs])
  exact ⟨before, hh, hh.goes.running hs⟩

/-- A task that is paused has the link, and whatever answer the call may still be given, the rest of
its program keeps its books. -/
theorem Sound.paused {w : World} (h : w.Sound) {i : Nat} {task : Task}
    (hi : w.tasks[i]? = some task) {c : Call} {limit since : Nat}
    {next : Timed c.Answer → Script access (Returned × Link)}
    (hs : task.stage = .paused c limit since next) : ∃ before k₀, w.Held before i task ∧
      Hub.Midway k₀ c w.hub.core ∧ ∀ reply k', k₀.Allows c reply.outcome k' →
        (next reply).Ensures (.books (w.credits before) task.job.content?) task.job.Ends
          (k', task.transcript ++ [⟨.call c limit, reply⟩]) := by
  obtain ⟨before, hh⟩ := h.held hi (by simp [hs]) (by simp [hs])
  obtain ⟨k₀, hmid, hnext⟩ := hh.goes.paused hs
  exact ⟨before, k₀, hh, hmid, hnext⟩

section
variable {w : World} {before : List Nat} {i : Nat} {task task' : Task}

theorem Held.not_mem (h : w.Held before i task) (hs : w.Sound) : i ∉ before := by
  have := hs.nodup
  rw [h.order, List.nodup_append] at this
  exact fun hi => this.2.2 i hi i (List.mem_singleton_self i) rfl

/-- A change of the task past the lock touches no other task. -/
theorem Held.tasks_put (h : w.Held before i task) (hs : w.Sound) :
    ∀ j ∈ before, (w.put i task').tasks[j]? = w.tasks[j]? := by
  intro j hj
  refine w.tasks_put_of_ne task' ?_
  rintro rfl
  exact h.not_mem hs hj

theorem Held.fresh_put (h : w.Held before i task) (hs : w.Sound) :
    ∀ j t, (w.put i task').tasks[j]? = some t → j ∉ w.order →
      t.stage = .waiting ∧ t.transcript = [] := by
  intro j t hj hn
  have hne : i ≠ j := by
    rintro rfl
    exact hn (by simp [h.order])
  rw [w.tasks_put_of_ne task' hne] at hj
  exact hs.fresh j t hj hn

/-- **The task past the lock goes on.** -/
theorem Held.goes_on (h : w.Held before i task) (hs : w.Sound) {hub : Hub}
    (hg : task'.Goes (w.credits before) hub.core) : ({ w with hub }.put i task').Sound where
  fresh := h.fresh_put hs
  nodup := hs.nodup
  turn := by
    refine Or.inr ⟨before, i, task', h.lock, h.order, fun j hj => ?_,
      tasks_put_self h.task_at task', ?_⟩
    · obtain ⟨t, ht, hc⟩ := h.closed j hj
      exact ⟨t, (h.tasks_put hs j hj).trans ht, hc⟩
    · have : ({ w with hub }.put i task').credits before = w.credits before :=
        credits_congr (h.tasks_put hs)
      rw [this]
      exact hg

/-- The messages on the broker are those of the tasks that have had the lock. -/
theorem Held.contents (h : w.Held before i task) : w.hub.core.contents = w.credits w.order := by
  rw [h.order, credits_concat h.task_at, h.goes.balanced.contents]

/-- **The task past the lock returns** and gives the link back. -/
theorem Held.returns (h : w.Held before i task) (hs : w.Sound) {returned : Returned} {link : Link}
    (hstage : task.stage = .running (.done (returned, link))) :
    ({ w with lock := some link }.put i { task with stage := .finished returned }).Sound where
  fresh := h.fresh_put hs
  nodup := hs.nodup
  turn := by
    have hends : task.job.Ends (returned, link) (w.hub.core, task.transcript) :=
      (h.goes.running hstage).2
    have hbal := h.goes.balanced
    have hcalls : ({ task with stage := .finished returned } : Task).calls = task.calls := by
      simp [Task.calls, hstage]
    refine Or.inl ⟨link, rfl, ?_, hbal.overlaps, ?_, hends.2⟩
    · intro j hj
      have hj : j ∈ before ++ [i] := h.order ▸ hj
      rcases List.mem_append.mp hj with hj | hj
      · obtain ⟨t, ht, hc⟩ := h.closed j hj
        exact ⟨t, (h.tasks_put hs j hj).trans ht, hc⟩
      · obtain rfl := List.mem_singleton.mp hj
        exact ⟨_, tasks_put_self h.task_at _, returned, rfl, hends.1, hcalls ▸ hbal.toSparing⟩
    · change w.hub.core.contents =
        (w.put i { task with stage := .finished returned }).credits w.order
      rw [h.order, credits_concat (tasks_put_self h.task_at _), credits_congr (h.tasks_put hs)]
      exact hbal.contents

end

/-! ## One action -/

/-- **A task that waits takes the link**, and its books begin where the ones before have closed. -/
theorem Free.entered {w : World} {link : Link} (hf : w.Free link) (h : w.Sound) {i : Nat}
    {task : Task} (hi : w.tasks[i]? = some task) (hw : task.stage = .waiting) :
    ({ w with lock := none, order := w.order ++ [i] }.put i
      { task with stage := .running (StateT.run task.job.program link) }).Sound := by
  have hn : i ∉ w.order := by
    intro hmem
    obtain ⟨t, ht, r, hr, -⟩ := hf.closed i hmem
    obtain rfl : t = task := Option.some.inj (ht.symm.trans hi)
    exact absurd (hr.symm.trans hw) (by simp)
  generalize ht :
    ({ task with stage := .running (StateT.run task.job.program link) } : Task) = task'
  have hothers : ∀ j ∈ w.order, (w.put i task').tasks[j]? = w.tasks[j]? := by
    intro j hj
    refine w.tasks_put_of_ne task' ?_
    rintro rfl
    exact hn hj
  refine ⟨fun j t hj hnj => ?_, ?_, Or.inr ⟨w.order, i, task', rfl, rfl, fun j hj => ?_,
    tasks_put_self hi _, ?_⟩⟩
  · have hij : i ≠ j := by
      rintro rfl
      exact hnj (List.mem_append_right _ (List.mem_singleton_self i))
    rw [tasks_put_of_ne _ _ hij] at hj
    exact h.fresh j t hj fun hmem => hnj (List.mem_append_left _ hmem)
  · refine List.nodup_append.mpr ⟨h.nodup, List.pairwise_singleton _ i, ?_⟩
    rintro j hj j' hj' rfl
    obtain rfl := List.mem_singleton.mp hj'
    exact hn hj
  · obtain ⟨t, ht, hc⟩ := hf.closed j hj
    exact ⟨t, (hothers j hj).trans ht, hc⟩
  · have hbase : (w.put i task').credits w.order = w.hub.core.contents :=
      (credits_congr hothers).trans hf.contents.symm
    have hprogram := task.job.ensures_program hf.overlaps hf.settled
    rw [← hbase, ← (h.fresh i task hi hn).2] at hprogram
    rw [← ht] at hprogram ⊢
    exact hprogram

theorem Sound.enter {w : World} (h : w.Sound) {i : Nat} {task : Task}
    (hi : w.tasks[i]? = some task) : (w.enter i task).Sound := by
  rw [World.enter]
  split
  · next link hlock hw =>
    obtain ⟨link', hf⟩ | ⟨before, j, t, hh⟩ := h.turn
    · obtain rfl : link = link' := Option.some.inj (hlock.symm.trans hf.lock)
      exact hf.entered h hi hw
    · exact absurd (hlock.symm.trans hh.lock) (by simp)
  · exact h

theorem Sound.move {w : World} (h : w.Sound) {i : Nat} {task : Task}
    (hi : w.tasks[i]? = some task) : (w.move i task).Sound := by
  rw [World.move]
  split
  · exact h
  · next returned link hs =>
    obtain ⟨before, hh, -⟩ := h.running hi hs
    exact hh.returns h hs
  · next rest hs =>
    obtain ⟨before, hh, hrest⟩ := h.running hi hs
    exact hh.goes_on h hrest
  · next request next hs =>
    obtain ⟨before, hh, hrest⟩ := h.running hi hs
    cases request with
    | observe connection => exact hh.goes_on h (hrest.2 () _ ⟨rfl, rfl⟩)
    | call c limit =>
      simp only [ask]
      split
      · next timed hub ha =>
        have hallows : w.hub.core.Allows c timed.outcome hub.core := Hub.allows_attempt ha
        exact hh.goes_on h (hrest.2 timed _ ⟨hallows, rfl⟩)
      · next hub ha =>
        have hmid : Hub.Midway w.hub.core c hub.core := Hub.midway_attempt ha
        exact hh.goes_on h ⟨w.hub.core, hmid, hrest⟩
  · next c limit since next hs =>
    split
    · next answer hub hr =>
      obtain ⟨before, k₀, hh, hmid, hnext⟩ := h.paused hi hs
      have hallows : k₀.Allows c (.ok answer) hub.core := hmid.resumed rfl hr
      exact hh.goes_on h (hnext ⟨.ok answer, w.clock - since⟩ hub.core hallows)
    · exact h
  · exact h

theorem Sound.cutOff {w : World} (h : w.Sound) {i : Nat} {task : Task}
    (hi : w.tasks[i]? = some task) : (w.cutOff i task).Sound := by
  rw [World.cutOff]
  split
  · next c limit since next hs =>
    obtain ⟨before, k₀, hh, hmid, hnext⟩ := h.paused hi hs
    exact hh.goes_on h (hnext ⟨.silent, limit⟩ w.hub.core hmid.cutOff)
  · exact h

/-- **Every action keeps the invariant.** -/
theorem Sound.act {w : World} (h : w.Sound) (action : Action) : (w.act action).Sound := by
  have hstep : ∀ (i : Nat) (f : Task → World),
      (∀ task, w.tasks[i]? = some task → (f task).Sound) → (w.tasks[i]?.elim w f).Sound := by
    intro i f hf
    cases hi : w.tasks[i]? with
    | none => exact h
    | some task => exact hf task hi
  cases action with
  | spawn job =>
    refine h.keep rfl rfl rfl (fun i task hi => ?_) fun i task hi hn => ?_
    · rw [World.act, List.getElem?_append_left (List.getElem?_eq_some_iff.mp hi).1, hi]
    · rw [World.act, List.getElem?_append_right (List.getElem?_eq_none_iff.mp hn),
        List.getElem?_singleton] at hi
      split at hi
      · cases hi
        exact ⟨rfl, rfl⟩
      · cases hi
  | strike trouble =>
    exact h.keep rfl rfl (w.hub.broker.core_struck trouble) (fun _ _ hi => hi)
      fun i task hi hn => by simp [World.act, hn] at hi
  | elapse ms =>
    exact h.keep rfl rfl rfl (fun _ _ hi => hi) fun i task hi hn => by simp [World.act, hn] at hi
  | enter i => exact hstep i _ fun task => h.enter
  | move i => exact hstep i _ fun task => h.move
  | cutOff i => exact hstep i _ fun task => h.cutOff

theorem Sound.run {w : World} (h : w.Sound) (schedule : List Action) : (w.run schedule).Sound := by
  induction schedule generalizing w with
  | nil => exact h
  | cons action schedule ih => exact ih (h.act action)

/-! ## Every reachable world -/

/-- **The accounts of a world**, in which some sends have committed. -/
structure Accounted (w : World) : Prop where
  /-- No transaction has begun on a session whose last one was still open. -/
  no_overlap : w.hub.broker.overlaps = 0
  /-- What has been delivered is the messages of the sends that have committed, one of each, in the
  order in which they took the lock. -/
  contents : w.hub.broker.delivered.map Delivered.content = w.order.filterMap w.credit?
  once : w.order.Nodup
  entered : ∀ (i : Nat) (task : Task), w.tasks[i]? = some task → task.committed = true →
    i ∈ w.order ∧ ∃ p a, task.job = .send p a
  /-- A send returns that it was delivered if it has committed, and that it failed if not. -/
  truthful : ∀ (i : Nat) (task : Task) p a returned, w.tasks[i]? = some task →
    task.job = .send p a → task.stage = .finished returned →
    returned = .sent (if task.committed then .delivered else .failed)
  /-- No task declares a topic more than twice, or sends or commits more than once. -/
  sparing : ∀ (i : Nat) (task : Task), w.tasks[i]? = some task → Bus.Sparing task.calls

theorem Sound.accounted {w : World} (h : w.Sound) : w.Accounted where
  no_overlap := by
    rcases h.turn with ⟨link, hf⟩ | ⟨before, i, task, hh⟩
    · exact hf.overlaps
    · exact hh.goes.balanced.overlaps
  contents := by
    rcases h.turn with ⟨link, hf⟩ | ⟨before, i, task, hh⟩
    · exact hf.contents
    · exact hh.contents
  once := h.nodup
  entered i task hi hc := by
    have hsend : task.job.content?.isSome = true → ∃ p a, task.job = .send p a := by
      cases task.job with
      | send p a => exact fun _ => ⟨p, a, rfl⟩
      | connect p => exact fun h => absurd h (by simp [Job.content?])
      | close p => exact fun h => absurd h (by simp [Job.content?])
    rcases h.status hi with ⟨-, ht⟩ | ⟨hmem, ⟨r, -, htells, -⟩ | ⟨before, hh⟩⟩
    · simp [Task.committed, ht, Bus.committed] at hc
    · refine ⟨hmem, hsend ?_⟩
      rw [hc] at htells
      cases hj : task.job with
      | send p a => rfl
      | connect p => simp [hj, Job.Tells] at htells
      | close p => simp [hj, Job.Tells] at htells
    · exact ⟨hmem, hsend (hh.goes.balanced.entitled hc)⟩
  truthful i task p a returned hi hj hs := by
    rcases h.status hi with ⟨hw, -⟩ | ⟨-, ⟨r, hr, htells, -⟩ | ⟨before, hh⟩⟩
    · simp [hw] at hs
    · rw [hj] at htells
      obtain rfl : r = returned := Stage.finished.inj (hr.symm.trans hs)
      exact htells
    · exact absurd hs (hh.goes.underway.2 returned)
  sparing i task hi := by
    rcases h.status hi with ⟨hw, ht⟩ | ⟨-, ⟨r, -, -, hsp⟩ | ⟨before, hh⟩⟩
    · have : task.calls = [] := by simp [Task.calls, hw, ht, Bus.calls]
      exact this ▸ ⟨Nat.zero_le 2, Nat.zero_le 1, Nat.zero_le 1⟩
    · exact hsp
    · exact hh.goes.balanced.toSparing

theorem committed_of_becomes {task task' : Task} (h : task.Becomes task')
    (hc : task.committed = true) : task'.committed = true := by
  obtain ⟨rest, hrest⟩ := h.transcript
  rw [Task.committed, ← hrest, Bus.committed, List.any_append]
  exact Bool.or_eq_true_iff.mpr (Or.inl hc)

/-- A send that has committed can always return. -/
theorem Sound.completes {w : World} (h : w.Sound) {i : Nat} {task : Task}
    (hi : w.tasks[i]? = some task) (hc : task.committed = true) : w.Completes i := by
  refine completes_of_entered hi fun hw => ?_
  rcases h.status hi with ⟨-, ht⟩ | ⟨-, ⟨r, hr, -⟩ | ⟨before, hh⟩⟩
  · simp [Task.committed, ht, Bus.committed] at hc
  · exact absurd (hr.symm.trans hw) (by simp)
  · exact hh.goes.underway.1 hw

/-- A send that has returned that it failed has not committed. -/
theorem Accounted.not_committed {w : World} (h : w.Accounted) {i : Nat} {task : Task}
    (hi : w.tasks[i]? = some task) (hs : task.stage = .finished (.sent .failed)) :
    task.committed = false := by
  cases hc : task.committed with
  | false => rfl
  | true =>
    obtain ⟨-, p, a, hj⟩ := h.entered i task hi hc
    have htruth := h.truthful i task p a _ hi hj hs
    rw [hc] at htruth
    exact absurd htruth (by decide)

/-- **Every commit is delivered exactly once**, under every schedule of sends, connects, closes and
troubles.  The accounts are right at every moment, a send that has committed can always return, and
returns that it was delivered, and one that failed never adds a message later. -/
theorem exactly_once (directory : Bus.Directory) (schedule : List Action) :
    let w := (start directory).run schedule
    w.Accounted ∧
    (∀ (i : Nat) (task : Task), w.tasks[i]? = some task → task.committed = true →
      w.Completes i ∧ ∀ later task' returned, (w.run later).tasks[i]? = some task' →
        task'.stage = .finished returned → returned = .sent .delivered) ∧
    ∀ (i : Nat) (task : Task), w.tasks[i]? = some task → task.stage = .finished (.sent .failed) →
      ∀ later, (w.run later).tasks[i]? = some task ∧ (w.run later).credit? i = none := by
  intro w
  have h : w.Sound := (sound_start directory).run schedule
  refine ⟨h.accounted, fun i task hi hc => ⟨h.completes hi hc, ?_⟩, ?_⟩
  · intro later task' returned hi' hs
    obtain ⟨-, p, a, hj⟩ := h.accounted.entered i task hi hc
    obtain ⟨t, ht, hb⟩ := becomes_run hi later
    obtain rfl : t = task' := Option.some.inj (ht.symm.trans hi')
    rw [(h.run later).accounted.truthful i t p a returned hi' (hb.job.trans hj) hs,
      committed_of_becomes hb hc, if_pos rfl]
  · intro i task hi hs later
    obtain ⟨t, ht, hb⟩ := becomes_run hi later
    obtain rfl : t = task := hb.rests _ hs
    have hc : t.committed = false := h.accounted.not_committed hi hs
    exact ⟨ht, by rw [credit?, ht, Option.bind_some, Task.credit?, hc, if_neg Bool.false_ne_true]⟩

end World
end CatalogFeed
