import CatalogFeed.Proofs.Bus.Core
import CatalogFeed.Proofs.Script.Transcript
import CatalogFeed.Publish.Send

/-!
# Proofs/Publish/Schedule — many tasks, one link, one broker

A `World` holds any number of tasks that share one link behind a lock and one broker behind a
directory.  A task waits until it has taken the lock, then runs its job on the link, and gives the
link back when the job returns.  A schedule is any list of actions: a new task is spawned, a trouble
strikes the broker, time passes, a task takes the lock if it is free, a task does its next step, a
pause is cut off.  An action that is not possible does nothing.

A step of a task is at most one request, and a request that pauses is two steps, so that anything
can happen in between.  Whether a pause ends in time is left to the schedule.
-/

namespace CatalogFeed

open Bus (access Call Hub Timed Trouble)

/-! ## Tasks -/

/-- What a task does with the link. -/
inductive Job where
  | send (publisher : Publisher) (announcement : Announcement)
  | connect (publisher : Publisher)
  | close (publisher : Publisher)

/-- What a task returns. -/
inductive Returned where
  | sent (delivery : Delivery)
  | connected (held : Bool)
  | closed
  deriving DecidableEq

/-- The program of a job. -/
def Job.program : Job → Publishing Returned
  | .send p a => do return .sent (← p.send a)
  | .connect p => do return .connected (← p.connect)
  | .close p => do p.close; return .closed

/-- How far a task has come. -/
inductive Stage where
  | waiting
  /-- In possession of the link, with the rest of its program before it. -/
  | running (rest : Script access (Returned × Link))
  /-- In the middle of a call that was made at time `since`. -/
  | paused (call : Call) (limit since : Nat)
      (next : Timed call.Answer → Script access (Returned × Link))
  | finished (returned : Returned)

/-- A task, with a record of the requests that it was given an answer to. -/
structure Task where
  job : Job
  stage : Stage := .waiting
  transcript : Transcript access := []

namespace Task

/-- The task after a request was answered. -/
def answered (task : Task) (exchange : Exchange access) (rest : Script access (Returned × Link)) :
    Task :=
  { task with stage := .running rest, transcript := task.transcript ++ [exchange] }

end Task

/-! ## Worlds -/

/-- Tasks that share a link and a bus. -/
structure World where
  hub : Hub
  clock : Nat := 0
  /-- The link, unless a task has taken it. -/
  lock : Option Link := some {}
  tasks : List Task := []
  /-- The tasks that have taken the lock, in that order. -/
  order : List Nat := []

/-- Something that happens. -/
inductive Action where
  | spawn (job : Job)
  | strike (trouble : Trouble)
  | elapse (ms : Nat)
  /-- A task takes the lock. -/
  | enter (task : Nat)
  /-- A task does its next step. -/
  | move (task : Nat)
  /-- A call of a task reaches its limit of time. -/
  | cutOff (task : Nat)

namespace World

/-- A broker without sessions, behind a directory, and no tasks yet. -/
def start (directory : Bus.Directory) : World := { hub := { directory } }

/-- Replaces a task. -/
def put (w : World) (i : Nat) (task : Task) : World := { w with tasks := w.tasks.set i task }

/-- Task `i` takes the lock. -/
def enter (w : World) (i : Nat) (task : Task) : World :=
  match w.lock, task.stage with
  | some link, .waiting =>
    { w with lock := none, order := w.order ++ [i] }.put i
      { task with stage := .running (StateT.run task.job.program link) }
  | _, _ => w

/-- Task `i` makes a request. -/
def ask (w : World) (i : Nat) (task : Task) :
    (r : Bus.Request) → (r.Reply → Script access (Returned × Link)) → World
  | .observe connection, next =>
    { w with hub := (Hub.service.serve (.observe connection) w.clock w.hub).state }.put i
      (task.answered ⟨.observe connection, ()⟩ (next ()))
  | .call c limit, next =>
    match w.hub.attempt w.clock c with
    | (some timed, hub) => { w with hub }.put i (task.answered ⟨.call c limit, timed⟩ (next timed))
    | (none, hub) => { w with hub }.put i { task with stage := .paused c limit w.clock next }

/-- Task `i` does its next step. -/
def move (w : World) (i : Nat) (task : Task) : World :=
  match task.stage with
  | .waiting => w
  | .running (.done (returned, link)) =>
    { w with lock := some link }.put i { task with stage := .finished returned }
  | .running (.log _ rest) => w.put i { task with stage := .running rest }
  | .running (.ask request next) => w.ask i task request next
  | .paused c limit since next =>
    match w.hub.resume c with
    | some (answer, hub) =>
      let timed : Timed c.Answer := ⟨.ok answer, w.clock - since⟩
      { w with hub }.put i (task.answered ⟨.call c limit, timed⟩ (next timed))
    | none => w
  | .finished _ => w

/-- The pause of task `i` is cut off. -/
def cutOff (w : World) (i : Nat) (task : Task) : World :=
  match task.stage with
  | .paused c limit _ next =>
    w.put i (task.answered ⟨.call c limit, ⟨.silent, limit⟩⟩ (next ⟨.silent, limit⟩))
  | _ => w

/-- **What an action does to the world.** -/
def act (w : World) : Action → World
  | .spawn job => { w with tasks := w.tasks ++ [{ job }] }
  | .strike trouble => { w with hub := { w.hub with broker := w.hub.broker.struck trouble } }
  | .elapse ms => { w with clock := w.clock + ms }
  | .enter i => w.tasks[i]?.elim w (w.enter i)
  | .move i => w.tasks[i]?.elim w (w.move i)
  | .cutOff i => w.tasks[i]?.elim w (w.cutOff i)

/-- The world after a schedule. -/
def run (w : World) (schedule : List Action) : World := schedule.foldl act w

@[simp] theorem run_nil (w : World) : w.run [] = w := rfl

@[simp] theorem run_cons (w : World) (action : Action) (schedule : List Action) :
    w.run (action :: schedule) = (w.act action).run schedule := rfl

end World

/-! ## What stays -/

/-- What may become of a task: it keeps its job and what it has been answered, and changes no more
once it has returned. -/
structure Task.Becomes (task task' : Task) : Prop where
  job : task'.job = task.job
  transcript : task.transcript <+: task'.transcript
  rests : ∀ returned, task.stage = .finished returned → task' = task

theorem Task.Becomes.refl (task : Task) : task.Becomes task :=
  ⟨rfl, List.prefix_refl _, fun _ _ => rfl⟩

theorem Task.Becomes.trans {a b c : Task} (hab : a.Becomes b) (hbc : b.Becomes c) :
    a.Becomes c where
  job := hbc.job.trans hab.job
  transcript := hab.transcript.trans hbc.transcript
  rests r hr := by
    obtain rfl := hab.rests r hr
    exact hbc.rests r hr

theorem Task.becomes_of_stage {task : Task} (h : ∀ r, task.stage ≠ .finished r) (stage : Stage) :
    task.Becomes { task with stage } :=
  ⟨rfl, List.prefix_refl _, fun r hr => absurd hr (h r)⟩

theorem Task.becomes_answered {task : Task} (h : ∀ r, task.stage ≠ .finished r)
    (exchange : Exchange access) (rest : Script access (Returned × Link)) :
    task.Becomes (task.answered exchange rest) :=
  ⟨rfl, List.prefix_append _ _, fun r hr => absurd hr (h r)⟩

namespace World

/-- Only task `i` has changed, to what it may become. -/
def Advances (w w' : World) (i : Nat) (task : Task) : Prop :=
  ∃ task', w'.tasks = w.tasks.set i task' ∧ task.Becomes task'

theorem advances_self {w : World} {i : Nat} {task : Task} (h : w.tasks[i]? = some task) :
    w.Advances w i task := by
  refine ⟨task, ?_, .refl task⟩
  obtain ⟨hi, rfl⟩ := List.getElem?_eq_some_iff.mp h
  exact (List.set_getElem_self hi).symm

theorem advances_enter {w : World} {i : Nat} {task : Task} (h : w.tasks[i]? = some task) :
    w.Advances (w.enter i task) i task := by
  rw [enter]
  split
  · next hs => exact ⟨_, rfl, Task.becomes_of_stage (by simp [hs]) _⟩
  · exact advances_self h

theorem advances_ask (w : World) (i : Nat) {task : Task} (h : ∀ r, task.stage ≠ .finished r)
    (request : Bus.Request) (next : request.Reply → Script access (Returned × Link)) :
    w.Advances (w.ask i task request next) i task := by
  cases request with
  | observe connection => exact ⟨_, rfl, Task.becomes_answered h _ _⟩
  | call c limit =>
    simp only [ask]
    split
    · exact ⟨_, rfl, Task.becomes_answered h _ _⟩
    · exact ⟨_, rfl, Task.becomes_of_stage h _⟩

theorem advances_move {w : World} {i : Nat} {task : Task} (h : w.tasks[i]? = some task) :
    w.Advances (w.move i task) i task := by
  rw [move]
  split
  · exact advances_self h
  · next hs => exact ⟨_, rfl, Task.becomes_of_stage (by simp [hs]) _⟩
  · next hs => exact ⟨_, rfl, Task.becomes_of_stage (by simp [hs]) _⟩
  · next request next hs => exact w.advances_ask i (by simp [hs]) request next
  · next hs =>
    split
    · exact ⟨_, rfl, Task.becomes_answered (by simp [hs]) _ _⟩
    · exact advances_self h
  · exact advances_self h

theorem advances_cutOff {w : World} {i : Nat} {task : Task} (h : w.tasks[i]? = some task) :
    w.Advances (w.cutOff i task) i task := by
  rw [cutOff]
  split
  · next hs => exact ⟨_, rfl, Task.becomes_answered (by simp [hs]) _ _⟩
  · exact advances_self h

/-- **What becomes of a task** when something happens. -/
theorem becomes_act {w : World} {i : Nat} {task : Task} (h : w.tasks[i]? = some task)
    (action : Action) : ∃ task', (w.act action).tasks[i]? = some task' ∧ task.Becomes task' := by
  have hstep : ∀ (j : Nat) (f : Task → World),
      (∀ t, w.tasks[j]? = some t → w.Advances (f t) j t) →
      ∃ task', (w.tasks[j]?.elim w f).tasks[i]? = some task' ∧ task.Becomes task' := by
    intro j f hf
    cases hj : w.tasks[j]? with
    | none => exact ⟨task, h, .refl task⟩
    | some t =>
      obtain ⟨t', ht', hb⟩ := hf t hj
      rw [Option.elim_some, ht']
      by_cases hij : j = i
      · subst hij
        obtain rfl : t = task := Option.some.inj (hj.symm.trans h)
        exact ⟨t', List.getElem?_set_self (List.getElem?_eq_some_iff.mp h).1, hb⟩
      · exact ⟨task, (List.getElem?_set_ne hij).trans h, .refl task⟩
  cases action with
  | spawn job =>
    refine ⟨task, ?_, .refl task⟩
    rw [World.act, List.getElem?_append_left (List.getElem?_eq_some_iff.mp h).1, h]
  | strike trouble => exact ⟨task, h, .refl task⟩
  | elapse ms => exact ⟨task, h, .refl task⟩
  | enter j => exact hstep j _ fun _ => advances_enter
  | move j => exact hstep j _ fun _ => advances_move
  | cutOff j => exact hstep j _ fun _ => advances_cutOff

theorem becomes_run {w : World} {i : Nat} {task : Task} (h : w.tasks[i]? = some task)
    (schedule : List Action) :
    ∃ task', (w.run schedule).tasks[i]? = some task' ∧ task.Becomes task' := by
  induction schedule generalizing w task with
  | nil => exact ⟨task, h, .refl task⟩
  | cons action schedule ih =>
    obtain ⟨t, ht, hb⟩ := becomes_act h action
    obtain ⟨t', ht', hb'⟩ := ih ht
    exact ⟨t', ht', hb.trans hb'⟩

/-! ## A task left to itself -/

/-- A schedule in which nothing happens but steps of task `i`. -/
def Alone (i : Nat) (schedule : List Action) : Prop :=
  ∀ action ∈ schedule, action = .move i ∨ action = .cutOff i

/-- Task `i` can return without anything else happening. -/
def Completes (w : World) (i : Nat) : Prop :=
  ∃ schedule, Alone i schedule ∧ ∃ task returned,
    (w.run schedule).tasks[i]? = some task ∧ task.stage = .finished returned

theorem completes_of_act {w : World} {i : Nat} {action : Action}
    (ha : action = .move i ∨ action = .cutOff i) (h : (w.act action).Completes i) :
    w.Completes i := by
  obtain ⟨schedule, hall, hend⟩ := h
  refine ⟨action :: schedule, ?_, hend⟩
  intro x hx
  rcases List.mem_cons.mp hx with rfl | hx
  · exact ha
  · exact hall x hx

theorem tasks_put_self {w : World} {i : Nat} {task : Task} (h : w.tasks[i]? = some task)
    (task' : Task) : (w.put i task').tasks[i]? = some task' := by
  rw [put, List.getElem?_set_self (List.getElem?_eq_some_iff.mp h).1]

@[simp] theorem act_move {w : World} {i : Nat} {task : Task} (h : w.tasks[i]? = some task) :
    w.act (.move i) = w.move i task := by rw [act, h, Option.elim_some]

@[simp] theorem act_cutOff {w : World} {i : Nat} {task : Task} (h : w.tasks[i]? = some task) :
    w.act (.cutOff i) = w.cutOff i task := by rw [act, h, Option.elim_some]

/-- **A task that has the link completes**, however long its program is. -/
theorem completes_of_running {w : World} {i : Nat} {task : Task}
    {rest : Script access (Returned × Link)} (h : w.tasks[i]? = some task)
    (hs : task.stage = .running rest) : w.Completes i := by
  induction rest generalizing w task with
  | done r =>
    refine ⟨[.move i], fun x hx => Or.inl (List.mem_singleton.mp hx),
      { task with stage := .finished r.1 }, r.1, ?_, rfl⟩
    simp only [run_cons, run_nil, act_move h, move, hs]
    exact tasks_put_self h _
  | log e rest ih =>
    refine completes_of_act (Or.inl rfl) ?_
    simp only [act_move h, move, hs]
    exact ih (tasks_put_self h _) rfl
  | ask request next ih =>
    refine completes_of_act (Or.inl rfl) ?_
    simp only [act_move h, move, hs]
    cases request with
    | observe connection => exact ih () (tasks_put_self h _) rfl
    | call c limit =>
      simp only [ask]
      split
      · next timed hub ha => exact ih timed (tasks_put_self h _) rfl
      · next hub ha =>
        -- the pause may be cut off at once
        refine completes_of_act (Or.inr rfl) ?_
        have hp : ∀ task', ({ w with hub }.put i task').tasks[i]? = some task' := tasks_put_self h
        simp only [act_cutOff (hp _), cutOff]
        exact ih _ (tasks_put_self (hp _) _) rfl

/-- A task that has taken the link completes. -/
theorem completes_of_entered {w : World} {i : Nat} {task : Task} (h : w.tasks[i]? = some task)
    (hw : task.stage ≠ .waiting) : w.Completes i := by
  cases hs : task.stage with
  | waiting => exact absurd hs hw
  | running rest => exact completes_of_running h hs
  | paused c limit since next =>
    refine completes_of_act (Or.inr rfl) ?_
    simp only [act_cutOff h, cutOff, hs]
    exact completes_of_running (tasks_put_self h _) rfl
  | finished r => exact ⟨[], fun _ hx => absurd hx List.not_mem_nil, task, r, h, hs⟩

end World
end CatalogFeed
