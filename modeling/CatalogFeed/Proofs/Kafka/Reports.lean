import CatalogFeed.Kafka.Context

/-!
# Proofs/Kafka/Reports — who hears of the errors that a client reports

A context and its copies are one: what is done with any of them is done with all (`History.deeds`).
Whoever was set last hears of the next error, once, and finds every copy fatal if the error or
anything before it was (`hearing?`); as long as no one was set, the error is logged.

* `Context.undergo_after`: one deed more;
* `History.contexts_eq`, `History.heard_eq`: by induction on what is done;
* `History.errors_reach_the_observer`: the two together, for every history.
-/

namespace CatalogFeed.Kafka

variable {κ : Type} [KafkaFailure κ]

/-! ## What is done with a context -/

/-- What can be done with a context. -/
inductive Deed (κ : Type) where
  | observe (tag : String)
  | report (e : κ)
  | markFatal
  deriving DecidableEq

namespace Deed

/-- The observer that is set. -/
def observer? : Deed κ → Option String
  | .observe tag => some tag
  | .report _ | .markFatal => none

/-- Whether the sessions of the context are stale from then on. -/
def isFatal : Deed κ → Bool
  | .observe _ => false
  | .report e => KafkaFailure.isFatal e
  | .markFatal => true

end Deed

namespace Context

/-- The context after one deed more. -/
def undergo (c : Context) : Deed κ → Context
  | .observe tag => c.observe tag
  | .report e => c.note e
  | .markFatal => c.markFatal

/-- **What deeds make of a new context**: whoever was set last observes it, and it is fatal if one
of the deeds was. -/
def after (deeds : List (Deed κ)) : Context :=
  ⟨(deeds.filterMap Deed.observer?).getLast?, deeds.any Deed.isFatal⟩

theorem fatal_undergo (c : Context) (d : Deed κ) :
    (c.undergo d).fatal = (c.fatal || d.isFatal) := by
  cases d with
  | observe tag => exact (Bool.or_false _).symm
  | report e => exact c.fatal_note e
  | markFatal => exact (Bool.or_true _).symm

theorem observer_undergo (c : Context) (d : Deed κ) :
    (c.undergo d).observer = d.observer?.or c.observer := by
  cases d with
  | observe tag => rfl
  | report e => exact c.observer_note e
  | markFatal => rfl

/-- **One deed more.** -/
theorem undergo_after (deeds : List (Deed κ)) (d : Deed κ) :
    (after deeds).undergo d = after (deeds ++ [d]) := by
  have hobserver : ((after deeds).undergo d).observer = (after (deeds ++ [d])).observer := by
    rw [observer_undergo, after, after, List.filterMap_append, List.getLast?_append]
    cases h : d.observer? <;> simp [h]
  have hfatal : ((after deeds).undergo d).fatal = (after (deeds ++ [d])).fatal := by
    rw [fatal_undergo, after, after, List.any_append, List.any_cons, List.any_nil, Bool.or_false]
  calc (after deeds).undergo d
      = ⟨((after deeds).undergo d).observer, ((after deeds).undergo d).fatal⟩ := rfl
    _ = after (deeds ++ [d]) := by rw [hobserver, hfatal]

end Context

/-! ## What observers hear -/

/-- A call of an observer: who is called, with which error, and whether every context is fatal that
the observer finds then. -/
structure Hearing (κ : Type) where
  observer : String
  error : Error κ
  fatal : Bool
  deriving DecidableEq

/-- **The call that a deed causes after others**: an error is passed to whoever was set last. -/
def hearing? (before : List (Deed κ)) : Deed κ → Option (Hearing κ)
  | .report e =>
    (Context.after before).observer.map fun tag =>
      ⟨tag, .kafka e, before.any Deed.isFatal || KafkaFailure.isFatal e⟩
  | .observe _ | .markFatal => none

/-- The calls that deeds cause after others, in order. -/
def hearings (before : List (Deed κ)) : List (Deed κ) → List (Hearing κ)
  | [] => []
  | d :: rest => (hearing? before d).toList ++ hearings (before ++ [d]) rest

theorem hearings_concat (before deeds : List (Deed κ)) (d : Deed κ) :
    hearings before (deeds ++ [d]) =
      hearings before deeds ++ (hearing? (before ++ deeds) d).toList := by
  induction deeds generalizing before with
  | nil => simp [hearings]
  | cons d' deeds ih => simp [hearings, ih]

/-! ## Copies -/

namespace ContextPool

/-- Does something with a context; an observer that is called looks at every context. -/
def perform (p : ContextPool) (i : Nat) : Deed κ → ContextPool × Option (Hearing κ)
  | .observe tag => (p.update i (·.observe tag), none)
  | .report e => p.reportTo (fun tag error p => ⟨tag, error, p.fatalFlags.all id⟩) i e
  | .markFatal => (p.update i (·.markFatal), none)

/-- Copies of one context. -/
def copies (n : Nat) (c : Context) : ContextPool := ⟨[c], List.replicate n 0⟩

variable {n : Nat} {c : Context}

theorem copy_copies (i : Fin n) : (copies n c).copy i = copies (n + 1) c := by
  simp [copies, copy, List.replicate_succ']

theorem state_copies (i : Fin n) : (copies n c).state i = c := by
  simp [copies, state]

theorem update_copies (i : Fin n) (f : Context → Context) :
    (copies n c).update i f = copies n (f c) := by
  simp [copies, update]

theorem fatalFlags_copies : (copies n c).fatalFlags = List.replicate n c.fatal := by
  rw [fatalFlags, List.eq_replicate_iff]
  refine ⟨by simp [copies], fun flag h => ?_⟩
  obtain ⟨i, hi, rfl⟩ := List.mem_map.mp h
  have hlt : i < n := by simpa [copies] using hi
  rw [state_copies ⟨i, hlt⟩]

/-- Of copies, all are fatal or none. -/
theorem all_fatalFlags_copies (i : Fin n) : (copies n c).fatalFlags.all id = c.fatal := by
  have hn : n ≠ 0 := Nat.ne_zero_of_lt i.isLt
  rw [fatalFlags_copies, List.all_replicate, if_neg hn, id]

/-- **What is done with one copy is done with all**, and passes an error to whoever observes. -/
theorem perform_copies (i : Fin n) (deeds : List (Deed κ)) (d : Deed κ) :
    (copies n (.after deeds)).perform i d =
      (copies n (.after (deeds ++ [d])), hearing? deeds d) := by
  rw [← Context.undergo_after]
  cases d with
  | observe tag => exact congrArg (·, none) (update_copies i _)
  | markFatal => exact congrArg (·, none) (update_copies i _)
  | report e =>
    have hfatal := Context.fatal_note (.after deeds) e
    rw [perform, reportTo, update_copies i, state_copies i, all_fatalFlags_copies i, hfatal,
      Context.observer_note]
    rfl

end ContextPool

/-! ## Histories -/

/-- What is done with a context and its copies, of which there are `n` in the end. -/
inductive History (κ : Type) : Nat → Type where
  | fresh : History κ 1
  | copy {n : Nat} (h : History κ n) (i : Fin n) : History κ (n + 1)
  | deed {n : Nat} (h : History κ n) (i : Fin n) (d : Deed κ) : History κ n

namespace History

/-- What is done, no matter with which copy. -/
def deeds {n : Nat} : History κ n → List (Deed κ)
  | .fresh => []
  | .copy h _ => h.deeds
  | .deed h _ d => h.deeds ++ [d]

/-- The contexts in the end. -/
def contexts {n : Nat} : History κ n → ContextPool
  | .fresh => {}
  | .copy h i => h.contexts.copy i
  | .deed h i d => (h.contexts.perform i d).1

/-- The calls of observers, in order. -/
def heard {n : Nat} : History κ n → List (Hearing κ)
  | .fresh => []
  | .copy h _ => h.heard
  | .deed h i d => h.heard ++ (h.contexts.perform i d).2.toList

/-- **The contexts are copies of what the deeds make of a new one.** -/
theorem contexts_eq {n : Nat} (h : History κ n) : h.contexts = .copies n (.after h.deeds) := by
  induction h with
  | fresh => rfl
  | copy h i ih => rw [contexts, ih, ContextPool.copy_copies, deeds]
  | deed h i d ih => rw [contexts, ih, ContextPool.perform_copies, deeds]

/-- **The calls of observers are those that the deeds cause.** -/
theorem heard_eq {n : Nat} (h : History κ n) : h.heard = hearings [] h.deeds := by
  induction h with
  | fresh => rfl
  | copy h i ih => exact ih
  | deed h i d ih =>
    rw [heard, deeds, hearings_concat, ih, h.contexts_eq, ContextPool.perform_copies,
      List.nil_append]

/-- **Errors that a client reports are neither lost nor doubled nor misled.**  Whatever type of
failures the client has, and whatever is done with a context and its copies, each error is passed
once and in order to whoever was set last, and to no one else; while no one was set it is logged.
A copy is fatal if and only if a fatal error was reported, or the copies were marked, by then: also
for the observer that is called. -/
theorem errors_reach_the_observer {n : Nat} (h : History κ n) :
    h.heard = hearings [] h.deeds ∧
      h.contexts.fatalFlags = List.replicate n (h.deeds.any Deed.isFatal) ∧
      ∀ (i : Fin n) (e : κ) (reason : String),
        (h.contexts.report i e reason).2 =
          match (h.deeds.filterMap Deed.observer?).getLast? with
          | some tag => .observed tag (.kafka e)
          | none => .logged (Context.unobservedEntry e reason) := by
  refine ⟨h.heard_eq, ?_, fun i e reason => ?_⟩
  · rw [h.contexts_eq, ContextPool.fatalFlags_copies]
    rfl
  · have hobserver := Context.observer_note (.after h.deeds) e
    rw [h.contexts_eq, ContextPool.report, ContextPool.reportTo, ContextPool.update_copies i,
      ContextPool.state_copies i, hobserver, Context.after]
    cases (h.deeds.filterMap Deed.observer?).getLast? <;> rfl

end History
end CatalogFeed.Kafka
