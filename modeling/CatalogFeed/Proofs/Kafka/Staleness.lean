import CatalogFeed.Kafka.Session
import CatalogFeed.Proofs.Kafka.Reports
import Mathlib.Data.List.Induction
import Mathlib.Logic.Function.Basic

/-!
# Proofs/Kafka/Staleness — a stale session stays stale

The sessions of a client share its context.  A session is stale once it has been closed, and all are
once something fatal has been done with the context (`staleness?`): a fatal error was reported, or
it was marked.  As long as the cluster cannot be reached no transaction begins, so that is all there
is to a session, and calls that fail for want of a cluster change nothing.

* `Session.perform_idle`: every call of a session in which no transaction has begun;
* `Sharing.after_eq`: the sessions and their context, by induction on what is done;
* `Sharing.stale_sessions_stay_stale`: what is answered, and that it is so for good.
-/

namespace CatalogFeed.Kafka

variable {κ : Type} [KafkaFailure κ]

/-! ## Clients without a cluster -/

/-- A failure that makes no session stale. -/
def Passing (answer : Except (Error κ) Unit) : Prop :=
  ∃ e, answer = .error e ∧ e.isSessionInvalid = false

theorem Passing.track {answer : Except (Error κ) Unit} (h : Passing answer) (c : Context) :
    c.track answer = c := by
  obtain ⟨e, rfl, he⟩ := h
  rw [Context.track, he]
  rfl

theorem Passing.ne_sessionInvalid {answer : Except (Error κ) Unit} (h : Passing answer)
    (why : String) : answer ≠ .error (.sessionInvalid why) := by
  obtain ⟨e, rfl, he⟩ := h
  rintro ⟨⟩
  cases he

/-- **A client whose cluster cannot be reached**: no topic is found and no transaction begins, and
neither failure is fatal. -/
structure Client.CutOff (client : Client κ) : Prop where
  declare (name : String) : Passing (client.declare name)
  beginTransaction : Passing client.beginTransaction

theorem Client.cutOff_unreached {noMetadata notInitialized : κ}
    (hm : KafkaFailure.isFatal noMetadata = false)
    (hi : KafkaFailure.isFatal notInitialized = false) :
    (unreached noMetadata notInitialized).CutOff where
  declare _ := ⟨.kafka noMetadata, rfl, hm⟩
  beginTransaction := ⟨.kafka notInitialized, rfl, hi⟩

/-! ## Calls of a session -/

/-- The calls of a session. -/
inductive SessionCall where
  | createTopic (name : String)
  | send (topic : String) (message : Message)
  | commit
  | rollback
  | close

/-- Whether a call is refused by a stale session. -/
def SessionCall.isChecked : SessionCall → Bool
  | .createTopic _ | .send _ _ | .commit => true
  | .rollback | .close => false

/-- **Why a session is stale**: that it was closed comes before anything fatal. -/
def staleness? (closed fatal : Bool) : Option String :=
  if closed then some "Kafka session is closed"
  else if fatal then some "Kafka producer raised a fatal error"
  else none

namespace Session

/-- A call of a session: its answer, the session and the context after it. -/
def perform (client : Client κ) (s : Session) (c : Context) :
    SessionCall → Except (Error κ) Unit × Session × Context
  | .createTopic name => s.createTopic client name c
  | .send topic message => s.send client topic message c
  | .commit => s.commit client c
  | .rollback => s.rollback client c
  | .close => (.ok (), s.close, c)

/-- What a valid session without a transaction answers to a call, if none can begin. -/
def validAnswer (client : Client κ) : SessionCall → Except (Error κ) Unit
  | .createTopic name => client.declare name
  | .send _ _ => client.beginTransaction
  | .commit | .rollback | .close => .ok ()

/-- What a session without a transaction answers to a call, if none can begin. -/
def idleAnswer (client : Client κ) (s : Session) (c : Context) (call : SessionCall) :
    Except (Error κ) Unit :=
  match staleness? s.closed c.fatal with
  | some why => if call.isChecked then .error (.sessionInvalid why) else validAnswer client call
  | none => validAnswer client call

/-- What a call leaves of a session without a transaction. -/
def afterIdle (s : Session) : SessionCall → Session
  | .close => ⟨true, false⟩
  | _ => s

theorem ifChecked_eq {κ : Type} (s : Session) (c : Context)
    (next : Except (Error κ) Unit × Session × Context) :
    s.ifChecked c next =
      match staleness? s.closed c.fatal with
      | some why => (.error (.sessionInvalid why), s, c)
      | none => next := by
  rw [ifChecked, checked, staleness?]
  cases s.closed <;> cases c.fatal <;> rfl

variable {client : Client κ} {s : Session}

/-- **Without a cluster, a call of a session without a transaction** leaves the context alone and
begins no transaction. -/
theorem perform_idle (hclient : client.CutOff) (hs : s.inTransaction = false) (c : Context)
    (call : SessionCall) :
    s.perform client c call = (s.idleAnswer client c call, s.afterIdle call, c) := by
  cases call with
  | createTopic name =>
    have htrack := (hclient.declare name).track c
    rw [perform, createTopic, ifChecked_eq, htrack, idleAnswer]
    cases staleness? s.closed c.fatal <;> rfl
  | send topic message =>
    obtain ⟨e, he, -⟩ := hclient.beginTransaction
    have htrack : c.track (.error e) = c := he ▸ hclient.beginTransaction.track c
    rw [perform, send, ifChecked_eq, hs, he, idleAnswer, validAnswer, he]
    cases staleness? s.closed c.fatal with
    | none => exact congrArg (Except.error e, s, ·) htrack
    | some why => rfl
  | commit =>
    rw [perform, commit, ifChecked_eq, hs, idleAnswer]
    cases staleness? s.closed c.fatal <;> rfl
  | rollback =>
    rw [perform, rollback, hs, idleAnswer]
    cases staleness? s.closed c.fatal <;> rfl
  | close =>
    have hclose : s.close = ⟨true, false⟩ := by
      obtain ⟨closed, inTransaction⟩ := s
      cases hs
      cases closed <;> rfl
    rw [perform, hclose, idleAnswer]
    cases staleness? s.closed c.fatal <;> rfl

theorem validAnswer_ne_sessionInvalid (hclient : client.CutOff) (call : SessionCall)
    (why : String) : validAnswer client call ≠ .error (.sessionInvalid why) := by
  cases call with
  | createTopic name => exact (hclient.declare name).ne_sessionInvalid why
  | send topic message => exact hclient.beginTransaction.ne_sessionInvalid why
  | _ => nofun

end Session

/-! ## Sessions that share a context -/

/-- What is done with sessions that share a context: a call of one of them, as the client then
answers, or something with the context. -/
inductive Turn (κ : Type) (n : Nat) where
  | call (i : Fin n) (client : Client κ) (call : SessionCall)
  | deed (d : Deed κ)

namespace Turn

variable {n : Nat}

/-- Whether the turn closes the session. -/
def closes (i : Fin n) : Turn κ n → Bool
  | .call j _ .close => j = i
  | _ => false

/-- What is done with the context. -/
def deed? : Turn κ n → Option (Deed κ)
  | .call _ _ _ => none
  | .deed d => some d

/-- Whether the turn makes all sessions stale. -/
def isFatal (t : Turn κ n) : Bool := t.deed?.any Deed.isFatal

/-- Whether the client has no cluster at that time. -/
def CutOff : Turn κ n → Prop
  | .call _ client _ => client.CutOff
  | .deed _ => True

end Turn

/-- Sessions that share a context. -/
structure Sharing (n : Nat) where
  context : Context := .fresh
  sessions : Fin n → Session := fun _ => {}

namespace Sharing

variable {n : Nat}

/-- What a session answers to a call. -/
def answer (s : Sharing n) (i : Fin n) (client : Client κ) (call : SessionCall) :
    Except (Error κ) Unit :=
  ((s.sessions i).perform client s.context call).1

/-- The sessions after one turn more. -/
def take (s : Sharing n) : Turn κ n → Sharing n
  | .call i client call =>
    let performed := (s.sessions i).perform client s.context call
    ⟨performed.2.2, Function.update s.sessions i performed.2.1⟩
  | .deed d => { s with context := s.context.undergo d }

/-- New sessions after some turns. -/
def after (turns : List (Turn κ n)) : Sharing n := turns.foldl take {}

/-- What is left of new sessions: who was closed, and what has been done with the context. -/
def summary (turns : List (Turn κ n)) : Sharing n where
  context := .after (turns.filterMap Turn.deed?)
  sessions i := ⟨turns.any (·.closes i), false⟩

theorem take_summary (turns : List (Turn κ n)) {t : Turn κ n} (ht : t.CutOff) :
    (summary turns).take t = summary (turns ++ [t]) := by
  cases t with
  | deed d =>
    have hsessions : (summary (turns ++ [.deed d])).sessions = (summary turns).sessions := by
      funext i
      simp [summary, Turn.closes]
    rw [take, summary, Context.undergo_after, ← summary, ← hsessions]
    simp [summary, Turn.deed?]
  | call i client call =>
    have hidle : ((summary turns).sessions i).inTransaction = false := rfl
    have hcontext : (summary (turns ++ [.call i client call])).context =
        (summary turns).context := by
      rw [summary, List.filterMap_append, List.filterMap_cons_none rfl, List.filterMap_nil,
        List.append_nil, summary]
    have hsessions : Function.update (summary turns).sessions i
        (((summary turns).sessions i).afterIdle call) =
          (summary (turns ++ [.call i client call])).sessions := by
      funext j
      by_cases hj : j = i
      · subst hj
        rw [Function.update_self]
        cases call <;> simp [summary, Session.afterIdle, Turn.closes]
      · rw [Function.update_of_ne hj]
        cases call <;> simp [summary, Turn.closes, Ne.symm hj]
    rw [take, Session.perform_idle ht hidle, hsessions, ← hcontext]

/-- **As long as the cluster cannot be reached**, all that counts is who was closed and what has
been done with the context. -/
theorem after_eq (turns : List (Turn κ n)) (h : ∀ t ∈ turns, t.CutOff) :
    after turns = summary turns := by
  induction turns using List.reverseRecOn with
  | nil => rfl
  | append_singleton turns t ih =>
    obtain ⟨hturns, ht⟩ := List.forall_mem_append.mp h
    rw [after, List.foldl_append, ← after, ih hturns]
    exact take_summary turns (ht t (by simp))

/-- Why a session is stale after some turns. -/
def whyStale? (turns : List (Turn κ n)) (i : Fin n) : Option String :=
  staleness? (turns.any (·.closes i)) (turns.any Turn.isFatal)

theorem isSome_whyStale? (turns : List (Turn κ n)) (i : Fin n) :
    (whyStale? turns i).isSome = (turns.any (·.closes i) || turns.any Turn.isFatal) := by
  rw [whyStale?, staleness?]
  cases turns.any (·.closes i) <;> cases turns.any Turn.isFatal <;> rfl

section Answers

variable {turns : List (Turn κ n)} (h : ∀ t ∈ turns, t.CutOff) (i : Fin n) {client : Client κ}
  (hclient : client.CutOff)

include h hclient

theorem answer_eq (call : SessionCall) : (after turns).answer i client call =
    match whyStale? turns i with
    | some why =>
      if call.isChecked then .error (.sessionInvalid why) else Session.validAnswer client call
    | none => Session.validAnswer client call := by
  have hfatal : (summary turns).context.fatal = turns.any Turn.isFatal := by
    rw [summary, Context.after, List.any_filterMap]
    rfl
  rw [answer, after_eq turns h, Session.perform_idle hclient rfl, Session.idleAnswer, hfatal]
  rfl

/-- **A checked call is refused for what makes the session stale**, and for nothing else. -/
theorem answer_eq_sessionInvalid_iff {call : SessionCall} (hcall : call.isChecked = true)
    (why : String) : (after turns).answer i client call = .error (.sessionInvalid why) ↔
      whyStale? turns i = some why := by
  have hvalid := Session.validAnswer_ne_sessionInvalid hclient call why
  rw [answer_eq h i hclient call, hcall]
  cases whyStale? turns i with
  | none => simpa using hvalid
  | some why' => simp

/-- What is not checked, and a commit in a valid session, has nothing to fail at. -/
theorem answer_eq_ok {call : SessionCall} (hcall : Session.validAnswer client call = .ok ())
    (hvalid : call.isChecked = false ∨ whyStale? turns i = none) :
    (after turns).answer i client call = .ok () := by
  rw [answer_eq h i hclient call, hcall]
  obtain hchecked | hvalid := hvalid
  · rw [hchecked]
    cases whyStale? turns i <;> rfl
  · rw [hvalid]

/-- **To close a session leaves the others as they are.** -/
theorem take_close : ((after turns).take (.call i client .close)).context = (after turns).context ∧
    ∀ j ≠ i,
      ((after turns).take (.call i client .close)).sessions j = (after turns).sessions j := by
  rw [after_eq turns h, take, Session.perform_idle hclient rfl]
  exact ⟨rfl, fun j hj => Function.update_of_ne hj _ _⟩

end Answers

/-- **A stale session stays stale.**  Whatever type of failures the client has, and whatever is done
with sessions that share a context while the cluster cannot be reached: a topic, a message or a
commit is refused by a session if and only if the session was closed, which is named first, or
something fatal has been done with the context, and then for good.  Nothing else makes a session
stale, none has a transaction, and a commit in a valid session, a rollback and a close have nothing
to fail at. -/
theorem stale_sessions_stay_stale (turns : List (Turn κ n)) (h : ∀ t ∈ turns, t.CutOff) :
    let s := after turns
    s.context.fatal = turns.any Turn.isFatal ∧
      (∀ i, s.sessions i = ⟨turns.any (·.closes i), false⟩) ∧
      (∀ (i : Fin n) (client : Client κ), client.CutOff →
        (∀ call : SessionCall, call.isChecked = true → ∀ why,
          s.answer i client call = .error (.sessionInvalid why) ↔ whyStale? turns i = some why) ∧
        (whyStale? turns i = none → s.answer i client .commit = .ok ()) ∧
        s.answer i client .rollback = .ok () ∧
        s.answer i client .close = .ok () ∧
        (s.take (.call i client .close)).context = s.context ∧
        ∀ j ≠ i, (s.take (.call i client .close)).sessions j = s.sessions j) ∧
      ∀ (i : Fin n) (more : List (Turn κ n)), (whyStale? turns i).isSome = true →
        (whyStale? (turns ++ more) i).isSome = true := by
  intro s
  refine ⟨?_, fun i => ?_, fun i client hclient => ⟨fun call hcall why => ?_, fun hvalid => ?_,
    ?_, ?_, take_close h i hclient⟩, fun i more hstale => ?_⟩
  · rw [show s = summary turns from after_eq turns h, summary, Context.after, List.any_filterMap]
    rfl
  · rw [show s = summary turns from after_eq turns h]
    rfl
  · exact answer_eq_sessionInvalid_iff h i hclient hcall why
  · exact answer_eq_ok h i hclient rfl (.inr hvalid)
  · exact answer_eq_ok h i hclient rfl (.inl rfl)
  · exact answer_eq_ok h i hclient rfl (.inl rfl)
  · rw [isSome_whyStale?] at hstale ⊢
    rw [List.any_append, List.any_append]
    grind

/-- A client without a cluster, as it describes its failures. -/
def cutOffClient : Client KafkaError :=
  .unreached noCluster { message := "Transaction error: Operation not valid in state Init" }

/-- A closed session names its closing, though a fatal error was reported after it; the other
session names the error. -/
theorem stale_sessions_stay_stale_both_causes :
    let turns : List (Turn KafkaError 2) := [.call 0 cutOffClient (.createTopic "hcat"),
      .deed (.report noCluster), .call 0 cutOffClient .close,
      .deed (.report ⟨some .fatal, false, "Global error: Fatal (Local: Fatal error)"⟩),
      .call 1 cutOffClient .rollback]
    let s := after turns
    (∀ t ∈ turns, t.CutOff) ∧ cutOffClient.CutOff ∧
      s.answer 0 cutOffClient (.send "hcat" (.map [])) =
        .error (.sessionInvalid "Kafka session is closed") ∧
      s.answer 1 cutOffClient .commit =
        .error (.sessionInvalid "Kafka producer raised a fatal error") ∧
      s.answer 1 cutOffClient .rollback = .ok () ∧ (s.sessions 1).closed = false := by
  intro turns s
  have hclient : cutOffClient.CutOff := Client.cutOff_unreached rfl rfl
  have hturns : ∀ t ∈ turns, t.CutOff := by simp [turns, Turn.CutOff, hclient]
  obtain ⟨-, hsessions, hanswers, -⟩ := stale_sessions_stay_stale turns hturns
  obtain ⟨hfirst, -⟩ := hanswers 0 cutOffClient hclient
  obtain ⟨hsecond, -, hrollback, -⟩ := hanswers 1 cutOffClient hclient
  exact ⟨hturns, hclient, (hfirst (.send "hcat" (.map [])) rfl _).mpr rfl,
    (hsecond .commit rfl _).mpr rfl, hrollback, congrArg Session.closed (hsessions 1)⟩

end Sharing
end CatalogFeed.Kafka
