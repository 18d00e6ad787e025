import CatalogFeed.Fault
import CatalogFeed.Proofs.Publish.Outline
import CatalogFeed.Proofs.Publish.Ownership
import CatalogFeed.Proofs.Script.Transcript

/-!
# Proofs/Publish/Abandonment — what becomes of the connections that are opened

Whatever bus answers, and however it answers, the transcript of any errands tells of each connection
how often it was opened, how often it was closed, and how often it was stranded: not started, or
left without a session, by a call that failed or was cut off.  A connection that was opened is
closed, or is held by the link, unless it was stranded; then no one closes it.

* `Tallies.append`: the books of a transcript, one exchange after the other;
* `accounted_invariant`: opening and giving up a link keep the books;
* `connections_accounted_iff`: the books of any errands.
-/

namespace CatalogFeed

open Bus (access Call ConnectionId Outcome SessionId Within)

/-! ## Connections in a transcript -/

namespace Bus

/-- Whether the exchange opens the connection. -/
def opensConnection (c : ConnectionId) : Exchange access → Bool
  | ⟨.call (.createConnection _) _, ⟨.ok c', _⟩⟩ => c' == c
  | _ => false

/-- Whether the exchange is a call to close the connection, however it is answered. -/
def closesConnection (c : ConnectionId) : Exchange access → Bool
  | ⟨.call (.closeConnection c') _, _⟩ => c' == c
  | _ => false

/-- **Whether the exchange strands the connection**: it is not started, or no session is opened on
it. -/
def strands (c : ConnectionId) : Exchange access → Bool
  | ⟨.call (.start c') _, ⟨outcome, _⟩⟩ => c' == c && !outcome.isOk
  | ⟨.call (.createSession c') _, ⟨outcome, _⟩⟩ => c' == c && !outcome.isOk
  | _ => false

end Bus

open Bus (opensConnection closesConnection strands)

/-- How often a connection is held: once, or not at all. -/
def timesHeld (held : Option ConnectionId) (c : ConnectionId) : Nat := (held == some c).toNat

/-- **The books balance**: each connection that was opened was closed, is held, or was stranded. -/
def Tallies (held : Option ConnectionId) (t : Transcript access) : Prop :=
  ∀ c, t.countP (opensConnection c) =
    t.countP (closesConnection c) + timesHeld held c + t.countP (strands c)

variable {held held' : Option ConnectionId} {t : Transcript access} {c : ConnectionId}

/-- They still balance after one exchange more that balances for itself. -/
theorem Tallies.append (h : Tallies held t) {x : Exchange access}
    (hx : ∀ c, (opensConnection c x).toNat + timesHeld held c =
      (closesConnection c x).toNat + timesHeld held' c + (strands c x).toNat) :
    Tallies held' (t ++ [x]) := by
  intro c
  have hcount (p : Exchange access → Bool) : (t ++ [x]).countP p = t.countP p + (p x).toNat := by
    rw [List.countP_append, List.countP_singleton]
    cases p x <;> rfl
  have := h c
  have := hx c
  rw [hcount, hcount, hcount]
  omega

/-- An exchange in which no connection is opened, closed or stranded. -/
theorem Tallies.append_idle (h : Tallies held t) {x : Exchange access}
    (hx : ∀ c, opensConnection c x = false ∧ closesConnection c x = false ∧ strands c x = false) :
    Tallies held (t ++ [x]) :=
  h.append fun c => by simp [hx c]

/-- A connection that is stranded is not held any more. -/
theorem Tallies.append_stranded (h : Tallies (some c) t) {x : Exchange access}
    (hx : ∀ c', opensConnection c' x = false ∧ closesConnection c' x = false ∧
      strands c' x = (c == c')) : Tallies none (t ++ [x]) :=
  h.append fun c' => by simp [hx c', timesHeld]

/-! ## Opening and giving up -/

/-- The books balance with the connection of the link, which has one just if it has a session. -/
structure Link.Accounted (l : Link) (t : Transcript access) : Prop where
  paired : l.connection.isSome = l.session.isSome
  tallies : Tallies l.connection t

namespace Publisher

/-- A call on a new connection that strands it unless it succeeds. -/
theorem leads_call_tallies {call : Call} (h : Tallies (some c) t)
    (hidle : ∀ limit reply c', opensConnection c' ⟨.call call limit, reply⟩ = false ∧
      closesConnection c' ⟨.call call limit, reply⟩ = false)
    (hstrands : ∀ limit reply c', strands c' ⟨.call call limit, reply⟩ =
      (c == c' && !reply.outcome.isOk)) :
    Within.Leads (.recording fun _ => True) (fun _ => Tallies (some c)) (Tallies none)
      (.call call) t := by
  refine Within.leads_call trivial fun limit reply t' hr => ⟨trivial, ?_⟩
  obtain rfl : t' = _ := hr
  have hx (c') := hidle limit reply c'
  have hs (c') := hstrands limit reply c'
  cases hout : reply.outcome with
  | ok _ => exact h.append_idle fun c' => ⟨(hx c').1, (hx c').2, by simp [hs, hout, Outcome.isOk]⟩
  | error e =>
    exact h.append_stranded fun c' => ⟨(hx c').1, (hx c').2, by simp [hs, hout, Outcome.isOk]⟩
  | silent =>
    exact h.append_stranded fun c' => ⟨(hx c').1, (hx c').2, by simp [hs, hout, Outcome.isOk]⟩

/-- **Opening ends with a connection to hold, or with none**, opened or stranded. -/
theorem leads_establish_tallies (p : Publisher) (h : Tallies none t) :
    Within.Leads (.recording fun _ => True) (fun r => Tallies (some r.1)) (Tallies none)
      p.establish t := by
  refine Within.Leads.bind (Q := fun _ => Tallies none) ?_ fun factory t h => ?_
  · refine Within.leads_call trivial fun limit reply t' hr => ⟨trivial, ?_⟩
    obtain rfl : t' = _ := hr
    have h' : Tallies none (t ++ [⟨.call (.lookup p.factoryName) limit, reply⟩]) :=
      h.append_idle fun _ => ⟨rfl, rfl, rfl⟩
    cases reply.outcome <;> exact h'
  refine Within.Leads.bind (Q := fun c => Tallies (some c)) ?_ fun c t h => ?_
  · refine Within.leads_call (c := .createConnection factory) trivial fun limit reply t' hr =>
      ⟨trivial, ?_⟩
    obtain rfl : t' = _ := hr
    obtain ⟨out, spent⟩ := reply
    cases out with
    | ok c =>
      exact h.append fun c' => by simp [opensConnection, closesConnection, strands, timesHeld]
    | error e => exact h.append_idle fun _ => ⟨rfl, rfl, rfl⟩
    | silent => exact h.append_idle fun _ => ⟨rfl, rfl, rfl⟩
  refine Within.Leads.bind (Q := fun _ => Tallies (some c)) ?_ fun _ t h => ?_
  · exact leads_call_tallies h (fun _ _ _ => ⟨rfl, rfl⟩) fun _ _ _ => rfl
  refine Within.Leads.bind (Q := fun _ => Tallies (some c)) ?_ fun _ t h => ?_
  · refine Within.leads_observe trivial fun reply t' hr => ⟨trivial, ?_⟩
    obtain rfl : t' = _ := hr
    exact h.append_idle fun _ => ⟨rfl, rfl, rfl⟩
  refine Within.Leads.bind (Q := fun _ => Tallies (some c)) ?_ fun _ t h =>
    Within.leads_pure trivial h
  exact leads_call_tallies h (fun _ _ _ => ⟨rfl, rfl⟩) fun _ _ _ => rfl

/-- **Giving a link up closes its connection**, whatever comes of the call. -/
theorem tallies_releaseLink (p : Publisher) {l : Link} (h : Tallies l.connection t) :
    Publishing.Ensures (.recording fun _ => True) (fun _ l' t' => l' = {} ∧ Tallies none t')
      p.releaseLink l t := by
  refine ensures_releaseLink_by (M := Tallies l.connection) p l trivial (fun _ => h) ?_ ?_ ?_
  · rintro id -
    refine Within.gives_call trivial (fun limit reply t' hr => ⟨trivial, ?_⟩)
      fun _ _ _ _ _ _ => trivial
    obtain rfl : t' = _ := hr
    exact h.append_idle fun _ => ⟨rfl, rfl, rfl⟩
  · rintro t' h' hl
    exact hl ▸ h'
  · rintro c t' - h' hl
    refine Within.gives_call trivial (fun limit reply t'' hr => ⟨trivial, ?_⟩)
      fun _ _ _ _ _ _ => trivial
    obtain rfl : t'' = _ := hr
    rw [hl] at h'
    exact h'.append fun c' => by simp [opensConnection, closesConnection, strands, timesHeld]

/-- **Whatever is done with a link, the books balance.** -/
theorem accounted_invariant : Link.Invariant (.recording fun _ => True) Link.Accounted where
  holds _ := trivial
  opened p l t h hl := by
    have hnone : l.connection = none := by simpa [hl] using h.paired
    have htallies : Tallies none t := hnone ▸ h.tallies
    exact ensures_openLink_of_leads (leads_establish_tallies p htallies)
      (fun r _ h' => ⟨rfl, h'⟩) fun _ h' => ⟨h.paired, hnone ▸ h'⟩
  released p l t h :=
    (tallies_releaseLink p h.tallies).mono fun _ _ _ _ h' => ⟨h'.1, h'.1 ▸ ⟨rfl, h'.2⟩⟩
  stepped := by
    rintro c limit l t reply t' h hc rfl
    refine ⟨h.paired, h.tallies.append_idle fun c' => ?_⟩
    obtain haloof | ⟨id, rfl, -⟩ := hc
    · cases c <;> first | exact ⟨rfl, rfl, rfl⟩ | cases haloof
    · exact ⟨rfl, rfl, rfl⟩

end Publisher

/-! ## The books of any errands -/

theorem one_le_timesHeld_iff : 1 ≤ timesHeld held c ↔ held = some c := by
  rw [timesHeld]
  by_cases hc : held = some c <;> simp [hc]

/-- **Every connection is accounted for**, whatever bus answers the errands, and however it answers
them: it is closed or held as often as it was opened, unless it was stranded.  So a connection that
was opened once is held, or was closed, if and only if no start of it failed or was cut off, and no
opening of a session on it. -/
theorem connections_accounted_iff {σ : Type} (bus : Service access σ) (state : σ)
    (errands : List Errand) (journal : Journal) :
    let program : Publishing Unit := forM errands Errand.program
    let after := program.run bus.recorded {} (state, []) journal
    let link := after.2.1
    let t := after.2.2.1.2
    (∀ c, t.countP (opensConnection c) =
      t.countP (closesConnection c) + timesHeld link.connection c + t.countP (strands c)) ∧
    ((∀ c, t.countP (opensConnection c) =
      t.countP (closesConnection c) + timesHeld link.connection c) ↔
        ∀ x ∈ t, ∀ c, strands c x = false) ∧
    ∀ c, t.countP (opensConnection c) = 1 →
      (link.connection = some c ∨ (∃ x ∈ t, closesConnection c x = true) ↔
        ∀ x ∈ t, strands c x = false) := by
  intro program after link t
  have hprogram :
      Publishing.Ensures (.recording fun _ => True) (fun _ => Link.Accounted) program {} [] :=
    Publisher.accounted_invariant.ensures_programs errands ⟨rfl, fun _ => rfl⟩
  have hbooks : Tallies link.connection t := (hprogram.run_recorded bus state journal).tallies
  have hstrands (c) : t.countP (strands c) = 0 ↔ ∀ x ∈ t, strands c x = false := by
    simp [List.countP_eq_zero]
  refine ⟨hbooks, ⟨fun h x hx c => ?_, fun h c => ?_⟩, fun c hopened => ?_⟩
  · have := hbooks c
    have := h c
    exact (hstrands c).mp (by omega) x hx
  · have := hbooks c
    have := (hstrands c).mpr fun x hx => h x hx c
    omega
  · have := hbooks c
    rw [← hstrands, ← List.countP_pos_iff, ← one_le_timesHeld_iff]
    omega

/-- A session that cannot be opened leaves its connection open, with an observer, and no one closes
it. -/
theorem unused_connection_is_abandoned :
    let p : Publisher := ⟨"cf", 1000, 500⟩
    let hub : Bus.Hub := { directory := Bus.Directory.bind {} "cf" 0 }
    let faults : Faults Bus.Point Error :=
      [(.createSession, { error := some (.connection "down") })]
    let after := (Errand.connect p).program.run (Bus.troubled Bus.Hub.service).recorded {}
      ((hub, faults), []) {}
    let t := after.2.2.1.2
    let broker := after.2.2.1.1.1.broker
    after.2.1 = {} ∧ t.any (opensConnection 0) = true ∧ t.any (closesConnection 0) = false ∧
      broker.connectionsOpened = 1 ∧ broker.connectionsClosed = 0 ∧
      broker.observers = [.publisher] := by
  decide

end CatalogFeed
