import CatalogFeed.Fault
import CatalogFeed.Proofs.Publish.Outline
import CatalogFeed.Proofs.Publish.Schedule

/-!
# Proofs/Publish/Books — what one task adds to a broker in memory

A task takes over a broker on which `base` has been delivered, and may add its own message `own`.
The books balance (`Balanced`) while no transaction overlaps another, the delivered messages are
`base` and, once a commit has succeeded, `own`, and the task has not declared a topic more than
twice, nor sent or committed more than once.

* `Outline.books_sound`: the outline of one publish by which its books balance at every point;
* `Job.ensures_program`: every job keeps its books, and says truthfully whether it has committed.
-/

namespace CatalogFeed

open Bus (access Call Core Outcome Point Session SessionId)

/-! ## Counting calls -/

/-- The call of a request, if it is one. -/
def Bus.Request.call? : Bus.Request → Option Call
  | .call c _ => some c
  | .observe _ => none

/-- Whether the exchange is a commit that succeeded. -/
def Bus.commits : Exchange access → Bool
  | ⟨.call (.commit _) _, ⟨.ok _, _⟩⟩ => true
  | _ => false

/-- The calls of a transcript. -/
def Bus.calls (t : Transcript access) : List Call := t.filterMap (·.request.call?)

/-- Whether a commit has succeeded. -/
def Bus.committed (t : Transcript access) : Bool := t.any Bus.commits

/-- How many calls of a kind there are. -/
def Bus.tally (calls : List Call) (point : Point) : Nat := calls.countP (·.point = point)

@[simp] theorem Bus.calls_append (t : Transcript access) (x : Exchange access) :
    Bus.calls (t ++ [x]) = Bus.calls t ++ x.request.call?.toList := by
  cases h : x.request.call? <;> simp [Bus.calls, h]

@[simp] theorem Bus.committed_append (t : Transcript access) (x : Exchange access) :
    Bus.committed (t ++ [x]) = (Bus.committed t || Bus.commits x) := by
  simp [Bus.committed]

@[simp] theorem Bus.tally_append (a b : List Call) (point : Point) :
    Bus.tally (a ++ b) point = Bus.tally a point + Bus.tally b point := by
  simp [Bus.tally]

theorem Bus.tally_calls_append {t : Transcript access} {x : Exchange access} {point : Point}
    {n n' : Nat} (h : Bus.tally (Bus.calls t) point ≤ n)
    (hn : n + Bus.tally x.request.call?.toList point ≤ n') :
    Bus.tally (Bus.calls (t ++ [x])) point ≤ n' := by
  rw [Bus.calls_append, Bus.tally_append]
  omega

/-- Opening and closing something is no call of a transaction. -/
theorem Bus.tally_housekeeping {r : Bus.Request} (hr : r.isHousekeeping = true) {point : Point}
    (hp : point = .createTopic ∨ point = .send ∨ point = .commit) :
    Bus.tally r.call?.toList point = 0 := by
  rcases r with c | connection
  · rcases hp with rfl | rfl | rfl <;> cases c <;> first | rfl | cases hr
  · rfl

/-! ## Books -/

/-- The message of an announcement with its topic. -/
def Announcement.content (a : Announcement) : String × Message := (a.topic, a.payload.message a.tag)

/-- The calls of a task that is sparing with them. -/
structure Bus.Sparing (calls : List Call) : Prop where
  declarations : Bus.tally calls .createTopic ≤ 2
  sends : Bus.tally calls .send ≤ 1
  commits : Bus.tally calls .commit ≤ 1

/-- **The books of a task balance.** -/
structure Balanced (base : List (String × Message)) (own : Option (String × Message)) (k : Core)
    (committed : Bool) (calls : List Call) : Prop extends Bus.Sparing calls where
  overlaps : k.overlaps = 0
  contents : k.contents = base ++ if committed then own.toList else []
  entitled : committed = true → own.isSome = true

/-- A session with nothing pending and no transaction, if it is one. -/
def Bus.Core.Settled (k : Core) (id : SessionId) : Prop :=
  ∀ session, k.sessions[id]? = some session → session.pending = [] ∧ session.inTransaction = false

/-- A transaction that has ended leaves its session settled. -/
theorem Bus.Core.settled_ended (k : Core) (id : SessionId) :
    (k.update id Session.ended).Settled id := by
  intro session hs
  rw [Core.update, List.getElem?_modify_eq, Option.map_eq_map, Option.map_eq_some_iff] at hs
  obtain ⟨session, -, rfl⟩ := hs
  exact ⟨rfl, rfl⟩

/-- **The contract of a task with a broker in memory**: every call is answered as the core allows,
and written down, and the books have to balance. -/
def Contract.books (base : List (String × Message)) (own : Option (String × Message)) :
    Contract access (Core × Transcript access) where
  answers
    | .call c limit, (k, t), reply, (k', t') =>
      k.Allows c reply.outcome k' ∧ t' = t ++ [⟨.call c limit, reply⟩]
    | .observe connection, (k, t), reply, (k', t') =>
      k' = k ∧ t' = t ++ [⟨.observe connection, reply⟩]
  holds | (k, t) => Balanced base own k (Bus.committed t) (Bus.calls t)

/-- Before a commit: nothing has been added to `base`, and at most so many calls have been made. -/
structure Uncommitted (base : List (String × Message)) (declarations sends commits : Nat)
    (s : Core × Transcript access) : Prop where
  overlaps : s.1.overlaps = 0
  contents : s.1.contents = base
  uncommitted : Bus.committed s.2 = false
  declarations : Bus.tally (Bus.calls s.2) .createTopic ≤ declarations
  sends : Bus.tally (Bus.calls s.2) .send ≤ sends
  commits : Bus.tally (Bus.calls s.2) .commit ≤ commits

variable {base : List (String × Message)} {own : Option (String × Message)}

/-- Opening and closing something changes nothing that the books are about. -/
theorem Bus.Core.Allows.housekeeping {k k' : Core} {c : Call} {limit : Nat} {out : Outcome c.Answer}
    (h : k.Allows c out k') (hc : Bus.Request.isHousekeeping (.call c limit) = true) :
    k'.overlaps = k.overlaps ∧ k'.contents = k.contents := by
  cases h <;> first | exact ⟨rfl, rfl⟩ | cases hc

section
variable {d n m : Nat} {k : Core} {t : Transcript access}

theorem Uncommitted.balanced {s : Core × Transcript access} (h : Uncommitted base d n m s)
    (hd : d ≤ 2) (hn : n ≤ 1) (hm : m ≤ 1) : (Contract.books base own).holds s where
  overlaps := h.overlaps
  contents := by simp [h.contents, h.uncommitted]
  entitled hc := absurd (h.uncommitted.symm.trans hc) Bool.false_ne_true
  declarations := Nat.le_trans h.declarations hd
  sends := Nat.le_trans h.sends hn
  commits := Nat.le_trans h.commits hm

/-- One more exchange that leaves the overlaps and the delivered messages alone. -/
theorem Uncommitted.append {d' n' m' : Nat} {k' : Core} {x : Exchange access}
    (h : Uncommitted base d n m (k, t))
    (hk : k'.overlaps = k.overlaps ∧ k'.contents = k.contents) (hx : Bus.commits x = false)
    (hd : d + Bus.tally x.request.call?.toList .createTopic ≤ d')
    (hn : n + Bus.tally x.request.call?.toList .send ≤ n')
    (hm : m + Bus.tally x.request.call?.toList .commit ≤ m') :
    Uncommitted base d' n' m' (k', t ++ [x]) where
  overlaps := hk.1.trans h.overlaps
  contents := hk.2.trans h.contents
  uncommitted := by simp [h.uncommitted, hx]
  declarations := Bus.tally_calls_append h.declarations hd
  sends := Bus.tally_calls_append h.sends hn
  commits := Bus.tally_calls_append h.commits hm

theorem Uncommitted.sheltered (hd : d ≤ 2) (hn : n ≤ 1) (hm : m ≤ 1) :
    Publisher.Sheltered (Contract.books base own) (Uncommitted base d n m) where
  holds _ h := h.balanced hd hn hm
  keeps := by
    rintro r ⟨k, t⟩ reply ⟨k', t'⟩ hr h ha
    have hkeep : t' = t ++ [⟨r, reply⟩] ∧ k'.overlaps = k.overlaps ∧ k'.contents = k.contents := by
      cases r with
      | observe connection => exact ⟨ha.2, by rw [ha.1], by rw [ha.1]⟩
      | call c limit => exact ⟨ha.2, ha.1.housekeeping hr⟩
    obtain ⟨rfl, hk⟩ := hkeep
    have htally : ∀ point, point = .createTopic ∨ point = .send ∨ point = .commit →
        Bus.tally r.call?.toList point ≤ 0 :=
      fun point hp => Nat.le_of_eq (Bus.tally_housekeeping hr hp)
    refine h.append hk ?_ ?_ ?_ ?_
    · rcases r with c | connection
      · cases c <;> first | rfl | cases hr
      · rfl
    · exact Nat.add_le_add_left (htally _ (Or.inl rfl)) d
    · exact Nat.add_le_add_left (htally _ (Or.inr (Or.inl rfl))) n
    · exact Nat.add_le_add_left (htally _ (Or.inr (Or.inr rfl))) m

/-- A session that has just been opened is settled. -/
theorem settled_of_opened {c : Bus.ConnectionId} {limit : Nat} {s s' : Core × Transcript access}
    {reply : Bus.Timed SessionId} {id : SessionId}
    (h : (Contract.books base own).answers (.call (.createSession c) limit) s reply s')
    (hid : reply.outcome = .ok id) : s'.1.Settled id := by
  obtain ⟨out, spent⟩ := reply
  obtain ⟨k', t'⟩ := s'
  obtain rfl : out = .ok id := hid
  obtain ⟨h, -⟩ := h
  cases h with
  | opened _ generation =>
    intro session hs
    rw [List.getElem?_concat_length] at hs
    cases hs
    exact ⟨rfl, rfl⟩

end

/-! ## The outline of one publish -/

namespace Outline

/-- **What is known of the books during one publish.** -/
def books (base : List (String × Message)) (a : Announcement) :
    Outline (Contract.books base (some a.content)) a where
  idle n s := n ≤ 2 ∧ Uncommitted base n 0 0 s
  ready id s := s.1.Settled id
  declared id topic s := Uncommitted base 2 0 0 s ∧ topic = a.topic ∧
    ∃ session, s.1.sessions[id]? = some session ∧ session.pending = []
  queued id s := Uncommitted base 2 1 0 s ∧
    ∃ session, s.1.sessions[id]? = some session ∧ session.pending = [a.content]
  lost s := Uncommitted base 2 1 1 s
  delivered s := Bus.committed s.2 = true ∧ (Contract.books base (some a.content)).holds s
  trusted _ _ := True
  settled id s := s.1.Settled id

variable {a : Announcement}

/-- A call that is refused leaves the publish lost. -/
theorem books_fails {d n m : Nat} {id : SessionId} {c : Call} {limit spent : Nat} {k k' : Core}
    {t : Transcript access} {out : Outcome c.Answer} (h : Uncommitted base d n m (k, t))
    (hk : k'.overlaps = k.overlaps ∧ k'.contents = k.contents) (hout : out.isOk = false)
    (hd : d + Bus.tally [c] .createTopic ≤ 2) (hn : n + Bus.tally [c] .send ≤ 1)
    (hm : m + Bus.tally [c] .commit ≤ 1) :
    (books base a).Fails id out (k', t ++ [⟨.call c limit, ⟨out, spent⟩⟩]) := by
  refine ⟨hout, h.append hk ?_ hd hn hm, fun _ _ _ => trivial⟩
  cases out with
  | ok v => cases hout
  | error e => cases c <;> rfl
  | silent => cases c <;> rfl

theorem books_sound (base : List (String × Message)) (a : Announcement) : (books base a).Sound where
  idle_sheltered n := by
    by_cases hn : n ≤ 2
    · have : Publisher.Sheltered (Contract.books base (some a.content)) (Uncommitted base n 0 0) :=
        Uncommitted.sheltered hn (Nat.zero_le 1) (Nat.zero_le 1)
      exact ⟨fun s h => this.holds s h.2, fun r s reply s' hr h ha =>
        ⟨h.1, this.keeps r s reply s' hr h.2 ha⟩⟩
    · exact ⟨fun s h => absurd h.1 hn, fun r s reply s' hr h => absurd h.1 hn⟩
  lost_sheltered := Uncommitted.sheltered (Nat.le_refl 2) (Nat.le_refl 1) (Nat.le_refl 1)
  declared_holds h := h.1.balanced (Nat.le_refl 2) (Nat.zero_le 1) (Nat.zero_le 1)
  queued_holds h := h.1.balanced (Nat.le_refl 2) (Nat.le_refl 1) (Nat.zero_le 1)
  delivered_holds h := h.2
  lost_of_idle h :=
    { h.2 with
      declarations := Nat.le_trans h.2.declarations h.1
      sends := Nat.le_succ_of_le h.2.sends
      commits := Nat.le_succ_of_le h.2.commits }
  created _ h hid := settled_of_opened h hid
  declare := by
    rintro n id limit ⟨k, t⟩ ⟨out, spent⟩ ⟨k', t'⟩ hn ⟨-, h⟩ hready ⟨ha, rfl⟩
    have hd : n + Bus.tally [.createTopic id a.topic] .createTopic ≤ n + 1 := Nat.le_refl _
    have hd2 : n + Bus.tally [.createTopic id a.topic] .createTopic ≤ 2 := hn
    cases ha with
    | refused _ e =>
      exact Or.inr ⟨⟨hn, h.append ⟨rfl, rfl⟩ rfl hd (Nat.le_refl 0) (Nat.le_refl 0)⟩,
        books_fails h ⟨rfl, rfl⟩ rfl hd2 (Nat.zero_le 1) (Nat.zero_le 1)⟩
    | @declared _ _ session hs _ hout =>
      obtain ⟨hp, ht⟩ := hready session hs
      have hk : k.overlaps + (if session.inTransaction then 1 else 0) = k.overlaps := by simp [ht]
      rcases hout with rfl | rfl
      · refine Or.inl ⟨_, rfl, h.append ⟨hk, rfl⟩ rfl hd2 (Nat.le_refl 0) (Nat.le_refl 0), rfl,
          session.begun, ?_, hp⟩
        simp [Core.update, hs]
      · exact Or.inr ⟨⟨hn, h.append ⟨hk, rfl⟩ rfl hd (Nat.le_refl 0) (Nat.le_refl 0)⟩,
          books_fails h ⟨hk, rfl⟩ rfl hd2 (Nat.zero_le 1) (Nat.zero_le 1)⟩
  send := by
    rintro id topic limit ⟨k, t⟩ ⟨out, spent⟩ ⟨k', t'⟩ ⟨h, rfl, session, hs, hp⟩ ⟨ha, rfl⟩
    cases ha with
    | refused _ e =>
      exact Or.inr (books_fails h ⟨rfl, rfl⟩ rfl (Nat.le_refl 2) (Nat.le_refl 1) (Nat.zero_le 1))
    | accepted =>
      exact Or.inr (books_fails h ⟨rfl, rfl⟩ rfl (Nat.le_refl 2) (Nat.le_refl 1) (Nat.zero_le 1))
    | queued =>
      refine Or.inl ⟨rfl, h.append ⟨rfl, rfl⟩ rfl (Nat.le_refl 2) (Nat.le_refl 1) (Nat.le_refl 0),
        session.extended a.topic (a.payload.message a.tag), ?_, ?_⟩
      · simp [Core.update, hs]
      · simp [Session.extended, hp, Announcement.content]
  commit := by
    rintro id limit ⟨k, t⟩ ⟨out, spent⟩ ⟨k', t'⟩ ⟨h, session, hs, hp⟩ ⟨ha, rfl⟩
    cases ha with
    | refused _ e =>
      exact Or.inr (books_fails h ⟨rfl, rfl⟩ rfl (Nat.le_refl 2) (Nat.le_refl 1) (Nat.le_refl 1))
    | @committed _ session' hs' =>
      obtain rfl : session = session' := Option.some.inj (hs.symm.trans hs')
      have hcommitted :
          Bus.committed (t ++ [⟨.call (.commit id) limit, ⟨.ok (), spent⟩⟩]) = true := by
        simp [Bus.commits]
      refine Or.inl ⟨rfl, ⟨hcommitted, ?_⟩, k.settled_ended id⟩
      exact {
        overlaps := h.overlaps
        contents := by
          rw [hcommitted, if_pos rfl, Option.toList_some, ← hp, ← h.contents]
        entitled := fun _ => rfl
        declarations := Bus.tally_calls_append h.declarations (Nat.le_refl 2)
        sends := Bus.tally_calls_append h.sends (Nat.le_refl 1)
        commits := Bus.tally_calls_append h.commits (Nat.le_refl 1) }
  rollback := by
    rintro id limit ⟨k, t⟩ ⟨out, spent⟩ ⟨k', t'⟩ h - ⟨ha, rfl⟩
    cases ha with
    | refused _ e =>
      exact ⟨h.append ⟨rfl, rfl⟩ rfl (Nat.le_refl 2) (Nat.le_refl 1) (Nat.le_refl 1),
        fun ho => by cases ho⟩
    | rolledBack =>
      exact ⟨h.append ⟨rfl, rfl⟩ rfl (Nat.le_refl 2) (Nat.le_refl 1) (Nat.le_refl 1),
        fun _ => k.settled_ended id⟩

end Outline

/-! ## Jobs -/

namespace Job

/-- The message that a job may add to the broker, with its topic. -/
def content? : Job → Option (String × Message)
  | .send _ a => some a.content
  | _ => none

/-- What a job returns is the truth about whether it has committed. -/
def Tells (job : Job) (committed : Bool) (returned : Returned) : Prop :=
  match job with
  | .send _ _ => returned = .sent (if committed then .delivered else .failed)
  | _ => committed = false

/-- How a job that began on `base` ends: it tells the truth, and leaves no session or a settled
one. -/
def Ends (job : Job) (result : Returned × Link) (s : Core × Transcript access) : Prop :=
  job.Tells (Bus.committed s.2) result.1 ∧ ∀ id, result.2.session = some id → s.1.Settled id

/-- **Every job keeps its books**, if it begins with no session or a settled one. -/
theorem ensures_program (job : Job) {l : Link} {k : Core} (ho : k.overlaps = 0)
    (hl : ∀ id, l.session = some id → k.Settled id) :
    (StateT.run job.program l).Ensures (.books k.contents job.content?) job.Ends (k, []) := by
  have hopen : Uncommitted k.contents 0 0 0 (k, []) :=
    ⟨ho, rfl, rfl, Nat.le_refl 0, Nat.le_refl 0, Nat.le_refl 0⟩
  have hshelter (own) :
      Publisher.Sheltered (.books k.contents own) (Uncommitted k.contents 0 0 0) :=
    Uncommitted.sheltered (Nat.zero_le 2) (Nat.zero_le 1) (Nat.zero_le 1)
  change Publishing.Ensures _ (fun r l' s' => job.Ends (r, l') s') job.program l (k, [])
  cases job with
  | send p a =>
    rw [program, Publishing.ensures_bind]
    refine ((Outline.books_sound k.contents a).ensures_send p ⟨Nat.zero_le 2, hopen⟩ hl).mono
      fun d l' s' hs' h' => ⟨hs', ?_, h'.1⟩
    rcases h'.2 with ⟨rfl, hd⟩ | ⟨rfl, hlost⟩
    · simp [Tells, hd.1]
    · simp [Tells, hlost.uncommitted]
  | connect p =>
    simp only [program, Publisher.connect, Publishing.ensures_bind]
    refine (Publisher.ensures_session (R := fun id s => s.1.Settled id) (hshelter none)
      (fun c limit s reply s' id _ ha hid => settled_of_opened ha hid) p hopen hl).mono
      fun held l' s' hs' h' => ?_
    exact ⟨hs', hs', h'.2.1.uncommitted, h'.2.2⟩
  | close p =>
    simp only [program, Publisher.close, Publishing.ensures_bind]
    refine (Publisher.ensures_releaseLink (hshelter none) p l hopen).mono fun _ l' s' hs' h' => ?_
    obtain ⟨rfl, h'⟩ := h'
    exact ⟨hs', hs', h'.uncommitted, fun id hid => absurd hid (by simp)⟩

end Job
end CatalogFeed
