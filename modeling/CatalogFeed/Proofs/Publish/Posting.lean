import CatalogFeed.Proofs.Bus.Beset
import CatalogFeed.Proofs.Publish.Books
import CatalogFeed.Proofs.Publish.Outline

/-!
# Proofs/Publish/Posting — what a publish adds to a bus in memory

On a bus in memory a publish that is delivered adds its one message, whatever troubles strike; one
that fails adds nothing.  If something was pending on the session when the publish began, it may be
committed along with the message; after the publish nothing is pending.

* `Outline.posting_sound`: the points of one publish;
* `Publisher.send_beset`: what it adds.
-/

namespace CatalogFeed

open Bus (Beset Call Core Delivered Outcome Session SessionId)

/-! ## What is pending -/

/-- `P` holds of what is pending on the session, if it is one. -/
def Bus.Core.Holds (k : Core) (id : SessionId) (P : List (String × Message) → Prop) : Prop :=
  ∀ session, k.sessions[id]? = some session → P session.pending

namespace Bus.Core

variable {k : Core} {id : SessionId} {P Q : List (String × Message) → Prop}

theorem Holds.mono (h : k.Holds id P) (hPQ : ∀ pending, P pending → Q pending) : k.Holds id Q :=
  fun session hs => hPQ _ (h session hs)

theorem Holds.update (h : k.Holds id P) {f : Session → Session}
    (hf : ∀ session, P session.pending → Q (f session).pending) : (k.update id f).Holds id Q := by
  intro session hs
  rw [Core.update, List.getElem?_modify_eq, Option.map_eq_map, Option.map_eq_some_iff] at hs
  obtain ⟨before, hbefore, rfl⟩ := hs
  exact hf before (h before hbefore)

theorem holds_ended (k : Core) (id : SessionId) : (k.update id Session.ended).Holds id (· = []) :=
  Holds.update (P := fun _ => True) (fun _ _ => trivial) fun _ _ => rfl

theorem holds_opened (k : Core) (generation : Nat) :
    ({ k with sessions := k.sessions ++ [⟨generation, [], false, false⟩] } : Core).Holds
      k.sessions.length (· = []) := by
  intro session hs
  rw [List.getElem?_concat_length] at hs
  cases hs
  rfl

end Bus.Core

/-- What is pending on the session of a link. -/
def Link.backlog (l : Link) (k : Core) : List (String × Message) :=
  ((l.session.bind (k.sessions[·]?)).map (·.pending)).getD []

/-- All of a backlog is carried along, or nothing of it. -/
def Carried (backlog carried : List (String × Message)) : Prop := carried = [] ∨ carried = backlog

theorem Link.holds_backlog {l : Link} {k : Core} {id : SessionId} (hl : l.session = some id) :
    k.Holds id (Carried (l.backlog k)) := by
  intro session hs
  right
  rw [backlog, hl, Option.bind_some, hs]
  rfl

theorem Link.backlog_eq_nil {l : Link} {k : Core}
    (h : ∀ id, l.session = some id → k.Holds id (· = [])) : l.backlog k = [] := by
  rw [backlog]
  cases hl : l.session with
  | none => rfl
  | some id =>
    rw [Option.bind_some]
    cases hs : k.sessions[id]? with
    | none => rfl
    | some session => exact h id hl session hs

/-! ## The outline of one publish -/

namespace Outline

/-- **What is known of a bus in memory during one publish**, which began with `base` delivered and
the backlog `held`. -/
def posting (base held : List (String × Message)) (a : Announcement) :
    Outline Contract.core a where
  idle _ k := k.contents = base
  ready id k := k.Holds id (Carried held)
  declared id topic k := k.contents = base ∧ topic = a.topic ∧ k.Holds id (Carried held)
  queued id k := k.contents = base ∧ k.Holds id fun pending =>
    ∃ carried, Carried held carried ∧ pending = carried ++ [a.content]
  lost k := k.contents = base
  delivered k := ∃ carried, Carried held carried ∧ k.contents = base ++ (carried ++ [a.content])
  trusted _ _ := True
  settled id k := k.Holds id (· = [])

variable {base held : List (String × Message)} {a : Announcement}

/-- A step that fails and adds nothing leaves the publish lost. -/
theorem posting_fails {id : SessionId} {α : Type} {out : Outcome α} {k : Core}
    (hout : out.isOk = false) (hk : k.contents = base) : (posting base held a).Fails id out k :=
  ⟨hout, hk, fun _ _ _ => trivial⟩

theorem sheltered_contents (base : List (String × Message)) :
    Publisher.Sheltered Contract.core fun k => k.contents = base where
  holds _ _ := trivial
  keeps := by
    intro r k reply k' hr hk ha
    cases r with
    | call c limit => exact (ha.housekeeping hr).2.trans hk
    | observe connection => exact ha ▸ hk

theorem posting_sound (base held : List (String × Message)) (a : Announcement) :
    (posting base held a).Sound where
  idle_sheltered _ := sheltered_contents base
  lost_sheltered := sheltered_contents base
  declared_holds _ := trivial
  queued_holds _ := trivial
  delivered_holds _ := trivial
  lost_of_idle h := h
  created := by
    rintro n c limit k ⟨out, spent⟩ k' id - ha hid
    obtain rfl : out = .ok id := hid
    cases ha with
    | opened _ generation => exact (k.holds_opened generation).mono fun _ => Or.inl
  declare := by
    rintro n id limit k ⟨out, spent⟩ k' - h hready ha
    cases ha with
    | refused _ e => exact Or.inr ⟨h, posting_fails rfl h⟩
    | declared _ _ hs hout =>
      rcases hout with rfl | rfl
      · exact Or.inl ⟨_, rfl, h, rfl, hready.update (f := Session.begun) fun _ hp => hp⟩
      · exact Or.inr ⟨h, posting_fails rfl h⟩
  send := by
    rintro id topic limit k ⟨out, spent⟩ k' ⟨h, rfl, hready⟩ ha
    cases ha with
    | refused _ e => exact Or.inr (posting_fails rfl h)
    | accepted => exact Or.inr (posting_fails rfl h)
    | queued =>
      exact Or.inl ⟨rfl, h, hready.update fun session hp => ⟨session.pending, hp, rfl⟩⟩
  commit := by
    rintro id limit k ⟨out, spent⟩ k' ⟨h, hqueued⟩ ha
    cases ha with
    | refused _ e => exact Or.inr (posting_fails rfl h)
    | @committed _ session hs =>
      obtain ⟨carried, hcarried, hp⟩ := hqueued session hs
      exact Or.inl ⟨rfl, ⟨carried, hcarried, by rw [← h, ← hp]⟩, k.holds_ended id⟩
  rollback := by
    rintro id limit k ⟨out, spent⟩ k' h - ha
    cases ha with
    | refused _ e => exact ⟨h, nofun⟩
    | rolledBack => exact ⟨h, fun _ => k.holds_ended id⟩

end Outline

/-! ## On the bus -/

/-- The contents of what is delivered later are the contents that are added. -/
theorem Bus.Delivered.exists_news {before after : List Delivered} {added : List (String × Message)}
    (h : before <+: after)
    (hcontents : after.map Delivered.content = before.map Delivered.content ++ added) :
    ∃ news, after = before ++ news ∧ news.map Delivered.content = added := by
  obtain ⟨news, rfl⟩ := h
  rw [List.map_append] at hcontents
  exact ⟨news, rfl, List.append_cancel_left hcontents⟩

namespace Publisher

/-- **What a publish adds to a bus in memory**, whatever strikes it: if it is delivered, its
message, and perhaps the backlog before that; else nothing.  Afterwards there is no backlog. -/
theorem send_beset (p : Publisher) (a : Announcement) (link : Link) (b : Beset) (j : Journal) :
    let sent := (p.send a).run Beset.service link b j
    sent.2.1.backlog sent.2.2.1.hub.core = [] ∧
      ∃ carried announced, Carried (link.backlog b.hub.core) (carried.map Delivered.content) ∧
        sent.2.2.1.hub.broker.delivered = b.hub.broker.delivered ++ (carried ++ announced) ∧
        (sent.1 = .delivered ∧ announced.map Delivered.content = [a.content] ∨
          sent.1 = .failed ∧ carried = [] ∧ announced = []) := by
  intro sent
  have hsound := Outline.posting_sound b.hub.core.contents (link.backlog b.hub.core) a
  obtain ⟨hleft, hends⟩ := Script.Ensures.run_beset
    (hsound.ensures_send p rfl fun id hid => Link.holds_backlog hid) j
  have hgrows := b.delivered_run (StateT.run (p.send a) link) j
  refine ⟨Link.backlog_eq_nil hleft, ?_⟩
  rcases hends with ⟨hd, carried, hcarried, hcontents⟩ | ⟨hd, hcontents⟩
  · obtain ⟨news, hnews, hadded⟩ := Bus.Delivered.exists_news hgrows hcontents
    obtain ⟨before, announced, rfl, rfl, hannounced⟩ := List.map_eq_append_iff.mp hadded
    exact ⟨before, announced, hcarried, hnews, Or.inl ⟨hd, hannounced⟩⟩
  · obtain ⟨news, hnews, hadded⟩ :=
      Bus.Delivered.exists_news hgrows (hcontents.trans (List.append_nil _).symm)
    obtain rfl := List.map_eq_nil_iff.mp hadded
    exact ⟨[], [], Or.inl rfl, hnews, Or.inr ⟨hd, rfl, rfl⟩⟩

end Publisher
end CatalogFeed
