import CatalogFeed.Message
import CatalogFeed.Proofs.Catalog.EventCodec
import CatalogFeed.Proofs.Text.Utf8

/-!
# Proofs/Message — what a subscriber reads in a message

A message carries its tag as its only property, and its body gives back the payload: a snapshot as
an entity of its type, named fields as a document of strings whose keys are in the order of their
bytes.  So payloads of one form differ if and only if their bodies do.

* `Payload.body_round_trip`: every payload and every tag.
-/

namespace CatalogFeed

open Json

/-! ## Keys -/

/-- The keys of an object, in the order in which they are written. -/
def Json.keys : Json → List String
  | .object members _ => members.filterMap (·.1)
  | _ => []

theorem Json.keys_record (members : List (String × Json)) :
    (record members).keys = members.map (·.1) := by
  rw [record, keys, List.filterMap_map]
  exact congrFun List.filterMap_eq_map members

/-- **The keys of a string map are in the order of their bytes.** -/
theorem Dict.pairwise_keys (d : Dict String String) :
    d.keys.Pairwise fun a b => a.toUTF8.toList < b.toUTF8.toList := by
  rw [keys, List.pairwise_map]
  exact d.increasing.imp fun h => Text.toUTF8_lt (compareOfLessAndEq_eq_lt.mp h)

/-- **The text of a string map has its keys in order.** -/
theorem keys_printDocument (d : Properties) : (read (printDocument d)).value.keys = d.keys := by
  have hwhole : Whole (toDocument d) := Shape.whole_encode .dict d
  rw [printDocument, hwhole.read_render]
  change (record (d.entries.map fun e => (e.1, text e.2))).keys = _
  rw [keys_record, List.map_map]
  rfl

/-! ## Bodies -/

namespace Message

/-- The bytes of the body are the text of a value. -/
def BodySpells {α : Type} [Documented α] (m : Message) (v : α) : Prop :=
  ∃ text, Text.decode m.encodeBody.toUTF8.toList = .ok text ∧ parseAs α text = .ok v

/-- The body of a message gives an entity back, as an object and as bytes. -/
def Carries {α : Type} [Documented α] (m : Message) (v : α) : Prop :=
  m.objectAs α = .ok v ∧ m.BodySpells v

/-- The body of a message gives named fields back, with their keys in the order of their bytes, and
is no object of any type. -/
def Lists (m : Message) (named : Properties) : Prop :=
  m.BodySpells named ∧
    (read m.encodeBody).value.keys = named.keys ∧
    named.keys.Pairwise (fun a b => a.toUTF8.toList < b.toUTF8.toList) ∧
    ∀ (α : Type) [Documented α], m.objectAs α = .error (.broker "map message has no object body")

/-- The body of a message gives a payload back. -/
def Gives (m : Message) : Payload → Prop
  | .fields named => m.Lists named
  | .snapshot (.database d) => m.Carries d
  | .snapshot (.table t) => m.Carries t
  | .snapshot (.partition p) => m.Carries p
  | .snapshot (.partitionName name) => m.Carries name

theorem bodySpells_of_encodeBody {α : Type} [Documented α] [LawfulDocumented α] {m : Message}
    {v : α} (h : m.encodeBody = printDocument v) : m.BodySpells v :=
  ⟨printDocument v, by rw [h, Text.decode_toList_toUTF8], parseAs_printDocument v⟩

theorem carries_of_body {α : Type} [Documented α] [LawfulDocumented α] {m : Message} {v : α}
    (h : m.body = .object (printDocument v)) : m.Carries v := by
  refine ⟨?_, bodySpells_of_encodeBody (by rw [encodeBody, h])⟩
  rw [objectAs, h]
  simp only [parseAs_printDocument]
  rfl

theorem lists_of_body {m : Message} {named : Properties} (h : m.body = .map named) :
    m.Lists named := by
  have hbody : m.encodeBody = printDocument named := by rw [encodeBody, h]
  refine ⟨bodySpells_of_encodeBody hbody, by rw [hbody, keys_printDocument], named.pairwise_keys,
    fun α _ => ?_⟩
  rw [objectAs, h]

end Message

namespace Payload

/-- What kind of thing a payload is. -/
inductive Form where
  | fields
  | database
  | table
  | partition
  | partitionName
  deriving DecidableEq

/-- The form of a payload. -/
def form : Payload → Form
  | .fields _ => .fields
  | .snapshot (.database _) => .database
  | .snapshot (.table _) => .table
  | .snapshot (.partition _) => .partition
  | .snapshot (.partitionName _) => .partitionName

theorem gives_message (p : Payload) (tag : NoticeTag) : (p.message tag).Gives p := by
  rcases p with named | (d | t | q | name)
  · exact Message.lists_of_body rfl
  · exact Message.carries_of_body rfl
  · exact Message.carries_of_body rfl
  · exact Message.carries_of_body rfl
  · exact Message.carries_of_body rfl

/-- **Payloads of one form are told apart by their bodies.** -/
theorem eq_of_encodeBody_eq {p q : Payload} {tag tag' : NoticeTag} (hform : p.form = q.form)
    (hbody : (p.message tag).encodeBody = (q.message tag').encodeBody) : p = q := by
  rcases p with named | (d | t | r | name) <;> rcases q with named' | (d' | t' | r' | name') <;>
    cases hform
  · exact congrArg Payload.fields (printDocument_injective hbody)
  · exact congrArg (fun d => snapshot (.database d)) (printDocument_injective hbody)
  · exact congrArg (fun t => snapshot (.table t)) (printDocument_injective hbody)
  · exact congrArg (fun r => snapshot (.partition r)) (printDocument_injective hbody)
  · exact congrArg (fun name => snapshot (.partitionName name)) (printDocument_injective hbody)

/-- **Every message gives its payload back.**  Its tag is its only property; its body is read as the
payload; and the bytes of the bodies of two payloads of one form are equal only if the payloads
are. -/
theorem body_round_trip (p : Payload) (tag : NoticeTag) :
    (p.message tag).properties.entries = [(eventProperty, tag.text)] ∧
      (p.message tag).Gives p ∧
      ∀ (q : Payload) (tag' : NoticeTag),
        p.form = q.form ∧
          (p.message tag).encodeBody.toUTF8 = (q.message tag').encodeBody.toUTF8 ↔ p = q := by
  refine ⟨?_, p.gives_message tag, fun q tag' => ⟨fun ⟨hform, hbytes⟩ => ?_, ?_⟩⟩
  · rcases p with named | (d | t | r | name) <;> rfl
  · exact eq_of_encodeBody_eq hform (String.toByteArray_inj.mp hbytes)
  · rintro rfl
    refine ⟨rfl, ?_⟩
    rcases p with named | (d | t | r | name) <;> rfl

end Payload
end CatalogFeed
