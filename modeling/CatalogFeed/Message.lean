import CatalogFeed.Error
import CatalogFeed.Notice

/-!
# Message — what travels on the bus

A message has string properties and a body: named fields that every subscriber can read, or the
text of a document that is opaque to the bus.

* `Payload.message` builds the message of a payload, tagged with the event.
-/

namespace CatalogFeed

/-- The body of a message. -/
inductive Body where
  | map (fields : Properties)
  | object (text : String)
  deriving DecidableEq

/-- A message: properties and a body. -/
structure Message where
  properties : Properties
  body : Body
  deriving DecidableEq

namespace Message

/-- A message of named fields; the last value of a name stays. -/
def map (fields : List (String × String)) : Message := ⟨∅, .map (.ofList fields)⟩

/-- A message that carries a document. -/
def object (document : Json) : Message := ⟨∅, .object document.render⟩

/-- Sets a property, in place of any earlier value. -/
def setProperty (m : Message) (name value : String) : Message :=
  { m with properties := m.properties.insert name value }

/-- The value of a property. -/
def property? (m : Message) (name : String) : Option String := m.properties.get? name

/-- The body as text: fields as a document of strings, a document as it is. -/
def encodeBody (m : Message) : String :=
  match m.body with
  | .map fields => printDocument fields
  | .object text => text

/-- Reads the document in the body as a value. -/
def objectAs (α : Type) [Documented α] (m : Message) : Except Error α :=
  match m.body with
  | .map _ => .error (.broker "map message has no object body")
  | .object text => (parseAs α text).mapError .serialization

end Message

/-- The message of a payload, without properties. -/
def Payload.untagged : Payload → Message
  | .fields named => ⟨∅, .map named⟩
  | .snapshot entity => .object entity.document

/-- The message of a payload, tagged with the event. -/
def Payload.message (payload : Payload) (tag : NoticeTag) : Message :=
  payload.untagged.setProperty eventProperty tag.text

end CatalogFeed
