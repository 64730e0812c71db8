/-
**Notifications.** A structural change is told to subscribers once for every element it concerns: an
edge that comes or goes to both of its ends, an erasure and a written payload to the element itself.

* `Notification.ofChange`: what is told about a change;
* `Notification.triple`: the edge of a notification in its own direction;
* `Notification.written`, `Notification.ofWire?`: the document of a notification, and back.
-/
import SemanticNetwork.Change
import SemanticNetwork.Triple
import SemanticNetwork.Wire.Decode
import SemanticNetwork.Wire.Print

namespace SemanticNetwork

/-- What happens to an element. -/
inductive EventKind where
  | addOutputEdge
  | addInputEdge
  | removeOutputEdge
  | removeInputEdge
  | eraseElement
  | contentChanged
  deriving DecidableEq, Repr

namespace EventKind

/-- All kinds. -/
def all : List EventKind :=
  [addOutputEdge, addInputEdge, removeOutputEdge, removeInputEdge, eraseElement, contentChanged]

/-- The name of a kind on the wire. -/
def name : EventKind → String
  | addOutputEdge => "AddOutputEdge"
  | addInputEdge => "AddInputEdge"
  | removeOutputEdge => "RemoveOutputEdge"
  | removeInputEdge => "RemoveInputEdge"
  | eraseElement => "EraseElement"
  | contentChanged => "ContentChanged"

/-- The name of a kind for readers. -/
def text : EventKind → String
  | addOutputEdge => "add_output_edge"
  | addInputEdge => "add_input_edge"
  | removeOutputEdge => "remove_output_edge"
  | removeInputEdge => "remove_input_edge"
  | eraseElement => "erase_element"
  | contentChanged => "content_changed"

/-- The kind of a name. -/
def ofName? (name : String) : Option EventKind := all.find? fun kind => kind.name == name

/-- The kind that a value of the wire is. -/
def ofWire? (value : Wire.Value) : Option EventKind := value.plainVariant? >>= ofName?

end EventKind

/-- What a subscriber is told: what happened to which element, and through which edge. -/
structure Notification where
  kind : EventKind
  subject : Address
  edge : Address
  other : Address
  edgeType : ElementType
  deriving DecidableEq, Repr

namespace Notification

/-- What is told of an element in which no edge takes part. -/
def ofElement (kind : EventKind) (subject : Address) : Notification :=
  ⟨kind, subject, .invalid, .invalid, .unknown⟩

/-- What is told about a change, to the source of an edge before its target. -/
def ofChange : Change → List Notification
  | .edgeAdded edge source target type =>
    [⟨.addOutputEdge, source, edge, target, type⟩, ⟨.addInputEdge, target, edge, source, type⟩]
  | .edgeRemoved edge source target type =>
    [⟨.removeOutputEdge, source, edge, target, type⟩,
      ⟨.removeInputEdge, target, edge, source, type⟩]
  | .erased element => [ofElement .eraseElement element]
  | .payloadChanged link => [ofElement .contentChanged link]

/-- The edge between its source and its target; the subject is the target of an input edge. -/
def triple (notification : Notification) : Triple :=
  match notification.kind with
  | .addInputEdge | .removeInputEdge =>
    ⟨notification.other, notification.edge, notification.subject⟩
  | _ => ⟨notification.subject, notification.edge, notification.other⟩

/-- The document of a notification. -/
def written (notification : Notification) : String :=
  Wire.printObject
    [("kind", Wire.quote notification.kind.name),
      ("subject", toString notification.subject.value),
      ("edge", toString notification.edge.value),
      ("other", toString notification.other.value),
      ("edge_type", toString notification.edgeType.toNat)]

/-- An address on the wire. -/
def address? (value : Wire.Value) : Option Address :=
  (value.nat? Address.wireBound).map Address.mk

/-- A type on the wire. -/
def type? (value : Wire.Value) : Option ElementType := (value.nat? (Nat.pow 2 32)).map ElementType.ofNat

/-- The notification that a value of the wire is; every field must be given. -/
def ofWire? (value : Wire.Value) : Option Notification := do
  match ← value.record? ["kind", "subject", "edge", "other", "edge_type"] with
  | [some kind, some subject, some edge, some other, some edgeType] =>
    return ⟨← EventKind.ofWire? kind, ← address? subject, ← address? edge, ← address? other,
      ← type? edgeType⟩
  | _ => none

end Notification

end SemanticNetwork
