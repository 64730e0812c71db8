/-
**Structural changes.** What the network tells its observers: edges that come and go, elements that
are erased, payloads that are written.

* `Change.subject`: the element a change is about;
* `Element.departure`: what is told when an element is erased.
-/
import SemanticNetwork.Element

namespace SemanticNetwork

/-- A change of the network. -/
inductive Change where
  | edgeAdded (edge source target : Address) (type : ElementType)
  | edgeRemoved (edge source target : Address) (type : ElementType)
  | erased (element : Address)
  | payloadChanged (link : Address)
  deriving DecidableEq, Repr

namespace Change

/-- The element a change is about. -/
def subject : Change → Address
  | edgeAdded edge .. => edge
  | edgeRemoved edge .. => edge
  | erased element => element
  | payloadChanged link => link

end Change

/-- What is told when an element is erased: that the edge is gone, if it is one, and then that the
element is. -/
def Element.departure (element : Element) : List Change :=
  match element.body with
  | .edge source target =>
    [.edgeRemoved element.address source target element.type, .erased element.address]
  | _ => [.erased element.address]

end SemanticNetwork
