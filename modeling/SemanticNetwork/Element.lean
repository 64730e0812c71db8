/-
**Elements.** A record of the network: its address, its type, and what its kind adds. A node adds
nothing, an edge adds what it connects, a link adds a payload once one was written.
-/
import SemanticNetwork.Address
import SemanticNetwork.ElementType.Basic
import SemanticNetwork.Payload.Basic

namespace SemanticNetwork

/-- What the kind of an element adds to it. -/
inductive Body where
  | node
  | edge (source target : Address)
  | link (payload : Option Payload)
  deriving DecidableEq, Repr

/-- A record of the network. -/
structure Element where
  address : Address
  type : ElementType
  body : Body
  deriving DecidableEq, Repr

namespace Element

/-- Whether the element is a node. -/
def isNode (element : Element) : Bool :=
  match element.body with
  | .node => true
  | _ => false

/-- Whether the element is an edge. -/
def isEdge (element : Element) : Bool :=
  match element.body with
  | .edge .. => true
  | _ => false

/-- Whether the element is a link. -/
def isLink (element : Element) : Bool :=
  match element.body with
  | .link _ => true
  | _ => false

/-- What an edge connects, the source first. -/
def ends? (element : Element) : Option (Address × Address) :=
  match element.body with
  | .edge source target => some (source, target)
  | _ => none

/-- The payload of a link, once one was written. -/
def payload? (element : Element) : Option Payload :=
  match element.body with
  | .link payload => payload
  | _ => none

/-- Whether an edge starts or ends at an element. -/
def involves (element : Element) (address : Address) : Bool :=
  element.ends?.any fun (source, target) => source == address || target == address

end Element

end SemanticNetwork
