/-
**Creating and writing.** New elements get the next address. An operation that is refused leaves
the elements alone; an edge that is refused because an end is missing has used up its address.

* `Store.createNode`, `Store.createLink`, `Store.createTypedLink`, `Store.createEdge`;
* `Store.setPayload`: replace the payload of a link;
* `StoreError`: why an operation is refused.
-/
import SemanticNetwork.ElementType.Named
import SemanticNetwork.ElementType.Text
import SemanticNetwork.Fault
import SemanticNetwork.Store.Basic

namespace SemanticNetwork

/-- Why a type does not suit a new element. -/
inductive TypeFault where
  | conflict (conflict : ElementType.Conflict)
  | notNode
  | notEdge
  deriving DecidableEq, Repr

/-- What is wrong with a type. -/
def TypeFault.message : TypeFault → String
  | conflict found => found.message
  | notNode => "not a node type"
  | notEdge => "not an edge type"

/-- Why an operation on the store is refused. -/
inductive StoreError where
  | elementNotFound (address : Address)
  | invalidAddress
  | invalidType (type : ElementType) (fault : TypeFault)
  | missingEndpoint (address : Address)
  | notALink (address : Address)
  deriving DecidableEq, Repr

namespace StoreError

/-- The wording of a refusal. -/
def message : StoreError → String
  | elementNotFound address => "Element not found: " ++ address.text
  | invalidAddress => "Invalid address"
  | invalidType type fault => "Invalid type " ++ type.text ++ ": " ++ fault.message
  | missingEndpoint address => "Edge endpoint " ++ address.text ++ " does not exist"
  | notALink address => "Element " ++ address.text ++ " is not a link"

/-- The name of the cause of a refusal. -/
def cause : StoreError → String
  | elementNotFound _ => "ElementNotFound"
  | invalidAddress => "InvalidAddress"
  | invalidType .. => "InvalidType"
  | missingEndpoint _ => "MissingEndpoint"
  | notALink _ => "NotALink"

/-- The kind of a refusal. -/
def fault : StoreError → Fault
  | elementNotFound _ => .notFound
  | missingEndpoint _ => .constraintViolation
  | invalidAddress | invalidType .. | notALink _ => .invalidArgument

end StoreError

namespace Store

/-- An operation on a store that can be refused. A refusal has a store, too. -/
abbrev Action := EStateM StoreError Store

/-- Refuse an operation unless a condition holds. -/
def require (condition : Bool) (error : StoreError) : Action Unit :=
  if condition then pure () else throw error

/-- The address that is handed out next. -/
def nextAddress (store : Store) : Address := ⟨store.allocated + 1⟩

/-- The store after it has handed out an address. -/
def advance (store : Store) : Store := { store with allocated := store.allocated + 1 }

/-- The next address. -/
def allocate : Action Address := modifyGet fun store => (store.nextAddress, store.advance)

/-- Enrol a new element of a type at the next address. -/
def create (type : ElementType) (body : Body) : Action Address := do
  let address ← allocate
  modify (·.enrol ⟨address, type, body⟩)
  return address

/-- What is wrong with a type: its contradiction, or else that it is of another kind. -/
def typeFault (type : ElementType) (otherKind : TypeFault) : TypeFault :=
  (type.conflict?.map TypeFault.conflict).getD otherKind

/-- Create a node; that it is a node may be left implied in the type. -/
def createNode (type : ElementType) : Action Address := do
  require type.isNodeType (.invalidType type (typeFault type .notNode))
  create (type.union .node) .node

/-- Create a constant link without payload. -/
def createLink : Action Address := create .constantLink (.link none)

/-- Create a link of a type without payload; that it is a link may be left implied in the type. -/
def createTypedLink (type : ElementType) : Action Address := do
  let stored := type.union .link
  match stored.conflict? with
  | some found => throw (.invalidType stored (.conflict found))
  | none => create stored (.link none)

/-- Refuse an end that does not exist. -/
def requireEnd (address : Address) : Action Unit := do
  require ((← get).contains address) (.missingEndpoint address)

/-- Create an edge. Both ends must exist; the address is taken before that is known. -/
def createEdge (type : ElementType) (source target : Address) : Action Address := do
  require type.isEdgeType (.invalidType type (typeFault type .notEdge))
  require (source.isValid && target.isValid) .invalidAddress
  let address ← allocate
  requireEnd source
  requireEnd target
  modify (·.enrol ⟨address, type, .edge source target⟩)
  modify (·.connect address type source target)
  return address

/-- Replace the payload of a link. -/
def setPayload (link : Address) (payload : Payload) : Action Unit := do
  require link.isValid .invalidAddress
  match (← get).get? link with
  | none => throw (.elementNotFound link)
  | some element =>
    require element.isLink (.notALink link)
    modify (·.hold link element payload)

end Store

end SemanticNetwork
