/-
**The store.** The table of elements, and indexes that answer questions about it without a scan:
elements by type, edges by what they leave and what they enter, links by their payload. A store
also counts the addresses it has handed out, so that none is handed out twice.

* `Store.enrol`, `Store.connect`: put an element into the table, and an edge at its ends;
* `Store.strike`: take an element out of the table and out of what it is filed under;
* `Store.hold`: give a link another payload;
* the queries, each answered from the table or from one index, in ascending order.
-/
import SemanticNetwork.Adjacency
import SemanticNetwork.Element

namespace SemanticNetwork

/-- The elements of a network, with indexes. -/
@[ext] structure Store where
  elements : AddressMap Element
  allocated : Nat
  byType : Index ElementType
  outgoing : Adjacency
  incoming : Adjacency
  byPayload : Index Payload

namespace Store

/-- The store without elements. -/
def empty : Store := ⟨.empty, 0, .empty, .empty, .empty, .empty⟩

instance : Inhabited Store := ⟨empty⟩

/-- Put an element into the table, and file it under its type. -/
def enrol (store : Store) (element : Element) : Store :=
  { store with
    elements := store.elements.insert element.address element
    byType := store.byType.file element.type element.address }

/-- File an edge at what it leaves and at what it enters. -/
def connect (store : Store) (edge : Address) (type : ElementType) (source target : Address) :
    Store :=
  { store with
    outgoing := store.outgoing.file source type edge
    incoming := store.incoming.file target type edge }

/-- Take an element out of the table, and from under its type. -/
def dismiss (store : Store) (address : Address) (element : Element) : Store :=
  { store with
    elements := store.elements.erase address
    byType := store.byType.unfile element.type address }

/-- Take an edge away from what it leaves and from what it enters. -/
def disconnect (store : Store) (edge : Address) (type : ElementType) (source target : Address) :
    Store :=
  { store with
    outgoing := store.outgoing.unfile source type edge
    incoming := store.incoming.unfile target type edge }

/-- Take a link from under its payload. -/
def release (store : Store) (link : Address) (payload : Payload) : Store :=
  { store with byPayload := store.byPayload.unfile payload link }

/-- Take an element out of the table and out of all that it is filed under. -/
def strike (store : Store) (address : Address) (element : Element) : Store :=
  let dismissed := store.dismiss address element
  match element.body with
  | .edge source target => dismissed.disconnect address element.type source target
  | .link (some payload) => dismissed.release address payload
  | _ => dismissed

/-- Give a link another payload, and file it under that instead of the one it had. -/
def hold (store : Store) (link : Address) (element : Element) (payload : Payload) : Store :=
  let released := element.payload?.elim store (store.release link)
  { released with
    elements := store.elements.insert link { element with body := .link (some payload) }
    byPayload := released.byPayload.file payload link }

/-! ### The table -/

/-- Whether an address denotes an element. -/
def contains (store : Store) (address : Address) : Bool := store.elements.contains address

/-- The element at an address. -/
def get? (store : Store) (address : Address) : Option Element := store.elements.get? address

/-- The type of the element at an address. -/
def type? (store : Store) (address : Address) : Option ElementType :=
  (store.get? address).map Element.type

/-- What the edge at an address connects. -/
def ends? (store : Store) (address : Address) : Option (Address × Address) :=
  (store.get? address).bind Element.ends?

/-- The payload of the link at an address. -/
def payload? (store : Store) (address : Address) : Option Payload :=
  (store.get? address).bind Element.payload?

/-! ### Questions to the indexes -/

/-- The edges that leave an element and carry a type. -/
def edgesFrom (store : Store) (source : Address) (requested : ElementType) : List Address :=
  store.outgoing.edges source requested

/-- The edges that enter an element and carry a type. -/
def edgesInto (store : Store) (target : Address) (requested : ElementType) : List Address :=
  store.incoming.edges target requested

/-- The number of edges that leave an element and carry a type. -/
def countFrom (store : Store) (source : Address) (requested : ElementType) : Nat :=
  store.outgoing.count source requested

/-- The number of edges that enter an element and carry a type. -/
def countInto (store : Store) (target : Address) (requested : ElementType) : Nat :=
  store.incoming.count target requested

/-- The elements that carry a type. -/
def elementsOfType (store : Store) (requested : ElementType) : List Address :=
  store.byType.under fun type => type.carries requested

/-- The edges that carry a type. -/
def edgesOfType (store : Store) (requested : ElementType) : List Address :=
  store.byType.under fun type => type.isEdge && type.carries requested

/-- The links that hold a payload: those filed under it whose payload is also the same value. -/
def linksHolding (store : Store) (payload : Payload) : List Address :=
  (store.byPayload.setOf payload).keys.filter fun link =>
    (store.payload? link).any (·.sameValue payload)

/-! ### Counts -/

/-- How many elements of each kind there are. -/
structure Counts where
  nodes : Nat
  edges : Nat
  links : Nat
  deriving DecidableEq, Repr

/-- All elements, whatever their kind. -/
def Counts.total (counts : Counts) : Nat := counts.nodes + counts.edges + counts.links

/-- How many elements of each kind a store has. -/
def counts (store : Store) : Counts where
  nodes := store.elements.values.countP Element.isNode
  edges := store.elements.values.countP Element.isEdge
  links := store.elements.values.countP Element.isLink

end Store

end SemanticNetwork
