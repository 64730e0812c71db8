/-
**Contexts.** A context is a named way into a memory. Where something is refused that callers have
to expect, a context answers with the address that denotes nothing, an unknown type or no; only
what they do not expect is an error.

* `Memory.createNode`, `Memory.createEdge`, `Memory.resolve` and so on: an answer and the memory
  after it.
-/
import SemanticNetwork.Memory.Basic
import SemanticNetwork.Network.Dispatch
import SemanticNetwork.Pattern.Quintuple
import SemanticNetwork.Template.Structure

namespace SemanticNetwork.Memory

/-- The memory with another network. -/
def withNetwork (memory : Memory) (network : Network) : Memory :=
  { memory with network := network }

/-- The store of a memory. -/
def store (memory : Memory) : Store := memory.network.store

/-- Do something to the network that may be refused. -/
def tryNetwork {α : Type} (memory : Memory) (action : Network.Action α) :
    Except MemoryError α × Memory :=
  match action.run memory.network with
  | .ok value network => (.ok value, memory.withNetwork network)
  | .error error network => (.error (.store error), memory.withNetwork network)

/-- Do something with names that may be refused. -/
def tryNaming {α : Type} (memory : Memory) (action : Naming.Action α) :
    Except MemoryError α × Memory :=
  match action.run memory.network with
  | .ok value network => (.ok value, memory.withNetwork network)
  | .error error network => (.error error, memory.withNetwork network)

/-- The address that was asked for, or the one that denotes nothing. -/
def orInvalid (answer : Except MemoryError Address × Memory) : Address × Memory :=
  (answer.1.toOption.getD .invalid, answer.2)

/-! ### Elements -/

/-- Create a node. -/
def createNode (memory : Memory) (type : ElementType) : Address × Memory :=
  orInvalid (memory.tryNetwork (Network.createNode type))

/-- Create a constant link. -/
def createLink (memory : Memory) : Address × Memory :=
  orInvalid (memory.tryNetwork Network.createLink)

/-- Create an edge. -/
def createEdge (memory : Memory) (type : ElementType) (source target : Address) :
    Address × Memory :=
  orInvalid (memory.tryNetwork (Network.createEdge type source target))

/-- Erase an element and all that depends on it; whether there was one. -/
def erase (memory : Memory) (address : Address) : Bool × Memory :=
  let (answer, network) := memory.network.tryErase address
  (answer, memory.withNetwork network)

/-- The type of an element, or the unknown type. -/
def typeOf (memory : Memory) (address : Address) : ElementType :=
  (memory.store.type? address).getD .unknown

/-- Replace the payload of a link. -/
def setPayload (memory : Memory) (link : Address) (payload : Payload) :
    Except MemoryError Unit × Memory :=
  memory.tryNetwork (Network.setPayload link payload)

/-- Whether an edge that carries a type leads from one element to another. -/
def isLinked (memory : Memory) (source target : Address) (requested : ElementType) : Bool :=
  memory.store.isLinked source target requested

/-! ### Names -/

/-- The element of an identifier, created where a type is given and there is none. -/
def resolve (memory : Memory) (identifier : String) (type? : Option ElementType) :
    Address × Memory :=
  let (answer, after) := memory.tryNaming (Naming.resolve memory.relation identifier type?)
  ((answer.toOption.join).getD .invalid, after)

/-- Give an identifier to an element. -/
def setIdentifier (memory : Memory) (identifier : String) (element : Address) :
    Except MemoryError Unit × Memory :=
  memory.tryNaming (Naming.assign memory.relation identifier element)

/-- The identifier of an element. -/
def identifierOf? (memory : Memory) (element : Address) : Option String :=
  Naming.identifierOf? memory.store memory.relation element

/-! ### Patterns and templates -/

/-- A cursor over triples, or what is wrong with its pattern. -/
def tryTriples (memory : Memory) (pattern : TriplePattern) : Except MemoryError TripleCursor :=
  (TripleCursor.tryOpen memory.store pattern).mapError .pattern

/-- A cursor over quintuples, or what is wrong with its pattern. -/
def tryQuintuples (memory : Memory) (pattern : QuintuplePattern) :
    Except MemoryError QuintupleCursor :=
  (QuintupleCursor.tryOpen memory.store pattern).mapError .pattern

/-- Make an instance of a template. -/
def generate (memory : Memory) (template : Template) (parameters : Assignment) :
    Except MemoryError Instance × Memory :=
  let (outcome, network) := memory.network.generate template parameters
  (outcome.mapError .template, memory.withNetwork network)

/-- All instances of a template that agree with an assignment. -/
def search (memory : Memory) (template : Template) (parameters : Assignment) :
    Except MemoryError (List Instance) :=
  (template.search memory.store parameters).mapError .template

/-- All instances of a template whose elements are members of a structure. -/
def searchWithin (memory : Memory) (template : Template) (structureNode : Address) :
    Except MemoryError (List Instance) :=
  (template.searchWithin memory.store structureNode).mapError .template

/-- The template of a structure. -/
def templateOf (memory : Memory) (structureNode : Address) : Except MemoryError Template :=
  (Template.ofStructure memory.store structureNode).mapError .template

/-! ### Events -/

/-- Subscribe to events at an element, which has to exist. -/
def subscribe (memory : Memory) (request : SubscriptionRequest) :
    Except MemoryError Subscription × Memory :=
  if !memory.store.contains request.subject then
    (.error (.elementNotFound request.subject), memory)
  else
    match memory.network.events.subscribe request with
    | .ok (subscription, hub) =>
      (.ok subscription, memory.withNetwork (memory.network.updateEvents fun _ => hub))
    | .error error => (.error (.event error), memory)

end SemanticNetwork.Memory
