/-
**Operations on the network.** What changes the store is followed by telling the observers. Changes
can also be held in a batch, which is told as a whole or never.

* `Network.createEdge`, `Network.setPayload`, `Network.erase`: change and tell;
* `Network.createEdgeIn`, `Network.commit`, `Network.rollback`: change now and tell later;
* `Network.generate`: make an instance of a template.
-/
import SemanticNetwork.Network.Basic
import SemanticNetwork.Store.Create
import SemanticNetwork.Template.Generate

namespace SemanticNetwork

/-- Changes that are held back. -/
structure Batch where
  changes : List Change
  deriving DecidableEq, Repr

namespace Batch

/-- The batch that holds nothing back. -/
def empty : Batch := ⟨[]⟩

/-- The number of changes that are held back. -/
def size (batch : Batch) : Nat := batch.changes.length

/-- Hold back one more change. -/
def add (batch : Batch) (change : Change) : Batch := ⟨batch.changes ++ [change]⟩

end Batch

namespace Network

/-- An operation on a network that can be refused. -/
abbrev Action := EStateM StoreError Network

/-- Do something to the store without telling. -/
def onStore {α : Type} (action : Store.Action α) : Action α := fun network =>
  match action.run network.store with
  | .ok value store => .ok value { network with store := store }
  | .error error store => .error error { network with store := store }

/-- Tell every observer of some changes. -/
def announce (changes : List Change) : Action Unit := modify (·.publish changes)

/-- Create a node. -/
def createNode (type : ElementType) : Action Address := onStore (Store.createNode type)

/-- Create a constant link. -/
def createLink : Action Address := onStore Store.createLink

/-- Create a link of a type. -/
def createTypedLink (type : ElementType) : Action Address := onStore (Store.createTypedLink type)

/-- Create an edge, and hold back that it was created. -/
def createEdgeIn (batch : Batch) (type : ElementType) (source target : Address) :
    Action (Address × Batch) := do
  let edge ← onStore (Store.createEdge type source target)
  return (edge, batch.add (.edgeAdded edge source target type))

/-- Create an edge. -/
def createEdge (type : ElementType) (source target : Address) : Action Address := do
  let (edge, batch) ← createEdgeIn .empty type source target
  announce batch.changes
  return edge

/-- Replace the payload of a link. -/
def setPayload (link : Address) (payload : Payload) : Action Unit := do
  onStore (Store.setPayload link payload)
  announce [.payloadChanged link]

/-- Erase an element and all that depends on it; whether there was anything to erase. -/
def tryErase (network : Network) (address : Address) : Bool × Network :=
  let erased := network.store.erase address
  (erased.erasedAny, { network with store := erased.store }.publish erased.changes)

/-- Erase an element and all that depends on it, whatever the answer. -/
def erase (network : Network) (address : Address) : Network := (network.tryErase address).2

/-- Tell what a batch held back. -/
def commit (network : Network) (batch : Batch) : Network := network.publish batch.changes

/-- Erase what was created, and never tell of it. -/
def rollback (network : Network) (created : List Address) : Network :=
  let (store, changes) := network.store.rollback created
  { network with store := store }.publish changes

/-- Make an instance of a template. -/
def generate (network : Network) (template : Template) (parameters : Assignment) :
    Except TemplateError Instance × Network :=
  let made := template.generate network.store parameters
  (made.outcome, { network with store := made.store }.publish made.changes)

/-- Do something that may be refused, and go on either way. -/
def attempt {α : Type} (network : Network) (action : Action α) : Network :=
  match action.run network with
  | .ok _ after => after
  | .error _ after => after

end Network

end SemanticNetwork
