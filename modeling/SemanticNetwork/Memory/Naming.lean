/-
**Naming.** That an element has an identifier is part of the network: a directed edge leads from the
element to a link that holds the text, and that edge is a member of the naming relation, which is a
node. The links are kept track of, so that a link goes when its naming edge does.

* `Naming.find?`, `Naming.identifierOf?`: from an identifier to its element, and back;
* `Naming.assign`: give an identifier to an element, in place of the one it had;
* `Naming.resolve`: find the element of an identifier, or create it;
* `Naming.bootstrap`: the naming relation, which names itself.
-/
import SemanticNetwork.Memory.Error
import SemanticNetwork.Network.Operations
import SemanticNetwork.Pattern.Triple
import SemanticNetwork.Text.Blank

namespace SemanticNetwork

/-- Whether an edge that carries a type leads from one element to another. -/
def Store.isLinked (store : Store) (source target : Address) (requested : ElementType) : Bool :=
  let pattern : TriplePattern := ⟨.fixed source, .typed requested, .fixed target⟩
  source.isValid && target.isValid &&
    (pattern.firstRow? store (pattern.pending store)).isSome

namespace Naming

/-- The identifier of the naming relation. -/
def relationIdentifier : String := "nrel_system_identifier"

/-- An operation on a network that a memory can refuse. -/
abbrev Action := EStateM MemoryError Network

/-- Do something to the network; what it refuses is passed on. -/
def onNetwork {α : Type} (action : Network.Action α) : Action α := action.adaptExcept .store

/-- Whether an edge belongs to the naming relation. -/
def isNamingEdge (store : Store) (relation edge : Address) : Bool :=
  store.isLinked relation edge .membership

/-- The element of an identifier: where the first naming edge into a link with the text starts. -/
def find? (store : Store) (relation : Address) (identifier : String) : Option Address :=
  (store.linksHolding (.text identifier)).findSome? fun link =>
    (store.edgesInto link .constantDirected).findSome? fun edge =>
      if isNamingEdge store relation edge then (store.ends? edge).map Prod.fst else none

/-- The links that naming edges lead to from an element. -/
def linksOf (store : Store) (relation element : Address) : List Address :=
  ((store.edgesFrom element .constantDirected).filter (isNamingEdge store relation)).filterMap
    fun edge => (store.ends? edge).map Prod.snd

/-- The identifier of an element: the first text among its links. -/
def identifierOf? (store : Store) (relation element : Address) : Option String :=
  (linksOf store relation element).findSome? fun link =>
    match store.payload? link with
    | some (.text identifier) => some identifier
    | _ => none

/-- Refuse a blank identifier. -/
def requireIdentifier (identifier : String) : Action Unit :=
  if Text.isBlankText identifier then throw .blankIdentifier else pure ()

/-- Keep track of a link that holds an identifier. -/
def trackLink (link : Address) : Action Unit :=
  modify fun network => { network with identifierLinks := network.identifierLinks ++ [link] }

/-- Write an identifier into a link, and let a naming edge lead to it. -/
def fillLink (relation link element : Address) (identifier : String) : Action Unit :=
  onNetwork do
    Network.setPayload link (.text identifier)
    let edge ← Network.createEdge .constantDirected element link
    let _ ← Network.createEdge .membership relation edge

/-- Do something; if it is refused, undo what came before it. -/
def orElseUndo (action : Action Unit) (undo : Network → Network) : Action Unit := fun network =>
  match action.run network with
  | .ok value after => .ok value after
  | .error error after => .error error (undo after)

/-- Name an element by a new link; if that is refused, the link goes again. -/
def attach (relation element : Address) (identifier : String) : Action Unit := do
  let link ← onNetwork Network.createLink
  trackLink link
  orElseUndo (fillLink relation link element identifier) fun network =>
    (network.forgetLink link).erase link

/-- Give an identifier to an element. The links of its former identifier go once the new one is in
place. -/
def assign (relation : Address) (identifier : String) (element : Address) : Action Unit := do
  requireIdentifier identifier
  let store := (← get).store
  if !store.contains element then throw (.elementNotFound element)
  match find? store relation identifier with
  | some existing =>
    if existing = element then return ()
    else throw (.identifierConflict identifier existing)
  | none =>
    attach relation element identifier
    modify fun network => (linksOf store relation element).foldl Network.erase network

/-- Create a node with an identifier; if naming it is refused, the node goes again. -/
def createNamed (relation : Address) (identifier : String) (type : ElementType) :
    Action Address := do
  requireIdentifier identifier
  let element ← onNetwork (Network.createNode type)
  orElseUndo (assign relation identifier element) (Network.erase · element)
  return element

/-- The element of an identifier. If there is none, a node of a type is created where one is given;
otherwise there is no element. -/
def resolve (relation : Address) (identifier : String) (type? : Option ElementType) :
    Action (Option Address) := do
  match find? (← get).store relation identifier, type? with
  | some element, _ => return some element
  | none, none => return none
  | none, some type => return some (← createNamed relation identifier type)

/-- Create the naming relation, see to orphaned links from now on, and let the relation name
itself. -/
def bootstrap : Action Address := do
  let relation ← onNetwork (Network.createNode .constantNorole)
  modify (·.observe .linkReaper)
  assign relation relationIdentifier relation
  return relation

end Naming

end SemanticNetwork
