/-
**Generating a template.** The triples are made in order, the ends of each before its edge. A slot
takes the element its variable has, or its fixed element, or a new one of its type. What is created
is not announced before the end; if a step is refused, everything created so far is erased again
and was never announced.

* `Template.resolveEnd`, `Template.resolveEdge`: the element of one slot;
* `Template.generateTriples`: all triples, with what was created;
* `Template.generate`: the whole generation, all or nothing.
-/
import SemanticNetwork.Store.Erase
import SemanticNetwork.Template.Plan

namespace SemanticNetwork.Template

/-- The state of a generation: the store so far, the elements of the variables, what was created,
and what is to be announced. -/
structure Generation where
  store : Store
  valuation : Valuation
  created : List Address
  changes : List Change

/-- A step of a generation. -/
abbrev Step := EStateM TemplateError Generation

/-- Do something to the store within a generation. -/
def withStore {α : Type} (action : Store.Action α) : Step α := fun state =>
  match action.run state.store with
  | .ok value store => .ok value { state with store := store }
  | .error error store => .error (.store error) { state with store := store }

/-- Create an element within a generation. -/
def makeElement (action : Store.Action Address) : Step Address := do
  let address ← withStore action
  modify fun state => { state with created := state.created ++ [address] }
  return address

/-- Create an edge within a generation, to be announced at its end. -/
def makeEdge (type : ElementType) (source target : Address) : Step Address := do
  let edge ← makeElement (Store.createEdge type source target)
  modify fun state =>
    { state with changes := state.changes ++ [.edgeAdded edge source target type] }
  return edge

/-- The element that the variable of a slot has, if it suits the slot. -/
def boundElement? (template : Template) (slot : Slot) (state : Generation) :
    Except TemplateError (Option Address) :=
  match state.valuation.ofSlot? slot, slot.constraint with
  | none, _ => .ok none
  | some address, .any => .ok (some address)
  | some address, .fixed fixed =>
    if fixed = address then .ok (some address)
    else .error (.conflictingBinding (template.labelOf slot) address fixed)
  | some address, .typed type =>
    match state.store.type? address with
    | none => .error (.store (.elementNotFound address))
    | some actual =>
      if actual.carries (soughtType type) then .ok (some address)
      else
        .error (.invalidParameter (template.labelOf slot) (.wrongType address actual type))

/-- The element that the variable of a slot has, or a refusal. -/
def boundElement (template : Template) (slot : Slot) : Step (Option Address) := do
  match template.boundElement? slot (← get) with
  | .ok found => return found
  | .error error => throw error

/-- Give an element to the variable of a slot. -/
def bindSlot (slot : Slot) (address : Address) : Step Unit :=
  modify fun state => { state with valuation := state.valuation.bindSlot slot address }

/-- The element for an end whose variable has none. -/
def makeEnd (template : Template) (triple position : Nat) (slot : Slot) : Step Address := do
  match slot.constraint with
  | .fixed address =>
    if (← get).store.contains address then return address
    else throw (.store (.elementNotFound address))
  | .typed type =>
    if type.isLink then makeElement (Store.createTypedLink type)
    else if type.isEdge then throw (.cannotCreate triple position type)
    else makeElement (Store.createNode type)
  | .any => throw (.missingBinding (template.labelOf slot) triple)

/-- The element at an end of a triple. -/
def resolveEnd (template : Template) (triple position : Nat) (slot : Slot) : Step Address := do
  match ← template.boundElement slot with
  | some address => return address
  | none =>
    let address ← template.makeEnd triple position slot
    bindSlot slot address
    return address

/-- The existing edge that a slot asks for. -/
def existingEdge (template : Template) (slot : Slot) : Step (Option Address) := do
  match ← template.boundElement slot, slot.constraint with
  | some address, _ => return some address
  | none, .fixed address => return some address
  | none, _ => return none

/-- The edge of a triple between its ends. -/
def resolveEdge (template : Template) (triple : Nat) (slot : Slot) (source target : Address) :
    Step Address := do
  match ← template.existingEdge slot, slot.constraint with
  | some edge, _ =>
    if (← get).store.ends? edge = some (source, target) then
      bindSlot slot edge
      return edge
    else throw (.endpointMismatch edge source target)
  | none, .typed type =>
    let edge ← makeEdge type source target
    bindSlot slot edge
    return edge
  | none, _ => throw (.missingBinding (template.labelOf slot) triple)

/-- One triple; its ends come before its edge. -/
def generateTriple (template : Template) (indexed : SlotTriple × Nat) : Step Triple := do
  let (slots, triple) := indexed
  let source ← template.resolveEnd triple 0 slots.source
  let target ← template.resolveEnd triple 2 slots.target
  let edge ← template.resolveEdge triple slots.edge source target
  return ⟨source, edge, target⟩

/-- All triples in order. -/
def generateTriples (template : Template) : Step (List Triple) :=
  template.triples.zipIdx.mapM template.generateTriple

/-- What a generation leaves: its outcome, the store, and the changes to announce. -/
structure Generated where
  outcome : Except TemplateError Instance
  store : Store
  changes : List Change

/-- Make the triples from a valuation. If that is refused, what was created is erased again, and
announced is only what else went with it. -/
def generateFrom (store : Store) (template : Template) (valuation : Valuation) : Generated :=
  match template.generateTriples.run ⟨store, valuation, [], []⟩ with
  | .ok triples state =>
    ⟨.ok (.ofValuation template state.valuation triples), state.store, state.changes⟩
  | .error error state =>
    let (restored, changes) := state.store.rollback state.created
    ⟨.error error, restored, changes⟩

/-- What is checked before anything is created: the template, the parameters and the plan. -/
def prepare (store : Store) (template : Template) (parameters : Assignment) :
    Except TemplateError Valuation := do
  template.validate
  let valuation ← template.bindParameters store parameters
  template.plan store valuation
  return valuation

/-- Generate a template, all or nothing. -/
def generate (store : Store) (template : Template) (parameters : Assignment) : Generated :=
  match template.prepare store parameters with
  | .ok valuation => template.generateFrom store valuation
  | .error error => ⟨.error error, store, []⟩

end SemanticNetwork.Template
