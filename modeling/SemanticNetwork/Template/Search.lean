/-
**Searching a template.** A search keeps partial matches: elements for some variables, and triples
of the network for the template's triples handled so far. Each step takes the triple with the most
anchored positions and extends every partial match by the triples of the network that fit it.

* `Template.extend`: the extensions of a partial match by one triple;
* `Template.nextTriple?`: the triple to handle next;
* `Template.search`: all instances, and `Template.searchWithin`: those inside a structure.
-/
import SemanticNetwork.ElementType.Named
import SemanticNetwork.Pattern.Triple
import SemanticNetwork.Template.Instance

namespace SemanticNetwork

/-- The members of a structure: what its membership edges lead to, in the order of the edges. -/
def Store.members (store : Store) (structureNode : Address) : List Address :=
  (store.edgesFrom structureNode .membership).filterMap fun edge =>
    (store.ends? edge).map Prod.snd

namespace Template

/-- Elements for some variables, and triples of the network for some triples of the template. -/
@[ext] structure PartialMatch where
  valuation : Valuation
  rows : List (Option Triple)
  deriving DecidableEq, Repr

/-- What a position asks the network for, given the elements of the variables; nothing fits where
the variable has another element than the fixed one. -/
def slotPattern? (valuation : Valuation) (slot : Slot) : Option Pattern :=
  match valuation.ofSlot? slot, slot.constraint with
  | some address, .fixed fixed => if address = fixed then some (.fixed address) else none
  | some address, _ => some (.fixed address)
  | none, .fixed address => some (.fixed address)
  | none, .typed type => some (.typed (soughtType type))
  | none, .any => some (.typed .unknown)

/-- What a triple asks the network for. -/
def triplePattern? (valuation : Valuation) (slots : SlotTriple) : Option TriplePattern := do
  return ⟨← slotPattern? valuation slots.source, ← slotPattern? valuation slots.edge,
    ← slotPattern? valuation slots.target⟩

/-- Whether the type of an element suits a slot. -/
def suits (store : Store) (slot : Slot) (address : Address) : Bool :=
  match slot.constraint with
  | .typed type => (store.type? address).any fun actual => actual.carries (soughtType type)
  | _ => true

/-- The valuation in which the variable of a slot has an element, if the element suits the slot and
the variable has no other. -/
def fit? (store : Store) (valuation : Valuation) (placed : Slot × Address) : Option Valuation :=
  let (slot, address) := placed
  if suits store slot address then
    match valuation.ofSlot? slot with
    | none => some (valuation.bindSlot slot address)
    | some existing => if existing = address then some valuation else none
  else none

/-- The valuation in which a triple of the network stands for a triple of the template. -/
def fitRow? (store : Store) (slots : SlotTriple) (valuation : Valuation) (row : Triple) :
    Option Valuation :=
  (slots.toList.zip row.toList).foldlM (fit? store) valuation

/-- Which elements a search may use: all, or only some. -/
abbrev Scope := Option (List Address)

/-- Whether a triple uses only elements of a scope. -/
def inScope (scope : Scope) (row : Triple) : Bool :=
  match scope with
  | none => true
  | some members => row.toList.all members.contains

/-- The extensions of a partial match by one triple. -/
def extend (store : Store) (scope : Scope) (template : Template) (position : Nat)
    (found : PartialMatch) : List PartialMatch :=
  match template.triples[position]? with
  | none => []
  | some slots =>
    match triplePattern? found.valuation slots with
    | none => []
    | some pattern =>
      ((pattern.rows store).filter (inScope scope)).filterMap fun row =>
        (fitRow? store slots found.valuation row).map fun valuation =>
          ⟨valuation, found.rows.set position (some row)⟩

/-- Whether a position is known before the network is asked. -/
def isAnchored (valuation : Valuation) (slot : Slot) : Bool :=
  match slot.constraint with
  | .fixed _ => true
  | _ => (valuation.ofSlot? slot).isSome

/-- How well a triple is anchored; its edge counts as much as both ends. -/
def anchorage (valuation : Valuation) (slots : SlotTriple) : Nat :=
  (if isAnchored valuation slots.edge then 4 else 0) +
    (if isAnchored valuation slots.source then 2 else 0) +
    (if isAnchored valuation slots.target then 2 else 0)

/-- The better anchored of two candidates; the earlier one if neither is better. -/
def betterAnchored (best : Option (Nat × Nat)) (candidate : Nat × Nat) : Option (Nat × Nat) :=
  match best with
  | none => some candidate
  | some (score, position) => if score < candidate.1 then some candidate else some (score, position)

/-- The triple to handle next: the best anchored one of those that are left. -/
def nextTriple? (template : Template) (valuation : Valuation) (handled : List Nat) : Option Nat :=
  let left := template.triples.zipIdx.filter fun (_, position) => !handled.contains position
  let scored := left.map fun (slots, position) => (anchorage valuation slots, position)
  (scored.foldl betterAnchored none).map Prod.snd

/-- Handle so many triples, starting from some partial matches. -/
def matchTriples (store : Store) (scope : Scope) (template : Template) :
    Nat → List Nat → List PartialMatch → List PartialMatch
  | 0, _, found => found
  | count + 1, handled, found =>
    match found.head?.bind fun first => template.nextTriple? first.valuation handled with
    | none => found
    | some position =>
      template.matchTriples store scope count (position :: handled)
        (found.flatMap (template.extend store scope position))

/-- The instance of a match in which every triple was handled. -/
def PartialMatch.toInstance? (template : Template) (found : PartialMatch) : Option Instance :=
  (found.rows.mapM id).map (.ofValuation template found.valuation)

/-- All instances of a template within a scope that agree with an assignment. -/
def searchIn (store : Store) (scope : Scope) (template : Template) (parameters : Assignment) :
    Except TemplateError (List Instance) := do
  template.validate
  let valuation ← template.bindParameters store parameters
  let start : PartialMatch := ⟨valuation, List.replicate template.size none⟩
  let found := template.matchTriples store scope template.size [] [start]
  return found.filterMap (PartialMatch.toInstance? template)

/-- All instances of a template that agree with an assignment. -/
def search (store : Store) (template : Template) (parameters : Assignment) :
    Except TemplateError (List Instance) :=
  template.searchIn store none parameters

/-- All instances of a template whose elements are members of a structure. -/
def searchWithin (store : Store) (template : Template) (structureNode : Address) :
    Except TemplateError (List Instance) :=
  if store.contains structureNode then
    template.searchIn store (some (store.members structureNode)) .empty
  else .error (.store (.elementNotFound structureNode))

end Template

end SemanticNetwork
