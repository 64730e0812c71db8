/-
**Planning a generation.** Before anything is created, the triples are walked through with only the
knowledge of which variables will have an element by then. A template that would stop half-way is
refused here: a value that nothing provides, a type that cannot be created at its position, an
element that does not exist, an existing edge between other ends.

* `Template.foresee`: what will be known of one position;
* `Template.plan`: the first obstacle to a generation.
-/
import SemanticNetwork.Template.Instance

namespace SemanticNetwork.Template

/-- What is known of a variable before anything is created. -/
inductive Prospect where
  | unbound
  | created
  | existing (address : Address)
  deriving DecidableEq, Repr

/-- The existing element that a variable will have. -/
def Prospect.address? : Prospect → Option Address
  | existing address => some address
  | _ => none

/-- Whether a variable will have an element. -/
def Prospect.isAvailable : Prospect → Bool
  | unbound => false
  | _ => true

/-- What the parameters say of the variables. -/
def prospects (valuation : Valuation) : List Prospect :=
  valuation.values.map fun value => value.elim .unbound .existing

/-- The prospect of the variable of a slot, once it will have an element. -/
def available? (known : List Prospect) (slot : Slot) : Option Prospect := do
  let var ← slot.var
  let prospect ← known[var]?
  if prospect.isAvailable then some prospect else none

/-- Whether an element of a type can be created at the edge of a triple or at one of its ends. -/
def isCreatable (position : Nat) (type : ElementType) : Bool :=
  if position = 1 then type.isEdgeType
  else if type.isLink then type.isConsistent
  else type.isNodeType

/-- What a slot itself says of its element. -/
def slotProspect (store : Store) (template : Template) (triple position : Nat) (slot : Slot) :
    Except TemplateError Prospect :=
  match slot.constraint with
  | .fixed address =>
    if store.contains address then .ok (.existing address)
    else .error (.store (.elementNotFound address))
  | .typed type =>
    if isCreatable position type then .ok .created
    else .error (.cannotCreate triple position type)
  | .any => .error (.missingBinding (template.labelOf slot) triple)

/-- The existing element at a position, if it will be one, and what is known after it. -/
def foresee (store : Store) (template : Template) (triple position : Nat) (slot : Slot)
    (known : List Prospect) : Except TemplateError (Option Address × List Prospect) :=
  match available? known slot with
  | some prospect => .ok (prospect.address?, known)
  | none => do
    let prospect ← slotProspect store template triple position slot
    return (prospect.address?, slot.var.elim known fun var => known.set var prospect)

/-- An existing edge can only be used between its own ends, which must exist already. -/
def foreseeEdge (store : Store) (source edge target : Option Address) :
    Except TemplateError Unit :=
  match edge with
  | none => .ok ()
  | some edge =>
    let wanted : Option (Address × Address) := do return (← source, ← target)
    if wanted.isSome && store.ends? edge == wanted then .ok ()
    else .error (.endpointMismatch edge (source.getD .invalid) (target.getD .invalid))

/-- What is known after a triple; its ends come before its edge. -/
def foreseeTriple (store : Store) (template : Template) (known : List Prospect)
    (indexed : SlotTriple × Nat) : Except TemplateError (List Prospect) := do
  let (slots, triple) := indexed
  let (source, known) ← template.foresee store triple 0 slots.source known
  let (target, known) ← template.foresee store triple 2 slots.target known
  let (edge, known) ← template.foresee store triple 1 slots.edge known
  foreseeEdge store source edge target
  return known

/-- Refuse a generation that would stop half-way. -/
def plan (store : Store) (template : Template) (valuation : Valuation) :
    Except TemplateError Unit := do
  let _ ← template.triples.zipIdx.foldlM (template.foreseeTriple store) (prospects valuation)

end SemanticNetwork.Template
