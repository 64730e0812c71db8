/-
**Templates.** A template is a list of triples of positions. Positions that are called by the same
name share a variable. A name belongs to the variable it was first used for; a position that refers
to one name and is called by another makes the second name a synonym of the first, unless it already
belongs to a different variable, which is recorded as a redefinition.

* `Template.intern`: the slot of an item, with the variables and names it adds;
* `Template.triple`, `Template.tripleWithRelation`: append triples.
-/
import SemanticNetwork.Template.Item

namespace SemanticNetwork

namespace Template

/-- What the element at a slot has to be. -/
inductive Constraint where
  | fixed (address : Address)
  | typed (type : ElementType)
  | any
  deriving DecidableEq, Repr

/-- A position of a template: a constraint, and the variable that the position shares. -/
structure Slot where
  constraint : Constraint
  var : Option Nat
  deriving DecidableEq, Repr

/-- A triple of positions. -/
structure SlotTriple where
  source : Slot
  edge : Slot
  target : Slot
  deriving DecidableEq, Repr

/-- The slots in order. -/
def SlotTriple.toList (slots : SlotTriple) : List Slot := [slots.source, slots.edge, slots.target]

/-- A variable: the name it was first called by, and whether some position says what it is. -/
structure Variable where
  name? : Option String
  introduced : Bool
  deriving DecidableEq, Repr

end Template

/-- A conjunction of triples over variables. -/
structure Template where
  triples : List Template.SlotTriple
  vars : List Template.Variable
  names : List (String × Nat)
  redefined : List String
  deriving DecidableEq, Repr

namespace Template

/-- The template without triples. -/
def empty : Template := ⟨[], [], [], []⟩

instance : Inhabited Template := ⟨empty⟩

/-- The variable that a name belongs to. -/
def varNamed? (template : Template) (name : String) : Option Nat :=
  (template.names.find? fun entry => entry.1 == name).map Prod.snd

/-- The template with one more variable. -/
def addVariable (template : Template) (var : Variable) : Template :=
  { template with vars := template.vars ++ [var] }

/-- The template in which one more name belongs to a variable. -/
def addName (template : Template) (name : String) (var : Nat) : Template :=
  { template with names := template.names ++ [(name, var)] }

/-- The variable that a name belongs to, a new one if it belongs to none. -/
def varFor (template : Template) (name : String) : Nat × Template :=
  match template.varNamed? name with
  | some var => (var, template)
  | none =>
    let var := template.vars.length
    (var, (template.addVariable ⟨some name, false⟩).addName name var)

/-- Record that a position says what a variable is. -/
def introduce (template : Template) (var : Nat) : Template :=
  { template with
    vars := template.vars.modify var fun known => { known with introduced := true } }

/-- Call a variable by a further name. -/
def addSynonym (template : Template) (name : String) (var : Nat) : Template :=
  match template.varNamed? name with
  | none => template.addName name var
  | some existing =>
    if existing = var then template
    else { template with redefined := template.redefined ++ [name] }

/-- The slot of a position that says what its element is. -/
def internConstrained (template : Template) (constraint : Constraint) (name? : Option String) :
    Slot × Template :=
  match name? with
  | none => (⟨constraint, none⟩, template)
  | some name =>
    let (var, template) := template.varFor name
    (⟨constraint, some var⟩, template.introduce var)

/-- The slot of a position that refers to a name. -/
def internReference (template : Template) (referenced : String) (name? : Option String) :
    Slot × Template :=
  let (var, template) := template.varFor referenced
  (⟨.any, some var⟩, name?.elim template fun name => template.addSynonym name var)

/-- The slot of an item, with the variables and names it adds. -/
def intern (template : Template) (item : Item) : Slot × Template :=
  match item.value with
  | .fixed address => template.internConstrained (.fixed address) item.name?
  | .typed type => template.internConstrained (.typed type) item.name?
  | .reference name => template.internReference name item.name?

/-- The template with one more triple of slots. -/
def addSlots (template : Template) (slots : SlotTriple) : Template :=
  { template with triples := template.triples ++ [slots] }

/-- Append a triple. -/
def triple (template : Template) (source edge target : Item) : Template :=
  let (source, template) := template.intern source
  let (edge, template) := template.intern edge
  let (target, template) := template.intern target
  template.addSlots ⟨source, edge, target⟩

/-- The variable of a slot, a new and nameless one if it has none. -/
def shareSlot (template : Template) (slot : Slot) : Nat × Slot × Template :=
  match slot.var with
  | some var => (var, slot, template)
  | none =>
    let var := template.vars.length
    (var, { slot with var := some var }, template.addVariable ⟨none, true⟩)

/-- Append a triple, and a second one that leads from a relation to the edge of the first. -/
def tripleWithRelation (template : Template) (source edge target relationEdge relation : Item) :
    Template :=
  let (source, template) := template.intern source
  let (edge, template) := template.intern edge
  let (target, template) := template.intern target
  let (shared, edge, template) := template.shareSlot edge
  let template := template.addSlots ⟨source, edge, target⟩
  let (relation, template) := template.intern relation
  let (relationEdge, template) := template.intern relationEdge
  template.addSlots ⟨relation, relationEdge, ⟨.any, some shared⟩⟩

/-- The number of triples. -/
def size (template : Template) : Nat := template.triples.length

/-- Whether there is no triple. -/
def isEmpty (template : Template) : Bool := template.triples.isEmpty

/-- Whether a name occurs. -/
def hasName (template : Template) (name : String) : Bool := (template.varNamed? name).isSome

/-- How messages call a variable: by its name, or by its number. -/
def label (template : Template) (var : Nat) : String :=
  ((template.vars[var]?).bind Variable.name?).getD ("$" ++ toString var)

/-- How messages call a slot; one without variable has no name. -/
def labelOf (template : Template) (slot : Slot) : String := slot.var.elim "" template.label

end Template

end SemanticNetwork
