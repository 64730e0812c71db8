/-
**Which templates make sense.** A template is refused if it is empty, calls two variables by one
name, refers to a variable that no position says anything about, or asks for what cannot exist.

* `TemplateError`: why a template, its parameters or its generation are refused;
* `Template.validate`: the first reason against a template.
-/
import SemanticNetwork.Store.Create
import SemanticNetwork.Template.Basic

namespace SemanticNetwork

/-- Why a parameter cannot be bound to its name. -/
inductive ParameterFault where
  | notAnElement (address : Address)
  | wrongType (address : Address) (actual expected : ElementType)
  deriving DecidableEq, Repr

/-- What is wrong with a parameter. -/
def ParameterFault.message : ParameterFault → String
  | notAnElement address => address.text ++ " is not an element"
  | wrongType address actual expected =>
    address.text ++ " has type " ++ actual.text ++ ", expected " ++ expected.text

/-- Why work with a template is refused. Triples and positions are counted from zero. -/
inductive TemplateError where
  | emptyTemplate
  | danglingName (name : String)
  | nameRedefined (name : String)
  | invalidType (triple : Nat) (type : ElementType) (conflict : ElementType.Conflict)
  | invalidAddress (triple position : Nat)
  | unknownParameter (name : String)
  | invalidParameter (name : String) (reason : ParameterFault)
  | missingBinding (name : String) (triple : Nat)
  | cannotCreate (triple position : Nat) (type : ElementType)
  | endpointMismatch (edge source target : Address)
  | conflictingBinding (name : String) (first second : Address)
  | emptyStructure (structureNode : Address)
  | memberOutside (structureNode edge endpoint : Address)
  | store (error : StoreError)
  deriving DecidableEq, Repr

namespace TemplateError

/-- A name between quotes. -/
def quoted (name : String) : String := "'" ++ name ++ "'"

/-- The wording of a refusal. -/
def message : TemplateError → String
  | emptyTemplate => "Template is empty"
  | danglingName name => "Alias " ++ quoted name ++ " is never introduced"
  | nameRedefined name => "Alias " ++ quoted name ++ " is already bound to another slot"
  | invalidType triple type conflict =>
    "Invalid type " ++ type.text ++ " in triple " ++ toString triple ++ ": " ++ conflict.message
  | invalidAddress triple position =>
    "Invalid address in triple " ++ toString triple ++ ", position " ++ toString position
  | unknownParameter name => "Unknown parameter " ++ quoted name
  | invalidParameter name reason =>
    "Invalid parameter " ++ quoted name ++ ": " ++ reason.message
  | missingBinding name triple =>
    "Missing binding for " ++ quoted name ++ " in triple " ++ toString triple
  | cannotCreate triple position type =>
    "Cannot create " ++ type.text ++ " at position " ++ toString position ++ " of triple " ++
      toString triple
  | endpointMismatch edge source target =>
    "Edge " ++ edge.text ++ " does not connect " ++ source.text ++ " to " ++ target.text
  | conflictingBinding name first second =>
    "Alias " ++ quoted name ++ " bound to both " ++ first.text ++ " and " ++ second.text
  | emptyStructure structureNode => "Structure " ++ structureNode.text ++ " has no edge members"
  | memberOutside structureNode edge endpoint =>
    "Edge " ++ edge.text ++ " of structure " ++ structureNode.text ++ " has endpoint " ++
      endpoint.text ++ " outside it"
  | store error => error.message

/-- The name of the cause of a refusal; what the store refuses keeps its own. -/
def cause : TemplateError → String
  | emptyTemplate => "EmptyTemplate"
  | danglingName _ => "DanglingAlias"
  | nameRedefined _ => "AliasRedefined"
  | invalidType .. => "InvalidType"
  | invalidAddress .. => "InvalidAddress"
  | unknownParameter _ => "UnknownParam"
  | invalidParameter .. => "InvalidParam"
  | missingBinding .. => "MissingBinding"
  | cannotCreate .. => "CannotCreate"
  | endpointMismatch .. => "EndpointMismatch"
  | conflictingBinding .. => "ConflictingBinding"
  | emptyStructure _ => "EmptyStructure"
  | memberOutside .. => "MemberOutsideStructure"
  | store error => "Graph." ++ error.cause

/-- The kind of a refusal. -/
def fault : TemplateError → Fault
  | missingBinding .. | endpointMismatch .. | conflictingBinding .. | memberOutside .. =>
    .constraintViolation
  | store error => error.fault
  | _ => .invalidArgument

end TemplateError

namespace Template

/-- The first variable that no position says anything about. -/
def dangling? (template : Template) : Option Nat :=
  template.vars.findIdx? fun var => !var.introduced

/-- What is wrong with a constraint at a position. -/
def constraintError? (triple position : Nat) : Constraint → Option TemplateError
  | .fixed address => if address.isValid then none else some (.invalidAddress triple position)
  | .typed type => type.conflict?.map (.invalidType triple type)
  | .any => none

/-- The first constraint of a triple with which something is wrong. -/
def slotsError? (triple : Nat) (slots : SlotTriple) : Option TemplateError :=
  slots.toList.zipIdx.findSome? fun (slot, position) =>
    constraintError? triple position slot.constraint

/-- The first reason against a template. -/
def error? (template : Template) : Option TemplateError :=
  if template.isEmpty then some .emptyTemplate
  else
    match template.redefined.head?, template.dangling? with
    | some name, _ => some (.nameRedefined name)
    | none, some var => some (.danglingName (template.label var))
    | none, none =>
      template.triples.zipIdx.findSome? fun (slots, triple) => slotsError? triple slots

/-- Refuse a template that makes no sense. -/
def validate (template : Template) : Except TemplateError Unit :=
  match template.error? with
  | some error => .error error
  | none => .ok ()

end Template

end SemanticNetwork
