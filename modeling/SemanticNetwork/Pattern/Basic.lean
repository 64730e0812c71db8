/-
**Patterns.** A pattern says which elements may stand at a position: one element, or all whose type
carries a requested type. A pattern that can stand nowhere is refused before it is used.

* `Pattern.accepts`: the pattern lets an element of the store stand at its position;
* `Pattern.fault?`: why a pattern can stand nowhere;
* `firstFault?`: the first of several patterns that is refused, with its position.
-/
import SemanticNetwork.ElementType.Text
import SemanticNetwork.Fault
import SemanticNetwork.Store.Basic

namespace SemanticNetwork

/-- What may stand at a position. -/
inductive Pattern where
  | fixed (address : Address)
  | typed (type : ElementType)
  deriving DecidableEq, Repr

namespace Pattern

/-- The element that a pattern fixes. -/
def address? : Pattern → Option Address
  | fixed address => some address
  | typed _ => none

/-- Whether the pattern fixes an element. -/
def isFixed (pattern : Pattern) : Bool := pattern.address?.isSome

/-- The type that a pattern requests; one that fixes an element requests nothing of its type. -/
def requestedType : Pattern → ElementType
  | fixed _ => .unknown
  | typed type => type

/-- The address, or the type between angle brackets. -/
def text : Pattern → String
  | fixed address => address.text
  | typed type => "<" ++ type.text ++ ">"

/-- Why a pattern can stand nowhere. -/
inductive Malformed where
  | invalidAddress
  | conflict (conflict : ElementType.Conflict)
  deriving DecidableEq, Repr

/-- What is wrong with a pattern, if anything is. -/
def fault? : Pattern → Option Malformed
  | fixed address => if address.isValid then none else some .invalidAddress
  | typed type => type.conflict?.map .conflict

/-- Whether an element of a type may stand at the position. -/
def acceptsTyped (pattern : Pattern) (address : Address) (type : ElementType) : Bool :=
  match pattern with
  | fixed wanted => wanted == address
  | typed requested => type.carries requested

/-- Whether an element of the store may stand at the position. -/
def accepts (store : Store) (pattern : Pattern) (address : Address) : Bool :=
  match pattern with
  | fixed wanted => wanted == address
  | typed requested => (store.type? address).any fun type => type.carries requested

end Pattern

/-- A pattern was refused at a position. -/
structure PatternError where
  position : Nat
  reason : Pattern.Malformed
  deriving DecidableEq, Repr

namespace PatternError

/-- The wording of a refusal. -/
def message (error : PatternError) : String :=
  "Parameter " ++ toString error.position ++
    match error.reason with
    | .invalidAddress => " is the invalid address"
    | .conflict conflict => " has an invalid type: " ++ conflict.message

/-- The name of the cause of a refusal. -/
def cause (error : PatternError) : String :=
  match error.reason with
  | .invalidAddress => "InvalidAddress"
  | .conflict _ => "InvalidType"

/-- A malformed pattern is a fault of the request. -/
def fault (_ : PatternError) : Fault := .invalidArgument

end PatternError

/-- The first of several patterns that is refused, counted from a position. -/
def firstFault? (position : Nat) : List Pattern → Option PatternError
  | [] => none
  | pattern :: rest =>
    match pattern.fault? with
    | some reason => some ⟨position, reason⟩
    | none => firstFault? (position + 1) rest

end SemanticNetwork
