/-
**Typed reading of wire values.** A reader takes a value of the wire as one of the network's types
and refuses every other value.

* `Wire.Value.nat?`, `Wire.Value.int?`: whole numbers of a range;
* `Wire.Value.record?`: the named fields of a record, written as an object or as an array;
* `Wire.Value.variant?`: the name of an alternative, with what it carries.
-/
import SemanticNetwork.Wire.Parse

namespace SemanticNetwork.Wire.Value

/-- A whole number. -/
def int? : Value → Option Int
  | .number written => written.toInt?
  | _ => none

/-- A whole number from zero up to a bound, which is excluded. -/
def nat? (bound : Nat) (value : Value) : Option Nat := do
  let number ← value.int?
  if 0 ≤ number ∧ number < bound then some number.toNat else none

/-- A signed whole number of 64 bits. -/
def int64? (value : Value) : Option Int64 := do
  let number ← value.int?
  let bound := Int.ofNat (Nat.pow 2 63)
  if -bound ≤ number ∧ number < bound then some (Int64.ofInt number) else none

/-- A double-precision number. -/
def binary64? : Value → Option Binary64
  | .number written => written.toBinary64?
  | _ => none

/-- A text. -/
def text? : Value → Option String
  | .text content => content
  | _ => none

/-- A list, each of whose items can be read. -/
def list? {α : Type} (item? : Value → Option α) : Value → Option (List α)
  | .array items => items.mapM item?
  | _ => none

/-- The value of a named member, where no two members have that name. -/
def member? (members : List (Option String × Value)) (name : String) : Option (Option Value) :=
  match members.filter fun member => member.1 == some name with
  | [] => some none
  | [member] => some (some member.2)
  | _ => none

/-- The fields of a record in the order of their names, none for a field that is not given. An
object names its fields and may have others, an array gives the first fields by position. -/
def record? (names : List String) : Value → Option (List (Option Value))
  | .object members =>
    if members.all fun member => member.1.isSome then names.mapM (member? members) else none
  | .array items =>
    if items.length ≤ names.length then
      some (items.map some ++ List.replicate (names.length - items.length) none)
    else none
  | _ => none

/-- The name of an alternative and what it carries. -/
def variant? : Value → Option (String × Option Value)
  | .text (some name) => some (name, none)
  | .object [(some name, value)] => some (name, some value)
  | _ => none

/-- The name of an alternative that carries nothing. -/
def plainVariant? (value : Value) : Option String :=
  match value.variant? with
  | some (name, none) => some name
  | some (name, some .null) => some name
  | _ => none

end SemanticNetwork.Wire.Value
