/-
**A library of the wire.** Documents are JSON without blanks. An alternative is an object with one
member, named for the alternative, and bytes are an array of numbers. A number that is not finite has
no written form of its own and is written as `null`.

* `Wire.json`: the library that the network runs with.
-/
import SemanticNetwork.Binary64.Text
import SemanticNetwork.Wire.Decode
import SemanticNetwork.Wire.Library
import SemanticNetwork.Wire.Print

namespace SemanticNetwork.Wire

/-- A byte on the wire. -/
def Value.byte? (value : Value) : Option UInt8 := (value.nat? 256).map UInt8.ofNat

/-- The name of an alternative that carries something, and what it carries. -/
def Value.carrier? (value : Value) : Option (String × Value) := do
  let (name, content) ← value.variant?
  return (name, ← content)

/-- The library that reads and writes JSON. -/
def json : Library where
  Value := Value
  parse? := Value.parse?
  tag name content := printObject [(name, content)]
  untag? := Value.carrier?
  int := ⟨fun value => toString value.toInt, Value.int64?⟩
  real := ⟨Binary64.spell .wire, Value.binary64?⟩
  text := ⟨quote, Value.text?⟩
  bytes := ⟨fun value => printArray (value.map fun byte => toString byte.toNat),
    Value.list? Value.byte?⟩

end SemanticNetwork.Wire
