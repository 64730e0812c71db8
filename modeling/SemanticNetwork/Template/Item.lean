/-
**Template items.** What is written at a position of a template: an element, a type, or the name of
another position, and with it a name for this position.
-/
import SemanticNetwork.Address
import SemanticNetwork.ElementType.Basic

namespace SemanticNetwork.Template

/-- What a position asks for. -/
inductive Item.Value where
  | fixed (address : Address)
  | typed (type : ElementType)
  | reference (name : String)
  deriving DecidableEq, Repr

/-- What is written at a position, with the name it gives to the position. -/
structure Item where
  value : Item.Value
  name? : Option String
  deriving DecidableEq, Repr

namespace Item

/-- A position for one element. -/
def fixed (address : Address) : Item := ⟨.fixed address, none⟩

/-- A position for any element of a type. -/
def typed (type : ElementType) : Item := ⟨.typed type, none⟩

/-- A position for what stands at a named one. -/
def reference (name : String) : Item := ⟨.reference name, none⟩

/-- The same position under a name. -/
def named (item : Item) (name : String) : Item := { item with name? := some name }

end Item

end SemanticNetwork.Template
