/-
**Addresses.** Every element of the network is known by an address, a number that is handed out
once and never again. Zero denotes no element.

* `Address.isValid`: the address is not the reserved one;
* `Address.text`: how messages spell an address.
-/

namespace SemanticNetwork

/-- A handle on an element of the network. -/
structure Address where
  value : Nat
  deriving DecidableEq, Repr

namespace Address

/-- The address that denotes no element. -/
def invalid : Address := ⟨0⟩

instance : Inhabited Address := ⟨invalid⟩

/-- Addresses are ordered as they are handed out. -/
instance : LT Address := ⟨fun first second => first.value < second.value⟩

instance (first second : Address) : Decidable (first < second) :=
  inferInstanceAs (Decidable (first.value < second.value))

theorem lt_def (first second : Address) : first < second ↔ first.value < second.value := Iff.rfl

theorem ext_value {first second : Address} (same : first.value = second.value) :
    first = second := by
  cases first; cases second; simp_all

/-- Whether the address can denote an element. -/
def isValid (address : Address) : Bool := address.value != 0

/-- A number sign and the number; the reserved address is spelled out. -/
def text (address : Address) : String :=
  if address.isValid then "#" ++ toString address.value else "#invalid"

/-- Addresses travel as 64-bit numbers. -/
def wireBound : Nat := Nat.pow 2 64

end Address

end SemanticNetwork
