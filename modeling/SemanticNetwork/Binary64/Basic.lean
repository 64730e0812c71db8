/-
**Double-precision numbers.** A number is its 64 bits: a sign, an exponent field and a fraction.
Without the sign the bits count the magnitudes from zero upwards (`ordinal`), infinity follows the
largest finite one, and what lies above infinity is no number. Every finite magnitude is a whole
multiple of the smallest one (`units`), so arithmetic is exact on natural numbers and is rounded
once, to the nearest magnitude, a tie to the even ordinal (`nearestOrdinal`).

* `Binary64.sameValue`: equality of numbers, which is not equality of bits;
* `Binary64.ofRatio`: the number nearest to a quotient;
* `Binary64.mul`, `Binary64.div`: correctly rounded products and quotients.
-/
namespace SemanticNetwork

/-- A double-precision number, known by its bits. -/
structure Binary64 where
  bits : UInt64
  deriving DecidableEq, Repr

namespace Binary64

/-- The position of the sign. -/
def signWeight : Nat := Nat.pow 2 63

/-- The number of fractions that share an exponent. -/
def fractionCount : Nat := Nat.pow 2 52

/-- The ordinal of infinity. -/
def infinityOrdinal : Nat := 2047 * fractionCount

/-- The number of smallest magnitudes that make one. -/
def unitsPerOne : Nat := Nat.pow 2 1074

/-- Whether the sign is set. -/
def isNegative (number : Binary64) : Bool := signWeight ≤ number.bits.toNat

/-- The position of the magnitude among all magnitudes. -/
def ordinal (number : Binary64) : Nat := number.bits.toNat % signWeight

/-- Whether the bits denote no number. -/
def isNaN (number : Binary64) : Bool := infinityOrdinal < number.ordinal

/-- Whether the bits denote a finite number. -/
def isFinite (number : Binary64) : Bool := number.ordinal < infinityOrdinal

/-- Whether the number is zero, of either sign. -/
def isZero (number : Binary64) : Bool := number.ordinal == 0

/-- The number with a sign and the magnitude at a position; beyond the last it is infinite. -/
def ofOrdinal (negative : Bool) (ordinal : Nat) : Binary64 :=
  ⟨UInt64.ofNat (min ordinal infinityOrdinal + if negative then signWeight else 0)⟩

/-- Equality of numbers: the two zeros are equal, and what is no number equals nothing. -/
def sameValue (first second : Binary64) : Bool :=
  !first.isNaN && !second.isNaN && (first == second || (first.isZero && second.isZero))

/-! ### Magnitudes as whole numbers -/

/-- The finite magnitude at a position, in smallest magnitudes. -/
def unitsAt (ordinal : Nat) : Nat :=
  if ordinal < fractionCount then ordinal
  else (fractionCount + ordinal % fractionCount) * Nat.pow 2 (ordinal / fractionCount - 1)

/-- The magnitude of a finite number, in smallest magnitudes. -/
def units (number : Binary64) : Nat := unitsAt number.ordinal

/-- The nearest whole number to a quotient; a tie goes to the even one. -/
def roundHalfEven (numerator denominator : Nat) : Nat :=
  let below := numerator / denominator
  let twice := 2 * (numerator % denominator)
  if twice < denominator then below
  else if denominator < twice then below + 1
  else below + below % 2

/-- The position of the magnitude nearest to a quotient of smallest magnitudes; a tie goes to the
even position. The grid of magnitudes is uniform between two powers of two, so the quotient is
rounded on the grid of its own binade. -/
def nearestOrdinal (numerator denominator : Nat) : Nat :=
  let binade := Nat.log2 (numerator / denominator) - 52
  roundHalfEven numerator (denominator * Nat.pow 2 binade) + binade * fractionCount

/-! ### Arithmetic -/

/-- The number nearest to a quotient. -/
def ofRatio (negative : Bool) (numerator denominator : Nat) : Binary64 :=
  ofOrdinal negative (nearestOrdinal (numerator * unitsPerOne) denominator)

/-- The number nearest to a whole number. -/
def ofNat (negative : Bool) (number : Nat) : Binary64 := ofRatio negative number 1

/-- The product of two finite numbers, rounded. -/
def mul (first second : Binary64) : Binary64 :=
  ofOrdinal (first.isNegative != second.isNegative)
    (nearestOrdinal (first.units * second.units) unitsPerOne)

/-- The quotient of two finite numbers, rounded. -/
def div (first second : Binary64) : Binary64 :=
  ofOrdinal (first.isNegative != second.isNegative)
    (nearestOrdinal (first.units * unitsPerOne) second.units)

/-- The number with the other sign. -/
def negate (number : Binary64) : Binary64 := ofOrdinal (!number.isNegative) number.ordinal

end Binary64

end SemanticNetwork
