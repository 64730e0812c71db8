/-
**Values on the wire.** What a JSON document says, before it is read as something of the network.
Numbers keep their digits, because a whole number and a fraction are read by different rules; a
text whose escapes do not spell Unicode has no content and can only be skipped.

* `Wire.Number.isWhole`: a number written without fraction and exponent;
* `Wire.Number.toInt?`: its value, where the written form is the form of an integer;
* `Wire.Number.toBinary64?`: the double-precision number that a written number is read as.
-/
import SemanticNetwork.Binary64.Basic

namespace SemanticNetwork.Wire

/-- A number as it is written: its digits before and after the point, and its exponent. -/
structure Number where
  negative : Bool
  whole : List Nat
  fraction : List Nat
  exponent : Option Int
  deriving DecidableEq, Repr

/-- What a document says. -/
inductive Value where
  | null
  | bool (flag : Bool)
  | number (number : Number)
  | text (content : Option String)
  | array (items : List Value)
  | object (members : List (Option String × Value))
  deriving Repr

namespace Number

/-- Whether the number is written without fraction and exponent. -/
def isWhole (number : Number) : Bool := number.fraction.isEmpty && number.exponent.isNone

/-- The value of digits, the most significant first. -/
def valueOf (digits : List Nat) : Nat := digits.foldl (fun value digit => 10 * value + digit) 0

/-- The integer a whole number is; a negative zero is not an integer. -/
def toInt? (number : Number) : Option Int :=
  if number.isWhole then
    match number.negative, valueOf number.whole with
    | true, 0 => none
    | true, value => some (-value)
    | false, value => some value
  else none

/-! ### Reading as double precision

The leading digits are taken exactly as far as 64 bits hold them, are rounded, and are then
multiplied or divided by the power of ten, which rounds a second time. -/

/-- The largest significand. -/
def significandLimit : Nat := Nat.pow 2 64 - 1

/-- Take whole digits as long as the significand holds them; the others only count. -/
def takeWhole (significand : Nat) : List Nat → Nat × Nat
  | [] => (significand, 0)
  | digit :: rest =>
    if 10 * significand + digit ≤ significandLimit then takeWhole (10 * significand + digit) rest
    else (significand, rest.length + 1)

/-- Take digits after the point as long as the significand holds them; the others are dropped. -/
def takeFraction (significand : Nat) : List Nat → Nat × Nat
  | [] => (significand, 0)
  | digit :: rest =>
    if 10 * significand + digit ≤ significandLimit then
      let (taken, count) := takeFraction (10 * significand + digit) rest
      (taken, count + 1)
    else (significand, 0)

/-- The largest power of ten that is finite. -/
def largestPower : Nat := 308

/-- The number nearest to a power of ten. -/
def powerOfTen (exponent : Nat) : Binary64 := .ofNat false (Nat.pow 10 exponent)

/-- Multiply by a power of ten, in steps that stay finite; a result that is too large has no
value. -/
def scale (value : Binary64) (exponent : Int) : Option Binary64 :=
  if exponent.natAbs ≤ largestPower then
    if 0 ≤ exponent then
      let product := value.mul (powerOfTen exponent.natAbs)
      if product.isFinite then some product else none
    else some (value.div (powerOfTen exponent.natAbs))
  else if value.isZero then some value
  else if 0 ≤ exponent then none
  else scale (value.div (powerOfTen largestPower)) (exponent + largestPower)
termination_by exponent.natAbs
decreasing_by simp only [largestPower] at *; omega

/-- The double-precision number that a written number is read as. -/
def toBinary64? (number : Number) : Option Binary64 := do
  let (leading, skipped) := takeWhole 0 number.whole
  let (significand, places) := takeFraction leading number.fraction
  let exponent := (skipped : Int) - places + number.exponent.getD 0
  let magnitude ← scale (.ofNat false significand) exponent
  return if number.negative then magnitude.negate else magnitude

end Number

end SemanticNetwork.Wire
