/-
**How numbers are spelled.** The digits are those of the shortest decimal; a style says which
decimal exponents are written out by position, how a whole number ends, and what stands for the
values that are not finite.

* `NumberStyle.plain`: positional at every size, for readers;
* `NumberStyle.wire`: positional near one and with an exponent elsewhere, for transport.
-/
import SemanticNetwork.Binary64.Decimal

namespace SemanticNetwork

/-- The decisions a format takes when it spells a number. -/
structure NumberStyle where
  /-- Which of two equally near shortest decimals is written. -/
  tie : Tie
  /-- Whether a number whose first digit has this decimal exponent is written by position. -/
  isPositional : Int → Bool
  /-- What follows a whole number. -/
  wholeEnding : String
  /-- What stands for no number. -/
  undefined : String
  /-- What stands for infinity, negative or not. -/
  infinite : Bool → String

namespace Decimal

/-- The digits, without leading zeros. -/
def digitChars (decimal : Decimal) : List Char := Nat.toDigits 10 decimal.digits

/-- The decimal exponent of the first digit. -/
def leadingExponent (decimal : Decimal) : Int :=
  decimal.exponent + decimal.digitChars.length - 1

/-- Every digit at its position. -/
def positional (decimal : Decimal) (wholeEnding : String) : String :=
  let digits := decimal.digitChars
  let places := (-decimal.exponent).toNat
  if 0 ≤ decimal.exponent then
    String.ofList (digits ++ List.replicate decimal.exponent.toNat '0') ++ wholeEnding
  else if places < digits.length then
    String.ofList (digits.take (digits.length - places) ++ '.' ::
      digits.drop (digits.length - places))
  else String.ofList ('0' :: '.' :: (List.replicate (places - digits.length) '0' ++ digits))

/-- One digit before the point, and the exponent with its sign. -/
def scientific (decimal : Decimal) : String :=
  let digits := decimal.digitChars
  let exponent := decimal.leadingExponent
  let fraction := if digits.length ≤ 1 then [] else '.' :: digits.drop 1
  let mark := if exponent < 0 then "e-" else "e+"
  String.ofList (digits.take 1 ++ fraction) ++ mark ++ toString exponent.natAbs

end Decimal

namespace Binary64

/-- The spelling of a magnitude. -/
def spellMagnitude (style : NumberStyle) (number : Binary64) : String :=
  if number.isZero then "0" ++ style.wholeEnding
  else
    let decimal := number.shortest style.tie
    if style.isPositional decimal.leadingExponent then decimal.positional style.wholeEnding
    else decimal.scientific

/-- The spelling of a number in a style. -/
def spell (style : NumberStyle) (number : Binary64) : String :=
  if number.isNaN then style.undefined
  else if number.isFinite then
    (if number.isNegative then "-" else "") ++ number.spellMagnitude style
  else style.infinite number.isNegative

end Binary64

namespace NumberStyle

/-- Positional at every size; of two equally near decimals the upper one. -/
def plain : NumberStyle where
  tie := .up
  isPositional := fun _ => true
  wholeEnding := ""
  undefined := "NaN"
  infinite := fun negative => if negative then "-inf" else "inf"

/-- Positional from five places after the point to sixteen digits before it, and always with a
point or an exponent; what is not finite has no spelling of its own. -/
def wire : NumberStyle where
  tie := .even
  isPositional := fun exponent => -5 ≤ exponent && exponent ≤ 15
  wholeEnding := ".0"
  undefined := "null"
  infinite := fun _ => "null"

end NumberStyle

end SemanticNetwork
