/-
**Shortest decimals.** A decimal is a whole number of steps on a grid of a power of ten. The
shortest decimal of a number lies on the coarsest grid that has a point which reads back as the
number; of the two points around the number the nearer is taken, and a tie is the caller's choice.

* `Decimal.toBinary64`: the number nearest to a decimal;
* `Binary64.shortest`: the shortest decimal of a finite number.
-/
import SemanticNetwork.Binary64.Basic

namespace SemanticNetwork

/-- A whole number times a power of ten. -/
structure Decimal where
  digits : Nat
  exponent : Int
  deriving DecidableEq, Repr

/-- Which of two equally near decimals is taken. -/
inductive Tie where
  | up
  | even
  deriving DecidableEq, Repr

/-- The number nearest to a decimal. -/
def Decimal.toBinary64 (decimal : Decimal) (negative : Bool) : Binary64 :=
  .ofRatio negative (decimal.digits * Nat.pow 10 decimal.exponent.toNat)
    (Nat.pow 10 (-decimal.exponent).toNat)

namespace Binary64

/-- The points around a magnitude on the grid of a power of ten, the nearer one first. -/
def neighbours (tie : Tie) (units : Nat) (exponent : Int) : List Nat :=
  let numerator := units * Nat.pow 10 (-exponent).toNat
  let denominator := unitsPerOne * Nat.pow 10 exponent.toNat
  let below := numerator / denominator
  let twice := 2 * (numerator % denominator)
  let downwards := twice < denominator ∨ (twice = denominator ∧ tie = .even ∧ below % 2 = 0)
  if twice = 0 then [below]
  else if downwards then [below, below + 1]
  else [below + 1, below]

/-- Every power of ten that can be the grid of a finite number, the coarsest first. -/
def grids : List Int := (List.range 1384).map fun (step : Nat) => 309 - (step : Int)

/-- The nearest point of a grid that reads back as a number. -/
def decimalOn? (tie : Tie) (number : Binary64) (exponent : Int) : Option Decimal :=
  ((neighbours tie number.units exponent).map (Decimal.mk · exponent)).find? fun decimal =>
    decimal.toBinary64 number.isNegative == number

/-- The decimal of fewest digits that reads back as a finite number, and the nearest of those. -/
def shortest (tie : Tie) (number : Binary64) : Decimal :=
  (grids.findSome? (decimalOn? tie number)).getD ⟨number.units * Nat.pow 5 1074, -1074⟩

end Binary64

end SemanticNetwork
