/-
**How a number is spelled.** A finite number is written as a numeral: its shortest decimal, with every
digit at its position or with one digit before the point and an exponent. The numeral is proper, which
takes no more than that the shortest decimal of a number is zero only for zero.

* `Binary64.numeral`: the numeral of a number;
* `Binary64.isProper_numeral`: **it is made of digits**, with none missing and none too many;
* `Binary64.toList_spell_wire`: **it is how a finite number is written.**
-/
import SemanticNetwork.Binary64.Text
import SemanticNetwork.Proofs.Wire.Scanning

namespace SemanticNetwork

open Wire (Numeral IsDigits isDigits_toDigits)

namespace Decimal

variable {decimal : Decimal} {negative : Bool}

/-- How many digits follow the point where every digit is at its position. -/
def places (decimal : Decimal) : Nat := (-decimal.exponent).toNat

/-- A decimal with every digit at its position. -/
def positionalNumeral (decimal : Decimal) (negative : Bool) : Numeral :=
  if 0 ≤ decimal.exponent then
    ⟨negative, decimal.digitChars ++ List.replicate decimal.exponent.toNat '0', ['0'], none⟩
  else if decimal.places < decimal.digitChars.length then
    ⟨negative, decimal.digitChars.take (decimal.digitChars.length - decimal.places),
      decimal.digitChars.drop (decimal.digitChars.length - decimal.places), none⟩
  else
    ⟨negative, ['0'], List.replicate (decimal.places - decimal.digitChars.length) '0' ++
      decimal.digitChars, none⟩

/-- A decimal with one digit before the point. -/
def scientificNumeral (decimal : Decimal) (negative : Bool) : Numeral :=
  ⟨negative, decimal.digitChars.take 1, decimal.digitChars.drop 1, some decimal.leadingExponent⟩

theorem isDigits_zeros (count : Nat) : IsDigits (List.replicate count '0') := by
  intro char member
  rw [(List.mem_replicate.1 member).2]
  decide

theorem isDigits_append {first second : List Char} (digits : IsDigits first)
    (more : IsDigits second) : IsDigits (first ++ second) := by
  intro char member
  exact (List.mem_append.1 member).elim (digits char) (more char)

/-- The digits of a decimal that is not zero do not start with a zero. -/
theorem exists_digitChars_eq (nonzero : decimal.digits ≠ 0) : ∃ first others,
    decimal.digitChars = first :: others ∧ first ≠ '0' := by
  obtain ⟨first, others, shape⟩ := List.exists_cons_of_ne_nil
    (show decimal.digitChars ≠ [] from Nat.toDigits_ne_nil)
  refine ⟨first, others, shape, ?_⟩
  rintro rfl
  exact Wire.head?_toDigits (Nat.pos_of_ne_zero nonzero)
    (show decimal.digitChars.head? = some '0' by rw [shape]; rfl)

theorem isDigits_digitChars (decimal : Decimal) : IsDigits decimal.digitChars :=
  isDigits_toDigits decimal.digits

/-- A decimal that is not zero has proper numerals. -/
theorem isProper_positionalNumeral (nonzero : decimal.digits ≠ 0) :
    (decimal.positionalNumeral negative).IsProper := by
  obtain ⟨first, others, shape, leading⟩ := exists_digitChars_eq nonzero
  have digits := isDigits_digitChars decimal
  unfold positionalNumeral
  split_ifs with whole mixed
  · refine ⟨isDigits_append digits (isDigits_zeros _), isDigits_zeros 1, by simp [shape], ?_⟩
    simp [shape, leading]
  · obtain ⟨more, count⟩ := Nat.exists_eq_succ_of_ne_zero (Nat.sub_ne_zero_of_lt mixed)
    have front : decimal.digitChars.take (decimal.digitChars.length - decimal.places) =
        first :: others.take more := by
      rw [count, shape]
      rfl
    refine ⟨fun char member => digits char (List.mem_of_mem_take member),
      fun char member => digits char (List.mem_of_mem_drop member), ?_, ?_⟩
    · simp [front]
    · simp [front, leading]
  · exact ⟨isDigits_zeros 1, isDigits_append (isDigits_zeros _) digits, by simp, fun _ => rfl⟩

theorem isProper_scientificNumeral (nonzero : decimal.digits ≠ 0) :
    (decimal.scientificNumeral negative).IsProper := by
  obtain ⟨first, others, shape, leading⟩ := exists_digitChars_eq nonzero
  have digits := isDigits_digitChars decimal
  refine ⟨fun char member => digits char (List.mem_of_mem_take member),
    fun char member => digits char (List.mem_of_mem_drop member), ?_, ?_⟩
  · simp [scientificNumeral, shape]
  · simp [scientificNumeral, shape, leading]

theorem positional_eq (ending : String) : decimal.positional ending =
    if 0 ≤ decimal.exponent then
      String.ofList (decimal.digitChars ++ List.replicate decimal.exponent.toNat '0') ++ ending
    else if decimal.places < decimal.digitChars.length then
      String.ofList (decimal.digitChars.take (decimal.digitChars.length - decimal.places) ++
        '.' :: decimal.digitChars.drop (decimal.digitChars.length - decimal.places))
    else
      String.ofList ('0' :: '.' ::
        (List.replicate (decimal.places - decimal.digitChars.length) '0' ++ decimal.digitChars)) :=
  rfl

/-- Some digits follow the point where the exponent is negative. -/
theorem drop_digitChars_ne_nil (downwards : ¬ 0 ≤ decimal.exponent) :
    decimal.digitChars.drop (decimal.digitChars.length - decimal.places) ≠ [] := by
  have some_ : 0 < decimal.digitChars.length := Nat.length_toDigits_pos
  rw [ne_eq, List.drop_eq_nil_iff]
  simp only [places]
  omega

/-- A decimal is spelled by its numerals. -/
theorem spelling_positionalNumeral : (decimal.positionalNumeral negative).spelling =
    (if negative then ['-'] else []) ++ (decimal.positional ".0").toList := by
  rw [positional_eq, positionalNumeral]
  by_cases whole : 0 ≤ decimal.exponent
  · rw [if_pos whole, if_pos whole]
    simp [Numeral.spelling, Numeral.fractionChars_eq, Numeral.exponentChars]
  · rw [if_neg whole, if_neg whole]
    by_cases mixed : decimal.places < decimal.digitChars.length
    · have fraction := Numeral.fractionChars_eq (drop_digitChars_ne_nil whole)
      rw [if_pos mixed, if_pos mixed]
      simp [Numeral.spelling, fraction, Numeral.exponentChars]
    · have nonempty : decimal.digitChars ≠ [] := Nat.toDigits_ne_nil
      rw [if_neg mixed, if_neg mixed]
      simp [Numeral.spelling, Numeral.fractionChars_eq, nonempty, Numeral.exponentChars]

theorem spelling_scientificNumeral : (decimal.scientificNumeral negative).spelling =
    (if negative then ['-'] else []) ++ decimal.scientific.toList := by
  have fraction : Numeral.fractionChars (decimal.digitChars.drop 1) =
      if decimal.digitChars.length ≤ 1 then [] else '.' :: decimal.digitChars.drop 1 := by
    split_ifs with one
    · rw [List.drop_eq_nil_iff.2 one]
      rfl
    · exact Numeral.fractionChars_eq fun none => one (List.drop_eq_nil_iff.1 none)
  have mark : (if decimal.leadingExponent < 0 then "e-" else "e+").toList =
      ['e', if decimal.leadingExponent < 0 then '-' else '+'] := by
    split_ifs <;> rfl
  simp only [scientificNumeral, Numeral.spelling, fraction, Numeral.exponentChars, scientific]
  cases negative <;> simp [mark, Nat.toList_repr]

end Decimal

namespace Binary64

variable {number : Binary64}

/-- The numeral of a number that is finite. -/
def numeral (number : Binary64) : Numeral :=
  if number.isZero then ⟨number.isNegative, ['0'], ['0'], none⟩
  else
    let decimal := number.shortest .even
    if NumberStyle.wire.isPositional decimal.leadingExponent then
      decimal.positionalNumeral number.isNegative
    else decimal.scientificNumeral number.isNegative

/-- Only zero has no units. -/
theorem units_ne_zero (nonzero : number.isZero = false) : number.units ≠ 0 := by
  have ordinal : number.ordinal ≠ 0 := beq_eq_false_iff_ne.1 nonzero
  unfold units unitsAt
  split
  · exact ordinal
  · have significand : 0 < fractionCount + number.ordinal % fractionCount :=
      Nat.add_pos_left (by decide) _
    exact Nat.mul_ne_zero (Nat.ne_of_gt significand) (Nat.ne_of_gt (Nat.pow_pos Nat.two_pos))

/-- Nothing is nearest to nothing. -/
theorem isZero_ofRatio_zero (negative : Bool) (denominator : Nat) :
    (ofRatio negative 0 denominator).isZero = true := by
  have nothing : ofRatio negative 0 denominator = ofOrdinal negative 0 := by
    simp [ofRatio, nearestOrdinal, roundHalfEven]
  rw [nothing]
  cases negative <;> decide

/-- What is found on a grid reads back as the number. -/
theorem toBinary64_of_decimalOn? {tie : Tie} {decimal : Decimal} {exponent : Int}
    (found : decimalOn? tie number exponent = some decimal) :
    decimal.toBinary64 number.isNegative = number := by
  have back := List.find?_some found
  exact beq_iff_eq.1 back

/-- The shortest decimal is zero only for zero. -/
theorem digits_shortest (tie : Tie) (nonzero : number.isZero = false) :
    (number.shortest tie).digits ≠ 0 := by
  unfold shortest
  cases found : grids.findSome? (decimalOn? tie number) with
  | some decimal =>
    intro zero
    obtain ⟨exponent, -, on⟩ := List.exists_of_findSome?_eq_some found
    have back := toBinary64_of_decimalOn? on
    rw [Decimal.toBinary64, show decimal.digits = 0 from zero, Nat.zero_mul] at back
    rw [← back, isZero_ofRatio_zero] at nonzero
    cases nonzero
  | none =>
    -- The exponent is made a variable, so that the power is never written out.
    rw [Option.getD_none]
    generalize 1074 = places
    exact Nat.mul_ne_zero (units_ne_zero nonzero) (Nat.ne_of_gt (Nat.pow_pos (Nat.succ_pos 4)))

/-- The numeral of a number and its spelling are made in the same way. -/
theorem numeral_cases (number : Binary64) :
    (number.isZero = true ∧ number.numeral = ⟨number.isNegative, ['0'], ['0'], none⟩ ∧
      number.spellMagnitude .wire = "0.0") ∨
    (number.isZero = false ∧
      number.numeral = (number.shortest .even).positionalNumeral number.isNegative ∧
      number.spellMagnitude .wire = (number.shortest .even).positional ".0") ∨
    (number.isZero = false ∧
      number.numeral = (number.shortest .even).scientificNumeral number.isNegative ∧
      number.spellMagnitude .wire = (number.shortest .even).scientific) := by
  unfold numeral spellMagnitude
  rw [show NumberStyle.wire.tie = .even from rfl]
  generalize number.shortest .even = decimal
  cases number.isZero with
  | true => exact .inl ⟨rfl, rfl, rfl⟩
  | false =>
    cases positional : NumberStyle.wire.isPositional decimal.leadingExponent with
    | true => exact .inr (.inl ⟨rfl, by simp [positional], by simp [positional]; rfl⟩)
    | false => exact .inr (.inr ⟨rfl, by simp [positional], by simp [positional]⟩)

/-- **The numeral of a number is proper.** -/
theorem isProper_numeral (number : Binary64) : number.numeral.IsProper := by
  rcases numeral_cases number with ⟨-, same, -⟩ | ⟨nonzero, same, -⟩ | ⟨nonzero, same, -⟩
  · rw [same]
    exact ⟨Decimal.isDigits_zeros 1, Decimal.isDigits_zeros 1, by simp, fun _ => rfl⟩
  · rw [same]
    exact Decimal.isProper_positionalNumeral (digits_shortest .even nonzero)
  · rw [same]
    exact Decimal.isProper_scientificNumeral (digits_shortest .even nonzero)

/-- **A finite number is spelled by its numeral.** -/
theorem toList_spell_wire (finite : number.isFinite = true) :
    (number.spell .wire).toList = number.numeral.spelling := by
  have sane : number.isNaN = false := by
    simp only [isNaN, isFinite, decide_eq_true_eq, decide_eq_false_iff_not] at finite ⊢
    omega
  have sign : (if number.isNegative = true then "-" else "").toList =
      if number.isNegative = true then ['-'] else [] := by
    cases number.isNegative <;> rfl
  rw [spell, sane, if_neg (by decide), if_pos finite, String.toList_append, sign]
  rcases numeral_cases number with ⟨-, same, spelled⟩ | ⟨-, same, spelled⟩ | ⟨-, same, spelled⟩
  · rw [same, spelled]
    rfl
  · rw [same, spelled, Decimal.spelling_positionalNumeral]
  · rw [same, spelled, Decimal.spelling_scientificNumeral]

end Binary64

end SemanticNetwork
