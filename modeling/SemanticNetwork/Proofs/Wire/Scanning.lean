/-
**What is written is scanned.** A text between quotes is scanned to its closing quote, escape by
escape, and its units are its characters again. A numeral is scanned to its end if nothing follows
that could belong to it, into its sign, its digits and its exponent.

* `scanText_escaped`, `joinUnits_map_char`: **a quoted text is scanned as the text**;
* `Numeral`, `Numeral.spelling`: how a number is written;
* `Numeral.scanNumber_spelling`: **a numeral is scanned as its number**;
* `digitValues_toDigits`: the digits of a whole number have its value.
-/
import Mathlib.Tactic.SplitIfs
import SemanticNetwork.Wire.Print
import SemanticNetwork.Wire.Token

namespace SemanticNetwork.Wire

variable {char : Char} {chars rest : List Char}

/-! ### Texts -/

/-- A control character is the value of the two digits that are written for it. -/
theorem hexUnit?_control (control : char < ' ') :
    hexUnit? '0' '0' (hexChar (char.toNat / 16)) (hexChar (char.toNat % 16)) = some (.char char) := by
  have all : ∀ code < 32, hexUnit? '0' '0' (hexChar (code / 16)) (hexChar (code % 16)) =
      some (.char (Char.ofNat code)) := by
    decide +kernel
  have small : char.toNat < 32 := control
  rw [all _ small, Char.ofNat_toNat]

/-- A character that is written without an escape is scanned as it is. -/
theorem scanText_plain (quote : char ≠ '"') (backslash : char ≠ '\\') (printable : ¬ char < ' ') :
    scanText (char :: rest) =
      (scanText rest).map fun (units, after) => (.char char :: units, after) := by
  rw [scanText.eq_def]
  split
  · simp_all
  · simp_all
  · simp_all
  · simp_all
  · rename_i same
    cases same
    rw [if_neg (by simp [backslash, printable])]
    cases scanText _ <;> rfl

/-- An escape of one letter is scanned as the character that it stands for. -/
theorem scanText_short {escape : Char} (letter : escape ≠ 'u')
    (stands : shortEscape? escape = some char) : scanText ('\\' :: escape :: rest) =
      (scanText rest).map fun (units, after) => (.char char :: units, after) := by
  rw [scanText.eq_def]
  split
  · simp_all
  · simp_all
  · simp_all
  · rename_i same
    cases same
    rw [stands]
    cases scanText _ <;> rfl
  · rename_i plain same
    cases same
    exact (plain _ _ rfl rfl).elim

/-- **What is written for a character is scanned as the character.** -/
theorem scanText_escapeChar : scanText (escapeChar char ++ rest) =
    (scanText rest).map fun (units, after) => (.char char :: units, after) := by
  unfold escapeChar
  split_ifs with quote backslash backspace feed newline carriage tab control
  · exact scanText_short (by decide) (by rw [quote]; rfl)
  · exact scanText_short (by decide) (by rw [backslash]; rfl)
  · exact scanText_short (by decide) (by rw [backspace]; rfl)
  · exact scanText_short (by decide) (by rw [feed]; rfl)
  · exact scanText_short (by decide) (by rw [newline]; rfl)
  · exact scanText_short (by decide) (by rw [carriage]; rfl)
  · exact scanText_short (by decide) (by rw [tab]; rfl)
  · simp only [List.cons_append, List.nil_append, scanText, hexUnit?_control control]
    cases scanText rest <;> rfl
  · exact scanText_plain quote backslash control

/-- **The characters of a quoted text are scanned up to the closing quote.** -/
theorem scanText_escaped : scanText (chars.flatMap escapeChar ++ '"' :: rest) =
    some (chars.map .char, rest) := by
  induction chars with
  | nil => simp [scanText]
  | cons char chars hypothesis =>
    rw [List.flatMap_cons, List.append_assoc, scanText_escapeChar, hypothesis]
    rfl

/-- Characters spell themselves. -/
theorem joinUnits_map_char : joinUnits (chars.map .char) = some chars := by
  induction chars with
  | nil => rfl
  | cons char chars hypothesis => simp [joinUnits, hypothesis]

/-! ### Digits -/

/-- Characters of which each is a digit. -/
def IsDigits (chars : List Char) : Prop := ∀ char ∈ chars, isDigit char = true

/-- The values of digits. -/
def digitValues (chars : List Char) : List Nat := chars.map fun char => char.toNat - '0'.toNat

/-- What follows does not go on with digits. -/
def EndsDigits (rest : List Char) : Prop := ∀ char ∈ rest.head?, isDigit char = false

/-- What follows goes on with no part of a number. -/
def EndsNumber (rest : List Char) : Prop :=
  ∀ char ∈ rest.head?, isDigit char = false ∧ char ≠ '.' ∧ char ≠ 'e' ∧ char ≠ 'E'

theorem EndsNumber.endsDigits (ends : EndsNumber rest) : EndsDigits rest :=
  fun char first => (ends char first).1

/-- Digits are scanned as long as they go on. -/
theorem scanDigits_append (digits : IsDigits chars) (ends : EndsDigits rest) :
    scanDigits (chars ++ rest) = (digitValues chars, rest) := by
  have stops : rest.takeWhile isDigit = [] ∧ rest.dropWhile isDigit = rest := by
    cases rest with
    | nil => exact ⟨rfl, rfl⟩
    | cons char rest =>
      have last := ends char rfl
      simp [last]
  rw [scanDigits, List.takeWhile_append_of_pos digits, List.dropWhile_append_of_pos digits,
    stops.1, stops.2, List.append_nil]
  rfl

theorem isDigits_toDigits (value : Nat) : IsDigits (Nat.toDigits 10 value) := by
  intro char member
  have digit := Nat.isDigit_of_mem_toDigits (by decide) (by decide) member
  simpa [isDigit, Char.isDigit, Char.le_def] using digit

/-- **The digits of a whole number have its value.** -/
theorem digitValues_toDigits (value : Nat) :
    Number.valueOf (digitValues (Nat.toDigits 10 value)) = value := by
  induction value using Nat.strongRecOn with
  | ind value hypothesis =>
    by_cases small : value < 10
    · rw [Nat.toDigits_of_lt_base small]
      simpa [Number.valueOf, digitValues] using Nat.toNat_digitChar_sub_48_of_lt_ten small
    · have last : (value % 10).digitChar.toNat - '0'.toNat = value % 10 :=
        Nat.toNat_digitChar_sub_48_of_lt_ten (Nat.mod_lt _ (by decide))
      have shorter := hypothesis (value / 10) (by omega)
      simp only [Number.valueOf, digitValues] at shorter ⊢
      rw [Nat.toDigits_of_base_le (by decide) (by omega), List.map_append, List.foldl_append,
        shorter]
      simp only [List.map_cons, List.map_nil, List.foldl_cons, List.foldl_nil, last]
      omega

/-- The first digit of a whole number is zero only if the number is. -/
theorem head?_toDigits {value : Nat} (positive : 0 < value) :
    (Nat.toDigits 10 value).head? ≠ some '0' := by
  induction value using Nat.strongRecOn with
  | ind value hypothesis =>
    by_cases small : value < 10
    · rw [Nat.toDigits_of_lt_base small]
      simp
      omega
    · rw [Nat.toDigits_of_base_le (by decide) (by omega), List.head?_append]
      have nonempty : Nat.toDigits 10 (value / 10) ≠ [] := Nat.toDigits_ne_nil
      cases digits : Nat.toDigits 10 (value / 10) with
      | nil => exact absurd digits nonempty
      | cons first others =>
        have shorter := hypothesis (value / 10) (by omega) (by omega)
        rw [digits] at shorter
        simpa using shorter

/-! ### Numerals -/

/-- How a number is written: its sign, the digits before and after the point, and the exponent. -/
structure Numeral where
  negative : Bool
  whole : List Char
  fraction : List Char
  exponent : Option Int
  deriving DecidableEq

namespace Numeral

/-- The digits after the point, with the point. -/
def fractionChars : List Char → List Char
  | [] => []
  | fraction => '.' :: fraction

theorem fractionChars_eq {fraction : List Char} (nonempty : fraction ≠ []) :
    fractionChars fraction = '.' :: fraction := by
  cases fraction with
  | nil => exact absurd rfl nonempty
  | cons first others => rfl

/-- The exponent with its sign and its mark. -/
def exponentChars : Option Int → List Char
  | none => []
  | some exponent =>
    'e' :: (if exponent < 0 then '-' else '+') :: Nat.toDigits 10 exponent.natAbs

/-- The characters of a numeral. -/
def spelling (numeral : Numeral) : List Char :=
  (if numeral.negative then ['-'] else []) ++
    (numeral.whole ++ fractionChars numeral.fraction ++ exponentChars numeral.exponent)

/-- The number that is written. -/
def number (numeral : Numeral) : Number :=
  ⟨numeral.negative, digitValues numeral.whole, digitValues numeral.fraction, numeral.exponent⟩

/-- **A numeral is made of digits**, with no zero before other digits in front of the point. -/
structure IsProper (numeral : Numeral) : Prop where
  whole : IsDigits numeral.whole
  fraction : IsDigits numeral.fraction
  nonempty : numeral.whole ≠ []
  leading : numeral.whole.head? = some '0' → numeral.whole = ['0']

variable {numeral : Numeral}

/-- A numeral starts with a digit or with a minus sign. -/
theorem exists_spelling_eq (proper : numeral.IsProper) : ∃ first others,
    numeral.spelling = first :: others ∧ (isDigit first = true ∨ first = '-') := by
  unfold spelling
  cases numeral.negative with
  | true => exact ⟨'-', _, rfl, .inr rfl⟩
  | false =>
    obtain ⟨first, others, digits⟩ := List.exists_cons_of_ne_nil proper.nonempty
    exact ⟨first, _, by rw [digits]; rfl, .inl (proper.whole first (by simp [digits]))⟩

theorem scanWhole_append (proper : numeral.IsProper) (ends : EndsDigits rest) :
    scanWhole (numeral.whole ++ rest) = some (digitValues numeral.whole, rest) := by
  obtain ⟨whole, -, nonempty, leading⟩ := proper
  cases digits : numeral.whole with
  | nil => exact absurd digits nonempty
  | cons first others =>
    rw [digits] at leading whole
    by_cases zero : first = '0'
    · subst zero
      obtain rfl : others = [] := (List.cons.inj (leading rfl)).2
      rfl
    · have scanned := scanDigits_append whole ends
      rw [List.cons_append] at scanned ⊢
      rw [scanWhole.eq_def]
      split
      · rename_i same
        exact absurd (List.cons.inj same).1 zero
      · rw [scanned]
        rfl

theorem scanFraction_append {fraction : List Char} (digits : IsDigits fraction)
    (ends : EndsDigits rest) (point : rest.head? ≠ some '.') :
    scanFraction (fractionChars fraction ++ rest) = some (digitValues fraction, rest) := by
  cases fraction with
  | nil =>
    rw [scanFraction.eq_def]
    split
    · rename_i same
      rw [show rest = _ from same] at point
      exact absurd rfl point
    · rfl
  | cons first others =>
    have scanned := scanDigits_append digits ends
    show scanFraction ('.' :: (first :: others ++ rest)) = _
    rw [scanFraction, scanned]
    rfl

theorem scanExponent_append (exponent : Option Int) (ends : EndsNumber rest) :
    scanExponent (exponentChars exponent ++ rest) = some (exponent, rest) := by
  cases exponent with
  | none =>
    rw [scanExponent.eq_def]
    split
    · rename_i same
      rw [show rest = _ from same] at ends
      exact absurd rfl (ends _ rfl).2.2.1
    · rename_i same
      rw [show rest = _ from same] at ends
      exact absurd rfl (ends _ rfl).2.2.2
    · rfl
  | some exponent =>
    have scanned := scanDigits_append (isDigits_toDigits exponent.natAbs) ends.endsDigits
    have value := digitValues_toDigits exponent.natAbs
    obtain ⟨first, others, shape⟩ : ∃ first others,
        digitValues (Nat.toDigits 10 exponent.natAbs) = first :: others :=
      List.exists_cons_of_ne_nil (by simp [digitValues])
    have signed : scanSignedDigits ((if exponent < 0 then '-' else '+') ::
        (Nat.toDigits 10 exponent.natAbs ++ rest)) = some (exponent, rest) := by
      rw [shape] at scanned value
      unfold scanSignedDigits
      by_cases negative : exponent < 0
      · simp only [if_pos negative, scanned, value, if_true, Option.some.injEq, Prod.mk.injEq,
          and_true]
        omega
      · simp only [if_neg negative, scanned, value, Bool.false_eq_true, if_false,
          Option.some.injEq, Prod.mk.injEq, and_true]
        omega
    exact congrArg (Option.map fun scanned => (some scanned.1, scanned.2)) signed

/-- What follows the digits of a numeral, or follows the numeral, is no digit. -/
theorem endsDigits_exponentChars (exponent : Option Int) (ends : EndsNumber rest) :
    EndsDigits (exponentChars exponent ++ rest) ∧
      (exponentChars exponent ++ rest).head? ≠ some '.' := by
  cases exponent with
  | none => exact ⟨ends.endsDigits, fun point => (ends '.' point).2.1 rfl⟩
  | some exponent =>
    refine ⟨fun char first => ?_, by simp [exponentChars]⟩
    obtain rfl : 'e' = char := Option.some.inj first
    decide

theorem endsDigits_fractionChars {fraction : List Char} (ends : EndsDigits rest) :
    EndsDigits (fractionChars fraction ++ rest) := by
  cases fraction with
  | nil => exact ends
  | cons first others =>
    intro char point
    obtain rfl : '.' = char := Option.some.inj point
    decide

theorem scanMagnitude_append (proper : numeral.IsProper) (ends : EndsNumber rest) :
    scanMagnitude numeral.negative (numeral.whole ++ fractionChars numeral.fraction ++
      exponentChars numeral.exponent ++ rest) = some (numeral.number, rest) := by
  obtain ⟨afterFraction, point⟩ := endsDigits_exponentChars numeral.exponent ends
  rw [List.append_assoc, List.append_assoc, scanMagnitude,
    scanWhole_append proper (endsDigits_fractionChars afterFraction)]
  simp only [Option.bind_eq_bind, Option.bind_some,
    scanFraction_append proper.fraction afterFraction point, scanExponent_append _ ends]
  rfl

/-- **A numeral is scanned as its number**, up to where it ends. -/
theorem scanNumber_spelling (proper : numeral.IsProper) (ends : EndsNumber rest) :
    scanNumber (numeral.spelling ++ rest) = some (numeral.number, rest) := by
  have scanned := scanMagnitude_append proper ends
  unfold spelling
  cases negative : numeral.negative with
  | true =>
    rw [negative] at scanned
    exact scanned
  | false =>
    rw [negative] at scanned
    rw [if_neg (by decide), List.nil_append, scanNumber.eq_def]
    split
    · rename_i same
      obtain ⟨first, others, digits⟩ := List.exists_cons_of_ne_nil proper.nonempty
      rw [digits] at same
      have isMinus : first = '-' := (List.cons.inj same).1
      have digit := proper.whole first (by simp [digits])
      rw [isMinus] at digit
      exact absurd digit (by decide)
    · exact scanned

end Numeral

end SemanticNetwork.Wire
