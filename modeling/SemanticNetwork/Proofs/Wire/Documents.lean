/-
**What is written is read.** A document without blanks is cut token by token, and the tokens of a
text, of a number or of an array of numbers are read as that value. An object with one member is read
as that member. So a piece says alone what it says inside an object.

* `Scans`: the tokens of a document, with one lemma for each kind of token;
* `Reads`: the value that tokens are, whatever follows them;
* `Scans.printArray`, `reads_numbers`: **an array of numbers is read as it is written**;
* `Spells`: what a piece of a document says;
* `Spells.parse?`, `Spells.parse?_member`: **it says so alone and as the member of an object.**
-/
import SemanticNetwork.Proofs.Wire.Scanning
import SemanticNetwork.Wire.Parse

namespace SemanticNetwork.Wire

variable {first : Char} {chars rest : List Char} {token : Token} {tokens : List Token}
  {value : Value}

/-! ### Tokens -/

/-- What starts with a digit or a minus sign is scanned as a number. -/
theorem scanToken_numeric
    (numeric : isDigit first = true ∨ first = '-') : scanToken (first :: chars) =
      (scanNumber (first :: chars)).map fun (number, after) => (.number number, after) := by
  rw [scanToken.eq_def]
  split
  all_goals first
    | rfl
    | rename_i same
      cases same
      exact absurd numeric (by decide)

/-- **The tokens of a document**, of which there are no more than characters. -/
structure Scans (chars : List Char) (tokens : List Token) : Prop where
  short : tokens.length ≤ chars.length
  scanAtMost : ∀ bound, tokens.length ≤ bound → scanAtMost bound chars = some tokens

namespace Scans

theorem nil : Scans [] [] where
  short := Nat.le_refl 0
  scanAtMost bound _ := by
    unfold Wire.scanAtMost
    rfl

/-- A token goes before others. -/
theorem cons (solid : isBlank first = false)
    (scanned : scanToken (first :: chars) = some (token, rest))
    (shorter : rest.length ≤ chars.length) (scans : Scans rest tokens) :
    Scans (first :: chars) (token :: tokens) where
  short := Nat.succ_le_succ (Nat.le_trans scans.short shorter)
  scanAtMost bound enough := by
    obtain ⟨bound, rfl⟩ : ∃ less, bound = less + 1 :=
      ⟨bound - 1, by simp only [List.length_cons] at enough; omega⟩
    have goesOn := scans.scanAtMost bound (Nat.le_of_succ_le_succ enough)
    have noBlanks : (first :: chars).dropWhile isBlank = first :: chars := by
      rw [List.dropWhile_cons_of_neg (by simp [solid])]
    unfold Wire.scanAtMost
    simp only [noBlanks, scanned, Option.bind_eq_bind, Option.bind_some, goesOn]
    rfl

theorem openBrace (scans : Scans rest tokens) : Scans ('\x7b' :: rest) (.openBrace :: tokens) :=
  scans.cons (by decide) rfl (Nat.le_refl _)

theorem closeBrace (scans : Scans rest tokens) : Scans ('\x7d' :: rest) (.closeBrace :: tokens) :=
  scans.cons (by decide) rfl (Nat.le_refl _)

theorem openBracket (scans : Scans rest tokens) : Scans ('[' :: rest) (.openBracket :: tokens) :=
  scans.cons (by decide) rfl (Nat.le_refl _)

theorem closeBracket (scans : Scans rest tokens) : Scans (']' :: rest) (.closeBracket :: tokens) :=
  scans.cons (by decide) rfl (Nat.le_refl _)

theorem comma (scans : Scans rest tokens) : Scans (',' :: rest) (.comma :: tokens) :=
  scans.cons (by decide) rfl (Nat.le_refl _)

theorem colon (scans : Scans rest tokens) : Scans (':' :: rest) (.colon :: tokens) :=
  scans.cons (by decide) rfl (Nat.le_refl _)

theorem null (scans : Scans rest tokens) :
    Scans ('n' :: 'u' :: 'l' :: 'l' :: rest) (.null :: tokens) :=
  scans.cons (by decide) rfl (by simp only [List.length_cons]; omega)

/-- **A quoted text is one token.** -/
theorem quote (scans : Scans rest tokens) (text : String) :
    Scans ((quote text).toList ++ rest) (.text (some text) :: tokens) := by
  have scanned : scanToken ('"' :: (text.toList.flatMap escapeChar ++ '"' :: rest)) =
      some (.text (some text), rest) := by
    rw [scanToken, scanText_escaped]
    simp only [Option.map_some, joinUnits_map_char, String.ofList_toList]
  have spelled : (Wire.quote text).toList ++ rest =
      '"' :: (text.toList.flatMap escapeChar ++ '"' :: rest) := by
    simp [Wire.quote]
  rw [spelled]
  exact scans.cons (by decide) scanned (by simp only [List.length_append, List.length_cons]; omega)

/-- **A numeral is one token.** -/
theorem numeral {numeral : Numeral} (scans : Scans rest tokens) (proper : numeral.IsProper)
    (ends : EndsNumber rest) :
    Scans (numeral.spelling ++ rest) (.number numeral.number :: tokens) := by
  obtain ⟨first, others, spelled, numeric⟩ := numeral.exists_spelling_eq proper
  have scanned := numeral.scanNumber_spelling proper ends
  rw [spelled, List.cons_append] at scanned ⊢
  refine scans.cons ?_ ?_ ?_
  · rcases numeric with digit | rfl
    · cases blank : isBlank first with
      | false => rfl
      | true =>
        simp only [isBlank, Bool.or_eq_true, decide_eq_true_eq] at blank
        rcases blank with ((rfl | rfl) | rfl) | rfl <;> exact absurd digit (by decide)
    · decide
  · rw [scanToken_numeric numeric, scanned]
    rfl
  · rw [List.length_append]
    omega

end Scans

/-! ### Values -/

/-- **The value that tokens are**, whatever follows them. -/
def Reads (tokens : List Token) (value : Value) : Prop :=
  ∀ bound rest, 2 * tokens.length ≤ bound → readValue bound (tokens ++ rest) = some (value, rest)

theorem reads_null : Reads [.null] .null := by
  intro bound rest enough
  obtain ⟨bound, rfl⟩ : ∃ less, bound = less + 1 := ⟨bound - 1, by simp at enough; omega⟩
  rfl

theorem reads_number (number : Number) : Reads [.number number] (.number number) := by
  intro bound rest enough
  obtain ⟨bound, rfl⟩ : ∃ less, bound = less + 1 := ⟨bound - 1, by simp at enough; omega⟩
  rfl

theorem reads_text (content : Option String) : Reads [.text content] (.text content) := by
  intro bound rest enough
  obtain ⟨bound, rfl⟩ : ∃ less, bound = less + 1 := ⟨bound - 1, by simp at enough; omega⟩
  rfl

/-- The tokens of an array of numbers, from its first number on. -/
def numberTokens : List Number → List Token
  | [] => [.closeBracket]
  | [number] => [.number number, .closeBracket]
  | number :: more => .number number :: .comma :: numberTokens more

theorem lt_length_numberTokens (numbers : List Number) :
    numbers.length < (numberTokens numbers).length := by
  induction numbers with
  | nil => exact Nat.one_pos
  | cons number more hypothesis =>
    cases more with
    | nil => exact Nat.lt_succ_self 1
    | cons second others =>
      simp only [numberTokens, List.length_cons] at hypothesis ⊢
      omega

/-- What follows a numeral in an array is no part of it. -/
theorem endsNumber_cons (mark : first = ',' ∨ first = ']' ∨ first = '\x7d') :
    EndsNumber (first :: rest) := by
  intro char front
  obtain rfl : first = char := Option.some.inj front
  rcases mark with rfl | rfl | rfl <;> decide

/-- The tokens of written numerals, up to the closing bracket. -/
theorem Scans.numerals {numerals : List Numeral} (scans : Scans rest tokens)
    (proper : ∀ numeral ∈ numerals, numeral.IsProper) :
    Scans ([','].intercalate (numerals.map Numeral.spelling) ++ ']' :: rest)
      (numberTokens (numerals.map Numeral.number) ++ tokens) := by
  induction numerals with
  | nil => exact scans.closeBracket
  | cons numeral more hypothesis =>
    have own := proper numeral List.mem_cons_self
    cases more with
    | nil =>
      have alone := scans.closeBracket.numeral own (endsNumber_cons (.inr (.inl rfl)))
      simpa [numberTokens] using alone
    | cons second others =>
      have later := hypothesis fun other member => proper other (List.mem_cons_of_mem _ member)
      have together := later.comma.numeral own (endsNumber_cons (.inl rfl))
      simpa [numberTokens] using together

/-- **A written array of numerals is scanned as an array of their numbers.** -/
theorem Scans.printArray {numerals : List Numeral} (scans : Scans rest tokens)
    (proper : ∀ numeral ∈ numerals, numeral.IsProper) :
    Scans ((printArray (numerals.map fun numeral => String.ofList numeral.spelling)).toList ++ rest)
      (.openBracket :: numberTokens (numerals.map Numeral.number) ++ tokens) := by
  have document : (Wire.printArray (numerals.map fun numeral =>
        String.ofList numeral.spelling)).toList ++ rest =
      '[' :: ([','].intercalate (numerals.map Numeral.spelling) ++ ']' :: rest) := by
    simp [Wire.printArray, Function.comp_def]
  rw [document]
  exact (scans.numerals proper).openBracket

/-- The items of an array of numbers, of which there is at least one. -/
theorem readItems_numbers {bound : Nat} {numbers : List Number} (nonempty : numbers ≠ [])
    (enough : numbers.length < bound) (after : List Token) :
    readItems bound (numberTokens numbers ++ after) = some (numbers.map .number, after) := by
  induction numbers generalizing bound with
  | nil => exact absurd rfl nonempty
  | cons number more hypothesis =>
    obtain ⟨bound, rfl⟩ : ∃ less, bound = less + 2 :=
      ⟨bound - 2, by simp only [List.length_cons] at enough; omega⟩
    cases more with
    | nil => rfl
    | cons second others =>
      have goesOn := @hypothesis (bound + 1) (List.cons_ne_nil _ _)
        (by simp only [List.length_cons] at enough ⊢; omega)
      have first : readValue (bound + 1)
          (numberTokens (number :: second :: others) ++ after) =
            some (.number number, .comma :: (numberTokens (second :: others) ++ after)) := rfl
      rw [readItems, first]
      simp only [Option.bind_eq_bind, Option.bind_some, goesOn]
      rfl

/-- **An array of numbers is read as its numbers.** -/
theorem reads_numbers (numbers : List Number) :
    Reads (.openBracket :: numberTokens numbers) (.array (numbers.map .number)) := by
  intro bound rest enough
  obtain ⟨bound, rfl⟩ : ∃ less, bound = less + 1 :=
    ⟨bound - 1, by simp only [List.length_cons] at enough; omega⟩
  cases numbers with
  | nil => rfl
  | cons number more =>
    have count := lt_length_numberTokens (number :: more)
    have items := @readItems_numbers bound (number :: more) (List.cons_ne_nil _ _)
      (by simp only [List.length_cons] at enough count ⊢; omega) rest
    have opens : readValue (bound + 1) (.openBracket :: numberTokens (number :: more) ++ rest) =
        (readItems bound (numberTokens (number :: more) ++ rest)).bind fun read =>
          some (.array read.1, read.2) := by
      cases more <;> rfl
    rw [opens, items]
    rfl

/-! ### Documents -/

/-- **What a piece of a document says**, wherever it stands. -/
structure Spells (written : String) (value : Value) : Prop where
  exists_tokens : ∃ parts, Reads parts value ∧ ∀ {rest tokens}, EndsNumber rest →
    Scans rest tokens → Scans (written.toList ++ rest) (parts ++ tokens)

variable {written : String}

/-- A piece that is the whole document is read as it. -/
theorem Spells.parse? (spells : Spells written value) : Value.parse? written = some value := by
  obtain ⟨parts, reads, spelled⟩ := spells.exists_tokens
  have scans := @spelled [] [] nofun Scans.nil
  rw [List.append_nil, List.append_nil] at scans
  have whole := reads (2 * parts.length) [] (Nat.le_refl _)
  rw [List.append_nil] at whole
  rw [Value.parse?, scanTokens, scans.scanAtMost _ scans.short, Option.bind_eq_bind,
    Option.bind_some, Value.ofTokens?, whole]

/-- **An object with one member is read as it is written.** -/
theorem Spells.parse?_member (spells : Spells written value) (name : String) :
    Value.parse? (printObject [(name, written)]) = some (.object [(some name, value)]) := by
  obtain ⟨parts, reads, spelled⟩ := spells.exists_tokens
  have ends : EndsNumber ['\x7d'] := endsNumber_cons (.inr (.inr rfl))
  have document : (printObject [(name, written)]).toList =
      '\x7b' :: ((quote name).toList ++ ':' :: (written.toList ++ ['\x7d'])) := by
    simp [printObject]
  have scans := (((spelled ends Scans.nil.closeBrace).colon).quote name).openBrace
  rw [← document] at scans
  have tokens := scans.scanAtMost _ scans.short
  have member : ∀ bound, 2 * parts.length ≤ bound →
      readMembers (bound + 1) (.text (some name) :: .colon :: (parts ++ [.closeBrace])) =
        some ([(some name, value)], []) := by
    intro bound enough
    rw [readMembers, reads bound _ enough]
    rfl
  have whole : readValue (2 * (Token.openBrace :: .text (some name) :: .colon ::
      (parts ++ [.closeBrace])).length) (.openBrace :: .text (some name) :: .colon ::
        (parts ++ [.closeBrace])) = some (.object [(some name, value)], []) := by
    have count : 2 * (Token.openBrace :: .text (some name) :: .colon ::
        (parts ++ [.closeBrace])).length = 2 * parts.length + 6 + 1 + 1 := by
      simp only [List.length_cons, List.length_append, List.length_nil]
      omega
    rw [count, readValue, member (2 * parts.length + 6) (by omega)]
    · rfl
    · rintro _ same
      cases same
  rw [Value.parse?, scanTokens, tokens, Option.bind_eq_bind, Option.bind_some, Value.ofTokens?,
    whole]

end SemanticNetwork.Wire
