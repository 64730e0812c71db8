/-
**Tokens of wire documents.** A document is cut into marks, words, numbers and texts; blanks
between them are skipped. Whatever is no token makes the whole document unreadable.

* `Wire.scanText`: the units of a quoted text, escapes resolved one by one;
* `Wire.joinUnits`: the text that units spell, if surrogate pairs are complete;
* `Wire.scanTokens`: the tokens of a document.
-/
import SemanticNetwork.Wire.Value

namespace SemanticNetwork.Wire

/-- The smallest pieces of a document. -/
inductive Token where
  | openBrace
  | closeBrace
  | openBracket
  | closeBracket
  | comma
  | colon
  | null
  | bool (flag : Bool)
  | number (number : Number)
  | text (content : Option String)
  deriving DecidableEq, Repr

/-! ### Texts -/

/-- What one character or one escape of a text stands for: a character, or half of a pair. -/
inductive TextUnit where
  | char (char : Char)
  | surrogate (code : Nat)
  deriving DecidableEq, Repr

/-- The value of a hexadecimal digit. -/
def hexDigit? (char : Char) : Option Nat :=
  if '0' ≤ char ∧ char ≤ '9' then some (char.toNat - '0'.toNat)
  else if 'a' ≤ char ∧ char ≤ 'f' then some (char.toNat - 'a'.toNat + 10)
  else if 'A' ≤ char ∧ char ≤ 'F' then some (char.toNat - 'A'.toNat + 10)
  else none

/-- The unit that an escape of four hexadecimal digits stands for. -/
def hexUnit? (first second third fourth : Char) : Option TextUnit := do
  let code := (((← hexDigit? first) * 16 + (← hexDigit? second)) * 16 + (← hexDigit? third)) * 16
    + (← hexDigit? fourth)
  return if 0xD800 ≤ code ∧ code ≤ 0xDFFF then .surrogate code else .char (Char.ofNat code)

/-- The character that a short escape stands for. -/
def shortEscape? : Char → Option Char
  | '"' => some '"'
  | '\\' => some '\\'
  | '/' => some '/'
  | 'b' => some '\x08'
  | 'f' => some '\x0c'
  | 'n' => some '\n'
  | 'r' => some '\r'
  | 't' => some '\t'
  | _ => none

/-- The units of a text up to its closing quote, and what follows the quote. -/
def scanText : List Char → Option (List TextUnit × List Char)
  | [] => none
  | '"' :: rest => some ([], rest)
  | '\\' :: 'u' :: first :: second :: third :: fourth :: rest => do
    let unit ← hexUnit? first second third fourth
    let (units, after) ← scanText rest
    return (unit :: units, after)
  | '\\' :: escape :: rest => do
    let char ← shortEscape? escape
    let (units, after) ← scanText rest
    return (.char char :: units, after)
  | char :: rest =>
    if char = '\\' ∨ char < ' ' then none
    else do
      let (units, after) ← scanText rest
      return (.char char :: units, after)

/-- The text that units spell; a leading surrogate must be followed by a trailing one. -/
def joinUnits : List TextUnit → Option (List Char)
  | [] => some []
  | .char char :: rest => (joinUnits rest).map (char :: ·)
  | .surrogate leading :: .surrogate trailing :: rest =>
    if leading < 0xDC00 ∧ 0xDC00 ≤ trailing then
      (joinUnits rest).map
        (Char.ofNat (0x10000 + (leading - 0xD800) * 0x400 + (trailing - 0xDC00)) :: ·)
    else none
  | .surrogate _ :: _ => none

/-! ### Numbers -/

/-- Whether a character is a decimal digit. -/
def isDigit (char : Char) : Bool := '0' ≤ char && char ≤ '9'

/-- The leading digits, and what follows them. -/
def scanDigits (chars : List Char) : List Nat × List Char :=
  ((chars.takeWhile isDigit).map fun char => char.toNat - '0'.toNat, chars.dropWhile isDigit)

/-- The digits before the point: a zero stands alone. -/
def scanWhole : List Char → Option (List Nat × List Char)
  | '0' :: rest => some ([0], rest)
  | chars =>
    match scanDigits chars with
    | ([], _) => none
    | found => some found

/-- The digits after the point, where there is a point. -/
def scanFraction : List Char → Option (List Nat × List Char)
  | '.' :: rest =>
    match scanDigits rest with
    | ([], _) => none
    | found => some found
  | chars => some ([], chars)

/-- The exponent's sign and digits. -/
def scanSignedDigits (chars : List Char) : Option (Int × List Char) :=
  let (negative, digits) :=
    match chars with
    | '-' :: rest => (true, rest)
    | '+' :: rest => (false, rest)
    | _ => (false, chars)
  match scanDigits digits with
  | ([], _) => none
  | (found, rest) =>
    let value : Int := Number.valueOf found
    some (if negative then -value else value, rest)

/-- The exponent, where there is one. -/
def scanExponent : List Char → Option (Option Int × List Char)
  | 'e' :: rest | 'E' :: rest =>
    (scanSignedDigits rest).map fun (value, after) => (some value, after)
  | chars => some (none, chars)

/-- A number without its sign. -/
def scanMagnitude (negative : Bool) (chars : List Char) : Option (Number × List Char) := do
  let (whole, chars) ← scanWhole chars
  let (fraction, chars) ← scanFraction chars
  let (exponent, chars) ← scanExponent chars
  return (⟨negative, whole, fraction, exponent⟩, chars)

/-- A number. -/
def scanNumber : List Char → Option (Number × List Char)
  | '-' :: rest => scanMagnitude true rest
  | chars => scanMagnitude false chars

/-! ### Documents -/

/-- The characters that separate tokens. -/
def isBlank (char : Char) : Bool := char = ' ' || char = '\n' || char = '\t' || char = '\r'

/-- The token at the front, and what follows it. -/
def scanToken : List Char → Option (Token × List Char)
  | '\x7b' :: rest => some (.openBrace, rest)
  | '\x7d' :: rest => some (.closeBrace, rest)
  | '[' :: rest => some (.openBracket, rest)
  | ']' :: rest => some (.closeBracket, rest)
  | ',' :: rest => some (.comma, rest)
  | ':' :: rest => some (.colon, rest)
  | '"' :: rest =>
    (scanText rest).map fun (units, after) => (.text ((joinUnits units).map String.ofList), after)
  | 'n' :: 'u' :: 'l' :: 'l' :: rest => some (.null, rest)
  | 't' :: 'r' :: 'u' :: 'e' :: rest => some (.bool true, rest)
  | 'f' :: 'a' :: 'l' :: 's' :: 'e' :: rest => some (.bool false, rest)
  | chars => (scanNumber chars).map fun (number, after) => (.number number, after)

/-- At most so many tokens, to the end of the document. -/
def scanAtMost : Nat → List Char → Option (List Token)
  | bound, chars =>
    match chars.dropWhile isBlank, bound with
    | [], _ => some []
    | _, 0 => none
    | chars, bound + 1 => do
      let (token, rest) ← scanToken chars
      let tokens ← scanAtMost bound rest
      return token :: tokens

/-- The tokens of a document; there are no more of them than characters. -/
def scanTokens (chars : List Char) : Option (List Token) := scanAtMost chars.length chars

end SemanticNetwork.Wire
