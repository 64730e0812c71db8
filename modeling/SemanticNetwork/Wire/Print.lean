/-
**Writing wire documents.** Documents are written without blanks. A text is quoted; the quote, the
backslash and the control characters are escaped, by a short escape where there is one.

* `Wire.quote`: a text in quotes;
* `Wire.printArray`, `Wire.printObject`: the written forms of their parts, put together.
-/
namespace SemanticNetwork.Wire

/-- The digit of a value below sixteen. -/
def hexChar (value : Nat) : Char :=
  if value < 10 then Char.ofNat ('0'.toNat + value) else Char.ofNat ('a'.toNat + value - 10)

/-- What is written for a character of a text. -/
def escapeChar (char : Char) : List Char :=
  if char = '"' then ['\\', '"']
  else if char = '\\' then ['\\', '\\']
  else if char = '\x08' then ['\\', 'b']
  else if char = '\x0c' then ['\\', 'f']
  else if char = '\n' then ['\\', 'n']
  else if char = '\r' then ['\\', 'r']
  else if char = '\t' then ['\\', 't']
  else if char < ' ' then
    ['\\', 'u', '0', '0', hexChar (char.toNat / 16), hexChar (char.toNat % 16)]
  else [char]

/-- A text in quotes. -/
def quote (text : String) : String :=
  String.ofList ('"' :: (text.toList.flatMap escapeChar ++ ['"']))

/-- An array of written items. -/
def printArray (items : List String) : String := "[" ++ ",".intercalate items ++ "]"

/-- An object of names and written values. -/
def printObject (members : List (String × String)) : String :=
  "\x7b" ++ ",".intercalate (members.map fun (name, value) => quote name ++ ":" ++ value) ++ "\x7d"

end SemanticNetwork.Wire
