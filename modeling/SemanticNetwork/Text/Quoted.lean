/-
**Texts shown with their quotes.** A text in a report stands between quotes. The quote and the
backslash follow a backslash, common controls have a letter, and other characters without a shape
are shown by their number.
-/
import SemanticNetwork.Text.Printable

namespace SemanticNetwork.Text

/-- What is shown for a character. -/
def shownChar (char : Char) : List Char :=
  if char = '\x00' then ['\\', '0']
  else if char = '\t' then ['\\', 't']
  else if char = '\r' then ['\\', 'r']
  else if char = '\n' then ['\\', 'n']
  else if char = '"' then ['\\', '"']
  else if char = '\\' then ['\\', '\\']
  else if isHiddenChar char then
    ['\\', 'u', '\x7b'] ++ Nat.toDigits 16 char.toNat ++ ['\x7d']
  else [char]

/-- A text with its quotes. -/
def shown (text : String) : String :=
  String.ofList ('"' :: (text.toList.flatMap shownChar ++ ['"']))

end SemanticNetwork.Text
