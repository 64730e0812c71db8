/-
**Blank text.** The blank characters are those with the Unicode property `White_Space`; a text is
blank if it has no others.

* `isBlankChar`, `isBlankText`.
-/
namespace SemanticNetwork.Text

/-- The code points with the property `White_Space`, as ranges with both ends. -/
def blankRanges : List (Nat × Nat) :=
  [(0x0009, 0x000D), (0x0020, 0x0020), (0x0085, 0x0085), (0x00A0, 0x00A0), (0x1680, 0x1680),
    (0x2000, 0x200A), (0x2028, 0x2029), (0x202F, 0x202F), (0x205F, 0x205F), (0x3000, 0x3000)]

/-- Whether a character is blank. -/
def isBlankChar (char : Char) : Bool :=
  blankRanges.any fun (first, last) => first ≤ char.toNat && char.toNat ≤ last

/-- Whether a text has only blank characters. -/
def isBlankText (text : String) : Bool := text.toList.all isBlankChar

end SemanticNetwork.Text
