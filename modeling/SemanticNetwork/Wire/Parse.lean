/-
**Reading wire documents.** The tokens of a document are read as exactly one value.

* `Wire.Value.ofTokens?`: the value at the front of some tokens;
* `Wire.Value.parse?`: the value that a text is.
-/
import SemanticNetwork.Wire.Token

namespace SemanticNetwork.Wire

mutual

/-- The value at the front of some tokens, and the tokens after it. -/
def readValue : Nat → List Token → Option (Value × List Token)
  | 0, _ => none
  | bound + 1, tokens =>
    match tokens with
    | .null :: rest => some (.null, rest)
    | .bool flag :: rest => some (.bool flag, rest)
    | .number number :: rest => some (.number number, rest)
    | .text content :: rest => some (.text content, rest)
    | .openBracket :: .closeBracket :: rest => some (.array [], rest)
    | .openBracket :: rest => do
      let (items, after) ← readItems bound rest
      return (.array items, after)
    | .openBrace :: .closeBrace :: rest => some (.object [], rest)
    | .openBrace :: rest => do
      let (members, after) ← readMembers bound rest
      return (.object members, after)
    | _ => none

/-- The items of an array up to its closing bracket; there is at least one. -/
def readItems : Nat → List Token → Option (List Value × List Token)
  | 0, _ => none
  | bound + 1, tokens => do
    match ← readValue bound tokens with
    | (item, .closeBracket :: after) => return ([item], after)
    | (item, .comma :: rest) =>
      let (items, after) ← readItems bound rest
      return (item :: items, after)
    | _ => none

/-- The members of an object up to its closing brace; there is at least one. -/
def readMembers : Nat → List Token → Option (List (Option String × Value) × List Token)
  | 0, _ => none
  | bound + 1, tokens =>
    match tokens with
    | .text key :: .colon :: rest => do
      match ← readValue bound rest with
      | (value, .closeBrace :: after) => return ([(key, value)], after)
      | (value, .comma :: rest) =>
        let (members, after) ← readMembers bound rest
        return ((key, value) :: members, after)
      | _ => none
    | _ => none

end

namespace Value

/-- The value that tokens are, all of them; a value has no more parts than tokens. -/
def ofTokens? (tokens : List Token) : Option Value :=
  match readValue (2 * tokens.length) tokens with
  | some (value, []) => some value
  | _ => none

/-- The value that a text is. -/
def parse? (text : String) : Option Value := scanTokens text.toList >>= ofTokens?

end Value

end SemanticNetwork.Wire
