/-
**How payloads are shown.** Integers and numbers by their digits, a text between quotes as it is,
and of bytes only how many there are.
-/
import SemanticNetwork.Payload.Basic
import SemanticNetwork.Binary64.Text

namespace SemanticNetwork.Payload

/-- The payload for a reader. -/
def shown : Payload → String
  | .int value => toString value.toInt
  | .real value => value.spell .plain
  | .text value => "\"" ++ value ++ "\""
  | .bytes value => "<" ++ toString value.length ++ " bytes>"

end SemanticNetwork.Payload
