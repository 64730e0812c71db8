/-
**Refusals of a memory.** What the layers below refuse is passed on with the name of the layer; a
memory itself refuses missing elements, names that are taken, and names that are blank.
-/
import SemanticNetwork.Event.Hub
import SemanticNetwork.Pattern.Basic
import SemanticNetwork.Template.Validate

namespace SemanticNetwork

/-- Why an operation on a memory is refused. -/
inductive MemoryError where
  | store (error : StoreError)
  | pattern (error : PatternError)
  | template (error : TemplateError)
  | event (error : EventError)
  | malformedSettings
  | elementNotFound (address : Address)
  | identifierConflict (identifier : String) (existing : Address)
  | blankIdentifier
  deriving DecidableEq, Repr

namespace MemoryError

/-- The wording of a refusal. -/
def message : MemoryError → String
  | store error => "graph error: " ++ error.message
  | pattern error => "pattern error: " ++ error.message
  | template error => "template error: " ++ error.message
  | event error => "event error: " ++ error.message
  | malformedSettings => "config error"
  | elementNotFound address => "element not found: " ++ address.text
  | identifierConflict identifier existing =>
    "identifier '" ++ identifier ++ "' already names " ++ existing.text
  | blankIdentifier => "invalid identifier: identifier is empty"

/-- The name of the cause of a refusal; what a layer below refuses keeps its own behind the name of
the layer. -/
def cause : MemoryError → String
  | store error => "GraphError." ++ error.cause
  | pattern error => "PatternError." ++ error.cause
  | template error => "TemplateError." ++ error.cause
  | event error => "EventError." ++ error.cause
  | malformedSettings => "ConfigError"
  | elementNotFound _ => "ElementNotFound"
  | identifierConflict .. => "IdentifierConflict"
  | blankIdentifier => "InvalidIdentifier"

/-- The kind of a refusal. -/
def fault : MemoryError → Fault
  | store error => error.fault
  | pattern error => error.fault
  | template error => error.fault
  | event error => error.fault
  | malformedSettings | blankIdentifier => .invalidArgument
  | elementNotFound _ => .notFound
  | identifierConflict .. => .constraintViolation

end MemoryError

end SemanticNetwork
