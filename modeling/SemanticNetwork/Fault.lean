/-
**Kinds of failure.** Every failure of the network is of one of three kinds, whichever layer it
comes from.
-/
namespace SemanticNetwork

/-- What a failure is about: the request itself, something that is not there, or a law of the
network that the request would break. -/
inductive Fault where
  | invalidArgument
  | notFound
  | constraintViolation
  deriving DecidableEq, Repr

/-- The name of a kind of failure. -/
def Fault.name : Fault → String
  | invalidArgument => "InvalidArgument"
  | notFound => "NotFound"
  | constraintViolation => "ConstraintViolation"

end SemanticNetwork
