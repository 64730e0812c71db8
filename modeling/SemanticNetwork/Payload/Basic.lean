/-
**Payloads.** What a link holds: an integer, a number, a text or bytes, one of them and as it is;
nothing is converted.

* `Payload.sameValue`: equality of payloads, where numbers compare as numbers;
* `Payload.asInt`, `Payload.asReal`, `Payload.asText`, `Payload.asBytes`: the payload as one kind,
  refused when it is of another (`Payload.Mismatch`).
-/
import SemanticNetwork.Binary64.Basic
import SemanticNetwork.Fault
import SemanticNetwork.KeyMap

namespace SemanticNetwork

/-- What a link holds. -/
inductive Payload where
  | int (value : Int64)
  | real (value : Binary64)
  | text (value : String)
  | bytes (value : List UInt8)
  deriving DecidableEq, Repr

namespace Payload

/-- The kinds of payload. -/
inductive Kind where
  | int
  | real
  | text
  | bytes
  deriving DecidableEq, Repr

/-- The name of a kind, in messages and on the wire. -/
def Kind.name : Kind → String
  | .int => "Int"
  | .real => "Float"
  | .text => "String"
  | .bytes => "Bytes"

/-- The kind of a payload. -/
def kind : Payload → Kind
  | .int _ => .int
  | .real _ => .real
  | .text _ => .text
  | .bytes _ => .bytes

/-- The place of a payload among all payloads: its kind, and what it is made of. -/
def rank : Payload → List Nat
  | .int value => [0, value.toUInt64.toNat]
  | .real value => [1, value.bits.toNat]
  | .text value => 2 :: value.toList.map Char.toNat
  | .bytes value => 3 :: value.map UInt8.toNat

/-- Payloads of one rank are the same payload. -/
theorem rank_injective {first second : Payload} (same : rank first = rank second) :
    first = second := by
  -- The first number of a rank is the kind, which rules out payloads of two kinds.
  cases first <;> cases second <;>
    simp only [rank, List.cons.injEq, Nat.reduceEqDiff, reduceCtorEq, false_and, true_and,
      and_true] at same
  · exact congrArg int (congrArg UInt64.toInt64 (UInt64.toNat_inj.1 same))
  · exact congrArg (fun bits => real ⟨bits⟩) (UInt64.toNat_inj.1 same)
  · have chars := (List.map_inj_right fun _ _ => Char.toNat_inj.1).1 same
    exact congrArg text (String.toList_inj.1 chars)
  · exact congrArg bytes ((List.map_inj_right fun _ _ => UInt8.toNat_inj.1).1 same)

/-- Payloads are keys by what they are, so numbers are told apart by their bits. -/
instance : Key Payload := .ofRank rank rank_injective

/-- Equality of payloads: numbers are compared as numbers, all else as it is. -/
def sameValue : Payload → Payload → Bool
  | .real first, .real second => first.sameValue second
  | first, second => first == second

/-- A payload was asked for as a kind that it is not. -/
structure Mismatch where
  expected : Kind
  actual : Kind
  deriving DecidableEq, Repr

/-- Which kind was asked for and which was there. -/
def Mismatch.message (mismatch : Mismatch) : String :=
  "Type mismatch: expected " ++ mismatch.expected.name ++ ", got " ++ mismatch.actual.name

/-- The name of the cause of a refusal. -/
def Mismatch.cause (_ : Mismatch) : String := "TypeMismatch"

/-- Asking for a payload as another kind is a fault of the request. -/
def Mismatch.fault (_ : Mismatch) : Fault := .invalidArgument

/-- The payload as an integer. -/
def asInt : Payload → Except Mismatch Int64
  | .int value => .ok value
  | other => .error ⟨.int, other.kind⟩

/-- The payload as a number. -/
def asReal : Payload → Except Mismatch Binary64
  | .real value => .ok value
  | other => .error ⟨.real, other.kind⟩

/-- The payload as a text. -/
def asText : Payload → Except Mismatch String
  | .text value => .ok value
  | other => .error ⟨.text, other.kind⟩

/-- The payload as bytes. -/
def asBytes : Payload → Except Mismatch (List UInt8)
  | .bytes value => .ok value
  | other => .error ⟨.bytes, other.kind⟩

end Payload

end SemanticNetwork
