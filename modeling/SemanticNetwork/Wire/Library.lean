/-
**What reads and writes documents.** Payloads leave the network as documents, and a library of the
wire makes these documents and reads them. The network gives the names of the alternatives; how
integers, numbers, texts and bytes are written, how an alternative is tagged and what a document says
is up to the library.

* `Wire.Codec`: how the values of one type are written, and what is read as one of them;
* `Wire.Library`: what the library offers;
* `Wire.Library.reread`: what a value is read back as;
* `Wire.Library.Documented`: what is documented of the library.
-/
import SemanticNetwork.Binary64.Basic

namespace SemanticNetwork.Wire

/-- How the values of a type are written as documents, and what a document says if it is read as one
of them. -/
structure Codec (Value α : Type) where
  write : α → String
  read? : Value → Option α

/-- **A library that writes documents and reads them.** -/
structure Library where
  /-- What documents say. -/
  Value : Type
  /-- What a text says, if it is a document. -/
  parse? : String → Option Value
  /-- The document of an alternative, from its name and the document of what it carries. -/
  tag : String → String → String
  /-- The name of an alternative and what it carries. -/
  untag? : Value → Option (String × Value)
  int : Codec Value Int64
  real : Codec Value Binary64
  text : Codec Value String
  bytes : Codec Value (List UInt8)

namespace Library

variable (library : Library)

/-- What a value is read back as, when it was written alone. -/
def reread {α : Type} (codec : Codec library.Value α) (value : α) : Option α :=
  library.parse? (codec.write value) >>= codec.read?

/-- The documents that are written of what an alternative carries. -/
inductive IsContent : String → Prop
  | int (value : Int64) : IsContent (library.int.write value)
  | real (value : Binary64) : IsContent (library.real.write value)
  | text (value : String) : IsContent (library.text.write value)
  | bytes (value : List UInt8) : IsContent (library.bytes.write value)

/-- **What is documented of the library.** Integers, texts and bytes are read as they were written. Of
a finite number nothing is assumed but that it can be written: whether all its digits are read is a
choice that is made when the library is built. -/
structure Documented : Prop where
  /-- Alternatives are tagged from outside: their name is read, and what they carry says what it says
  alone. -/
  tagged : ∀ name {content}, library.IsContent content →
    library.parse? (library.tag name content) >>= library.untag? =
      (library.parse? content).map (name, ·)
  int : ∀ value, library.reread library.int value = some value
  text : ∀ value, library.reread library.text value = some value
  bytes : ∀ value, library.reread library.bytes value = some value
  /-- What is not finite is written as `null`. -/
  infinite : ∀ {value}, value.isFinite = false → library.real.write value = "null"
  /-- No number is read from `null`. -/
  null : ∀ {said}, library.parse? "null" = some said → library.real.read? said = none

end Library

end SemanticNetwork.Wire
