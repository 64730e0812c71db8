/-
**Payloads on the wire.** A payload is an alternative, named for its kind, that carries what it holds.
The library of the wire writes it and reads it.

* `Payload.written`: the document of a payload;
* `Payload.ofWire?`: the payload that a value of the wire is;
* `Payload.reread`: what a payload is read back as.
-/
import SemanticNetwork.Payload.Basic
import SemanticNetwork.Wire.Library

namespace SemanticNetwork.Payload

variable (library : Wire.Library)

/-- The document of what a payload holds, without its kind. -/
def writtenContent : Payload → String
  | .int value => library.int.write value
  | .real value => library.real.write value
  | .text value => library.text.write value
  | .bytes value => library.bytes.write value

/-- The document of a payload. -/
def written (payload : Payload) : String :=
  library.tag payload.kind.name (payload.writtenContent library)

/-- The payload of the kind with a name that some content is. -/
def ofContent? (name : String) (content : library.Value) : Option Payload :=
  match name with
  | "Int" => (library.int.read? content).map .int
  | "Float" => (library.real.read? content).map .real
  | "String" => (library.text.read? content).map .text
  | "Bytes" => (library.bytes.read? content).map .bytes
  | _ => none

/-- The payload that a value of the wire is. -/
def ofWire? (value : library.Value) : Option Payload :=
  library.untag? value >>= fun (name, content) => ofContent? library name content

/-- What a payload is read back as. -/
def reread (payload : Payload) : Option Payload :=
  library.parse? (payload.written library) >>= ofWire? library

end SemanticNetwork.Payload
