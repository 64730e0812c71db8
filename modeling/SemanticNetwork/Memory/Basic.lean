/-
**Memories.** A memory is a network in which elements can be named, with some named elements there
from the start: its keynodes.

* `Memory.start`: a new memory with its keynodes;
* `Memory.keynode`: the element of a keynode.
-/
import SemanticNetwork.Memory.Naming
import SemanticNetwork.Memory.Settings

namespace SemanticNetwork

/-- A network with a naming relation and keynodes. -/
structure Memory where
  network : Network
  settings : Settings
  relation : Address
  keynodes : List (String × Address)

namespace Memory

/-- The type of a keynode: identifiers of relations tell by their beginning that they are. -/
def keynodeType (identifier : String) : ElementType :=
  if "nrel_".toList.isPrefixOf identifier.toList then .constantNorole
  else if "rrel_".toList.isPrefixOf identifier.toList then .constantRole
  else .constantNode

/-- The element of an identifier among keynodes. -/
def lookup? (keynodes : List (String × Address)) (identifier : String) : Option Address :=
  (keynodes.find? fun entry => entry.1 == identifier).map Prod.snd

/-- Resolve identifiers that are not among the keynodes yet, creating what is missing. -/
def seed (relation : Address) (keynodes : List (String × Address)) :
    List String → Naming.Action (List (String × Address))
  | [] => pure keynodes
  | identifier :: rest => do
    if (lookup? keynodes identifier).isSome then seed relation keynodes rest
    else
      let found ← Naming.resolve relation identifier (some (keynodeType identifier))
      seed relation (keynodes ++ [(identifier, found.getD .invalid)]) rest

/-- Create the naming relation and the keynodes. -/
def populate (identifiers : List String) : Naming.Action (Address × List (String × Address)) := do
  let relation ← Naming.bootstrap
  let keynodes ← seed relation [(Naming.relationIdentifier, relation)] identifiers
  return (relation, keynodes)

/-- The network of a memory before anything is in it. -/
def emptyNetwork (settings : Settings) : Network :=
  .empty (.new settings.queueCapacity settings.dispatch) [.events]

/-- A new memory. -/
def start (settings : Settings) : Except MemoryError Memory :=
  match (populate settings.keynodes).run (emptyNetwork settings) with
  | .ok (relation, keynodes) network => .ok ⟨network, settings, relation, keynodes⟩
  | .error error _ => .error error

/-- Whether an identifier is a keynode. -/
def hasKeynode (memory : Memory) (identifier : String) : Bool :=
  (lookup? memory.keynodes identifier).isSome

/-- The element of a keynode, or the address that denotes none. -/
def keynode (memory : Memory) (identifier : String) : Address :=
  (lookup? memory.keynodes identifier).getD .invalid

end Memory

end SemanticNetwork
