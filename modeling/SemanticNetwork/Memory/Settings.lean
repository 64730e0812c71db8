/-
**Settings of a memory.** How many notifications may wait, how long to wait for room, who empties
the queue, and which identifiers are there from the start. Every setting has a default.

* `Settings.default`, and one function that changes each setting;
* `Settings.written`, `Settings.read?`: the document of settings, and back.
-/
import SemanticNetwork.Event.Hub
import SemanticNetwork.Wire.Decode
import SemanticNetwork.Wire.Print

namespace SemanticNetwork

/-- How a memory is set up. -/
structure Settings where
  queueCapacity : Nat
  enqueueTimeout : Nat
  dispatch : DispatchMode
  keynodes : List String
  deriving DecidableEq, Repr

namespace Settings

/-- The identifiers that are there by default. -/
def defaultKeynodes : List String :=
  ["nrel_system_identifier", "sc_result", "sc_result_ok", "sc_result_error", "question",
    "question_initiated", "question_finished", "nrel_inclusion"]

/-- The settings where nothing is said. -/
def default : Settings := ⟨1024, 100, .thread, defaultKeynodes⟩

instance : Inhabited Settings := ⟨default⟩

/-- Settings with another capacity of the queue. -/
def withQueueCapacity (settings : Settings) (capacity : Nat) : Settings :=
  { settings with queueCapacity := capacity }

/-- Settings with another time to wait for room, in milliseconds. -/
def withEnqueueTimeout (settings : Settings) (timeout : Nat) : Settings :=
  { settings with enqueueTimeout := timeout }

/-- Settings with another way to empty the queue. -/
def withDispatch (settings : Settings) (mode : DispatchMode) : Settings :=
  { settings with dispatch := mode }

/-- Settings with one more identifier; one that is listed is not listed again. -/
def withKeynode (settings : Settings) (identifier : String) : Settings :=
  if settings.keynodes.contains identifier then settings
  else { settings with keynodes := settings.keynodes ++ [identifier] }

/-! ### Documents -/

/-- The document of settings. -/
def written (settings : Settings) : String :=
  Wire.printObject
    [("event_queue_capacity", toString settings.queueCapacity),
      ("enqueue_timeout_ms", toString settings.enqueueTimeout),
      ("dispatch", Wire.quote settings.dispatch.wireName),
      ("keynodes", Wire.printArray (settings.keynodes.map Wire.quote))]

/-- Counts and times are numbers of 64 bits. -/
def numberBound : Nat := Nat.pow 2 64

/-- The value of a field, or the default where the field is not given. -/
def field? {α : Type} (default : α) (read? : Wire.Value → Option α) :
    Option Wire.Value → Option α
  | none => some default
  | some value => read? value

/-- The settings that a value of the wire is. -/
def ofWire? (value : Wire.Value) : Option Settings := do
  match ← value.record? ["event_queue_capacity", "enqueue_timeout_ms", "dispatch", "keynodes"] with
  | [capacity, timeout, dispatch, keynodes] =>
    return ⟨← field? default.queueCapacity (·.nat? numberBound) capacity,
      ← field? default.enqueueTimeout (·.nat? numberBound) timeout,
      ← field? default.dispatch DispatchMode.ofWire? dispatch,
      ← field? default.keynodes (·.list? Wire.Value.text?) keynodes⟩
  | _ => none

/-- The settings that a document is. -/
def read? (text : String) : Option Settings := Wire.Value.parse? text >>= ofWire?

end Settings

end SemanticNetwork
