/-
**The network.** A store with observers. Every change is told to every observer in order, and the
next change waits until all have heard of it. An observer may erase on hearing of a change; what
that changes is told to all before the first change is told to the next observer. Telling ends,
because whatever an observer does to the store makes it smaller.

* `Observer`, `Eraser`: who hears of changes, and who erases on that;
* `Network.react`: what one observer does on hearing of a change;
* `Network.tell`: tell observers of changes, and of all that follows from them;
* `length_changes_cascade_le`: an erasure reports at most two changes for an element.
-/
import SemanticNetwork.ElementType.Named
import SemanticNetwork.Event.Hub
import SemanticNetwork.Store.Erase

namespace SemanticNetwork

/-- What an observer may erase on hearing of a change: one element at most, and none on hearing of a new
edge. Who erases more is several observers, one after another. -/
structure Eraser where
  chooses : Store → Change → Option Address
  patient : ∀ {store edge source target type},
    chooses store (.edgeAdded edge source target type) = none

/-- Erase every link that is given a payload. -/
def Eraser.ofPayload (payload : Payload) : Eraser where
  chooses
    | store, .payloadChanged link =>
      if (store.payload? link).any (·.sameValue payload) then some link else none
    | _, _ => none
  patient := rfl

/-- Who hears of changes. -/
inductive Observer where
  /-- Writes every change down, in the journal of a number. -/
  | recorder (number : Nat)
  /-- Queues notifications for subscribers. -/
  | events
  /-- Erases an identifier link that has lost its naming edge. -/
  | linkReaper
  /-- Erases what it chooses. -/
  | eraser (eraser : Eraser)

/-- Whether an observer writes changes down in the journal of a number. -/
def Observer.isRecorder (number : Nat) : Observer → Bool
  | recorder other => other == number
  | _ => false

/-- Whether an observer queues notifications. -/
def Observer.isEvents : Observer → Bool
  | events => true
  | _ => false

/-- A store, those who hear of its changes, and what they remember. -/
structure Network where
  store : Store
  observers : List Observer
  /-- The changes that recorders have written down since their last report. -/
  journals : KeyMap Nat (List Change)
  events : EventHub
  /-- The links that hold identifiers. -/
  identifierLinks : List Address

namespace Network

/-- The network without elements. -/
def empty (events : EventHub) (observers : List Observer) : Network :=
  ⟨.empty, observers, .empty, events, []⟩

/-- Add an observer, who hears of changes after the others. -/
def observe (network : Network) (observer : Observer) : Network :=
  { network with observers := network.observers ++ [observer] }

/-- The journal of a number. -/
def journal (network : Network) (number : Nat) : List Change :=
  (network.journals.get? number).getD []

/-- Write a change down in the journal of a number. -/
def writeDown (network : Network) (number : Nat) (change : Change) : Network :=
  { network with journals := network.journals.insert number (network.journal number ++ [change]) }

/-- The changes in a journal since the last report, which is made now. -/
def takeJournal (network : Network) (number : Nat) : List Change × Network :=
  (network.journal number, { network with journals := network.journals.erase number })

/-- Erase an element from the store, and report the changes. -/
def eraseSilently (network : Network) (address : Address) : Network × List Change :=
  let erased := network.store.erase address
  ({ network with store := erased.store }, erased.changes)

/-- Forget that a link holds an identifier. -/
def forgetLink (network : Network) (link : Address) : Network :=
  { network with identifierLinks := network.identifierLinks.filter (· != link) }

/-- The identifier link that loses its naming edge by a change. -/
def orphanedLink? (network : Network) : Change → Option Address
  | .edgeRemoved _ _ target type =>
    if type = .constantDirected ∧ target ∈ network.identifierLinks then some target else none
  | _ => none

/-- What one observer does on hearing of a change, with the changes that this makes. -/
def react (network : Network) (change : Change) : Observer → Network × List Change
  | .recorder number => (network.writeDown number change, [])
  | .events => ({ network with events := network.events.publish change }, [])
  | .linkReaper =>
    match network.orphanedLink? change with
    | some link => (network.forgetLink link).eraseSilently link
    | none => (network, [])
  | .eraser eraser =>
    match eraser.chooses network.store change with
    | some address => network.eraseSilently address
    | none => (network, [])

/-! ### Telling ends -/

/-- An element departs with at most two changes. -/
theorem length_departure_le (element : Element) : element.departure.length ≤ 2 := by
  unfold Element.departure
  split <;> simp

/-- An erasure reports at most two changes for an element that it takes out. -/
theorem length_changes_cascade_le (store : Store) (waiting : List Address) :
    (store.cascade waiting).changes.length + 2 * (store.cascade waiting).store.elements.size ≤
      2 * store.elements.size := by
  fun_induction Store.cascade store waiting with
  | case1 store => simp [Store.Erasure.none]
  | case2 store address waiting missing hypothesis => exact hypothesis
  | case3 store address waiting element found struck rest hypothesis =>
    have departure := length_departure_le element
    have smaller := Store.size_sever_strike_lt found
    simp only [rest, struck, List.length_append] at hypothesis ⊢
    omega

/-- So does the erasure of one element. -/
theorem length_changes_erase_le (store : Store) (address : Address) :
    (store.erase address).changes.length + 2 * (store.erase address).store.elements.size ≤
      2 * store.elements.size := by
  unfold Store.erase
  split
  · exact length_changes_cascade_le store [address]
  · simp [Store.Erasure.none]

/-- What an observer does leaves the observers alone. -/
theorem observers_react (network : Network) (change : Change) (observer : Observer) :
    (network.react change observer).1.observers = network.observers := by
  unfold react
  split <;> (try split) <;> rfl

/-- What an observer reports, and what it leaves in the store. -/
theorem length_changes_react_le (network : Network) (change : Change) (observer : Observer) :
    (network.react change observer).2.length +
      2 * (network.react change observer).1.store.elements.size ≤
        2 * network.store.elements.size := by
  unfold react
  split
  · simp [writeDown]
  · simp
  · split
    · exact length_changes_erase_le _ _
    · simp
  · split
    · exact length_changes_erase_le _ _
    · simp

/-- Every change with every observer who is to hear of it, in the order of telling. -/
def audience (network : Network) (changes : List Change) : List (Change × Observer) :=
  changes.flatMap fun change => network.observers.map fun observer => (change, observer)

theorem length_audience (network : Network) (changes : List Change) :
    (network.audience changes).length = changes.length * network.observers.length := by
  induction changes with
  | nil => simp [audience]
  | cons change rest hypothesis =>
    simp only [audience, List.flatMap_cons, List.length_append, List.length_map] at hypothesis ⊢
    rw [hypothesis, List.length_cons, Nat.succ_mul]
    omega

/-- A bound on how many turns it takes until nobody waits: an element that departs is reported by two
changes at most, of which every observer hears. -/
def turnsLeft (network : Network) (waiting : List (Change × Observer)) : Nat :=
  waiting.length + network.observers.length * (2 * network.store.elements.size)

/-- When one observer has heard of one change, there is less left to tell, with all that follows. -/
theorem turnsLeft_react_lt (network : Network) (change : Change) (observer : Observer)
    (waiting : List (Change × Observer)) :
    (network.react change observer).1.turnsLeft
        ((network.react change observer).1.audience (network.react change observer).2 ++ waiting) <
      network.turnsLeft ((change, observer) :: waiting) := by
  have bound := length_changes_react_le network change observer
  have same := observers_react network change observer
  have scaled := Nat.mul_le_mul_left network.observers.length bound
  rw [Nat.mul_add, Nat.mul_comm _ (List.length _)] at scaled
  rw [turnsLeft, turnsLeft, List.length_append, length_audience, same, List.length_cons]
  omega

/-- Tell observers of changes, each pair in turn; what follows from one is told before the next. -/
def tell (network : Network) : List (Change × Observer) → Network
  | [] => network
  | (change, observer) :: waiting =>
    let reaction := network.react change observer
    tell reaction.1 (reaction.1.audience reaction.2 ++ waiting)
termination_by waiting => network.turnsLeft waiting
decreasing_by exact turnsLeft_react_lt network change observer waiting

/-- Tell every observer of some changes. -/
def publish (network : Network) (changes : List Change) : Network :=
  network.tell (network.audience changes)

end Network

end SemanticNetwork
