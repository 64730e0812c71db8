/-
**An erasure in a network.** An erasure takes out the least closed set with an element: the element
and, to any depth, the edges at it. All else stays as it is. The observers hear of the departure of
every element that went, once and in order; of an edge they hear that it is gone, between which ends
and of which type, directly before they hear that the element is.

* `IsQuiet`: no observer erases on hearing of a departure;
* `unmoved_of_departure`: then departures move nobody;
* `erase_removes_dependents`: **an erasure takes out an element and all that depends on it.**
-/
import Mathlib
import SemanticNetwork.Memory.Context
import SemanticNetwork.Proofs.Network.Hearing
import SemanticNetwork.Proofs.Network.Session
import SemanticNetwork.Proofs.Store.Dependency

namespace SemanticNetwork

namespace Network

variable {network : Network}

/-- No observer erases on hearing of a departure: there is no link to look after, and whoever else
erases does so for other reasons. -/
structure IsQuiet (network : Network) : Prop where
  reaper : .linkReaper ∈ network.observers → network.identifierLinks = []
  erasers : ∀ eraser, .eraser eraser ∈ network.observers → ∀ store (element : Element),
    ∀ change ∈ element.departure, eraser.chooses store change = none

/-- Who erases links for their payload is not concerned with departures. -/
theorem chooses_ofPayload_of_departure (payload : Payload) (store : Store) (element : Element) :
    ∀ change ∈ element.departure, (Eraser.ofPayload payload).chooses store change = none := by
  intro change member
  unfold Element.departure at member
  split at member
  · simp only [List.mem_cons, List.not_mem_nil, or_false] at member
    rcases member with rfl | rfl <;> rfl
  · rw [List.mem_singleton.1 member]
    rfl

/-- **In a quiet network departures move nobody.** -/
theorem unmoved_of_departure (quiet : network.IsQuiet) {element : Element} {change : Change}
    (member : change ∈ element.departure) : network.Unmoved change := by
  intro observer listens
  cases observer with
  | recorder number => rfl
  | events => rfl
  | linkReaper =>
    show network.orphanedLink? change = none
    unfold orphanedLink?
    split
    · rw [quiet.reaper listens]
      simp
    · rfl
  | eraser eraser => exact quiet.erasers eraser listens network.store element change member

/-- **An erasure in a quiet network** is the erasure in its store, of which all observers hear. -/
theorem erase_of_quiet (consistent : network.store.Consistent) (quiet : network.IsQuiet)
    (address : Address) :
    (network.erase address).store = (network.store.erase address).store ∧
      network.erase address = { network with store := (network.store.erase address).store }.hear
        (network.audience (network.store.erase address).changes) ∧
      ∀ number, (network.erase address).journal number = network.journal number ++
        Change.repeated (network.recorders number) (network.store.erase address).changes := by
  have stillQuiet : IsQuiet { network with store := (network.store.erase address).store } :=
    ⟨quiet.reaper, quiet.erasers⟩
  obtain ⟨departed, -, reported⟩ := (Store.erasesDependents_erase consistent address).reported
  have unmoved : ∀ change ∈ (network.store.erase address).changes,
      Unmoved { network with store := (network.store.erase address).store } change := by
    intro change member
    rw [reported] at member
    obtain ⟨element, -, inDeparture⟩ := List.mem_flatMap.1 member
    exact unmoved_of_departure stillQuiet inDeparture
  exact ⟨(publish_of_unmoved unmoved).2.store, (publish_of_unmoved unmoved).1,
    journal_publish_of_unmoved unmoved⟩

end Network

namespace Memory

/-- **An erasure takes out an element and all that depends on it**, from every reachable store. The
answer is whether there is an element. Where no observer erases in its turn, nothing else happens:
the observers hear of what is reported, once each and in order. -/
theorem erase_removes_dependents {memory : Memory} (reachable : memory.store.Reachable)
    (address : Address) :
    ((memory.erase address).1 = true ↔ memory.store.contains address = true) ∧
      memory.store.ErasesDependents address (memory.store.erase address).store
        (memory.store.erase address).changes ∧
      (memory.network.IsQuiet →
        (memory.erase address).2.store = (memory.store.erase address).store ∧
        (memory.erase address).2 = memory.withNetwork
          ({ memory.network with store := (memory.store.erase address).store }.hear
            (memory.network.audience (memory.store.erase address).changes)) ∧
        ∀ number, (memory.erase address).2.network.journal number = memory.network.journal number ++
          (memory.store.erase address).changes.flatMap fun change =>
            List.replicate (memory.network.recorders number) change) := by
  refine ⟨reachable.consistent.erasedAny_erase_iff address,
    Store.erasesDependents_erase reachable.consistent address, fun quiet => ?_⟩
  obtain ⟨after, heard, journals⟩ := Network.erase_of_quiet reachable.consistent quiet address
  exact ⟨after, congrArg memory.withNetwork heard, journals⟩

/-- A memory with two nodes, an edge between them, an edge from the first node to that edge, and an
edge from the first node to itself. A recorder listens, and someone who erases links with a payload. -/
def tangle : Memory :=
  let session := (Session.start (.new 4 .manual) [.recorder 0, .eraser (.ofPayload (.text "beta"))]).run
    [.createNode .constantNode, .createNode .constantNode, .createEdgeIn 0 .membership ⟨1⟩ ⟨2⟩,
      .createEdgeIn 0 .constantDirected ⟨1⟩ ⟨3⟩, .createEdgeIn 0 .membership ⟨1⟩ ⟨1⟩]
  ⟨session.network, .default, .invalid, []⟩

/-- The first node goes with all three edges, and the second node stays. -/
theorem erase_tangle_removes_dependents :
    tangle.store.Reachable ∧ tangle.network.IsQuiet ∧ (tangle.erase ⟨1⟩).1 = true ∧
      tangle.store.ErasesDependents ⟨1⟩ (tangle.store.erase ⟨1⟩).store (tangle.store.erase ⟨1⟩).changes ∧
      (tangle.erase ⟨1⟩).2.store = (tangle.store.erase ⟨1⟩).store ∧
      (tangle.erase ⟨1⟩).2.store.elements.keys = [⟨2⟩] := by
  have reachable : tangle.store.Reachable := ⟨_, _, _, rfl⟩
  have quiet : tangle.network.IsQuiet :=
    ⟨fun _ => by cbv, fun eraser listens => by
      have observers : tangle.network.observers =
        [.recorder 0, .eraser (.ofPayload (.text "beta"))] := rfl
      obtain rfl : eraser = .ofPayload (.text "beta") := by simpa [observers] using listens
      exact Network.chooses_ofPayload_of_departure _⟩
  obtain ⟨answer, erases, heard⟩ := erase_removes_dependents reachable ⟨1⟩
  exact ⟨reachable, quiet, answer.2 (by cbv), erases, (heard quiet).1, by cbv⟩

end Memory

end SemanticNetwork
