/-
**Who is registered for what.** Subscriptions are registered by number, in a list for every topic that
somebody waits for. A list that would be left empty is taken away, so that somebody waits for a topic
exactly if there is a list for it.

* `Topic`: what can be waited for;
* `Registry.insert`, `Registry.remove`: who comes and who goes;
* `Registry.isWatched`, `Registry.numbersAt`, `Registry.count`: what the lists tell.
-/
import SemanticNetwork.Event.Subscription
import SemanticNetwork.KeyMap

namespace SemanticNetwork

/-- What can be waited for: events of a kind at an element. -/
structure Topic where
  subject : Address
  kind : EventKind
  deriving DecidableEq, Repr

/-- The place of a kind among the kinds. -/
def EventKind.rank : EventKind → Nat
  | addOutputEdge => 0
  | addInputEdge => 1
  | removeOutputEdge => 2
  | removeInputEdge => 3
  | eraseElement => 4
  | contentChanged => 5

/-- Topics are told apart by their elements and kinds. -/
def Topic.rank (topic : Topic) : List Nat := [topic.subject.value, topic.kind.rank]

theorem Topic.rank_injective {first second : Topic} (same : first.rank = second.rank) :
    first = second := by
  obtain ⟨subject, kind⟩ := first
  obtain ⟨subject', kind'⟩ := second
  obtain ⟨subjects, kinds⟩ : subject.value = subject'.value ∧ kind.rank = kind'.rank := by
    simpa [rank] using same
  obtain rfl := Address.ext_value subjects
  obtain rfl : kind = kind' := by cases kind <;> cases kind' <;> first | rfl | cases kinds
  rfl

instance : Key Topic := .ofRank Topic.rank Topic.rank_injective

/-- The topic of a notification. -/
def Notification.topic (notification : Notification) : Topic :=
  ⟨notification.subject, notification.kind⟩

/-- The topic of a subscription. -/
def Subscription.topic (subscription : Subscription) : Topic :=
  ⟨subscription.subject, subscription.kind⟩

/-- The numbers of those who wait, by topic. No list is empty. -/
structure Registry where
  lists : KeyMap Topic (List Nat)
  filled : ∀ topic, lists.get? topic ≠ some []

namespace Registry

/-- The registry of nobody. -/
def empty : Registry := ⟨.empty, nofun⟩

/-- The numbers that are registered for a topic. -/
def numbersAt (registry : Registry) (topic : Topic) : List Nat :=
  (registry.lists.get? topic).getD []

/-- Whether there is a list for a topic. -/
def isWatched (registry : Registry) (topic : Topic) : Bool := registry.lists.contains topic

/-- How many are registered. -/
def count (registry : Registry) : Nat :=
  registry.lists.values.foldr (fun numbers count => numbers.length + count) 0

/-- Have a list for a topic, or none if it would be empty. -/
def put (registry : Registry) (topic : Topic) (numbers : List Nat) : Registry where
  lists :=
    if numbers = [] then registry.lists.erase topic else registry.lists.insert topic numbers
  filled other := by
    split
    · rw [KeyMap.get?_erase]
      split
      · exact nofun
      · exact registry.filled other
    · rw [KeyMap.get?_insert]
      split
      · simpa
      · exact registry.filled other

/-- Register a number for a topic, after the others. -/
def insert (registry : Registry) (topic : Topic) (number : Nat) : Registry :=
  registry.put topic (registry.numbersAt topic ++ [number])

/-- Strike a number off the list of a topic. -/
def remove (registry : Registry) (topic : Topic) (number : Nat) : Registry :=
  registry.put topic ((registry.numbersAt topic).filter (· != number))

end Registry

end SemanticNetwork
