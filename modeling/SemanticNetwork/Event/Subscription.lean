/-
**Subscriptions.** A subscription waits for one kind of event at one element, through edges of a
type. When it is called it may act on the network and on other subscriptions; what it does is part
of it. Once unsubscribed it stays so.

* `Reaction`: what is done on a call, which comes to an end;
* `Subscription.awaits`: it is active and waits for this event;
* `Subscription.admits`: the event came through an edge of its type.
-/
import SemanticNetwork.Event.Notification
import SemanticNetwork.Store.Basic

namespace SemanticNetwork

/-- What a callback can do. -/
inductive Act where
  /-- End the subscription held under a label. -/
  | unsubscribe (label : String)
  /-- Let go of the subscription held under a label, which ends it. -/
  | release (label : String)
  | createNode (type : ElementType)
  | createLink
  | createEdge (type : ElementType) (source target : Address)
  | write (link : Address) (payload : Payload)
  | erase (address : Address)
  /-- Break off: what would follow is not done. -/
  | breakOff
  deriving DecidableEq, Repr

/-- Whether an act can add something to the network that is told of, now or when it is erased. -/
def Act.makes : Act → Bool
  | createNode _ | createLink | createEdge .. | write .. => true
  | _ => false

/-- What a subscription does when it is called: it depends on how often that was before, on what it is
told and on the store that it finds. A reaction ends: after so many calls it makes nothing more. -/
structure Reaction where
  acts : Nat → Notification → Store → List Act
  /-- The number of calls on which it may make something. -/
  lively : Nat
  /-- How much it makes on one call at most. -/
  most : Nat
  ends : ∀ calls notification store,
    (acts calls notification store).countP Act.makes ≤ if calls < lively then most else 0

namespace Reaction

/-- Do the same on the first call only. -/
def once (acts : List Act) : Reaction where
  acts calls _ _ := if calls = 0 then acts else []
  lively := 1
  most := acts.length
  ends calls _ _ := by
    by_cases first : calls = 0
    · rw [if_pos first, if_pos (by omega)]
      exact List.countP_le_length
    · rw [if_neg first]
      exact Nat.zero_le _

/-- Do the same on every call, where this makes nothing. -/
def always (acts : List Act) (idle : acts.countP Act.makes = 0) : Reaction where
  acts _ _ _ := acts
  lively := 0
  most := 0
  ends _ _ _ := by rw [idle]; exact Nat.zero_le _

/-- Do nothing. -/
def none : Reaction := always [] rfl

/-- How much a reaction can still make, after so many calls. -/
def reserve (reaction : Reaction) (calls : Nat) : Nat :=
  reaction.most * (reaction.lively - calls)

end Reaction

/-- Whether a subscription still listens. -/
inductive SubscriptionState where
  | active
  | unsubscribed
  deriving DecidableEq, Repr

/-- The name of a state. -/
def SubscriptionState.name : SubscriptionState → String
  | active => "Active"
  | unsubscribed => "Unsubscribed"

/-- A wait for events at an element. -/
structure Subscription where
  number : Nat
  label : String
  subject : Address
  kind : EventKind
  edgeType : ElementType
  state : SubscriptionState
  reaction : Reaction
  /-- How often it was called. -/
  calls : Nat

namespace Subscription

/-- Whether the subscription still listens. -/
def isActive (subscription : Subscription) : Bool := subscription.state == .active

/-- Whether the subscription listens for events of a kind at an element. -/
def awaits (subscription : Subscription) (subject : Address) (kind : EventKind) : Bool :=
  subscription.isActive && subscription.subject == subject && subscription.kind == kind

/-- Whether the edge of a notification is of the type asked for. -/
def admits (subscription : Subscription) (notification : Notification) : Bool :=
  notification.edgeType.carries subscription.edgeType

end Subscription

end SemanticNetwork
