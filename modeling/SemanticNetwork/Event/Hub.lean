/-
**The event hub.** Notifications that someone is registered for go into a channel; what finds the
channel full is dropped and counted. Subscriptions are numbered as they are made, and registered until
they end. A call is counted when it is over, and the hub keeps a log of the calls.

* `EventHub.publish`: queue what is told about a change;
* `EventHub.subscribe`, `EventHub.unsubscribe`, `EventHub.release`: the life of a subscription;
* `EventHub.targets`: whom a notification goes to;
* `EventHub.beginCall`, `EventHub.endCall`: before and after a subscription has reacted.
-/
import SemanticNetwork.Event.Channel
import SemanticNetwork.Event.Registry
import SemanticNetwork.Fault

namespace SemanticNetwork

/-- Who empties the queue: a thread of its own, or the caller. -/
inductive DispatchMode where
  | thread
  | manual
  deriving DecidableEq, Repr

namespace DispatchMode

/-- The name of a mode for readers. -/
def name : DispatchMode → String
  | thread => "Thread"
  | manual => "Manual"

/-- The name of a mode on the wire. -/
def wireName : DispatchMode → String
  | thread => "thread"
  | manual => "manual"

/-- The mode that a value of the wire is. -/
def ofWire? (value : Wire.Value) : Option DispatchMode := do
  let name ← value.plainVariant?
  [thread, manual].find? fun mode => mode.wireName == name

end DispatchMode

/-- Why an operation on the hub is refused. -/
inductive EventError where
  | invalidSubject (address : Address)
  deriving DecidableEq, Repr

namespace EventError

/-- The wording of a refusal. -/
def message : EventError → String
  | invalidSubject address => "Cannot subscribe to " ++ address.text

/-- The name of the cause of a refusal. -/
def cause : EventError → String
  | invalidSubject _ => "InvalidSubject"

/-- The kind of a refusal. -/
def fault : EventError → Fault
  | invalidSubject _ => .invalidArgument

end EventError

/-- What there is to know before a subscription is made. -/
structure SubscriptionRequest where
  label : String
  subject : Address
  kind : EventKind
  edgeType : ElementType
  reaction : Reaction

/-- The subscriptions and the queue of what they are to be told. -/
structure EventHub where
  mode : DispatchMode
  /-- Whether a thread is emptying the queue. -/
  running : Bool
  /-- Every subscription ever made, in order. -/
  subscriptions : List Subscription
  /-- The subscriptions that are held, by label. -/
  held : List (String × Nat)
  /-- The subscriptions that have not ended, by topic. -/
  registry : Registry
  channel : Channel Notification
  /-- How many calls are over. -/
  delivered : Nat
  dropped : Nat
  /-- The calls since the last report: who was told what. -/
  log : List (String × Notification)

namespace EventHub

/-- A hub without subscriptions. Its channel has room for one notification at least. -/
def new (capacity : Nat) (mode : DispatchMode) : EventHub where
  mode := mode
  running := mode == .thread
  subscriptions := []
  held := []
  registry := .empty
  channel := .bounded (max capacity 1)
  delivered := 0
  dropped := 0
  log := []

/-- The notifications that wait. -/
def queue (hub : EventHub) : List Notification := hub.channel.messages

/-- Whether someone is registered for what a notification tells. -/
def isWatched (hub : EventHub) (notification : Notification) : Bool :=
  hub.registry.isWatched notification.topic

/-- Queue a notification if someone is registered for it. A thread that empties the queue makes room in
time; otherwise what finds the queue full is dropped. -/
def enqueue (hub : EventHub) (notification : Notification) : EventHub :=
  if !hub.isWatched notification then hub
  else
    match hub.channel.send? hub.running notification with
    | some channel => { hub with channel := channel }
    | none => { hub with dropped := hub.dropped + 1 }

/-- Queue what is told about a change. -/
def publish (hub : EventHub) (change : Change) : EventHub :=
  (Notification.ofChange change).foldl enqueue hub

/-! ### Subscriptions -/

/-- The subscription of a number. -/
def find? (hub : EventHub) (number : Nat) : Option Subscription :=
  hub.subscriptions.find? fun subscription => subscription.number == number

/-- Change the subscription of a number. -/
def update (hub : EventHub) (number : Nat) (change : Subscription → Subscription) : EventHub :=
  { hub with
    subscriptions := hub.subscriptions.map fun subscription =>
      if subscription.number = number then change subscription else subscription }

/-- End a subscription, and strike it off the registry. -/
def retire (hub : EventHub) (subscription : Subscription) : EventHub :=
  { hub.update subscription.number fun known => { known with state := .unsubscribed } with
    registry := hub.registry.remove subscription.topic subscription.number }

/-- End the subscription of a number, if it has not ended yet. -/
def close (hub : EventHub) (number : Nat) : EventHub :=
  match hub.find? number with
  | none => hub
  | some subscription => if subscription.isActive then hub.retire subscription else hub

/-- The number of the subscription that is held under a label. -/
def held? (hub : EventHub) (label : String) : Option Nat :=
  (hub.held.find? fun entry => entry.1 == label).map Prod.snd

/-- The subscription that is held under a label. -/
def heldSubscription? (hub : EventHub) (label : String) : Option Subscription :=
  hub.held? label >>= hub.find?

/-- End the subscription that is held under a label. -/
def unsubscribe (hub : EventHub) (label : String) : EventHub :=
  (hub.held? label).elim hub hub.close

/-- Let go of the subscription that is held under a label, which ends it. -/
def release (hub : EventHub) (label : String) : EventHub :=
  let closed := hub.unsubscribe label
  { closed with held := closed.held.filter fun entry => entry.1 != label }

/-- Make a subscription and hold it under its label, letting go of the one held there. -/
def subscribe (hub : EventHub) (request : SubscriptionRequest) :
    Except EventError (Subscription × EventHub) :=
  if !request.subject.isValid then .error (.invalidSubject request.subject)
  else
    let number := hub.subscriptions.length + 1
    let subscription : Subscription :=
      ⟨number, request.label, request.subject, request.kind, request.edgeType, .active,
        request.reaction, 0⟩
    let released := hub.release request.label
    .ok (subscription, { released with
      subscriptions := released.subscriptions ++ [subscription]
      held := released.held ++ [(request.label, number)]
      registry := released.registry.insert subscription.topic number })

/-- How many subscriptions are registered. -/
def subscriptionCount (hub : EventHub) : Nat := hub.registry.count

/-! ### Calls -/

/-- The notification that waits longest, and the hub that waits for the others. -/
def take? (hub : EventHub) : Option (Notification × EventHub) :=
  hub.channel.receive?.map fun (notification, channel) =>
    (notification, { hub with channel := channel })

/-- The subscriptions that are registered for what a notification tells, in the order they were made. -/
def targets (hub : EventHub) (notification : Notification) : List Nat :=
  hub.registry.numbersAt notification.topic

/-- A subscription is called: the call is written into the log. -/
def beginCall (hub : EventHub) (subscription : Subscription) (notification : Notification) :
    EventHub :=
  let marked := hub.update subscription.number fun known => { known with calls := known.calls + 1 }
  { marked with log := marked.log ++ [(subscription.label, notification)] }

/-- A call is over, one way or the other, and is counted. -/
def endCall (hub : EventHub) : EventHub := { hub with delivered := hub.delivered + 1 }

/-- The calls since the last report, which is made now. -/
def takeLog (hub : EventHub) : List (String × Notification) × EventHub :=
  (hub.log, { hub with log := [] })

/-- Stop the thread that empties the queue. -/
def stop (hub : EventHub) : EventHub := { hub with running := false }

end EventHub

end SemanticNetwork
