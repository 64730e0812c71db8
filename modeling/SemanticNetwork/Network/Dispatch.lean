/-
**Dispatch.** The queue is emptied from the front. Each notification goes to the subscriptions that
are registered for it at that moment; each of them is called in its turn, if it still listens then.
What a call does may queue more. Dispatch ends, because reactions end: from some call on they make
nothing more, and what is erased stays erased.

* `Network.perform`: what a subscription does when it is called;
* `Network.call`: one subscription is told of one event, reacts, and is counted;
* `Network.dispatch`: one notification;
* `Network.dispatchPending`: the whole queue.
-/
import SemanticNetwork.Network.Operations

namespace SemanticNetwork.Network

/-- Change the hub of a network. -/
def updateEvents (network : Network) (change : EventHub → EventHub) : Network :=
  { network with events := change network.events }

/-- Do one thing, which may be refused. -/
def act (network : Network) : Act → Network
  | .unsubscribe label => network.updateEvents (·.unsubscribe label)
  | .release label => network.updateEvents (·.release label)
  | .createNode type => network.attempt (createNode type)
  | .createLink => network.attempt createLink
  | .createEdge type source target => network.attempt (createEdge type source target)
  | .write link payload => network.attempt (setPayload link payload)
  | .erase address => network.erase address
  | .breakOff => network

/-- Do one thing after another, until it is broken off. -/
def perform (network : Network) (acts : List Act) : Network :=
  (acts.takeWhile (· != .breakOff)).foldl act network

/-- Call a subscription with a notification: it does what it does on finding the store as it is, and
then the call is over. -/
def callWith (network : Network) (notification : Notification) (subscription : Subscription) :
    Network :=
  let begun := network.updateEvents (·.beginCall subscription notification)
  let acts := subscription.reaction.acts subscription.calls notification begun.store
  (begun.perform acts).updateEvents (·.endCall)

/-- Tell a subscription of an event, if it still listens and the event is of its type. -/
def call (network : Network) (notification : Notification) (number : Nat) : Network :=
  match network.events.find? number with
  | none => network
  | some subscription =>
    if subscription.isActive && subscription.admits notification then
      network.callWith notification subscription
    else network

/-- Tell every subscription that is registered for a notification. -/
def dispatch (network : Network) (notification : Notification) : Network :=
  (network.events.targets notification).foldl (call · notification) network

/-- Tell at most so many notifications; the number is how many there were. -/
def dispatchAtMost : Nat → Network → Network × Nat
  | 0, network => (network, 0)
  | bound + 1, network =>
    match network.events.take? with
    | none => (network, 0)
    | some (notification, events) =>
      let taken := { network with events := events }
      let (after, count) := dispatchAtMost bound (taken.dispatch notification)
      (after, count + 1)

/-- How much some subscriptions can still make when they are called. -/
def reserveOf (subscriptions : List Subscription) : Nat :=
  subscriptions.foldr
    (fun subscription count => subscription.reaction.reserve subscription.calls + count) 0

/-- How much the subscriptions of a hub can still make when they are called. -/
def reserve (hub : EventHub) : Nat := reserveOf hub.subscriptions

/-- A bound on how many notifications there can be. Besides those that wait, there are three for every
element that is erased, and two more where it is made before, for every hub that hears of it. -/
def dispatchBound (network : Network) : Nat :=
  network.events.queue.length + network.observers.countP Observer.isEvents *
    (3 * network.store.elements.size + 5 * reserve network.events)

/-- Tell every notification that waits, and all that follow. -/
def dispatchPending (network : Network) : Network × Nat :=
  dispatchAtMost network.dispatchBound network

/-- Empty the queue at the caller's wish; where a thread does that, there is nothing to do. -/
def dispatchByCaller (network : Network) : Network × Nat :=
  match network.events.mode with
  | .manual => network.dispatchPending
  | .thread => (network, 0)

/-- Let a thread that empties the queue catch up. -/
def settle (network : Network) : Network :=
  if network.events.running then network.dispatchPending.1 else network

end SemanticNetwork.Network
