/-
**Channels.** What is published reaches those who dispatch it through a channel. Of a channel no more
is assumed than this: messages come out one at a time, in the order in which they went in; none is
lost in it and none comes out twice; it has room for so many; and who finds it full waits for a time,
and then keeps the message, unless somebody has made room meanwhile.

* `Channel.send?`, `Channel.receive?`: what goes in and what comes out;
* `receive?_push`: a message waits behind those that were sent before.
-/

namespace SemanticNetwork

/-- Messages on their way, the oldest first. -/
structure Channel (α : Type) where
  capacity : Nat
  messages : List α
  deriving DecidableEq, Repr

namespace Channel

variable {α : Type}

/-- A channel with room for so many messages. -/
def bounded (capacity : Nat) : Channel α := ⟨capacity, []⟩

/-- How many messages wait. -/
def length (channel : Channel α) : Nat := channel.messages.length

/-- Whether there is no room left. -/
def isFull (channel : Channel α) : Bool := channel.capacity ≤ channel.length

/-- Put a message behind the others. -/
def push (channel : Channel α) (message : α) : Channel α :=
  { channel with messages := channel.messages ++ [message] }

/-- Send a message. If the channel is full, it takes none before the time is up, unless messages are
being taken out meanwhile. -/
def send? (channel : Channel α) (drained : Bool) (message : α) : Option (Channel α) :=
  if drained || !channel.isFull then some (channel.push message) else none

/-- Take the oldest message out. -/
def receive? (channel : Channel α) : Option (α × Channel α) :=
  match channel.messages with
  | [] => none
  | message :: rest => some (message, { channel with messages := rest })

/-- A message waits behind those that were sent before. -/
theorem receive?_push (channel : Channel α) (message : α) :
    (channel.push message).receive? =
      match channel.receive? with
      | none => some (message, channel)
      | some (first, rest) => some (first, rest.push message) := by
  obtain ⟨capacity, _ | ⟨first, rest⟩⟩ := channel <;> rfl

end Channel

end SemanticNetwork
