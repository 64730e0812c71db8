/-
**What becomes of subscriptions.** Whatever happens at a hub, a subscription keeps its number, what it
waits for and what it does; it can only end. Numbers are never given twice, so a number finds its
subscription.

* `EventHub.queues_publish`: what a change adds to the queue, and that it changes nothing else;
* `Subscription.Becomes`, `EventHub.Succeeds`: what a subscription, and a hub, can turn into;
* `close_cases`, `unsubscribe_cases`: ending changes one subscription that has not ended, or nothing;
* `succeeds_subscribe`, `succeeds_release` and their kin: every operation makes a successor.
-/
import Mathlib.Data.List.Nodup
import SemanticNetwork.Event.Hub

namespace SemanticNetwork

/-! ### Subscriptions -/

namespace Subscription

variable {subscription earlier later last : Subscription} {notification : Notification}

/-- A notification tells of the event that a subscription waits for, at its subject. -/
def Concerns (subscription : Subscription) (notification : Notification) : Prop :=
  subscription.subject = notification.subject ∧ subscription.kind = notification.kind

/-- A notification is one that a subscription asked for: of its subject, its kind and its type. -/
def Wants (subscription : Subscription) (notification : Notification) : Prop :=
  subscription.Concerns notification ∧ subscription.admits notification = true

/-- **What a subscription can become.** It stays what it is, and once ended it does not come back. -/
structure Becomes (earlier later : Subscription) : Prop where
  number : later.number = earlier.number
  label : later.label = earlier.label
  subject : later.subject = earlier.subject
  kind : later.kind = earlier.kind
  edgeType : later.edgeType = earlier.edgeType
  active : later.isActive = true → earlier.isActive = true

namespace Becomes

theorem refl (subscription : Subscription) : subscription.Becomes subscription :=
  ⟨rfl, rfl, rfl, rfl, rfl, id⟩

theorem trans (first : earlier.Becomes later) (second : later.Becomes last) :
    earlier.Becomes last where
  number := second.number.trans first.number
  label := second.label.trans first.label
  subject := second.subject.trans first.subject
  kind := second.kind.trans first.kind
  edgeType := second.edgeType.trans first.edgeType
  active := first.active ∘ second.active

theorem concerns_iff (becomes : earlier.Becomes later) :
    later.Concerns notification ↔ earlier.Concerns notification := by
  rw [Concerns, Concerns, becomes.subject, becomes.kind]

theorem wants_iff (becomes : earlier.Becomes later) :
    later.Wants notification ↔ earlier.Wants notification := by
  rw [Wants, Wants, becomes.concerns_iff, admits, admits, becomes.edgeType]

end Becomes

end Subscription

namespace EventHub

variable {hub later last : EventHub} {number : Nat} {label : String} {change : Change}
  {notification : Notification} {subscription : Subscription} {request : SubscriptionRequest}

/-- A hub in which nothing has happened. -/
structure IsFresh (hub : EventHub) : Prop where
  subscriptions : hub.subscriptions = []
  registry : hub.registry = .empty
  queue : hub.queue = []
  log : hub.log = []

theorem isFresh_new (capacity : Nat) (mode : DispatchMode) : (new capacity mode).IsFresh :=
  ⟨rfl, rfl, rfl, rfl⟩

/-! ### What a change adds to the queue -/

/-- **A notification is ignored, queued or dropped**: ignored if nobody is registered for it, and
dropped only if the queue is full. -/
theorem enqueue_cases (hub : EventHub) (notification : Notification) :
    (hub.isWatched notification = false ∧ hub.enqueue notification = hub) ∨
      (hub.isWatched notification = true ∧
        hub.enqueue notification = { hub with channel := hub.channel.push notification }) ∨
      (hub.isWatched notification = true ∧ hub.running = false ∧ hub.channel.isFull = true ∧
        hub.enqueue notification = { hub with dropped := hub.dropped + 1 }) := by
  unfold enqueue Channel.send?
  cases hub.isWatched notification with
  | false => exact .inl ⟨rfl, rfl⟩
  | true =>
    cases hub.running with
    | true => exact .inr (.inl ⟨rfl, rfl⟩)
    | false =>
      cases full : hub.channel.isFull with
      | false => exact .inr (.inl ⟨rfl, rfl⟩)
      | true => exact .inr (.inr ⟨rfl, rfl, rfl, rfl⟩)

/-- What notifications make of a hub: nothing but what its queue holds changes, and the queue gets at
most one more for each of them, if someone is registered for it. -/
structure Queues (hub : EventHub) (notifications : List Notification) (later : EventHub) : Prop where
  mode : later.mode = hub.mode
  subscriptions : later.subscriptions = hub.subscriptions
  registry : later.registry = hub.registry
  log : later.log = hub.log
  queue : ∃ told, later.queue = hub.queue ++ told ∧ told.Sublist notifications ∧
    ∀ queued ∈ told, hub.isWatched queued = true

theorem queues_enqueue (hub : EventHub) (notification : Notification) :
    hub.Queues [notification] (hub.enqueue notification) := by
  rcases hub.enqueue_cases notification with ⟨-, same⟩ | ⟨watched, same⟩ | ⟨-, -, -, same⟩
  · rw [same]
    exact ⟨rfl, rfl, rfl, rfl, [], (List.append_nil _).symm, List.nil_sublist _, nofun⟩
  · rw [same]
    refine ⟨rfl, rfl, rfl, rfl, [notification], rfl, .refl _, fun queued member => ?_⟩
    exact List.mem_singleton.1 member ▸ watched
  · rw [same]
    exact ⟨rfl, rfl, rfl, rfl, [], (List.append_nil _).symm, List.nil_sublist _, nofun⟩

theorem queues_foldl_enqueue (hub : EventHub) (notifications : List Notification) :
    hub.Queues notifications (notifications.foldl enqueue hub) := by
  induction notifications generalizing hub with
  | nil => exact ⟨rfl, rfl, rfl, rfl, [], (List.append_nil _).symm, .slnil, nofun⟩
  | cons notification rest hypothesis =>
    have first := hub.queues_enqueue notification
    have second := hypothesis (hub.enqueue notification)
    obtain ⟨told, queue, sublist, watched⟩ := first.queue
    obtain ⟨others, queue', sublist', watched'⟩ := second.queue
    refine ⟨second.mode.trans first.mode, second.subscriptions.trans first.subscriptions,
      second.registry.trans first.registry, second.log.trans first.log, told ++ others, ?_,
      sublist.append sublist', fun queued member => ?_⟩
    · rw [List.foldl_cons, queue', queue, List.append_assoc]
    · rcases List.mem_append.1 member with member | member
      · exact watched queued member
      · simpa only [isWatched, first.registry] using watched' queued member

/-- **What a change adds to the queue**: what it has to tell, where someone waits for it. -/
theorem queues_publish (hub : EventHub) (change : Change) :
    hub.Queues (Notification.ofChange change) (hub.publish change) :=
  queues_foldl_enqueue hub _

/-! ### Numbers -/

/-- Numbers are given once, from one on. -/
structure Numbered (hub : EventHub) : Prop where
  distinct : (hub.subscriptions.map Subscription.number).Nodup
  bounded : ∀ subscription ∈ hub.subscriptions, subscription.number ≤ hub.subscriptions.length

/-- Every number finds what its subscription has become. -/
def Succeeds (hub later : EventHub) : Prop :=
  ∀ number subscription, hub.find? number = some subscription →
    ∃ after, later.find? number = some after ∧ subscription.Becomes after

theorem Succeeds.trans (first : hub.Succeeds later) (second : later.Succeeds last) :
    hub.Succeeds last := by
  intro number subscription found
  obtain ⟨between, found, becomes⟩ := first number subscription found
  obtain ⟨after, found, becomes'⟩ := second number between found
  exact ⟨after, found, becomes.trans becomes'⟩

theorem IsFresh.numbered (fresh : hub.IsFresh) : hub.Numbered := by
  constructor
  · rw [fresh.subscriptions]
    exact .nil
  · rw [fresh.subscriptions]
    exact nofun

theorem number_of_find? (found : hub.find? number = some subscription) :
    subscription.number = number := by
  simpa using List.find?_some found

theorem Numbered.find?_eq_some_iff (numbered : hub.Numbered) :
    hub.find? number = some subscription ↔
      subscription ∈ hub.subscriptions ∧ subscription.number = number := by
  refine ⟨fun found => ⟨List.mem_of_find?_eq_some found, number_of_find? found⟩, ?_⟩
  rintro ⟨member, rfl⟩
  cases found : hub.find? subscription.number with
  | none =>
    have missed := List.find?_eq_none.1 found subscription member
    exact absurd (beq_self_eq_true _) missed
  | some other =>
    have same := List.inj_on_of_nodup_map numbered.distinct
      (List.mem_of_find?_eq_some found) member (number_of_find? found)
    rw [same]

theorem Succeeds.refl (hub : EventHub) : hub.Succeeds hub :=
  fun _ _ found => ⟨_, found, .refl _⟩

/-- The number that is given next finds nothing yet. -/
theorem Numbered.find?_next (numbered : hub.Numbered) :
    hub.find? (hub.subscriptions.length + 1) = none := by
  refine List.find?_eq_none.2 fun subscription member => ?_
  have := numbered.bounded subscription member
  simp only [beq_iff_eq]
  omega

/-! ### Every operation makes a successor -/

section Update

variable {mark : Subscription → Subscription}
  (marks : ∀ subscription : Subscription, subscription.Becomes (mark subscription))

include marks

theorem find?_update (hub : EventHub) (changed number : Nat) :
    (hub.update changed mark).find? number = (hub.find? number).map fun subscription =>
      if subscription.number = changed then mark subscription else subscription := by
  unfold find? update
  simp only [List.find?_map, Function.comp_def]
  refine congrArg (Option.map _) ?_
  refine congrArg (List.find? · hub.subscriptions) (funext fun subscription => ?_)
  split
  · rw [(marks _).number]
  · rfl

/-- Numbers stay. -/
theorem numbers_update (hub : EventHub) (changed : Nat) :
    (hub.update changed mark).subscriptions.map Subscription.number =
      hub.subscriptions.map Subscription.number := by
  rw [update, List.map_map]
  refine List.map_congr_left fun subscription _ => ?_
  simp only [Function.comp_apply]
  split
  · exact (marks subscription).number
  · rfl

theorem numbered_update (numbered : hub.Numbered) (changed : Nat) :
    (hub.update changed mark).Numbered := by
  have same := numbers_update marks hub changed
  have bounded : ∀ number ∈ (hub.update changed mark).subscriptions.map Subscription.number,
      number ≤ hub.subscriptions.length := by
    rw [same]
    intro number member
    obtain ⟨subscription, inHub, rfl⟩ := List.mem_map.1 member
    exact numbered.bounded subscription inHub
  refine ⟨same ▸ numbered.distinct, fun subscription member => ?_⟩
  rw [update, List.length_map]
  exact bounded _ (List.mem_map_of_mem member)

theorem succeeds_update (hub : EventHub) (changed : Nat) :
    hub.Succeeds (hub.update changed mark) := by
  intro number subscription found
  rw [find?_update marks, found]
  refine ⟨_, rfl, ?_⟩
  simp only
  split
  · exact marks subscription
  · exact .refl subscription

end Update

/-- Two hubs that differ at most in their subscriptions. -/
structure CountsAs (later hub : EventHub) : Prop where
  mode : later.mode = hub.mode
  running : later.running = hub.running
  channel : later.channel = hub.channel
  delivered : later.delivered = hub.delivered
  dropped : later.dropped = hub.dropped
  log : later.log = hub.log

theorem CountsAs.refl (hub : EventHub) : hub.CountsAs hub := ⟨rfl, rfl, rfl, rfl, rfl, rfl⟩

/-! ### Ends -/

/-- What ends, stays what it was. -/
theorem becomes_ended (subscription : Subscription) :
    subscription.Becomes { subscription with state := .unsubscribed } :=
  ⟨rfl, rfl, rfl, rfl, rfl, nofun⟩

theorem find?_retire (hub : EventHub) (subscription : Subscription) (number : Nat) :
    (hub.retire subscription).find? number = (hub.find? number).map fun known =>
      if known.number = subscription.number then { known with state := .unsubscribed } else known :=
  find?_update becomes_ended hub subscription.number number

/-- Closing retires a subscription that has not ended; otherwise nothing happens. -/
theorem close_cases (hub : EventHub) (number : Nat) :
    (hub.close number = hub ∧
        ∀ subscription, hub.find? number = some subscription → subscription.isActive = false) ∨
      ∃ subscription, hub.find? number = some subscription ∧ subscription.isActive = true ∧
        hub.close number = hub.retire subscription := by
  unfold close
  cases found : hub.find? number with
  | none => exact .inl ⟨rfl, nofun⟩
  | some subscription =>
    cases active : subscription.isActive with
    | false =>
      refine .inl ⟨by simp [active], fun other same => ?_⟩
      rwa [← Option.some.inj same]
    | true => exact .inr ⟨subscription, rfl, active, by simp [active]⟩

/-- Unsubscribing retires the subscription that is held under a label, if it has not ended; otherwise
nothing happens. -/
theorem unsubscribe_cases (hub : EventHub) (label : String) :
    (hub.unsubscribe label = hub ∧ ∀ subscription,
        hub.heldSubscription? label = some subscription → subscription.isActive = false) ∨
      ∃ subscription, hub.heldSubscription? label = some subscription ∧
        subscription.isActive = true ∧ hub.find? subscription.number = some subscription ∧
          hub.unsubscribe label = hub.retire subscription := by
  unfold unsubscribe heldSubscription?
  cases hub.held? label with
  | none => exact .inl ⟨rfl, nofun⟩
  | some number =>
    rcases hub.close_cases number with ⟨same, ended⟩ | ⟨subscription, found, active, retired⟩
    · exact .inl ⟨same, ended⟩
    · exact .inr ⟨subscription, found, active, number_of_find? found ▸ found, retired⟩

theorem succeeds_unsubscribe (hub : EventHub) (label : String) :
    hub.Succeeds (hub.unsubscribe label) := by
  rcases hub.unsubscribe_cases label with ⟨same, -⟩ | ⟨subscription, -, -, -, retired⟩
  · rw [same]
    exact .refl hub
  · rw [retired]
    exact succeeds_update becomes_ended hub subscription.number

theorem numbered_unsubscribe (numbered : hub.Numbered) (label : String) :
    (hub.unsubscribe label).Numbered := by
  rcases hub.unsubscribe_cases label with ⟨same, -⟩ | ⟨subscription, -, -, -, retired⟩
  · rwa [same]
  · rw [retired]
    have numbered' := numbered_update becomes_ended numbered subscription.number
    exact ⟨numbered'.distinct, numbered'.bounded⟩

theorem length_unsubscribe (hub : EventHub) (label : String) :
    (hub.unsubscribe label).subscriptions.length = hub.subscriptions.length := by
  rcases hub.unsubscribe_cases label with ⟨same, -⟩ | ⟨subscription, -, -, -, retired⟩
  · rw [same]
  · rw [retired]
    exact List.length_map _

theorem countsAs_unsubscribe (hub : EventHub) (label : String) :
    (hub.unsubscribe label).CountsAs hub := by
  rcases hub.unsubscribe_cases label with ⟨same, -⟩ | ⟨subscription, -, -, -, retired⟩
  · rw [same]
    exact .refl hub
  · rw [retired]
    exact ⟨rfl, rfl, rfl, rfl, rfl, rfl⟩

theorem succeeds_release (hub : EventHub) (label : String) : hub.Succeeds (hub.release label) :=
  hub.succeeds_unsubscribe label

theorem numbered_release (numbered : hub.Numbered) (label : String) :
    (hub.release label).Numbered :=
  ⟨(numbered_unsubscribe numbered label).distinct, (numbered_unsubscribe numbered label).bounded⟩

theorem countsAs_release (hub : EventHub) (label : String) : (hub.release label).CountsAs hub := by
  obtain ⟨mode, running, channel, delivered, dropped, log⟩ := hub.countsAs_unsubscribe label
  exact ⟨mode, running, channel, delivered, dropped, log⟩

/-- **Who unsubscribes, has ended.** -/
theorem ended_of_unsubscribe (held : hub.heldSubscription? label = some subscription) {after}
    (found : (hub.unsubscribe label).find? subscription.number = some after) :
    after.isActive = false := by
  rcases hub.unsubscribe_cases label with ⟨same, ended⟩ | ⟨other, held', -, known, retired⟩
  · obtain ⟨number, -, known⟩ := Option.bind_eq_some_iff.1 held
    rw [same, number_of_find? known, known] at found
    rw [← Option.some.inj found]
    exact ended subscription held
  · obtain rfl : subscription = other := Option.some.inj (held.symm.trans held')
    rw [retired, find?_retire, known, Option.map_some, if_pos rfl] at found
    rw [← Option.some.inj found]
    rfl

/-! ### Beginnings -/

theorem subscribe_eq_ok_iff : hub.subscribe request = .ok (subscription, later) ↔
    request.subject.isValid = true ∧
      subscription = ⟨hub.subscriptions.length + 1, request.label, request.subject, request.kind,
        request.edgeType, .active, request.reaction, 0⟩ ∧
      later = { hub.release request.label with
        subscriptions := (hub.release request.label).subscriptions ++ [subscription]
        held := (hub.release request.label).held ++
          [(request.label, hub.subscriptions.length + 1)]
        registry := (hub.release request.label).registry.insert subscription.topic
          subscription.number } := by
  unfold subscribe
  by_cases valid : request.subject.isValid = true
  · simp only [valid, Bool.not_true, Bool.false_eq_true, if_false, Except.ok.injEq, Prod.mk.injEq,
      true_and]
    constructor
    · rintro ⟨rfl, rfl⟩
      exact ⟨rfl, rfl⟩
    · rintro ⟨rfl, rfl⟩
      exact ⟨rfl, rfl⟩
  · simp [valid]

/-- A subscription that was made is found under a new number, and it listens. -/
theorem find?_of_subscribe (numbered : hub.Numbered)
    (made : hub.subscribe request = .ok (subscription, later)) :
    hub.find? subscription.number = none ∧ later.find? subscription.number = some subscription ∧
      subscription.isActive = true := by
  obtain ⟨-, rfl, rfl⟩ := subscribe_eq_ok_iff.1 made
  have fresh := numbered.find?_next
  have fresh' := (numbered_release numbered request.label).find?_next
  rw [show (hub.release request.label).subscriptions.length = hub.subscriptions.length from
    hub.length_unsubscribe request.label] at fresh'
  refine ⟨fresh, ?_, rfl⟩
  unfold find? at fresh' ⊢
  rw [List.find?_append, fresh']
  simp

theorem succeeds_subscribe (made : hub.subscribe request = .ok (subscription, later)) :
    hub.Succeeds later := by
  obtain ⟨-, rfl, rfl⟩ := subscribe_eq_ok_iff.1 made
  refine Succeeds.trans (hub.succeeds_release request.label) fun number subscription found =>
    ⟨subscription, ?_, .refl _⟩
  unfold find? at found ⊢
  rw [List.find?_append, found, Option.some_or]

theorem numbered_subscribe (numbered : hub.Numbered)
    (made : hub.subscribe request = .ok (subscription, later)) : later.Numbered := by
  obtain ⟨-, rfl, rfl⟩ := subscribe_eq_ok_iff.1 made
  have released := numbered_release numbered request.label
  have length : (hub.release request.label).subscriptions.length = hub.subscriptions.length :=
    hub.length_unsubscribe request.label
  constructor
  · rw [List.map_append, List.nodup_append]
    refine ⟨released.distinct, List.pairwise_singleton _ _, fun number member other member' => ?_⟩
    obtain ⟨earlier, inHub, rfl⟩ := List.mem_map.1 member
    have bound := released.bounded earlier inHub
    rw [List.mem_singleton.1 member']
    simp only
    omega
  · intro other member
    simp only [List.length_append, List.length_singleton]
    rcases List.mem_append.1 member with member | member
    · exact Nat.le_succ_of_le (released.bounded other member)
    · rw [List.mem_singleton.1 member]
      simp only
      omega

theorem countsAs_subscribe (made : hub.subscribe request = .ok (subscription, later)) :
    later.CountsAs hub := by
  obtain ⟨-, rfl, rfl⟩ := subscribe_eq_ok_iff.1 made
  obtain ⟨mode, running, channel, delivered, dropped, log⟩ := hub.countsAs_release request.label
  exact ⟨mode, running, channel, delivered, dropped, log⟩

/-! ### The rest -/

theorem succeeds_of_subscriptions (same : later.subscriptions = hub.subscriptions) :
    hub.Succeeds later := by
  intro number subscription found
  refine ⟨subscription, ?_, .refl _⟩
  rwa [find?, same]

theorem Numbered.of_subscriptions (numbered : hub.Numbered)
    (same : later.subscriptions = hub.subscriptions) : later.Numbered :=
  ⟨same ▸ numbered.distinct, same ▸ numbered.bounded⟩

theorem becomes_called (subscription : Subscription) :
    subscription.Becomes { subscription with calls := subscription.calls + 1 } :=
  ⟨rfl, rfl, rfl, rfl, rfl, id⟩

theorem succeeds_beginCall (hub : EventHub) (subscription : Subscription)
    (notification : Notification) : hub.Succeeds (hub.beginCall subscription notification) :=
  succeeds_update becomes_called hub subscription.number

theorem numbered_beginCall (numbered : hub.Numbered) (subscription : Subscription)
    (notification : Notification) : (hub.beginCall subscription notification).Numbered :=
  (numbered_update becomes_called numbered subscription.number).of_subscriptions rfl

end EventHub

end SemanticNetwork
