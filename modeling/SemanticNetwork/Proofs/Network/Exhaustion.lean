/-
**Dispatch ends.** What is told while notifications are dispatched may be followed by more. Still the
queue runs empty: of an element that departs at most three notifications tell, and each thing that a
callback makes costs no more than five, two that tell of it and three when it departs. Callbacks make
only so much, so the bound on what there is to tell goes down with every notification that is taken.
The bound of a dispatch is therefore never reached: it is the loop that goes on as long as something
waits.

* `notices`: how many notifications tell of some changes;
* `notices_cascade_le`, `notices_told_le`: an erasure, and all that follows from it, tells of no more
  than what departs;
* `dispatchBound_act_le`, `dispatchBound_call_le`: what a callback does costs what it makes, and a call
  is paid for;
* `dispatchPending_eq`: **dispatch goes on as long as something waits**;
* `queue_dispatchPending`: **when it is over, nothing waits.**
-/
import SemanticNetwork.Proofs.Event.Hub
import SemanticNetwork.Proofs.Network.Hearing
import SemanticNetwork.Proofs.Network.Stability

namespace SemanticNetwork

open Change (repeated)

/-! ### How much there is to tell -/

/-- How many notifications tell of some changes. -/
def notices (changes : List Change) : Nat := (changes.flatMap Notification.ofChange).length

theorem notices_cons (change : Change) (rest : List Change) :
    notices (change :: rest) = (Notification.ofChange change).length + notices rest := by
  simp [notices]

theorem notices_append (first second : List Change) :
    notices (first ++ second) = notices first + notices second := by
  simp [notices]

theorem notices_repeated (count : Nat) (changes : List Change) :
    notices (repeated count changes) = count * notices changes := by
  have one : ∀ change, notices (List.replicate count change) = count * notices [change] := by
    intro change
    induction count with
    | zero => simp [notices]
    | succ count hypothesis =>
      rw [List.replicate_succ, notices_cons, hypothesis, Nat.succ_mul, Nat.add_comm]
      simp [notices]
  induction changes with
  | nil => simp [notices]
  | cons change rest hypothesis =>
    have split : repeated count (change :: rest) =
        List.replicate count change ++ repeated count rest := rfl
    rw [split, notices_append, one, hypothesis, ← Nat.mul_add, ← notices_append,
      List.singleton_append]

/-- Of an element that departs at most three notifications tell. -/
theorem notices_departure_le (element : Element) : notices element.departure ≤ 3 := by
  unfold Element.departure
  split <;> simp [notices, Notification.ofChange]

/-- **An erasure tells of no more than what departs.** -/
theorem notices_cascade_le (store : Store) (waiting : List Address) :
    notices (store.cascade waiting).changes + 3 * (store.cascade waiting).store.elements.size ≤
      3 * store.elements.size := by
  fun_induction Store.cascade store waiting with
  | case1 store => simp [Store.Erasure.none, notices]
  | case2 store address waiting missing hypothesis => exact hypothesis
  | case3 store address waiting element found struck rest hypothesis =>
    have departure := notices_departure_le element
    have smaller := Store.size_sever_strike_lt found
    simp only [rest, struck, notices_append] at hypothesis ⊢
    omega

theorem notices_erase_le (store : Store) (address : Address) :
    notices (store.erase address).changes + 3 * (store.erase address).store.elements.size ≤
      3 * store.elements.size := by
  unfold Store.erase
  split
  · exact notices_cascade_le store [address]
  · simp [Store.Erasure.none, notices]

/-- A change adds to the queue no more than what tells of it. -/
theorem EventHub.length_foldl_publish_le (hub : EventHub) (changes : List Change) :
    (changes.foldl publish hub).queue.length ≤ hub.queue.length + notices changes ∧
      (changes.foldl publish hub).subscriptions = hub.subscriptions := by
  induction changes generalizing hub with
  | nil => exact ⟨Nat.le_refl _, rfl⟩
  | cons change rest hypothesis =>
    obtain ⟨length, subscriptions⟩ := hypothesis (hub.publish change)
    have queues := hub.queues_publish change
    obtain ⟨told, queue, sublist, -⟩ := queues.queue
    have more := sublist.length_le
    rw [queue, List.length_append] at length
    rw [notices_cons, List.foldl_cons]
    exact ⟨by omega, subscriptions.trans queues.subscriptions⟩

namespace Network

variable {network : Network}

/-- What an observer does tells of no more than what departs. -/
theorem notices_react_le (network : Network) (change : Change) (observer : Observer) :
    notices (network.react change observer).2 +
      3 * (network.react change observer).1.store.elements.size ≤
        3 * network.store.elements.size := by
  rcases network.react_cases change observer with ⟨-, silent, alike⟩ | ⟨address, -, store, changes⟩
  · rw [silent, alike.store]
    simp [notices]
  · rw [store, changes]
    exact notices_erase_le _ _

/-- **What hubs hear while changes are told** is no more than that, and what departs meanwhile. -/
theorem notices_told_le (network : Network) (waiting : List (Change × Observer)) :
    notices (toldTo Observer.isEvents (network.told waiting)) +
        network.ears Observer.isEvents * (3 * (network.tell waiting).store.elements.size) ≤
      notices (toldTo Observer.isEvents waiting) +
        network.ears Observer.isEvents * (3 * network.store.elements.size) := by
  fun_induction Network.tell network waiting with
  | case1 network => exact Nat.le_of_eq (by rw [told])
  | case2 network change observer waiting reaction hypothesis =>
    have same : reaction.1.ears Observer.isEvents = network.ears Observer.isEvents :=
      ears_congr (observers_react network change observer)
    have departs : network.ears Observer.isEvents * notices reaction.2 +
        network.ears Observer.isEvents * (3 * reaction.1.store.elements.size) ≤
          network.ears Observer.isEvents * (3 * network.store.elements.size) := by
      rw [← Nat.mul_add]
      exact Nat.mul_le_mul_left _ (notices_react_le network change observer)
    have first : toldTo Observer.isEvents (network.told ((change, observer) :: waiting)) =
        (if observer.isEvents = true then [change] else []) ++ toldTo Observer.isEvents
          (reaction.1.told (reaction.1.audience reaction.2 ++ waiting)) := by
      rw [told, toldTo_cons]
    rw [toldTo_append, toldTo_audience, notices_append, notices_repeated, same] at hypothesis
    rw [first, toldTo_cons, notices_append, notices_append]
    omega

/-! ### What an act costs -/

/-- The reserve is that of the subscriptions. -/
theorem reserve_congr {hub later : EventHub} (same : later.subscriptions = hub.subscriptions) :
    reserve later = reserve hub :=
  congrArg reserveOf same

/-- **Telling costs what there is to tell**, and what follows from it costs nothing more. -/
theorem dispatchBound_publish_le (network : Network) (changes : List Change) :
    (network.publish changes).dispatchBound ≤
      network.dispatchBound + network.ears Observer.isEvents * notices changes := by
  have heard := network.notices_told_le (network.audience changes)
  obtain ⟨length, subscriptions⟩ :=
    network.events.length_foldl_publish_le (network.echo Observer.isEvents changes)
  have same := network.observers_publish changes
  rw [toldTo_audience, notices_repeated] at heard
  rw [← events_publish] at length subscriptions
  unfold dispatchBound
  rw [same, reserve_congr subscriptions, Nat.mul_add, Nat.mul_add]
  unfold echo ears publish at *
  omega

/-- However an operation ends, there is one element more at most. -/
structure Extends {α : Type} (action : Store.Action α) : Prop where
  ok : ∀ {store value after}, action.run store = .ok value after →
    after.elements.size ≤ store.elements.size + 1
  error : ∀ {store error after}, action.run store = .error error after →
    after.elements.size ≤ store.elements.size + 1

theorem size_le_of_adds {before after : Store} {element : Element}
    (adds : before.Adds element after) : after.elements.size ≤ before.elements.size + 1 := by
  rw [adds.elements]
  exact KeyMap.size_insert_le ..

theorem size_le_of_spends {before after : Store} (spends : before.Spends after) :
    after.elements.size ≤ before.elements.size + 1 := by
  rw [spends.elements]
  exact Nat.le_succ _

theorem extends_createNode (type : ElementType) : Extends (Store.createNode type) where
  ok ran := size_le_of_adds (Store.createNode_ok ran).2.2
  error ran := size_le_of_spends (Store.createNode_error ran)

theorem extends_createLink : Extends Store.createLink where
  ok ran := size_le_of_adds (Store.createTypedLink_ok (Store.createLink_eq ▸ ran)).2.2
  error ran := size_le_of_spends (Store.createTypedLink_error (Store.createLink_eq ▸ ran))

theorem extends_createEdge (type : ElementType) (source target : Address) :
    Extends (Store.createEdge type source target) where
  ok ran := size_le_of_adds (Store.createEdge_ok ran).2.2
  error ran := size_le_of_spends (Store.createEdge_error ran)

theorem extends_setPayload (link : Address) (payload : Payload) :
    Extends (Store.setPayload link payload) where
  ok ran := by
    obtain ⟨element, -, -, rfl⟩ := Store.setPayload_ok ran
    exact KeyMap.size_insert_le ..
  error ran := size_le_of_spends (Store.setPayload_error ran)

variable {store : Store} {change : Change}

/-- What a store costs against another, and what there is to spare. -/
theorem dispatchBound_store_le {spare cost : Nat}
    (within : spare + 3 * store.elements.size ≤ 3 * network.store.elements.size + cost) :
    { network with store := store }.dispatchBound + network.ears Observer.isEvents * spare ≤
      network.dispatchBound + network.ears Observer.isEvents * cost := by
  have more : 3 * store.elements.size + 5 * reserve network.events + spare ≤
      3 * network.store.elements.size + 5 * reserve network.events + cost := by omega
  have scaled := Nat.mul_le_mul_left (network.ears Observer.isEvents) more
  rw [Nat.mul_add _ _ spare, Nat.mul_add _ _ cost] at scaled
  have unfolded : ∀ network : Network, network.dispatchBound = network.events.queue.length +
      network.ears Observer.isEvents *
        (3 * network.store.elements.size + 5 * reserve network.events) := fun _ => rfl
  have before := unfolded network
  have after := unfolded { network with store := store }
  have same : { network with store := store }.ears Observer.isEvents =
    network.ears Observer.isEvents := rfl
  rw [same] at after
  dsimp only at after
  omega

/-- **A change of the store that is told of** costs what it adds to the store, and what tells of it. -/
theorem dispatchBound_publish_store_le {changes : List Change} {cost : Nat}
    (within : notices changes + 3 * store.elements.size ≤
      3 * network.store.elements.size + cost) :
    ({ network with store := store }.publish changes).dispatchBound ≤
      network.dispatchBound + network.ears Observer.isEvents * cost :=
  Nat.le_trans (dispatchBound_publish_le _ changes) (dispatchBound_store_le within)

/-- Nothing is told of an operation that is refused, and of one that makes an element and no edge. -/
theorem dispatchBound_made_le (grows : store.elements.size ≤ network.store.elements.size + 1) :
    { network with store := store }.dispatchBound ≤
      network.dispatchBound + network.ears Observer.isEvents * 5 :=
  Nat.le_trans (Nat.le_add_right _ _) (@dispatchBound_store_le _ _ 0 5 (by omega))

/-- An element is made, or a payload is written, and that is told. -/
theorem dispatchBound_told_le (grows : store.elements.size ≤ network.store.elements.size + 1)
    (brief : notices [change] ≤ 2) :
    ({ network with store := store }.publish [change]).dispatchBound ≤
      network.dispatchBound + network.ears Observer.isEvents * 5 :=
  dispatchBound_publish_store_le (by omega)

theorem dispatchBound_attempt_onStore_le {α : Type} {action : Store.Action α}
    (extending : Extends action) (network : Network) :
    (network.attempt (onStore action)).dispatchBound ≤
      network.dispatchBound + network.ears Observer.isEvents * 5 := by
  unfold Network.attempt
  rw [run_onStore]
  cases ran : action.run network.store with
  | ok value store => exact dispatchBound_made_le (extending.ok ran)
  | error error store => exact dispatchBound_made_le (extending.error ran)

/-- An erasure costs nothing: what departs was counted when it was made. -/
theorem dispatchBound_erase_le (network : Network) (address : Address) :
    (network.erase address).dispatchBound ≤ network.dispatchBound :=
  @dispatchBound_publish_store_le _ _ _ 0 (notices_erase_le network.store address)

/-! ### What subscriptions have in reserve -/

/-- How much is left of a reaction, and what a call takes of it. -/
theorem reserve_succ (reaction : Reaction) (calls : Nat) :
    reaction.reserve (calls + 1) + (if calls < reaction.lively then reaction.most else 0) =
      reaction.reserve calls := by
  unfold Reaction.reserve
  split
  · rename_i lively
    rw [← Nat.mul_succ]
    congr 1
    omega
  · rw [show reaction.lively - (calls + 1) = 0 by omega, show reaction.lively - calls = 0 by omega]
    rfl

/-- Who does the same and was called as often has the same in reserve. -/
theorem reserve_update (hub : EventHub) (number : Nat) {change : Subscription → Subscription}
    (same : ∀ known, (change known).reaction = known.reaction ∧
      (change known).calls = known.calls) : reserve (hub.update number change) = reserve hub := by
  unfold reserve reserveOf EventHub.update
  rw [List.foldr_map]
  congr 1
  funext known count
  split
  · rw [(same known).1, (same known).2]
  · rfl

theorem reserve_unsubscribe (hub : EventHub) (label : String) :
    reserve (hub.unsubscribe label) = reserve hub := by
  rcases hub.unsubscribe_cases label with ⟨same, -⟩ | ⟨subscription, -, -, -, retired⟩
  · rw [same]
  · rw [retired]
    exact reserve_update hub subscription.number fun _ => ⟨rfl, rfl⟩

/-- What the subscriptions no longer have in reserve, there is to spare. -/
theorem dispatchBound_spare_le {change : EventHub → EventHub} {spare : Nat}
    (queue : (change network.events).queue.length ≤ network.events.queue.length)
    (kept : reserve (change network.events) + spare ≤ reserve network.events) :
    (network.updateEvents change).dispatchBound + network.ears Observer.isEvents * (5 * spare) ≤
      network.dispatchBound := by
  have less : 3 * network.store.elements.size + 5 * reserve (change network.events) + 5 * spare ≤
      3 * network.store.elements.size + 5 * reserve network.events := by omega
  have scaled := Nat.mul_le_mul_left (network.ears Observer.isEvents) less
  rw [Nat.mul_add _ _ (5 * spare)] at scaled
  exact Nat.add_assoc .. ▸ Nat.add_le_add queue scaled

/-- What leaves the queue and the reserve alone costs nothing. -/
theorem dispatchBound_updateEvents_le {change : EventHub → EventHub}
    (queue : (change network.events).queue = network.events.queue)
    (kept : reserve (change network.events) = reserve network.events) :
    (network.updateEvents change).dispatchBound ≤ network.dispatchBound :=
  Nat.le_trans (Nat.le_add_right _ _)
    (@dispatchBound_spare_le _ _ 0 (Nat.le_of_eq (congrArg _ queue)) (Nat.le_of_eq kept))

/-- A subscription that is called, if it has a number. -/
def called (number : Nat) (known : Subscription) : Subscription :=
  if known.number = number then { known with calls := known.calls + 1 } else known

/-- Nobody has more in reserve for being called. -/
theorem reserveOf_called_le (number : Nat) (subscriptions : List Subscription) :
    reserveOf (subscriptions.map (called number)) ≤ reserveOf subscriptions := by
  induction subscriptions with
  | nil => exact Nat.le_refl _
  | cons known rest hypothesis =>
    refine Nat.add_le_add ?_ hypothesis
    unfold called
    split
    · have taken := reserve_succ known.reaction known.calls
      dsimp only
      omega
    · exact Nat.le_refl _

/-- **A call takes from the reserve what it may make.** -/
theorem reserve_beginCall_le {hub : EventHub} {number : Nat} {subscription : Subscription}
    (found : hub.find? number = some subscription) (notification : Notification) :
    reserve (hub.beginCall subscription notification) +
      (if subscription.calls < subscription.reaction.lively then subscription.reaction.most else 0) ≤
        reserve hub := by
  obtain rfl := EventHub.number_of_find? found
  show reserveOf (hub.subscriptions.map (called subscription.number)) + _ ≤
    reserveOf hub.subscriptions
  unfold EventHub.find? at found
  generalize hub.subscriptions = subscriptions at found
  induction subscriptions with
  | nil => cases found
  | cons known rest hypothesis =>
    by_cases here : known.number = subscription.number
    · have front : (known :: rest).find? (fun other => other.number == subscription.number) =
          some known := List.find?_cons_of_pos (by simpa using here)
      obtain rfl : known = subscription := Option.some.inj (front.symm.trans found)
      have taken := reserve_succ known.reaction known.calls
      have others := reserveOf_called_le known.number rest
      have first : called known.number known = { known with calls := known.calls + 1 } := if_pos rfl
      rw [List.map_cons, first]
      show known.reaction.reserve (known.calls + 1) + reserveOf (rest.map (called known.number)) + _ ≤
        known.reaction.reserve known.calls + reserveOf rest
      omega
    · rw [List.find?_cons_of_neg (by simpa using here)] at found
      have first : called subscription.number known = known := if_neg here
      rw [List.map_cons, first]
      exact Nat.add_assoc .. ▸ Nat.add_le_add_left (hypothesis found) _

/-- **What a callback does costs what it makes.** -/
theorem dispatchBound_act_le (network : Network) (act : Act) :
    (network.act act).dispatchBound ≤ network.dispatchBound +
      network.ears Observer.isEvents * if act.makes = true then 5 else 0 := by
  cases act with
  | unsubscribe label =>
    have channel := (network.events.countsAs_unsubscribe label).channel
    exact dispatchBound_updateEvents_le (congrArg Channel.messages channel)
      (reserve_unsubscribe network.events label)
  | release label =>
    have channel := (network.events.countsAs_release label).channel
    exact dispatchBound_updateEvents_le (congrArg Channel.messages channel)
      (reserve_unsubscribe network.events label)
  | createNode type => exact dispatchBound_attempt_onStore_le (extends_createNode type) network
  | createLink => exact dispatchBound_attempt_onStore_le extends_createLink network
  | createEdge type source target =>
    simp only [Network.act, Network.attempt, run_createEdge]
    cases ran : (Store.createEdge type source target).run network.store with
    | ok edge store => exact dispatchBound_told_le ((extends_createEdge ..).ok ran) (Nat.le_refl 2)
    | error error store => exact dispatchBound_made_le ((extends_createEdge ..).error ran)
  | write link payload =>
    simp only [Network.act, Network.attempt, run_setPayload]
    cases ran : (Store.setPayload link payload).run network.store with
    | ok value store => exact dispatchBound_told_le ((extends_setPayload ..).ok ran) (Nat.le_succ 1)
    | error error store => exact dispatchBound_made_le ((extends_setPayload ..).error ran)
  | erase address => exact network.dispatchBound_erase_le address
  | breakOff => exact Nat.le_refl _

/-! ### What a dispatch costs -/

theorem observers_act (network : Network) (act : Act) :
    (network.act act).observers = network.observers :=
  (steady_observers network.observers).lasting.act rfl act

theorem dispatchBound_perform_le (network : Network) (acts : List Act) :
    (network.perform acts).dispatchBound ≤
      network.dispatchBound + network.ears Observer.isEvents * (5 * acts.countP Act.makes) := by
  have fewer : (acts.takeWhile (· != .breakOff)).countP Act.makes ≤ acts.countP Act.makes :=
    (List.takeWhile_sublist _).countP_le
  have scaled := Nat.mul_le_mul_left (network.ears Observer.isEvents) (Nat.mul_le_mul_left 5 fewer)
  refine Nat.le_trans ?_ (Nat.add_le_add_left scaled _)
  unfold perform
  generalize acts.takeWhile (· != .breakOff) = acts
  clear fewer scaled
  induction acts generalizing network with
  | nil => exact Nat.le_add_right _ _
  | cons act rest hypothesis =>
    have first := network.dispatchBound_act_le act
    have later := hypothesis (network.act act)
    rw [ears_congr (network.observers_act act)] at later
    have both : network.ears Observer.isEvents * (5 * (act :: rest).countP Act.makes) =
        network.ears Observer.isEvents * (5 * rest.countP Act.makes) +
          network.ears Observer.isEvents * (if act.makes = true then 5 else 0) := by
      rw [List.countP_cons, Nat.mul_add, Nat.mul_add]
      split <;> rfl
    rw [both]
    exact Nat.le_trans later (by omega)

/-- **A call is paid for**: what it makes was in reserve. -/
theorem dispatchBound_callWith_le (network : Network) {number : Nat} {subscription : Subscription}
    (found : network.events.find? number = some subscription) (notification : Notification) :
    (network.callWith notification subscription).dispatchBound ≤ network.dispatchBound := by
  let begun := network.updateEvents (·.beginCall subscription notification)
  let acts := subscription.reaction.acts subscription.calls notification begun.store
  have afterwards : (network.callWith notification subscription).dispatchBound ≤
      (begun.perform acts).dispatchBound := dispatchBound_updateEvents_le rfl rfl
  have made := begun.dispatchBound_perform_le acts
  have few := Nat.mul_le_mul_left (network.ears Observer.isEvents) (Nat.mul_le_mul_left 5
    (subscription.reaction.ends subscription.calls notification begun.store))
  have paid := @dispatchBound_spare_le network (·.beginCall subscription notification) _
    (Nat.le_refl _) (reserve_beginCall_le found notification)
  exact Nat.le_trans afterwards (Nat.le_trans made (Nat.le_trans (Nat.add_le_add_left few _) paid))

theorem dispatchBound_call_le (network : Network) (notification : Notification) (number : Nat) :
    (network.call notification number).dispatchBound ≤ network.dispatchBound := by
  unfold Network.call
  split
  · exact Nat.le_refl _
  · rename_i subscription found
    split
    · exact network.dispatchBound_callWith_le found notification
    · exact Nat.le_refl _

theorem dispatchBound_dispatch_le (network : Network) (notification : Notification) :
    (network.dispatch notification).dispatchBound ≤ network.dispatchBound := by
  unfold Network.dispatch
  generalize network.events.targets notification = targets
  induction targets generalizing network with
  | nil => exact Nat.le_refl _
  | cons number rest hypothesis =>
    exact Nat.le_trans (hypothesis _) (network.dispatchBound_call_le notification number)

/-- A notification that is taken is one less. -/
theorem dispatchBound_take {notification : Notification} {events : EventHub}
    (taken : network.events.take? = some (notification, events)) :
    network.dispatchBound = { network with events := events }.dispatchBound + 1 := by
  obtain ⟨⟨message, channel⟩, received, same⟩ := Option.map_eq_some_iff.1 taken
  cases same
  have front : network.events.queue = notification :: channel.messages := by
    unfold Channel.receive? at received
    unfold EventHub.queue
    split at received
    · cases received
    · cases received
      assumption
  have kept : reserve { network.events with channel := channel } = reserve network.events :=
    reserve_congr rfl
  unfold dispatchBound
  rw [front, kept]
  exact Nat.add_right_comm channel.messages.length 1 _

/-- Where there is nothing to tell, nothing waits. -/
theorem take?_of_dispatchBound (nothing : network.dispatchBound = 0) :
    network.events.take? = none := by
  cases waiting : network.events.take? with
  | none => rfl
  | some pair => cases nothing.symm.trans (dispatchBound_take waiting)

/-- Where nothing waits, nothing is dispatched. -/
theorem dispatchAtMost_of_none (nothing : network.events.take? = none) (bound : Nat) :
    network.dispatchAtMost bound = (network, 0) := by
  cases bound with
  | zero => rfl
  | succ bound => rw [dispatchAtMost, nothing]

/-- **Every bound that is large enough is as good as any other.** -/
theorem dispatchAtMost_eq {first second : Nat} (enough : network.dispatchBound ≤ first)
    (enough' : network.dispatchBound ≤ second) :
    network.dispatchAtMost first = network.dispatchAtMost second := by
  induction first generalizing network second with
  | zero =>
    have nothing := take?_of_dispatchBound (Nat.le_zero.1 enough)
    rw [dispatchAtMost_of_none nothing, dispatchAtMost_of_none nothing]
  | succ first hypothesis =>
    cases waiting : network.events.take? with
    | none => rw [dispatchAtMost_of_none waiting, dispatchAtMost_of_none waiting]
    | some pair =>
      obtain ⟨notification, events⟩ := pair
      have less := dispatchBound_take waiting
      have cost := { network with events := events }.dispatchBound_dispatch_le notification
      obtain ⟨second, rfl⟩ : ∃ fewer, second = fewer + 1 := ⟨second - 1, by omega⟩
      have rest := @hypothesis ({ network with events := events }.dispatch notification) second
        (by omega) (by omega)
      rw [dispatchAtMost, dispatchAtMost, waiting]
      simp only
      rw [rest]

/-- **Dispatch goes on as long as something waits.** -/
theorem dispatchPending_eq (network : Network) : network.dispatchPending =
    match network.events.take? with
    | none => (network, 0)
    | some (notification, events) =>
      let rest := ({ network with events := events }.dispatch notification).dispatchPending
      (rest.1, rest.2 + 1) := by
  cases waiting : network.events.take? with
  | none => exact dispatchAtMost_of_none waiting _
  | some pair =>
    obtain ⟨notification, events⟩ := pair
    have cost := { network with events := events }.dispatchBound_dispatch_le notification
    unfold dispatchPending
    rw [dispatchBound_take waiting, dispatchAtMost, waiting]
    simp only
    rw [dispatchAtMost_eq cost (Nat.le_refl _)]

/-- A bound that is large enough is not reached before nothing waits. -/
theorem take?_dispatchAtMost {bound : Nat} (enough : network.dispatchBound ≤ bound) :
    (network.dispatchAtMost bound).1.events.take? = none := by
  induction bound generalizing network with
  | zero => exact take?_of_dispatchBound (Nat.le_zero.1 enough)
  | succ bound hypothesis =>
    cases waiting : network.events.take? with
    | none => rwa [dispatchAtMost_of_none waiting]
    | some pair =>
      obtain ⟨notification, events⟩ := pair
      have cost := { network with events := events }.dispatchBound_dispatch_le notification
      have less := dispatchBound_take waiting
      rw [dispatchAtMost, waiting]
      exact hypothesis (by omega)

/-- **When a dispatch is over, nothing waits.** -/
theorem queue_dispatchPending (network : Network) :
    network.dispatchPending.1.events.queue = [] := by
  have nothing := take?_dispatchAtMost (Nat.le_refl network.dispatchBound)
  have received := Option.map_eq_none_iff.1 nothing
  unfold Channel.receive? at received
  split at received
  · assumption
  · cases received

end Network

end SemanticNetwork
