/-
**A dispatch, turn by turn.** What happens at the hub of a network while it is in use is known from the
network: of what is done to the store the hub publishes what it hears; a dispatch takes notifications
and gives turns; and in its turn a callback does what its reaction says, and then returns.

* `Network.incidentsOfAct`, `incidentsOfCall`, `incidentsOfDispatch`: **what happens at a hub** by one
  thing that a callback does, by one turn, and by a dispatch;
* `Desk.Leads`: what a run of incidents makes of a desk, and what it leaves to be done;
* `leads_act`, `leads_call`, `leads_dispatchAtMost`: **these incidents make of the hub what the
  network makes of it**, and leave no call running that they began.
-/
import SemanticNetwork.Proofs.Event.Delivery
import SemanticNetwork.Proofs.Network.Chronicle

namespace SemanticNetwork

/-! ### What happens at a hub -/

/-- What a callback does to the network, where it does something to it. -/
def Act.deeds : Act → List Network.Deed
  | createNode type => [.createNode type]
  | createLink => [.createTypedLink .constantLink]
  | createEdge type source target => [.createEdge type source target]
  | write link payload => [.setPayload link payload]
  | erase address => [.erase address]
  | unsubscribe _ | release _ | breakOff => []

/-- Changes are published, one after another. -/
def Incident.ofChanges (changes : List Change) : List Incident := changes.map .publish

namespace Network

/-- What happens at the hub when a callback does something: a subscription ends, or what the hub hears
of it is published. -/
def incidentsOfAct (network : Network) : Act → List Incident
  | .unsubscribe label => [.unsubscribe label]
  | .release label => [.release label]
  | act => Incident.ofChanges (network.heard Observer.isEvents act.deeds)

/-- What happens at the hub when a callback does one thing after another. -/
def incidentsOfActs (network : Network) : List Act → List Incident
  | [] => []
  | act :: rest => network.incidentsOfAct act ++ (network.act act).incidentsOfActs rest

/-- What happens at the hub when a subscription has its turn. If it is called, it does what it does and
then returns. -/
def incidentsOfCall (network : Network) (notification : Notification) (number : Nat) :
    List Incident :=
  match network.events.find? number with
  | none => [.offer]
  | some subscription =>
    if subscription.isActive && subscription.admits notification then
      let begun := network.updateEvents (·.beginCall subscription notification)
      let acts := subscription.reaction.acts subscription.calls notification begun.store
      .offer :: (begun.incidentsOfActs (acts.takeWhile (· != .breakOff)) ++ [.returns])
    else [.offer]

/-- What happens at the hub when subscriptions have their turns one after another. -/
def incidentsOfCalls (network : Network) (notification : Notification) : List Nat → List Incident
  | [] => []
  | number :: rest =>
    network.incidentsOfCall notification number ++
      (network.call notification number).incidentsOfCalls notification rest

/-- What happens at the hub in a dispatch of at most so many notifications. -/
def incidentsOfDispatch : Nat → Network → List Incident
  | 0, _ => []
  | bound + 1, network =>
    match network.events.take? with
    | none => []
    | some (notification, events) =>
      let taken := { network with events := events }
      .take :: (taken.incidentsOfCalls notification (taken.events.targets notification) ++
        incidentsOfDispatch bound (taken.dispatch notification))

end Network

/-! ### Runs of incidents -/

namespace Desk

variable {desk : Desk} {hub : EventHub}

/-- **What incidents make of a desk**: its hub, who is still to have a turn, which calls are running, and
the letters that were taken. -/
structure Leads (desk : Desk) (incidents : List Incident) (hub : EventHub)
    (turns running : List (Nat × Letter)) (handled : List Letter) : Prop where
  hub : (desk.run incidents).hub = hub
  turns : (desk.run incidents).turns = turns
  running : (desk.run incidents).running = running
  handled : (desk.run incidents).handled = handled

variable {turns running : List (Nat × Letter)} {handled : List Letter} {later : List Incident}

theorem Leads.refl (desk : Desk) : desk.Leads [] desk.hub desk.turns desk.running desk.handled :=
  ⟨rfl, rfl, rfl, rfl⟩

/-- What follows a run of incidents. -/
theorem Leads.after (earlier : List Incident)
    (next : (desk.run earlier).Leads later hub turns running handled) :
    desk.Leads (earlier ++ later) hub turns running handled := by
  obtain ⟨hub, turns, running, handled⟩ := next
  rw [← run_append] at hub turns running handled
  exact ⟨hub, turns, running, handled⟩

/-- What follows one incident. -/
theorem Leads.cons {incident : Incident}
    (next : (desk.step incident).Leads later hub turns running handled) :
    desk.Leads (incident :: later) hub turns running handled :=
  ⟨next.hub, next.turns, next.running, next.handled⟩

/-- Changes that are published are published, and no more. -/
theorem leads_ofChanges (desk : Desk) (changes : List Change) :
    desk.Leads (Incident.ofChanges changes) (changes.foldl EventHub.publish desk.hub) desk.turns desk.running
      desk.handled := by
  induction changes generalizing desk with
  | nil => exact .refl desk
  | cons change rest hypothesis => exact .cons (hypothesis (desk.publish change))

/-- The call that began last returns. -/
theorem leads_returns {call : Nat × Letter} (calls : desk.running = call :: running) :
    desk.Leads [.returns] desk.hub.endCall desk.turns running desk.handled := by
  have finished : desk.step .returns = { desk with hub := desk.hub.endCall, running := running } := by
    simp only [step, finish, calls]
  exact .cons (finished ▸ ⟨rfl, rfl, rfl, rfl⟩)

end Desk

namespace Network

open Desk

variable {network : Network} {desk : Desk} {number : Nat} {letter : Letter}
  {rest : List (Nat × Letter)}

/-! ### One turn -/

/-- **What a callback does** ends a subscription, or is heard by the hub. -/
theorem leads_act (same : desk.hub = network.events) (act : Act) :
    desk.Leads (network.incidentsOfAct act) (network.act act).events desk.turns desk.running
      desk.handled := by
  have carried : ∀ deeds, desk.Leads (Incident.ofChanges (network.heard Observer.isEvents deeds))
      (network.carryAll deeds).events desk.turns desk.running desk.handled := fun deeds => by
    rw [events_carryAll, ← same]
    exact desk.leads_ofChanges _
  cases act with
  | unsubscribe label => exact ⟨congrArg (EventHub.unsubscribe · label) same, rfl, rfl, rfl⟩
  | release label => exact ⟨congrArg (EventHub.release · label) same, rfl, rfl, rfl⟩
  | createLink =>
    have carry := carried [.createTypedLink .constantLink]
    rwa [carryAll_cons, network.carry_createLink] at carry
  | createNode | createEdge | write | erase | breakOff => exact carried _

theorem leads_acts (same : desk.hub = network.events) (acts : List Act) :
    desk.Leads (network.incidentsOfActs acts) (acts.foldl act network).events desk.turns desk.running
      desk.handled := by
  induction acts generalizing desk network with
  | nil => exact same ▸ .refl desk
  | cons act rest hypothesis =>
    have first := leads_act same act
    have next := hypothesis first.hub
    rw [first.turns, first.running, first.handled] at next
    exact .after _ next

/-- **A turn is an offer.** If the subscription is called, it does what it does, and returns. -/
theorem leads_call (same : desk.hub = network.events) (turns : desk.turns = (number, letter) :: rest) :
    desk.Leads (network.incidentsOfCall letter.notification number)
      (network.call letter.notification number).events rest desk.running desk.handled := by
  have callee : desk.callee? number letter.notification =
      (network.events.find? number).filter fun subscription =>
        subscription.isActive && subscription.admits letter.notification := by
    rw [callee?, same]
  have passed : desk.callee? number letter.notification = none →
      desk.Leads [.offer] network.events rest desk.running desk.handled := fun nobody => by
    have offered : desk.step .offer = { desk with turns := rest } := by
      simp only [step, offer, turns, nobody]
    exact .cons (offered ▸ ⟨same, rfl, rfl, rfl⟩)
  unfold incidentsOfCall call
  cases found : network.events.find? number with
  | none => exact passed (by rw [callee, found]; rfl)
  | some subscription =>
    rw [found] at callee
    by_cases listens : (subscription.isActive && subscription.admits letter.notification) = true
    · rw [Option.filter_some, if_pos listens] at callee
      simp only [listens, if_true]
      have offered : desk.step .offer = { desk with
          hub := desk.hub.beginCall subscription letter.notification
          turns := rest
          running := (number, letter) :: desk.running
          calls := desk.calls ++ [(number, letter)] } := by
        simp only [step, offer, turns, callee]
      let begun := network.updateEvents (·.beginCall subscription letter.notification)
      have sameBegun : (desk.step .offer).hub = begun.events := by
        rw [offered, same]
        rfl
      have acted := leads_acts sameBegun ((subscription.reaction.acts subscription.calls
        letter.notification begun.store).takeWhile (· != .breakOff))
      rw [offered] at acted
      -- The call that returns is the one that was begun: those below it stay.
      have returned := leads_returns acted.running
      rw [acted.hub, acted.turns, acted.handled] at returned
      exact .cons (offered ▸ .after _ returned)
    · rw [Option.filter_some, if_neg listens] at callee
      simp only [listens]
      exact passed callee

/-! ### One notification, and all -/

theorem leads_calls (same : desk.hub = network.events) (numbers : List Nat)
    (turns : desk.turns = numbers.map fun number => (number, letter)) :
    desk.Leads (network.incidentsOfCalls letter.notification numbers)
      (numbers.foldl (call · letter.notification) network).events [] desk.running desk.handled := by
  induction numbers generalizing desk network with
  | nil => exact ⟨same, turns, rfl, rfl⟩
  | cons number rest hypothesis =>
    have first := leads_call same turns
    have next := hypothesis first.hub first.turns
    rw [first.running, first.handled] at next
    exact .after _ next

/-- **A dispatch is a run of incidents**, and handles as many notifications as it says. -/
theorem leads_dispatchAtMost (sound : desk.Sound) (same : desk.hub = network.events)
    (idle : desk.turns = []) (bound : Nat) : ∃ letters : List Letter,
      letters.length = (network.dispatchAtMost bound).2 ∧
        desk.Leads (network.incidentsOfDispatch bound) (network.dispatchAtMost bound).1.events []
          desk.running (desk.handled ++ letters) := by
  induction bound generalizing desk network with
  | zero => exact ⟨[], rfl, same, idle, rfl, (List.append_nil _).symm⟩
  | succ bound hypothesis =>
    unfold dispatchAtMost incidentsOfDispatch
    cases queue : network.events.queue with
    | nil =>
      rw [EventHub.take?_eq_none queue]
      exact ⟨[], rfl, same, idle, rfl, (List.append_nil _).symm⟩
    | cons notification rest =>
      have posted := sound.posted.queue
      rw [same, queue] at posted
      obtain ⟨letter, letters, waits, rfl, -⟩ := List.map_eq_cons_iff.1 posted
      rw [EventHub.take?_eq queue]
      have taken : desk.step .take = _ := take_eq idle waits
      have sameTaken : (desk.step .take).hub = { network with events := network.events.tail }.events :=
        by rw [taken, same]
      have turns : (desk.step .take).turns =
          (network.events.tail.targets letter.notification).map fun number => (number, letter) := by
        rw [taken, same]
        rfl
      have served := leads_calls sameTaken _ turns
      obtain ⟨others, count, drained⟩ :=
        hypothesis (sound_run (sound_step sound .take) _) served.hub served.turns
      rw [served.running, served.handled, taken, List.append_assoc] at drained
      refine ⟨[letter] ++ others, ?_, .cons (.after _ ?_)⟩
      · rw [List.length_append, count, Nat.add_comm]
        rfl
      · rw [taken]
        exact drained

end Network

end SemanticNetwork
