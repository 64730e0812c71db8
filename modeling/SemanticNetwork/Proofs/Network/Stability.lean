/-
**What every operation on a network keeps.** What an observer or a subscriber does in its turn is made
of operations on the store, so a network keeps a property whatever it is asked for, if these
operations keep it and it does not depend on what observers and subscribers remember.

* `Network.Stable`: what there is to show of a property;
* `Network.stable_has`: a stable property of the store;
* `Network.Stable.publish`: **telling keeps a stable property**, whatever the observers do;
* `Network.Steady`: a property that may depend on what is remembered, but that telling keeps, with
  `Steady.keeps_createEdge`, `Steady.erase` and their kin: each operation keeps it;
* `Network.steady_observers`: nobody joins the observers or leaves them by that;
* `Network.Lasting`: what every operation keeps as a whole, be it steady or not;
* `Network.Lasting.dispatchAtMost`: **so does a dispatch**, reactions included;
* `Network.Durable`: what other operations have to keep of a property to be made of these.
-/
import SemanticNetwork.Network.Dispatch
import SemanticNetwork.Proofs.Store.Stability

namespace SemanticNetwork

namespace Network

/-- The store of a network has a property. -/
def Has (invariant : Store → Prop) (network : Network) : Prop := invariant network.store

/-- **A property of networks that every operation keeps.** What can be done to the store keeps it, and
so does a new observer; what is remembered does not matter. -/
structure Stable (property : Network → Prop) : Prop where
  store : ∀ network : Network, Store.Stable fun store => property { network with store := store }
  remembered : ∀ {network other : Network}, property network → other.store = network.store →
    other.observers = network.observers → property other
  observe : ∀ {network : Network} observer, property network → property (network.observe observer)

/-- A stable property of the store is a stable property of the network. -/
theorem stable_has {invariant : Store → Prop} (stable : Store.Stable invariant) :
    Stable (Has invariant) where
  store _ := stable
  remembered holds same _ := by
    unfold Has
    rwa [same]
  observe _ holds := holds

theorem run_onStore {α : Type} (action : Store.Action α) (network : Network) :
    (onStore action).run network =
      match action.run network.store with
      | .ok value store => EStateM.Result.ok value { network with store := store }
      | .error error store => EStateM.Result.error error { network with store := store } :=
  rfl

/-- A node can be created with every type that suits one. -/
theorem run_createNode_of_suits (network : Network) {type : ElementType}
    (suits : type.isNodeType = true) : (createNode type).run network =
      .ok network.store.nextAddress { network with
        store := network.store.advance.enrol
          ⟨network.store.nextAddress, type.union .node, .node⟩ } := by
  rw [createNode, run_onStore, Store.run_createNode_of_suits suits]

/-- An edge is created, and its creation is told. -/
theorem run_createEdge (network : Network) (type : ElementType) (source target : Address) :
    (createEdge type source target).run network =
      match (Store.createEdge type source target).run network.store with
      | .ok edge store => EStateM.Result.ok edge
        ({ network with store := store }.publish [.edgeAdded edge source target type])
      | .error error store => EStateM.Result.error error { network with store := store } := by
  simp only [createEdge, createEdgeIn, EStateM.run_bind, run_onStore]
  cases (Store.createEdge type source target).run network.store <;> rfl

/-- A payload is written, and that it was is told. -/
theorem run_setPayload (network : Network) (link : Address) (payload : Payload) :
    (setPayload link payload).run network =
      match (Store.setPayload link payload).run network.store with
      | .ok _ store => EStateM.Result.ok ()
        ({ network with store := store }.publish [.payloadChanged link])
      | .error error store => EStateM.Result.error error { network with store := store } := by
  simp only [setPayload, EStateM.run_bind, run_onStore]
  cases (Store.setPayload link payload).run network.store <;> rfl

variable {property : Network → Prop} {network : Network}

theorem keeps_onStore {α : Type} {action : Store.Action α}
    (keeps : ∀ network : Network,
      Keeps (fun store => property { network with store := store }) action) :
    Keeps property (onStore action) where
  ok {network value after} holds ran := by
    rw [run_onStore] at ran
    split at ran
    · cases ran
      exact (keeps network).ok holds ‹_›
    · cases ran
  error {network error after} holds ran := by
    rw [run_onStore] at ran
    split at ran
    · cases ran
    · cases ran
      exact (keeps network).error holds ‹_›

/-- Whatever keeps a property may be attempted. -/
theorem attempt_of_keeps {α : Type} {action : Action α} (holds : property network)
    (keeps : Keeps property action) : property (network.attempt action) := by
  unfold Network.attempt
  split
  · exact keeps.ok holds ‹_›
  · exact keeps.error holds ‹_›

/-- What keeps a property when it is attempted keeps it, however it ends. -/
theorem keeps_of_attempt {α : Type} {action : Action α}
    (attempt : ∀ {network}, property network → property (network.attempt action)) :
    Keeps property action where
  ok holds ran := by
    have next := attempt holds
    rwa [Network.attempt, ran] at next
  error holds ran := by
    have next := attempt holds
    rwa [Network.attempt, ran] at next

/-- Nothing is told of an edge that is created into a batch. -/
theorem attempt_createEdgeIn (network : Network) (batch : Batch) (type : ElementType)
    (source target : Address) : network.attempt (createEdgeIn batch type source target) =
      network.attempt (onStore (Store.createEdge type source target)) := by
  simp only [Network.attempt, createEdgeIn, EStateM.run_bind, run_onStore]
  cases (Store.createEdge type source target).run network.store <;> rfl

namespace Stable

/-! ### Telling -/

theorem eraseSilently (stable : Stable property) (holds : property network) (address : Address) :
    property (network.eraseSilently address).1 :=
  (stable.store network).erase address holds

theorem react (stable : Stable property) (holds : property network) (change : Change)
    (observer : Observer) : property (network.react change observer).1 := by
  unfold Network.react
  split
  · exact stable.remembered holds rfl rfl
  · exact stable.remembered holds rfl rfl
  · split
    · have forgotten : property (network.forgetLink ‹_›) := stable.remembered holds rfl rfl
      exact stable.eraseSilently forgotten _
    · exact holds
  · split
    · exact stable.eraseSilently holds _
    · exact holds

/-- **Telling keeps a stable property**, whatever the observers do. -/
theorem tell (stable : Stable property) (holds : property network)
    (waiting : List (Change × Observer)) : property (network.tell waiting) := by
  fun_induction Network.tell network waiting with
  | case1 network => exact holds
  | case2 network change observer waiting reaction hypothesis =>
    exact hypothesis (stable.react holds change observer)

theorem publish (stable : Stable property) (holds : property network) (changes : List Change) :
    property (network.publish changes) :=
  stable.tell holds _

end Stable

/-! ### Operations -/

/-- **A property of networks that what can be done to the store keeps, and telling.** It may depend on
what is remembered. -/
structure Steady (property : Network → Prop) : Prop where
  store : ∀ network : Network, Store.Stable fun store => property { network with store := store }
  publish : ∀ {network : Network} changes, property network → property (network.publish changes)
  events : ∀ {network : Network} change, property network → property (network.updateEvents change)

/-- **A property of networks that the operations of naming keep**, whatever it depends on: telling
belongs to them, so that it may be about what observers and subscribers remember. -/
structure Durable (property : Network → Prop) : Prop where
  createNode : ∀ type, Keeps property (Network.createNode type)
  createTypedLink : ∀ type, Keeps property (Network.createTypedLink type)
  createEdge : ∀ type source target, Keeps property (Network.createEdge type source target)
  setPayload : ∀ link payload, Keeps property (Network.setPayload link payload)
  erase : ∀ {network : Network} address, property network → property (network.erase address)
  tracked : ∀ {network : Network} links, property network →
    property { network with identifierLinks := links }

theorem Stable.steady (stable : Stable property) : Steady property where
  store := stable.store
  publish changes holds := stable.publish holds changes
  events _ holds := stable.remembered holds rfl rfl

namespace Steady

theorem keeps_announce (steady : Steady property) (changes : List Change) :
    Keeps property (announce changes) :=
  .modify fun _ holds => steady.publish changes holds

theorem keeps_createNode (steady : Steady property) (type : ElementType) :
    Keeps property (createNode type) :=
  keeps_onStore fun network => (steady.store network).createNode type

theorem keeps_createTypedLink (steady : Steady property) (type : ElementType) :
    Keeps property (createTypedLink type) :=
  keeps_onStore fun network => (steady.store network).createTypedLink type

theorem keeps_createEdgeIn (steady : Steady property) (batch : Batch) (type : ElementType)
    (source target : Address) : Keeps property (createEdgeIn batch type source target) :=
  (keeps_onStore fun network => (steady.store network).createEdge type source target).bind
    fun _ => .pure _

theorem keeps_createEdge (steady : Steady property) (type : ElementType)
    (source target : Address) : Keeps property (createEdge type source target) :=
  (steady.keeps_createEdgeIn .empty type source target).bind fun _ =>
    (steady.keeps_announce _).bind fun _ => .pure _

theorem keeps_setPayload (steady : Steady property) (link : Address) (payload : Payload) :
    Keeps property (setPayload link payload) :=
  (keeps_onStore fun network => (steady.store network).setPayload link payload).bind
    fun _ => steady.keeps_announce _

theorem erase (steady : Steady property) (holds : property network) (address : Address) :
    property (network.erase address) :=
  steady.publish _ ((steady.store network).erase address holds)

theorem rollback (steady : Steady property) (holds : property network) (created : List Address) :
    property (network.rollback created) := by
  have restored : property { network with store := (network.store.rollback created).1 } :=
    (steady.store network).eraseAll holds _
  exact steady.publish _ restored

theorem generate (steady : Steady property) (holds : property network) (template : Template)
    (parameters : Assignment) : property (network.generate template parameters).2 := by
  have made : property
      { network with store := (template.generate network.store parameters).store } :=
    (steady.store network).generate template parameters holds
  exact steady.publish _ made

/-- What telling keeps, and what is tracked does not matter to, naming keeps. -/
theorem durable (steady : Steady property)
    (tracked : ∀ {network : Network} links, property network →
      property { network with identifierLinks := links }) : Durable property where
  createNode := steady.keeps_createNode
  createTypedLink := steady.keeps_createTypedLink
  createEdge := steady.keeps_createEdge
  setPayload := steady.keeps_setPayload
  erase address holds := steady.erase holds address
  tracked := tracked

end Steady

theorem Stable.durable (stable : Stable property) : Durable property :=
  stable.steady.durable fun _ holds => stable.remembered holds rfl rfl

/-- Telling leaves the observers alone. -/
theorem observers_tell (network : Network) (waiting : List (Change × Observer)) :
    (network.tell waiting).observers = network.observers := by
  fun_induction Network.tell network waiting with
  | case1 network => rfl
  | case2 network change observer waiting reaction hypothesis =>
    exact hypothesis.trans (observers_react network change observer)

theorem observers_publish (network : Network) (changes : List Change) :
    (network.publish changes).observers = network.observers :=
  network.observers_tell _

/-- **Nobody joins the observers** without being asked to, and nobody leaves them. -/
theorem steady_observers (observers : List Observer) :
    Steady fun network => network.observers = observers where
  store network := Store.stable_const (network.observers = observers)
  publish changes same := (observers_publish _ changes).trans same
  events _ same := same

/-! ### Addresses -/

section Addresses

variable (consistent : network.store.Consistent)

include consistent

theorem has_precedes_self : network.Has fun store =>
    store.Consistent ∧ network.store.Precedes store :=
  ⟨consistent, .refl _⟩

/-- **Nothing new comes to an old address** by telling. -/
theorem precedes_publish (changes : List Change) :
    network.store.Precedes (network.publish changes).store :=
  ((stable_has (Store.stable_precedes _)).publish (has_precedes_self consistent) changes).2

theorem precedes_erase (address : Address) :
    network.store.Precedes (network.erase address).store :=
  ((stable_has (Store.stable_precedes _)).steady.erase (has_precedes_self consistent) address).2

theorem precedes_rollback (created : List Address) :
    network.store.Precedes (network.rollback created).store :=
  ((stable_has (Store.stable_precedes _)).steady.rollback (has_precedes_self consistent) created).2

end Addresses

/-! ### Dispatch -/

/-- **A property of networks that every operation keeps as a whole**, with what is told of it. So it may
be about what observers and subscribers remember, and about what they have heard. -/
structure Lasting (property : Network → Prop) : Prop where
  createNode : ∀ type, Keeps property (Network.createNode type)
  createTypedLink : ∀ type, Keeps property (Network.createTypedLink type)
  createEdgeIn : ∀ batch type source target,
    Keeps property (Network.createEdgeIn batch type source target)
  createEdge : ∀ type source target, Keeps property (Network.createEdge type source target)
  setPayload : ∀ link payload, Keeps property (Network.setPayload link payload)
  erase : ∀ {network : Network} address, property network → property (network.erase address)
  generate : ∀ {network : Network} template parameters, property network →
    property (network.generate template parameters).2
  events : ∀ {network : Network} change, property network → property (network.updateEvents change)

theorem Steady.lasting (steady : Steady property) : Lasting property where
  createNode := steady.keeps_createNode
  createTypedLink := steady.keeps_createTypedLink
  createEdgeIn := steady.keeps_createEdgeIn
  createEdge := steady.keeps_createEdge
  setPayload := steady.keeps_setPayload
  erase address holds := steady.erase holds address
  generate template parameters holds := steady.generate holds template parameters
  events := steady.events

namespace Lasting

theorem createLink (lasting : Lasting property) : Keeps property Network.createLink := by
  rw [Network.createLink, Store.createLink_eq]
  exact lasting.createTypedLink _

theorem act (lasting : Lasting property) (holds : property network) (act : Act) :
    property (network.act act) := by
  cases act with
  | unsubscribe label => exact lasting.events (·.unsubscribe label) holds
  | release label => exact lasting.events (·.release label) holds
  | createNode type => exact attempt_of_keeps holds (lasting.createNode type)
  | createLink => exact attempt_of_keeps holds lasting.createLink
  | createEdge type source target =>
    exact attempt_of_keeps holds (lasting.createEdge type source target)
  | write link payload => exact attempt_of_keeps holds (lasting.setPayload link payload)
  | erase address => exact lasting.erase address holds
  | breakOff => exact holds

theorem perform (lasting : Lasting property) (holds : property network) (acts : List Act) :
    property (network.perform acts) := by
  unfold Network.perform
  generalize acts.takeWhile (· != .breakOff) = acts
  induction acts generalizing network with
  | nil => exact holds
  | cons act rest hypothesis => exact hypothesis (lasting.act holds act)

theorem call (lasting : Lasting property) (holds : property network) (notification : Notification)
    (number : Nat) : property (network.call notification number) := by
  unfold Network.call
  split
  · exact holds
  · split
    · exact lasting.events _ (lasting.perform (lasting.events _ holds) _)
    · exact holds

theorem dispatch (lasting : Lasting property) (holds : property network)
    (notification : Notification) : property (network.dispatch notification) := by
  unfold Network.dispatch
  generalize network.events.targets notification = targets
  induction targets generalizing network with
  | nil => exact holds
  | cons number rest hypothesis => exact hypothesis (lasting.call holds notification number)

/-- **A dispatch keeps what every operation keeps**, reactions included. -/
theorem dispatchAtMost (lasting : Lasting property) (holds : property network) (bound : Nat) :
    property (network.dispatchAtMost bound).1 := by
  induction bound generalizing network with
  | zero => exact holds
  | succ bound hypothesis =>
    unfold Network.dispatchAtMost
    split
    · exact holds
    · rename_i notification events _
      have taken : property { network with events := events } := lasting.events (fun _ => events) holds
      exact hypothesis (lasting.dispatch taken _)

end Lasting

theorem Durable.createLink (durable : Durable property) : Keeps property Network.createLink := by
  rw [Network.createLink, Store.createLink_eq]
  exact durable.createTypedLink _

end Network

end SemanticNetwork
