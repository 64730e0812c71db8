/-
**Sessions.** A session is a network in use: calls that create, write and erase, batches that hold
changes back until they are committed or rolled back, templates that are generated, observers and
subscriptions that react by erasing and creating in their turn. Any call may be refused, and the
session goes on.

* `Session.run`: a session after some calls, and `Store.Reachable`, the stores of sessions;
* `has_step_of_lasting`: **every call keeps what every operation keeps**;
* `observers_step`: who observes after a call;
* `has_step`, `has_run`: so every call keeps a stable property, and so does a whole session;
* `mem_batches_step`: what batches hold back;
* `Store.Reachable.consistent`, `run_answersFromTable`: **so every reachable store is consistent,
  and its indexes say what its table says**;
* `Store.stable_reachedAlone`: whatever else is made of operations on a store, sessions reach it.
-/
import SemanticNetwork.Proofs.Network.Stability
import SemanticNetwork.Proofs.Store.Queries

namespace SemanticNetwork

/-- A network in use, with the batches that hold changes back. -/
structure Session where
  network : Network
  batches : Nat → Batch

/-- What can be asked of a network. -/
inductive Call where
  | createNode (type : ElementType)
  | createLink
  | createTypedLink (type : ElementType)
  | createEdge (type : ElementType) (source target : Address)
  | createEdgeIn (batch : Nat) (type : ElementType) (source target : Address)
  | setPayload (link : Address) (payload : Payload)
  | erase (address : Address)
  | commit (batch : Nat)
  | rollback (batch : Nat) (created : List Address)
  | generate (template : Template) (parameters : Assignment)
  | observe (observer : Observer)
  | subscribe (request : SubscriptionRequest)
  | dispatch

/-- Who joins the observers by a call. -/
def Call.newcomers : Call → List Observer
  | observe observer => [observer]
  | _ => []

namespace Session

/-- A session before the first call. -/
def start (events : EventHub) (observers : List Observer) : Session :=
  ⟨.empty events observers, fun _ => .empty⟩

/-- The session with another network. -/
def withNetwork (session : Session) (network : Network) : Session :=
  { session with network := network }

/-- The session with another batch under a number. -/
def withBatch (session : Session) (number : Nat) (batch : Batch) : Session :=
  { session with
    batches := fun other => if other = number then batch else session.batches other }

/-- The session after something that may be refused. -/
def attempt {α : Type} (session : Session) (action : Network.Action α) : Session :=
  session.withNetwork (session.network.attempt action)

/-- The session after an edge was created into a batch, or was refused. -/
def createEdgeIn (session : Session) (number : Nat) (type : ElementType)
    (source target : Address) : Session :=
  match (Network.createEdgeIn (session.batches number) type source target).run session.network with
  | .ok (_, batch) network => (session.withNetwork network).withBatch number batch
  | .error _ network => session.withNetwork network

/-- The network after a request for a subscription, which may be refused. -/
def subscribed (network : Network) (request : SubscriptionRequest) : Network :=
  match network.events.subscribe request with
  | .ok (_, events) => { network with events := events }
  | .error _ => network

/-- The session after a call. A batch that is committed or rolled back is empty again. -/
def step (session : Session) : Call → Session
  | .createNode type => session.attempt (Network.createNode type)
  | .createLink => session.attempt Network.createLink
  | .createTypedLink type => session.attempt (Network.createTypedLink type)
  | .createEdge type source target => session.attempt (Network.createEdge type source target)
  | .createEdgeIn number type source target => session.createEdgeIn number type source target
  | .setPayload link payload => session.attempt (Network.setPayload link payload)
  | .erase address => session.withNetwork (session.network.erase address)
  | .commit number =>
    (session.withNetwork (session.network.commit (session.batches number))).withBatch number .empty
  | .rollback number created =>
    (session.withNetwork (session.network.rollback created)).withBatch number .empty
  | .generate template parameters =>
    session.withNetwork (session.network.generate template parameters).2
  | .observe observer => session.withNetwork (session.network.observe observer)
  | .subscribe request => session.withNetwork (subscribed session.network request)
  | .dispatch => session.withNetwork session.network.dispatchPending.1

/-- The session after some calls, one after another. -/
def run (session : Session) (calls : List Call) : Session := calls.foldl step session

theorem run_append (session : Session) (earlier later : List Call) :
    session.run (earlier ++ later) = (session.run earlier).run later :=
  List.foldl_append

end Session

/-- A store is reachable if some session ends with it. -/
def Store.Reachable (store : Store) : Prop :=
  ∃ events observers calls, ((Session.start events observers).run calls).network.store = store

/-! ### What sessions keep -/

/-- The store of a network is consistent. -/
def Network.IsConsistent (network : Network) : Prop := network.store.Consistent

namespace Session

variable {session : Session} {property : Network → Prop}

/-- **Every call keeps what every operation keeps**, whether it succeeds or is refused. What becomes of
a batch is to be shown besides, and what a new observer makes. -/
theorem has_step_of_lasting (lasting : Network.Lasting property) (holds : property session.network)
    (call : Call)
    (commit : ∀ number, call = .commit number →
      property (session.network.commit (session.batches number)))
    (rollback : ∀ number created, call = .rollback number created →
      property (session.network.rollback created))
    (observe : ∀ observer, call = .observe observer → property (session.network.observe observer)) :
    property (session.step call).network := by
  cases call with
  | createNode type => exact Network.attempt_of_keeps holds (lasting.createNode type)
  | createLink => exact Network.attempt_of_keeps holds lasting.createLink
  | createTypedLink type => exact Network.attempt_of_keeps holds (lasting.createTypedLink type)
  | createEdge type source target =>
    exact Network.attempt_of_keeps holds (lasting.createEdge type source target)
  | createEdgeIn number type source target =>
    show property (session.createEdgeIn number type source target).network
    have keeps := lasting.createEdgeIn (session.batches number) type source target
    unfold createEdgeIn
    split
    · exact keeps.ok holds ‹_›
    · exact keeps.error holds ‹_›
  | setPayload link payload =>
    exact Network.attempt_of_keeps holds (lasting.setPayload link payload)
  | erase address => exact lasting.erase address holds
  | commit number => exact commit number rfl
  | rollback number created => exact rollback number created rfl
  | generate template parameters => exact lasting.generate template parameters holds
  | observe observer => exact observe observer rfl
  | subscribe request =>
    show property (subscribed session.network request)
    unfold subscribed
    split
    · exact lasting.events (fun _ => _) holds
    · exact holds
  | dispatch => exact lasting.dispatchAtMost holds _

/-- **Every call keeps a stable property.** -/
theorem has_step (stable : Network.Stable property) (holds : property session.network) (call : Call) :
    property (session.step call).network :=
  has_step_of_lasting stable.steady.lasting holds call (fun _ _ => stable.publish holds _)
    (fun _ created _ => stable.steady.rollback holds created)
    fun observer _ => stable.observe observer holds

/-- **A whole session keeps a stable property.** -/
theorem has_run (stable : Network.Stable property) (holds : property session.network)
    (calls : List Call) : property (session.run calls).network := by
  induction calls generalizing session with
  | nil => exact holds
  | cons call rest hypothesis => exact hypothesis (has_step stable holds call)

/-- **Who observes after a call**: whoever did before, and who joined by it. -/
theorem observers_step (session : Session) (call : Call) :
    (session.step call).network.observers = session.network.observers ++ call.newcomers := by
  have steady := Network.steady_observers session.network.observers
  have stay : (∀ observer, call ≠ .observe observer) →
      (session.step call).network.observers = session.network.observers := fun other =>
    has_step_of_lasting steady.lasting rfl call (fun _ _ => steady.publish _ rfl)
      (fun _ created _ => steady.rollback rfl created) fun observer same =>
        absurd same (other observer)
  cases call with
  | observe observer => rfl
  | _ => exact (stay nofun).trans (List.append_nil _).symm

/-- **What a batch holds back** after a call it held back before, or the call created a new edge into
it. -/
theorem mem_batches_step {number : Nat} {change : Change} {call : Call}
    (member : change ∈ ((session.step call).batches number).changes) :
    change ∈ (session.batches number).changes ∨
      ∃ edge source target type, change = .edgeAdded edge source target type ∧
        (session.step call).network.store.get? edge = some ⟨edge, type, .edge source target⟩ ∧
        call = .createEdgeIn number type source target ∧
        edge = session.network.store.nextAddress := by
  have emptied : ∀ other (network : Network), change ∈
      (((session.withNetwork network).withBatch other .empty).batches number).changes →
        change ∈ (session.batches number).changes := by
    intro other network member
    simp only [withBatch, withNetwork] at member
    split at member
    · cases member
    · exact member
  cases call with
  | createEdgeIn other type source target =>
    simp only [step, createEdgeIn, Network.createEdgeIn, EStateM.run_bind,
      Network.run_onStore] at member ⊢
    cases ran : (Store.createEdge type source target).run session.network.store with
    | error error store =>
      rw [ran] at member
      exact .inl member
    | ok edge store =>
      rw [ran] at member
      simp only [EStateM.run_pure, withBatch, withNetwork] at member ⊢
      split at member
      · rename_i same
        subst same
        obtain ⟨-, -, adds⟩ := Store.createEdge_ok ran
        refine (List.mem_append.1 member).imp id fun new => ?_
        exact ⟨edge, source, target, type, List.mem_singleton.1 new, adds.get?_self, rfl,
          adds.address⟩
      · exact .inl member
  | commit other => exact .inl (emptied other _ member)
  | rollback other created => exact .inl (emptied other _ member)
  | createNode type => exact .inl member
  | createLink => exact .inl member
  | createTypedLink type => exact .inl member
  | createEdge type source target => exact .inl member
  | setPayload link payload => exact .inl member
  | erase address => exact .inl member
  | generate template parameters => exact .inl member
  | observe observer => exact .inl member
  | subscribe request => exact .inl member
  | dispatch => exact .inl member

/-! ### Reachable stores -/

theorem consistent_start (events : EventHub) (observers : List Observer) :
    (start events observers).network.IsConsistent :=
  Store.consistent_empty

/-- **A whole session keeps the store consistent.** -/
theorem consistent_run (consistent : session.network.IsConsistent) (calls : List Call) :
    (session.run calls).network.IsConsistent :=
  has_run (Network.stable_has Store.stable_consistent) consistent calls

/-- **Whatever was called before, the indexes say what the table says**: every query has the answer
of a scan of the table, and no index keeps anything that the table does not have. -/
theorem run_answersFromTable (events : EventHub) (observers : List Observer) (calls : List Call) :
    ((start events observers).run calls).network.store.AnswersFromTable :=
  Store.answersFromTable_of_consistent (consistent_run (consistent_start events observers) calls)

end Session

/-- **Every reachable store is consistent.** -/
theorem Store.Reachable.consistent {store : Store} (reachable : store.Reachable) :
    store.Consistent := by
  obtain ⟨events, observers, calls, rfl⟩ := reachable
  exact Session.consistent_run (Session.consistent_start events observers) calls

/-! ### Sessions to which nobody listens -/

namespace Network

variable {network : Network}

/-- Where nobody listens, telling changes nothing. -/
theorem publish_of_alone (network : Network) (alone : network.observers = [])
    (changes : List Change) : network.publish changes = network := by
  have nobody : network.audience changes = [] := by simp [audience, alone]
  rw [publish, nobody, tell]

theorem attempt_createEdge_of_alone (alone : network.observers = []) (type : ElementType)
    (source target : Address) : network.attempt (createEdge type source target) =
      network.attempt (onStore (Store.createEdge type source target)) := by
  rw [attempt, run_createEdge, attempt, run_onStore]
  cases (Store.createEdge type source target).run network.store with
  | error error store => rfl
  | ok edge store =>
    exact publish_of_alone { network with store := store } alone _

theorem attempt_setPayload_of_alone (alone : network.observers = []) (link : Address)
    (payload : Payload) : network.attempt (setPayload link payload) =
      network.attempt (onStore (Store.setPayload link payload)) := by
  rw [attempt, run_setPayload, attempt, run_onStore]
  cases (Store.setPayload link payload).run network.store with
  | error error store => rfl
  | ok _ store =>
    exact publish_of_alone { network with store := store } alone _

end Network

/-- A store that a session reaches to which nobody listens. -/
def Store.ReachedAlone (store : Store) : Prop :=
  ∃ (session : Session) (events : EventHub) (calls : List Call),
    session = (Session.start events []).run calls ∧ session.network.observers = [] ∧
      session.network.store = store

theorem Store.reachedAlone_empty : Store.empty.ReachedAlone :=
  ⟨Session.start (.new 0 .manual) [], _, [], rfl, rfl, rfl⟩

theorem Store.ReachedAlone.reachable {store : Store} (reached : store.ReachedAlone) :
    store.Reachable := by
  obtain ⟨session, events, calls, rfl, -, rfl⟩ := reached
  exact ⟨events, [], calls, rfl⟩

/-- What a call makes of a store is reached, too. -/
theorem Store.ReachedAlone.call {store after : Store} (reached : store.ReachedAlone) (call : Call)
    (called : ∀ session : Session, session.network.observers = [] →
      session.network.store = store → (session.step call).network =
        { session.network with store := after }) : after.ReachedAlone := by
  obtain ⟨session, events, calls, rfl, alone, same⟩ := reached
  have next := called _ alone same
  refine ⟨_, events, calls ++ [call], ?_, ?_, congrArg Network.store next⟩
  · exact (Session.run_append _ calls [call]).symm
  · rw [next]
    exact alone

theorem Store.keeps_reachedAlone {α : Type} {action : Store.Action α} (call : Call)
    (called : ∀ session : Session, session.network.observers = [] →
      (session.step call).network = session.network.attempt (Network.onStore action)) :
    Keeps ReachedAlone action where
  ok {store value after} reached ran := by
    refine reached.call call fun session alone same => ?_
    rw [called session alone, Network.attempt, Network.run_onStore, same, ran]
  error {store error after} reached ran := by
    refine reached.call call fun session alone same => ?_
    rw [called session alone, Network.attempt, Network.run_onStore, same, ran]

theorem Store.stable_reachedAlone : Stable ReachedAlone where
  createNode type := keeps_reachedAlone (.createNode type) fun _ _ => rfl
  createTypedLink type := keeps_reachedAlone (.createTypedLink type) fun _ _ => rfl
  createEdge type source target := keeps_reachedAlone (.createEdge type source target)
    fun _ alone => Network.attempt_createEdge_of_alone alone type source target
  setPayload link payload := keeps_reachedAlone (.setPayload link payload)
    fun _ alone => Network.attempt_setPayload_of_alone alone link payload
  erase {store} address reached := by
    refine reached.call (.erase address) fun session alone same => ?_
    subst same
    exact Network.publish_of_alone (session.network.eraseSilently address).1 alone _
  generate {store} template parameters reached := by
    refine reached.call (.generate template parameters) fun session alone same => ?_
    subst same
    exact Network.publish_of_alone { session.network with
      store := (template.generate session.network.store parameters).store } alone _

end SemanticNetwork
