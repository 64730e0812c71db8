/-
**What subscribers of a memory hear.** Those who hold subscriptions can give them up, and everyone can
ask a memory for what it offers. Order by order, what happens at the hub of the memory is a run of
incidents, and the changes that are published in it are those that the hub heard of what was done; and
of every such run it is known what subscribers are called with.

* `Order`, `Usage.obey`: what a memory in use can be told to do;
* `Order.Means`, `Usage.Recounts`: **what happens at the hub**, order by order;
* `Usage.leads_of_means`, `Memory.AccountedBy.of_recounts`: a history makes of the hub what the memory
  makes of it, and as many notifications are handled in it as the dispatches say;
* `Memory.exists_accountedBy`: **every run of orders has such a history**;
* `delivers_faithfully`: **who listens is called once, in order, with what it asked for, and never
  after its end**;
* `hears_what_waited`: **a late subscription hears what still waited when it was made**, and of the
  past nothing else.
-/
import SemanticNetwork.Proofs.Memory.Chronicle
import SemanticNetwork.Proofs.Network.Turns

namespace SemanticNetwork

/-- What a memory in use, and those who hold its subscriptions, can be told to do. -/
inductive Order where
  | request (request : Request)
  | unsubscribe (label : String)
  | release (label : String)

namespace Usage

/-- The memory in use with another hub. -/
def updateEvents (usage : Usage) (change : EventHub → EventHub) : Usage :=
  { usage with memory := usage.memory.withNetwork (usage.memory.network.updateEvents change) }

/-- A memory in use after an order. -/
def obey (usage : Usage) : Order → Usage
  | .request request => usage.step request
  | .unsubscribe label => usage.updateEvents (·.unsubscribe label)
  | .release label => usage.updateEvents (·.release label)

/-- A memory in use after some orders, one after another. -/
def obeyAll (usage : Usage) (orders : List Order) : Usage := orders.foldl obey usage

/-- How many notifications are handled on an order, as the dispatch says. -/
def drainedBy (usage : Usage) : Order → Nat
  | .request (.call .dispatch) => usage.memory.network.dispatchPending.2
  | _ => 0

/-- How many notifications are handled on some orders. -/
def drained (usage : Usage) : List Order → Nat
  | [] => 0
  | order :: rest => usage.drainedBy order + (usage.obey order).drained rest

/-- The hub of a memory in use. -/
def events (usage : Usage) : EventHub := usage.memory.network.events

/-- The network in use, when the store was rolled back and nothing was told of it yet. -/
def rolledBack (usage : Usage) (created : List Address) : Network :=
  { usage.memory.network with store := (usage.store.rollback created).1 }

end Usage

/-- **What an order means at the hub** of a memory in use. Of what is done to the network the hub
publishes what it hears: of the deeds that a request is made of, of the changes that a batch held
back, and of what went with a rollback. -/
inductive Order.Means (usage : Usage) : Order → List Incident → Prop where
  | unsubscribe (label : String) : Means usage (.unsubscribe label) [.unsubscribe label]
  | release (label : String) : Means usage (.release label) [.release label]
  | subscribe (request : SubscriptionRequest) :
    Means usage (.request (.call (.subscribe request))) [.subscribe request]
  | dispatch : Means usage (.request (.call .dispatch))
    (usage.memory.network.incidentsOfDispatch usage.memory.network.dispatchBound)
  | observe (observer : Observer) : Means usage (.request (.call (.observe observer))) []
  | createEdgeIn (number : Nat) (type : ElementType) (source target : Address) :
    Means usage (.request (.call (.createEdgeIn number type source target))) []
  | commit (number : Nat) : Means usage (.request (.call (.commit number))) (Incident.ofChanges
    (usage.memory.network.echo Observer.isEvents (usage.batches number).changes))
  | rollback (number : Nat) (created : List Address) :
    Means usage (.request (.call (.rollback number created))) (Incident.ofChanges
      ((usage.rolledBack created).echo Observer.isEvents (usage.store.rollback created).2))
  | deeds {request : Request} {deeds : List Network.Deed}
    (unfolds : request.Unfolds usage.memory.relation deeds)
    (carried : usage.memory.network.carryAll deeds = (usage.step request).memory.network) :
    Means usage (.request request)
      (Incident.ofChanges (usage.memory.network.heard Observer.isEvents deeds))

/-- **A history of orders** says what happened at the hub, order by order. -/
inductive Usage.Recounts : Usage → List Order → List (List Incident) → Prop where
  | nil (usage : Usage) : Recounts usage [] []
  | cons {usage : Usage} {order : Order} {rest : List Order} {incidents : List Incident}
    {history : List (List Incident)} (means : order.Means usage incidents)
    (recounts : Recounts (usage.obey order) rest history) :
    Recounts usage (order :: rest) (incidents :: history)

/-- A history accounts for what became of the hub of a memory, order by order. Between two orders no
turn is left, and no call is running. -/
structure Memory.AccountedBy (memory : Memory) (orders : List Order)
    (history : List (List Incident)) : Prop where
  recounts : (Usage.start memory).Recounts orders history
  reached : ∀ count ≤ orders.length,
    ((Desk.start memory.network.events).run (history.take count).flatten).hub =
      ((Usage.start memory).obeyAll (orders.take count)).events
  idle : ∀ count ≤ orders.length,
    ((Desk.start memory.network.events).run (history.take count).flatten).turns = [] ∧
      ((Desk.start memory.network.events).run (history.take count).flatten).running = []
  /-- As many notifications are handled as the dispatches say. -/
  drained : ∀ count ≤ orders.length,
    ((Desk.start memory.network.events).run (history.take count).flatten).handled.length =
      (Usage.start memory).drained (orders.take count)

variable {memory : Memory} {usage : Usage} {desk : Desk} {order : Order}
  {incidents : List Incident} {orders : List Order} {history : List (List Incident)}

/-! ### What each order does to the hub -/

theorem Session.events_subscribed (network : Network) (request : SubscriptionRequest) :
    (subscribed network request).events = Desk.subscribed network.events request := by
  unfold subscribed Desk.subscribed
  cases network.events.subscribe request <;> rfl

/-- Of an edge that is created into a batch the hub hears nothing. -/
theorem Usage.events_createEdgeIn (usage : Usage) (number : Nat) (type : ElementType)
    (source target : Address) :
    (usage.step (.call (.createEdgeIn number type source target))).events = usage.events := by
  show (usage.session.createEdgeIn number type source target).network.events = _
  simp only [Session.createEdgeIn, Network.createEdgeIn, EStateM.run_bind, Network.run_onStore]
  cases (Store.createEdge type source target).run usage.session.network.store <;> rfl

namespace Usage

/-- Where nothing is dispatched, no letter is handled. -/
theorem leads_of_undispatched (same : desk.hub = usage.events) (means : order.Means usage incidents)
    (undispatched : order ≠ .request (.call .dispatch)) :
    desk.Leads incidents (usage.obey order).events desk.turns desk.running desk.handled := by
  have publishes : ∀ {network : Network} {changes : List Change},
      network.events = changes.foldl EventHub.publish usage.events →
        desk.Leads (Incident.ofChanges changes) network.events desk.turns desk.running
          desk.handled := by
    intro network changes heard
    rw [heard, ← same]
    exact desk.leads_ofChanges changes
  cases means with
  | dispatch => exact absurd rfl undispatched
  | unsubscribe label => exact ⟨congrArg (EventHub.unsubscribe · label) same, rfl, rfl, rfl⟩
  | release label => exact ⟨congrArg (EventHub.release · label) same, rfl, rfl, rfl⟩
  | subscribe request =>
    refine ⟨?_, rfl, rfl, rfl⟩
    refine .trans ?_ (Session.events_subscribed usage.memory.network request).symm
    exact congrArg (Desk.subscribed · request) same
  | observe observer => exact ⟨same, rfl, rfl, rfl⟩
  | createEdgeIn number type source target =>
    exact ⟨same.trans (usage.events_createEdgeIn number type source target).symm, rfl, rfl, rfl⟩
  | commit number => exact publishes (usage.memory.network.events_publish _)
  | rollback number created => exact publishes ((usage.rolledBack created).events_publish _)
  | deeds unfolds carried =>
    exact publishes ((congrArg Network.events carried).symm.trans
      (usage.memory.network.events_carryAll _))

theorem drainedBy_eq_zero (undispatched : order ≠ .request (.call .dispatch)) :
    usage.drainedBy order = 0 := by
  unfold Usage.drainedBy
  split
  · exact absurd rfl undispatched
  · rfl

/-- **What an order means makes of the hub what the order makes of it**, and as many notifications are
handled as a dispatch says. -/
theorem leads_of_means (sound : desk.Sound) (same : desk.hub = usage.events)
    (idle : desk.turns = []) (means : order.Means usage incidents) : ∃ letters : List Letter,
      letters.length = usage.drainedBy order ∧
        desk.Leads incidents (usage.obey order).events [] desk.running (desk.handled ++ letters) := by
  by_cases dispatches : order = .request (.call .dispatch)
  · subst dispatches
    cases means with
    | dispatch => exact Network.leads_dispatchAtMost sound same idle _
    | deeds unfolds => cases unfolds
  · have leads := leads_of_undispatched same means dispatches
    rw [idle] at leads
    exact ⟨[], (drainedBy_eq_zero dispatches).symm, (List.append_nil desk.handled).symm ▸ leads⟩

/-- **Whatever is ordered, it means something at the hub.** -/
theorem exists_means (usage : Usage) (order : Order) : ∃ incidents, order.Means usage incidents := by
  cases order with
  | unsubscribe label => exact ⟨_, .unsubscribe label⟩
  | release label => exact ⟨_, .release label⟩
  | request request =>
    by_cases isDeed : request.isDeed = true
    · obtain ⟨deeds, unfolds, carried⟩ := usage.exists_unfolds isDeed
      exact ⟨_, .deeds unfolds carried⟩
    · cases request with
      | call call =>
        cases call with
        | createEdgeIn number type source target =>
          exact ⟨_, .createEdgeIn number type source target⟩
        | commit number => exact ⟨_, .commit number⟩
        | rollback number created => exact ⟨_, .rollback number created⟩
        | observe observer => exact ⟨_, .observe observer⟩
        | subscribe request => exact ⟨_, .subscribe request⟩
        | dispatch => exact ⟨_, .dispatch⟩
        | _ => exact absurd rfl isDeed
      | resolve | setIdentifier => exact absurd rfl isDeed

/-! ### Histories -/

/-- **Every run of orders has a history.** -/
theorem exists_recounts (usage : Usage) (orders : List Order) :
    ∃ history, usage.Recounts orders history := by
  induction orders generalizing usage with
  | nil => exact ⟨[], .nil usage⟩
  | cons order rest hypothesis =>
    obtain ⟨incidents, means⟩ := usage.exists_means order
    obtain ⟨history, recounts⟩ := hypothesis (usage.obey order)
    exact ⟨_, .cons means recounts⟩

/-- **A history makes of the hub what the orders make of it**, order by order. -/
theorem Recounts.leads (recounts : usage.Recounts orders history) (sound : desk.Sound)
    (same : desk.hub = usage.events) (idle : desk.turns = []) : ∀ count ≤ orders.length,
      ∃ letters : List Letter, letters.length = usage.drained (orders.take count) ∧
        desk.Leads (history.take count).flatten (usage.obeyAll (orders.take count)).events []
          desk.running (desk.handled ++ letters) := by
  induction recounts generalizing desk with
  | nil usage =>
    intro count _
    rw [List.take_nil, List.take_nil]
    exact ⟨[], rfl, same, idle, rfl, (List.append_nil _).symm⟩
  | cons means recounts hypothesis =>
    rename_i usage order rest incidents history
    intro count bound
    cases count with
    | zero => exact ⟨[], rfl, same, idle, rfl, (List.append_nil _).symm⟩
    | succ count =>
      obtain ⟨first, handledFirst, leads⟩ := leads_of_means sound same idle means
      obtain ⟨others, handledOthers, next⟩ := hypothesis (Desk.sound_run sound incidents) leads.hub
        leads.turns count (Nat.le_of_succ_le_succ bound)
      rw [leads.running, leads.handled, List.append_assoc] at next
      rw [List.take_succ_cons, List.take_succ_cons, List.flatten_cons]
      refine ⟨first ++ others, ?_, .after _ next⟩
      rw [List.length_append, handledFirst, handledOthers]
      rfl

end Usage

/-- **A history accounts for what became of the hub.** -/
theorem Memory.AccountedBy.of_recounts (fresh : memory.network.events.IsFresh)
    (recounts : (Usage.start memory).Recounts orders history) : memory.AccountedBy orders history := by
  have sound : (Desk.start memory.network.events).Sound := Desk.sound_start fresh
  have leads := recounts.leads sound rfl rfl
  exact {
    recounts := recounts
    reached := fun count bound => by
      obtain ⟨letters, -, leads⟩ := leads count bound
      exact leads.hub
    idle := fun count bound => by
      obtain ⟨letters, -, leads⟩ := leads count bound
      exact ⟨leads.turns, leads.running⟩
    drained := fun count bound => by
      obtain ⟨letters, handled, leads⟩ := leads count bound
      rw [leads.handled, ← handled]
      rfl }

/-- **Every run of orders has a history that accounts for it.** -/
theorem Memory.exists_accountedBy (fresh : memory.network.events.IsFresh) (orders : List Order) :
    ∃ history, memory.AccountedBy orders history := by
  obtain ⟨history, recounts⟩ := (Usage.start memory).exists_recounts orders
  exact ⟨history, .of_recounts fresh recounts⟩

/-! ### The start -/

/-- A hub at which nobody is registered takes no notice of changes. -/
theorem EventHub.publish_of_nobody {hub : EventHub} (nobody : hub.registry = .empty)
    (changes : List Change) : changes.foldl publish hub = hub := by
  have unnoticed : ∀ notification, hub.enqueue notification = hub := fun notification => by
    have unwatched : hub.isWatched notification = false := by
      rw [isWatched, nobody]
      rfl
    rw [enqueue, unwatched]
    rfl
  refine List.foldl_fixed' (fun change => ?_) changes
  exact List.foldl_fixed' unnoticed (Notification.ofChange change)

/-- **Naming leaves a hub alone at which nobody is registered.** -/
theorem Network.durable_nobody {hub : EventHub} (nobody : hub.registry = .empty) :
    Durable fun network => network.events = hub := by
  have silent : ∀ network : Network, Store.Stable fun _ => network.events = hub :=
    fun network => Store.stable_const (network.events = hub)
  have announces : ∀ changes, Keeps (fun network : Network => network.events = hub)
      (announce changes) := fun changes => .modify fun network same => by
    rw [events_publish, same]
    exact EventHub.publish_of_nobody nobody _
  exact {
    createNode := fun type => keeps_onStore fun network => (silent network).createNode type
    createTypedLink := fun type => keeps_onStore fun network => (silent network).createTypedLink type
    createEdge := fun type source target =>
      ((keeps_onStore fun network => (silent network).createEdge type source target).bind
        fun _ => .pure _).bind fun _ => (announces _).bind fun _ => .pure _
    setPayload := fun link payload =>
      (keeps_onStore fun network => (silent network).setPayload link payload).bind
        fun _ => announces _
    erase := fun {network} address same => by
      refine (events_publish (network.eraseSilently address).1 _).trans ?_
      rw [show (network.eraseSilently address).1.events = hub from same]
      exact EventHub.publish_of_nobody nobody _
    tracked := fun _ same => same }

/-- **The hub of a new memory is a new hub**, although its keynodes were created. -/
theorem Memory.events_start {settings : Settings} (started : start settings = .ok memory) :
    memory.network.events = .new settings.queueCapacity settings.dispatch := by
  have durable : Network.Durable fun network =>
      network.events = .new settings.queueCapacity settings.dispatch :=
    Network.durable_nobody rfl
  have keeps := Naming.keeps_populate durable (fun _ same => same) settings.keynodes
  unfold start at started
  split at started
  · cases started
    exact keeps.ok rfl ‹_›
  · cases started

/-- At the hub of a new memory nothing has happened. -/
theorem Memory.isFresh_start {settings : Settings} (started : start settings = .ok memory) :
    memory.network.events.IsFresh :=
  events_start started ▸ EventHub.isFresh_new settings.queueCapacity settings.dispatch

/-! ### What subscribers hear -/

/-- **Subscribers hear faithfully.** What orders do to the hub is a history of incidents; and in every
history, whatever callbacks do between two turns, who listens from before a notification that it wants
is queued until it is dealt with is called with it once, in the order of the changes, with what it
asked for, and never after its end. -/
theorem Memory.delivers_faithfully (fresh : memory.network.events.IsFresh) :
    (∀ orders, ∃ history, memory.AccountedBy orders history) ∧
      ∀ incidents, (Desk.start memory.network.events).Faithful incidents :=
  ⟨exists_accountedBy fresh, Desk.faithful_run (Desk.sound_start fresh)⟩

/-- Three subscriptions to edges from a node, of which the first lets go of the second. -/
def rivalOrders : List Order :=
  [.request (.call (.createNode .constantNode)), .request (.call (.createNode .constantNode)),
    .request (.call (.subscribe
      ⟨"first", ⟨5⟩, .addOutputEdge, .unknown, .always [.release "second"] rfl⟩)),
    .request (.call (.subscribe ⟨"second", ⟨5⟩, .addOutputEdge, .unknown, .none⟩)),
    .request (.call (.subscribe ⟨"third", ⟨5⟩, .addOutputEdge, .membership, .none⟩)),
    .request (.call (.createEdge .membership ⟨5⟩ ⟨6⟩)), .request (.call .dispatch)]

/-- Who is let go of by another callback is not called any more, although a turn was due. -/
theorem Memory.plain_delivers_rivals : plain.network.events.IsFresh ∧
    (∃ history, plain.AccountedBy rivalOrders history ∧
      (Desk.start plain.network.events).Faithful history.flatten) ∧
    ((Usage.start plain).obeyAll rivalOrders).events.log =
      [("first", ⟨.addOutputEdge, ⟨5⟩, ⟨7⟩, ⟨6⟩, .membership⟩),
        ("third", ⟨.addOutputEdge, ⟨5⟩, ⟨7⟩, ⟨6⟩, .membership⟩)] := by
  have fresh := isFresh_start start_plain
  obtain ⟨histories, faithful⟩ := delivers_faithfully fresh
  obtain ⟨history, accounted⟩ := histories rivalOrders
  exact ⟨fresh, ⟨history, accounted, faithful _⟩, by decide +kernel⟩

/-- **A late subscription hears what still waited**, and of the past nothing else. -/
theorem Memory.hears_what_waited (fresh : memory.network.events.IsFresh) :
    (∀ orders, ∃ history, memory.AccountedBy orders history) ∧
      ∀ incidents, (Desk.start memory.network.events).HearsWhatWaited incidents :=
  ⟨exists_accountedBy fresh, Desk.hearsWhatWaited_run fresh⟩

/-- An edge from a node to which one has subscribed before. -/
def earlyOrders : List Order :=
  [.request (.call (.createNode .constantNode)), .request (.call (.createNode .constantNode)),
    .request (.call (.subscribe ⟨"early", ⟨5⟩, .addOutputEdge, .unknown, .none⟩)),
    .request (.call (.createEdge .membership ⟨5⟩ ⟨6⟩))]

/-- Another one subscribes to the node afterwards. -/
def lateOrders : List Order :=
  earlyOrders ++ [.request (.call (.subscribe ⟨"late", ⟨5⟩, .addOutputEdge, .unknown, .none⟩)),
    .request (.call .dispatch)]

/-- What happens at the hub when an edge comes between two subscriptions. -/
def lateHistory : List (List Incident) :=
  let asked := (Usage.start .plain).obeyAll (lateOrders.take 5)
  [[], [], [.subscribe ⟨"early", ⟨5⟩, .addOutputEdge, .unknown, .none⟩],
    [.publish (.edgeAdded ⟨7⟩ ⟨5⟩ ⟨6⟩ .membership)],
    [.subscribe ⟨"late", ⟨5⟩, .addOutputEdge, .unknown, .none⟩],
    asked.memory.network.incidentsOfDispatch asked.memory.network.dispatchBound]

/-- Of a new node nothing is published. -/
theorem Order.means_createNode (usage : Usage) (type : ElementType) :
    Means usage (.request (.call (.createNode type))) [] := by
  have silent : usage.memory.network.heard Observer.isEvents [.createNode type] = [] := by
    simp only [Network.heard, Network.overheard, Network.prepare, Network.prepareWith]
    split <;> rw [Network.echo_nil] <;> rfl
  have means : Means usage (.request (.call (.createNode type)))
      (Incident.ofChanges (usage.memory.network.heard Observer.isEvents [.createNode type])) :=
    .deeds (.createNode type) rfl
  rwa [silent] at means

theorem Memory.accountedBy_lateHistory : plain.AccountedBy lateOrders lateHistory := by
  refine .of_recounts (isFresh_start start_plain) (.cons (Order.means_createNode _ _) <|
    .cons (Order.means_createNode _ _) <| .cons (.subscribe _) <| .cons ?_ <| .cons (.subscribe _) <|
      .cons .dispatch (.nil _))
  have heard : ((Usage.start plain).obeyAll (lateOrders.take 3)).memory.network.heard
      Observer.isEvents [.createEdge .membership ⟨5⟩ ⟨6⟩] =
        [.edgeAdded ⟨7⟩ ⟨5⟩ ⟨6⟩ .membership] := by decide +kernel
  have means : Order.Means ((Usage.start plain).obeyAll (lateOrders.take 3))
      (.request (.call (.createEdge .membership ⟨5⟩ ⟨6⟩))) (Incident.ofChanges
        (((Usage.start plain).obeyAll (lateOrders.take 3)).memory.network.heard
          Observer.isEvents [.createEdge .membership ⟨5⟩ ⟨6⟩])) :=
    .deeds (.createEdge .membership ⟨5⟩ ⟨6⟩) rfl
  rw [heard] at means
  exact means

/-- What the late subscription hears of waited for the early one. -/
theorem Memory.plain_hears_what_waited : plain.network.events.IsFresh ∧
    (∃ history, plain.AccountedBy lateOrders history) ∧
    (Desk.start plain.network.events).HearsWhatWaited lateHistory.flatten := by
  have fresh := isFresh_start start_plain
  obtain ⟨histories, waited⟩ := hears_what_waited fresh
  exact ⟨fresh, histories lateOrders, waited _⟩

/-- **A late subscription hears of the past**: of an edge that came before it, since another waited
for that. -/
theorem Memory.plain_hears_past : plain.AccountedBy lateOrders lateHistory ∧
    ¬ (Desk.start plain.network.events).HearsNoPast lateHistory.flatten ∧
    ((Usage.start plain).obeyAll lateOrders).events.log =
      [("early", ⟨.addOutputEdge, ⟨5⟩, ⟨7⟩, ⟨6⟩, .membership⟩),
        ("late", ⟨.addOutputEdge, ⟨5⟩, ⟨7⟩, ⟨6⟩, .membership⟩)] := by
  refine ⟨accountedBy_lateHistory, fun noPast => ?_, by decide +kernel⟩
  have valid : (Address.mk 5).isValid = true := rfl
  have recent := noPast [.subscribe ⟨"early", ⟨5⟩, .addOutputEdge, .unknown, .none⟩,
      .publish (.edgeAdded ⟨7⟩ ⟨5⟩ ⟨6⟩ .membership)]
    ⟨"late", ⟨5⟩, .addOutputEdge, .unknown, .none⟩ _ _ _ rfl
    (EventHub.subscribe_eq_ok_iff.2 ⟨valid, rfl, rfl⟩)
    ⟨0, ⟨.addOutputEdge, ⟨5⟩, ⟨7⟩, ⟨6⟩, .membership⟩⟩ (by decide +kernel)
  exact absurd recent (by decide +kernel)

end SemanticNetwork
