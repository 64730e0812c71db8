/-
**Requests that touch no label.** A request may touch anything but what names rest on: it creates no
edge from the naming relation or into an identifier link, writes into no identifier link, and erases
by itself neither of these nor an edge of a label. Then the labels afterwards are those of before
whose elements are still there. The same goes for what subscribers do in a dispatch.

* `Owns`: what names rest on;
* `Follows`: order is kept, and what remains keeps its label;
* `follows_createEdge`, `follows_setPayload`, `follows_erase` and their kin: one operation;
* `Permits`: what is asked of a call, reactions of subscribers included;
* `follows_step`: **after a permitted call what remains keeps its label.**
-/
import SemanticNetwork.Proofs.Memory.Labels
import SemanticNetwork.Proofs.Memory.Usage

namespace SemanticNetwork.Naming

open Network (Unravels Has onStore)

/-- What the names of elements rest on: the relation, the tracked links, and the edges of labels. -/
def Owns (relation : Address) (network : Network) (address : Address) : Prop :=
  address = relation ∨ address ∈ network.identifierLinks ∨
    ∃ label : Label, label.Stands relation network ∧
      (address = label.edge ∨ address = label.membership)

/-- **What remains keeps its label**, and there are no other labels. -/
structure Follows (relation : Address) (before after : Network) : Prop where
  labelled : IsLabelled relation after
  precedes : before.store.Precedes after.store
  stands_iff : ∀ label : Label, label.Stands relation after ↔
    label.Stands relation before ∧ after.store.contains label.element = true

variable {relation : Address} {before after network : Network} {roots : Set Address}

namespace Follows

theorem refl (labelled : IsLabelled relation network) : Follows relation network network where
  labelled := labelled
  precedes := .refl _
  stands_iff _ := ⟨fun stands => ⟨stands, labelled.contains_element stands⟩, And.left⟩

/-- What is there in the end and was there at first was there in between. -/
theorem trans {third : Network} (labelled : IsLabelled relation before)
    (first : Follows relation before after) (second : Follows relation after third) :
    Follows relation before third where
  labelled := second.labelled
  precedes := first.precedes.trans second.precedes
  stands_iff label := by
    rw [second.stands_iff, first.stands_iff]
    refine ⟨fun ⟨⟨stands, _⟩, there⟩ => ⟨stands, there⟩, fun ⟨stands, there⟩ => ⟨⟨stands, ?_⟩, there⟩⟩
    obtain ⟨old, found⟩ := Store.contains_iff.1 (labelled.contains_element stands)
    obtain ⟨element, there⟩ := Store.contains_iff.1 there
    have handedOut := Nat.le_trans (labelled.consistent.numbered found).2 first.precedes.allocated
    obtain ⟨former, found, -⟩ := second.precedes.old there handedOut
    exact Store.contains_of_get? found

theorem of_unnoticed (labelled : IsLabelled relation before)
    (precedes : before.store.Precedes after.store)
    (unnoticed : Unnoticed relation before after) : Follows relation before after where
  labelled := unnoticed.isLabelled labelled
  precedes := precedes
  stands_iff label := by
    rw [unnoticed.stands_iff]
    refine ⟨fun stands => ⟨stands, ?_⟩, And.left⟩
    exact (unnoticed.isLabelled labelled).contains_element (unnoticed.stands_iff.2 stands)

theorem of_alike (labelled : IsLabelled relation before) (alike : before.Alike after) :
    Follows relation before after :=
  of_unnoticed labelled (by rw [alike.store]; exact .refl _) (.of_alike labelled alike)

/-- An erasure leaves the labels alone that starts from nothing that names rest on. -/
theorem of_unravels (labelled : IsLabelled relation before)
    (precedes : before.store.Precedes after.store) (unravels : Unravels roots before after [])
    (unowned : ∀ root ∈ roots, ¬ Owns relation before root) : Follows relation before after := by
  have harmless : IsLabelled.Harmless relation roots before after := by
    refine ⟨fun root member => ⟨fun same => ?_, fun label stands => ⟨fun same => ?_, fun same => ?_⟩⟩,
      fun root member tracked => absurd (.inr (.inl tracked)) (unowned root member)⟩
    · exact unowned root member (.inl same)
    · exact unowned root member (.inr (.inr ⟨label, stands, .inl same⟩))
    · exact unowned root member (.inr (.inr ⟨label, stands, .inr same⟩))
  refine ⟨labelled.unravel unravels harmless, precedes, fun label => ?_⟩
  rw [labelled.stands_iff_of_unravels unravels harmless]
  refine ⟨fun ⟨stands, there, _⟩ => ⟨stands, there⟩, fun ⟨stands, there⟩ => ⟨stands, there, ?_⟩⟩
  exact fun root => unowned _ root (.inr (.inl stands.tracked))

end Follows

/-! ### Growth -/

/-- Elements may be added, if no edge among them leaves the relation or enters a tracked link. -/
theorem follows_of_growth (labelled : IsLabelled relation network) {store : Store}
    (consistent : store.Consistent) (precedes : network.store.Precedes store)
    (kept : ∀ {address element}, network.store.get? address = some element →
      store.get? address = some element)
    (admissible : ∀ {edge type source target},
      store.get? edge = some ⟨edge, type, .edge source target⟩ →
        network.store.get? edge = some ⟨edge, type, .edge source target⟩ ∨
          source ≠ relation ∧ target ∉ network.identifierLinks) :
    Follows relation network { network with store := store } := by
  refine .of_unnoticed labelled precedes
    { consistent := consistent
      tended := labelled.tended.congr rfl
      links := rfl
      rooted := (kept labelled.rooted).trans labelled.rooted.symm
      tracked := fun link tracked => ?_
      edges := kept
      admissible := admissible }
  obtain ⟨label, rfl, stands⟩ := labelled.labelled tracked
  exact (kept stands.link).trans stands.link.symm

theorem follows_of_spends (labelled : IsLabelled relation network) {store : Store}
    (spends : network.store.Spends store) :
    Follows relation network { network with store := store } := by
  have same : ∀ address, store.get? address = network.store.get? address := fun address =>
    congrArg (fun elements : AddressMap Element => elements.get? address) spends.elements
  refine follows_of_growth labelled (spends.consistent labelled.consistent) spends.precedes ?_ ?_
  · intro address element found
    rwa [same]
  · intro edge type source target found
    exact .inl (by rwa [same] at found)

theorem follows_of_adds (labelled : IsLabelled relation network) {store : Store} {element : Element}
    (consistent : store.Consistent) (adds : network.store.Adds element store)
    (admissible : ∀ {source target}, element.ends? = some (source, target) →
      source ≠ relation ∧ target ∉ network.identifierLinks) :
    Follows relation network { network with store := store } := by
  refine follows_of_growth labelled consistent adds.precedes
    (fun found => adds.get?_of_get? labelled.consistent found) ?_
  intro edge type source target found
  rw [adds.get?_eq] at found
  split at found
  · cases found
    exact .inr (admissible rfl)
  · exact .inl found

/-- What is created is admissible if it is no edge. -/
theorem follows_create (labelled : IsLabelled relation network) {action : Store.Action Address}
    (creates : Store.Creates action)
    (adds : ∀ {store address}, action.run network.store = .ok address store →
      ∃ element, element.ends? = none ∧ network.store.Adds element store) :
    Follows relation network (network.attempt (onStore action)) := by
  rw [Network.attempt, Network.run_onStore]
  cases ran : action.run network.store with
  | error error store => exact follows_of_spends labelled (creates.spends ran)
  | ok address store =>
    obtain ⟨element, noEdge, adds⟩ := adds ran
    refine follows_of_adds labelled (creates.keeps.ok labelled.consistent ran) adds ?_
    intro source target ends
    rw [noEdge] at ends
    cases ends

theorem follows_createNode (labelled : IsLabelled relation network) (type : ElementType) :
    Follows relation network (network.attempt (Network.createNode type)) :=
  follows_create labelled (Store.creates_createNode type)
    fun ran => ⟨_, rfl, (Store.createNode_ok ran).2.2⟩

theorem follows_createTypedLink (labelled : IsLabelled relation network) (type : ElementType) :
    Follows relation network (network.attempt (Network.createTypedLink type)) :=
  follows_create labelled (Store.creates_createTypedLink type)
    fun ran => ⟨_, rfl, (Store.createTypedLink_ok ran).2.2⟩

theorem follows_arrivals (labelled : IsLabelled relation network) {changes : List Change}
    (arrivals : ∀ change ∈ changes, change.IsArrival) :
    Follows relation network (network.publish changes) :=
  .of_alike labelled (Network.publish_arrivals arrivals network).2

/-- An edge that is created neither leaves the relation nor enters a tracked link. -/
def PermitsEdge (relation : Address) (network : Network) (type : ElementType)
    (source target : Address) : Prop :=
  ∀ {edge store}, (Store.createEdge type source target).run network.store = .ok edge store →
    source ≠ relation ∧ target ∉ network.identifierLinks

theorem follows_enterEdge (labelled : IsLabelled relation network) {type : ElementType}
    {source target edge : Address} {store : Store}
    (permits : PermitsEdge relation network type source target)
    (ran : (Store.createEdge type source target).run network.store = .ok edge store) :
    Follows relation network { network with store := store } := by
  have consistent := (Store.keeps_createEdge type source target).ok labelled.consistent ran
  refine follows_of_adds labelled consistent (Store.createEdge_ok ran).2.2 ?_
  intro source' target' ends
  cases ends
  exact permits ran

theorem follows_createEdge (labelled : IsLabelled relation network) {type : ElementType}
    {source target : Address} (permits : PermitsEdge relation network type source target) :
    Follows relation network (network.attempt (Network.createEdge type source target)) := by
  rw [Network.attempt, Network.run_createEdge]
  cases ran : (Store.createEdge type source target).run network.store with
  | error error store => exact follows_of_spends labelled (Store.createEdge_error ran)
  | ok edge store =>
    have entered := follows_enterEdge labelled permits ran
    refine entered.trans labelled (follows_arrivals entered.labelled fun change member => ?_)
    exact ⟨edge, source, target, type, List.mem_singleton.1 member⟩

/-- **A generation leaves the labels alone** if none of its edges leaves the relation or enters a
tracked link. -/
theorem follows_generate (labelled : IsLabelled relation network) {template : Template}
    {parameters : Assignment}
    (permits : ∀ {edge source target type},
      .edgeAdded edge source target type ∈ (template.generate network.store parameters).changes →
        source ≠ relation ∧ target ∉ network.identifierLinks) :
    Follows relation network (network.generate template parameters).2 := by
  have announced := Template.announced_generate labelled.consistent template parameters
  have grown : Follows relation network
      { network with store := (template.generate network.store parameters).store } :=
    follows_of_growth labelled
      (Template.consistent_generate labelled.consistent template parameters)
      (Store.precedes_generate labelled.consistent template parameters) announced.kept
      fun found => (announced.edges found).imp id permits
  exact grown.trans labelled (follows_arrivals grown.labelled announced.arrivals)

/-! ### Writing and erasing -/

/-- A link that is not tracked may be written, whatever the observers do about it. -/
theorem follows_setPayload (labelled : IsLabelled relation network) {link : Address}
    (payload : Payload) (untracked : link ∉ network.identifierLinks) :
    Follows relation network (network.attempt (Network.setPayload link payload)) := by
  rw [Network.attempt, Network.run_setPayload]
  cases ran : (Store.setPayload link payload).run network.store with
  | error error store => exact follows_of_spends labelled (Store.setPayload_error ran)
  | ok value store =>
    obtain ⟨element, found, isLink, rfl⟩ := Store.setPayload_ok ran
    have elsewhere : ∀ {address other}, network.store.get? address = some other →
        other.isLink = false → address ≠ link := by
      rintro address other there notLink rfl
      rw [found] at there
      cases there
      rw [isLink] at notLink
      cases notLink
    have untouched : ∀ {address}, address ≠ link →
        (network.store.hold link element payload).get? address = network.store.get? address := by
      intro address apart
      rw [Store.get?_hold, if_neg apart]
    have held : Follows relation network
        { network with store := network.store.hold link element payload } :=
      .of_unnoticed labelled (Store.precedes_hold found isLink)
        { consistent := labelled.consistent.hold found isLink
          tended := labelled.tended.congr rfl
          links := rfl
          rooted := untouched (elsewhere labelled.rooted rfl)
          tracked := fun other tracked => untouched fun same => untracked (same ▸ tracked)
          edges := fun there => (untouched (elsewhere there rfl)).trans there
          admissible := fun there => .inl (Store.edge_of_get?_hold there) }
    refine held.trans labelled (.of_unravels held.labelled
      (Network.precedes_publish held.labelled.consistent _)
      (Network.unravels_given held.labelled.consistent held.labelled.tended link) ?_)
    · rintro root rfl (same | tracked | ⟨label, stands, same | same⟩)
      · exact elsewhere labelled.rooted rfl same.symm
      · exact untracked tracked
      · exact elsewhere (Store.edge_of_get?_hold stands.edge) rfl same.symm
      · exact elsewhere (Store.edge_of_get?_hold stands.membership) rfl same.symm

/-- What names rest on goes with the elements that are named, or is erased by itself. -/
theorem follows_erase (labelled : IsLabelled relation network) {address : Address}
    (unowned : ¬ Owns relation network address) :
    Follows relation network (network.erase address) := by
  refine .of_unravels labelled (Network.precedes_erase labelled.consistent address)
    (Network.unravels_erase labelled.consistent labelled.tended address) ?_
  rintro root rfl
  exact unowned

theorem follows_rollback (labelled : IsLabelled relation network) {created : List Address}
    (unowned : ∀ address ∈ created, ¬ Owns relation network address) :
    Follows relation network (network.rollback created) := by
  have foreign : ∀ edge ∈ created, ∀ {source link},
      network.store.get? edge = some ⟨edge, .constantDirected, .edge source link⟩ →
        link ∉ network.identifierLinks := by
    intro edge member source link found tracked
    obtain ⟨label, rfl, stands⟩ := labelled.labelled tracked
    exact unowned edge member (.inr (.inr ⟨label, stands, .inl (labelled.entering stands found)⟩))
  exact .of_unravels labelled (Network.precedes_rollback labelled.consistent created)
    (Network.unravels_rollback labelled.consistent labelled.tended foreign) unowned

/-! ### Subscribers -/

/-- One thing after another is permitted, each judged when it is its turn. -/
def InTurn {α : Type} (permits : Network → α → Prop) (does : Network → α → Network) :
    Network → List α → Prop
  | _, [] => True
  | network, first :: rest =>
    permits network first ∧ InTurn permits does (does network first) rest

theorem follows_inTurn {α : Type} {permits : Network → α → Prop} {does : Network → α → Network}
    (follows : ∀ {network first}, IsLabelled relation network → permits network first →
      Follows relation network (does network first))
    {things : List α} (labelled : IsLabelled relation network)
    (permitted : InTurn permits does network things) :
    Follows relation network (things.foldl does network) := by
  induction things generalizing network with
  | nil => exact .refl labelled
  | cons first rest hypothesis =>
    have here := follows labelled permitted.1
    exact here.trans labelled (hypothesis here.labelled permitted.2)

/-- What a subscriber does touches no label. -/
def PermitsAct (relation : Address) (network : Network) : Act → Prop
  | .erase address => ¬ Owns relation network address
  | .createEdge type source target => PermitsEdge relation network type source target
  | .write link _ => link ∉ network.identifierLinks
  | .unsubscribe _ | .release _ | .createNode _ | .createLink | .breakOff => True

theorem follows_act (labelled : IsLabelled relation network) {act : Act}
    (permits : PermitsAct relation network act) : Follows relation network (network.act act) := by
  have idle : ∀ change, Follows relation network (network.updateEvents change) :=
    fun change => .of_alike labelled ⟨rfl, rfl, rfl⟩
  cases act with
  | unsubscribe label => exact idle (·.unsubscribe label)
  | release label => exact idle (·.release label)
  | createNode type => exact follows_createNode labelled type
  | createLink => exact follows_createTypedLink labelled .constantLink
  | createEdge type source target => exact follows_createEdge labelled permits
  | write link payload => exact follows_setPayload labelled payload permits
  | erase address => exact follows_erase labelled permits
  | breakOff => exact .refl labelled

/-- What a subscription does when it is told of an event touches no label. -/
def PermitsCall (relation : Address) (notification : Notification) (network : Network)
    (number : Nat) : Prop :=
  ∀ subscription, network.events.find? number = some subscription →
    subscription.isActive = true → subscription.admits notification = true →
      let begun := network.updateEvents (·.beginCall subscription notification)
      let acts := subscription.reaction.acts subscription.calls notification begun.store
      InTurn (PermitsAct relation) Network.act begun (acts.takeWhile (· != .breakOff))

theorem follows_call (labelled : IsLabelled relation network) {notification : Notification}
    {number : Nat} (permits : PermitsCall relation notification network number) :
    Follows relation network (network.call notification number) := by
  unfold Network.call
  cases found : network.events.find? number with
  | none => exact .refl labelled
  | some subscription =>
    dsimp only
    split
    · rename_i called
      simp only [Bool.and_eq_true] at called
      have begun : Follows relation network
          (network.updateEvents (·.beginCall subscription notification)) :=
        .of_alike labelled ⟨rfl, rfl, rfl⟩
      have performed := follows_inTurn (fun labelled => follows_act labelled) begun.labelled
        (permits subscription found called.1 called.2)
      have through := begun.trans labelled performed
      exact through.trans labelled (.of_alike through.labelled ⟨rfl, rfl, rfl⟩)
    · exact .refl labelled

/-- No subscription touches a label in a dispatch of at most so many notifications. -/
def PermitsDispatch (relation : Address) : Nat → Network → Prop
  | 0, _ => True
  | bound + 1, network => ∀ notification events, network.events.take? = some (notification, events) →
    let taken := { network with events := events }
    InTurn (PermitsCall relation notification) (Network.call · notification) taken
        (taken.events.targets notification) ∧
      PermitsDispatch relation bound (taken.dispatch notification)

theorem follows_dispatchAtMost (labelled : IsLabelled relation network) {bound : Nat}
    (permits : PermitsDispatch relation bound network) :
    Follows relation network (Network.dispatchAtMost bound network).1 := by
  induction bound generalizing network with
  | zero => exact .refl labelled
  | succ bound hypothesis =>
    unfold Network.dispatchAtMost
    split
    · exact .refl labelled
    · rename_i notification events taken
      obtain ⟨permitsTargets, permitsLater⟩ := permits notification events taken
      have taken : Follows relation network { network with events := events } :=
        .of_alike labelled ⟨rfl, rfl, rfl⟩
      have told := follows_inTurn (fun labelled => follows_call labelled) taken.labelled permitsTargets
      exact taken.trans labelled
        (told.trans taken.labelled (hypothesis told.labelled permitsLater))

/-! ### Calls -/

/-- **A call touches no label**, and neither does a subscriber that it leads to. -/
def Permits (relation : Address) (session : Session) : Call → Prop
  | .createEdge type source target => PermitsEdge relation session.network type source target
  | .createEdgeIn _ type source target => PermitsEdge relation session.network type source target
  | .setPayload link _ => link ∉ session.network.identifierLinks
  | .erase address => ¬ Owns relation session.network address
  | .rollback _ created => ∀ address ∈ created, ¬ Owns relation session.network address
  | .generate template parameters => ∀ {edge source target type},
    .edgeAdded edge source target type ∈
        (template.generate session.network.store parameters).changes →
      source ≠ relation ∧ target ∉ session.network.identifierLinks
  | .dispatch => PermitsDispatch relation session.network.dispatchBound session.network
  | .observe observer => observer.IsModest
  | .createNode _ | .createLink | .createTypedLink _ | .commit _ | .subscribe _ => True

/-- Batches hold back the creation of edges only. -/
def HoldsArrivals (session : Session) : Prop :=
  ∀ number, ∀ change ∈ (session.batches number).changes, change.IsArrival

variable {session : Session}

theorem holdsArrivals_step (holds : HoldsArrivals session) (call : Call) :
    HoldsArrivals (session.step call) := by
  intro number change member
  rcases Session.mem_batches_step member with held | ⟨edge, source, target, type, same, -⟩
  · exact holds number change held
  · exact ⟨edge, source, target, type, same⟩

/-- **After a permitted call what remains keeps its label.** -/
theorem follows_step (labelled : IsLabelled relation session.network) (holds : HoldsArrivals session)
    {call : Call} (permits : Permits relation session call) :
    Follows relation session.network (session.step call).network := by
  cases call with
  | createNode type => exact follows_createNode labelled type
  | createLink => exact follows_createTypedLink labelled .constantLink
  | createTypedLink type => exact follows_createTypedLink labelled type
  | createEdge type source target => exact follows_createEdge labelled permits
  | createEdgeIn number type source target =>
    simp only [Session.step, Session.createEdgeIn, Network.createEdgeIn, EStateM.run_bind,
      Network.run_onStore]
    cases ran : (Store.createEdge type source target).run session.network.store with
    | error error store => exact follows_of_spends labelled (Store.createEdge_error ran)
    | ok edge store => exact follows_enterEdge labelled permits ran
  | setPayload link payload => exact follows_setPayload labelled payload permits
  | erase address => exact follows_erase labelled permits
  | commit number => exact follows_arrivals labelled (holds number)
  | rollback number created => exact follows_rollback labelled permits
  | generate template parameters => exact follows_generate labelled permits
  | observe observer =>
    exact .of_unnoticed labelled (.refl _)
      { consistent := labelled.consistent
        tended := labelled.tended.observe permits
        links := rfl
        rooted := rfl
        tracked := fun _ _ => rfl
        edges := id
        admissible := .inl }
  | subscribe request =>
    refine .of_alike labelled ?_
    show session.network.Alike (Session.subscribed session.network request)
    unfold Session.subscribed
    split
    · exact ⟨rfl, rfl, rfl⟩
    · exact .refl _
  | dispatch => exact follows_dispatchAtMost labelled permits

end SemanticNetwork.Naming
