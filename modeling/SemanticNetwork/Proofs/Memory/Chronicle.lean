/-
**The record of a memory in use.** Whatever a memory is asked for is made of deeds that are done to its
network, naming too: a new link is tracked, written and connected, former links are erased, and what
is refused on the way is undone. So what requests come to is recorded as faithfully as the deeds are.

* `Naming.Fills`, `Attaches`, `Assigns`, `Resolves`: the deeds that naming is made of;
* `Request.Unfolds`: the deeds that a request is made of;
* `Usage.UnfoldsInto`, `exists_unfoldsInto`: **every run of requests is a run of deeds**;
* `Usage.records_faithfully`: **what requests do is heard faithfully**, deed by deed, and written down.
-/
import Mathlib
import SemanticNetwork.Proofs.Memory.Usage
import SemanticNetwork.Proofs.Network.Chronicle

namespace SemanticNetwork

open Network (Deed)

namespace Naming

variable {network : Network} {relation link element : Address} {identifier : String}

/-! ### The deeds that naming is made of -/

/-- The deeds that fill a link with an identifier, up to the first that is refused. -/
def Fills (relation link element : Address) (identifier : String) (deeds : List Deed) : Prop :=
  ∃ edge, deeds <+: [.setPayload link (.text identifier),
    .createEdge .constantDirected element link, .createEdge .membership relation edge]

/-- The deeds that name an element by a new link. If filling the link is refused, it goes again. -/
inductive Attaches (relation element : Address) (identifier : String) : List Deed → Prop where
  | refused : Attaches relation element identifier [.createTypedLink .constantLink]
  | filled {link : Address} {deeds : List Deed} (links : List Address)
    (fills : Fills relation link element identifier deeds) :
    Attaches relation element identifier
      ([.createTypedLink .constantLink, .track links] ++ deeds)
  | undone {link : Address} {deeds : List Deed} (links others : List Address)
    (fills : Fills relation link element identifier deeds) :
    Attaches relation element identifier
      ([.createTypedLink .constantLink, .track links] ++ deeds ++ [.track others, .erase link])

/-- The deeds that give an identifier to an element: none, or those of a new link, and then of its
former links. -/
inductive Assigns (relation element : Address) (identifier : String) : List Deed → Prop where
  | nothing : Assigns relation element identifier []
  | attach {deeds : List Deed} (attaches : Attaches relation element identifier deeds)
    (former : List Address) : Assigns relation element identifier (deeds ++ former.map .erase)

/-- The deeds that resolve an identifier: none, or those of a new node. If naming the node is refused,
it goes again. -/
inductive Resolves (relation : Address) (identifier : String) :
    Option ElementType → List Deed → Prop where
  | nothing (type? : Option ElementType) : Resolves relation identifier type? []
  | refused (type : ElementType) : Resolves relation identifier (some type) [.createNode type]
  | named {type : ElementType} {element : Address} {deeds : List Deed}
    (assigns : Assigns relation element identifier deeds) :
    Resolves relation identifier (some type) (.createNode type :: deeds)
  | undone {type : ElementType} {element : Address} {deeds : List Deed}
    (assigns : Assigns relation element identifier deeds) :
    Resolves relation identifier (some type) (.createNode type :: deeds ++ [.erase element])

/-- The network that an operation of naming leaves, refused or not. -/
def left {α : Type} : EStateM.Result MemoryError Network α → Network
  | .ok _ after => after
  | .error _ after => after

theorem carryAll_erase (network : Network) (links : List Address) :
    network.carryAll (links.map .erase) = links.foldl Network.erase network :=
  List.foldl_map

section

variable {α : Type} {action : Network.Action α} {after : Network}

theorem attempt_of_ok {value : α} (ran : action.run network = .ok value after) :
    network.attempt action = after := by
  rw [Network.attempt, ran]

theorem attempt_of_error {error : StoreError} (ran : action.run network = .error error after) :
    network.attempt action = after := by
  rw [Network.attempt, ran]

end

/-- **Filling a link is made of deeds.** -/
theorem exists_fills (network : Network) (relation link element : Address) (identifier : String) :
    ∃ deeds, Fills relation link element identifier deeds ∧
      network.carryAll deeds = left ((fillLink relation link element identifier).run network) := by
  unfold fillLink
  rw [run_onNetwork]
  simp only [EStateM.run_bind]
  -- The deeds are those up to the first refusal.
  cases wrote : (Network.setPayload link (.text identifier)).run network with
  | error error after =>
    exact ⟨_, ⟨element, List.prefix_append [_] _⟩, attempt_of_error wrote⟩
  | ok _ written =>
    have carried : network.carry (.setPayload link (.text identifier)) = written :=
      attempt_of_ok wrote
    cases connected : (Network.createEdge .constantDirected element link).run written with
    | error error after =>
      refine ⟨_, ⟨element, List.prefix_append [_, _] _⟩, ?_⟩
      rw [Network.carryAll_cons, carried]
      simp only [connected]
      exact attempt_of_error connected
    | ok edge between =>
      have carried' : written.carry (.createEdge .constantDirected element link) = between :=
        attempt_of_ok connected
      refine ⟨_, ⟨edge, List.prefix_refl _⟩, ?_⟩
      rw [Network.carryAll_cons, carried, Network.carryAll_cons, carried']
      simp only [connected]
      show between.attempt (Network.createEdge .membership relation edge) = _
      rw [Network.attempt]
      cases (Network.createEdge .membership relation edge).run between <;> rfl

/-- **Attaching an identifier is made of deeds.** -/
theorem exists_attaches (network : Network) (relation element : Address) (identifier : String) :
    ∃ deeds, Attaches relation element identifier deeds ∧
      network.carryAll deeds = left ((attach relation element identifier).run network) := by
  rw [run_attach]
  have carried := network.carry_createLink
  cases created : Network.createLink.run network with
  | error error after => exact ⟨_, .refused, carried.trans (attempt_of_error created)⟩
  | ok link after =>
    rw [attempt_of_ok created] at carried
    obtain ⟨deeds, fills, filled⟩ := exists_fills
      { after with identifierLinks := after.identifierLinks ++ [link] } relation link element identifier
    have begun : network.carryAll ([.createTypedLink .constantLink,
        .track (after.identifierLinks ++ [link])] ++ deeds) =
          left ((fillLink relation link element identifier).run
            { after with identifierLinks := after.identifierLinks ++ [link] }) := by
      rw [Network.carryAll_append, Network.carryAll_cons, carried]
      exact filled
    cases ran : (fillLink relation link element identifier).run
        { after with identifierLinks := after.identifierLinks ++ [link] } with
    | ok _ last =>
      rw [ran] at begun
      refine ⟨_, .filled _ fills, begun.trans ?_⟩
      simp only [ran]
    | error error last =>
      rw [ran] at begun
      refine ⟨_, .undone (after.identifierLinks ++ [link])
        (last.identifierLinks.filter (· != link)) fills, ?_⟩
      rw [Network.carryAll_append, begun]
      simp only [ran]
      rfl

/-- **Giving an identifier is made of deeds.** -/
theorem exists_assigns (network : Network) (relation : Address) (identifier : String)
    (element : Address) : ∃ deeds, Assigns relation element identifier deeds ∧
      network.carryAll deeds = left ((assign relation identifier element).run network) := by
  rw [run_assign]
  split
  · exact ⟨[], .nothing, rfl⟩
  split
  · exact ⟨[], .nothing, rfl⟩
  split
  · split <;> exact ⟨[], .nothing, rfl⟩
  obtain ⟨deeds, attaches, attached⟩ := exists_attaches network relation element identifier
  cases ran : (attach relation element identifier).run network with
  | ok _ after =>
    rw [ran] at attached
    refine ⟨_, .attach attaches (linksOf network.store relation element), ?_⟩
    rw [Network.carryAll_append, attached]
    exact carryAll_erase after _
  | error error after =>
    rw [ran] at attached
    refine ⟨_, .attach attaches [], ?_⟩
    rw [Network.carryAll_append, attached]
    rfl

/-- **Creating a node with an identifier is made of deeds.** -/
theorem exists_createsNamed (network : Network) (relation : Address) (identifier : String)
    (type : ElementType) : ∃ deeds, Resolves relation identifier (some type) deeds ∧
      network.carryAll deeds = left ((createNamed relation identifier type).run network) := by
  rw [run_createNamed]
  split
  · exact ⟨[], .nothing _, rfl⟩
  cases created : (Network.createNode type).run network with
  | error error after => exact ⟨_, .refused type, attempt_of_error created⟩
  | ok element between =>
    have carried : network.carry (.createNode type) = between := attempt_of_ok created
    obtain ⟨deeds, assigns, assigned⟩ := exists_assigns between relation identifier element
    have named : network.carryAll (.createNode type :: deeds) =
        left ((assign relation identifier element).run between) := by
      rw [Network.carryAll_cons, carried, assigned]
    simp only
    cases ran : (assign relation identifier element).run between with
    | ok _ after =>
      rw [ran] at named
      exact ⟨_, .named assigns, named⟩
    | error error after =>
      rw [ran] at named
      refine ⟨_, .undone assigns, ?_⟩
      rw [Network.carryAll_append, named]
      rfl

/-- **Resolving an identifier is made of deeds.** -/
theorem exists_resolves (network : Network) (relation : Address) (identifier : String)
    (type? : Option ElementType) : ∃ deeds, Resolves relation identifier type? deeds ∧
      network.carryAll deeds = left ((resolve relation identifier type?).run network) := by
  rw [run_resolve]
  cases find? network.store relation identifier with
  | some element => exact ⟨[], .nothing _, rfl⟩
  | none =>
    cases type? with
    | none => exact ⟨[], .nothing _, rfl⟩
    | some type =>
      obtain ⟨deeds, resolves, named⟩ := exists_createsNamed network relation identifier type
      refine ⟨deeds, resolves, named.trans ?_⟩
      simp only
      cases (createNamed relation identifier type).run network <;> rfl

end Naming

/-! ### The deeds that requests are made of -/

/-- Requests that create, write, erase or name. What is left are batches, observers and
subscriptions. -/
def Request.isDeed : Request → Bool
  | .call (.createEdgeIn ..) | .call (.commit _) | .call (.rollback ..) => false
  | .call (.observe _) | .call (.subscribe _) | .call .dispatch => false
  | _ => true

/-- The deeds that a request is made of, in a memory with a naming relation. -/
inductive Request.Unfolds (relation : Address) : Request → List Deed → Prop where
  | createNode (type : ElementType) : Unfolds relation (.call (.createNode type)) [.createNode type]
  | createLink : Unfolds relation (.call .createLink) [.createTypedLink .constantLink]
  | createTypedLink (type : ElementType) :
    Unfolds relation (.call (.createTypedLink type)) [.createTypedLink type]
  | createEdge (type : ElementType) (source target : Address) :
    Unfolds relation (.call (.createEdge type source target)) [.createEdge type source target]
  | setPayload (link : Address) (payload : Payload) :
    Unfolds relation (.call (.setPayload link payload)) [.setPayload link payload]
  | erase (address : Address) : Unfolds relation (.call (.erase address)) [.erase address]
  | generate (template : Template) (parameters : Assignment) :
    Unfolds relation (.call (.generate template parameters)) [.generate template parameters]
  | resolve {identifier : String} {type? : Option ElementType} {deeds : List Deed}
    (resolves : Naming.Resolves relation identifier type? deeds) :
    Unfolds relation (.resolve identifier type?) deeds
  | setIdentifier {identifier : String} {element : Address} {deeds : List Deed}
    (assigns : Naming.Assigns relation element identifier deeds) :
    Unfolds relation (.setIdentifier identifier element) deeds

namespace Usage

variable {usage : Usage} {memory : Memory}

/-- A history says, request by request, which deeds a memory was brought by from one network to the
next. -/
structure UnfoldsInto (usage : Usage) (requests : List Request) (history : List (List Deed)) :
    Prop where
  unfolds : List.Forall₂ (Request.Unfolds usage.memory.relation) requests history
  reached : ∀ count ≤ requests.length, usage.memory.network.carryAll (history.take count).flatten =
    (usage.run (requests.take count)).memory.network

theorem relation_step (usage : Usage) (request : Request) :
    (usage.step request).memory.relation = usage.memory.relation := by
  have named : ∀ {α : Type} (action : Naming.Action α),
      (usage.memory.tryNaming action).2.relation = usage.memory.relation := by
    intro α action
    unfold Memory.tryNaming
    split <;> rfl
  cases request with
  | call call => rfl
  | resolve identifier type? => exact named _
  | setIdentifier identifier element => exact named _

theorem network_tryNaming {α : Type} (memory : Memory) (action : Naming.Action α) :
    (memory.tryNaming action).2.network = Naming.left (action.run memory.network) := by
  unfold Memory.tryNaming
  cases action.run memory.network <;> rfl

/-- **Every request is made of deeds.** -/
theorem exists_unfolds (usage : Usage) {request : Request} (isDeed : request.isDeed = true) :
    ∃ deeds, request.Unfolds usage.memory.relation deeds ∧
      usage.memory.network.carryAll deeds = (usage.step request).memory.network := by
  cases request with
  | call call =>
    cases call with
    | createNode type => exact ⟨_, .createNode type, rfl⟩
    | createLink => exact ⟨_, .createLink, usage.memory.network.carry_createLink⟩
    | createTypedLink type => exact ⟨_, .createTypedLink type, rfl⟩
    | createEdge type source target => exact ⟨_, .createEdge type source target, rfl⟩
    | setPayload link payload => exact ⟨_, .setPayload link payload, rfl⟩
    | erase address => exact ⟨_, .erase address, rfl⟩
    | generate template parameters => exact ⟨_, .generate template parameters, rfl⟩
    | createEdgeIn | commit | rollback | observe | subscribe | dispatch => cases isDeed
  | resolve identifier type? =>
    obtain ⟨deeds, resolves, reached⟩ := Naming.exists_resolves usage.memory.network
      usage.memory.relation identifier type?
    exact ⟨deeds, .resolve resolves, reached.trans (network_tryNaming _ _).symm⟩
  | setIdentifier identifier element =>
    obtain ⟨deeds, assigns, reached⟩ := Naming.exists_assigns usage.memory.network
      usage.memory.relation identifier element
    exact ⟨deeds, .setIdentifier assigns, reached.trans (network_tryNaming _ _).symm⟩

/-- **Every run of requests is a run of deeds.** -/
theorem exists_unfoldsInto (usage : Usage) {requests : List Request}
    (areDeeds : ∀ request ∈ requests, request.isDeed = true) :
    ∃ history, usage.UnfoldsInto requests history := by
  induction requests generalizing usage with
  | nil =>
    refine ⟨[], .nil, fun count _ => ?_⟩
    rw [List.take_nil, List.take_nil]
    rfl
  | cons request rest hypothesis =>
    obtain ⟨deeds, unfolds, reached⟩ := usage.exists_unfolds (areDeeds request List.mem_cons_self)
    obtain ⟨history, others, later⟩ := hypothesis (usage.step request)
      fun other member => areDeeds other (List.mem_cons_of_mem _ member)
    rw [relation_step] at others
    refine ⟨deeds :: history, .cons unfolds others, fun count bound => ?_⟩
    cases count with
    | zero => rfl
    | succ count =>
      rw [List.take_succ_cons, List.flatten_cons, Network.carryAll_append, reached]
      exact later count (Nat.le_of_succ_le_succ bound)

/-- **What requests do is heard faithfully**, deed by deed, by observers of every kind: whatever a memory
was asked for before, and whoever else observes it. What recorders hear stands in their journals. -/
theorem records_faithfully (isNew : memory.IsNew) (earlier : List Request) {later : List Request}
    (areDeeds : ∀ request ∈ later, request.isDeed = true) :
    ∃ history, ((start memory).run earlier).UnfoldsInto later history ∧
      (∀ ear, ((start memory).run earlier).memory.network.Chronicled ear history.flatten) ∧
      ∀ number, ((start memory).run (earlier ++ later)).memory.network.journal number =
        ((start memory).run earlier).memory.network.journal number ++
          ((start memory).run earlier).memory.network.heard (Observer.isRecorder number)
            history.flatten := by
  have consistent := isNew.consistent_run earlier
  obtain ⟨history, unfolds⟩ := exists_unfoldsInto ((start memory).run earlier) areDeeds
  refine ⟨history, unfolds, fun ear => Network.chronicled consistent ear _, fun number => ?_⟩
  have whole : history.take later.length = history := by
    rw [unfolds.unfolds.length_eq, List.take_length]
  have reached := unfolds.reached later.length (Nat.le_refl _)
  rw [whole, List.take_length] at reached
  rw [run_append, ← reached]
  exact Network.journal_carryAll _ _ number

/-- A memory without elements, and with an observer who sees to orphaned links. -/
def reaped : Memory := ⟨.empty (.new 4 .manual) [.linkReaper], .default, ⟨1⟩, []⟩

/-- A naming relation and a node, and from then on two recorders with a journal each. -/
def founding : List Request :=
  [.call (.createNode .constantNorole), .call (.createNode .constantNode),
    .call (.observe (.recorder 0)), .call (.observe (.recorder 1))]

/-- The node is named, a template is refused, and the edge to the name is erased. -/
def unnaming : List Request :=
  [.setIdentifier "leaf" ⟨2⟩, .call (.generate Network.movedEdge .empty), .call (.erase ⟨4⟩)]

/-- What there is in the journal of either recorder then. -/
def unnamingJournal : List Change :=
  [.payloadChanged ⟨3⟩, .edgeAdded ⟨4⟩ ⟨2⟩ ⟨3⟩ .constantDirected,
    .edgeAdded ⟨5⟩ ⟨1⟩ ⟨4⟩ .membership, .erased ⟨3⟩,
    .edgeRemoved ⟨4⟩ ⟨2⟩ ⟨3⟩ .constantDirected, .erased ⟨4⟩,
    .edgeRemoved ⟨5⟩ ⟨1⟩ ⟨4⟩ .membership, .erased ⟨5⟩]

/-- The other observer erases the link while the edge is told of; of what the template made and took
back there is nothing. -/
theorem reaped_records_unnaming : reaped.IsNew ∧ (∀ request ∈ unnaming, request.isDeed = true) ∧
    (∃ history, ((start reaped).run founding).UnfoldsInto unnaming history ∧
      (∀ ear, ((start reaped).run founding).memory.network.Chronicled ear history.flatten) ∧
      ((start reaped).run founding).memory.network.heard (Observer.isRecorder 0) history.flatten =
        unnamingJournal) ∧
    ((start reaped).run founding).memory.network.recorders 0 = 1 ∧
    ((start reaped).run (founding ++ unnaming)).memory.network.store.allocated = 7 ∧
    ((start reaped).run (founding ++ unnaming)).memory.network.journal 1 = unnamingJournal := by
  have isNew : reaped.IsNew := .inr rfl
  have areDeeds : ∀ request ∈ unnaming, request.isDeed = true := by
    simp [unnaming, Request.isDeed]
  have before : ((start reaped).run founding).memory.network.journal 0 = [] := by cbv
  have after : ((start reaped).run (founding ++ unnaming)).memory.network.journal 0 =
      unnamingJournal := by cbv
  obtain ⟨history, unfolds, chronicled, journals⟩ := records_faithfully isNew founding areDeeds
  have heard := journals 0
  rw [before, after, List.nil_append] at heard
  exact ⟨isNew, areDeeds, ⟨history, unfolds, chronicled, heard.symm⟩, by cbv, by cbv, by cbv⟩

end Usage

end SemanticNetwork
