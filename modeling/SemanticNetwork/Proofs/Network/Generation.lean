/-
**Generation in a network.** A generation is all or nothing. If it is refused, wherever that happens,
the network is as it was: the table and every index of the store, the observers and all that they
remember. Only the numbers of the addresses it used up are not handed out again. If it succeeds, the
observers hear of every edge that was made, once and in order, and of nothing else.

* `generate_error_invisible`: **a refused generation is invisible**;
* `generate_error_foreseen`: **and what its plan foresees is refused before anything is created**;
* `generate_ok_materializes`: **a generation that succeeds materializes exactly its template.**
-/
import SemanticNetwork.Proofs.Network.Hearing
import SemanticNetwork.Proofs.Network.Session
import SemanticNetwork.Proofs.Template.Foresight

namespace SemanticNetwork.Network

variable {network : Network} {template : Template} {parameters : Assignment}

/-- **A refused generation is invisible.** Nothing is told, and the network is as it was, but for the
number of addresses that the store has handed out. -/
theorem generate_error_invisible {error : TemplateError} (reachable : network.store.Reachable)
    (failed : (network.generate template parameters).1 = .error error) :
    (template.generate network.store parameters).changes = [] ∧
      ∃ allocated, network.store.allocated ≤ allocated ∧
        (network.generate template parameters).2 =
          { network with store := { network.store with allocated := allocated } } := by
  obtain ⟨silent, allocated, more, store⟩ :=
    Template.generate_error_restores reachable.consistent failed
  refine ⟨silent, allocated, more, ?_⟩
  unfold generate
  simp only [silent, store, publish_nil]

/-- A network with two nodes and a recorder. -/
def twoNodes : Network :=
  ((Session.start (.new 4 .manual) [.recorder 0]).run
    [.createNode .constantNode, .createNode .constantNode]).network

/-- A template that makes an edge from the first node to a new one, and then asks for the same edge
to leave the second node. -/
def movedEdge : Template :=
  let edge := (Template.Item.typed (.accessEdge .varying .positive .permanent)).named "edge"
  let target := (Template.Item.typed .variableNode).named "target"
  (Template.empty.triple (.fixed ⟨1⟩) edge target).triple (.fixed ⟨2⟩) (.reference "edge")
    (.reference "target")

/-- Such a template is refused after a node and an edge were created, and neither is left. -/
theorem generate_movedEdge_invisible :
    twoNodes.store.Reachable ∧
      (twoNodes.generate movedEdge .empty).1 = .error (.endpointMismatch ⟨4⟩ ⟨2⟩ ⟨3⟩) ∧
      (movedEdge.generate twoNodes.store .empty).changes = [] ∧
      ∃ allocated, twoNodes.store.allocated ≤ allocated ∧
        (twoNodes.generate movedEdge .empty).2 =
          { twoNodes with store := { twoNodes.store with allocated := allocated } } := by
  have reachable : twoNodes.store.Reachable := ⟨_, _, _, rfl⟩
  have failed : (twoNodes.generate movedEdge .empty).1 =
      .error (.endpointMismatch ⟨4⟩ ⟨2⟩ ⟨3⟩) := by rfl
  exact ⟨reachable, failed, generate_error_invisible reachable failed⟩

/-! ### What is refused beforehand -/

/-- **What a plan foresees is refused before anything is created**: the network is the same, and no
address was used up. Once the plan is accepted, a generation can only be stopped by a dispute about an
element that a variable has already: it is not the one that a slot fixes, or not of the type asked
for, or it is an edge of this very generation that is used again, by a name, between other ends. -/
theorem generate_error_foreseen {error : TemplateError} (reachable : network.store.Reachable)
    (built : template.IsBuilt) (failed : (network.generate template parameters).1 = .error error) :
    (error.IsForeseen network.store → (network.generate template parameters).2 = network) ∧
      ∀ valuation, template.prepare network.store parameters = .ok valuation → ∃ state,
        template.generateTriples.run ⟨network.store, valuation, [], []⟩ = .error error state ∧
          template.Dispute state error ∧
          ∀ address ∈ state.created, network.store.contains address = false ∧
            network.store.allocated < address.value := by
  have consistent := reachable.consistent
  have disputed : ∀ valuation, template.prepare network.store parameters = .ok valuation →
      ∃ state, template.generateTriples.run ⟨network.store, valuation, [], []⟩ = .error error state ∧
        Template.Grows network.store state ∧ template.Dispute state error := by
    intro valuation prepared
    have outcome : (template.generateFrom network.store valuation).outcome = .error error := by
      rw [← failed, generate, Template.generate, prepared]
    obtain ⟨state, ran⟩ := Template.exists_run_of_generateFrom outcome
    have grows := (Template.keeps_generateTriples (Template.stepwise_grows _) template).error
      (Template.grows_start consistent valuation) ran
    exact ⟨state, ran, grows, Template.dispute_of_prepared consistent built prepared ran⟩
  constructor
  · intro foreseen
    cases prepared : template.prepare network.store parameters with
    | ok valuation =>
      obtain ⟨state, -, grows, dispute⟩ := disputed valuation prepared
      exact absurd foreseen (dispute.not_isForeseen grows consistent)
    | error reason =>
      have nothing : template.generate network.store parameters =
          ⟨.error reason, network.store, []⟩ := by
        rw [Template.generate, prepared]
      unfold generate
      rw [nothing]
      exact publish_nil _
  · intro valuation prepared
    obtain ⟨state, ran, grows, dispute⟩ := disputed valuation prepared
    refine ⟨state, ran, dispute, fun address member => ?_⟩
    have younger := grows.younger address member
    refine ⟨?_, younger⟩
    rw [← Bool.not_eq_true]
    exact Store.not_contains_iff.2 (consistent.get?_of_newer younger)

/-- An edge that a template makes is used again by its name, and it does not connect what it should. -/
theorem generate_movedEdge_foreseen :
    twoNodes.store.Reachable ∧ movedEdge.IsBuilt ∧
      (twoNodes.generate movedEdge .empty).1 = .error (.endpointMismatch ⟨4⟩ ⟨2⟩ ⟨3⟩) ∧
      movedEdge.prepare twoNodes.store .empty = .ok (.unbound 2) ∧
      (((TemplateError.endpointMismatch ⟨4⟩ ⟨2⟩ ⟨3⟩).IsForeseen twoNodes.store →
          (twoNodes.generate movedEdge .empty).2 = twoNodes) ∧
        ∀ valuation, movedEdge.prepare twoNodes.store .empty = .ok valuation → ∃ state,
          movedEdge.generateTriples.run ⟨twoNodes.store, valuation, [], []⟩ =
              .error (.endpointMismatch ⟨4⟩ ⟨2⟩ ⟨3⟩) state ∧
            movedEdge.Dispute state (.endpointMismatch ⟨4⟩ ⟨2⟩ ⟨3⟩) ∧
            ∀ address ∈ state.created, twoNodes.store.contains address = false ∧
              twoNodes.store.allocated < address.value) := by
  have reachable : twoNodes.store.Reachable := ⟨_, _, _, rfl⟩
  have built : movedEdge.IsBuilt :=
    ⟨[.triple (.fixed ⟨1⟩)
        ((Template.Item.typed (.accessEdge .varying .positive .permanent)).named "edge")
        ((Template.Item.typed .variableNode).named "target"),
      .triple (.fixed ⟨2⟩) (.reference "edge") (.reference "target")], rfl⟩
  have failed : (twoNodes.generate movedEdge .empty).1 =
      .error (.endpointMismatch ⟨4⟩ ⟨2⟩ ⟨3⟩) := by rfl
  exact ⟨reachable, built, failed, rfl, generate_error_foreseen reachable built failed⟩

example : (Template.ofClauses [.triple (.fixed ⟨1⟩) (.fixed ⟨4⟩) (.fixed ⟨2⟩)]).prepare
    twoNodes.store .empty = .error (.store (.elementNotFound ⟨4⟩)) := by
  rfl

/-! ### Generations that succeed -/

theorem isArrival_of_mem_arrival {element : Element} {change : Change}
    (member : change ∈ element.arrival) : change.IsArrival := by
  unfold Element.arrival at member
  split at member
  · rw [List.mem_singleton.1 member]
    exact ⟨_, _, _, _, rfl⟩
  · cases member

/-- Where a generation succeeds, telling of it leaves the store as it is. -/
theorem store_generate (consistent : network.store.Consistent)
    (covers : template.Covers template.slots)
    {made : Instance} (generated : (network.generate template parameters).1 = .ok made) :
    (network.generate template parameters).2.store =
      (template.generate network.store parameters).store := by
  have changes := (Template.materializes_of_generate consistent covers generated).2
  show (publish _ (template.generate network.store parameters).changes).store = _
  rw [changes]
  refine (publish_arrivals (fun change member => ?_) _).2.store
  obtain ⟨element, -, arrival⟩ := List.mem_flatMap.1 member
  exact isArrival_of_mem_arrival arrival

/-- **A generation that succeeds materializes exactly its template.** After that every observer hears
of every edge that was made, once and in the order of their making, and of nothing else; so every
journal has each of them once for every recorder who writes into it. -/
theorem generate_ok_materializes {made : Instance} (reachable : network.store.Reachable)
    (built : template.IsBuilt) (generated : (network.generate template parameters).1 = .ok made) :
    template.Materializes network.store parameters made
        (network.generate template parameters).2.store ∧
      (network.generate template parameters).2 =
        { network with store := (network.generate template parameters).2.store }.hear
          (network.audience (template.arrivals parameters made.triples)) ∧
      ∀ number, (network.generate template parameters).2.journal number = network.journal number ++
        (template.arrivals parameters made.triples).flatMap fun change =>
          List.replicate (network.recorders number) change := by
  obtain ⟨materializes, changes⟩ :=
    Template.materializes_of_generate reachable.consistent built.covers generated
  have arrivals : ∀ change ∈ template.arrivals parameters made.triples, change.IsArrival := by
    intro change member
    obtain ⟨element, -, arrival⟩ := List.mem_flatMap.1 member
    exact isArrival_of_mem_arrival arrival
  have after : (network.generate template parameters).2 =
      { network with store := (template.generate network.store parameters).store }.publish
        (template.arrivals parameters made.triples) := by
    rw [← changes]
    rfl
  obtain ⟨heard, alike⟩ := publish_arrivals arrivals
    { network with store := (template.generate network.store parameters).store }
  rw [after, alike.store]
  exact ⟨materializes, heard, journal_publish_of_unmoved
    fun change member => unmoved_of_arrival (arrivals change member)⟩

/-- A template that makes an edge from the first node to a new link, and a relation of this edge that
has a given member. -/
def taggedLink : Template :=
  .ofClauses [
    .withRelation (.fixed ⟨1⟩) ((Template.Item.typed .access).named "edge")
      ((Template.Item.typed .constantLink).named "link") (.typed .constantDirected)
      ((Template.Item.typed .constantRole).named "relation"),
    .triple (.reference "relation") (.typed .membership)
      ((Template.Item.typed .variableNode).named "member")]

/-- The second node as the member. -/
def secondMember : Assignment where
  entries := [("member", ⟨2⟩)]

/-- The instance of this template with the second node for a member. -/
def taggedInstance : Instance where
  names := [("edge", ⟨4⟩), ("link", ⟨3⟩), ("relation", ⟨5⟩), ("member", ⟨2⟩)]
  triples := [⟨⟨1⟩, ⟨4⟩, ⟨3⟩⟩, ⟨⟨5⟩, ⟨6⟩, ⟨4⟩⟩, ⟨⟨5⟩, ⟨7⟩, ⟨2⟩⟩]

/-- A link, a relation and three edges are made, and nothing is made for the member. -/
theorem generate_taggedLink_materializes :
    (twoNodes.generate taggedLink secondMember).1 = .ok taggedInstance ∧
      taggedLink.Materializes twoNodes.store secondMember taggedInstance
        (twoNodes.generate taggedLink secondMember).2.store ∧
      (twoNodes.generate taggedLink secondMember).2 =
        { twoNodes with
          store := (twoNodes.generate taggedLink secondMember).2.store }.hear
          (twoNodes.audience
            (taggedLink.arrivals secondMember taggedInstance.triples)) ∧
      ∀ number, (twoNodes.generate taggedLink secondMember).2.journal number =
        twoNodes.journal number ++
          (taggedLink.arrivals secondMember taggedInstance.triples).flatMap fun change =>
            List.replicate (twoNodes.recorders number) change := by
  have reachable : twoNodes.store.Reachable := ⟨_, _, _, rfl⟩
  have built : taggedLink.IsBuilt := ⟨_, rfl⟩
  have generated : (twoNodes.generate taggedLink secondMember).1 = .ok taggedInstance := by
    rfl
  exact ⟨generated, generate_ok_materializes reachable built generated⟩

end SemanticNetwork.Network
