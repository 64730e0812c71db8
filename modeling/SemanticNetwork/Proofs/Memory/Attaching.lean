/-
**Attaching a label.** An element is named by three new elements: a link, which is written and
tracked, an edge to it, and an edge from the relation to that edge. All three are created at the next
addresses, and nothing else changes. Where no observer erases links that hold the identifier, all of
this succeeds.

* `Network.exists_createEdge`, `Network.exists_setPayload`: operations that succeed;
* `Attached`: a network with one label more;
* `exists_attached`: **attaching a label succeeds**, and makes such a network;
* `Attached.isLabelled`, `Attached.stands_iff`: order is kept, and there is one label more.
-/
import SemanticNetwork.Proofs.Memory.Labels
import SemanticNetwork.Proofs.Memory.Naming

namespace SemanticNetwork

namespace Store

variable {store : Store}

/-- **A link can be written.** -/
theorem run_setPayload_of_link (consistent : store.Consistent) {link : Address} {element : Element}
    (found : store.get? link = some element) (isLink : element.isLink = true) (payload : Payload) :
    (setPayload link payload).run store = .ok () (store.hold link element payload) := by
  have valid := consistent.isValid_of_contains (contains_of_get? found)
  simp only [setPayload, EStateM.run_bind, run_require, valid, if_true, EStateM.run_get, found,
    isLink]
  rfl

end Store

namespace Network

variable {network : Network}

/-- No observer erases a link on hearing that it was given an identifier. -/
def Heeds (network : Network) (identifier : String) : Prop :=
  ∀ eraser, .eraser eraser ∈ network.observers → ∀ {store : Store} {link},
    store.payload? link = some (.text identifier) → eraser.chooses store (.payloadChanged link) = none

/-- An edge between two elements can be created, and nothing follows from hearing of it. -/
theorem exists_createEdge (consistent : network.store.Consistent) {type : ElementType}
    {source target : Address} (suits : type.isEdgeType = true)
    (sourceThere : network.store.contains source = true)
    (targetThere : network.store.contains target = true) :
    ∃ after, (createEdge type source target).run network = .ok network.store.nextAddress after ∧
      after.store.Consistent ∧ after.observers = network.observers ∧
      after.identifierLinks = network.identifierLinks ∧
      network.store.Adds ⟨network.store.nextAddress, type, .edge source target⟩ after.store := by
  have created := Store.run_createEdge_of_ends consistent suits sourceThere targetThere
  have arrival : ∀ change ∈ [Change.edgeAdded network.store.nextAddress source target type],
      change.IsArrival := fun change member => ⟨_, _, _, _, List.mem_singleton.1 member⟩
  obtain ⟨-, alike⟩ := publish_arrivals arrival { network with
    store := (network.store.advance.enrol
      ⟨network.store.nextAddress, type, .edge source target⟩).connect network.store.nextAddress
        type source target }
  refine ⟨_, by rw [run_createEdge, created], ?_, alike.observers, alike.identifierLinks, ?_⟩
  · rw [alike.store]
    exact (Store.keeps_createEdge type source target).ok consistent created
  · rw [alike.store]
    exact (Store.createEdge_ok created).2.2

/-- An identifier can be written into a link, and nothing follows from hearing of it, if no observer
erases links that hold it. -/
theorem exists_setPayload (consistent : network.store.Consistent) {link : Address}
    {element : Element} (found : network.store.get? link = some element)
    (isLink : element.isLink = true) {identifier : String} (heeds : network.Heeds identifier) :
    ∃ after, (setPayload link (.text identifier)).run network = .ok () after ∧
      after.observers = network.observers ∧ after.identifierLinks = network.identifierLinks ∧
      after.store = network.store.hold link element (.text identifier) := by
  have written := Store.run_setPayload_of_link consistent found isLink (.text identifier)
  have unmoved : ∀ change ∈ [Change.payloadChanged link], Unmoved
      { network with store := network.store.hold link element (.text identifier) } change := by
    intro change member
    obtain rfl := List.mem_singleton.1 member
    intro observer listens
    cases observer with
    | recorder number => rfl
    | events => rfl
    | linkReaper => rfl
    | eraser eraser =>
      refine heeds eraser listens ?_
      rw [Store.payload?, Store.get?_hold, if_pos rfl]
      rfl
  obtain ⟨-, alike⟩ := publish_of_unmoved unmoved
  exact ⟨_, by rw [run_setPayload, written], alike.observers, alike.identifierLinks, alike.store⟩

end Network

namespace Naming

/-- **A network with one label more**, made of the next three elements. -/
structure Attached (relation : Address) (before : Network) (label : Label) (after : Network) :
    Prop where
  consistent : after.store.Consistent
  observers : after.observers = before.observers
  links : after.identifierLinks = before.identifierLinks ++ [label.link]
  link : label.link.value = before.store.allocated + 1
  edge : label.edge.value = before.store.allocated + 2
  membership : label.membership.value = before.store.allocated + 3
  get? : ∀ address, after.store.get? address =
    if address = label.membership then
      some ⟨label.membership, .membership, .edge relation label.edge⟩
    else if address = label.edge then
      some ⟨label.edge, .constantDirected, .edge label.element label.link⟩
    else if address = label.link then
      some ⟨label.link, .constantLink, .link (some (.text label.identifier))⟩
    else before.store.get? address

variable {relation element : Address} {network before after : Network} {identifier : String}
  {label other : Label}

/-! ### Step by step -/

/-- The network with one link more, which is tracked. -/
def withLink (network : Network) : Network :=
  { network with
    store := network.store.advance.enrol ⟨network.store.nextAddress, .constantLink, .link none⟩
    identifierLinks := network.identifierLinks ++ [network.store.nextAddress] }

/-- The naming edge is created right after its link. -/
def edgeFor (link : Address) : Address := ⟨link.value + 1⟩

theorem adds_withLink (network : Network) : network.store.Adds
    ⟨network.store.nextAddress, .constantLink, .link none⟩ (withLink network).store :=
  ⟨rfl, rfl, rfl⟩

theorem consistent_withLink (consistent : network.store.Consistent) :
    (withLink network).store.Consistent := by
  have created : (Store.createTypedLink .constantLink).run network.store =
      .ok network.store.nextAddress (withLink network).store := rfl
  exact (Store.keeps_createTypedLink .constantLink).ok consistent created

/-- A new link is filled. If that is refused, it is forgotten and erased. -/
theorem run_attach_withLink (network : Network) (relation element : Address) (identifier : String) :
    (attach relation element identifier).run network =
      match (fillLink relation network.store.nextAddress element identifier).run
          (withLink network) with
      | .ok value after => .ok value after
      | .error error after => .error error
        ((after.forgetLink network.store.nextAddress).erase network.store.nextAddress) := by
  rw [run_attach]
  rfl

/-- The new link holds the identifier, and nothing else has changed. -/
structure Written (before : Network) (identifier : String) (after : Network) : Prop where
  consistent : after.store.Consistent
  observers : after.observers = before.observers
  links : after.identifierLinks = before.identifierLinks ++ [before.store.nextAddress]
  allocated : after.store.allocated = before.store.allocated + 1
  get? : ∀ address, after.store.get? address =
    if address = before.store.nextAddress then
      some ⟨before.store.nextAddress, .constantLink, .link (some (.text identifier))⟩
    else before.store.get? address

/-- The new link is written; of that the observers still have to hear. -/
theorem written_withLink (consistent : network.store.Consistent) (identifier : String) :
    Written network identifier { withLink network with
      store := (withLink network).store.hold network.store.nextAddress
        ⟨network.store.nextAddress, .constantLink, .link none⟩ (.text identifier) } := by
  have adds := adds_withLink network
  refine ⟨(consistent_withLink consistent).hold adds.get?_self rfl, rfl, rfl,
    (Store.hold_untouched _ _ _ _).1, fun address => ?_⟩
  rw [Store.get?_hold, adds.get?_eq]
  split <;> rfl

/-- What observers remember does not matter. -/
theorem Written.of_alike (written : Written before identifier after) {other : Network}
    (alike : after.Alike other) : Written before identifier other where
  consistent := alike.store ▸ written.consistent
  observers := alike.observers.trans written.observers
  links := alike.identifierLinks.trans written.links
  allocated := alike.store ▸ written.allocated
  get? := alike.store ▸ written.get?

/-- A naming edge leads to the new link, which holds the identifier. -/
structure Named (before : Network) (element : Address) (identifier : String) (after : Network) :
    Prop where
  consistent : after.store.Consistent
  observers : after.observers = before.observers
  links : after.identifierLinks = before.identifierLinks ++ [before.store.nextAddress]
  allocated : after.store.allocated = before.store.allocated + 2
  get? : ∀ address, after.store.get? address =
    if address = edgeFor before.store.nextAddress then
      some ⟨edgeFor before.store.nextAddress, .constantDirected,
        .edge element before.store.nextAddress⟩
    else if address = before.store.nextAddress then
      some ⟨before.store.nextAddress, .constantLink, .link (some (.text identifier))⟩
    else before.store.get? address

namespace Written

/-- What was there is as it was. -/
theorem contains (written : Written before identifier after) {address : Address}
    (there : before.store.contains address = true) : after.store.contains address = true := by
  obtain ⟨found, there⟩ := Store.contains_iff.1 there
  refine Store.contains_iff.2 ?_
  rw [written.get?]
  split
  · exact ⟨_, rfl⟩
  · exact ⟨found, there⟩

/-- **The naming edge can be created.** -/
theorem exists_named (written : Written before identifier between)
    (there : before.store.contains element = true) :
    ∃ after, (Network.createEdge .constantDirected element before.store.nextAddress).run between =
        .ok (edgeFor before.store.nextAddress) after ∧ Named before element identifier after := by
  have linkThere : between.store.contains before.store.nextAddress = true :=
    Store.contains_of_get? (by rw [written.get?, if_pos rfl])
  obtain ⟨after, ran, afterConsistent, observers, links, adds⟩ :=
    Network.exists_createEdge written.consistent
      (show ElementType.constantDirected.isEdgeType = true by decide)
      (written.contains there) linkThere
  have next : between.store.nextAddress = edgeFor before.store.nextAddress :=
    congrArg (fun allocated => (⟨allocated + 1⟩ : Address)) written.allocated
  rw [next] at ran adds
  refine ⟨after, ran, afterConsistent, observers.trans written.observers,
    links.trans written.links, ?_, fun address => ?_⟩
  · rw [adds.allocated, written.allocated]
  · rw [adds.get?_eq, written.get?]

end Written

/-- **The relation can be made to lead to the naming edge**, and then the label is there. -/
theorem Named.exists_attached (named : Named before element identifier between)
    (there : between.store.contains relation = true) :
    ∃ membership after label,
      (Network.createEdge .membership relation (edgeFor before.store.nextAddress)).run between =
        .ok membership after ∧
      label.element = element ∧ label.identifier = identifier ∧
      Attached relation before label after := by
  have edgeThere : between.store.contains (edgeFor before.store.nextAddress) = true :=
    Store.contains_of_get? (by rw [named.get?, if_pos rfl])
  obtain ⟨after, ran, consistent, observers, links, adds⟩ :=
    Network.exists_createEdge named.consistent
      (show ElementType.membership.isEdgeType = true by decide) there edgeThere
  refine ⟨_, after, ⟨element, identifier, before.store.nextAddress,
    edgeFor before.store.nextAddress, between.store.nextAddress⟩, ran, rfl, rfl, ?_⟩
  exact {
    consistent := consistent
    observers := observers.trans named.observers
    links := links.trans named.links
    link := rfl
    edge := rfl
    membership := congrArg (· + 1) named.allocated
    get? := fun address => by rw [adds.get?_eq, named.get?] }

theorem Named.contains (named : Named before element identifier after)
    {address : Address} (there : before.store.contains address = true) :
    after.store.contains address = true := by
  obtain ⟨found, there⟩ := Store.contains_iff.1 there
  refine Store.contains_iff.2 ?_
  rw [named.get?]
  split
  · exact ⟨_, rfl⟩
  · split
    · exact ⟨_, rfl⟩
    · exact ⟨found, there⟩

/-- **Attaching a label succeeds**, if no observer erases links that hold the identifier. -/
theorem exists_attached (consistent : network.store.Consistent)
    (relationThere : network.store.contains relation = true)
    (elementThere : network.store.contains element = true) (heeds : network.Heeds identifier) :
    ∃ after label, (attach relation element identifier).run network = .ok () after ∧
      label.element = element ∧ label.identifier = identifier ∧
      Attached relation network label after := by
  have heedsToo : (withLink network).Heeds identifier := heeds
  obtain ⟨written, ranWrite, observers, links, store⟩ :=
    Network.exists_setPayload (consistent_withLink consistent) (adds_withLink network).get?_self rfl
      heedsToo
  have isWritten : Written network identifier written :=
    (written_withLink consistent identifier).of_alike ⟨store, observers, links⟩
  obtain ⟨named, ranEdge, isNamed⟩ := isWritten.exists_named elementThere
  obtain ⟨membership, after, label, ranMembership, sameElement, sameIdentifier, attached⟩ :=
    isNamed.exists_attached (isNamed.contains relationThere)
  refine ⟨after, label, ?_, sameElement, sameIdentifier, attached⟩
  rw [run_attach_withLink, run_fillLink, ranWrite]
  simp only [ranEdge, ranMembership]

namespace Attached

/-- At the addresses of before nothing has changed. -/
theorem same (attached : Attached relation before label after) {address : Address}
    (old : address.value ≤ before.store.allocated) :
    after.store.get? address = before.store.get? address := by
  have apart : ∀ {place : Address}, before.store.allocated < place.value → address ≠ place := by
    rintro place new rfl
    exact Nat.not_le.2 new old
  rw [attached.get?, if_neg (apart (by rw [attached.membership]; omega)),
    if_neg (apart (by rw [attached.edge]; omega)), if_neg (apart (by rw [attached.link]; omega))]

/-- What was there is as it was. -/
theorem kept (attached : Attached relation before label after)
    (consistent : before.store.Consistent) {address : Address} {found : Element}
    (there : before.store.get? address = some found) : after.store.get? address = some found :=
  (attached.same (consistent.numbered there).2).trans there

theorem allocated_le (attached : Attached relation before label after) :
    before.store.allocated + 3 ≤ after.store.allocated := by
  have numbered := (attached.consistent.numbered
    (show after.store.get? label.membership = _ by rw [attached.get?, if_pos rfl])).2
  rwa [attached.membership] at numbered

/-- No address of before is used again. -/
theorem precedes (attached : Attached relation before label after) :
    before.store.Precedes after.store where
  allocated := Nat.le_trans (Nat.le_add_right _ 3) attached.allocated_le
  old found older := ⟨_, (attached.same older).symm.trans found, rfl, rfl⟩

/-- The edges are those of before and the two of the label. -/
theorem edge_cases (attached : Attached relation before label after) {edge source target : Address}
    {type : ElementType}
    (found : after.store.get? edge = some ⟨edge, type, .edge source target⟩) :
    (edge = label.membership ∧ type = .membership ∧ source = relation ∧ target = label.edge) ∨
      (edge = label.edge ∧ type = .constantDirected ∧ source = label.element ∧
        target = label.link) ∨
      before.store.get? edge = some ⟨edge, type, .edge source target⟩ := by
  rw [attached.get?] at found
  split at found
  · cases found
    exact .inl ⟨‹_›, rfl, rfl, rfl⟩
  · split at found
    · cases found
      exact .inr (.inl ⟨‹_›, rfl, rfl, rfl⟩)
    · split at found
      · cases found
      · exact .inr (.inr found)

/-- The nodes are those of before. -/
theorem node_of_node (attached : Attached relation before label after) {address : Address}
    {type : ElementType} (found : after.store.get? address = some ⟨address, type, .node⟩) :
    before.store.get? address = some ⟨address, type, .node⟩ := by
  rw [attached.get?] at found
  split at found
  · cases found
  · split at found
    · cases found
    · split at found
      · cases found
      · exact found

/-- The parts of the label are new, and differ. -/
theorem apart (attached : Attached relation before label after)
    (consistent : before.store.Consistent) :
    before.store.contains label.link = false ∧ before.store.contains label.edge = false ∧
      label.link ≠ label.edge ∧ label.link ≠ label.membership ∧ label.edge ≠ label.membership := by
  have link := attached.link
  have edge := attached.edge
  have membership := attached.membership
  have new : ∀ {address : Address}, before.store.allocated < address.value →
      before.store.contains address = false := by
    intro address new
    exact Bool.eq_false_iff.2 (Store.not_contains_iff.2 (consistent.get?_of_newer new))
  have differ : ∀ {first second : Address}, first.value ≠ second.value → first ≠ second :=
    fun values same => values (congrArg Address.value same)
  exact ⟨new (by omega), new (by omega), differ (by omega), differ (by omega), differ (by omega)⟩

/-- An edge into what was there was there. -/
theorem edge_of_old (attached : Attached relation before label after)
    (consistent : before.store.Consistent) {edge source target : Address} {type : ElementType}
    (found : after.store.get? edge = some ⟨edge, type, .edge source target⟩)
    (there : before.store.contains target = true) :
    before.store.get? edge = some ⟨edge, type, .edge source target⟩ := by
  obtain ⟨newLink, newEdge, -⟩ := attached.apart consistent
  rcases attached.edge_cases found with ⟨-, -, -, rfl⟩ | ⟨-, -, -, rfl⟩ | old
  · rw [newEdge] at there
    cases there
  · rw [newLink] at there
    cases there
  · exact old

/-- No edge but the naming edge leads to the new link. -/
theorem edge_of_link (attached : Attached relation before label after)
    (consistent : before.store.Consistent) {edge source : Address} {type : ElementType}
    (found : after.store.get? edge = some ⟨edge, type, .edge source label.link⟩) :
    edge = label.edge ∧ source = label.element := by
  obtain ⟨newLink, -, differ, -⟩ := attached.apart consistent
  rcases attached.edge_cases found with ⟨-, -, -, into⟩ | ⟨same, -, from_, -⟩ | old
  · exact absurd into differ
  · exact ⟨same, from_⟩
  · rw [(consistent.anchored old List.not_mem_nil).2] at newLink
    cases newLink

/-- No edge but that of the relation leads to the new naming edge. -/
theorem membership_of_edge (attached : Attached relation before label after)
    (consistent : before.store.Consistent) {edge source : Address} {type : ElementType}
    (found : after.store.get? edge = some ⟨edge, type, .edge source label.edge⟩) :
    edge = label.membership := by
  obtain ⟨-, newEdge, differ, -⟩ := attached.apart consistent
  rcases attached.edge_cases found with ⟨same, -⟩ | ⟨-, -, -, into⟩ | old
  · exact same
  · exact absurd into.symm differ
  · rw [(consistent.anchored old List.not_mem_nil).2] at newEdge
    cases newEdge

/-- The new label is in the network. -/
theorem stands (attached : Attached relation before label after)
    (consistent : before.store.Consistent)
    (there : before.store.contains label.element = true) : label.Stands relation after := by
  obtain ⟨-, -, linkEdge, linkMembership, edgeMembership⟩ := attached.apart consistent
  refine ⟨?_, ?_, ?_, ?_, ?_⟩
  · rw [attached.links]
    exact List.mem_append_right _ List.mem_cons_self
  · rw [attached.get?, if_neg linkMembership, if_neg linkEdge, if_pos rfl]
  · rw [attached.get?, if_neg edgeMembership, if_pos rfl]
  · rw [attached.get?, if_pos rfl]
  · obtain ⟨found, there⟩ := Store.contains_iff.1 there
    have old := (consistent.numbered there).2
    have new := attached.link
    rw [Address.lt_def]
    omega

/-- **There is one label more.** -/
theorem stands_iff (attached : Attached relation before label after)
    (labelled : IsLabelled relation before)
    (there : before.store.contains label.element = true) :
    other.Stands relation after ↔ other = label ∨ other.Stands relation before := by
  have consistent := labelled.consistent
  have new := attached.stands consistent there
  constructor
  · intro stands
    have tracked := stands.tracked
    rw [attached.links, List.mem_append, List.mem_singleton] at tracked
    rcases tracked with tracked | same
    · -- No edge into a link that was tracked is new, and no edge into that edge.
      obtain ⟨old, same, stands'⟩ := labelled.labelled tracked
      have link : before.store.get? other.link = after.store.get? other.link := by
        rw [← same, stands'.link, attached.kept consistent stands'.link]
      have edge := attached.edge_of_old consistent stands.edge
        (Store.contains_of_get? (link.trans stands.link))
      have membership := attached.edge_of_old consistent stands.membership
        (Store.contains_of_get? edge)
      exact .inr ⟨tracked, link.trans stands.link, edge, membership, stands.older⟩
    · obtain ⟨sameEdge, sameElement⟩ := attached.edge_of_link consistent (same ▸ stands.edge)
      have sameMembership := attached.membership_of_edge consistent (sameEdge ▸ stands.membership)
      have link := stands.link
      rw [same, new.link] at link
      simp only [Option.some.injEq, Element.mk.injEq, Body.link.injEq, Payload.text.injEq,
        true_and] at link
      exact .inl (Label.ext sameElement link.symm same sameEdge sameMembership)
  · rintro (rfl | stands)
    · exact new
    · exact ⟨attached.links ▸ List.mem_append_left _ stands.tracked,
        attached.kept consistent stands.link, attached.kept consistent stands.edge,
        attached.kept consistent stands.membership, stands.older⟩

/-- **Order is kept**, if no element had the identifier. -/
theorem isLabelled (attached : Attached relation before label after)
    (labelled : IsLabelled relation before) (there : before.store.contains label.element = true)
    (fresh : ∀ other : Label, other.Stands relation before → other.identifier ≠ label.identifier) :
    IsLabelled relation after := by
  have consistent := labelled.consistent
  have stands_iff : ∀ {other : Label}, other.Stands relation after ↔
      other = label ∨ other.Stands relation before := attached.stands_iff labelled there
  refine ⟨attached.consistent, labelled.tended.congr attached.observers,
    attached.kept consistent labelled.rooted, ?_, ?_, ?_, ?_⟩
  · intro link tracked
    rw [attached.links, List.mem_append, List.mem_singleton] at tracked
    rcases tracked with tracked | rfl
    · obtain ⟨old, same, stands⟩ := labelled.labelled tracked
      exact ⟨old, same, stands_iff.2 (.inr stands)⟩
    · exact ⟨label, rfl, stands_iff.2 (.inl rfl)⟩
  · intro other edge type source stands found
    rcases stands_iff.1 stands with rfl | old
    · exact (attached.edge_of_link consistent found).1
    · exact labelled.entering old
        (attached.edge_of_old consistent found (Store.contains_of_get? old.link))
  · intro edge type target found
    rcases attached.edge_cases found with ⟨-, -, -, rfl⟩ | ⟨-, -, -, rfl⟩ | old
    · exact .inr ⟨label, rfl, stands_iff.2 (.inl rfl)⟩
    · exact .inl (attached.stands consistent there).tracked
    · rcases labelled.leaving old with tracked | ⟨other, same, stands⟩
      · exact .inl (attached.links ▸ List.mem_append_left _ tracked)
      · exact .inr ⟨other, same, stands_iff.2 (.inr stands)⟩
  · intro first second stands stands' same
    rcases stands_iff.1 stands with rfl | old <;> rcases stands_iff.1 stands' with rfl | old'
    · rfl
    · exact absurd same.symm (fresh second old')
    · exact absurd same (fresh first old)
    · exact labelled.distinct old old' same

end Attached

end Naming

end SemanticNetwork
