/-
**Labels.** That an element has an identifier takes three other elements: a link that holds the text
and is tracked, a naming edge that leads to it, and an edge by which the naming edge belongs to the
naming relation. In an orderly network every tracked link is part of such a label, no other edge
enters it, the relation leads to nothing else, and no two labels have one identifier.

* `Label.Stands`, `IsLabelled`: a label in a network, and an orderly network;
* `Unnoticed.isLabelled`, `Unnoticed.stands_iff`: what leaves the labels alone;
* `IsLabelled.isClosed_loose`: a label hangs on nothing but its element;
* `IsLabelled.spared`, `IsLabelled.spared_of_lt`: so an erasure spares the labels of what it spares;
* `IsLabelled.unravel`, `IsLabelled.stands_iff_of_unravels`: **so order is kept, and the labels of
  what remains remain**;
* `IsLabelled.unnames`: an erasure of a link takes its label, but not the element.
-/
import SemanticNetwork.Memory.Naming
import SemanticNetwork.Proofs.Network.Unravelling

namespace SemanticNetwork.Naming

open Network (Unravels)

/-- How an element is named: the link that holds its identifier, the naming edge that leads to the
link, and the edge by which that belongs to the naming relation. -/
@[ext] structure Label where
  element : Address
  identifier : String
  link : Address
  edge : Address
  membership : Address

/-- A label is in a network. -/
structure Label.Stands (label : Label) (relation : Address) (network : Network) : Prop where
  tracked : label.link ∈ network.identifierLinks
  link : network.store.get? label.link =
    some ⟨label.link, .constantLink, .link (some (.text label.identifier))⟩
  edge : network.store.get? label.edge =
    some ⟨label.edge, .constantDirected, .edge label.element label.link⟩
  membership : network.store.get? label.membership =
    some ⟨label.membership, .membership, .edge relation label.edge⟩
  older : label.element < label.link

/-- **Every tracked link is part of a label**, which it shares with no other edge and whose identifier
it shares with no other label, and the relation leads to labels only. -/
structure IsLabelled (relation : Address) (network : Network) : Prop where
  consistent : network.store.Consistent
  tended : network.IsTended
  rooted : network.store.get? relation = some ⟨relation, .constantNorole, .node⟩
  labelled : ∀ {link}, link ∈ network.identifierLinks →
    ∃ label : Label, label.link = link ∧ label.Stands relation network
  entering : ∀ {label : Label} {edge type source}, label.Stands relation network →
    network.store.get? edge = some ⟨edge, type, .edge source label.link⟩ → edge = label.edge
  leaving : ∀ {edge type target},
    network.store.get? edge = some ⟨edge, type, .edge relation target⟩ →
      target ∈ network.identifierLinks ∨
        ∃ label : Label, label.edge = target ∧ label.Stands relation network
  distinct : ∀ {first second : Label}, first.Stands relation network →
    second.Stands relation network → first.identifier = second.identifier →
      first.link = second.link

variable {relation : Address} {before after network : Network} {label first second : Label}
  {roots : Set Address}

namespace IsLabelled

theorem contains_element (labelled : IsLabelled relation network)
    (stands : label.Stands relation network) : network.store.contains label.element = true :=
  (labelled.consistent.anchored stands.edge List.not_mem_nil).1

/-- A link is in one label only. -/
theorem eq_of_link (labelled : IsLabelled relation network) (stands : first.Stands relation network)
    (stands' : second.Stands relation network) (same : first.link = second.link) :
    first.element = second.element ∧ first.identifier = second.identifier ∧
      first.edge = second.edge := by
  have edge := stands.edge
  rw [same] at edge
  have sameEdge := labelled.entering stands' edge
  rw [sameEdge, stands'.edge] at edge
  have link := stands.link
  rw [same, stands'.link] at link
  simp only [Option.some.injEq, Element.mk.injEq, Body.edge.injEq, Body.link.injEq,
    Payload.text.injEq, true_and, and_true] at edge link
  exact ⟨edge.symm, link.symm, sameEdge⟩

end IsLabelled

/-! ### What leaves the labels alone -/

/-- A network in which the labels of another are as they were, and no edge is new that leaves the
relation or enters a tracked link. -/
structure Unnoticed (relation : Address) (before after : Network) : Prop where
  consistent : after.store.Consistent
  tended : after.IsTended
  links : after.identifierLinks = before.identifierLinks
  rooted : after.store.get? relation = before.store.get? relation
  tracked : ∀ link ∈ before.identifierLinks, after.store.get? link = before.store.get? link
  edges : ∀ {edge type source target},
    before.store.get? edge = some ⟨edge, type, .edge source target⟩ →
      after.store.get? edge = some ⟨edge, type, .edge source target⟩
  admissible : ∀ {edge type source target},
    after.store.get? edge = some ⟨edge, type, .edge source target⟩ →
      before.store.get? edge = some ⟨edge, type, .edge source target⟩ ∨
        source ≠ relation ∧ target ∉ before.identifierLinks

namespace Unnoticed

theorem stands_iff (unnoticed : Unnoticed relation before after) :
    label.Stands relation after ↔ label.Stands relation before := by
  constructor
  · intro stands
    have tracked : label.link ∈ before.identifierLinks := unnoticed.links ▸ stands.tracked
    refine ⟨tracked, (unnoticed.tracked _ tracked).symm.trans stands.link, ?_, ?_, stands.older⟩
    · rcases unnoticed.admissible stands.edge with old | ⟨-, elsewhere⟩
      · exact old
      · exact absurd tracked elsewhere
    · rcases unnoticed.admissible stands.membership with old | ⟨elsewhere, -⟩
      · exact old
      · exact absurd rfl elsewhere
  · intro stands
    exact ⟨unnoticed.links ▸ stands.tracked,
      (unnoticed.tracked _ stands.tracked).trans stands.link, unnoticed.edges stands.edge,
      unnoticed.edges stands.membership, stands.older⟩

/-- **Order is kept** where nobody touches a label. -/
theorem isLabelled (unnoticed : Unnoticed relation before after)
    (labelled : IsLabelled relation before) : IsLabelled relation after where
  consistent := unnoticed.consistent
  tended := unnoticed.tended
  rooted := unnoticed.rooted.trans labelled.rooted
  labelled {link} tracked := by
    obtain ⟨label, same, stands⟩ := labelled.labelled (unnoticed.links ▸ tracked)
    exact ⟨label, same, unnoticed.stands_iff.2 stands⟩
  entering {label edge type source} stands found := by
    have standsBefore := unnoticed.stands_iff.1 stands
    rcases unnoticed.admissible found with old | ⟨-, elsewhere⟩
    · exact labelled.entering standsBefore old
    · exact absurd standsBefore.tracked elsewhere
  leaving {edge type target} found := by
    rcases unnoticed.admissible found with old | ⟨elsewhere, -⟩
    · rcases labelled.leaving old with tracked | ⟨label, same, stands⟩
      · exact .inl (unnoticed.links ▸ tracked)
      · exact .inr ⟨label, same, unnoticed.stands_iff.2 stands⟩
    · exact absurd rfl elsewhere
  distinct stands stands' same :=
    labelled.distinct (unnoticed.stands_iff.1 stands) (unnoticed.stands_iff.1 stands') same

/-- Where at most the memory of observers differs, nothing is to be noticed. -/
theorem of_alike (labelled : IsLabelled relation before) (alike : before.Alike after) :
    Unnoticed relation before after where
  consistent := alike.store ▸ labelled.consistent
  tended := labelled.tended.congr alike.observers
  links := alike.identifierLinks
  rooted := by rw [alike.store]
  tracked _ _ := by rw [alike.store]
  edges found := by rwa [alike.store]
  admissible found := .inl (by rwa [alike.store] at found)

end Unnoticed

/-! ### Erasures -/

namespace IsLabelled

/-- What is in a set but for the relation, and for the labels whose element is not in it. -/
def loose (relation : Address) (network : Network) (roots base : Set Address) : Set Address :=
  {address | address ∈ base ∧ address ≠ relation ∧
    ∀ label : Label, label.Stands relation network → label.element ∉ base → label.link ∉ roots →
      address ≠ label.link ∧ address ≠ label.edge ∧ address ≠ label.membership}

/-- A tracked link is neither the relation nor an edge. -/
theorem apart_of_tracked (labelled : IsLabelled relation network) {link : Address}
    (tracked : link ∈ network.identifierLinks) : link ≠ relation ∧
      ∀ {edge type source target}, network.store.get? edge = some ⟨edge, type, .edge source target⟩ →
        link ≠ edge := by
  obtain ⟨label, rfl, stands⟩ := labelled.labelled tracked
  refine ⟨fun same => ?_, fun found same => ?_⟩
  · have found := stands.link
    rw [same, labelled.rooted] at found
    cases found
  · rw [← same, stands.link] at found
    cases found

/-- **A label hangs on nothing but its element.** If a set is closed but for labels, what is in it but
for the labels of other elements is closed. -/
theorem isClosed_loose (labelled : IsLabelled relation network) {base : Set Address}
    (edges : network.store.IsClosed base)
    (links : ∀ {label : Label}, label.Stands relation network → label.edge ∈ base →
      label.element ∈ base ∨ label.link ∈ roots → label.link ∈ base) :
    network.IsClosed (loose relation network roots base) where
  edges {edge type source target} found atEnd := by
    refine ⟨edges found (atEnd.imp And.left And.left), ?_, ?_⟩
    · rintro rfl
      cases labelled.rooted.symm.trans found
    · -- An edge of a label has its ends among the label, its element and the relation.
      intro label stands spared notRoot
      refine ⟨?_, ?_, ?_⟩
      · rintro rfl
        cases stands.link.symm.trans found
      · rintro rfl
        cases stands.edge.symm.trans found
        rcases atEnd with ⟨inBase, -⟩ | ⟨-, -, apart⟩
        · exact spared inBase
        · exact (apart label stands spared notRoot).1 rfl
      · rintro rfl
        cases stands.membership.symm.trans found
        rcases atEnd with ⟨-, elsewhere, -⟩ | ⟨-, -, apart⟩
        · exact elsewhere rfl
        · exact (apart label stands spared notRoot).2.1 rfl
  links {edge source link} found tracked inside := by
    obtain ⟨inBase, -, apart⟩ := inside
    obtain ⟨notRelation, notEdge⟩ := labelled.apart_of_tracked tracked
    obtain ⟨label, rfl, stands⟩ := labelled.labelled tracked
    obtain rfl := labelled.entering stands found
    have loose : label.element ∈ base ∨ label.link ∈ roots := by
      refine Classical.byContradiction fun neither => ?_
      obtain ⟨spared, notRoot⟩ := not_or.1 neither
      exact (apart label stands spared notRoot).2.1 rfl
    refine ⟨links stands inBase loose, notRelation, fun other stands' spared notRoot => ?_⟩
    refine ⟨fun same => ?_, notEdge stands'.edge, notEdge stands'.membership⟩
    rw [← same] at notRoot
    exact spared ((labelled.eq_of_link stands stands' same).1 ▸ loose.resolve_right notRoot)

/-- **An erasure spares the relation, and every label whose element it spares**, unless it starts at
one of their parts. -/
theorem spared (labelled : IsLabelled relation before) (unravels : Unravels roots before after [])
    (foreign : ∀ root ∈ roots, root ≠ relation ∧ ∀ label : Label, label.Stands relation before →
      root ≠ label.edge ∧ root ≠ label.membership) {address : Address}
    (gone : address ∈ before.store.removed after.store) :
    address ∈ loose relation before roots (before.store.removed after.store) := by
  have removed := unravels.isClosed_removed labelled.consistent
  refine unravels.bounded (labelled.isClosed_loose removed.edges ?_) ?_ gone
  · intro label stands edgeGone _
    exact removed.links stands.edge stands.tracked edgeGone
  · intro root member rootGone
    obtain ⟨notRelation, apart⟩ := foreign root member
    refine ⟨rootGone, notRelation, fun label stands _ notRoot => ⟨?_, apart label stands⟩⟩
    rintro rfl
    exact notRoot member

/-- **An erasure of a tracked link spares what is older than the link.** -/
theorem spared_of_lt (labelled : IsLabelled relation before) (stands : label.Stands relation before)
    (unravels : Unravels {label.link} before after []) {address : Address}
    (older : address < label.link) : address ∉ before.store.removed after.store := by
  intro gone
  have edges : before.store.IsClosed {address | ¬ address < label.link} := by
    intro edge type source target found atEnd younger
    obtain ⟨sourceOlder, targetOlder⟩ := labelled.consistent.ordered found
    rcases atEnd with notOlder | notOlder
    · exact notOlder (Key.lt_trans sourceOlder younger)
    · exact notOlder (Key.lt_trans targetOlder younger)
  have closed : before.IsClosed
      (loose relation before {label.link} {address | ¬ address < label.link}) := by
    refine labelled.isClosed_loose edges fun {other} stands' _ hangs younger => ?_
    rcases hangs with notOlder | root
    · exact notOlder (Key.lt_trans stands'.older younger)
    · exact Key.lt_irrefl _ (root ▸ younger)
  refine (unravels.bounded closed ?_ gone).1 older
  rintro root rfl -
  obtain ⟨notRelation, notEdge⟩ := labelled.apart_of_tracked stands.tracked
  refine ⟨Key.lt_irrefl _, notRelation, fun other stands' _ notRoot => ?_⟩
  exact ⟨fun same => notRoot same.symm, notEdge stands'.edge, notEdge stands'.membership⟩

/-- What an erasure starts from, seen from the labels: it is neither the relation nor an edge of a
label, and if it is a tracked link, it goes. -/
structure Harmless (relation : Address) (roots : Set Address) (before after : Network) : Prop where
  foreign : ∀ root ∈ roots, root ≠ relation ∧ ∀ label : Label, label.Stands relation before →
    root ≠ label.edge ∧ root ≠ label.membership
  gone : ∀ root ∈ roots, root ∈ before.identifierLinks → after.store.get? root = none

/-- **The labels of what remains remain**, but for those whose link was erased by itself. -/
theorem stands_iff_of_unravels (labelled : IsLabelled relation before)
    (unravels : Unravels roots before after []) (harmless : Harmless relation roots before after) :
    label.Stands relation after ↔ label.Stands relation before ∧
      after.store.contains label.element = true ∧ label.link ∉ roots := by
  constructor
  · intro stands
    have standsBefore : label.Stands relation before :=
      ⟨unravels.tracked stands.tracked, unravels.kept stands.link, unravels.kept stands.edge,
        unravels.kept stands.membership, stands.older⟩
    refine ⟨standsBefore, (unravels.consistent.anchored stands.edge List.not_mem_nil).1, ?_⟩
    intro root
    have gone := harmless.gone _ root standsBefore.tracked
    rw [stands.link] at gone
    cases gone
  · rintro ⟨stands, there, notRoot⟩
    have spared : ∀ {address}, (address = label.link ∨ address = label.edge ∨
        address = label.membership) → after.store.get? address = before.store.get? address := by
      intro address part
      refine Store.get?_of_not_removed unravels.kept fun gone => ?_
      have elementSpared : label.element ∉ before.store.removed after.store :=
        fun removed => Store.not_contains_iff.2 removed.2 there
      obtain ⟨notLink, notEdge, notMembership⟩ :=
        (labelled.spared unravels harmless.foreign gone).2.2 label stands elementSpared notRoot
      rcases part with same | same | same
      · exact notLink same
      · exact notEdge same
      · exact notMembership same
    have edge := (spared (.inr (.inl rfl))).trans stands.edge
    refine ⟨unravels.tracked_iff.2 ⟨stands.tracked, fun found => ?_⟩,
      (spared (.inl rfl)).trans stands.link, edge, (spared (.inr (.inr rfl))).trans stands.membership,
      stands.older⟩
    rw [labelled.entering stands found, edge]
    exact Option.some_ne_none _

/-- **An erasure keeps order.** -/
theorem unravel (labelled : IsLabelled relation before) (unravels : Unravels roots before after [])
    (harmless : Harmless relation roots before after) : IsLabelled relation after := by
  have stands_iff : ∀ {label : Label}, label.Stands relation after ↔
      label.Stands relation before ∧ after.store.contains label.element = true ∧
        label.link ∉ roots := labelled.stands_iff_of_unravels unravels harmless
  have rooted : after.store.get? relation = before.store.get? relation :=
    Store.get?_of_not_removed unravels.kept fun gone =>
      (labelled.spared unravels harmless.foreign gone).2.1 rfl
  have anchored : ∀ {edge type source target},
      after.store.get? edge = some ⟨edge, type, .edge source target⟩ →
        after.store.contains source = true ∧ after.store.contains target = true :=
    fun found => unravels.consistent.anchored found List.not_mem_nil
  -- A label of which the naming edge remains is whole.
  have whole : ∀ {label : Label}, label.Stands relation before →
      after.store.contains label.edge = true → label.Stands relation after := by
    intro label stands there
    obtain ⟨element, there⟩ := Store.contains_iff.1 there
    cases stands.edge.symm.trans (unravels.kept there)
    obtain ⟨elementThere, linkThere⟩ := anchored there
    refine stands_iff.2 ⟨stands, elementThere, fun root => ?_⟩
    exact absurd linkThere (Store.not_contains_iff.2 (harmless.gone _ root stands.tracked))
  refine ⟨unravels.consistent, labelled.tended.congr unravels.observers, rooted.trans labelled.rooted,
    ?_, ?_, ?_, ?_⟩
  · intro link tracked
    obtain ⟨label, rfl, stands⟩ := labelled.labelled (unravels.tracked tracked)
    have there := (unravels.tracked_iff.1 tracked).2 stands.edge
    obtain ⟨element, there⟩ := Option.ne_none_iff_exists'.1 there
    exact ⟨label, rfl, whole stands (Store.contains_of_get? there)⟩
  · intro label edge type source stands found
    exact labelled.entering (stands_iff.1 stands).1 (unravels.kept found)
  · intro edge type target found
    obtain ⟨-, targetThere⟩ := anchored found
    rcases labelled.leaving (unravels.kept found) with tracked | ⟨label, rfl, stands⟩
    · refine .inl (Classical.byContradiction fun missing => ?_)
      exact Store.not_contains_iff.2 (unravels.forgotten tracked missing).1 targetThere
    · exact .inr ⟨label, rfl, whole stands targetThere⟩
  · intro first second stands stands' same
    exact labelled.distinct (stands_iff.1 stands).1 (stands_iff.1 stands').1 same

/-! ### Losing a label -/

/-- **One label is gone.** Its element is still there; the other labels are those of elements that are
still there. -/
structure Unnames (relation : Address) (before : Network) (label : Label) (after : Network) :
    Prop where
  labelled : IsLabelled relation after
  there : after.store.contains label.element = true
  stands_iff : ∀ other : Label, other.Stands relation after ↔ other.Stands relation before ∧
    after.store.contains other.element = true ∧ other.link ≠ label.link

/-- **An erasure of a tracked link takes its label only**, and the labels of what depended on it. -/
theorem unnames (labelled : IsLabelled relation before) (stands : label.Stands relation before)
    (unravels : Unravels {label.link} before after [])
    (gone : after.store.get? label.link = none) : Unnames relation before label after := by
  obtain ⟨notRelation, notEdge⟩ := labelled.apart_of_tracked stands.tracked
  have harmless : Harmless relation {label.link} before after := by
    refine ⟨?_, ?_⟩
    · rintro root rfl
      exact ⟨notRelation, fun other stands => ⟨notEdge stands.edge, notEdge stands.membership⟩⟩
    · rintro root rfl -
      exact gone
  refine ⟨labelled.unravel unravels harmless, ?_, fun other => ?_⟩
  · refine Classical.byContradiction fun missing => ?_
    exact labelled.spared_of_lt stands unravels stands.older
      ⟨labelled.contains_element stands, Store.not_contains_iff.1 missing⟩
  · exact labelled.stands_iff_of_unravels unravels harmless

end IsLabelled

end SemanticNetwork.Naming
