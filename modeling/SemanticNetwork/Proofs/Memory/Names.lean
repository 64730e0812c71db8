/-
**Names.** The labels of an orderly network are an injective partial map from elements to identifiers.
Giving an identifier changes the map at one element, and erases the former label of that element; what
goes with it loses its name, too.

* `IsOrderly`, `HasName`: a network in which no element has two labels, and the names in it;
* `Follows.hasName_iff`: what remains keeps its name;
* `IsLabelled.Unnames.hasName_iff`: the element of a label that is gone has none;
* `Attached.renames_erase`: a new label replaces a former one, whose link is erased;
* `exists_assigned`: **giving an identifier that is free succeeds**;
* `exists_introduced`, `exists_created`: **so does creating a node with an identifier that is free.**
-/
import SemanticNetwork.Proofs.Memory.Attaching
import SemanticNetwork.Proofs.Memory.Following
import SemanticNetwork.Proofs.Memory.Lookup

namespace SemanticNetwork.Naming

/-- An orderly network in which no element has two labels. -/
structure IsOrderly (relation : Address) (network : Network) : Prop where
  labelled : IsLabelled relation network
  single : IsSingle relation network

/-- An element has an identifier, by one of its labels. -/
def HasName (relation : Address) (network : Network) (element : Address) (identifier : String) :
    Prop :=
  ∃ label : Label, label.Stands relation network ∧ label.element = element ∧
    label.identifier = identifier

variable {relation element : Address} {network before after : Network} {identifier : String}
  {label : Label}

/-- No element has two labels where what remains kept its label. -/
theorem Follows.isOrderly (follows : Follows relation before after)
    (orderly : IsOrderly relation before) : IsOrderly relation after where
  labelled := follows.labelled
  single stands stands' :=
    orderly.single ((follows.stands_iff _).1 stands).1 ((follows.stands_iff _).1 stands').1

theorem Follows.hasName_iff (follows : Follows relation before after) :
    HasName relation after element identifier ↔
      HasName relation before element identifier ∧ after.store.contains element = true := by
  constructor
  · rintro ⟨label, stands, rfl, rfl⟩
    obtain ⟨stands, there⟩ := (follows.stands_iff label).1 stands
    exact ⟨⟨label, stands, rfl, rfl⟩, there⟩
  · rintro ⟨⟨label, stands, rfl, rfl⟩, there⟩
    exact ⟨label, (follows.stands_iff label).2 ⟨stands, there⟩, rfl, rfl⟩

namespace IsOrderly

theorem find?_eq_some_iff (orderly : IsOrderly relation network) :
    find? network.store relation identifier = some element ↔
      HasName relation network element identifier :=
  Naming.find?_eq_some_iff orderly.labelled

theorem identifierOf?_eq_some_iff (orderly : IsOrderly relation network) :
    identifierOf? network.store relation element = some identifier ↔
      HasName relation network element identifier :=
  Naming.identifierOf?_eq_some_iff orderly.labelled orderly.single

theorem find?_eq_none_iff (orderly : IsOrderly relation network) :
    find? network.store relation identifier = none ↔
      ∀ label : Label, label.Stands relation network → label.identifier ≠ identifier := by
  rw [Option.eq_none_iff_forall_ne_some]
  refine ⟨fun none label stands same => ?_, fun free element found => ?_⟩
  · exact none label.element (orderly.find?_eq_some_iff.2 ⟨label, stands, rfl, same⟩)
  · obtain ⟨label, stands, -, same⟩ := orderly.find?_eq_some_iff.1 found
    exact free label stands same

/-- Elements with the same identifier are the same. -/
theorem eq_of_hasName (orderly : IsOrderly relation network) {other : Address}
    (named : HasName relation network element identifier)
    (named' : HasName relation network other identifier) : element = other := by
  obtain ⟨label, stands, rfl, same⟩ := named
  obtain ⟨label', stands', rfl, same'⟩ := named'
  exact (orderly.labelled.eq_of_link stands stands'
    (orderly.labelled.distinct stands stands' (same.trans same'.symm))).1

/-- Labels have one link if they have one element. -/
theorem link_eq_iff (orderly : IsOrderly relation network) {first second : Label}
    (stands : first.Stands relation network) (stands' : second.Stands relation network) :
    first.link = second.link ↔ first.element = second.element :=
  ⟨fun same => (orderly.labelled.eq_of_link stands stands' same).1, orderly.single stands stands'⟩

theorem contains_of_hasName (orderly : IsOrderly relation network)
    (named : HasName relation network element identifier) :
    network.store.contains element = true := by
  obtain ⟨label, stands, rfl, -⟩ := named
  exact orderly.labelled.contains_element stands

end IsOrderly

/-! ### Losing an identifier -/

/-- No element has two labels where one label is gone. -/
theorem IsLabelled.Unnames.isOrderly (unnames : IsLabelled.Unnames relation before label after)
    (orderly : IsOrderly relation before) : IsOrderly relation after where
  labelled := unnames.labelled
  single stands stands' := orderly.single ((unnames.stands_iff _).1 stands).1
    ((unnames.stands_iff _).1 stands').1

/-- **The element of a label that is gone has no name**; whatever else is still there keeps its
name. -/
theorem IsLabelled.Unnames.hasName_iff (unnames : IsLabelled.Unnames relation before label after)
    (orderly : IsOrderly relation before) (stands : label.Stands relation before) :
    HasName relation after element identifier ↔ element ≠ label.element ∧
      after.store.contains element = true ∧ HasName relation before element identifier := by
  constructor
  · rintro ⟨found, standsFound, rfl, rfl⟩
    obtain ⟨old, there, other⟩ := (unnames.stands_iff found).1 standsFound
    exact ⟨mt (orderly.link_eq_iff old stands).2 other, there, found, old, rfl, rfl⟩
  · rintro ⟨other, there, found, old, rfl, rfl⟩
    refine ⟨found, (unnames.stands_iff found).2 ⟨old, there, ?_⟩, rfl, rfl⟩
    exact mt (orderly.link_eq_iff old stands).1 other

/-! ### Giving an identifier -/

/-- **What becomes of the names when an element gets an identifier.** It has that and no other;
whatever else is still there keeps its name. -/
structure Renames (relation : Address) (before : Network) (element : Address) (identifier : String)
    (after : Network) : Prop where
  orderly : IsOrderly relation after
  observers : after.observers = before.observers
  hasName_iff : ∀ other name, HasName relation after other name ↔
    (other = element ∧ name = identifier) ∨
      (other ≠ element ∧ after.store.contains other = true ∧ HasName relation before other name)

/-- An element keeps the identifier that it has. -/
theorem Renames.refl (orderly : IsOrderly relation network)
    (named : HasName relation network element identifier) :
    Renames relation network element identifier network where
  orderly := orderly
  observers := rfl
  hasName_iff other name := by
    by_cases same : other = element
    · subst same
      rw [← orderly.identifierOf?_eq_some_iff] at named ⊢
      rw [named, Option.some.injEq]
      exact ⟨fun same => .inl ⟨rfl, same.symm⟩, fun assigned => (assigned.resolve_right
        fun elsewhere => elsewhere.1 rfl).2.symm⟩
    · have there : HasName relation network other name → network.store.contains other = true :=
        orderly.contains_of_hasName
      simp only [same, false_and, false_or, ne_eq, not_false_eq_true, true_and]
      exact ⟨fun named => ⟨there named, named⟩, And.right⟩

/-- An element is renamed where it has a new label and no other, and the labels of whatever else is
still there are those of before. -/
theorem renames_of_stands_iff (orderly : IsOrderly relation before)
    (labelled : IsLabelled relation after) (observers : after.observers = before.observers)
    (stands_iff : ∀ {other : Label}, other.Stands relation after ↔ other = label ∨
      other.Stands relation before ∧ after.store.contains other.element = true ∧
        other.element ≠ label.element) :
    Renames relation before label.element label.identifier after := by
  refine ⟨⟨labelled, ?_⟩, observers, fun other name => ?_⟩
  · intro first second standsFirst standsSecond same
    rcases stands_iff.1 standsFirst with rfl | ⟨old, -, elsewhere⟩ <;>
      rcases stands_iff.1 standsSecond with rfl | ⟨old', -, elsewhere'⟩
    · rfl
    · exact absurd same.symm elsewhere'
    · exact absurd same elsewhere
    · exact orderly.single old old' same
  · constructor
    · rintro ⟨found, stands, rfl, rfl⟩
      rcases stands_iff.1 stands with rfl | ⟨old, there, elsewhere⟩
      · exact .inl ⟨rfl, rfl⟩
      · exact .inr ⟨elsewhere, there, found, old, rfl, rfl⟩
    · rintro (⟨rfl, rfl⟩ | ⟨elsewhere, there, found, old, rfl, rfl⟩)
      · exact ⟨label, stands_iff.2 (.inl rfl), rfl, rfl⟩
      · exact ⟨found, stands_iff.2 (.inr ⟨old, there, elsewhere⟩), rfl, rfl⟩

/-- A new label for an element without one. -/
theorem Attached.renames (attached : Attached relation before label after)
    (orderly : IsOrderly relation before) (there : before.store.contains label.element = true)
    (free : ∀ other : Label, other.Stands relation before → other.identifier ≠ label.identifier)
    (unnamed : ∀ other : Label, other.Stands relation before → other.element ≠ label.element) :
    Renames relation before label.element label.identifier after := by
  have labelled := attached.isLabelled orderly.labelled there free
  have stands_iff : ∀ {other : Label}, other.Stands relation after ↔
      other = label ∨ other.Stands relation before := attached.stands_iff orderly.labelled there
  refine renames_of_stands_iff orderly labelled attached.observers fun {other} => ?_
  rw [stands_iff]
  refine or_congr_right ⟨fun old => ⟨old, ?_, unnamed other old⟩, And.left⟩
  exact labelled.contains_element (stands_iff.2 (.inr old))

/-- A new label for an element with one: the former goes. -/
theorem Attached.renames_erase {former : Label} (attached : Attached relation before label after)
    (orderly : IsOrderly relation before) (there : before.store.contains label.element = true)
    (free : ∀ other : Label, other.Stands relation before → other.identifier ≠ label.identifier)
    (stands : former.Stands relation before) (same : former.element = label.element) :
    Renames relation before label.element label.identifier (after.erase former.link) := by
  have labelled := attached.isLabelled orderly.labelled there free
  have stands_iff : ∀ {other : Label}, other.Stands relation after ↔
      other = label ∨ other.Stands relation before := attached.stands_iff orderly.labelled there
  have formerStands := stands_iff.2 (.inr stands)
  have unravels := Network.unravels_erase labelled.consistent labelled.tended former.link
  have unnames := labelled.unnames formerStands unravels
    (Network.get?_erase_self labelled.consistent (Store.contains_of_get? formerStands.link))
  have newLink : label.link ≠ former.link := by
    intro sameLink
    have new := (attached.apart orderly.labelled.consistent).1
    rw [sameLink, Store.contains_of_get? stands.link] at new
    cases new
  have otherElement : ∀ {other : Label}, other.Stands relation before →
      (other.link ≠ former.link ↔ other.element ≠ label.element) := by
    intro other old
    rw [← same]
    exact not_congr (orderly.link_eq_iff old stands)
  refine renames_of_stands_iff orderly unnames.labelled
    (unravels.observers.trans attached.observers) fun {other} => ?_
  rw [unnames.stands_iff, stands_iff]
  constructor
  · rintro ⟨rfl | old, there, notFormer⟩
    · exact .inl rfl
    · exact .inr ⟨old, there, (otherElement old).1 notFormer⟩
  · rintro (rfl | ⟨old, there, elsewhere⟩)
    · exact ⟨.inl rfl, same ▸ unnames.there, newLink⟩
    · exact ⟨.inr old, there, (otherElement old).2 elsewhere⟩

/-- Giving an identifier to an element without one attaches a label, and that is all. -/
theorem exists_assigned_of_unnamed (orderly : IsOrderly relation network)
    (notBlank : Text.isBlankText identifier = false)
    (there : network.store.contains element = true)
    (free : find? network.store relation identifier = none) (heeds : network.Heeds identifier)
    (unnamed : ∀ other : Label, other.Stands relation network → other.element ≠ element) :
    ∃ after label, (assign relation identifier element).run network = .ok () after ∧
      label.element = element ∧ label.identifier = identifier ∧
      Attached relation network label after := by
  have relationThere := Store.contains_of_get? orderly.labelled.rooted
  obtain ⟨after, label, ran, rfl, rfl, attached⟩ :=
    exists_attached orderly.labelled.consistent relationThere there heeds
  refine ⟨after, label, ?_, rfl, rfl, attached⟩
  rw [run_assign]
  simp [notBlank, there, free, ran, linksOf_eq_nil orderly.labelled unnamed]

/-- **Giving an identifier that is free succeeds**, if no observer erases links that hold it. -/
theorem exists_assigned (orderly : IsOrderly relation network)
    (notBlank : Text.isBlankText identifier = false)
    (there : network.store.contains element = true)
    (free : find? network.store relation identifier = none) (heeds : network.Heeds identifier) :
    ∃ after, (assign relation identifier element).run network = .ok () after ∧
      Renames relation network element identifier after := by
  have fresh := orderly.find?_eq_none_iff.1 free
  by_cases named : ∃ former : Label, former.Stands relation network ∧ former.element = element
  · obtain ⟨former, stands, same⟩ := named
    have relationThere := Store.contains_of_get? orderly.labelled.rooted
    obtain ⟨attachedTo, label, ran, rfl, rfl, attached⟩ :=
      exists_attached orderly.labelled.consistent relationThere there heeds
    refine ⟨_, ?_, attached.renames_erase orderly there fresh stands same⟩
    have links := linksOf_eq_singleton orderly.labelled orderly.single stands
    rw [same] at links
    rw [run_assign]
    simp [notBlank, there, free, ran, links]
  · have unnamed : ∀ other : Label, other.Stands relation network → other.element ≠ element :=
      fun other stands same => named ⟨other, stands, same⟩
    obtain ⟨after, label, ran, rfl, rfl, attached⟩ :=
      exists_assigned_of_unnamed orderly notBlank there free heeds unnamed
    exact ⟨after, ran, attached.renames orderly there fresh unnamed⟩

/-! ### Creating an element with an identifier -/

/-- **What becomes of a network when a node is created with an identifier.** There is one node more;
nothing that was there changes, and whatever had a name keeps it. -/
structure Introduces (relation : Address) (before : Network) (element : Address)
    (type : ElementType) (identifier : String) (after : Network) : Prop where
  orderly : IsOrderly relation after
  observers : after.observers = before.observers
  new : before.store.contains element = false
  node : after.store.get? element = some ⟨element, type.union .node, .node⟩
  kept : ∀ {address found}, before.store.get? address = some found →
    after.store.get? address = some found
  nodes : ∀ {address type'}, after.store.get? address = some ⟨address, type', .node⟩ →
    address = element ∨ before.store.get? address = some ⟨address, type', .node⟩
  hasName_iff : ∀ other name, HasName relation after other name ↔
    (other = element ∧ name = identifier) ∨ HasName relation before other name

/-- **A node that is new and then named is introduced.** -/
theorem Attached.introduces {between : Network} {type : ElementType}
    (attached : Attached relation between label after) (orderly : IsOrderly relation network)
    (adds : network.store.Adds ⟨label.element, type.union .node, .node⟩ between.store)
    (follows : Follows relation network between) (observers : between.observers = network.observers)
    (renames : Renames relation between label.element label.identifier after) :
    Introduces relation network label.element type label.identifier after := by
  have missing : network.store.get? label.element = none := by
    rw [show label.element = _ from adds.address]
    exact orderly.labelled.consistent.get?_nextAddress
  have keptBetween : ∀ {address found}, network.store.get? address = some found →
      between.store.get? address = some found :=
    fun found => adds.get?_of_get? orderly.labelled.consistent found
  have kept : ∀ {address found}, between.store.get? address = some found →
      after.store.get? address = some found :=
    fun found => attached.kept follows.labelled.consistent found
  refine ⟨renames.orderly, renames.observers.trans observers,
    Bool.eq_false_iff.2 (Store.not_contains_iff.2 missing), kept adds.get?_self,
    fun found => kept (keptBetween found), ?_, ?_⟩
  · intro address type' found
    have old := attached.node_of_node found
    rw [adds.get?_eq] at old
    split at old
    · exact .inl ‹_›
    · exact .inr old
  · intro other name
    rw [renames.hasName_iff, follows.hasName_iff]
    constructor
    · rintro (assigned | ⟨-, -, named, -⟩)
      · exact .inl assigned
      · exact .inr named
    · rintro (assigned | named)
      · exact .inl assigned
      · obtain ⟨found, there⟩ := Store.contains_iff.1 (orderly.contains_of_hasName named)
        have apart : other ≠ label.element := by
          rintro rfl
          cases missing.symm.trans there
        exact .inr ⟨apart, Store.contains_of_get? (kept (keptBetween there)), named,
          Store.contains_of_get? (keptBetween there)⟩

/-- **A node with an identifier that is free can be created and labelled**, if no observer erases links
that hold the identifier. -/
theorem exists_introduced (orderly : IsOrderly relation network) {type : ElementType}
    (notBlank : Text.isBlankText identifier = false) (suits : type.isNodeType = true)
    (free : find? network.store relation identifier = none) (heeds : network.Heeds identifier) :
    ∃ between label after,
      (createNamed relation identifier type).run network = .ok label.element after ∧
      label.identifier = identifier ∧
      network.store.Adds ⟨label.element, type.union .node, .node⟩ between.store ∧
      between.store.Consistent ∧ Attached relation between label after ∧
      Introduces relation network label.element type identifier after := by
  let between : Network := { network with
    store := network.store.advance.enrol ⟨network.store.nextAddress, type.union .node, .node⟩ }
  have created : (Store.createNode type).run network.store =
      .ok network.store.nextAddress between.store := Store.run_createNode_of_suits suits
  have ranCreate : (Network.createNode type).run network =
      .ok network.store.nextAddress between := network.run_createNode_of_suits suits
  have adds := (Store.createNode_ok created).2.2
  have follows : Follows relation network between := by
    have attempted := follows_create orderly.labelled (Store.creates_createNode type)
      fun ran => ⟨_, rfl, (Store.createNode_ok ran).2.2⟩
    rwa [Network.attempt, ← Network.createNode, ranCreate] at attempted
  have betweenOrderly := follows.isOrderly orderly
  have betweenFree : find? between.store relation identifier = none := by
    refine betweenOrderly.find?_eq_none_iff.2 fun label stands => ?_
    exact orderly.find?_eq_none_iff.1 free label ((follows.stands_iff label).1 stands).1
  have unnamed : ∀ label : Label, label.Stands relation between →
      label.element ≠ network.store.nextAddress := by
    rintro label stands same
    have there := orderly.labelled.contains_element ((follows.stands_iff label).1 stands).1
    rw [same] at there
    exact Store.not_contains_iff.2 orderly.labelled.consistent.get?_nextAddress there
  have elementThere : between.store.contains network.store.nextAddress = true :=
    Store.contains_of_get? adds.get?_self
  obtain ⟨after, label, ran, sameElement, rfl, attached⟩ :=
    exists_assigned_of_unnamed betweenOrderly notBlank elementThere betweenFree heeds unnamed
  rw [← sameElement] at adds elementThere unnamed
  have renames := attached.renames betweenOrderly elementThere
    (betweenOrderly.find?_eq_none_iff.1 betweenFree) unnamed
  refine ⟨between, label, after, ?_, rfl, adds, betweenOrderly.labelled.consistent, attached,
    attached.introduces orderly adds follows rfl renames⟩
  rw [run_createNamed, ranCreate]
  simp [notBlank, ran, sameElement]

/-- **Creating a node with an identifier that is free succeeds**, if no observer erases links that
hold it. -/
theorem exists_created (orderly : IsOrderly relation network) {type : ElementType}
    (notBlank : Text.isBlankText identifier = false) (suits : type.isNodeType = true)
    (free : find? network.store relation identifier = none) (heeds : network.Heeds identifier) :
    ∃ element after, (createNamed relation identifier type).run network = .ok element after ∧
      Introduces relation network element type identifier after := by
  obtain ⟨-, label, after, ran, -, -, -, -, introduces⟩ :=
    exists_introduced orderly notBlank suits free heeds
  exact ⟨label.element, after, ran, introduces⟩

end SemanticNetwork.Naming
