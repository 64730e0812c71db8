/-
**The types in a store.** Whatever is in a store has a type with which its kind of element can be
created, whoever created it: nodes, links and edges are created for callers, for names and for
templates by the same operations, and nothing changes a type afterwards. So a type in a store says of
which kind its element is, and does not contradict itself; but for nodes with several subtypes, whose
kind was left open when they were asked for.

* `Stable.of_operations`: what creating, writing and erasing keep, a generation keeps;
* `Element.IsCreatable`: an element of a type with which elements of its kind are created;
* `stable_creatable`: **every operation leaves creatable elements only**;
* `Element.IsCreatable.soundlyTyped`: what is right with the type of such an element, and what may be
  wrong with it.
-/
import SemanticNetwork.Proofs.ElementType.Stored
import SemanticNetwork.Proofs.Store.Stability

namespace SemanticNetwork

/-! ### Generations -/

namespace Template

variable {invariant : Store → Prop}

/-- What an operation keeps of the store, making an element by it keeps. -/
theorem keeps_makeElement_of_store {action : Store.Action Address} (keeps : Keeps invariant action) :
    Keeps (fun state : Generation => invariant state.store) (makeElement action) := by
  have inStore : Keeps (fun state : Generation => invariant state.store) (withStore action) := by
    refine ⟨fun holds ran => ?_, fun holds ran => ?_⟩
    · obtain ⟨store, ranStore, rfl⟩ := run_withStore_ok_iff.1 ran
      exact keeps.ok holds ranStore
    · obtain ⟨reason, store, ranStore, -, rfl⟩ := run_withStore_error_iff.1 ran
      exact keeps.error holds ranStore
  exact inStore.bind fun address => Keeps.bind (.modify fun _ holds => holds) fun _ => .pure _

/-- What creating keeps of the store, every step of a generation keeps. -/
theorem stepwise_of_store (node : ∀ type, Keeps invariant (Store.createNode type))
    (link : ∀ type, Keeps invariant (Store.createTypedLink type))
    (edge : ∀ type source target, Keeps invariant (Store.createEdge type source target)) :
    Stepwise fun state => invariant state.store where
  makeNode type := keeps_makeElement_of_store (node type)
  makeLink type := keeps_makeElement_of_store (link type)
  makeEdge type source target := (keeps_makeElement_of_store (edge type source target)).bind
    fun _ => Keeps.bind (.modify fun _ holds => holds) fun _ => .pure _
  bindSlot _ _ := .modify fun _ holds => holds

end Template

namespace Store

variable {invariant : Store → Prop} {store : Store} {address : Address} {element : Element}

/-- **What creating, writing and erasing keep, a generation keeps**, since it is made of these. -/
theorem Stable.of_operations (node : ∀ type, Keeps invariant (Store.createNode type))
    (link : ∀ type, Keeps invariant (Store.createTypedLink type))
    (edge : ∀ type source target, Keeps invariant (Store.createEdge type source target))
    (write : ∀ link payload, Keeps invariant (Store.setPayload link payload))
    (erased : ∀ {store} address, invariant store → invariant (store.erase address).store) :
    Stable invariant where
  createNode := node
  createTypedLink := link
  createEdge := edge
  setPayload := write
  erase := erased
  generate {store} template parameters holds := by
    have keeps := Template.keeps_generateTriples (Template.stepwise_of_store node link edge) template
    have undone : ∀ {store} addresses, invariant store → invariant (store.eraseAll addresses).1 := by
      intro store addresses holds
      induction addresses generalizing store with
      | nil => exact holds
      | cons address rest hypothesis => exact hypothesis (erased address holds)
    unfold Template.generate
    split
    · rename_i valuation prepared
      have begun : invariant (⟨store, valuation, [], []⟩ : Template.Generation).store := holds
      unfold Template.generateFrom
      split
      · exact keeps.ok begun ‹_›
      · exact undone _ (keeps.error begun ‹_›)
    · exact holds

end Store

/-! ### Creatable elements -/

namespace Element

/-- An element of a type with which elements of its kind are created. -/
def IsCreatable (element : Element) : Prop :=
  match element.body with
  | .node => ∃ requested : ElementType, requested.isNodeType = true ∧
      element.type = requested.union .node
  | .link _ => element.type.isLink = true ∧ element.type.isConsistent = true
  | .edge _ _ => element.type.isEdgeType = true

/-- **What is right with the type of an element, and what may be wrong with it.** It says of which
kind the element is, and of an edge of which class. It contradicts itself only where a node has several
subtypes; and such a node was asked for by a consistent type that left the kind open. -/
structure IsSoundlyTyped (element : Element) : Prop where
  kinds : element.IsWellKinded
  edgeClass : element.isEdge = true → element.type.countOf ElementType.edgeClasses = 1
  conflict : element.type.conflict? = none ∨ element.type.conflict? = some .severalNodeSubtypes ∧
    element.isNode = true ∧ ∃ requested : ElementType, requested.isConsistent = true ∧
      requested.hasNoKind = true ∧ element.type = requested.union .node

variable {element : Element}

/-- **Creatable elements are soundly typed.** -/
theorem IsCreatable.soundlyTyped (creatable : element.IsCreatable) : element.IsSoundlyTyped := by
  obtain ⟨address, type, _ | ⟨source, target⟩ | payload⟩ := element
  · obtain ⟨requested, suits, same⟩ := creatable
    obtain rfl : type = requested.union .node := same
    obtain ⟨consistent, notEdge, notLink⟩ := ElementType.isNodeType_iff.1 suits
    refine ⟨⟨?_, ?_, ?_⟩, fun isEdge => ?_, ?_⟩
    · exact requested.isNode_union_node
    · exact requested.isLink_union_node.trans notLink
    · exact requested.isEdge_union_node.trans notEdge
    · cases isEdge
    · have conflict := ElementType.conflict?_union_node suits
      split at conflict
      · rename_i several
        have consistent : requested.isConsistent = true := by
          rw [ElementType.isConsistent, consistent, Option.isNone_none]
        refine .inr ⟨conflict, rfl, requested, consistent, ?_, rfl⟩
        -- A type that is of a node already had its subtypes counted.
        have notNode : requested.isNode = false := Bool.eq_false_iff.2 fun isNode =>
          Nat.not_le.2 several (ElementType.countOf_nodeSubtypes_le_one suits isNode)
        exact ElementType.hasNoKind_of_none notNode notLink notEdge
      · exact .inl conflict
  · have creatable : type.isEdgeType = true := creatable
    simp only [ElementType.isEdgeType, Bool.and_eq_true] at creatable
    obtain ⟨isEdge, consistent⟩ := creatable
    have apart := ElementType.not_isNode_of_isEdge consistent isEdge
    have conflict := Option.isNone_iff_eq_none.1 consistent
    exact ⟨⟨apart.1, apart.2, isEdge⟩, fun _ => ElementType.countOf_edgeClasses conflict isEdge,
      .inl conflict⟩
  · obtain ⟨isLink, consistent⟩ := creatable
    have apart := ElementType.not_isNode_of_isLink consistent isLink
    refine ⟨⟨apart.1, isLink, apart.2⟩, fun isEdge => ?_,
      .inl (Option.isNone_iff_eq_none.1 consistent)⟩
    cases isEdge

end Element

/-! ### Stores of creatable elements -/

namespace Store

variable {store after : Store} {address : Address} {element : Element}

/-- Every element is creatable. -/
def IsCreatable (store : Store) : Prop :=
  ∀ {address element}, store.get? address = some element → element.IsCreatable

theorem Adds.isCreatable (adds : store.Adds element after) (creatable : store.IsCreatable)
    (here : element.IsCreatable) : after.IsCreatable := by
  intro address other found
  rw [adds.get?_eq] at found
  split at found
  · cases found
    exact here
  · exact creatable found

theorem Spends.isCreatable (spends : store.Spends after) (creatable : store.IsCreatable) :
    after.IsCreatable := by
  intro address element found
  rw [get?, spends.elements] at found
  exact creatable found

/-- An operation that is refused leaves the elements alone, so what matters is what it enters. -/
theorem keeps_creatable {α : Type} {action : Action α} (keeps : Keeps Consistent action)
    (entered : ∀ {store value after}, store.IsCreatable → action.run store = .ok value after →
      after.IsCreatable)
    (spends : ∀ {store error after}, action.run store = .error error after → store.Spends after) :
    Keeps (fun store => store.Consistent ∧ store.IsCreatable) action where
  ok holds ran := ⟨keeps.ok holds.1 ran, entered holds.2 ran⟩
  error holds ran := ⟨keeps.error holds.1 ran, (spends ran).isCreatable holds.2⟩

/-- A link that is written stays a link of its type. -/
theorem isCreatable_hold {payload : Payload} (creatable : store.IsCreatable)
    (found : store.get? address = some element) (isLink : element.isLink = true) :
    (store.hold address element payload).IsCreatable := by
  intro place other there
  rcases of_get?_hold there with ⟨rfl, rfl⟩ | there
  · have here := creatable found
    obtain ⟨_, _, _ | _ | _⟩ := element
    · cases isLink
    · cases isLink
    · exact here
  · exact creatable there

/-- **Every operation leaves creatable elements only.** -/
theorem stable_creatable : Stable fun store => store.Consistent ∧ store.IsCreatable := by
  refine .of_operations
    (fun type => keeps_creatable (keeps_createNode type) (fun creatable ran => ?_) createNode_error)
    (fun type => keeps_creatable (keeps_createTypedLink type) (fun creatable ran => ?_)
      createTypedLink_error)
    (fun type source target => keeps_creatable (keeps_createEdge type source target)
      (fun creatable ran => ?_) createEdge_error)
    (fun link payload => keeps_creatable (keeps_setPayload link payload)
      (fun creatable ran => ?_) setPayload_error) ?_
  · obtain ⟨suits, -, adds⟩ := createNode_ok ran
    exact adds.isCreatable creatable ⟨type, suits, rfl⟩
  · obtain ⟨suits, -, adds⟩ := createTypedLink_ok ran
    exact adds.isCreatable creatable ⟨type.isLink_union_link, suits⟩
  · obtain ⟨⟨suits, -⟩, -, adds⟩ := createEdge_ok ran
    exact adds.isCreatable creatable suits
  · obtain ⟨element, found, isLink, rfl⟩ := setPayload_ok ran
    exact isCreatable_hold creatable found isLink
  · rintro store address ⟨consistent, creatable⟩
    have shrinks := shrinks_erase consistent address
    exact ⟨consistent_erase consistent address, fun found => creatable (shrinks.kept found)⟩

end Store

end SemanticNetwork
