/-
**The types of a memory in use.** Whatever a memory was asked for, the type of every element says of
which kind the element is, and does not contradict itself unless a node was asked for by several
subtypes without the flag of nodes. Such a type is accepted, since nothing is wrong with it as long as
its kind is open, and is stored with the flag of nodes, and then has too many subtypes.

* `Usage.run_stores_sound_types`: **what is stored is soundly typed**, and what a new node makes of
  the type that was asked for;
* `Usage.run_twofold_conflicts`: a node of which the type contradicts itself.
-/
import SemanticNetwork.Proofs.Memory.Attaching
import SemanticNetwork.Proofs.Memory.Usage
import SemanticNetwork.Proofs.Store.Typing

namespace SemanticNetwork.Usage

variable {memory : Memory}

/-- **What is stored is soundly typed**, whatever a memory was asked for. A node is created with every
type that suits a node, and gets that type with the flag of nodes; this contradicts itself just where
there is more than one subtype, which needs a type that left the kind open. -/
theorem run_stores_sound_types (isNew : memory.IsNew) (requests : List Request) :
    (∀ {address element}, ((start memory).run requests).store.get? address = some element →
      element.IsSoundlyTyped) ∧
    ∀ type : ElementType,
      ((∃ node after, (Store.createNode type).run ((start memory).run requests).store =
        .ok node after) ↔ type.isNodeType = true) ∧
      ∀ {node after},
        (Store.createNode type).run ((start memory).run requests).store = .ok node after →
          after.get? node = some ⟨node, type.union .node, .node⟩ ∧
          ((type.union .node).conflict? = none ↔ type.countOf ElementType.nodeSubtypes ≤ 1) ∧
          (type.isNode = true → (type.union .node).conflict? = none) := by
  obtain ⟨-, creatable⟩ := isNew.has_run Store.stable_creatable ⟨Store.consistent_empty, nofun⟩ requests
  refine ⟨fun found => (creatable found).soundlyTyped, fun type => ⟨⟨?_, ?_⟩, ?_⟩⟩
  · rintro ⟨node, after, ran⟩
    exact (Store.createNode_ok ran).1
  · intro suits
    exact ⟨_, _, Store.run_createNode_of_suits suits⟩
  · intro node after ran
    obtain ⟨suits, -, adds⟩ := Store.createNode_ok ran
    have conflict_iff : (type.union .node).conflict? = none ↔
        type.countOf ElementType.nodeSubtypes ≤ 1 := by
      rw [ElementType.conflict?_union_node suits]
      split <;> simp <;> omega
    refine ⟨adds.get?_self, conflict_iff, fun isNode => conflict_iff.2 ?_⟩
    exact ElementType.countOf_nodeSubtypes_le_one suits isNode

/-- A node is asked for that is a tuple and a structure, and not said to be a node. -/
def twofold : List Request := [.call (.createNode (.union .tuple .struct))]

/-- The types that are stored then are sound, as far as stored types are. -/
theorem run_twofold_sound : Memory.plain.IsNew ∧ ∃ node,
    ((start .plain).run twofold).store.get? ⟨5⟩ = some node ∧ node.IsSoundlyTyped ∧
      node.isNode = true ∧ node.type.countOf ElementType.nodeSubtypes = 2 := by
  obtain ⟨sound, -⟩ := run_stores_sound_types Memory.isNew_plain twofold
  have found : ((start .plain).run twofold).store.get? ⟨5⟩ =
      some ⟨⟨5⟩, .union (.union .tuple .struct) .node, .node⟩ := by decide +kernel
  exact ⟨Memory.isNew_plain, _, found, sound found, rfl, by decide⟩

/-- The type that was asked for does not contradict itself and suits a node; the type that is stored
contradicts itself, and no node could be created with it. -/
theorem run_twofold_conflicts : Memory.start ⟨4, 100, .manual, []⟩ = .ok .plain ∧
    (ElementType.union .tuple .struct).conflict? = none ∧
    ((start .plain).run twofold).store.get? ⟨5⟩ =
      some ⟨⟨5⟩, .union (.union .tuple .struct) .node, .node⟩ ∧
    ((ElementType.union .tuple .struct).union .node).conflict? = some .severalNodeSubtypes ∧
    ((ElementType.union .tuple .struct).union .node).isNodeType = false := by
  exact ⟨Memory.start_plain, by decide, by decide +kernel, by decide, by decide⟩

end SemanticNetwork.Usage
