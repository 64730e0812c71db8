/-
**The types that are stored.** A new node is stored with the flag of nodes added to the type that was
asked for. What was asked for does not contradict itself; but where it left the kind open, nobody has
counted its subtypes, since these are subtypes of nodes only in the type that is stored.

* `conflict?_union_node`: **what is wrong with the type of a new node**: too many subtypes, or nothing;
* `countOf_nodeSubtypes_le_one`: nothing, where the kind was not left open;
* `countOf_edgeClasses`: a consistent type of an edge is of exactly one class.
-/
import SemanticNetwork.Proofs.ElementType.Kinds

namespace SemanticNetwork.ElementType

variable {type added other : ElementType}

/-! ### Adding a flag -/

theorem meets_union_right (type first second : ElementType) :
    type.meets (first.union second) = (type.meets first || type.meets second) := by
  have commuted : ∀ left right : ElementType, left.meets right = right.meets left := by
    intro left right
    rw [meets, meets, inter, inter, BitVec.and_comm]
  rw [commuted, meets_union, commuted first, commuted second]

/-- Adding flags changes no reading of other flags. -/
theorem inter_union_of_apart (apart : added.inter other = ⟨0⟩) :
    (type.union added).inter other = type.inter other := by
  obtain ⟨bits⟩ := type
  obtain ⟨added⟩ := added
  obtain ⟨other⟩ := other
  simp only [inter, union, mk.injEq, BitVec.and_or_distrib_right] at apart ⊢
  rw [apart]
  exact BitVec.or_zero

theorem countOf_union_of_apart {group : List ElementType}
    (apart : ∀ other ∈ group, added.inter other = ⟨0⟩) :
    (type.union added).countOf group = type.countOf group := by
  refine List.countP_congr fun other member => ?_
  rw [carries, inter_union_of_apart (apart other member), carries]

/-- Flags that have a meaning may be added without bringing in others. -/
theorem without_union_of_known (meaning : added.without other = unknown) :
    (type.union added).without other = type.without other := by
  obtain ⟨bits⟩ := type
  obtain ⟨added⟩ := added
  obtain ⟨other⟩ := other
  simp only [without, union, unknown, ofNat, mk.injEq, BitVec.and_or_distrib_right] at meaning ⊢
  rw [meaning]
  exact BitVec.or_zero

/-! ### Nodes -/

theorem isNodeType_iff :
    type.isNodeType = true ↔ type.conflict? = none ∧ type.isEdge = false ∧ type.isLink = false := by
  simp [isNodeType, isConsistent, and_assoc]

/-- The type of a new node is of one kind, and as sound as the type that was asked for. -/
theorem isSound_union_node (suits : type.isNodeType = true) : (type.union node).IsSound := by
  obtain ⟨consistent, notEdge, notLink⟩ := isNodeType_iff.1 suits
  obtain ⟨sound, -⟩ := conflict?_eq_none_iff.1 consistent
  refine ⟨?_, ?_, ?_, ?_⟩
  · rw [without_union_of_known (by decide), sound.known]
  · simp [kindCount, notEdge, notLink]
  · rw [countOf_union_of_apart (by decide)]
    exact sound.edgeClasses
  · rw [countOf_union_of_apart (by decide)]
    exact sound.constancies

/-- **What is wrong with the type of a new node**: that it has several subtypes, or nothing. -/
theorem conflict?_union_node (suits : type.isNodeType = true) : (type.union node).conflict? =
    if 1 < type.countOf nodeSubtypes then some .severalNodeSubtypes else none := by
  obtain ⟨-, notEdge, -⟩ := isNodeType_iff.1 suits
  rw [(isSound_union_node suits).conflict?_eq]
  simp only [refinementConflict?, isEdge_union_node, notEdge, isNode_union_node, if_true,
    Bool.false_eq_true, if_false]
  rw [countOf_union_of_apart (by decide)]

/-- Where the kind was not left open, the subtypes were counted before. -/
theorem countOf_nodeSubtypes_le_one (suits : type.isNodeType = true) (isNode : type.isNode = true) :
    type.countOf nodeSubtypes ≤ 1 := by
  obtain ⟨consistent, notEdge, -⟩ := isNodeType_iff.1 suits
  have refined := (conflict?_eq_none_iff.1 consistent).2
  simp only [refinementConflict?, notEdge, isNode, if_true, Bool.false_eq_true, if_false] at refined
  split at refined
  · cases refined
  · omega

theorem hasNoKind_of_none (notNode : type.isNode = false) (notLink : type.isLink = false)
    (notEdge : type.isEdge = false) : type.hasNoKind = true := by
  have kinds : all ([node, link] ++ edgeClasses) = (node.union link).union (all edgeClasses) := by
    decide
  simp only [isNode, isLink, isEdge] at notNode notLink notEdge
  simp only [hasNoKind, kinds, meets_union_right, notNode, notLink, notEdge, Bool.or_false,
    Bool.not_false]

/-! ### Edges -/

/-- **A consistent type of an edge is of exactly one class.** -/
theorem countOf_edgeClasses (consistent : type.conflict? = none) (isEdge : type.isEdge = true) :
    type.countOf edgeClasses = 1 := by
  have most := (conflict?_eq_none_iff.1 consistent).1.edgeClasses
  have least : 0 < type.countOf edgeClasses := by
    have classes : all edgeClasses = (undirected.union directed).union access := by decide
    rw [ElementType.isEdge, classes, meets_union_right, meets_union_right, Bool.or_eq_true,
      Bool.or_eq_true] at isEdge
    refine List.countP_pos_iff.2 ?_
    rcases isEdge with (met | met) | met
    · exact ⟨undirected, by decide, carries_of_meets (show _ = BitVec.twoPow 32 2 by decide) met⟩
    · exact ⟨directed, by decide, carries_of_meets (show _ = BitVec.twoPow 32 3 by decide) met⟩
    · exact ⟨access, by decide, carries_of_meets (show _ = BitVec.twoPow 32 4 by decide) met⟩
  omega

end SemanticNetwork.ElementType
