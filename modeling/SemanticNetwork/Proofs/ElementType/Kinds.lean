/-
**Kinds of consistent types.** A type without contradiction is of one kind at most. Adding the flag
of a kind adds nothing to the other kinds, and leaving out the flag for variables changes no reading
of the others, so it brings in no contradiction.

* `conflict?_eq_none_iff`: what a type without contradiction is;
* `kindCount_le_one`: so it claims one kind at most;
* `isNode_union_node` and its kin: what the types of new nodes and links are;
* `conflict?_without_varying`: **a consistent type stays consistent without the variable flag**.
-/
import SemanticNetwork.ElementType.Basic

namespace SemanticNetwork.ElementType

variable {type : ElementType}

theorem meets_union (first second other : ElementType) :
    (first.union second).meets other = (first.meets other || second.meets other) := by
  obtain ⟨first⟩ := first
  obtain ⟨second⟩ := second
  obtain ⟨other⟩ := other
  rw [Bool.eq_iff_iff]
  simp only [meets, union, inter, bne_iff_ne, ne_eq, mk.injEq, Bool.or_eq_true,
    BitVec.and_or_distrib_right, BitVec.ofNat_eq_ofNat, BitVec.or_eq_zero_iff]
  exact Decidable.not_and_iff_or_not

/-- A single flag is met where it is carried. -/
theorem carries_of_meets {other : ElementType} {position : Nat}
    (single : other.bits = BitVec.twoPow 32 position) (met : type.meets other = true) :
    type.carries other = true := by
  simp only [meets, carries, inter, single, BitVec.and_twoPow, bne_iff_ne, ne_eq, mk.injEq,
    beq_iff_eq] at met ⊢
  split at met
  · rename_i set
    rw [if_pos set, ← single]
  · exact absurd rfl met

/-! ### Consistent types -/

/-- Only known flags are set, and of a group that excludes each other at most one. -/
structure IsSound (type : ElementType) : Prop where
  known : type.without known = unknown
  kinds : type.kindCount ≤ 1
  edgeClasses : type.countOf edgeClasses ≤ 1
  constancies : type.countOf constancies ≤ 1

/-- What else can be wrong is wrong within a kind. -/
theorem IsSound.conflict?_eq (sound : type.IsSound) : type.conflict? = type.refinementConflict? := by
  obtain ⟨known, kinds, edgeClasses, constancies⟩ := sound
  simp only [conflict?, known, bne_self_eq_false, Bool.false_eq_true, if_false]
  rw [if_neg (Nat.not_lt.2 kinds), if_neg (Nat.not_lt.2 edgeClasses),
    if_neg (Nat.not_lt.2 constancies)]

/-- **A type without contradiction** is sound, and nothing is wrong within its kind. -/
theorem conflict?_eq_none_iff :
    type.conflict? = none ↔ type.IsSound ∧ type.refinementConflict? = none := by
  constructor
  · intro consistent
    have sound : type.IsSound := by
      unfold conflict? at consistent
      split at consistent
      · cases consistent
      split at consistent
      · cases consistent
      split at consistent
      · cases consistent
      split at consistent
      · cases consistent
      exact ⟨by simp_all, by omega, by omega, by omega⟩
    exact ⟨sound, sound.conflict?_eq ▸ consistent⟩
  · rintro ⟨sound, refined⟩
    rw [sound.conflict?_eq, refined]

/-! ### One kind at most -/

theorem kindCount_le_one (consistent : type.isConsistent = true) : type.kindCount ≤ 1 := by
  rw [isConsistent, Option.isNone_iff_eq_none] at consistent
  exact (conflict?_eq_none_iff.1 consistent).1.kinds

/-- A consistent type of a link is of nothing else. -/
theorem not_isNode_of_isLink (consistent : type.isConsistent = true) (link : type.isLink = true) :
    type.isNode = false ∧ type.isEdge = false := by
  have bound := kindCount_le_one consistent
  simp only [kindCount, List.countP_cons, List.countP_nil, link] at bound
  cases node : type.isNode <;> cases edge : type.isEdge <;> simp_all

theorem not_isNode_of_isEdge (consistent : type.isConsistent = true) (edge : type.isEdge = true) :
    type.isNode = false ∧ type.isLink = false := by
  have bound := kindCount_le_one consistent
  simp only [kindCount, List.countP_cons, List.countP_nil, edge] at bound
  cases node : type.isNode <;> cases link : type.isLink <;> simp_all

@[simp] theorem isNode_union_node (type : ElementType) : (type.union node).isNode = true := by
  rw [isNode, meets_union, Bool.or_eq_true]
  exact .inr (by decide)

@[simp] theorem isLink_union_node (type : ElementType) :
    (type.union node).isLink = type.isLink := by
  have apart : node.meets link = false := by decide
  rw [isLink, meets_union, apart, Bool.or_false, isLink]

@[simp] theorem isEdge_union_node (type : ElementType) :
    (type.union node).isEdge = type.isEdge := by
  have apart : node.meets (all edgeClasses) = false := by decide
  rw [isEdge, meets_union, apart, Bool.or_false, isEdge]

@[simp] theorem isLink_union_link (type : ElementType) : (type.union link).isLink = true := by
  rw [isLink, meets_union, Bool.or_eq_true]
  exact .inr (by decide)

/-- A type has the flags already that it is united with if it carries them. -/
theorem union_eq_of_carries {other : ElementType} (carried : type.carries other = true) :
    type.union other = type := by
  obtain ⟨bits⟩ := type
  obtain ⟨other⟩ := other
  simp only [carries, inter, union, beq_iff_eq, mk.injEq] at carried ⊢
  rw [← carried]
  ext position bound
  simp only [BitVec.getElem_or, BitVec.getElem_and]
  cases bits[position] <;> cases other[position] <;> rfl

/-- A type that is of a link has the flag of links already. -/
theorem union_link_of_isLink (found : type.isLink = true) : type.union link = type := by
  have single : link.bits = BitVec.twoPow 32 1 := by decide
  exact union_eq_of_carries (carries_of_meets single found)

theorem carries_union_left (type other : ElementType) : (type.union other).carries type = true := by
  have own := carries_self (type.union other)
  rw [carries_union, Bool.and_eq_true] at own
  exact own.1

/-! ### Without the flag for variables -/

/-- Leaving out the flag for variables changes nothing else. -/
theorem inter_without_varying {other : ElementType} (apart : varying.inter other = ⟨0⟩) :
    (type.without varying).inter other = type.inter other := by
  obtain ⟨bits⟩ := type
  obtain ⟨other⟩ := other
  simp only [without, inter, mk.injEq] at apart ⊢
  ext position bound
  have clear : (varying.bits[position] && other[position]) = false := by
    rw [← BitVec.getElem_and, apart]
    simp
  simp only [BitVec.getElem_and, BitVec.getElem_not]
  generalize varying.bits[position] = flag at clear ⊢
  cases flag <;> simp_all

/-- A type that is not variable does not have the flag. -/
theorem without_varying_of_isVariable_eq_false (other : type.isVariable = false) :
    type.without varying = type := by
  obtain ⟨bits⟩ := type
  simp only [isVariable, meets, inter, without, bne_eq_false_iff_eq, mk.injEq] at other ⊢
  ext position bound
  have clear : (bits &&& varying.bits)[position] = false := by
    rw [other]
    simp
  rw [BitVec.getElem_and] at clear
  rw [BitVec.getElem_and, BitVec.getElem_not]
  cases flag : varying.bits[position] <;> simp_all

theorem meets_without_varying {other : ElementType} (apart : varying.inter other = ⟨0⟩) :
    (type.without varying).meets other = type.meets other := by
  rw [meets, inter_without_varying apart, meets]

theorem countOf_without_varying {group : List ElementType}
    (apart : ∀ other ∈ group, varying.inter other = ⟨0⟩) :
    (type.without varying).countOf group = type.countOf group := by
  refine List.countP_congr fun other member => ?_
  rw [carries, inter_without_varying (apart other member), carries]

theorem carries_of_without {other : ElementType}
    (carried : (type.without varying).carries other = true) : type.carries other = true := by
  obtain ⟨bits⟩ := type
  obtain ⟨other⟩ := other
  simp only [carries, without, inter, beq_iff_eq, mk.injEq] at carried ⊢
  rw [← carried]
  ext position bound
  simp
  cases bits[position] <;> simp

theorem carries_without (type : ElementType) : type.carries (type.without varying) = true :=
  carries_of_without (carries_self _)

theorem refinementConflict?_without_varying (type : ElementType) :
    (type.without varying).refinementConflict? = type.refinementConflict? := by
  unfold refinementConflict? isEdge isNode isLink
  rw [meets_without_varying (by decide), meets_without_varying (by decide),
    meets_without_varying (by decide), meets_without_varying (by decide),
    meets_without_varying (by decide), countOf_without_varying (by decide),
    countOf_without_varying (by decide), countOf_without_varying (by decide)]

theorem kindCount_without_varying (type : ElementType) :
    (type.without varying).kindCount = type.kindCount := by
  unfold kindCount isEdge isNode isLink
  rw [meets_without_varying (by decide), meets_without_varying (by decide),
    meets_without_varying (by decide)]

/-- Leaving out a flag brings in no other. -/
theorem without_known_without_varying (onlyKnown : type.without known = unknown) :
    (type.without varying).without known = unknown := by
  obtain ⟨bits⟩ := type
  simp only [without, mk.injEq, unknown, ofNat] at onlyKnown ⊢
  rw [BitVec.and_assoc, BitVec.and_comm (~~~varying.bits), ← BitVec.and_assoc, onlyKnown]
  exact BitVec.zero_and

/-- **A consistent type stays consistent without the flag for variables.** -/
theorem conflict?_without_varying (consistent : type.conflict? = none) :
    (type.without varying).conflict? = none := by
  obtain ⟨⟨known, kinds, edgeClasses, constancies⟩, refined⟩ := conflict?_eq_none_iff.1 consistent
  have fewer : (type.without varying).countOf ElementType.constancies ≤
      type.countOf ElementType.constancies :=
    List.countP_mono_left fun other _ => carries_of_without
  refine conflict?_eq_none_iff.2 ⟨⟨without_known_without_varying known, ?_, ?_, ?_⟩, ?_⟩
  · rwa [kindCount_without_varying]
  · rwa [countOf_without_varying (by decide)]
  · exact Nat.le_trans fewer constancies
  · rwa [refinementConflict?_without_varying]

end SemanticNetwork.ElementType
