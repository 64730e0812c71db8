/-
**Clones of structures.** When the template of a structure is generated, an element is made where a
variable is met first, and constants are used as they are. So the elements that are made are clones of
the variables, one for each, and edges connect what stands for their ends.

* `leading_slotsOfRows`: what stands for the members where they are met first leads;
* `newElements_reconstruct`: **what is made are the clones of the variables**;
* `Clones`, `clones_of_generate`: **a generation that succeeds clones the variables**.
-/
import Mathlib.Data.List.Pairwise
import SemanticNetwork.Proofs.Template.Rebuilding

namespace SemanticNetwork

/-- What the kind of a clone adds: an edge connects the clones of its ends, a link has no payload. -/
def Body.cloned (image : Address → Address) : Body → Body
  | .node => .node
  | .edge source target => .edge (image source) (image target)
  | .link _ => .link none

/-- The clone of an element, when it is known what becomes of addresses. -/
def Element.cloned (image : Address → Address) (element : Element) : Element :=
  ⟨image element.address, element.type, element.body.cloned image⟩

namespace Template

variable {store : Store} {structureNode member : Address} {row : Triple} {rows : List Triple}
  {vars introduced : List Address} {covered : List Nat}

/-! ### What leads -/

/-- The members of a row in the order in which they are resolved, the ends before the edge. -/
def resolved (row : Triple) : List Address := [row.source, row.target, row.edge]

/-- Those of some members that are not introduced, where they are met first. -/
def newMembers : List Address → List Address → List Address
  | _, [] => []
  | introduced, member :: rest =>
    (if member ∈ introduced then [] else [member]) ++ newMembers (member :: introduced) rest

/-- What stands for a member where it is met first. -/
def firstPlacement (store : Store) (vars : List Address) (image : Address → Address)
    (member : Address) : Placement where
  slot := ⟨ownConstraint store member, some (vars.idxOf member)⟩
  address := image member
  ends? := (store.ends? member).map (Prod.map image image)

theorem mem_newMembers_iff {members : List Address} :
    member ∈ newMembers introduced members ↔ member ∉ introduced ∧ member ∈ members := by
  induction members generalizing introduced with
  | nil => simp [newMembers]
  | cons head rest hypothesis =>
    rw [newMembers, List.mem_append, hypothesis, List.mem_cons, List.mem_cons]
    by_cases met : head ∈ introduced
    · rw [if_pos met]
      grind
    · rw [if_neg met, List.mem_singleton]
      grind

theorem newMembers_congr {introduced' members : List Address}
    (same : ∀ member, member ∈ introduced ↔ member ∈ introduced') :
    newMembers introduced members = newMembers introduced' members := by
  induction members generalizing introduced introduced' with
  | nil => rfl
  | cons head rest hypothesis =>
    have later : ∀ member, member ∈ head :: introduced ↔ member ∈ head :: introduced' := by
      intro member
      rw [List.mem_cons, List.mem_cons, same]
    rw [newMembers, newMembers, hypothesis later]
    simp only [same]

/-- What stands in the slot of a member leads if the member is new, and says what the member is. -/
theorem leading_memberSlot {image : Address → Address} {placed : List Placement}
    {ends? : Option (Address × Address)} (tallies : Tallies vars introduced covered)
    (inVars : member ∈ vars) (ends : member ∉ introduced →
      ends? = (store.ends? member).map (Prod.map image image)) :
    leading covered (⟨memberSlot store vars introduced member, image member, ends?⟩ :: placed) =
      (if member ∈ introduced then [] else [member]).map (firstPlacement store vars image) ++
        leading (covered ++ [vars.idxOf member]) placed := by
  rw [leading]
  refine congrArg₂ _ ?_ rfl
  by_cases met : member ∈ introduced
  · have follows : ¬ (memberSlot store vars introduced member).leads covered = true :=
      fun leads => (leads_memberSlot tallies inVars introduced).1 leads met
    rw [if_neg follows, if_pos met]
    rfl
  · have leads : (memberSlot store vars introduced member).leads covered = true :=
      (leads_memberSlot tallies inVars introduced).2 met
    rw [if_pos leads, if_neg met, ends met]
    simp only [List.map_cons, List.map_nil, firstPlacement, memberSlot, if_neg met]

/-- **What leads in the template of some rows** is what stands for the members where they are met
first. -/
theorem leading_slotsOfRows (image : Address → Address) (tallies : Tallies vars introduced covered)
    (inVars : ∀ row ∈ rows, ∀ member ∈ row.toList, member ∈ vars)
    (inOrder : InOrder store introduced rows) :
    leading covered ((mirror vars (slotsOfRows store vars introduced rows)).placements
        (rows.map (Triple.map image))) =
      (newMembers introduced (rows.flatMap resolved)).map (firstPlacement store vars image) := by
  induction rows generalizing introduced covered with
  | nil => rfl
  | cons row rest hypothesis =>
    obtain ⟨due, later⟩ := inOrder
    have parts := inVars row List.mem_cons_self
    simp only [Triple.toList, List.forall_mem_cons] at parts
    obtain ⟨source, edge, target, -⟩ := parts
    have noEnds : ∀ {before : List Address} {member},
        ((store.ends? member).isSome = true → member ∈ before) →
          member ∉ before → none = (store.ends? member).map (Prod.map image image) := by
      intro before member met new
      cases ends : store.ends? member with
      | none => rfl
      | some _ => exact absurd (met (by rw [ends]; rfl)) new
    have others := hypothesis (tallies.meetRow row)
      (fun row inRest => inVars row (.tail _ inRest)) later
    rw [newMembers_congr fun member => mem_meetRow_iff_resolved] at others
    have edgeEnds : row.edge ∉ row.target :: row.source :: introduced →
        some (image row.source, image row.target) =
          (store.ends? row.edge).map (Prod.map image image) := by
      intro
      rw [due.connected]
      rfl
    show leading covered (⟨memberSlot store vars introduced row.source, image row.source, none⟩ ::
        ⟨memberSlot store vars (row.source :: introduced) row.target, image row.target, none⟩ ::
        ⟨memberSlot store vars (row.target :: row.source :: introduced) row.edge, image row.edge,
          some (image row.source, image row.target)⟩ ::
        (mirror vars (slotsOfRows store vars (meetRow introduced row) rest)).placements
          (rest.map (Triple.map image))) =
      (newMembers introduced (row.source :: row.target :: row.edge :: rest.flatMap resolved)).map
        (firstPlacement store vars image)
    rw [leading_memberSlot tallies source (noEnds due.source),
      leading_memberSlot (tallies.cons row.source) target
        (noEnds fun isEdge => .tail _ (due.target isEdge)),
      leading_memberSlot ((tallies.cons row.source).cons row.target) edge edgeEnds, others]
    simp only [newMembers, List.map_append]

/-! ### What is made -/

/-- The clone of a variable. -/
def clone? (store : Store) (image : Address → Address) (member : Address) : Option Element :=
  (store.get? member).bind fun element =>
    if element.type.isVariable then some (element.cloned image) else none

variable {image : Address → Address} {made : Instance}

/-- **What is made where a member is met first is its clone**, if it is a variable. -/
theorem made?_firstPlacement (consistent : store.Consistent) (there : store.contains member = true) :
    (firstPlacement store vars image member).made? = clone? store image member := by
  obtain ⟨element, found⟩ := Store.contains_iff.1 there
  have keyed := consistent.keyed found
  have kinds := consistent.kinds found
  subst keyed
  rw [clone?, found, Option.bind_some]
  by_cases isVariable : element.type.isVariable = true
  · have typed : ownConstraint store element.address = .typed element.type :=
      ownConstraint_eq_typed_iff.2 ⟨by rw [Store.type?, found, Option.map_some], isVariable⟩
    rw [if_pos isVariable]
    obtain ⟨address, type, _ | _ | _⟩ := element
    · -- The type of a node has the flag of nodes already.
      have single : ElementType.node.bits = BitVec.twoPow 32 0 := by decide
      have node := ElementType.union_eq_of_carries (ElementType.carries_of_meets single kinds.node)
      have noLink : type.isLink = false := kinds.link
      simp only [Placement.made?, firstPlacement, typed, Store.ends?, found, Option.bind_some,
        Element.ends?, Option.map_none, noLink, Bool.false_eq_true, if_false, node]
      rfl
    · simp only [Placement.made?, firstPlacement, typed, Store.ends?, found, Option.bind_some,
        Element.ends?, Option.map_some]
      rfl
    · have isLink : type.isLink = true := kinds.link
      simp only [Placement.made?, firstPlacement, typed, Store.ends?, found, Option.bind_some,
        Element.ends?, Option.map_none, isLink, if_true]
      rfl
  · have constant : ¬ store.IsVariable element.address := by
      rintro ⟨type, typed, varies⟩
      rw [Store.type?, found, Option.map_some] at typed
      cases typed
      exact isVariable varies
    have fixed := ownConstraint_eq_fixed_iff.2 ⟨rfl, constant⟩
    rw [if_neg isVariable, Placement.made?, firstPlacement, fixed]

theorem clone?_eq_some_iff {copy : Element} : clone? store image member = some copy ↔
    ∃ element, store.get? member = some element ∧ element.type.isVariable = true ∧
      element.cloned image = copy := by
  simp only [clone?, Option.bind_eq_some_iff, Option.ite_none_right_eq_some, Option.some.injEq]

/-- A variable has a clone. -/
theorem exists_clone? (image : Address → Address) (varies : store.IsVariable member) :
    ∃ copy, clone? store image member = some copy := by
  obtain ⟨type, typed, isVariable⟩ := varies
  obtain ⟨element, found, same⟩ := Option.map_eq_some_iff.1 typed
  subst same
  exact ⟨_, clone?_eq_some_iff.2 ⟨element, found, isVariable, rfl⟩⟩

/-- The clone of a member is at the address that stands for it. -/
theorem address_of_clone? {copy : Element} (consistent : store.Consistent)
    (cloned : clone? store image member = some copy) : copy.address = image member := by
  obtain ⟨element, found, -, same⟩ := clone?_eq_some_iff.1 cloned
  rw [← same, Element.cloned, consistent.keyed found]

/-- **The clones of the variables** that occur in some rows, in the order in which they are made. -/
def clones (store : Store) (rows : List Triple) (image : Address → Address) : List Element :=
  (newMembers [] (rows.flatMap resolved)).filterMap (clone? store image)

theorem mem_newMembers_resolved_iff :
    member ∈ newMembers [] (rows.flatMap resolved) ↔ member ∈ occurring rows := by
  rw [mem_newMembers_iff, mem_occurring_iff, List.mem_flatMap]
  simp only [resolved, Triple.toList, List.mem_cons, List.not_mem_nil, or_false, not_false_iff,
    true_and]
  grind

theorem mem_clones_iff {copy : Element} : copy ∈ clones store rows image ↔
    ∃ member ∈ occurring rows, clone? store image member = some copy := by
  simp only [clones, List.mem_filterMap, mem_newMembers_resolved_iff]

/-- **What is made for the template of some rows** are the clones of the variables. -/
theorem newElements_reconstruct (consistent : store.Consistent) (inOrder : InOrder store [] rows)
    (image : Address → Address) :
    (reconstruct store rows).newElements .empty (rows.map (Triple.map image)) =
      clones store rows image := by
  have tallies : Tallies (occurring rows) [] [] := fun _ _ => iff_of_false nofun nofun
  have leads := leading_slotsOfRows image tallies (fun row => mem_occurring_of_mem) inOrder
  show (leading [] ((reconstruct store rows).placements (rows.map (Triple.map image)))).filterMap
    Placement.made? = _
  unfold reconstruct
  rw [leads, List.filterMap_map]
  apply List.filterMap_congr
  intro member isNew
  obtain ⟨row, inRows, inRow⟩ := mem_occurring_iff.1 (mem_newMembers_resolved_iff.1 isNew)
  exact made?_firstPlacement consistent (inOrder.there row inRows member inRow)

/-- The clones of two members are different elements. -/
def ClonedApart (store : Store) (image : Address → Address) (first second : Address) : Prop :=
  ∀ copy copy', clone? store image first = some copy → clone? store image second = some copy' →
    copy.address ≠ copy'.address

instance (store : Store) (image : Address → Address) : Std.Symm (ClonedApart store image) where
  symm _ _ apart copy copy' cloned cloned' same := apart copy' copy cloned' cloned same.symm

/-- **Clones that are made one after another belong to different variables.** -/
theorem image_injective_of_ascending {first second : Address} (consistent : store.Consistent)
    (ascending : ((clones store rows image).map Element.address).Pairwise (· < ·))
    (occurs : first ∈ occurring rows) (occurs' : second ∈ occurring rows)
    (varies : store.IsVariable first) (varies' : store.IsVariable second)
    (same : image first = image second) : first = second := by
  have apart : (newMembers [] (rows.flatMap resolved)).Pairwise (ClonedApart store image) :=
    (List.pairwise_filterMap.1 (List.pairwise_map.1 ascending)).imp
      fun less copy copy' cloned cloned' same =>
        Key.lt_irrefl _ (same ▸ less copy cloned copy' cloned')
  obtain ⟨copy, cloned⟩ := exists_clone? image varies
  obtain ⟨copy', cloned'⟩ := exists_clone? image varies'
  refine Decidable.byContradiction fun different => ?_
  refine apart.forall (mem_newMembers_resolved_iff.2 occurs) (mem_newMembers_resolved_iff.2 occurs')
    different copy copy' cloned cloned' ?_
  rw [address_of_clone? consistent cloned, address_of_clone? consistent cloned', same]

/-- **The variables that occur in some rows are cloned.** Every constant stands for itself, and every
variable that occurs for an element of its own, which is new. These elements have the types of the
variables, and besides them there is what there was before. Edges lead between what stands for their
ends, and what stands for a member has its name. -/
structure Clones (start : Store) (rows : List Triple) (image : Address → Address) (made : Instance)
    (after : Store) : Prop where
  constant : ∀ member, ¬ start.IsVariable member → image member = member
  new : ∀ member ∈ occurring rows, start.IsVariable member → start.contains (image member) = false
  distinct : ∀ first ∈ occurring rows, ∀ second ∈ occurring rows, start.IsVariable first →
    start.IsVariable second → image first = image second → first = second
  table : ∀ address element, after.get? address = some element ↔
    start.get? address = some element ∨ ∃ member ∈ occurring rows,
      clone? start image member = some element ∧ image member = address
  types : ∀ member ∈ occurring rows, after.type? (image member) = start.type? member
  edges : ∀ row ∈ rows, after.ends? (image row.edge) = some (image row.source, image row.target)
  triples : made.triples = rows.map (Triple.map image)
  named : ∀ member ∈ occurring rows, made.get? (memberName member) = some (image member)

/-- What stands for a constant is the constant. -/
theorem image_of_not_isVariable {other : Store} {parameters : Assignment} {found : Match}
    (satisfies : found.Satisfies other (reconstruct store rows) parameters)
    (constant : ¬ store.IsVariable member) : found.image rows member = member := by
  unfold Match.image
  by_cases occurs : member ∈ occurring rows
  · rw [value_of_not_isVariable satisfies occurs constant, Option.getD_some]
  · have outside : found.values.length ≤ (occurring rows).idxOf member := by
      rw [satisfies.valued, List.idxOf_eq_length occurs]
      exact Nat.le_of_eq (List.length_map _)
    rw [List.getElem?_eq_none outside, Option.getD_none]

/-- What stands for a member has its type, if there is what there was and the clones. -/
theorem type?_image {after : Store}
    (table : ∀ address element, after.get? address = some element ↔
      store.get? address = some element ∨ ∃ member ∈ occurring rows,
        clone? store image member = some element ∧ image member = address)
    (constant : ¬ store.IsVariable member → image member = member)
    (there : store.contains member = true) (occurs : member ∈ occurring rows) :
    after.type? (image member) = store.type? member := by
  by_cases varies : store.IsVariable member
  · obtain ⟨copy, cloned⟩ := exists_clone? image varies
    have made := (table _ copy).2 (.inr ⟨member, occurs, cloned, rfl⟩)
    obtain ⟨element, found, -, same⟩ := clone?_eq_some_iff.1 cloned
    subst same
    rw [Store.type?, made, Store.type?, found]
    rfl
  · obtain ⟨element, found⟩ := Store.contains_iff.1 there
    rw [constant varies, Store.type?, Store.type?, found, (table member element).2 (.inl found)]

/-- **A generation of the template of some rows that succeeds clones the variables.** -/
theorem clones_of_generate (consistent : store.Consistent)
    (covers : (reconstruct store rows).Covers (reconstruct store rows).slots)
    (inOrder : InOrder store [] rows) (generated :
      ((reconstruct store rows).generate store .empty).outcome = .ok made) :
    ∃ image, Clones store rows image made ((reconstruct store rows).generate store .empty).store := by
  obtain ⟨materializes, -⟩ := materializes_of_generate consistent covers generated
  obtain ⟨whole, same, satisfies⟩ := exists_match_of_generate consistent covers generated
  have images : made.triples = rows.map (Triple.map (whole.image rows)) := by
    rw [same]
    exact rows_eq_image satisfies
  have new := newElements_reconstruct consistent inOrder (whole.image rows)
  rw [← images] at new
  have constant : ∀ member, ¬ store.IsVariable member → whole.image rows member = member :=
    fun member => image_of_not_isVariable satisfies
  have table : ∀ address element,
      ((reconstruct store rows).generate store .empty).store.get? address = some element ↔
        store.get? address = some element ∨ ∃ member ∈ occurring rows,
          clone? store (whole.image rows) member = some element ∧
            whole.image rows member = address := by
    intro address element
    rw [materializes.table address element, new, mem_clones_iff]
    refine or_congr_right ?_
    constructor
    · rintro ⟨⟨member, occurs, cloned⟩, here⟩
      exact ⟨member, occurs, cloned, (address_of_clone? consistent cloned).symm.trans here⟩
    · rintro ⟨member, occurs, cloned, here⟩
      exact ⟨⟨member, occurs, cloned⟩, (address_of_clone? consistent cloned).trans here⟩
  exact ⟨whole.image rows, {
    constant := constant
    new := fun member occurs varies => by
      obtain ⟨copy, cloned⟩ := exists_clone? (whole.image rows) varies
      have isNew := materializes.fresh copy (new ▸ mem_clones_iff.2 ⟨member, occurs, cloned⟩)
      rw [← Bool.not_eq_true, Store.not_contains_iff, ← address_of_clone? consistent cloned]
      exact isNew
    distinct := fun first occurs second occurs' =>
      image_injective_of_ascending consistent (new ▸ materializes.ascending) occurs occurs'
    table := table
    types := fun member occurs => by
      obtain ⟨row, inRows, inRow⟩ := mem_occurring_iff.1 occurs
      exact type?_image table (constant member) (inOrder.there row inRows member inRow) occurs
    edges := fun row inRows => by
      have edge := materializes.edges (Triple.map (whole.image rows) row)
      rw [images] at edge
      exact edge (List.mem_map_of_mem inRows)
    triples := images
    named := fun member occurs => by
      obtain ⟨address, value, -⟩ := exists_value_of_member satisfies occurs
      rw [same, get?_memberName covers satisfies occurs, Match.image, value, Option.getD_some] }⟩

end Template

end SemanticNetwork
