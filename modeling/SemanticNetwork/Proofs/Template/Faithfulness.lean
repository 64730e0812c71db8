/-
**Templates of structures are faithful.** Every member that occurs has a slot that says what the
member is: itself, or its type if it is a variable. So the rows of the structure are a match of its
own template, in which every member is its own image, and a match in which every member is its own
image has these rows. Without variables there is no other match.

* `getElem?_slotsOfRows`, `exists_own_slot`: the slots that are written down;
* `validate_reconstruct`: a template is valid if the types of its variables are consistent;
* `rows_eq_image`: **a match of the template of some rows is an image of the rows**;
* `satisfies_own_rows`, `eq_own_rows`: the rows match, and nothing else does with the same members;
* `search_ofStructure_gives_back`: **a search for the template of a structure gives it back, once**.
-/
import SemanticNetwork.Proofs.Template.Reconstruction
import SemanticNetwork.Proofs.Template.Rediscovery

namespace SemanticNetwork

/-- An element is a variable if its type says so. -/
def Store.IsVariable (store : Store) (address : Address) : Prop :=
  ∃ type, store.type? address = some type ∧ type.isVariable = true

instance (store : Store) (address : Address) : Decidable (store.IsVariable address) :=
  decidable_of_iff ((store.type? address).any ElementType.isVariable = true)
    (Option.any_eq_true ..)

/-- The triple of what some elements become. -/
def Triple.map (image : Address → Address) (triple : Triple) : Triple :=
  ⟨image triple.source, image triple.edge, image triple.target⟩

namespace Template

variable {store : Store} {structureNode member address : Address} {row : Triple}
  {rows : List Triple} {vars introduced : List Address} {template : Template} {slot : Slot}

/-! ### Building -/

theorem IsBuilt.append (built : template.IsBuilt) (clause : Clause) :
    (template.append clause).IsBuilt := by
  obtain ⟨clauses, same⟩ := built
  refine ⟨clauses ++ [clause], ?_⟩
  rw [ofClauses, List.foldl_append, ← ofClauses, same]
  rfl

/-- **The template of a structure is built** clause by clause. -/
theorem isBuilt_ofStructure (made : ofStructure store structureNode = .ok template) :
    template.IsBuilt := by
  have kept : ∀ {rows : List Triple} {before after : Template × List Address},
      before.1.IsBuilt → rows.foldlM (addMemberTriple store) before = .ok after →
      after.1.IsBuilt := by
    intro rows
    induction rows with
    | nil =>
      intro before after built ran
      cases ran
      exact built
    | cons row rest hypothesis =>
      intro before after built ran
      rw [List.foldlM_cons] at ran
      obtain ⟨between, added, ran⟩ := bind_eq_ok_iff.1 ran
      obtain ⟨source, -, added⟩ := bind_eq_ok_iff.1 added
      obtain ⟨target, -, added⟩ := bind_eq_ok_iff.1 added
      obtain ⟨edge, -, added⟩ := bind_eq_ok_iff.1 added
      cases added
      exact hypothesis (built.append (.triple source.1 edge.1 target.1)) ran
  unfold ofStructure at made
  split at made
  · cases made
  obtain ⟨rows, -, made⟩ := bind_eq_ok_iff.1 made
  dsimp only at made
  split at made
  · cases made
  obtain ⟨after, ran, same⟩ := bind_eq_ok_iff.1 made
  cases same
  exact kept ⟨[], rfl⟩ ran

/-! ### Slots of members -/

theorem ownConstraint_eq_typed_iff {type : ElementType} :
    ownConstraint store member = .typed type ↔
      store.type? member = some type ∧ type.isVariable = true := by
  unfold ownConstraint
  cases store.type? member with
  | none => simp
  | some actual =>
    simp only [Option.some.injEq]
    constructor
    · intro same
      split at same
      · cases same
        exact ⟨rfl, ‹_›⟩
      · cases same
    · intro ⟨same, isVariable⟩
      subst same
      exact if_pos isVariable

theorem ownConstraint_eq_fixed_iff :
    ownConstraint store member = .fixed address ↔ address = member ∧ ¬ store.IsVariable member := by
  unfold ownConstraint Store.IsVariable
  cases store.type? member with
  | none =>
    rw [Constraint.fixed.injEq, @eq_comm _ member]
    simp
  | some actual =>
    by_cases isVariable : actual.isVariable = true
    · simp [isVariable]
    · dsimp only
      rw [if_neg isVariable, Constraint.fixed.injEq, @eq_comm _ member]
      simp [isVariable]

theorem ownConstraint_ne_any : ownConstraint store member ≠ .any := by
  unfold ownConstraint
  split
  · split <;> nofun
  · nofun

theorem length_slotsOfRows (store : Store) (vars introduced : List Address) (rows : List Triple) :
    (slotsOfRows store vars introduced rows).length = rows.length := by
  induction rows generalizing introduced with
  | nil => rfl
  | cons row rest hypothesis =>
    rw [slotsOfRows, List.length_cons, hypothesis, List.length_cons]

/-- **The slots of a row** are written when the members of the rows before it are introduced. -/
theorem getElem?_slotsOfRows (position : Nat) :
    (slotsOfRows store vars introduced rows)[position]? = (rows[position]?).map
      fun row => rowSlots store vars ((rows.take position).foldl meetRow introduced) row := by
  induction rows generalizing introduced position with
  | nil => rfl
  | cons row rest hypothesis =>
    cases position with
    | zero => rfl
    | succ position =>
      simp only [slotsOfRows, List.getElem?_cons_succ, List.take_succ_cons, List.foldl_cons,
        hypothesis]

/-- What stands in the slots of a row stands in the slots of its members. -/
theorem mem_place_rowSlots {image : Triple}
    (placed : (slot, address) ∈ (rowSlots store vars introduced row).place image) :
    ∃ member before, slot = memberSlot store vars before member ∧
      (member, address) ∈ row.toList.zip image.toList := by
  rcases SlotTriple.mem_place_iff.1 placed with ⟨rfl, rfl⟩ | ⟨rfl, rfl⟩ | ⟨rfl, rfl⟩
  · exact ⟨row.source, _, rfl, by simp [Triple.toList]⟩
  · exact ⟨row.edge, _, rfl, by simp [Triple.toList]⟩
  · exact ⟨row.target, _, rfl, by simp [Triple.toList]⟩

/-- What stands for a member stands in a slot with its number. -/
theorem exists_place_rowSlots {image : Triple}
    (paired : (member, address) ∈ row.toList.zip image.toList) :
    ∃ slot, (slot, address) ∈ (rowSlots store vars introduced row).place image ∧
      slot.var = some (vars.idxOf member) := by
  simp only [Triple.toList, List.zip_cons_cons, List.zip_nil_right, List.mem_cons,
    Prod.mk.injEq, List.not_mem_nil, or_false] at paired
  rcases paired with ⟨rfl, rfl⟩ | ⟨rfl, rfl⟩ | ⟨rfl, rfl⟩
  · exact ⟨_, SlotTriple.mem_place_iff.2 (.inl ⟨rfl, rfl⟩), rfl⟩
  · exact ⟨_, SlotTriple.mem_place_iff.2 (.inr (.inl ⟨rfl, rfl⟩)), rfl⟩
  · exact ⟨_, SlotTriple.mem_place_iff.2 (.inr (.inr ⟨rfl, rfl⟩)), rfl⟩

/-- The slots of a row say what its members are that were not introduced before. -/
theorem exists_own_rowSlots (inRow : member ∈ row.toList) (new : member ∉ introduced) :
    ⟨ownConstraint store member, some (vars.idxOf member)⟩ ∈
      (rowSlots store vars introduced row).toList := by
  have own : ∀ before, member ∉ before → memberSlot store vars before member =
      ⟨ownConstraint store member, some (vars.idxOf member)⟩ := by
    intro before notThere
    rw [memberSlot, if_neg notThere]
  simp only [SlotTriple.toList, rowSlots, List.mem_cons, List.not_mem_nil, or_false]
  -- An edge that is an end of itself would be introduced as an end.
  by_cases source : member = row.source
  · subst source
    exact .inl (own _ new).symm
  by_cases target : member = row.target
  · subst target
    exact .inr (.inr (own _ (by simp [source, new])).symm)
  have edge : member = row.edge := by
    simpa [Triple.toList, source, target] using inRow
  subst edge
  exact .inr (.inl (own _ (by simp [source, target, new])).symm)

/-- **Every member that occurs has a slot that says what it is.** -/
theorem exists_own_slot (occurs : ∃ row ∈ rows, member ∈ row.toList) (new : member ∉ introduced) :
    ∃ slots ∈ slotsOfRows store vars introduced rows,
      ⟨ownConstraint store member, some (vars.idxOf member)⟩ ∈ slots.toList := by
  induction rows generalizing introduced with
  | nil =>
    obtain ⟨row, member, -⟩ := occurs
    cases member
  | cons head rest hypothesis =>
    rw [slotsOfRows]
    by_cases inHead : member ∈ head.toList
    · exact ⟨_, List.mem_cons_self, exists_own_rowSlots inHead new⟩
    · obtain ⟨row, inRows, inRow⟩ := occurs
      have later : row ∈ rest := by
        refine (List.mem_cons.1 inRows).resolve_left ?_
        intro same
        exact inHead (same ▸ inRow)
      have still : member ∉ meetRow introduced head := by
        rw [mem_meetRow_iff]
        exact fun either => either.elim new inHead
      obtain ⟨slots, inSlots, own⟩ := hypothesis ⟨row, later, inRow⟩ still
      exact ⟨slots, List.mem_cons_of_mem _ inSlots, own⟩

/-! ### Valid templates -/

/-- The types of the variables among some members are consistent. -/
def HasSoundVariables (store : Store) (members : List Address) : Prop :=
  ∀ member ∈ members, ∀ type, store.type? member = some type → type.isVariable = true →
    type.conflict? = none

/-- A slot of the template of some rows is a slot of a member. -/
theorem exists_member_of_slot (inSlots : slot ∈ (reconstruct store rows).slots) :
    ∃ member ∈ occurring rows, ∃ before,
      slot = memberSlot store (occurring rows) before member := by
  obtain ⟨slots, inTriples, inSlots⟩ := List.mem_flatMap.1 inSlots
  obtain ⟨position, here⟩ := List.mem_iff_getElem?.1 inTriples
  have written : (slotsOfRows store (occurring rows) [] rows)[position]? = some slots := here
  rw [getElem?_slotsOfRows] at written
  obtain ⟨row, atRow, same⟩ := Option.map_eq_some_iff.1 written
  subst same
  obtain ⟨address, placed⟩ := exists_place row inSlots
  obtain ⟨member, before, same, paired⟩ := mem_place_rowSlots placed
  have inRow : member ∈ row.toList := (List.of_mem_zip paired).1
  exact ⟨member, mem_occurring_iff.2 ⟨row, List.mem_of_getElem? atRow, inRow⟩, before, same⟩

/-- **The template of some rows is valid** if there are rows, and the types of the variables are
consistent. -/
theorem validate_reconstruct (consistent : store.Consistent) (notEmpty : rows ≠ [])
    (there : ∀ row ∈ rows, ∀ member ∈ row.toList, store.contains member = true)
    (sound : HasSoundVariables store (occurring rows)) :
    (reconstruct store rows).validate = .ok () := by
  have constrained : ∀ slot ∈ (reconstruct store rows).slots, slot.constraint ≠ .any →
      ∃ member ∈ occurring rows, slot.constraint = ownConstraint store member := by
    intro slot inSlots notAny
    obtain ⟨member, occurs, before, same⟩ := exists_member_of_slot inSlots
    subst same
    refine ⟨member, occurs, ?_⟩
    unfold memberSlot at notAny ⊢
    dsimp only at notAny ⊢
    split at notAny
    · exact absurd rfl notAny
    · rw [if_neg ‹_›]
  refine validate_of_makesSense ⟨?_, ?_, ?_⟩ ?_ rfl
  · intro known inVars
    obtain ⟨member, -, same⟩ := List.mem_map.1 inVars
    exact same ▸ rfl
  · intro slot inSlots address fixed
    obtain ⟨member, occurs, same⟩ := constrained slot inSlots (by rw [fixed]; nofun)
    obtain ⟨rfl, -⟩ := ownConstraint_eq_fixed_iff.1 (same.symm.trans fixed)
    obtain ⟨row, inRows, inRow⟩ := mem_occurring_iff.1 occurs
    exact consistent.isValid_of_contains (there row inRows _ inRow)
  · intro slot inSlots type typed
    obtain ⟨member, occurs, same⟩ := constrained slot inSlots (by rw [typed]; nofun)
    obtain ⟨found, isVariable⟩ := ownConstraint_eq_typed_iff.1 (same.symm.trans typed)
    exact sound member occurs type found isVariable
  · intro empty
    apply notEmpty
    apply List.eq_nil_of_length_eq_zero
    rw [← length_slotsOfRows store (occurring rows) [] rows]
    exact congrArg List.length empty

/-! ### Matches -/

variable {other : Store} {parameters : Assignment} {found : Match}

theorem getElem?_triples_reconstruct {position : Nat} (atRow : rows[position]? = some row) :
    (reconstruct store rows).triples[position]? = some
      (rowSlots store (occurring rows) ((rows.take position).foldl meetRow []) row) := by
  show (slotsOfRows store (occurring rows) [] rows)[position]? = _
  rw [getElem?_slotsOfRows, atRow]
  rfl

/-- What stands for the members of a row is what the match has for them. -/
theorem value_of_row (satisfies : found.Satisfies other (reconstruct store rows) parameters)
    {position : Nat} (atRow : rows[position]? = some row) :
    ∃ image, found.rows[position]? = some image ∧ ∀ member address,
      (member, address) ∈ row.toList.zip image.toList →
        found.values[(occurring rows).idxOf member]? = some address := by
  have inside : position < found.rows.length := by
    rw [satisfies.triples]
    show position < (slotsOfRows store (occurring rows) [] rows).length
    rw [length_slotsOfRows]
    exact (List.getElem?_eq_some_iff.1 atRow).1
  refine ⟨found.rows[position], List.getElem?_eq_getElem inside, fun member address paired => ?_⟩
  obtain ⟨slot, placed, here⟩ := exists_place_rowSlots paired
  exact satisfies.shared slot address _ ⟨position, _, _, getElem?_triples_reconstruct atRow,
    List.getElem?_eq_getElem inside, placed⟩ here

/-- **What stands for a member that occurs is admitted** as what the member is. -/
theorem exists_value_of_member
    (satisfies : found.Satisfies other (reconstruct store rows) parameters)
    (occurs : member ∈ occurring rows) :
    ∃ address, found.values[(occurring rows).idxOf member]? = some address ∧
      Slot.Admits other ⟨ownConstraint store member, some ((occurring rows).idxOf member)⟩
        address := by
  have hasOwn : ∃ slots ∈ (reconstruct store rows).triples,
      ⟨ownConstraint store member, some ((occurring rows).idxOf member)⟩ ∈ slots.toList :=
    exists_own_slot (mem_occurring_iff.1 occurs) List.not_mem_nil
  obtain ⟨slots, inTriples, own⟩ := hasOwn
  have complete : ∀ position, position < (reconstruct store rows).size →
      ∃ row, found.rowAt position = some row := by
    intro position inside
    rw [← satisfies.triples] at inside
    exact ⟨found.rows[position], List.getElem?_eq_getElem inside⟩
  obtain ⟨address, stands⟩ := exists_stands complete (List.mem_flatMap.2 ⟨slots, inTriples, own⟩)
  exact ⟨address, satisfies.shared _ _ _ stands rfl, satisfies.admitted _ _ stands⟩

/-- A member that is not a variable stands for itself. -/
theorem value_of_not_isVariable
    (satisfies : found.Satisfies other (reconstruct store rows) parameters)
    (occurs : member ∈ occurring rows) (constant : ¬ store.IsVariable member) :
    found.values[(occurring rows).idxOf member]? = some member := by
  obtain ⟨address, value, admitted⟩ := exists_value_of_member satisfies occurs
  have fixed := ownConstraint_eq_fixed_iff.2 ⟨rfl, constant⟩
  simp only [Slot.Admits, fixed] at admitted
  exact admitted ▸ value

/-- **The rows match their own template**, with every member for itself. -/
theorem satisfies_own_rows
    (connected : ∀ row ∈ rows, store.ends? row.edge = some (row.source, row.target)) :
    (Match.mk (occurring rows) rows).Satisfies store (reconstruct store rows) .empty := by
  have stands : ∀ {slot address}, (reconstruct store rows).Stands
      (Match.mk (occurring rows) rows).rowAt slot address → address ∈ occurring rows ∧
        ∃ before, slot = memberSlot store (occurring rows) before address := by
    intro slot address ⟨position, slots, row, atSlots, atRow, placed⟩
    rw [getElem?_triples_reconstruct atRow] at atSlots
    cases atSlots
    obtain ⟨member, before, same, paired⟩ := mem_place_rowSlots placed
    have self : member = address := by
      simp only [Triple.toList, List.zip_cons_cons, List.zip_nil_right, List.mem_cons,
        Prod.mk.injEq, List.not_mem_nil, or_false] at paired
      rcases paired with ⟨rfl, rfl⟩ | ⟨rfl, rfl⟩ | ⟨rfl, rfl⟩ <;> rfl
    subst self
    exact ⟨mem_occurring_iff.2 ⟨row, List.mem_of_getElem? atRow, (List.of_mem_zip paired).1⟩,
      before, same⟩
  exact {
    valued := (List.length_map _).symm
    triples := (length_slotsOfRows ..).symm
    edges := connected
    admitted := fun slot address here => by
      obtain ⟨-, before, same⟩ := stands here
      subst same
      unfold Slot.Admits memberSlot
      dsimp only
      by_cases introduced : address ∈ before
      · simp only [if_pos introduced]
      · simp only [if_neg introduced]
        cases own : ownConstraint store address with
        | fixed wanted => exact (ownConstraint_eq_fixed_iff.1 own).1.symm
        | typed type =>
          exact ⟨type, (ownConstraint_eq_typed_iff.1 own).1, type.carries_without⟩
        | any => exact absurd own ownConstraint_ne_any
    shared := fun slot address var here number => by
      obtain ⟨occurs, before, same⟩ := stands here
      subst same
      cases number
      exact List.getElem?_idxOf occurs
    parameters := fun var address gives => by
      obtain ⟨name, member, -⟩ := gives
      cases member }

/-- What a match has for a member that occurs in some rows; every other address is left as it is. -/
def Match.image (found : Match) (rows : List Triple) (member : Address) : Address :=
  (found.values[(occurring rows).idxOf member]?).getD member

/-- **The rows of a match are the images of the rows** that its template was written down from. -/
theorem rows_eq_image (satisfies : found.Satisfies other (reconstruct store rows) parameters) :
    found.rows = rows.map (Triple.map (found.image rows)) := by
  apply List.ext_getElem?
  intro position
  rw [List.getElem?_map]
  cases atRow : rows[position]? with
  | none =>
    rw [List.getElem?_eq_none_iff] at atRow
    rw [Option.map_none, List.getElem?_eq_none_iff, satisfies.triples]
    show (slotsOfRows store (occurring rows) [] rows).length ≤ position
    rwa [length_slotsOfRows]
  | some row =>
    obtain ⟨image, atImage, paired⟩ := value_of_row satisfies atRow
    have same : ∀ member address, (member, address) ∈ row.toList.zip image.toList →
        found.image rows member = address := by
      intro member address here
      rw [Match.image, paired member address here, Option.getD_some]
    rw [atImage, Option.map_some]
    show some (Triple.mk image.source image.edge image.target) = _
    simp only [Triple.map, same row.source image.source (by simp [Triple.toList]),
      same row.edge image.edge (by simp [Triple.toList]),
      same row.target image.target (by simp [Triple.toList])]

/-- **A match with every member for itself has no other rows.** -/
theorem eq_own_rows (satisfies : found.Satisfies other (reconstruct store rows) parameters)
    (self : ∀ member ∈ occurring rows,
      found.values[(occurring rows).idxOf member]? = some member) :
    found = ⟨occurring rows, rows⟩ := by
  apply Match.ext
  · apply List.ext_getElem
    · exact satisfies.valued.trans (List.length_map _)
    · intro position inside inside'
      have value := self _ (List.getElem_mem inside')
      rw [(nodup_occurring rows).idxOf_getElem position inside'] at value
      exact (List.getElem?_eq_some_iff.1 value).2
  · have identity : ∀ row ∈ rows, Triple.map (found.image rows) row = row := by
      intro row inRows
      have same : ∀ member ∈ row.toList, found.image rows member = member := by
        intro member inRow
        rw [Match.image, self member (mem_occurring_iff.2 ⟨row, inRows, inRow⟩), Option.getD_some]
      simp only [Triple.toList, List.forall_mem_cons] at same
      obtain ⟨source, edge, target, -⟩ := same
      simp only [Triple.map, source, edge, target]
    show found.rows = rows
    rw [rows_eq_image satisfies]
    exact (List.map_congr_left identity).trans (List.map_id rows)

/-! ### Searching the template of a structure -/

/-- **A template mirrors a structure**: it has a triple for every edge among the members, and its names
are those of the members that occur. -/
structure Mirrors (store : Store) (structureNode : Address) (template : Template)
    (rows : List Triple) : Prop where
  ascending : rows.Pairwise Triple.Before
  mem_iff : ∀ row, row ∈ rows ↔ store.HasMember structureNode row.edge ∧
    store.ends? row.edge = some (row.source, row.target)
  size : template.size = rows.length
  names : ∀ name, template.hasName name = true ↔ ∃ member ∈ occurring rows, name = memberName member

/-- An instance has every member that occurs for itself. -/
def Recalls (made : Instance) (rows : List Triple) : Prop :=
  ∀ member ∈ occurring rows, made.get? (memberName member) = some member

theorem mirrors_of_ofStructure (consistent : store.Consistent)
    (built : ofStructure store structureNode = .ok template) :
    template.Mirrors store structureNode (memberRows store structureNode) := by
  obtain ⟨-, -, -, same⟩ := (ofStructure_eq_ok_iff consistent).1 built
  subst same
  refine ⟨memberRows_ascending _ _, fun row => mem_memberRows_iff consistent,
    length_slotsOfRows .., fun name => ?_⟩
  constructor
  · intro known
    obtain ⟨var, here⟩ := Option.isSome_iff_exists.1 known
    obtain ⟨⟨name', var'⟩, entry, same⟩ := Option.map_eq_some_iff.1 here
    obtain ⟨member, inVars, named⟩ := exists_of_mem_names (List.mem_of_find?_eq_some entry)
    have sameName : name' = name := by simpa using List.find?_some entry
    exact ⟨member, List.mem_of_getElem? inVars, sameName.symm.trans named⟩
  · intro ⟨member, occurs, same⟩
    subst same
    have found := varNamed?_mirror (occurring (memberRows store structureNode))
      (slotsOfRows store (occurring (memberRows store structureNode)) []
        (memberRows store structureNode)) member
    rw [if_pos occurs] at found
    exact Option.isSome_iff_exists.2 ⟨_, found⟩

/-- **What an instance has for the name of a member** is what the match has for the member. -/
theorem get?_memberName (covers : (reconstruct store rows).Covers (reconstruct store rows).slots)
    (satisfies : found.Satisfies other (reconstruct store rows) parameters)
    (occurs : member ∈ occurring rows) :
    (found.toInstance (reconstruct store rows)).get? (memberName member) =
      found.values[(occurring rows).idxOf member]? := by
  have here := varNamed?_mirror (occurring rows) (slotsOfRows store (occurring rows) [] rows) member
  rw [if_pos occurs] at here
  obtain ⟨address, value, asked⟩ := get?_toInstance covers satisfies here
  rw [asked, value]

/-- A list without repetition has only one item if all its items are the same. -/
theorem eq_singleton_of_nodup {α : Type} {list : List α} {only : α} (distinct : list.Nodup)
    (present : only ∈ list) (same : ∀ item ∈ list, item = only) : list = [only] := by
  cases list with
  | nil => cases present
  | cons head rest =>
    obtain ⟨new, -⟩ := List.nodup_cons.1 distinct
    have isOnly := same head List.mem_cons_self
    cases rest with
    | nil => rw [isOnly]
    | cons next others =>
      have again := same next (List.mem_cons_of_mem _ List.mem_cons_self)
      exact absurd (by simp [isOnly, again]) new

/-- **A search for the template of a structure gives the structure back, once.** A structure has a
template if it exists, one of its members is an edge, and the ends of all such members are members.
The template has a triple for every such edge. If the types of the variables are consistent, a search
for it succeeds, and exactly one of its results has every member for itself; that one consists of the
edges with their ends. Without variables there is no other result. -/
theorem search_ofStructure_gives_back (reachable : store.Reachable) (structureNode : Address) :
    ((∃ template, ofStructure store structureNode = .ok template) ↔
      store.contains structureNode = true ∧
        (∃ edge ends, store.HasMember structureNode edge ∧ store.ends? edge = some ends) ∧
        ∀ edge source target, store.HasMember structureNode edge →
          store.ends? edge = some (source, target) →
            store.HasMember structureNode source ∧ store.HasMember structureNode target) ∧
    ∀ template, ofStructure store structureNode = .ok template →
      template.Mirrors store structureNode (memberRows store structureNode) ∧
        (HasSoundVariables store (occurring (memberRows store structureNode)) →
          ∃ found made, template.search store .empty = .ok found ∧ found.count made = 1 ∧
            made.triples = memberRows store structureNode ∧
            (∀ other ∈ found, Recalls other (memberRows store structureNode) ↔ other = made) ∧
            ((∀ member ∈ occurring (memberRows store structureNode), ¬ store.IsVariable member) →
              found = [made])) := by
  have consistent := reachable.consistent
  refine ⟨exists_ofStructure_iff consistent, fun template built => ?_⟩
  refine ⟨mirrors_of_ofStructure consistent built, fun sound => ?_⟩
  obtain ⟨-, -, notEmpty, same⟩ := (ofStructure_eq_ok_iff consistent).1 built
  have covers := (isBuilt_ofStructure built).covers
  subst same
  generalize ofRows : memberRows store structureNode = rows at *
  have older : ∀ row ∈ rows, (∀ member ∈ row.toList, store.contains member = true) ∧
      store.ends? row.edge = some (row.source, row.target) := by
    intro row inRows
    subst ofRows
    exact ⟨(older_of_mem_memberRows consistent inRows).1,
      ((mem_memberRows_iff consistent).1 inRows).2⟩
  have valid := validate_reconstruct consistent notEmpty (fun row inRows => (older row inRows).1) sound
  obtain ⟨found, searched, distinct, mem_iff⟩ := exists_found consistent covers valid
    (show (reconstruct store rows).bindParameters store .empty = .ok (.unbound _) from rfl)
  have own := satisfies_own_rows fun row inRows => (older row inRows).2
  have present := List.mem_map_of_mem (f := Match.toInstance (reconstruct store rows))
    ((mem_iff ⟨occurring rows, rows⟩).2 own)
  refine ⟨_, _, searched, distinct.count.trans (if_pos present), rfl, ?_, fun constant => ?_⟩
  · intro other inFound
    obtain ⟨whole, isFound, same⟩ := List.mem_map.1 inFound
    subst same
    have satisfies := (mem_iff whole).1 isFound
    constructor
    · intro recalls
      refine congrArg _ (eq_own_rows satisfies fun member occurs => ?_)
      rw [← get?_memberName covers satisfies occurs]
      exact recalls member occurs
    · intro same member occurs
      rw [same, get?_memberName covers own occurs]
      exact List.getElem?_idxOf occurs
  · refine eq_singleton_of_nodup distinct present fun other inFound => ?_
    obtain ⟨whole, isFound, same⟩ := List.mem_map.1 inFound
    subst same
    have satisfies := (mem_iff whole).1 isFound
    exact congrArg _ (eq_own_rows satisfies fun member occurs =>
      value_of_not_isVariable satisfies occurs (constant member occurs))

/-- A network with a structure: a variable node with two variable edges, to a node and to an edge from
that node to itself. The node is a member twice, and the edges that state the membership match the
variable edges. -/
def patterned : Network :=
  ((Session.start (.new 4 .manual) []).run
    [.createNode .constantNode, .createNode .variableNode, .createNode .constantNode,
      .createEdgeIn 0 (.union .access .varying) ⟨2⟩ ⟨3⟩,
      .createEdgeIn 0 .constantDirected ⟨3⟩ ⟨3⟩,
      .createEdgeIn 0 (.union .access .varying) ⟨2⟩ ⟨5⟩,
      .createEdgeIn 0 .membership ⟨1⟩ ⟨6⟩, .createEdgeIn 0 .membership ⟨1⟩ ⟨5⟩,
      .createEdgeIn 0 .membership ⟨1⟩ ⟨4⟩, .createEdgeIn 0 .membership ⟨1⟩ ⟨3⟩,
      .createEdgeIn 0 .membership ⟨1⟩ ⟨2⟩, .createEdgeIn 0 .membership ⟨1⟩ ⟨3⟩]).network

theorem reachable_patterned : patterned.store.Reachable := by
  unfold patterned
  exact ⟨_, _, _, rfl⟩

theorem ofStructure_patterned : ofStructure patterned.store ⟨1⟩ =
    .ok (reconstruct patterned.store (memberRows patterned.store ⟨1⟩)) := by
  decide +kernel

theorem hasSoundVariables_patterned :
    HasSoundVariables patterned.store (occurring (memberRows patterned.store ⟨1⟩)) := by
  have consistent : ∀ member ∈ occurring (memberRows patterned.store ⟨1⟩),
      ((patterned.store.type? member).bind ElementType.conflict?) = none := by decide +kernel
  intro member occurs type found _
  have unspoilt := consistent member occurs
  rwa [found] at unspoilt

/-- The rows of the structure are one of the results. -/
theorem search_patterned_gives_back :
    patterned.store.Reachable ∧ ∃ template, ofStructure patterned.store ⟨1⟩ = .ok template ∧
      template.Mirrors patterned.store ⟨1⟩ (memberRows patterned.store ⟨1⟩) ∧
      HasSoundVariables patterned.store (occurring (memberRows patterned.store ⟨1⟩)) ∧
      ∃ found made, template.search patterned.store .empty = .ok found ∧ found.count made = 1 ∧
        made.triples = memberRows patterned.store ⟨1⟩ ∧
        ∀ other ∈ found, Recalls other (memberRows patterned.store ⟨1⟩) ↔ other = made := by
  obtain ⟨-, givesBack⟩ := search_ofStructure_gives_back reachable_patterned ⟨1⟩
  obtain ⟨mirrors, searched⟩ := givesBack _ ofStructure_patterned
  obtain ⟨found, made, search, once, triples, only, -⟩ := searched hasSoundVariables_patterned
  exact ⟨reachable_patterned, _, ofStructure_patterned, mirrors, hasSoundVariables_patterned, found,
    made, search, once, triples, only⟩

example : ((ofStructure patterned.store ⟨1⟩).bind fun template =>
    template.search patterned.store .empty).toOption.map (List.map Instance.triples) =
      some [[⟨⟨2⟩, ⟨4⟩, ⟨3⟩⟩, ⟨⟨3⟩, ⟨5⟩, ⟨3⟩⟩, ⟨⟨2⟩, ⟨6⟩, ⟨5⟩⟩],
        [⟨⟨1⟩, ⟨10⟩, ⟨3⟩⟩, ⟨⟨3⟩, ⟨5⟩, ⟨3⟩⟩, ⟨⟨1⟩, ⟨8⟩, ⟨5⟩⟩],
        [⟨⟨1⟩, ⟨12⟩, ⟨3⟩⟩, ⟨⟨3⟩, ⟨5⟩, ⟨3⟩⟩, ⟨⟨1⟩, ⟨8⟩, ⟨5⟩⟩]] := by
  decide +kernel

end Template

end SemanticNetwork
