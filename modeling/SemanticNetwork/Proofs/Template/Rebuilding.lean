/-
**Building a structure again.** The template of a structure is resolved in the order in which it was
written down. So where a variable has no element yet its slot says what the member is, and every other
slot only refers to it; and edges come after the edges they connect. A constant edge cannot be used
between new ends, and this is all that can be in the way of a generation.

* `InOrder`, `inOrder_memberRows`: every row is due when it is resolved;
* `foreseeTriple_rowSlots`, `plan_reconstruct`: **a plan stops at the first constant edge with a
  variable end**;
* `not_contests`: nothing is contested once a plan is accepted;
* `generate_of_not_makeable`, `exists_generate_of_makeable`: **how a generation ends**.
-/
import SemanticNetwork.Proofs.Template.Faithfulness
import SemanticNetwork.Proofs.Template.Foresight

namespace SemanticNetwork.Template

variable {store : Store} {structureNode member : Address} {row : Triple} {rows : List Triple}
  {vars introduced : List Address} {template : Template} {position triple : Nat}

/-! ### Rows in order -/

/-- **A row is due** when some members are introduced: it connects its ends, its edge is new, and the
edges among its ends are introduced. -/
structure IsDue (store : Store) (introduced : List Address) (row : Triple) : Prop where
  connected : store.ends? row.edge = some (row.source, row.target)
  there : ∀ member ∈ row.toList, store.contains member = true
  new : row.edge ∉ row.target :: row.source :: introduced
  source : (store.ends? row.source).isSome = true → row.source ∈ introduced
  target : (store.ends? row.target).isSome = true → row.target ∈ introduced

/-- The ends of a row are resolved before its edge. -/
theorem mem_meetRow_iff_resolved {member : Address} : member ∈ meetRow introduced row ↔
    member ∈ row.edge :: row.target :: row.source :: introduced := by
  rw [mem_meetRow_iff, Triple.toList]
  simp only [List.mem_cons, List.not_mem_nil, or_false]
  grind

/-- Every row is due when the members of the rows before it are introduced. -/
def InOrder (store : Store) : List Address → List Triple → Prop
  | _, [] => True
  | introduced, row :: rest =>
    IsDue store introduced row ∧ InOrder store (meetRow introduced row) rest

/-- The members of rows in order exist. -/
theorem InOrder.there (inOrder : InOrder store introduced rows) :
    ∀ row ∈ rows, ∀ member ∈ row.toList, store.contains member = true := by
  induction rows generalizing introduced with
  | nil => exact nofun
  | cons row rest hypothesis =>
    obtain ⟨due, later⟩ := inOrder
    intro other inRows
    rcases List.mem_cons.1 inRows with rfl | inRest
    · exact due.there
    · exact hypothesis later other inRest

/-- The first of some rows that ascend is due, if what is introduced is older, and the edges among its
ends are introduced or come with the rows. -/
theorem isDue_of_ascending (ascending : (row :: rows).Pairwise Triple.Before)
    (connected : store.ends? row.edge = some (row.source, row.target))
    (there : ∀ member ∈ row.toList, store.contains member = true)
    (younger : row.source < row.edge ∧ row.target < row.edge)
    (later : ∀ member ∈ introduced, member < row.edge)
    (covered : ∀ endpoint, endpoint = row.source ∨ endpoint = row.target →
      (store.ends? endpoint).isSome = true →
        endpoint ∈ introduced ∨ ∃ other ∈ row :: rows, other.edge = endpoint) :
    IsDue store introduced row := by
  have met : ∀ endpoint, endpoint = row.source ∨ endpoint = row.target →
      (store.ends? endpoint).isSome = true → endpoint ∈ introduced := by
    intro endpoint isEnd isEdge
    have older : endpoint < row.edge := by
      rcases isEnd with rfl | rfl
      · exact younger.1
      · exact younger.2
    refine (covered endpoint isEnd isEdge).resolve_right ?_
    rintro ⟨other, inRows, same⟩
    exact edge_ne_of_older ascending older other inRows same
  refine ⟨connected, there, ?_, met row.source (.inl rfl), met row.target (.inr rfl)⟩
  intro already
  have older : row.edge < row.edge := by
    rcases List.mem_cons.1 already with same | already
    · exact same ▸ younger.2
    rcases List.mem_cons.1 already with same | already
    · exact same ▸ younger.1
    · exact later _ already
  exact Key.lt_irrefl _ older

/-- What was introduced up to a row is older than the edges that come later. -/
theorem older_of_mem_meetRow {edge : Address}
    (younger : row.source < row.edge ∧ row.target < row.edge)
    (later : ∀ member ∈ introduced, member < edge) (before : row.edge < edge) :
    ∀ member ∈ meetRow introduced row, member < edge := by
  intro member met
  rcases mem_meetRow_iff.1 met with already | inRow
  · exact later member already
  simp only [Triple.toList, List.mem_cons, List.not_mem_nil, or_false] at inRow
  rcases inRow with rfl | rfl | rfl
  · exact Key.lt_trans younger.1 before
  · exact before
  · exact Key.lt_trans younger.2 before

/-- **Rows that ascend are in order**, if what is introduced is older, and the edges among their ends
are introduced or come with them. -/
theorem inOrder_of_ascending (ascending : rows.Pairwise Triple.Before)
    (connected : ∀ row ∈ rows, store.ends? row.edge = some (row.source, row.target))
    (there : ∀ row ∈ rows, ∀ member ∈ row.toList, store.contains member = true)
    (younger : ∀ row ∈ rows, row.source < row.edge ∧ row.target < row.edge)
    (later : ∀ row ∈ rows, ∀ member ∈ introduced, member < row.edge)
    (covered : ∀ row ∈ rows, ∀ endpoint, endpoint = row.source ∨ endpoint = row.target →
      (store.ends? endpoint).isSome = true →
        endpoint ∈ introduced ∨ ∃ other ∈ rows, other.edge = endpoint) :
    InOrder store introduced rows := by
  induction rows generalizing introduced with
  | nil => trivial
  | cons row rest hypothesis =>
    have inRows : row ∈ row :: rest := List.mem_cons_self
    obtain ⟨first, ascending'⟩ := List.pairwise_cons.1 ascending
    refine ⟨isDue_of_ascending ascending (connected row inRows) (there row inRows)
        (younger row inRows) (later row inRows) (covered row inRows),
      hypothesis ascending' (fun row member => connected row (.tail _ member))
        (fun row member => there row (.tail _ member))
        (fun row member => younger row (.tail _ member)) ?_ ?_⟩
    · intro other inRest
      exact older_of_mem_meetRow (younger row inRows) (later other (.tail _ inRest))
        (first other inRest)
    · intro other inRest endpoint isEnd isEdge
      rcases covered other (.tail _ inRest) endpoint isEnd isEdge with already | ⟨third, listed, same⟩
      · exact .inl (mem_meetRow_iff.2 (.inl already))
      · rcases List.mem_cons.1 listed with rfl | inRest
        · exact .inl (mem_meetRow_iff.2 (.inr (same ▸ by simp [Triple.toList])))
        · exact .inr ⟨third, inRest, same⟩

/-- **The rows of a structure are in order.** -/
theorem inOrder_memberRows (consistent : store.Consistent) (closed : IsClosed store structureNode) :
    InOrder store [] (memberRows store structureNode) := by
  have older := fun row (inRows : row ∈ memberRows store structureNode) =>
    older_of_mem_memberRows consistent inRows
  refine inOrder_of_ascending (memberRows_ascending store structureNode)
    (fun row inRows => ((mem_memberRows_iff consistent).1 inRows).2)
    (fun row inRows => (older row inRows).1) (fun row inRows => (older row inRows).2) nofun ?_
  intro row inRows endpoint isEnd isEdge
  obtain ⟨ends, here⟩ := Option.isSome_iff_exists.1 isEdge
  have hasMember : store.HasMember structureNode endpoint := by
    rcases isEnd with rfl | rfl
    · exact (closed row inRows).1
    · exact (closed row inRows).2
  exact .inr ⟨⟨ends.1, endpoint, ends.2⟩, (mem_memberRows_iff consistent).2 ⟨hasMember, here⟩, rfl⟩

/-! ### Planning -/

/-- What a plan foresees of a member: a variable will be created, everything else exists. -/
def memberProspect (store : Store) (member : Address) : Prospect :=
  if store.IsVariable member then .created else .existing member

/-- What is known of some variables when some members are introduced. -/
def prospectsOf (store : Store) (vars introduced : List Address) : List Prospect :=
  vars.map fun member => if member ∈ introduced then memberProspect store member else .unbound

/-- **A row can be made** if its edge will be, or its ends are there already. -/
def IsMakeable (store : Store) (row : Triple) : Prop :=
  ¬ store.IsVariable row.edge → ¬ store.IsVariable row.source ∧ ¬ store.IsVariable row.target

instance (store : Store) (row : Triple) : Decidable (IsMakeable store row) :=
  inferInstanceAs (Decidable (¬ _ → ¬ _ ∧ ¬ _))

/-- How a plan refers to a member: by its address, if it exists already. -/
def foreseenAddress (store : Store) (member : Address) : Address :=
  if store.IsVariable member then .invalid else member

/-- The refusal of a row whose edge exists, but not its ends. -/
def mismatch (store : Store) (row : Triple) : TemplateError :=
  .endpointMismatch row.edge (foreseenAddress store row.source) (foreseenAddress store row.target)

theorem isAvailable_memberProspect (store : Store) (member : Address) :
    (memberProspect store member).isAvailable = true := by
  unfold memberProspect
  split <;> rfl

theorem address?_memberProspect (store : Store) (member : Address) :
    (memberProspect store member).address? =
      if store.IsVariable member then none else some member := by
  unfold memberProspect
  split <;> rfl

theorem prospectsOf_congr {introduced' : List Address}
    (same : ∀ member, member ∈ introduced ↔ member ∈ introduced') :
    prospectsOf store vars introduced = prospectsOf store vars introduced' := by
  unfold prospectsOf
  simp only [same]

/-- Of a member that is introduced it becomes known what is foreseen of it. -/
theorem prospectsOf_cons (distinct : vars.Nodup) :
    prospectsOf store vars (member :: introduced) =
      (prospectsOf store vars introduced).set (vars.idxOf member) (memberProspect store member) := by
  apply List.ext_getElem
  · simp [prospectsOf]
  · intro var inside inside'
    have declared : var < vars.length := by simpa [prospectsOf] using inside
    simp only [prospectsOf, List.getElem_map, List.getElem_set, List.mem_cons]
    by_cases same : vars.idxOf member = var
    · subst same
      rw [if_pos rfl, List.getElem_idxOf, if_pos (.inl rfl)]
    · have apart : vars[var] ≠ member := by
        intro equal
        apply same
        rw [← equal, distinct.idxOf_getElem]
      simp only [if_neg same, apart, false_or]

/-- **The type of a variable can be created where it is met first**, if it is consistent. -/
theorem isCreatable_of_isVariable {type : ElementType} (consistent : store.Consistent)
    (sound : HasSoundVariables store vars) (inVars : member ∈ vars)
    (kind : position = 1 ↔ (store.ends? member).isSome = true)
    (found : store.type? member = some type) (isVariable : type.isVariable = true) :
    isCreatable position type = true := by
  obtain ⟨element, there, same⟩ := Option.map_eq_some_iff.1 found
  subst same
  have kinds := consistent.kinds there
  have isConsistent : element.type.isConsistent = true :=
    Option.isNone_iff_eq_none.2 (sound member inVars _ found isVariable)
  have isEdge : (store.ends? member).isSome = element.type.isEdge := by
    rw [kinds.edge, Store.ends?, there, Option.bind_some]
    obtain ⟨_, _, _ | _ | _⟩ := element <;> rfl
  rw [isEdge] at kind
  unfold isCreatable
  by_cases atEdge : position = 1
  · rw [if_pos atEdge, ElementType.isEdgeType, kind.1 atEdge, isConsistent]
    rfl
  · rw [if_neg atEdge]
    split
    · exact isConsistent
    · rename_i noLink
      have noEdge : element.type.isEdge = false := by
        rw [← Bool.not_eq_true]
        exact fun isEdge => atEdge (kind.2 isEdge)
      rw [ElementType.isNodeType, isConsistent, noEdge, Bool.eq_false_iff.2 noLink]
      rfl

/-- A member is available once it is introduced. -/
theorem available?_memberSlot (inVars : member ∈ vars) :
    available? (prospectsOf store vars introduced) (memberSlot store vars introduced member) =
      if member ∈ introduced then some (memberProspect store member) else none := by
  have known : (prospectsOf store vars introduced)[vars.idxOf member]? =
      some (if member ∈ introduced then memberProspect store member else .unbound) := by
    rw [prospectsOf, List.getElem?_map, List.getElem?_idxOf inVars]
    rfl
  by_cases already : member ∈ introduced
  · rw [if_pos already] at known ⊢
    exact available?_eq_some_iff.2 ⟨_, rfl, known, isAvailable_memberProspect store member⟩
  · rw [if_neg already] at known ⊢
    rw [Option.eq_none_iff_forall_ne_some]
    intro prospect available
    obtain ⟨var, here, found, isAvailable⟩ := available?_eq_some_iff.1 available
    cases here
    rw [known] at found
    cases found
    cases isAvailable

/-- What the slot of a new member asks for exists, or can be created. -/
theorem slotProspect_memberSlot (template : Template) (triple position : Nat)
    (there : store.contains member = true) (new : member ∉ introduced)
    (creatable : ∀ type, store.type? member = some type → type.isVariable = true →
      isCreatable position type = true) :
    template.slotProspect store triple position (memberSlot store vars introduced member) =
      .ok (memberProspect store member) := by
  unfold slotProspect memberSlot memberProspect
  simp only [if_neg new]
  cases own : ownConstraint store member with
  | fixed address =>
    obtain ⟨same, constant⟩ := ownConstraint_eq_fixed_iff.1 own
    subst same
    simp only [there, if_true, if_neg constant]
  | typed type =>
    obtain ⟨found, isVariable⟩ := ownConstraint_eq_typed_iff.1 own
    have varies : store.IsVariable member := ⟨type, found, isVariable⟩
    simp only [creatable type found isVariable, if_true, if_pos varies]
  | any => exact absurd own ownConstraint_ne_any

/-- **What is foreseen of the slot of a member**: what the member is, and then it is known. -/
theorem foresee_memberSlot (template : Template) (triple position : Nat) (introduced : List Address)
    (distinct : vars.Nodup) (inVars : member ∈ vars) (there : store.contains member = true)
    (creatable : member ∉ introduced → ∀ type, store.type? member = some type →
      type.isVariable = true → isCreatable position type = true) :
    template.foresee store triple position (memberSlot store vars introduced member)
        (prospectsOf store vars introduced) =
      .ok ((memberProspect store member).address?,
        prospectsOf store vars (member :: introduced)) := by
  unfold foresee
  rw [available?_memberSlot inVars]
  by_cases already : member ∈ introduced
  · have same : ∀ other, other ∈ introduced ↔ other ∈ member :: introduced := by
      intro other
      rw [List.mem_cons, or_iff_right_of_imp]
      exact fun equal => equal ▸ already
    rw [if_pos already, prospectsOf_congr same]
  · rw [if_neg already, slotProspect_memberSlot template triple position there already
      (creatable already), prospectsOf_cons distinct]
    rfl

/-- **What is foreseen of an edge between its ends**: if it is there already, so have to be its ends. -/
theorem foreseeEdge_members (connected : store.ends? row.edge = some (row.source, row.target)) :
    foreseeEdge store (memberProspect store row.source).address?
        (memberProspect store row.edge).address? (memberProspect store row.target).address? =
      if IsMakeable store row then .ok () else .error (mismatch store row) := by
  simp only [address?_memberProspect]
  by_cases edgeVaries : store.IsVariable row.edge
  · have makeable : IsMakeable store row := fun constant => absurd edgeVaries constant
    rw [if_pos makeable, if_pos edgeVaries]
    rfl
  rw [if_neg edgeVaries]
  by_cases ready : ¬ store.IsVariable row.source ∧ ¬ store.IsVariable row.target
  · have makeable : IsMakeable store row := fun _ => ready
    rw [if_pos makeable, if_neg ready.1, if_neg ready.2]
    simp [foreseeEdge, connected]
  · have notMakeable : ¬ IsMakeable store row := fun makeable => ready (makeable edgeVaries)
    rw [if_neg notMakeable, mismatch, foreseenAddress, foreseenAddress]
    by_cases sourceVaries : store.IsVariable row.source
    · rw [if_pos sourceVaries, if_pos sourceVaries]
      split <;> rfl
    · have targetVaries : store.IsVariable row.target :=
        Decidable.byContradiction fun constant => ready ⟨sourceVaries, constant⟩
      rw [if_neg sourceVaries, if_neg sourceVaries, if_pos targetVaries, if_pos targetVaries]
      rfl

/-- **What is foreseen of a row that is due**: if it can be made, its members are known afterwards. -/
theorem foreseeTriple_rowSlots (template : Template) (triple : Nat) (consistent : store.Consistent)
    (distinct : vars.Nodup) (sound : HasSoundVariables store vars)
    (inVars : ∀ member ∈ row.toList, member ∈ vars) (due : IsDue store introduced row) :
    template.foreseeTriple store (prospectsOf store vars introduced)
        (rowSlots store vars introduced row, triple) =
      if IsMakeable store row then .ok (prospectsOf store vars (meetRow introduced row))
      else .error (mismatch store row) := by
  simp only [Triple.toList, List.forall_mem_cons] at inVars
  obtain ⟨sourceInVars, edgeInVars, targetInVars, -⟩ := inVars
  have there := due.there
  simp only [Triple.toList, List.forall_mem_cons] at there
  obtain ⟨sourceThere, edgeThere, targetThere, -⟩ := there
  -- Where an end is met first it is no edge, for those were introduced by their own rows.
  have source := foresee_memberSlot template triple 0 introduced distinct sourceInVars sourceThere
    fun new type => isCreatable_of_isVariable consistent sound sourceInVars
      (iff_of_false (by decide) fun isEdge => new (due.source isEdge))
  have target := foresee_memberSlot template triple 2 (row.source :: introduced) distinct
    targetInVars targetThere fun new type => isCreatable_of_isVariable consistent sound targetInVars
      (iff_of_false (by decide) fun isEdge => new (.tail _ (due.target isEdge)))
  have edge := foresee_memberSlot template triple 1 (row.target :: row.source :: introduced) distinct
    edgeInVars edgeThere fun _ type => isCreatable_of_isVariable consistent sound edgeInVars
      (iff_of_true rfl (due.connected ▸ rfl))
  have same : prospectsOf store vars (row.edge :: row.target :: row.source :: introduced) =
      prospectsOf store vars (meetRow introduced row) :=
    prospectsOf_congr fun member => mem_meetRow_iff_resolved.symm
  unfold foreseeTriple rowSlots
  simp only [source, target, edge, bind, Except.bind, foreseeEdge_members due.connected, same]
  by_cases makeable : IsMakeable store row
  · simp only [if_pos makeable]
    rfl
  · simp only [if_neg makeable]

/-- **What is foreseen of all rows**: the first that cannot be made is refused. -/
theorem foldlM_foreseeTriple (template : Template) (consistent : store.Consistent)
    (distinct : vars.Nodup) (sound : HasSoundVariables store vars)
    (inVars : ∀ row ∈ rows, ∀ member ∈ row.toList, member ∈ vars)
    (inOrder : InOrder store introduced rows) (first : Nat) :
    ((slotsOfRows store vars introduced rows).zipIdx first).foldlM (template.foreseeTriple store)
        (prospectsOf store vars introduced) =
      match rows.find? fun row => !decide (IsMakeable store row) with
      | none => .ok (prospectsOf store vars (rows.foldl meetRow introduced))
      | some row => .error (mismatch store row) := by
  induction rows generalizing introduced first with
  | nil => rfl
  | cons row rest hypothesis =>
    obtain ⟨due, later⟩ := inOrder
    have foreseen := foreseeTriple_rowSlots template first consistent distinct sound
      (inVars row List.mem_cons_self) due
    rw [slotsOfRows, List.zipIdx_cons, List.foldlM_cons, foreseen, List.find?_cons]
    by_cases makeable : IsMakeable store row
    · rw [if_pos makeable, decide_eq_true makeable]
      exact hypothesis (fun row inRest => inVars row (.tail _ inRest)) later (first + 1)
    · rw [if_neg makeable, decide_eq_false makeable]
      rfl

theorem mem_occurring_of_mem {row : Triple} (inRows : row ∈ rows) :
    ∀ member ∈ row.toList, member ∈ occurring rows :=
  fun _ inRow => mem_occurring_iff.2 ⟨row, inRows, inRow⟩

/-- **A plan for the template of some rows stops at the first row that cannot be made.** -/
theorem plan_reconstruct (consistent : store.Consistent)
    (sound : HasSoundVariables store (occurring rows)) (inOrder : InOrder store [] rows) :
    (reconstruct store rows).plan store (.unbound (reconstruct store rows).vars.length) =
      match rows.find? fun row => !decide (IsMakeable store row) with
      | none => .ok ()
      | some row => .error (mismatch store row) := by
  have unknown : prospects (.unbound (reconstruct store rows).vars.length) =
      prospectsOf store (occurring rows) [] := by
    apply List.ext_getElem
    · simp [prospects, prospectsOf, Valuation.unbound, reconstruct, mirror]
    · intro var inside inside'
      simp [prospects, prospectsOf, Valuation.unbound]
  have planned := foldlM_foreseeTriple (reconstruct store rows) consistent (nodup_occurring rows)
    sound (fun row => mem_occurring_of_mem) inOrder 0
  unfold plan
  rw [unknown]
  show (slotsOfRows store (occurring rows) [] rows).zipIdx.foldlM _ _ >>= _ = _
  rw [planned]
  split <;> rfl

/-! ### Nothing is contested -/

/-- Some variables are covered: those of the members that are introduced. -/
def Tallies (vars introduced : List Address) (covered : List Nat) : Prop :=
  ∀ member ∈ vars, vars.idxOf member ∈ covered ↔ member ∈ introduced

variable {covered : List Nat}

theorem Tallies.cons (tallies : Tallies vars introduced covered) (member : Address) :
    Tallies vars (member :: introduced) (covered ++ [vars.idxOf member]) := by
  intro other inVars
  rw [List.mem_append, List.mem_singleton, tallies other inVars, List.mem_cons,
    List.idxOf_inj inVars, or_comm]

theorem Tallies.meetRow (tallies : Tallies vars introduced covered) (row : Triple) :
    Tallies vars (Template.meetRow introduced row) (covered ++ [vars.idxOf row.source] ++
      [vars.idxOf row.target] ++ [vars.idxOf row.edge]) := by
  intro other inVars
  rw [((tallies.cons row.source).cons row.target).cons row.edge other inVars,
    mem_meetRow_iff_resolved]

/-- **The slot of a member leads if the member is new.** -/
theorem leads_memberSlot (tallies : Tallies vars introduced covered) (inVars : member ∈ vars)
    (before : List Address) :
    (memberSlot store vars before member).leads covered = true ↔ member ∉ introduced := by
  rw [leads_iff, ← tallies member inVars]
  constructor
  · exact fun free => free _ rfl
  · intro free var here
    cases here
    exact free

/-- A slot that only refers to a member is not disputed. -/
theorem not_disputes_of_introduced {state : Generation} {error : TemplateError}
    (met : member ∈ introduced) :
    ¬ (memberSlot store vars introduced member).Disputes template state error := by
  have refers : (memberSlot store vars introduced member).constraint = .any := if_pos met
  intro disputed
  cases disputed with
  | binding bound asked =>
    rw [refers] at asked
    cases asked
  | type bound asked =>
    rw [refers] at asked
    cases asked

/-- **Nothing is contested while rows in order are made.** -/
theorem not_contests {state : Generation} {error : TemplateError}
    (tallies : Tallies vars introduced covered)
    (inVars : ∀ row ∈ rows, ∀ member ∈ row.toList, member ∈ vars)
    (inOrder : InOrder store introduced rows) :
    ¬ Contests template state error covered (slotsOfRows store vars introduced rows) := by
  induction rows generalizing introduced covered with
  | nil =>
    intro contested
    cases contested
  | cons row rest hypothesis =>
    obtain ⟨due, later⟩ := inOrder
    have parts := inVars row List.mem_cons_self
    simp only [Triple.toList, List.forall_mem_cons] at parts
    obtain ⟨source, edge, target, -⟩ := parts
    intro contested
    rw [slotsOfRows] at contested
    cases contested with
    | source revisited disputed =>
      refine not_disputes_of_introduced (Decidable.byContradiction fun new => ?_) disputed
      exact Bool.false_ne_true (revisited.symm.trans ((leads_memberSlot tallies source _).2 new))
    | target revisited disputed =>
      refine not_disputes_of_introduced (Decidable.byContradiction fun new => ?_) disputed
      exact Bool.false_ne_true (revisited.symm.trans
        ((leads_memberSlot (tallies.cons row.source) target _).2 new))
    | edge revisited disputed =>
      exact Bool.false_ne_true (revisited.symm.trans
        ((leads_memberSlot ((tallies.cons row.source).cons row.target) edge _).2 due.new))
    | later contested =>
      have after : covered ++ (rowSlots store vars introduced row).vars = covered ++
          [vars.idxOf row.source] ++ [vars.idxOf row.target] ++ [vars.idxOf row.edge] := by
        rw [List.append_assoc, List.append_assoc]
        rfl
      rw [after] at contested
      exact hypothesis (tallies.meetRow row) (fun row inRest => inVars row (.tail _ inRest)) later
        contested

/-! ### How a generation ends -/

/-- **What is checked beforehand**: the plan stops at the first row that cannot be made. -/
theorem prepare_reconstruct (consistent : store.Consistent)
    (valid : (reconstruct store rows).validate = .ok ())
    (sound : HasSoundVariables store (occurring rows)) (inOrder : InOrder store [] rows) :
    (reconstruct store rows).prepare store .empty =
      match rows.find? fun row => !decide (IsMakeable store row) with
      | none => .ok (.unbound (reconstruct store rows).vars.length)
      | some row => .error (mismatch store row) := by
  have planned := plan_reconstruct consistent sound inOrder
  unfold prepare
  rw [valid]
  show ((reconstruct store rows).plan store (.unbound (reconstruct store rows).vars.length) >>=
    fun _ => _) = _
  rw [planned]
  split <;> rfl

/-- **A generation is refused at the first row that cannot be made**, by its plan. -/
theorem generate_of_not_makeable (consistent : store.Consistent)
    (valid : (reconstruct store rows).validate = .ok ())
    (sound : HasSoundVariables store (occurring rows)) (inOrder : InOrder store [] rows)
    (first : (rows.find? fun row => !decide (IsMakeable store row)) = some row) :
    (reconstruct store rows).generate store .empty = ⟨.error (mismatch store row), store, []⟩ := by
  have prepared := prepare_reconstruct consistent valid sound inOrder
  rw [first] at prepared
  rw [generate, prepared]

/-- **A generation succeeds if every row can be made.** -/
theorem exists_generate_of_makeable (consistent : store.Consistent)
    (covers : (reconstruct store rows).Covers (reconstruct store rows).slots)
    (valid : (reconstruct store rows).validate = .ok ())
    (sound : HasSoundVariables store (occurring rows)) (inOrder : InOrder store [] rows)
    (makeable : ∀ row ∈ rows, IsMakeable store row) :
    ∃ made, ((reconstruct store rows).generate store .empty).outcome = .ok made := by
  have none : (rows.find? fun row => !decide (IsMakeable store row)) = none := by
    apply List.find?_eq_none.2
    intro row inRows
    simpa using makeable row inRows
  have prepared := prepare_reconstruct consistent valid sound inOrder
  rw [none] at prepared
  have tallies : Tallies (occurring rows) [] [] := fun _ _ => iff_of_false nofun nofun
  rcases proceeds_generateTriples consistent covers prepared with
    ⟨triples, state, ran, -⟩ | ⟨error, state, -, contested⟩
  · refine ⟨.ofValuation (reconstruct store rows) state.valuation triples, ?_⟩
    rw [generate, prepared]
    dsimp only
    rw [generateFrom, ran]
  · exact absurd contested (not_contests tallies (fun row => mem_occurring_of_mem) inOrder)

end SemanticNetwork.Template
