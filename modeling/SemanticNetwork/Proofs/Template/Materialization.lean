/-
**What a generation leaves behind.** A generation that succeeds has made what the template says, and
nothing else: there is a row of elements for every triple, every slot has in it what it asks for,
and the store has what it had before and the elements that were made for slots that lead.

* `Template.newElements`: the elements that are made for a template, in the order of their making;
* `Materializes`: what there is afterwards, and where it comes from;
* `materializes_of_generate`: **a generation that succeeds materializes exactly its template.**
-/
import SemanticNetwork.Proofs.Template.Making

namespace SemanticNetwork.Template

/-- The variables that parameters give elements to. -/
def givenVars (template : Template) (parameters : Assignment) : List Nat :=
  parameters.entries.filterMap fun entry => template.varNamed? entry.1

/-- The placements that lead in some rows, when parameters are given. -/
def leaders (template : Template) (parameters : Assignment) (rows : List Triple) :
    List Placement :=
  leading (template.givenVars parameters) (template.placements rows)

/-- The elements that are made for some rows, when parameters are given. -/
def newElements (template : Template) (parameters : Assignment) (rows : List Triple) :
    List Element :=
  (template.leaders parameters rows).filterMap Placement.made?

/-- What there is to tell of the elements that are made. -/
def arrivals (template : Template) (parameters : Assignment) (rows : List Triple) : List Change :=
  (template.newElements parameters rows).flatMap Element.arrival

/-- **An instance materializes a template.** Its rows are edges between their ends. In each slot
stands what its constraint, its variable and the parameters ask for; what stands in a typed slot was
there before, or was made where a slot leads that has the same variable. All names are bound. What
was made is all that is new in the store. -/
structure Materializes (start : Store) (template : Template) (parameters : Assignment)
    (made : Instance) (after : Store) : Prop where
  rows : made.triples.length = template.size
  edges : ∀ row ∈ made.triples, after.ends? row.edge = some (row.source, row.target)
  fixed : ∀ placement ∈ template.placements made.triples, ∀ wanted,
    placement.slot.constraint = .fixed wanted → placement.address = wanted
  typed : ∀ placement ∈ template.placements made.triples, ∀ type,
    placement.slot.constraint = .typed type →
      ∃ actual, after.type? placement.address = some actual ∧
        actual.carries (soughtType type) = true
  origin : ∀ placement ∈ template.placements made.triples, ∀ type,
    placement.slot.constraint = .typed type → start.contains placement.address = true ∨
      ∃ leader ∈ template.leaders parameters made.triples,
        leader.made?.isSome = true ∧ leader.address = placement.address ∧
          (leader = placement ∨
            ∃ var, leader.slot.var = some var ∧ placement.slot.var = some var)
  shared : ∀ first ∈ template.placements made.triples, ∀ second ∈ template.placements made.triples,
    ∀ var, first.slot.var = some var → second.slot.var = some var →
      first.address = second.address
  given : ∀ placement ∈ template.placements made.triples, ∀ var,
    placement.slot.var = some var → var ∈ template.givenVars parameters →
      template.Gives parameters.entries var placement.address
  named : ∀ name var, template.varNamed? name = some var → ∃ address,
    made.get? name = some address ∧ ∀ placement ∈ template.placements made.triples,
      placement.slot.var = some var → placement.address = address
  ascending : ((template.newElements parameters made.triples).map Element.address).Pairwise (· < ·)
  fresh : ∀ element ∈ template.newElements parameters made.triples,
    start.get? element.address = none
  table : ∀ address element, after.get? address = some element ↔
    start.get? address = some element ∨
      element ∈ template.newElements parameters made.triples ∧ element.address = address

variable {start : Store} {template : Template} {parameters : Assignment} {rows : List Triple}
  {placement : Placement}

theorem mem_givenVars_iff {var : Nat} : var ∈ template.givenVars parameters ↔
    ∃ address, template.Gives parameters.entries var address := by
  simp only [givenVars, List.mem_filterMap, Gives]
  constructor
  · rintro ⟨⟨name, address⟩, member, named⟩
    exact ⟨address, name, member, named⟩
  · rintro ⟨address, name, member, named⟩
    exact ⟨(name, address), member, named⟩

/-- The variables that parameters give elements to are those that start with elements. -/
theorem mem_givenVars_iff_bound {initial : Valuation} (covers : template.Covers template.slots)
    (bound : template.bindParameters start parameters = .ok initial) (var : Nat) :
    var ∈ template.givenVars parameters ↔ ∃ address, initial.get? var = some address := by
  obtain ⟨-, still, only⟩ := bound_of_bindParameters covers bound
  rw [mem_givenVars_iff]
  exact ⟨still var, fun ⟨address, found⟩ => ⟨address, (only var address found).1⟩⟩

/-- What stands in a slot stands in the slot of some triple for which there is a row. -/
theorem mem_placements_iff : placement ∈ template.placements rows ↔
    ∃ (position : Nat) (slots : SlotTriple) (row : Triple),
      template.triples[position]? = some slots ∧ rows[position]? = some row ∧
        placement ∈ slots.placements row := by
  rw [placements, List.mem_flatMap]
  constructor
  · rintro ⟨⟨slots, row⟩, member, inRow⟩
    obtain ⟨position, here⟩ := List.mem_iff_getElem?.1 member
    obtain ⟨slotsAt, rowAt⟩ := List.getElem?_zip_eq_some.1 here
    exact ⟨position, slots, row, slotsAt, rowAt, inRow⟩
  · rintro ⟨position, slots, row, slotsAt, rowAt, inRow⟩
    refine ⟨(slots, row), List.mem_iff_getElem?.2 ⟨position, ?_⟩, inRow⟩
    exact List.getElem?_zip_eq_some.2 ⟨slotsAt, rowAt⟩

theorem exists_placement (complete : rows.length = template.size) {slot : Slot}
    (member : slot ∈ template.slots) :
    ∃ placement ∈ template.placements rows, placement.slot = slot := by
  obtain ⟨slots, inTriples, inSlots⟩ := List.mem_flatMap.1 member
  obtain ⟨position, slotsAt⟩ := List.mem_iff_getElem?.1 inTriples
  have bound : position < rows.length := by
    rw [complete]
    exact (List.getElem?_eq_some_iff.1 slotsAt).1
  have placed : ∃ placement ∈ slots.placements rows[position], placement.slot = slot := by
    simp only [SlotTriple.toList, List.mem_cons, List.not_mem_nil, or_false] at inSlots
    rcases inSlots with rfl | rfl | rfl <;> simp [SlotTriple.placements]
  obtain ⟨placement, inRow, here⟩ := placed
  exact ⟨placement, mem_placements_iff.2 ⟨position, slots, rows[position], slotsAt,
    List.getElem?_eq_getElem bound, inRow⟩, here⟩

/-- Something is placed for every variable that is declared. -/
theorem exists_placement_of_declared {var : Nat} (sense : template.MakesSense)
    (covers : template.Covers template.slots) (complete : rows.length = template.size)
    (declared : var < template.vars.length) :
    ∃ placement ∈ template.placements rows, placement.slot.var = some var := by
  obtain ⟨slot, member, here⟩ := sense.exists_slot covers declared
  obtain ⟨placement, placed, rfl⟩ := exists_placement complete member
  exact ⟨placement, placed, here⟩

theorem exists_edge_placement (complete : rows.length = template.size) {row : Triple}
    (member : row ∈ rows) : ∃ placement ∈ template.placements rows,
      placement.address = row.edge ∧ placement.ends? = some (row.source, row.target) := by
  obtain ⟨position, rowAt⟩ := List.mem_iff_getElem?.1 member
  have bound : position < template.triples.length := by
    rw [← size, ← complete]
    exact (List.getElem?_eq_some_iff.1 rowAt).1
  exact ⟨_, mem_placements_iff.2 ⟨position, template.triples[position], row,
    List.getElem?_eq_getElem bound, rowAt,
    List.mem_cons_of_mem _ (List.mem_cons_of_mem _ List.mem_cons_self)⟩, rfl, rfl⟩

theorem isSome_made? {type : ElementType} (typed : placement.slot.constraint = .typed type) :
    placement.made?.isSome = true := by
  unfold Placement.made?
  rw [typed]
  cases placement.ends? with
  | none =>
    simp only
    split <;> rfl
  | some ends => rfl

/-! ### What there is when the placements are done -/

section Done

variable {initial : Valuation} {known : List Nat} {done : List Placement} {state : Generation}

/-- What stands in a slot is what its variable has in the end. -/
theorem Progress.get?_of_mem {var : Nat} (progress : Progress start initial known done state)
    (member : placement ∈ done) (here : placement.slot.var = some var) :
    state.valuation.get? var = some placement.address :=
  progress.joins.get?_of_stands here ⟨placement, member, rfl, rfl⟩

/-- **In the end every variable has an element.** -/
theorem Progress.exists_value {var : Nat}
    (progress : Progress start initial known (template.placements rows) state)
    (sense : template.MakesSense) (covers : template.Covers template.slots)
    (complete : rows.length = template.size) (declared : var < template.vars.length) :
    ∃ address, state.valuation.get? var = some address := by
  obtain ⟨placement, placed, here⟩ := exists_placement_of_declared sense covers complete declared
  exact ⟨placement.address, progress.get?_of_mem placed here⟩

/-- **In slots that share a variable the same stands.** -/
theorem Progress.shared {first second : Placement} {var : Nat}
    (progress : Progress start initial known done state) (member : first ∈ done)
    (member' : second ∈ done) (here : first.slot.var = some var)
    (here' : second.slot.var = some var) : first.address = second.address :=
  Option.some.inj ((progress.get?_of_mem member here).symm.trans (progress.get?_of_mem member' here'))

/-- **In a fixed slot its element stands.** -/
theorem Progress.fixed {wanted : Address} (progress : Progress start initial known done state)
    (member : placement ∈ done) (isFixed : placement.slot.constraint = .fixed wanted) :
    placement.address = wanted := by
  have admits := progress.admitted placement member
  rw [Slot.Admits, isFixed] at admits
  exact admits

/-- What a variable had before anything was generated stands in its slots. -/
theorem Progress.get?_of_known {var : Nat} (progress : Progress start initial known done state)
    (member : placement ∈ done) (here : placement.slot.var = some var) (inKnown : var ∈ known) :
    initial.get? var = some placement.address := by
  obtain ⟨address, found⟩ := (progress.bound var).1 inKnown
  have kept := (progress.joins.graph var address).2 (.inl found)
  have same := kept.symm.trans (progress.get?_of_mem member here)
  rw [found, same]

/-- **What stands in a typed slot was there before, or was made** where a slot leads that has the
same variable. -/
theorem Progress.exists_origin {type : ElementType}
    (progress : Progress start initial known done state)
    (existing : ∀ var address, initial.get? var = some address → start.contains address = true)
    (provided : ∀ leader ∈ leading known done, leader.slot.IsProvided start)
    (member : placement ∈ done) (typed : placement.slot.constraint = .typed type) :
    start.contains placement.address = true ∨ ∃ leader ∈ leading known done,
      leader.made?.isSome = true ∧ leader.address = placement.address ∧
        (leader = placement ∨
          ∃ var, leader.slot.var = some var ∧ placement.slot.var = some var) := by
  rcases exists_leading known member with ⟨var, here, inKnown⟩ | ⟨leader, leads, shares⟩
  · exact .inl (existing var _ (progress.get?_of_known member here inKnown))
  rcases shares with rfl | ⟨var, leaderHere, here⟩
  · exact .inr ⟨leader, leads, isSome_made? typed, rfl, .inl rfl⟩
  have leaderMember := mem_of_mem_leading leads
  have same := progress.shared leaderMember member leaderHere here
  have isProvided := provided leader leads
  cases constraint : leader.slot.constraint with
  | fixed wanted =>
    rw [Slot.IsProvided, constraint] at isProvided
    rw [← same, progress.fixed leaderMember constraint]
    exact .inl isProvided
  | typed type' =>
    exact .inr ⟨leader, leads, isSome_made? constraint, same, .inr ⟨var, leaderHere, here⟩⟩
  | any =>
    rw [Slot.IsProvided, constraint] at isProvided
    exact isProvided.elim

/-- **What is there is what was there and what was made.** -/
theorem Progress.get?_eq_some_iff {address : Address} {element : Element}
    (consistent : start.Consistent) (progress : Progress start initial known done state) :
    state.store.get? address = some element ↔ start.get? address = some element ∨
      element ∈ makes known done ∧ element.address = address := by
  have grows := progress.grows
  constructor
  · intro found
    rcases Nat.lt_or_ge start.allocated address.value with younger | older
    · have member := (grows.created younger).1 (Store.contains_of_get? found)
      rw [progress.created] at member
      obtain ⟨other, made, rfl⟩ := List.mem_map.1 member
      have same := (progress.elements other made).symm.trans found
      cases same
      exact .inr ⟨made, rfl⟩
    · rw [grows.spared older] at found
      exact .inl found
  · rintro (found | ⟨made, rfl⟩)
    · rw [grows.spared (consistent.numbered found).2]
      exact found
    · exact progress.elements element made

theorem Progress.get?_of_made {element : Element} (consistent : start.Consistent)
    (progress : Progress start initial known done state) (made : element ∈ makes known done) :
    start.get? element.address = none := by
  have member : element.address ∈ state.created := by
    rw [progress.created]
    exact List.mem_map_of_mem made
  refine Option.eq_none_iff_forall_ne_some.2 fun old found => ?_
  exact absurd (consistent.numbered found).2 (Nat.not_le.2 (progress.grows.younger _ member))

end Done

/-! ### What a generation that succeeds has done -/

variable {made : Instance}

/-- A generation that succeeds was prepared, and made its triples. -/
theorem generate_ok (generated : (template.generate start parameters).outcome = .ok made) :
    ∃ initial state, template.validate = .ok () ∧
      template.bindParameters start parameters = .ok initial ∧
      template.plan start initial = .ok () ∧
      template.generateTriples.run ⟨start, initial, [], []⟩ = .ok made.triples state ∧
      made = .ofValuation template state.valuation made.triples ∧
      (template.generate start parameters).store = state.store ∧
      (template.generate start parameters).changes = state.changes := by
  unfold generate at generated ⊢
  split at generated
  · rename_i initial prepared
    simp only [prepare, bind_eq_ok_iff] at prepared
    obtain ⟨_, valid, _, bound, _, planned, same⟩ := prepared
    cases same
    unfold generateFrom at generated ⊢
    split at generated
    · rename_i rows state ran
      cases generated
      exact ⟨initial, state, valid, bound, planned, ran, rfl, by simp [*], by simp [*]⟩
    · cases generated
  · cases generated

/-- **All names are bound** if there is a row for every triple, to what stands in their slots. -/
theorem exists_named {state : Generation} {initial : Valuation} {known : List Nat} {name : String}
    {var : Nat} (covers : template.Covers template.slots) (sense : template.MakesSense)
    (complete : rows.length = template.size)
    (progress : Progress start initial known (template.placements rows) state)
    (here : template.varNamed? name = some var) :
    ∃ address, (Instance.ofValuation template state.valuation rows).get? name = some address ∧
      ∀ placement ∈ template.placements rows, placement.slot.var = some var →
        placement.address = address := by
  have bound : ∀ var, var < template.vars.length →
      ∃ address, state.valuation.get? var = some address := fun _ =>
    progress.exists_value sense covers complete
  obtain ⟨address, found⟩ := bound var (lt_of_varNamed? covers here)
  refine ⟨address, ?_, fun placement placed isVar => ?_⟩
  · rw [get?_ofValuation rows name fun name var member => bound var (covers.named name var member),
      here, Option.bind_some, found]
  · exact Option.some.inj ((progress.get?_of_mem placed isVar).symm.trans found)

/-- **A generation that succeeds materializes exactly its template**, and has to tell of the edges
that it made. -/
theorem materializes_of_generate (consistent : start.Consistent)
    (covers : template.Covers template.slots)
    (generated : (template.generate start parameters).outcome = .ok made) :
    template.Materializes start parameters made (template.generate start parameters).store ∧
      (template.generate start parameters).changes =
        template.arrivals parameters made.triples := by
  obtain ⟨initial, state, valid, parametersBound, planned, ran, instanceOf, store, changes⟩ :=
    generate_ok generated
  obtain ⟨sized, still, only⟩ := bound_of_bindParameters covers parametersBound
  have bound := mem_givenVars_iff_bound covers parametersBound
  obtain ⟨complete, progress⟩ := progress_generateTriples covers consistent sized bound ran
  have provided := provided_of_plan covers sized bound planned made.triples
  have existing := fun var address found => (only var address found).2
  rw [store, changes]
  exact ⟨{
    rows := complete
    edges := fun row member => by
      obtain ⟨placement, placed, same, ends⟩ := exists_edge_placement complete member
      rw [← same]
      exact progress.connected placement placed _ ends
    fixed := fun placement member wanted => progress.fixed member
    typed := fun placement member type typed => by
      have admits := progress.admitted placement member
      rwa [Slot.Admits, typed] at admits
    origin := fun placement member type => progress.exists_origin existing provided member
    shared := fun first member second member' var => progress.shared member member'
    given := fun placement member var here inKnown =>
      (only var _ (progress.get?_of_known member here inKnown)).1
    named := fun name var here => by
      rw [instanceOf]
      exact exists_named covers (makesSense_of_validate valid) complete progress here
    ascending := progress.created ▸ progress.grows.ascending
    fresh := fun element => progress.get?_of_made consistent
    table := fun address element => progress.get?_eq_some_iff consistent }, progress.changes⟩

end SemanticNetwork.Template
