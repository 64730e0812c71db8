/-
**Work with a template stays within its tables.** Parameters are bound, a generation is planned and
run, and a search is made with tables that have an entry for every variable, and all of them are read
and written at the variables of slots and of names. No step changes how long such a table is. So it is
enough that slots and names have declared variables, whatever items a template was built from. And
since every variable stands in a slot, nothing is left without an element when every triple is done.

* `PlanPasses`, `GenerationPasses`, `SearchPasses`: what work with a template passes through;
* `UsesTable`, `length_of_usesTable`: **every table that is used has an entry for every variable**;
* `PartialMatch.Fills`, kept by `fills_extend`: rows of a search give elements to variables;
* `isWellInterned_ofClauses`: **a template that is built is well interned**: nothing is looked up
  outside a table, and what validation accepts leaves no name without an element.
-/
import SemanticNetwork.Proofs.Template.Materialization
import SemanticNetwork.Proofs.Template.Parameters
import SemanticNetwork.Proofs.Template.Variables
import SemanticNetwork.Proofs.Template.Within

namespace SemanticNetwork

theorem Valuation.length_bindSlot (valuation : Valuation) (slot : Template.Slot)
    (address : Address) :
    (valuation.bindSlot slot address).values.length = valuation.values.length := by
  unfold Valuation.bindSlot
  cases slot.var with
  | none => rfl
  | some var => exact Valuation.length_bind ..

namespace Template

/-! ### What work passes through -/

/-- What is known at some moment of a plan: after some triples, or within one, after some slots. -/
inductive PlanPasses (store : Store) (template : Template) (start : Valuation) :
    List Prospect → Prop where
  | between {count known} (ran : (template.triples.zipIdx.take count).foldlM
      (template.foreseeTriple store) (prospects start) = .ok known) :
      PlanPasses store template start known
  | within {triple position slot known found later} (before : PlanPasses store template start known)
      (ran : template.foresee store triple position slot known = .ok (found, later)) :
      PlanPasses store template start later

/-- The state at some moment of a generation: after some triples, or within one, when an end is made
or resolved, or an edge is made. -/
inductive GenerationPasses (store : Store) (template : Template) (start : Valuation) :
    Generation → Prop where
  | between {count rows state} (ran : ((template.triples.zipIdx.take count).mapM
      template.generateTriple).run ⟨store, start, [], []⟩ = .ok rows state) :
      GenerationPasses store template start state
  | made {triple position slot address state after}
      (before : GenerationPasses store template start state)
      (ran : (template.makeEnd triple position slot).run state = .ok address after) :
      GenerationPasses store template start after
  | resolved {triple position slot address state after}
      (before : GenerationPasses store template start state)
      (ran : (template.resolveEnd triple position slot).run state = .ok address after) :
      GenerationPasses store template start after
  | connected {type source target edge state after}
      (before : GenerationPasses store template start state)
      (ran : (makeEdge type source target).run state = .ok edge after) :
      GenerationPasses store template start after

/-- What the variables have at some moment of a search: in a partial match after some triples, or
while a row is fitted, after some slots. -/
inductive SearchPasses (store : Store) (scope : Scope) (template : Template) (start : Valuation) :
    Valuation → Prop where
  | between {count found} (member : found ∈
      template.matchTriples store scope count [] [template.unmatched start]) :
      SearchPasses store scope template start found.valuation
  | within {placed valuation after} (before : SearchPasses store scope template start valuation)
      (fitted : fit? store valuation placed = some after) :
      SearchPasses store scope template start after

/-- **A table of some length is used in work with a template**: while parameters are bound, while a
generation is planned or runs, or in a search. -/
inductive UsesTable (store : Store) (scope : Scope) (template : Template)
    (parameters : Assignment) : Nat → Prop where
  | binding {count valuation} (bound : (parameters.entries.take count).foldlM
      (bindParameter store template) (.unbound template.vars.length) = .ok valuation) :
      UsesTable store scope template parameters valuation.values.length
  | planning {start known} (bound : template.bindParameters store parameters = .ok start)
      (passed : PlanPasses store template start known) :
      UsesTable store scope template parameters known.length
  | generating {start state} (bound : template.bindParameters store parameters = .ok start)
      (passed : GenerationPasses store template start state) :
      UsesTable store scope template parameters state.valuation.values.length
  | searching {start valuation} (bound : template.bindParameters store parameters = .ok start)
      (passed : SearchPasses store scope template start valuation) :
      UsesTable store scope template parameters valuation.values.length

/-- A table is looked up at a variable: that of a slot or of a name. -/
def LooksUp (template : Template) (var : Nat) : Prop :=
  (∃ slot ∈ template.slots, slot.var = some var) ∨ template.IsNamed var

variable {store : Store} {scope : Scope} {template : Template} {parameters : Assignment}
  {start valuation : Valuation} {known later : List Prospect} {state : Generation} {count : Nat}

/-! ### How long tables are -/

theorem length_foresee {triple position : Nat} {slot : Slot} {found : Option Address}
    (ran : template.foresee store triple position slot known = .ok (found, later)) :
    later.length = known.length := by
  unfold foresee at ran
  split at ran
  · cases ran
    rfl
  · obtain ⟨prospect, -, same⟩ := bind_eq_ok_iff.1 ran
    cases same
    cases slot.var with
    | none => rfl
    | some var => exact List.length_set

theorem length_foldlM_foreseeTriple {indexed : List (SlotTriple × Nat)}
    (ran : indexed.foldlM (template.foreseeTriple store) known = .ok later) :
    later.length = known.length := by
  induction indexed generalizing known with
  | nil =>
    cases ran
    rfl
  | cons head rest hypothesis =>
    rw [List.foldlM_cons, bind_eq_ok_iff] at ran
    obtain ⟨middle, first, ran⟩ := ran
    simp only [foreseeTriple, bind_eq_ok_iff, Prod.exists] at first
    obtain ⟨_, withSource, source, _, withTarget, target, _, _, edge, _, -, same⟩ := first
    cases same
    calc later.length = middle.length := hypothesis ran
      _ = withTarget.length := length_foresee edge
      _ = withSource.length := length_foresee target
      _ = known.length := length_foresee source

/-- **A plan never changes how many variables it knows of.** -/
theorem length_of_planPasses (passed : PlanPasses store template start known) :
    known.length = start.values.length := by
  induction passed with
  | between ran => exact (length_foldlM_foreseeTriple ran).trans (List.length_map _)
  | within _ ran hypothesis => exact (length_foresee ran).trans hypothesis

/-- **To have so many variables is a property that every step of a generation keeps.** -/
theorem stepwise_length (count : Nat) :
    Stepwise fun state => state.valuation.values.length = count := by
  have create : ∀ action : Store.Action Address,
      Keeps (fun state : Generation => state.valuation.values.length = count)
        (makeElement action) := by
    intro action
    refine Keeps.bind ⟨fun sized ran => ?_, fun sized ran => ?_⟩ fun _ =>
      Keeps.bind (Keeps.modify ?_) fun _ => .pure _
    · obtain ⟨_, -, rfl⟩ := run_withStore_ok_iff.1 ran
      exact sized
    · obtain ⟨_, _, -, -, rfl⟩ := run_withStore_error_iff.1 ran
      exact sized
    · exact fun _ sized => sized
  refine ⟨fun type => create _, fun type => create _, fun type source target => ?_,
    fun slot address => ?_⟩
  · refine (create _).bind fun _ => Keeps.bind (Keeps.modify ?_) fun _ => .pure _
    exact fun _ sized => sized
  · refine Keeps.modify ?_
    exact fun _ sized => (Valuation.length_bindSlot _ slot address).trans sized

theorem length_of_generationPasses (passed : GenerationPasses store template start state) :
    state.valuation.values.length = start.values.length := by
  have stepwise := stepwise_length start.values.length
  induction passed with
  | between ran => exact (Keeps.mapM (keeps_generateTriple stepwise template) _).ok rfl ran
  | made _ ran hypothesis => exact (keeps_makeEnd stepwise template _ _ _).ok hypothesis ran
  | resolved _ ran hypothesis => exact (keeps_resolveEnd stepwise template _ _ _).ok hypothesis ran
  | connected _ ran hypothesis => exact (stepwise.makeEdge _ _ _).ok hypothesis ran

theorem length_fit? {placed : Slot × Address} {after : Valuation}
    (fitted : fit? store valuation placed = some after) :
    after.values.length = valuation.values.length := by
  obtain ⟨slot, address⟩ := placed
  simp only [fit?] at fitted
  split at fitted
  · split at fitted
    · cases fitted
      exact Valuation.length_bindSlot ..
    · split at fitted
      · cases fitted
        rfl
      · cases fitted
  · cases fitted

/-! ### What a search fills in -/

/-- **The rows of a partial match give elements to variables**: to those of the slots in which they
stand. -/
structure PartialMatch.Fills (template : Template) (found : PartialMatch) : Prop where
  sized : found.valuation.values.length = template.vars.length
  rows : found.rows.length = template.size
  filled : ∀ {slot address var}, template.Stands found.rowAt slot address →
    slot.var = some var → ∃ other, found.valuation.get? var = some other

theorem fills_unmatched (sized : start.values.length = template.vars.length) :
    (template.unmatched start).Fills template where
  sized := sized
  rows := List.length_replicate
  filled := by
    rintro slot address var ⟨position, slots, row, -, here, -⟩ -
    rw [rowAt_unmatched] at here
    cases here

theorem of_mem_extend {found next : PartialMatch} {position : Nat} {slots : SlotTriple}
    (slotsAt : template.triples[position]? = some slots)
    (member : next ∈ template.extend store scope position found) :
    ∃ row valuation, (slots.place row).foldlM (fit? store) found.valuation = some valuation ∧
      next = ⟨valuation, found.rows.set position (some row)⟩ := by
  simp only [extend, slotsAt] at member
  split at member
  · cases member
  · obtain ⟨row, -, made⟩ := List.mem_filterMap.1 member
    obtain ⟨valuation, fitted, rfl⟩ := Option.map_eq_some_iff.1 made
    exact ⟨row, valuation, fitted, rfl⟩

/-- **One row more fills in the variables of its triple.** -/
theorem fills_extend {found next : PartialMatch} {position : Nat}
    (covers : template.Covers template.slots) (fills : found.Fills template)
    (member : next ∈ template.extend store scope position found) : next.Fills template := by
  cases slotsAt : template.triples[position]? with
  | none => simp [extend, slotsAt] at member
  | some slots =>
    obtain ⟨row, valuation, fitted, rfl⟩ := of_mem_extend slotsAt member
    have bounded : ∀ slot address, (slot, address) ∈ slots.place row → ∀ var,
        slot.var = some var → var < found.valuation.values.length := by
      intro slot address inRow var here
      rw [fills.sized]
      exact covers.declared slot (mem_slots_of_mem slotsAt inRow) var here
    obtain ⟨-, joins⟩ := (foldlM_fit?_eq_some_iff bounded).1 fitted
    have bound : position < found.rows.length := by
      rw [fills.rows]
      exact (List.getElem?_eq_some_iff.1 slotsAt).1
    refine ⟨joins.length.trans fills.sized, List.length_set.trans fills.rows, ?_⟩
    rintro slot address var ⟨other, slots', row', slotsAt', at', inRow⟩ here
    rw [rowAt_set found valuation bound] at at'
    split at at'
    · rename_i same
      subst same
      cases at'
      cases slotsAt.symm.trans slotsAt'
      exact ⟨address, joins.get?_of_stands here inRow⟩
    · obtain ⟨place, given⟩ := fills.filled ⟨other, slots', row', slotsAt', at', inRow⟩ here
      exact ⟨place, (joins.graph var place).2 (.inl given)⟩

theorem fills_matchTriples {handled : List Nat} {candidates : List PartialMatch}
    (covers : template.Covers template.slots) (fills : ∀ found ∈ candidates, found.Fills template) :
    ∀ found ∈ template.matchTriples store scope count handled candidates, found.Fills template := by
  induction count generalizing handled candidates with
  | zero => exact fills
  | succ count hypothesis =>
    unfold matchTriples
    split
    · exact fills
    · refine hypothesis fun next member => ?_
      obtain ⟨found, before, extended⟩ := List.mem_flatMap.1 member
      exact fills_extend covers (fills found before) extended

theorem length_of_searchPasses (covers : template.Covers template.slots)
    (sized : start.values.length = template.vars.length)
    (passed : SearchPasses store scope template start valuation) :
    valuation.values.length = template.vars.length := by
  induction passed with
  | between member =>
    exact (fills_matchTriples covers (List.forall_mem_singleton.2 (fills_unmatched sized)) _
      member).sized
  | within _ fitted hypothesis => exact (length_fit? fitted).trans hypothesis

/-- **Every table that is used in work with a template has an entry for every variable.** -/
theorem length_of_usesTable {size : Nat} (covers : template.Covers template.slots)
    (used : UsesTable store scope template parameters size) : size = template.vars.length := by
  cases used with
  | binding bound => exact (bound_of_foldlM covers List.length_replicate bound).1
  | planning bound passed =>
    exact (length_of_planPasses passed).trans (bound_of_bindParameters covers bound).1
  | generating bound passed =>
    exact (length_of_generationPasses passed).trans (bound_of_bindParameters covers bound).1
  | searching bound passed =>
    exact length_of_searchPasses covers (bound_of_bindParameters covers bound).1 passed

/-! ### What is found for the names -/

/-- **A complete match has an element for every variable**, if each stands in a slot. -/
theorem PartialMatch.Fills.exists_get? {found : PartialMatch} {rows : List Triple} {var : Nat}
    (fills : found.Fills template) (complete : found.rows = rows.map some)
    (stands : ∃ slot ∈ template.slots, slot.var = some var) :
    ∃ address, found.valuation.get? var = some address := by
  obtain ⟨slot, member, here⟩ := stands
  have every : ∀ position, position < template.size → ∃ row, found.rowAt position = some row := by
    intro position bound
    rw [← fills.rows, complete, List.length_map] at bound
    refine ⟨rows[position], ?_⟩
    rw [PartialMatch.rowAt, complete, List.getElem?_map, List.getElem?_eq_getElem bound]
    rfl
  obtain ⟨address, holds⟩ := exists_stands every member
  exact fills.filled holds here

/-- **Whatever is found has an element for every name**, in a scope or without. -/
theorem exists_get?_of_searchIn {found : List Instance} {made : Instance} {name : String} {var : Nat}
    (covers : template.Covers template.slots) (marks : template.Marks template.slots)
    (searched : template.searchIn store scope parameters = .ok found) (member : made ∈ found)
    (here : template.varNamed? name = some var) : ∃ address, made.get? name = some address := by
  simp only [searchIn, bind_eq_ok_iff] at searched
  obtain ⟨_, -, start, bound, returned⟩ := searched
  cases returned
  obtain ⟨whole, matched, instanceOf⟩ := List.mem_filterMap.1 member
  obtain ⟨rows, complete, rfl⟩ := Option.map_eq_some_iff.1 instanceOf
  have unmatchedFills := fills_unmatched (bound_of_bindParameters covers bound).1
  have fills := fills_matchTriples covers (List.forall_mem_singleton.2 unmatchedFills) _ matched
  obtain ⟨address, given⟩ := fills.exists_get? (eq_map_some_of_mapM complete)
    (marks.stands (lt_of_varNamed? covers here))
  exact ⟨address, get?_ofValuation_of_bound rows here given⟩

/-! ### Templates that are built -/

/-- **The template of some clauses is well interned**: the variables of slots and names are declared,
and no table is looked up where it has no entry; every variable stands in a slot, and is introduced
exactly if a slot in which it stands says what its element is; a name keeps its variable, whatever is
appended later. If the template passes validation, the variable of every name that was mentioned
stands in a slot that says what its element is. So the name has an element after every generation that
succeeds, in a consistent store as every reachable one is, and in all that a search finds, be it
inside a structure or not. -/
structure IsWellInterned (clauses : List Clause) : Prop where
  declared : ∀ slot ∈ (ofClauses clauses).slots, ∀ var, slot.var = some var →
    var < (ofClauses clauses).vars.length
  named : ∀ name var, (name, var) ∈ (ofClauses clauses).names →
    var < (ofClauses clauses).vars.length
  inBounds : ∀ {store scope parameters size var},
    UsesTable store scope (ofClauses clauses) parameters size →
      (ofClauses clauses).LooksUp var → var < size
  stands : ∀ {var}, var < (ofClauses clauses).vars.length →
    ∃ slot ∈ (ofClauses clauses).slots, slot.var = some var
  introduced_iff : ∀ {var}, (ofClauses clauses).IsIntroduced var ↔
    ∃ slot ∈ (ofClauses clauses).slots, slot.var = some var ∧ slot.constraint ≠ .any
  keeps : ∀ more {name var}, (ofClauses clauses).varNamed? name = some var →
    (ofClauses (clauses ++ more)).varNamed? name = some var
  mentioned_iff : ∀ {name}, (ofClauses clauses).hasName name = true ↔
    ∃ clause ∈ clauses, clause.Mentions name
  constrained : (ofClauses clauses).validate = .ok () →
    ∀ {clause name}, clause ∈ clauses → clause.Mentions name →
      ∃ var, (ofClauses clauses).varNamed? name = some var ∧
        ∃ slot ∈ (ofClauses clauses).slots, slot.var = some var ∧ slot.constraint ≠ .any
  generated : ∀ {store : Store} {parameters made}, store.Consistent →
    ((ofClauses clauses).generate store parameters).outcome = .ok made →
      ∀ {clause name}, clause ∈ clauses → clause.Mentions name →
        ∃ address, made.get? name = some address
  found : ∀ {store scope parameters found},
    (ofClauses clauses).searchIn store scope parameters = .ok found → ∀ made ∈ found,
      ∀ {clause name}, clause ∈ clauses → clause.Mentions name →
        ∃ address, made.get? name = some address

/-- **A template that is built is well interned**, whatever items it was built from. -/
theorem isWellInterned_ofClauses (clauses : List Clause) : IsWellInterned clauses := by
  have covers := covers_ofClauses clauses
  have marks := marks_ofClauses clauses
  have named : ∀ {clause name}, clause ∈ clauses → clause.Mentions name →
      ∃ var, (ofClauses clauses).varNamed? name = some var := by
    intro clause name member mentions
    exact Option.isSome_iff_exists.1 ((hasName_ofClauses_iff clauses name).2 ⟨clause, member, mentions⟩)
  refine {
    declared := covers.declared
    named := covers.named
    inBounds := fun {store scope parameters size var} used looksUp => ?_
    stands := marks.stands
    introduced_iff := marks.introduced_iff
    keeps := fun more _ _ here => (namesMore_ofClauses clauses more).keeps here
    mentioned_iff := hasName_ofClauses_iff clauses _
    constrained := fun valid {clause name} member mentions => ?_
    generated := fun {store parameters made} consistent ran {clause name} member mentions => ?_
    found := fun {store scope parameters found} ran made inFound {clause name} member mentions => ?_ }
  · rw [length_of_usesTable covers used]
    rcases looksUp with ⟨slot, member, here⟩ | ⟨name, here⟩
    · exact covers.declared slot member var here
    · exact lt_of_varNamed? covers here
  · obtain ⟨var, here⟩ := named member mentions
    have inside := lt_of_varNamed? covers here
    have introduced := (makesSense_of_validate valid).introduced _ (List.getElem_mem inside)
    exact ⟨var, here, marks.introduced_iff.1 ⟨_, List.getElem?_eq_getElem inside, introduced⟩⟩
  · obtain ⟨var, here⟩ := named member mentions
    obtain ⟨address, found, -⟩ :=
      (materializes_of_generate consistent covers ran).1.named name var here
    exact ⟨address, found⟩
  · obtain ⟨var, here⟩ := named member mentions
    exact exists_get?_of_searchIn covers marks ran inFound here

/-- An edge without a name that has its target for a relation, which is called by another name there. -/
def targetRelation : List Clause :=
  [.withRelation (.fixed ⟨1⟩) (.typed .membership) ((Item.typed .constantNode).named "target")
    (.typed .constantDirected) ((Item.reference "target").named "relation")]

/-- The edge gets a variable of its own, and both names have an element when the template was generated
or found. -/
theorem isWellInterned_targetRelation : IsWellInterned targetRelation ∧
    (ofClauses targetRelation).vars = [⟨some "target", true⟩, ⟨none, true⟩] ∧
      (∃ found, (ofClauses targetRelation).search relatedNodes .empty = .ok found ∧ found ≠ [] ∧
        ∀ made ∈ found, ∃ address, made.get? "relation" = some address) ∧
      ∃ made, ((ofClauses targetRelation).generate relatedNodes .empty).outcome = .ok made ∧
        ∃ address, made.get? "relation" = some address := by
  have interned := isWellInterned_ofClauses targetRelation
  have reachable : relatedNodes.Reachable := ⟨_, _, _, rfl⟩
  have mentioned : ∃ clause ∈ targetRelation, clause.Mentions "relation" := by decide
  obtain ⟨clause, member, mentions⟩ := mentioned
  have searched : (ofClauses targetRelation).searchIn relatedNodes none .empty =
      .ok [⟨[("target", ⟨2⟩), ("relation", ⟨2⟩)], [⟨⟨1⟩, ⟨3⟩, ⟨2⟩⟩, ⟨⟨2⟩, ⟨5⟩, ⟨3⟩⟩]⟩] := by
    rfl
  have generated : ((ofClauses targetRelation).generate relatedNodes .empty).outcome =
      .ok ⟨[("target", ⟨6⟩), ("relation", ⟨6⟩)], [⟨⟨1⟩, ⟨7⟩, ⟨6⟩⟩, ⟨⟨6⟩, ⟨8⟩, ⟨7⟩⟩]⟩ := by
    rfl
  exact ⟨interned, by rfl,
    ⟨_, searched, List.cons_ne_nil _ _, fun made inFound =>
      interned.found searched made inFound member mentions⟩,
    ⟨_, generated, interned.generated reachable.consistent generated member mentions⟩⟩

end Template

end SemanticNetwork
