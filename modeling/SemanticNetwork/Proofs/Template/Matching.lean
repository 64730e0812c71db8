/-
**Extending partial matches.** A partial match solves the triples handled so far if it has rows for
exactly these, the rows are edges whose slots admit what stands in them, and its valuation joins the
parameters with what stands in the slots. Extending a partial match by one more triple gives exactly
the solutions for that triple too that agree with it, each once.

* `exists_slotPattern`, `admits_of_slotPattern`: what a slot asks the network for;
* `PartialMatch.Solves`, with `Solves.ext`: rows determine a partial match;
* `solves_of_mem_extend`, `mem_extend_of_solves`: **a step of the search is sound and complete**, and
  `extend_nodup`: it gives nothing twice.
-/
import SemanticNetwork.Proofs.ElementType.Kinds
import SemanticNetwork.Proofs.Pattern.Rows
import SemanticNetwork.Proofs.Template.Satisfaction

namespace SemanticNetwork.Template

variable {store : Store} {template : Template} {valuation start : Valuation}

/-! ### What a slot asks for -/

theorem eq_fixed_of_slotPattern {slot : Slot} {pattern : Pattern} {wanted : Address}
    (constraint : slot.constraint = .fixed wanted)
    (asked : slotPattern? valuation slot = some pattern) : pattern = .fixed wanted := by
  cases bound : valuation.ofSlot? slot with
  | none =>
    simp only [slotPattern?, bound, constraint] at asked
    cases asked
    rfl
  | some address =>
    simp only [slotPattern?, bound, constraint] at asked
    split at asked
    · rename_i same
      cases asked
      rw [same]
    · cases asked

/-- What is accepted for a slot, and of a type that suits it, is admitted by it. -/
theorem admits_of_slotPattern {slot : Slot} {pattern : Pattern} {address : Address}
    (asked : slotPattern? valuation slot = some pattern)
    (accepted : pattern.accepts store address = true) (suitable : suits store slot address = true) :
    slot.Admits store address := by
  unfold Slot.Admits
  split
  · rename_i wanted constraint
    rw [eq_fixed_of_slotPattern constraint asked] at accepted
    exact (beq_iff_eq.1 accepted).symm
  · rename_i type constraint
    simp only [suits, constraint] at suitable
    cases found : store.type? address with
    | none =>
      rw [found] at suitable
      cases suitable
    | some actual =>
      rw [found] at suitable
      exact ⟨actual, rfl, suitable⟩
  · trivial

/-- **A slot asks for whatever it admits**, if its variable has no other element. -/
theorem exists_slotPattern {slot : Slot} {address : Address} (consistent : store.Consistent)
    (sense : template.MakesSense) (member : slot ∈ template.slots)
    (admits : slot.Admits store address) (there : store.contains address = true)
    (agrees : ∀ other, valuation.ofSlot? slot = some other → other = address) :
    ∃ pattern, slotPattern? valuation slot = some pattern ∧ pattern.fault? = none ∧
      pattern.accepts store address = true ∧ suits store slot address = true := by
  have suitable : suits store slot address = true := by
    unfold suits
    split
    · rename_i type constraint
      simp only [Slot.Admits, constraint] at admits
      obtain ⟨actual, found, carried⟩ := admits
      rw [found]
      exact carried
    · rfl
  have sound : (Pattern.fixed address).fault? = none := by
    simp [Pattern.fault?, consistent.isValid_of_contains there]
  have itself : (Pattern.fixed address).accepts store address = true := beq_iff_eq.2 rfl
  cases bound : valuation.ofSlot? slot with
  | some other =>
    obtain rfl := agrees other bound
    refine ⟨.fixed other, ?_, sound, itself, suitable⟩
    cases constraint : slot.constraint with
    | fixed wanted =>
      simp only [Slot.Admits, constraint] at admits
      simp only [slotPattern?, bound, constraint, if_pos admits]
    | typed type => simp only [slotPattern?, bound, constraint]
    | any => simp only [slotPattern?, bound, constraint]
  | none =>
    cases constraint : slot.constraint with
    | fixed wanted =>
      simp only [Slot.Admits, constraint] at admits
      subst admits
      exact ⟨.fixed address, by simp only [slotPattern?, bound, constraint], sound, itself, suitable⟩
    | typed type =>
      refine ⟨.typed (soughtType type), by simp only [slotPattern?, bound, constraint], ?_, ?_,
        suitable⟩
      · have clear := sense.consistent slot member type constraint
        simp [Pattern.fault?, soughtType, ElementType.conflict?_without_varying clear]
      · simp only [suits, constraint] at suitable
        exact suitable
    | any =>
      refine ⟨.typed .unknown, by simp only [slotPattern?, bound, constraint], rfl, ?_, suitable⟩
      obtain ⟨element, found⟩ := Store.contains_iff.1 there
      simp [Pattern.accepts, Store.type?, found]

/-! ### Partial matches -/

/-- The row that a partial match has for a triple. -/
def PartialMatch.rowAt (found : PartialMatch) (position : Nat) : Option Triple :=
  (found.rows[position]?).join

/-- **A partial match solves the triples that were handled**: it has rows for exactly these, the rows
are edges with their ends, every slot admits what stands in it, and the valuation joins what it
started with and what stands in the slots. -/
structure PartialMatch.Solves (found : PartialMatch) (store : Store) (template : Template)
    (start : Valuation) (handled : List Nat) : Prop where
  length : found.rows.length = template.size
  handled : ∀ position, (∃ row, found.rowAt position = some row) ↔ position ∈ handled
  edges : ∀ position row, found.rowAt position = some row →
    store.ends? row.edge = some (row.source, row.target)
  admitted : ∀ slot address, template.Stands found.rowAt slot address → slot.Admits store address
  joins : start.Joins (template.Stands found.rowAt) found.valuation

variable {found next : PartialMatch} {handled : List Nat} {position : Nat} {slots : SlotTriple}

/-- There is no row for a triple that was not handled. -/
theorem PartialMatch.Solves.rowAt_eq_none (solves : found.Solves store template start handled)
    (fresh : position ∉ handled) : found.rowAt position = none := by
  refine Option.eq_none_iff_forall_ne_some.2 fun row here => fresh ?_
  exact (solves.handled position).1 ⟨row, here⟩

/-- A triple of the template has its place among the rows. -/
theorem PartialMatch.Solves.lt_length (solves : found.Solves store template start handled)
    (slotsAt : template.triples[position]? = some slots) : position < found.rows.length := by
  rw [solves.length]
  exact (List.getElem?_eq_some_iff.1 slotsAt).1

/-- Rows are the same if they are the same for every triple. -/
theorem rows_eq_of_rowAt (found next : PartialMatch)
    (length : found.rows.length = next.rows.length)
    (same : ∀ position, found.rowAt position = next.rowAt position) : found.rows = next.rows := by
  refine List.ext_getElem length fun position bound bound' => ?_
  simpa [PartialMatch.rowAt, List.getElem?_eq_getElem, bound, bound'] using same position

/-- **The rows determine a partial match.** -/
theorem PartialMatch.Solves.ext {handled' : List Nat}
    (solves : found.Solves store template start handled)
    (solves' : next.Solves store template start handled')
    (same : ∀ position, found.rowAt position = next.rowAt position) : found = next := by
  have rows := rows_eq_of_rowAt _ _ (solves.length.trans solves'.length.symm) same
  have rowAt : found.rowAt = next.rowAt := funext same
  have valuation := (rowAt ▸ solves.joins).unique solves'.joins
  exact PartialMatch.ext valuation rows

theorem rowAt_set (found : PartialMatch) (valuation : Valuation) {position : Nat}
    (bound : position < found.rows.length) (row? : Option Triple) (other : Nat) :
    PartialMatch.rowAt ⟨valuation, found.rows.set position row?⟩ other =
      if other = position then row? else found.rowAt other := by
  unfold PartialMatch.rowAt
  rw [List.getElem?_set]
  by_cases same : position = other
  · subst same
    simp [bound]
  · rw [if_neg same, if_neg fun equal => same equal.symm]

/-- The extensions of a partial match are made from the rows of what its triple asks for. -/
theorem mem_extend (slotsAt : template.triples[position]? = some slots) :
    next ∈ template.extend store none position found ↔
      ∃ pattern row valuation, triplePattern? found.valuation slots = some pattern ∧
        row ∈ pattern.rows store ∧ fitRow? store slots found.valuation row = some valuation ∧
        next = ⟨valuation, found.rows.set position (some row)⟩ := by
  simp only [extend, slotsAt]
  cases asked : triplePattern? found.valuation slots with
  | none => simp
  | some pattern =>
    have everything : (pattern.rows store).filter (inScope none) = pattern.rows store :=
      List.filter_eq_self.2 fun _ _ => rfl
    simp only [everything, List.mem_filterMap, Option.map_eq_some_iff, Option.some.injEq]
    constructor
    · rintro ⟨row, member, valuation, fitted, rfl⟩
      exact ⟨pattern, row, valuation, rfl, member, fitted, rfl⟩
    · rintro ⟨_, row, valuation, rfl, member, fitted, rfl⟩
      exact ⟨row, member, valuation, fitted, rfl⟩

theorem triplePattern?_eq_some_iff {pattern : TriplePattern} :
    triplePattern? valuation slots = some pattern ↔
      slotPattern? valuation slots.source = some pattern.source ∧
        slotPattern? valuation slots.edge = some pattern.edge ∧
        slotPattern? valuation slots.target = some pattern.target := by
  cases pattern
  unfold triplePattern?
  cases slotPattern? valuation slots.source <;> cases slotPattern? valuation slots.edge <;>
    cases slotPattern? valuation slots.target <;> simp

/-! ### A step of the search -/

section Step

variable (consistent : store.Consistent) (sense : template.MakesSense)
  (covers : template.Covers template.slots) (sized : start.values.length = template.vars.length)

include covers sized in
theorem place_bounded (slotsAt : template.triples[position]? = some slots)
    (solves : found.Solves store template start handled) (row : Triple) :
    ∀ slot address, (slot, address) ∈ slots.place row → ∀ var, slot.var = some var →
      var < found.valuation.values.length := by
  intro slot address member var here
  rw [solves.joins.length, sized]
  exact covers.declared slot (mem_slots_of_mem slotsAt member) var here

include consistent covers sized in
/-- **An extension solves one triple more.** -/
theorem solves_of_mem_extend (solves : found.Solves store template start handled)
    (slotsAt : template.triples[position]? = some slots) (fresh : position ∉ handled)
    (member : next ∈ template.extend store none position found) :
    next.Solves store template start (position :: handled) ∧
      ∀ other, other ≠ position → next.rowAt other = found.rowAt other := by
  obtain ⟨pattern, row, valuation, asked, isRow, fitted, rfl⟩ := (mem_extend slotsAt).1 member
  obtain ⟨-, accepts⟩ := (TriplePattern.mem_rows_iff consistent).1 isRow
  obtain ⟨suitable, joins⟩ :=
    (foldlM_fit?_eq_some_iff (place_bounded covers sized slotsAt solves row)).1 fitted
  have bound := solves.lt_length slotsAt
  have here := (rowAt_set found valuation bound (some row) position).trans (if_pos rfl)
  have agree : ∀ other, other ≠ position →
      PartialMatch.rowAt ⟨valuation, found.rows.set position (some row)⟩ other =
        found.rowAt other := by
    intro other apart
    rw [rowAt_set found valuation bound, if_neg apart]
  have stands := stands_of_agree slotsAt (solves.rowAt_eq_none fresh) here agree
  refine ⟨⟨?_, fun other => ?_, fun other row' at' => ?_, fun slot address holds => ?_, ?_⟩, agree⟩
  · rw [List.length_set, solves.length]
  · by_cases same : other = position
    · subst same
      rw [here]
      simp
    · rw [agree other same, solves.handled]
      simp [same]
  · by_cases same : other = position
    · subst same
      cases here.symm.trans at'
      exact accepts.ends
    · exact solves.edges other row' ((agree other same).symm.trans at')
  · rcases (stands slot address).1 holds with before | inRow
    · exact solves.admitted slot address before
    · obtain ⟨askedSource, askedEdge, askedTarget⟩ := triplePattern?_eq_some_iff.1 asked
      have suits := suitable slot address inRow
      rcases SlotTriple.mem_place_iff.1 inRow with ⟨rfl, rfl⟩ | ⟨rfl, rfl⟩ | ⟨rfl, rfl⟩
      · exact admits_of_slotPattern askedSource accepts.source suits
      · exact admits_of_slotPattern askedEdge accepts.edge suits
      · exact admits_of_slotPattern askedTarget accepts.target suits
  · exact (solves.joins.trans joins).congr fun slot address => (stands slot address).symm

include consistent sense covers sized in
/-- **Whatever solves one triple more is an extension.** -/
theorem mem_extend_of_solves (solves : found.Solves store template start handled)
    (slotsAt : template.triples[position]? = some slots) (fresh : position ∉ handled)
    (solvesNext : next.Solves store template start (position :: handled))
    (agree : ∀ other, other ≠ position → next.rowAt other = found.rowAt other) :
    next ∈ template.extend store none position found := by
  obtain ⟨row, here⟩ := (solvesNext.handled position).2 List.mem_cons_self
  have stands := stands_of_agree slotsAt (solves.rowAt_eq_none fresh) here agree
  have joins := (solvesNext.joins.congr stands).rest solves.joins
  have ends := solvesNext.edges position row here
  obtain ⟨edgeThere, sourceThere, targetThere⟩ := consistent.contains_of_ends? ends
  -- What a slot's variable has is what stands in the slot, since the next match joins both.
  have asks : ∀ slot address, (slot, address) ∈ slots.place row →
      store.contains address = true →
      ∃ pattern, slotPattern? found.valuation slot = some pattern ∧ pattern.fault? = none ∧
        pattern.accepts store address = true ∧ suits store slot address = true := by
    intro slot address inRow there
    refine exists_slotPattern consistent sense (mem_slots_of_mem slotsAt inRow)
      (solvesNext.admitted slot address ((stands slot address).2 (.inr inRow))) there ?_
    intro other bound
    obtain ⟨var, hasVar, given⟩ := Option.bind_eq_some_iff.1 bound
    have kept := (joins.graph var other).2 (.inl given)
    exact Option.some.inj (kept.symm.trans (joins.get?_of_stands hasVar inRow))
  obtain ⟨source, askedSource, soundSource, acceptedSource, suitsSource⟩ :=
    asks slots.source row.source (SlotTriple.mem_place_iff.2 (.inl ⟨rfl, rfl⟩)) sourceThere
  obtain ⟨edge, askedEdge, soundEdge, acceptedEdge, suitsEdge⟩ :=
    asks slots.edge row.edge (SlotTriple.mem_place_iff.2 (.inr (.inl ⟨rfl, rfl⟩))) edgeThere
  obtain ⟨target, askedTarget, soundTarget, acceptedTarget, suitsTarget⟩ :=
    asks slots.target row.target (SlotTriple.mem_place_iff.2 (.inr (.inr ⟨rfl, rfl⟩))) targetThere
  refine (mem_extend slotsAt).2 ⟨⟨source, edge, target⟩, row, next.valuation,
    triplePattern?_eq_some_iff.2 ⟨askedSource, askedEdge, askedTarget⟩, ?_, ?_, ?_⟩
  · refine (TriplePattern.mem_rows_iff consistent).2
      ⟨?_, ends, acceptedSource, acceptedEdge, acceptedTarget⟩
    simp [TriplePattern.error?, TriplePattern.toList, firstFault?, soundSource, soundEdge,
      soundTarget]
  · refine (foldlM_fit?_eq_some_iff (place_bounded covers sized slotsAt solves row)).2
      ⟨fun slot address inRow => ?_, joins⟩
    rcases SlotTriple.mem_place_iff.1 inRow with ⟨rfl, rfl⟩ | ⟨rfl, rfl⟩ | ⟨rfl, rfl⟩
    · exact suitsSource
    · exact suitsEdge
    · exact suitsTarget
  · have bound := solves.lt_length slotsAt
    have rows : next.rows = found.rows.set position (some row) := by
      refine rows_eq_of_rowAt next ⟨next.valuation, found.rows.set position (some row)⟩ ?_ ?_
      · rw [List.length_set, solves.length, solvesNext.length]
      · intro other
        rw [rowAt_set found next.valuation bound]
        by_cases same : other = position
        · rw [if_pos same, same, here]
        · rw [if_neg same, agree other same]
    exact PartialMatch.ext rfl rows

include consistent in
/-- **No extension comes twice.** -/
theorem extend_nodup (bound : position < found.rows.length) :
    (template.extend store none position found).Nodup := by
  unfold extend
  split
  · exact .nil
  · split
    · exact .nil
    · rename_i pattern asked
      have rows := (TriplePattern.rows_nodup consistent pattern).sublist
        (List.filter_sublist (p := inScope none))
      -- An extension tells which row it was made from.
      refine List.Pairwise.filterMap _ (fun row row' apart first made second made' => ?_) rows
      obtain ⟨valuation, -, rfl⟩ := Option.map_eq_some_iff.1 made
      obtain ⟨valuation', -, rfl⟩ := Option.map_eq_some_iff.1 made'
      intro same
      have sameRows := congrArg (fun found : PartialMatch => found.rows[position]?) same
      simp only [List.getElem?_set_self bound, Option.some.injEq] at sameRows
      exact apart sameRows

end Step

end SemanticNetwork.Template
