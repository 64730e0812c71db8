/-
**What is generated satisfies its template.** A generation makes elements of the types that are
written in the template, and a search looks for elements that carry these types. A generation goes
through the triples in order, and a search goes through them as they are anchored. But what is placed
in the slots by a generation that succeeds is a match that satisfies the template, and those are what
a search finds.

* `gives_reconciled_iff`: parameters that disagree, as a search and a generation read them;
* `exists_found`: **what a search finds**, whatever its parameters are;
* `exists_match_of_generate`: **a generation that succeeds makes a satisfying match**;
* `exists_found_of_generate`: so a search finds what was generated, and finds it once.
-/
import SemanticNetwork.Proofs.Template.Parameters

namespace SemanticNetwork.Template

variable {store : Store} {template : Template} {parameters : Assignment} {start : Valuation}
  {slot : Slot} {address : Address} {var : Nat}

/-! ### Parameters as they are read -/

/-- **Parameters are read as if they all said what the last one says.** -/
theorem gives_reconciled_iff : template.Gives (template.reconciled parameters).entries var address ↔
    template.lastGiven? parameters.entries var = some address := by
  constructor
  · rintro ⟨name, member, here⟩
    obtain ⟨⟨name, given⟩, inEntries, same⟩ := List.mem_map.1 member
    obtain ⟨rfl, rfl⟩ := Prod.mk.inj same
    obtain ⟨last, found⟩ := exists_lastGiven? ⟨_, inEntries, here⟩
    simp only [here, Option.bind_some, found, Option.getD_some]
  · intro last
    obtain ⟨name, member, here⟩ := gives_of_lastGiven? last
    refine ⟨name, List.mem_map.2 ⟨(name, address), member, ?_⟩, here⟩
    simp only [here, Option.bind_some, last, Option.getD_some]

theorem get?_iff_gives_reconciled {slots : List Slot} (covers : template.Covers slots)
    (bound : template.bindParameters store parameters = .ok start) (var : Nat) (address : Address) :
    start.get? var = some address ↔
      template.Gives (template.reconciled parameters).entries var address := by
  rw [gives_reconciled_iff, (get?_of_bindParameters covers bound).2]

/-- A match satisfies a template with any parameters that say nothing else. -/
theorem Match.Satisfies.withParameters {found : Match} {others : Assignment}
    (satisfies : found.Satisfies store template parameters)
    (respected : ∀ var address, template.Gives others.entries var address →
      found.values[var]? = some address) : found.Satisfies store template others :=
  { satisfies with parameters := respected }

/-! ### What a search finds -/

/-- **What a search finds**: the matches that satisfy the template with the parameters as they are
read, each once. -/
theorem exists_found (consistent : store.Consistent) (covers : template.Covers template.slots)
    (valid : template.validate = .ok ())
    (bound : template.bindParameters store parameters = .ok start) :
    ∃ found : List Match,
      template.search store parameters = .ok (found.map (Match.toInstance template)) ∧
        (found.map (Match.toInstance template)).Nodup ∧
        ∀ candidate, candidate ∈ found ↔
          candidate.Satisfies store template (template.reconciled parameters) := by
  have all : (List.range template.size ++ []).Perm (List.range template.size) := by
    rw [List.append_nil]
  obtain ⟨order, perm, handled⟩ := exists_order store all [template.unmatched start]
  obtain ⟨found, instances, distinct, mem_iff⟩ :=
    exists_matches_inOrder consistent (makesSense_of_validate valid) covers
      (bound_of_bindParameters covers bound).1 (get?_iff_gives_reconciled covers bound) perm
  refine ⟨found, ?_, distinct, mem_iff⟩
  show template.searchIn store none parameters = _
  unfold searchIn
  rw [valid, bound, ← instances, ← handled, List.length_range]
  rfl

/-- A search that is not refused was prepared. -/
theorem search_ok {found : List Instance} (searched : template.search store parameters = .ok found) :
    template.validate = .ok () ∧
      ∃ start, template.bindParameters store parameters = .ok start := by
  simp only [search, searchIn, bind_eq_ok_iff] at searched
  obtain ⟨_, valid, start, bound, -⟩ := searched
  exact ⟨valid, start, bound⟩

/-- **What a search finds is a match** that satisfies the template. -/
theorem exists_match_of_search {found : List Instance} {made : Instance}
    (consistent : store.Consistent) (covers : template.Covers template.slots)
    (searched : template.search store parameters = .ok found) (member : made ∈ found) :
    ∃ whole : Match, made = whole.toInstance template ∧
      whole.Satisfies store template (template.reconciled parameters) := by
  obtain ⟨valid, start, bound⟩ := search_ok searched
  obtain ⟨wholes, searched', -, mem_iff⟩ := exists_found consistent covers valid bound
  rw [searched] at searched'
  cases searched'
  obtain ⟨whole, inWholes, rfl⟩ := List.mem_map.1 member
  exact ⟨whole, rfl, (mem_iff whole).1 inWholes⟩

/-! ### What a generation makes -/

/-- What stands in the slots is what is placed there. -/
theorem stands_iff_placed {found : Match} : template.Stands found.rowAt slot address ↔
    ∃ placement ∈ template.placements found.rows,
      placement.slot = slot ∧ placement.address = address := by
  have placed : ∀ {slots : SlotTriple} {row : Triple}, (slot, address) ∈ slots.place row ↔
      ∃ placement ∈ slots.placements row, placement.slot = slot ∧ placement.address = address := by
    intro slots row
    simp only [SlotTriple.mem_place_iff, SlotTriple.placements, List.mem_cons, List.not_mem_nil,
      or_false, exists_eq_or_imp, exists_eq_left]
    grind
  simp only [Stands, Match.rowAt, placed, mem_placements_iff]
  constructor
  · rintro ⟨position, slots, row, slotsAt, rowAt, placement, member, here⟩
    exact ⟨placement, ⟨position, slots, row, slotsAt, rowAt, member⟩, here⟩
  · rintro ⟨placement, ⟨position, slots, row, slotsAt, rowAt, member⟩, here⟩
    exact ⟨position, slots, row, slotsAt, rowAt, placement, member, here⟩

/-- What a match has for a variable is placed somewhere. -/
theorem Match.Satisfies.exists_placement_of_value {found : Match}
    (satisfies : found.Satisfies store template parameters) (sense : template.MakesSense)
    (covers : template.Covers template.slots) (value : found.values[var]? = some address) :
    ∃ placement ∈ template.placements found.rows,
      placement.slot.var = some var ∧ placement.address = address := by
  have declared : var < template.vars.length := by
    rw [← satisfies.valued]
    exact (List.getElem?_eq_some_iff.1 value).1
  obtain ⟨placement, placed, here⟩ :=
    exists_placement_of_declared sense covers satisfies.triples declared
  have stands := stands_iff_placed.2 ⟨placement, placed, rfl, rfl⟩
  have same := (satisfies.shared _ _ var stands here).symm.trans value
  exact ⟨placement, placed, here, Option.some.inj same⟩

/-- After a generation every variable has an element, so it has made a match. -/
theorem exists_match_of_progress {initial : Valuation} {known : List Nat} {state : Generation}
    {rows : List Triple} (sense : template.MakesSense) (covers : template.Covers template.slots)
    (sized : initial.values.length = template.vars.length) (complete : rows.length = template.size)
    (progress : Progress store initial known (template.placements rows) state) :
    ∃ values, state.valuation = (Match.mk values rows).toPartial.valuation ∧
      values.length = template.vars.length := by
  have length : state.valuation.values.length = template.vars.length :=
    progress.joins.length.trans sized
  have present : ∀ var, var < state.valuation.values.length →
      ∃ address, state.valuation.get? var = some address := fun _ inside =>
    progress.exists_value sense covers complete (length ▸ inside)
  obtain ⟨values, same⟩ := exists_eq_map_some present
  refine ⟨values, Valuation.ext same, ?_⟩
  rw [← length, same, List.length_map]

/-- **A generation that succeeds makes a satisfying match.** -/
theorem exists_match_of_generate {made : Instance} (consistent : store.Consistent)
    (covers : template.Covers template.slots)
    (generated : (template.generate store parameters).outcome = .ok made) :
    ∃ whole : Match, made = whole.toInstance template ∧
      whole.Satisfies (template.generate store parameters).store template
        (template.reconciled parameters) := by
  obtain ⟨initial, state, valid, bound, -, ran, instanceOf, after, -⟩ := generate_ok generated
  have sense := makesSense_of_validate valid
  have sized := (bound_of_bindParameters covers bound).1
  obtain ⟨complete, progress⟩ := progress_generateTriples covers consistent sized
    (mem_givenVars_iff_bound covers bound) ran
  obtain ⟨values, valuation, valued⟩ :=
    exists_match_of_progress sense covers sized complete progress
  have value : ∀ {var address}, state.valuation.get? var = some address →
      values[var]? = some address := by
    intro var address found
    rwa [valuation, get?_toPartial] at found
  refine ⟨⟨values, made.triples⟩, ?_, ?_⟩
  · rw [instanceOf, valuation]
    rfl
  rw [after]
  exact {
    valued := valued
    triples := complete
    edges := fun row member => by
      obtain ⟨placement, placed, same, ends⟩ := exists_edge_placement complete member
      rw [← same]
      exact progress.connected placement placed _ ends
    admitted := fun slot address stands => by
      obtain ⟨placement, placed, rfl, rfl⟩ := stands_iff_placed.1 stands
      exact progress.admitted placement placed
    shared := fun slot address var stands here => by
      obtain ⟨placement, placed, rfl, rfl⟩ := stands_iff_placed.1 stands
      exact value (progress.get?_of_mem placed here)
    parameters := fun var address gives => by
      have bound := (get?_iff_gives_reconciled covers bound var address).2 gives
      exact value ((progress.joins.graph var address).2 (.inl bound)) }

/-- **A search finds what was generated, and finds it once.** -/
theorem exists_found_of_generate {made : Instance} (consistent : store.Consistent)
    (covers : template.Covers template.slots)
    (generated : (template.generate store parameters).outcome = .ok made) :
    ∃ found, template.search (template.generate store parameters).store .empty = .ok found ∧
      found.count made = 1 := by
  obtain ⟨whole, rfl, satisfies⟩ := exists_match_of_generate consistent covers generated
  obtain ⟨_, _, valid, -⟩ := generate_ok generated
  have consistent' := consistent_generate consistent template parameters
  have bound : template.bindParameters (template.generate store parameters).store .empty =
      .ok (.unbound template.vars.length) := rfl
  obtain ⟨found, searched, distinct, mem_iff⟩ := exists_found consistent' covers valid bound
  have isFound : whole ∈ found := by
    refine (mem_iff whole).2 (satisfies.withParameters ?_)
    rintro var address ⟨name, member, -⟩
    cases member
  exact ⟨_, searched, distinct.count.trans (if_pos (List.mem_map_of_mem isFound))⟩

end SemanticNetwork.Template
