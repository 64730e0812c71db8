/-
**Search against the naive query.** At every point of a search the partial matches are the solutions
of the triples handled so far, each once. This does not depend on the order in which the triples are
handled, and the search only chooses an order. When all triples are handled, the partial matches are
the matches that satisfy the template.

* `Enumerates`, kept by `enumerates_extend`: **the invariant of the search**;
* `matchInOrder`, `exists_order`: the search handles every triple in some order;
* `solves_toPartial_iff`, `exists_match_of_solves`: complete solutions are satisfying matches;
* `search_finds_satisfying`: **a search finds every satisfying match once, and nothing else**, and
  in any other order of the triples it finds the same.
-/
import SemanticNetwork.Proofs.Network.Session
import SemanticNetwork.Proofs.Template.Matching

namespace SemanticNetwork.Template

variable {store : Store} {template : Template} {start : Valuation}

/-- Some partial matches are the solutions of the triples that were handled, each once. -/
structure Enumerates (store : Store) (template : Template) (start : Valuation)
    (found : List PartialMatch) (handled : List Nat) : Prop where
  nodup : found.Nodup
  mem_iff : ∀ partialMatch, partialMatch ∈ found ↔
    partialMatch.Solves store template start handled

/-- The partial match before any triple is handled. -/
def unmatched (template : Template) (start : Valuation) : PartialMatch :=
  ⟨start, List.replicate template.size none⟩

theorem rowAt_unmatched (position : Nat) : (template.unmatched start).rowAt position = none := by
  simp only [PartialMatch.rowAt, unmatched, List.getElem?_replicate]
  split <;> rfl

theorem solves_unmatched (store : Store) (template : Template) (start : Valuation) :
    (template.unmatched start).Solves store template start [] where
  length := List.length_replicate
  handled position := by simp [rowAt_unmatched]
  edges position row here := by simp [rowAt_unmatched] at here
  admitted := by
    rintro slot address ⟨position, slots, row, -, here, -⟩
    simp [rowAt_unmatched] at here
  joins := (Valuation.Joins.refl start).congr fun slot address => by
    simp [Stands, rowAt_unmatched]

theorem enumerates_unmatched (store : Store) (template : Template) (start : Valuation) :
    Enumerates store template start [template.unmatched start] [] where
  nodup := List.pairwise_singleton _ _
  mem_iff partialMatch := by
    rw [List.mem_singleton]
    constructor
    · rintro rfl
      exact solves_unmatched store template start
    · intro solves
      refine solves.ext (solves_unmatched store template start) fun position => ?_
      rw [rowAt_unmatched, solves.rowAt_eq_none List.not_mem_nil]

/-- What solves some triples solves them without the last. -/
theorem exists_restriction {next : PartialMatch} {handled : List Nat} {position : Nat}
    (bound : position < template.size) (fresh : position ∉ handled)
    (solves : next.Solves store template start (position :: handled)) :
    ∃ found : PartialMatch, found.Solves store template start handled ∧
      ∀ other, other ≠ position → next.rowAt other = found.rowAt other := by
  have inside : position < next.rows.length := by rwa [solves.length]
  have rowAt : ∀ valuation other,
      PartialMatch.rowAt ⟨valuation, next.rows.set position none⟩ other =
        if other = position then none else next.rowAt other :=
    fun valuation other => rowAt_set next valuation inside none other
  have before : ∀ valuation other row,
      PartialMatch.rowAt ⟨valuation, next.rows.set position none⟩ other = some row →
        other ≠ position ∧ next.rowAt other = some row := by
    intro valuation other row here
    rw [rowAt] at here
    split at here
    · cases here
    · exact ⟨‹_›, here⟩
  have included : ∀ {slot address},
      template.Stands (PartialMatch.rowAt ⟨start, next.rows.set position none⟩) slot address →
        template.Stands next.rowAt slot address := by
    rintro slot address ⟨other, slots, row, slotsAt, here, member⟩
    exact ⟨other, slots, row, slotsAt, (before start other row here).2, member⟩
  obtain ⟨valuation, joins⟩ := solves.joins.exists_part included
  refine ⟨⟨valuation, next.rows.set position none⟩, ⟨?_, fun other => ?_, fun other row here => ?_,
    fun slot address holds => solves.admitted slot address (included holds), joins⟩,
    fun other apart => ?_⟩
  · rw [List.length_set, solves.length]
  · constructor
    · rintro ⟨row, here⟩
      obtain ⟨apart, here⟩ := before valuation other row here
      exact (List.mem_cons.1 ((solves.handled other).1 ⟨row, here⟩)).resolve_left apart
    · intro member
      obtain ⟨row, here⟩ := (solves.handled other).2 (List.mem_cons_of_mem _ member)
      refine ⟨row, ?_⟩
      rw [rowAt, if_neg, here]
      rintro rfl
      exact fresh member
  · exact solves.edges other row (before valuation other row here).2
  · rw [rowAt, if_neg apart]

section Run

variable (consistent : store.Consistent) (sense : template.MakesSense)
  (covers : template.Covers template.slots) (sized : start.values.length = template.vars.length)

include consistent sense covers sized in
/-- **Every step of a search keeps the invariant.** -/
theorem enumerates_extend {found : List PartialMatch} {handled : List Nat} {position : Nat}
    (enumerates : Enumerates store template start found handled)
    (bound : position < template.size) (fresh : position ∉ handled) :
    Enumerates store template start (found.flatMap (template.extend store none position))
      (position :: handled) := by
  have slotsAt : template.triples[position]? = some template.triples[position] :=
    List.getElem?_eq_getElem bound
  refine ⟨List.pairwise_flatMap.2 ⟨fun before member => ?_, ?_⟩, fun next => ?_⟩
  · have solves := (enumerates.mem_iff before).1 member
    exact extend_nodup consistent (by rwa [solves.length])
  · -- Extensions of different matches differ in the rows that these have already.
    refine enumerates.nodup.imp_of_mem fun {before other} member member' apart => ?_
    rintro next extension _ extension' rfl
    have solves := (enumerates.mem_iff before).1 member
    have solves' := (enumerates.mem_iff other).1 member'
    have agree := (solves_of_mem_extend consistent covers sized solves slotsAt fresh extension).2
    have agree' := (solves_of_mem_extend consistent covers sized solves' slotsAt fresh extension').2
    refine apart (solves.ext solves' fun place => ?_)
    by_cases same : place = position
    · rw [same, solves.rowAt_eq_none fresh, solves'.rowAt_eq_none fresh]
    · rw [← agree place same, ← agree' place same]
  · rw [List.mem_flatMap]
    constructor
    · rintro ⟨before, member, extension⟩
      exact (solves_of_mem_extend consistent covers sized ((enumerates.mem_iff before).1 member)
        slotsAt fresh extension).1
    · intro solvesNext
      obtain ⟨before, solves, agree⟩ := exists_restriction bound fresh solvesNext
      exact ⟨before, (enumerates.mem_iff before).2 solves,
        mem_extend_of_solves consistent sense covers sized solves slotsAt fresh solvesNext agree⟩

/-- Handle triples in a given order, starting from some partial matches. -/
def matchInOrder (store : Store) (template : Template) (order : List Nat)
    (found : List PartialMatch) : List PartialMatch :=
  order.foldl (fun found position => found.flatMap (template.extend store none position)) found

include consistent sense covers sized in
/-- **In whatever order triples are handled, the invariant holds.** -/
theorem enumerates_inOrder {order handled : List Nat} {found : List PartialMatch}
    (enumerates : Enumerates store template start found handled)
    (bounded : ∀ position ∈ order, position < template.size)
    (distinct : (order.reverse ++ handled).Nodup) :
    Enumerates store template start (template.matchInOrder store order found)
      (order.reverse ++ handled) := by
  induction order generalizing found handled with
  | nil => exact enumerates
  | cons position rest hypothesis =>
    have regrouped : (position :: rest).reverse ++ handled =
        rest.reverse ++ (position :: handled) := by simp
    rw [regrouped] at distinct ⊢
    have fresh : position ∉ handled :=
      (List.nodup_cons.1 (List.nodup_append.1 distinct).2.1).1
    exact hypothesis
      (enumerates_extend consistent sense covers sized enumerates
        (bounded position List.mem_cons_self) fresh)
      (fun other member => bounded other (List.mem_cons_of_mem _ member)) distinct

end Run

/-! ### The order that a search chooses -/

theorem mem_of_foldl_betterAnchored {candidates : List (Nat × Nat)} {best : Option (Nat × Nat)}
    {winner : Nat × Nat} (chosen : candidates.foldl betterAnchored best = some winner) :
    best = some winner ∨ winner ∈ candidates := by
  induction candidates generalizing best with
  | nil => exact .inl chosen
  | cons candidate rest hypothesis =>
    rcases hypothesis chosen with better | member
    · have either : best = some winner ∨ candidate = winner := by
        unfold betterAnchored at better
        split at better
        · exact .inr (Option.some.inj better)
        · split at better
          · exact .inr (Option.some.inj better)
          · exact .inl better
      rcases either with same | rfl
      · exact .inl same
      · exact .inr List.mem_cons_self
    · exact .inr (List.mem_cons_of_mem _ member)

theorem isSome_foldl_betterAnchored (candidates : List (Nat × Nat)) {best : Option (Nat × Nat)}
    (nonempty : best.isSome = true ∨ candidates ≠ []) :
    (candidates.foldl betterAnchored best).isSome = true := by
  induction candidates generalizing best with
  | nil => exact nonempty.resolve_right fun absent => absent rfl
  | cons candidate rest hypothesis =>
    refine hypothesis (.inl ?_)
    unfold betterAnchored
    split
    · rfl
    · split <;> rfl

theorem left_of_nextTriple? {valuation : Valuation} {handled : List Nat} {position : Nat}
    (chosen : template.nextTriple? valuation handled = some position) :
    position < template.size ∧ position ∉ handled := by
  obtain ⟨⟨score, _⟩, winner, rfl⟩ := Option.map_eq_some_iff.1 chosen
  rcases mem_of_foldl_betterAnchored winner with absent | member
  · cases absent
  obtain ⟨⟨slots, place⟩, left, same⟩ := List.mem_map.1 member
  obtain ⟨inTriples, fresh⟩ := List.mem_filter.1 left
  cases same
  refine ⟨?_, by simpa using fresh⟩
  exact (List.getElem?_eq_some_iff.1 (List.mk_mem_zipIdx_iff_getElem?.1 inTriples)).1

theorem exists_nextTriple (valuation : Valuation) {handled : List Nat} {position : Nat}
    (bound : position < template.size) (fresh : position ∉ handled) :
    ∃ next, template.nextTriple? valuation handled = some next := by
  have left : (template.triples[position], position) ∈
      template.triples.zipIdx.filter fun indexed => !handled.contains indexed.2 := by
    refine List.mem_filter.2 ⟨List.mk_mem_zipIdx_iff_getElem?.2 (List.getElem?_eq_getElem bound), ?_⟩
    simpa using fresh
  refine Option.isSome_iff_exists.1 ?_
  unfold nextTriple?
  rw [Option.isSome_map]
  exact isSome_foldl_betterAnchored _ (.inr (List.ne_nil_of_mem (List.mem_map_of_mem left)))

/-- Without partial matches there is nothing to extend. -/
theorem matchInOrder_nil (store : Store) (template : Template) (order : List Nat) :
    template.matchInOrder store order [] = [] := by
  induction order with
  | nil => rfl
  | cons position rest hypothesis => exact hypothesis

/-- **A search handles the triples that are left in some order.** -/
theorem exists_order (store : Store) {left handled : List Nat}
    (all : (left ++ handled).Perm (List.range template.size)) (found : List PartialMatch) :
    ∃ order, order.Perm left ∧
      template.matchTriples store none left.length handled found =
        template.matchInOrder store order found := by
  generalize count : left.length = number
  induction number generalizing left handled found with
  | zero =>
    cases List.length_eq_zero_iff.1 count
    exact ⟨[], .refl _, rfl⟩
  | succ number hypothesis =>
    unfold matchTriples
    cases found with
    | nil =>
      -- With nothing left to extend any order will do.
      refine ⟨left, .refl _, ?_⟩
      rw [matchInOrder_nil]
      rfl
    | cons first others =>
      obtain ⟨position, rest, rfl⟩ := List.exists_cons_of_length_eq_add_one count
      have member : position ∈ List.range template.size := all.mem_iff.1 (by simp)
      have fresh : position ∉ handled := by
        have distinct := all.nodup_iff.2 List.nodup_range
        intro already
        exact (List.nodup_append.1 distinct).2.2 position List.mem_cons_self position already rfl
      obtain ⟨next, chosen⟩ :=
        exists_nextTriple first.valuation (List.mem_range.1 member) fresh
      obtain ⟨nextBound, nextFresh⟩ := left_of_nextTriple? chosen
      have nextLeft : next ∈ position :: rest := by
        have either := all.mem_iff.2 (List.mem_range.2 nextBound)
        exact (List.mem_append.1 either).resolve_right nextFresh
      have removed := List.perm_cons_erase nextLeft
      have stillAll : ((position :: rest).erase next ++ (next :: handled)).Perm
          (List.range template.size) := by
        refine List.perm_middle.trans ?_
        exact (removed.symm.append_right handled).trans all
      have countLeft : ((position :: rest).erase next).length = number := by
        rw [List.length_erase_of_mem nextLeft, count]
        rfl
      obtain ⟨order, perm, same⟩ := hypothesis stillAll
        ((first :: others).flatMap (template.extend store none next)) countLeft
      refine ⟨next :: order, (perm.cons next).trans removed.symm, ?_⟩
      simp only [List.head?_cons, Option.bind_some, chosen]
      exact same

/-! ### Complete matches -/

/-- A match, as the partial match in which nothing is missing. -/
def Match.toPartial (found : Match) : PartialMatch :=
  ⟨⟨found.values.map some⟩, found.rows.map some⟩

theorem toPartial_injective {first second : Match} (same : first.toPartial = second.toPartial) :
    first = second := by
  have injective : ∀ {α : Type} {one other : List α}, one.map some = other.map some → one = other :=
    (List.map_inj_right fun _ _ => Option.some.inj).1
  have sameValues := injective (congrArg (fun found => found.valuation.values) same)
  have sameRows := injective (congrArg PartialMatch.rows same)
  exact Match.ext sameValues sameRows

theorem rowAt_toPartial (found : Match) : found.toPartial.rowAt = found.rowAt := by
  funext position
  unfold PartialMatch.rowAt Match.toPartial Match.rowAt
  rw [List.getElem?_map]
  cases found.rows[position]? <;> rfl

theorem get?_toPartial (found : Match) (var : Nat) :
    found.toPartial.valuation.get? var = found.values[var]? := by
  unfold Valuation.get? Match.toPartial
  rw [List.getElem?_map]
  cases found.values[var]? <;> rfl

theorem toInstance?_toPartial (found : Match) :
    found.toPartial.toInstance? template = some (found.toInstance template) := by
  have rows : ∀ rows : List Triple, (rows.map some).mapM id = some rows := by
    intro rows
    induction rows with
    | nil => rfl
    | cons row rest hypothesis => simp [hypothesis]
  unfold PartialMatch.toInstance? Match.toPartial
  rw [rows]
  rfl

/-- If every item is an image, the items are the images of a list. -/
theorem exists_map_eq {α β : Type} {make : α → β} {items : List β}
    (each : ∀ item ∈ items, ∃ whole, make whole = item) : ∃ wholes : List α, wholes.map make = items := by
  induction items with
  | nil => exact ⟨[], rfl⟩
  | cons item rest hypothesis =>
    obtain ⟨whole, rfl⟩ := each item List.mem_cons_self
    obtain ⟨others, rfl⟩ := hypothesis fun other member => each other (List.mem_cons_of_mem _ member)
    exact ⟨whole :: others, rfl⟩

theorem exists_eq_map_some {α : Type} {values : List (Option α)}
    (present : ∀ position, position < values.length → ∃ value, (values[position]?).join = some value) :
    ∃ present : List α, values = present.map some := by
  have each : ∀ item ∈ values, ∃ value : α, some value = item := by
    intro item member
    obtain ⟨position, bound, rfl⟩ := List.mem_iff_getElem.1 member
    obtain ⟨value, here⟩ := present position bound
    rw [List.getElem?_eq_getElem bound, Option.join_some] at here
    exact ⟨value, here.symm⟩
  obtain ⟨wholes, same⟩ := exists_map_eq each
  exact ⟨wholes, same.symm⟩

section Complete

variable {parameters : Assignment} {handled : List Nat} (sense : template.MakesSense)
  (covers : template.Covers template.slots) (sized : start.values.length = template.vars.length)
  (given : ∀ var address, start.get? var = some address ↔
    template.Gives parameters.entries var address)
  (all : ∀ position, position ∈ handled ↔ position < template.size)

include sense covers sized given all in
/-- **A match satisfies a template if it solves all triples.** -/
theorem solves_toPartial_iff {found : Match} :
    found.toPartial.Solves store template start handled ↔
      found.Satisfies store template parameters := by
  constructor
  · intro solves
    have triples : found.rows.length = template.size := by
      simpa [Match.toPartial] using solves.length
    have joins := solves.joins
    rw [rowAt_toPartial] at joins
    refine ⟨?_, triples, fun row member => ?_, fun slot address holds => ?_,
      fun slot address var holds here => ?_, fun var address gives => ?_⟩
    · have length := joins.length
      simp only [Match.toPartial, List.length_map] at length
      rw [length, sized]
    · obtain ⟨position, bound, same⟩ := List.mem_iff_getElem.1 member
      refine solves.edges position row ?_
      rw [rowAt_toPartial, Match.rowAt, List.getElem?_eq_getElem bound, same]
    · exact solves.admitted slot address (by rwa [rowAt_toPartial])
    · rw [← get?_toPartial]
      exact joins.get?_of_stands here holds
    · rw [← get?_toPartial]
      exact (joins.graph var address).2 (.inl ((given var address).2 gives))
  · intro satisfies
    have rowIff : ∀ position, (∃ row, found.rowAt position = some row) ↔
        position < template.size := by
      intro position
      rw [← satisfies.triples, ← Option.isSome_iff_exists]
      simp [Match.rowAt]
    refine ⟨?_, fun position => ?_, fun position row here => ?_, fun slot address holds => ?_, ?_⟩
    · simpa [Match.toPartial] using satisfies.triples
    · rw [rowAt_toPartial, rowIff, all]
    · rw [rowAt_toPartial] at here
      exact satisfies.edges row (List.mem_of_getElem? here)
    · rw [rowAt_toPartial] at holds
      exact satisfies.admitted slot address holds
    · rw [rowAt_toPartial]
      refine ⟨?_, fun var address => ?_⟩
      · simp only [Match.toPartial, List.length_map]
        rw [satisfies.valued, sized]
      · rw [get?_toPartial]
        constructor
        · intro found'
          have declared : var < template.vars.length := by
            rw [← satisfies.valued]
            exact (List.getElem?_eq_some_iff.1 found').1
          obtain ⟨slot, member, here⟩ := sense.exists_slot covers declared
          obtain ⟨other, holds⟩ := exists_stands (fun position bound => (rowIff position).2 bound)
            member
          have same := satisfies.shared slot other var holds here
          rw [found'] at same
          cases same
          exact .inr ⟨slot, here, holds⟩
        · rintro (bound | ⟨slot, here, holds⟩)
          · exact satisfies.parameters var address ((given var address).1 bound)
          · exact satisfies.shared slot address var holds here

include sense covers sized all in
/-- **What solves all triples is a match.** -/
theorem exists_match_of_solves {found : PartialMatch}
    (solves : found.Solves store template start handled) : ∃ whole : Match, whole.toPartial = found := by
  have complete : ∀ position, position < template.size → ∃ row, found.rowAt position = some row :=
    fun position bound => (solves.handled position).2 ((all position).2 bound)
  obtain ⟨rows, sameRows⟩ := exists_eq_map_some fun position bound =>
    complete position (solves.length ▸ bound)
  have bound : ∀ var, var < found.valuation.values.length →
      ∃ address, found.valuation.get? var = some address := by
    intro var inside
    obtain ⟨slot, member, here⟩ := sense.exists_slot covers
      (by rwa [solves.joins.length, sized] at inside)
    obtain ⟨address, holds⟩ := exists_stands complete member
    exact ⟨address, solves.joins.get?_of_stands here holds⟩
  obtain ⟨values, sameValues⟩ := exists_eq_map_some bound
  refine ⟨⟨values, rows⟩, ?_⟩
  obtain ⟨⟨_⟩, _⟩ := found
  simp only at sameRows sameValues
  rw [sameRows, sameValues]
  rfl

end Complete

/-! ### Searches -/

/-- A search that handles the triples in a given order. -/
def searchInOrder (store : Store) (template : Template) (parameters : Assignment)
    (order : List Nat) : Except TemplateError (List Instance) := do
  template.validate
  let valuation ← template.bindParameters store parameters
  let found := template.matchInOrder store order [template.unmatched valuation]
  return found.filterMap (PartialMatch.toInstance? template)

/-- **In whatever order all triples are handled, the satisfying matches are found**, each once. -/
theorem exists_matches_inOrder {parameters : Assignment} (consistent : store.Consistent)
    (sense : template.MakesSense) (covers : template.Covers template.slots)
    (sized : start.values.length = template.vars.length)
    (given : ∀ var address, start.get? var = some address ↔
      template.Gives parameters.entries var address)
    {order : List Nat} (perm : order.Perm (List.range template.size)) :
    ∃ found : List Match,
      (template.matchInOrder store order [template.unmatched start]).filterMap
          (PartialMatch.toInstance? template) = found.map (Match.toInstance template) ∧
        (found.map (Match.toInstance template)).Nodup ∧
        ∀ candidate, candidate ∈ found ↔ candidate.Satisfies store template parameters := by
  have bounded : ∀ position ∈ order, position < template.size := fun position member =>
    List.mem_range.1 (perm.mem_iff.1 member)
  have distinct : (order.reverse ++ []).Nodup := by
    rw [List.append_nil]
    exact (List.reverse_perm order).nodup_iff.2 (perm.nodup_iff.2 List.nodup_range)
  have all : ∀ position, position ∈ order.reverse ++ [] ↔ position < template.size := by
    intro position
    rw [List.append_nil, List.mem_reverse, perm.mem_iff, List.mem_range]
  have enumerates := enumerates_inOrder consistent sense covers sized
    (enumerates_unmatched store template start) bounded distinct
  generalize template.matchInOrder store order [template.unmatched start] = partials at enumerates ⊢
  have wholes : ∃ found : List Match, found.map Match.toPartial = partials :=
    exists_map_eq fun item member =>
      exists_match_of_solves sense covers sized all ((enumerates.mem_iff item).1 member)
  obtain ⟨found, rfl⟩ := wholes
  refine ⟨found, ?_, ?_, fun candidate => ?_⟩
  · rw [List.filterMap_map]
    have whole : PartialMatch.toInstance? template ∘ Match.toPartial =
        some ∘ Match.toInstance template :=
      funext toInstance?_toPartial
    rw [whole, List.filterMap_eq_map]
  · -- Instances with the same rows come from the same match, since the rows determine the values.
    refine List.pairwise_map.2 ((List.pairwise_map.1 enumerates.nodup).imp_of_mem ?_)
    intro first second inFound inFound' apart same
    have sameRows : first.rows = second.rows := congrArg Instance.triples same
    refine apart (PartialMatch.Solves.ext ((enumerates.mem_iff _).1 (List.mem_map_of_mem inFound))
      ((enumerates.mem_iff _).1 (List.mem_map_of_mem inFound')) fun position => ?_)
    rw [rowAt_toPartial, rowAt_toPartial, Match.rowAt, Match.rowAt, sameRows]
  · rw [← solves_toPartial_iff sense covers sized given all, ← enumerates.mem_iff]
    constructor
    · exact fun member => List.mem_map_of_mem member
    · intro member
      obtain ⟨other, inFound, same⟩ := List.mem_map.1 member
      exact toPartial_injective same ▸ inFound

theorem exists_value_of_name {slots : List Slot} {found : Match} {parameters : Assignment}
    (covers : template.Covers slots) (satisfies : found.Satisfies store template parameters)
    {name : String} {var : Nat} (here : (name, var) ∈ template.names) :
    ∃ address, found.values[var]? = some address := by
  have declared : var < found.values.length := by
    rw [satisfies.valued]
    exact covers.named name var here
  exact ⟨found.values[var], List.getElem?_eq_getElem declared⟩

/-- **Every name of a template is bound** in an instance that is made of a match. -/
theorem get?_toInstance {slots : List Slot} {found : Match} {parameters : Assignment}
    (covers : template.Covers slots) (satisfies : found.Satisfies store template parameters)
    {name : String} {var : Nat} (here : template.varNamed? name = some var) :
    ∃ address, found.values[var]? = some address ∧
      (found.toInstance template).get? name = some address := by
  obtain ⟨⟨known, var'⟩, entry, same⟩ := Option.map_eq_some_iff.1 here
  cases same
  obtain ⟨address, value⟩ :=
    exists_value_of_name covers satisfies (List.mem_of_find?_eq_some entry)
  refine ⟨address, value, ?_⟩
  have bound : ∀ name var, (name, var) ∈ template.names →
      ∃ address, found.toPartial.valuation.get? var = some address := by
    intro name var member
    rw [get?_toPartial]
    exact exists_value_of_name covers satisfies member
  have asked := get?_ofValuation found.rows name bound
  rw [here, Option.bind_some, get?_toPartial, value] at asked
  exact asked

/-- **What a search finds**: the satisfying matches, each once and nothing else. In each all names of
the template are bound, and in whatever order the triples are handled, the instances are the same. -/
structure Finds (store : Store) (template : Template) (parameters : Assignment)
    (found : List Match) : Prop where
  search : template.search store parameters = .ok (found.map (Match.toInstance template))
  nodup : (found.map (Match.toInstance template)).Nodup
  mem_iff : ∀ candidate, candidate ∈ found ↔ candidate.Satisfies store template parameters
  bound : ∀ candidate ∈ found, ∀ name var, template.varNamed? name = some var →
    ∃ address, candidate.values[var]? = some address ∧
      (candidate.toInstance template).get? name = some address
  inOrder : ∀ order : List Nat, order.Perm (List.range template.size) →
    ∃ others, template.searchInOrder store parameters order = .ok others ∧
      others.Perm (found.map (Match.toInstance template))

/-- **A search finds every satisfying match once, and nothing else**, if the parameters have names of
the template, exist, and agree on the variables. -/
theorem search_finds_satisfying {parameters : Assignment} (reachable : store.Reachable)
    (built : template.IsBuilt) (valid : template.validate = .ok ())
    (named : ∀ name address, (name, address) ∈ parameters.entries → template.hasName name = true)
    (existing : ∀ name address, (name, address) ∈ parameters.entries →
      store.contains address = true)
    (agreeing : ∀ var first second, template.Gives parameters.entries var first →
      template.Gives parameters.entries var second → first = second) :
    ∃ found, template.Finds store parameters found := by
  have covers := built.covers
  have sense := makesSense_of_validate valid
  obtain ⟨start, bound, sized, given⟩ := exists_bindParameters covers named existing agreeing
  have inOrder := fun order (perm : List.Perm order _) =>
    exists_matches_inOrder reachable.consistent sense covers sized given perm
  have all : (List.range template.size ++ []).Perm (List.range template.size) := by
    rw [List.append_nil]
  obtain ⟨order, perm, handled⟩ := exists_order store all [template.unmatched start]
  obtain ⟨found, instances, distinct, mem_iff⟩ := inOrder order perm
  refine ⟨found, ?_, distinct, mem_iff, fun candidate member name var here =>
    get?_toInstance covers ((mem_iff candidate).1 member) here, fun other perm' => ?_⟩
  · show template.searchIn store none parameters = _
    unfold searchIn
    rw [valid, bound, ← instances, ← handled, List.length_range]
    rfl
  · obtain ⟨found', instances', distinct', mem_iff'⟩ := inOrder other perm'
    refine ⟨found'.map (Match.toInstance template), ?_, ?_⟩
    · unfold searchInOrder
      rw [valid, bound, ← instances']
      rfl
    · refine (List.perm_ext_iff_of_nodup distinct' distinct).2 fun instanceOf => ?_
      simp only [List.mem_map, mem_iff, mem_iff']

/-- A store with two nodes, two edges from the first to the second, and an edge from the second to
the first of these edges. -/
def relatedNodes : Store :=
  ((Session.start (.new 4 .manual) []).run
    [.createNode .constantNode, .createNode .constantNode,
      .createEdgeIn 0 .membership ⟨1⟩ ⟨2⟩, .createEdgeIn 0 .membership ⟨1⟩ ⟨2⟩,
      .createEdgeIn 0 .constantDirected ⟨2⟩ ⟨3⟩]).network.store

/-- A template for an edge to a node that is also the relation of this edge. -/
def ownRelation : Template :=
  ofClauses [.withRelation ((Item.typed .constantNode).named "source") (.typed .access)
    ((Item.typed .constantNode).named "target") (.typed .directed) (.reference "target")]

/-- The first node as the source. -/
def firstSource : Assignment where
  entries := [("source", ⟨1⟩)]

/-- One of two parallel edges has its target for a relation. -/
theorem search_ownRelation_finds :
    relatedNodes.Reachable ∧ ownRelation.IsBuilt ∧ ownRelation.validate = .ok () ∧
      ∃ found, ownRelation.Finds relatedNodes firstSource found := by
  have reachable : relatedNodes.Reachable := ⟨_, _, _, rfl⟩
  have built : ownRelation.IsBuilt := ⟨_, rfl⟩
  have valid : ownRelation.validate = .ok () := by rfl
  refine ⟨reachable, built, valid, search_finds_satisfying reachable built valid ?_ ?_ ?_⟩
  · intro name address member
    cases List.mem_singleton.1 member
    rfl
  · intro name address member
    cases List.mem_singleton.1 member
    rfl
  · rintro var first second ⟨_, member, _⟩ ⟨_, member', _⟩
    cases List.mem_singleton.1 member
    cases List.mem_singleton.1 member'
    rfl

example : ownRelation.search relatedNodes firstSource =
    .ok [⟨[("source", ⟨1⟩), ("target", ⟨2⟩)], [⟨⟨1⟩, ⟨3⟩, ⟨2⟩⟩, ⟨⟨2⟩, ⟨5⟩, ⟨3⟩⟩]⟩] := by
  rfl

end SemanticNetwork.Template
