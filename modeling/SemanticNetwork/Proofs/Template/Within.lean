/-
**Searching inside a structure is filtering.** A search inside a structure drops a row as soon as it
leaves the structure, so its lists of partial matches are shorter, other matches come first in them,
and they may run out before all triples are handled. But which triple comes next depends only on
which variables have an element, and that is the same for all matches of the same triples. So both
searches handle the triples in one order, and at every point the matches inside are those matches of
the unrestricted search whose rows are inside, in their order.

* `isBound_iff_of_solves`, `nextTriple?_eq_of_solves`: **every match of the same triples leads on to
  the same triple**;
* `filter_flatMap_extend`: a step of the search commutes with dropping what is outside;
* `filter_matchTriples`: **and so does the whole search**;
* `searchWithin_eq_filter`: **what is found inside a structure is what is found, filtered.**
-/
import SemanticNetwork.Proofs.Template.Membership
import SemanticNetwork.Proofs.Template.Search

namespace SemanticNetwork

/-- Whether a structure has a member is decided by a walk over the table. -/
instance (store : Store) (structureNode member : Address) :
    Decidable (store.HasMember structureNode member) :=
  decidable_of_iff (∃ entry ∈ store.elements.entries, entry.2.address = entry.1 ∧
      entry.2.body = .edge structureNode member ∧ entry.2.type.carries .membership = true) <| by
    constructor
    · rintro ⟨⟨edge, ⟨address, type, body⟩⟩, listed, own, leads, carried⟩
      cases own
      cases leads
      exact ⟨_, type, KeyMap.mem_entries_iff.1 listed, carried⟩
    · rintro ⟨edge, type, found, carried⟩
      exact ⟨_, KeyMap.mem_entries_iff.2 found, rfl, rfl, carried⟩

namespace Template

variable {store : Store} {template : Template} {start : Valuation} {scope : Scope}
  {found first second : PartialMatch} {handled : List Nat} {position : Nat}

/-! ### The order of the triples -/

/-- **Which variables have an element** depends on the triples that were handled, not on the rows that
were found for them. -/
theorem isBound_iff_of_solves (solves : first.Solves store template start handled)
    (solves' : second.Solves store template start handled) (var : Nat) :
    (first.valuation.get? var).isSome = true ↔ (second.valuation.get? var).isSome = true := by
  -- The two matches play the same part, so one direction is enough.
  have bound : ∀ {one other : PartialMatch}, one.Solves store template start handled →
      other.Solves store template start handled →
      (one.valuation.get? var).isSome = true → (other.valuation.get? var).isSome = true := by
    intro one other solvesOne solvesOther here
    obtain ⟨address, here⟩ := Option.isSome_iff_exists.1 here
    rcases (solvesOne.joins.graph var address).1 here with given | ⟨slot, ofVar, stands⟩
    · exact Option.isSome_iff_exists.2 ⟨address, (solvesOther.joins.graph var address).2 (.inl given)⟩
    · obtain ⟨place, slots, row, slotsAt, rowAt, inRow⟩ := stands
      obtain ⟨row', rowAt'⟩ := (solvesOther.handled place).2
        ((solvesOne.handled place).1 ⟨row, rowAt⟩)
      obtain ⟨address', inRow'⟩ := exists_place row' (List.of_mem_zip inRow).1
      refine Option.isSome_iff_exists.2 ⟨address', ?_⟩
      exact solvesOther.joins.get?_of_stands ofVar ⟨place, slots, row', slotsAt, rowAt', inRow'⟩
  exact ⟨bound solves solves', bound solves' solves⟩

/-- The triple that comes next depends only on which variables have an element. -/
theorem nextTriple?_congr {valuation valuation' : Valuation}
    (same : ∀ var, (valuation.get? var).isSome = true ↔ (valuation'.get? var).isSome = true)
    (handled : List Nat) :
    template.nextTriple? valuation handled = template.nextTriple? valuation' handled := by
  have sameSlot : ∀ slot : Slot,
      (valuation.ofSlot? slot).isSome = (valuation'.ofSlot? slot).isSome := by
    intro slot
    unfold Valuation.ofSlot?
    cases slot.var with
    | none => rfl
    | some var => exact Bool.eq_iff_iff.2 (same var)
  have sameAnchors : isAnchored valuation = isAnchored valuation' := by
    funext slot
    unfold isAnchored
    split
    · rfl
    · exact sameSlot slot
  have sameScore : anchorage valuation = anchorage valuation' := by
    funext slots
    simp only [anchorage, sameAnchors]
  simp only [nextTriple?, sameScore]

/-- **Every match of the same triples leads on to the same triple.** -/
theorem nextTriple?_eq_of_solves (solves : first.Solves store template start handled)
    (solves' : second.Solves store template start handled) :
    template.nextTriple? first.valuation handled =
      template.nextTriple? second.valuation handled :=
  nextTriple?_congr (isBound_iff_of_solves solves solves') handled

/-! ### Matches inside a scope -/

/-- Whether all rows of a partial match are inside a scope. -/
def PartialMatch.isInside (scope : Scope) (found : PartialMatch) : Bool :=
  found.rows.all fun row? => row?.all (inScope scope)

/-- A match with a row more is inside if it was before, and the row is. -/
theorem isInside_set (valuation : Valuation) (row : Triple) (bound : position < found.rows.length)
    (free : found.rowAt position = none) :
    PartialMatch.isInside scope ⟨valuation, found.rows.set position (some row)⟩ =
      (found.isInside scope && inScope scope row) := by
  have unset : found.rows[position] = none := by
    simpa [PartialMatch.rowAt, List.getElem?_eq_getElem bound] using free
  rw [Bool.eq_iff_iff]
  simp only [PartialMatch.isInside, Bool.and_eq_true, List.all_eq_true]
  constructor
  · intro inside
    refine ⟨fun row? member => ?_, ?_⟩
    · obtain ⟨place, placeBound, rfl⟩ := List.mem_iff_getElem.1 member
      by_cases same : place = position
      · subst same
        rw [unset]
        rfl
      · refine inside _ (List.mem_iff_getElem.2 ⟨place, by simpa using placeBound, ?_⟩)
        exact List.getElem_set_ne (Ne.symm same) _
    · exact inside (some row) (List.mem_set bound _)
  · rintro ⟨inside, rowInside⟩ row? member
    rcases List.mem_or_eq_of_mem_set member with before | rfl
    · exact inside row? before
    · exact rowInside

/-- **The extensions inside a scope**: of a match that is inside those made with a row inside, of any
other none. -/
theorem filter_extend (bound : position < found.rows.length) (free : found.rowAt position = none) :
    (template.extend store none position found).filter (PartialMatch.isInside scope) =
      if found.isInside scope then template.extend store scope position found else [] := by
  cases slotsAt : template.triples[position]? with
  | none => simp [extend, slotsAt]
  | some slots =>
    cases asked : triplePattern? found.valuation slots with
    | none => simp [extend, slotsAt, asked]
    | some pattern =>
      have everything : (pattern.rows store).filter (inScope none) = pattern.rows store :=
        List.filter_eq_self.2 fun _ _ => rfl
      -- Row by row: what the row makes is kept if the match and the row are inside.
      have kept : ∀ row, Option.filter (PartialMatch.isInside scope)
          ((fitRow? store slots found.valuation row).map fun valuation =>
            (⟨valuation, found.rows.set position (some row)⟩ : PartialMatch)) =
          if found.isInside scope && inScope scope row then
            (fitRow? store slots found.valuation row).map fun valuation =>
              ⟨valuation, found.rows.set position (some row)⟩
          else none := by
        intro row
        cases fitRow? store slots found.valuation row with
        | none => simp
        | some valuation => simp [Option.filter, isInside_set valuation row bound free]
      simp only [extend, slotsAt, asked, everything, List.filter_filterMap, kept]
      cases found.isInside scope with
      | false => simp
      | true => simp [List.filterMap_filter]

/-- **A step of the search commutes with dropping what is outside.** -/
theorem filter_flatMap_extend {partials : List PartialMatch}
    (solved : ∀ found ∈ partials, found.Solves store template start handled)
    (bound : position < template.size) (fresh : position ∉ handled) :
    (partials.flatMap (template.extend store none position)).filter (PartialMatch.isInside scope) =
      (partials.filter (PartialMatch.isInside scope)).flatMap
        (template.extend store scope position) := by
  induction partials with
  | nil => rfl
  | cons found rest hypothesis =>
    have solves := solved found List.mem_cons_self
    have step : (template.extend store none position found).filter (PartialMatch.isInside scope) =
        if found.isInside scope then template.extend store scope position found else [] :=
      filter_extend (solves.length ▸ bound) (solves.rowAt_eq_none fresh)
    rw [List.flatMap_cons, List.filter_append, step,
      hypothesis fun other member => solved other (List.mem_cons_of_mem _ member)]
    cases inside : found.isInside scope with
    | false => simp [inside]
    | true => simp [inside]

/-- Without partial matches nothing is found. -/
theorem matchTriples_nil (store : Store) (scope : Scope) (template : Template) (count : Nat)
    (handled : List Nat) : template.matchTriples store scope count handled [] = [] := by
  cases count <;> rfl

section Run

variable (consistent : store.Consistent) (sense : template.MakesSense)
  (covers : template.Covers template.slots) (sized : start.values.length = template.vars.length)

include consistent sense covers sized in
/-- **A search inside a scope gives what the search gives, without the matches outside**, in the same
order. -/
theorem filter_matchTriples {partials : List PartialMatch}
    (enumerates : Enumerates store template start partials handled) (count : Nat) :
    (template.matchTriples store none count handled partials).filter (PartialMatch.isInside scope) =
      template.matchTriples store scope count handled
        (partials.filter (PartialMatch.isInside scope)) := by
  induction count generalizing handled partials with
  | zero => rfl
  | succ count hypothesis =>
    cases partials with
    | nil => simp only [matchTriples_nil, List.filter_nil]
    | cons head others =>
      have solves : ∀ found ∈ head :: others, found.Solves store template start handled :=
        fun found member => (enumerates.mem_iff found).1 member
      cases chosen : template.nextTriple? head.valuation handled with
      | none =>
        have stops : template.matchTriples store none (count + 1) handled (head :: others) =
            head :: others := by
          simp [matchTriples, chosen]
        rw [stops]
        cases left : (head :: others).filter (PartialMatch.isInside scope) with
        | nil => rfl
        | cons leader rest =>
          have inside : leader ∈ head :: others :=
            (List.mem_filter.1 (left ▸ List.mem_cons_self)).1
          have same := nextTriple?_eq_of_solves (solves leader inside)
            (solves head List.mem_cons_self)
          simp [matchTriples, same, chosen]
      | some next =>
        obtain ⟨bound, fresh⟩ := left_of_nextTriple? chosen
        have later := hypothesis
          (enumerates_extend consistent sense covers sized enumerates bound fresh)
        rw [filter_flatMap_extend solves bound fresh] at later
        have goesOn : template.matchTriples store none (count + 1) handled (head :: others) =
            template.matchTriples store none count (next :: handled)
              ((head :: others).flatMap (template.extend store none next)) := by
          simp [matchTriples, chosen]
        rw [goesOn, later]
        cases left : (head :: others).filter (PartialMatch.isInside scope) with
        | nil => simp only [List.flatMap_nil, matchTriples_nil]
        | cons leader rest =>
          -- Another match may come first inside, but it leads on to the same triple.
          have inside : leader ∈ head :: others :=
            (List.mem_filter.1 (left ▸ List.mem_cons_self)).1
          have same := nextTriple?_eq_of_solves (solves leader inside)
            (solves head List.mem_cons_self)
          simp [matchTriples, same, chosen]

end Run

/-! ### Instances inside a structure -/

/-- Where nothing is missing, the rows are all there are. -/
theorem eq_map_some_of_mapM {rows? : List (Option Triple)} {rows : List Triple}
    (complete : rows?.mapM id = some rows) : rows? = rows.map some := by
  induction rows? generalizing rows with
  | nil =>
    cases complete
    rfl
  | cons row? rest hypothesis =>
    obtain ⟨row, rfl, others, filled, rfl⟩ : ∃ row, row? = some row ∧
        ∃ others, rest.mapM id = some others ∧ row :: others = rows := by
      simpa [List.mapM_cons, Option.bind_eq_some_iff] using complete
    rw [hypothesis filled, List.map_cons]

/-- A complete match is inside if all elements of its instance are. -/
theorem isInside_of_toInstance? {made : Instance} {members : List Address}
    (whole : found.toInstance? template = some made) :
    found.isInside (some members) = made.elements.all members.contains := by
  obtain ⟨rows, complete, rfl⟩ := Option.map_eq_some_iff.1 whole
  rw [PartialMatch.isInside, eq_map_some_of_mapM complete, List.all_map]
  simp only [Instance.elements, Instance.ofValuation, List.all_flatMap]
  rfl

/-- **What is found inside a structure is what is found, filtered**: the search inside a structure
gives those instances of the search of which every element is a member of the structure, in the same
order. -/
theorem searchWithin_eq_filter {structureNode : Address} (reachable : store.Reachable)
    (built : template.IsBuilt) (valid : template.validate = .ok ())
    (there : store.contains structureNode = true) :
    ∃ found, template.search store .empty = .ok found ∧
      template.searchWithin store structureNode = .ok (found.filter fun made =>
        ∀ element ∈ made.elements, store.HasMember structureNode element) := by
  have consistent := reachable.consistent
  have sense := makesSense_of_validate valid
  have unbound : template.bindParameters store .empty = .ok (.unbound template.vars.length) := rfl
  have sized : (Valuation.unbound template.vars.length).values.length = template.vars.length :=
    List.length_replicate
  have both : ∀ scope, template.searchIn store scope .empty =
      .ok ((template.matchTriples store scope template.size []
        [template.unmatched (.unbound template.vars.length)]).filterMap
          (PartialMatch.toInstance? template)) := by
    intro scope
    unfold searchIn
    rw [valid, unbound]
    rfl
  refine ⟨_, both none, ?_⟩
  have nothing : (template.unmatched (.unbound template.vars.length)).isInside
      (some (store.members structureNode)) = true := by
    simp [PartialMatch.isInside, unmatched]
  have dropped : (template.matchTriples store none template.size []
      [template.unmatched (.unbound template.vars.length)]).filter
        (PartialMatch.isInside (some (store.members structureNode))) =
      template.matchTriples store (some (store.members structureNode)) template.size []
        [template.unmatched (.unbound template.vars.length)] := by
    rw [filter_matchTriples consistent sense built.covers sized
      (enumerates_unmatched store template _), List.filter_cons_of_pos nothing, List.filter_nil]
  rw [searchWithin, if_pos there, both, ← dropped, List.filterMap_filter, List.filter_filterMap]
  congr 2
  funext found
  cases whole : found.toInstance? template with
  | none => simp
  | some made =>
    have sameTest : found.isInside (some (store.members structureNode)) =
        decide (∀ element ∈ made.elements, store.HasMember structureNode element) := by
      rw [isInside_of_toInstance? whole, Bool.eq_iff_iff]
      simp [List.all_eq_true, mem_members_iff consistent]
    rw [sameTest]
    rfl

/-- A store in which two ways lead from the first node to the fourth, and a structure that has only
the later one of them for its members. -/
def walledNodes : Store :=
  ((Session.start (.new 4 .manual) []).run
    ([.createNode .constantNode, .createNode .constantNode, .createNode .constantNode,
      .createNode .constantNode, .createEdgeIn 0 .membership ⟨1⟩ ⟨2⟩,
      .createEdgeIn 0 .membership ⟨1⟩ ⟨3⟩, .createEdgeIn 0 .constantDirected ⟨2⟩ ⟨4⟩,
      .createEdgeIn 0 .constantDirected ⟨3⟩ ⟨4⟩, .createNode .constantNode] ++
      [1, 3, 4, 6, 8].map fun member => .createEdgeIn 0 .membership ⟨9⟩ ⟨member⟩)).network.store

/-- A template for a way of two edges. -/
def wayOfTwo : Template :=
  ofClauses [.triple (.fixed ⟨1⟩) (.typed .membership) ((Item.typed .constantNode).named "middle"),
    .triple (.reference "middle") (.typed .directed) (.typed .constantNode)]

/-- The match that comes first is dropped half-way. -/
theorem searchWithin_wayOfTwo :
    walledNodes.Reachable ∧ wayOfTwo.IsBuilt ∧ wayOfTwo.validate = .ok () ∧
      walledNodes.contains ⟨9⟩ = true ∧
      ∃ found, wayOfTwo.search walledNodes .empty = .ok found ∧
        wayOfTwo.searchWithin walledNodes ⟨9⟩ = .ok (found.filter fun made =>
          ∀ element ∈ made.elements, walledNodes.HasMember ⟨9⟩ element) := by
  have reachable : walledNodes.Reachable := ⟨_, _, _, rfl⟩
  have built : wayOfTwo.IsBuilt := ⟨_, rfl⟩
  have valid : wayOfTwo.validate = .ok () := by rfl
  have there : walledNodes.contains ⟨9⟩ = true := by decide +kernel
  exact ⟨reachable, built, valid, there, searchWithin_eq_filter reachable built valid there⟩

example : wayOfTwo.search walledNodes .empty =
      .ok [⟨[("middle", ⟨2⟩)], [⟨⟨1⟩, ⟨5⟩, ⟨2⟩⟩, ⟨⟨2⟩, ⟨7⟩, ⟨4⟩⟩]⟩,
        ⟨[("middle", ⟨3⟩)], [⟨⟨1⟩, ⟨6⟩, ⟨3⟩⟩, ⟨⟨3⟩, ⟨8⟩, ⟨4⟩⟩]⟩] ∧
    wayOfTwo.searchWithin walledNodes ⟨9⟩ =
      .ok [⟨[("middle", ⟨3⟩)], [⟨⟨1⟩, ⟨6⟩, ⟨3⟩⟩, ⟨⟨3⟩, ⟨8⟩, ⟨4⟩⟩]⟩] := by
  decide +kernel

end Template

end SemanticNetwork
