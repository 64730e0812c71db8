/-
**Walking over quintuples.** A cursor walks over triples, and for each over the edges that enter its
edge. The triple was read by an earlier step, and much may be erased since. But an edge that still
enters the triple's edge keeps that edge in the store, and that edge keeps its ends.

* `QuintuplePattern.Accepts`, `Accepts.lasts`: **a row stays a row until its last edge is erased**;
* `QuintupleCursor.Step`, `step_next`: what a step does;
* `advances`: **and what that does to the rows ahead**, those of the triple at hand and those of the
  triples to come;
* `faithful_visits`: **a walk shows rows that match, in order, and all that stay**;
* `drain_openOn`, `exact_openOn`: on a store that does not change, it lists the join of the rows of
  the whole table.
-/
import Mathlib.Data.List.Basic
import SemanticNetwork.Pattern.Quintuple
import SemanticNetwork.Proofs.Pattern.Triples

namespace SemanticNetwork

/-- The triple of the edge that enters another triple's edge. -/
def Quintuple.related (row : Quintuple) : Triple := ⟨row.relation, row.relationEdge, row.main.edge⟩

/-- Rows come in the order of their main edges, then of the edges that enter those. -/
def Quintuple.Before (row other : Quintuple) : Prop :=
  row.main.edge < other.main.edge ∨
    row.main.edge = other.main.edge ∧ row.relationEdge < other.relationEdge

instance : Std.Irrefl Quintuple.Before where
  irrefl row before := by
    rcases before with before | ⟨-, before⟩
    · exact Key.lt_irrefl _ before
    · exact Key.lt_irrefl _ before

variable {store before after : Store} {pattern : QuintuplePattern} {row : Quintuple} {main : Triple}
  {edges rest pending : List Address}

namespace QuintuplePattern

/-- A triple is accepted with its ends, and so is an edge that enters its edge, with its source. -/
structure Accepts (store : Store) (pattern : QuintuplePattern) (row : Quintuple) : Prop where
  main : pattern.main.Accepts store row.main
  ends : store.ends? row.relationEdge = some (row.relation, row.main.edge)
  relationEdge : pattern.relationEdge.accepts store row.relationEdge = true
  relation : pattern.relation.accepts store row.relation = true

/-- The edge that enters the main edge is a row among the relations. -/
theorem Accepts.related (accepts : pattern.Accepts store row) :
    (pattern.relations row.main.edge).Accepts store row.related where
  ends := accepts.ends
  source := accepts.relation
  edge := accepts.relationEdge
  target := beq_self_eq_true _

/-- A triple and a row among its relations are accepted together. -/
theorem accepts_join {relation : Triple} (accepts : pattern.main.Accepts store main)
    (related : (pattern.relations main.edge).Accepts store relation) :
    pattern.Accepts store (join main relation) where
  main := accepts
  ends := by
    have target : main.edge = relation.target := Pattern.eq_of_accepts rfl related.target
    show store.ends? relation.edge = some (relation.source, main.edge)
    rw [target]
    exact related.ends
  relationEdge := related.edge
  relation := related.source

theorem Accepts.contains (accepts : pattern.Accepts store row) (consistent : store.Consistent) :
    ∀ address ∈ row.toList, store.contains address = true := by
  obtain ⟨relationEdge, relation, -⟩ := consistent.contains_of_ends? accepts.ends
  intro address member
  rcases List.mem_append.1 member with inMain | member
  · exact accepts.main.contains consistent address inMain
  · have member : address = row.relationEdge ∨ address = row.relation := by simpa using member
    rcases member with rfl | rfl
    · exact relationEdge
    · exact relation

/-- **A row stays a row until its last edge is erased**: while that edge is there, so is the edge
that it enters. -/
theorem Accepts.lasts (accepts : pattern.Accepts before row) (consistent : before.Consistent)
    (consistent' : after.Consistent) (precedes : before.Precedes after)
    (there : after.contains row.relationEdge = true) : pattern.Accepts after row := by
  have related := accepts.related.lasts consistent consistent' precedes there
  have mainThere := (consistent'.contains_of_ends? related.ends).2.2
  exact accepts_join (accepts.main.lasts consistent consistent' precedes mainThere) related

/-- A row of a pattern that is not refused: all its elements exist and are accepted. -/
structure Matches (store : Store) (pattern : QuintuplePattern) (row : Quintuple) : Prop where
  sound : pattern.error? = none
  exist : ∀ address ∈ row.toList, store.contains address = true
  accepts : pattern.Accepts store row

theorem Accepts.matches (accepts : pattern.Accepts store row) (consistent : store.Consistent)
    (sound : pattern.error? = none) : pattern.Matches store row :=
  ⟨sound, accepts.contains consistent, accepts⟩

/-- Where the whole pattern is not refused, its patterns of triples are not. -/
theorem main_error?_eq_none (sound : pattern.error? = none) : pattern.main.error? = none :=
  firstFault?_eq_none_iff.2 fun position member =>
    firstFault?_eq_none_iff.1 sound position (List.mem_append_left _ member)

theorem relations_error?_eq_none (sound : pattern.error? = none) {edge : Address}
    (isValid : edge.isValid = true) : (pattern.relations edge).error? = none := by
  have sound := firstFault?_eq_none_iff.1 sound
  refine firstFault?_eq_none_iff.2 ?_
  simp only [TriplePattern.toList, relations, List.forall_mem_cons]
  refine ⟨sound _ (by simp [toList]), sound _ (by simp [toList]), ?_, nofun⟩
  rw [Pattern.fault?, if_pos isValid]

theorem Matches.mem_pending (matching : pattern.Matches store row) (consistent : store.Consistent) :
    row.main.edge ∈ pattern.main.pending store := by
  have accepts := matching.accepts.main
  exact (accepts.matches consistent (main_error?_eq_none matching.sound)).mem_pending consistent

theorem Matches.mem_relations (matching : pattern.Matches store row)
    (consistent : store.Consistent) :
    row.relationEdge ∈ (pattern.relations row.main.edge).pending store := by
  have isValid := consistent.isValid_of_contains
    (consistent.contains_of_ends? matching.accepts.main.ends).1
  have sound := relations_error?_eq_none matching.sound isValid
  exact (matching.accepts.related.matches consistent sound).mem_pending consistent

/-- The rows that a walk over the whole table finds: the triples, each joined with the relations of
its edge. -/
def tableRows (store : Store) (pattern : QuintuplePattern) : List Quintuple :=
  (pattern.main.tableRows store).flatMap fun main =>
    ((pattern.relations main.edge).tableRows store).map (join main)

theorem mem_tableRows_iff : row ∈ pattern.tableRows store ↔ pattern.Accepts store row := by
  simp only [tableRows, List.mem_flatMap, List.mem_map, TriplePattern.mem_tableRows_iff]
  constructor
  · rintro ⟨main, accepts, relation, related, rfl⟩
    exact accepts_join accepts related
  · intro accepts
    exact ⟨row.main, accepts.main, row.related, accepts.related, rfl⟩

theorem tableRows_ascending (store : Store) (pattern : QuintuplePattern) :
    (pattern.tableRows store).Pairwise Quintuple.Before := by
  refine List.pairwise_flatMap.2 ⟨fun main _ => ?_, ?_⟩
  · refine List.pairwise_map.2 ((TriplePattern.tableRows_ascending store _).imp ?_)
    exact fun before => .inr ⟨rfl, before⟩
  · refine (TriplePattern.tableRows_ascending store pattern.main).imp ?_
    intro main other before row member row' member'
    obtain ⟨relation, -, rfl⟩ := List.mem_map.1 member
    obtain ⟨relation', -, rfl⟩ := List.mem_map.1 member'
    exact .inl before

end QuintuplePattern

namespace QuintupleCursor

open QuintuplePattern

variable {cursor : QuintupleCursor}

/-- A cursor as a walk. -/
def walk : Walk QuintupleCursor Quintuple := ⟨next, current⟩

/-! ### What a step does -/

/-- Nothing is found at some edges, or among the relations of what is found there. -/
def IsBarren (store : Store) (pattern : QuintuplePattern) (edges : List Address) : Prop :=
  ∀ edge ∈ edges, ∀ main, pattern.main.rowAt? store edge = some main →
    (pattern.relations edge).HasNoRow store ((pattern.relations edge).pending store)

/-- Nothing is found any more among the relations of the triple at hand. -/
def IsSpent (store : Store) (cursor : QuintupleCursor) : Prop :=
  ∀ main edges, cursor.group = some (main, edges) →
    (cursor.pattern.relations main.edge).HasNoRow store edges

/-- What a step comes to. -/
inductive Step (store : Store) (cursor : QuintupleCursor) : QuintupleCursor → Prop where
  /-- It stops at another relation of the triple at hand. -/
  | within {main : Triple} {edges : List Address} {relation : Triple} {rest : List Address}
    (group : cursor.group = some (main, edges))
    (first : (cursor.pattern.relations main.edge).IsFirstRow store edges relation rest) :
    Step store cursor
      ⟨cursor.pattern, cursor.pending, some (main, rest), some (join main relation)⟩
  /-- It stops at the first relation of another triple. -/
  | onward {passed : List Address} {main : Triple} {pending : List Address} {relation : Triple}
    {rest : List Address} (spent : cursor.IsSpent store)
    (split : cursor.pending = passed ++ main.edge :: pending)
    (barren : IsBarren store cursor.pattern passed)
    (accepts : cursor.pattern.main.Accepts store main)
    (first : (cursor.pattern.relations main.edge).IsFirstRow store
      ((cursor.pattern.relations main.edge).pending store) relation rest) :
    Step store cursor ⟨cursor.pattern, pending, some (main, rest), some (join main relation)⟩
  /-- It comes to the end. -/
  | finished (spent : cursor.IsSpent store)
    (barren : IsBarren store cursor.pattern cursor.pending) :
    Step store cursor ⟨cursor.pattern, [], none, none⟩

theorem nextInGroup_cases (store : Store) (cursor : QuintupleCursor) (main : Triple)
    (edges : List Address) :
    (∃ relation rest,
      (cursor.pattern.relations main.edge).IsFirstRow store edges relation rest ∧
        nextInGroup store cursor main edges = some
          ⟨cursor.pattern, cursor.pending, some (main, rest), some (join main relation)⟩) ∨
    (cursor.pattern.relations main.edge).HasNoRow store edges ∧
      nextInGroup store cursor main edges = none := by
  unfold nextInGroup
  rcases (cursor.pattern.relations main.edge).firstRow?_cases store edges with
    ⟨relation, rest, found, first⟩ | ⟨found, none⟩
  · rw [found]
    exact .inl ⟨relation, rest, first, rfl⟩
  · rw [found]
    exact .inr ⟨none, rfl⟩

/-- A step that leaves the triple at hand, after it has passed over some edges. -/
theorem step_nextAmong (spent : cursor.IsSpent store) {passed : List Address}
    (split : cursor.pending = passed ++ rest) (barren : IsBarren store cursor.pattern passed) :
    Step store cursor (nextAmong store cursor rest) := by
  induction rest generalizing passed with
  | nil =>
    rw [List.append_nil] at split
    exact .finished spent (split ▸ barren)
  | cons edge others hypothesis =>
    have later : cursor.pending = (passed ++ [edge]) ++ others := by
      rw [split, List.append_assoc, List.singleton_append]
    unfold nextAmong
    cases atEdge : cursor.pattern.main.rowAt? store edge with
    | none =>
      refine hypothesis later fun other member main found => ?_
      rcases List.mem_append.1 member with member | member
      · exact barren other member main found
      · rw [List.mem_singleton.1 member, atEdge] at found
        cases found
    | some main =>
      obtain ⟨rfl, accepts⟩ := TriplePattern.rowAt?_eq_some_iff.1 atEdge
      rcases nextInGroup_cases store { cursor with pending := others } main
          ((cursor.pattern.relations main.edge).pending store) with
        ⟨relation, rest, first, found⟩ | ⟨none, found⟩
      · simp only [found]
        exact .onward spent split barren accepts first
      · simp only [found]
        refine hypothesis later fun other member main' found' => ?_
        rcases List.mem_append.1 member with member | member
        · exact barren other member main' found'
        · rw [List.mem_singleton.1 member]
          exact none

/-- **A step** stops within the relations of the triple at hand, goes on to another triple, or comes
to the end. -/
theorem step_next (store : Store) (cursor : QuintupleCursor) :
    Step store cursor (cursor.next store) := by
  have leaves : cursor.IsSpent store → Step store cursor (nextAmong store cursor cursor.pending) :=
    fun spent => step_nextAmong spent (List.nil_append _).symm
      fun _ member => absurd member List.not_mem_nil
  unfold next
  cases group : cursor.group with
  | none => exact leaves fun _ _ found => by rw [group] at found; cases found
  | some atHand =>
    obtain ⟨main, edges⟩ := atHand
    rcases nextInGroup_cases store cursor main edges with
      ⟨relation, rest, first, found⟩ | ⟨none, found⟩
    · simp only [Option.bind_some, found, Option.getD_some]
      exact .within group first
    · simp only [Option.bind_some, found, Option.getD_none]
      refine leaves fun _ _ found => ?_
      rw [group] at found
      cases found
      exact none

/-! ### What a step keeps -/

/-- What is kept of the triple at hand: it was read from an earlier store, it comes before all that
is to come, and its relations are ascending. -/
structure AtHand (store : Store) (pattern : QuintuplePattern) (pending : List Address)
    (main : Triple) (edges : List Address) : Prop where
  sound : pattern.error? = none
  read : ∃ before, before.Consistent ∧ before.Precedes store ∧ pattern.main.Accepts before main
  precedes : ∀ edge ∈ pending, main.edge < edge
  ascending : edges.Pairwise (· < ·)

/-- What is kept of a cursor on a pattern. -/
structure IsOn (pattern : QuintuplePattern) (store : Store) (cursor : QuintupleCursor) : Prop where
  same : cursor.pattern = pattern
  sound : ∀ {edge}, edge ∈ cursor.pending → pattern.error? = none
  ascending : cursor.pending.Pairwise (· < ·)
  group : ∀ {main edges}, cursor.group = some (main, edges) →
    AtHand store pattern cursor.pending main edges

theorem isOn_openOn (consistent : store.Consistent) (pattern : QuintuplePattern) :
    (openOn store pattern).IsOn pattern store where
  same := rfl
  sound {edge} member := by
    simp only [openOn] at member
    split at member
    · exact Option.isNone_iff_eq_none.1 ‹_›
    · cases member
  ascending := by
    simp only [openOn]
    split
    · exact TriplePattern.pending_ascending consistent pattern.main
    · exact .nil
  group found := by cases found

/-- **A relation that is found now shows that the triple at hand still matches.** -/
theorem AtHand.step {relation : Triple} (atHand : AtHand store pattern pending main edges)
    (consistent : store.Consistent)
    (first : (pattern.relations main.edge).IsFirstRow store edges relation rest) :
    pattern.Matches store (join main relation) ∧ AtHand store pattern pending main rest := by
  obtain ⟨before, consistent', precedes, accepts⟩ := atHand.read
  have related := first.accepts
  have accepted := consistent.contains_of_ends? related.ends
  have target : main.edge = relation.target := Pattern.eq_of_accepts rfl related.target
  have accepts := accepts.lasts consistent' consistent precedes (target ▸ accepted.2.2)
  refine ⟨(accepts_join accepts related).matches consistent atHand.sound, ?_⟩
  exact { atHand with ascending := (first.ascending atHand.ascending).2 }

/-- A triple that is read now is at hand. -/
theorem IsOn.atHand {passed : List Address} (isOn : cursor.IsOn pattern store)
    (consistent : store.Consistent) (split : cursor.pending = passed ++ main.edge :: pending)
    (accepts : cursor.pattern.main.Accepts store main) :
    AtHand store pattern pending main ((pattern.relations main.edge).pending store) where
  sound := isOn.sound (split ▸ List.mem_append_right _ List.mem_cons_self)
  read := ⟨store, consistent, .refl store, isOn.same ▸ accepts⟩
  precedes := by
    have ascending := isOn.ascending
    rw [split, List.pairwise_append, List.pairwise_cons] at ascending
    exact ascending.2.1.1
  ascending := TriplePattern.pending_ascending consistent _

/-- The rows ahead: those of the triple at hand, and those of the triples to come. -/
def IsAhead (cursor : QuintupleCursor) (row : Quintuple) : Prop :=
  (∃ edges, cursor.group = some (row.main, edges) ∧ row.relationEdge ∈ edges) ∨
    row.main.edge ∈ cursor.pending

/-- What is ahead comes after a row of the triple at hand. -/
theorem AtHand.comes_first {relation : Triple} {current : Option Quintuple}
    (atHand : AtHand store pattern pending main edges)
    (first : (pattern.relations main.edge).IsFirstRow store edges relation rest) :
    ∀ other, IsAhead ⟨pattern, pending, some (main, rest), current⟩ other →
      (join main relation).Before other := by
  rintro other (⟨others, group, member⟩ | member)
  · cases group
    exact .inr ⟨rfl, (first.ascending atHand.ascending).1 _ member⟩
  · exact .inl (atHand.precedes _ member)

/-! ### Rows that remain -/

/-- The rows of the triples to come, on a store that does not change. -/
def drainPending (store : Store) (pattern : QuintuplePattern) (pending : List Address) :
    List Quintuple :=
  (pending.filterMap (pattern.main.rowAt? store)).flatMap fun main =>
    drainGroup store pattern main ((pattern.relations main.edge).pending store)

theorem drain_eq (store : Store) (cursor : QuintupleCursor) : cursor.drain store =
    (cursor.group.elim [] fun group => drainGroup store cursor.pattern group.1 group.2) ++
      drainPending store cursor.pattern cursor.pending := rfl

theorem drainGroup_of_first {relation : Triple}
    (first : (pattern.relations main.edge).IsFirstRow store edges relation rest) :
    drainGroup store pattern main edges =
      join main relation :: drainGroup store pattern main rest := by
  rw [drainGroup, first.filterMap_eq, List.map_cons]
  rfl

theorem drainGroup_of_none (none : (pattern.relations main.edge).HasNoRow store edges) :
    drainGroup store pattern main edges = [] := by
  rw [drainGroup, List.filterMap_eq_nil_iff.2 none, List.map_nil]

theorem drainPending_of_barren (barren : IsBarren store pattern edges) :
    drainPending store pattern edges = [] := by
  refine List.flatMap_eq_nil_iff.2 fun main member => drainGroup_of_none ?_
  obtain ⟨edge, member, found⟩ := List.mem_filterMap.1 member
  obtain rfl := (TriplePattern.rowAt?_eq_some_iff.1 found).1
  exact barren _ member main found

theorem IsSpent.drain_eq (spent : cursor.IsSpent store) :
    cursor.drain store = drainPending store cursor.pattern cursor.pending := by
  rw [QuintupleCursor.drain_eq]
  cases group : cursor.group with
  | none => rfl
  | some atHand =>
    rw [Option.elim_some, drainGroup_of_none (spent atHand.1 atHand.2 group), List.nil_append]

namespace Step

variable {moved : QuintupleCursor} (step : Step store cursor moved)

include step

theorem isOn (consistent : store.Consistent) (isOn : cursor.IsOn pattern store) :
    moved.IsOn pattern store := by
  obtain rfl := isOn.same
  cases step with
  | within group first =>
    have atHand := ((isOn.group group).step consistent first).2
    exact ⟨rfl, isOn.sound, isOn.ascending, fun found => by cases found; exact atHand⟩
  | onward spent split barren accepts first =>
    have atHand := ((isOn.atHand consistent split accepts).step consistent first).2
    have ascending := isOn.ascending
    rw [split, List.pairwise_append, List.pairwise_cons] at ascending
    exact ⟨rfl, fun _ => atHand.sound, ascending.2.1.2, fun found => by cases found; exact atHand⟩
  | finished spent barren =>
    exact ⟨rfl, fun member => absurd member List.not_mem_nil, .nil, nofun⟩

theorem shows (consistent : store.Consistent) (isOn : cursor.IsOn pattern store)
    (shown : moved.current = some row) : pattern.Matches store row ∧ cursor.IsAhead row ∧
      ∀ other, moved.IsAhead other → row.Before other := by
  obtain rfl := isOn.same
  cases step with
  | within group first =>
    cases shown
    have atHand := isOn.group group
    exact ⟨(atHand.step consistent first).1, .inl ⟨_, group, first.mem⟩,
      atHand.comes_first first⟩
  | onward spent split barren accepts first =>
    cases shown
    have atHand := isOn.atHand consistent split accepts
    refine ⟨(atHand.step consistent first).1, .inr ?_, atHand.comes_first first⟩
    rw [split]
    exact List.mem_append_right _ List.mem_cons_self
  | finished spent barren => cases shown

theorem narrows (ahead : moved.IsAhead row) : cursor.IsAhead row := by
  cases step with
  | within group first =>
    rcases ahead with ⟨edges, group', member⟩ | member
    · cases group'
      exact .inl ⟨_, group, first.rest_subset member⟩
    · exact .inr member
  | onward spent split barren accepts first =>
    refine .inr ?_
    rw [split]
    refine List.mem_append_right _ ?_
    rcases ahead with ⟨edges, group', member⟩ | member
    · cases group'
      exact List.mem_cons_self
    · exact List.mem_cons_of_mem _ member
  | finished spent barren =>
    rcases ahead with ⟨edges, group', -⟩ | member
    · cases group'
    · cases member

/-- No row that matches is passed over: the triples that a step leaves behind have no more rows. -/
theorem settles (consistent : store.Consistent) (isOn : cursor.IsOn pattern store)
    (ahead : cursor.IsAhead row) (matching : pattern.Matches store row) :
    moved.current = some row ∨ moved.IsAhead row ∧ moved.current ≠ none := by
  obtain rfl := isOn.same
  have related := matching.accepts.related
  have notSpent : ∀ {edges}, cursor.group = some (row.main, edges) → row.relationEdge ∈ edges →
      ¬ cursor.IsSpent store :=
    fun group member spent => (spent _ _ group).not_accepts member related
  have notBarren : ∀ {edges}, row.main.edge ∈ edges → ¬ IsBarren store cursor.pattern edges :=
    fun member barren => (barren _ member row.main
      (TriplePattern.rowAt?_eq_some_iff.2 ⟨rfl, matching.accepts.main⟩)).not_accepts
        (matching.mem_relations consistent) related
  cases step with
  | within group first =>
    rcases ahead with ⟨edges, group', member⟩ | later
    · rw [group] at group'
      cases group'
      rcases first.settles related member with rfl | later
      · exact .inl rfl
      · exact .inr ⟨.inl ⟨_, rfl, later⟩, nofun⟩
    · exact .inr ⟨.inr later, nofun⟩
  | @onward passed main pending relation rest spent split barren accepts first =>
    rcases ahead with ⟨edges, group, member⟩ | member
    · exact absurd spent (notSpent group member)
    rw [split] at member
    rcases List.mem_append.1 member with passed | member
    · exact absurd barren (notBarren passed)
    rcases List.mem_cons.1 member with here | later
    · obtain rfl : main = row.main := accepts.unique matching.accepts.main here.symm
      rcases first.settles related (matching.mem_relations consistent) with rfl | later
      · exact .inl rfl
      · exact .inr ⟨.inl ⟨_, rfl, later⟩, nofun⟩
    · exact .inr ⟨.inr later, nofun⟩
  | finished spent barren =>
    rcases ahead with ⟨edges, group, member⟩ | member
    · exact absurd spent (notSpent group member)
    · exact absurd barren (notBarren member)

/-- On a store that does not change, a step takes away the row that it shows. -/
theorem drain_eq : cursor.drain store = moved.current.toList ++ moved.drain store := by
  cases step with
  | within group first =>
    rw [QuintupleCursor.drain_eq, group, Option.elim_some, drainGroup_of_first first]
    rfl
  | onward spent split barren accepts first =>
    rw [spent.drain_eq, split, drainPending, List.filterMap_append, List.flatMap_append,
      List.filterMap_cons_some (TriplePattern.rowAt?_eq_some_iff.2 ⟨rfl, accepts⟩),
      List.flatMap_cons, drainGroup_of_first first]
    have nothing := drainPending_of_barren barren
    rw [drainPending] at nothing
    rw [nothing]
    rfl
  | finished spent barren =>
    rw [spent.drain_eq, drainPending_of_barren barren]
    rfl

end Step

/-- **What a step does with the rows ahead.** -/
theorem advances (pattern : QuintuplePattern) : walk.Advances (fun store => IsOn pattern store)
    pattern.Matches
    (fun store row => store.contains row.relationEdge = true) IsAhead Quintuple.Before where
  ages {before after cursor} isOn precedes := {
    isOn with
    group := fun found => by
      have atHand := isOn.group found
      obtain ⟨store, consistent, precedes', accepts⟩ := atHand.read
      exact { atHand with read := ⟨store, consistent, precedes'.trans precedes, accepts⟩ } }
  keeps {store cursor} := (cursor.step_next store).isOn
  shows {store cursor row} := (cursor.step_next store).shows
  narrows {store cursor row} _ _ := (cursor.step_next store).narrows
  settles {store cursor row} := (cursor.step_next store).settles
  lasts {before store after row} consistent consistent' precedes precedes' matching there := by
    have relationEdge := matching.exist row.relationEdge (by simp [Quintuple.toList])
    have there := precedes.contains_between precedes' consistent relationEdge there
    exact (matching.accepts.lasts consistent consistent' precedes there).matches consistent'
      matching.sound

/-! ### A whole walk -/

/-- **A walk over a store that changes** shows rows that match when they are shown, in order, and all
rows that matched at the start and are still there at the end. -/
theorem faithful_visits {opened : Store} {stores : List Store} (lineage : opened.Lineage stores)
    (pattern : QuintuplePattern) : Walk.Faithful pattern.Matches
      (fun store row => store.contains row.relationEdge = true) Quintuple.Before opened
      (walk.visits (openOn opened pattern) stores) := by
  refine (advances pattern).faithful lineage (isOn_openOn lineage.start pattern) fun row matching => ?_
  refine .inr ?_
  show row.main.edge ∈ if pattern.error?.isNone then pattern.main.pending opened else []
  rw [if_pos (Option.isNone_iff_eq_none.2 matching.sound)]
  exact matching.mem_pending lineage.start

/-- **On a store that does not change, the steps list the rows that remain.** -/
theorem visits_unchanged (store : Store) (cursor : QuintupleCursor) (count : Nat) :
    (walk.visits cursor (List.replicate count store)).map Prod.snd =
      (List.range count).map fun step => (cursor.drain store)[step]? := by
  refine Walk.visits_replicate (fun cursor => (cursor.step_next store).drain_eq)
    (fun cursor shown => ?_) cursor count
  change (cursor.next store).current = none at shown
  show (cursor.next store).drain store = []
  have step := cursor.step_next store
  generalize cursor.next store = moved at shown step ⊢
  cases step with
  | within group first => cases shown
  | onward spent split barren accepts first => cases shown
  | finished spent barren => rfl

/-- **A cursor that is drained has the rows of the whole table**, unless the pattern is refused. -/
theorem drain_openOn (consistent : store.Consistent) (pattern : QuintuplePattern) :
    (openOn store pattern).drain store =
      if pattern.error?.isNone then pattern.tableRows store else [] := by
  show drainPending store pattern (if pattern.error?.isNone then _ else _) = _
  by_cases sound : pattern.error? = none
  · have isNone := Option.isNone_iff_eq_none.2 sound
    have main : (pattern.main.pending store).filterMap (pattern.main.rowAt? store) =
        pattern.main.tableRows store := by
      have rows := TriplePattern.rows_eq consistent pattern.main
      rwa [main_error?_eq_none sound] at rows
    rw [if_pos isNone, if_pos isNone, drainPending, main]
    refine List.flatMap_congr fun row member => ?_
    have accepts := TriplePattern.mem_tableRows_iff.1 member
    have isValid := consistent.isValid_of_contains (consistent.contains_of_ends? accepts.ends).1
    have relations := TriplePattern.rows_eq consistent (pattern.relations row.edge)
    rw [relations_error?_eq_none sound isValid] at relations
    exact congrArg (List.map (join row)) relations
  · have refused : ¬ pattern.error?.isNone = true :=
      fun isNone => sound (Option.isNone_iff_eq_none.1 isNone)
    rw [if_neg refused, if_neg refused]
    rfl

/-- **On a store that does not change, a walk lists the rows that match.** -/
theorem exact_openOn (consistent : store.Consistent) (pattern : QuintuplePattern) :
    walk.Exact (pattern.Matches store) Quintuple.Before store (openOn store pattern)
      ((openOn store pattern).drain store) := by
  have ordered : ((openOn store pattern).drain store).Pairwise Quintuple.Before := by
    rw [drain_openOn consistent]
    split
    · exact tableRows_ascending store pattern
    · exact .nil
  refine ⟨fun {row} => ?_, ordered, ordered.nodup, visits_unchanged store (openOn store pattern)⟩
  rw [drain_openOn consistent]
  by_cases sound : pattern.error? = none
  · rw [if_pos (Option.isNone_iff_eq_none.2 sound), mem_tableRows_iff]
    exact ⟨fun accepts => accepts.matches consistent sound, Matches.accepts⟩
  · rw [if_neg fun isNone => sound (Option.isNone_iff_eq_none.1 isNone)]
    exact iff_of_false List.not_mem_nil fun matching => sound matching.sound

end QuintupleCursor

end SemanticNetwork
