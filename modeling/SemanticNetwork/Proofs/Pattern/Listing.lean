/-
**When edges are listed.** A cursor shows only edges that it has listed before, and it lists those
that the store has then, or the one that a pattern fixes, whether it exists or not. Triples are
listed when the cursor is opened. The edges that enter a triple's edge are listed later, by the step
that first shows a row of that triple.

* `TriplePattern.isKnown_of_mem_pending`: what is listed is there, or fixed;
* `TripleCursor.isKnown_of_mem_visits`: **the edges of triples were there when the cursor was opened**;
* `QuintupleCursor.Enters`: the step at which a walk comes to a triple;
* `QuintupleCursor.Foresees`: where the relation of a row comes from;
* `QuintupleCursor.isKnown_of_mem_visits`: **the edges that enter a triple's edge were there when the
  walk came to that triple.**
-/
import SemanticNetwork.Proofs.Pattern.Quintuples

namespace SemanticNetwork

/-- An edge is in the store, or a pattern fixes it. -/
def Pattern.IsKnown (store : Store) (pattern : Pattern) (edge : Address) : Prop :=
  store.contains edge = true ∨ pattern = .fixed edge

/-! ### What is listed -/

namespace TriplePattern

variable {store : Store} {pattern : TriplePattern} {edges : List Address} {edge : Address}

theorem IsSource.isKnown (source : pattern.IsSource store edges) (consistent : store.Consistent)
    (member : edge ∈ edges) : pattern.edge.IsKnown store edge := by
  have answers := Store.answersFromTable_of_consistent consistent
  have scanned : ∀ {test}, edge ∈ store.scan test → pattern.edge.IsKnown store edge := by
    intro test member
    obtain ⟨element, found, -⟩ := Store.mem_scan_iff.1 member
    exact .inl (Store.contains_of_get? found)
  cases source with
  | @edge wanted fixes =>
    rw [List.mem_singleton.1 member]
    cases same : pattern.edge with
    | fixed address =>
      rw [same] at fixes
      cases fixes
      exact .inr rfl
    | typed requested =>
      rw [same] at fixes
      cases fixes
  | leaving fixes => exact scanned (answers.edgesFrom _ _ ▸ member)
  | entering fixes => exact scanned (answers.edgesInto _ _ ▸ member)
  | ofType => exact scanned (answers.edgesOfType _ ▸ member)

/-- **What a cursor lists is there, or fixed.** -/
theorem isKnown_of_mem_pending (consistent : store.Consistent)
    (member : edge ∈ pattern.pending store) : pattern.edge.IsKnown store edge := by
  unfold pending at member
  split at member
  · exact (isSource_candidates store pattern).isKnown consistent member
  · cases member

end TriplePattern

/-! ### Triples -/

/-- **The edges of triples were there when the cursor was opened**, or they are fixed. -/
theorem TripleCursor.isKnown_of_mem_visits {opened store : Store} {stores : List Store}
    {pattern : TriplePattern} {row : Triple} (lineage : opened.Lineage stores)
    (member : (store, some row) ∈ walk.visits (openOn opened pattern) stores) :
    pattern.edge.IsKnown opened row.edge := by
  have listed : row.edge ∈ pattern.pending opened :=
    ((advances pattern).of_mem_visits lineage (isOn_openOn lineage.start pattern) member).2
  exact TriplePattern.isKnown_of_mem_pending lineage.start listed

/-! ### Quintuples -/

namespace QuintupleCursor

open QuintuplePattern

variable {opened store met : Store} {stores : List Store} {pattern : QuintuplePattern}
  {cursor moved : QuintupleCursor} {row : Quintuple} {main : Triple} {edges : List Address}

/-- The relations of a triple are those that a cursor has at hand, or the triple was to come and they
are listed now. -/
def Lists (store : Store) (cursor : QuintupleCursor) (main : Triple) (edges : List Address) : Prop :=
  (∃ atHand, cursor.group = some (main, atHand) ∧ edges ⊆ atHand) ∨
    main.edge ∈ cursor.pending ∧ edges ⊆ (cursor.pattern.relations main.edge).pending store

/-- A step that shows a row has its triple at hand, with relations that are listed by now. -/
theorem Step.lists_of_shown (step : Step store cursor moved) (shown : moved.current = some row) :
    ∃ rest, moved.group = some (row.main, rest) ∧
      cursor.Lists store row.main (row.relationEdge :: rest) := by
  cases step with
  | within group first =>
    cases shown
    exact ⟨_, rfl, .inl ⟨_, group, first.sublist.subset⟩⟩
  | onward spent split barren accepts first =>
    cases shown
    refine ⟨_, rfl, .inr ⟨?_, first.sublist.subset⟩⟩
    rw [split]
    exact List.mem_append_right _ List.mem_cons_self
  | finished spent barren => cases shown

/-- A step that has a triple at hand shows a row of it. -/
theorem Step.exists_shown (step : Step store cursor moved) (group : moved.group = some (main, edges)) :
    ∃ row, moved.current = some row ∧ row.main = main := by
  cases step with
  | within _ first => cases group; exact ⟨_, rfl, rfl⟩
  | onward spent split barren accepts first => cases group; exact ⟨_, rfl, rfl⟩
  | finished spent barren => cases group

theorem Step.pending_subset (step : Step store cursor moved) : moved.pending ⊆ cursor.pending := by
  cases step with
  | within group first => exact List.Subset.refl _
  | onward spent split barren accepts first =>
    rw [split]
    exact fun _ member => List.mem_append_right _ (List.mem_cons_of_mem _ member)
  | finished spent barren => exact List.nil_subset _

/-- The step at which a walk comes to a triple, and the store that it meets: it shows a row of that
triple, and all that was shown before are rows of earlier triples. -/
def Enters (visits : List (Store × Option Quintuple)) (main : Triple) (met : Store) : Prop :=
  ∃ earlier first later, visits = earlier ++ (met, some first) :: later ∧ first.main = main ∧
    ∀ other ∈ Walk.rowsOf earlier, other.main.edge < main.edge

/-- A walk that comes to a triple after a step comes to it, if the step shows an earlier triple. -/
theorem Enters.after_step {shown : Option Quintuple} {visits : List (Store × Option Quintuple)}
    (enters : Enters visits main met)
    (before : ∀ row, shown = some row → row.main.edge < main.edge) :
    Enters ((store, shown) :: visits) main met := by
  obtain ⟨earlier, first, later, rfl, same, precede⟩ := enters
  refine ⟨(store, shown) :: earlier, first, later, rfl, same, fun other member => ?_⟩
  obtain ⟨⟨_, _⟩, member, shown'⟩ := List.mem_filterMap.1 member
  rcases List.mem_cons.1 member with here | member
  · obtain ⟨rfl, rfl⟩ := Prod.mk.inj here
    exact before other shown'
  · exact precede other (List.mem_filterMap.2 ⟨_, member, shown'⟩)

/-- The relation of a row is at hand, or the triple of the row is to come, and the relation is listed
when the walk comes to it. -/
def Foresees (cursor : QuintupleCursor) (stores : List Store) (row : Quintuple) : Prop :=
  (∃ edges, cursor.group = some (row.main, edges) ∧ row.relationEdge ∈ edges) ∨
    row.main.edge ∈ cursor.pending ∧ ∃ met ∈ stores,
      Enters (walk.visits cursor stores) row.main met ∧
        row.relationEdge ∈ (cursor.pattern.relations row.main.edge).pending met

/-- A relation that a step has at hand is foreseen: if it was not at hand before, the step comes to its
triple. -/
theorem Lists.foresees {shown : Quintuple} (lists : cursor.Lists store row.main edges)
    (shows : (cursor.next store).current = some shown) (same : shown.main = row.main)
    (member : row.relationEdge ∈ edges) : cursor.Foresees (store :: stores) row := by
  rcases lists with ⟨atHand, group, subset⟩ | ⟨toCome, subset⟩
  · exact .inl ⟨atHand, group, subset member⟩
  · refine .inr ⟨toCome, store, List.mem_cons_self, ?_, subset member⟩
    refine ⟨[], shown, walk.visits (cursor.next store) stores, ?_, same, nofun⟩
    rw [List.nil_append, ← shows]
    rfl

/-- **Every relation that is shown is foreseen.** The induction is on the stores that the walk meets. -/
theorem foresees_of_mem_visits (lineage : opened.Lineage stores) (isOn : cursor.IsOn pattern opened)
    (member : (store, some row) ∈ walk.visits cursor stores) : cursor.Foresees stores row := by
  induction stores generalizing opened cursor with
  | nil => cases member
  | cons reached later hypothesis =>
    obtain ⟨consistent, precedes⟩ := lineage.of_mem List.mem_cons_self
    have isOn := (advances pattern).ages isOn precedes
    have step := cursor.step_next reached
    have movedOn := step.isOn consistent isOn
    rcases List.mem_cons.1 member with here | member
    · obtain ⟨rfl, shown⟩ := Prod.mk.inj here
      obtain ⟨rest, -, lists⟩ := step.lists_of_shown shown.symm
      exact lists.foresees shown.symm rfl List.mem_cons_self
    rcases hypothesis lineage.tail movedOn member with
      ⟨edges, group, inEdges⟩ | ⟨toCome, met, inLater, enters, listed⟩
    · -- The next step has the relation at hand, so this one shows a row of the same triple.
      obtain ⟨shown, shows, same⟩ := step.exists_shown group
      obtain ⟨rest, group', lists⟩ := step.lists_of_shown shows
      rw [group] at group'
      obtain ⟨-, rfl⟩ := Prod.mk.inj (Option.some.inj group')
      exact (same ▸ lists).foresees shows same (List.mem_cons_of_mem _ inEdges)
    · rw [movedOn.same, ← isOn.same] at listed
      refine .inr ⟨step.pending_subset toCome, met, List.mem_cons_of_mem _ inLater, ?_, listed⟩
      refine enters.after_step fun shown shows => ?_
      obtain ⟨rest, group, -⟩ := step.lists_of_shown shows
      exact (movedOn.group group).precedes _ toCome

/-- **The edges of a row were there when they were listed**, or they are fixed: the edge of its triple
when the cursor was opened, and the edge that enters that one when the walk came to the triple. -/
theorem isKnown_of_mem_visits (lineage : opened.Lineage stores)
    (member : (store, some row) ∈ walk.visits (openOn opened pattern) stores) :
    pattern.main.edge.IsKnown opened row.main.edge ∧
      ∃ met, Enters (walk.visits (openOn opened pattern) stores) row.main met ∧
        pattern.relationEdge.IsKnown met row.relationEdge := by
  rcases foresees_of_mem_visits lineage (isOn_openOn lineage.start pattern) member with
    ⟨edges, group, -⟩ | ⟨toCome, met, reached, enters, listed⟩
  · cases group
  · have inMain : row.main.edge ∈ pattern.main.pending opened := by
      simp only [openOn] at toCome
      split at toCome
      · exact toCome
      · cases toCome
    exact ⟨TriplePattern.isKnown_of_mem_pending lineage.start inMain, met, enters,
      TriplePattern.isKnown_of_mem_pending (lineage.consistent met reached) listed⟩

end QuintupleCursor

end SemanticNetwork
