/-
**Walking over triples.** A cursor lists the edges that may answer once, and reads each of them when
its turn comes. An edge that is erased in between is passed over. One that is not erased has kept its
type and its ends, and so have its ends, so it still matches if it matched before.

* `Accepts.lasts`: **a row stays a row until its edge is erased**;
* `TripleCursor.next_cases`: what a step does, `advances`: and what that does to the rows ahead;
* `faithful_visits`: **a walk shows rows that match, in order, and all that stay**;
* `drain_openOn`, `exact_openOn`: on a store that does not change, it lists the rows of the whole
  table.
-/
import SemanticNetwork.Proofs.Pattern.Rows
import SemanticNetwork.Proofs.Pattern.Walk

namespace SemanticNetwork

variable {store before after : Store} {row : Triple} {edges rest : List Address}

/-! ### Refused patterns -/

/-- **A pattern can stand somewhere** unless it fixes the address that denotes nothing, or requests
an inconsistent type. -/
theorem Pattern.fault?_eq_none_iff {pattern : Pattern} : pattern.fault? = none ↔
    pattern ≠ .fixed .invalid ∧ ∀ type, pattern = .typed type → type.isConsistent = true := by
  cases pattern with
  | fixed address =>
    obtain ⟨value⟩ := address
    simp [fault?, Address.isValid, Address.invalid]
  | typed type => simp [fault?, ElementType.isConsistent]

theorem firstFault?_eq_none_iff {position : Nat} {patterns : List Pattern} :
    firstFault? position patterns = none ↔ ∀ pattern ∈ patterns, pattern.fault? = none := by
  induction patterns generalizing position with
  | nil => simp [firstFault?]
  | cons pattern rest hypothesis =>
    rw [firstFault?, List.forall_mem_cons]
    cases pattern.fault? with
    | some reason => simp
    | none => simp [hypothesis]

/-- A list of patterns is refused if one of them can stand nowhere. -/
theorem firstFault?_isNone_iff {position : Nat} {patterns : List Pattern} :
    (firstFault? position patterns).isNone = true ↔ ∀ pattern ∈ patterns,
      pattern ≠ .fixed .invalid ∧ ∀ type, pattern = .typed type → type.isConsistent = true := by
  rw [Option.isNone_iff_eq_none, firstFault?_eq_none_iff]
  exact forall₂_congr fun _ _ => Pattern.fault?_eq_none_iff

/-! ### Rows of a store that changes -/

/-- Whether an element is accepted depends on its type only. -/
theorem Pattern.accepts_congr {pattern : Pattern} {address : Address}
    (same : after.type? address = before.type? address) :
    pattern.accepts after address = pattern.accepts before address := by
  cases pattern with
  | fixed wanted => rfl
  | typed requested => simp only [accepts, same]

namespace TriplePattern

variable {pattern : TriplePattern}

theorem Accepts.contains (accepts : pattern.Accepts store row) (consistent : store.Consistent) :
    ∀ address ∈ row.toList, store.contains address = true := by
  obtain ⟨edge, source, target⟩ := consistent.contains_of_ends? accepts.ends
  simp [Triple.toList, edge, source, target]

/-- **A row stays a row until its edge is erased.** -/
theorem Accepts.lasts (accepts : pattern.Accepts before row) (consistent : before.Consistent)
    (consistent' : after.Consistent) (precedes : before.Precedes after)
    (there : after.contains row.edge = true) : pattern.Accepts after row := by
  obtain ⟨edgeThere, sourceThere, targetThere⟩ := consistent.contains_of_ends? accepts.ends
  obtain ⟨-, edgeType, ends⟩ := precedes.kept (consistent.handedOut edgeThere) there
  have ends := ends.trans accepts.ends
  obtain ⟨-, sourceThere', targetThere'⟩ := consistent'.contains_of_ends? ends
  obtain ⟨-, sourceType, -⟩ := precedes.kept (consistent.handedOut sourceThere) sourceThere'
  obtain ⟨-, targetType, -⟩ := precedes.kept (consistent.handedOut targetThere) targetThere'
  exact {
    ends := ends
    source := (Pattern.accepts_congr sourceType).trans accepts.source
    edge := (Pattern.accepts_congr edgeType).trans accepts.edge
    target := (Pattern.accepts_congr targetType).trans accepts.target }

/-- A row of a pattern that is not refused: its edge and its ends exist and are accepted. -/
structure Matches (store : Store) (pattern : TriplePattern) (row : Triple) : Prop where
  sound : pattern.error? = none
  exist : ∀ address ∈ row.toList, store.contains address = true
  accepts : pattern.Accepts store row

theorem Accepts.matches (accepts : pattern.Accepts store row) (consistent : store.Consistent)
    (sound : pattern.error? = none) : pattern.Matches store row :=
  ⟨sound, accepts.contains consistent, accepts⟩

/-- A row that matches is among the edges that a cursor lists. -/
theorem Matches.mem_pending (matching : pattern.Matches store row) (consistent : store.Consistent) :
    row.edge ∈ pattern.pending store := by
  rw [pending, if_pos (Option.isNone_iff_eq_none.2 matching.sound)]
  exact (isSource_candidates store pattern).mem_of_accepts consistent matching.accepts

/-- A row is the first among some edges, and others come after it. -/
def IsFirstRow (store : Store) (pattern : TriplePattern) (edges : List Address) (row : Triple)
    (rest : List Address) : Prop :=
  ∃ skipped, edges = skipped ++ row.edge :: rest ∧
    (∀ edge ∈ skipped, pattern.rowAt? store edge = none) ∧
      pattern.rowAt? store row.edge = some row

/-- Nothing is found among some edges. -/
def HasNoRow (store : Store) (pattern : TriplePattern) (edges : List Address) : Prop :=
  ∀ edge ∈ edges, pattern.rowAt? store edge = none

theorem firstRow?_cases (store : Store) (pattern : TriplePattern) (edges : List Address) :
    (∃ row rest, pattern.firstRow? store edges = some (row, rest) ∧
      pattern.IsFirstRow store edges row rest) ∨
    pattern.firstRow? store edges = none ∧ pattern.HasNoRow store edges := by
  induction edges with
  | nil => exact .inr ⟨rfl, fun _ member => absurd member List.not_mem_nil⟩
  | cons edge others hypothesis =>
    unfold firstRow?
    cases atEdge : pattern.rowAt? store edge with
    | some first =>
      obtain rfl := (rowAt?_eq_some_iff.1 atEdge).1
      exact .inl ⟨first, others, rfl, [], rfl, fun _ member => absurd member List.not_mem_nil, atEdge⟩
    | none =>
      rcases hypothesis with ⟨row, rest, found, skipped, rfl, none, atRow⟩ | ⟨found, none⟩
      · exact .inl ⟨row, rest, found, edge :: skipped, rfl,
          List.forall_mem_cons.2 ⟨atEdge, none⟩, atRow⟩
      · exact .inr ⟨found, List.forall_mem_cons.2 ⟨atEdge, none⟩⟩

namespace IsFirstRow

variable (first : pattern.IsFirstRow store edges row rest)

include first

theorem accepts : pattern.Accepts store row := by
  obtain ⟨-, -, -, atRow⟩ := first
  exact (rowAt?_eq_some_iff.1 atRow).2

theorem sublist : (row.edge :: rest).Sublist edges := by
  obtain ⟨skipped, rfl, -⟩ := first
  exact List.sublist_append_right skipped _

theorem mem : row.edge ∈ edges := first.sublist.subset List.mem_cons_self

theorem rest_subset : rest ⊆ edges := fun _ member =>
  first.sublist.subset (List.mem_cons_of_mem _ member)

/-- The others come after the row, if the edges are ascending. -/
theorem ascending (ascending : edges.Pairwise (· < ·)) :
    (∀ edge ∈ rest, row.edge < edge) ∧ rest.Pairwise (· < ·) :=
  List.pairwise_cons.1 (ascending.sublist first.sublist)

/-- Another row is after the first. -/
theorem settles {other : Triple} (accepts : pattern.Accepts store other)
    (member : other.edge ∈ edges) : other = row ∨ other.edge ∈ rest := by
  have atOther : pattern.rowAt? store other.edge = some other :=
    rowAt?_eq_some_iff.2 ⟨rfl, accepts⟩
  obtain ⟨skipped, rfl, none, atRow⟩ := first
  rcases List.mem_append.1 member with passed | member
  · rw [none _ passed] at atOther
    cases atOther
  rcases List.mem_cons.1 member with here | later
  · rw [here, atRow] at atOther
    exact .inl (Option.some.inj atOther).symm
  · exact .inr later

theorem filterMap_eq : edges.filterMap (pattern.rowAt? store) =
    row :: rest.filterMap (pattern.rowAt? store) := by
  obtain ⟨skipped, rfl, none, atRow⟩ := first
  rw [List.filterMap_append, List.filterMap_eq_nil_iff.2 none, List.nil_append,
    List.filterMap_cons_some atRow]

end IsFirstRow

theorem HasNoRow.not_accepts (none : pattern.HasNoRow store edges) (member : row.edge ∈ edges) :
    ¬ pattern.Accepts store row := by
  intro accepts
  have atRow : pattern.rowAt? store row.edge = some row := rowAt?_eq_some_iff.2 ⟨rfl, accepts⟩
  rw [none _ member] at atRow
  cases atRow

theorem pending_ascending (consistent : store.Consistent) (pattern : TriplePattern) :
    (pattern.pending store).Pairwise (· < ·) := by
  unfold pending
  split
  · exact (isSource_candidates store pattern).ascending consistent
  · exact .nil

end TriplePattern

namespace TripleCursor

open TriplePattern

variable {pattern : TriplePattern} {cursor : TripleCursor}

/-- A cursor as a walk. -/
def walk : Walk TripleCursor Triple := ⟨next, current⟩

/-! ### What a step does -/

/-- **A step** goes on to the first edge that matches now, or comes to the end. -/
theorem next_cases (store : Store) (cursor : TripleCursor) :
    (∃ row rest, cursor.pattern.IsFirstRow store cursor.pending row rest ∧
      cursor.next store = { cursor with pending := rest, current := some row }) ∨
    cursor.pattern.HasNoRow store cursor.pending ∧
      cursor.next store = { cursor with pending := [], current := none } := by
  unfold next
  rcases cursor.pattern.firstRow?_cases store cursor.pending with
    ⟨row, rest, found, first⟩ | ⟨found, none⟩
  · rw [found]
    exact .inl ⟨row, rest, first, rfl⟩
  · rw [found]
    exact .inr ⟨none, rfl⟩

/-- What is kept of a cursor on a pattern. -/
structure IsOn (pattern : TriplePattern) (cursor : TripleCursor) : Prop where
  same : cursor.pattern = pattern
  sound : ∀ {edge}, edge ∈ cursor.pending → pattern.error? = none
  ascending : cursor.pending.Pairwise (· < ·)

theorem isOn_openOn (consistent : store.Consistent) (pattern : TriplePattern) :
    (openOn store pattern).IsOn pattern where
  same := rfl
  sound {edge} member := by
    change edge ∈ pattern.pending store at member
    unfold TriplePattern.pending at member
    split at member
    · exact Option.isNone_iff_eq_none.1 ‹_›
    · cases member
  ascending := pending_ascending consistent pattern

/-- **What a step does with the rows ahead.** -/
theorem advances (pattern : TriplePattern) : walk.Advances (fun _ => IsOn pattern)
    pattern.Matches (fun store row => store.contains row.edge = true)
    (fun cursor row => row.edge ∈ cursor.pending) Triple.Before where
  ages isOn _ := isOn
  keeps {store cursor} _ isOn := by
    show (cursor.next store).IsOn pattern
    obtain ⟨row, rest, first, next⟩ | ⟨-, next⟩ := cursor.next_cases store
    · rw [next]
      exact ⟨isOn.same, fun member => isOn.sound (first.rest_subset member),
        (first.ascending isOn.ascending).2⟩
    · rw [next]
      exact ⟨isOn.same, fun member => absurd member List.not_mem_nil, .nil⟩
  shows {store cursor row} consistent isOn shown := by
    change (cursor.next store).current = some row at shown
    show _ ∧ _ ∧ ∀ other : Triple, other.edge ∈ (cursor.next store).pending → row.edge < other.edge
    obtain ⟨found, rest, first, next⟩ | ⟨-, next⟩ := cursor.next_cases store
    · rw [next] at shown ⊢
      obtain rfl : found = row := Option.some.inj shown
      have accepts := isOn.same ▸ first.accepts
      exact ⟨accepts.matches consistent (isOn.sound first.mem), first.mem,
        fun other => (first.ascending isOn.ascending).1 other.edge⟩
    · rw [next] at shown
      cases shown
  narrows {store cursor row} _ _ ahead := by
    change row.edge ∈ (cursor.next store).pending at ahead
    obtain ⟨found, rest, first, next⟩ | ⟨-, next⟩ := cursor.next_cases store
    · rw [next] at ahead
      exact first.rest_subset ahead
    · rw [next] at ahead
      cases ahead
  settles {store cursor row} _ isOn ahead matching := by
    show (cursor.next store).current = some row ∨
      row.edge ∈ (cursor.next store).pending ∧ (cursor.next store).current ≠ none
    have accepts : cursor.pattern.Accepts store row := isOn.same ▸ matching.accepts
    obtain ⟨found, rest, first, next⟩ | ⟨none, next⟩ := cursor.next_cases store
    · rw [next]
      rcases first.settles accepts ahead with here | later
      · exact .inl (congrArg some here.symm)
      · exact .inr ⟨later, nofun⟩
    · exact absurd accepts (none.not_accepts ahead)
  lasts {before store after row} consistent consistent' precedes precedes' matching there := by
    have edge := matching.exist row.edge (by simp [Triple.toList])
    have there := precedes.contains_between precedes' consistent edge there
    exact (matching.accepts.lasts consistent consistent' precedes there).matches consistent'
      matching.sound

/-! ### A whole walk -/

/-- **A walk over a store that changes** shows rows that match when they are shown, in the order of
their edges, and all rows that matched at the start and are still there at the end. -/
theorem faithful_visits {opened : Store} {stores : List Store} (lineage : opened.Lineage stores)
    (pattern : TriplePattern) : Walk.Faithful pattern.Matches
      (fun store row => store.contains row.edge = true) Triple.Before opened
      (walk.visits (openOn opened pattern) stores) :=
  (advances pattern).faithful lineage (isOn_openOn lineage.start pattern) fun _ matching =>
    matching.mem_pending lineage.start

theorem drain_eq (store : Store) (cursor : TripleCursor) : cursor.drain store =
    (cursor.next store).current.toList ++ (cursor.next store).drain store := by
  obtain ⟨row, rest, first, next⟩ | ⟨none, next⟩ := cursor.next_cases store
  · rw [next, drain, first.filterMap_eq]
    rfl
  · rw [next, drain, List.filterMap_eq_nil_iff.2 none]
    rfl

/-- **On a store that does not change, the steps list the rows that remain.** -/
theorem visits_unchanged (store : Store) (cursor : TripleCursor) (count : Nat) :
    (walk.visits cursor (List.replicate count store)).map Prod.snd =
      (List.range count).map fun step => (cursor.drain store)[step]? := by
  refine Walk.visits_replicate (drain_eq store) (fun cursor shown => ?_) cursor count
  change (cursor.next store).current = none at shown
  show (cursor.next store).drain store = []
  obtain ⟨row, rest, -, next⟩ | ⟨-, next⟩ := cursor.next_cases store
  · rw [next] at shown
    cases shown
  · rw [next]
    rfl

/-- **A cursor that is drained has the rows of the whole table**, unless the pattern is refused. -/
theorem drain_openOn (consistent : store.Consistent) (pattern : TriplePattern) :
    (openOn store pattern).drain store =
      if pattern.error?.isNone then pattern.tableRows store else [] :=
  rows_eq consistent pattern

/-- **On a store that does not change, a walk lists the rows that match.** -/
theorem exact_openOn (consistent : store.Consistent) (pattern : TriplePattern) :
    walk.Exact (pattern.Matches store) Triple.Before store (openOn store pattern)
      ((openOn store pattern).drain store) where
  mem_iff {row} := by
    refine (mem_rows_iff consistent).trans ?_
    constructor
    · rintro ⟨sound, accepts⟩
      exact accepts.matches consistent sound
    · intro matching
      exact ⟨matching.sound, matching.accepts⟩
  ordered := rows_ascending consistent pattern
  nodup := rows_nodup consistent pattern
  steps := visits_unchanged store (openOn store pattern)

end TripleCursor

end SemanticNetwork
