/-
**The rows of a pattern.** A cursor asks one index for candidates and tests each of them. Whichever
index it asks, in a consistent store it finds every edge that all three positions of the pattern
accept, and it finds it once, in the order of the edges.

* `rowAt?_eq_some_iff`: when an edge is a row;
* `IsSource.mem_of_accepts`: **every index that may be asked knows every row**;
* `IsSource.filterMap_eq`, `rows_eq`: so the rows are those that a walk over the whole table finds;
* `mem_rows_iff`, `rows_nodup`: they are the edges that match, each once.
-/
import Mathlib.Data.List.Nodup
import SemanticNetwork.Pattern.Triple
import SemanticNetwork.Proofs.Store.Queries

namespace SemanticNetwork

/-- Rows come in the order of their edges. -/
def Triple.Before (row other : Triple) : Prop := row.edge < other.edge

instance : Std.Irrefl Triple.Before := ⟨fun row => Key.lt_irrefl row.edge⟩

theorem Triple.Before.trans {first second third : Triple} (before : first.Before second)
    (before' : second.Before third) : first.Before third :=
  Key.lt_trans before before'

/-- What has ends is an edge. -/
theorem Element.isEdge_of_ends? (element : Element) {ends : Address × Address}
    (found : element.ends? = some ends) : element.isEdge = true := by
  obtain ⟨_, _, _ | _ | _⟩ := element
  · cases found
  · rfl
  · cases found

variable {store : Store} {pattern : TriplePattern} {row : Triple} {edge : Address}

namespace Pattern

theorem acceptsTyped_eq {element : Element} {address : Address} {pattern : Pattern}
    (found : store.get? address = some element) :
    pattern.acceptsTyped address element.type = pattern.accepts store address := by
  cases pattern with
  | fixed wanted => rfl
  | typed requested => simp [acceptsTyped, accepts, Store.type?, found]

/-- What a pattern accepts carries the type that it requests. -/
theorem carries_requestedType {element : Element} {address : Address} {pattern : Pattern}
    (found : store.get? address = some element) (accepted : pattern.accepts store address = true) :
    element.type.carries pattern.requestedType = true := by
  cases pattern with
  | fixed wanted => exact element.type.carries_unknown
  | typed requested => simpa [accepts, Store.type?, found, requestedType] using accepted

theorem eq_of_accepts {address wanted : Address} {pattern : Pattern}
    (fixes : pattern.address? = some wanted) (accepted : pattern.accepts store address = true) :
    wanted = address := by
  cases pattern with
  | fixed other =>
    cases fixes
    exact beq_iff_eq.1 accepted
  | typed requested => cases fixes

end Pattern

namespace TriplePattern

/-- An edge and its ends are accepted at their positions. -/
structure Accepts (store : Store) (pattern : TriplePattern) (row : Triple) : Prop where
  ends : store.ends? row.edge = some (row.source, row.target)
  source : pattern.source.accepts store row.source = true
  edge : pattern.edge.accepts store row.edge = true
  target : pattern.target.accepts store row.target = true

/-- There is one row at an edge. -/
theorem Accepts.unique {other : Triple} (accepts : pattern.Accepts store row)
    {pattern' : TriplePattern} (accepts' : pattern'.Accepts store other)
    (same : row.edge = other.edge) : row = other := by
  obtain ⟨source, edge, target⟩ := row
  obtain ⟨source', edge', target'⟩ := other
  obtain rfl : edge = edge' := same
  have ends := accepts.ends.symm.trans accepts'.ends
  simp only [Option.some.injEq, Prod.mk.injEq] at ends
  obtain ⟨rfl, rfl⟩ := ends
  rfl

/-- An edge is a row if it is accepted with its ends. -/
theorem rowAt?_eq_some_iff : pattern.rowAt? store edge = some row ↔
    row.edge = edge ∧ pattern.Accepts store row := by
  constructor
  · intro found
    simp only [rowAt?, Option.bind_eq_bind, Option.bind_eq_some_iff] at found
    obtain ⟨element, atEdge, ⟨source, target⟩, ends, found⟩ := found
    split at found
    · rename_i accepted
      cases found
      simp only [Bool.and_eq_true, Pattern.acceptsTyped_eq atEdge] at accepted
      have endsAt : store.ends? edge = some (source, target) := by
        rw [Store.ends?, atEdge, Option.bind_some, ends]
      exact ⟨rfl, endsAt, accepted.1.2, accepted.1.1, accepted.2⟩
    · cases found
  · rintro ⟨rfl, accepts⟩
    obtain ⟨element, atEdge, ends⟩ := Option.bind_eq_some_iff.1 accepts.ends
    simp only [rowAt?, atEdge, ends, Option.bind_eq_bind, Option.bind_some,
      Pattern.acceptsTyped_eq atEdge, accepts.source, accepts.edge, accepts.target,
      Bool.and_self, if_true]

/-- The edges that leave or enter an accepted end with the requested type have the row. -/
theorem mem_scan_of_accepts {endOf : Address × Address → Address}
    (accepts : pattern.Accepts store row) :
    row.edge ∈ store.scan (Store.isEdgeAt endOf (endOf (row.source, row.target))
      pattern.edge.requestedType) := by
  obtain ⟨element, atEdge, ends⟩ := Option.bind_eq_some_iff.1 accepts.ends
  refine Store.mem_scan_iff.2 ⟨element, atEdge, ?_⟩
  simp [Store.isEdgeAt, ends, Pattern.carries_requestedType atEdge accepts.edge]

/-! ### Where rows are looked for -/

/-- The lists of edges in which all rows may be looked for: the fixed edge, the edges at a fixed end,
and the edges of the requested type. -/
inductive IsSource (store : Store) (pattern : TriplePattern) : List Address → Prop where
  | edge {edge : Address} (fixes : pattern.edge.address? = some edge) : IsSource store pattern [edge]
  | leaving {source : Address} (fixes : pattern.source.address? = some source) :
    IsSource store pattern (store.edgesFrom source pattern.edge.requestedType)
  | entering {target : Address} (fixes : pattern.target.address? = some target) :
    IsSource store pattern (store.edgesInto target pattern.edge.requestedType)
  | ofType : IsSource store pattern (store.edgesOfType pattern.edge.requestedType)

theorem isSource_candidates (store : Store) (pattern : TriplePattern) :
    pattern.IsSource store (pattern.candidates store) := by
  simp only [candidates]
  split
  · exact .edge ‹_›
  · split
    · exact .leaving ‹_›
    · exact .entering ‹_›
  · exact .leaving ‹_›
  · exact .entering ‹_›
  · exact .ofType

variable {edges : List Address}

/-- **Each of these lists knows every row.** -/
theorem IsSource.mem_of_accepts (source : pattern.IsSource store edges)
    (consistent : store.Consistent) (accepts : pattern.Accepts store row) : row.edge ∈ edges := by
  have answers := Store.answersFromTable_of_consistent consistent
  cases source with
  | edge fixes =>
    rw [Pattern.eq_of_accepts fixes accepts.edge]
    exact List.mem_singleton.2 rfl
  | leaving fixes =>
    rw [Pattern.eq_of_accepts fixes accepts.source, answers.edgesFrom]
    exact mem_scan_of_accepts accepts
  | entering fixes =>
    rw [Pattern.eq_of_accepts fixes accepts.target, answers.edgesInto]
    exact mem_scan_of_accepts accepts
  | ofType =>
    rw [answers.edgesOfType]
    obtain ⟨element, atEdge, ends⟩ := Option.bind_eq_some_iff.1 accepts.ends
    refine Store.mem_scan_iff.2 ⟨element, atEdge, ?_⟩
    have isEdge := element.isEdge_of_ends? ends
    rw [isEdge, Pattern.carries_requestedType atEdge accepts.edge, Bool.and_self]

theorem IsSource.ascending (source : pattern.IsSource store edges)
    (consistent : store.Consistent) : edges.Pairwise (· < ·) := by
  have answers := Store.answersFromTable_of_consistent consistent
  cases source with
  | edge => exact List.pairwise_singleton _ _
  | leaving =>
    rw [answers.edgesFrom]
    exact answers.ascending _
  | entering =>
    rw [answers.edgesInto]
    exact answers.ascending _
  | ofType =>
    rw [answers.edgesOfType]
    exact answers.ascending _

/-- Ascending edges give ascending rows. -/
theorem filterMap_ascending (ascending : edges.Pairwise (· < ·)) :
    (edges.filterMap (pattern.rowAt? store)).Pairwise Triple.Before := by
  refine ascending.filterMap _ fun edge other before row found row' found' => ?_
  show row.edge < row'.edge
  rw [(rowAt?_eq_some_iff.1 found).1, (rowAt?_eq_some_iff.1 found').1]
  exact before

/-- The rows that a walk over the whole table finds. -/
def tableRows (store : Store) (pattern : TriplePattern) : List Triple :=
  (store.scan Element.isEdge).filterMap (pattern.rowAt? store)

theorem mem_tableRows_iff : row ∈ pattern.tableRows store ↔ pattern.Accepts store row := by
  constructor
  · intro member
    obtain ⟨edge, -, found⟩ := List.mem_filterMap.1 member
    exact (rowAt?_eq_some_iff.1 found).2
  · intro accepts
    obtain ⟨element, atEdge, ends⟩ := Option.bind_eq_some_iff.1 accepts.ends
    have isEdge := element.isEdge_of_ends? ends
    refine List.mem_filterMap.2 ⟨row.edge, ?_, rowAt?_eq_some_iff.2 ⟨rfl, accepts⟩⟩
    exact Store.mem_scan_iff.2 ⟨element, atEdge, isEdge⟩

theorem tableRows_ascending (store : Store) (pattern : TriplePattern) :
    (pattern.tableRows store).Pairwise Triple.Before :=
  filterMap_ascending (store.scan_ascending Element.isEdge)

/-- **Whichever list is read, its rows are those of the whole table**, in the same order. -/
theorem IsSource.filterMap_eq (source : pattern.IsSource store edges)
    (consistent : store.Consistent) :
    edges.filterMap (pattern.rowAt? store) = pattern.tableRows store := by
  apply eq_of_ascending_of_mem_iff (irrefl_of Triple.Before) Triple.Before.trans
    (filterMap_ascending (source.ascending consistent)) (tableRows_ascending store pattern)
  intro row
  rw [mem_tableRows_iff]
  constructor
  · intro member
    obtain ⟨edge, -, found⟩ := List.mem_filterMap.1 member
    exact (rowAt?_eq_some_iff.1 found).2
  · intro accepts
    exact List.mem_filterMap.2 ⟨row.edge, source.mem_of_accepts consistent accepts,
      rowAt?_eq_some_iff.2 ⟨rfl, accepts⟩⟩

/-! ### The rows -/

/-- The rows are those of the whole table, unless the pattern is refused. -/
theorem rows_eq (consistent : store.Consistent) (pattern : TriplePattern) :
    pattern.rows store = if pattern.error?.isNone then pattern.tableRows store else [] := by
  unfold rows pending
  split
  · exact (isSource_candidates store pattern).filterMap_eq consistent
  · rfl

/-- **The rows of a pattern are the edges that match**, unless the pattern is refused. -/
theorem mem_rows_iff (consistent : store.Consistent) :
    row ∈ pattern.rows store ↔ pattern.error? = none ∧ pattern.Accepts store row := by
  rw [rows_eq consistent]
  by_cases sound : pattern.error? = none
  · rw [if_pos (Option.isNone_iff_eq_none.2 sound), mem_tableRows_iff]
    exact (and_iff_right sound).symm
  · rw [if_neg fun isNone => sound (Option.isNone_iff_eq_none.1 isNone)]
    exact iff_of_false List.not_mem_nil fun accepted => sound accepted.1

theorem rows_ascending (consistent : store.Consistent) (pattern : TriplePattern) :
    (pattern.rows store).Pairwise Triple.Before := by
  rw [rows_eq consistent]
  split
  · exact tableRows_ascending store pattern
  · exact .nil

/-- **No row comes twice.** -/
theorem rows_nodup (consistent : store.Consistent) (pattern : TriplePattern) :
    (pattern.rows store).Nodup :=
  (rows_ascending consistent pattern).nodup

end TriplePattern

end SemanticNetwork
