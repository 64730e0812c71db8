/-
**Walking while a memory is in use.** Between two steps of a cursor the memory may be asked for
anything. Requests hand out no address twice, so the stores that the steps meet are a lineage, and a
cursor does on them what it does on any lineage.

* `Turn`, `Usage.meetings`: the steps of a walk among requests, and the stores that they meet;
* `lineage_meetings`: these stores are a lineage;
* `walks_triples`, `walks_quintuples`: **a cursor lists exactly what matches while the store stays as
  it is, and shows what matches while it changes.**
-/
import SemanticNetwork.Proofs.Memory.Usage
import SemanticNetwork.Proofs.Pattern.Quintuples

namespace SemanticNetwork

variable {memory : Memory} {opened store : Store} {later : List Store}

/-- A lineage may start with an earlier store. -/
theorem Store.Lineage.earlier (lineage : store.Lineage later) (consistent : opened.Consistent)
    (precedes : opened.Precedes store) : opened.Lineage later where
  start := consistent
  consistent := lineage.consistent
  ascending := by
    obtain ⟨first, rest⟩ := List.pairwise_cons.1 lineage.ascending
    exact List.pairwise_cons.2 ⟨fun met member => precedes.trans (first met member), rest⟩

/-- What happens while a walk is under way: a request, or a step of the walk. -/
inductive Turn where
  | request (request : Request)
  | next

namespace Usage

/-- The stores that the steps of a walk meet, while the memory is in use. -/
def meetings (usage : Usage) : List Turn → List Store
  | [] => []
  | .request request :: rest => meetings (usage.step request) rest
  | .next :: rest => usage.store :: meetings usage rest

/-- **The stores that a walk meets are a lineage.** -/
theorem lineage_meetings {usage : Usage} (consistent : usage.store.Consistent) (turns : List Turn) :
    usage.store.Lineage (usage.meetings turns) := by
  induction turns generalizing usage with
  | nil => exact ⟨consistent, fun _ member => absurd member List.not_mem_nil,
      List.pairwise_singleton _ _⟩
  | cons turn rest hypothesis =>
    cases turn with
    | request request =>
      have begun : usage.memory.network.Has fun store =>
          store.Consistent ∧ usage.store.Precedes store := ⟨consistent, .refl _⟩
      obtain ⟨consistent', precedes⟩ :=
        has_step (Network.stable_has (Store.stable_precedes usage.store)) begun request
      have lineage : (usage.step request).store.Lineage ((usage.step request).meetings rest) :=
        hypothesis consistent'
      exact lineage.earlier consistent precedes
    | next =>
      have lineage := hypothesis consistent
      exact {
        start := consistent
        consistent := List.forall_mem_cons.2 ⟨consistent, lineage.consistent⟩
        ascending := List.pairwise_cons.2 ⟨List.forall_mem_cons.2
          ⟨.refl _, (List.pairwise_cons.1 lineage.ascending).1⟩, lineage.ascending⟩ }

/-! ### Triples -/

/-- **Walking over triples.** Whatever a memory was asked for before, a cursor is valid unless a
pattern fixes the address that denotes nothing or requests an inconsistent type. On the store that it
was opened on it lists the rows of the whole table, whichever list of edges they are looked for in.
Whatever the memory is asked for between its steps, it shows rows that match when they are shown, in
the order of their edges, and all that matched at the start and are there at the end. -/
theorem walks_triples (isNew : memory.IsNew) (earlier : List Request) (pattern : TriplePattern)
    (turns : List Turn) :
    let usage := (start memory).run earlier
    let cursor := TripleCursor.openOn usage.store pattern
    (cursor.isValid = true ↔ ∀ position ∈ pattern.toList, position ≠ .fixed .invalid ∧
      ∀ type, position = .typed type → type.isConsistent = true) ∧
    cursor.drain usage.store =
      (if cursor.isValid then pattern.tableRows usage.store else []) ∧
    (∀ edges, pattern.IsSource usage.store edges →
      edges.filterMap (pattern.rowAt? usage.store) = pattern.tableRows usage.store) ∧
    TripleCursor.walk.Exact (pattern.Matches usage.store) Triple.Before usage.store cursor
      (cursor.drain usage.store) ∧
    Walk.Faithful pattern.Matches (fun store row => store.contains row.edge = true) Triple.Before
      usage.store (TripleCursor.walk.visits cursor (usage.meetings turns)) := by
  intro usage cursor
  have consistent : usage.store.Consistent := isNew.consistent_run earlier
  refine ⟨?_, TripleCursor.drain_openOn consistent pattern,
    fun edges source => source.filterMap_eq consistent,
    TripleCursor.exact_openOn consistent pattern,
    TripleCursor.faithful_visits (lineage_meetings consistent turns) pattern⟩
  exact firstFault?_isNone_iff

/-- Three nodes, and edges from the first to the second, to the third and to the second again. -/
def fan : List Request :=
  [.call (.createNode .constantNode), .call (.createNode .constantNode),
    .call (.createNode .constantNode), .call (.createEdge .membership ⟨5⟩ ⟨6⟩),
    .call (.createEdge .membership ⟨5⟩ ⟨7⟩), .call (.createEdge .membership ⟨5⟩ ⟨6⟩)]

/-- The edges of a type that leave the first of these nodes. -/
def leavingFan : TriplePattern := ⟨.fixed ⟨5⟩, .typed .membership, .typed .unknown⟩

/-- Three edges match at the start. After the first step the second of them goes with the node that it
leads to, and another edge is created. -/
theorem walks_triples_fan : Memory.plain.IsNew ∧
    (TripleCursor.openOn ((start .plain).run fan).store leavingFan).drain
      ((start .plain).run fan).store =
        [⟨⟨5⟩, ⟨8⟩, ⟨6⟩⟩, ⟨⟨5⟩, ⟨9⟩, ⟨7⟩⟩, ⟨⟨5⟩, ⟨10⟩, ⟨6⟩⟩] ∧
    Walk.Faithful leavingFan.Matches (fun store row => store.contains row.edge = true) Triple.Before
      ((start .plain).run fan).store
      (TripleCursor.walk.visits (.openOn ((start .plain).run fan).store leavingFan)
        (((start .plain).run fan).meetings
          [.next, .request (.call (.erase ⟨7⟩)),
            .request (.call (.createEdge .membership ⟨5⟩ ⟨6⟩)), .next, .next])) :=
  ⟨Memory.isNew_plain, by decide +kernel,
    (walks_triples Memory.isNew_plain fan leavingFan _).2.2.2.2⟩

/-! ### Quintuples -/

/-- **Walking over quintuples.** Whatever a memory was asked for before, a cursor is valid unless a
pattern fixes the address that denotes nothing or requests an inconsistent type. On the store that it
was opened on it lists the triples of the whole table, each joined with what enters its edge.
Whatever the memory is asked for between its steps, it shows rows of which all five elements exist
and match when they are shown, in order and none twice, and all that matched at the start and are
there at the end. -/
theorem walks_quintuples (isNew : memory.IsNew) (earlier : List Request)
    (pattern : QuintuplePattern) (turns : List Turn) :
    let usage := (start memory).run earlier
    let cursor := QuintupleCursor.openOn usage.store pattern
    let visits := QuintupleCursor.walk.visits cursor (usage.meetings turns)
    (cursor.isValid = true ↔ ∀ position ∈ pattern.toList, position ≠ .fixed .invalid ∧
      ∀ type, position = .typed type → type.isConsistent = true) ∧
    cursor.drain usage.store =
      (if cursor.isValid then pattern.tableRows usage.store else []) ∧
    QuintupleCursor.walk.Exact (pattern.Matches usage.store) Quintuple.Before usage.store cursor
      (cursor.drain usage.store) ∧
    Walk.Faithful pattern.Matches (fun store row => store.contains row.relationEdge = true)
      Quintuple.Before usage.store visits ∧
    (Walk.rowsOf visits).Nodup ∧
    (cursor.isValid = false → Walk.rowsOf visits = []) := by
  intro usage cursor visits
  have consistent : usage.store.Consistent := isNew.consistent_run earlier
  have faithful := QuintupleCursor.faithful_visits (lineage_meetings consistent turns) pattern
  refine ⟨firstFault?_isNone_iff, QuintupleCursor.drain_openOn consistent pattern,
    QuintupleCursor.exact_openOn consistent pattern, faithful, faithful.ordered.nodup, ?_⟩
  intro refused
  apply List.filterMap_eq_nil_iff.2
  rintro ⟨store, shown⟩ member
  cases shown with
  | none => rfl
  | some row =>
    have sound := (faithful.current member).sound
    have valid : cursor.isValid = true := Option.isNone_iff_eq_none.2 sound
    rw [refused] at valid
    cases valid

/-- Two nodes with two edges between them. The second node is related to the first edge twice, and
the first node to the second edge. -/
def qualified : List Request :=
  [.call (.createNode .constantNode), .call (.createNode .constantNode),
    .call (.createEdge .membership ⟨5⟩ ⟨6⟩), .call (.createEdge .membership ⟨5⟩ ⟨6⟩),
    .call (.createEdge .membership ⟨6⟩ ⟨7⟩), .call (.createEdge .membership ⟨6⟩ ⟨7⟩),
    .call (.createEdge .membership ⟨5⟩ ⟨8⟩)]

/-- The edges that leave the first of these nodes, with what is related to them. -/
def leavingQualified : QuintuplePattern :=
  ⟨⟨.fixed ⟨5⟩, .typed .membership, .typed .constantNode⟩, .typed .membership, .typed .unknown⟩

/-- Three rows match at the start. After the first step the edge that its triple stands on is erased,
and with it the next row. -/
theorem walks_quintuples_qualified : Memory.plain.IsNew ∧
    (QuintupleCursor.openOn ((start .plain).run qualified).store leavingQualified).drain
      ((start .plain).run qualified).store =
        [⟨⟨⟨5⟩, ⟨7⟩, ⟨6⟩⟩, ⟨9⟩, ⟨6⟩⟩, ⟨⟨⟨5⟩, ⟨7⟩, ⟨6⟩⟩, ⟨10⟩, ⟨6⟩⟩,
          ⟨⟨⟨5⟩, ⟨8⟩, ⟨6⟩⟩, ⟨11⟩, ⟨5⟩⟩] ∧
    Walk.Faithful leavingQualified.Matches
      (fun store row => store.contains row.relationEdge = true) Quintuple.Before
      ((start .plain).run qualified).store
      (QuintupleCursor.walk.visits (.openOn ((start .plain).run qualified).store leavingQualified)
        (((start .plain).run qualified).meetings
          [.next, .request (.call (.erase ⟨7⟩)), .next, .next])) :=
  ⟨Memory.isNew_plain, by decide +kernel,
    (walks_quintuples Memory.isNew_plain qualified leavingQualified _).2.2.2.1⟩

end Usage

end SemanticNetwork
