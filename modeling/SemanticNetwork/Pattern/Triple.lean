/-
**Triple patterns and their cursors.** Three patterns ask for edges by source, type and target. A
cursor lists the edges that may answer once, when it is opened, and reads each of them from the
store as it stands when its turn comes. So erased edges are passed over, and edges that are created
later do not occur.

* `TriplePattern.rowAt?`: the triple at an edge, if it matches now;
* `TriplePattern.candidates`: the edges that may answer, from the cheapest index;
* `TripleCursor.openOn`, `TripleCursor.tryOpen`, `TripleCursor.next`: a cursor and its steps.
-/
import SemanticNetwork.Pattern.Basic
import SemanticNetwork.Triple

namespace SemanticNetwork

/-- Patterns for the source, the edge and the target of a triple. -/
structure TriplePattern where
  source : Pattern
  edge : Pattern
  target : Pattern
  deriving DecidableEq, Repr

namespace TriplePattern

/-- The patterns by position. -/
def toList (pattern : TriplePattern) : List Pattern :=
  [pattern.source, pattern.edge, pattern.target]

/-- The first position that is refused. -/
def error? (pattern : TriplePattern) : Option PatternError := firstFault? 0 pattern.toList

/-- The triple at an edge, if it is an edge and all three positions match. -/
def rowAt? (store : Store) (pattern : TriplePattern) (edge : Address) : Option Triple := do
  let element ← store.get? edge
  let (source, target) ← element.ends?
  if pattern.edge.acceptsTyped edge element.type && pattern.source.accepts store source &&
      pattern.target.accepts store target then
    some ⟨source, edge, target⟩
  else none

/-- The edges that may answer: the fixed edge, or the edges at a fixed end (where both are fixed,
at the one with fewer edges), or all edges of the requested type. -/
def candidates (store : Store) (pattern : TriplePattern) : List Address :=
  let requested := pattern.edge.requestedType
  match pattern.edge.address?, pattern.source.address?, pattern.target.address? with
  | some edge, _, _ => [edge]
  | none, some source, some target =>
    if store.countFrom source requested ≤ store.countInto target requested then
      store.edgesFrom source requested
    else store.edgesInto target requested
  | none, some source, none => store.edgesFrom source requested
  | none, none, some target => store.edgesInto target requested
  | none, none, none => store.edgesOfType requested

/-- The edges that may answer; none may answer a pattern that is refused. -/
def pending (store : Store) (pattern : TriplePattern) : List Address :=
  if pattern.error?.isNone then pattern.candidates store else []

/-- The first row among some edges, and the edges after it. -/
def firstRow? (store : Store) (pattern : TriplePattern) :
    List Address → Option (Triple × List Address)
  | [] => none
  | edge :: rest =>
    match pattern.rowAt? store edge with
    | some row => some (row, rest)
    | none => firstRow? store pattern rest

/-- All rows, in the order of their edges. -/
def rows (store : Store) (pattern : TriplePattern) : List Triple :=
  (pattern.pending store).filterMap (pattern.rowAt? store)

end TriplePattern

/-- A walk over the triples that match. -/
structure TripleCursor where
  pattern : TriplePattern
  pending : List Address
  current : Option Triple
  deriving DecidableEq, Repr

namespace TripleCursor

/-- A cursor before its first row. -/
def openOn (store : Store) (pattern : TriplePattern) : TripleCursor :=
  ⟨pattern, pattern.pending store, none⟩

/-- A cursor before its first row, or what is wrong with the pattern. -/
def tryOpen (store : Store) (pattern : TriplePattern) : Except PatternError TripleCursor :=
  match pattern.error? with
  | some error => .error error
  | none => .ok (openOn store pattern)

/-- Whether the pattern can match at all. -/
def isValid (cursor : TripleCursor) : Bool := cursor.pattern.error?.isNone

/-- Go on to the next row, in the store as it stands now. -/
def next (store : Store) (cursor : TripleCursor) : TripleCursor :=
  match cursor.pattern.firstRow? store cursor.pending with
  | some (row, rest) => { cursor with pending := rest, current := some row }
  | none => { cursor with pending := [], current := none }

/-- The rows that remain. -/
def drain (store : Store) (cursor : TripleCursor) : List Triple :=
  cursor.pending.filterMap (cursor.pattern.rowAt? store)

end TripleCursor

end SemanticNetwork
