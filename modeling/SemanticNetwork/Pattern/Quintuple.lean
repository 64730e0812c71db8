/-
**Quintuple patterns and their cursors.** Five patterns ask for a triple and for an edge that leads
from a relation to the edge of the triple. A cursor walks over the triples, and for each over the
edges that enter it.

* `QuintuplePattern.relations`: the triples that lead from relations to an edge;
* `QuintupleCursor.openOn`, `QuintupleCursor.tryOpen`, `QuintupleCursor.next`: a cursor and its
  steps.
-/
import SemanticNetwork.Pattern.Triple

namespace SemanticNetwork

/-- Patterns for a triple, for the edge that enters its edge, and for where that one starts. -/
structure QuintuplePattern where
  main : TriplePattern
  relationEdge : Pattern
  relation : Pattern
  deriving DecidableEq, Repr

namespace QuintuplePattern

/-- The patterns by position. -/
def toList (pattern : QuintuplePattern) : List Pattern :=
  pattern.main.toList ++ [pattern.relationEdge, pattern.relation]

/-- The first position that is refused. -/
def error? (pattern : QuintuplePattern) : Option PatternError := firstFault? 0 pattern.toList

/-- The pattern of the edges that lead from a relation to an edge. -/
def relations (pattern : QuintuplePattern) (edge : Address) : TriplePattern :=
  ⟨pattern.relation, pattern.relationEdge, .fixed edge⟩

/-- A row of the whole pattern, from a row of each part. -/
def join (main relation : Triple) : Quintuple := ⟨main, relation.edge, relation.source⟩

end QuintuplePattern

/-- A walk over the quintuples that match: the triples still to come, and the triple whose
relations are being walked over with the edges still to come there. -/
structure QuintupleCursor where
  pattern : QuintuplePattern
  pending : List Address
  group : Option (Triple × List Address)
  current : Option Quintuple
  deriving DecidableEq, Repr

namespace QuintupleCursor

/-- A cursor before its first row. -/
def openOn (store : Store) (pattern : QuintuplePattern) : QuintupleCursor :=
  ⟨pattern, if pattern.error?.isNone then pattern.main.pending store else [], none, none⟩

/-- A cursor before its first row, or what is wrong with the pattern. -/
def tryOpen (store : Store) (pattern : QuintuplePattern) : Except PatternError QuintupleCursor :=
  match pattern.error? with
  | some error => .error error
  | none => .ok (openOn store pattern)

/-- Whether the pattern can match at all. -/
def isValid (cursor : QuintupleCursor) : Bool := cursor.pattern.error?.isNone

/-- The next row within the relations of one triple. -/
def nextInGroup (store : Store) (cursor : QuintupleCursor) (main : Triple)
    (relationEdges : List Address) : Option QuintupleCursor :=
  ((cursor.pattern.relations main.edge).firstRow? store relationEdges).map fun (row, rest) =>
    { cursor with
      group := some (main, rest)
      current := some (QuintuplePattern.join main row) }

/-- The next row among the triples still to come. -/
def nextAmong (store : Store) (cursor : QuintupleCursor) : List Address → QuintupleCursor
  | [] => { cursor with pending := [], group := none, current := none }
  | edge :: rest =>
    match cursor.pattern.main.rowAt? store edge with
    | none => nextAmong store cursor rest
    | some main =>
      let relationEdges := (cursor.pattern.relations edge).pending store
      match nextInGroup store { cursor with pending := rest } main relationEdges with
      | some found => found
      | none => nextAmong store cursor rest

/-- Go on to the next row, in the store as it stands now. -/
def next (store : Store) (cursor : QuintupleCursor) : QuintupleCursor :=
  let inGroup := cursor.group.bind fun (main, edges) => nextInGroup store cursor main edges
  inGroup.getD (nextAmong store cursor cursor.pending)

/-- The rows that remain for the triple whose relations are being walked over. -/
def drainGroup (store : Store) (pattern : QuintuplePattern) (main : Triple)
    (relationEdges : List Address) : List Quintuple :=
  (relationEdges.filterMap ((pattern.relations main.edge).rowAt? store)).map
    (QuintuplePattern.join main)

/-- The rows that remain. -/
def drain (store : Store) (cursor : QuintupleCursor) : List Quintuple :=
  let started := cursor.group.elim [] fun (main, edges) =>
    drainGroup store cursor.pattern main edges
  let others := (cursor.pending.filterMap (cursor.pattern.main.rowAt? store)).flatMap fun main =>
    drainGroup store cursor.pattern main ((cursor.pattern.relations main.edge).pending store)
  started ++ others

end QuintupleCursor

end SemanticNetwork
