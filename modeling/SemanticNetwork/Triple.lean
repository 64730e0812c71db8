/-
**Triples and quintuples.** A triple is an edge with what it connects. A quintuple adds an edge
that leads from a relation to the edge of the triple.
-/
import SemanticNetwork.Address

namespace SemanticNetwork

/-- An edge between its source and its target. -/
structure Triple where
  source : Address
  edge : Address
  target : Address
  deriving DecidableEq, Repr

/-- The three addresses in order. -/
def Triple.toList (triple : Triple) : List Address := [triple.source, triple.edge, triple.target]

/-- A triple whose edge is entered by an edge from a relation. -/
structure Quintuple where
  main : Triple
  relationEdge : Address
  relation : Address
  deriving DecidableEq, Repr

/-- The five addresses in order. -/
def Quintuple.toList (quintuple : Quintuple) : List Address :=
  quintuple.main.toList ++ [quintuple.relationEdge, quintuple.relation]

end SemanticNetwork
