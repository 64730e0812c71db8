/-
**Types with a name of their own.** The combinations of flags that are used all the time, and the
catalogue of every named type under the name it is published by.

* `ElementType.membership`: the type of the edges that make something a member of a structure;
* `ElementType.catalogue`: published names and types.
-/
import SemanticNetwork.ElementType.Basic

namespace SemanticNetwork.ElementType

/-- A constant node. -/
def constantNode : ElementType := node.union constant

/-- A variable node. -/
def variableNode : ElementType := node.union varying

/-- A constant node that is a class. -/
def constantClass : ElementType := constantNode.union conceptClass

/-- A constant node that is a role relation. -/
def constantRole : ElementType := constantNode.union role

/-- A constant node that is a relation without roles. -/
def constantNorole : ElementType := constantNode.union norole

/-- A constant link. -/
def constantLink : ElementType := link.union constant

/-- A constant directed edge. -/
def constantDirected : ElementType := directed.union constant

/-- An access edge with the given refinements. -/
def accessEdge (constancy polarity permanence : ElementType) : ElementType :=
  ((access.union constancy).union polarity).union permanence

/-- A constant access edge that affirms membership for good. -/
def membership : ElementType := accessEdge constant positive permanent

/-- The twelve fully refined access edges under their published names. -/
def accessEdges : List (String × ElementType) :=
  [("CONST", constant), ("VAR", varying)].flatMap fun (constancyName, constancy) =>
    [("TEMP", temporary), ("PERM", permanent)].flatMap fun (permanenceName, permanence) =>
      [("POS", positive), ("NEG", negative), ("FUZ", fuzzy)].map fun (polarityName, polarity) =>
        ("_".intercalate ["EDGE_ACCESS", constancyName, polarityName, permanenceName],
          accessEdge constancy polarity permanence)

/-- Every named type under its published name. -/
def catalogue : List (String × ElementType) :=
  [("UNKNOWN", unknown), ("NODE", node), ("LINK", link), ("EDGE_UCOMMON", undirected),
    ("EDGE_DCOMMON", directed), ("EDGE_ACCESS", access), ("CONST", constant), ("VAR", varying),
    ("EDGE_POS", positive), ("EDGE_NEG", negative), ("EDGE_FUZ", fuzzy), ("EDGE_TEMP", temporary),
    ("EDGE_PERM", permanent), ("NODE_TUPLE", tuple), ("NODE_STRUCT", struct), ("NODE_ROLE", role),
    ("NODE_NOROLE", norole), ("NODE_CLASS", conceptClass), ("NODE_ABSTRACT", abstraction),
    ("NODE_MATERIAL", material), ("NODE_CONST", constantNode), ("NODE_VAR", variableNode),
    ("NODE_CONST_STRUCT", constantNode.union struct),
    ("NODE_VAR_STRUCT", variableNode.union struct),
    ("NODE_CONST_TUPLE", constantNode.union tuple), ("NODE_CONST_ROLE", constantRole),
    ("NODE_CONST_NOROLE", constantNorole), ("NODE_CONST_CLASS", constantClass),
    ("NODE_CONST_ABSTRACT", constantNode.union abstraction),
    ("NODE_CONST_MATERIAL", constantNode.union material), ("LINK_CONST", constantLink),
    ("EDGE_UCOMMON_CONST", undirected.union constant),
    ("EDGE_UCOMMON_VAR", undirected.union varying), ("EDGE_DCOMMON_CONST", constantDirected),
    ("EDGE_DCOMMON_VAR", directed.union varying)] ++ accessEdges

end SemanticNetwork.ElementType
