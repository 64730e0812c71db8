/-
**How types are spelled.** The words of the set flags, joined by bars. A flag that means one thing
on edges and another on nodes takes its word from the kind; the empty type is spelled `unknown`.

* `ElementType.text`: the spelling of a type;
* `ElementType.readingNames`: the readings of a type that hold, by name;
* `ElementType.Conflict.message`: the spelling of a contradiction.
-/
import SemanticNetwork.ElementType.Basic

namespace SemanticNetwork.ElementType

/-- The flags in the order in which they are spelled, each with its word on an edge and its word
elsewhere. -/
def spellings : List (ElementType × String × String) :=
  [(node, "node", "node"), (link, "link", "link"), (undirected, "ucommon", "ucommon"),
    (directed, "dcommon", "dcommon"), (access, "access", "access"), (constant, "const", "const"),
    (varying, "var", "var"), (positive, "pos", "tuple"), (negative, "neg", "struct"),
    (fuzzy, "fuz", "role"), (temporary, "temp", "norole"), (permanent, "perm", "class"),
    (abstraction, "abstract", "abstract"), (material, "material", "material")]

/-- The words of the set flags. -/
def words (type : ElementType) : List String :=
  spellings.filterMap fun (flag, onEdge, elsewhere) =>
    if type.carries flag then some (if type.isEdge then onEdge else elsewhere) else none

/-- The words of the set flags, joined by bars. -/
def text (type : ElementType) : String :=
  if type.isUnknown then "unknown" else "|".intercalate type.words

/-- The readings of a type, by name. -/
def readings : List (String × (ElementType → Bool)) :=
  [("unknown", isUnknown), ("node", isNode), ("link", isLink), ("edge", isEdge),
    ("const", isConstant), ("var", isVariable), ("no_kind", hasNoKind),
    ("access_edge", isAccessEdge), ("common_edge", isCommonEdge), ("positive", isPositive),
    ("negative", isNegative), ("fuzzy", isFuzzy), ("permanent", isPermanent),
    ("temporary", isTemporary), ("struct", isStruct), ("valid", isValid),
    ("node_type", isNodeType), ("edge_type", isEdgeType)]

/-- The names of the readings that hold of a type. -/
def readingNames (type : ElementType) : List String :=
  readings.filterMap fun (name, holds) => if holds type then some name else none

/-- What is wrong with a combination of flags. -/
def Conflict.message : Conflict → String
  | .unknownFlags => "unknown bits set"
  | .severalKinds => "more than one element kind"
  | .severalEdgeClasses => "more than one edge class"
  | .constantAndVariable => "both const and var"
  | .nodeSubtypeOnEdge => "node subtype on an edge"
  | .severalPolarities => "more than one edge polarity"
  | .temporaryAndPermanent => "both temporary and permanent"
  | .severalNodeSubtypes => "more than one node subtype"
  | .subtypeOnLink => "structural subtype on a link"

end SemanticNetwork.ElementType
