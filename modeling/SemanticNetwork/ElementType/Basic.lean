/-
**Element types.** A type is a set of flags packed into a word. The kind flags say what the element
is (node, link, or one of three classes of edge), the others refine it: constancy on everything,
polarity and permanence on edges, a structural subtype on nodes. Subtype flags share their
positions with the polarity and permanence flags; the kind says which reading is meant.

* `ElementType.carries`: every flag of a requested type is set, so the empty request always is;
* `ElementType.conflict?`: why a combination of flags contradicts itself, if it does;
* `ElementType.isNodeType`, `ElementType.isEdgeType`: what a new element may be given.
-/
import SemanticNetwork.KeyMap

namespace SemanticNetwork

/-- A set of flags that says what an element is. -/
structure ElementType where
  bits : BitVec 32
  deriving DecidableEq, Repr

namespace ElementType

/-- The type of a given number. -/
def ofNat (number : Nat) : ElementType := ⟨BitVec.ofNat 32 number⟩

/-- The number of a type. -/
def toNat (type : ElementType) : Nat := type.bits.toNat

/-- Types are keys in the order of their numbers. -/
instance : Key ElementType := .ofRank toNat fun {first second} same => by
  cases first; cases second; simpa [toNat, BitVec.toNat_inj] using same

/-! ### Set operations -/

/-- The flags of either type. -/
def union (first second : ElementType) : ElementType := ⟨first.bits ||| second.bits⟩

/-- The flags of both types. -/
def inter (first second : ElementType) : ElementType := ⟨first.bits &&& second.bits⟩

/-- The flags of the first type that the second lacks. -/
def without (first second : ElementType) : ElementType := ⟨first.bits &&& ~~~second.bits⟩

instance : OrOp ElementType := ⟨union⟩

instance : AndOp ElementType := ⟨inter⟩

/-- Whether a type has every flag of a requested one. -/
def carries (type requested : ElementType) : Bool := type.inter requested == requested

/-- Whether two types share a flag. -/
def meets (type other : ElementType) : Bool := type.inter other != ⟨0⟩

/-! ### Flags -/

/-- No flag at all: as a request, anything. -/
def unknown : ElementType := ofNat 0x0

/-- A node. -/
def node : ElementType := ofNat 0x1
/-- A link, which holds a payload. -/
def link : ElementType := ofNat 0x2
/-- An undirected common edge. -/
def undirected : ElementType := ofNat 0x4
/-- A directed common edge. -/
def directed : ElementType := ofNat 0x8
/-- An access edge, which states membership. -/
def access : ElementType := ofNat 0x10

/-- A constant element. -/
def constant : ElementType := ofNat 0x20
/-- A variable, which stands for elements when it occurs in a pattern. -/
def varying : ElementType := ofNat 0x40

/-- An edge that affirms. -/
def positive : ElementType := ofNat 0x80
/-- An edge that denies. -/
def negative : ElementType := ofNat 0x100
/-- An edge that leaves open. -/
def fuzzy : ElementType := ofNat 0x200
/-- An edge that holds for a time. -/
def temporary : ElementType := ofNat 0x400
/-- An edge that holds for good. -/
def permanent : ElementType := ofNat 0x800

/-- A node that is a tuple. -/
def tuple : ElementType := ofNat 0x80
/-- A node that is a structure, whose members are what its access edges point to. -/
def struct : ElementType := ofNat 0x100
/-- A node that is a role relation. -/
def role : ElementType := ofNat 0x200
/-- A node that is a relation without roles. -/
def norole : ElementType := ofNat 0x400
/-- A node that is a class. -/
def conceptClass : ElementType := ofNat 0x800
/-- A node for something abstract. -/
def abstraction : ElementType := ofNat 0x1000
/-- A node for something material. -/
def material : ElementType := ofNat 0x2000

/-- The union of several types. -/
def all (types : List ElementType) : ElementType := types.foldl union unknown

/-- The three classes of edge. -/
def edgeClasses : List ElementType := [undirected, directed, access]

/-- The flags for constancy. -/
def constancies : List ElementType := [constant, varying]

/-- The flags for the polarity of an edge. -/
def polarities : List ElementType := [positive, negative, fuzzy]

/-- The flags for how long an edge holds. -/
def permanences : List ElementType := [temporary, permanent]

/-- The structural subtypes of nodes. -/
def nodeSubtypes : List ElementType :=
  [tuple, struct, role, norole, conceptClass, abstraction, material]

/-- Every flag that has a meaning. -/
def known : ElementType :=
  all ([node, link] ++ edgeClasses ++ constancies ++ nodeSubtypes)

/-- The number of flags of a group that are set. -/
def countOf (type : ElementType) (group : List ElementType) : Nat := group.countP type.carries

/-! ### Readings of the flags -/

/-- Whether no flag is set. -/
def isUnknown (type : ElementType) : Bool := type == unknown

/-- Whether the type is of a node. -/
def isNode (type : ElementType) : Bool := type.meets node

/-- Whether the type is of a link. -/
def isLink (type : ElementType) : Bool := type.meets link

/-- Whether the type is of an edge of any class. -/
def isEdge (type : ElementType) : Bool := type.meets (all edgeClasses)

/-- Whether the type is constant. -/
def isConstant (type : ElementType) : Bool := type.meets constant

/-- Whether the type is variable. -/
def isVariable (type : ElementType) : Bool := type.meets varying

/-- Whether the type leaves the kind open. -/
def hasNoKind (type : ElementType) : Bool := !type.meets (all ([node, link] ++ edgeClasses))

/-- Whether the type is of an access edge. -/
def isAccessEdge (type : ElementType) : Bool := type.meets access

/-- Whether the type is of a common edge, directed or not. -/
def isCommonEdge (type : ElementType) : Bool := type.meets (all [undirected, directed])

/-- Whether the type is of an edge that affirms. -/
def isPositive (type : ElementType) : Bool := type.isEdge && type.meets positive

/-- Whether the type is of an edge that denies. -/
def isNegative (type : ElementType) : Bool := type.isEdge && type.meets negative

/-- Whether the type is of an edge that leaves open. -/
def isFuzzy (type : ElementType) : Bool := type.isEdge && type.meets fuzzy

/-- Whether the type is of an edge that holds for good. -/
def isPermanent (type : ElementType) : Bool := type.isEdge && type.meets permanent

/-- Whether the type is of an edge that holds for a time. -/
def isTemporary (type : ElementType) : Bool := type.isEdge && type.meets temporary

/-- Whether the type is of a node that is a structure. -/
def isStruct (type : ElementType) : Bool := type.isNode && type.meets struct

/-! ### Consistency -/

/-- Why a combination of flags contradicts itself. -/
inductive Conflict where
  | unknownFlags
  | severalKinds
  | severalEdgeClasses
  | constantAndVariable
  | nodeSubtypeOnEdge
  | severalPolarities
  | temporaryAndPermanent
  | severalNodeSubtypes
  | subtypeOnLink
  deriving DecidableEq, Repr

/-- The number of kinds a type claims; the classes of edge are one kind. -/
def kindCount (type : ElementType) : Nat := [type.isNode, type.isLink, type.isEdge].countP id

/-- The contradictions that are possible within the kind of a type. -/
def refinementConflict? (type : ElementType) : Option Conflict :=
  if type.isEdge then
    if type.meets (all [abstraction, material]) then some .nodeSubtypeOnEdge
    else if 1 < type.countOf polarities then some .severalPolarities
    else if 1 < type.countOf permanences then some .temporaryAndPermanent
    else none
  else if type.isNode then
    if 1 < type.countOf nodeSubtypes then some .severalNodeSubtypes else none
  else if type.isLink && type.meets (all nodeSubtypes) then some .subtypeOnLink
  else none

/-- The first contradiction among the flags of a type, if there is one. -/
def conflict? (type : ElementType) : Option Conflict :=
  if type.without known != unknown then some .unknownFlags
  else if 1 < type.kindCount then some .severalKinds
  else if 1 < type.countOf edgeClasses then some .severalEdgeClasses
  else if 1 < type.countOf constancies then some .constantAndVariable
  else type.refinementConflict?

/-- Whether the flags agree with each other. -/
def isConsistent (type : ElementType) : Bool := type.conflict?.isNone

/-- Whether a type says something and does not contradict itself. -/
def isValid (type : ElementType) : Bool := !type.isUnknown && type.isConsistent

/-- Whether a new node may be given this type; that it is a node may be left implied. -/
def isNodeType (type : ElementType) : Bool :=
  type.isConsistent && !type.isEdge && !type.isLink

/-- Whether a new edge may be given this type. -/
def isEdgeType (type : ElementType) : Bool := type.isEdge && type.isConsistent

/-! ### Small laws -/

/-- The empty request is always met. -/
@[simp] theorem carries_unknown (type : ElementType) : type.carries unknown = true := by
  simp [carries, inter, unknown, ofNat]

/-- Every type has its own flags. -/
@[simp] theorem carries_self (type : ElementType) : type.carries type = true := by
  simp [carries, inter]

/-- Having all flags of a type that has all flags of another. -/
theorem carries_trans {first second third : ElementType} (upper : first.carries second = true)
    (lower : second.carries third = true) : first.carries third = true := by
  obtain ⟨first⟩ := first
  obtain ⟨second⟩ := second
  obtain ⟨third⟩ := third
  simp only [carries, inter, beq_iff_eq, mk.injEq] at upper lower ⊢
  rw [← lower, ← BitVec.and_assoc, upper]

/-- A request for a union is a request for both. -/
theorem carries_union (type first second : ElementType) :
    type.carries (first.union second) = (type.carries first && type.carries second) := by
  obtain ⟨type⟩ := type
  obtain ⟨first⟩ := first
  obtain ⟨second⟩ := second
  rw [Bool.eq_iff_iff]
  simp only [carries, inter, union, beq_iff_eq, mk.injEq, Bool.and_eq_true]
  constructor
  · intro both
    constructor <;> ext position bound <;>
      have selected := congrArg (fun word => word.getLsbD position) both <;>
      simp [bound] at selected ⊢ <;> grind
  · rintro ⟨left, right⟩
    rw [BitVec.and_or_distrib_left, left, right]

end ElementType

end SemanticNetwork
