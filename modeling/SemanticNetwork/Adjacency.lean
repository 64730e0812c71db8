/-
**Adjacency.** The edges at each element, by their types. A store keeps one adjacency for the ends
that edges leave and one for the ends they enter. No element is kept without an edge.

* `Adjacency.file`, `Adjacency.unfile`: put an edge at an element, or take it away, with
  `files_file` and `files_unfile`;
* `Adjacency.edges`, `Adjacency.count`: the edges at an element that carry a type, and how many;
* `Adjacency.detach`: forget an element, whose edges were `Adjacency.edgesAt`.
-/
import SemanticNetwork.ElementType.Basic
import SemanticNetwork.Index

namespace SemanticNetwork

/-- The edges at elements, by type; no element is kept without an edge. -/
@[ext] structure Adjacency where
  byElement : AddressMap (Index ElementType)
  inhabited : ∀ {element index}, byElement.get? element = some index → index.isEmpty = false

namespace Adjacency

/-- No edge anywhere. -/
def empty : Adjacency := ⟨.empty, nofun⟩

instance : Inhabited Adjacency := ⟨empty⟩

instance : DecidableEq Adjacency := fun first second =>
  if same : first.byElement = second.byElement then
    isTrue (by cases first; cases second; simp_all)
  else
    isFalse fun equal => same (by rw [equal])

/-- The edges at an element, by type. -/
def indexAt (adjacency : Adjacency) (element : Address) : Index ElementType :=
  (adjacency.byElement.get? element).getD .empty

/-- Whether an edge of a type is on file at an element. -/
def files (adjacency : Adjacency) (element : Address) (type : ElementType) (edge : Address) :
    Bool :=
  (adjacency.indexAt element).files type edge

/-- The adjacency with other edges at an element; with none left the element goes. -/
def withEdges (adjacency : Adjacency) (element : Address) (index : Index ElementType) :
    Adjacency :=
  if vacant : index.isEmpty = true then
    ⟨adjacency.byElement.erase element, fun {other held} found => by
      rw [KeyMap.get?_erase] at found
      split at found
      · cases found
      · exact adjacency.inhabited found⟩
  else
    ⟨adjacency.byElement.insert element index, fun {other held} found => by
      rw [KeyMap.get?_insert] at found
      split at found
      · cases found
        simpa using vacant
      · exact adjacency.inhabited found⟩

/-- File an edge of a type at an element. -/
def file (adjacency : Adjacency) (element : Address) (type : ElementType) (edge : Address) :
    Adjacency :=
  adjacency.withEdges element ((adjacency.indexAt element).file type edge)

/-- Take an edge of a type away from an element. -/
def unfile (adjacency : Adjacency) (element : Address) (type : ElementType) (edge : Address) :
    Adjacency :=
  match adjacency.byElement.get? element with
  | some index => adjacency.withEdges element (index.unfile type edge)
  | none => adjacency

/-- The edges at an element that carry a type, ascending. -/
def edges (adjacency : Adjacency) (element : Address) (requested : ElementType) : List Address :=
  (adjacency.indexAt element).under fun type => type.carries requested

/-- The number of edges at an element that carry a type. -/
def count (adjacency : Adjacency) (element : Address) (requested : ElementType) : Nat :=
  (adjacency.indexAt element).countUnder fun type => type.carries requested

/-- All edges at an element. -/
def edgesAt (adjacency : Adjacency) (element : Address) : List Address :=
  (adjacency.indexAt element).addresses

/-- Forget an element with the edges at it. -/
def detach (adjacency : Adjacency) (element : Address) : Adjacency :=
  adjacency.withEdges element .empty

/-! ### What is on file -/

@[simp] theorem files_empty (element : Address) (type : ElementType) (edge : Address) :
    empty.files element type edge = false := rfl

/-- The edges at an element after other ones were put at one. -/
theorem files_withEdges (adjacency : Adjacency) (element other : Address)
    (index : Index ElementType) (type : ElementType) (edge : Address) :
    (adjacency.withEdges element index).files other type edge =
      if other = element then index.files type edge else adjacency.files other type edge := by
  unfold withEdges files indexAt
  by_cases vacant : index.isEmpty = true
  · rw [dif_pos vacant, KeyMap.get?_erase]
    split
    · rw [Index.isEmpty_iff.1 vacant]
      rfl
    · rfl
  · rw [dif_neg vacant, KeyMap.get?_insert]
    split <;> rfl

/-- **Filing adds one edge at one element.** -/
theorem files_file {adjacency : Adjacency} {element other edge target : Address}
    {type requested : ElementType} :
    (adjacency.file element type edge).files other requested target = true ↔
      (other = element ∧ requested = type ∧ target = edge) ∨
        adjacency.files other requested target = true := by
  rw [file, files_withEdges]
  by_cases same : other = element
  · subst same
    rw [if_pos rfl, Index.files_file]
    simp [files]
  · simp [same]

/-- **Unfiling takes away one edge at one element.** -/
theorem files_unfile {adjacency : Adjacency} {element other edge target : Address}
    {type requested : ElementType} :
    (adjacency.unfile element type edge).files other requested target = true ↔
      adjacency.files other requested target = true ∧
        ¬ (other = element ∧ requested = type ∧ target = edge) := by
  unfold unfile
  cases found : adjacency.byElement.get? element with
  | none =>
    refine ⟨fun filed => ⟨filed, fun ⟨same, _⟩ => ?_⟩, And.left⟩
    simp [files, indexAt, same, found] at filed
  | some index =>
    rw [files_withEdges]
    by_cases same : other = element
    · subst same
      rw [if_pos rfl, Index.files_unfile]
      simp [files, indexAt, found]
    · simp [same]

/-- **Forgetting an element takes away every edge at it, and no other.** -/
theorem files_detach {adjacency : Adjacency} {element other edge : Address}
    {type : ElementType} :
    (adjacency.detach element).files other type edge = true ↔
      adjacency.files other type edge = true ∧ other ≠ element := by
  rw [detach, files_withEdges]
  by_cases same : other = element <;> simp [same]

theorem mem_edgesAt_iff {adjacency : Adjacency} {element edge : Address} :
    edge ∈ adjacency.edgesAt element ↔
      ∃ type, adjacency.files element type edge = true :=
  Index.mem_addresses_iff

/-- The edges at an element are as many as are counted. -/
theorem length_edges (adjacency : Adjacency) (element : Address) (requested : ElementType) :
    (adjacency.edges element requested).length = adjacency.count element requested :=
  Index.length_under _ _

/-- **Adjacencies with the same on file are equal.** -/
theorem ext_files {first second : Adjacency}
    (same : ∀ element type edge, first.files element type edge = second.files element type edge) :
    first = second := by
  have equalAt : ∀ element, first.indexAt element = second.indexAt element := fun element =>
    Index.ext_files (same element)
  have kept : ∀ {one other : Adjacency} {element : Address} {index : Index ElementType},
      one.indexAt element = other.indexAt element → one.byElement.get? element = some index →
        other.byElement.get? element = some index := by
    intro one other element index equal found
    have inhabited := one.inhabited found
    simp only [indexAt, found, Option.getD_some] at equal
    cases found' : other.byElement.get? element with
    | none =>
      rw [found', Option.getD_none] at equal
      rw [equal] at inhabited
      cases inhabited
    | some index' => rw [equal, found', Option.getD_some]
  have byElement : first.byElement = second.byElement := by
    refine KeyMap.ext_get? fun element => ?_
    cases found : first.byElement.get? element with
    | some index => exact (kept (equalAt element) found).symm
    | none =>
      cases found' : second.byElement.get? element with
      | none => rfl
      | some index =>
        rw [kept (equalAt element).symm found'] at found
        cases found
  exact Adjacency.ext byElement

end Adjacency

end SemanticNetwork
