/-
**Queries against the table.** A scan walks over the whole table and lists what passes a test. In a
consistent store every query that is answered by an index has the answer of a scan, in the same
order, and no index keeps anything that the table does not have.

* `Store.scan`: the naive query, with `mem_scan_iff` and `scan_ascending`;
* `AnswersFromTable`: the indexes say what the table says;
* `answersFromTable_of_consistent`: **in a consistent store they do.**
-/
import SemanticNetwork.Proofs.Store.Consistency

namespace SemanticNetwork.Store

/-- The addresses of the elements that pass a test, by a walk over the whole table. -/
def scan (store : Store) (test : Element → Bool) : List Address :=
  (store.elements.entries.filter fun entry => test entry.2).map Prod.fst

/-- An element is an edge of a type with an end at a place. -/
def isEdgeAt (endOf : Address × Address → Address) (place : Address) (requested : ElementType)
    (element : Element) : Bool :=
  element.ends?.any (fun ends => endOf ends == place) && element.type.carries requested

variable {store : Store} {address : Address}

theorem mem_scan_iff {test : Element → Bool} : address ∈ store.scan test ↔
    ∃ element, store.get? address = some element ∧ test element = true := by
  simp only [scan, List.mem_map, List.mem_filter]
  constructor
  · rintro ⟨⟨address, element⟩, ⟨member, passes⟩, rfl⟩
    exact ⟨element, KeyMap.mem_entries_iff.1 member, passes⟩
  · rintro ⟨element, found, passes⟩
    exact ⟨(address, element), ⟨KeyMap.mem_entries_iff.2 found, passes⟩, rfl⟩

theorem scan_ascending (store : Store) (test : Element → Bool) :
    (store.scan test).Pairwise (· < ·) := by
  refine List.pairwise_map.2 (store.elements.ascending.sublist ?_)
  exact List.filter_sublist

/-- Ascending addresses that are exactly those of a scan are the scan. -/
theorem eq_scan {addresses : List Address} {test : Element → Bool}
    (ascending : addresses.Pairwise (· < ·))
    (same : ∀ address, address ∈ addresses ↔
      ∃ element, store.get? address = some element ∧ test element = true) :
    addresses = store.scan test := by
  refine eq_of_ascending_of_mem_iff Key.lt_irrefl Key.lt_trans ascending
    (store.scan_ascending test) fun address => ?_
  rw [same, mem_scan_iff]

/-- The indexes of a store say what its table says, and nothing else. -/
structure AnswersFromTable (store : Store) : Prop where
  edgesFrom : ∀ source requested,
    store.edgesFrom source requested = store.scan (isEdgeAt Prod.fst source requested)
  edgesInto : ∀ target requested,
    store.edgesInto target requested = store.scan (isEdgeAt Prod.snd target requested)
  countFrom : ∀ source requested,
    store.countFrom source requested = (store.scan (isEdgeAt Prod.fst source requested)).length
  countInto : ∀ target requested,
    store.countInto target requested = (store.scan (isEdgeAt Prod.snd target requested)).length
  edgesOfType : ∀ requested, store.edgesOfType requested =
    store.scan fun element => element.isEdge && element.type.carries requested
  elementsOfType : ∀ requested, store.elementsOfType requested =
    store.scan fun element => element.type.carries requested
  ascending : ∀ test, (store.scan test).Pairwise (· < ·)
  filedByType : ∀ type address, store.byType.files type address = true ↔
    store.type? address = some type
  filedByPayload : ∀ payload link, store.byPayload.files payload link = true ↔
    store.payload? link = some payload
  filedOutgoing : ∀ source type edge, store.outgoing.files source type edge = true ↔
    ∃ target, store.get? edge = some ⟨edge, type, .edge source target⟩
  filedIncoming : ∀ target type edge, store.incoming.files target type edge = true ↔
    ∃ source, store.get? edge = some ⟨edge, type, .edge source target⟩
  keptOutgoing : ∀ source, store.outgoing.byElement.contains source = true →
    store.contains source = true
  keptIncoming : ∀ target, store.incoming.byElement.contains target = true →
    store.contains target = true

/-! ### The indexes of a consistent store -/

theorem isEdgeAt_iff {endOf : Address × Address → Address} {place : Address}
    {requested : ElementType} (consistent : store.Consistent) :
    (∃ element, store.get? address = some element ∧ isEdgeAt endOf place requested element = true) ↔
      ∃ type source target, store.get? address = some ⟨address, type, .edge source target⟩ ∧
        endOf (source, target) = place ∧ type.carries requested = true := by
  constructor
  · rintro ⟨⟨own, type, body⟩, found, passes⟩
    obtain rfl : own = address := consistent.keyed found
    obtain _ | ⟨source, target⟩ | _ := body
    · simp [isEdgeAt, Element.ends?] at passes
    · simp only [isEdgeAt, Element.ends?, Option.any_some, Bool.and_eq_true, beq_iff_eq] at passes
      exact ⟨type, source, target, found, passes⟩
    · simp [isEdgeAt, Element.ends?] at passes
  · rintro ⟨type, source, target, found, same, carried⟩
    refine ⟨_, found, ?_⟩
    simp [isEdgeAt, Element.ends?, same, carried]

/-- **The edges that an adjacency lists are those of a scan.** -/
theorem edges_eq_scan {adjacency : Adjacency} {endOf : Address × Address → Address}
    (consistent : store.Consistent) (tracks : adjacency.Tracks store.elements [] endOf)
    (place : Address) (requested : ElementType) :
    adjacency.edges place requested = store.scan (isEdgeAt endOf place requested) := by
  refine eq_scan (Index.under_ascending _ ?_) fun address => ?_
  · intro type type' edge filed filed'
    obtain ⟨source, target, found, -⟩ := tracks.files_iff.1 filed
    obtain ⟨source', target', found', -⟩ := tracks.files_iff.1 filed'
    rw [found] at found'
    cases found'
    rfl
  · rw [isEdgeAt_iff consistent, Adjacency.edges, Index.mem_under_iff]
    constructor
    · rintro ⟨type, carried, filed⟩
      obtain ⟨source, target, found, same⟩ := tracks.files_iff.1 filed
      exact ⟨type, source, target, found, same, carried⟩
    · rintro ⟨type, source, target, found, same, carried⟩
      exact ⟨type, carried, tracks.files_iff.2 ⟨source, target, found, same⟩⟩

/-- **The elements that the index of types lists are those of a scan.** -/
theorem under_byType_eq_scan (consistent : store.Consistent) (test : ElementType → Bool) :
    store.byType.under test = store.scan fun element => test element.type := by
  refine eq_scan (Index.under_ascending _ ?_) fun address => ?_
  · intro type type' address filed filed'
    obtain ⟨element, found, same⟩ := (consistent.byType _ _).1 filed
    obtain ⟨element', found', same'⟩ := (consistent.byType _ _).1 filed'
    rw [found] at found'
    cases found'
    exact Option.some.inj (same.symm.trans same')
  · rw [Index.mem_under_iff]
    constructor
    · rintro ⟨type, passes, filed⟩
      obtain ⟨element, found, same⟩ := (consistent.byType _ _).1 filed
      cases same
      exact ⟨element, found, passes⟩
    · rintro ⟨element, found, passes⟩
      exact ⟨element.type, passes, (consistent.byType _ _).2 ⟨element, found, rfl⟩⟩

/-- A place at which an adjacency keeps something is an end of an edge of the table. -/
theorem exists_edge_of_kept {adjacency : Adjacency} {endOf : Address × Address → Address}
    (tracks : adjacency.Tracks store.elements [] endOf) {place : Address}
    (kept : adjacency.byElement.contains place = true) :
    ∃ edge type source target, store.get? edge = some ⟨edge, type, .edge source target⟩ ∧
      endOf (source, target) = place := by
  obtain ⟨index, found⟩ := KeyMap.contains_iff.1 kept
  obtain ⟨type, edge, filed⟩ := Index.exists_files_of_not_isEmpty (adjacency.inhabited found)
  have onFile : adjacency.files place type edge = true := by
    simpa [Adjacency.files, Adjacency.indexAt, found] using filed
  exact ⟨edge, type, tracks.sound onFile⟩

/-- **In a consistent store the indexes say what the table says.** -/
theorem answersFromTable_of_consistent (consistent : store.Consistent) :
    store.AnswersFromTable where
  edgesFrom := edges_eq_scan consistent consistent.outgoing
  edgesInto := edges_eq_scan consistent consistent.incoming
  countFrom source requested := by
    rw [← edges_eq_scan consistent consistent.outgoing]
    exact (Adjacency.length_edges _ _ _).symm
  countInto target requested := by
    rw [← edges_eq_scan consistent consistent.incoming]
    exact (Adjacency.length_edges _ _ _).symm
  edgesOfType requested := by
    rw [edgesOfType, under_byType_eq_scan consistent]
    refine eq_scan (store.scan_ascending _) fun address => ?_
    rw [mem_scan_iff]
    refine exists_congr fun element => and_congr_right fun found => ?_
    rw [(consistent.kinds found).edge]
  elementsOfType requested := under_byType_eq_scan consistent _
  ascending := store.scan_ascending
  filedByType type address := by
    rw [consistent.byType type address]
    simp [type?, get?]
  filedByPayload payload link := by
    rw [consistent.byPayload payload link]
    simp [payload?, get?, Option.bind_eq_some_iff]
  filedOutgoing source type edge := by
    rw [consistent.outgoing.files_iff]
    constructor
    · rintro ⟨source, target, found, rfl⟩
      exact ⟨target, found⟩
    · rintro ⟨target, found⟩
      exact ⟨source, target, found, rfl⟩
  filedIncoming target type edge := by
    rw [consistent.incoming.files_iff]
    constructor
    · rintro ⟨source, target, found, rfl⟩
      exact ⟨source, found⟩
    · rintro ⟨source, found⟩
      exact ⟨source, target, found, rfl⟩
  keptOutgoing source kept := by
    obtain ⟨edge, type, source, target, found, rfl⟩ := exists_edge_of_kept consistent.outgoing kept
    exact (consistent.anchored found List.not_mem_nil).1
  keptIncoming target kept := by
    obtain ⟨edge, type, source, target, found, rfl⟩ := exists_edge_of_kept consistent.incoming kept
    exact (consistent.anchored found List.not_mem_nil).2

end SemanticNetwork.Store
