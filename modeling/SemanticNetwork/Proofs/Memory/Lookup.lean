/-
**Looking names up.** Names are found in the network: through the links that hold a text, the edges
into them and the edges out of the naming relation, and back. All of these may lead through elements
that have nothing to do with names. In an orderly network they lead to labels and nowhere else.

* `Store.isLinked_iff`: an edge between two elements is found if there is one;
* `find?_eq_some_iff`: **an identifier leads to the element of its label**;
* `linksOf_eq_singleton`, `linksOf_eq_nil`, `identifierOf?_eq_some_iff`: **and an element to the
  identifier of its label**, where it has one label at most.
-/
import SemanticNetwork.Proofs.Memory.Labels
import SemanticNetwork.Proofs.Network.Contents
import SemanticNetwork.Proofs.Pattern.Rows

namespace SemanticNetwork

theorem TriplePattern.isSome_firstRow?_iff {store : Store} {pattern : TriplePattern}
    {edges : List Address} : (pattern.firstRow? store edges).isSome = true ↔
      ∃ row, row ∈ edges.filterMap (pattern.rowAt? store) := by
  induction edges with
  | nil => simp [firstRow?]
  | cons edge rest hypothesis =>
    unfold firstRow?
    cases found : pattern.rowAt? store edge with
    | some row => simp [found]
    | none => simpa [List.filterMap_cons, found] using hypothesis

/-- **An edge between two elements is found** if there is one of a type that carries the one asked
for. -/
theorem Store.isLinked_iff {store : Store} (consistent : store.Consistent) {source target : Address}
    {requested : ElementType} (sound : requested.conflict? = none) :
    store.isLinked source target requested = true ↔ ∃ edge type,
      store.get? edge = some ⟨edge, type, .edge source target⟩ ∧ type.carries requested = true := by
  simp only [isLinked, Bool.and_eq_true, TriplePattern.isSome_firstRow?_iff]
  constructor
  · rintro ⟨-, row, member⟩
    obtain ⟨-, accepts⟩ := (TriplePattern.mem_rows_iff consistent).1 member
    obtain ⟨type, found⟩ := consistent.ends?_eq_some_iff.1 accepts.ends
    have source := Pattern.eq_of_accepts rfl accepts.source
    have target := Pattern.eq_of_accepts rfl accepts.target
    refine ⟨row.edge, type, source ▸ target ▸ found, ?_⟩
    exact Pattern.carries_requestedType found accepts.edge
  · rintro ⟨edge, type, found, carried⟩
    obtain ⟨sourceThere, targetThere⟩ := consistent.anchored found List.not_mem_nil
    have sourceValid := consistent.isValid_of_contains sourceThere
    have targetValid := consistent.isValid_of_contains targetThere
    refine ⟨⟨sourceValid, targetValid⟩, ⟨source, edge, target⟩, ?_⟩
    refine (TriplePattern.mem_rows_iff consistent).2 ⟨?_, ?_⟩
    · simp [TriplePattern.error?, TriplePattern.toList, firstFault?, Pattern.fault?, sourceValid,
        targetValid, sound]
    · exact {
        ends := consistent.ends?_eq_some_iff.2 ⟨type, found⟩
        source := beq_self_eq_true source
        edge := by simp [Pattern.accepts, Store.type?, found, carried]
        target := beq_self_eq_true target }

namespace Naming

variable {relation : Address} {network : Network} {label : Label} {element : Address}
  {identifier : String}

/-- A link is listed under a text if it holds the text. -/
theorem mem_linksHolding_text_iff {store : Store} (consistent : store.Consistent) {link : Address} :
    link ∈ store.linksHolding (.text identifier) ↔
      store.payload? link = some (.text identifier) := by
  rw [Store.mem_linksHolding_iff consistent]
  exact and_iff_left rfl

theorem payload?_eq_text_iff (stands : label.Stands relation network) :
    network.store.payload? label.link = some (.text identifier) ↔ label.identifier = identifier := by
  rw [Store.payload?, stands.link]
  simp [Element.payload?]

/-- **The edges that the relation leads to are the naming edges of labels.** -/
theorem isNamingEdge_iff (labelled : IsLabelled relation network) {edge source target : Address}
    {type : ElementType} (found : network.store.get? edge = some ⟨edge, type, .edge source target⟩) :
    isNamingEdge network.store relation edge = true ↔
      ∃ label : Label, label.edge = edge ∧ label.Stands relation network := by
  rw [isNamingEdge, Store.isLinked_iff labelled.consistent (by decide)]
  constructor
  · rintro ⟨membership, type', leads, -⟩
    rcases labelled.leaving leads with tracked | stands
    · exact absurd rfl ((labelled.apart_of_tracked tracked).2 found)
    · exact stands
  · rintro ⟨label, rfl, stands⟩
    exact ⟨label.membership, .membership, stands.membership, ElementType.carries_self _⟩

theorem mem_edgesInto_iff {store : Store} (consistent : store.Consistent) {edge target : Address}
    {requested : ElementType} : edge ∈ store.edgesInto target requested ↔ ∃ type source,
      store.get? edge = some ⟨edge, type, .edge source target⟩ ∧ type.carries requested = true := by
  rw [(Store.answersFromTable_of_consistent consistent).edgesInto, Store.mem_scan_iff,
    Store.isEdgeAt_iff consistent]
  constructor
  · rintro ⟨type, source, target, found, rfl, carried⟩
    exact ⟨type, source, found, carried⟩
  · rintro ⟨type, source, found, carried⟩
    exact ⟨type, source, target, found, rfl, carried⟩

theorem mem_edgesFrom_iff {store : Store} (consistent : store.Consistent) {edge source : Address}
    {requested : ElementType} : edge ∈ store.edgesFrom source requested ↔ ∃ type target,
      store.get? edge = some ⟨edge, type, .edge source target⟩ ∧ type.carries requested = true := by
  rw [(Store.answersFromTable_of_consistent consistent).edgesFrom, Store.mem_scan_iff,
    Store.isEdgeAt_iff consistent]
  constructor
  · rintro ⟨type, source, target, found, rfl, carried⟩
    exact ⟨type, target, found, carried⟩
  · rintro ⟨type, target, found, carried⟩
    exact ⟨type, source, target, found, rfl, carried⟩

/-- What is found for an identifier has it in a label. -/
theorem exists_of_find? (labelled : IsLabelled relation network)
    (found : find? network.store relation identifier = some element) :
    ∃ label : Label, label.Stands relation network ∧ label.element = element ∧
      label.identifier = identifier := by
  obtain ⟨link, holds, foundAt⟩ := List.exists_of_findSome?_eq_some found
  obtain ⟨edge, enters, answer⟩ := List.exists_of_findSome?_eq_some foundAt
  obtain ⟨type, source, atEdge, -⟩ := (mem_edgesInto_iff labelled.consistent).1 enters
  split at answer
  · rename_i names
    obtain ⟨label, rfl, stands⟩ := (isNamingEdge_iff labelled atEdge).1 names
    rw [Store.ends?, stands.edge] at answer
    cases stands.edge.symm.trans atEdge
    cases answer
    refine ⟨label, stands, rfl, ?_⟩
    exact (payload?_eq_text_iff stands).1 ((mem_linksHolding_text_iff labelled.consistent).1 holds)
  · cases answer

/-- **An identifier leads to the element of its label.** -/
theorem find?_eq_some_iff (labelled : IsLabelled relation network) :
    find? network.store relation identifier = some element ↔ ∃ label : Label,
      label.Stands relation network ∧ label.element = element ∧ label.identifier = identifier := by
  refine ⟨exists_of_find? labelled, ?_⟩
  rintro ⟨label, stands, rfl, rfl⟩
  have holds := (mem_linksHolding_text_iff labelled.consistent).2
    ((payload?_eq_text_iff stands).2 rfl)
  have enters : label.edge ∈ network.store.edgesInto label.link .constantDirected :=
    (mem_edgesInto_iff labelled.consistent).2
      ⟨_, _, stands.edge, ElementType.carries_self _⟩
  have names := (isNamingEdge_iff labelled stands.edge).2 ⟨label, rfl, stands⟩
  have isSome : (find? network.store relation label.identifier).isSome = true := by
    refine List.findSome?_isSome_iff.2 ⟨label.link, holds, ?_⟩
    refine List.findSome?_isSome_iff.2 ⟨label.edge, enters, ?_⟩
    rw [if_pos names, Store.ends?, stands.edge]
    rfl
  obtain ⟨found, isFound⟩ := Option.isSome_iff_exists.1 isSome
  obtain ⟨other, stands', rfl, same⟩ := exists_of_find? labelled isFound
  have sameLink := labelled.distinct stands' stands same
  rw [isFound, (labelled.eq_of_link stands' stands sameLink).1]

/-! ### From elements to identifiers -/

/-- The naming edges that leave an element are those of its labels. -/
theorem mem_namingEdges_iff (labelled : IsLabelled relation network) {edge : Address} :
    edge ∈ (network.store.edgesFrom element .constantDirected).filter
        (isNamingEdge network.store relation) ↔
      ∃ label : Label, label.Stands relation network ∧ label.element = element ∧
        label.edge = edge := by
  rw [List.mem_filter, mem_edgesFrom_iff labelled.consistent]
  constructor
  · rintro ⟨⟨type, target, found, -⟩, names⟩
    obtain ⟨label, rfl, stands⟩ := (isNamingEdge_iff labelled found).1 names
    cases stands.edge.symm.trans found
    exact ⟨label, stands, rfl, rfl⟩
  · rintro ⟨label, stands, rfl, rfl⟩
    exact ⟨⟨_, _, stands.edge, ElementType.carries_self _⟩,
      (isNamingEdge_iff labelled stands.edge).2 ⟨label, rfl, stands⟩⟩

/-- No element has two labels. -/
def IsSingle (relation : Address) (network : Network) : Prop :=
  ∀ {first second : Label}, first.Stands relation network → second.Stands relation network →
    first.element = second.element → first.link = second.link

/-- An element without a label has no link. -/
theorem linksOf_eq_nil (labelled : IsLabelled relation network)
    (none : ∀ label : Label, label.Stands relation network → label.element ≠ element) :
    linksOf network.store relation element = [] := by
  have noEdges : (network.store.edgesFrom element .constantDirected).filter
      (isNamingEdge network.store relation) = [] := by
    refine List.eq_nil_iff_forall_not_mem.2 fun edge member => ?_
    obtain ⟨label, stands, same, -⟩ := (mem_namingEdges_iff labelled).1 member
    exact none label stands same
  rw [linksOf, noEdges]
  rfl

/-- An element with one label has one link. -/
theorem linksOf_eq_singleton (labelled : IsLabelled relation network)
    (single : IsSingle relation network) (stands : label.Stands relation network) :
    linksOf network.store relation label.element = [label.link] := by
  have edges : (network.store.edgesFrom label.element .constantDirected).filter
      (isNamingEdge network.store relation) = [label.edge] := by
    have ascending := (Store.answersFromTable_of_consistent labelled.consistent).ascending
      (Store.isEdgeAt Prod.fst label.element .constantDirected)
    rw [← (Store.answersFromTable_of_consistent labelled.consistent).edgesFrom] at ascending
    refine eq_of_ascending_of_mem_iff Key.lt_irrefl Key.lt_trans
      (ascending.sublist List.filter_sublist) (List.pairwise_singleton _ _) fun edge => ?_
    rw [mem_namingEdges_iff labelled, List.mem_singleton]
    constructor
    · rintro ⟨other, stands', same, rfl⟩
      exact (labelled.eq_of_link stands' stands (single stands' stands same)).2.2
    · rintro rfl
      exact ⟨label, stands, rfl, rfl⟩
  rw [linksOf, edges, List.filterMap_cons, Store.ends?, stands.edge]
  rfl

/-- **An element leads to the identifier of its label**, if it has one label at most. -/
theorem identifierOf?_eq_some_iff (labelled : IsLabelled relation network)
    (single : IsSingle relation network) :
    identifierOf? network.store relation element = some identifier ↔ ∃ label : Label,
      label.Stands relation network ∧ label.element = element ∧ label.identifier = identifier := by
  by_cases named : ∃ label : Label, label.Stands relation network ∧ label.element = element
  · obtain ⟨label, stands, rfl⟩ := named
    have answer : identifierOf? network.store relation label.element = some label.identifier := by
      rw [identifierOf?, linksOf_eq_singleton labelled single stands, List.findSome?_cons,
        (payload?_eq_text_iff stands).2 rfl]
    rw [answer, Option.some.injEq]
    refine ⟨fun same => ⟨label, stands, rfl, same⟩, ?_⟩
    rintro ⟨other, stands', sameElement, rfl⟩
    exact (labelled.eq_of_link stands stands' (single stands stands' sameElement.symm)).2.1
  · have none : ∀ label : Label, label.Stands relation network → label.element ≠ element :=
      fun label stands same => named ⟨label, stands, same⟩
    rw [identifierOf?, linksOf_eq_nil labelled none]
    refine ⟨nofun, ?_⟩
    rintro ⟨label, stands, same, -⟩
    exact absurd same (none label stands)

end Naming

end SemanticNetwork
