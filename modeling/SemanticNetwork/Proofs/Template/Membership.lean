/-
**The members of a structure.** What the membership edges of a structure lead to is collected, sorted
and rid of repetitions, however many of these edges lead there. The edges among the members, with
their ends, are the rows of the structure; they can be read if the ends are members too. Since edges
are younger than what they connect, rows that ascend come after the edges they connect already, and
ordering them changes nothing.

* `Store.HasMember`, `mem_sortedMembers_iff`: what is collected;
* `memberRows`, `memberTriples_eq_ok_iff`: **the rows of a structure**, and when they can be read;
* `orderEdges_eq_self`: **ordering ascending rows changes nothing.**
-/
import SemanticNetwork.Proofs.Pattern.Rows
import SemanticNetwork.Proofs.Run
import SemanticNetwork.Template.Structure

namespace SemanticNetwork

/-- A structure has a member if a membership edge leads from it there. -/
def Store.HasMember (store : Store) (structureNode member : Address) : Prop :=
  ∃ edge type, store.get? edge = some ⟨edge, type, .edge structureNode member⟩ ∧
    type.carries .membership = true

namespace Template

variable {store : Store} {structureNode member : Address} {row : Triple} {rows : List Triple}

/-! ### What is collected -/

theorem mem_members_iff (consistent : store.Consistent) :
    member ∈ store.members structureNode ↔ store.HasMember structureNode member := by
  have scanned := (Store.answersFromTable_of_consistent consistent).edgesFrom structureNode .membership
  simp only [Store.members, scanned, List.mem_filterMap, Store.mem_scan_iff,
    Store.isEdgeAt_iff consistent]
  constructor
  · intro ⟨edge, ⟨type, source, target, found, atSource, carried⟩, leads⟩
    obtain ⟨ends, ends', same⟩ := Option.map_eq_some_iff.1 leads
    have ownEnds : store.ends? edge = some (source, target) :=
      (consistent.ends?_eq_some_iff).2 ⟨type, found⟩
    cases ends'.symm.trans ownEnds
    subst atSource same
    exact ⟨edge, type, found, carried⟩
  · intro ⟨edge, type, found, carried⟩
    refine ⟨edge, ⟨type, structureNode, member, found, rfl, carried⟩, ?_⟩
    rw [(consistent.ends?_eq_some_iff).2 ⟨type, found⟩]
    rfl

/-- Inserting keys one after another adds them, and nothing else. -/
theorem mem_keys_foldl_insert (keys : List Address) (map : KeyMap Address Unit) :
    member ∈ (keys.foldl (fun known key => known.insert key ()) map).keys ↔
      member ∈ keys ∨ member ∈ map.keys := by
  induction keys generalizing map with
  | nil => simp
  | cons key rest hypothesis =>
    have inserted : member ∈ (map.insert key ()).keys ↔ member = key ∨ member ∈ map.keys := by
      simp only [KeyMap.mem_keys_iff, KeyMap.contains, KeyMap.get?_insert]
      by_cases same : member = key
      · simp [same]
      · simp [same]
    rw [List.foldl_cons, hypothesis, inserted, List.mem_cons, or_left_comm, or_assoc]

theorem mem_sortedMembers_iff (consistent : store.Consistent) :
    member ∈ sortedMembers store structureNode ↔ store.HasMember structureNode member := by
  rw [sortedMembers, mem_keys_foldl_insert, mem_members_iff consistent]
  exact or_iff_left List.not_mem_nil

theorem sortedMembers_ascending (store : Store) (structureNode : Address) :
    (sortedMembers store structureNode).Pairwise (· < ·) :=
  KeyMap.keys_ascending _

/-! ### The rows of a structure -/

/-- The row of a member that is an edge. -/
def memberRow? (store : Store) (member : Address) : Option Triple :=
  (store.ends? member).map fun (source, target) => ⟨source, member, target⟩

/-- **The rows of a structure**: the edges among its members with their ends. -/
def memberRows (store : Store) (structureNode : Address) : List Triple :=
  (sortedMembers store structureNode).filterMap (memberRow? store)

theorem memberRow?_eq_some_iff : memberRow? store member = some row ↔
    row.edge = member ∧ store.ends? row.edge = some (row.source, row.target) := by
  unfold memberRow?
  constructor
  · intro here
    obtain ⟨⟨source, target⟩, ends, same⟩ := Option.map_eq_some_iff.1 here
    cases same
    exact ⟨rfl, ends⟩
  · intro ⟨same, ends⟩
    rw [← same, ends]
    rfl

theorem mem_memberRows_iff (consistent : store.Consistent) :
    row ∈ memberRows store structureNode ↔ store.HasMember structureNode row.edge ∧
      store.ends? row.edge = some (row.source, row.target) := by
  simp only [memberRows, List.mem_filterMap, mem_sortedMembers_iff consistent,
    memberRow?_eq_some_iff]
  constructor
  · intro ⟨member, hasMember, same, ends⟩
    exact ⟨same ▸ hasMember, ends⟩
  · intro ⟨hasMember, ends⟩
    exact ⟨row.edge, hasMember, rfl, ends⟩

theorem memberRows_ascending (store : Store) (structureNode : Address) :
    (memberRows store structureNode).Pairwise Triple.Before := by
  refine List.Pairwise.filterMap _ ?_ (sortedMembers_ascending store structureNode)
  intro first second before row here other there
  obtain ⟨rfl, -⟩ := memberRow?_eq_some_iff.1 here
  obtain ⟨rfl, -⟩ := memberRow?_eq_some_iff.1 there
  exact before

/-- The ends of all rows are members. -/
def IsClosed (store : Store) (structureNode : Address) : Prop :=
  ∀ row ∈ memberRows store structureNode, store.HasMember structureNode row.source ∧
    store.HasMember structureNode row.target

/-- The row of a member is read if its ends are members. -/
theorem memberTriple?_eq_ok_iff {members : List Address} {found : Option Triple} :
    memberTriple? store structureNode members member = .ok found ↔
      memberRow? store member = found ∧ ∀ row, memberRow? store member = some row →
        row.source ∈ members ∧ row.target ∈ members := by
  unfold memberTriple? memberRow?
  cases store.ends? member with
  | none => simp
  | some ends =>
    obtain ⟨source, target⟩ := ends
    by_cases sourceThere : source ∈ members
    · by_cases targetThere : target ∈ members
      · simp [sourceThere, targetThere]
      · simp [sourceThere, targetThere]
    · simp [sourceThere]

theorem mapM_memberTriple?_eq_ok_iff {members list : List Address} {found : List (Option Triple)} :
    list.mapM (memberTriple? store structureNode members) = .ok found ↔
      list.map (memberRow? store) = found ∧ ∀ member ∈ list, ∀ row,
        memberRow? store member = some row → row.source ∈ members ∧ row.target ∈ members := by
  induction list generalizing found with
  | nil =>
    rw [List.mapM_nil]
    simp [pure, Except.pure]
  | cons head rest hypothesis =>
    rw [List.forall_mem_cons]
    simp only [List.mapM_cons, bind_eq_ok_iff, memberTriple?_eq_ok_iff, hypothesis]
    constructor
    · intro ⟨first, ⟨here, headClosed⟩, others, ⟨there, restClosed⟩, same⟩
      cases same
      refine ⟨?_, headClosed, restClosed⟩
      rw [List.map_cons, here, there]
    · intro ⟨same, headClosed, restClosed⟩
      subst same
      exact ⟨_, ⟨rfl, headClosed⟩, _, ⟨rfl, restClosed⟩, rfl⟩

/-- **The rows of a structure can be read** if their ends are members. -/
theorem memberTriples_eq_ok_iff (consistent : store.Consistent) :
    memberTriples store structureNode = .ok rows ↔
      IsClosed store structureNode ∧ memberRows store structureNode = rows := by
  have closed : (∀ member ∈ sortedMembers store structureNode, ∀ row,
      memberRow? store member = some row → row.source ∈ sortedMembers store structureNode ∧
        row.target ∈ sortedMembers store structureNode) ↔ IsClosed store structureNode := by
    simp only [IsClosed, memberRows, List.mem_filterMap, mem_sortedMembers_iff consistent]
    constructor
    · intro ends row ⟨member, hasMember, here⟩
      exact ends member hasMember row here
    · intro isClosed member hasMember row here
      exact isClosed row ⟨member, hasMember, here⟩
  have collected : ((sortedMembers store structureNode).map (memberRow? store)).filterMap id =
      memberRows store structureNode := by
    rw [List.filterMap_map]
    rfl
  simp only [memberTriples, bind_eq_ok_iff, mapM_memberTriple?_eq_ok_iff]
  constructor
  · intro ⟨found, ⟨same, ends⟩, returned⟩
    subst same
    cases returned
    exact ⟨closed.1 ends, collected.symm⟩
  · intro ⟨isClosed, same⟩
    refine ⟨_, ⟨rfl, closed.2 isClosed⟩, ?_⟩
    rw [collected, same]
    rfl

/-! ### Ordering -/

/-- No row from here on has an edge that is older than the next one. -/
theorem edge_ne_of_older {head : Triple} {endpoint : Address}
    (ascending : (head :: rows).Pairwise Triple.Before) (older : endpoint < head.edge) :
    ∀ row ∈ head :: rows, row.edge ≠ endpoint := by
  intro row inRows same
  subst same
  rcases List.mem_cons.1 inRows with rfl | later
  · exact Key.lt_irrefl _ older
  · exact Key.lt_irrefl _ (Key.lt_trans older ((List.pairwise_cons.1 ascending).1 row later))

/-- Rows whose listed ends are placed or come before are all placed in one pass. -/
theorem placeReady_of_ascending {listed placed : List Address}
    (ascending : rows.Pairwise Triple.Before)
    (younger : ∀ row ∈ rows, row.source < row.edge ∧ row.target < row.edge)
    (covered : ∀ edge ∈ listed, edge ∈ placed ∨ ∃ row ∈ rows, row.edge = edge) :
    placeReady listed placed rows = (rows, []) := by
  induction rows generalizing placed with
  | nil => rfl
  | cons head rest hypothesis =>
    have later := (List.pairwise_cons.1 ascending).2
    have ready : ∀ endpoint, endpoint < head.edge → endpoint ∈ listed → endpoint ∈ placed := by
      intro endpoint older inListed
      refine (covered endpoint inListed).resolve_right ?_
      intro ⟨row, member, same⟩
      exact edge_ne_of_older ascending older row member same
    have headReady : ([head.source, head.target].all fun endpoint =>
        !listed.contains endpoint || placed.contains endpoint) = true := by
      have ends := younger head List.mem_cons_self
      have source := ready head.source ends.1
      have target := ready head.target ends.2
      simp [Decidable.imp_iff_not_or] at source target ⊢
      exact ⟨source, target⟩
    have others : placeReady listed (head.edge :: placed) rest = (rest, []) := by
      refine hypothesis later (fun row member => younger row (List.mem_cons_of_mem _ member)) ?_
      intro edge inListed
      rcases covered edge inListed with isPlaced | ⟨row, member, same⟩
      · exact .inl (List.mem_cons_of_mem _ isPlaced)
      · rcases List.mem_cons.1 member with rfl | member
        · exact .inl (same ▸ List.mem_cons_self)
        · exact .inr ⟨row, member, same⟩
    simp only [placeReady, headReady, others, if_true]

/-- **Ordering ascending rows changes nothing**, if they are younger than what they connect. -/
theorem orderEdges_eq_self (ascending : rows.Pairwise Triple.Before)
    (younger : ∀ row ∈ rows, row.source < row.edge ∧ row.target < row.edge) :
    orderEdges rows = rows := by
  have placed : placeReady (rows.map Triple.edge) [] rows = (rows, []) := by
    refine placeReady_of_ascending ascending younger fun edge listed => .inr ?_
    exact List.mem_map.1 listed
  have none : orderPending (rows.map Triple.edge) (rows.map Triple.edge ++ []) [] = [] := by
    rw [orderPending]
    rfl
  unfold orderEdges
  rw [orderPending]
  simp only [placed]
  split
  · rw [none, List.append_nil]
  · rw [List.append_nil]

end Template

end SemanticNetwork
