/-
**Edges after the edges they connect.** Edges are ordered pass by pass. A pass places the edges that
wait for no other, and what it places may be what a later edge of the same pass waits for. So a pass
that places nothing has found edges each of which waits for another of them. Then these are appended
as they are. Since there are only so many edges, they wait in a cycle; without a cycle every pass
places something until all edges are placed.

* `IsReady`, `placeReady_of_ready`, `placeReady_of_waiting`: what a pass does with an edge;
* `perm_placeReady`, `isSorted_placeReady`, `waiting_of_stuck`: what a pass leads to;
* `Orders`: how an ordering goes on, pass by pass, with `exists_orders`: **it comes to an end**;
* `exists_free`: **without a cycle one of the edges that are left waits for none of them**;
* `orderEdges_sorts`: **so edges are sorted, and are left unsorted only if they wait in a cycle.**
-/
import Mathlib.Data.Set.Finite.Basic
import Mathlib.Logic.Relation
import Mathlib.Order.WellFounded
import SemanticNetwork.Proofs.Template.Faithfulness

namespace SemanticNetwork

/-- What an edge connects. -/
def Triple.ends (triple : Triple) : List Address := [triple.source, triple.target]

namespace Template

variable {store : Store} {structureNode : Address} {listed placed : List Address} {triple : Triple}
  {triples pending ordered left : List Triple} {passes : Nat}

/-! ### One pass -/

/-- The listed edges among the ends of an edge are placed. -/
def IsReady (listed placed : List Address) (triple : Triple) : Prop :=
  ∀ endpoint ∈ triple.ends, endpoint ∈ listed → endpoint ∈ placed

theorem IsReady.mono {placed' : List Address} (ready : IsReady listed placed triple)
    (included : placed ⊆ placed') : IsReady listed placed' triple :=
  fun endpoint isEnd inListed => included (ready endpoint isEnd inListed)

theorem all_isReady_iff : ([triple.source, triple.target].all fun endpoint =>
    !listed.contains endpoint || placed.contains endpoint) = true ↔
      IsReady listed placed triple := by
  rw [List.all_eq_true]
  refine forall₂_congr fun endpoint _ => ?_
  simp [Decidable.imp_iff_not_or]

/-- **An edge that is ready is placed**, and the rest of the pass knows it. -/
theorem placeReady_of_ready (ready : IsReady listed placed triple) (rest : List Triple) :
    placeReady listed placed (triple :: rest) =
      (triple :: (placeReady listed (triple.edge :: placed) rest).1,
        (placeReady listed (triple.edge :: placed) rest).2) :=
  if_pos (all_isReady_iff.2 ready)

/-- **An edge that is not ready is left**, and nothing changes for the rest of the pass. -/
theorem placeReady_of_waiting (waiting : ¬ IsReady listed placed triple) (rest : List Triple) :
    placeReady listed placed (triple :: rest) =
      ((placeReady listed placed rest).1, triple :: (placeReady listed placed rest).2) :=
  if_neg (mt all_isReady_iff.1 waiting)

/-- **A pass loses no edge.** -/
theorem perm_placeReady (listed placed : List Address) (triples : List Triple) :
    ((placeReady listed placed triples).1 ++ (placeReady listed placed triples).2).Perm triples := by
  induction triples generalizing placed with
  | nil => rfl
  | cons triple rest hypothesis =>
    by_cases ready : IsReady listed placed triple
    · rw [placeReady_of_ready ready]
      exact (hypothesis _).cons triple
    · rw [placeReady_of_waiting ready]
      exact List.perm_middle.trans ((hypothesis placed).cons triple)

/-- **Edges are sorted**, when some are placed before them: the listed edges among the ends of each are
placed before them, or come before it. -/
def IsSorted (listed placed : List Address) (ordered : List Triple) : Prop :=
  ∀ before triple after, ordered = before ++ triple :: after →
    IsReady listed (before.map Triple.edge ++ placed) triple

theorem isSorted_nil : IsSorted listed placed [] := fun _ _ _ same =>
  absurd same.symm (by simp)

theorem IsSorted.cons (ready : IsReady listed placed triple)
    (sorted : IsSorted listed (triple.edge :: placed) ordered) :
    IsSorted listed placed (triple :: ordered) := by
  intro before other after same
  cases before with
  | nil =>
    cases same
    exact ready
  | cons head before =>
    cases same
    refine (sorted before other after rfl).mono fun edge member => ?_
    simp only [List.mem_append, List.mem_cons, List.map_cons] at member ⊢
    grind

/-- Sorted edges may be placed one list after the other. -/
theorem IsSorted.append {later : List Triple} (first : IsSorted listed placed ordered)
    (second : IsSorted listed (ordered.map Triple.edge ++ placed) later) :
    IsSorted listed placed (ordered ++ later) := by
  intro before other after same
  rcases List.append_eq_append_iff.1 same with ⟨between, rfl, rest⟩ | ⟨between, rfl, rest⟩
  · refine (second between other after rest).mono fun edge member => ?_
    simp only [List.mem_append, List.map_append] at member ⊢
    grind
  · cases between with
    | nil =>
      refine (second [] other after rest.symm).mono fun edge member => ?_
      simpa using member
    | cons head between =>
      cases rest
      exact first before other between rfl

/-- **A pass places edges in order.** -/
theorem isSorted_placeReady (listed placed : List Address) (triples : List Triple) :
    IsSorted listed placed (placeReady listed placed triples).1 := by
  induction triples generalizing placed with
  | nil => exact isSorted_nil
  | cons triple rest hypothesis =>
    by_cases ready : IsReady listed placed triple
    · rw [placeReady_of_ready ready]
      exact (hypothesis _).cons ready
    · rw [placeReady_of_waiting ready]
      exact hypothesis placed

theorem length_placeReady_le (listed placed : List Address) (triples : List Triple) :
    (placeReady listed placed triples).2.length ≤ triples.length := by
  have length := (perm_placeReady listed placed triples).length_eq
  rw [List.length_append] at length
  omega

/-- **In a pass that places nothing, no edge was ready.** -/
theorem waiting_of_stuck
    (stuck : (placeReady listed placed triples).2.length = triples.length) :
    ∀ triple ∈ triples, ¬ IsReady listed placed triple := by
  induction triples with
  | nil => exact nofun
  | cons head rest hypothesis =>
    by_cases ready : IsReady listed placed head
    · have shorter := length_placeReady_le listed (head.edge :: placed) rest
      simp only [placeReady_of_ready ready, List.length_cons] at stuck
      omega
    · rw [placeReady_of_waiting ready, List.length_cons, List.length_cons] at stuck
      rw [List.forall_mem_cons]
      exact ⟨ready, hypothesis (Nat.succ.inj stuck)⟩

/-! ### Pass after pass -/

/-- **How an ordering goes on** when some edges are placed and others pending. It ends when none is
pending. A pass that leaves fewer is followed by others. A pass that leaves as many as there were is
the last, and what it leaves is appended unsorted. -/
inductive Orders (listed : List Address) :
    List Address → List Triple → Nat → List Triple → List Triple → Prop
  | done (placed : List Address) : Orders listed placed [] 0 [] []
  | pass {placed : List Address} {pending : List Triple} {passes : Nat} {later left : List Triple}
      (fewer : (placeReady listed placed pending).2.length < pending.length)
      (rest : Orders listed ((placeReady listed placed pending).1.map Triple.edge ++ placed)
        (placeReady listed placed pending).2 passes later left) :
      Orders listed placed pending (passes + 1) ((placeReady listed placed pending).1 ++ later) left
  | stuck {placed : List Address} {pending : List Triple} (nonempty : pending ≠ [])
      (same : (placeReady listed placed pending).2.length = pending.length) :
      Orders listed placed pending 1 (placeReady listed placed pending).1
        (placeReady listed placed pending).2

/-- **Every ordering comes to an end**, since every pass but the last leaves fewer edges. -/
theorem exists_orders (listed placed : List Address) (pending : List Triple) :
    ∃ passes ordered left, Orders listed placed pending passes ordered left := by
  induction count : pending.length using Nat.strong_induction_on generalizing placed pending with
  | _ count hypothesis =>
    subst count
    rcases Nat.lt_or_eq_of_le (length_placeReady_le listed placed pending) with fewer | same
    · obtain ⟨passes, later, left, rest⟩ := hypothesis _ fewer
        ((placeReady listed placed pending).1.map Triple.edge ++ placed) _ rfl
      exact ⟨passes + 1, _, left, .pass fewer rest⟩
    · by_cases nonempty : pending = []
      · subst nonempty
        exact ⟨0, [], [], .done placed⟩
      · exact ⟨1, _, _, .stuck nonempty same⟩

/-- There are at most as many passes as edges. -/
theorem Orders.passes_le (orders : Orders listed placed pending passes ordered left) :
    passes ≤ pending.length := by
  induction orders with
  | done => exact Nat.le_refl _
  | pass fewer _ hypothesis => omega
  | stuck nonempty => exact List.length_pos_iff.2 nonempty

theorem Orders.perm (orders : Orders listed placed pending passes ordered left) :
    (ordered ++ left).Perm pending := by
  induction orders with
  | done => rfl
  | pass _ _ hypothesis =>
    rw [List.append_assoc]
    exact (hypothesis.append_left _).trans (perm_placeReady ..)
  | stuck => exact perm_placeReady ..

/-- **What is placed in an ordering is sorted.** -/
theorem Orders.isSorted (orders : Orders listed placed pending passes ordered left) :
    IsSorted listed placed ordered := by
  induction orders with
  | done => exact isSorted_nil
  | pass _ _ hypothesis => exact (isSorted_placeReady _ _ _).append hypothesis
  | stuck => exact isSorted_placeReady _ _ _

/-- **What an ordering gives**: the edges it placed, and then those that are left. -/
theorem Orders.orderPending_eq (orders : Orders listed placed pending passes ordered left) :
    orderPending listed placed pending = ordered ++ left := by
  induction orders with
  | done =>
    rw [orderPending]
    rfl
  | pass fewer _ hypothesis => rw [orderPending, if_pos fewer, hypothesis, List.append_assoc]
  | stuck _ same => rw [orderPending, if_neg (Nat.not_lt.2 (Nat.le_of_eq same.symm))]

/-! ### Cycles -/

/-- An edge waits for another of some edges if it leads from or to it. -/
def Awaits (triples : List Triple) (edge other : Address) : Prop :=
  (∃ triple ∈ triples, triple.edge = edge ∧ other ∈ triple.ends) ∧
    other ∈ triples.map Triple.edge

/-- **No cycle of edges connects edges.** -/
def IsAcyclic (triples : List Triple) : Prop :=
  ∀ edge, ¬ Relation.TransGen (Awaits triples) edge edge

/-- Without a cycle, to wait for one of finitely many edges is well-founded. -/
theorem IsAcyclic.wellFounded (acyclic : IsAcyclic triples) (edges : List Address) :
    WellFounded fun awaited waiting : {edge // edge ∈ edges} =>
      Relation.TransGen (Awaits triples) waiting.1 awaited.1 := by
  have transitive : IsTrans {edge // edge ∈ edges} fun awaited waiting =>
      Relation.TransGen (Awaits triples) waiting.1 awaited.1 :=
    ⟨fun _ _ _ first second => second.trans first⟩
  have irreflexive : Std.Irrefl fun awaited waiting : {edge // edge ∈ edges} =>
      Relation.TransGen (Awaits triples) waiting.1 awaited.1 := ⟨fun edge => acyclic edge.1⟩
  exact Finite.wellFounded_of_trans_of_irrefl _

/-- **Without a cycle one of the edges that are left waits for none of them.** -/
theorem exists_free (acyclic : IsAcyclic triples) (nonempty : pending ≠ []) :
    ∃ triple ∈ pending, ∀ other ∈ pending, ¬ Awaits triples triple.edge other.edge := by
  obtain ⟨first, member⟩ := List.exists_mem_of_ne_nil pending nonempty
  obtain ⟨⟨edge, listed⟩, -, minimal⟩ :=
    (acyclic.wellFounded (pending.map Triple.edge)).has_min Set.univ
      ⟨⟨first.edge, List.mem_map_of_mem member⟩, trivial⟩
  obtain ⟨triple, inPending, rfl⟩ := List.mem_map.1 listed
  refine ⟨triple, inPending, fun other otherPending awaits => ?_⟩
  exact minimal ⟨other.edge, List.mem_map_of_mem otherPending⟩ trivial (.single awaits)

/-- **Without a cycle no edge is left**, when all listed edges are placed or pending. -/
theorem Orders.left_eq_nil
    (orders : Orders (triples.map Triple.edge) placed pending passes ordered left)
    (acyclic : IsAcyclic triples) (included : pending ⊆ triples)
    (covered : ∀ edge ∈ triples.map Triple.edge,
      edge ∈ placed ∨ edge ∈ pending.map Triple.edge) : left = [] := by
  induction orders with
  | done => rfl
  | @pass placed pending _ _ _ _ _ hypothesis =>
    have perm := perm_placeReady (triples.map Triple.edge) placed pending
    refine hypothesis (fun triple member => ?_) fun edge inListed => ?_
    · exact included (perm.subset (List.mem_append_right _ member))
    · have spread := (perm.map Triple.edge).mem_iff (a := edge)
      have known := covered edge inListed
      rw [List.map_append, List.mem_append] at spread
      rw [List.mem_append]
      grind
  | stuck nonempty same =>
    -- The edge that waits for none of those that are left was ready.
    obtain ⟨triple, member, free⟩ := exists_free acyclic nonempty
    refine absurd (fun endpoint isEnd inListed => ?_) (waiting_of_stuck same triple member)
    refine (covered endpoint inListed).resolve_right fun isPending => ?_
    obtain ⟨other, otherPending, rfl⟩ := List.mem_map.1 isPending
    exact free other otherPending ⟨⟨triple, included member, rfl, isEnd⟩, inListed⟩

/-- **Edges that can be sorted do not wait in a cycle**: each comes after those that it waits for. -/
theorem isAcyclic_of_isSorted (distinct : (triples.map Triple.edge).Nodup)
    (perm : ordered.Perm triples) (sorted : IsSorted (triples.map Triple.edge) [] ordered) :
    IsAcyclic triples := by
  have earlier : ∀ {edge other}, Awaits triples edge other →
      (ordered.map Triple.edge).idxOf other < (ordered.map Triple.edge).idxOf edge := by
    rintro edge other ⟨⟨triple, member, rfl, isEnd⟩, inListed⟩
    obtain ⟨before, after, rfl⟩ := List.append_of_mem (perm.mem_iff.2 member)
    have placedBefore : other ∈ before.map Triple.edge := by
      simpa using sorted before triple after rfl other isEnd inListed
    have notBefore : triple.edge ∉ before.map Triple.edge := by
      have once := (perm.map Triple.edge).nodup_iff.2 distinct
      rw [List.map_append] at once
      exact fun twice => (List.nodup_append.1 once).2.2 _ twice _ (by simp) rfl
    rw [List.map_append, List.idxOf_append_of_mem placedBefore,
      List.idxOf_append_of_notMem notBefore]
    exact Nat.lt_add_right _ (List.idxOf_lt_length_iff.2 placedBefore)
  have descends : ∀ {edge other}, Relation.TransGen (Awaits triples) edge other →
      (ordered.map Triple.edge).idxOf other < (ordered.map Triple.edge).idxOf edge := by
    intro edge other waits
    induction waits with
    | single awaits => exact earlier awaits
    | tail _ awaits hypothesis => exact (earlier awaits).trans hypothesis
  exact fun edge cycle => Nat.lt_irrefl _ (descends cycle)

/-! ### Orderings -/

/-- **Some edges are ordered.** None is lost. Pass after pass they come to an end, after at most as
many passes as there are edges; what the passes place and what they leave is the result, and they
leave something exactly if edges wait in a cycle. Without a cycle each edge comes after all listed
edges that it leads from or to. -/
structure AreOrdered (triples : List Triple) : Prop where
  perm : (orderEdges triples).Perm triples
  ends : ∃ passes ordered left, Orders (triples.map Triple.edge) [] triples passes ordered left
  result : ∀ passes ordered left, Orders (triples.map Triple.edge) [] triples passes ordered left →
    passes ≤ triples.length ∧ orderEdges triples = ordered ++ left ∧
      (left = [] ↔ IsAcyclic triples)
  sorted : IsAcyclic triples → ∀ before triple after,
    orderEdges triples = before ++ triple :: after → ∀ endpoint ∈ triple.ends,
      endpoint ∈ triples.map Triple.edge → endpoint ∈ before.map Triple.edge

/-- **Ordering edges is a topological sort that comes to an end**, and it gives back the edges of a
structure as they are collected. -/
theorem orderEdges_sorts (distinct : (triples.map Triple.edge).Nodup) :
    AreOrdered triples ∧
      ∀ store structureNode rows, Store.Reachable store →
        memberTriples store structureNode = .ok rows →
          rows.Pairwise Triple.Before ∧ orderEdges rows = rows := by
  have sortedOf : ∀ {passes ordered left},
      Orders (triples.map Triple.edge) [] triples passes ordered left →
        orderEdges triples = ordered ++ left ∧ (IsAcyclic triples → left = []) :=
    fun orders => ⟨orders.orderPending_eq, fun acyclic =>
      orders.left_eq_nil acyclic (List.Subset.refl _) fun _ inListed => .inr inListed⟩
  obtain ⟨passes, ordered, left, orders⟩ := exists_orders (triples.map Triple.edge) [] triples
  obtain ⟨result, complete⟩ := sortedOf orders
  refine ⟨⟨result ▸ orders.perm, ⟨_, _, _, orders⟩, fun passes ordered left orders => ?_,
    fun acyclic => ?_⟩, fun store structureNode rows reachable collected => ?_⟩
  · refine ⟨orders.passes_le, (sortedOf orders).1, fun empty => ?_, (sortedOf orders).2⟩
    subst empty
    have perm := orders.perm
    rw [List.append_nil] at perm
    exact isAcyclic_of_isSorted distinct perm orders.isSorted
  · rw [result, complete acyclic, List.append_nil]
    intro before triple after same endpoint isEnd inListed
    simpa using orders.isSorted before triple after same endpoint isEnd inListed
  · have consistent := reachable.consistent
    obtain ⟨-, rfl⟩ := (memberTriples_eq_ok_iff consistent).1 collected
    have ascending := memberRows_ascending store structureNode
    exact ⟨ascending, orderEdges_eq_self ascending fun row member =>
      (older_of_mem_memberRows consistent member).2⟩

/-- An edge from a second edge, which leads from and to a third. -/
def stacked : List Triple := [⟨⟨5⟩, ⟨6⟩, ⟨1⟩⟩, ⟨⟨4⟩, ⟨5⟩, ⟨4⟩⟩, ⟨⟨1⟩, ⟨4⟩, ⟨2⟩⟩]

/-- Stacked edges take a pass each and come out in reverse, and those of a structure stay as they
are. -/
theorem orderEdges_stacked_sorts : (stacked.map Triple.edge).Nodup ∧ AreOrdered stacked ∧
    IsAcyclic stacked ∧ orderEdges stacked = stacked.reverse ∧ patterned.store.Reachable ∧
      ∃ rows, memberTriples patterned.store ⟨1⟩ = .ok rows ∧
        rows.map Triple.edge = [⟨4⟩, ⟨5⟩, ⟨6⟩] ∧ orderEdges rows = rows := by
  have distinct : (stacked.map Triple.edge).Nodup := by decide
  obtain ⟨ordered, collected⟩ := orderEdges_sorts distinct
  have orders : Orders (stacked.map Triple.edge) [] stacked 3 stacked.reverse [] :=
    .pass (by decide) (.pass (by decide) (.pass (by decide) (.done _)))
  obtain ⟨-, result, complete⟩ := ordered.result _ _ _ orders
  have rows : memberTriples patterned.store ⟨1⟩ =
      .ok [⟨⟨2⟩, ⟨4⟩, ⟨3⟩⟩, ⟨⟨3⟩, ⟨5⟩, ⟨3⟩⟩, ⟨⟨2⟩, ⟨6⟩, ⟨5⟩⟩] := by decide +kernel
  exact ⟨distinct, ordered, complete.1 rfl, result, reachable_patterned, _, rows, rfl,
    (collected _ _ _ reachable_patterned rows).2⟩

example : orderEdges [⟨⟨5⟩, ⟨4⟩, ⟨1⟩⟩, ⟨⟨4⟩, ⟨5⟩, ⟨1⟩⟩, ⟨⟨1⟩, ⟨6⟩, ⟨2⟩⟩] =
    [⟨⟨1⟩, ⟨6⟩, ⟨2⟩⟩, ⟨⟨5⟩, ⟨4⟩, ⟨1⟩⟩, ⟨⟨4⟩, ⟨5⟩, ⟨1⟩⟩] := by
  cbv

end Template

end SemanticNetwork
