/-
**What a generation announces.** The changes that a generation holds back are creations of edges, and
every edge that it creates is among them, whatever the template is. A refused generation announces
nothing, as nothing is left of it.

* `Change.IsArrival`: a change that is the creation of an edge;
* `Announces`, `stepwise_announces`: every step sees to it;
* `Announced`, `announced_generate`: **a generation adds elements, and announces all edges among
  them.**
-/
import SemanticNetwork.Proofs.Template.Growth

namespace SemanticNetwork

/-- A change that is the creation of an edge. -/
def Change.IsArrival (change : Change) : Prop :=
  ∃ edge source target type, change = .edgeAdded edge source target type

namespace Template

/-- The changes are creations of edges, and every new edge is among them. -/
structure Announces (start : Store) (state : Generation) : Prop where
  arrivals : ∀ change ∈ state.changes, change.IsArrival
  edges : ∀ {edge type source target},
    state.store.get? edge = some ⟨edge, type, .edge source target⟩ →
      start.get? edge = some ⟨edge, type, .edge source target⟩ ∨
        .edgeAdded edge source target type ∈ state.changes

variable {start : Store} {state : Generation}

theorem announces_start (start : Store) (valuation : Valuation) :
    Announces start ⟨start, valuation, [], []⟩ where
  arrivals _ member := absurd member List.not_mem_nil
  edges found := .inl found

theorem Announces.remember {after : Generation} (announces : Announces start state)
    (elements : after.store.elements = state.store.elements)
    (changes : after.changes = state.changes) : Announces start after where
  arrivals := changes ▸ announces.arrivals
  edges {edge type source target} found := by
    rw [changes]
    refine announces.edges ?_
    rw [Store.get?, ← elements]
    exact found

/-- A step that creates what is no edge need not announce it. -/
theorem keeps_makeElement_of_noEdge {action : Store.Action Address}
    (creates : Store.Creates action)
    (adds : ∀ {store after address}, action.run store = .ok address after →
      ∃ element, element.ends? = none ∧ store.Adds element after) :
    Keeps (Announces start) (makeElement action) where
  ok {state address after} announces ran := by
    simp only [makeElement, run_bind_ok_iff, run_withStore_ok_iff] at ran
    obtain ⟨_, _, ⟨store, ran, rfl⟩, _, _, recorded, returned⟩ := ran
    cases recorded
    cases returned
    obtain ⟨element, noEdge, adds⟩ := adds ran
    refine ⟨announces.arrivals, fun {edge type source target} found => announces.edges ?_⟩
    rw [adds.get?_eq] at found
    split at found
    · cases found
      cases noEdge
    · exact found
  error {state error after} announces ran := by
    simp only [makeElement, run_bind_error_iff, run_withStore_error_iff] at ran
    rcases ran with ⟨reason, store, ran, -, rfl⟩ | ⟨_, _, -, recorded | ⟨_, _, -, returned⟩⟩
    · exact announces.remember (creates.spends ran).elements rfl
    · cases recorded
    · cases returned

/-- A step that creates an edge announces it. -/
theorem keeps_makeEdge_announces (type : ElementType) (source target : Address) :
    Keeps (Announces start) (makeEdge type source target) where
  ok {state address after} announces ran := by
    simp only [makeEdge, makeElement, run_bind_ok_iff, run_withStore_ok_iff] at ran
    obtain ⟨_, _, ⟨_, _, ⟨store, ran, rfl⟩, _, _, recorded, returned⟩, _, _, told, returned'⟩ := ran
    cases recorded
    cases returned
    cases told
    cases returned'
    obtain ⟨-, -, adds⟩ := Store.createEdge_ok ran
    refine ⟨fun change member => ?_, fun {edge type' source' target'} found => ?_⟩
    · rcases List.mem_append.1 member with old | new
      · exact announces.arrivals change old
      · exact ⟨_, _, _, _, List.mem_singleton.1 new⟩
    · rw [adds.get?_eq] at found
      split at found
      · cases found
        exact .inr (List.mem_append_right _ List.mem_cons_self)
      · exact (announces.edges found).imp id (List.mem_append_left _)
  error {state error after} announces ran := by
    simp only [makeEdge, makeElement, run_bind_error_iff, run_bind_ok_iff, run_withStore_ok_iff,
      run_withStore_error_iff] at ran
    rcases ran with (⟨reason, store, ran, -, rfl⟩ | ⟨_, _, -, recorded | ⟨_, _, -, returned⟩⟩) |
      ⟨_, _, -, told | ⟨_, _, -, returned⟩⟩
    · exact announces.remember (Store.createEdge_error ran).elements rfl
    · cases recorded
    · cases returned
    · cases told
    · cases returned

/-- **Every step announces the edge that it creates.** -/
theorem stepwise_announces (start : Store) : Stepwise (Announces start) where
  makeNode type := keeps_makeElement_of_noEdge (Store.creates_createNode type)
    fun ran => ⟨_, rfl, (Store.createNode_ok ran).2.2⟩
  makeLink type := keeps_makeElement_of_noEdge (Store.creates_createTypedLink type)
    fun ran => ⟨_, rfl, (Store.createTypedLink_ok ran).2.2⟩
  makeEdge := keeps_makeEdge_announces
  bindSlot _ _ := .modify fun _ announces => announces.remember rfl rfl

/-- Elements were added, and changes are the creations of all edges among them. -/
structure Announced (before after : Store) (changes : List Change) : Prop where
  kept : ∀ {address element}, before.get? address = some element →
    after.get? address = some element
  arrivals : ∀ change ∈ changes, change.IsArrival
  edges : ∀ {edge type source target}, after.get? edge = some ⟨edge, type, .edge source target⟩ →
    before.get? edge = some ⟨edge, type, .edge source target⟩ ∨
      .edgeAdded edge source target type ∈ changes

/-- **A generation adds elements, and announces all edges among them**, however it ends. -/
theorem announced_generate (consistent : start.Consistent) (template : Template)
    (parameters : Assignment) :
    Announced start (template.generate start parameters).store
      (template.generate start parameters).changes := by
  cases outcome : (template.generate start parameters).outcome with
  | error error =>
    obtain ⟨silent, allocated, -, restored⟩ := generate_error_restores consistent outcome
    rw [silent, restored]
    exact ⟨fun found => found, nofun, fun found => .inl found⟩
  | ok made =>
    unfold generate at outcome ⊢
    split at outcome
    · rename_i valuation prepared
      unfold generateFrom at outcome ⊢
      split at outcome
      · rename_i triples state ran
        have grows := (keeps_generateTriples (stepwise_grows start) template).ok
          (grows_start consistent valuation) ran
        have announces := (keeps_generateTriples (stepwise_announces start) template).ok
          (announces_start start valuation) ran
        refine ⟨fun found => ?_, announces.arrivals, announces.edges⟩
        exact (grows.spared (consistent.numbered found).2).trans found
      · cases outcome
    · cases outcome

end Template

end SemanticNetwork
