/-
**How a store grows in a generation.** A generation creates at the next addresses and touches
nothing older. Every step keeps this, whether it succeeds or is refused, so it can be undone at any
point: erasing what was created gives the table back, and there is nothing to tell.

* `Grows`: what a generation leaves alone, and what there is in addition;
* `Stepwise`, `keeps_generateTriples`: **what every step keeps, a generation keeps**;
* `stepwise_grows`: every step grows, however it ends;
* `rollback_of_grows`: **undoing it gives back the store**, but for the addresses it used up;
* `generate_error_restores`: so a refused generation leaves no trace.
-/
import SemanticNetwork.Proofs.Store.Creation
import SemanticNetwork.Proofs.Store.Erasure
import SemanticNetwork.Template.Generate

namespace SemanticNetwork.Template

/-- The store of a generation is the store it started from, and what was created since. -/
structure Grows (start : Store) (state : Generation) : Prop where
  consistent : state.store.Consistent
  allocated : start.allocated ≤ state.store.allocated
  spared : ∀ {address}, address.value ≤ start.allocated →
    state.store.get? address = start.get? address
  younger : ∀ address ∈ state.created, start.allocated < address.value
  created : ∀ {address}, start.allocated < address.value →
    (state.store.contains address = true ↔ address ∈ state.created)
  ascending : state.created.Pairwise (· < ·)

variable {start : Store} {state : Generation}

theorem grows_start (consistent : start.Consistent) (valuation : Valuation) :
    Grows start ⟨start, valuation, [], []⟩ where
  consistent := consistent
  allocated := Nat.le_refl _
  spared _ := rfl
  younger _ member := absurd member List.not_mem_nil
  created {address} younger := by
    simp only [List.not_mem_nil, iff_false]
    exact Store.not_contains_iff.2 (consistent.get?_of_newer younger)
  ascending := .nil

theorem Grows.spend {after : Store} (grows : Grows start state) (spends : state.store.Spends after) :
    Grows start { state with store := after } where
  consistent := spends.consistent grows.consistent
  allocated := by
    rcases spends with rfl | rfl
    · exact grows.allocated
    · exact Nat.le_succ_of_le grows.allocated
  spared {address} older := by
    rw [← grows.spared older]
    exact congrArg (fun elements : AddressMap Element => elements.get? address) spends.elements
  younger := grows.younger
  created {address} younger := by
    rw [← grows.created younger]
    unfold Store.contains
    rw [spends.elements]
  ascending := grows.ascending

/-- What a consistent store adds is younger than all that it has. -/
theorem Grows.add {after : Store} {element : Element} (grows : Grows start state)
    (adds : state.store.Adds element after) (consistent : after.Consistent) :
    Grows start
      { state with store := after, created := state.created ++ [element.address] } where
  consistent := consistent
  allocated := by
    show start.allocated ≤ after.allocated
    rw [adds.allocated]
    exact Nat.le_succ_of_le grows.allocated
  spared {address} older := by
    have apart : address ≠ element.address := by
      rintro rfl
      rw [adds.address] at older
      exact absurd (Nat.lt_succ_of_le grows.allocated) (Nat.not_lt.2 older)
    show after.elements.get? address = _
    rw [adds.elements, KeyMap.get?_insert, if_neg apart]
    exact grows.spared older
  younger address member := by
    rcases List.mem_append.1 member with member | member
    · exact grows.younger address member
    · rw [List.mem_singleton.1 member, adds.address]
      exact Nat.lt_succ_of_le grows.allocated
  created {address} younger := by
    show after.elements.contains address = true ↔ address ∈ state.created ++ [element.address]
    rw [List.mem_append, List.mem_singleton, ← grows.created younger, KeyMap.contains,
      adds.elements, KeyMap.get?_insert]
    by_cases here : address = element.address
    · simp [here]
    · simp [here, Store.contains, KeyMap.contains]
  ascending := by
    refine List.pairwise_append.2 ⟨grows.ascending, List.pairwise_singleton _ _, ?_⟩
    intro address member other last
    rw [List.mem_singleton.1 last, adds.address]
    have there := (grows.created (grows.younger address member)).2 member
    obtain ⟨old, found⟩ := Store.contains_iff.1 there
    exact Nat.lt_succ_of_le (grows.consistent.numbered found).2

/-! ### Every step grows -/

theorem run_withStore {α : Type} (action : Store.Action α) (state : Generation) :
    (withStore action).run state =
      match action.run state.store with
      | .ok value store => EStateM.Result.ok value { state with store := store }
      | .error error store => EStateM.Result.error (.store error) { state with store := store } :=
  rfl

theorem run_withStore_ok_iff {α : Type} {action : Store.Action α} {after : Generation} {value : α} :
    (withStore action).run state = .ok value after ↔
      ∃ store, action.run state.store = .ok value store ∧ after = { state with store := store } := by
  rw [run_withStore]
  cases action.run state.store <;> simp [eq_comm, and_assoc]

theorem run_withStore_error_iff {α : Type} {action : Store.Action α} {after : Generation}
    {error : TemplateError} : (withStore action).run state = .error error after ↔
      ∃ reason store, action.run state.store = .error reason store ∧ error = .store reason ∧
        after = { state with store := store } := by
  rw [run_withStore]
  cases action.run state.store <;> simp [eq_comm, and_assoc]

/-- **Creating an element grows.** -/
theorem keeps_makeElement {action : Store.Action Address} (creates : Store.Creates action) :
    Keeps (Grows start) (makeElement action) where
  ok {state address after} grows ran := by
    simp only [makeElement, run_bind_ok_iff, run_withStore_ok_iff] at ran
    obtain ⟨_, _, ⟨store, ran, rfl⟩, _, _, recorded, returned⟩ := ran
    cases recorded
    cases returned
    obtain ⟨element, rfl, adds⟩ := creates.adds ran
    exact grows.add adds (creates.keeps.ok grows.consistent ran)
  error {state error after} grows ran := by
    simp only [makeElement, run_bind_error_iff, run_withStore_error_iff] at ran
    rcases ran with ⟨reason, store, ran, -, rfl⟩ | ⟨_, _, -, recorded | ⟨_, _, -, returned⟩⟩
    · exact grows.spend (creates.spends ran)
    · cases recorded
    · cases returned

/-- What a generation remembers besides the store and what was created does not matter here. -/
theorem Grows.remember {after : Generation} (grows : Grows start state)
    (store : after.store = state.store) (created : after.created = state.created) :
    Grows start after where
  consistent := store ▸ grows.consistent
  allocated := store ▸ grows.allocated
  spared older := store ▸ grows.spared older
  younger := created ▸ grows.younger
  created younger := store ▸ created ▸ grows.created younger
  ascending := created ▸ grows.ascending

/-- **A property of generations that every step keeps**, whether it succeeds or is refused. -/
structure Stepwise (invariant : Generation → Prop) : Prop where
  makeNode : ∀ type, Keeps invariant (makeElement (Store.createNode type))
  makeLink : ∀ type, Keeps invariant (makeElement (Store.createTypedLink type))
  makeEdge : ∀ type source target, Keeps invariant (makeEdge type source target)
  bindSlot : ∀ slot address, Keeps invariant (bindSlot slot address)

/-- **To grow is such a property.** -/
theorem stepwise_grows (start : Store) : Stepwise (Grows start) where
  makeNode type := keeps_makeElement (Store.creates_createNode type)
  makeLink type := keeps_makeElement (Store.creates_createTypedLink type)
  makeEdge type source target :=
    (keeps_makeElement (Store.creates_createEdge type source target)).bind fun _ =>
      (Keeps.modify fun _ grows => grows.remember rfl rfl).bind fun _ => .pure _
  bindSlot _ _ := .modify fun _ grows => grows.remember rfl rfl

section Steps

variable {invariant : Generation → Prop}

theorem keeps_boundElement (template : Template) (slot : Slot) :
    Keeps invariant (template.boundElement slot) := by
  refine Keeps.get.bind fun state => ?_
  split
  · exact .pure _
  · exact .throw _

theorem keeps_makeEnd (stepwise : Stepwise invariant) (template : Template)
    (triple position : Nat) (slot : Slot) :
    Keeps invariant (template.makeEnd triple position slot) := by
  unfold makeEnd
  split
  · refine Keeps.get.bind fun state => ?_
    split
    · exact .pure _
    · exact .throw _
  · split
    · exact stepwise.makeLink _
    · split
      · exact .throw _
      · exact stepwise.makeNode _
  · exact .throw _

theorem keeps_resolveEnd (stepwise : Stepwise invariant) (template : Template)
    (triple position : Nat) (slot : Slot) :
    Keeps invariant (template.resolveEnd triple position slot) := by
  refine (keeps_boundElement template slot).bind fun bound => ?_
  split
  · exact .pure _
  · exact (keeps_makeEnd stepwise template triple position slot).bind fun address =>
      (stepwise.bindSlot slot address).bind fun _ => .pure _

theorem keeps_existingEdge (template : Template) (slot : Slot) :
    Keeps invariant (template.existingEdge slot) := by
  refine (keeps_boundElement template slot).bind fun bound => ?_
  split <;> exact .pure _

theorem keeps_resolveEdge (stepwise : Stepwise invariant) (template : Template) (triple : Nat)
    (slot : Slot) (source target : Address) :
    Keeps invariant (template.resolveEdge triple slot source target) := by
  refine (keeps_existingEdge template slot).bind fun existing => ?_
  split
  · refine Keeps.get.bind fun state => ?_
    split
    · exact (stepwise.bindSlot slot _).bind fun _ => .pure _
    · exact .throw _
  · exact (stepwise.makeEdge _ source target).bind fun edge =>
      (stepwise.bindSlot slot edge).bind fun _ => .pure _
  · exact .throw _

theorem keeps_generateTriple (stepwise : Stepwise invariant) (template : Template)
    (indexed : SlotTriple × Nat) : Keeps invariant (template.generateTriple indexed) :=
  (keeps_resolveEnd stepwise template indexed.2 0 indexed.1.source).bind fun source =>
    (keeps_resolveEnd stepwise template indexed.2 2 indexed.1.target).bind fun target =>
      (keeps_resolveEdge stepwise template indexed.2 indexed.1.edge source target).bind
        fun _ => .pure _

/-- **What every step keeps, a generation keeps, however it ends.** -/
theorem keeps_generateTriples (stepwise : Stepwise invariant) (template : Template) :
    Keeps invariant template.generateTriples :=
  .mapM (keeps_generateTriple stepwise template) _

end Steps

/-! ### Undoing -/

/-- **Erasing what was created gives back the store**, but for the addresses that were used up, and
there is nothing to tell. -/
theorem rollback_of_grows (consistent : start.Consistent) (grows : Grows start state) :
    state.store.rollback state.created =
      ({ start with allocated := state.store.allocated }, []) := by
  have younger : ∀ address ∈ state.created.reverse, start.allocated < address.value :=
    fun address member => grows.younger address (List.mem_reverse.1 member)
  have shrinks := Store.shrinks_eraseAll grows.consistent state.created.reverse
  have restored := Store.consistent_eraseAll grows.consistent state.created.reverse
  have sameOld : ∀ {address : Address}, address.value ≤ start.allocated →
      (state.store.eraseAll state.created.reverse).1.get? address = start.get? address := by
    intro address older
    rw [grows.consistent.eraseAll_eq_cascade,
      Store.get?_cascade_of_le (grows.consistent.anyWaiting _) younger older, grows.spared older]
  have goneNew : ∀ {address : Address}, start.allocated < address.value →
      (state.store.eraseAll state.created.reverse).1.get? address = none := by
    intro address newer
    by_cases member : address ∈ state.created
    · rw [grows.consistent.eraseAll_eq_cascade]
      exact Store.get?_cascade_of_waiting (grows.consistent.anyWaiting _)
        (List.mem_reverse.2 member)
    · refine shrinks.get?_eq_none (Store.not_contains_iff.1 ?_)
      rwa [grows.created newer]
  have elements : (state.store.eraseAll state.created.reverse).1.elements = start.elements := by
    refine KeyMap.ext_get? fun address => ?_
    rcases Nat.lt_or_ge start.allocated address.value with newer | older
    · exact (goneNew newer).trans (consistent.get?_of_newer newer).symm
    · exact sameOld older
  have store : (state.store.eraseAll state.created.reverse).1 =
      { start with allocated := state.store.allocated } :=
    restored.eq_of_elements (consistent.allocate grows.allocated) elements shrinks.allocated
  -- A change is about something that is gone, and only what was created is.
  have silent : (state.store.eraseAll state.created.reverse).2.filter
      (fun change => !state.created.contains change.subject) = [] := by
    refine List.filter_eq_nil_iff.2 fun change member => ?_
    obtain ⟨there, gone⟩ := shrinks.reported change member
    have newer : start.allocated < change.subject.value := by
      refine Nat.lt_of_not_le fun older => ?_
      rw [sameOld older, ← grows.spared older, ← Store.not_contains_iff] at gone
      exact gone there
    simpa using (grows.created newer).1 there
  unfold Store.rollback
  simp only [store, silent]

theorem consistent_generate (consistent : start.Consistent) (template : Template)
    (parameters : Assignment) : (template.generate start parameters).store.Consistent := by
  unfold generate
  split
  · rename_i valuation prepared
    have grows := grows_start consistent valuation
    unfold generateFrom
    split
    · exact ((keeps_generateTriples (stepwise_grows start) template).ok grows ‹_›).consistent
    · have grown := (keeps_generateTriples (stepwise_grows start) template).error grows ‹_›
      exact Store.consistent_eraseAll grown.consistent _
  · exact consistent

/-- **A refused generation leaves the store as it was**, but for the addresses that it used up, and
has nothing to tell. -/
theorem generate_error_restores {template : Template} {parameters : Assignment}
    {error : TemplateError} (consistent : start.Consistent)
    (failed : (template.generate start parameters).outcome = .error error) :
    (template.generate start parameters).changes = [] ∧
      ∃ allocated, start.allocated ≤ allocated ∧
        (template.generate start parameters).store = { start with allocated := allocated } := by
  unfold generate at failed ⊢
  split at failed
  · rename_i valuation prepared
    unfold generateFrom at failed ⊢
    split at failed
    · cases failed
    · rename_i error' state ran
      have grows := (keeps_generateTriples (stepwise_grows start) template).error
        (grows_start consistent valuation) ran
      simp only [rollback_of_grows consistent grows]
      exact ⟨trivial, state.store.allocated, grows.allocated, rfl⟩
  · exact ⟨rfl, start.allocated, Nat.le_refl _, rfl⟩

end SemanticNetwork.Template
