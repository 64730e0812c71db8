/-
**How a generation proceeds.** After every slot it is known what stands in the slots so far: which
elements were made for them, and that every slot admits what stands in it. One more slot is given
what its variable has, or an existing element, or one that is made for it.

* `Progress`: **how far a generation is**, after some placements;
* `Progress.reuse`, `Progress.make`: one placement more, of an element that is there or is made;
* `progress_resolveEnd`, `progress_resolveEdge`: **resolving a slot places one element more**;
* `progress_generateTriples`: so a whole generation places a row of elements for every triple.
-/
import SemanticNetwork.Proofs.Template.Growth
import SemanticNetwork.Proofs.Template.Origins

namespace SemanticNetwork.Template

/-- **How far a generation is.** Some placements are done: the variables have what stands in their
slots, and besides what was there, the store has the elements that were made for the placements. -/
structure Progress (start : Store) (initial : Valuation) (known : List Nat)
    (done : List Placement) (state : Generation) : Prop where
  grows : Grows start state
  bound : ∀ var, var ∈ known ↔ ∃ address, initial.get? var = some address
  joins : initial.Joins (fun slot address => ∃ placement ∈ done, slot = placement.slot ∧
    address = placement.address) state.valuation
  admitted : ∀ placement ∈ done, placement.slot.Admits state.store placement.address
  connected : ∀ placement ∈ done, ∀ ends, placement.ends? = some ends →
    state.store.ends? placement.address = some ends
  created : state.created = (makes known done).map Element.address
  elements : ∀ element ∈ makes known done, state.store.get? element.address = some element
  changes : state.changes = (makes known done).flatMap Element.arrival

variable {start : Store} {initial : Valuation} {known : List Nat} {done : List Placement}
  {state after : Generation} {placement : Placement} {slot : Slot} {element : Element}

/-! ### One placement more -/

theorem mem_mentioned_iff {var : Nat} :
    var ∈ mentioned done ↔ ∃ placement ∈ done, placement.slot.var = some var := by
  simp [mentioned]

/-- **A slot leads if its variable has no element yet.** -/
theorem Progress.leads_iff (progress : Progress start initial known done state) :
    slot.leads (known ++ mentioned done) = true ↔ state.valuation.ofSlot? slot = none := by
  have bound : ∀ var, (∃ address, state.valuation.get? var = some address) ↔
      var ∈ known ++ mentioned done := by
    intro var
    rw [List.mem_append, progress.bound, mem_mentioned_iff]
    constructor
    · rintro ⟨address, found⟩
      rcases (progress.joins.graph var address).1 found with found | ⟨_, here, other, member, rfl, -⟩
      · exact .inl ⟨address, found⟩
      · exact .inr ⟨other, member, here⟩
    · rintro (⟨address, found⟩ | ⟨other, member, here⟩)
      · exact ⟨address, (progress.joins.graph var address).2 (.inl found)⟩
      · exact ⟨other.address, (progress.joins.graph var _).2
          (.inr ⟨other.slot, here, other, member, rfl, rfl⟩)⟩
  rw [Template.leads_iff, Valuation.ofSlot?]
  cases here : slot.var with
  | none => simp
  | some var =>
    rw [Option.bind_some, Option.eq_none_iff_forall_ne_some]
    simp only [Option.some.injEq, forall_eq', ← bound]
    exact not_exists

theorem made?_eq_none (untyped : ∀ type, placement.slot.constraint ≠ .typed type) :
    placement.made? = none := by
  unfold Placement.made?
  split
  · exact absurd ‹_› (untyped _)
  · exact absurd ‹_› (untyped _)
  · rfl

/-- **What is made for a slot suits it.** -/
theorem of_made? (made : placement.made? = some element) :
    element.address = placement.address ∧ element.ends? = placement.ends? ∧
      ∃ type, placement.slot.constraint = .typed type ∧
        element.type.carries (soughtType type) = true := by
  unfold Placement.made? at made
  split at made
  · rename_i type source target typed ends
    cases made
    exact ⟨rfl, ends.symm, type, typed, type.carries_without⟩
  · rename_i type typed ends
    split at made
    · cases made
      exact ⟨rfl, ends.symm, type, typed, type.carries_without⟩
    · cases made
      exact ⟨rfl, ends.symm, type, typed,
        ElementType.carries_trans (type.carries_union_left .node) type.carries_without⟩
  · cases made

theorem Progress.joins_concat (progress : Progress start initial known done state)
    (joins : state.valuation.Joins (fun slot address => slot = placement.slot ∧
      address = placement.address) after.valuation) :
    initial.Joins (fun slot address => ∃ other ∈ done ++ [placement], slot = other.slot ∧
      address = other.address) after.valuation := by
  refine (progress.joins.trans joins).congr fun slot address => ?_
  simp only [List.mem_append, List.mem_singleton]
  constructor
  · rintro (⟨other, member, same⟩ | same)
    · exact ⟨other, .inl member, same⟩
    · exact ⟨placement, .inr rfl, same⟩
  · rintro ⟨other, member | rfl, same⟩
    · exact .inl ⟨other, member, same⟩
    · exact .inr same

/-- **An element that is there may be placed**, in a typed slot only if its variable has it. -/
theorem Progress.reuse (progress : Progress start initial known done state)
    (grows : Grows start after) (store : after.store = state.store)
    (created : after.created = state.created) (changes : after.changes = state.changes)
    (joins : state.valuation.Joins (fun slot address => slot = placement.slot ∧
      address = placement.address) after.valuation)
    (admits : placement.slot.Admits state.store placement.address)
    (connects : ∀ ends, placement.ends? = some ends →
      state.store.ends? placement.address = some ends)
    (idle : ∀ type, placement.slot.constraint = .typed type →
      state.valuation.ofSlot? placement.slot ≠ none) :
    Progress start initial known (done ++ [placement]) after := by
  have nothing : makes known (done ++ [placement]) = makes known done := by
    rw [makes_concat]
    by_cases leads : placement.slot.leads (known ++ mentioned done) = true
    · have untyped : ∀ type, placement.slot.constraint ≠ .typed type :=
        fun type typed => idle type typed (progress.leads_iff.1 leads)
      simp [made?_eq_none untyped]
    · simp [leads]
  refine ⟨grows, progress.bound, progress.joins_concat joins, fun other member => ?_,
    fun other member ends here => ?_, ?_, ?_, ?_⟩
  · rw [store]
    rcases List.mem_append.1 member with member | member
    · exact progress.admitted other member
    · rwa [List.mem_singleton.1 member]
  · rw [store]
    rcases List.mem_append.1 member with member | member
    · exact progress.connected other member ends here
    · rw [List.mem_singleton.1 member] at here ⊢
      exact connects ends here
  · rw [nothing, created, progress.created]
  · rw [nothing, store]
    exact progress.elements
  · rw [nothing, changes, progress.changes]

/-- **An element may be made and placed** in a typed slot whose variable has none. -/
theorem Progress.make (progress : Progress start initial known done state)
    (grows : Grows start after) (free : state.valuation.ofSlot? placement.slot = none)
    (made : placement.made? = some element) (adds : state.store.Adds element after.store)
    (created : after.created = state.created ++ [element.address])
    (changes : after.changes = state.changes ++ element.arrival)
    (joins : state.valuation.Joins (fun slot address => slot = placement.slot ∧
      address = placement.address) after.valuation) :
    Progress start initial known (done ++ [placement]) after := by
  have kept : ∀ {address old}, state.store.get? address = some old →
      after.store.get? address = some old :=
    adds.get?_of_get? progress.grows.consistent
  have one : makes known (done ++ [placement]) = makes known done ++ [element] := by
    rw [makes_concat, if_pos (progress.leads_iff.2 free), made, Option.toList_some]
  obtain ⟨address, ends, type, typed, carried⟩ := of_made? made
  have found : after.store.get? placement.address = some element := address ▸ adds.get?_self
  refine ⟨grows, progress.bound, progress.joins_concat joins, fun other member => ?_,
    fun other member pair here => ?_, ?_, fun other member => ?_, ?_⟩
  · rcases List.mem_append.1 member with member | member
    · exact (progress.admitted other member).mono kept
    · rw [List.mem_singleton.1 member, Slot.Admits, typed]
      exact ⟨element.type, by rw [Store.type?, found, Option.map_some], carried⟩
  · rcases List.mem_append.1 member with member | member
    · obtain ⟨old, there, oldEnds⟩ :=
        Option.bind_eq_some_iff.1 (progress.connected other member pair here)
      exact Option.bind_eq_some_iff.2 ⟨old, kept there, oldEnds⟩
    · rw [List.mem_singleton.1 member] at here ⊢
      rw [Store.ends?, found, Option.bind_some, ends, here]
  · rw [one, List.map_append, created, progress.created]
    rfl
  · rw [one] at member
    rcases List.mem_append.1 member with member | member
    · exact kept (progress.elements other member)
    · rw [List.mem_singleton.1 member]
      exact adds.get?_self
  · rw [one, List.flatMap_append, changes, progress.changes, List.flatMap_singleton]

/-! ### What the steps do when they succeed -/

section Steps

variable {template : Template} {triple position : Nat} {address source target : Address}
  {type : ElementType} {found : Option Address}

/-- The element that a variable has is only used in a slot that admits it. -/
theorem boundElement?_ok (bound : template.boundElement? slot state = .ok found) :
    state.valuation.ofSlot? slot = found ∧
      ∀ address, found = some address → slot.Admits state.store address := by
  unfold boundElement? at bound
  unfold Slot.Admits
  split at bound
  · cases bound
    exact ⟨‹_›, nofun⟩
  · cases bound
    refine ⟨‹_›, ?_⟩
    rintro _ ⟨⟩
    simp only [*]
  · split at bound
    · rename_i same
      cases bound
      refine ⟨‹_›, ?_⟩
      rintro _ ⟨⟩
      simp only [*]
    · cases bound
  · split at bound
    · cases bound
    · rename_i actual there
      split at bound
      · rename_i carried
        cases bound
        refine ⟨‹_›, ?_⟩
        rintro _ ⟨⟩
        simp only [*]
        exact ⟨actual, rfl, carried⟩
      · cases bound

theorem run_boundElement_of_bound
    (bound : state.valuation.ofSlot? slot = some address)
    (admits : slot.Admits state.store address) :
    (template.boundElement slot).run state = .ok (some address) state := by
  have found : template.boundElement? slot state = .ok (some address) := by
    unfold Slot.Admits at admits
    unfold boundElement?
    rw [bound]
    cases constraint : slot.constraint with
    | fixed wanted =>
      rw [constraint] at admits
      exact if_pos admits.symm
    | typed type =>
      rw [constraint] at admits
      obtain ⟨actual, type, carried⟩ := admits
      simp only [type, if_pos carried]
    | any => rfl
  refine run_bind_ok_iff.2 ⟨state, state, rfl, ?_⟩
  rw [found]
  rfl

theorem run_boundElement_of_free
    (free : state.valuation.ofSlot? slot = none) :
    (template.boundElement slot).run state = .ok none state := by
  have missing : template.boundElement? slot state = .ok none := by
    unfold boundElement?
    rw [free]
  refine run_bind_ok_iff.2 ⟨state, state, rfl, ?_⟩
  rw [missing]
  rfl

theorem boundElement_ok (ran : (template.boundElement slot).run state = .ok found after) :
    after = state ∧ state.valuation.ofSlot? slot = found ∧
      ∀ address, found = some address → slot.Admits state.store address := by
  simp only [boundElement, run_bind_ok_iff] at ran
  obtain ⟨_, _, read, ran⟩ := ran
  cases read
  split at ran
  · rename_i bound
    cases ran
    exact ⟨rfl, boundElement?_ok bound⟩
  · cases ran

theorem makeElement_ok {action : Store.Action Address}
    (ran : (makeElement action).run state = .ok address after) :
    ∃ store, action.run state.store = .ok address store ∧
      after = { state with store := store, created := state.created ++ [address] } := by
  simp only [makeElement, run_bind_ok_iff, run_withStore_ok_iff] at ran
  obtain ⟨_, _, ⟨store, created, rfl⟩, _, _, recorded, returned⟩ := ran
  cases recorded
  cases returned
  exact ⟨store, created, rfl⟩

theorem makeEdge_ok (ran : (makeEdge type source target).run state = .ok address after) :
    ∃ store, (Store.createEdge type source target).run state.store = .ok address store ∧
      after = { state with
        store := store
        created := state.created ++ [address]
        changes := state.changes ++ [.edgeAdded address source target type] } := by
  simp only [makeEdge, run_bind_ok_iff] at ran
  obtain ⟨_, _, made, _, _, recorded, returned⟩ := ran
  obtain ⟨store, created, rfl⟩ := makeElement_ok made
  cases recorded
  cases returned
  exact ⟨store, created, rfl⟩

/-- **The element for an end** exists, if the slot is fixed, or is made for it. -/
theorem makeEnd_ok (ran : (template.makeEnd triple position slot).run state = .ok address after) :
    (slot.constraint = .fixed address ∧ after = state) ∨
      ∃ store element, Placement.made? ⟨slot, address, none⟩ = some element ∧
        state.store.Adds element store ∧
        after = { state with store := store, created := state.created ++ [element.address] } := by
  unfold makeEnd at ran
  split at ran
  · rename_i wanted fixed
    simp only [run_bind_ok_iff] at ran
    obtain ⟨_, _, read, ran⟩ := ran
    cases read
    split at ran
    · cases ran
      exact .inl ⟨fixed, rfl⟩
    · cases ran
  · rename_i type typed
    refine .inr ?_
    split at ran
    · rename_i isLink
      obtain ⟨store, created, rfl⟩ := makeElement_ok ran
      obtain ⟨-, -, adds⟩ := Store.createTypedLink_ok created
      rw [ElementType.union_link_of_isLink isLink] at adds
      refine ⟨store, _, ?_, adds, rfl⟩
      simp only [Placement.made?, typed, isLink, if_true]
    · rename_i notLink
      split at ran
      · cases ran
      · obtain ⟨store, created, rfl⟩ := makeElement_ok ran
        obtain ⟨-, -, adds⟩ := Store.createNode_ok created
        refine ⟨store, _, ?_, adds, rfl⟩
        simp only [Placement.made?, typed, notLink]
        rfl
  · cases ran

/-- **Resolving an end places one element more.** -/
theorem progress_resolveEnd (progress : Progress start initial known done state)
    (declared : ∀ var, slot.var = some var → var < initial.values.length)
    (ran : (template.resolveEnd triple position slot).run state = .ok address after) :
    Progress start initial known (done ++ [⟨slot, address, none⟩]) after := by
  have grows := (keeps_resolveEnd (stepwise_grows start) template triple position slot).ok
    progress.grows ran
  have inside : ∀ var, slot.var = some var → var < state.valuation.values.length := by
    rw [progress.joins.length]
    exact declared
  simp only [resolveEnd, run_bind_ok_iff] at ran
  obtain ⟨found, _, bound, ran⟩ := ran
  obtain ⟨rfl, bound, admits⟩ := boundElement_ok bound
  cases found with
  | some existing =>
    cases ran
    refine progress.reuse grows rfl rfl rfl (joins_self bound) (admits _ rfl) nofun ?_
    intro type typed free
    rw [bound] at free
    cases free
  | none =>
    simp only [run_bind_ok_iff] at ran
    obtain ⟨_, _, made, _, _, recorded, returned⟩ := ran
    cases recorded
    cases returned
    rcases makeEnd_ok made with ⟨fixed, rfl⟩ | ⟨store, element, suited, adds, rfl⟩
    · refine progress.reuse grows rfl rfl rfl (joins_bindSlot inside bound) ?_ nofun ?_
      · rw [Slot.Admits, fixed]
      · intro type typed
        rw [fixed] at typed
        cases typed
    · have silent : element.arrival = [] := Element.arrival_eq_nil (of_made? suited).2.1
      refine progress.make grows bound suited adds rfl ?_ (joins_bindSlot inside bound)
      rw [silent, List.append_nil]

/-- An existing edge is the one that the variable of its slot has, or a fixed one. -/
theorem existingEdge_ok (ran : (template.existingEdge slot).run state = .ok found after) :
    after = state ∧ (∀ edge, found = some edge → slot.Admits state.store edge ∧
        (state.valuation.ofSlot? slot = some edge ∨
          state.valuation.ofSlot? slot = none ∧ slot.constraint = .fixed edge)) ∧
      (found = none → state.valuation.ofSlot? slot = none) := by
  simp only [existingEdge, run_bind_ok_iff] at ran
  obtain ⟨_, _, asked, ran⟩ := ran
  obtain ⟨rfl, bound, admits⟩ := boundElement_ok asked
  split at ran
  · cases ran
    refine ⟨rfl, ?_, nofun⟩
    rintro edge ⟨⟩
    exact ⟨admits _ rfl, .inl bound⟩
  · rename_i fixed
    cases ran
    refine ⟨rfl, ?_, nofun⟩
    rintro edge ⟨⟩
    exact ⟨by rw [Slot.Admits, fixed], .inr ⟨bound, fixed⟩⟩
  · cases ran
    exact ⟨rfl, nofun, fun _ => bound⟩

/-- **Resolving an edge places one element more**, which connects the ends. -/
theorem progress_resolveEdge (progress : Progress start initial known done state)
    (declared : ∀ var, slot.var = some var → var < initial.values.length)
    (ran : (template.resolveEdge triple slot source target).run state = .ok address after) :
    Progress start initial known (done ++ [⟨slot, address, some (source, target)⟩]) after := by
  have grows := (keeps_resolveEdge (stepwise_grows start) template triple slot source target).ok
    progress.grows ran
  have inside : ∀ var, slot.var = some var → var < state.valuation.values.length := by
    rw [progress.joins.length]
    exact declared
  simp only [resolveEdge, run_bind_ok_iff] at ran
  obtain ⟨found, _, existing, ran⟩ := ran
  obtain ⟨rfl, there, free⟩ := existingEdge_ok existing
  split at ran
  · rename_i edge
    obtain ⟨admits, either⟩ := there edge rfl
    simp only [run_bind_ok_iff] at ran
    obtain ⟨_, _, read, ran⟩ := ran
    cases read
    split at ran
    · rename_i connects
      simp only [run_bind_ok_iff] at ran
      obtain ⟨_, _, recorded, returned⟩ := ran
      cases recorded
      cases returned
      refine progress.reuse grows rfl rfl rfl ?_ admits ?_ ?_
      · rcases either with bound | ⟨free, -⟩
        · show Valuation.Joins _ _ (Valuation.bindSlot _ _ _)
          rw [bindSlot_of_bound bound]
          exact joins_self bound
        · exact joins_bindSlot inside free
      · rintro _ ⟨⟩
        exact connects
      · intro type typed free
        rcases either with bound | ⟨-, fixed⟩
        · rw [free] at bound
          cases bound
        · rw [fixed] at typed
          cases typed
    · cases ran
  · rename_i type typed
    simp only [run_bind_ok_iff] at ran
    obtain ⟨edge, _, made, _, _, recorded, returned⟩ := ran
    cases recorded
    cases returned
    obtain ⟨store, created, rfl⟩ := makeEdge_ok made
    obtain ⟨-, -, adds⟩ := Store.createEdge_ok created
    refine progress.make grows (free rfl) ?_ adds rfl rfl (joins_bindSlot inside (free rfl))
    simp only [Placement.made?, typed]
  · cases ran

/-- **Generating a triple places its row**, the ends before the edge. -/
theorem progress_generateTriple {slots : SlotTriple} {row : Triple}
    (progress : Progress start initial known done state)
    (declared : ∀ slot ∈ slots.toList, ∀ var, slot.var = some var → var < initial.values.length)
    (ran : (template.generateTriple (slots, triple)).run state = .ok row after) :
    Progress start initial known (done ++ slots.placements row) after := by
  simp only [generateTriple, run_bind_ok_iff] at ran
  obtain ⟨source, _, first, target, _, second, edge, _, third, returned⟩ := ran
  cases returned
  simp only [SlotTriple.toList, List.mem_cons, List.not_mem_nil, or_false] at declared
  have progress := progress_resolveEnd progress (declared _ (.inl rfl)) first
  have progress := progress_resolveEnd progress (declared _ (.inr (.inr rfl))) second
  have progress := progress_resolveEdge progress (declared _ (.inr (.inl rfl))) third
  simpa [SlotTriple.placements] using progress

/-- **Generating several triples places a row for each.** -/
theorem progress_mapM {indexed : List (SlotTriple × Nat)} {rows : List Triple}
    (progress : Progress start initial known done state)
    (declared : ∀ slots triple, (slots, triple) ∈ indexed → ∀ slot ∈ slots.toList,
      ∀ var, slot.var = some var → var < initial.values.length)
    (ran : (indexed.mapM template.generateTriple).run state = .ok rows after) :
    rows.length = indexed.length ∧
      Progress start initial known (done ++ ((indexed.map Prod.fst).zip rows).flatMap
        fun (slots, row) => slots.placements row) after := by
  induction indexed generalizing done state rows with
  | nil =>
    cases ran
    exact ⟨rfl, by simpa using progress⟩
  | cons head rest hypothesis =>
    obtain ⟨slots, triple⟩ := head
    simp only [List.mapM_cons, run_bind_ok_iff] at ran
    obtain ⟨row, _, first, others, _, ran, returned⟩ := ran
    cases returned
    have placed := progress_generateTriple progress (declared slots triple List.mem_cons_self) first
    obtain ⟨length, later⟩ := hypothesis placed
      (fun slots triple member => declared slots triple (List.mem_cons_of_mem _ member)) ran
    refine ⟨congrArg Nat.succ length, ?_⟩
    rw [List.map_cons, List.zip_cons_cons, List.flatMap_cons, ← List.append_assoc]
    exact later

theorem progress_start (consistent : start.Consistent)
    (bound : ∀ var, var ∈ known ↔ ∃ address, initial.get? var = some address) :
    Progress start initial known [] ⟨start, initial, [], []⟩ where
  grows := grows_start consistent initial
  bound := bound
  joins := (Valuation.Joins.refl initial).congr fun _ _ => by simp
  admitted _ member := absurd member List.not_mem_nil
  connected _ member := absurd member List.not_mem_nil
  created := rfl
  elements _ member := absurd member List.not_mem_nil
  changes := rfl

/-- **A generation that succeeds places a row for every triple.** -/
theorem progress_generateTriples {rows : List Triple} (covers : template.Covers template.slots)
    (consistent : start.Consistent) (sized : initial.values.length = template.vars.length)
    (bound : ∀ var, var ∈ known ↔ ∃ address, initial.get? var = some address)
    (ran : template.generateTriples.run ⟨start, initial, [], []⟩ = .ok rows after) :
    rows.length = template.size ∧
      Progress start initial known (template.placements rows) after := by
  have declared : ∀ slots triple, (slots, triple) ∈ template.triples.zipIdx →
      ∀ slot ∈ slots.toList, ∀ var, slot.var = some var → var < initial.values.length := by
    intro slots triple member
    rw [sized]
    exact declared_of_mem covers member
  obtain ⟨length, progress⟩ := progress_mapM (progress_start consistent bound) declared ran
  rw [List.length_zipIdx] at length
  rw [List.zipIdx_map_fst, List.nil_append] at progress
  exact ⟨length, progress⟩

end Steps

end SemanticNetwork.Template
