/-
**What creating and writing do.** A successful creation puts one element at the next address into
the table and leaves the rest of it alone; a refused one leaves the table alone, and may have used up
an address. Either keeps the store consistent, and so does writing a payload.

* `Adds`: one element more, at the next address;
* `createNode_ok`, `createTypedLink_ok`, `createEdge_ok`: **what a success adds**, and on which
  conditions, with `run_createEdge_of_ends` and its kin for what succeeds;
* `Spends`: at most an address is gone, with `createNode_error` and its kin for what is refused;
* `Consistent.hold`: a written payload is filed instead of the one before.
-/
import SemanticNetwork.Proofs.ElementType.Kinds
import SemanticNetwork.Proofs.Run
import SemanticNetwork.Proofs.Store.Consistency
import SemanticNetwork.Store.Create

namespace SemanticNetwork.Store

variable {store after : Store} {element : Element} {address : Address}

/-! ### Entering an element -/

theorem Consistent.get?_nextAddress (consistent : store.Consistent) :
    store.get? store.nextAddress = none :=
  consistent.get?_of_newer (Nat.lt_succ_self _)

theorem get?_enrol (store : Store) (element : Element) (address : Address) :
    (store.enrol element).get? address =
      if address = element.address then some element else store.get? address :=
  KeyMap.get?_insert store.elements element.address address element

theorem of_get?_enrol {found : Element} (there : (store.enrol element).get? address = some found) :
    (address = element.address ∧ found = element) ∨ store.get? address = some found := by
  rw [get?_enrol] at there
  split at there
  · cases there
    exact .inl ⟨‹_›, rfl⟩
  · exact .inr there

/-- **An element enters a consistent store**, where it waits to be put on file. -/
theorem Consistent.enrol (consistent : store.Consistent)
    (address : element.address = store.nextAddress) (kind : element.IsWellKinded)
    (noPayload : element.payload? = none)
    (older : ∀ source target, element.ends? = some (source, target) →
      source < element.address ∧ target < element.address) :
    (store.advance.enrol element).ConsistentBut [element.address] := by
  have fresh := consistent.get?_nextAddress
  rw [← address] at fresh
  have before : ∀ {other element'}, (store.advance.enrol element).get? other = some element' →
      (other = element.address ∧ element' = element) ∨ store.get? other = some element' :=
    of_get?_enrol
  have noEdgeBefore : ∀ old, store.get? element.address = some old → old.ends? = none := by
    intro old found
    rw [fresh] at found
    cases found
  have kept : ∀ {place}, store.contains place = true →
      (store.advance.enrol element).contains place = true := by
    intro place there
    obtain ⟨element', there⟩ := contains_iff.1 there
    have apart : place ≠ element.address := by
      rintro rfl
      rw [fresh] at there
      cases there
    exact contains_of_get? (by rw [get?_enrol, if_neg apart]; exact there)
  exact {
    keyed := fun found => by
      rcases before found with ⟨rfl, rfl⟩ | found
      · rfl
      · exact consistent.keyed found
    numbered := fun found => by
      rcases before found with ⟨rfl, rfl⟩ | found
      · rw [address]
        exact ⟨Nat.succ_pos _, Nat.le_refl _⟩
      · exact ⟨(consistent.numbered found).1, Nat.le_succ_of_le (consistent.numbered found).2⟩
    kinds := fun found => by
      rcases before found with ⟨rfl, rfl⟩ | found
      · exact kind
      · exact consistent.kinds found
    byType := consistent.byType.file fresh rfl
    byPayload := consistent.byPayload.skip fresh noPayload
    outgoing := consistent.outgoing.await noEdgeBefore
    incoming := consistent.incoming.await noEdgeBefore
    anchored := fun {edge type source target} found notWaiting => by
      rcases before found with ⟨rfl, -⟩ | found
      · exact absurd List.mem_cons_self notWaiting
      · have ends := consistent.anchored found List.not_mem_nil
        exact ⟨kept ends.1, kept ends.2⟩
    ordered := fun found => by
      rcases before found with ⟨rfl, same⟩ | found
      · exact older _ _ (by rw [← same]; rfl)
      · exact consistent.ordered found }

/-- **An edge that is connected is on file.** -/
theorem ConsistentBut.connect {waiting : List Address} {edge source target : Address}
    {type : ElementType} (consistent : store.ConsistentBut (edge :: waiting))
    (found : store.get? edge = some ⟨edge, type, .edge source target⟩)
    (sourceThere : store.contains source = true) (targetThere : store.contains target = true) :
    (store.connect edge type source target).ConsistentBut waiting where
  keyed := consistent.keyed
  numbered := consistent.numbered
  kinds := consistent.kinds
  byType := consistent.byType
  byPayload := consistent.byPayload
  outgoing := consistent.outgoing.file found
  incoming := consistent.incoming.file found
  anchored {other type' source' target'} found' notWaiting := by
    by_cases here : other = edge
    · subst here
      have same := found.symm.trans found'
      cases same
      exact ⟨sourceThere, targetThere⟩
    · exact consistent.anchored found' (by simp [here, notWaiting])
  ordered := consistent.ordered

/-! ### How operations end -/

/-- The store has one element more, at the next address. -/
structure Adds (before : Store) (element : Element) (after : Store) : Prop where
  address : element.address = before.nextAddress
  elements : after.elements = before.elements.insert element.address element
  allocated : after.allocated = before.allocated + 1

theorem Adds.get?_eq {before : Store} (adds : before.Adds element after) (address : Address) :
    after.get? address = if address = element.address then some element else before.get? address := by
  rw [get?, adds.elements, KeyMap.get?_insert]
  rfl

theorem Adds.get?_self {before : Store} (adds : before.Adds element after) :
    after.get? element.address = some element := by
  rw [adds.get?_eq, if_pos rfl]

theorem Adds.get?_of_get? {before : Store} {old : Element} (adds : before.Adds element after)
    (consistent : before.Consistent) (found : before.get? address = some old) :
    after.get? address = some old := by
  have apart : address ≠ element.address := by
    rintro rfl
    rw [adds.address, consistent.get?_nextAddress] at found
    cases found
  rw [adds.get?_eq, if_neg apart]
  exact found

/-- At most an address was used up. -/
def Spends (before after : Store) : Prop := after = before ∨ after = before.advance

theorem Spends.elements {before : Store} (spends : before.Spends after) :
    after.elements = before.elements := by
  rcases spends with rfl | rfl <;> rfl

theorem run_require_ok_iff {condition : Bool} {error : StoreError} {value : Unit} :
    (require condition error).run store = .ok value after ↔ condition = true ∧ after = store := by
  unfold require
  cases condition <;> simp [EStateM.run_pure, eq_comm]

theorem run_require_error_iff {condition : Bool} {error error' : StoreError} :
    (require condition error).run store = .error error' after ↔
      condition = false ∧ error' = error ∧ after = store := by
  unfold require
  cases condition <;> simp [EStateM.run_pure, eq_comm]

/-- A new node is of the type asked for, and of a node. -/
theorem createNode_ok {type : ElementType}
    (ran : (createNode type).run store = .ok address after) :
    type.isNodeType = true ∧ after = store.advance.enrol ⟨address, type.union .node, .node⟩ ∧
      store.Adds ⟨address, type.union .node, .node⟩ after := by
  simp only [createNode, run_bind_ok_iff, run_require_ok_iff] at ran
  obtain ⟨_, _, ⟨suits, rfl⟩, created⟩ := ran
  cases created
  exact ⟨suits, rfl, rfl, rfl, rfl⟩

theorem createNode_error {type : ElementType} {error : StoreError}
    (ran : (createNode type).run store = .error error after) : store.Spends after := by
  simp only [createNode, run_bind_error_iff, run_require_error_iff] at ran
  rcases ran with ⟨-, -, rfl⟩ | ⟨_, _, -, created⟩
  · exact .inl rfl
  · cases created

/-- A new link is of the type asked for, and of a link. -/
theorem createTypedLink_ok {type : ElementType}
    (ran : (createTypedLink type).run store = .ok address after) :
    (type.union .link).isConsistent = true ∧
      after = store.advance.enrol ⟨address, type.union .link, .link none⟩ ∧
      store.Adds ⟨address, type.union .link, .link none⟩ after := by
  simp only [createTypedLink] at ran
  split at ran
  · cases ran
  · rename_i consistent
    cases ran
    exact ⟨by rw [ElementType.isConsistent, consistent]; rfl, rfl, rfl, rfl, rfl⟩

theorem createTypedLink_error {type : ElementType} {error : StoreError}
    (ran : (createTypedLink type).run store = .error error after) : store.Spends after := by
  simp only [createTypedLink] at ran
  split at ran <;> cases ran
  exact .inl rfl

/-- A new edge is of the type asked for, between ends that exist. -/
theorem createEdge_ok {type : ElementType} {source target : Address}
    (ran : (createEdge type source target).run store = .ok address after) :
    (type.isEdgeType = true ∧ store.contains source = true ∧ store.contains target = true) ∧
      after = (store.advance.enrol ⟨address, type, .edge source target⟩).connect address type
        source target ∧
      store.Adds ⟨address, type, .edge source target⟩ after := by
  simp only [createEdge, requireEnd, run_bind_ok_iff, run_require_ok_iff] at ran
  obtain ⟨_, _, ⟨suits, rfl⟩, _, _, ⟨-, rfl⟩, _, _, allocated, ran⟩ := ran
  cases allocated
  obtain ⟨_, _, ⟨_, _, read, sourceThere, rfl⟩, ran⟩ := ran
  cases read
  obtain ⟨_, _, ⟨_, _, read, targetThere, rfl⟩, ran⟩ := ran
  cases read
  obtain ⟨_, _, enrolled, _, _, connected, returned⟩ := ran
  cases enrolled
  cases connected
  cases returned
  exact ⟨⟨suits, sourceThere, targetThere⟩, rfl, rfl, rfl, rfl⟩

theorem createEdge_error {type : ElementType} {source target : Address} {error : StoreError}
    (ran : (createEdge type source target).run store = .error error after) :
    store.Spends after := by
  simp only [createEdge, requireEnd, run_bind_error_iff, run_bind_ok_iff, run_require_ok_iff,
    run_require_error_iff] at ran
  rcases ran with ⟨-, -, rfl⟩ | ⟨_, _, ⟨-, rfl⟩, ran⟩
  · exact .inl rfl
  rcases ran with ⟨-, -, rfl⟩ | ⟨_, _, ⟨-, rfl⟩, ran⟩
  · exact .inl rfl
  rcases ran with allocated | ⟨_, _, allocated, ran⟩
  · cases allocated
  cases allocated
  -- From here on the address is taken.
  rcases ran with (read | ⟨_, _, read, -, -, rfl⟩) | ⟨_, _, ⟨_, _, read, -, rfl⟩, ran⟩
  · cases read
  · cases read
    exact .inr rfl
  cases read
  rcases ran with (read | ⟨_, _, read, -, -, rfl⟩) | ⟨_, _, ⟨_, _, read, -, rfl⟩, ran⟩
  · cases read
  · cases read
    exact .inr rfl
  cases read
  rcases ran with enrolled | ⟨_, _, enrolled, connected | ⟨_, _, connected, returned⟩⟩
  · cases enrolled
  · cases connected
  · cases returned

/-! ### Creations that succeed -/

theorem run_require (condition : Bool) (error : StoreError) :
    (require condition error).run store =
      if condition = true then .ok () store else .error error store := by
  unfold require
  cases condition <;> rfl

theorem run_requireEnd (address : Address) :
    (requireEnd address).run store =
      if store.contains address = true then .ok () store
      else .error (.missingEndpoint address) store := run_require _ _

/-- **A node can be created** with every type that suits one. -/
theorem run_createNode_of_suits {type : ElementType} (suits : type.isNodeType = true) :
    (createNode type).run store = .ok store.nextAddress
      (store.advance.enrol ⟨store.nextAddress, type.union .node, .node⟩) := by
  simp only [createNode, EStateM.run_bind, run_require, suits, if_true]
  rfl

/-- **A link can be created** with every consistent type of one. -/
theorem run_createTypedLink_of_isLink {type : ElementType} (isLink : type.isLink = true)
    (sound : type.isConsistent = true) : (createTypedLink type).run store = .ok store.nextAddress
      (store.advance.enrol ⟨store.nextAddress, type, .link none⟩) := by
  rw [ElementType.isConsistent, Option.isNone_iff_eq_none] at sound
  simp only [createTypedLink, ElementType.union_link_of_isLink isLink, sound]
  rfl

/-- **An edge between two elements can be created.** -/
theorem run_createEdge_of_ends (consistent : store.Consistent) {type : ElementType}
    {source target : Address} (suits : type.isEdgeType = true)
    (sourceThere : store.contains source = true) (targetThere : store.contains target = true) :
    (createEdge type source target).run store = .ok store.nextAddress
      ((store.advance.enrol ⟨store.nextAddress, type, .edge source target⟩).connect
        store.nextAddress type source target) := by
  have sourceValid := consistent.isValid_of_contains sourceThere
  have targetValid := consistent.isValid_of_contains targetThere
  have sourceStays : store.advance.contains source = true := sourceThere
  have targetStays : store.advance.contains target = true := targetThere
  simp only [createEdge, EStateM.run_bind, run_require, suits, sourceValid, targetValid,
    Bool.and_self, if_true, allocate, EStateM.run_modifyGet, run_requireEnd, sourceStays,
    targetStays, EStateM.run_modify]
  rfl

/-- An edge to nothing is refused, after an address was used up. -/
theorem run_createEdge_of_missing (consistent : store.Consistent) {type : ElementType}
    {source target : Address} (suits : type.isEdgeType = true)
    (sourceThere : store.contains source = true) (targetValid : target.isValid = true)
    (missing : store.get? target = none) :
    (createEdge type source target).run store = .error (.missingEndpoint target) store.advance := by
  have sourceValid := consistent.isValid_of_contains sourceThere
  have sourceStays : store.advance.contains source = true := sourceThere
  have stillMissing : ¬ store.advance.contains target = true := not_contains_iff.2 missing
  simp only [createEdge, EStateM.run_bind, run_require, suits, sourceValid, targetValid,
    Bool.and_self, if_true, allocate, EStateM.run_modifyGet, run_requireEnd, sourceStays,
    stillMissing]
  rfl

/-! ### Writing a payload -/

theorem setPayload_ok {link : Address} {payload : Payload} {value : Unit}
    (ran : (setPayload link payload).run store = .ok value after) :
    ∃ element, store.get? link = some element ∧ element.isLink = true ∧
      after = store.hold link element payload := by
  simp only [setPayload, run_bind_ok_iff, run_require_ok_iff] at ran
  obtain ⟨_, _, ⟨-, rfl⟩, _, _, read, ran⟩ := ran
  cases read
  split at ran
  · cases ran
  · rename_i element found
    simp only [run_bind_ok_iff, run_require_ok_iff] at ran
    obtain ⟨_, _, ⟨suits, rfl⟩, held⟩ := ran
    cases held
    exact ⟨element, found, suits, rfl⟩

theorem setPayload_error {link : Address} {payload : Payload} {error : StoreError}
    (ran : (setPayload link payload).run store = .error error after) : store.Spends after := by
  simp only [setPayload, run_bind_error_iff, run_require_error_iff, run_require_ok_iff] at ran
  rcases ran with ⟨-, -, rfl⟩ | ⟨_, _, ⟨-, rfl⟩, read | ⟨_, _, read, ran⟩⟩
  · exact .inl rfl
  · cases read
  cases read
  split at ran
  · cases ran
    exact .inl rfl
  · simp only [run_bind_error_iff, run_require_error_iff] at ran
    rcases ran with ⟨-, -, rfl⟩ | ⟨_, _, -, held⟩
    · exact .inl rfl
    · cases held

/-! ### Consistency is kept -/

theorem Consistent.advance (consistent : store.Consistent) : store.advance.Consistent :=
  ConsistentBut.allocate consistent (Nat.le_succ _)

theorem Spends.consistent {before : Store} (spends : before.Spends after)
    (consistent : before.Consistent) : after.Consistent := by
  rcases spends with rfl | rfl
  · exact consistent
  · exact consistent.advance

theorem get?_enrol_self (store : Store) (element : Element) :
    (store.enrol element).get? element.address = some element := by
  rw [get?_enrol, if_pos rfl]

/-- **Nothing that is created disturbs the store.** -/
theorem keeps_createNode (type : ElementType) : Keeps Consistent (createNode type) where
  ok {store address after} consistent ran := by
    obtain ⟨suits, rfl, adds⟩ := createNode_ok ran
    simp only [ElementType.isNodeType, Bool.and_eq_true, Bool.not_eq_true'] at suits
    have kind : Element.IsWellKinded ⟨address, type.union .node, .node⟩ :=
      ⟨type.isNode_union_node, type.isLink_union_node.trans suits.2,
        type.isEdge_union_node.trans suits.1.2⟩
    refine (consistent.enrol adds.address kind rfl nofun).settle fun element found => ?_
    rw [get?_enrol_self] at found
    cases found
    rfl
  error consistent ran := (createNode_error ran).consistent consistent

theorem keeps_createTypedLink (type : ElementType) : Keeps Consistent (createTypedLink type) where
  ok {store address after} consistent ran := by
    obtain ⟨suits, rfl, adds⟩ := createTypedLink_ok ran
    have isLink := type.isLink_union_link
    have apart := ElementType.not_isNode_of_isLink suits isLink
    have kind : Element.IsWellKinded ⟨address, type.union .link, .link none⟩ :=
      ⟨apart.1, isLink, apart.2⟩
    refine (consistent.enrol adds.address kind rfl nofun).settle fun element found => ?_
    rw [get?_enrol_self] at found
    cases found
    rfl
  error consistent ran := (createTypedLink_error ran).consistent consistent

theorem createLink_eq : createLink = createTypedLink .constantLink := rfl

theorem keeps_createEdge (type : ElementType) (source target : Address) :
    Keeps Consistent (createEdge type source target) where
  ok {store address after} consistent ran := by
    obtain ⟨⟨suits, sourceThere, targetThere⟩, rfl, adds⟩ := createEdge_ok ran
    simp only [ElementType.isEdgeType, Bool.and_eq_true] at suits
    have apart := ElementType.not_isNode_of_isEdge suits.2 suits.1
    have kind : Element.IsWellKinded ⟨address, type, .edge source target⟩ :=
      ⟨apart.1, apart.2, suits.1⟩
    have older : ∀ {place}, store.contains place = true → place < address := by
      intro place there
      obtain ⟨element, found⟩ := contains_iff.1 there
      have numbered := (consistent.numbered found).2
      have next : address = store.nextAddress := adds.address
      rw [next]
      exact Nat.lt_succ_of_le numbered
    have entered := consistent.enrol adds.address kind rfl fun source' target' same => by
      cases same
      exact ⟨older sourceThere, older targetThere⟩
    have stays : ∀ {place}, store.contains place = true →
        (store.advance.enrol ⟨address, type, .edge source target⟩).contains place = true := by
      intro place there
      obtain ⟨element, found⟩ := contains_iff.1 there
      refine contains_iff.2 ⟨element, ?_⟩
      have apart : place ≠ address := by
        rintro rfl
        exact Key.lt_irrefl place (older there)
      rw [get?_enrol, if_neg apart]
      exact found
    exact entered.connect (get?_enrol_self _ _) (stays sourceThere) (stays targetThere)
  error consistent ran := (createEdge_error ran).consistent consistent

/-- An operation that creates: a success adds the element whose address is returned, a refusal
changes nothing but perhaps the next address, and the store stays consistent. -/
structure Creates (action : Action Address) : Prop where
  adds : ∀ {store after address}, action.run store = .ok address after →
    ∃ element, element.address = address ∧ store.Adds element after
  spends : ∀ {store after error}, action.run store = .error error after → store.Spends after
  keeps : Keeps Consistent action

theorem creates_createNode (type : ElementType) : Creates (createNode type) where
  adds ran := ⟨_, rfl, (createNode_ok ran).2.2⟩
  spends ran := createNode_error ran
  keeps := keeps_createNode type

theorem creates_createTypedLink (type : ElementType) : Creates (createTypedLink type) where
  adds ran := ⟨_, rfl, (createTypedLink_ok ran).2.2⟩
  spends ran := createTypedLink_error ran
  keeps := keeps_createTypedLink type

theorem creates_createEdge (type : ElementType) (source target : Address) :
    Creates (createEdge type source target) where
  adds ran := ⟨_, rfl, (createEdge_ok ran).2.2⟩
  spends ran := createEdge_error ran
  keeps := keeps_createEdge type source target

/-! ### Writing -/

theorem get?_hold (store : Store) (link address : Address) (element : Element)
    (payload : Payload) : (store.hold link element payload).get? address =
      if address = link then some { element with body := .link (some payload) }
      else store.get? address :=
  KeyMap.get?_insert store.elements link address _

theorem byPayload_hold (store : Store) (link : Address) (element : Element) (payload : Payload) :
    (store.hold link element payload).byPayload =
      (element.payload?.elim store.byPayload fun payload =>
        store.byPayload.unfile payload link).file payload link := by
  unfold hold
  cases element.payload? <;> rfl

theorem of_get?_hold {link : Address} {payload : Payload} {found : Element}
    (there : (store.hold link element payload).get? address = some found) :
    (address = link ∧ found = { element with body := .link (some payload) }) ∨
      store.get? address = some found := by
  rw [get?_hold] at there
  split at there
  · cases there
    exact .inl ⟨‹_›, rfl⟩
  · exact .inr there

/-- A written payload makes no edge. -/
theorem edge_of_get?_hold {link edge source target : Address} {payload : Payload}
    {type : ElementType}
    (there : (store.hold link element payload).get? edge =
      some ⟨edge, type, .edge source target⟩) :
    store.get? edge = some ⟨edge, type, .edge source target⟩ := by
  rcases of_get?_hold there with ⟨-, same⟩ | there
  · cases congrArg Element.body same
  · exact there

theorem contains_hold {link : Address} {payload : Payload} (there : store.contains address = true) :
    (store.hold link element payload).contains address = true := by
  rw [contains_iff] at there ⊢
  rw [get?_hold]
  split
  · exact ⟨_, rfl⟩
  · exact there

/-- What writing a payload does not touch. -/
theorem hold_untouched (store : Store) (link : Address) (element : Element) (payload : Payload) :
    (store.hold link element payload).allocated = store.allocated ∧
      (store.hold link element payload).byType = store.byType ∧
      (store.hold link element payload).outgoing = store.outgoing ∧
      (store.hold link element payload).incoming = store.incoming := by
  unfold hold
  cases element.payload? <;> exact ⟨rfl, rfl, rfl, rfl⟩

/-- **A written payload is filed instead of the one before.** -/
theorem Consistent.hold {link : Address} {payload : Payload} (consistent : store.Consistent)
    (found : store.get? link = some element) (isLink : element.isLink = true) :
    (store.hold link element payload).Consistent := by
  have noEdge : element.ends? = none := by
    obtain ⟨_, _, _ | _ | _⟩ := element
    · rfl
    · cases isLink
    · rfl
  have noEdgeBefore : ∀ old, store.get? link = some old → old.ends? = none := by
    intro old found'
    rw [found] at found'
    cases found'
    exact noEdge
  have noEdgeAfter : ∀ held, (store.hold link element payload).get? link = some held →
      held.ends? = none := by
    intro held found'
    rw [get?_hold, if_pos rfl] at found'
    cases found'
    rfl
  obtain ⟨allocated, byType, outgoing, incoming⟩ := hold_untouched store link element payload
  exact {
    keyed := fun found' => by
      rcases of_get?_hold found' with ⟨rfl, rfl⟩ | found'
      · show element.address = _
        exact consistent.keyed found
      · exact consistent.keyed found'
    numbered := fun found' => by
      rw [allocated]
      rcases of_get?_hold found' with ⟨rfl, -⟩ | found'
      · exact consistent.numbered found
      · exact consistent.numbered found'
    kinds := fun found' => by
      rcases of_get?_hold found' with ⟨-, rfl⟩ | found'
      · have kind := consistent.kinds found
        obtain ⟨_, _, _ | _ | _⟩ := element
        · cases isLink
        · cases isLink
        · exact ⟨kind.node, kind.link, kind.edge⟩
      · exact consistent.kinds found'
    byType := by
      rw [byType]
      exact consistent.byType.keep found rfl
    byPayload := by
      rw [byPayload_hold]
      exact consistent.byPayload.replace found rfl
    outgoing := by
      rw [outgoing]
      exact (consistent.outgoing.await noEdgeBefore).settle noEdgeAfter
    incoming := by
      rw [incoming]
      exact (consistent.incoming.await noEdgeBefore).settle noEdgeAfter
    anchored := fun found' notWaiting =>
      ⟨contains_hold (consistent.anchored (edge_of_get?_hold found') notWaiting).1,
        contains_hold (consistent.anchored (edge_of_get?_hold found') notWaiting).2⟩
    ordered := fun found' => consistent.ordered (edge_of_get?_hold found') }

theorem keeps_setPayload (link : Address) (payload : Payload) :
    Keeps Consistent (setPayload link payload) where
  ok {store value after} consistent ran := by
    obtain ⟨element, found, isLink, rfl⟩ := setPayload_ok ran
    exact consistent.hold found isLink
  error consistent ran := (setPayload_error ran).consistent consistent

end SemanticNetwork.Store
