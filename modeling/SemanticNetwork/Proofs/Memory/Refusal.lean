/-
**Requests for names that are refused.** An identifier can be refused at once, as it is blank or
belongs to another element, or late, as the relation is gone or an observer has erased the link that
was to hold it. Either way nothing has changed in the end: the element keeps the identifier that it
had, and so does every other.

* `Memory.Unchanged`: a memory as it was, but for the addresses that were used up;
* `Naming.assign_of_begrudged`, `resolve_of_begrudged`: **an identifier that an observer begrudges is
  refused**, when the link that was made for it is gone again;
* `Usage.run_refuses_unchanged`: **a refused request leaves the memory as it was**, whatever it was
  asked for before.
-/
import SemanticNetwork.Proofs.Memory.Keeping
import SemanticNetwork.Proofs.Network.Recording

namespace SemanticNetwork

/-- **A memory as it was**: its elements, its indexes, its tracked links and all names are those of
before. -/
structure Memory.Unchanged (before after : Memory) : Prop where
  store : after.store = { before.store with allocated := after.store.allocated }
  allocated : before.store.allocated ≤ after.store.allocated
  tracked : after.network.identifierLinks = before.network.identifierLinks
  observers : after.network.observers = before.network.observers
  relation : after.relation = before.relation
  keynodes : after.keynodes = before.keynodes
  identifierOf? : ∀ element, after.identifierOf? element = before.identifierOf? element
  resolve : ∀ identifier, (after.resolve identifier none).1 = (before.resolve identifier none).1

/-! ### Names do not depend on how many addresses were handed out -/

theorem TriplePattern.firstRow?_allocated (store : Store) (allocated : Nat) (pattern : TriplePattern)
    (edges : List Address) : pattern.firstRow? { store with allocated := allocated } edges =
      pattern.firstRow? store edges := by
  induction edges with
  | nil => rfl
  | cons edge rest hypothesis =>
    rw [firstRow?, firstRow?, hypothesis]
    rfl

theorem Naming.isNamingEdge_allocated (store : Store) (allocated : Nat) (relation : Address) :
    isNamingEdge { store with allocated := allocated } relation = isNamingEdge store relation := by
  funext edge
  simp only [isNamingEdge, Store.isLinked, TriplePattern.firstRow?_allocated]
  rfl

theorem Naming.find?_allocated (store : Store) (allocated : Nat) (relation : Address)
    (identifier : String) : find? { store with allocated := allocated } relation identifier =
      find? store relation identifier := by
  simp only [find?, isNamingEdge_allocated]
  rfl

theorem Naming.identifierOf?_allocated (store : Store) (allocated : Nat)
    (relation element : Address) :
    identifierOf? { store with allocated := allocated } relation element =
      identifierOf? store relation element := by
  simp only [identifierOf?, linksOf, isNamingEdge_allocated]
  rfl

namespace Memory

variable {memory : Memory} {network : Network}

theorem resolve_none (memory : Memory) (identifier : String) :
    (memory.resolve identifier none).1 =
      (Naming.find? memory.store memory.relation identifier).getD .invalid := by
  simp only [Memory.resolve, tryNaming, Naming.run_resolve, store]
  cases Naming.find? memory.network.store memory.relation identifier <;> rfl

/-- What is as it was has the names that it had. -/
theorem unchanged_of_restored (restored : memory.network.Restored network) :
    memory.Unchanged (memory.withNetwork network) where
  store := restored.store
  allocated := restored.allocated
  tracked := restored.identifierLinks
  observers := restored.observers
  relation := rfl
  keynodes := rfl
  identifierOf? element := by
    have same : (memory.withNetwork network).identifierOf? element =
      Naming.identifierOf? network.store memory.relation element := rfl
    rw [same, restored.store, Naming.identifierOf?_allocated]
    rfl
  resolve identifier := by
    have same : (memory.withNetwork network).store = network.store := rfl
    rw [resolve_none, resolve_none, same, restored.store]
    exact congrArg (·.getD .invalid) (Naming.find?_allocated _ _ _ _)

theorem tryNaming_error {α : Type} {action : Naming.Action α} {error : MemoryError}
    (ran : action.run memory.network = .error error network) :
    (memory.tryNaming action).1 = .error error := by
  rw [tryNaming, ran]

theorem unchanged_of_tryNaming {α : Type} {action : Naming.Action α} {error : MemoryError}
    (restores : ∀ {error after}, action.run memory.network = .error error after →
      memory.network.Restored after)
    (refused : (memory.tryNaming action).1 = .error error) :
    memory.Unchanged (memory.tryNaming action).2 := by
  unfold tryNaming at refused ⊢
  split at refused
  · cases refused
  · exact unchanged_of_restored (restores ‹_›)

end Memory

/-- Whatever request for a name is refused, the memory stays as it was. -/
structure Memory.RefusesUnchanged (memory : Memory) : Prop where
  setIdentifier : ∀ {identifier element error},
    (memory.setIdentifier identifier element).1 = .error error →
      memory.Unchanged (memory.setIdentifier identifier element).2
  resolve : ∀ {identifier type? error},
    (memory.tryNaming (Naming.resolve memory.relation identifier type?)).1 = .error error →
      memory.Unchanged (memory.resolve identifier type?).2

/-! ### Observers that begrudge an identifier -/

/-- Hearing that a link was written, whoever erases links for that payload leaves none there. -/
theorem Network.get?_react_of_eraser {network : Network} (consistent : network.store.Consistent)
    {link : Address} {payload : Payload}
    (holds : ∀ {element}, network.store.get? link = some element →
      element.payload?.any (·.sameValue payload) = true) :
    (network.react (.payloadChanged link) (.eraser (.ofPayload payload))).1.store.get? link =
      none := by
  have chooses : network.victim? (.payloadChanged link) (.eraser (.ofPayload payload)) =
      if (network.store.payload? link).any (·.sameValue payload) then some link else none := rfl
  rcases network.react_cases (.payloadChanged link) (.eraser (.ofPayload payload)) with
    ⟨unmoved, -, alike⟩ | ⟨victim, moved, store, -⟩
  · rw [alike.store]
    refine Option.eq_none_iff_forall_ne_some.2 fun element found => ?_
    rw [chooses, Store.payload?, found, Option.bind_some, if_pos (holds found)] at unmoved
    cases unmoved
  · rw [chooses] at moved
    split at moved <;> cases moved
    rw [store]
    exact Store.get?_erase_self consistent link

/-- **Once he has heard of it, the link is gone**, whatever else is told. -/
theorem Network.get?_tell_of_eraser {network : Network} (consistent : network.store.Consistent)
    {link : Address} {payload : Payload} {waiting : List (Change × Observer)}
    (hears : (.payloadChanged link, .eraser (.ofPayload payload)) ∈ waiting)
    (holds : ∀ {element}, network.store.get? link = some element →
      element.payload?.any (·.sameValue payload) = true) :
    (network.tell waiting).store.get? link = none := by
  fun_induction tell network waiting with
  | case1 network => cases hears
  | case2 network change observer waiting reaction hypothesis =>
    have settles := settles_react consistent change observer
    rcases List.mem_cons.1 hears with same | later
    · cases same
      have gone := get?_react_of_eraser consistent holds
      have settled := settles_tell settles.consistent (reaction.1.audience reaction.2 ++ waiting)
      exact Option.eq_none_iff_forall_ne_some.2 fun element found => by
        cases (settled.kept found).symm.trans gone
    · exact hypothesis settles.consistent (List.mem_append_right _ later)
        fun found => holds (settles.kept found)

namespace Naming

variable {relation element : Address} {network after : Network} {identifier : String}

/-- An observer erases every link that is given an identifier. -/
def IsBegrudged (network : Network) (identifier : String) : Prop :=
  .eraser (.ofPayload (.text identifier)) ∈ network.observers

/-- When all have heard of the link that was written, the naming edge has nowhere to lead. -/
theorem createEdge_of_begrudged (tracking : IsTracking network)
    (written : Written network identifier after) (there : network.store.contains element = true)
    (begrudged : IsBegrudged network identifier) : ∃ last,
      (Network.createEdge .constantDirected element network.store.nextAddress).run
          (after.publish [.payloadChanged network.store.nextAddress]) =
        .error (.missingEndpoint network.store.nextAddress) last := by
  have linkFound := (written.get? network.store.nextAddress).trans (if_pos rfl)
  have gone : (after.publish [.payloadChanged network.store.nextAddress]).store.get?
      network.store.nextAddress = none := by
    have listens : .eraser (.ofPayload (.text identifier)) ∈ after.observers :=
      written.observers ▸ begrudged
    refine Network.get?_tell_of_eraser written.consistent
      (Network.mem_audience_iff.2 ⟨List.mem_singleton_self _, listens⟩) fun found => ?_
    cases linkFound.symm.trans found
    exact beq_self_eq_true (Payload.text identifier)
  obtain ⟨-, -, consistent, -, same | elsewhere⟩ := Network.given_cases written.consistent
    (tracking.tended.congr written.observers) linkFound (written.alone tracking.consistent)
  · rw [same, linkFound] at gone
    cases gone
  · obtain ⟨found, isFound⟩ := Store.contains_iff.1 there
    have apart : element ≠ network.store.nextAddress := by
      rintro rfl
      cases isFound.symm.trans tracking.consistent.get?_nextAddress
    have stays := (elsewhere element).trans
      ((if_neg apart).trans ((written.get? element).trans (if_neg apart)))
    rw [Network.run_createEdge, Store.run_createEdge_of_missing consistent (by decide)
      (Store.contains_of_get? (stays.trans isFound)) rfl gone]
    exact ⟨_, rfl⟩

/-- **No label is attached with an identifier that is begrudged.** -/
theorem attach_of_begrudged (tracking : IsTracking network)
    (there : network.store.contains element = true) (begrudged : IsBegrudged network identifier)
    (relation : Address) : ∃ last, (attach relation element identifier).run network =
      .error (.store (.missingEndpoint network.store.nextAddress)) last := by
  obtain ⟨last, refused⟩ := createEdge_of_begrudged tracking
    (written_withLink tracking.consistent identifier) there begrudged
  rw [run_attach_withLink, run_fillLink, Network.run_setPayload,
    Store.run_setPayload_of_link (consistent_withLink tracking.consistent)
      (adds_withLink network).get?_self rfl]
  dsimp only
  rw [refused]
  exact ⟨_, rfl⟩

/-- **An identifier that is begrudged is given to nothing**: a link was made for it, and is gone. -/
theorem assign_of_begrudged (tracking : IsTracking network)
    (proper : Text.isBlankText identifier = false) (there : network.store.contains element = true)
    (free : find? network.store relation identifier = none)
    (begrudged : IsBegrudged network identifier) :
    ∃ last, (assign relation identifier element).run network =
      .error (.store (.missingEndpoint network.store.nextAddress)) last := by
  obtain ⟨last, refused⟩ := attach_of_begrudged tracking there begrudged relation
  exact ⟨last, by simp [run_assign, proper, there, free, refused]⟩

/-- **Nor is a node created with it**: the node was made, and is taken back. -/
theorem resolve_of_begrudged (tracking : IsTracking network)
    (proper : Text.isBlankText identifier = false) {type : ElementType}
    (free : find? network.store relation identifier = none)
    (created : (Network.createNode type).run network = .ok element after)
    (stillFree : find? after.store relation identifier = none)
    (begrudged : IsBegrudged network identifier) :
    ∃ last, (resolve relation identifier (some type)).run network =
      .error (.store (.missingEndpoint after.store.nextAddress)) last := by
  obtain ⟨adds, observers, -⟩ := created_ok created
  obtain ⟨last, refused⟩ := assign_of_begrudged (tracking.createNode created) proper
    (Store.contains_of_get? adds.get?_self) stillFree (show _ ∈ after.observers from
      observers ▸ begrudged)
  exact ⟨last.erase element, by simp [run_resolve, run_createNamed, proper, free, created, refused]⟩

end Naming

namespace Usage

variable {memory : Memory}

/-- **A refused request for a name leaves the memory as it was**, whatever it was asked for before,
whether or not the naming relation is still there, and whoever observes it, if he erases no more by
himself than a link that was just written. Only addresses may have been used up. -/
theorem run_refuses_unchanged {settings : Settings} (started : Memory.start settings = .ok memory)
    {requests : List Request}
    (modest : ∀ observer, .call (.observe observer) ∈ requests → observer.IsModest) :
    ((start memory).run requests).memory.RefusesUnchanged :=
  have tracking := isTracking_run started modest
  { setIdentifier := Memory.unchanged_of_tryNaming (Naming.restored_of_assign tracking)
    resolve := Memory.unchanged_of_tryNaming (Naming.restored_of_resolve tracking) }

/-- A node gets an identifier, another does not, and an observer comes that erases whatever link is
given a third. -/
def beset : List Request :=
  [.resolve "alpha" (some .constantNode), .call (.createNode .constantNode),
    .call (.observe (.eraser (.ofPayload (.text "beta"))))]

/-- The other node cannot get the identifier of the first, which keeps it, and no node can be created
without any. Nor can the third identifier be given to anything: the link that is made for it is erased
at once, and the node that was created with it is taken back. -/
theorem run_beset_refuses : Memory.start ⟨4, 100, .manual, []⟩ = .ok .plain ∧
    (∀ observer, .call (.observe observer) ∈ beset → observer.IsModest) ∧
    ((start .plain).run beset).memory.RefusesUnchanged ∧
    (((start .plain).run beset).memory.setIdentifier "alpha" ⟨9⟩).1 =
      .error (.identifierConflict "alpha" ⟨5⟩) ∧
    (((start .plain).run beset).memory.setIdentifier "alpha" ⟨9⟩).2.identifierOf? ⟨5⟩ =
      some "alpha" ∧
    (((start .plain).run beset).memory.resolve " " (some .constantNode)).2.store.contains ⟨10⟩ =
      false ∧
    (((start .plain).run beset).memory.setIdentifier "beta" ⟨5⟩).1 =
      .error (.store (.missingEndpoint ⟨10⟩)) ∧
    (((start .plain).run beset).memory.setIdentifier "beta" ⟨5⟩).2.identifierOf? ⟨5⟩ =
      some "alpha" ∧
    (((start .plain).run beset).memory.tryNaming (Naming.resolve
      ((start .plain).run beset).memory.relation "beta" (some .constantNode))).1 =
        .error (.store (.missingEndpoint ⟨11⟩)) ∧
    (((start .plain).run beset).memory.resolve "beta" (some .constantNode)).2.store.contains ⟨10⟩ =
      false := by
  have modest : ∀ observer, .call (.observe observer) ∈ beset → observer.IsModest := by
    intro observer member
    obtain rfl : observer = .eraser (.ofPayload (.text "beta")) := by simpa [beset] using member
    exact Observer.isModest_ofPayload _
  have cleanly := run_refuses_unchanged Memory.start_plain modest
  have taken : (((start .plain).run beset).memory.setIdentifier "alpha" ⟨9⟩).1 =
      .error (.identifierConflict "alpha" ⟨5⟩) := by decide +kernel
  have blank : (((start .plain).run beset).memory.tryNaming (Naming.resolve
      ((start .plain).run beset).memory.relation " " (some .constantNode))).1 =
      .error .blankIdentifier := by decide +kernel
  have tracking := isTracking_run Memory.start_plain modest
  have begrudged : Naming.IsBegrudged ((start .plain).run beset).memory.network "beta" := by
    unfold Naming.IsBegrudged
    rw [observers_run]
    exact List.mem_append_right _ List.mem_cons_self
  have proper : Text.isBlankText "beta" = false := by decide +kernel
  have free : Naming.find? ((start .plain).run beset).memory.network.store
      ((start .plain).run beset).memory.relation "beta" = none := by decide +kernel
  have there : ((start .plain).run beset).memory.network.store.contains ⟨5⟩ = true := by
    decide +kernel
  have erased : (((start .plain).run beset).memory.setIdentifier "beta" ⟨5⟩).1 =
      .error (.store (.missingEndpoint ⟨10⟩)) := by
    obtain ⟨last, ran⟩ := Naming.assign_of_begrudged tracking proper there free begrudged
    have next : ((start .plain).run beset).memory.network.store.nextAddress = ⟨10⟩ := by
      decide +kernel
    exact Memory.tryNaming_error (next ▸ ran)
  have takenBack : (((start .plain).run beset).memory.tryNaming (Naming.resolve
      ((start .plain).run beset).memory.relation "beta" (some .constantNode))).1 =
      .error (.store (.missingEndpoint ⟨11⟩)) := by
    obtain ⟨last, ran⟩ := Naming.resolve_of_begrudged tracking proper free
      (Network.run_createNode_of_suits _ (show ElementType.constantNode.isNodeType = true by decide))
      (by decide +kernel) begrudged
    have next : ((start .plain).run beset).memory.network.store.advance.nextAddress = ⟨11⟩ := by
      decide +kernel
    exact Memory.tryNaming_error (next ▸ ran)
  have alpha : ((start .plain).run beset).memory.identifierOf? ⟨5⟩ = some "alpha" := by
    decide +kernel
  have missing : ((start .plain).run beset).memory.store.contains ⟨10⟩ = false := by decide +kernel
  refine ⟨Memory.start_plain, modest, cleanly, taken, ?_, ?_, erased, ?_, takenBack, ?_⟩
  · rw [(cleanly.setIdentifier taken).identifierOf?, alpha]
  · rw [(cleanly.resolve blank).store]
    exact missing
  · rw [(cleanly.setIdentifier erased).identifierOf?, alpha]
  · rw [(cleanly.resolve takenBack).store]
    exact missing

end Usage

end SemanticNetwork
