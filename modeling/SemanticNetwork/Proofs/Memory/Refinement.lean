/-
**A memory refines a map.** Requests that leave alone what names rest on keep naming in order, and so
does the start of a memory. From then on the memory answers as a partial injective map does, and each
request changes the map as it should: naming an element changes it there, creating one extends it, and
whatever ceases to exist loses its identifier.

* `Usage.Evolves`: what a request makes of the map;
* `Usage.Permits`, `Usage.Lawful`: requests that leave alone what names rest on;
* `Naming.exists_bootstrap`: the naming relation can be created, and names itself;
* `Memory.isOrderly_start`, `Usage.evolves_step`: order, at the start and from request to request;
* `Usage.run_refines_names`: **a memory in use refines a partial injective map.**
-/
import SemanticNetwork.Proofs.Memory.NameMap

namespace SemanticNetwork

open Naming (find? HoldsArrivals)

/-! ### The start -/

namespace Naming

variable {relation : Address} {network after : Network} {identifier : String}

/-- Where there is no tracked link and no edge of the relation, naming is in order. -/
theorem isOrderly_of_bare (consistent : network.store.Consistent)
    (tended : network.IsTended)
    (rooted : network.store.get? relation = some ⟨relation, .constantNorole, .node⟩)
    (untracked : network.identifierLinks = [])
    (bare : ∀ {edge type target},
      network.store.get? edge ≠ some ⟨edge, type, .edge relation target⟩) :
    IsOrderly relation network := by
  have none : ∀ label : Label, ¬ label.Stands relation network := by
    intro label stands
    exact bare stands.membership
  refine ⟨⟨consistent, tended, rooted, ?_, ?_, ?_, ?_⟩, ?_⟩
  · intro link tracked
    rw [untracked] at tracked
    cases tracked
  · intro label _ _ _ stands
    exact absurd stands (none label)
  · intro edge type target found
    exact absurd found bare
  · intro first _ stands
    exact absurd stands (none first)
  · intro first _ stands
    exact absurd stands (none first)

/-- The naming relation in a memory without other elements, where the reaper observes. -/
theorem isOrderly_of_created {settings : Settings} {store : Store}
    (created : (Store.createNode .constantNorole).run .empty = .ok relation store) :
    IsOrderly relation
      (({ Memory.emptyNetwork settings with store := store }).observe .linkReaper) := by
  have adds := (Store.createNode_ok created).2.2
  have only : ∀ place, store.get? place =
      if place = relation then some ⟨relation, .constantNorole, .node⟩ else none := by
    intro place
    exact adds.get?_eq place
  have consistent : store.Consistent := (Store.keeps_createNode _).ok Store.consistent_empty created
  have rooted : store.get? relation = some ⟨relation, .constantNorole, .node⟩ := by
    rw [only, if_pos rfl]
  refine isOrderly_of_bare consistent (.of_modest (List.forall_mem_singleton.2 trivial)) rooted rfl ?_
  intro edge type target found
  have found : store.get? edge = some ⟨edge, type, .edge relation target⟩ := found
  rw [only] at found
  split at found <;> cases found

/-- Who observes a memory at the start, from when on the naming relation exists. -/
def HasPlainObservers (network : Network) : Prop := network.observers = [.events, .linkReaper]

theorem HasPlainObservers.heeds (observers : HasPlainObservers network) (identifier : String) :
    network.Heeds identifier := by
  intro eraser listens
  rw [observers] at listens
  simp at listens

/-- **The naming relation can be created and labelled** in a memory without elements. -/
theorem exists_bootstrap (settings : Settings) : ∃ store label after,
    bootstrap.run (Memory.emptyNetwork settings) = .ok label.element after ∧
      label.identifier = relationIdentifier ∧
      (Store.createNode .constantNorole).run .empty = .ok label.element store ∧
      Attached label.element
        (({ Memory.emptyNetwork settings with store := store }).observe .linkReaper) label after ∧
      Renames label.element
        (({ Memory.emptyNetwork settings with store := store }).observe .linkReaper) label.element
        relationIdentifier after := by
  let store := Store.empty.advance.enrol ⟨Store.empty.nextAddress, .constantNorole, .node⟩
  have created : (Store.createNode .constantNorole).run .empty = .ok Store.empty.nextAddress store :=
    rfl
  let bare : Network := ({ Memory.emptyNetwork settings with store := store }).observe .linkReaper
  have observers : HasPlainObservers bare := rfl
  have orderly : IsOrderly Store.empty.nextAddress bare := isOrderly_of_created created
  have there := Store.contains_of_get? orderly.labelled.rooted
  -- Nothing is tracked yet, so there is no label.
  have unlabelled : ∀ label : Label, ¬ label.Stands Store.empty.nextAddress bare := by
    intro label stands
    have tracked := stands.tracked
    cases tracked
  have unnamed : find? bare.store Store.empty.nextAddress relationIdentifier = none :=
    orderly.find?_eq_none_iff.2 fun label stands => absurd stands (unlabelled label)
  obtain ⟨after, label, ran, sameElement, sameIdentifier, attached⟩ :=
    exists_assigned_of_unnamed orderly (by decide +kernel) there unnamed
      (observers.heeds relationIdentifier) fun label stands => absurd stands (unlabelled label)
  rw [← sameElement] at created attached orderly there unlabelled ran
  rw [← sameIdentifier] at ran
  refine ⟨store, label, after, ?_, sameIdentifier, created, attached, ?_⟩
  · refine run_bind_ok_iff.2 ⟨label.element, _, ?_, run_bind_ok_iff.2 ⟨(), bare, rfl,
      run_bind_ok_iff.2 ⟨(), after, sameIdentifier ▸ ran, rfl⟩⟩⟩
    rw [sameElement]
    rfl
  · exact sameIdentifier ▸ attached.renames orderly there
      (fun other stands => absurd stands (unlabelled other))
      fun other stands => absurd stands (unlabelled other)

/-- **The naming relation names itself**, and naming is in order. -/
theorem isOrderly_bootstrap {settings : Settings}
    (ran : bootstrap.run (Memory.emptyNetwork settings) = .ok relation after) :
    IsOrderly relation after ∧ HasPlainObservers after := by
  obtain ⟨store, label, named, ranNamed, -, -, -, renames⟩ := exists_bootstrap settings
  cases ranNamed.symm.trans ran
  exact ⟨renames.orderly, renames.observers⟩

/-- A network with a naming relation, as a memory. -/
def memoryOf (relation : Address) (network : Network) : Memory := ⟨network, .default, relation, []⟩

/-- Resolving with a type keeps naming in order. -/
theorem keeps_resolve_isOrderly (identifier : String) (type : ElementType) :
    Keeps (fun network => IsOrderly relation network ∧ HasPlainObservers network)
      (resolve relation identifier (some type)) := by
  have settled : ∀ {network after}, IsOrderly relation network ∧ HasPlainObservers network →
      ((memoryOf relation network).resolve identifier (some type)).2 = memoryOf relation after →
        IsOrderly relation after ∧ HasPlainObservers after := by
    rintro network after ⟨orderly, observers⟩ same
    have inOrder : (memoryOf relation network).IsOrderly := orderly
    obtain ⟨orderlyAfter, unchanged, -⟩ := Memory.resolves_resolve inOrder
      (fun _ (_ : type.isNodeType = true) _ => observers.heeds identifier)
    rw [same] at orderlyAfter unchanged
    exact ⟨orderlyAfter, unchanged.trans observers⟩
  refine ⟨fun holds ran => settled holds ?_, fun holds ran => settled holds ?_⟩
  · simp only [memoryOf, Memory.resolve, Memory.tryNaming, ran]
    rfl
  · simp only [memoryOf, Memory.resolve, Memory.tryNaming, ran]
    rfl

end Naming

/-- A memory starts with naming in order, and with none but its own observers. -/
theorem Memory.settled_start {settings : Settings} {memory : Memory}
    (started : Memory.start settings = .ok memory) :
    memory.IsOrderly ∧ Naming.HasPlainObservers memory.network := by
  unfold Memory.start at started
  split at started
  · rename_i relation keynodes network ran
    cases started
    simp only [populate, run_bind_ok_iff] at ran
    obtain ⟨_, between, ranBootstrap, _, _, ranSeed, done⟩ := ran
    cases done
    exact (Naming.keeps_seed Naming.keeps_resolve_isOrderly _ _).ok
      (Naming.isOrderly_bootstrap ranBootstrap) ranSeed
  · cases started

/-- **A memory starts with naming in order.** -/
theorem Memory.isOrderly_start {settings : Settings} {memory : Memory}
    (started : Memory.start settings = .ok memory) : memory.IsOrderly :=
  (settled_start started).1

/-- As long as nobody joins, a memory has none but its own observers. -/
theorem Usage.hasPlainObservers_run {settings : Settings} {memory : Memory}
    (started : Memory.start settings = .ok memory) {requests : List Request}
    (alone : requests.flatMap Request.newcomers = []) :
    Naming.HasPlainObservers ((start memory).run requests).memory.network := by
  unfold Naming.HasPlainObservers
  rw [observers_run, alone, List.append_nil]
  exact (Memory.settled_start started).2

/-! ### Requests -/

namespace Usage

variable {usage : Usage} {request : Request}

/-- **What a request makes of the names**, given as a map. -/
def Evolves (usage : Usage) (names : Names) : Request → Names → Prop
  | .call call, later => later = names.among (usage.step (.call call)).store
  | .setIdentifier identifier element, later => usage.memory.Assigns names identifier element later
  | .resolve identifier (some type), later => usage.memory.Resolves names identifier type later
  | .resolve _ none, later => later = names

/-- **A request leaves alone what names rest on.** Naming itself makes a new label where it has to;
then no observer erases the new link, which would be to erase by itself what a name rests on. -/
def Permits (usage : Usage) : Request → Prop
  | .call call => Naming.Permits usage.memory.relation usage.session call
  | .setIdentifier identifier element =>
    Text.isBlankText identifier = false → usage.store.contains element = true →
      find? usage.store usage.memory.relation identifier = none →
        usage.memory.network.Heeds identifier
  | .resolve identifier (some type) =>
    Text.isBlankText identifier = false → type.isNodeType = true →
      find? usage.store usage.memory.relation identifier = none →
        usage.memory.network.Heeds identifier
  | .resolve _ none => True

/-- Requests of which each leaves alone what names rest on when it is its turn. -/
def Lawful (usage : Usage) : List Request → Prop
  | [] => True
  | request :: rest => usage.Permits request ∧ (usage.step request).Lawful rest

/-- Naming is in order, and no batch holds back more than the creation of edges. -/
structure IsOrderly (usage : Usage) : Prop where
  memory : usage.memory.IsOrderly
  arrivals : HoldsArrivals usage.session

/-- **A permitted request keeps naming in order**, and acts on the map of names. -/
theorem evolves_step (orderly : usage.IsOrderly) (permits : usage.Permits request) :
    (usage.step request).IsOrderly ∧
      usage.Evolves usage.memory.identifierOf? request (usage.step request).memory.identifierOf? := by
  cases request with
  | call call =>
    have follows := Naming.follows_step orderly.memory.labelled orderly.arrivals permits
    exact ⟨⟨follows.isOrderly orderly.memory, Naming.holdsArrivals_step orderly.arrivals call⟩,
      Memory.identifierOf?_of_follows orderly.memory follows⟩
  | setIdentifier identifier element =>
    obtain ⟨after, assigns⟩ := Memory.assigns_setIdentifier orderly.memory permits
    exact ⟨⟨after, orderly.arrivals⟩, assigns⟩
  | resolve identifier type? =>
    cases type? with
    | none =>
      have untouched := orderly.memory.namedBy.untouched identifier
      have same : usage.step (.resolve identifier none) = usage := by
        rw [step, untouched]
      rw [same]
      exact ⟨orderly, rfl⟩
    | some type =>
      obtain ⟨after, -, resolves⟩ := Memory.resolves_resolve orderly.memory permits
      exact ⟨⟨after, orderly.arrivals⟩, resolves⟩

theorem isOrderly_run (orderly : usage.IsOrderly) {requests : List Request}
    (lawful : usage.Lawful requests) : (usage.run requests).IsOrderly := by
  induction requests generalizing usage with
  | nil => exact orderly
  | cons request rest hypothesis =>
    obtain ⟨permits, lawfulRest⟩ := lawful
    exact hypothesis (evolves_step orderly permits).1 lawfulRest

theorem isOrderly_start {settings : Settings} {memory : Memory}
    (started : Memory.start settings = .ok memory) : (start memory).IsOrderly where
  memory := Memory.isOrderly_start started
  arrivals := nofun

/-- **A memory in use refines a partial injective map** from existing elements to identifiers, as long
as no request touches what names rest on: it answers as the map does, and the next such request
makes of the map what it should. -/
theorem run_refines_names {settings : Settings} {memory : Memory}
    (started : Memory.start settings = .ok memory) {requests : List Request}
    (lawful : (start memory).Lawful requests) :
    ∃ names, ((start memory).run requests).memory.NamedBy names ∧
      ∀ request, ((start memory).run requests).Permits request →
        ∃ later, (((start memory).run requests).step request).memory.NamedBy later ∧
          ((start memory).run requests).Evolves names request later := by
  have orderly := isOrderly_run (isOrderly_start started) lawful
  refine ⟨_, orderly.memory.namedBy, fun request permits => ?_⟩
  obtain ⟨after, evolves⟩ := evolves_step orderly permits
  exact ⟨_, after.memory.namedBy, evolves⟩

/-- A node is created with an identifier, and an edge of the type of naming edges leads from it to the
naming relation. -/
def sprouting : List Request :=
  [.resolve "leaf" (some .constantNode), .call (.createEdge .constantDirected ⟨5⟩ ⟨1⟩)]

/-- The node gets another identifier; the former one leads nowhere then. -/
theorem run_sprouting_refines_names : Memory.start ⟨4, 100, .manual, []⟩ = .ok .plain ∧
    (start .plain).Lawful sprouting ∧
    ((start .plain).run sprouting).Permits (.setIdentifier "bud" ⟨5⟩) ∧
    ((start .plain).run sprouting).memory.identifierOf? ⟨5⟩ = some "leaf" ∧
    (((start .plain).run sprouting).step (.setIdentifier "bud" ⟨5⟩)).memory.identifierOf? ⟨5⟩ =
      some "bud" ∧
    ((((start .plain).run sprouting).step (.setIdentifier "bud" ⟨5⟩)).memory.resolve "leaf" none).1 =
      .invalid := by
  have plain : Naming.HasPlainObservers (start .plain).memory.network :=
    (Memory.settled_start Memory.start_plain).2
  have sprouted : Naming.HasPlainObservers ((start .plain).run sprouting).memory.network :=
    hasPlainObservers_run Memory.start_plain rfl
  have lawful : (start .plain).Lawful sprouting :=
    ⟨fun _ _ _ => plain.heeds "leaf", fun _ => by decide +kernel, trivial⟩
  have permits : ((start .plain).run sprouting).Permits (.setIdentifier "bud" ⟨5⟩) :=
    fun _ _ _ => sprouted.heeds "bud"
  obtain ⟨names, named, evolves⟩ := run_refines_names Memory.start_plain lawful
  obtain ⟨later, namedLater, assigns⟩ := evolves (.setIdentifier "bud" ⟨5⟩) permits
  have leaf : ((start .plain).run sprouting).memory.identifierOf? ⟨5⟩ = some "leaf" := by
    decide +kernel
  have free : ∀ element, names element ≠ some "bud" :=
    named.resolve_eq_invalid_iff.1 (by decide +kernel)
  have proper : ¬ (Text.isBlankText "bud" = true ∨
      ((start .plain).run sprouting).memory.store.contains ⟨5⟩ = false ∨
        ∃ other : Address, other ≠ ⟨5⟩ ∧ names other = some "bud") := by
    rintro (blank | missing | ⟨other, -, taken⟩)
    · exact absurd blank (by decide +kernel)
    · exact absurd missing (by decide +kernel)
    · exact free other taken
  have evolved : later = (names.among (((start .plain).run sprouting).step
      (.setIdentifier "bud" ⟨5⟩)).store).assign ⟨5⟩ "bud" := by
    refine assigns.accepted ?_
    cases answer : (((start .plain).run sprouting).memory.setIdentifier "bud" ⟨5⟩).1 with
    | ok value => rfl
    | error error => exact absurd (assigns.refused_iff.1 ⟨error, answer⟩) proper
  refine ⟨Memory.start_plain, lawful, permits, leaf, ?_, ?_⟩
  · rw [namedLater.identifierOf?, evolved]
    exact if_pos rfl
  · refine namedLater.resolve_eq_invalid_iff.2 fun element isLeaf => ?_
    rw [evolved, Names.assign_eq_some_iff, Names.among_eq_some_iff] at isLeaf
    rcases isLeaf with ⟨-, same⟩ | ⟨elsewhere, -, isLeaf⟩
    · exact absurd same (by decide)
    · exact elsewhere (named.injective isLeaf ((named.identifierOf? _).symm.trans leaf))

end Usage

end SemanticNetwork
