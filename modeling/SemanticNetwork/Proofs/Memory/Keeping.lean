/-
**What a memory in use keeps of its network.** Naming either leaves a network as it was or attaches a
label and erases former links; everything else is made of the operations of sessions. So a property is
kept by all that can be asked of a memory, if these keep it, be it about the store, about the links that
are tracked or about what was heard.

* `Naming.Respects`: what naming has to leave alone, with `Respects.assign` and `Respects.resolve`;
* `Memory.has_start`: what a memory has from its start;
* `Usage.has_run_of_lasting`: **what a memory in use keeps**;
* `Usage.isTracking_run`: so tracked links were created, whatever was asked for.
-/
import SemanticNetwork.Proofs.Memory.Assigning
import SemanticNetwork.Proofs.Memory.Following

namespace SemanticNetwork

variable {property : Network → Prop} {relation element : Address} {network : Network}
  {identifier : String}

namespace Naming

/-- **A property of networks that naming keeps**: new nodes, labels that are attached and erasures keep
it. Whatever is refused leaves the network as it was. -/
structure Respects (relation : Address) (property : Network → Prop) : Prop where
  tracking : ∀ {network}, property network → IsTracking network
  createNode : ∀ type, Keeps property (Network.createNode type)
  attached : ∀ {before after : Network} {label : Label}, property before →
    before.store.contains label.element = true → Attached relation before label after →
      property after
  erase : ∀ {network : Network} address, property network → property (network.erase address)
  restored : ∀ {before after : Network}, property before → before.Restored after → property after

namespace Respects

theorem eraseLinks (respects : Respects relation property) (holds : property network)
    (links : List Address) : property (links.foldl Network.erase network) := by
  induction links generalizing network with
  | nil => exact holds
  | cons link rest hypothesis => exact hypothesis (respects.erase link holds)

theorem assign (respects : Respects relation property) (identifier : String) (element : Address) :
    Keeps property (Naming.assign relation identifier element) where
  ok {network _ after} holds ran := by
    obtain ⟨there, rfl | ⟨between, label, rfl, -, attached, rfl⟩⟩ :=
      assign_ok (respects.tracking holds) ran
    · exact holds
    · exact respects.eraseLinks (respects.attached holds there attached) _
  error {network _ after} holds refused :=
    respects.restored holds (restored_of_assign (respects.tracking holds) refused)

theorem resolve (respects : Respects relation property) (identifier : String)
    (type? : Option ElementType) : Keeps property (Naming.resolve relation identifier type?) where
  ok {network _ after} holds ran := by
    obtain rfl | ⟨type, element, between, -, -, created, assigned⟩ := resolve_ok ran
    · exact holds
    · exact (respects.assign identifier element).ok ((respects.createNode type).ok holds created)
        assigned
  error {network _ after} holds refused :=
    respects.restored holds (restored_of_resolve (respects.tracking holds) refused)

end Respects

/-! ### Tracked links -/

theorem steady_isTracking : Network.Steady IsTracking where
  store network := by
    have same : (fun store => IsTracking { network with store := store }) = fun store : Store =>
        store.Consistent ∧ network.IsTended ∧
          ∀ link ∈ network.identifierLinks, store.HandedOut link :=
      funext fun store => propext ⟨fun ⟨consistent, tended, handedOut⟩ =>
        ⟨consistent, tended.congr rfl, handedOut⟩, fun ⟨consistent, tended, handedOut⟩ =>
        ⟨consistent, tended.congr rfl, handedOut⟩⟩
    rw [same]
    exact .of_precedes fun precedes ⟨tended, handedOut⟩ =>
      ⟨tended, fun link tracked => (precedes.handedOut (handedOut link tracked)).1⟩
  publish {network} changes tracking := by
    have consistent : (network.publish changes).store.Consistent :=
      (Network.stable_has Store.stable_consistent).publish tracking.consistent changes
    exact tracking.of_fewer consistent
      (tracking.tended.congr (network.observers_publish changes))
      (fun _ => Network.mem_of_mem_tell) (Nat.le_of_eq (Network.allocated_tell _ _).symm)
  events _ tracking := ⟨tracking.consistent, tracking.tended.congr rfl, tracking.handedOut⟩

/-- Modest observers may join. -/
theorem IsTracking.observe (tracking : IsTracking network) {observer : Observer}
    (modest : observer.IsModest) : IsTracking (network.observe observer) :=
  ⟨tracking.consistent, tracking.tended.observe modest, tracking.handedOut⟩

theorem respects_isTracking (relation : Address) : Respects relation IsTracking where
  tracking := id
  createNode := steady_isTracking.keeps_createNode
  attached tracking _ attached := tracking.attached attached
  erase address tracking := steady_isTracking.erase tracking address
  restored tracking restored := tracking.restored restored

end Naming

open Naming (IsTracking Respects HoldsArrivals)

/-- **No operation but naming tracks a link.** -/
theorem Naming.steady_fewer (links : List Address) :
    Network.Steady fun network => ∀ link ∈ network.identifierLinks, link ∈ links where
  store network := Store.stable_const (∀ link ∈ network.identifierLinks, link ∈ links)
  publish _ fewer link tracked := fewer link (Network.mem_of_mem_tell tracked)
  events _ fewer := fewer

/-! ### Memories -/

/-- **A memory has from its start what a network without tracked links has**, if naming keeps it. -/
theorem Memory.has_start {settings : Settings} {memory : Memory}
    (started : Memory.start settings = .ok memory) (respects : ∀ relation, Respects relation property)
    (begun : ∀ {network}, IsTracking network → network.identifierLinks = [] → property network) :
    property memory.network := by
  unfold Memory.start at started
  split at started
  · rename_i relation keynodes network ran
    cases started
    simp only [Memory.populate, Naming.bootstrap, run_bind_ok_iff] at ran
    obtain ⟨_, _, ⟨node, created, ranCreate, _, observed, ranObserve, _, _, ranAssign, returned⟩, _,
      _, ranSeed, returned'⟩ := ran
    cases ranObserve
    cases returned
    cases returned'
    rw [Naming.run_onNetwork] at ranCreate
    split at ranCreate <;> cases ranCreate
    rename_i ranCreate
    obtain ⟨adds, -, links⟩ := Naming.created_ok ranCreate
    have empty : (Memory.emptyNetwork settings).Has Store.Consistent := Store.consistent_empty
    have consistent : created.Has Store.Consistent :=
      ((Network.stable_has Store.stable_consistent).steady.keeps_createNode _).ok empty ranCreate
    have observers : created.observers = [.events] :=
      ((Network.steady_observers [.events]).keeps_createNode _).ok rfl ranCreate
    have modest : ∀ observer ∈ created.observers, observer.IsModest := by
      rw [observers]
      exact List.forall_mem_singleton.2 trivial
    have bare : IsTracking (created.observe .linkReaper) :=
      { consistent := consistent
        tended := .of_modest modest
        handedOut := fun link tracked => by
          have tracked : link ∈ created.identifierLinks := tracked
          rw [links] at tracked
          cases tracked }
    have named := ((respects relation).assign _ relation).ok (begun bare links) ranAssign
    exact (Naming.keeps_seed (fun identifier type =>
      (respects relation).resolve identifier (some type)) _ _).ok named ranSeed
  · cases started

namespace Usage

variable {usage : Usage} {memory : Memory}

/-- Batches hold back the creation of edges only. -/
theorem holdsArrivals_step (holds : HoldsArrivals usage.session) (request : Request) :
    HoldsArrivals (usage.step request).session := by
  cases request with
  | call call => exact Naming.holdsArrivals_step holds call
  | resolve identifier type? => exact holds
  | setIdentifier identifier element => exact holds

theorem has_step_of_lasting (lasting : Network.Lasting property)
    (respects : ∀ relation, Respects relation property) (holds : property usage.memory.network)
    (request : Request)
    (commit : ∀ number, property (usage.memory.network.commit (usage.batches number)))
    (rollback : ∀ number created, request = .call (.rollback number created) →
      property (usage.memory.network.rollback created))
    (observe : ∀ observer, request = .call (.observe observer) →
      property (usage.memory.network.observe observer)) :
    property (usage.step request).memory.network := by
  cases request with
  | call call =>
    have holds : property usage.session.network := holds
    exact Session.has_step_of_lasting lasting holds call (fun number _ => commit number)
      (fun number created same => rollback number created (congrArg Request.call same))
      fun observer same => observe observer (congrArg Request.call same)
  | resolve identifier type? =>
    exact Memory.has_tryNaming ((respects _).resolve identifier type?) holds
  | setIdentifier identifier element =>
    exact Memory.has_tryNaming ((respects _).assign identifier element) holds

/-- **What a memory in use keeps.** Beside the operations of sessions and naming, telling of new edges
has to keep it, and the rollbacks and the observers that are asked for. -/
theorem has_run_of_lasting (lasting : Network.Lasting property)
    (respects : ∀ relation, Respects relation property)
    (commit : ∀ {network : Network} {changes : List Change}, property network →
      (∀ change ∈ changes, change.IsArrival) → property (network.publish changes))
    (holds : property usage.memory.network) (arrivals : HoldsArrivals usage.session)
    {requests : List Request}
    (rollback : ∀ number created, .call (.rollback number created) ∈ requests →
      ∀ {network : Network}, property network → property (network.rollback created))
    (observe : ∀ observer, .call (.observe observer) ∈ requests →
      ∀ {network : Network}, property network → property (network.observe observer)) :
    property (usage.run requests).memory.network ∧ HoldsArrivals (usage.run requests).session := by
  induction requests generalizing usage with
  | nil => exact ⟨holds, arrivals⟩
  | cons request rest hypothesis =>
    have kept : property (usage.step request).memory.network :=
      has_step_of_lasting lasting respects holds request (fun number => commit holds (arrivals number))
        (fun number created same => rollback number created (same ▸ List.mem_cons_self) holds)
        fun observer same => observe observer (same ▸ List.mem_cons_self) holds
    exact hypothesis kept (holdsArrivals_step arrivals request)
      (fun number created member => rollback number created (List.mem_cons_of_mem _ member))
      fun observer member => observe observer (List.mem_cons_of_mem _ member)

/-- **Tracked links were created**, whatever a memory was asked for, if only modest observers join. -/
theorem isTracking_run {settings : Settings} (started : Memory.start settings = .ok memory)
    {requests : List Request}
    (modest : ∀ observer, .call (.observe observer) ∈ requests → observer.IsModest) :
    IsTracking ((start memory).run requests).memory.network := by
  have begun : IsTracking (start memory).memory.network :=
    Memory.has_start started Naming.respects_isTracking fun tracking _ => tracking
  exact (has_run_of_lasting Naming.steady_isTracking.lasting Naming.respects_isTracking
    (fun tracking _ => Naming.steady_isTracking.publish _ tracking) begun nofun
    (fun _ created _ _ tracking => Naming.steady_isTracking.rollback tracking created)
    fun _ member _ tracking => tracking.observe (modest _ member)).1

end Usage

end SemanticNetwork
