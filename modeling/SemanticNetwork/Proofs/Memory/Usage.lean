/-
**A memory in use.** A memory can be asked for all that its network can be asked for, and for names.
Any request may be refused. Whatever is asked for, and whatever observers and subscribers do about
it, is made of operations on the store, so a memory in use keeps what these keep.

* `Usage.run`: a memory after some requests;
* `Usage.observers_run`: who observes a memory in use;
* `IsNew.has_run`: **a memory in use keeps a stable property**, from its start on;
* `IsNew.reachable_run`: its stores are stores that sessions reach;
* `run_intact`: **no address is handed out twice, and edges lead to older elements that exist.**
-/
import SemanticNetwork.Memory.Context
import SemanticNetwork.Proofs.Memory.Naming
import SemanticNetwork.Proofs.Network.Session

namespace SemanticNetwork

/-- What can be asked of a memory. -/
inductive Request where
  /-- Anything that a network can be asked for. -/
  | call (call : Call)
  | resolve (identifier : String) (type? : Option ElementType)
  | setIdentifier (identifier : String) (element : Address)

/-- Who joins the observers by a request. -/
def Request.newcomers : Request → List Observer
  | .call asked => asked.newcomers
  | _ => []

/-- A memory in use, with the batches that hold changes back. -/
structure Usage where
  memory : Memory
  batches : Nat → Batch

namespace Usage

/-- A memory before the first request. -/
def start (memory : Memory) : Usage := ⟨memory, fun _ => .empty⟩

/-- The network in use. -/
def session (usage : Usage) : Session := ⟨usage.memory.network, usage.batches⟩

/-- The store in use. -/
def store (usage : Usage) : Store := usage.memory.store

/-- The memory after a request. -/
def step (usage : Usage) : Request → Usage
  | .call call =>
    let session := usage.session.step call
    ⟨usage.memory.withNetwork session.network, session.batches⟩
  | .resolve identifier type? => { usage with memory := (usage.memory.resolve identifier type?).2 }
  | .setIdentifier identifier element =>
    { usage with memory := (usage.memory.setIdentifier identifier element).2 }

/-- The memory after some requests, one after another. -/
def run (usage : Usage) (requests : List Request) : Usage := requests.foldl step usage

theorem run_append (usage : Usage) (earlier later : List Request) :
    usage.run (earlier ++ later) = (usage.run earlier).run later :=
  List.foldl_append

end Usage

/-- A memory that was just started, or one without elements. -/
def Memory.IsNew (memory : Memory) : Prop :=
  (∃ settings, Memory.start settings = .ok memory) ∨ memory.store = .empty

variable {memory : Memory} {usage : Usage} {property : Network → Prop} {invariant : Store → Prop}

/-! ### What a memory keeps -/

theorem Memory.has_tryNaming {α : Type} {action : Naming.Action α}
    (keeps : Keeps property action) (holds : property memory.network) :
    property (memory.tryNaming action).2.network := by
  unfold Memory.tryNaming
  split
  · exact keeps.ok holds ‹_›
  · exact keeps.error holds ‹_›

/-- **A new memory has what the store without elements has**, if it is stable. -/
theorem Memory.IsNew.has (isNew : memory.IsNew) (stable : Store.Stable invariant)
    (holds : invariant .empty) : invariant memory.store := by
  rcases isNew with ⟨settings, started⟩ | empty
  · unfold Memory.start at started
    have begun : (Memory.emptyNetwork settings).Has invariant := holds
    split at started
    · cases started
      have keeps := Naming.keeps_populate (Network.stable_has stable).durable (fun _ holds => holds)
        settings.keynodes
      exact keeps.ok begun ‹_›
    · cases started
  · exact empty ▸ holds

namespace Usage

/-- **Every request keeps a stable property**, whether it succeeds or is refused. -/
theorem has_step (stable : Network.Stable property) (holds : property usage.memory.network)
    (request : Request) : property (usage.step request).memory.network := by
  cases request with
  | call call =>
    have holds : property usage.session.network := holds
    exact Session.has_step stable holds call
  | resolve identifier type? =>
    exact Memory.has_tryNaming (Naming.keeps_resolve stable.durable _ identifier type?) holds
  | setIdentifier identifier element =>
    exact Memory.has_tryNaming (Naming.keeps_assign stable.durable _ identifier element) holds

theorem has_run (stable : Network.Stable property) (holds : property usage.memory.network)
    (requests : List Request) : property (usage.run requests).memory.network := by
  induction requests generalizing usage with
  | nil => exact holds
  | cons request rest hypothesis => exact hypothesis (has_step stable holds request)

/-- Naming lets nobody join the observers. -/
theorem observers_step (usage : Usage) (request : Request) :
    (usage.step request).memory.network.observers =
      usage.memory.network.observers ++ request.newcomers := by
  have durable : Network.Durable fun network =>
      network.observers = usage.memory.network.observers :=
    (Network.steady_observers _).durable fun _ same => same
  cases request with
  | call call => exact usage.session.observers_step call
  | resolve identifier type? =>
    exact (Memory.has_tryNaming (Naming.keeps_resolve durable _ identifier type?) rfl).trans
      (List.append_nil _).symm
  | setIdentifier identifier element =>
    exact (Memory.has_tryNaming (Naming.keeps_assign durable _ identifier element) rfl).trans
      (List.append_nil _).symm

/-- **Who observes a memory in use**: whoever did before, and who joined by a request. -/
theorem observers_run (usage : Usage) (requests : List Request) :
    (usage.run requests).memory.network.observers =
      usage.memory.network.observers ++ requests.flatMap Request.newcomers := by
  induction requests generalizing usage with
  | nil => exact (List.append_nil _).symm
  | cons request rest hypothesis =>
    refine (hypothesis (usage.step request)).trans ?_
    rw [observers_step, List.append_assoc, List.flatMap_cons]

end Usage

/-- **A memory in use keeps a stable property**, from its start on. -/
theorem Memory.IsNew.has_run (isNew : memory.IsNew) (stable : Store.Stable invariant)
    (holds : invariant .empty) (requests : List Request) :
    invariant ((Usage.start memory).run requests).store := by
  have begun : (Usage.start memory).memory.network.Has invariant := isNew.has stable holds
  exact Usage.has_run (Network.stable_has stable) begun requests

/-- A memory in which there is nothing but its naming relation. -/
def Memory.plain : Memory :=
  match Memory.start ⟨4, 100, .manual, []⟩ with
  | .ok memory => memory
  | .error _ => ⟨.empty (.new 4 .manual) [], .default, .invalid, []⟩

theorem Memory.start_plain : start ⟨4, 100, .manual, []⟩ = .ok plain := by
  have succeeds : (start ⟨4, 100, .manual, []⟩).isOk = true := by decide +kernel
  unfold plain
  cases started : start ⟨4, 100, .manual, []⟩ with
  | ok memory => rfl
  | error error => rw [started] at succeeds; cases succeeds

theorem Memory.isNew_plain : plain.IsNew := .inl ⟨_, start_plain⟩

theorem Memory.IsNew.consistent_run (isNew : memory.IsNew) (requests : List Request) :
    ((Usage.start memory).run requests).store.Consistent :=
  isNew.has_run Store.stable_consistent Store.consistent_empty requests

/-- **The stores of a memory in use are reachable.** -/
theorem Memory.IsNew.reachable_run (isNew : memory.IsNew) (requests : List Request) :
    ((Usage.start memory).run requests).store.Reachable :=
  (isNew.has_run Store.stable_reachedAlone Store.reachedAlone_empty requests).reachable

/-! ### Addresses -/

/-- The operations on a store that create an element. -/
inductive Store.IsCreation : Store.Action Address → Prop where
  | node (type : ElementType) : IsCreation (createNode type)
  | link : IsCreation createLink
  | typedLink (type : ElementType) : IsCreation (createTypedLink type)
  | edge (type : ElementType) (source target : Address) : IsCreation (createEdge type source target)

theorem Store.IsCreation.creates {action : Store.Action Address} (creation : IsCreation action) :
    Creates action := by
  cases creation with
  | node type => exact creates_createNode type
  | link => exact createLink_eq ▸ creates_createTypedLink _
  | typedLink type => exact creates_createTypedLink type
  | edge type source target => exact creates_createEdge type source target

/-- What is created gets an address that was not handed out before. -/
theorem Store.IsCreation.not_handedOut {action : Store.Action Address} (creation : IsCreation action)
    {store after : Store} {address : Address} (ran : action.run store = .ok address after) :
    ¬ store.HandedOut address ∧ after.HandedOut address := by
  obtain ⟨element, rfl, adds⟩ := creation.creates.adds ran
  unfold HandedOut
  rw [adds.address, adds.allocated]
  exact ⟨fun old => Nat.not_succ_le_self _ old.2, Nat.succ_pos _, Nat.le_refl _⟩

namespace Usage

/-- **No address is handed out twice, and edges lead to older elements that exist**, whatever a
memory was asked for and whatever it is asked for next. At an address that was handed out there is
never another element than before, and a new element gets an address that was never handed out. -/
theorem run_intact (isNew : memory.IsNew) (earlier later : List Request) :
    ((start memory).run (earlier ++ later)).store.Intact ∧
      ((start memory).run earlier).store.Precedes ((start memory).run (earlier ++ later)).store ∧
      ∀ {action}, Store.IsCreation action → ∀ {address after},
        action.run ((start memory).run (earlier ++ later)).store = .ok address after →
          ¬ ((start memory).run earlier).store.HandedOut address ∧ after.HandedOut address := by
  have consistent := isNew.consistent_run earlier
  have precedes : ((start memory).run earlier).store.Precedes
      ((start memory).run (earlier ++ later)).store := by
    rw [run_append]
    have begun : ((start memory).run earlier).memory.network.Has fun store =>
        store.Consistent ∧ ((start memory).run earlier).store.Precedes store :=
      ⟨consistent, .refl _⟩
    exact (has_run (Network.stable_has (Store.stable_precedes _)) begun later).2
  refine ⟨(isNew.consistent_run (earlier ++ later)).intact, precedes, ?_⟩
  intro action creation address after ran
  obtain ⟨fresh, handedOut⟩ := creation.not_handedOut ran
  exact ⟨fun old => fresh (precedes.handedOut old).1, handedOut⟩

/-- An edge to a missing element is refused and uses up an address. Nothing is ever found there, even
after the named node was erased and another was created. -/
theorem run_refused_intact : Memory.plain.IsNew ∧
    ((start .plain).run [.resolve "leaf" (some .constantNode),
      .call (.createEdge .membership ⟨1⟩ ⟨99⟩)]).store.HandedOut ⟨9⟩ ∧
    ((start .plain).run ([.resolve "leaf" (some .constantNode),
      .call (.createEdge .membership ⟨1⟩ ⟨99⟩)] ++
        [.call (.erase ⟨5⟩), .call (.createNode .constantNode)])).store.Intact ∧
    ((start .plain).run ([.resolve "leaf" (some .constantNode),
      .call (.createEdge .membership ⟨1⟩ ⟨99⟩)] ++
        [.call (.erase ⟨5⟩), .call (.createNode .constantNode)])).store.get? ⟨9⟩ = none := by
  obtain ⟨intact, precedes, -⟩ := run_intact Memory.isNew_plain
    [.resolve "leaf" (some .constantNode), .call (.createEdge .membership ⟨1⟩ ⟨99⟩)]
    [.call (.erase ⟨5⟩), .call (.createNode .constantNode)]
  have handedOut : ((start .plain).run [.resolve "leaf" (some .constantNode),
      .call (.createEdge .membership ⟨1⟩ ⟨99⟩)]).store.HandedOut ⟨9⟩ := by
    unfold Store.HandedOut
    decide +kernel
  exact ⟨Memory.isNew_plain, handedOut, intact,
    precedes.get?_eq_none handedOut (by decide +kernel)⟩

end Usage

end SemanticNetwork
