/-
**Rolling back while a memory is in use.** A batch is filled by some requests, and later ones commit it
or roll it back, with whatever addresses. Each announcement is held back by one batch only, and has
not been told before. So what a batch held back that is rolled back is never told.

* `Usage.Withholds`: what batches hold back, and what was told, with `Withholds.step`,
  `Withholds.rollback`: **a rollback loses what its batch holds back**;
* `Usage.rolls_back_created`: **a rollback erases what was created and all that depends on it, and the
  observers hear of exactly what else went.**
-/
import SemanticNetwork.Proofs.Memory.Keeping
import SemanticNetwork.Proofs.Network.Rollback

namespace SemanticNetwork

open Change
open Network (Hides)

namespace Usage

variable {recorder : Nat} {memory : Memory} {usage : Usage} {start : List Change} {hidden lost : Address → Prop}
  {number other : Nat} {edge : Address}

/-- A batch holds back that an edge was created. -/
def HeldBy (usage : Usage) (number : Nat) (edge : Address) : Prop :=
  ∃ change ∈ (usage.batches number).changes, IsArrivalOf edge change

/-- The edges of which it must not be told, but by a commit: those that batches hold back, and those
that are lost. -/
def Hidden (usage : Usage) (lost : Address → Prop) (edge : Address) : Prop :=
  lost edge ∨ ∃ number, usage.HeldBy number edge

/-- **What batches hold back, and what was told** in a journal since it was started. No edge is held back by
two batches, no lost edge is held back by any, and of none of these it was told. -/
structure Withholds (recorder : Nat) (start : List Change) (lost : Address → Prop) (usage : Usage) : Prop where
  arrivals : Naming.HoldsArrivals usage.session
  single : ∀ {number other edge}, usage.HeldBy number edge → usage.HeldBy other edge → number = other
  kept : ∀ {number edge}, usage.HeldBy number edge → ¬ lost edge
  hides : Hides recorder start (usage.Hidden lost) usage.memory.network

/-! ### Batches -/

/-- **What a batch holds back** after a request it held back before, or the request created it. -/
theorem heldBy_step {request : Request} (held : (usage.step request).HeldBy number edge) :
    usage.HeldBy number edge ∨
      (∃ type source target, request = .call (.createEdgeIn number type source target)) ∧
        edge = usage.store.nextAddress ∧ (usage.step request).store.contains edge = true := by
  obtain ⟨change, member, arrival⟩ := held
  cases request with
  | call call =>
    rcases Session.mem_batches_step member with before | ⟨created, source, target, type, rfl, found,
      rfl, address⟩
    · exact .inl ⟨change, before, arrival⟩
    · obtain ⟨_, _, _, same⟩ := arrival
      cases same
      exact .inr ⟨⟨type, source, target, rfl⟩, address, Store.contains_of_get? found⟩
  | resolve identifier type? => exact .inl ⟨change, member, arrival⟩
  | setIdentifier identifier element => exact .inl ⟨change, member, arrival⟩

/-- The batch that is committed or rolled back holds nothing back any more. -/
theorem heldBy_of_emptied {network : Network}
    (held : HeldBy ⟨memory, ((usage.session.withNetwork network).withBatch number .empty).batches⟩
      other edge) : other ≠ number ∧ usage.HeldBy other edge := by
  obtain ⟨change, member, arrival⟩ := held
  simp only [Session.withBatch, Session.withNetwork] at member
  split at member
  · cases member
  · exact ⟨‹_›, change, member, arrival⟩

/-! ### Requests -/

/-- **Hidden edges stay hidden**, whatever is asked for but a commit. -/
theorem hides_step (hides : Hides recorder start hidden usage.memory.network) {request : Request}
    (noCommit : ∀ number, request ≠ .call (.commit number)) :
    Hides recorder start hidden (usage.step request).memory.network := by
  cases request with
  | call call =>
    have hides : Hides recorder start hidden usage.session.network := hides
    exact Session.has_step_of_lasting (Network.lasting_hides recorder start hidden) hides call
      (fun number same => absurd (congrArg Request.call same) (noCommit number))
      (fun _ created _ => Network.hides_rollback hides created)
      fun _ _ => ⟨hides.consistent, hides.older, hides.heard⟩
  | resolve identifier type? =>
    exact Memory.has_tryNaming
      (Naming.keeps_resolve (Network.durable_hides recorder start hidden) _ identifier type?) hides
  | setIdentifier identifier element =>
    exact Memory.has_tryNaming
      (Naming.keeps_assign (Network.durable_hides recorder start hidden) _ identifier element) hides

/-- Nothing is told of an edge that is created into a batch. -/
theorem journal_createEdgeIn (usage : Usage) (number : Nat) (type : ElementType)
    (source target : Address) (recorder : Nat) :
    (usage.step (.call (.createEdgeIn number type source target))).memory.network.journal recorder =
      usage.memory.network.journal recorder := by
  show (usage.session.createEdgeIn number type source target).network.journal recorder = _
  simp only [Session.createEdgeIn, Network.createEdgeIn, EStateM.run_bind, Network.run_onStore]
  cases (Store.createEdge type source target).run usage.session.network.store <;> rfl

namespace Withholds

variable (withholds : usage.Withholds recorder start lost)

include withholds

/-- A hidden edge was created before. -/
theorem ne_nextAddress (isHidden : usage.Hidden lost edge) : edge ≠ usage.store.nextAddress := by
  rintro rfl
  exact Nat.not_succ_le_self _ (withholds.hides.older _ isHidden)

/-- **A commit tells of edges that only its batch held back.** -/
theorem hides_commit (number : Nat) :
    Hides recorder start ((usage.step (.call (.commit number))).Hidden lost)
      (usage.step (.call (.commit number))).memory.network := by
  obtain ⟨journals, store⟩ := Session.tells_commit (withholds.arrivals number)
  refine withholds.hides.of_told store (journals recorder) (fun edge isHidden => ?_) fun change member edge arrival => ?_
  · exact isHidden.imp id fun ⟨other, held⟩ => ⟨other, (heldBy_of_emptied held).2⟩
  · have held : usage.HeldBy number edge := ⟨change, mem_of_mem_repeated member, arrival⟩
    refine ⟨.inr ⟨number, held⟩, ?_⟩
    rintro (isLost | ⟨other, held'⟩)
    · exact withholds.kept held isLost
    · obtain ⟨apart, held'⟩ := heldBy_of_emptied held'
      exact apart (withholds.single held' held)

/-- After a request hidden edges are still hidden, and so is one that was created into a batch. -/
theorem hides_after (request : Request) : Hides recorder start ((usage.step request).Hidden lost)
    (usage.step request).memory.network := by
  by_cases isCommit : ∃ number, request = .call (.commit number)
  · obtain ⟨number, rfl⟩ := isCommit
    exact withholds.hides_commit number
  have stays := hides_step withholds.hides fun number same => isCommit ⟨number, same⟩
  by_cases creates : ∃ number type source target,
      request = .call (.createEdgeIn number type source target)
  · obtain ⟨number, type, source, target, rfl⟩ := creates
    obtain ⟨consistent, precedes⟩ := has_step
      (Network.stable_has (Store.stable_precedes usage.store))
      (Network.has_precedes_self withholds.hides.consistent)
      (.call (.createEdgeIn number type source target))
    refine withholds.hides.of_silent consistent precedes
      (usage.journal_createEdgeIn number type source target recorder) fun edge isHidden => ?_
    rcases isHidden with isLost | ⟨other, held⟩
    · exact .inl (.inl isLost)
    · rcases heldBy_step held with before | ⟨-, rfl, there⟩
      · exact .inl (.inr ⟨other, before⟩)
      · exact .inr ⟨Nat.lt_succ_self _, (consistent.handedOut there).2⟩
  · refine stays.mono fun edge isHidden => isHidden.imp id fun ⟨other, held⟩ => ⟨other, ?_⟩
    rcases heldBy_step held with before | ⟨⟨type, source, target, same⟩, -⟩
    · exact before
    · exact absurd ⟨other, type, source, target, same⟩ creates

/-- **After a request batches hold back as before.** -/
theorem step (request : Request) : (usage.step request).Withholds recorder start lost where
  arrivals := holdsArrivals_step withholds.arrivals request
  single {number other edge} held held' := by
    rcases heldBy_step held with before | ⟨⟨type, source, target, same⟩, new, -⟩ <;>
      rcases heldBy_step held' with before' | ⟨⟨type', source', target', same'⟩, new', -⟩
    · exact withholds.single before before'
    · exact absurd new' (withholds.ne_nextAddress (.inr ⟨number, before⟩))
    · exact absurd new (withholds.ne_nextAddress (.inr ⟨other, before'⟩))
    · cases same.symm.trans same'
      rfl
  kept {number edge} held isLost := by
    rcases heldBy_step held with before | ⟨-, new, -⟩
    · exact withholds.kept before isLost
    · exact withholds.ne_nextAddress (.inl isLost) new
  hides := withholds.hides_after request

theorem run (requests : List Request) : (usage.run requests).Withholds recorder start lost := by
  induction requests generalizing usage with
  | nil => exact withholds
  | cons request rest hypothesis => exact hypothesis (withholds.step request)

/-- **A rollback loses what its batch holds back.** -/
theorem rollback (number : Nat) (created : List Address) :
    (usage.step (.call (.rollback number created))).Withholds recorder start
      fun edge => lost edge ∨ usage.HeldBy number edge where
  arrivals := holdsArrivals_step withholds.arrivals _
  single := (withholds.step _).single
  kept {other edge} held := by
    obtain ⟨apart, held⟩ := heldBy_of_emptied held
    rintro (isLost | held')
    · exact withholds.kept held isLost
    · exact apart (withholds.single held held')
  hides := by
    have stays : Hides recorder start (usage.Hidden lost)
        (usage.step (.call (.rollback number created))).memory.network :=
      hides_step withholds.hides nofun
    refine stays.mono fun edge isHidden => ?_
    rcases isHidden with (isLost | held) | ⟨other, held⟩
    · exact .inl isLost
    · exact .inr ⟨number, held⟩
    · exact .inr ⟨other, (heldBy_of_emptied held).2⟩

end Withholds

/-- Before the first request nothing is held back. -/
theorem withholds_start (isNew : memory.IsNew) (recorder : Nat) :
    (Usage.start memory).Withholds recorder (memory.network.journal recorder) fun _ => False where
  arrivals := nofun
  single := by
    rintro number other edge ⟨change, member, -⟩
    cases member
  kept _ isLost := isLost
  hides := by
    refine ⟨isNew.consistent_run [], ?_, [], (List.append_nil _).symm, nofun⟩
    rintro edge (isLost | ⟨number, change, member, -⟩)
    · cases isLost
    · cases member

/-! ### Rollbacks -/

/-- **A rollback erases what was created and all that depends on it**, whatever a memory was asked for
before, and whatever addresses are listed, if what it reports moves no observer. The observers hear
of what is reported, once each and in order: of exactly what else went. Of what the batch held back no
one is told, now or before or whatever the memory is asked for later. -/
theorem rolls_back_created (isNew : memory.IsNew) (earlier : List Request) (number : Nat)
    (created : List Address)
    (unmoved : ∀ change ∈ (((Usage.start memory).run earlier).store.rollback created).2,
      Network.Unmoved { ((Usage.start memory).run earlier).memory.network with
        store := (((Usage.start memory).run earlier).store.rollback created).1 } change) :
    let before := (Usage.start memory).run earlier
    let after := before.step (.call (.rollback number created))
    let reported := (before.store.rollback created).2
    before.store.RollsBack created after.store reported ∧
      after.memory.network = { before.memory.network with store := after.store }.hear
        (before.memory.network.audience reported) ∧
      (∀ recorder, after.memory.network.journal recorder =
        before.memory.network.journal recorder ++
          repeated (before.memory.network.recorders recorder) reported) ∧
      (∀ other, after.batches other = if other = number then .empty else before.batches other) ∧
      ∀ change ∈ (before.batches number).changes, ∀ later recorder, ∃ told,
        (after.run later).memory.network.journal recorder =
          memory.network.journal recorder ++ told ∧ change ∉ told := by
  intro before after reported
  have consistent : before.store.Consistent := isNew.consistent_run earlier
  obtain ⟨store, heard, journals⟩ := Network.rollback_of_unmoved created unmoved
  have store : after.store = (before.store.rollback created).1 := store
  have heard : after.memory.network = { before.memory.network with store := after.store }.hear
      (before.memory.network.audience reported) := by
    rw [store]
    exact heard
  refine ⟨?_, heard, journals, fun _ => rfl, fun change member later recorder => ?_⟩
  · rw [store]
    exact Store.rollsBack_rollback consistent created
  · have withholds := (withholds_start isNew recorder).run earlier
    obtain ⟨edge, source, target, type, rfl⟩ := withholds.arrivals number change member
    have arrival : IsArrivalOf edge (.edgeAdded edge source target type) := ⟨_, _, _, rfl⟩
    obtain ⟨told, journal, known⟩ := ((withholds.rollback number created).run later).hides.heard
    refine ⟨told, journal, fun isTold => ?_⟩
    exact (known _ isTold edge arrival).2 (.inl (.inr ⟨_, member, arrival⟩))

/-- A memory without elements, with a recorder and an observer who sees to orphaned links. -/
def recorded : Memory :=
  ⟨.empty (.new 4 .manual) [.recorder 0, .linkReaper], .default, .invalid, []⟩

/-- Two nodes, and two edges that are created into a batch, one between the nodes and one to an edge
that leads from a node to the first. Another edge between the nodes has nothing to do with them. -/
def staged : List Request :=
  [.call (.createNode .constantNode), .call (.createNode .constantNode),
    .call (.createEdgeIn 0 .membership ⟨1⟩ ⟨2⟩), .call (.createEdge .membership ⟨2⟩ ⟨3⟩),
    .call (.createEdgeIn 0 .membership ⟨1⟩ ⟨4⟩), .call (.createEdge .membership ⟨1⟩ ⟨2⟩)]

/-- The edges of the batch, one of them twice, and an address at which there is nothing. -/
def stagedEdges : List Address := [⟨3⟩, ⟨5⟩, ⟨9⟩, ⟨3⟩]

/-- The edge between the two edges of the batch goes with them, and it alone is told of. -/
theorem staged_rolls_back_created : recorded.IsNew ∧
    (∀ change ∈ (((Usage.start recorded).run staged).store.rollback stagedEdges).2,
      Network.Unmoved { ((Usage.start recorded).run staged).memory.network with
        store := (((Usage.start recorded).run staged).store.rollback stagedEdges).1 } change) ∧
    let before := (Usage.start recorded).run staged
    let after := before.step (.call (.rollback 0 stagedEdges))
    before.store.RollsBack stagedEdges after.store
        [.edgeRemoved ⟨4⟩ ⟨2⟩ ⟨3⟩ .membership, .erased ⟨4⟩] ∧
      after.store.elements.keys = [⟨1⟩, ⟨2⟩, ⟨6⟩] ∧
      (before.batches 0).changes =
        [.edgeAdded ⟨3⟩ ⟨1⟩ ⟨2⟩ .membership, .edgeAdded ⟨5⟩ ⟨1⟩ ⟨4⟩ .membership] ∧
      (after.step (.call (.commit 0))).memory.network.journal 0 =
        [.edgeAdded ⟨4⟩ ⟨2⟩ ⟨3⟩ .membership, .edgeAdded ⟨6⟩ ⟨1⟩ ⟨2⟩ .membership,
          .edgeRemoved ⟨4⟩ ⟨2⟩ ⟨3⟩ .membership, .erased ⟨4⟩] := by
  have isNew : recorded.IsNew := .inr rfl
  have reported : (((Usage.start recorded).run staged).store.rollback stagedEdges).2 =
      [.edgeRemoved ⟨4⟩ ⟨2⟩ ⟨3⟩ .membership, .erased ⟨4⟩] := by cbv
  have observers : ((Usage.start recorded).run staged).memory.network.observers =
      [.recorder 0, .linkReaper] := observers_run _ _
  have unmoved : ∀ change ∈ (((Usage.start recorded).run staged).store.rollback stagedEdges).2,
      Network.Unmoved { ((Usage.start recorded).run staged).memory.network with
        store := (((Usage.start recorded).run staged).store.rollback stagedEdges).1 } change := by
    rw [reported]
    intro change member observer listens
    have listens : observer ∈ ((Usage.start recorded).run staged).memory.network.observers := listens
    rw [observers] at listens
    simp only [List.mem_cons, List.not_mem_nil, or_false] at member listens
    rcases listens with rfl | rfl
    · rfl
    · rcases member with rfl | rfl
      · have otherType : ElementType.membership ≠ .constantDirected := by decide
        simp [Network.victim?, Network.orphanedLink?, otherType]
      · rfl
  obtain ⟨rollsBack, -⟩ := rolls_back_created isNew staged 0 stagedEdges unmoved
  rw [reported] at rollsBack
  exact ⟨isNew, unmoved, rollsBack, by cbv, by cbv, by cbv⟩

end Usage

end SemanticNetwork
