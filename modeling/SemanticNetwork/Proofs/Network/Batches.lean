/-
**What commits tell.** An edge that is created into a batch is there at once, but that it was created
is told only when the batch is committed. Nobody looks after the edge until then: it may be erased,
by itself or with one of its ends, and the batch goes on holding its announcement back. A commit tells
it all the same. Such edges apart, recorders hear of things in order.

* `Change.InOrder`: of no edge it is told that it was created after it was told that it went;
* `Network.Orderly`: what stands in a journal from one network to a later one is in order, with
  `Network.lasting_orderly`: **whatever operation follows on whatever other**;
* `Session.Outdated`: edges that went while a batch held their announcement back;
* `Session.Announces`: what batches hold back and what stands in a journal agree with the store, with
  `Session.Announces.step`: **after a call as before**;
* `Session.run_tellsInOrder`: **outdated edges apart, commits tell of edges that are there, and
  nothing comes back.**
-/
import Mathlib
import SemanticNetwork.Proofs.Network.Recording
import SemanticNetwork.Proofs.Network.Session

namespace SemanticNetwork

namespace Change

/-- **Of no edge it is told that it was created after it was told that it went**, some edges apart. -/
def InOrder (excepted : Address → Prop) (told : List Change) : Prop :=
  told.Pairwise fun earlier later =>
    ∀ edge, IsRemovalOf edge earlier → IsArrivalOf edge later → excepted edge

variable {excepted other : Address → Prop} {told first second : List Change}

theorem InOrder.mono (inOrder : InOrder excepted told) (weaker : ∀ edge, excepted edge → other edge) :
    InOrder other told :=
  inOrder.imp fun earlier edge removal arrival => weaker edge (earlier edge removal arrival)

/-- What is told after something else is in order with that if nothing in it comes back. -/
theorem InOrder.append (inOrder : InOrder excepted first) (inOrder' : InOrder excepted second)
    (between : ∀ earlier ∈ first, ∀ later ∈ second, ∀ edge,
      IsRemovalOf edge earlier → IsArrivalOf edge later → excepted edge) :
    InOrder excepted (first ++ second) :=
  List.pairwise_append.2 ⟨inOrder, inOrder', between⟩

/-- Where nothing went, everything is in order. -/
theorem inOrder_of_noRemoval (noRemoval : ∀ change ∈ told, ∀ edge, ¬ IsRemovalOf edge change) :
    InOrder excepted told :=
  List.pairwise_of_forall_mem_list fun _ member _ _ edge removal =>
    absurd removal (noRemoval _ member edge)

end Change

open Change

/-- There was an element at an address, and it is gone. -/
def Store.IsSpent (store : Store) (address : Address) : Prop :=
  store.HandedOut address ∧ store.get? address = none

theorem Store.Precedes.isSpent {before after : Store} {address : Address}
    (precedes : before.Precedes after) (spent : before.IsSpent address) : after.IsSpent address :=
  ⟨(precedes.handedOut spent.1).1, precedes.get?_eq_none spent.1 spent.2⟩

/-- An edge that was there is there as it was, or is gone for good. -/
theorem Store.Precedes.edge_or_isSpent {before after : Store} {edge source target : Address}
    {type : ElementType} (precedes : before.Precedes after) (consistent : before.Consistent)
    (consistent' : after.Consistent)
    (found : before.get? edge = some ⟨edge, type, .edge source target⟩) :
    after.get? edge = some ⟨edge, type, .edge source target⟩ ∨ after.IsSpent edge := by
  have handedOut := consistent.numbered found
  by_cases there : after.contains edge = true
  · obtain ⟨-, sameType, sameEnds⟩ := precedes.kept handedOut there
    have ends := sameEnds.trans (consistent.ends?_eq_some_iff.2 ⟨type, found⟩)
    obtain ⟨type', found'⟩ := consistent'.ends?_eq_some_iff.1 ends
    simp only [Store.type?, found, found', Option.map_some, Option.some.injEq] at sameType
    exact .inl (sameType ▸ found')
  · exact .inr ⟨(precedes.handedOut handedOut).1, Store.not_contains_iff.1 there⟩

/-- What came was not handed out before. -/
theorem Store.Precedes.newer_of_came {before after : Store} {address : Address} {element : Element}
    (precedes : before.Precedes after) (missing : before.get? address = none)
    (found : after.get? address = some element) : before.allocated < address.value := by
  refine Nat.lt_of_not_le fun older => ?_
  obtain ⟨former, there, -⟩ := precedes.old found older
  cases missing.symm.trans there

namespace Network

variable {recorder : Nat} {network between after : Network}

/-- **What stands in a journal from one network to a later one is in order.** The edges that went are
gone for good, and those that were created are new. -/
structure Orderly (recorder : Nat) (network after : Network) : Prop where
  consistent : after.store.Consistent
  precedes : network.store.Precedes after.store
  heard : ∃ heard, after.journal recorder = network.journal recorder ++ heard ∧
    InOrder (fun _ => False) heard ∧ ∀ change ∈ heard, ∀ edge,
      (IsRemovalOf edge change → after.store.IsSpent edge) ∧
        (IsArrivalOf edge change → network.store.allocated < edge.value)

namespace Orderly

theorem of_silent (consistent : after.store.Consistent)
    (precedes : network.store.Precedes after.store)
    (journal : after.journal recorder = network.journal recorder) : Orderly recorder network after :=
  ⟨consistent, precedes, [], by rw [journal, List.append_nil], .nil, nofun⟩

theorem refl (consistent : network.store.Consistent) : Orderly recorder network network :=
  .of_silent consistent (.refl _) rfl

/-- An edge that went is not created afterwards, as its address is not handed out again. -/
theorem trans (first : Orderly recorder network between) (second : Orderly recorder between after) :
    Orderly recorder network after := by
  obtain ⟨-, precedes, heard, journal, inOrder, known⟩ := first
  obtain ⟨consistent, precedes', heard', journal', inOrder', known'⟩ := second
  refine ⟨consistent, precedes.trans precedes', heard ++ heard',
    by rw [journal', journal, List.append_assoc], inOrder.append inOrder' ?_, ?_⟩
  · intro earlier member later member' edge removal arrival
    have older := ((known earlier member edge).1 removal).1.2
    exact Nat.not_lt.2 older ((known' later member' edge).2 arrival)
  · intro change member edge
    rcases List.mem_append.1 member with early | late
    · obtain ⟨spent, newer⟩ := known change early edge
      exact ⟨fun removal => precedes'.isSpent (spent removal), newer⟩
    · obtain ⟨spent, newer⟩ := known' change late edge
      exact ⟨spent, fun arrival => Nat.lt_of_le_of_lt precedes.allocated (newer arrival)⟩

/-- **News are in order.** An edge that went was there before, and one that came was not. -/
theorem of_news (consistent : network.store.Consistent) (consistent' : after.store.Consistent)
    (precedes : network.store.Precedes after.store) {heard : List Change}
    (journal : after.journal recorder = network.journal recorder ++ heard)
    (news : ∀ address, ∀ change ∈ storyOf address heard,
      change ∈ network.store.news after.store address) : Orderly recorder network after := by
  have went : ∀ change ∈ heard, ∀ edge, IsRemovalOf edge change →
      (∃ element, network.store.get? edge = some element) ∧ after.store.get? edge = none :=
    fun change member edge removal =>
      Store.went_of_mem_news removal (news edge change (removal.mem_storyOf member))
  have came : ∀ change ∈ heard, ∀ edge, IsArrivalOf edge change →
      network.store.get? edge = none ∧ ∃ element, after.store.get? edge = some element := by
    intro change member edge arrival
    have new := news edge change (arrival.mem_storyOf member)
    obtain ⟨source, target, type, rfl⟩ := arrival
    exact (Store.came_of_mem_news new).imp id fun there => ⟨_, there⟩
  refine ⟨consistent', precedes, heard, journal, ?_, fun change member edge => ⟨?_, ?_⟩⟩
  · refine List.pairwise_of_forall_mem_list fun earlier member later member' edge removal arrival => ?_
    obtain ⟨⟨element, found⟩, -⟩ := went earlier member edge removal
    cases found.symm.trans (came later member' edge arrival).1
  · intro removal
    obtain ⟨⟨element, found⟩, gone⟩ := went change member edge removal
    exact ⟨(precedes.handedOut (consistent.numbered found)).1, gone⟩
  · intro arrival
    obtain ⟨missing, element, found⟩ := came change member edge arrival
    exact precedes.newer_of_came missing found

/-- A faithful record is in order. -/
theorem of_logs {wrote : List Address} (consistent : network.store.Consistent)
    (logs : network.Logs wrote after) : Orderly recorder network after := by
  obtain ⟨heard, journal, story, -⟩ := logs.heard recorder
  refine .of_news consistent logs.consistent logs.precedes journal fun address change member => ?_
  exact mem_of_mem_repeated ((story address).mem_iff.1 member)

end Orderly

/-- Of the edges in a faithful record those are there of which it is told that they were created. -/
theorem Logs.exists_told {wrote : List Address} (logs : network.Logs wrote after) (recorder : Nat) :
    ∃ told, after.journal recorder = network.journal recorder ++ told ∧
      ∀ {edge source target type}, .edgeAdded edge source target type ∈ told →
        after.store.get? edge = some ⟨edge, type, .edge source target⟩ := by
  obtain ⟨told, journal, story, -⟩ := logs.heard recorder
  refine ⟨told, journal, fun {edge source target type} member => ?_⟩
  have arrival : IsArrivalOf edge (.edgeAdded edge source target type) := ⟨_, _, _, rfl⟩
  exact (Store.came_of_mem_news
    (mem_of_mem_repeated ((story edge).mem_iff.1 (arrival.mem_storyOf member)))).2

/-! ### Operations -/

section Operations

variable (consistent : network.store.Consistent)

include consistent

/-- **What a rollback tells is news**: of what goes with what it erases, and of what follows from that. -/
theorem exists_news_rollback (created : List Address) (recorder : Nat) :
    (network.rollback created).store.Consistent ∧
      ∃ heard, (network.rollback created).journal recorder = network.journal recorder ++ heard ∧
        ∀ address, ∀ change ∈ storyOf address heard,
          change ∈ network.store.news (network.rollback created).store address := by
  have waits := consistent.anyWaiting created.reverse
  have shrinks := Store.shrinks_cascade waits
  simp only [rollback, Store.rollback, consistent.eraseAll_eq_cascade]
  have erased : Store.Consistent
      { network with store := (network.store.cascade created.reverse).store }.store :=
    Store.consistent_cascade waits
  have settles := settles_publish erased
    ((network.store.cascade created.reverse).changes.filter fun change =>
      !created.contains change.subject)
  refine ⟨settles.consistent, _, journal_publish _ _ recorder, fun address change member => ?_⟩
  rw [← Store.news_trans shrinks.kept settles.kept]
  have heard := (story_echo erased _ address).mem_iff.1 member
  rcases List.mem_append.1 (mem_of_mem_repeated heard) with reported | followed
  · obtain ⟨told, about⟩ := List.mem_filter.1 reported
    rw [← Store.storyOf_cascade waits]
    exact List.mem_append_left _ (List.mem_filter.2 ⟨(List.mem_filter.1 told).1, about⟩)
  · exact List.mem_append_right _ followed

/-- **A rollback tells in order.** -/
theorem orderly_rollback (created : List Address) (recorder : Nat) :
    Orderly recorder network (network.rollback created) := by
  obtain ⟨consistent', heard, journal, news⟩ := exists_news_rollback consistent created recorder
  exact .of_news consistent consistent' (precedes_rollback consistent created) journal news

end Operations

/-- **Every operation keeps what faithful records keep**, if nothing is lost where the store changes
and nothing is told. -/
theorem lasting_of_logs {property : Network → Prop}
    (consistent : ∀ {network}, property network → network.store.Consistent)
    (logs : ∀ {network after wrote}, property network → network.Logs wrote after → property after)
    (silent : ∀ {network after}, property network → after.store.Consistent →
      network.store.Precedes after.store → after.journals = network.journals → property after) :
    Lasting property := by
  have carries : ∀ {network} deed, property network → property (network.carry deed) :=
    fun deed holds => logs holds (logs_carry (consistent holds) deed)
  exact {
    createNode := fun type => keeps_of_attempt (carries (.createNode type))
    createTypedLink := fun type => keeps_of_attempt (carries (.createTypedLink type))
    createEdgeIn := fun batch type source target => keeps_of_attempt fun {network} holds => by
      rw [attempt_createEdgeIn, attempt, run_onStore]
      cases ran : (Store.createEdge type source target).run network.store with
      | error error store =>
        have spends := Store.createEdge_error ran
        exact silent holds (spends.consistent (consistent holds)) spends.precedes rfl
      | ok edge store =>
        exact silent holds ((Store.keeps_createEdge type source target).ok (consistent holds) ran)
          (Store.createEdge_ok ran).2.2.precedes rfl
    createEdge := fun type source target => keeps_of_attempt (carries (.createEdge type source target))
    setPayload := fun link payload => keeps_of_attempt (carries (.setPayload link payload))
    erase := fun address => carries (.erase address)
    generate := fun template parameters => carries (.generate template parameters)
    events := fun {network} _ holds => by
      have stands : network.store.Consistent := consistent holds
      exact silent holds stands (.refl _) rfl }

/-- **Whatever operation follows on whatever other**, what is heard is in order. -/
theorem lasting_orderly (recorder : Nat) (start : Network) : Lasting (Orderly recorder start) :=
  lasting_of_logs Orderly.consistent
    (fun orderly logs => orderly.trans (.of_logs orderly.consistent logs))
    fun orderly consistent precedes journals =>
      orderly.trans (.of_silent consistent precedes (by rw [journal, journals]; rfl))

end Network

namespace Session

variable {recorder : Nat} {session : Session} {call : Call} {calls : List Call} {edge : Address}
  {stale later : Address → Prop}

/-- A batch holds back that an edge was created. -/
def HoldsBack (session : Session) (number : Nat) (edge source target : Address)
    (type : ElementType) : Prop :=
  .edgeAdded edge source target type ∈ (session.batches number).changes

/-- **An edge goes during a call** while a batch holds its announcement back, and the batch goes on
holding it. -/
def Outdates (session : Session) (call : Call) (edge : Address) : Prop :=
  ∃ number source target type, (session.step call).HoldsBack number edge source target type ∧
    session.network.store.get? edge = some ⟨edge, type, .edge source target⟩ ∧
      (session.step call).network.store.get? edge = none

/-- An edge went during one of some calls while a batch held its announcement back. -/
def Outdated (session : Session) (calls : List Call) (edge : Address) : Prop :=
  ∃ earlier call rest, calls = earlier ++ call :: rest ∧ (session.run earlier).Outdates call edge

/-- **What batches hold back and what stands in a journal agree with the store**, stale edges apart. -/
structure Announces (recorder : Nat) (stale : Address → Prop) (session : Session) : Prop where
  consistent : session.network.store.Consistent
  held : ∀ number, ∀ change ∈ (session.batches number).changes, ∃ edge source target type,
    change = .edgeAdded edge source target type ∧
      (session.network.store.get? edge = some ⟨edge, type, .edge source target⟩ ∨
        session.network.store.IsSpent edge ∧ stale edge)
  removed : ∀ change ∈ session.network.journal recorder, ∀ edge, IsRemovalOf edge change →
    session.network.store.IsSpent edge
  inOrder : InOrder stale (session.network.journal recorder)

namespace Announces

theorem arrivals (announces : Announces recorder stale session) (number : Nat) :
    ∀ change ∈ (session.batches number).changes, change.IsArrival := by
  intro change member
  obtain ⟨edge, source, target, type, same, -⟩ := announces.held number change member
  exact ⟨edge, source, target, type, same⟩

/-- An edge whose announcement is held back is there or is stale. -/
theorem stale_of_spent (announces : Announces recorder stale session) {number : Nat} {change : Change}
    (member : change ∈ (session.batches number).changes) (arrival : IsArrivalOf edge change)
    (spent : session.network.store.IsSpent edge) : stale edge := by
  obtain ⟨edge', source, target, type, rfl, there⟩ := announces.held number change member
  obtain ⟨_, _, _, same⟩ := arrival
  cases same
  rcases there with found | ⟨-, isStale⟩
  · cases found.symm.trans spent.2
  · exact isStale

end Announces

/-! ### Calls -/

/-- No call hands out an address a second time. -/
theorem precedes_step (consistent : session.network.store.Consistent) (call : Call) :
    (session.step call).network.Has fun store =>
      store.Consistent ∧ session.network.store.Precedes store :=
  has_step (Network.stable_has (Store.stable_precedes _))
    (Network.has_precedes_self consistent) call

theorem orderly_step (consistent : session.network.store.Consistent) (call : Call)
    (noCommit : ∀ number, call ≠ .commit number) :
    Network.Orderly recorder session.network (session.step call).network :=
  has_step_of_lasting (Network.lasting_orderly recorder _) (.refl consistent) call
    (fun number same => absurd same (noCommit number))
    (fun _ created _ => Network.orderly_rollback consistent created recorder)
    fun _ _ => .of_silent consistent (.refl _) rfl

/-- **A commit tells what its batch holds back**, and leaves the store as it is. -/
theorem tells_commit {number : Nat}
    (arrivals : ∀ change ∈ (session.batches number).changes, change.IsArrival) :
    (∀ recorder, (session.step (.commit number)).network.journal recorder =
        session.network.journal recorder ++
          repeated (session.network.recorders recorder) (session.batches number).changes) ∧
      (session.step (.commit number)).network.store = session.network.store :=
  ⟨Network.journal_publish_of_unmoved fun change member =>
      Network.unmoved_of_arrival (arrivals change member),
    (Network.publish_arrivals arrivals _).2.store⟩

namespace Announces

/-- **What a call tells** is in order. It tells of no edge that it was created if the edge went before,
unless the edge is stale. -/
theorem exists_told (announces : Announces recorder stale session) (call : Call) :
    ∃ told, (session.step call).network.journal recorder =
        session.network.journal recorder ++ told ∧
      InOrder stale told ∧ ∀ change ∈ told, ∀ edge,
        (IsRemovalOf edge change → (session.step call).network.store.IsSpent edge) ∧
          (IsArrivalOf edge change → session.network.store.IsSpent edge → stale edge) := by
  -- Only a commit tells of what was done before it was called.
  by_cases isCommit : ∃ number, call = .commit number
  · obtain ⟨number, rfl⟩ := isCommit
    have noRemoval : ∀ change ∈
        repeated (session.network.recorders recorder) (session.batches number).changes,
          ∀ edge, ¬ IsRemovalOf edge change := by
      rintro change member edge ⟨source, target, type, rfl⟩
      obtain ⟨_, _, _, _, same⟩ := announces.arrivals number _ (mem_of_mem_repeated member)
      cases same
    refine ⟨_, (tells_commit (announces.arrivals number)).1 recorder, inOrder_of_noRemoval noRemoval,
      fun change member edge => ⟨fun removal => absurd removal (noRemoval change member edge), ?_⟩⟩
    exact announces.stale_of_spent (mem_of_mem_repeated member)
  · have orderly : Network.Orderly recorder session.network (session.step call).network :=
      orderly_step announces.consistent call fun number same => isCommit ⟨number, same⟩
    obtain ⟨told, journal, inOrder, known⟩ := orderly.heard
    refine ⟨told, journal, inOrder.mono nofun, fun change member edge =>
      ⟨(known change member edge).1, fun arrival spent => ?_⟩⟩
    exact absurd spent.1.2 (Nat.not_le.2 ((known change member edge).2 arrival))

/-- **After a call** batches and journals agree with the store as before, apart from the edges that the
call outdates. -/
theorem step (announces : Announces recorder stale session) (call : Call)
    (grows : ∀ edge, stale edge → later edge)
    (outdates : ∀ edge, session.Outdates call edge → later edge) :
    Announces recorder later (session.step call) := by
  obtain ⟨consistent, precedes⟩ := precedes_step announces.consistent call
  obtain ⟨told, journal, inOrder, known⟩ := announces.exists_told call
  refine ⟨consistent, fun number change member => ?_, ?_, ?_⟩
  · rcases mem_batches_step member with held | ⟨edge, source, target, type, rfl, found, -⟩
    · obtain ⟨edge, source, target, type, rfl, there⟩ := announces.held number change held
      refine ⟨edge, source, target, type, rfl, ?_⟩
      rcases there with found | ⟨spent, isStale⟩
      · refine (precedes.edge_or_isSpent announces.consistent consistent found).imp id fun spent => ?_
        exact ⟨spent, outdates edge ⟨number, source, target, type, member, found, spent.2⟩⟩
      · exact .inr ⟨precedes.isSpent spent, grows edge isStale⟩
    · exact ⟨edge, source, target, type, rfl, .inl found⟩
  · rw [journal]
    intro change member edge removal
    rcases List.mem_append.1 member with early | new
    · exact precedes.isSpent (announces.removed change early edge removal)
    · exact (known change new edge).1 removal
  · rw [journal]
    refine (announces.inOrder.mono grows).append (inOrder.mono grows) ?_
    intro earlier early change new edge removal arrival
    exact grows edge ((known change new edge).2 arrival
      (announces.removed earlier early edge removal))

end Announces

/-! ### Sessions -/

theorem Outdated.append (outdated : session.Outdated calls edge) (more : List Call) :
    session.Outdated (calls ++ more) edge := by
  obtain ⟨earlier, call, rest, rfl, outdates⟩ := outdated
  exact ⟨earlier, call, rest ++ more, List.append_assoc earlier (call :: rest) more, outdates⟩

/-- **Batches and journals agree with the store** throughout a session, outdated edges apart. -/
theorem announces_run (recorder : Nat) (events : EventHub) (observers : List Observer)
    (calls : List Call) : Announces recorder ((start events observers).Outdated calls)
      ((start events observers).run calls) := by
  induction calls using List.reverseRecOn with
  | nil =>
    exact ⟨consistent_start events observers, nofun, nofun, .nil⟩
  | append_singleton earlier call hypothesis =>
    rw [run_append]
    refine hypothesis.step call (fun edge outdated => outdated.append [call]) fun edge outdates => ?_
    exact ⟨earlier, call, [], rfl, outdates⟩

/-- A call that creates edges, and commits by itself what it has held back of them. -/
def CommitsAtOnce : Call → Prop
  | .createEdge .. | .generate .. => True
  | _ => False

/-- **Of an edge that is created and told of in one call** it is told while it is there. -/
theorem exists_told_atOnce (consistent : session.network.store.Consistent)
    (atOnce : CommitsAtOnce call) (recorder : Nat) :
    ∃ told, (session.step call).network.journal recorder =
        session.network.journal recorder ++ told ∧
      ∀ {edge source target type}, .edgeAdded edge source target type ∈ told →
        (session.step call).network.store.get? edge = some ⟨edge, type, .edge source target⟩ := by
  cases call with
  | createEdge type source target =>
    exact (Network.logs_carry consistent (.createEdge type source target)).exists_told recorder
  | generate template parameters =>
    exact (Network.logs_carry consistent (.generate template parameters)).exists_told recorder
  | _ => cases atOnce

/-- **What commits tell, and what is heard in all**, after some calls. -/
structure TellsInOrder (session : Session) (calls : List Call) : Prop where
  /-- A commit tells what its batch holds back. -/
  commit : ∀ number,
    (∀ recorder, ((session.run calls).step (.commit number)).network.journal recorder =
      (session.run calls).network.journal recorder ++
        repeated ((session.run calls).network.recorders recorder)
          ((session.run calls).batches number).changes) ∧
    ((session.run calls).step (.commit number)).network.store = (session.run calls).network.store
  /-- That is the creation of edges, which are there as they are told of, or are outdated. -/
  held : ∀ number, ∀ change ∈ ((session.run calls).batches number).changes,
    ∃ edge source target type, change = .edgeAdded edge source target type ∧
      ((session.run calls).network.store.get? edge = some ⟨edge, type, .edge source target⟩ ∨
        (session.run calls).network.store.get? edge = none ∧ session.Outdated calls edge)
  /-- A call that commits at once tells of edges that are there. -/
  atOnce : ∀ call, CommitsAtOnce call → ∀ recorder, ∃ told,
    ((session.run calls).step call).network.journal recorder =
        (session.run calls).network.journal recorder ++ told ∧
      ∀ {edge source target type}, .edgeAdded edge source target type ∈ told →
        ((session.run calls).step call).network.store.get? edge =
          some ⟨edge, type, .edge source target⟩
  /-- A recorder hears of no edge that it was created after it heard that it went, if it is not
  outdated. -/
  inOrder : ∀ recorder,
    InOrder (session.Outdated calls) ((session.run calls).network.journal recorder)

/-- **Outdated edges apart, commits tell of edges that are there, and nothing comes back**, whatever
edges are created into whatever batches, and whatever else is called before these are committed or
rolled back. No observer erases on hearing that an edge was created; on hearing of anything else any
may erase. -/
theorem run_tellsInOrder (events : EventHub) (observers : List Observer) (calls : List Call) :
    (start events observers).TellsInOrder calls := by
  have announces := fun recorder => announces_run recorder events observers calls
  have consistent := (announces 0).consistent
  refine ⟨fun number => tells_commit ((announces 0).arrivals number), fun number change member => ?_,
    fun call => exists_told_atOnce consistent, fun recorder => (announces recorder).inOrder⟩
  obtain ⟨edge, source, target, type, same, there⟩ := (announces 0).held number change member
  exact ⟨edge, source, target, type, same, there.imp id fun ⟨spent, stale⟩ => ⟨spent.2, stale⟩⟩

/-- An edge between two nodes was created into a batch, and erased. -/
def erasedEarly : Session :=
  (start (.new 0 .manual) [.recorder 0]).run [.createNode .constantNode, .createNode .constantNode,
    .createEdgeIn 0 .membership ⟨1⟩ ⟨2⟩, .erase ⟨3⟩]

/-- **A commit tells of an outdated edge, too**, which is not there then, and of which the recorder has
heard that it went. -/
theorem commit_erasedEarly_revives :
    erasedEarly.HoldsBack 0 ⟨3⟩ ⟨1⟩ ⟨2⟩ .membership ∧
      (erasedEarly.step (.commit 0)).network.store.get? ⟨3⟩ = none ∧
      (erasedEarly.step (.commit 0)).network.journal 0 =
        [.edgeRemoved ⟨3⟩ ⟨1⟩ ⟨2⟩ .membership, .erased ⟨3⟩, .edgeAdded ⟨3⟩ ⟨1⟩ ⟨2⟩ .membership] ∧
      ¬ InOrder (fun _ => False) ((erasedEarly.step (.commit 0)).network.journal 0) := by
  have held : (erasedEarly.batches 0).changes = [.edgeAdded ⟨3⟩ ⟨1⟩ ⟨2⟩ .membership] := by cbv
  have holds : erasedEarly.HoldsBack 0 ⟨3⟩ ⟨1⟩ ⟨2⟩ .membership := by
    rw [HoldsBack, held]
    exact List.mem_cons_self
  have gone : (erasedEarly.step (.commit 0)).network.store.get? ⟨3⟩ = none := by cbv
  have journal : (erasedEarly.step (.commit 0)).network.journal 0 =
      [.edgeRemoved ⟨3⟩ ⟨1⟩ ⟨2⟩ .membership, .erased ⟨3⟩, .edgeAdded ⟨3⟩ ⟨1⟩ ⟨2⟩ .membership] := by
    cbv
  refine ⟨holds, gone, journal, ?_⟩
  rw [journal]
  intro inOrder
  have arrival : .edgeAdded ⟨3⟩ ⟨1⟩ ⟨2⟩ .membership ∈
      [.erased ⟨3⟩, Change.edgeAdded ⟨3⟩ ⟨1⟩ ⟨2⟩ .membership] :=
    List.mem_cons_of_mem _ List.mem_cons_self
  exact List.rel_of_pairwise_cons inOrder arrival ⟨3⟩ ⟨_, _, _, rfl⟩ ⟨_, _, _, rfl⟩

end Session

end SemanticNetwork
