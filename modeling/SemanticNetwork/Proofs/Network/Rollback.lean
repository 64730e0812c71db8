/-
**Rollbacks.** A rollback erases what was created, the last first, and all that depends on it. Several
erasures one after another are one, so it takes out the least closed set with those of the addresses
that denote something, in whatever order and however often they are listed. The observers hear of
what else went with it and of nothing that was listed. What the batch held back is never told.

* `Store.RollsBack`, `Store.rollsBack_rollback`: **what a rollback does to a store**;
* `Network.rollback_of_unmoved`: **what is heard of it**, where no observer changes the store;
* `Network.Hides`: of some edges it is not told in a journal that they were created, with
  `Network.lasting_hides`, `Network.hides_rollback`: **nor is it told later**, whatever is done to the
  network.
-/
import SemanticNetwork.Proofs.Network.Batches
import SemanticNetwork.Proofs.Network.Erasure

namespace SemanticNetwork

open Change

/-! ### The store -/

namespace Store

variable {store after : Store}

/-- Where reports are left out by their subjects, departures are. -/
theorem filter_departures (departed : List Element) (test : Address → Bool) :
    (departed.flatMap Element.departure).filter (fun change => test change.subject) =
      (departed.filter fun element => test element.address).flatMap Element.departure := by
  induction departed with
  | nil => rfl
  | cons element rest hypothesis =>
    have about : ∀ change ∈ element.departure, change.subject = element.address :=
      fun _ => subject_of_mem_departure
    rw [List.flatMap_cons, List.filter_append, hypothesis, List.filter_cons]
    by_cases passes : test element.address = true
    · rw [if_pos passes, List.flatMap_cons]
      refine congrArg (· ++ _) (List.filter_eq_self.2 fun change member => ?_)
      rw [about change member, passes]
    · rw [if_neg passes]
      refine List.append_left_eq_self.2 (List.filter_eq_nil_iff.2 fun change member => ?_)
      rw [about change member]
      exact passes

/-- **What a rollback is to do.** The least closed set with those of the addresses goes that denote
something, and nothing else changes. Reported is the departure of every element that goes and is not
listed, once each, and nothing that is listed. -/
structure RollsBack (store : Store) (created : List Address) (after : Store)
    (changes : List Change) : Prop where
  consistent : after.Consistent
  allocated : after.allocated = store.allocated
  least : IsLeast {set | (∀ place ∈ created, store.contains place = true → place ∈ set) ∧
    store.IsClosed set} (store.removed after)
  spared : ∀ other ∉ store.removed after, after.get? other = store.get? other
  reported : ∃ departed, store.Departed after departed ∧ changes =
    (departed.filter fun element => !created.contains element.address).flatMap Element.departure
  unlisted : ∀ change ∈ changes, change.subject ∉ created

/-- **A rollback takes out what was created and all that depends on it**, and nothing else. -/
theorem rollsBack_rollback (consistent : store.Consistent) (created : List Address) :
    store.RollsBack created (store.rollback created).1 (store.rollback created).2 := by
  have waits := consistent.anyWaiting created.reverse
  have shrinks := shrinks_cascade waits
  obtain ⟨departed, isDeparted, reported⟩ := exists_departed waits
  simp only [rollback, consistent.eraseAll_eq_cascade]
  exact {
    consistent := consistent_cascade waits
    allocated := shrinks.allocated
    least := by simpa only [List.mem_reverse] using isLeast_removed_cascade waits
    spared := fun _ stays => get?_of_not_removed shrinks.kept stays
    reported := ⟨departed, isDeparted, by
      rw [reported, filter_departures departed fun address => !created.contains address]⟩
    unlisted := fun change member => by simpa using (List.mem_filter.1 member).2 }

end Store

/-! ### The observers -/

namespace Network

variable {recorder : Nat} {network after : Network} {start told : List Change}
  {hidden other : Address → Prop}

/-- **Of a rollback that moves nobody** every observer hears what is reported, once and in order, and
nothing else happens. -/
theorem rollback_of_unmoved (created : List Address)
    (unmoved : ∀ change ∈ (network.store.rollback created).2,
      Unmoved { network with store := (network.store.rollback created).1 } change) :
    (network.rollback created).store = (network.store.rollback created).1 ∧
      network.rollback created = { network with store := (network.store.rollback created).1 }.hear
        (network.audience (network.store.rollback created).2) ∧
      ∀ recorder, (network.rollback created).journal recorder = network.journal recorder ++
        repeated (network.recorders recorder) (network.store.rollback created).2 := by
  have heard := publish_of_unmoved unmoved
  exact ⟨heard.2.store, heard.1, journal_publish_of_unmoved unmoved⟩

/-! ### What is never told -/

/-- **Of hidden edges it is not told in a journal that they were created**, since it was started. Of what
was told, the edges were created, and so were the hidden ones. -/
structure Hides (recorder : Nat) (start : List Change) (hidden : Address → Prop)
    (network : Network) : Prop where
  consistent : network.store.Consistent
  older : ∀ edge, hidden edge → edge.value ≤ network.store.allocated
  heard : ∃ heard, network.journal recorder = start ++ heard ∧ ∀ change ∈ heard, ∀ edge,
    IsArrivalOf edge change → edge.value ≤ network.store.allocated ∧ ¬ hidden edge

namespace Hides

theorem mono (hides : Hides recorder start hidden network) (fewer : ∀ edge, other edge → hidden edge) :
    Hides recorder start other network := by
  obtain ⟨consistent, older, heard, journal, known⟩ := hides
  exact ⟨consistent, fun edge isHidden => older edge (fewer edge isHidden), heard, journal,
    fun change member edge arrival => (known change member edge arrival).imp id
      fun shown isHidden => shown (fewer edge isHidden)⟩

/-- While nothing is told, new edges may be hidden. -/
theorem of_silent (hides : Hides recorder start hidden network) (consistent : after.store.Consistent)
    (precedes : network.store.Precedes after.store)
    (journal : after.journal recorder = network.journal recorder)
    (more : ∀ edge, other edge → hidden edge ∨
      network.store.allocated < edge.value ∧ edge.value ≤ after.store.allocated) :
    Hides recorder start other after := by
  obtain ⟨-, older, heard, journal', known⟩ := hides
  refine ⟨consistent, fun edge isHidden => ?_, heard, journal.trans journal',
    fun change member edge arrival => ?_⟩
  · rcases more edge isHidden with old | new
    · exact Nat.le_trans (older edge old) precedes.allocated
    · exact new.2
  · obtain ⟨created, shown⟩ := known change member edge arrival
    refine ⟨Nat.le_trans created precedes.allocated, fun isHidden => ?_⟩
    rcases more edge isHidden with old | new
    · exact shown old
    · exact absurd created (Nat.not_le.2 new.1)

/-- What is told of new edges is told of none that is hidden. -/
theorem of_news (hides : Hides recorder start hidden network) (consistent : after.store.Consistent)
    (precedes : network.store.Precedes after.store)
    (journal : after.journal recorder = network.journal recorder ++ told)
    (news : ∀ address, ∀ change ∈ storyOf address told,
      change ∈ network.store.news after.store address) : Hides recorder start hidden after := by
  obtain ⟨-, older, heard, journal', known⟩ := hides
  refine ⟨consistent, fun edge isHidden => Nat.le_trans (older edge isHidden) precedes.allocated,
    heard ++ told, by rw [journal, journal', List.append_assoc], fun change member edge arrival => ?_⟩
  rcases List.mem_append.1 member with early | new
  · obtain ⟨created, shown⟩ := known change early edge arrival
    exact ⟨Nat.le_trans created precedes.allocated, shown⟩
  · have isNew := news edge change (arrival.mem_storyOf new)
    obtain ⟨source, target, type, rfl⟩ := arrival
    obtain ⟨missing, found⟩ := Store.came_of_mem_news isNew
    refine ⟨(consistent.numbered found).2, fun isHidden => ?_⟩
    exact Nat.not_lt.2 (older edge isHidden) (precedes.newer_of_came missing found)

/-- Some of the hidden edges may be told of, and are hidden no more. -/
theorem of_told (hides : Hides recorder start hidden network) (store : after.store = network.store)
    (journal : after.journal recorder = network.journal recorder ++ told)
    (fewer : ∀ edge, other edge → hidden edge)
    (shown : ∀ change ∈ told, ∀ edge, IsArrivalOf edge change → hidden edge ∧ ¬ other edge) :
    Hides recorder start other after := by
  obtain ⟨consistent, older, heard, journal', known⟩ := hides.mono fewer
  refine ⟨store ▸ consistent, store ▸ older, heard ++ told,
    by rw [journal, journal', List.append_assoc], fun change member edge arrival => ?_⟩
  rcases List.mem_append.1 member with early | new
  · exact store ▸ known change early edge arrival
  · obtain ⟨wasHidden, isShown⟩ := shown change new edge arrival
    exact ⟨store ▸ hides.older edge wasHidden, isShown⟩

theorem of_logs {wrote : List Address} (hides : Hides recorder start hidden network)
    (logs : network.Logs wrote after) : Hides recorder start hidden after := by
  obtain ⟨told, journal, story, -⟩ := logs.heard recorder
  refine hides.of_news logs.consistent logs.precedes journal fun address change member => ?_
  exact mem_of_mem_repeated ((story address).mem_iff.1 member)

end Hides

/-- **Hidden edges stay hidden**, whatever operation follows on whatever other. -/
theorem lasting_hides (recorder : Nat) (start : List Change) (hidden : Address → Prop) :
    Lasting (Hides recorder start hidden) :=
  lasting_of_logs Hides.consistent Hides.of_logs fun hides consistent precedes journals =>
    hides.of_silent consistent precedes (by rw [journal, journals]; rfl) fun _ => .inl

/-- Naming is made of such operations. -/
theorem durable_hides (recorder : Nat) (start : List Change) (hidden : Address → Prop) :
    Durable (Hides recorder start hidden) where
  createNode := (lasting_hides recorder start hidden).createNode
  createTypedLink := (lasting_hides recorder start hidden).createTypedLink
  createEdge := (lasting_hides recorder start hidden).createEdge
  setPayload := (lasting_hides recorder start hidden).setPayload
  erase := (lasting_hides recorder start hidden).erase
  tracked _ hides := ⟨hides.consistent, hides.older, hides.heard⟩

/-- A rollback tells of no new edge. -/
theorem hides_rollback (hides : Hides recorder start hidden network) (created : List Address) :
    Hides recorder start hidden (network.rollback created) := by
  obtain ⟨consistent, told, journal, news⟩ :=
    exists_news_rollback hides.consistent created recorder
  exact hides.of_news consistent (precedes_rollback hides.consistent created) journal news

end Network

end SemanticNetwork
