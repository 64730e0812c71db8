/-
**Walks over a store that changes.** A walk goes from row to row, and each step reads the store as it
stands then. Between two steps anything may be created and erased. A row may be erased before the
walk has come to it, but nothing else ever takes its place.

* `Walk.visits`: what the steps of a walk show, each in the store that it meets;
* `Walk.Advances`: what one step does with the rows that are still ahead;
* `Walk.Faithful`, `Advances.faithful`: **a walk of which every step advances is faithful**: it shows
  rows that match when they are shown, in order, and all that stay;
* `Walk.Exact`, `visits_replicate`: on a store that does not change, the steps list the rows that
  remain.
-/
import SemanticNetwork.Proofs.Store.Stability

namespace SemanticNetwork

namespace Store

/-- Stores that come one after another. They are consistent, and nothing new comes to an address
that one of them has handed out. -/
structure Lineage (opened : Store) (later : List Store) : Prop where
  start : opened.Consistent
  consistent : ∀ store ∈ later, store.Consistent
  ascending : (opened :: later).Pairwise Precedes

variable {opened store : Store} {later : List Store}

theorem Lineage.of_mem (lineage : Lineage opened later) (member : store ∈ later) :
    store.Consistent ∧ opened.Precedes store :=
  ⟨lineage.consistent store member, List.rel_of_pairwise_cons lineage.ascending member⟩

theorem Lineage.tail (lineage : Lineage opened (store :: later)) : Lineage store later where
  start := lineage.consistent store List.mem_cons_self
  consistent met member := lineage.consistent met (List.mem_cons_of_mem _ member)
  ascending := (List.pairwise_cons.1 lineage.ascending).2

end Store

/-- A walk: its step, which reads the store, and the row at which it has stopped. -/
structure Walk (κ ρ : Type) where
  next : Store → κ → κ
  row? : κ → Option ρ

namespace Walk

variable {κ ρ : Type}

/-- What the steps of a walk show, each in the store that it meets. -/
def visits (walk : Walk κ ρ) (cursor : κ) : List Store → List (Store × Option ρ)
  | [] => []
  | store :: later =>
    let moved := walk.next store cursor
    (store, walk.row? moved) :: walk.visits moved later

/-- The rows among what the steps show. -/
def rowsOf (visits : List (Store × Option ρ)) : List ρ := visits.filterMap Prod.snd

/-- What a walk may be relied on for that was opened on one store and meets others. Some rows match
in a store, and some are not erased there. -/
structure Faithful (matched stands : Store → ρ → Prop) (order : ρ → ρ → Prop) (opened : Store)
    (visits : List (Store × Option ρ)) : Prop where
  /-- A row that is shown matches in the store that the step meets. -/
  current : ∀ {store row}, (store, some row) ∈ visits → matched store row
  /-- The rows come in order. -/
  ordered : (rowsOf visits).Pairwise order
  /-- When a step shows nothing, every row that matched at the start and is not erased was shown. -/
  complete : ∀ {earlier store later}, visits = earlier ++ (store, none) :: later →
    ∀ {row}, matched opened row → stands store row → row ∈ rowsOf earlier

/-- What a walk may be relied on for while the store does not change: its rows are those that match,
in order, each once, and every step shows the next of them. -/
structure Exact (walk : Walk κ ρ) (matched : ρ → Prop) (order : ρ → ρ → Prop) (store : Store)
    (cursor : κ) (rows : List ρ) : Prop where
  mem_iff : ∀ {row}, row ∈ rows ↔ matched row
  ordered : rows.Pairwise order
  nodup : rows.Nodup
  /-- Each step shows the row of its number, if there is one. -/
  steps : ∀ count, (walk.visits cursor (List.replicate count store)).map Prod.snd =
    (List.range count).map fun step => rows[step]?

/-- What one step of a walk does with the rows that are still ahead of it. -/
structure Advances (walk : Walk κ ρ) (invariant : Store → κ → Prop)
    (matched stands : Store → ρ → Prop) (ahead : κ → ρ → Prop) (order : ρ → ρ → Prop) : Prop where
  /-- The invariant outlasts what happens between two steps. -/
  ages : ∀ {before after cursor}, invariant before cursor → before.Precedes after →
    invariant after cursor
  keeps : ∀ {store cursor}, store.Consistent → invariant store cursor →
    invariant store (walk.next store cursor)
  /-- A row that is shown was ahead, and it comes before what is ahead then. -/
  shows : ∀ {store cursor row}, store.Consistent → invariant store cursor →
    walk.row? (walk.next store cursor) = some row → matched store row ∧ ahead cursor row ∧
      ∀ other, ahead (walk.next store cursor) other → order row other
  /-- No row comes to be ahead that matches and was not. -/
  narrows : ∀ {store cursor row}, store.Consistent → invariant store cursor →
    ahead (walk.next store cursor) row → ahead cursor row
  /-- No row that matches is passed over. -/
  settles : ∀ {store cursor row}, store.Consistent → invariant store cursor → ahead cursor row →
    matched store row → walk.row? (walk.next store cursor) = some row ∨
      ahead (walk.next store cursor) row ∧ walk.row? (walk.next store cursor) ≠ none
  /-- A row that matched and is not erased matches in the meantime. -/
  lasts : ∀ {before store after row}, before.Consistent → store.Consistent →
    before.Precedes store → store.Precedes after → matched before row → stands after row →
      matched store row

variable {walk : Walk κ ρ} {invariant : Store → κ → Prop} {matched stands : Store → ρ → Prop}
  {ahead : κ → ρ → Prop} {order : ρ → ρ → Prop} {opened store : Store} {stores : List Store}
  {cursor : κ} {row : ρ}

theorem mem_of_mem_visits {shown : Option ρ} (member : (store, shown) ∈ walk.visits cursor stores) :
    store ∈ stores := by
  induction stores generalizing cursor with
  | nil => cases member
  | cons met later hypothesis =>
    rcases List.mem_cons.1 member with here | member
    · obtain ⟨rfl, -⟩ := Prod.mk.inj here
      exact List.mem_cons_self
    · exact List.mem_cons_of_mem _ (hypothesis member)

namespace Advances

/-- A row that is shown matches, and it was ahead from the start. -/
theorem of_mem_visits (advances : walk.Advances invariant matched stands ahead order)
    (lineage : opened.Lineage stores) (holds : invariant opened cursor)
    (member : (store, some row) ∈ walk.visits cursor stores) :
    matched store row ∧ ahead cursor row := by
  induction stores generalizing opened cursor with
  | nil => cases member
  | cons met later hypothesis =>
    obtain ⟨consistent, precedes⟩ := lineage.of_mem List.mem_cons_self
    have holds := advances.ages holds precedes
    rcases List.mem_cons.1 member with here | member
    · obtain ⟨rfl, shown⟩ := Prod.mk.inj here
      obtain ⟨matching, ahead, -⟩ := advances.shows consistent holds shown.symm
      exact ⟨matching, ahead⟩
    · obtain ⟨matching, ahead⟩ := hypothesis lineage.tail (advances.keeps consistent holds) member
      exact ⟨matching, advances.narrows consistent holds ahead⟩

theorem ordered_visits (advances : walk.Advances invariant matched stands ahead order)
    (lineage : opened.Lineage stores) (holds : invariant opened cursor) :
    (rowsOf (walk.visits cursor stores)).Pairwise order := by
  induction stores generalizing opened cursor with
  | nil => exact .nil
  | cons met later hypothesis =>
    obtain ⟨consistent, precedes⟩ := lineage.of_mem List.mem_cons_self
    have holds := advances.ages holds precedes
    have moved := advances.keeps consistent holds
    have rest := hypothesis lineage.tail moved
    cases shown : walk.row? (walk.next met cursor) with
    | none => simpa [visits, rowsOf, shown] using rest
    | some row =>
      obtain ⟨-, -, before⟩ := advances.shows consistent holds shown
      have first : ∀ other ∈ rowsOf (walk.visits (walk.next met cursor) later), order row other := by
        intro other member
        obtain ⟨⟨store, _⟩, member, rfl⟩ := List.mem_filterMap.1 member
        exact before other (advances.of_mem_visits lineage.tail moved member).2
      simpa [visits, rowsOf, shown] using And.intro first rest

/-- A row that is ahead is shown before the walk comes to its end, unless it is erased. -/
theorem mem_rowsOf (advances : walk.Advances invariant matched stands ahead order)
    (lineage : opened.Lineage stores) (holds : invariant opened cursor)
    {earlier later : List (Store × Option ρ)}
    (split : walk.visits cursor stores = earlier ++ (store, none) :: later)
    (isAhead : ahead cursor row) (matching : matched opened row) (remains : stands store row) :
    row ∈ rowsOf earlier := by
  induction stores generalizing opened cursor earlier with
  | nil => cases earlier <;> cases split
  | cons met others hypothesis =>
    obtain ⟨consistent, precedes⟩ := lineage.of_mem List.mem_cons_self
    have holds := advances.ages holds precedes
    cases earlier with
    | nil =>
      obtain ⟨rfl, exhausted⟩ := Prod.mk.inj (List.cons.inj split).1
      have matching := advances.lasts lineage.start consistent precedes (.refl met) matching remains
      rcases advances.settles consistent holds isAhead matching with shown | ⟨-, unfinished⟩
      · rw [exhausted] at shown
        cases shown
      · exact absurd exhausted unfinished
    | cons visit earlier =>
      obtain ⟨rfl, rest⟩ := List.cons.inj split
      have member : store ∈ others := by
        apply mem_of_mem_visits
        rw [rest]
        exact List.mem_append_right _ List.mem_cons_self
      have matching := advances.lasts lineage.start consistent precedes
        (lineage.tail.of_mem member).2 matching remains
      rcases advances.settles consistent holds isAhead matching with shown | ⟨isAhead, -⟩
      · exact List.mem_filterMap.2 ⟨_, List.mem_cons_self, shown⟩
      · have later := hypothesis lineage.tail (advances.keeps consistent holds) rest isAhead matching
        exact ((List.sublist_cons_self _ _).filterMap _).subset later

/-- **A walk of which every step advances is faithful**, if it starts before all rows that match. -/
theorem faithful (advances : walk.Advances invariant matched stands ahead order)
    (lineage : opened.Lineage stores) (holds : invariant opened cursor)
    (starts : ∀ row, matched opened row → ahead cursor row) :
    Faithful matched stands order opened (walk.visits cursor stores) where
  current member := (advances.of_mem_visits lineage holds member).1
  ordered := advances.ordered_visits lineage holds
  complete split _ matching remains :=
    advances.mem_rowsOf lineage holds split (starts _ matching) matching remains

end Advances

/-! ### A store that does not change -/

/-- **On a store that does not change, the steps list the rows that remain**, one at each step, and
then nothing. -/
theorem visits_replicate {rest : κ → List ρ}
    (splits : ∀ cursor, rest cursor =
      (walk.row? (walk.next store cursor)).toList ++ rest (walk.next store cursor))
    (ends : ∀ cursor, walk.row? (walk.next store cursor) = none → rest (walk.next store cursor) = [])
    (cursor : κ) (count : Nat) :
    (walk.visits cursor (List.replicate count store)).map Prod.snd =
      (List.range count).map fun step => (rest cursor)[step]? := by
  induction count generalizing cursor with
  | zero => rfl
  | succ count hypothesis =>
    have later := hypothesis (walk.next store cursor)
    rw [List.replicate_succ, visits, List.map_cons, later, List.range_succ_eq_map, List.map_cons,
      List.map_map, splits cursor]
    cases shown : walk.row? (walk.next store cursor) with
    | none =>
      rw [ends cursor shown]
      rfl
    | some row => rfl

end Walk

end SemanticNetwork
