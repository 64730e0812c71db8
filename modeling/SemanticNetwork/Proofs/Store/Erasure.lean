/-
**What an erasure does.** An erasure starts from a consistent store and ends in one. In between it
only takes elements out: those that wait, and edges that are younger than something that waits. So
an element that is as old as a bound outlives an erasure of elements beyond the bound.

* `Shrinks`: fewer elements, none of them another, and all changes are about elements that are gone;
* `consistent_cascade`, `shrinks_cascade`, `get?_cascade_of_waiting`, `get?_cascade_of_le`: an
  erasure step by step;
* `Consistent.erasedAny_erase_iff`: **its answer says whether there was an element**;
* `Consistent.eraseAll_eq_cascade`: **several erasures one after another are one**, so all of this
  holds of a rollback, too.
-/
import SemanticNetwork.Proofs.Store.Consistency

namespace SemanticNetwork.Store

/-- Some elements are gone. Those that remain are as they were, and every change is about one that
was there and is gone. -/
structure Shrinks (before after : Store) (changes : List Change) : Prop where
  allocated : after.allocated = before.allocated
  kept : ∀ {address element}, after.get? address = some element →
    before.get? address = some element
  reported : ∀ change ∈ changes, before.contains change.subject = true ∧
    after.get? change.subject = none

variable {store : Store} {address : Address} {element : Element} {waiting : List Address}

theorem Shrinks.get?_eq_none {before after : Store} {changes : List Change}
    (shrinks : before.Shrinks after changes) (missing : before.get? address = none) :
    after.get? address = none := by
  cases found : after.get? address with
  | none => rfl
  | some element => rw [shrinks.kept found] at missing; cases missing

theorem Shrinks.refl (store : Store) : store.Shrinks store [] where
  allocated := rfl
  kept found := found
  reported _ member := absurd member List.not_mem_nil

theorem Shrinks.trans {first second third : Store} {changes changes' : List Change}
    (left : first.Shrinks second changes) (right : second.Shrinks third changes') :
    first.Shrinks third (changes ++ changes') where
  allocated := right.allocated.trans left.allocated
  kept found := left.kept (right.kept found)
  reported change member := by
    rcases List.mem_append.1 member with inLeft | inRight
    · obtain ⟨there, gone⟩ := left.reported change inLeft
      exact ⟨there, right.get?_eq_none gone⟩
    · obtain ⟨there, gone⟩ := right.reported change inRight
      obtain ⟨element, found⟩ := contains_iff.1 there
      exact ⟨contains_of_get? (left.kept found), gone⟩

theorem subject_of_mem_departure {change : Change} (member : change ∈ element.departure) :
    change.subject = element.address := by
  unfold Element.departure at member
  split at member
  · rcases List.mem_cons.1 member with rfl | member
    · rfl
    · obtain rfl := List.mem_singleton.1 member
      rfl
  · obtain rfl := List.mem_singleton.1 member
    rfl

/-- A step of an erasure takes one element out and reports it. -/
theorem ConsistentBut.shrinks_remove (consistent : store.ConsistentBut waiting)
    (found : store.get? address = some element) :
    store.Shrinks ((store.strike address element).sever address) element.departure where
  allocated := allocated_strike store address element
  kept found' := by
    rw [get?_sever, get?_strike] at found'
    split at found'
    · cases found'
    · exact found'
  reported change member := by
    have subject : change.subject = address := by
      rw [subject_of_mem_departure member, consistent.keyed found]
    rw [subject]
    exact ⟨contains_of_get? found, by rw [get?_sever, get?_strike, if_pos rfl]⟩

/-! ### An erasure -/

/-- **An erasure restores consistency.** -/
theorem consistent_cascade (consistent : store.ConsistentBut waiting) :
    (store.cascade waiting).store.Consistent := by
  -- The induction follows the steps of the erasure; what waits shrinks to nothing at its end.
  fun_induction cascade store waiting with
  | case1 store => exact consistent
  | case2 store address waiting missing hypothesis => exact hypothesis (consistent.pass missing)
  | case3 store address waiting element found struck rest hypothesis =>
    exact hypothesis (consistent.remove found)

/-- **An erasure only takes elements out**, and reports only such elements. -/
theorem shrinks_cascade (consistent : store.ConsistentBut waiting) :
    store.Shrinks (store.cascade waiting).store (store.cascade waiting).changes := by
  fun_induction cascade store waiting with
  | case1 store => exact .refl store
  | case2 store address waiting missing hypothesis => exact hypothesis (consistent.pass missing)
  | case3 store address waiting element found struck rest hypothesis =>
    exact (consistent.shrinks_remove found).trans (hypothesis (consistent.remove found))

/-- **What waits to be erased is gone in the end.** -/
theorem get?_cascade_of_waiting (consistent : store.ConsistentBut waiting)
    (member : address ∈ waiting) : (store.cascade waiting).store.get? address = none := by
  fun_induction cascade store waiting with
  | case1 store => exact absurd member List.not_mem_nil
  | case2 store head waiting missing hypothesis =>
    rcases List.mem_cons.1 member with rfl | member
    · exact (shrinks_cascade (consistent.pass missing)).get?_eq_none missing
    · exact hypothesis (consistent.pass missing) member
  | case3 store head waiting element found struck rest hypothesis =>
    have shrinks := shrinks_cascade (consistent.remove found)
    rcases List.mem_cons.1 member with rfl | member
    · exact shrinks.get?_eq_none (by rw [get?_sever, get?_strike, if_pos rfl])
    · exact hypothesis (consistent.remove found) (List.mem_append_right _ member)

/-- **What is older than all that waits is spared.** -/
theorem get?_cascade_of_le {bound : Nat} (consistent : store.ConsistentBut waiting)
    (younger : ∀ place ∈ waiting, bound < place.value) (older : address.value ≤ bound) :
    (store.cascade waiting).store.get? address = store.get? address := by
  fun_induction cascade store waiting with
  | case1 store => rfl
  | case2 store head waiting missing hypothesis =>
    exact hypothesis (consistent.pass missing) fun place member =>
      younger place (List.mem_cons_of_mem _ member)
  | case3 store head waiting element found struck rest hypothesis =>
    have headYounger : bound < head.value := younger head List.mem_cons_self
    have restYounger : ∀ place ∈ struck.edgesAt head ++ waiting, bound < place.value := by
      intro place member
      rcases List.mem_append.1 member with atHead | waits
      · exact Nat.lt_trans headYounger (consistent.lt_of_mem_edgesAt found atHead)
      · exact younger place (List.mem_cons_of_mem _ waits)
    have apart : address ≠ head := by
      rintro rfl
      exact absurd older (Nat.not_le.2 headYounger)
    show rest.store.get? address = store.get? address
    rw [hypothesis (consistent.remove found) restYounger, get?_sever, get?_strike, if_neg apart]

/-- **An erasure has taken something out** just when one of those that waited was there. -/
theorem erasedAny_cascade_iff (store : Store) (waiting : List Address) :
    (store.cascade waiting).erasedAny = true ↔
      ∃ place ∈ waiting, store.contains place = true := by
  fun_induction cascade store waiting with
  | case1 store => simp [Erasure.none]
  | case2 store head waiting missing hypothesis =>
    rw [hypothesis]
    constructor
    · rintro ⟨place, waits, there⟩
      exact ⟨place, List.mem_cons_of_mem _ waits, there⟩
    · rintro ⟨place, waits, there⟩
      rcases List.mem_cons.1 waits with rfl | waits
      · exact absurd there (not_contains_iff.2 missing)
      · exact ⟨place, waits, there⟩
  | case3 store head waiting element found struck rest hypothesis =>
    exact ⟨fun _ => ⟨head, List.mem_cons_self, contains_of_get? found⟩, fun _ => rfl⟩

/-! ### One erasure and several -/

theorem cascade_of_missing (missing : store.get? address = none) (waiting : List Address) :
    store.cascade (address :: waiting) = store.cascade waiting := by
  rw [cascade]
  split
  · rfl
  · rename_i found
    rw [missing] at found
    cases found

theorem cascade_of_found (found : store.get? address = some element) (waiting : List Address) :
    store.cascade (address :: waiting) =
      let rest := ((store.strike address element).sever address).cascade
        ((store.strike address element).edgesAt address ++ waiting)
      ⟨rest.store, element.departure ++ rest.changes, true⟩ := by
  rw [cascade]
  split
  · rename_i missing
    rw [missing] at found
    cases found
  · rename_i other found'
    cases found.symm.trans found'
    rfl

/-- What waits first is erased first. -/
theorem cascade_append (store : Store) (first second : List Address) :
    store.cascade (first ++ second) =
      let left := store.cascade first
      let right := left.store.cascade second
      ⟨right.store, left.changes ++ right.changes, left.erasedAny || right.erasedAny⟩ := by
  fun_induction cascade store first with
  | case1 store => rfl
  | case2 store address waiting missing hypothesis =>
    rw [List.cons_append, cascade_of_missing missing]
    exact hypothesis
  | case3 store address waiting element found struck rest hypothesis =>
    rw [List.cons_append, cascade_of_found found, ← List.append_assoc, hypothesis]
    simp only [List.append_assoc, Bool.true_or, rest, struck]

/-- In a consistent store nothing is at the reserved address, so that an erasure need not ask. -/
theorem Consistent.erase_eq_cascade (consistent : store.Consistent) (address : Address) :
    store.erase address = store.cascade [address] := by
  rw [erase]
  split
  · rfl
  · rename_i reserved
    have missing : store.get? address = none :=
      not_contains_iff.1 fun there => reserved (consistent.isValid_of_contains there)
    rw [cascade_of_missing missing, cascade]

/-- **The answer of an erasure** says whether there was an element. -/
theorem Consistent.erasedAny_erase_iff (consistent : store.Consistent) (address : Address) :
    (store.erase address).erasedAny = true ↔ store.contains address = true := by
  rw [consistent.erase_eq_cascade, erasedAny_cascade_iff]
  simp only [List.mem_singleton, exists_eq_left]

theorem consistent_erase (consistent : store.Consistent) (address : Address) :
    (store.erase address).store.Consistent := by
  rw [consistent.erase_eq_cascade]
  exact consistent_cascade (consistent.anyWaiting _)

theorem shrinks_erase (consistent : store.Consistent) (address : Address) :
    store.Shrinks (store.erase address).store (store.erase address).changes := by
  rw [consistent.erase_eq_cascade]
  exact shrinks_cascade (consistent.anyWaiting _)

/-- What is erased is gone. -/
theorem get?_erase_self (consistent : store.Consistent) (address : Address) :
    (store.erase address).store.get? address = none := by
  rw [consistent.erase_eq_cascade]
  exact get?_cascade_of_waiting (consistent.anyWaiting _) List.mem_cons_self

/-- **Several erasures one after another are one erasure of all.** -/
theorem Consistent.eraseAll_eq_cascade (consistent : store.Consistent)
    (addresses : List Address) :
    store.eraseAll addresses =
      ((store.cascade addresses).store, (store.cascade addresses).changes) := by
  induction addresses generalizing store with
  | nil => rw [eraseAll, cascade, Erasure.none]
  | cons address rest hypothesis =>
    have parts := cascade_append store [address] rest
    rw [List.singleton_append, ← consistent.erase_eq_cascade] at parts
    rw [parts, eraseAll, hypothesis (consistent_erase consistent address)]

theorem consistent_eraseAll (consistent : store.Consistent) (addresses : List Address) :
    (store.eraseAll addresses).1.Consistent := by
  rw [consistent.eraseAll_eq_cascade]
  exact consistent_cascade (consistent.anyWaiting _)

theorem shrinks_eraseAll (consistent : store.Consistent) (addresses : List Address) :
    store.Shrinks (store.eraseAll addresses).1 (store.eraseAll addresses).2 := by
  rw [consistent.eraseAll_eq_cascade]
  exact shrinks_cascade (consistent.anyWaiting _)

end SemanticNetwork.Store
