/-
**What every operation on a store keeps.** A property of stores is stable if each operation keeps
it, whether it succeeds or is refused. Consistency is stable, and so is what has become of an earlier
store: addresses are handed out in ascending order, and what was handed out is never handed out
again, whatever became of it.

* `Stable`: what there is to show of each operation;
* `stable_consistent`: consistency is stable;
* `Precedes`: nothing new has come to an old address;
* `stable_precedes`: **no operation hands out an address a second time**;
* `Stable.of_precedes`: so what later stores have with earlier ones is stable;
* `Intact`: edges lead to older elements that exist, so no edge depends on itself;
* `Consistent.intact`: **a consistent store is intact.**
-/
import Mathlib.Logic.Relation
import SemanticNetwork.Proofs.Template.Growth

namespace SemanticNetwork.Store

/-- **A property of stores that every operation keeps**, whether it succeeds or is refused. -/
structure Stable (invariant : Store → Prop) : Prop where
  createNode : ∀ type, Keeps invariant (createNode type)
  createTypedLink : ∀ type, Keeps invariant (createTypedLink type)
  createEdge : ∀ type source target, Keeps invariant (createEdge type source target)
  setPayload : ∀ link payload, Keeps invariant (setPayload link payload)
  erase : ∀ {store} address, invariant store → invariant (store.erase address).store
  generate : ∀ {store} (template : Template) parameters, invariant store →
    invariant (template.generate store parameters).store

/-- **Consistency is stable.** -/
theorem stable_consistent : Stable Consistent where
  createNode := keeps_createNode
  createTypedLink := keeps_createTypedLink
  createEdge := keeps_createEdge
  setPayload := keeps_setPayload
  erase address consistent := consistent_erase consistent address
  generate template parameters consistent :=
    Template.consistent_generate consistent template parameters

/-- What does not depend on the store is stable. -/
theorem stable_const (holds : Prop) : Stable fun _ => holds where
  createNode _ := ⟨fun here _ => here, fun here _ => here⟩
  createTypedLink _ := ⟨fun here _ => here, fun here _ => here⟩
  createEdge _ _ _ := ⟨fun here _ => here, fun here _ => here⟩
  setPayload _ _ := ⟨fun here _ => here, fun here _ => here⟩
  erase _ here := here
  generate _ _ here := here

theorem Stable.eraseAll {invariant : Store → Prop} {store : Store} (stable : Stable invariant)
    (holds : invariant store) (addresses : List Address) :
    invariant (store.eraseAll addresses).1 := by
  induction addresses generalizing store with
  | nil => exact holds
  | cons address rest hypothesis => exact hypothesis (stable.erase address holds)

/-! ### Addresses that were handed out -/

/-- An address was handed out, whether or not there is still an element at it. -/
def HandedOut (store : Store) (address : Address) : Prop :=
  0 < address.value ∧ address.value ≤ store.allocated

/-- **Nothing new has come to an old address.** Addresses that were handed out before count as
handed out, and where there is an element at one of them, there was one before, of the same type and
between the same ends. -/
structure Precedes (before after : Store) : Prop where
  allocated : before.allocated ≤ after.allocated
  old : ∀ {address element}, after.get? address = some element →
    address.value ≤ before.allocated → ∃ former, before.get? address = some former ∧
      former.type = element.type ∧ former.ends? = element.ends?

variable {before after store : Store} {address : Address} {element : Element}

theorem Precedes.refl (store : Store) : store.Precedes store where
  allocated := Nat.le_refl _
  old found _ := ⟨_, found, rfl, rfl⟩

theorem Precedes.trans {third : Store} (first : before.Precedes after)
    (second : after.Precedes third) : before.Precedes third where
  allocated := Nat.le_trans first.allocated second.allocated
  old found older := by
    obtain ⟨middle, found, type, ends⟩ := second.old found (Nat.le_trans older first.allocated)
    obtain ⟨former, found, type', ends'⟩ := first.old found older
    exact ⟨former, found, type'.trans type, ends'.trans ends⟩

/-- An address that was handed out is not handed out again. -/
theorem Precedes.handedOut (precedes : before.Precedes after) (handedOut : before.HandedOut address) :
    after.HandedOut address ∧ address ≠ after.nextAddress := by
  obtain ⟨positive, older⟩ := handedOut
  have older : address.value ≤ after.allocated := Nat.le_trans older precedes.allocated
  refine ⟨⟨positive, older⟩, fun same => ?_⟩
  rw [same] at older
  exact Nat.not_succ_le_self _ older

/-- An element that is gone never comes back, and no other takes its place. -/
theorem Precedes.get?_eq_none (precedes : before.Precedes after)
    (handedOut : before.HandedOut address) (gone : before.get? address = none) :
    after.get? address = none := by
  cases found : after.get? address with
  | none => rfl
  | some element =>
    obtain ⟨former, there, -⟩ := precedes.old found handedOut.2
    rw [gone] at there
    cases there

/-- What was handed out and is there was there before, with the same type and the same ends. -/
theorem Precedes.kept (precedes : before.Precedes after) (handedOut : before.HandedOut address)
    (there : after.contains address = true) : before.contains address = true ∧
      after.type? address = before.type? address ∧ after.ends? address = before.ends? address := by
  obtain ⟨element, found⟩ := contains_iff.1 there
  obtain ⟨former, found', type, ends⟩ := precedes.old found handedOut.2
  refine ⟨contains_of_get? found', ?_, ?_⟩
  · simp only [type?, found, found', Option.map_some, type]
  · simp only [ends?, found, found', Option.bind_some, ends]

theorem Consistent.handedOut (consistent : store.Consistent)
    (there : store.contains address = true) : store.HandedOut address := by
  obtain ⟨element, found⟩ := contains_iff.1 there
  exact consistent.numbered found

/-- What was there and is still there was there all the time. -/
theorem Precedes.contains_between (precedes : before.Precedes store)
    (precedes' : store.Precedes after) (consistent : before.Consistent)
    (here : before.contains address = true) (there : after.contains address = true) :
    store.contains address = true := by
  have handedOut := (precedes.handedOut (consistent.handedOut here)).1
  exact (precedes'.kept handedOut there).1

theorem Adds.precedes (adds : before.Adds element after) : before.Precedes after where
  allocated := by
    rw [adds.allocated]
    exact Nat.le_succ _
  old {address other} found older := by
    have apart : address ≠ element.address := by
      rintro rfl
      rw [adds.address] at older
      exact Nat.not_succ_le_self _ older
    rw [adds.get?_eq, if_neg apart] at found
    exact ⟨other, found, rfl, rfl⟩

theorem Spends.precedes (spends : before.Spends after) : before.Precedes after := by
  rcases spends with rfl | rfl
  · exact .refl _
  · exact ⟨Nat.le_succ _, fun found _ => ⟨_, found, rfl, rfl⟩⟩

theorem Shrinks.precedes {changes : List Change} (shrinks : before.Shrinks after changes) :
    before.Precedes after where
  allocated := Nat.le_of_eq shrinks.allocated.symm
  old found _ := ⟨_, shrinks.kept found, rfl, rfl⟩

/-- A link that is written stays a link of its type. -/
theorem precedes_hold {payload : Payload} (found : store.get? address = some element)
    (isLink : element.isLink = true) : store.Precedes (store.hold address element payload) where
  allocated := Nat.le_of_eq (hold_untouched store address element payload).1.symm
  old {place other} there _ := by
    rcases of_get?_hold there with ⟨rfl, rfl⟩ | there
    · refine ⟨element, found, rfl, ?_⟩
      obtain ⟨_, _, _ | _ | _⟩ := element
      · rfl
      · cases isLink
      · rfl
    · exact ⟨other, there, rfl, rfl⟩

theorem precedes_generate (consistent : store.Consistent) (template : Template)
    (parameters : Assignment) : store.Precedes (template.generate store parameters).store := by
  cases outcome : (template.generate store parameters).outcome with
  | error error =>
    obtain ⟨-, allocated, more, restored⟩ :=
      Template.generate_error_restores consistent outcome
    rw [restored]
    exact ⟨more, fun found _ => ⟨_, found, rfl, rfl⟩⟩
  | ok made =>
    unfold Template.generate at outcome ⊢
    split at outcome
    · rename_i valuation prepared
      unfold Template.generateFrom at outcome ⊢
      split at outcome
      · have grows := (Template.keeps_generateTriples (Template.stepwise_grows store) template).ok
          (Template.grows_start consistent valuation) ‹_›
        exact ⟨grows.allocated, fun found older =>
          ⟨_, (grows.spared older).symm.trans found, rfl, rfl⟩⟩
      · cases outcome
    · cases outcome

theorem Creates.keeps_precedes {action : Action Address} (creates : Creates action)
    (before : Store) :
    Keeps (fun store => store.Consistent ∧ before.Precedes store) action where
  ok := by
    rintro store address after ⟨consistent, precedes⟩ ran
    obtain ⟨element, -, adds⟩ := creates.adds ran
    exact ⟨creates.keeps.ok consistent ran, precedes.trans adds.precedes⟩
  error := by
    rintro store error after ⟨consistent, precedes⟩ ran
    exact ⟨creates.keeps.error consistent ran, precedes.trans (creates.spends ran).precedes⟩

/-- **No operation hands out an address a second time.** -/
theorem stable_precedes (before : Store) :
    Stable fun store => store.Consistent ∧ before.Precedes store where
  createNode type := (creates_createNode type).keeps_precedes before
  createTypedLink type := (creates_createTypedLink type).keeps_precedes before
  createEdge type source target := (creates_createEdge type source target).keeps_precedes before
  setPayload link payload := {
    ok := by
      rintro store value after ⟨consistent, precedes⟩ ran
      obtain ⟨element, found, isLink, rfl⟩ := setPayload_ok ran
      exact ⟨consistent.hold found isLink, precedes.trans (precedes_hold found isLink)⟩
    error := by
      rintro store error after ⟨consistent, precedes⟩ ran
      have spends := setPayload_error ran
      exact ⟨spends.consistent consistent, precedes.trans spends.precedes⟩ }
  erase := by
    rintro store address ⟨consistent, precedes⟩
    have shrinks := shrinks_erase consistent address
    exact ⟨consistent_erase consistent address, precedes.trans shrinks.precedes⟩
  generate := by
    rintro store template parameters ⟨consistent, precedes⟩
    exact ⟨Template.consistent_generate consistent template parameters,
      precedes.trans (precedes_generate consistent template parameters)⟩

/-- What an operation keeps of every store that it starts from, it keeps of what those before have. -/
theorem keeps_of_precedes {α : Type} {invariant : Store → Prop} {action : Action α}
    (keeps : ∀ before : Store, Keeps (fun store => store.Consistent ∧ before.Precedes store) action)
    (kept : ∀ {before after : Store}, before.Precedes after → invariant before → invariant after) :
    Keeps (fun store => store.Consistent ∧ invariant store) action where
  ok {store _ _} holds ran :=
    have ⟨consistent, precedes⟩ := (keeps store).ok ⟨holds.1, .refl _⟩ ran
    ⟨consistent, kept precedes holds.2⟩
  error {store _ _} holds ran :=
    have ⟨consistent, precedes⟩ := (keeps store).error ⟨holds.1, .refl _⟩ ran
    ⟨consistent, kept precedes holds.2⟩

/-- **What later stores have with earlier ones is stable.** -/
theorem Stable.of_precedes {invariant : Store → Prop}
    (kept : ∀ {before after : Store}, before.Precedes after → invariant before → invariant after) :
    Stable fun store => store.Consistent ∧ invariant store where
  createNode type := keeps_of_precedes (fun before => (stable_precedes before).createNode type) kept
  createTypedLink type :=
    keeps_of_precedes (fun before => (stable_precedes before).createTypedLink type) kept
  createEdge type source target :=
    keeps_of_precedes (fun before => (stable_precedes before).createEdge type source target) kept
  setPayload link payload :=
    keeps_of_precedes (fun before => (stable_precedes before).setPayload link payload) kept
  erase {store} address holds :=
    have ⟨consistent, precedes⟩ := (stable_precedes store).erase address ⟨holds.1, .refl _⟩
    ⟨consistent, kept precedes holds.2⟩
  generate {store} template parameters holds :=
    have ⟨consistent, precedes⟩ :=
      (stable_precedes store).generate template parameters ⟨holds.1, .refl _⟩
    ⟨consistent, kept precedes holds.2⟩

/-! ### What edges connect -/

/-- One element is an edge that leaves or enters another. -/
def Connects (store : Store) (edge place : Address) : Prop :=
  ∃ source target, store.ends? edge = some (source, target) ∧ (place = source ∨ place = target)

/-- **Edges lead to older elements that exist**, so no edge depends on itself; and every element is
filed under its own address, which was handed out. -/
structure Intact (store : Store) : Prop where
  anchored : ∀ {edge place}, store.Connects edge place →
    store.contains place = true ∧ place < edge
  acyclic : ∀ address, ¬ Relation.TransGen store.Connects address address
  keyed : ∀ {address element}, store.get? address = some element →
    element.address = address ∧ address ≠ .invalid ∧ store.HandedOut address

/-- **A consistent store is intact.** -/
theorem Consistent.intact (consistent : store.Consistent) : store.Intact := by
  have anchored : ∀ {edge place}, store.Connects edge place →
      store.contains place = true ∧ place < edge := by
    rintro edge place ⟨source, target, ends, atEnd⟩
    obtain ⟨type, found⟩ := consistent.ends?_eq_some_iff.1 ends
    obtain ⟨sourceThere, targetThere⟩ := consistent.anchored found List.not_mem_nil
    obtain ⟨sourceOlder, targetOlder⟩ := consistent.ordered found
    rcases atEnd with rfl | rfl
    · exact ⟨sourceThere, sourceOlder⟩
    · exact ⟨targetThere, targetOlder⟩
  -- A way along edges leads to ever older elements.
  have descends : ∀ {first last}, Relation.TransGen store.Connects first last → last < first := by
    intro first last way
    induction way with
    | single connects => exact (anchored connects).2
    | tail _ connects hypothesis => exact Key.lt_trans (anchored connects).2 hypothesis
  refine ⟨anchored, fun address cycle => Key.lt_irrefl address (descends cycle), fun found => ?_⟩
  have numbered := consistent.numbered found
  refine ⟨consistent.keyed found, ?_, numbered⟩
  rintro rfl
  exact Nat.lt_irrefl 0 numbered.1

end SemanticNetwork.Store
