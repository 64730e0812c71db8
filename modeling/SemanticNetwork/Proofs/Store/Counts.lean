/-
**Counting elements.** How many elements of a kind a store has is counted over its whole table. Where
some elements are new and all others are as they were, the counts grow by those of the new ones, in
whatever order the table lists them.

* `Store.Gains`: a store with some elements more, with `Gains.trans`;
* `Gains.values_perm`: **its table lists the new elements and those of before**;
* `Gains.counts_eq`: **so its counts are those of before and those of the new elements.**
-/
import SemanticNetwork.Proofs.Store.Creation

namespace SemanticNetwork.Store

/-- A store has some elements more than another, each at an address of its own that was free. -/
structure Gains (before : Store) (added : List Element) (after : Store) : Prop where
  distinct : (added.map Element.address).Nodup
  fresh : ∀ element ∈ added, before.get? element.address = none
  get?_eq_some_iff : ∀ {address element}, after.get? address = some element ↔
    (element ∈ added ∧ element.address = address) ∨ before.get? address = some element

/-- How many elements of each kind a list has. -/
def Counts.ofList (elements : List Element) : Counts where
  nodes := elements.countP Element.isNode
  edges := elements.countP Element.isEdge
  links := elements.countP Element.isLink

/-- The counts of two lists together. -/
def Counts.add (first second : Counts) : Counts where
  nodes := first.nodes + second.nodes
  edges := first.edges + second.edges
  links := first.links + second.links

theorem Counts.ofList_append (first second : List Element) :
    ofList (first ++ second) = (ofList first).add (ofList second) := by
  simp [ofList, add]

variable {before middle after : Store} {added more : List Element} {element : Element}

/-- An element that is created is gained. -/
theorem Adds.gains (adds : before.Adds element after) (consistent : before.Consistent) :
    before.Gains [element] after where
  distinct := List.pairwise_singleton _ _
  fresh other member := by
    rw [List.mem_singleton.1 member, adds.address]
    exact consistent.get?_nextAddress
  get?_eq_some_iff {address other} := by
    rw [adds.get?_eq, List.mem_singleton]
    by_cases here : address = element.address
    · have free : before.get? address = none := by
        rw [here, adds.address]
        exact consistent.get?_nextAddress
      simp only [if_pos here, free, Option.some.injEq, reduceCtorEq, or_false]
      exact ⟨fun same => ⟨same.symm, same ▸ here.symm⟩, fun gained => gained.1.symm⟩
    · rw [if_neg here]
      refine (or_iff_right ?_).symm
      rintro ⟨rfl, same⟩
      exact here same.symm

/-- Elements that are gained one after another are gained together. -/
theorem Gains.trans (gains : before.Gains added middle) (gains' : middle.Gains more after) :
    before.Gains (more ++ added) after where
  distinct := by
    rw [List.map_append, List.nodup_append]
    refine ⟨gains'.distinct, gains.distinct, ?_⟩
    rintro _ inMore _ inAdded rfl
    obtain ⟨new, newMember, rfl⟩ := List.mem_map.1 inMore
    obtain ⟨old, oldMember, same⟩ := List.mem_map.1 inAdded
    have there := gains.get?_eq_some_iff.2 (.inl ⟨oldMember, same⟩)
    cases (gains'.fresh new newMember).symm.trans there
  fresh element member := by
    rcases List.mem_append.1 member with new | old
    · have free := gains'.fresh element new
      refine Option.eq_none_iff_forall_ne_some.2 fun found there => ?_
      cases free.symm.trans (gains.get?_eq_some_iff.2 (.inr there))
    · exact gains.fresh element old
  get?_eq_some_iff {address element} := by
    rw [gains'.get?_eq_some_iff, gains.get?_eq_some_iff, List.mem_append, ← or_assoc, or_and_right]

/-- **The table lists the new elements and those of before.** -/
theorem Gains.values_perm (gains : before.Gains added after) :
    after.elements.values.Perm (added ++ before.elements.values) := by
  have nodup : ∀ store : Store, store.elements.entries.Nodup := by
    intro store
    refine List.Pairwise.imp ?_ store.elements.ascending
    rintro first _ smaller rfl
    exact Key.lt_irrefl first.1 smaller
  have keyed : ((added.map fun element => (element.address, element)).map Prod.fst).Nodup := by
    rw [List.map_map]
    exact gains.distinct
  have entries : after.elements.entries.Perm
      ((added.map fun element => (element.address, element)) ++ before.elements.entries) := by
    refine (List.perm_ext_iff_of_nodup (nodup after) ?_).2 fun ⟨address, element⟩ => ?_
    · refine List.nodup_append.2 ⟨List.Pairwise.of_map Prod.fst (fun _ _ => mt (congrArg _)) keyed,
        nodup before, ?_⟩
      rintro entry inAdded _ inBefore rfl
      obtain ⟨element, member, rfl⟩ := List.mem_map.1 inAdded
      cases (gains.fresh element member).symm.trans (KeyMap.mem_entries_iff.1 inBefore)
    · rw [KeyMap.mem_entries_iff, List.mem_append, KeyMap.mem_entries_iff]
      refine gains.get?_eq_some_iff.trans (or_congr ?_ Iff.rfl)
      rw [List.mem_map]
      constructor
      · rintro ⟨member, rfl⟩
        exact ⟨element, member, rfl⟩
      · rintro ⟨other, member, same⟩
        cases same
        exact ⟨member, rfl⟩
  have values := entries.map Prod.snd
  rw [List.map_append, List.map_map] at values
  exact values.trans (.of_eq (by rw [show Prod.snd ∘ _ = id from rfl, List.map_id]; rfl))

/-- **The counts are those of before and those of the new elements.** -/
theorem Gains.counts_eq (gains : before.Gains added after) :
    after.counts = (Counts.ofList added).add before.counts := by
  have counted : ∀ kind : Element → Bool,
      after.elements.values.countP kind = (added ++ before.elements.values).countP kind :=
    fun kind => gains.values_perm.countP_eq kind
  show Counts.ofList after.elements.values = _
  have same : Counts.ofList after.elements.values =
      Counts.ofList (added ++ before.elements.values) := by
    simp only [Counts.ofList, counted]
  rw [same, Counts.ofList_append]
  rfl

end SemanticNetwork.Store
