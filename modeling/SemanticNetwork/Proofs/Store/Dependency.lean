/-
**What depends on an element.** An edge depends on what it leaves and on what it enters, and the
edges at it depend on it in turn. An erasure takes out what was asked for and all that depends on
it, and nothing else. It reports every departure once.

* `IsClosed`: with an element, the edges at it are in a set;
* `mem_of_removed_cascade`: what an erasure takes out is in every closed set with what waits;
* `isLeast_removed_cascade`, `isLeast_removed_erase`: so an erasure takes out **the least closed set**
  with what waits, and with an element;
* `exists_departed`: **the report of an erasure** lists the departures of what was taken out, each
  once;
* `erasesDependents_erase`: both together, and all else stays as it is.
-/
import Mathlib.Order.Bounds.Defs
import SemanticNetwork.Proofs.Store.Erasure

namespace SemanticNetwork.Store

/-- With an element, every edge that leaves or enters it is in the set. -/
def IsClosed (store : Store) (set : Set Address) : Prop :=
  ∀ {edge type source target}, store.get? edge = some ⟨edge, type, .edge source target⟩ →
    source ∈ set ∨ target ∈ set → edge ∈ set

/-- The elements of one store that another no longer has. -/
def removed (before after : Store) : Set Address :=
  {address | before.contains address = true ∧ after.get? address = none}

/-- The elements of one store that another no longer has, in the order of their departure. -/
structure Departed (before after : Store) (departed : List Element) : Prop where
  distinct : (departed.map Element.address).Nodup
  mem_iff : ∀ element, element ∈ departed ↔
    before.get? element.address = some element ∧ after.get? element.address = none

variable {store after : Store} {address : Address} {element : Element} {waiting : List Address}
  {set : Set Address}

/-- Fewer elements depend on each other where elements are gone. -/
theorem IsClosed.of_kept (closed : store.IsClosed set)
    (kept : ∀ {address element}, after.get? address = some element →
      store.get? address = some element) : after.IsClosed set :=
  fun found atEnd => closed (kept found) atEnd

/-- What is not gone is what it was. -/
theorem get?_of_not_removed (kept : ∀ {address element}, after.get? address = some element →
    store.get? address = some element) (stays : address ∉ store.removed after) :
    after.get? address = store.get? address := by
  cases found : after.get? address with
  | some element => exact (kept found).symm
  | none =>
    refine (not_contains_iff.1 fun there => ?_).symm
    exact stays ⟨there, found⟩

/-- What is taken out of a store has gone with what waited. -/
theorem mem_of_removed_cascade (consistent : store.ConsistentBut waiting)
    (closed : store.IsClosed set)
    (inSet : ∀ place ∈ waiting, store.contains place = true → place ∈ set)
    (gone : address ∈ store.removed (store.cascade waiting).store) : address ∈ set := by
  obtain ⟨there, gone⟩ := gone
  fun_induction cascade store waiting with
  | case1 store => exact absurd there (not_contains_iff.2 gone)
  | case2 store head waiting missing hypothesis =>
    exact hypothesis (consistent.pass missing) closed
      (fun place member => inSet place (List.mem_cons_of_mem _ member)) there gone
  | case3 store head waiting element found struck rest hypothesis =>
    have headIn : head ∈ set := inSet head List.mem_cons_self (contains_of_get? found)
    by_cases here : address = head
    · exact here ▸ headIn
    have kept : ∀ {place element'}, (struck.sever head).get? place = some element' →
        store.get? place = some element' := (consistent.shrinks_remove found).kept
    refine hypothesis (consistent.remove found) (closed.of_kept kept)
      (fun place member stillThere => ?_) ?_ gone
    · rcases List.mem_append.1 member with atHead | waits
      · obtain ⟨type, source, target, there, atEnd⟩ := consistent.exists_of_mem_edgesAt found atHead
        refine closed there ?_
        rcases atEnd with rfl | rfl
        · exact .inl headIn
        · exact .inr headIn
      · obtain ⟨element', stillThere⟩ := contains_iff.1 stillThere
        exact inSet place (List.mem_cons_of_mem _ waits) (contains_of_get? (kept stillThere))
    · obtain ⟨element', there⟩ := contains_iff.1 there
      exact contains_of_get? (by rw [get?_sever, get?_strike, if_neg here, there])

/-- What was taken out is closed, as the edges that remain have their ends. -/
theorem isClosed_removed (consistent : after.Consistent)
    (kept : ∀ {address element}, after.get? address = some element →
      store.get? address = some element) : store.IsClosed (store.removed after) := by
  intro edge type source target found atEnd
  refine ⟨contains_of_get? found, ?_⟩
  cases there : after.get? edge with
  | none => rfl
  | some element =>
    have same := (kept there).symm.trans found
    cases same
    obtain ⟨sourceThere, targetThere⟩ := consistent.anchored there List.not_mem_nil
    rcases atEnd with ⟨-, gone⟩ | ⟨-, gone⟩
    · exact absurd sourceThere (not_contains_iff.2 gone)
    · exact absurd targetThere (not_contains_iff.2 gone)

/-- **What is taken out of a store is the least closed set** with those of the elements that wait that
are there. -/
theorem isLeast_removed_cascade (consistent : store.ConsistentBut waiting) :
    IsLeast {set | (∀ place ∈ waiting, store.contains place = true → place ∈ set) ∧
      store.IsClosed set} (store.removed (store.cascade waiting).store) := by
  refine ⟨⟨fun place member there => ?_, ?_⟩, ?_⟩
  · exact ⟨there, get?_cascade_of_waiting consistent member⟩
  · exact isClosed_removed (consistent_cascade consistent) (shrinks_cascade consistent).kept
  · rintro set ⟨inSet, closed⟩ place gone
    exact mem_of_removed_cascade consistent closed inSet gone

/-- **An erasure takes out the least closed set with an element.** -/
theorem isLeast_removed_erase (consistent : store.Consistent)
    (there : store.contains address = true) :
    IsLeast {set | address ∈ set ∧ store.IsClosed set}
      (store.removed (store.erase address).store) := by
  have least : IsLeast _ (store.removed (store.cascade [address]).store) :=
    isLeast_removed_cascade (consistent.anyWaiting [address])
  rw [consistent.erase_eq_cascade]
  simpa only [List.forall_mem_singleton, there, forall_const] using least

/-- Where there is nothing to erase, nothing changes. -/
theorem erase_of_missing (missing : store.get? address = none) :
    store.erase address = .none store := by
  rw [erase, cascade_of_missing missing, cascade, ite_self]

/-! ### The report of an erasure -/

/-- **An erasure reports the departure of everything that it takes out, once.** -/
theorem exists_departed (consistent : store.ConsistentBut waiting) :
    ∃ departed, store.Departed (store.cascade waiting).store departed ∧
      (store.cascade waiting).changes = departed.flatMap Element.departure := by
  fun_induction cascade store waiting with
  | case1 store =>
    refine ⟨[], ⟨.nil, fun element => ?_⟩, rfl⟩
    show element ∈ [] ↔ store.get? element.address = some element ∧
      store.get? element.address = none
    simp only [List.not_mem_nil, false_iff, not_and]
    intro found gone
    rw [found] at gone
    cases gone
  | case2 store head waiting missing hypothesis => exact hypothesis (consistent.pass missing)
  | case3 store head waiting element found struck rest hypothesis =>
    obtain ⟨departed, ⟨distinct, mem_iff⟩, reported⟩ := hypothesis (consistent.remove found)
    have shrinks := shrinks_cascade (consistent.remove found)
    obtain rfl : element.address = head := consistent.keyed found
    have headGone : (struck.sever element.address).get? element.address = none := by
      rw [get?_sever, get?_strike, if_pos rfl]
    refine ⟨element :: departed, ⟨?_, fun other => ?_⟩, ?_⟩
    · refine List.nodup_cons.2 ⟨fun member => ?_, distinct⟩
      obtain ⟨other, member, same⟩ := List.mem_map.1 member
      have there := ((mem_iff other).1 member).1
      rw [same, headGone] at there
      cases there
    · rw [List.mem_cons, mem_iff]
      by_cases here : other.address = element.address
      · rw [here, found, headGone]
        constructor
        · rintro (rfl | ⟨there, -⟩)
          · exact ⟨rfl, shrinks.get?_eq_none headGone⟩
          · cases there
        · rintro ⟨there, -⟩
          exact .inl (Option.some.inj there).symm
      · rw [get?_sever, get?_strike, if_neg here]
        constructor
        · rintro (rfl | both)
          · exact absurd rfl here
          · exact both
        · exact .inr
    · rw [List.flatMap_cons, ← reported]

theorem mem_changes_cascade (consistent : store.ConsistentBut waiting) {change : Change} :
    change ∈ (store.cascade waiting).changes ↔ ∃ element, change ∈ element.departure ∧
      store.get? element.address = some element ∧
        (store.cascade waiting).store.get? element.address = none := by
  obtain ⟨departed, ⟨-, mem_iff⟩, reported⟩ := exists_departed consistent
  simp only [reported, List.mem_flatMap, mem_iff]
  exact exists_congr fun element => and_comm

/-- It is reported of an edge that it is gone just when it is. -/
theorem edgeRemoved_mem_cascade_iff (consistent : store.ConsistentBut waiting)
    {edge source target : Address} {type : ElementType} :
    .edgeRemoved edge source target type ∈ (store.cascade waiting).changes ↔
      store.get? edge = some ⟨edge, type, .edge source target⟩ ∧
        (store.cascade waiting).store.get? edge = none := by
  rw [mem_changes_cascade consistent]
  constructor
  · rintro ⟨⟨address, type', body⟩, inDeparture, found, gone⟩
    obtain _ | ⟨source', target'⟩ | _ := body <;> simp [Element.departure] at inDeparture
    obtain ⟨rfl, rfl, rfl, rfl⟩ := inDeparture
    exact ⟨found, gone⟩
  · rintro ⟨found, gone⟩
    exact ⟨⟨edge, type, .edge source target⟩, List.mem_cons_self, found, gone⟩

/-- An erasure writes nothing. -/
theorem payloadChanged_not_mem_cascade (consistent : store.ConsistentBut waiting) (link : Address) :
    .payloadChanged link ∉ (store.cascade waiting).changes := by
  rw [mem_changes_cascade consistent]
  rintro ⟨⟨address, type, body⟩, inDeparture, -⟩
  obtain _ | _ | _ := body <;> simp [Element.departure] at inDeparture

/-- **What an erasure is to do.** If there is an element at the address, the least closed set with it
goes; if not, nothing happens. Every other element is what it was. Reported is the departure of every
element that goes, once each, and nothing else. -/
structure ErasesDependents (store : Store) (address : Address) (after : Store)
    (changes : List Change) : Prop where
  least : store.contains address = true →
    IsLeast {set | address ∈ set ∧ store.IsClosed set} (store.removed after)
  missing : store.contains address = false → after = store ∧ changes = []
  spared : ∀ other ∉ store.removed after, after.get? other = store.get? other
  reported : ∃ departed, store.Departed after departed ∧
    changes = departed.flatMap Element.departure

/-- **An erasure takes out an element and all that depends on it**, and nothing else. -/
theorem erasesDependents_erase (consistent : store.Consistent) (address : Address) :
    store.ErasesDependents address (store.erase address).store (store.erase address).changes where
  least := isLeast_removed_erase consistent
  missing absent := by
    have missing : store.get? address = none := not_contains_iff.1 (by simp [absent])
    rw [erase_of_missing missing]
    exact ⟨rfl, rfl⟩
  spared other stays :=
    get?_of_not_removed (shrinks_erase consistent address).kept stays
  reported := by
    rw [consistent.erase_eq_cascade]
    exact exists_departed (consistent.anyWaiting [address])

end SemanticNetwork.Store
