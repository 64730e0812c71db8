/-
**Indexes.** An index files addresses under keys. It keeps no key without an address, so an index
is determined by what it files. A question to an index is a test on keys, and its answer ascends.

* `Index.file`, `Index.unfile`: put an address under a key, or take it out and drop a key that has
  no address left, with `files_file` and `files_unfile`;
* `Index.under`, `Index.countUnder`: the addresses whose key passes a test, and how many;
* `Index.ext_files`: indexes that file the same are equal.
-/
import SemanticNetwork.AddressMap

namespace SemanticNetwork

/-- Addresses filed under keys; no key is kept without an address. -/
@[ext] structure Index (κ : Type) [Key κ] [DecidableEq κ] where
  sets : KeyMap κ AddressSet
  inhabited : ∀ {key set}, sets.get? key = some set → set.isEmpty = false

namespace Index

variable {κ : Type} [Key κ] [DecidableEq κ]

/-- The index that files nothing. -/
def empty : Index κ := ⟨.empty, nofun⟩

instance : Inhabited (Index κ) := ⟨empty⟩

instance : DecidableEq (Index κ) := fun first second =>
  if same : first.sets = second.sets then
    isTrue (by cases first; cases second; simp_all)
  else
    isFalse fun equal => same (by rw [equal])

/-- Whether nothing is filed. -/
def isEmpty (index : Index κ) : Bool := index.sets.isEmpty

/-- The addresses that are filed under a key. -/
def setOf (index : Index κ) (key : κ) : AddressSet := (index.sets.get? key).getD .empty

/-- Whether an address is filed under a key. -/
def files (index : Index κ) (key : κ) (address : Address) : Bool :=
  (index.setOf key).contains address

/-- The index with other addresses under a key; with none left the key goes. -/
def withSet (index : Index κ) (key : κ) (set : AddressSet) : Index κ :=
  if vacant : set.isEmpty = true then
    ⟨index.sets.erase key, fun {other held} found => by
      rw [KeyMap.get?_erase] at found
      split at found
      · cases found
      · exact index.inhabited found⟩
  else
    ⟨index.sets.insert key set, fun {other held} found => by
      rw [KeyMap.get?_insert] at found
      split at found
      · cases found
        simpa using vacant
      · exact index.inhabited found⟩

/-- File an address under a key. -/
def file (index : Index κ) (key : κ) (address : Address) : Index κ :=
  index.withSet key ((index.setOf key).insert address ())

/-- Take an address out from under a key. -/
def unfile (index : Index κ) (key : κ) (address : Address) : Index κ :=
  match index.sets.get? key with
  | some set => index.withSet key (set.erase address)
  | none => index

/-- All filed addresses, key by key. -/
def addresses (index : Index κ) : List Address := index.sets.values.flatMap KeyMap.keys

/-- The addresses whose key passes a test, ascending. -/
def under (index : Index κ) (test : κ → Bool) : List Address :=
  Address.sort ((index.sets.entries.filter fun entry => test entry.1).flatMap fun entry =>
    entry.2.keys)

/-- The number of addresses whose key passes a test. -/
def countUnder (index : Index κ) (test : κ → Bool) : Nat :=
  (index.sets.entries.filter fun entry => test entry.1).foldr (fun entry count => entry.2.size + count) 0

/-! ### What an index files -/

@[simp] theorem files_empty (key : κ) (address : Address) :
    (empty : Index κ).files key address = false := rfl

/-- An address is filed under a key if it is in the set that is kept for the key. -/
theorem files_iff {index : Index κ} {key : κ} {address : Address} :
    index.files key address = true ↔
      ∃ set, index.sets.get? key = some set ∧ set.contains address = true := by
  unfold files setOf
  cases index.sets.get? key with
  | none => simp [KeyMap.contains]
  | some set => simp

/-- The set that is kept for a key after other addresses were put under one. -/
theorem setOf_withSet (index : Index κ) (key other : κ) (set : AddressSet) :
    ((index.withSet key set).setOf other).contains =
      if other = key then set.contains else (index.setOf other).contains := by
  unfold withSet setOf
  by_cases vacant : set.isEmpty = true
  · rw [dif_pos vacant, KeyMap.get?_erase]
    split
    · funext address
      simp [KeyMap.contains, KeyMap.isEmpty_iff.1 vacant]
    · rfl
  · rw [dif_neg vacant, KeyMap.get?_insert]
    split <;> rfl

/-- **Filing adds one address under one key.** -/
theorem files_file {index : Index κ} {key other : κ} {address target : Address} :
    (index.file key address).files other target = true ↔
      (other = key ∧ target = address) ∨ index.files other target = true := by
  unfold file files
  rw [setOf_withSet]
  by_cases same : other = key
  · subst same
    by_cases here : target = address <;> simp [KeyMap.contains, KeyMap.get?_insert, here]
  · simp [same]

/-- **Unfiling takes out one address under one key.** -/
theorem files_unfile {index : Index κ} {key other : κ} {address target : Address} :
    (index.unfile key address).files other target = true ↔
      index.files other target = true ∧ ¬ (other = key ∧ target = address) := by
  unfold unfile
  cases found : index.sets.get? key with
  | none =>
    refine ⟨fun filed => ⟨filed, fun ⟨same, _⟩ => ?_⟩, And.left⟩
    obtain ⟨set, kept, -⟩ := files_iff.1 filed
    rw [same, found] at kept
    cases kept
  | some set =>
    unfold files
    rw [setOf_withSet]
    by_cases same : other = key
    · subst same
      by_cases here : target = address <;>
        simp [KeyMap.contains, KeyMap.get?_erase, setOf, found, here]
    · simp [same]

/-- A set that is kept for a key has an address in it. -/
theorem exists_files {index : Index κ} {key : κ} {set : AddressSet}
    (kept : index.sets.get? key = some set) : ∃ address, index.files key address = true := by
  have inhabited := index.inhabited kept
  have occupied : ¬ ∀ address, set.get? address = none := by
    rw [← KeyMap.isEmpty_iff]
    simp [inhabited]
  obtain ⟨address, bound⟩ := Classical.not_forall.1 occupied
  refine ⟨address, files_iff.2 ⟨set, kept, ?_⟩⟩
  simpa [KeyMap.contains, Option.isSome_iff_ne_none] using bound

/-- **Indexes that file the same are equal.** -/
theorem ext_files {first second : Index κ}
    (same : ∀ key address, first.files key address = second.files key address) :
    first = second := by
  have keptIff : ∀ {one other : Index κ} {key : κ},
      (∀ address, one.files key address = other.files key address) →
        (one.sets.get? key).isSome = true → (other.sets.get? key).isSome = true := by
    intro one other key same kept
    obtain ⟨set, found⟩ := Option.isSome_iff_exists.1 kept
    obtain ⟨address, filed⟩ := exists_files found
    obtain ⟨set', found', -⟩ := files_iff.1 ((same address).symm.trans filed)
    simp [found']
  have sets : first.sets = second.sets := by
    refine KeyMap.ext_get? fun key => ?_
    cases found : first.sets.get? key with
    | none =>
      cases found' : second.sets.get? key with
      | none => rfl
      | some set =>
        have kept := keptIff (fun address => (same key address).symm) (by simp [found'])
        simp [found] at kept
    | some set =>
      have kept := keptIff (same key) (by simp [found])
      obtain ⟨set', found'⟩ := Option.isSome_iff_exists.1 kept
      rw [found']
      refine congrArg some (KeyMap.ext_get? fun address => ?_)
      have contained := same key address
      simp only [files, setOf, found, found', Option.getD_some, KeyMap.contains] at contained
      cases left : set.get? address <;> cases right : set'.get? address <;>
        rw [left, right] at contained
      · cases contained
      · cases contained
  exact Index.ext sets

theorem isEmpty_iff {index : Index κ} :
    index.isEmpty = true ↔ ∀ key address, index.files key address = false := by
  rw [isEmpty, KeyMap.isEmpty_iff]
  constructor
  · intro absent key address
    simp [files, setOf, absent, KeyMap.contains]
  · intro nothing key
    cases kept : index.sets.get? key with
    | none => rfl
    | some set =>
      obtain ⟨address, filed⟩ := exists_files kept
      simp [nothing] at filed

/-- An index that is not empty files something. -/
theorem exists_files_of_not_isEmpty {index : Index κ} (inhabited : index.isEmpty = false) :
    ∃ key address, index.files key address = true := by
  refine Classical.byContradiction fun nothing => ?_
  have vacant : index.isEmpty = true := isEmpty_iff.2 fun key address => by
    simpa using fun filed => nothing ⟨key, address, filed⟩
  rw [inhabited] at vacant
  cases vacant

/-! ### What a question finds -/

/-- The addresses of some of the kept sets are filed under the keys of these. -/
theorem mem_flatMap_iff {index : Index κ} {test : κ → Bool} {address : Address} :
    (address ∈ (index.sets.entries.filter fun entry => test entry.1).flatMap fun entry =>
        entry.2.keys) ↔ ∃ key, test key = true ∧ index.files key address = true := by
  simp only [List.mem_flatMap, List.mem_filter, KeyMap.mem_keys_iff]
  constructor
  · rintro ⟨⟨key, set⟩, ⟨member, passes⟩, contained⟩
    exact ⟨key, passes, files_iff.2 ⟨set, KeyMap.mem_entries_iff.1 member, contained⟩⟩
  · rintro ⟨key, passes, filed⟩
    obtain ⟨set, kept, contained⟩ := files_iff.1 filed
    exact ⟨(key, set), ⟨KeyMap.mem_entries_iff.2 kept, passes⟩, contained⟩

/-- **The answer to a question is the addresses that are filed under a matching key.** -/
theorem mem_under_iff {index : Index κ} {test : κ → Bool} {address : Address} :
    address ∈ index.under test ↔ ∃ key, test key = true ∧ index.files key address = true := by
  rw [under, Address.mem_sort, mem_flatMap_iff]

/-- All filed addresses are those under some key. -/
theorem mem_addresses_iff {index : Index κ} {address : Address} :
    address ∈ index.addresses ↔ ∃ key, index.files key address = true := by
  have everything : address ∈ index.addresses ↔ address ∈ index.under fun _ => true := by
    simp [addresses, KeyMap.values, under, List.flatMap_map]
  rw [everything, mem_under_iff]
  simp

/-- An answer is as long as it is counted, whatever is filed. -/
theorem length_under (index : Index κ) (test : κ → Bool) :
    (index.under test).length = index.countUnder test := by
  rw [under, (Address.sort_perm _).length_eq, List.length_flatMap, countUnder]
  simp [KeyMap.keys, KeyMap.size, List.sum_eq_foldr, List.foldr_map]

/-- **Answers are strictly ascending where no address is filed under two keys.** -/
theorem under_ascending {index : Index κ} (test : κ → Bool)
    (single : ∀ {key other address}, index.files key address = true →
      index.files other address = true → key = other) :
    (index.under test).Pairwise (· < ·) := by
  refine Address.sort_ascending (List.pairwise_flatMap.2 ⟨fun entry _ => ?_, ?_⟩)
  · refine entry.2.keys_ascending.imp ?_
    rintro address _ before rfl
    exact Key.lt_irrefl address before
  · have ascending := index.sets.ascending.sublist
      (List.filter_sublist (p := fun entry => test entry.1))
    refine ascending.imp_of_mem fun {entry other} member member' before => ?_
    rintro address inFirst _ inSecond rfl
    have filed : ∀ {entry : κ × AddressSet}, entry ∈ index.sets.entries.filter
        (fun entry => test entry.1) → address ∈ entry.2.keys →
          index.files entry.1 address = true := by
      intro entry member inSet
      refine files_iff.2 ⟨entry.2, KeyMap.mem_entries_iff.1 (List.mem_filter.1 member).1, ?_⟩
      exact KeyMap.mem_keys_iff.1 inSet
    have same := single (filed member inFirst) (filed member' inSecond)
    exact Key.lt_irrefl _ (same ▸ before)

end Index

end SemanticNetwork
