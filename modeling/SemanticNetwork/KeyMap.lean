/-
**Finite maps on ordered keys.** A map is its list of entries in strictly ascending key order, so
that two maps with the same bindings are equal and every enumeration is ascending.

The lemmas say what each operation does to `get?`:

* `get?_insert`, `get?_erase`, `get?_filter`: the bindings after an operation;
* `mem_entries_iff`: an entry is a binding;
* `ext_get?`: maps with the same bindings are equal;
* `size_insert_le`, `size_erase_lt`: binding a key makes the map larger by one entry at most, and
  taking out a bound key makes it smaller.
-/

namespace SemanticNetwork

/-- Values that serve as keys: they are strictly ordered, and the order tells any two apart. -/
class Key (κ : Type) extends LT κ where
  decidableLT : DecidableLT κ
  lt_irrefl : ∀ key : κ, ¬ key < key
  lt_trans : ∀ {first second third : κ}, first < second → second < third → first < third
  lt_or_lt : ∀ {first second : κ}, first ≠ second → first < second ∨ second < first

instance Key.instDecidableLT {κ : Type} [Key κ] : DecidableLT κ := Key.decidableLT

/-- Values that are told apart by a rank are ordered by it. -/
@[reducible] def Key.ofRank {κ ρ : Type} [Key ρ] (rank : κ → ρ)
    (injective : ∀ {first second : κ}, rank first = rank second → first = second) : Key κ where
  lt first second := rank first < rank second
  decidableLT first second := inferInstanceAs (Decidable (rank first < rank second))
  lt_irrefl key := Key.lt_irrefl (rank key)
  lt_trans lower upper := Key.lt_trans lower upper
  lt_or_lt different := Key.lt_or_lt fun same => different (injective same)

instance : Key Nat where
  decidableLT := inferInstance
  lt_irrefl := Nat.lt_irrefl
  lt_trans := Nat.lt_trans
  lt_or_lt := Nat.lt_or_gt_of_ne

instance : Key (List Nat) where
  decidableLT := inferInstance
  lt_irrefl := List.lt_irrefl
  lt_trans := List.lt_trans
  lt_or_lt {first second} different := by
    by_cases before : first < second
    · exact .inl before
    · refine .inr (Decidable.byContradiction fun notAfter => different ?_)
      exact List.le_antisymm (List.not_lt.1 notAfter) (List.not_lt.1 before)

/-- **Two ascending lists with the same members are the same list.** -/
theorem eq_of_ascending_of_mem_iff {α : Type} {before : α → α → Prop}
    (irreflexive : ∀ item, ¬ before item item)
    (transitive : ∀ {first second third}, before first second → before second third →
      before first third) : ∀ {first second : List α},
    first.Pairwise before → second.Pairwise before →
    (∀ item, item ∈ first ↔ item ∈ second) → first = second
  | [], [], _, _, _ => rfl
  | [], head :: _, _, _, same => absurd ((same head).2 List.mem_cons_self) List.not_mem_nil
  | head :: _, [], _, _, same => absurd ((same head).1 List.mem_cons_self) List.not_mem_nil
  | head :: rest, head' :: rest', ascending, ascending', same => by
    obtain ⟨below, tail⟩ := List.pairwise_cons.1 ascending
    obtain ⟨below', tail'⟩ := List.pairwise_cons.1 ascending'
    have equal : head = head' := by
      rcases List.mem_cons.1 ((same head).1 List.mem_cons_self) with equal | inRest'
      · exact equal
      · rcases List.mem_cons.1 ((same head').2 List.mem_cons_self) with equal | inRest
        · exact equal.symm
        · exact absurd (transitive (below _ inRest) (below' _ inRest')) (irreflexive _)
    subst equal
    have restSame : ∀ item, item ∈ rest ↔ item ∈ rest' := fun item => by
      constructor
      · intro member
        rcases List.mem_cons.1 ((same item).1 (List.mem_cons_of_mem _ member)) with same | found
        · subst same; exact absurd (below _ member) (irreflexive _)
        · exact found
      · intro member
        rcases List.mem_cons.1 ((same item).2 (List.mem_cons_of_mem _ member)) with same | found
        · subst same; exact absurd (below' _ member) (irreflexive _)
        · exact found
    rw [eq_of_ascending_of_mem_iff irreflexive transitive tail tail' restSame]

/-- A finite map, held in ascending order of its keys. -/
@[ext] structure KeyMap (κ α : Type) [Key κ] where
  entries : List (κ × α)
  ascending : entries.Pairwise fun first second => first.1 < second.1

namespace KeyMap

variable {κ α : Type} [Key κ]

/-- The map without bindings. -/
def empty : KeyMap κ α := ⟨[], List.Pairwise.nil⟩

instance : Inhabited (KeyMap κ α) := ⟨empty⟩

instance [DecidableEq κ] [DecidableEq α] : DecidableEq (KeyMap κ α) := fun first second =>
  if same : first.entries = second.entries then
    isTrue (by cases first; cases second; simp_all)
  else
    isFalse fun equal => same (by rw [equal])

/-- The number of bindings. -/
def size (map : KeyMap κ α) : Nat := map.entries.length

/-- Whether nothing is bound. -/
def isEmpty (map : KeyMap κ α) : Bool := map.entries.isEmpty

/-- The bound keys, ascending. -/
def keys (map : KeyMap κ α) : List κ := map.entries.map Prod.fst

/-- The bound values, in the order of their keys. -/
def values (map : KeyMap κ α) : List α := map.entries.map Prod.snd

/-- The keys are strictly ascending, hence free of repetition. -/
theorem keys_ascending (map : KeyMap κ α) : map.keys.Pairwise (· < ·) := by
  rw [keys, List.pairwise_map]
  exact map.ascending

/-- Keep the bindings that pass a test. -/
def filter (map : KeyMap κ α) (keep : κ → α → Bool) : KeyMap κ α :=
  ⟨map.entries.filter fun entry => keep entry.1 entry.2,
    map.ascending.sublist List.filter_sublist⟩

variable [DecidableEq κ]

/-- The value bound to a key. -/
def get? (map : KeyMap κ α) (key : κ) : Option α :=
  (map.entries.find? fun entry => entry.1 == key).map Prod.snd

/-- Whether a key is bound. -/
def contains (map : KeyMap κ α) (key : κ) : Bool := (map.get? key).isSome

/-- Put an entry at its place, replacing the one with the same key. -/
def insertEntry (key : κ) (value : α) : List (κ × α) → List (κ × α)
  | [] => [(key, value)]
  | entry :: rest =>
    if key < entry.1 then (key, value) :: entry :: rest
    else if key = entry.1 then (key, value) :: rest
    else entry :: insertEntry key value rest

theorem mem_insertEntry {key : κ} {value : α} {entries : List (κ × α)} {entry : κ × α}
    (member : entry ∈ insertEntry key value entries) :
    entry = (key, value) ∨ entry ∈ entries := by
  induction entries with
  | nil => simpa [insertEntry] using member
  | cons head rest hypothesis =>
    unfold insertEntry at member
    split at member
    · simpa using member
    · split at member
      · rcases List.mem_cons.1 member with equal | inRest
        · exact .inl equal
        · exact .inr (List.mem_cons_of_mem _ inRest)
      · rcases List.mem_cons.1 member with equal | inRest
        · exact .inr (by simp [equal])
        · rcases hypothesis inRest with equal | inTail
          · exact .inl equal
          · exact .inr (List.mem_cons_of_mem _ inTail)

theorem insertEntry_ascending {key : κ} {value : α} {entries : List (κ × α)}
    (ascending : entries.Pairwise fun first second => first.1 < second.1) :
    (insertEntry key value entries).Pairwise fun first second => first.1 < second.1 := by
  induction entries with
  | nil => simp [insertEntry]
  | cons head rest hypothesis =>
    obtain ⟨below, tail⟩ := List.pairwise_cons.1 ascending
    unfold insertEntry
    split
    · rename_i smaller
      refine List.pairwise_cons.2 ⟨fun entry member => ?_, ascending⟩
      rcases List.mem_cons.1 member with equal | inRest
      · subst equal; exact smaller
      · exact Key.lt_trans smaller (below entry inRest)
    · split
      · rename_i equal
        exact List.pairwise_cons.2 ⟨fun entry member => equal ▸ below entry member, tail⟩
      · rename_i notSmaller different
        refine List.pairwise_cons.2 ⟨fun entry member => ?_, hypothesis tail⟩
        rcases mem_insertEntry member with equal | inRest
        · subst equal
          exact (Key.lt_or_lt different).resolve_left notSmaller
        · exact below entry inRest

/-- Bind a key to a value, replacing what it was bound to. -/
def insert (map : KeyMap κ α) (key : κ) (value : α) : KeyMap κ α :=
  ⟨insertEntry key value map.entries, insertEntry_ascending map.ascending⟩

/-- Unbind a key. -/
def erase (map : KeyMap κ α) (key : κ) : KeyMap κ α := map.filter fun other _ => other != key

/-! ### What the operations bind -/

@[simp] theorem get?_empty (key : κ) : (empty : KeyMap κ α).get? key = none := rfl

/-- **An entry is a binding.** -/
theorem mem_entries_iff {map : KeyMap κ α} {key : κ} {value : α} :
    (key, value) ∈ map.entries ↔ map.get? key = some value := by
  obtain ⟨entries, ascending⟩ := map
  simp only [get?]
  induction entries with
  | nil => simp
  | cons head rest hypothesis =>
    obtain ⟨below, tail⟩ := List.pairwise_cons.1 ascending
    by_cases same : head.1 = key
    · have absent : ∀ other, (key, other) ∉ rest := fun other member => by
        have smaller := below _ member
        rw [same] at smaller
        exact Key.lt_irrefl _ smaller
      obtain ⟨headKey, held⟩ := head
      simp only at same
      subst same
      simp [absent, eq_comm]
    · have skipped : (head.1 == key) = false := by simpa using same
      rw [List.find?_cons, skipped, List.mem_cons]
      have other : ¬ (key, value) = head := fun equal => same (by rw [← equal])
      simp only [other, false_or]
      exact hypothesis tail

theorem get?_eq_none_iff {map : KeyMap κ α} {key : κ} :
    map.get? key = none ↔ ∀ value, (key, value) ∉ map.entries := by
  constructor
  · intro unbound value member
    rw [mem_entries_iff, unbound] at member
    cases member
  · intro absent
    cases bound : map.get? key with
    | none => rfl
    | some value => exact absurd (mem_entries_iff.2 bound) (absent value)

theorem contains_iff {map : KeyMap κ α} {key : κ} :
    map.contains key = true ↔ ∃ value, map.get? key = some value := by
  simp [contains, Option.isSome_iff_exists]

theorem mem_keys_iff {map : KeyMap κ α} {key : κ} :
    key ∈ map.keys ↔ map.contains key = true := by
  simp only [keys, List.mem_map, contains_iff, ← mem_entries_iff]
  constructor
  · rintro ⟨⟨key, value⟩, member, rfl⟩; exact ⟨value, member⟩
  · rintro ⟨value, member⟩; exact ⟨_, member, rfl⟩

/-- **Maps with the same bindings are equal.** -/
theorem ext_get? {first second : KeyMap κ α}
    (same : ∀ key, first.get? key = second.get? key) : first = second := by
  have entries : first.entries = second.entries := by
    refine eq_of_ascending_of_mem_iff ?_ ?_ first.ascending second.ascending ?_
    · exact fun entry => Key.lt_irrefl entry.1
    · exact fun lower upper => Key.lt_trans lower upper
    · intro ⟨key, value⟩
      rw [mem_entries_iff, mem_entries_iff, same]
  exact KeyMap.ext entries

/-- A map is empty if it binds nothing. -/
theorem isEmpty_iff {map : KeyMap κ α} : map.isEmpty = true ↔ ∀ key, map.get? key = none := by
  simp only [isEmpty, List.isEmpty_iff, List.eq_nil_iff_forall_not_mem, get?_eq_none_iff]
  exact ⟨fun absent key value => absent (key, value), fun absent entry => absent entry.1 entry.2⟩

theorem get?_insert (map : KeyMap κ α) (key other : κ) (value : α) :
    (map.insert key value).get? other = if other = key then some value else map.get? other := by
  obtain ⟨entries, ascending⟩ := map
  simp only [insert, get?]
  induction entries with
  | nil =>
    by_cases same : other = key
    · simp [insertEntry, same]
    · have skipped : (key == other) = false := by simpa using fun equal => same equal.symm
      simp [insertEntry, same, skipped]
  | cons head rest hypothesis =>
    obtain ⟨below, tail⟩ := List.pairwise_cons.1 ascending
    unfold insertEntry
    split
    · by_cases same : other = key
      · simp [same]
      · have skipped : (key == other) = false := by simpa using fun equal => same equal.symm
        simp [same, List.find?_cons, skipped]
    · split
      · rename_i equal
        by_cases same : other = key
        · simp [same]
        · have skipped : (key == other) = false := by simpa using fun equal => same equal.symm
          have skippedHead : (head.1 == other) = false := by rw [← equal]; exact skipped
          simp [same, skipped, skippedHead]
      · rename_i notSmaller different
        by_cases atHead : head.1 = other
        · have apart : ¬ other = key := fun equal => different (by rw [← equal, atHead])
          simp [atHead, apart]
        · have skipped : (head.1 == other) = false := by simpa using atHead
          rw [List.find?_cons, skipped, List.find?_cons, skipped]
          exact hypothesis tail

@[simp] theorem get?_insert_self (map : KeyMap κ α) (key : κ) (value : α) :
    (map.insert key value).get? key = some value := by
  simp [get?_insert]

theorem get?_filter (map : KeyMap κ α) (keep : κ → α → Bool) (key : κ) :
    (map.filter keep).get? key = (map.get? key).filter (keep key) := by
  cases bound : map.get? key with
  | none =>
    rw [get?_eq_none_iff] at bound
    show _ = none
    rw [get?_eq_none_iff]
    exact fun value member => bound value (List.mem_filter.1 member).1
  | some value =>
    by_cases kept : keep key value = true
    · simp only [Option.filter, kept, if_true]
      exact mem_entries_iff.1 (List.mem_filter.2 ⟨mem_entries_iff.2 bound, kept⟩)
    · simp only [Option.filter, kept]
      rw [if_neg (by simp), get?_eq_none_iff]
      intro other member
      obtain ⟨member, passes⟩ := List.mem_filter.1 member
      rw [mem_entries_iff, bound] at member
      cases member
      exact kept passes

theorem get?_erase (map : KeyMap κ α) (key other : κ) :
    (map.erase key).get? other = if other = key then none else map.get? other := by
  rw [erase, get?_filter]
  by_cases same : other = key
  · cases map.get? other <;> simp [same, Option.filter]
  · cases map.get? other <;> simp [same, Option.filter]

/-- Binding a key makes the map larger by one entry at most. -/
theorem size_insert_le (map : KeyMap κ α) (key : κ) (value : α) :
    (map.insert key value).size ≤ map.size + 1 := by
  obtain ⟨entries, ascending⟩ := map
  simp only [size, insert]
  clear ascending
  induction entries with
  | nil => exact Nat.le_refl _
  | cons head rest hypothesis =>
    unfold insertEntry
    split
    · exact Nat.le_refl _
    · split
      · exact Nat.le_succ _
      · exact Nat.succ_le_succ hypothesis

/-- Taking out a bound key makes the map smaller. -/
theorem size_erase_lt {map : KeyMap κ α} {key : κ} {value : α}
    (bound : map.get? key = some value) : (map.erase key).size < map.size := by
  have member := mem_entries_iff.2 bound
  simp only [size, erase, filter]
  exact List.length_filter_lt_length_iff_exists.2 ⟨_, member, by simp⟩

end KeyMap

end SemanticNetwork
