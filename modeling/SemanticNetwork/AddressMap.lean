/-
**Maps and sets of addresses.** Addresses are keys in the order in which they are handed out, so a
map of addresses lists its entries from the oldest element to the youngest.

* `AddressMap`, `AddressSet`: maps and sets whose keys are addresses;
* `Address.sort`: addresses in ascending order, each as often as it occurs;
* `Address.sort_ascending`: distinct addresses come out strictly ascending.
-/
import SemanticNetwork.Address
import SemanticNetwork.KeyMap

namespace SemanticNetwork

instance : Key Address where
  decidableLT := inferInstance
  lt_irrefl address := Nat.lt_irrefl address.value
  lt_trans lower upper := Nat.lt_trans lower upper
  lt_or_lt different := Nat.lt_or_gt_of_ne fun same => different (Address.ext_value same)

/-- A finite map from addresses. -/
abbrev AddressMap (α : Type) := KeyMap Address α

/-- A finite set of addresses. -/
abbrev AddressSet := AddressMap Unit

namespace Address

/-- Put an address at its place among ascending ones. -/
def insertSorted (address : Address) : List Address → List Address
  | [] => [address]
  | head :: rest => if head < address then head :: insertSorted address rest
    else address :: head :: rest

/-- The addresses in ascending order, each as often as it occurs. -/
def sort (addresses : List Address) : List Address := addresses.foldr insertSorted []

theorem insertSorted_perm (address : Address) (addresses : List Address) :
    (insertSorted address addresses).Perm (address :: addresses) := by
  induction addresses with
  | nil => exact .refl _
  | cons head rest hypothesis =>
    unfold insertSorted
    split
    · exact (hypothesis.cons head).trans (.swap address head rest)
    · exact .refl _

/-- Sorting keeps every address, as often as it occurs. -/
theorem sort_perm (addresses : List Address) : (sort addresses).Perm addresses := by
  induction addresses with
  | nil => exact .refl _
  | cons head rest hypothesis =>
    exact (insertSorted_perm head (sort rest)).trans (hypothesis.cons head)

@[simp] theorem mem_sort {address : Address} {addresses : List Address} :
    address ∈ sort addresses ↔ address ∈ addresses :=
  (sort_perm addresses).mem_iff

theorem insertSorted_ascending {address : Address} {addresses : List Address}
    (ascending : addresses.Pairwise (· < ·)) (fresh : address ∉ addresses) :
    (insertSorted address addresses).Pairwise (· < ·) := by
  induction addresses with
  | nil => simp [insertSorted]
  | cons head rest hypothesis =>
    obtain ⟨below, tail⟩ := List.pairwise_cons.1 ascending
    obtain ⟨apart, freshInRest⟩ := not_or.1 (fun member => fresh (List.mem_cons.2 member))
    unfold insertSorted
    split
    · rename_i smaller
      refine List.pairwise_cons.2 ⟨fun other member => ?_, hypothesis tail freshInRest⟩
      rcases List.mem_cons.1 ((insertSorted_perm address rest).mem_iff.1 member) with same | found
      · exact same ▸ smaller
      · exact below other found
    · rename_i notSmaller
      have first : address < head := (Key.lt_or_lt apart).resolve_right notSmaller
      refine List.pairwise_cons.2 ⟨fun other member => ?_, ascending⟩
      rcases List.mem_cons.1 member with same | found
      · exact same ▸ first
      · exact Key.lt_trans first (below other found)

/-- **Distinct addresses come out strictly ascending.** -/
theorem sort_ascending {addresses : List Address} (distinct : addresses.Nodup) :
    (sort addresses).Pairwise (· < ·) := by
  induction addresses with
  | nil => exact .nil
  | cons head rest hypothesis =>
    obtain ⟨fresh, tail⟩ := List.nodup_cons.1 distinct
    exact insertSorted_ascending (hypothesis tail) (fun member => fresh (mem_sort.1 member))

end Address

end SemanticNetwork
