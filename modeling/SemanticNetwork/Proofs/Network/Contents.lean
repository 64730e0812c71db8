/-
**Links by what they hold.** Links are filed under the bits of what they hold, and what is found on
file is compared with the payload asked for once more, as a number if it is one. The two notions of
equality differ on zeros, which are filed apart and compare as equal, and on what is no number,
which is filed under its own bits and equals nothing. Together they are equality of payloads, except
that what is no number is never found.

* `Payload.isNaN`, `Payload.sameValue_self`: a payload equals itself unless it is no number;
* `Store.mem_linksHolding_iff`: **the links that are found are those that hold the payload**;
* `Store.holds_exactly`: **so in every reachable store the answer is that of a scan**, in the order
  of the addresses, for every payload that is not undefined;
* `Store.undefinedFilled_not_found`: a link that holds no number is not found by what it holds.
-/
import SemanticNetwork.Proofs.Network.Session

namespace SemanticNetwork

/-! ### The two notions of equality -/

namespace Payload

/-- Whether the payload is a number by its kind and none by its bits. -/
def isNaN : Payload → Bool
  | .real number => number.isNaN
  | _ => false

/-- **A payload has the value it has**, unless it is no number. -/
theorem sameValue_self (payload : Payload) : payload.sameValue payload = !payload.isNaN := by
  cases payload with
  | real number => simp [sameValue, isNaN, Binary64.sameValue]
  | int value => simp [sameValue, isNaN]
  | text value => simp [sameValue, isNaN]
  | bytes value => simp [sameValue, isNaN]

end Payload

/-! ### What is found -/

namespace Store

variable {store : Store} {link : Address} {payload : Payload}

/-- A payload is that of a link. -/
theorem Consistent.payload?_eq_some_iff (consistent : store.Consistent) :
    store.payload? link = some payload ↔
      ∃ type, store.get? link = some ⟨link, type, .link (some payload)⟩ := by
  constructor
  · intro holds
    obtain ⟨⟨own, type, body⟩, found, held⟩ := Option.bind_eq_some_iff.1 holds
    obtain rfl : own = link := consistent.keyed found
    obtain _ | _ | _ := body <;> cases held
    exact ⟨type, found⟩
  · rintro ⟨type, found⟩
    rw [payload?, found]
    rfl

/-- **A link is found if it holds the payload**, and the payload is not undefined. -/
theorem mem_linksHolding_iff (consistent : store.Consistent) :
    link ∈ store.linksHolding payload ↔
      store.payload? link = some payload ∧ payload.isNaN = false := by
  have filed := (answersFromTable_of_consistent consistent).filedByPayload payload link
  rw [linksHolding, List.mem_filter, KeyMap.mem_keys_iff]
  constructor
  · rintro ⟨listed, same⟩
    have holds := filed.1 listed
    rw [holds, Option.any_some, Payload.sameValue_self] at same
    exact ⟨holds, by simpa using same⟩
  · rintro ⟨holds, defined⟩
    refine ⟨filed.2 holds, ?_⟩
    simp [holds, Payload.sameValue_self, defined]

theorem linksHolding_ascending (store : Store) (payload : Payload) :
    (store.linksHolding payload).Pairwise (· < ·) :=
  (KeyMap.keys_ascending _).sublist List.filter_sublist

/-- What is no number is not found, wherever it is held. -/
theorem linksHolding_eq_nil (consistent : store.Consistent) (undefined : payload.isNaN = true) :
    store.linksHolding payload = [] := by
  refine List.eq_nil_iff_forall_not_mem.2 fun link member => ?_
  have defined := ((mem_linksHolding_iff consistent).1 member).2
  rw [undefined] at defined
  cases defined

/-- **Links are found by exactly what they hold**, in every reachable store: the answer is what a walk
over the whole table finds, in ascending order and without repetition, and what is found are links
with that very payload. What is no number is the exception: nothing is found by it. -/
theorem holds_exactly (reachable : store.Reachable) (payload : Payload) :
    (store.linksHolding payload).Pairwise (· < ·) ∧
      (payload.isNaN = false →
        store.linksHolding payload = store.scan (fun element => element.payload? == some payload) ∧
        ∀ link, link ∈ store.linksHolding payload ↔
          ∃ type, store.get? link = some ⟨link, type, .link (some payload)⟩) ∧
      (payload.isNaN = true → store.linksHolding payload = []) := by
  have consistent := reachable.consistent
  have ascending := store.linksHolding_ascending payload
  refine ⟨ascending, fun defined => ?_, linksHolding_eq_nil consistent⟩
  have members : ∀ link, link ∈ store.linksHolding payload ↔ store.payload? link = some payload := by
    intro link
    rw [mem_linksHolding_iff consistent]
    exact and_iff_left defined
  refine ⟨eq_scan ascending fun link => ?_, fun link => ?_⟩
  · rw [members, payload?, Option.bind_eq_some_iff]
    simp only [beq_iff_eq]
  · rw [members, consistent.payload?_eq_some_iff]

/-- Zero, and zero with the sign set. -/
def zero : Payload := .real ⟨0⟩

def negativeZero : Payload := .real ⟨0x8000000000000000⟩

/-- The usual bits of what is no number. -/
def undefinedNumber : Payload := .real ⟨0x7ff8000000000000⟩

/-- Five links: two that hold zero, one of them after a text, one that holds it with the sign set, one
that holds no number, and one that holds nothing. -/
def numbersFilled : Store :=
  ((Session.start (.new 4 .manual) []).run
    [.createLink, .createLink, .createLink, .createLink, .createLink,
      .setPayload ⟨3⟩ (.text "0"), .setPayload ⟨3⟩ zero, .setPayload ⟨1⟩ zero,
      .setPayload ⟨2⟩ negativeZero, .setPayload ⟨4⟩ undefinedNumber]).network.store

/-- The zeros are told apart, and the text that was replaced is not found any more. -/
theorem numbersFilled_holds_exactly :
    numbersFilled.Reachable ∧ zero.isNaN = false ∧ undefinedNumber.isNaN = true ∧
      numbersFilled.linksHolding zero =
        numbersFilled.scan (fun element => element.payload? == some zero) ∧
      numbersFilled.linksHolding zero = [⟨1⟩, ⟨3⟩] ∧
      numbersFilled.linksHolding negativeZero = [⟨2⟩] ∧
      numbersFilled.linksHolding (.text "0") = [] ∧
      numbersFilled.linksHolding undefinedNumber = [] := by
  have reachable : numbersFilled.Reachable := ⟨_, _, _, rfl⟩
  have undefined : undefinedNumber.isNaN = true := by decide +kernel
  have defined : zero.isNaN = false := by decide +kernel
  exact ⟨reachable, defined, undefined, ((holds_exactly reachable zero).2.1 defined).1, by decide +kernel,
    by decide +kernel, by decide +kernel, (holds_exactly reachable undefinedNumber).2.2 undefined⟩

/-- **A link that holds no number is not found by what it holds**, though it is filed under it. -/
theorem undefinedFilled_not_found :
    numbersFilled.Reachable ∧
      numbersFilled.get? ⟨4⟩ = some ⟨⟨4⟩, .constantLink, .link (some undefinedNumber)⟩ ∧
      numbersFilled.byPayload.files undefinedNumber ⟨4⟩ = true ∧
      ⟨4⟩ ∉ numbersFilled.linksHolding undefinedNumber :=
  ⟨⟨_, _, _, rfl⟩, by decide +kernel, by decide +kernel, by decide +kernel⟩

end Store

end SemanticNetwork
