/-
**Payloads that are read back.** A payload is written as an alternative that carries what it holds,
and read from the name and the content of that alternative. So it is read back as its content is, and
always as a payload of its kind. Integers, texts and bytes come back with any library that is as
documented; what is no finite number is written as `null` and does not come back at all.

* `Payload.reread_eq`: **a payload is read back as what it holds**;
* `Payload.reread_written`: **which payloads come back**;
* `Payload.reread_undefined`: what is no number does not.
-/
import SemanticNetwork.Payload.Wire
import SemanticNetwork.Proofs.Wire.Json

namespace SemanticNetwork.Payload

open Wire (Library)

variable {library : Library}

/-- What is read back of what a payload holds, on its own. -/
def rereadContent (library : Library) : Payload → Option Payload
  | .int value => (library.reread library.int value).map .int
  | .real value => (library.reread library.real value).map .real
  | .text value => (library.reread library.text value).map .text
  | .bytes value => (library.reread library.bytes value).map .bytes

theorem isContent_writtenContent (payload : Payload) :
    library.IsContent (payload.writtenContent library) := by
  cases payload with
  | int value => exact .int value
  | real value => exact .real value
  | text value => exact .text value
  | bytes value => exact .bytes value

/-- **A payload is read back as what it holds.** -/
theorem reread_eq (documented : library.Documented) (payload : Payload) :
    payload.reread library = payload.rereadContent library := by
  have tagged := documented.tagged payload.kind.name (isContent_writtenContent payload)
  have alone : payload.reread library =
      library.parse? (payload.writtenContent library) >>= ofContent? library payload.kind.name := by
    have parts : payload.reread library = (library.parse? (payload.written library) >>=
        library.untag?) >>= fun read => ofContent? library read.1 read.2 :=
      (Option.bind_assoc ..).symm
    rw [parts, written, tagged]
    cases library.parse? (payload.writtenContent library) <;> rfl
  -- The name of the kind says by which codec the content is read.
  rw [alone]
  cases payload with
  | int value => exact Option.map_bind.symm
  | real value => exact Option.map_bind.symm
  | text value => exact Option.map_bind.symm
  | bytes value => exact Option.map_bind.symm

/-- What is not finite is read as nothing. -/
theorem reread_infinite (documented : library.Documented) {value : Binary64}
    (infinite : value.isFinite = false) : library.reread library.real value = none := by
  rw [Library.reread, documented.infinite infinite]
  cases said : library.parse? "null" with
  | none => rfl
  | some content => exact documented.null said

/-- What is read back of a payload is of its kind. -/
theorem kind_of_rereadContent {payload other : Payload}
    (read : payload.rereadContent library = some other) : other.kind = payload.kind := by
  cases payload <;>
  · obtain ⟨value, -, rfl⟩ := Option.map_eq_some_iff.1 read
    rfl

/-- **Which payloads come back.** Integers, texts and bytes do, and a number does exactly if it is
finite and the library reads it from what it writes for it. What is not finite is not read as anything,
and nothing is read as a payload of another kind. -/
theorem reread_written (documented : library.Documented) (payload : Payload) :
    (payload.reread library = some payload ↔ ∀ number, payload = .real number →
      number.isFinite = true ∧ library.reread library.real number = some number) ∧
    (∀ number, payload = .real number → number.isFinite = false →
      payload.reread library = none) ∧
    ∀ other, payload.reread library = some other → other.kind = payload.kind := by
  rw [reread_eq documented]
  refine ⟨?_, ?_, fun other read => kind_of_rereadContent read⟩
  · cases payload with
    | int value => simp [rereadContent, documented.int]
    | text value => simp [rereadContent, documented.text]
    | bytes value => simp [rereadContent, documented.bytes]
    | real number =>
      cases finite : number.isFinite with
      | true => simp [rereadContent, finite]
      | false => simp [rereadContent, finite, reread_infinite documented finite]
  · rintro number rfl infinite
    rw [rereadContent, reread_infinite documented infinite]
    rfl

/-- Ten to the power of three hundred. -/
def huge : Binary64 := ⟨0x7e37e43c8800759c⟩

/-- This number is read from what is written for it, which is a digit and an exponent. -/
theorem json_reread_huge : Wire.json.reread Wire.json.real huge = some huge := by
  have numeral : huge.numeral = ⟨false, ['1'], [], some 300⟩ := by decide +kernel
  have scaled : Wire.Number.scale (.ofNat false 1) 300 = some huge := by
    rw [Wire.Number.scale]
    decide +kernel
  rw [Wire.json_reread (Wire.spells_real (by decide +kernel)), numeral]
  show (Wire.Number.scale (.ofNat false 1) 300).bind some = _
  rw [scaled]
  rfl

/-- The greatest integer comes back, and so do a text with an escape and a huge number. -/
theorem reread_greatest :
    (Payload.int 9223372036854775807).reread Wire.json = some (.int 9223372036854775807) ∧
    (Payload.text "λ\t").reread Wire.json = some (.text "λ\t") ∧
    (Payload.real huge).reread Wire.json = some (.real huge) := by
  refine ⟨(reread_written Wire.json_documented _).1.2 nofun,
    (reread_written Wire.json_documented _).1.2 nofun,
    (reread_written Wire.json_documented _).1.2 ?_⟩
  rintro number ⟨⟩
  exact ⟨by decide +kernel, json_reread_huge⟩

/-- **What is no number does not come back**, and neither does infinity. -/
theorem reread_undefined : Wire.json.Documented ∧
    (Payload.real ⟨0x7ff8000000000000⟩).reread Wire.json = none ∧
    (Payload.real ⟨0x7ff0000000000000⟩).reread Wire.json = none := by
  have lost : ∀ number : Binary64, number.isFinite = false →
      (Payload.real number).reread Wire.json = none := by
    intro number infinite
    rw [reread_eq Wire.json_documented, rereadContent,
      reread_infinite Wire.json_documented infinite]
    rfl
  exact ⟨Wire.json_documented, lost _ (by decide), lost _ (by decide)⟩

end SemanticNetwork.Payload
