/-
**JSON is what is documented.** Whatever an alternative carries is one value, a numeral, a text, an
array of numerals or `null`, and it is read as that value alone and inside the alternative. Integers,
texts and bytes are read as they were written, and nothing that is not finite is read as a number.

* `spells_int`, `spells_real`, `spells_infinite`, `spells_text`, `spells_bytes`: what is written for
  values;
* `json_documented`: **the library that reads and writes JSON is as documented.**
-/
import SemanticNetwork.Proofs.Binary64.Spelling
import SemanticNetwork.Proofs.Wire.Documents
import SemanticNetwork.Wire.Json

namespace SemanticNetwork.Wire

/-! ### Integers and bytes -/

namespace Numeral

/-- The numeral of an integer. -/
def ofInt (value : Int) : Numeral :=
  ⟨decide (value < 0), Nat.toDigits 10 value.natAbs, [], none⟩

theorem isProper_ofInt (value : Int) : (ofInt value).IsProper where
  whole := isDigits_toDigits _
  fraction := nofun
  nonempty := Nat.toDigits_ne_nil
  leading := by
    intro zero
    cases size : value.natAbs with
    | zero => simp [ofInt, size]
    | succ more => exact absurd zero (head?_toDigits (by omega))

theorem spelling_ofInt (value : Int) : (ofInt value).spelling = (toString value).toList := by
  rw [Int.toString_eq_repr, Int.repr_eq_if]
  by_cases negative : value < 0
  · rw [if_neg (by omega), show (-value).toNat = value.natAbs by omega]
    simp [ofInt, spelling, fractionChars, exponentChars, negative, Nat.toList_repr]
  · rw [if_pos (by omega), show value.toNat = value.natAbs by omega]
    simp [ofInt, spelling, fractionChars, exponentChars, negative, Nat.toList_repr]

/-- The numeral of an integer is read as the integer. -/
theorem toInt?_ofInt (value : Int) : (ofInt value).number.toInt? = some value := by
  have digits := digitValues_toDigits value.natAbs
  have isWhole : (ofInt value).number.isWhole = true := rfl
  rw [Number.toInt?, if_pos isWhole]
  simp only [number, ofInt, digits]
  by_cases negative : value < 0
  · obtain ⟨more, size⟩ := Nat.exists_eq_succ_of_ne_zero (show value.natAbs ≠ 0 by omega)
    simp only [decide_eq_true negative, size]
    exact congrArg some (by omega)
  · simp only [decide_eq_false negative]
    exact congrArg some (by omega)

end Numeral

/-- An integer that fits is read as it. -/
theorem int64?_ofInt (value : Int64) :
    (Value.number (Numeral.ofInt value.toInt).number).int64? = some value := by
  have within : -Int.ofNat (Nat.pow 2 63) ≤ value.toInt ∧
      value.toInt < Int.ofNat (Nat.pow 2 63) := ⟨value.le_toInt, value.toInt_lt⟩
  simp only [Value.int64?, Value.int?, Numeral.toInt?_ofInt, Option.bind_eq_bind,
    Option.bind_some]
  rw [if_pos within, Int64.ofInt_toInt]

/-- The numeral of a byte. -/
def byteNumeral (byte : UInt8) : Numeral := .ofInt byte.toNat

theorem byte?_byteNumeral (byte : UInt8) :
    (Value.number (byteNumeral byte).number).byte? = some byte := by
  have small : (0 : Int) ≤ byte.toNat ∧ (byte.toNat : Int) < (256 : Nat) := by
    have := byte.toNat_lt
    omega
  simp only [Value.byte?, Value.nat?, Value.int?, byteNumeral, Numeral.toInt?_ofInt,
    Option.bind_eq_bind, Option.bind_some]
  rw [if_pos small]
  simp

/-- The numbers of a list of bytes. -/
def byteNumbers (value : List UInt8) : List Number :=
  (value.map byteNumeral).map Numeral.number

/-- A list of bytes is read byte by byte. -/
theorem list?_byteNumbers (value : List UInt8) :
    (Value.array ((byteNumbers value).map .number)).list? Value.byte? = some value := by
  show ((byteNumbers value).map Value.number).mapM Value.byte? = some value
  induction value with
  | nil => rfl
  | cons byte more hypothesis =>
    have goesOn : ((byteNumbers (byte :: more)).map Value.number).mapM Value.byte? = (do
        let first ← (Value.number (byteNumeral byte).number).byte?
        return first :: (← ((byteNumbers more).map Value.number).mapM Value.byte?)) :=
      List.mapM_cons
    rw [goesOn, byte?_byteNumeral, hypothesis]
    rfl

/-! ### What is written for values -/

theorem spells_numeral {numeral : Numeral} {written : String} (proper : numeral.IsProper)
    (same : written.toList = numeral.spelling) : Spells written (.number numeral.number) where
  exists_tokens := ⟨_, reads_number numeral.number, fun ends scans => by
    rw [same]
    exact scans.numeral proper ends⟩

theorem spells_null : Spells "null" .null where
  exists_tokens := ⟨_, reads_null, fun _ scans => scans.null⟩

theorem spells_int (value : Int64) :
    Spells (json.int.write value) (.number (Numeral.ofInt value.toInt).number) :=
  spells_numeral (Numeral.isProper_ofInt _) (Numeral.spelling_ofInt _).symm

theorem spells_real {value : Binary64} (finite : value.isFinite = true) :
    Spells (json.real.write value) (.number value.numeral.number) :=
  spells_numeral value.isProper_numeral (Binary64.toList_spell_wire finite)

/-- What is not finite is written as `null`. -/
theorem write_infinite {value : Binary64} (infinite : value.isFinite = false) :
    json.real.write value = "null" := by
  show value.spell .wire = "null"
  rw [Binary64.spell, infinite]
  split
  · rfl
  · rfl

theorem spells_infinite {value : Binary64} (infinite : value.isFinite = false) :
    Spells (json.real.write value) .null :=
  write_infinite infinite ▸ spells_null

theorem spells_text (value : String) : Spells (json.text.write value) (.text (some value)) where
  exists_tokens := ⟨_, reads_text (some value), fun _ scans => scans.quote value⟩

theorem spells_bytes (value : List UInt8) :
    Spells (json.bytes.write value) (.array ((byteNumbers value).map .number)) where
  exists_tokens := by
    have written : json.bytes.write value = printArray
        ((value.map byteNumeral).map fun numeral => String.ofList numeral.spelling) := by
      show printArray (value.map fun byte => toString byte.toNat) = _
      rw [List.map_map]
      congr 2
      funext byte
      simp only [Function.comp_apply, byteNumeral, Numeral.spelling_ofInt, String.ofList_toList]
      rfl
    have proper : ∀ numeral ∈ value.map byteNumeral, numeral.IsProper := by
      intro numeral member
      obtain ⟨byte, -, rfl⟩ := List.mem_map.1 member
      exact Numeral.isProper_ofInt _
    refine ⟨_, reads_numbers (byteNumbers value), fun _ scans => ?_⟩
    rw [written]
    exact scans.printArray proper

/-- Whatever an alternative carries says something. -/
theorem exists_spells {content : String} (isContent : json.IsContent content) :
    ∃ value, Spells content value := by
  cases isContent with
  | int value => exact ⟨_, spells_int value⟩
  | real value =>
    cases finite : value.isFinite with
    | true => exact ⟨_, spells_real finite⟩
    | false => exact ⟨_, spells_infinite finite⟩
  | text value => exact ⟨_, spells_text value⟩
  | bytes value => exact ⟨_, spells_bytes value⟩

/-! ### What is read -/

/-- A value is read from what is written for it as from what that says. -/
theorem json_reread {α : Type} {codec : Codec Value α} {value : α} {said : Value}
    (spells : Spells (codec.write value) said) : json.reread codec value = codec.read? said := by
  show Value.parse? (codec.write value) >>= codec.read? = codec.read? said
  rw [spells.parse?]
  rfl

/-- **The library that reads and writes JSON is as documented.** -/
theorem json_documented : json.Documented where
  tagged := by
    intro name content isContent
    obtain ⟨value, spells⟩ := exists_spells isContent
    show Value.parse? (printObject [(name, content)]) >>= Value.carrier? =
      (Value.parse? content).map (name, ·)
    rw [spells.parse?, spells.parse?_member]
    rfl
  int value := (json_reread (spells_int value)).trans (int64?_ofInt value)
  text value := json_reread (spells_text value)
  bytes value := (json_reread (spells_bytes value)).trans (list?_byteNumbers value)
  infinite := write_infinite
  null said := by
    obtain rfl : Value.null = _ := Option.some.inj (spells_null.parse?.symm.trans said)
    rfl

end SemanticNetwork.Wire
