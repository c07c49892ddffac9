import Lcm.Text.WellFormed
import Lcm.Text.SqliteText

namespace Lcm.Text

/-- The scalar value of a unit that is part of no pair. -/
def loneScalar (unit : UInt16) : Char :=
  if Json.isHighSurrogate unit || Json.isLowSurrogate unit then Char.ofNat replacementCharacter.toNat
  else Char.ofNat unit.toNat

/-- The scalar value of a pair. -/
def pairScalar (high low : UInt16) : Char :=
  Char.ofNat (0x10000 + (high.toNat - 0xd800) * 0x400 + (low.toNat - 0xdc00))

/-- The Unicode scalar values of a text. -/
def scalarValues : JsString → List Char
  | [] => []
  | [unit] => [loneScalar unit]
  | unit :: following :: rest =>
      if Json.isHighSurrogate unit && Json.isLowSurrogate following then
        pairScalar unit following :: scalarValues rest
      else loneScalar unit :: scalarValues (following :: rest)

/-- The bytes of a text in UTF-8. -/
def encodeUtf8 (text : JsString) : List UInt8 := (scalarValues text).flatMap String.utf8EncodeChar

theorem scalarValues_cons {unit : UInt16} (plain : Json.isHighSurrogate unit = false) (text : JsString) :
    scalarValues (unit :: text) = loneScalar unit :: scalarValues text := by
  cases text with
  | nil => simp [scalarValues]
  | cons following rest => simp [scalarValues, plain]

theorem toNat_ofNat {value : Nat} (valid : value.isValidChar) : (Char.ofNat value).toNat = value := by
  rw [Char.ofNat, dif_pos valid]
  rfl

/-- The bounds of the surrogates as numbers. -/
theorem surrogate_iff (unit : UInt16) :
    (Json.isHighSurrogate unit = true ↔ 0xd800 ≤ unit.toNat ∧ unit.toNat ≤ 0xdbff) ∧
      (Json.isLowSurrogate unit = true ↔ 0xdc00 ≤ unit.toNat ∧ unit.toNat ≤ 0xdfff) := by
  simp only [Json.isHighSurrogate, Json.isLowSurrogate, Bool.and_eq_true, decide_eq_true_eq,
    UInt16.le_iff_toNat_le]
  exact ⟨Iff.rfl, Iff.rfl⟩

theorem encodeUtf16_loneScalar {unit : UInt16} (high : Json.isHighSurrogate unit = false)
    (low : Json.isLowSurrogate unit = false) : encodeUtf16 (loneScalar unit) = [unit] := by
  have small := unit.toNat_lt
  have notHigh := mt (surrogate_iff unit).1.mpr (by simp [high])
  have notLow := mt (surrogate_iff unit).2.mpr (by simp [low])
  have same : (Char.ofNat unit.toNat).toNat = unit.toNat := toNat_ofNat (by rw [Nat.isValidChar]; omega)
  rw [loneScalar, high, low]
  simp only [Bool.or_self, Bool.false_eq_true, if_false]
  rw [encodeUtf16, same, if_pos (by omega), UInt16.ofNat_toNat]

theorem encodeUtf16_pairScalar {high low : UInt16} (isHigh : Json.isHighSurrogate high = true)
    (isLow : Json.isLowSurrogate low = true) : encodeUtf16 (pairScalar high low) = [high, low] := by
  have highBounds := (surrogate_iff high).1.mp isHigh
  have lowBounds := (surrogate_iff low).2.mp isLow
  have same : (pairScalar high low).toNat =
      0x10000 + (high.toNat - 0xd800) * 0x400 + (low.toNat - 0xdc00) :=
    toNat_ofNat (by rw [Nat.isValidChar]; omega)
  rw [encodeUtf16, same, if_neg (by omega)]
  have first : 0xd800 + (0x10000 + (high.toNat - 0xd800) * 0x400 + (low.toNat - 0xdc00) - 0x10000) / 0x400 =
      high.toNat := by omega
  have second : 0xdc00 + (0x10000 + (high.toNat - 0xd800) * 0x400 + (low.toNat - 0xdc00) - 0x10000) % 0x400 =
      low.toNat := by omega
  simp only [first, second, UInt16.ofNat_toNat]

/-- A well-formed text is the encoding of its scalar values. -/
theorem WellFormed.encodeUtf16_scalarValues {text : JsString} (formed : WellFormed text) :
    (scalarValues text).flatMap encodeUtf16 = text := by
  refine WellFormed.induct (motive := fun text => (scalarValues text).flatMap encodeUtf16 = text) rfl
    ?_ ?_ formed
  · intro unit text high low _ ih
    rw [scalarValues_cons high, List.flatMap_cons, ih, encodeUtf16_loneScalar high low,
      List.singleton_append]
  · intro high low text isHigh isLow _ ih
    rw [scalarValues, isHigh, isLow, Bool.and_self, if_pos rfl, List.flatMap_cons, ih,
      encodeUtf16_pairScalar isHigh isLow]
    rfl

theorem utf8Encode_injective {first second : List Char}
    (same : first.flatMap String.utf8EncodeChar = second.flatMap String.utf8EncodeChar) :
    first = second := by
  have encoded : first.utf8Encode = second.utf8Encode := by
    rw [List.utf8Encode, List.utf8Encode, same]
  have texts : String.ofList first = String.ofList second := by
    rw [← String.toByteArray_inj, String.toByteArray_ofList, String.toByteArray_ofList, encoded]
  rw [← String.toList_ofList (l := first), texts, String.toList_ofList]

/-- Two well-formed texts with the same bytes are the same text. -/
theorem WellFormed.encodeUtf8_inj {first second : JsString} (firstFormed : WellFormed first)
    (secondFormed : WellFormed second) (same : encodeUtf8 first = encodeUtf8 second) :
    first = second := by
  rw [← firstFormed.encodeUtf16_scalarValues, utf8Encode_injective same,
    secondFormed.encodeUtf16_scalarValues]

end Lcm.Text
