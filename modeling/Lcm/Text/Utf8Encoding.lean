import Lcm.Text.Utf8Decoder
import Mathlib.Data.List.Basic

namespace Lcm.Text

section Scalars

/-- The units of a scalar value are its unit or its pair. -/
theorem encodeUtf16_cases (scalar : Char) :
    (scalar.toNat < 0x10000 ∧ ∃ unit, encodeUtf16 scalar = [unit] ∧ unit.toNat = scalar.toNat ∧
      Json.isHighSurrogate unit = false ∧ loneScalar unit = scalar) ∨
    (0x10000 ≤ scalar.toNat ∧ ∃ high low, encodeUtf16 scalar = [high, low] ∧
      Json.isHighSurrogate high = true ∧ Json.isLowSurrogate low = true ∧ pairScalar high low = scalar) := by
  have valid : scalar.toNat.isValidChar := scalar.valid
  have bounds := valid
  rw [Nat.isValidChar] at bounds
  by_cases short : scalar.toNat < 0x10000
  · have value : (UInt16.ofNat scalar.toNat).toNat = scalar.toNat :=
      UInt16.toNat_ofNat_of_lt' (by simp only [UInt16.size]; omega)
    have high : Json.isHighSurrogate (UInt16.ofNat scalar.toNat) = false := by
      rw [Bool.eq_false_iff, ne_eq, (surrogate_iff _).1, value]
      omega
    have low : Json.isLowSurrogate (UInt16.ofNat scalar.toNat) = false := by
      rw [Bool.eq_false_iff, ne_eq, (surrogate_iff _).2, value]
      omega
    refine .inl ⟨short, _, by rw [encodeUtf16, if_pos short], value, high, ?_⟩
    rw [loneScalar, high, low, value]
    exact Char.ofNat_toNat scalar
  · have highValue : (UInt16.ofNat (0xd800 + (scalar.toNat - 0x10000) / 0x400)).toNat =
        0xd800 + (scalar.toNat - 0x10000) / 0x400 :=
      UInt16.toNat_ofNat_of_lt' (by simp only [UInt16.size]; omega)
    have lowValue : (UInt16.ofNat (0xdc00 + (scalar.toNat - 0x10000) % 0x400)).toNat =
        0xdc00 + (scalar.toNat - 0x10000) % 0x400 :=
      UInt16.toNat_ofNat_of_lt' (by simp only [UInt16.size]; omega)
    refine .inr ⟨Nat.le_of_not_lt short, _, _, by rw [encodeUtf16, if_neg short], ?_, ?_, ?_⟩
    · rw [(surrogate_iff _).1, highValue]
      omega
    · rw [(surrogate_iff _).2, lowValue]
      omega
    · have parts : 0x10000 + (0xd800 + (scalar.toNat - 0x10000) / 0x400 - 0xd800) * 0x400 +
          (0xdc00 + (scalar.toNat - 0x10000) % 0x400 - 0xdc00) = scalar.toNat := by omega
      rw [pairScalar, highValue, lowValue, parts]
      exact Char.ofNat_toNat scalar

/-- A text that encodes scalar values has these scalar values. -/
theorem scalarValues_encodeUtf16 (scalars : List Char) : scalarValues (scalars.flatMap encodeUtf16) = scalars := by
  induction scalars with
  | nil => rfl
  | cons scalar scalars ih =>
      rw [List.flatMap_cons]
      rcases encodeUtf16_cases scalar with ⟨_, unit, units, _, high, lone⟩ | ⟨_, high, low, units, isHigh, isLow, pair⟩
      · rw [units, List.singleton_append, scalarValues_cons high, lone, ih]
      · rw [units, List.cons_append, List.singleton_append, scalarValues, isHigh, isLow, Bool.and_self, if_pos rfl,
          pair, ih]

theorem utf8Size_eq (scalar : Char) : scalar.utf8Size = utf8Length scalar.toNat := by
  have sizes : scalar.utf8Size =
      if scalar.toNat ≤ 0x7f then 1 else if scalar.toNat ≤ 0x7ff then 2 else if scalar.toNat ≤ 0xffff then 3 else 4 :=
    rfl
  have cases := utf8Length_cases scalar.toNat
  rw [sizes]
  split
  · omega
  · split
    · omega
    · split <;> omega

/-- A unit takes at most three bytes. -/
theorem encodeUtf8_length_le (scalars : List Char) :
    (scalars.flatMap String.utf8EncodeChar).length ≤ (scalars.flatMap encodeUtf16).length * 3 := by
  induction scalars with
  | nil => exact Nat.le_refl _
  | cons scalar scalars ih =>
      rw [List.flatMap_cons, List.flatMap_cons, List.length_append, List.length_append,
        String.length_utf8EncodeChar, utf8Size_eq]
      have sizes := utf8Length_cases scalar.toNat
      rcases encodeUtf16_cases scalar with ⟨short, unit, units, _⟩ | ⟨_, high, low, units, _⟩
      · rw [units, List.length_singleton]
        omega
      · rw [units, List.length_cons, List.length_singleton]
        omega

end Scalars

section Validity

/-- Bytes without an error decode to scalar values, whose encoding has as many bytes. -/
theorem ValidUtf8.scalars {bytes : List UInt8} (valid : ValidUtf8 bytes) :
    ∃ scalars : List Char, decodeUtf8 bytes = scalars.flatMap encodeUtf16 ∧
      (scalars.flatMap String.utf8EncodeChar).length = bytes.length := by
  obtain ⟨points, length⟩ := @DecoderState.run_decodes .initial trivial bytes
  have whole := length valid
  unfold decodeUtf8
  rw [ValidUtf8] at valid
  generalize DecoderState.initial.run bytes = decoded at points whole valid
  refine ⟨decoded.map fun codePoint => Char.ofNat (codePoint.getD 0), ?_, ?_⟩
  · rw [List.flatMap_map]
    refine List.flatMap_congr fun codePoint inside => ?_
    cases codePoint with
    | none => exact absurd inside valid
    | some codePoint => rfl
  · rw [List.flatMap_map, List.length_flatMap]
    have held : DecoderState.initial.held = 0 := rfl
    rw [held, Nat.zero_add] at whole
    rw [← whole, DecoderState.weight]
    congr 1
    refine List.map_congr_left fun codePoint inside => ?_
    cases codePoint with
    | none => exact absurd inside valid
    | some codePoint =>
        rw [String.length_utf8EncodeChar, utf8Size_eq, Option.getD_some, toNat_ofNat (points codePoint inside).1]
        rfl

theorem ValidUtf8.length_encodeUtf8 {bytes : List UInt8} (valid : ValidUtf8 bytes) :
    (encodeUtf8 (decodeUtf8 bytes)).length = bytes.length := by
  obtain ⟨scalars, text, length⟩ := valid.scalars
  rw [text, encodeUtf8, scalarValues_encodeUtf16, length]

theorem ValidUtf8.length_le {bytes : List UInt8} (valid : ValidUtf8 bytes) :
    bytes.length ≤ (decodeUtf8 bytes).length * 3 := by
  obtain ⟨scalars, text, length⟩ := valid.scalars
  rw [text, ← length]
  exact encodeUtf8_length_le scalars

/-- A step over a byte that is no ASCII, or inside of a sequence, decodes to no ASCII or goes on. -/
theorem DecoderState.step_high {state : DecoderState} (sound : state.Sound) {byte : Nat}
    (high : state.needed ≠ 0 ∨ 0x80 ≤ byte) :
    (state.step byte).1.needed ≠ 0 ∨
      ∃ codePoint ∈ (state.step byte).2, ∀ value, codePoint = some value → 0x80 ≤ value := by
  unfold step
  split
  · next fresh =>
      have large : 0x80 ≤ byte := high.resolve_left (absurd fresh)
      unfold start
      rw [if_neg (by omega)]
      split
      · exact .inl (by simp)
      · split
        · exact .inl (by simp)
        · split
          · exact .inl (by simp)
          · exact .inr ⟨none, List.mem_singleton_self _, fun _ none => by cases none⟩
  · next unfinished =>
      split
      · next bounds =>
          dsimp only
          split
          · next ends =>
              have last := ((next_decodes sound unfinished bounds.1 bounds.2).1 ends).1
              exact .inr ⟨_, List.mem_singleton_self _, fun value same => Option.some.inj same ▸ last⟩
          · exact .inl unfinished
      · exact .inr ⟨none, List.mem_cons_self .., fun _ none => by cases none⟩

/-- A byte that is no ASCII leaves an error or a code point that is none. -/
theorem DecoderState.run_high {state : DecoderState} (sound : state.Sound) {bytes : List UInt8}
    (high : state.needed ≠ 0 ∨ ∃ byte ∈ bytes, 0x80 ≤ byte.toNat) :
    ∃ codePoint ∈ state.run bytes, ∀ value, codePoint = some value → 0x80 ≤ value := by
  induction bytes generalizing state with
  | nil =>
      have unfinished : state.needed ≠ 0 := by simpa using high
      exact ⟨none, by simp [run, flush, unfinished], nofun⟩
  | cons byte bytes ih =>
      have after := (step_decodes sound byte.toNat_lt).1
      rw [run]
      by_cases now : state.needed ≠ 0 ∨ 0x80 ≤ byte.toNat
      · rcases step_high sound now with unfinished | ⟨codePoint, inside, large⟩
        · obtain ⟨codePoint, inside, large⟩ := ih after (.inl unfinished)
          exact ⟨codePoint, List.mem_append_right _ inside, large⟩
        · exact ⟨codePoint, List.mem_append_left _ inside, large⟩
      · rw [not_or] at now
        have later : ∃ byte ∈ bytes, 0x80 ≤ byte.toNat := by
          obtain ⟨other, inside, large⟩ := high.resolve_left now.1
          rcases List.mem_cons.mp inside with rfl | inside
          · exact absurd large now.2
          · exact ⟨other, inside, large⟩
        obtain ⟨codePoint, inside, large⟩ := ih after (.inr later)
        exact ⟨codePoint, List.mem_append_right _ inside, large⟩

/-- A byte of ASCII decodes to itself. -/
theorem mem_decodeUtf8_of_ascii {bytes : List UInt8} {byte : UInt8} (inside : byte ∈ bytes) (ascii : byte.toNat < 0x80) :
    byte.toUInt16 ∈ decodeUtf8 bytes := by
  obtain ⟨before, rest, rfl⟩ := List.append_of_mem inside
  rw [decodeUtf8_append_ascii before rest ascii]
  exact List.mem_append_right _ (List.mem_cons_self ..)

/-- A byte that is no ASCII decodes to a unit that is none. -/
theorem exists_decodeUtf8_high {bytes : List UInt8} {byte : UInt8} (inside : byte ∈ bytes) (high : 0x80 ≤ byte.toNat) :
    ∃ unit ∈ decodeUtf8 bytes, 0x80 ≤ unit.toNat := by
  obtain ⟨codePoint, decoded, large⟩ :=
    @DecoderState.run_high .initial trivial bytes (.inr ⟨byte, inside, high⟩)
  have units : ∃ unit ∈ decodedUnits codePoint, 0x80 ≤ unit.toNat := by
    cases codePoint with
    | none => exact ⟨0xfffd, List.mem_singleton_self _, by decide⟩
    | some codePoint =>
        have valid := ((@DecoderState.run_decodes .initial trivial bytes).1 codePoint decoded).1
        have bound := large codePoint rfl
        rcases encodeUtf16_cases (Char.ofNat codePoint) with
          ⟨_, unit, units, value, _⟩ | ⟨_, first, second, units, isHigh, _⟩
        · exact ⟨unit, by simp [decodedUnits, units], by rw [value, toNat_ofNat valid]; exact bound⟩
        · refine ⟨first, by simp [decodedUnits, units], ?_⟩
          have bounds := (surrogate_iff first).1.mp isHigh
          omega
  obtain ⟨unit, encoded, bound⟩ := units
  exact ⟨unit, List.mem_flatMap.mpr ⟨codePoint, decoded, encoded⟩, bound⟩

end Validity

end Lcm.Text
