import Lcm.Text.JsString

namespace Lcm.Text

/-- Every surrogate is part of a pair. -/
def WellFormed (text : JsString) : Prop := containsMalformedUtf16 text = false

instance (text : JsString) : Decidable (WellFormed text) :=
  inferInstanceAs (Decidable (containsMalformedUtf16 text = false))

theorem high_not_low {unit : UInt16} (high : Json.isHighSurrogate unit = true) :
    Json.isLowSurrogate unit = false := by
  simp only [Json.isHighSurrogate, Json.isLowSurrogate, Bool.and_eq_true, decide_eq_true_eq] at high ⊢
  rw [Bool.and_eq_false_iff]
  left
  rw [decide_eq_false_iff_not]
  have last := high.2
  rw [UInt16.le_iff_toNat_le] at last ⊢
  exact fun low => absurd (Nat.le_trans low last) (by decide)

@[simp] theorem wellFormed_nil : WellFormed [] := rfl

theorem wellFormed_cons {unit : UInt16} (plain : Json.isHighSurrogate unit = false) {text : JsString} :
    WellFormed (unit :: text) ↔ Json.isLowSurrogate unit = false ∧ WellFormed text := by
  cases text with
  | nil => simp [WellFormed, containsMalformedUtf16, plain]
  | cons following rest => simp [WellFormed, containsMalformedUtf16, plain]

theorem wellFormed_pair {unit following : UInt16} (high : Json.isHighSurrogate unit = true)
    {rest : JsString} : WellFormed (unit :: following :: rest) ↔
      Json.isLowSurrogate following = true ∧ WellFormed rest := by
  simp [WellFormed, containsMalformedUtf16, high]

theorem not_wellFormed_high {unit : UInt16} (high : Json.isHighSurrogate unit = true) :
    ¬ WellFormed [unit] := by
  simp [WellFormed, containsMalformedUtf16, high]

/-- A well-formed text starts with a unit of its own, or with a pair. -/
theorem WellFormed.induct {motive : JsString → Prop} (nil : motive [])
    (plain : ∀ unit text, Json.isHighSurrogate unit = false → Json.isLowSurrogate unit = false →
      WellFormed text → motive text → motive (unit :: text))
    (pair : ∀ high low text, Json.isHighSurrogate high = true → Json.isLowSurrogate low = true →
      WellFormed text → motive text → motive (high :: low :: text)) {text : JsString}
    (formed : WellFormed text) : motive text := by
  induction size : text.length using Nat.strongRecOn generalizing text with
  | ind length ih =>
      subst size
      cases text with
      | nil => exact nil
      | cons unit rest =>
          cases high : Json.isHighSurrogate unit with
          | false =>
              obtain ⟨low, formed⟩ := (wellFormed_cons high).mp formed
              exact plain unit rest high low formed (ih rest.length (by simp) formed rfl)
          | true =>
              cases rest with
              | nil => exact absurd formed (not_wellFormed_high high)
              | cons following rest =>
                  obtain ⟨low, formed⟩ := (wellFormed_pair high).mp formed
                  exact pair unit following rest high low formed (ih rest.length (by simp only [List.length_cons]; omega) formed rfl)

/-- What follows a well-formed text is well-formed exactly when the whole is. -/
theorem WellFormed.append_iff {first second : JsString} (formed : WellFormed first) :
    WellFormed (first ++ second) ↔ WellFormed second := by
  refine WellFormed.induct (motive := fun first => WellFormed (first ++ second) ↔ WellFormed second)
    Iff.rfl ?_ ?_ formed
  · intro unit text high low _ ih
    rw [List.cons_append, wellFormed_cons high, ih]
    simp [low]
  · intro high low text isHigh isLow _ ih
    rw [List.cons_append, List.cons_append, wellFormed_pair isHigh, ih]
    simp [isLow]

/-- A part of a well-formed text is well-formed unless it ends between the two units of a pair. -/
theorem WellFormed.take_iff {text : JsString} (formed : WellFormed text) (count : Nat) :
    WellFormed (text.take count) ↔
      ∀ unit ∈ (text.take count).getLast?, Json.isHighSurrogate unit = false := by
  refine WellFormed.induct (motive := fun text => ∀ count, WellFormed (text.take count) ↔
    ∀ unit ∈ (text.take count).getLast?, Json.isHighSurrogate unit = false) ?_ ?_ ?_ formed count
  · simp
  · intro unit text high low _ ih count
    cases count with
    | zero => simp
    | succ count =>
        rw [List.take_succ_cons, wellFormed_cons high, ih count]
        cases rest : text.take count with
        | nil => simp [high, low]
        | cons next others => simp [low, List.getLast?_cons_cons]
  · intro high low text isHigh isLow formed ih count
    cases count with
    | zero => simp
    | succ count =>
        cases count with
        | zero => simp [WellFormed, containsMalformedUtf16, isHigh]
        | succ count =>
            have plain : Json.isHighSurrogate low = false := by
              by_contra other
              rw [Bool.not_eq_false] at other
              rw [high_not_low other] at isLow
              cases isLow
            rw [List.take_succ_cons, List.take_succ_cons, wellFormed_pair isHigh, ih count]
            cases rest : text.take count with
            | nil => simp [isLow, plain]
            | cons next others => simp [isLow, List.getLast?_cons_cons]

/-- A text without surrogates is well-formed. -/
theorem wellFormed_of_plain {text : JsString}
    (plain : ∀ unit ∈ text, Json.isHighSurrogate unit = false ∧ Json.isLowSurrogate unit = false) :
    WellFormed text := by
  induction text with
  | nil => rfl
  | cons unit text ih =>
      obtain ⟨⟨high, low⟩, rest⟩ := List.forall_mem_cons.mp plain
      exact (wellFormed_cons high).mpr ⟨low, ih rest⟩

/-- A text that goes on with a unit that ends no pair is well-formed on its own. -/
theorem WellFormed.of_append {first second : JsString} (formed : WellFormed (first ++ second))
    (starts : ∀ unit ∈ second.head?, Json.isLowSurrogate unit = false) : WellFormed first := by
  induction first using containsMalformedUtf16.induct with
  | case1 => exact wellFormed_nil
  | case2 unit =>
      cases high : Json.isHighSurrogate unit with
      | false => exact (wellFormed_cons high).mpr ⟨((wellFormed_cons high).mp formed).1, wellFormed_nil⟩
      | true =>
          cases second with
          | nil => exact formed
          | cons following rest =>
              have low := ((wellFormed_pair high).mp formed).1
              rw [starts following rfl] at low
              cases low
  | case3 unit following rest high ih =>
      obtain ⟨low, formed⟩ := (wellFormed_pair high).mp formed
      exact (wellFormed_pair high).mpr ⟨low, ih formed⟩
  | case4 unit following rest high ih =>
      rw [Bool.not_eq_true] at high
      obtain ⟨low, formed⟩ := (wellFormed_cons high).mp formed
      exact (wellFormed_cons high).mpr ⟨low, ih formed⟩

/-- White space is no part of a pair. -/
theorem isWhiteSpace_plain {unit : UInt16} (space : isWhiteSpace unit = true) :
    Json.isHighSurrogate unit = false ∧ Json.isLowSurrogate unit = false := by
  have listed : ∀ unit ∈ ([9, 10, 11, 12, 13, 32, 160, 0x1680, 0x2028, 0x2029, 0x202f, 0x205f, 0x3000,
      0xfeff] : List UInt16), Json.isHighSurrogate unit = false ∧ Json.isLowSurrogate unit = false := by decide
  simp only [isWhiteSpace, Bool.or_eq_true, decide_eq_true_eq, Bool.and_eq_true] at space
  rcases space with inside | ⟨_, last⟩
  · exact listed unit inside
  · rw [UInt16.le_iff_toNat_le] at last
    have small : unit.toNat ≤ 0x200a := last
    have high : ¬ (0xd800 : UInt16) ≤ unit := fun first =>
      absurd (Nat.le_trans (UInt16.le_iff_toNat_le.mp first) small) (by decide)
    have low : ¬ (0xdc00 : UInt16) ≤ unit := fun first =>
      absurd (Nat.le_trans (UInt16.le_iff_toNat_le.mp first) small) (by decide)
    simp [Json.isHighSurrogate, Json.isLowSurrogate, high, low]

/-- Trimming a well-formed text keeps its pairs. -/
theorem WellFormed.trim {text : JsString} (formed : WellFormed text) : WellFormed (trim text) := by
  have left : WellFormed (text.dropWhile isWhiteSpace) := by
    have skipped : WellFormed (text.takeWhile isWhiteSpace) := by
      apply wellFormed_of_plain
      intro unit inside
      exact isWhiteSpace_plain (List.all_eq_true.mp List.all_takeWhile unit inside)
    have parts : text.takeWhile isWhiteSpace ++ text.dropWhile isWhiteSpace = text :=
      List.takeWhile_append_dropWhile
    rw [← parts] at formed
    exact skipped.append_iff.mp formed
  have parts : (text.dropWhile isWhiteSpace).reverse.takeWhile isWhiteSpace ++
      (text.dropWhile isWhiteSpace).reverse.dropWhile isWhiteSpace = (text.dropWhile isWhiteSpace).reverse :=
    List.takeWhile_append_dropWhile
  have whole := congrArg List.reverse parts
  rw [List.reverse_append, List.reverse_reverse] at whole
  rw [← whole] at left
  apply left.of_append
  intro unit first
  have inside : unit ∈ (text.dropWhile isWhiteSpace).reverse.takeWhile isWhiteSpace :=
    List.mem_reverse.mp (List.mem_of_mem_head? first)
  exact (isWhiteSpace_plain (List.all_eq_true.mp List.all_takeWhile unit inside)).2

theorem wellFormed_encodeUtf16 (scalar : Char) : WellFormed (encodeUtf16 scalar) := by
  have valid : scalar.toNat < 0xd800 ∨ 0xdfff < scalar.toNat ∧ scalar.toNat < 0x110000 := scalar.valid
  rw [encodeUtf16]
  split
  · next small =>
      have same : (UInt16.ofNat scalar.toNat).toNat = scalar.toNat := UInt16.toNat_ofNat_of_lt' small
      apply wellFormed_of_plain
      intro unit only
      rw [List.mem_singleton.mp only]
      simp only [Json.isHighSurrogate, Json.isLowSurrogate, Bool.and_eq_false_iff, decide_eq_false_iff_not,
        UInt16.le_iff_toNat_le, same]
      show (¬ 0xd800 ≤ scalar.toNat ∨ ¬ scalar.toNat ≤ 0xdbff) ∧
        (¬ 0xdc00 ≤ scalar.toNat ∨ ¬ scalar.toNat ≤ 0xdfff)
      omega
  · next large =>
      have high : (UInt16.ofNat (0xd800 + (scalar.toNat - 0x10000) / 0x400)).toNat =
          0xd800 + (scalar.toNat - 0x10000) / 0x400 :=
        UInt16.toNat_ofNat_of_lt' (show _ < 65536 by omega)
      have low : (UInt16.ofNat (0xdc00 + (scalar.toNat - 0x10000) % 0x400)).toNat =
          0xdc00 + (scalar.toNat - 0x10000) % 0x400 :=
        UInt16.toNat_ofNat_of_lt' (show _ < 65536 by omega)
      have isHigh : Json.isHighSurrogate (UInt16.ofNat (0xd800 + (scalar.toNat - 0x10000) / 0x400)) = true := by
        simp only [Json.isHighSurrogate, Bool.and_eq_true, decide_eq_true_eq, UInt16.le_iff_toNat_le, high]
        show 0xd800 ≤ 0xd800 + (scalar.toNat - 0x10000) / 0x400 ∧
          0xd800 + (scalar.toNat - 0x10000) / 0x400 ≤ 0xdbff
        omega
      apply (wellFormed_pair isHigh).mpr
      refine ⟨?_, wellFormed_nil⟩
      simp only [Json.isLowSurrogate, Bool.and_eq_true, decide_eq_true_eq, UInt16.le_iff_toNat_le, low]
      show 0xdc00 ≤ 0xdc00 + (scalar.toNat - 0x10000) % 0x400 ∧
        0xdc00 + (scalar.toNat - 0x10000) % 0x400 ≤ 0xdfff
      omega

theorem wellFormed_flatMap_encodeUtf16 (scalars : List Char) :
    WellFormed (scalars.flatMap encodeUtf16) := by
  induction scalars with
  | nil => rfl
  | cons scalar scalars ih =>
      rw [List.flatMap_cons]
      exact (wellFormed_encodeUtf16 scalar).append_iff.mpr ih

theorem wellFormed_js (literal : String) : WellFormed (js literal) := wellFormed_flatMap_encodeUtf16 _

theorem wellFormed_decimal (value : Nat) : WellFormed (decimal value) := wellFormed_flatMap_encodeUtf16 _

end Lcm.Text
