import Lcm.Library.JsonSize
import Lcm.Text.JsDate
import Lcm.Text.Utf8
import Lcm.Text.Uuid

namespace Lcm.Text
open Json (PlainText isPlainUnit)

/-- The number of bytes of a text in UTF-8. -/
def byteLength (text : JsString) : Nat := (encodeUtf8 text).length

theorem byteLength_ascii {text : JsString} (ascii : ∀ unit ∈ text, unit.toNat < 128) :
    byteLength text = text.length := by
  induction text with
  | nil => rfl
  | cons unit text ih =>
      have small := ascii unit (List.mem_cons_self ..)
      have high : Json.isHighSurrogate unit = false := by
        rw [← Bool.not_eq_true, (surrogate_iff unit).1]
        omega
      have low : Json.isLowSurrogate unit = false := by
        rw [← Bool.not_eq_true, (surrogate_iff unit).2]
        omega
      have value : (loneScalar unit).toNat = unit.toNat := by
        rw [loneScalar, high, low, Bool.or_self, if_neg Bool.false_ne_true]
        exact toNat_ofNat (.inl (by omega))
      have one : (String.utf8EncodeChar (loneScalar unit)).length = 1 := by
        have below : (loneScalar unit).val.toNat ≤ 0x7f := by
          show (loneScalar unit).toNat ≤ 0x7f
          omega
        rw [String.utf8EncodeChar]
        simp only [below, if_true, List.length_singleton]
      have rest := ih fun other inside => ascii other (List.mem_cons_of_mem _ inside)
      rw [byteLength, encodeUtf8] at rest ⊢
      rw [scalarValues_cons high, List.flatMap_cons, List.length_append, rest, one, List.length_cons,
        Nat.add_comm]

/-- Units from the space to the tilde but for the quote and the backslash are plain. -/
theorem plain_unit {unit : UInt16} (low : 35 ≤ unit.toNat) (high : unit.toNat < 128)
    (backslash : unit.toNat ≠ 92) : isPlainUnit unit = true := by
  simp only [isPlainUnit, Bool.and_eq_true, decide_eq_true_eq, bne_iff_ne, ne_eq, UInt16.le_iff_toNat_le,
    UInt16.lt_iff_toNat_lt, ← UInt16.toNat_inj]
  refine ⟨⟨⟨?_, high⟩, ?_⟩, backslash⟩
  · exact Nat.le_trans (by decide : (32 : UInt16).toNat ≤ 35) low
  · show unit.toNat ≠ 34
    omega

theorem plain_isHexDigit {unit : UInt16} (digit : isHexDigit unit = true) : isPlainUnit unit = true := by
  simp only [isHexDigit, Bool.or_eq_true, Bool.and_eq_true, decide_eq_true_eq, UInt16.le_iff_toNat_le,
    UInt16.reduceToNat] at digit
  exact plain_unit (by omega) (by omega) (by omega)

theorem plain_digits (fuel value : Nat) : PlainText (digits fuel value) := by
  have digit : ∀ small < 10, isPlainUnit (UInt16.ofNat (48 + small)) = true := by decide
  induction fuel generalizing value with
  | zero => exact fun unit inside => absurd inside List.not_mem_nil
  | succ fuel ih =>
      intro unit inside
      rw [digits] at inside
      split at inside
      · next small =>
          rw [List.mem_singleton.mp inside]
          exact digit value small
      · rcases List.mem_append.mp inside with before | last
        · exact ih _ unit before
        · rw [List.mem_singleton.mp last]
          exact digit _ (Nat.mod_lt value (by decide))

/-- A number below a power of ten has at most as many digits. -/
theorem digits_length {fuel value width : Nat} (positive : 0 < width) (below : value < 10 ^ width) :
    (digits fuel value).length ≤ width := by
  induction fuel generalizing value width with
  | zero => exact Nat.zero_le _
  | succ fuel ih =>
      rw [digits]
      split
      · exact positive
      · next large =>
          obtain ⟨width, rfl⟩ := Nat.exists_eq_add_one.mpr positive
          rw [Nat.pow_succ] at below
          have shorter : 0 < width := by
            rcases Nat.eq_zero_or_pos width with rfl | some
            · omega
            · exact some
          have rest := ih shorter (Nat.div_lt_of_lt_mul (Nat.mul_comm _ _ ▸ below))
          rw [List.length_append, List.length_singleton]
          exact Nat.succ_le_succ rest

/-- A larger number has at least as many digits. -/
theorem digits_mono {fuel more value other : Nat} (le : value ≤ other) (enough : value < fuel)
    (plenty : other < more) : (digits fuel value).length ≤ (digits more other).length := by
  induction fuel generalizing value other more with
  | zero => exact absurd enough (Nat.not_lt_zero _)
  | succ fuel ih =>
      obtain ⟨more, rfl⟩ := Nat.exists_eq_add_one.mpr (Nat.zero_lt_of_lt plenty)
      rw [digits, digits]
      split
      · split
        · exact Nat.le_refl _
        · rw [List.length_append]
          exact Nat.le_add_left ..
      · next large =>
          rw [if_neg (show ¬ other < 10 by omega), List.length_append, List.length_append]
          exact Nat.add_le_add_right (ih (Nat.div_le_div_right le) (by omega) (by omega)) 1

/-- A digit of a number is one plain unit. -/
theorem encodeUtf16_digit {value : Nat} {digit : Char} (inside : digit ∈ Nat.toDigits 10 value) :
    ∃ unit, encodeUtf16 digit = [unit] ∧ isPlainUnit unit = true := by
  have bounds := Nat.isDigit_of_mem_toDigits (by decide) (by decide) inside
  simp only [Char.isDigit, ge_iff_le, Bool.and_eq_true, decide_eq_true_eq, UInt32.le_iff_toNat_le] at bounds
  have low : 48 ≤ digit.toNat := bounds.1
  have high : digit.toNat ≤ 57 := bounds.2
  have same : (UInt16.ofNat digit.toNat).toNat = digit.toNat :=
    UInt16.toNat_ofNat_of_lt' (Nat.lt_of_le_of_lt high (by decide))
  refine ⟨UInt16.ofNat digit.toNat, if_pos (Nat.lt_of_le_of_lt high (by decide)), ?_⟩
  apply plain_unit <;> rw [same] <;> omega

theorem plain_decimal (value : Nat) : PlainText (decimal value) := by
  intro unit inside
  obtain ⟨digit, listed, encoded⟩ := List.mem_flatMap.mp inside
  obtain ⟨only, same, plain⟩ := encodeUtf16_digit listed
  rw [same, List.mem_singleton] at encoded
  rw [encoded]
  exact plain

theorem decimal_length {value width : Nat} (positive : 0 < width) (below : value < 10 ^ width) :
    (decimal value).length ≤ width := by
  have ones : ∀ digit ∈ Nat.toDigits 10 value, (encodeUtf16 digit).length = 1 := by
    intro digit inside
    obtain ⟨unit, same, _⟩ := encodeUtf16_digit inside
    rw [same, List.length_singleton]
  have length : (decimal value).length = (Nat.toDigits 10 value).length := by
    rw [decimal, List.length_flatMap, List.map_congr_left ones, List.map_const', List.sum_replicate_nat,
      Nat.mul_one]
  rw [length]
  exact (Nat.length_toDigits_le_iff (by decide) positive).mpr below

theorem plain_padded (width : Nat) (value : Int) : PlainText (padded width value) := by
  intro unit inside
  rcases List.mem_append.mp inside with zero | digit
  · rw [List.eq_of_mem_replicate zero]
    decide
  · exact plain_decimal _ unit digit

/-- A plain text with at most so many units. -/
structure PlainWithin (text : JsString) (bound : Nat) : Prop where
  plain : PlainText text
  short : text.length ≤ bound

theorem PlainWithin.append {first second : JsString} {left right : Nat} (before : PlainWithin first left)
    (after : PlainWithin second right) : PlainWithin (first ++ second) (left + right) where
  plain unit inside := (List.mem_append.mp inside).elim (before.plain unit) (after.plain unit)
  short := by
    rw [List.length_append]
    exact Nat.add_le_add before.short after.short

/-- A padded number that fits its width takes no more. -/
theorem padded_within {width : Nat} {value : Int} (positive : 0 < width)
    (below : value.toNat < 10 ^ width) : PlainWithin (padded width value) width where
  plain := plain_padded width value
  short := by
    have short := decimal_length positive below
    rw [padded, List.length_append, List.length_replicate]
    omega

/-- The fields of the date of a time. -/
theorem dateFromDays_bounds {days : Int} (low : -100000000 ≤ days) (high : days ≤ 100000000) :
    -1000000 < (dateFromDays days).1 ∧ (dateFromDays days).1 < 1000000 ∧
      (dateFromDays days).2.1 < 100 ∧ (dateFromDays days).2.2 < 100 := by
  simp only [dateFromDays]
  refine ⟨?_, ?_, ?_, ?_⟩ <;> omega

/-- The text of a time that a date can hold is plain and at most as long as that of the last day. -/
theorem toISOString_within {time : Int} (low : -maxTime ≤ time) (high : time ≤ maxTime) :
    PlainWithin (toISOString time) 27 := by
  rw [maxTime] at low high
  obtain ⟨past, future, month, day⟩ :=
    dateFromDays_bounds (by omega : -100000000 ≤ time / 86400000) (by omega)
  unfold toISOString
  generalize dateFromDays (time / 86400000) = date at past future month day
  obtain ⟨year, monthOfYear, dayOfMonth⟩ := date
  have dash : PlainWithin (js "-") 1 := ⟨by decide, by decide⟩
  have plus : PlainWithin (js "+") 1 := ⟨by decide, by decide⟩
  have letter : PlainWithin (js "T") 1 := ⟨by decide, by decide⟩
  have colon : PlainWithin (js ":") 1 := ⟨by decide, by decide⟩
  have point : PlainWithin (js ".") 1 := ⟨by decide, by decide⟩
  have zone : PlainWithin (js "Z") 1 := ⟨by decide, by decide⟩
  have yearText : PlainWithin (if 0 ≤ year ∧ year ≤ 9999 then padded 4 year
      else if year < 0 then js "-" ++ padded 6 (-year) else js "+" ++ padded 6 year) 7 := by
    split
    · have four := @padded_within 4 year (by decide) (by omega)
      exact ⟨four.plain, Nat.le_trans four.short (by decide)⟩
    · split
      · exact dash.append (padded_within (by decide) (by omega))
      · exact plus.append (padded_within (by decide) (by omega))
  have two : ∀ {value : Int}, value < 100 → PlainWithin (padded 2 value) 2 :=
    fun below => padded_within (by decide) (by omega)
  have date := (((yearText.append dash).append (two month)).append dash).append (two day)
  have hours := (date.append letter).append (two (by omega : time % 86400000 / 3600000 < 100))
  have minutes := (hours.append colon).append (two (by omega : time % 86400000 / 60000 % 60 < 100))
  have seconds := (minutes.append colon).append (two (by omega : time % 86400000 / 1000 % 60 < 100))
  have milliseconds := (seconds.append point).append
    (@padded_within 3 (time % 86400000 % 1000) (by decide) (by omega))
  exact milliseconds.append zone

theorem dateParse_bounds {text : JsString} {time : Int} (read : dateParse text = some time) :
    -maxTime ≤ time ∧ time ≤ maxTime := by
  simp only [dateParse, Option.bind_eq_bind, Option.bind_eq_some_iff] at read
  obtain ⟨_, _, _, _, _, _, _, _, _, _, _, _, _, _, read⟩ := read
  split at read
  · next bounds =>
      cases read
      exact bounds
  · cases read

theorem isIsoTimestamp_within {text : JsString} (timestamp : isIsoTimestamp text = true) :
    PlainWithin text 27 := by
  obtain ⟨time, read, same⟩ := Option.any_eq_true _ _ |>.mp timestamp
  rw [← eq_of_beq same]
  exact toISOString_within (dateParse_bounds read).1 (dateParse_bounds read).2

end Lcm.Text
