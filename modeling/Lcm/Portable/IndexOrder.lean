import Lcm.Library.OrderCodes
import Lcm.Portable.Records
import Lcm.Text.Utf8

namespace Lcm.Portable
open Text OrderCodes

/-- Two buffers compare byte by byte. -/
def compareBytes (left right : List UInt8) : Ordering :=
  compare (left.map UInt8.toNat) (right.map UInt8.toNat)

/-- A portable text has no NUL and no lone surrogate. -/
def assertUtf16 (value : JsString) : Bool := !includesNul value && !containsMalformedUtf16 value

def minInt64 : Int := -2 ^ 63

def maxInt64 : Int := 2 ^ 63 - 1

def validateOrderScalar : PortableOrderScalar → Bool
  | .null => true
  | .text value => assertUtf16 value
  | .integer value => minInt64 ≤ value && value ≤ maxInt64

/-- Each byte of a text becomes two bytes that are not zero. -/
def escapeByte (byte : UInt8) : List UInt8 := [(byte >>> 4) + 1, (byte &&& 15) + 1]

/-- A text ends with a zero and an integer is biased so that it is not negative. -/
def encodeOrderScalar : PortableOrderScalar → List UInt8
  | .null => [0]
  | .text value => 1 :: ((encodeUtf8 value).flatMap escapeByte ++ [0])
  | .integer value => 2 :: uint64be (value + 2 ^ 63).toNat

/-- The sort key of an order tuple, when the codec accepts the tuple. -/
def encodePortableIndexOrder (order : List PortableOrderScalar) : Option (List UInt8) :=
  if order.all validateOrderScalar then some (order.flatMap encodeOrderScalar) else none

theorem encodePortableIndexOrder_eq_some {order : List PortableOrderScalar} {key : List UInt8} :
    encodePortableIndexOrder order = some key ↔
      (∀ scalar ∈ order, validateOrderScalar scalar = true) ∧ order.flatMap encodeOrderScalar = key := by
  rw [encodePortableIndexOrder, ← List.all_eq_true]
  split <;> simp_all

theorem map_toNat_inj {left right : List UInt8} (same : left.map UInt8.toNat = right.map UInt8.toNat) :
    left = right :=
  List.map_injective_iff.mpr (fun _ _ equal => UInt8.toNat_inj.mp equal) same

theorem compareBytes_eq {left right : List UInt8} (same : compareBytes left right = .eq) : left = right :=
  map_toNat_inj (Std.LawfulEqCmp.eq_of_compare same)

theorem escapeByte_toNat (byte : UInt8) :
    (escapeByte byte).map UInt8.toNat = [byte.toNat / 16 + 1, byte.toNat % 16 + 1] := by
  have small := byte.toNat_lt
  have high : (byte >>> 4).toNat = byte.toNat / 16 := by
    rw [UInt8.toNat_shiftRight]
    exact Nat.shiftRight_eq_div_pow ..
  have low : (byte &&& 15).toNat = byte.toNat % 16 := by
    rw [UInt8.toNat_and]
    exact Nat.and_two_pow_sub_one_eq_mod byte.toNat 4
  have one : (1 : UInt8).toNat = 1 := rfl
  simp only [escapeByte, List.map_cons, List.map_nil, UInt8.toNat_add, high, low, one]
  rw [Nat.mod_eq_of_lt (by omega), Nat.mod_eq_of_lt (by omega)]

theorem decides_escapeByte :
    Decides (fun byte => (escapeByte byte).map UInt8.toNat) (fun left right => compare left.toNat right.toNat)
      (fun _ => True) := by
  intro left right _ _ leftRest rightRest
  have parts : ∀ byte : UInt8, byte.toNat = byte.toNat % 16 + 16 * (byte.toNat / 16) :=
    fun byte => by omega
  have shifted : ∀ first second : Nat, compare (first + 1) (second + 1) = compare first second := by
    intro first second
    rcases lt_trichotomy first second with less | rfl | greater
    · rw [compare_lt_iff_lt.mpr less, compare_lt_iff_lt.mpr (by omega)]
    · rw [compare_eq_iff_eq.mpr rfl, compare_eq_iff_eq.mpr rfl]
    · rw [compare_gt_iff_gt.mpr greater, compare_gt_iff_gt.mpr (by omega)]
  simp only [escapeByte_toNat, List.cons_append, List.nil_append, List.compare_cons_cons, shifted]
  rw [parts left, parts right, compare_quotient (by omega) (by omega), ← parts left, ← parts right,
    Ordering.then_assoc]

theorem compareLex_map (left right : List UInt8) :
    List.compareLex (fun first second => compare first.toNat second.toNat) left right =
      compare (left.map UInt8.toNat) (right.map UInt8.toNat) := by
  induction left generalizing right with
  | nil => cases right <;> rfl
  | cons first left ih =>
      cases right with
      | nil => rfl
      | cons second right =>
          rw [List.compareLex_cons_cons, ih, List.map_cons, List.map_cons, List.compare_cons_cons]

/-- The escaped bytes of a text and their terminator decide as the bytes do. -/
theorem decides_escaped :
    Decides (fun bytes : List UInt8 => (bytes.flatMap escapeByte ++ [0]).map UInt8.toNat)
      (fun left right => compare (left.map UInt8.toNat) (right.map UInt8.toNat)) (fun _ => True) := by
  have terminated := decides_escapeByte.terminated 0 (by
    intro byte _
    rw [escapeByte_toNat]
    exact ⟨_, _, rfl, compare_lt_iff_lt.mpr (Nat.succ_pos _)⟩)
  intro left right _ _ leftRest rightRest
  have decided := terminated left right (fun _ _ => trivial) (fun _ _ => trivial) leftRest rightRest
  rw [compareLex_map] at decided
  have flat : ∀ bytes : List UInt8, (bytes.flatMap escapeByte ++ [0]).map UInt8.toNat =
      (bytes.flatMap fun byte => (escapeByte byte).map UInt8.toNat) ++ [0] := by
    intro bytes
    rw [List.map_append, List.map_flatMap]
    rfl
  rw [← decided]
  simp only [flat]

theorem uint64be_toNat (value : Nat) : (uint64be value).map UInt8.toNat = OrderCodes.digits 256 8 value := by
  have byte : ∀ part : Nat, (UInt8.ofNat part).toNat = part % 256 := fun _ => UInt8.toNat_ofNat'
  simp only [uint64be, List.map_map, OrderCodes.digits]
  simp [List.range_succ, byte]

theorem compare_biased {left right : Int} (leftLow : minInt64 ≤ left) (rightLow : minInt64 ≤ right) :
    compare (left + 2 ^ 63).toNat (right + 2 ^ 63).toNat = compare left right := by
  rw [minInt64] at leftLow rightLow
  rcases lt_trichotomy left right with less | rfl | greater
  · rw [compare_lt_iff_lt.mpr less, compare_lt_iff_lt.mpr (by omega)]
  · rw [compare_eq_iff_eq.mpr rfl, compare_eq_iff_eq.mpr rfl]
  · rw [compare_gt_iff_gt.mpr greater, compare_gt_iff_gt.mpr (by omega)]

theorem validateOrderScalar_integer {value : Int} (valid : validateOrderScalar (.integer value) = true) :
    minInt64 ≤ value ∧ (value + 2 ^ 63).toNat < 256 ^ 8 := by
  simp only [validateOrderScalar, Bool.and_eq_true, decide_eq_true_eq] at valid
  refine ⟨valid.1, ?_⟩
  have high : value ≤ 2 ^ 63 - 1 := valid.2
  omega

/-- The code of a scalar decides as the codec compares scalars. -/
theorem decides_encodeOrderScalar :
    Decides (fun scalar => (encodeOrderScalar scalar).map UInt8.toNat) (compareOrderScalar encodeUtf8)
      (fun scalar => validateOrderScalar scalar = true) := by
  have tags : ∀ (low high : UInt8), low.toNat < high.toNat → ∀ leftRest rightRest : List Nat,
      compare (low.toNat :: leftRest) (high.toNat :: rightRest) = .lt ∧
        compare (high.toNat :: leftRest) (low.toNat :: rightRest) = .gt := by
    intro low high less leftRest rightRest
    rw [List.compare_cons_cons, List.compare_cons_cons, compare_lt_iff_lt.mpr less, compare_gt_iff_gt.mpr less]
    exact ⟨rfl, rfl⟩
  have same : ∀ (tag : UInt8) (leftRest rightRest : List Nat),
      compare (tag.toNat :: leftRest) (tag.toNat :: rightRest) = compare leftRest rightRest := by
    intro tag leftRest rightRest
    rw [List.compare_cons_cons, compare_eq_iff_eq.mpr rfl]
    rfl
  intro left right leftValid rightValid leftRest rightRest
  cases left with
  | null =>
      cases right with
      | null => exact same 0 _ _
      | text value => exact (tags 0 1 (by decide) _ _).1
      | integer value => exact (tags 0 2 (by decide) _ _).1
  | text value =>
      cases right with
      | null => exact (tags 0 1 (by decide) _ _).2
      | text other =>
          simp only [encodeOrderScalar, List.map_cons, List.cons_append, same, compareOrderScalar]
          exact decides_escaped _ _ trivial trivial _ _
      | integer other => exact (tags 1 2 (by decide) _ _).1
  | integer value =>
      cases right with
      | null => exact (tags 0 2 (by decide) _ _).2
      | text other => exact (tags 1 2 (by decide) _ _).2
      | integer other =>
          obtain ⟨low, fits⟩ := validateOrderScalar_integer leftValid
          obtain ⟨otherLow, otherFits⟩ := validateOrderScalar_integer rightValid
          simp only [encodeOrderScalar, List.map_cons, List.cons_append, same, compareOrderScalar,
            uint64be_toNat]
          rw [decides_digits (show 0 < 256 by decide) 8 _ _ fits otherFits, compare_biased low otherLow]

theorem compareOrderScalars_tuples (utf8 : JsString → List UInt8) (left right : List PortableOrderScalar) :
    compareOrderScalars utf8 left right = compareTuples (compareOrderScalar utf8) left right := by
  induction left generalizing right with
  | nil => cases right <;> rfl
  | cons first left ih =>
      cases right with
      | nil => rfl
      | cons second right => rw [compareOrderScalars, compareTuples, ih]

/-- Scalars that the codec accepts compare as equal only when they are the same. -/
theorem compareOrderScalar_eq {left right : PortableOrderScalar} (leftValid : validateOrderScalar left = true)
    (rightValid : validateOrderScalar right = true)
    (equal : compareOrderScalar encodeUtf8 left right = .eq) : left = right := by
  cases left with
  | null =>
      cases right with
      | null => rfl
      | text value => cases equal
      | integer value => cases equal
  | text value =>
      cases right with
      | null => cases equal
      | text other =>
          simp only [validateOrderScalar, assertUtf16, Bool.and_eq_true, Bool.not_eq_true'] at leftValid rightValid
          have bytes := map_toNat_inj (Std.LawfulEqCmp.eq_of_compare equal)
          rw [WellFormed.encodeUtf8_inj leftValid.2 rightValid.2 bytes]
      | integer other => cases equal
  | integer value =>
      cases right with
      | null => cases equal
      | text other => cases equal
      | integer other => rw [compare_eq_iff_eq.mp equal]

/-- The sort keys of two tuples of one length compare as the tuples do. -/
theorem compareBytes_encode {left right : List PortableOrderScalar} {leftKey rightKey : List UInt8}
    (sameLength : left.length = right.length) (leftEncoded : encodePortableIndexOrder left = some leftKey)
    (rightEncoded : encodePortableIndexOrder right = some rightKey) :
    compareBytes leftKey rightKey = compareOrderScalars encodeUtf8 left right := by
  obtain ⟨leftValid, rfl⟩ := encodePortableIndexOrder_eq_some.mp leftEncoded
  obtain ⟨rightValid, rfl⟩ := encodePortableIndexOrder_eq_some.mp rightEncoded
  rw [compareOrderScalars_tuples, compareBytes, List.map_flatMap, List.map_flatMap,
    decides_encodeOrderScalar.compare_flatMap sameLength leftValid rightValid]

/-- Tuples of one length have the same sort key only when they are the same tuple. -/
theorem encodePortableIndexOrder_inj {left right : List PortableOrderScalar} {key : List UInt8}
    (sameLength : left.length = right.length) (leftEncoded : encodePortableIndexOrder left = some key)
    (rightEncoded : encodePortableIndexOrder right = some key) : left = right := by
  have equal := compareBytes_encode sameLength leftEncoded rightEncoded
  rw [compareBytes, Std.ReflOrd.compare_self, compareOrderScalars_tuples] at equal
  exact compareTuples_eq (fun _ _ => compareOrderScalar_eq) sameLength
    (encodePortableIndexOrder_eq_some.mp leftEncoded).1 (encodePortableIndexOrder_eq_some.mp rightEncoded).1
    equal.symm

end Lcm.Portable
