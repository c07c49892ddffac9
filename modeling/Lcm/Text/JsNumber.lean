import Lcm.Library.Json
import Mathlib.Algebra.Ring.Int.Defs

namespace Lcm.Text

/-- What the code relies on about the numbers of JavaScript. -/
structure JsNumbers (Number : Type) where
  format : Json.NumberFormat Number
  isFinite : Number → Bool
  isNegativeZero : Number → Bool
  /-- The integer that a number is, if it is one. -/
  toInteger : Number → Option Int
  less : Number → Number → Bool
  /-- The number nearest to a natural number. -/
  ofNat : Nat → Number
  printable : ∀ value, format.printable value = (isFinite value && !isNegativeZero value)
  finite_integer : ∀ value integer, toInteger value = some integer → isFinite value = true
  toInteger_ofNat : ∀ natural, natural < 2 ^ 53 → toInteger (ofNat natural) = some (natural : Int)
  plain_ofNat : ∀ natural, isNegativeZero (ofNat natural) = false

namespace JsNumbers

/-- The largest integer that a number holds without loss. -/
def maxSafe : Int := 2 ^ 53 - 1

variable {Number : Type} (numbers : JsNumbers Number)

/-- The value of a safe integer. -/
def toSafeInteger (value : Number) : Option Int :=
  (numbers.toInteger value).filter fun integer => -maxSafe ≤ integer ∧ integer ≤ maxSafe

theorem printable_ofNat {natural : Nat} (safe : natural < 2 ^ 53) :
    numbers.format.printable (numbers.ofNat natural) = true := by
  rw [numbers.printable, numbers.finite_integer _ _ (numbers.toInteger_ofNat natural safe),
    numbers.plain_ofNat]
  rfl

end JsNumbers

/-- The decimal digits of a number below ten to the power of the fuel. -/
def digits : Nat → Nat → List UInt16
  | 0, _ => []
  | fuel + 1, value =>
      if value < 10 then [UInt16.ofNat (48 + value)]
      else digits fuel (value / 10) ++ [UInt16.ofNat (48 + value % 10)]

/-- The value of a row of digits. -/
def readDigits (token : List UInt16) : Nat :=
  token.foldl (fun value unit => value * 10 + (unit.toNat - 48)) 0

theorem digit_value {value : Nat} (small : value < 10) :
    (UInt16.ofNat (48 + value)).toNat - 48 = value := by
  rw [UInt16.toNat_ofNat_of_lt' (by simp [UInt16.size]; omega)]
  omega

theorem readDigits_digits {fuel value : Nat} (enough : value < fuel) :
    readDigits (digits fuel value) = value := by
  induction fuel generalizing value with
  | zero => exact absurd enough (Nat.not_lt_zero _)
  | succ fuel ih =>
      rw [digits]
      split
      · next small =>
          rw [readDigits, List.foldl_cons, List.foldl_nil, digit_value small]
          omega
      · have rest := ih (show value / 10 < fuel by omega)
        rw [readDigits] at rest ⊢
        rw [List.foldl_append, rest, List.foldl_cons, List.foldl_nil,
          digit_value (Nat.mod_lt value (by decide))]
        omega

open Json NumberState in
/-- The digits of a positive number are the digits of an integer token. -/
theorem digits_integer {fuel value : Nat} (enough : value < fuel) (positive : 0 < value) :
    (digits fuel value).foldlM next start = some .integer := by
  have starts : ∀ small < 10, 0 < small → next start (UInt16.ofNat (48 + small)) = some .integer := by
    decide
  have continues : ∀ small < 10, next .integer (UInt16.ofNat (48 + small)) = some .integer := by
    decide
  induction fuel generalizing value with
  | zero => exact absurd enough (Nat.not_lt_zero _)
  | succ fuel ih =>
      rw [digits]
      split
      · next small =>
          rw [List.foldlM_cons, starts value small positive]
          rfl
      · rw [List.foldlM_append, ih (by omega) (by omega)]
        simp only [Option.bind_eq_bind, Option.bind_some, List.foldlM_cons, List.foldlM_nil,
          continues (value % 10) (Nat.mod_lt value (by decide))]
        rfl

/-- The natural numbers print and read as decimal digits. -/
def naturalFormat : Json.NumberFormat Nat where
  print value := digits (value + 1) value
  read := readDigits
  printable _ := true
  token := by
    intro value _
    rcases Nat.eq_zero_or_pos value with rfl | positive
    · rfl
    · rw [Json.isNumberToken, digits_integer (Nat.lt_succ_self value) positive]
      rfl
  read_print value _ := readDigits_digits (Nat.lt_succ_self value)

/-- The numbers of JavaScript that are natural. -/
def naturalNumbers : JsNumbers Nat where
  format := naturalFormat
  isFinite _ := true
  isNegativeZero _ := false
  toInteger value := some value
  less first second := first < second
  ofNat natural := natural
  printable _ := rfl
  finite_integer _ _ _ := rfl
  toInteger_ofNat _ _ := rfl
  plain_ofNat _ := rfl

end Lcm.Text
