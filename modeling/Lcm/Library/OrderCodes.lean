import Mathlib.Algebra.Order.Ring.Nat
import Mathlib.Data.List.Lex
import Mathlib.Order.Compare
import Mathlib.Tactic.Common

namespace OrderCodes

variable {Value Symbol : Type*}

/-- A code decides an order when the codes of two values in front of any rests compare as the values do,
and the rests decide between equal values. -/
def Decides [Ord Symbol] (code : Value → List Symbol) (order : Value → Value → Ordering)
    (valid : Value → Prop) : Prop :=
  ∀ left right, valid left → valid right → ∀ leftRest rightRest : List Symbol,
    compare (code left ++ leftRest) (code right ++ rightRest) =
      (order left right).then (compare leftRest rightRest)

/-- Tuples of one length compare at the first place where they differ. -/
def compareTuples (order : Value → Value → Ordering) : List Value → List Value → Ordering
  | left :: lefts, right :: rights => (order left right).then (compareTuples order lefts rights)
  | _, _ => .eq

/-- Tuples of one length are equal when no place tells them apart. -/
theorem compareTuples_eq {order : Value → Value → Ordering} {valid : Value → Prop}
    (exact : ∀ left right, valid left → valid right → order left right = .eq → left = right)
    {left right : List Value} (sameLength : left.length = right.length)
    (leftValid : ∀ value ∈ left, valid value) (rightValid : ∀ value ∈ right, valid value)
    (same : compareTuples order left right = .eq) : left = right := by
  induction left generalizing right with
  | nil => exact (List.length_eq_zero_iff.mp sameLength.symm).symm
  | cons value left ih =>
      cases right with
      | nil => cases sameLength
      | cons other right =>
          obtain ⟨first, lefts⟩ := List.forall_mem_cons.mp leftValid
          obtain ⟨second, rights⟩ := List.forall_mem_cons.mp rightValid
          obtain ⟨here, later⟩ := Ordering.then_eq_eq.mp same
          rw [exact value other first second here, ih (Nat.succ.inj sameLength) lefts rights later]

section Symbols

variable [Ord Symbol]

/-- The code of a tuple joins the codes of its values. -/
theorem Decides.flatMap {code : Value → List Symbol} {order : Value → Value → Ordering}
    {valid : Value → Prop} (decides : Decides code order valid) {left right : List Value}
    (sameLength : left.length = right.length) (leftValid : ∀ value ∈ left, valid value)
    (rightValid : ∀ value ∈ right, valid value) (leftRest rightRest : List Symbol) :
    compare (left.flatMap code ++ leftRest) (right.flatMap code ++ rightRest) =
      (compareTuples order left right).then (compare leftRest rightRest) := by
  induction left generalizing right with
  | nil =>
      cases right with
      | nil => rfl
      | cons value rest => cases sameLength
  | cons value left ih =>
      cases right with
      | nil => cases sameLength
      | cons other right =>
          obtain ⟨first, lefts⟩ := List.forall_mem_cons.mp leftValid
          obtain ⟨second, rights⟩ := List.forall_mem_cons.mp rightValid
          rw [List.flatMap_cons, List.flatMap_cons, List.append_assoc, List.append_assoc,
            decides value other first second, ih (Nat.succ.inj sameLength) lefts rights, compareTuples,
            Ordering.then_assoc]

/-- The code of a tuple compares as the tuple does. -/
theorem Decides.compare_flatMap {code : Value → List Symbol} {order : Value → Value → Ordering}
    {valid : Value → Prop} (decides : Decides code order valid) {left right : List Value}
    (sameLength : left.length = right.length) (leftValid : ∀ value ∈ left, valid value)
    (rightValid : ∀ value ∈ right, valid value) :
    compare (left.flatMap code) (right.flatMap code) = compareTuples order left right := by
  have whole := decides.flatMap sameLength leftValid rightValid [] []
  rw [List.append_nil, List.append_nil] at whole
  rw [whole]
  exact Ordering.then_eq

/-- A terminator below every first symbol makes the code of a sequence of any length decide. -/
theorem Decides.terminated [Std.ReflOrd Symbol] [Std.OrientedOrd Symbol] {code : Value → List Symbol}
    {order : Value → Value → Ordering} {valid : Value → Prop} (decides : Decides code order valid)
    (terminator : Symbol) (above : ∀ value, valid value → ∃ first rest, code value = first :: rest ∧
      compare terminator first = .lt) :
    Decides (fun values => values.flatMap code ++ [terminator]) (List.compareLex order)
      (fun values => ∀ value ∈ values, valid value) := by
  intro left right leftValid rightValid leftRest rightRest
  simp only [List.append_assoc, List.singleton_append]
  induction left generalizing right with
  | nil =>
      cases right with
      | nil =>
          simp only [List.flatMap_nil, List.nil_append, List.compare_cons_cons, Std.ReflOrd.compare_self,
            List.compareLex_nil_nil]
      | cons other right =>
          obtain ⟨first, rest, starts, less⟩ := above other (rightValid other (List.mem_cons_self ..))
          simp only [List.flatMap_nil, List.nil_append, List.flatMap_cons, starts, List.cons_append,
            List.compare_cons_cons, less, List.compareLex_nil_cons]
          rfl
  | cons value left ih =>
      obtain ⟨firstValid, lefts⟩ := List.forall_mem_cons.mp leftValid
      cases right with
      | nil =>
          obtain ⟨first, rest, starts, less⟩ := above value firstValid
          have greater : compare first terminator = .gt := Std.OrientedCmp.gt_of_lt less
          simp only [List.flatMap_nil, List.nil_append, List.flatMap_cons, starts, List.cons_append,
            List.compare_cons_cons, greater, List.compareLex_cons_nil]
          rfl
      | cons other right =>
          obtain ⟨secondValid, rights⟩ := List.forall_mem_cons.mp rightValid
          rw [List.flatMap_cons, List.flatMap_cons, List.append_assoc, List.append_assoc,
            decides value other firstValid secondValid, ih right lefts rights, List.compareLex_cons_cons,
            Ordering.then_assoc]

end Symbols

/-- The comparison of two sequences of numbers is their lexicographic order. -/
theorem compare_numbers {left right : List Nat} : compare left right = .lt ↔ left < right := by
  induction left generalizing right with
  | nil => cases right <;> simp
  | cons first left ih =>
      cases right with
      | nil => simp
      | cons second right =>
          rw [List.compare_cons_cons, Ordering.then_eq_lt, List.cons_lt_cons_iff, ih, compare_lt_iff_lt,
            compare_eq_iff_eq]

/-- The digits of a number to a base, the highest first. -/
def digits (base : Nat) : Nat → Nat → List Nat
  | 0, _ => []
  | count + 1, value => value / base ^ count % base :: digits base count value

theorem compare_quotient {bound leftQuotient leftRemainder rightQuotient rightRemainder : Nat}
    (leftSmall : leftRemainder < bound) (rightSmall : rightRemainder < bound) :
    compare (leftRemainder + bound * leftQuotient) (rightRemainder + bound * rightQuotient) =
      (compare leftQuotient rightQuotient).then (compare leftRemainder rightRemainder) := by
  rcases lt_trichotomy leftQuotient rightQuotient with less | rfl | greater
  · have scaled := Nat.mul_le_mul_left bound (Nat.succ_le_of_lt less)
    rw [Nat.mul_succ] at scaled
    rw [compare_lt_iff_lt.mpr less, compare_lt_iff_lt.mpr (by omega)]
    rfl
  · rw [compare_eq_iff_eq.mpr rfl]
    rcases lt_trichotomy leftRemainder rightRemainder with less | rfl | greater
    · rw [compare_lt_iff_lt.mpr less, compare_lt_iff_lt.mpr (by omega)]
      rfl
    · rw [compare_eq_iff_eq.mpr rfl, compare_eq_iff_eq.mpr rfl]
      rfl
    · rw [compare_gt_iff_gt.mpr greater, compare_gt_iff_gt.mpr (by omega)]
      rfl
  · have scaled := Nat.mul_le_mul_left bound (Nat.succ_le_of_lt greater)
    rw [Nat.mul_succ] at scaled
    rw [compare_gt_iff_gt.mpr greater, compare_gt_iff_gt.mpr (by omega)]
    rfl

theorem compare_digits {base : Nat} (positive : 0 < base) (count left right : Nat)
    (leftRest rightRest : List Nat) :
    compare (digits base count left ++ leftRest) (digits base count right ++ rightRest) =
      (compare (left % base ^ count) (right % base ^ count)).then (compare leftRest rightRest) := by
  induction count with
  | zero => simp [digits, Nat.mod_one]
  | succ count ih =>
      have power : 0 < base ^ count := Nat.pow_pos positive
      rw [digits, digits, List.cons_append, List.cons_append, List.compare_cons_cons, ih,
        Nat.pow_succ, Nat.mod_mul, Nat.mod_mul,
        compare_quotient (Nat.mod_lt left power) (Nat.mod_lt right power), Ordering.then_assoc]

/-- A fixed number of digits decides the order of the numbers that fit. -/
theorem decides_digits {base : Nat} (positive : 0 < base) (count : Nat) :
    Decides (digits base count) compare (· < base ^ count) := by
  intro left right leftFits rightFits leftRest rightRest
  rw [compare_digits positive, Nat.mod_eq_of_lt leftFits, Nat.mod_eq_of_lt rightFits]

end OrderCodes
