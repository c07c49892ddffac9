import Lcm.Library.Json
import Mathlib.Algebra.Order.BigOperators.Group.List

namespace Json

variable {Number : Type} (format : NumberFormat Number)

/-- A unit that stands for itself in a string literal and takes one byte. -/
def isPlainUnit (unit : UInt16) : Bool := 32 ≤ unit && unit < 128 && unit != 34 && unit != 92

abbrev PlainText (text : List UInt16) : Prop := ∀ unit ∈ text, isPlainUnit unit = true

/-- A value whose text is plain but for its punctuation. -/
inductive PlainValue : Json Number → Prop
  | null : PlainValue .null
  | boolean (value : Bool) : PlainValue (.boolean value)
  | number {value : Number} (plain : PlainText (format.print value)) : PlainValue (.number value)
  | string {text : List UInt16} (plain : PlainText text) : PlainValue (.string text)
  | array {elements : List (Json Number)} (each : ∀ element ∈ elements, PlainValue element) :
      PlainValue (.array elements)
  | object {members : List (List UInt16 × Json Number)} (names : ∀ member ∈ members, PlainText member.1)
      (each : ∀ member ∈ members, PlainValue member.2) : PlainValue (.object members)

mutual

/-- The length of the text of a plain value. -/
def size : Json Number → Nat
  | .null => 4
  | .boolean true => 4
  | .boolean false => 5
  | .number value => (format.print value).length
  | .string text => text.length + 2
  | .array elements => max 2 (1 + elementsSize elements)
  | .object members => max 2 (1 + membersSize members)

/-- The length of the texts of elements with a separator behind each. -/
def elementsSize : List (Json Number) → Nat
  | [] => 0
  | element :: rest => size element + 1 + elementsSize rest

/-- The length of the texts of members with a separator behind each. -/
def membersSize : List (List UInt16 × Json Number) → Nat
  | [] => 0
  | (name, value) :: rest => name.length + 3 + size value + 1 + membersSize rest

end

variable {format}

theorem isPlainUnit_bounds {unit : UInt16} (plain : isPlainUnit unit = true) :
    32 ≤ unit.toNat ∧ unit.toNat < 128 ∧ unit ≠ 34 ∧ unit ≠ 92 := by
  simp only [isPlainUnit, Bool.and_eq_true, decide_eq_true_eq, bne_iff_ne, ne_eq] at plain
  exact ⟨UInt16.le_iff_toNat_le.mp plain.1.1.1, UInt16.lt_iff_toNat_lt.mp plain.1.1.2, plain.1.2, plain.2⟩

theorem printUnits_plain {text : List UInt16} (plain : PlainText text) : printUnits text = text := by
  induction text with
  | nil => rfl
  | cons unit text ih =>
      have rest := ih fun other inside => plain other (List.mem_cons_of_mem _ inside)
      obtain ⟨low, high, quote, backslash⟩ := isPlainUnit_bounds (plain unit (List.mem_cons_self ..))
      have long : shortEscape unit = none := by
        have control : ∀ small : UInt16, small.toNat < 32 → unit ≠ small := by
          rintro small below rfl
          omega
        simp only [shortEscape, control 8 (by decide), control 9 (by decide), control 10 (by decide),
          control 12 (by decide), control 13 (by decide), quote, backslash, if_false]
      have visible : ¬ unit < 32 := by
        rw [UInt16.lt_iff_toNat_lt]
        exact Nat.not_lt.mpr low
      have notLow : isLowSurrogate unit = false := by
        rw [isLowSurrogate, Bool.and_eq_false_iff]
        refine .inl (decide_eq_false ?_)
        rw [UInt16.le_iff_toNat_le]
        exact Nat.not_le.mpr (Nat.lt_trans high (by decide))
      have notHigh : isHighSurrogate unit = false := by
        rw [isHighSurrogate, Bool.and_eq_false_iff]
        refine .inl (decide_eq_false ?_)
        rw [UInt16.le_iff_toNat_le]
        exact Nat.not_le.mpr (Nat.lt_trans high (by decide))
      rw [printUnits.eq_def]
      simp only [long, visible, notLow, notHigh, if_false, Bool.false_eq_true, rest]

/-- The text of a plain value: its length, and that its units are ASCII. -/
structure PlainPrint (text : List UInt16) (length : Nat) : Prop where
  length : text.length = length
  ascii : ∀ unit ∈ text, unit.toNat < 128

theorem PlainPrint.append {first second : List UInt16} {firstLength secondLength : Nat}
    (before : PlainPrint first firstLength) (after : PlainPrint second secondLength) :
    PlainPrint (first ++ second) (firstLength + secondLength) where
  length := by rw [List.length_append, before.length, after.length]
  ascii unit inside := (List.mem_append.mp inside).elim (before.ascii unit) (after.ascii unit)

theorem PlainPrint.cons {unit : UInt16} {rest : List UInt16} {length : Nat} (ascii : unit.toNat < 128)
    (behind : PlainPrint rest length) : PlainPrint (unit :: rest) (length + 1) where
  length := by rw [List.length_cons, behind.length]
  ascii other inside := by
    rcases List.mem_cons.mp inside with rfl | inside
    · exact ascii
    · exact behind.ascii other inside

theorem printString_print {text : List UInt16} (plain : PlainText text) :
    PlainPrint (printString text) (text.length + 2) := by
  rw [printString, printUnits_plain plain]
  refine .cons (by decide) (.append ⟨rfl, fun unit inside => ?_⟩ ⟨rfl, each_of_all (by decide)⟩)
  exact (isPlainUnit_bounds (plain unit inside)).2.1

theorem printElements_print {elements : List (Json Number)} (some : elements ≠ [])
    (each : ∀ element ∈ elements, PlainPrint (print format element) (size format element)) :
    PlainPrint (printElements format elements ++ [93]) (elementsSize format elements) := by
  induction elements with
  | nil => exact absurd rfl some
  | cons element rest ih =>
      have first := each element (List.mem_cons_self ..)
      cases rest with
      | nil => exact first.append ⟨rfl, each_of_all (by decide)⟩
      | cons next rest =>
          have more := ih (List.cons_ne_nil _ _) fun other inside => each other (List.mem_cons_of_mem _ inside)
          rw [printElements, List.append_assoc, elementsSize, Nat.add_assoc, Nat.add_comm 1]
          exact first.append (.cons (by decide) more)

theorem printMembers_print {members : List (List UInt16 × Json Number)} (some : members ≠ [])
    (names : ∀ member ∈ members, PlainText member.1)
    (each : ∀ member ∈ members, PlainPrint (print format member.2) (size format member.2)) :
    PlainPrint (printMembers format members ++ [125]) (membersSize format members) := by
  induction members with
  | nil => exact absurd rfl some
  | cons member rest ih =>
      obtain ⟨name, value⟩ := member
      have first := (printString_print (names _ (List.mem_cons_self ..))).append
        (.cons (by decide : (58 : UInt16).toNat < 128) (each _ (List.mem_cons_self ..)))
      have length : name.length + 2 + (size format value + 1) = name.length + 3 + size format value := by omega
      rw [length] at first
      cases rest with
      | nil => exact first.append ⟨rfl, each_of_all (by decide)⟩
      | cons next rest =>
          have more := ih (List.cons_ne_nil _ _)
            (fun other inside => names other (List.mem_cons_of_mem _ inside))
            (fun other inside => each other (List.mem_cons_of_mem _ inside))
          have printed : printMembers format ((name, value) :: next :: rest) ++ [125] =
              (printString name ++ 58 :: print format value) ++
                44 :: (printMembers format (next :: rest) ++ [125]) := by
            simp only [printMembers, List.append_assoc, List.cons_append]
          rw [printed, membersSize, Nat.add_assoc _ 1, Nat.add_comm 1]
          exact first.append (.cons (by decide) more)

/-- The text of a plain value is as long as the size of the value. -/
theorem PlainValue.print {value : Json Number} (plain : PlainValue format value) :
    PlainPrint (Json.print format value) (size format value) := by
  induction plain with
  | null => exact ⟨rfl, (each_of_all (by decide) : ∀ unit ∈ [(110 : UInt16), 117, 108, 108], unit.toNat < 128)⟩
  | boolean value =>
      cases value
      · exact ⟨rfl, (each_of_all (by decide) : ∀ unit ∈ [(102 : UInt16), 97, 108, 115, 101], unit.toNat < 128)⟩
      · exact ⟨rfl, (each_of_all (by decide) : ∀ unit ∈ [(116 : UInt16), 114, 117, 101], unit.toNat < 128)⟩
  | number plain => exact ⟨rfl, fun unit inside => (isPlainUnit_bounds (plain unit inside)).2.1⟩
  | string plain => exact printString_print plain
  | @array elements _ ih =>
      cases elements with
      | nil => exact ⟨rfl, (each_of_all (by decide) : ∀ unit ∈ [(91 : UInt16), 93], unit.toNat < 128)⟩
      | cons element rest =>
          have inner := printElements_print (List.cons_ne_nil element rest) ih
          have two : 2 ≤ 1 + elementsSize format (element :: rest) := by
            rw [elementsSize]
            omega
          rw [size, Nat.max_eq_right two, Nat.add_comm]
          exact inner.cons (by decide)
  | @object members names _ ih =>
      cases members with
      | nil => exact ⟨rfl, (each_of_all (by decide) : ∀ unit ∈ [(123 : UInt16), 125], unit.toNat < 128)⟩
      | cons member rest =>
          have inner := printMembers_print (List.cons_ne_nil member rest) names ih
          have two : 2 ≤ 1 + membersSize format (member :: rest) := by
            rw [membersSize]
            omega
          rw [size, Nat.max_eq_right two, Nat.add_comm]
          exact inner.cons (by decide)

theorem elementsSize_eq (elements : List (Json Number)) :
    elementsSize format elements = (elements.map fun element => size format element + 1).sum := by
  induction elements with
  | nil => rfl
  | cons element rest ih => rw [elementsSize, ih, List.map_cons, List.sum_cons]

theorem membersSize_eq (members : List (List UInt16 × Json Number)) :
    membersSize format members =
      (members.map fun member => member.1.length + 3 + size format member.2 + 1).sum := by
  induction members with
  | nil => rfl
  | cons member rest ih => rw [membersSize, ih, List.map_cons, List.sum_cons]

/-- The size does not depend on the order of the members. -/
theorem size_perm {first second : List (List UInt16 × Json Number)} (same : first.Perm second) :
    size format (.object first) = size format (.object second) := by
  rw [size, size, membersSize_eq, membersSize_eq, (same.map _).sum_eq]

theorem size_array_le {first second : List (Json Number)}
    (each : List.Forall₂ (fun small large => size format small ≤ size format large) first second) :
    size format (.array first) ≤ size format (.array second) := by
  have sums : elementsSize format first ≤ elementsSize format second := by
    induction each with
    | nil => exact Nat.le_refl _
    | cons smaller _ ih =>
        rw [elementsSize, elementsSize]
        omega
  rw [size, size]
  omega

/-- Members with the names of others and smaller values. -/
abbrev Below (first second : List (List UInt16 × Json Number)) : Prop :=
  List.Forall₂ (fun small large => small.1 = large.1 ∧ size format small.2 ≤ size format large.2) first second

theorem Below.membersSize {first second : List (List UInt16 × Json Number)}
    (below : @Below _ format first second) :
    Json.membersSize format first ≤ Json.membersSize format second := by
  induction below with
  | nil => exact Nat.le_refl _
  | @cons small large _ _ smaller _ ih =>
      obtain ⟨name, value⟩ := small
      obtain ⟨otherName, otherValue⟩ := large
      obtain ⟨same, smaller⟩ := smaller
      have same : name = otherName := same
      subst same
      have smaller : size format value ≤ size format otherValue := smaller
      rw [Json.membersSize, Json.membersSize]
      omega

theorem membersSize_append (first second : List (List UInt16 × Json Number)) :
    membersSize format (first ++ second) = membersSize format first + membersSize format second := by
  rw [membersSize_eq, membersSize_eq, membersSize_eq, List.map_append, List.sum_append]

/-- An object with smaller members is smaller. -/
theorem size_object_le {first second : List (List UInt16 × Json Number)}
    (smaller : membersSize format first ≤ membersSize format second) :
    size format (.object first) ≤ size format (.object second) := by
  rw [size, size]
  omega

end Json
