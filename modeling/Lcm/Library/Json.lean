import Mathlib.Algebra.Ring.Nat
import Mathlib.Data.List.Basic
import Mathlib.Data.List.Nodup
import Mathlib.Data.Option.Basic
import Mathlib.Tactic.Common

/-- A JSON value over a type of numbers; text is a list of code units. -/
inductive Json (Number : Type) where
  | null
  | boolean (value : Bool)
  | number (value : Number)
  | string (units : List UInt16)
  | array (elements : List (Json Number))
  | object (members : List (List UInt16 × Json Number))

/-- A check of every item of a list by evaluation. -/
theorem each_of_all {Item : Type} {holds : Item → Prop} [DecidablePred holds] {items : List Item}
    (all : items.all (fun item => decide (holds item)) = true) : ∀ item ∈ items, holds item :=
  fun item inside => of_decide_eq_true (List.all_eq_true.mp all item inside)

/-- What holds of every unit of a text is decided over the text, not over all units there are. -/
instance (priority := 2000) decidableEachUnit (units : List UInt16) (holds : UInt16 → Prop)
    [DecidablePred holds] : Decidable (∀ unit ∈ units, holds unit) := List.decidableBAll holds units

/-- Texts compare unit by unit. -/
instance lawfulBEqText : LawfulBEq (List UInt16) := inferInstance

namespace Json

variable {Number : Type}

/-- Structural induction gives the hypothesis for every element and member value. -/
@[induction_eliminator] theorem inductionOn {motive : Json Number → Prop}
    (null : motive .null) (boolean : ∀ value, motive (.boolean value))
    (number : ∀ value, motive (.number value)) (string : ∀ units, motive (.string units))
    (array : ∀ elements, (∀ element ∈ elements, motive element) → motive (.array elements))
    (object : ∀ members, (∀ member ∈ members, motive member.2) → motive (.object members)) :
    ∀ value, motive value
  | .null => null
  | .boolean value => boolean value
  | .number value => number value
  | .string units => string units
  | .array elements => array elements fun element inside =>
      have := List.sizeOf_lt_of_mem inside
      inductionOn null boolean number string array object element
  | .object members => object members fun member inside =>
      have := List.sizeOf_lt_of_mem inside
      have : sizeOf member.2 < sizeOf member := by cases member; simp +arith
      inductionOn null boolean number string array object member.2

section Numbers

def isDigit (unit : UInt16) : Bool := 48 ≤ unit && unit ≤ 57

/-- The places in a number token. -/
inductive NumberState where
  | start
  | minus
  | zero
  | integer
  | point
  | fraction
  | exponent
  | exponentSign
  | exponentDigits
  deriving DecidableEq

/-- One unit of a number token. -/
def NumberState.next (state : NumberState) (unit : UInt16) : Option NumberState :=
  match state with
  | start => if unit = 45 then some minus else if unit = 48 then some zero
      else if isDigit unit then some integer else none
  | minus => if unit = 48 then some zero else if isDigit unit then some integer else none
  | zero => if unit = 46 then some point else if unit = 69 ∨ unit = 101 then some exponent else none
  | integer => if isDigit unit then some integer else if unit = 46 then some point
      else if unit = 69 ∨ unit = 101 then some exponent else none
  | point => if isDigit unit then some fraction else none
  | fraction => if isDigit unit then some fraction
      else if unit = 69 ∨ unit = 101 then some exponent else none
  | exponent => if unit = 43 ∨ unit = 45 then some exponentSign
      else if isDigit unit then some exponentDigits else none
  | exponentSign => if isDigit unit then some exponentDigits else none
  | exponentDigits => if isDigit unit then some exponentDigits else none

/-- A number token ends in a digit. -/
def NumberState.ends : NumberState → Bool
  | zero => true
  | integer => true
  | fraction => true
  | exponentDigits => true
  | _ => false

/-- The number tokens of the grammar. -/
def isNumberToken (token : List UInt16) : Bool :=
  (token.foldlM NumberState.next .start).any NumberState.ends

/-- The units that occur in number tokens. -/
def isNumberUnit (unit : UInt16) : Bool :=
  isDigit unit || unit == 43 || unit == 45 || unit == 46 || unit == 69 || unit == 101

theorem NumberState.next_unit {state after : NumberState} {unit : UInt16}
    (moved : state.next unit = some after) : isNumberUnit unit = true := by
  have zeroDigit : isDigit 48 = true := rfl
  unfold isNumberUnit
  cases state <;> simp only [NumberState.next] at moved <;> grind

theorem foldlM_units {state after : NumberState} {token : List UInt16}
    (ran : token.foldlM NumberState.next state = some after) :
    ∀ unit ∈ token, isNumberUnit unit = true := by
  induction token generalizing state with
  | nil => exact List.forall_mem_nil _
  | cons unit token ih =>
      simp only [List.foldlM_cons, Option.bind_eq_bind, Option.bind_eq_some_iff] at ran
      obtain ⟨middle, first, rest⟩ := ran
      exact List.forall_mem_cons.mpr ⟨NumberState.next_unit first, ih rest⟩

theorem isNumberToken_units {token : List UInt16} (valid : isNumberToken token = true) :
    token ≠ [] ∧ ∀ unit ∈ token, isNumberUnit unit = true := by
  simp only [isNumberToken, Option.any_eq_true] at valid
  obtain ⟨state, ran, ends⟩ := valid
  refine ⟨?_, foldlM_units ran⟩
  rintro rfl
  cases ran
  cases ends

/-- How a language prints and reads numbers, and which of them survive. -/
structure NumberFormat (Number : Type) where
  print : Number → List UInt16
  read : List UInt16 → Number
  printable : Number → Bool
  token : ∀ value, printable value = true → isNumberToken (print value) = true
  read_print : ∀ value, printable value = true → read (print value) = value

end Numbers

section Strings

def isHighSurrogate (unit : UInt16) : Bool := 0xd800 ≤ unit && unit ≤ 0xdbff

def isLowSurrogate (unit : UInt16) : Bool := 0xdc00 ≤ unit && unit ≤ 0xdfff

/-- The lower-case hexadecimal digit of a value below sixteen. -/
def hexDigit (value : Nat) : UInt16 :=
  if value < 10 then UInt16.ofNat (48 + value) else UInt16.ofNat (87 + value)

def hexValue (unit : UInt16) : Option Nat :=
  if isDigit unit then some (unit.toNat - 48)
  else if 97 ≤ unit && unit ≤ 102 then some (unit.toNat - 87)
  else if 65 ≤ unit && unit ≤ 70 then some (unit.toNat - 55)
  else none

theorem hexValue_hexDigit : ∀ value < 16, hexValue (hexDigit value) = some value := by decide

/-- A unit as a backslash, the letter u and four digits. -/
def escapeUnit (unit : UInt16) : List UInt16 :=
  [92, 117, hexDigit (unit.toNat / 4096), hexDigit (unit.toNat / 256 % 16),
    hexDigit (unit.toNat / 16 % 16), hexDigit (unit.toNat % 16)]

/-- The value of four hexadecimal digits. -/
def readEscape (first second third fourth : UInt16) : Option UInt16 := do
  let one ← hexValue first
  let two ← hexValue second
  let three ← hexValue third
  let four ← hexValue fourth
  some (UInt16.ofNat (((one * 16 + two) * 16 + three) * 16 + four))

theorem readEscape_digits (unit : UInt16) :
    readEscape (hexDigit (unit.toNat / 4096)) (hexDigit (unit.toNat / 256 % 16))
      (hexDigit (unit.toNat / 16 % 16)) (hexDigit (unit.toNat % 16)) = some unit := by
  have bound := unit.toNat_lt
  simp only [readEscape, hexValue_hexDigit _ (show unit.toNat / 4096 < 16 by omega),
    hexValue_hexDigit _ (show unit.toNat / 256 % 16 < 16 by omega),
    hexValue_hexDigit _ (show unit.toNat / 16 % 16 < 16 by omega),
    hexValue_hexDigit _ (show unit.toNat % 16 < 16 by omega), Option.bind_eq_bind,
    Option.bind_some]
  rw [show ((unit.toNat / 4096 * 16 + unit.toNat / 256 % 16) * 16 + unit.toNat / 16 % 16) * 16 +
    unit.toNat % 16 = unit.toNat by omega, UInt16.ofNat_toNat]

/-- The letter of a short escape. -/
def shortEscape (unit : UInt16) : Option UInt16 :=
  if unit = 8 then some 98 else if unit = 9 then some 116 else if unit = 10 then some 110
  else if unit = 12 then some 102 else if unit = 13 then some 114
  else if unit = 34 then some 34 else if unit = 92 then some 92 else none

/-- The unit that a letter after a backslash stands for. -/
def readShort (letter : UInt16) : Option UInt16 :=
  if letter = 34 ∨ letter = 92 ∨ letter = 47 then some letter
  else if letter = 98 then some 8 else if letter = 102 then some 12
  else if letter = 110 then some 10 else if letter = 114 then some 13
  else if letter = 116 then some 9 else none

/-- The units of a string literal; a surrogate pair stays, a lone surrogate is escaped. -/
def printUnits : List UInt16 → List UInt16
  | [] => []
  | unit :: rest =>
      match shortEscape unit with
      | some letter => 92 :: letter :: printUnits rest
      | none =>
          if unit < 32 then escapeUnit unit ++ printUnits rest
          else if isLowSurrogate unit then escapeUnit unit ++ printUnits rest
          else if isHighSurrogate unit then
            match rest with
            | following :: remaining =>
                if isLowSurrogate following then unit :: following :: printUnits remaining
                else escapeUnit unit ++ printUnits (following :: remaining)
            | [] => escapeUnit unit
          else unit :: printUnits rest

/-- A string literal between double quotes. -/
def printString (units : List UInt16) : List UInt16 := 34 :: printUnits units ++ [34]

/-- The units of a string literal up to its closing quote. -/
def parseUnits : List UInt16 → Option (List UInt16 × List UInt16)
  | [] => none
  | 34 :: rest => some ([], rest)
  | 92 :: 117 :: first :: second :: third :: fourth :: rest => do
      let unit ← readEscape first second third fourth
      let (units, remaining) ← parseUnits rest
      some (unit :: units, remaining)
  | 92 :: letter :: rest => do
      let unit ← readShort letter
      let (units, remaining) ← parseUnits rest
      some (unit :: units, remaining)
  | unit :: rest => do
      guard (32 ≤ unit ∧ unit ≠ 92)
      let (units, remaining) ← parseUnits rest
      some (unit :: units, remaining)

/-- A parser of string literals reads an escaped unit back. -/
theorem parseUnits_escape (unit : UInt16) (rest : List UInt16) :
    parseUnits (escapeUnit unit ++ rest) = (parseUnits rest).map fun read => (unit :: read.1, read.2) := by
  simp only [escapeUnit, List.cons_append, List.nil_append, parseUnits, readEscape_digits,
    Option.bind_eq_bind, Option.bind_some]
  cases parseUnits rest <;> rfl

theorem parseUnits_short {unit letter : UInt16} (short : shortEscape unit = some letter)
    (rest : List UInt16) :
    parseUnits (92 :: letter :: rest) = (parseUnits rest).map fun read => (unit :: read.1, read.2) := by
  have letters : readShort letter = some unit ∧ letter ≠ 117 := by
    unfold shortEscape at short
    repeat' split at short
    all_goals first | (cases short; subst_vars; decide) | cases short
  rw [parseUnits]
  · rw [letters.1]
    cases parseUnits rest <;> rfl
  · intro _ _ _ _ _ same
    exact absurd same letters.2

theorem parseUnits_plain {unit : UInt16} (visible : 32 ≤ unit) (quote : unit ≠ 34)
    (backslash : unit ≠ 92) (rest : List UInt16) :
    parseUnits (unit :: rest) = (parseUnits rest).map fun read => (unit :: read.1, read.2) := by
  rw [parseUnits]
  · simp only [visible, backslash, ne_eq, not_false_eq_true, and_self]
    cases parseUnits rest <;> rfl
  · exact quote
  · intro _ _ _ _ _ same
    exact absurd same backslash
  · intro _ _ same
    exact absurd same backslash

/-- A unit without a short escape is neither a quote nor a backslash. -/
theorem shortEscape_none {unit : UInt16} (plain : shortEscape unit = none) :
    unit ≠ 34 ∧ unit ≠ 92 := by
  unfold shortEscape at plain
  grind

theorem surrogate_visible {unit : UInt16} (surrogate : isHighSurrogate unit = true ∨
    isLowSurrogate unit = true) : 32 ≤ unit ∧ unit ≠ 34 ∧ unit ≠ 92 := by
  simp only [isHighSurrogate, isLowSurrogate, Bool.and_eq_true, decide_eq_true_eq] at surrogate
  rcases surrogate with ⟨low, _⟩ | ⟨low, _⟩ <;>
    exact ⟨UInt16.le_trans (by decide) low, by rintro rfl; exact absurd low (by decide),
      by rintro rfl; exact absurd low (by decide)⟩

/-- A printed string literal reads back as the string. -/
theorem parseUnits_print (units rest : List UInt16) :
    parseUnits (printUnits units ++ 34 :: rest) = some (units, rest) := by
  fun_induction printUnits units with
  | case1 => rw [List.nil_append, parseUnits]
  | case2 unit units letter short ih =>
      rw [List.cons_append, List.cons_append, parseUnits_short short, ih]
      rfl
  | case3 unit units plain control ih =>
      rw [List.append_assoc, parseUnits_escape, ih]
      rfl
  | case4 unit units plain visible lone ih =>
      rw [List.append_assoc, parseUnits_escape, ih]
      rfl
  | case5 unit plain visible notLow high following units low ih =>
      have first := surrogate_visible (.inl high)
      have second := surrogate_visible (.inr low)
      rw [List.cons_append, List.cons_append, parseUnits_plain first.1 first.2.1 first.2.2,
        parseUnits_plain second.1 second.2.1 second.2.2, ih]
      rfl
  | case6 unit plain visible notLow high following units lone ih =>
      rw [List.append_assoc, parseUnits_escape, ih]
      rfl
  | case7 unit plain visible notLow high =>
      rw [parseUnits_escape, parseUnits]
      rfl
  | case8 unit units plain visible notLow notHigh ih =>
      obtain ⟨quote, backslash⟩ := shortEscape_none plain
      rw [List.cons_append, parseUnits_plain (UInt16.not_lt.mp visible) quote backslash, ih]
      rfl

theorem escapeUnit_visible (unit : UInt16) : ∀ other ∈ escapeUnit unit, 32 ≤ other := by
  have digit : ∀ value < 16, 32 ≤ hexDigit value := by decide
  intro other inside
  simp only [escapeUnit, List.mem_cons, List.not_mem_nil, or_false] at inside
  have bound := unit.toNat_lt
  rcases inside with rfl | rfl | rfl | rfl | rfl | rfl
  · decide
  · decide
  · exact digit _ (by omega)
  · exact digit _ (by omega)
  · exact digit _ (by omega)
  · exact digit _ (by omega)

theorem shortEscape_visible {unit letter : UInt16} (short : shortEscape unit = some letter) :
    32 ≤ letter := by
  unfold shortEscape at short
  grind

theorem printUnits_visible (units : List UInt16) : ∀ unit ∈ printUnits units, 32 ≤ unit := by
  fun_induction printUnits units with
  | case1 => exact List.forall_mem_nil _
  | case2 unit units letter short ih =>
      exact List.forall_mem_cons.mpr ⟨by decide, List.forall_mem_cons.mpr ⟨shortEscape_visible short, ih⟩⟩
  | case3 unit units plain control ih => exact List.forall_mem_append.mpr ⟨escapeUnit_visible unit, ih⟩
  | case4 unit units plain visible lone ih =>
      exact List.forall_mem_append.mpr ⟨escapeUnit_visible unit, ih⟩
  | case5 unit plain visible notLow high following units low ih =>
      exact List.forall_mem_cons.mpr ⟨(surrogate_visible (.inl high)).1,
        List.forall_mem_cons.mpr ⟨(surrogate_visible (.inr low)).1, ih⟩⟩
  | case6 unit plain visible notLow high following units lone ih =>
      exact List.forall_mem_append.mpr ⟨escapeUnit_visible unit, ih⟩
  | case7 unit plain visible notLow high => exact escapeUnit_visible unit
  | case8 unit units plain visible notLow notHigh ih =>
      exact List.forall_mem_cons.mpr ⟨UInt16.not_lt.mp visible, ih⟩

theorem printString_visible (units : List UInt16) : ∀ unit ∈ printString units, 32 ≤ unit := by
  rw [printString, List.cons_append, List.forall_mem_cons, List.forall_mem_append, List.forall_mem_singleton]
  exact ⟨by decide, printUnits_visible units, by decide⟩

end Strings

section Values

/-- White space of the grammar. -/
def isSpace (unit : UInt16) : Bool := unit == 32 || unit == 9 || unit == 10 || unit == 13

def skipSpace (text : List UInt16) : List UInt16 := text.dropWhile isSpace

/-- A member replaces an earlier one of the same name and keeps its place. -/
def define (members : List (List UInt16 × Json Number)) (name : List UInt16) (value : Json Number) :
    List (List UInt16 × Json Number) :=
  if name ∈ members.map Prod.fst then
    members.map fun member => if member.1 = name then (name, value) else member
  else members ++ [(name, value)]

variable (format : NumberFormat Number)

mutual

/-- The text of a value without white space. -/
def print : Json Number → List UInt16
  | .null => [110, 117, 108, 108]
  | .boolean true => [116, 114, 117, 101]
  | .boolean false => [102, 97, 108, 115, 101]
  | .number value => format.print value
  | .string units => printString units
  | .array elements => 91 :: printElements elements ++ [93]
  | .object members => 123 :: printMembers members ++ [125]

/-- The texts of elements between commas. -/
def printElements : List (Json Number) → List UInt16
  | [] => []
  | [element] => print element
  | element :: next :: rest => print element ++ 44 :: printElements (next :: rest)

/-- The names and texts of members between commas. -/
def printMembers : List (List UInt16 × Json Number) → List UInt16
  | [] => []
  | [(name, value)] => printString name ++ 58 :: print value
  | (name, value) :: next :: rest =>
      printString name ++ 58 :: print value ++ 44 :: printMembers (next :: rest)

end

/-- A number takes every unit that may belong to a number token. -/
def parseNumber (text : List UInt16) : Option (Json Number × List UInt16) := do
  let token := text.takeWhile isNumberUnit
  guard (isNumberToken token)
  some (.number (format.read token), text.dropWhile isNumberUnit)

mutual

/-- A value at the head of a text; the fuel bounds the nesting. -/
def parseValue : Nat → List UInt16 → Option (Json Number × List UInt16)
  | 0, _ => none
  | fuel + 1, text =>
      match skipSpace text with
      | 110 :: 117 :: 108 :: 108 :: rest => some (.null, rest)
      | 116 :: 114 :: 117 :: 101 :: rest => some (.boolean true, rest)
      | 102 :: 97 :: 108 :: 115 :: 101 :: rest => some (.boolean false, rest)
      | 34 :: rest => do
          let (units, remaining) ← parseUnits rest
          some (.string units, remaining)
      | 91 :: rest =>
          match skipSpace rest with
          | 93 :: remaining => some (.array [], remaining)
          | _ => do
              let (elements, remaining) ← parseElements fuel rest
              some (.array elements, remaining)
      | 123 :: rest =>
          match skipSpace rest with
          | 125 :: remaining => some (.object [], remaining)
          | _ => do
              let (members, remaining) ← parseMembers fuel [] rest
              some (.object members, remaining)
      | other => parseNumber format other

/-- The elements of an array up to its closing bracket. -/
def parseElements : Nat → List UInt16 → Option (List (Json Number) × List UInt16)
  | 0, _ => none
  | fuel + 1, text => do
      let (element, rest) ← parseValue fuel text
      match skipSpace rest with
      | 44 :: remaining => do
          let (elements, final) ← parseElements fuel remaining
          some (element :: elements, final)
      | 93 :: remaining => some ([element], remaining)
      | _ => none

/-- The members of an object up to its closing brace, added to the members before them. -/
def parseMembers : Nat → List (List UInt16 × Json Number) → List UInt16 →
    Option (List (List UInt16 × Json Number) × List UInt16)
  | 0, _, _ => none
  | fuel + 1, members, text =>
      match skipSpace text with
      | 34 :: quoted => do
          let (name, afterName) ← parseUnits quoted
          match skipSpace afterName with
          | 58 :: afterColon => do
              let (value, rest) ← parseValue fuel afterColon
              match skipSpace rest with
              | 44 :: remaining => parseMembers fuel (define members name value) remaining
              | 125 :: remaining => some (define members name value, remaining)
              | _ => none
          | _ => none
      | _ => none

end

/-- A text is one value with white space around it. -/
def parse (text : List UInt16) : Option (Json Number) := do
  let (value, rest) ← parseValue format (2 * text.length + 2) text
  guard (skipSpace rest = [])
  some value

/-- A printable value has printable numbers and distinct member names. -/
inductive Printable : Json Number → Prop
  | null : Printable .null
  | boolean (value : Bool) : Printable (.boolean value)
  | number {value : Number} (printable : format.printable value = true) : Printable (.number value)
  | string (units : List UInt16) : Printable (.string units)
  | array {elements : List (Json Number)} (each : ∀ element ∈ elements, Printable element) :
      Printable (.array elements)
  | object {members : List (List UInt16 × Json Number)} (distinct : (members.map Prod.fst).Nodup)
      (each : ∀ member ∈ members, Printable member.2) : Printable (.object members)

variable {format}

theorem skipSpace_cons {unit : UInt16} (visible : isSpace unit = false) (rest : List UInt16) :
    skipSpace (unit :: rest) = unit :: rest := by
  rw [skipSpace, List.dropWhile_cons_of_neg (by simp [visible])]

/-- The text of a printable value starts with a visible unit that closes nothing. -/
theorem print_head {value : Json Number} (printable : Printable format value) :
    ∃ unit rest, print format value = unit :: rest ∧ isSpace unit = false ∧ unit ≠ 93 ∧
      unit ≠ 125 := by
  cases printable with
  | null => exact ⟨_, _, by rw [print], by decide, by decide, by decide⟩
  | boolean value => cases value <;> exact ⟨_, _, by rw [print], by decide, by decide, by decide⟩
  | @number value printable =>
      obtain ⟨nonempty, units⟩ := isNumberToken_units (format.token value printable)
      obtain ⟨unit, rest, parts⟩ := List.exists_cons_of_ne_nil nonempty
      have first := units unit (by rw [parts]; exact List.mem_cons_self ..)
      refine ⟨unit, rest, by rw [print, parts], ?_, ?_, ?_⟩
      · by_contra space
        simp only [isSpace, Bool.not_eq_false, Bool.or_eq_true, beq_iff_eq] at space
        rcases space with ((rfl | rfl) | rfl) | rfl <;> exact absurd first (by decide)
      · rintro rfl
        exact absurd first (by decide)
      · rintro rfl
        exact absurd first (by decide)
  | string units => exact ⟨_, _, by rw [print, printString]; rfl, by decide, by decide, by decide⟩
  | array each => exact ⟨_, _, by rw [print]; rfl, by decide, by decide, by decide⟩
  | object distinct each => exact ⟨_, _, by rw [print]; rfl, by decide, by decide, by decide⟩

/-- A text after a number does not go on with a unit of a number. -/
def StopsNumber (rest : List UInt16) : Prop := ∀ unit ∈ rest.head?, isNumberUnit unit = false

theorem stopsNumber_cons {unit : UInt16} (other : isNumberUnit unit = false) (rest : List UInt16) :
    StopsNumber (unit :: rest) := by
  intro head here
  cases here
  exact other

theorem takeWhile_token {token rest : List UInt16} (units : ∀ unit ∈ token, isNumberUnit unit = true)
    (stops : StopsNumber rest) : (token ++ rest).takeWhile isNumberUnit = token ∧
      (token ++ rest).dropWhile isNumberUnit = rest := by
  have finish : rest.takeWhile isNumberUnit = [] ∧ rest.dropWhile isNumberUnit = rest := by
    cases rest with
    | nil => exact ⟨rfl, rfl⟩
    | cons unit rest =>
        have other := stops unit rfl
        exact ⟨List.takeWhile_cons_of_neg (by simp [other]),
          List.dropWhile_cons_of_neg (by simp [other])⟩
  constructor
  · rw [List.takeWhile_append_of_pos units, finish.1, List.append_nil]
  · rw [List.dropWhile_append_of_pos units, finish.2]

theorem parseNumber_print {value : Number} (printable : format.printable value = true)
    {rest : List UInt16} (stops : StopsNumber rest) :
    parseNumber format (format.print value ++ rest) = some (.number value, rest) := by
  have valid := format.token value printable
  obtain ⟨taken, dropped⟩ := takeWhile_token (isNumberToken_units valid).2 stops
  simp only [parseNumber, taken, dropped, valid, format.read_print value printable]
  rfl

/-- A value that starts with a unit of a number is a number. -/
theorem parseValue_number (fuel : Nat) {unit : UInt16} (digit : isNumberUnit unit = true)
    (rest : List UInt16) :
    parseValue format (fuel + 1) (unit :: rest) = parseNumber format (unit :: rest) := by
  have visible : isSpace unit = false := by
    by_contra space
    simp only [isSpace, Bool.not_eq_false, Bool.or_eq_true, beq_iff_eq] at space
    rcases space with ((rfl | rfl) | rfl) | rfl <;> exact absurd digit (by decide)
  rw [parseValue, skipSpace_cons visible]
  split
  all_goals first
    | (next same => cases same; exact absurd digit (by decide))
    | rfl

/-- Elements read back when each of them does. -/
theorem parseElements_print {elements : List (Json Number)} (nonempty : elements ≠ [])
    (each : ∀ element ∈ elements, ∀ (rest : List UInt16) (fuel : Nat), StopsNumber rest →
      2 * (print format element).length ≤ fuel →
        parseValue format fuel (print format element ++ rest) = some (element, rest))
    (rest : List UInt16) {fuel : Nat} (enough : 2 * (printElements format elements).length + 1 ≤ fuel) :
    parseElements format fuel (printElements format elements ++ 93 :: rest) =
      some (elements, rest) := by
  induction elements generalizing fuel with
  | nil => exact absurd rfl nonempty
  | cons element others ih =>
      obtain ⟨fuel, rfl⟩ : ∃ less, fuel = less + 1 := ⟨fuel - 1, by omega⟩
      have first := each element (List.mem_cons_self ..)
      cases others with
      | nil =>
          rw [printElements] at enough ⊢
          rw [parseElements, first _ fuel (stopsNumber_cons (by decide) _) (by omega)]
          rfl
      | cons next others =>
          rw [printElements, List.length_append, List.length_cons] at enough
          have more := ih (List.cons_ne_nil _ _)
            (fun element inside => each element (List.mem_cons_of_mem _ inside))
            (show 2 * (printElements format (next :: others)).length + 1 ≤ fuel by omega)
          rw [printElements, parseElements, List.append_assoc, List.cons_append,
            first _ fuel (stopsNumber_cons (by decide) _) (by omega)]
          simp only [Option.bind_eq_bind, Option.bind_some, skipSpace_cons (show isSpace 44 = false
            from rfl), more]

theorem define_fresh {members : List (List UInt16 × Json Number)} {name : List UInt16}
    (fresh : name ∉ members.map Prod.fst) (value : Json Number) :
    define members name value = members ++ [(name, value)] := if_neg fresh

/-- Members with distinct names read back when each of their values does. -/
theorem parseMembers_print {members before : List (List UInt16 × Json Number)}
    (nonempty : members ≠ []) (distinct : ((before ++ members).map Prod.fst).Nodup)
    (each : ∀ member ∈ members, ∀ (rest : List UInt16) (fuel : Nat), StopsNumber rest →
      2 * (print format member.2).length ≤ fuel →
        parseValue format fuel (print format member.2 ++ rest) = some (member.2, rest))
    (rest : List UInt16) {fuel : Nat} (enough : 2 * (printMembers format members).length + 1 ≤ fuel) :
    parseMembers format fuel before (printMembers format members ++ 125 :: rest) =
      some (before ++ members, rest) := by
  induction members generalizing before fuel with
  | nil => exact absurd rfl nonempty
  | cons member others ih =>
      obtain ⟨fuel, rfl⟩ : ∃ less, fuel = less + 1 := ⟨fuel - 1, by omega⟩
      obtain ⟨name, value⟩ := member
      have first := each (name, value) (List.mem_cons_self ..)
      have fresh : name ∉ before.map Prod.fst := by
        rw [List.map_append, List.nodup_append] at distinct
        exact fun used => distinct.2.2 name used name (by simp) rfl
      have visible : ∀ unit ∈ [(34 : UInt16), 58, 44, 125], isSpace unit = false :=
        each_of_all (by decide)
      cases others with
      | nil =>
          rw [printMembers, List.length_append, List.length_cons] at enough
          have read := first (125 :: rest) fuel (stopsNumber_cons rfl _) (by dsimp only; omega)
          simp only [printMembers, printString, List.cons_append, List.append_assoc,
            List.nil_append, parseMembers, skipSpace_cons (visible 34 (by decide)),
            parseUnits_print, Option.bind_eq_bind, Option.bind_some,
            skipSpace_cons (visible 58 (by decide)), read,
            skipSpace_cons (visible 125 (by decide)), define_fresh fresh]
      | cons next others =>
          rw [printMembers, List.length_append, List.length_append, List.length_cons,
            List.length_cons] at enough
          have others' : (((before ++ [(name, value)]) ++ next :: others).map Prod.fst).Nodup := by
            rw [List.append_assoc]
            exact distinct
          have more := ih (List.cons_ne_nil _ _) others'
            (fun member inside => each member (List.mem_cons_of_mem _ inside))
            (show 2 * (printMembers format (next :: others)).length + 1 ≤ fuel by omega)
          rw [List.append_assoc before, List.singleton_append] at more
          have read := first (44 :: (printMembers format (next :: others) ++ 125 :: rest)) fuel
            (stopsNumber_cons rfl _) (by dsimp only; omega)
          simp only [printMembers, printString, List.cons_append, List.append_assoc,
            List.nil_append, parseMembers, skipSpace_cons (visible 34 (by decide)),
            parseUnits_print, Option.bind_eq_bind, Option.bind_some,
            skipSpace_cons (visible 58 (by decide)), read,
            skipSpace_cons (visible 44 (by decide)), define_fresh fresh]
          exact more

/-- A printed value reads back. -/
theorem parseValue_print {value : Json Number} (printable : Printable format value) :
    ∀ (rest : List UInt16) (fuel : Nat), StopsNumber rest →
      2 * (print format value).length ≤ fuel →
        parseValue format fuel (print format value ++ rest) = some (value, rest) := by
  induction value with
  | null =>
      intro rest fuel _ enough
      rw [print] at enough ⊢
      obtain ⟨fuel, rfl⟩ : ∃ less, fuel = less + 1 := ⟨fuel - 1, by simp at enough; omega⟩
      rfl
  | boolean value =>
      intro rest fuel _ enough
      cases value <;> rw [print] at enough ⊢ <;>
        obtain ⟨fuel, rfl⟩ : ∃ less, fuel = less + 1 := ⟨fuel - 1, by simp at enough; omega⟩ <;> rfl
  | number value =>
      intro rest fuel stops enough
      cases printable with
      | number printable =>
          obtain ⟨nonempty, units⟩ := isNumberToken_units (format.token value printable)
          obtain ⟨unit, others, parts⟩ := List.exists_cons_of_ne_nil nonempty
          have digit := units unit (by rw [parts]; exact List.mem_cons_self ..)
          have read := parseNumber_print printable stops
          rw [print] at enough ⊢
          rw [parts] at enough read ⊢
          obtain ⟨fuel, rfl⟩ : ∃ less, fuel = less + 1 := ⟨fuel - 1, by simp at enough; omega⟩
          rw [List.cons_append] at read ⊢
          rw [parseValue_number fuel digit, read]
  | string units =>
      intro rest fuel _ enough
      rw [print, printString] at enough ⊢
      obtain ⟨fuel, rfl⟩ : ∃ less, fuel = less + 1 := ⟨fuel - 1, by simp at enough; omega⟩
      simp only [List.cons_append, List.append_assoc, List.nil_append]
      rw [parseValue, skipSpace_cons rfl]
      simp only [parseUnits_print, Option.bind_eq_bind, Option.bind_some]
  | array elements ih =>
      intro rest fuel _ enough
      cases printable with
      | array each =>
          rw [print] at enough ⊢
          simp only [List.cons_append, List.length_cons, List.length_append, List.length_nil]
            at enough
          obtain ⟨fuel, rfl⟩ : ∃ less, fuel = less + 1 := ⟨fuel - 1, by omega⟩
          rw [List.cons_append, List.cons_append, List.append_assoc, parseValue, skipSpace_cons rfl]
          cases elements with
          | nil => rfl
          | cons element others =>
              have read := parseElements_print (List.cons_ne_nil _ _)
                (fun element inside => ih element inside (each element inside)) rest
                (show 2 * (printElements format (element :: others)).length + 1 ≤ fuel by omega)
              have opens : ∃ unit tail, printElements format (element :: others) = unit :: tail ∧
                  isSpace unit = false ∧ unit ≠ 93 := by
                obtain ⟨unit, tail, parts, visible, opens, _⟩ :=
                  print_head (each element (List.mem_cons_self ..))
                cases others with
                | nil => exact ⟨unit, tail, by rw [printElements, parts], visible, opens⟩
                | cons next others =>
                    exact ⟨unit, _, by rw [printElements, parts, List.cons_append], visible, opens⟩
              obtain ⟨unit, tail, parts, visible, notClosed⟩ := opens
              simp only [List.cons_append, List.nil_append]
              rw [parts, List.cons_append] at read ⊢
              simp only [skipSpace_cons visible]
              split
              · next same => exact absurd (List.cons.inj same).1 notClosed
              · rw [read]
                rfl
  | object members ih =>
      intro rest fuel _ enough
      cases printable with
      | object distinct each =>
          rw [print] at enough ⊢
          simp only [List.cons_append, List.length_cons, List.length_append, List.length_nil]
            at enough
          obtain ⟨fuel, rfl⟩ : ∃ less, fuel = less + 1 := ⟨fuel - 1, by omega⟩
          rw [List.cons_append, List.cons_append, List.append_assoc, parseValue, skipSpace_cons rfl]
          cases members with
          | nil => rfl
          | cons member others =>
              have read := parseMembers_print (List.cons_ne_nil _ _)
                (show (([] ++ member :: others).map Prod.fst).Nodup from distinct)
                (fun member inside => ih member inside (each member inside)) rest
                (show 2 * (printMembers format (member :: others)).length + 1 ≤ fuel by omega)
              have opens : ∃ tail, printMembers format (member :: others) = 34 :: tail := by
                cases others <;> exact ⟨_, by rw [printMembers, printString]; rfl⟩
              obtain ⟨tail, parts⟩ := opens
              simp only [List.cons_append, List.nil_append]
              rw [parts, List.cons_append] at read ⊢
              simp only [skipSpace_cons (show isSpace 34 = false from rfl)]
              rw [read]
              rfl

/-- The text of a printable value parses to the value. -/
theorem parse_print {value : Json Number} (printable : Printable format value) :
    parse format (print format value) = some value := by
  have read := parseValue_print printable [] (2 * (print format value).length + 2)
    (fun _ none => nomatch none) (by omega)
  rw [List.append_nil] at read
  rw [parse, read]
  rfl

theorem printElements_visible {elements : List (Json Number)}
    (each : ∀ element ∈ elements, ∀ unit ∈ print format element, 32 ≤ unit) :
    ∀ unit ∈ printElements format elements, 32 ≤ unit := by
  induction elements with
  | nil => exact fun _ none => by rw [printElements] at none; cases none
  | cons element others ih =>
      obtain ⟨first, rest⟩ := List.forall_mem_cons.mp each
      cases others with
      | nil =>
          rw [printElements]
          exact first
      | cons next others =>
          rw [printElements, List.forall_mem_append, List.forall_mem_cons]
          exact ⟨first, by decide, ih rest⟩

theorem printMembers_visible {members : List (List UInt16 × Json Number)}
    (each : ∀ member ∈ members, ∀ unit ∈ print format member.2, 32 ≤ unit) :
    ∀ unit ∈ printMembers format members, 32 ≤ unit := by
  induction members with
  | nil => exact fun _ none => by rw [printMembers] at none; cases none
  | cons member others ih =>
      obtain ⟨name, value⟩ := member
      obtain ⟨first, rest⟩ := List.forall_mem_cons.mp each
      have named := printString_visible name
      cases others with
      | nil =>
          rw [printMembers, List.forall_mem_append, List.forall_mem_cons]
          exact ⟨named, by decide, first⟩
      | cons next others =>
          rw [printMembers, List.append_assoc, List.forall_mem_append, List.cons_append,
            List.forall_mem_cons, List.forall_mem_append, List.forall_mem_cons]
          exact ⟨named, by decide, first, by decide, ih rest⟩

/-- The text of a printable value has no control characters. -/
theorem Printable.visible {value : Json Number} (printable : Printable format value) :
    ∀ unit ∈ print format value, 32 ≤ unit := by
  have digits : ∀ unit, isNumberUnit unit = true → 32 ≤ unit := by
    intro unit kind
    simp only [isNumberUnit, isDigit] at kind
    grind
  induction printable with
  | null =>
      rw [print]
      exact each_of_all (by decide)
  | boolean value =>
      cases value
      · rw [print]
        exact each_of_all (by decide)
      · rw [print]
        exact each_of_all (by decide)
  | number printable =>
      rw [print]
      exact fun unit inside =>
        digits unit ((isNumberToken_units (format.token _ printable)).2 unit inside)
  | string text =>
      rw [print]
      exact printString_visible text
  | array each ih =>
      rw [print, List.cons_append, List.forall_mem_cons, List.forall_mem_append,
        List.forall_mem_singleton]
      exact ⟨by decide, printElements_visible ih, by decide⟩
  | object distinct each ih =>
      rw [print, List.cons_append, List.forall_mem_cons, List.forall_mem_append,
        List.forall_mem_singleton]
      exact ⟨by decide, printMembers_visible ih, by decide⟩
end Values

end Json
