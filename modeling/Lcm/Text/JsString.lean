import Lcm.Library.Json
import Mathlib.Data.List.Basic
import Mathlib.Tactic.Common

namespace Lcm.Text

/-- A JavaScript string is a sequence of sixteen-bit code units. -/
abbrev JsString := List UInt16

/-- The code units of one Unicode scalar value. -/
def encodeUtf16 (scalar : Char) : JsString :=
  if scalar.toNat < 0x10000 then
    [UInt16.ofNat scalar.toNat]
  else
    let offset := scalar.toNat - 0x10000
    [UInt16.ofNat (0xd800 + offset / 0x400), UInt16.ofNat (0xdc00 + offset % 0x400)]

/-- A literal of the source as a JavaScript string. -/
def js (literal : String) : JsString := literal.toList.flatMap encodeUtf16

/-- The decimal digits that JavaScript prints for a natural number. -/
def decimal (value : Nat) : JsString := (Nat.toDigits 10 value).flatMap encodeUtf16

/-- The white space and line terminators that trimming removes. -/
def isWhiteSpace (unit : UInt16) : Bool :=
  unit ∈ [9, 10, 11, 12, 13, 32, 160, 0x1680, 0x2028, 0x2029, 0x202f, 0x205f, 0x3000, 0xfeff] ||
    (0x2000 ≤ unit && unit ≤ 0x200a)

/-- Trimming removes white space at both ends. -/
def trim (text : JsString) : JsString :=
  ((text.dropWhile isWhiteSpace).reverse.dropWhile isWhiteSpace).reverse

/-- The parts of a list joined by a separator. -/
def join (separator : JsString) (parts : List JsString) : JsString :=
  separator.intercalate parts

/-- The NUL character that conversation text must not contain. -/
def includesNul (text : JsString) : Bool := text.contains 0

/-- A surrogate that is not part of a pair makes a string malformed. -/
def containsMalformedUtf16 : JsString → Bool
  | [] => false
  | [unit] => Json.isHighSurrogate unit || Json.isLowSurrogate unit
  | unit :: following :: rest =>
      if Json.isHighSurrogate unit then
        !Json.isLowSurrogate following || containsMalformedUtf16 rest
      else Json.isLowSurrogate unit || containsMalformedUtf16 (following :: rest)

/-- An ASCII letter in lower case. -/
def toLowerAscii (unit : UInt16) : UInt16 :=
  if 65 ≤ unit && unit ≤ 90 then unit + 32 else unit

/-- The word characters of a regular expression without the Unicode flag. -/
def isWordCharacter (unit : UInt16) : Bool :=
  (48 ≤ unit && unit ≤ 57) || (65 ≤ unit && unit ≤ 90) || (97 ≤ unit && unit ≤ 122) || unit == 95

/-- The lower-case hexadecimal digits. -/
def isHexDigit (unit : UInt16) : Bool :=
  (48 ≤ unit && unit ≤ 57) || (97 ≤ unit && unit ≤ 102)

/-- The first occurrence of each value stays, in order. -/
def dedupeOrdered {Value : Type*} [BEq Value] (values : List Value) : List Value :=
  values.foldl (fun ordered value => if ordered.contains value then ordered else ordered ++ [value]) []

end Lcm.Text
