import Lcm.Text.JsString

namespace Lcm.Text

/-- The text of a UUID in lower case: hexadecimal digits in five groups with hyphens between. -/
def isUuid (text : JsString) : Bool :=
  text.length == 36 && text.zipIdx.all fun (unit, index) =>
    if index ∈ [8, 13, 18, 23] then unit == 45 else isHexDigit unit

/-- A version digit and the variant digit of a UUID. -/
def hasVersion (versions : List UInt16) (text : JsString) : Bool :=
  (text[14]?.any fun unit => unit ∈ versions) && (text[19]?.any fun unit => unit ∈ [56, 57, 97, 98])

/-- The letters of a text in lower case where the text is ASCII. -/
def lowerAscii (text : JsString) : JsString := text.map toLowerAscii

theorem lowerAscii_idempotent (text : JsString) : lowerAscii (lowerAscii text) = lowerAscii text := by
  have once : ∀ unit, toLowerAscii (toLowerAscii unit) = toLowerAscii unit := by
    intro unit
    by_cases upper : (65 ≤ unit && unit ≤ 90) = true
    · have lowered : toLowerAscii unit = unit + 32 := if_pos upper
      simp only [Bool.and_eq_true, decide_eq_true_eq, UInt16.le_iff_toNat_le] at upper
      have low : 65 ≤ unit.toNat := upper.1
      have high : unit.toNat ≤ 90 := upper.2
      have shifted : (unit + 32).toNat = unit.toNat + 32 := by
        rw [UInt16.toNat_add]
        exact Nat.mod_eq_of_lt (show unit.toNat + 32 < 65536 by omega)
      rw [lowered, toLowerAscii, if_neg]
      simp only [Bool.and_eq_true, decide_eq_true_eq, UInt16.le_iff_toNat_le, shifted, not_and]
      intro _ limit
      have bound : unit.toNat + 32 ≤ 90 := limit
      omega
    · have kept : toLowerAscii unit = unit := if_neg upper
      rw [kept, kept]
  rw [lowerAscii, lowerAscii, List.map_map]
  exact List.map_congr_left fun unit _ => once unit

/-- PostgreSQL stores text without NUL and without lone surrogates. -/
def isPostgreSqlText (text : JsString) : Bool := !includesNul text && !containsMalformedUtf16 text

/-- Some of the text remains after trimming. -/
def isNonblank (text : JsString) : Bool := !(trim text).isEmpty

end Lcm.Text
