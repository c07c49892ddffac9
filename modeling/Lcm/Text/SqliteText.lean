import Lcm.Text.JsString
import Lcm.Text.Uuid
import Mathlib.Data.List.TakeWhile

namespace Lcm.Text

/-- The mark that a text in UTF-8 has in the place of a lone surrogate. -/
def replacementCharacter : UInt16 := 0xfffd

/-- A text as it is after its writing in UTF-8. -/
def toWellFormed : JsString → JsString
  | [] => []
  | [unit] =>
      if Json.isHighSurrogate unit || Json.isLowSurrogate unit then [replacementCharacter] else [unit]
  | unit :: following :: rest =>
      if Json.isHighSurrogate unit then
        if Json.isLowSurrogate following then unit :: following :: toWellFormed rest
        else replacementCharacter :: toWellFormed (following :: rest)
      else if Json.isLowSurrogate unit then replacementCharacter :: toWellFormed (following :: rest)
      else unit :: toWellFormed (following :: rest)

/-- The text of a column as `node:sqlite` gives it: it ends at the first NUL. -/
def readText (text : JsString) : JsString := toWellFormed (text.takeWhile (· ≠ 0))

theorem containsMalformedUtf16_cons {unit : UInt16} {rest : JsString}
    (high : Json.isHighSurrogate unit = false) (low : Json.isLowSurrogate unit = false) :
    containsMalformedUtf16 (unit :: rest) = containsMalformedUtf16 rest := by
  cases rest with
  | nil => simp [containsMalformedUtf16, high, low]
  | cons following rest => simp [containsMalformedUtf16, high, low]

theorem toWellFormed_valid (text : JsString) : containsMalformedUtf16 (toWellFormed text) = false := by
  have replaced : ∀ rest : JsString, containsMalformedUtf16 (replacementCharacter :: rest) =
      containsMalformedUtf16 rest := fun rest => containsMalformedUtf16_cons (by decide) (by decide)
  induction text using toWellFormed.induct with
  | case1 => rfl
  | case2 unit surrogate =>
      rw [toWellFormed, if_pos surrogate, replaced]
      rfl
  | case3 unit plain =>
      rw [toWellFormed, if_neg plain]
      simpa [containsMalformedUtf16] using plain
  | case4 unit following rest high low ih =>
      rw [toWellFormed, if_pos high, if_pos low, containsMalformedUtf16, if_pos high, low, ih]
      rfl
  | case5 unit following rest high other ih =>
      rw [toWellFormed, if_pos high, if_neg other, replaced, ih]
  | case6 unit following rest other low ih =>
      rw [toWellFormed, if_neg other, if_pos low, replaced, ih]
  | case7 unit following rest high low ih =>
      rw [toWellFormed, if_neg high, if_neg low, containsMalformedUtf16_cons (by simpa using high)
        (by simpa using low), ih]

theorem mem_toWellFormed {unit : UInt16} {text : JsString} (inside : unit ∈ toWellFormed text) :
    unit = replacementCharacter ∨ unit ∈ text := by
  induction text using toWellFormed.induct with
  | case1 => cases inside
  | case2 first surrogate =>
      rw [toWellFormed, if_pos surrogate] at inside
      exact .inl (List.mem_singleton.mp inside)
  | case3 first plain =>
      rw [toWellFormed, if_neg plain] at inside
      exact .inr inside
  | case4 first following rest high low ih =>
      rw [toWellFormed, if_pos high, if_pos low] at inside
      simp only [List.mem_cons] at inside ⊢
      rcases inside with here | here | later
      · exact .inr (.inl here)
      · exact .inr (.inr (.inl here))
      · exact (ih later).imp id fun found => .inr (.inr found)
  | case5 first following rest high other ih =>
      rw [toWellFormed, if_pos high, if_neg other] at inside
      rcases List.mem_cons.mp inside with here | later
      · exact .inl here
      · exact (ih later).imp id (List.mem_cons_of_mem _)
  | case6 first following rest other low ih =>
      rw [toWellFormed, if_neg other, if_pos low] at inside
      rcases List.mem_cons.mp inside with here | later
      · exact .inl here
      · exact (ih later).imp id (List.mem_cons_of_mem _)
  | case7 first following rest high low ih =>
      rw [toWellFormed, if_neg high, if_neg low] at inside
      rcases List.mem_cons.mp inside with here | later
      · exact .inr (here ▸ List.mem_cons_self ..)
      · exact (ih later).imp id (List.mem_cons_of_mem _)

/-- What is read has neither a NUL nor a lone surrogate. -/
theorem isPostgreSqlText_readText (text : JsString) : isPostgreSqlText (readText text) = true := by
  have clean : includesNul (readText text) = false := by
    rw [includesNul, List.contains_eq_mem, decide_eq_false_iff_not]
    intro inside
    rcases mem_toWellFormed inside with replaced | kept
    · exact absurd replaced (by decide)
    · exact absurd (List.mem_takeWhile_imp kept) (by decide)
  rw [isPostgreSqlText, clean, readText, toWellFormed_valid]
  rfl

/-- A text of ASCII characters is read as it was written. -/
theorem readText_ascii {text : JsString} (ascii : ∀ unit ∈ text, unit ≠ 0 ∧ unit < 128) :
    readText text = text := by
  have kept : text.takeWhile (· ≠ 0) = text := by
    rw [List.takeWhile_eq_self_iff]
    exact fun unit inside => decide_eq_true (ascii unit inside).1
  have plain : ∀ unit : UInt16, unit < 128 →
      Json.isHighSurrogate unit = false ∧ Json.isLowSurrogate unit = false := by
    intro unit small
    have below : unit.toNat < 128 := UInt16.lt_iff_toNat_lt.mp small
    have first : ¬ (0xd800 : UInt16) ≤ unit := by
      rw [UInt16.le_iff_toNat_le]
      have : (0xd800 : UInt16).toNat = 55296 := rfl
      omega
    have second : ¬ (0xdc00 : UInt16) ≤ unit := by
      rw [UInt16.le_iff_toNat_le]
      have : (0xdc00 : UInt16).toNat = 56320 := rfl
      omega
    simp [Json.isHighSurrogate, Json.isLowSurrogate, first, second]
  rw [readText, kept]
  clear kept
  induction text with
  | nil => rfl
  | cons unit rest ih =>
      have same := ih fun other inside => ascii other (List.mem_cons_of_mem _ inside)
      obtain ⟨high, low⟩ := plain unit (ascii unit (List.mem_cons_self ..)).2
      cases rest with
      | nil => simp [toWellFormed, high, low]
      | cons following rest => simp [toWellFormed, high, low, same]

end Lcm.Text
