import Lcm.Codex.Transcript
import Lcm.Library.JsonSpace
import Lcm.Library.Pieces
import Lcm.Text.Utf8Decoder
import Mathlib.Data.List.DropRight

namespace Lcm.Codex
open Text

def isJsonWhitespace (byte : UInt8) : Bool := byte ∈ [0x20, 0x09, 0x0a, 0x0d]

def cutoffChunkBytes : Nat := 64 * 1024

section Cutoff

variable {Number : Type} (numbers : JsNumbers Number) (bytes : List UInt8)

/-- The ordinal of a record. Only an object has one. -/
def recordOrdinal (line : List UInt8) : Option Nat :=
  (Json.parse numbers.format (decodeUtf8 line)).bind fun record =>
    codexOrdinal numbers (field record (js "ordinal"))

/-- The bytes from a position up to the cutoff. -/
structure CutoffScan where
  tail : List UInt8
  position : Nat

/-- One round of the backward scan: an answer, or one more chunk before the bytes. -/
def cutoffRound (scan : CutoffScan) : Option Nat ⊕ CutoffScan :=
  let stripped := scan.tail.rdropWhile isJsonWhitespace
  if 10 ∈ stripped ∨ scan.position = 0 then
    .inl (if stripped = [] then none else recordOrdinal numbers (stripped.rtakeWhile (· ≠ 10)))
  else if nativeRecordByteLimit < scan.tail.length then .inl none
  else
    let length := min cutoffChunkBytes scan.position
    let position := scan.position - length
    .inr ⟨(bytes.drop position).take length ++ scan.tail, position⟩

def cutoffRounds : Nat → CutoffScan → Option (Option Nat)
  | 0, _ => none
  | fuel + 1, scan =>
      match cutoffRound numbers bytes scan with
      | .inl answer => some answer
      | .inr next => cutoffRounds fuel next

/-- The scan of the bytes before a cutoff, whose position descends. -/
def readCutoffOrdinal (endByte : Nat) : Option (Option Nat) :=
  cutoffRounds numbers bytes (endByte + 1) ⟨[], endByte⟩

/-- The ordinal of the last line before a cutoff that is not blank. -/
def cutoffOrdinal (endByte : Nat) : Option Nat :=
  ((((bytes.take endByte).splitOn 10).filter fun piece => !piece.all isJsonWhitespace).getLast?).bind
    (recordOrdinal numbers)

end Cutoff

/-- The last line of a text that is not blank, without the white space behind it. -/
structure LastLine (text before line space : List UInt8) : Prop where
  parts : text = before ++ line ++ space
  starts : before = [] ∨ before.getLast? = some 10
  single : 10 ∉ line
  ends : ∃ last, line.getLast? = some last ∧ isJsonWhitespace last = false
  blank : ∀ byte ∈ space, isJsonWhitespace byte = true

namespace LastLine

/-- The bytes of a text without the white space at its end hold its last line. -/
theorem of_stripped {text : List UInt8} (visible : text.rdropWhile isJsonWhitespace ≠ []) :
    ∃ before space, LastLine text before ((text.rdropWhile isJsonWhitespace).rtakeWhile (· ≠ 10)) space ∧
      (10 ∈ text.rdropWhile isJsonWhitespace → before.getLast? = some 10) := by
  have last := List.rdropWhile_last_not _ _ visible
  have parts : text.rdropWhile isJsonWhitespace ++ text.rtakeWhile isJsonWhitespace = text :=
    List.rdropWhile_append_rtakeWhile
  have blank : ∀ byte ∈ text.rtakeWhile isJsonWhitespace, isJsonWhitespace byte = true :=
    fun byte inside => List.mem_rtakeWhile_imp inside
  generalize text.rdropWhile isJsonWhitespace = stripped at *
  have lines : stripped.rdropWhile (· ≠ 10) ++ stripped.rtakeWhile (· ≠ 10) = stripped :=
    List.rdropWhile_append_rtakeWhile
  have starts : stripped.rdropWhile (· ≠ 10) ≠ [] → (stripped.rdropWhile (· ≠ 10)).getLast? = some 10 := by
    intro some'
    have stop := List.rdropWhile_last_not _ _ some'
    rw [List.getLast?_eq_some_getLast some']
    simpa using stop
  refine ⟨stripped.rdropWhile (· ≠ 10), text.rtakeWhile isJsonWhitespace, ⟨?_, ?_, ?_, ?_, blank⟩, ?_⟩
  · rw [lines, parts]
  · exact or_iff_not_imp_left.mpr starts
  · intro inside
    simpa using List.mem_rtakeWhile_imp inside
  · refine ⟨stripped.getLast visible, ?_, by simpa using last⟩
    have whole := List.dropLast_concat_getLast visible
    have other : decide (stripped.getLast visible ≠ 10) = true := by
      rw [decide_eq_true_iff]
      intro feed
      rw [feed] at last
      exact absurd rfl last
    have taken := List.rtakeWhile_concat_pos (fun byte : UInt8 => decide (byte ≠ 10)) stripped.dropLast _ other
    rw [whole] at taken
    rw [taken]
    simp
  · intro inside
    apply starts
    intro none
    rw [List.rdropWhile_eq_nil_iff] at none
    simpa using none 10 inside

variable {text before line space : List UInt8}

theorem line_ne_nil (last : LastLine text before line space) : line ≠ [] := by
  obtain ⟨byte, found, _⟩ := last.ends
  rintro rfl
  cases found

/-- What is left of the text without the white space at its end. -/
theorem stripped (last : LastLine text before line space) :
    text.rdropWhile isJsonWhitespace = before ++ line := by
  obtain ⟨byte, found, visible⟩ := last.ends
  obtain ⟨first, rfl⟩ := List.getLast?_eq_some_iff.mp found
  have reversed : space.reverse.dropWhile isJsonWhitespace = [] :=
    List.dropWhile_eq_nil_iff.mpr fun byte inside => last.blank byte (List.mem_reverse.mp inside)
  rw [last.parts, List.rdropWhile, List.reverse_append, List.dropWhile_append, reversed]
  simp [visible]

/-- Behind its last line a text holds blank pieces only. -/
theorem pieces (last : LastLine text before line space) :
    ((line ++ space).splitOn 10).filter (fun piece => !piece.all isJsonWhitespace) =
      [line ++ space.takeWhile (· ≠ 10)] := by
  obtain ⟨byte, found, visible⟩ := last.ends
  have own : ∀ rest, (!(line ++ rest).all isJsonWhitespace) = true := by
    intro rest
    rw [Bool.not_eq_true', List.all_eq_false]
    exact ⟨byte, List.mem_append_left _ (List.mem_of_getLast? found), by simp [visible]⟩
  rw [splitOn_append_of_notMem last.single]
  by_cases feeds : 10 ∈ space
  · obtain ⟨first, rest, rfl, plain⟩ := List.eq_append_cons_of_mem feeds
    have taken : (first ++ 10 :: rest).takeWhile (fun byte => decide (byte ≠ 10)) = first := by
      rw [List.takeWhile_append_of_pos]
      · simp
      · exact fun byte inside => decide_eq_true fun same => plain (same ▸ inside)
    have blank : ∀ piece ∈ rest.splitOn 10, ¬ (!piece.all isJsonWhitespace) = true := by
      intro piece inside
      rw [Bool.not_eq_true', Bool.not_eq_false]
      refine List.all_eq_true.mpr fun byte held => last.blank byte ?_
      exact List.mem_append_right _ (List.mem_cons_of_mem _ (mem_of_mem_splitOn inside byte held).1)
    rw [List.splitOn_append_cons_self_of_not_mem plain, List.modifyHead_cons, List.filter_cons,
      if_pos (own first), List.filter_eq_nil_iff.mpr blank, taken]
  · have taken : space.takeWhile (fun byte => decide (byte ≠ 10)) = space :=
      List.takeWhile_eq_self_iff.mpr fun byte inside => decide_eq_true fun same => feeds (same ▸ inside)
    rw [List.splitOn_eq_singleton feeds, List.modifyHead_cons, List.filter_cons, if_pos (own space), taken]
    rfl

/-- The last piece of the text that is not blank is the last line, with the white space behind it. -/
theorem piece (last : LastLine text before line space) :
    ((text.splitOn 10).filter fun piece => !piece.all isJsonWhitespace).getLast? =
      some (line ++ space.takeWhile (· ≠ 10)) := by
  rw [last.parts, List.append_assoc]
  rcases last.starts with rfl | feed
  · rw [List.nil_append, last.pieces]
    rfl
  · obtain ⟨first, rfl⟩ := List.getLast?_eq_some_iff.mp feed
    rw [List.append_assoc, List.singleton_append, List.splitOn_append_cons_self, List.filter_append, last.pieces]
    simp

end LastLine

section Agreement

variable {Number : Type} {numbers : JsNumbers Number}

/-- White space behind a line does not change its ordinal. -/
theorem recordOrdinal_spaces (line : List UInt8) {space : List UInt8}
    (blank : ∀ byte ∈ space, isJsonWhitespace byte = true) :
    recordOrdinal numbers (line ++ space) = recordOrdinal numbers line := by
  have ascii : ∀ byte ∈ space, byte.toNat < 0x80 := by
    intro byte inside
    have own := blank byte inside
    simp only [isJsonWhitespace, List.mem_cons, List.not_mem_nil, or_false, decide_eq_true_eq] at own
    rcases own with rfl | rfl | rfl | rfl <;> decide
  rw [recordOrdinal, recordOrdinal, decodeUtf8_append_map line ascii, Json.parse_spaces]
  intro unit inside
  obtain ⟨byte, listed, rfl⟩ := List.mem_map.mp inside
  have own := blank byte listed
  simp only [isJsonWhitespace, List.mem_cons, List.not_mem_nil, or_false, decide_eq_true_eq] at own
  rcases own with rfl | rfl | rfl | rfl <;> decide

theorem LastLine.cutoffOrdinal {bytes before line space : List UInt8} {endByte : Nat}
    (last : LastLine (bytes.take endByte) before line space) :
    cutoffOrdinal numbers bytes endByte = recordOrdinal numbers line := by
  rw [Codex.cutoffOrdinal, last.piece, Option.bind_some, recordOrdinal_spaces]
  exact fun byte inside => last.blank byte ((List.takeWhile_sublist _).subset inside)

variable {bytes : List UInt8} {endByte : Nat}

/-- A text of white space has no last line. -/
theorem cutoffOrdinal_blank (blank : ∀ byte ∈ bytes.take endByte, isJsonWhitespace byte = true) :
    cutoffOrdinal numbers bytes endByte = none := by
  rw [cutoffOrdinal, List.filter_eq_nil_iff.mpr]
  · rfl
  · intro piece inside
    rw [Bool.not_eq_true', Bool.not_eq_false]
    exact List.all_eq_true.mpr fun byte held => blank byte (mem_of_mem_splitOn inside byte held).1

theorem exists_lastLine (visible : cutoffOrdinal numbers bytes endByte ≠ none) :
    ∃ before line space, LastLine (bytes.take endByte) before line space := by
  by_cases stripped : (bytes.take endByte).rdropWhile isJsonWhitespace = []
  · exact absurd (cutoffOrdinal_blank (List.rdropWhile_eq_nil_iff.mp stripped)) visible
  · obtain ⟨before, space, last, _⟩ := LastLine.of_stripped stripped
    exact ⟨before, _, space, last⟩

/-- The scan holds the bytes between its position and the cutoff. -/
structure CutoffScan.Holds (scan : CutoffScan) (bytes : List UInt8) (endByte : Nat) : Prop where
  below : scan.position ≤ endByte
  tail : scan.tail = (bytes.take endByte).drop scan.position

/-- An answer is the ordinal of the last line, unless the line with the white space behind it is too long. -/
def AnswersCutoff (numbers : JsNumbers Number) (bytes : List UInt8) (endByte : Nat) (answer : Option Nat) : Prop :=
  (∀ ordinal, answer = some ordinal → cutoffOrdinal numbers bytes endByte = some ordinal) ∧
    (answer = none → cutoffOrdinal numbers bytes endByte ≠ none → ∃ before line space,
      LastLine (bytes.take endByte) before line space ∧ nativeRecordByteLimit < line.length + space.length)

theorem CutoffScan.Holds.answer {scan : CutoffScan} (holds : scan.Holds bytes endByte) {answer : Option Nat}
    (round : cutoffRound numbers bytes scan = .inl answer) : AnswersCutoff numbers bytes endByte answer := by
  have whole : (bytes.take endByte).take scan.position ++ scan.tail = bytes.take endByte := by
    rw [holds.tail, List.take_append_drop]
  rw [cutoffRound] at round
  dsimp only at round
  split at round
  · next found =>
      have agrees : answer = cutoffOrdinal numbers bytes endByte := by
        split at round
        · next blank =>
            cases round
            have start : scan.position = 0 := by
              rcases found with feed | start
              · rw [blank] at feed
                cases feed
              · exact start
            rw [start, List.take_zero, List.nil_append] at whole
            rw [cutoffOrdinal_blank]
            rw [← whole]
            exact List.rdropWhile_eq_nil_iff.mp blank
        · next visible =>
            cases round
            obtain ⟨before, space, last, feed⟩ := LastLine.of_stripped visible
            have line : LastLine (bytes.take endByte) ((bytes.take endByte).take scan.position ++ before)
                ((scan.tail.rdropWhile isJsonWhitespace).rtakeWhile (· ≠ 10)) space := by
              refine ⟨?_, ?_, last.single, last.ends, last.blank⟩
              · exact (whole.symm.trans (congrArg _ last.parts)).trans (by simp only [List.append_assoc])
              · rcases found with own | start
                · refine .inr ?_
                  rw [List.getLast?_append, feed own]
                  rfl
                · rw [start, List.take_zero, List.nil_append]
                  exact last.starts
            exact line.cutoffOrdinal.symm
      rw [agrees]
      exact ⟨fun _ => id, fun missing visible => absurd missing visible⟩
  · next unfinished =>
      split at round
      · next long =>
          cases round
          refine ⟨nofun, fun _ visible => ?_⟩
          obtain ⟨before, line, space, last⟩ := exists_lastLine visible
          refine ⟨before, line, space, last, Nat.lt_of_lt_of_le long ?_⟩
          by_contra more
          have parts := whole.trans last.parts
          rw [List.append_assoc before] at parts
          rcases List.append_eq_append_iff.mp parts with ⟨extra, front, tail⟩ | ⟨extra, _, tail⟩
          · -- the scan would have met the line feed before the line
            have some' : extra ≠ [] := by
              rintro rfl
              rw [tail] at more
              simp at more
            have feed : extra.getLast? = some 10 := by
              rcases last.starts with none | feed
              · rw [none] at front
                exact absurd (List.append_eq_nil_iff.mp front.symm).2 some'
              · rw [front, List.getLast?_append] at feed
                rw [List.getLast?_eq_some_getLast some'] at feed ⊢
                exact feed
            have own : LastLine scan.tail extra line space :=
              ⟨by rw [tail, List.append_assoc], .inr feed, last.single, last.ends, last.blank⟩
            rw [own.stripped] at unfinished
            exact unfinished (.inl (List.mem_append_left _ (List.mem_of_getLast? feed)))
          · have length := congrArg List.length tail
            simp only [List.length_append] at length
            omega
      · cases round

theorem CutoffScan.Holds.next {scan next : CutoffScan} (holds : scan.Holds bytes endByte)
    (round : cutoffRound numbers bytes scan = .inr next) :
    next.Holds bytes endByte ∧ next.position < scan.position := by
  rw [cutoffRound] at round
  dsimp only at round
  split at round
  · cases round
  · next unfinished =>
      split at round
      · cases round
      · cases round
        rw [not_or] at unfinished
        have below := holds.below
        have step : scan.position - min cutoffChunkBytes scan.position + min cutoffChunkBytes scan.position =
            scan.position := by omega
        refine ⟨⟨by dsimp only; omega, ?_⟩, ?_⟩
        · dsimp only
          have parts := List.take_append_drop (min cutoffChunkBytes scan.position)
            ((bytes.take endByte).drop (scan.position - min cutoffChunkBytes scan.position))
          rw [List.drop_drop, step, ← holds.tail, List.drop_take, List.take_take, Nat.min_eq_left (by omega)] at parts
          rw [parts, List.drop_take]
        · have positive : 0 < cutoffChunkBytes := by decide
          dsimp only
          omega

/-- The scan comes to its answer. The induction is on the fuel, which its position stays below. -/
theorem cutoffRounds_answer {fuel : Nat} {scan : CutoffScan} (holds : scan.Holds bytes endByte)
    (enough : scan.position < fuel) :
    ∃ answer, cutoffRounds numbers bytes fuel scan = some answer ∧ AnswersCutoff numbers bytes endByte answer := by
  induction fuel generalizing scan with
  | zero => omega
  | succ fuel ih =>
      rw [cutoffRounds]
      cases round : cutoffRound numbers bytes scan with
      | inl answer => exact ⟨answer, rfl, holds.answer round⟩
      | inr next =>
          obtain ⟨later, less⟩ := holds.next round
          exact ih later (by omega)

/-- The backward scan comes to its end. What it answers is the ordinal of the last line before the cutoff, and
it answers nothing instead only when this line is too long. -/
theorem readCutoffOrdinal_answer (numbers : JsNumbers Number) (bytes : List UInt8) (endByte : Nat) :
    ∃ answer, readCutoffOrdinal numbers bytes endByte = some answer ∧
      (∀ ordinal, answer = some ordinal → cutoffOrdinal numbers bytes endByte = some ordinal) ∧
      (answer = none → cutoffOrdinal numbers bytes endByte ≠ none → ∃ before line space,
        LastLine (bytes.take endByte) before line space ∧ nativeRecordByteLimit < line.length + space.length) := by
  have whole : (bytes.take endByte).drop endByte = [] := List.drop_eq_nil_of_le (List.length_take_le _ _)
  exact cutoffRounds_answer ⟨Nat.le_refl _, whole.symm⟩ (Nat.lt_succ_self _)

/-- Two records, the second behind a carriage return. -/
def sampleRollout : List UInt8 :=
  (Json.print naturalFormat (.object [(js "ordinal", .number 6)]) ++ [13, 10] ++
    Json.print naturalFormat (.object [(js "ordinal", .number 7)]) ++ [13, 10, 32, 10]).map UInt16.toUInt8

example : readCutoffOrdinal naturalNumbers sampleRollout 31 = some (some 7) := by decide +kernel

end Agreement

end Lcm.Codex
