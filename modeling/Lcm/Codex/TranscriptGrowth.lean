import Lcm.Codex.Transcript

namespace Lcm.Codex
open Text Session Store

/-- A text of whole lines keeps its lines when it grows. -/
theorem lines_append {raw : JsString} (ended : raw = [] ∨ raw.getLast? = some 10) :
    ∃ whole, lines raw = whole ++ [[]] ∧ ∀ more, lines (raw ++ more) = whole ++ lines more := by
  rcases ended with rfl | last
  · exact ⟨[], rfl, fun _ => rfl⟩
  · obtain ⟨before, rfl⟩ := List.getLast?_eq_some_iff.mp last
    refine ⟨lines before, ?_, fun more => ?_⟩
    · exact List.splitOn_append_cons_self before []
    · rw [List.append_assoc]
      exact List.splitOn_append_cons_self before more

section Boundary

variable {Number : Type} {numbers : JsNumbers Number} {before more : List JsString}

theorem nativeSourceLines_append (before more : List JsString) :
    nativeSourceLines (before ++ more) = nativeSourceLines before ++ nativeSourceLines more :=
  List.filter_append ..

/-- The settings that end a copied history stay the first ones. -/
theorem readSettings_append {threadId : JsString} {position : Nat}
    (decided : readSettings numbers threadId position before ≠ some .pending) :
    readSettings numbers threadId position (before ++ more) = readSettings numbers threadId position before := by
  induction before generalizing position with
  | nil => exact absurd rfl decided
  | cons line rest ih =>
      rw [List.cons_append, readSettings, readSettings] at *
      split at decided
      · next other => exact ih decided
      · rfl
      · next id named =>
          split
          · rfl
          · next foreign =>
              rw [if_neg foreign] at decided
              exact ih decided

/-- The first line that is not blank decides about an ordinal boundary. -/
theorem ordinalBoundary_append {line : JsString} (inside : line ∈ before) (visible : trim line ≠ []) :
    ordinalBoundary numbers (before ++ more) = ordinalBoundary numbers before := by
  have found : (before.find? fun line => decide (trim line ≠ [])).isSome :=
    List.find?_isSome.mpr ⟨line, inside, by simpa using visible⟩
  obtain ⟨first, found⟩ := Option.isSome_iff_exists.mp found
  rw [ordinalBoundary, ordinalBoundary, firstSessionMetaPayload, firstSessionMetaPayload,
    List.find?_append, found]
  rfl

/-- Without a line that is not blank there is no ordinal boundary. -/
theorem ordinalBoundary_blank (blank : ∀ line ∈ before, trim line = []) :
    ordinalBoundary numbers before = none := by
  have missing : before.find? (fun line => decide (trim line ≠ [])) = none := by
    rw [List.find?_eq_none]
    intro line inside
    simp [blank line inside]
  rw [ordinalBoundary, firstSessionMetaPayload, missing]
  rfl

/-- A boundary that is decided stays the same when the text grows. -/
theorem readCopiedForkBoundary_append (decided : readCopiedForkBoundary numbers before ≠ some .pending)
    (counted : nativeSourceLines before ≠ []) :
    readCopiedForkBoundary numbers (before ++ more) = readCopiedForkBoundary numbers before := by
  obtain ⟨first, rest, counted⟩ := List.exists_cons_of_ne_nil counted
  unfold readCopiedForkBoundary at decided ⊢
  rw [nativeSourceLines_append]
  rw [counted] at decided ⊢
  cases parsed : parseNativeSourceLine numbers first with
  | none => simp [parsed]
  | some record =>
      cases payload : sessionMetaPayload record with
      | none => simp [parsed, payload]
      | some payload' =>
          cases thread : copiedForkThread payload' with
          | none => simp [parsed, payload, thread]
          | some threadId =>
              simp only [List.cons_append, Option.bind_eq_bind, parsed, payload, thread,
                Option.bind_some] at decided ⊢
              exact readSettings_append decided

theorem isWhiteSpace_not_number {unit : UInt16} (space : isWhiteSpace unit = true) :
    Json.isNumberUnit unit = false := by
  simp only [isWhiteSpace, Bool.or_eq_true, Bool.and_eq_true, decide_eq_true_eq, List.mem_cons,
    List.not_mem_nil, or_false] at space
  rcases space with (rfl | rfl | rfl | rfl | rfl | rfl | rfl | rfl | rfl | rfl | rfl | rfl | rfl | rfl) |
    ⟨above, _⟩
  all_goals try decide
  simp only [Json.isNumberUnit, Json.isDigit]
  grind

/-- White space is no JSON text. -/
theorem parse_blank {text : JsString} (blank : ∀ unit ∈ text, isWhiteSpace unit = true) :
    Json.parse numbers.format text = none := by
  have spaces : ∀ unit ∈ Json.skipSpace text, isWhiteSpace unit = true :=
    fun unit inside => blank unit ((List.dropWhile_sublist _).subset inside)
  have missing : ∀ fuel, Json.parseValue numbers.format fuel text = none := by
    intro fuel
    cases fuel with
    | zero => rfl
    | succ fuel =>
        rw [Json.parseValue]
        split
        case h_7 =>
          have token : (Json.skipSpace text).takeWhile Json.isNumberUnit = [] := by
            rw [List.takeWhile_eq_nil_iff]
            intro some'
            simp [isWhiteSpace_not_number (spaces _ (List.getElem_mem _))]
          rw [Json.parseNumber, token]
          rfl
        all_goals
          next same =>
            rw [same] at spaces
            exact absurd (spaces _ (List.mem_cons_self ..)) (by decide)
  rw [Json.parse, missing]
  rfl

/-- What is blank for the native reader is blank after trimming. -/
theorem trim_nativeBlank {line : JsString} (blank : nativeBlank line = true) : trim line = [] := by
  have spaces : ∀ unit ∈ line, isWhiteSpace unit = true := by
    intro unit inside
    have own := List.all_eq_true.mp blank unit inside
    simp only [List.mem_cons, List.not_mem_nil, or_false, decide_eq_true_eq] at own
    rcases own with rfl | rfl | rfl <;> decide
  rw [trim, List.dropWhile_eq_nil_iff.mpr spaces]
  rfl

/-- A line that is not blank is counted. -/
theorem counted_of_visible {line : JsString} (inside : line ∈ before) (visible : trim line ≠ []) :
    nativeSourceLines before ≠ [] := by
  have counts : nativeBlank line = false := by
    cases blank : nativeBlank line with
    | false => rfl
    | true => exact absurd (trim_nativeBlank blank) visible
  exact List.ne_nil_of_mem (List.mem_filter.mpr ⟨inside, by simp [counts]⟩)

/-- A text that trimming empties is white space. -/
theorem trim_eq_nil {text : JsString} (blank : trim text = []) : ∀ unit ∈ text, isWhiteSpace unit = true := by
  rw [trim, List.reverse_eq_nil_iff, List.dropWhile_eq_nil_iff] at blank
  intro unit inside
  have parts : text.takeWhile isWhiteSpace ++ text.dropWhile isWhiteSpace = text :=
    List.takeWhile_append_dropWhile
  rw [← parts] at inside
  rcases List.mem_append.mp inside with taken | dropped
  · exact List.mem_takeWhile_imp taken
  · exact blank unit (List.mem_reverse.mpr dropped)

/-- Without a line that is not blank there is no boundary. -/
theorem readBoundary_blank (blank : ∀ line ∈ before, trim line = []) : readBoundary numbers before = none := by
  rw [readBoundary, ordinalBoundary_blank blank]
  dsimp only
  rw [readCopiedForkBoundary]
  split
  · rfl
  · next first rest counted =>
      have inside : first ∈ before := by
        have own : first ∈ nativeSourceLines before := counted ▸ List.mem_cons_self ..
        exact (List.mem_filter.mp own).1
      have spaces := trim_eq_nil (blank first inside)
      have missing : parseNativeSourceLine numbers first = none := by
        rw [parseNativeSourceLine]
        split
        · rfl
        · apply parse_blank
          split
          · exact fun unit dropped => spaces unit (List.mem_of_mem_drop dropped)
          · exact spaces
      rw [missing]
      rfl

/-- A boundary that does not wait for the fork's settings stays, once a line is not blank. -/
theorem readBoundary_append {line : JsString} (inside : line ∈ before) (visible : trim line ≠ [])
    (decided : readBoundary numbers before ≠ some .pending) :
    readBoundary numbers (before ++ more) = readBoundary numbers before := by
  rw [readBoundary, readBoundary, ordinalBoundary_append inside visible] at *
  split at decided
  · rfl
  · exact readCopiedForkBoundary_append decided (counted_of_visible inside visible)

/-- A decided boundary stays when the text grows. -/
theorem readBoundary_decided {boundary : CodexInheritedBoundary} (read : readBoundary numbers before = some boundary)
    (decided : boundary ≠ .pending) : readBoundary numbers (before ++ more) = some boundary := by
  by_cases visible : ∃ line ∈ before, trim line ≠ []
  · obtain ⟨line, inside, visible⟩ := visible
    rw [readBoundary_append inside visible (by rw [read]; simpa using decided), read]
  · have blank : ∀ line ∈ before, trim line = [] := by simpa using visible
    rw [readBoundary_blank blank] at read
    cases read

end Boundary

section Messages

variable {Number : Type} {numbers : JsNumbers Number} {before more : List JsString}

theorem parseLines_append (parse : JsString → Option (List ParsedMessage)) (before more : List JsString) :
    parseLines parse (before ++ more) =
      (parseLines parse before).bind fun first => (parseLines parse more).map fun rest => first ++ rest := by
  rw [parseLines, parseLines, parseLines, List.mapM_append]
  cases before.mapM parse with
  | none => rfl
  | some first =>
      cases more.mapM parse with
      | none => rfl
      | some rest => simp

/-- The messages of lines start with those of the first lines. -/
theorem parseLines_prefix {parse : JsString → Option (List ParsedMessage)} {after : List ParsedMessage}
    (parsed : parseLines parse (before ++ more) = some after) :
    ∃ first, parseLines parse before = some first ∧ first <+: after := by
  rw [parseLines_append] at parsed
  obtain ⟨first, parsedFirst, parsedRest⟩ := Option.bind_eq_some_iff.mp parsed
  obtain ⟨rest, _, rfl⟩ := Option.map_eq_some_iff.mp parsedRest
  exact ⟨first, parsedFirst, List.prefix_append first rest⟩

theorem parseLines_isSome {parse : JsString → Option (List ParsedMessage)} {lines : List JsString} :
    (parseLines parse lines).isSome ↔ ∀ line ∈ lines, (parse line).isSome := by
  induction lines with
  | nil => simp [parseLines]
  | cons line rest ih =>
      have whole := parseLines_append parse [line] rest
      rw [List.singleton_append] at whole
      rw [List.forall_mem_cons, ← ih, whole]
      cases here : parse line with
      | none => simp [parseLines, here]
      | some messages => cases later : parseLines parse rest <;> simp_all [parseLines]

/-- Blank lines have no messages. -/
theorem parseLines_blank {boundary : Option (Nat × Bool)} (blank : ∀ line ∈ before, trim line = []) :
    parseLines (parseTranscriptLine numbers boundary) before = some [] := by
  induction before with
  | nil => rfl
  | cons line rest ih =>
      have whole := parseLines_append (parseTranscriptLine numbers boundary) [line] rest
      have here : parseLines (parseTranscriptLine numbers boundary) [line] = some [] := by
        simp [parseLines, parseTranscriptLine, blank line (List.mem_cons_self ..)]
      rw [List.singleton_append, here, ih fun line inside => blank line (List.mem_cons_of_mem _ inside)] at whole
      exact whole

theorem ownForkLines_append (boundary : CodexInheritedBoundary) (before more : List JsString) :
    ownForkLines boundary before <+: ownForkLines boundary (before ++ more) := by
  rw [ownForkLines, ownForkLines, nativeSourceLines_append, List.zipIdx_append, List.filter_append,
    List.map_append]
  exact List.prefix_append ..

theorem ownForkLines_pending (lines : List JsString) : ownForkLines .pending lines = [] := by
  simp [ownForkLines]

/-- The messages of a text that has grown start with those it had before. -/
theorem parseTranscriptLines_prefix {excludeInherited : Bool} {after : List ParsedMessage}
    (parsed : parseTranscriptLines numbers excludeInherited (before ++ more) = some after) :
    ∃ first, parseTranscriptLines numbers excludeInherited before = some first ∧ first <+: after := by
  unfold parseTranscriptLines at parsed ⊢
  cases excludeInherited with
  | false => exact parseLines_prefix parsed
  | true =>
      simp only [parseBoundary, ↓reduceIte] at parsed ⊢
      cases read : readBoundary numbers before with
      | none =>
          by_cases visible : ∃ line ∈ before, trim line ≠ []
          · obtain ⟨line, inside, visible⟩ := visible
            rw [readBoundary_append inside visible (by simp [read]), read] at parsed
            exact parseLines_prefix parsed
          · -- only blank lines so far: any boundary may still come
            exact ⟨[], parseLines_blank (by simpa using visible), List.nil_prefix⟩
      | some boundary =>
          cases boundary with
          | ordinal start paginated =>
              rw [readBoundary_decided read nofun] at parsed
              exact parseLines_prefix parsed
          | copiedFork startRecord =>
              rw [readBoundary_decided read nofun] at parsed
              obtain ⟨rest, own⟩ := ownForkLines_append (.copiedFork startRecord) before more
              simp only [parseCodexCopiedForkMessages, ← own] at parsed
              exact parseLines_prefix parsed
          | pending =>
              refine ⟨[], ?_, List.nil_prefix⟩
              dsimp only
              rw [parseCodexCopiedForkMessages, ownForkLines_pending]
              rfl

end Messages

section Breaks

variable {Number : Type} (numbers : JsNumbers Number)

/-- A message with a content block that is null. -/
def MessageBreaks (record : Json Number) : Prop :=
  isResponseItem record ∧ ∃ payload blocks, field record (js "payload") = some payload ∧
    textField payload (js "type") = some (js "message") ∧ messageRole payload ≠ none ∧
      field payload (js "content") = some (.array blocks) ∧ Json.null ∈ blocks

/-- A line of a whole transcript that is null, or a message with such a block that is not inherited. -/
def LineBreaks (boundary : Option (Nat × Bool)) (line : JsString) : Prop :=
  ∃ record, Json.parse numbers.format (trim line) = some record ∧
    (record = .null ∨ MessageBreaks record ∧ boundary.any (isInheritedByOrdinal numbers record) = false)

def ForkLineBreaks (line : JsString) : Prop :=
  ∃ record, parseNativeSourceLine numbers line = some record ∧ MessageBreaks record

/-- A line that a parse reads breaks it. -/
def Breaks (excludeInherited : Bool) (lines : List JsString) : Prop :=
  match parseBoundary numbers excludeInherited lines with
  | none => ∃ line ∈ lines, LineBreaks numbers none line
  | some (.ordinal start paginated) => ∃ line ∈ lines, LineBreaks numbers (some (start, paginated)) line
  | some boundary => ∃ line ∈ ownForkLines boundary lines, ForkLineBreaks numbers line

variable {numbers}

theorem blockText_eq_none {block : Json Number} : blockText block = none ↔ block = .null := by
  cases block with
  | null => simp [blockText]
  | _ =>
      rw [blockText]
      · simp only [reduceCtorEq, iff_false]
        split
        · split <;> simp
        · simp
      · exact nofun

theorem mapM_blockText_eq_none {blocks : List (Json Number)} : blocks.mapM blockText = none ↔ .null ∈ blocks := by
  induction blocks with
  | nil => simp
  | cons block rest ih =>
      have first : Json.null = block ↔ blockText block = none := by rw [blockText_eq_none, eq_comm]
      rw [List.mapM_cons, List.mem_cons, ← ih, first]
      cases blockText block with
      | none => simp
      | some text => cases rest.mapM blockText <;> simp

theorem extractCodexText_eq_none {content : Option (Json Number)} :
    extractCodexText content = none ↔ ∃ blocks, content = some (.array blocks) ∧ .null ∈ blocks := by
  unfold extractCodexText
  split
  · simp
  · next blocks =>
      have texts := @mapM_blockText_eq_none _ blocks
      constructor
      · intro broken
        refine ⟨blocks, rfl, texts.mp ?_⟩
        cases read : blocks.mapM blockText with
        | none => rfl
        | some texts => simp [read] at broken
      · rintro ⟨_, same, inside⟩
        cases same
        rw [texts.mpr inside]
        rfl
  · next _ other =>
      simp only [reduceCtorEq, false_iff, not_exists, not_and]
      rintro blocks rfl
      exact absurd rfl (other blocks)

/-- A message throws on a content block that is null only. -/
theorem codexMessageOf_eq_none {record : Json Number} (item : isResponseItem record = true) :
    codexMessageOf record = none ↔ MessageBreaks record := by
  unfold codexMessageOf
  constructor
  · intro broken
    split at broken
    · cases broken
    · next payload held =>
        split at broken
        · next message =>
            split at broken
            · cases broken
            · next role same =>
                cases content : extractCodexText (field payload (js "content")) with
                | none =>
                    obtain ⟨blocks, array, inside⟩ := extractCodexText_eq_none.mp content
                    exact ⟨item, payload, blocks, held, message, by simp [same], array, inside⟩
                | some text =>
                    simp only [content, Option.bind_eq_bind, Option.bind_some] at broken
                    split at broken <;> cases broken
        · cases broken
  · rintro ⟨_, payload, blocks, held, message, role, array, inside⟩
    obtain ⟨role, same⟩ := Option.ne_none_iff_exists'.mp role
    simp [held, message, same, extractCodexText_eq_none.mpr ⟨blocks, array, inside⟩]

theorem parseTranscriptLine_isSome {boundary : Option (Nat × Bool)} {line : JsString} :
    (parseTranscriptLine numbers boundary line).isSome ↔ ¬ LineBreaks numbers boundary line := by
  unfold parseTranscriptLine LineBreaks
  split
  · next blank =>
      rw [blank, parse_blank (List.forall_mem_nil _)]
      simp
  · cases Json.parse numbers.format (trim line) with
    | none => simp
    | some record =>
        cases record with
        | null => simp
        | _ =>
            simp only [Option.some.injEq, exists_eq_left', reduceCtorEq, false_or]
            split
            · next item =>
                rw [← codexMessageOf_eq_none item]
                split
                · next inherited => simp [inherited]
                · next own => simp [own, Option.isSome_iff_ne_none]
            · next other => simp [MessageBreaks, other]

theorem parseForkLine_isSome {line : JsString} :
    (parseForkLine numbers line).isSome ↔ ¬ ForkLineBreaks numbers line := by
  rw [parseForkLine, ForkLineBreaks]
  cases parseNativeSourceLine numbers line with
  | none => simp
  | some record =>
      dsimp only
      cases item : isResponseItem record with
      | false => simp [MessageBreaks, item]
      | true =>
          have breaks := codexMessageOf_eq_none item
          simp only [↓reduceIte, Option.some.injEq, exists_eq_left', ← breaks, Option.isSome_iff_ne_none, ne_eq]

theorem parseTranscriptLines_isSome {excludeInherited : Bool} {lines : List JsString} :
    (parseTranscriptLines numbers excludeInherited lines).isSome ↔ ¬ Breaks numbers excludeInherited lines := by
  unfold parseTranscriptLines Breaks
  cases parseBoundary numbers excludeInherited lines with
  | none => simp only [parseLines_isSome, parseTranscriptLine_isSome, not_exists, not_and]
  | some boundary =>
      cases boundary with
      | ordinal => simp only [parseLines_isSome, parseTranscriptLine_isSome, not_exists, not_and]
      | copiedFork | pending =>
          simp only [parseCodexCopiedForkMessages, parseLines_isSome, parseForkLine_isSome, not_exists, not_and]

end Breaks

section Growth

variable {Number : Type} (numbers : JsNumbers Number)

theorem nativeSourceLines_blank (whole : List JsString) :
    nativeSourceLines (whole ++ [[]]) = nativeSourceLines whole := by
  rw [nativeSourceLines_append]
  exact List.append_nil _

variable {numbers} in
theorem readBoundary_blankPiece (whole : List JsString) :
    readBoundary numbers (whole ++ [[]]) = readBoundary numbers whole := by
  have visible : (whole ++ [[]]).find? (fun line => decide (trim line ≠ [])) =
      whole.find? fun line => decide (trim line ≠ []) := by
    rw [List.find?_append]
    exact Option.or_none
  rw [readBoundary, readBoundary, ordinalBoundary, ordinalBoundary, firstSessionMetaPayload,
    firstSessionMetaPayload, visible, readCopiedForkBoundary, readCopiedForkBoundary, nativeSourceLines_blank]

variable {numbers} in
/-- A blank piece behind the last line feed has no messages. -/
theorem parseTranscriptLines_blankPiece (excludeInherited : Bool) (whole : List JsString) :
    parseTranscriptLines numbers excludeInherited (whole ++ [[]]) =
      parseTranscriptLines numbers excludeInherited whole := by
  have plain : ∀ boundary, parseLines (parseTranscriptLine numbers boundary) (whole ++ [[]]) =
      parseLines (parseTranscriptLine numbers boundary) whole := by
    intro boundary
    have blank : parseLines (parseTranscriptLine numbers boundary) [[]] = some [] := parseLines_blank (by simp; rfl)
    rw [parseLines_append, blank]
    simp
  unfold parseTranscriptLines
  rw [parseBoundary, parseBoundary, readBoundary_blankPiece]
  simp only [plain, parseCodexCopiedForkMessages, ownForkLines, nativeSourceLines_blank]

/-- The messages of a text that is read before it grows are the first ones afterwards. -/
def Grows (before after : JsString) (excludeInherited : Bool) : Prop :=
  ∃ first whole, parseCodexTranscriptText numbers before excludeInherited = some first ∧
    parseCodexTranscriptText numbers after excludeInherited = some whole ∧ first <+: whole

/-- When a text of whole lines grows, a decided boundary stays. Its messages stay the first ones exactly when
no line that the parse of the longer text reads breaks it. -/
theorem parse_grows (raw more : JsString) (ended : raw = [] ∨ raw.getLast? = some 10) :
    (∀ boundary, readCodexInheritedBoundary numbers raw = some boundary → boundary ≠ .pending →
      readCodexInheritedBoundary numbers (raw ++ more) = some boundary) ∧
    ∀ excludeInherited, Grows numbers raw (raw ++ more) excludeInherited ↔
      ¬ Breaks numbers excludeInherited (lines (raw ++ more)) := by
  obtain ⟨whole, own, grown⟩ := lines_append ended
  constructor
  · intro boundary read decided
    rw [readCodexInheritedBoundary, own, readBoundary_blankPiece] at read
    rw [readCodexInheritedBoundary, grown]
    exact readBoundary_decided read decided
  · intro excludeInherited
    rw [← parseTranscriptLines_isSome, Grows, parseCodexTranscriptText, parseCodexTranscriptText, own, grown,
      parseTranscriptLines_blankPiece]
    constructor
    · rintro ⟨_, _, _, parsed, _⟩
      rw [parsed]
      rfl
    · intro parsed
      obtain ⟨after, parsed⟩ := Option.isSome_iff_exists.mp parsed
      obtain ⟨first, before, extends'⟩ := parseTranscriptLines_prefix parsed
      exact ⟨first, after, before, parsed, extends'⟩

/-- A line with one user message. -/
def sampleLine : JsString :=
  Json.print naturalFormat (.object [(js "type", .string (js "response_item")), (js "payload",
    .object [(js "type", .string (js "message")), (js "role", .string (js "user")),
      (js "content", .string (js "hi"))])]) ++ [10]

/-- A line that is null stops the parse of the text that it is added to. -/
theorem null_line_stops : ¬ Grows naturalNumbers sampleLine (sampleLine ++ js "null\n") false := by
  rintro ⟨_, _, _, parsed, _⟩
  have stops : parseCodexTranscriptText naturalNumbers (sampleLine ++ js "null\n") false = none := by
    decide +kernel
  cases stops.symm.trans parsed

theorem parse_grows_sample : Grows naturalNumbers sampleLine (sampleLine ++ sampleLine) true :=
  ((parse_grows naturalNumbers sampleLine sampleLine (.inr (by decide +kernel))).2 true).mpr
    (parseTranscriptLines_isSome.mp (by decide +kernel))

end Growth

end Lcm.Codex
