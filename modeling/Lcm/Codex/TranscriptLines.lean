import Lcm.Codex.TranscriptGrowth
import Lcm.Session.ClaudeTranscript

namespace Lcm.Codex
open Text Session Store

section Contributions

variable {Number : Type} (numbers : JsNumbers Number)

/-- What lines contribute one by one. A line that throws contributes nothing. -/
def contributions (parse : JsString → Option (List ParsedMessage)) (lines : List JsString) : List ParsedMessage :=
  lines.flatMap fun line => (parse line).getD []

/-- What the lines of a text contribute under the boundary that a parse respects. -/
def transcriptContributions (excludeInherited : Bool) (lines : List JsString) : List ParsedMessage :=
  match parseBoundary numbers excludeInherited lines with
  | none => contributions (parseTranscriptLine numbers none) lines
  | some (.ordinal start paginated) => contributions (parseTranscriptLine numbers (some (start, paginated))) lines
  | some boundary => contributions (parseForkLine numbers) (ownForkLines boundary lines)

variable {numbers} {parse : JsString → Option (List ParsedMessage)}

theorem parseLines_contributions {lines : List JsString} {messages : List ParsedMessage}
    (parsed : parseLines parse lines = some messages) : messages = contributions parse lines := by
  induction lines generalizing messages with
  | nil => cases parsed; rfl
  | cons line rest ih =>
      have whole := parseLines_append parse [line] rest
      rw [List.singleton_append, parsed] at whole
      obtain ⟨first, here, later⟩ := Option.bind_eq_some_iff.mp whole.symm
      obtain ⟨others, further, rfl⟩ := Option.map_eq_some_iff.mp later
      have own : parse line = some first := by
        cases read : parse line with
        | none => simp [parseLines, read] at here
        | some messages => simpa [parseLines, read] using here
      rw [contributions, List.flatMap_cons, own, ih further]
      rfl

/-- Lines are parsed one by one exactly when none of them throws. -/
theorem parseLines_eq_contributions (lines : List JsString) :
    parseLines parse lines = some (contributions parse lines) ↔ ∀ line ∈ lines, (parse line).isSome := by
  rw [← parseLines_isSome]
  constructor
  · intro parsed
    rw [parsed]
    rfl
  · intro parsed
    obtain ⟨messages, parsed⟩ := Option.isSome_iff_exists.mp parsed
    rw [parsed, parseLines_contributions parsed]

theorem parseTranscriptLines_eq_contributions (excludeInherited : Bool) (lines : List JsString) :
    parseTranscriptLines numbers excludeInherited lines = some (transcriptContributions numbers excludeInherited lines)
      ↔ ¬ Breaks numbers excludeInherited lines := by
  rw [← parseTranscriptLines_isSome, parseTranscriptLines, transcriptContributions]
  cases parseBoundary numbers excludeInherited lines with
  | none => exact (parseLines_eq_contributions lines).trans parseLines_isSome.symm
  | some boundary =>
      cases boundary with
      | ordinal start paginated => exact (parseLines_eq_contributions lines).trans parseLines_isSome.symm
      | copiedFork | pending =>
          exact (parseLines_eq_contributions (ownForkLines _ lines)).trans parseLines_isSome.symm

end Contributions

section Values

variable {Number : Type} {numbers : JsNumbers Number}

theorem field_none {value : Json Number} (other : isRecord value = false) (name : JsString) :
    field value name = none := by
  cases value with
  | object members => cases other
  | _ => rfl

theorem isResponseItem_record {value : Json Number} (other : isRecord value = false) :
    isResponseItem value = false := by
  simp [isResponseItem, textField, field_none other]

/-- A value that is no record has no message in any of the parsers. -/
theorem contributes_none {value : Json Number} (other : isRecord value = false) :
    (∀ line boundary, Json.parse numbers.format (trim line) = some value →
      (transcriptLine numbers line).getD [] = [] ∧ (parseTranscriptLine numbers boundary line).getD [] = []) ∧
    ∀ line, parseNativeSourceLine numbers line = some value → (parseForkLine numbers line).getD [] = [] := by
  have silent : transcriptMessage value = [] := by rw [transcriptMessage, field_none other]
  constructor
  · intro line boundary parsed
    rw [transcriptLine, parseTranscriptLine, parsed]
    constructor
    · split
      · rfl
      · split
        · rfl
        · rfl
        · next same => cases same; exact silent
    · split
      · rfl
      · split
        · rfl
        · rfl
        · next same => cases same; rw [isResponseItem_record other]; rfl
  · intro line parsed
    rw [parseForkLine, parsed]
    dsimp only
    rw [isResponseItem_record other]
    rfl

theorem mapM_blockText_blank {blocks : List (Json Number)} {texts : List JsString}
    (other : ∀ block ∈ blocks, isRecord block = false) (read : blocks.mapM blockText = some texts) :
    texts.filter (· ≠ []) = [] := by
  induction blocks generalizing texts with
  | nil => cases read; rfl
  | cons block rest ih =>
      obtain ⟨first, others⟩ := List.forall_mem_cons.mp other
      simp only [List.mapM_cons, Option.bind_eq_bind, Option.bind_eq_some_iff] at read
      obtain ⟨text, own, more, further, same⟩ := read
      cases same
      have blank : text = [] := by
        cases block with
        | object members => cases first
        | null => cases own
        | _ => exact (Option.some.inj own).symm
      rw [List.filter_cons_of_neg (by simpa using blank), ih others further]

/-- A message whose content holds nothing but values that are no records contributes nothing. -/
theorem codexMessageOf_blank {record payload : Json Number} {blocks : List (Json Number)}
    (held : field record (js "payload") = some payload)
    (content : field payload (js "content") = some (.array blocks))
    (other : ∀ block ∈ blocks, isRecord block = false) : (codexMessageOf record).getD [] = [] := by
  unfold codexMessageOf
  simp only [held, content, extractCodexText]
  split
  · cases messageRole payload with
    | none => rfl
    | some role =>
        cases read : blocks.mapM blockText with
        | none => rfl
        | some texts =>
            simp only [Option.bind_eq_bind, Option.bind_some, mapM_blockText_blank other read]
            rfl
  · rfl

/-- One line of each of the three parsers contributes nothing when it is not a record, and neither does a
message whose content holds no records. -/
def SilentLines (numbers : JsNumbers Number) : Prop :=
  (∀ value : Json Number, isRecord value = false →
    (∀ line boundary, Json.parse numbers.format (trim line) = some value →
      (transcriptLine numbers line).getD [] = [] ∧ (parseTranscriptLine numbers boundary line).getD [] = []) ∧
    ∀ line, parseNativeSourceLine numbers line = some value → (parseForkLine numbers line).getD [] = []) ∧
  ∀ (record inner : Json Number) (blocks : List (Json Number)),
    field inner (js "content") = some (.array blocks) → (∀ block ∈ blocks, isRecord block = false) →
      (field record (js "message") = some inner → transcriptMessage record = []) ∧
      (field record (js "payload") = some inner → (codexMessageOf record).getD [] = [])

/-- Every text is parsed line by line, by the Codex parsers exactly when no line that they read breaks the parse. -/
theorem transcript_line_by_line (numbers : JsNumbers Number) (raw : JsString) :
    parseTranscriptText numbers raw = contributions (transcriptLine numbers) (lines raw) ∧
    (∀ excludeInherited, parseCodexTranscriptText numbers raw excludeInherited =
        some (transcriptContributions numbers excludeInherited (lines raw)) ↔
      ¬ Breaks numbers excludeInherited (lines raw)) ∧
    (∀ boundary, parseCodexCopiedForkMessages numbers (lines raw) boundary =
        some (contributions (parseForkLine numbers) (ownForkLines boundary (lines raw))) ↔
      ∀ line ∈ ownForkLines boundary (lines raw), ¬ ForkLineBreaks numbers line) ∧
    SilentLines numbers := by
  refine ⟨?_, ?_, ?_, ?_, ?_⟩
  · rw [parseTranscriptText, contributions, List.flatMap_eq_foldl]
  · intro excludeInherited
    exact parseTranscriptLines_eq_contributions excludeInherited (lines raw)
  · intro boundary
    rw [parseCodexCopiedForkMessages, parseLines_eq_contributions]
    simp only [parseForkLine_isSome]
  · intro value other
    exact contributes_none other
  · intro record inner blocks content other
    exact ⟨fun held => transcriptMessage_blank held content other,
      fun held => codexMessageOf_blank held content other⟩

/-- The text `null` has one line, which contributes nothing, but the parse throws. -/
theorem null_line_throws : ¬ parseCodexTranscriptText naturalNumbers (js "null") false =
    some (transcriptContributions naturalNumbers false (lines (js "null"))) := by
  have throws : parseCodexTranscriptText naturalNumbers (js "null") false = none := by decide
  rw [throws]
  nofun

end Values

end Lcm.Codex
