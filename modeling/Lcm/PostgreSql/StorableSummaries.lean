import Lcm.PostgreSql.SummaryContext
import Lcm.Text.WellFormed

namespace Lcm.PostgreSql
open Text Compaction

section Escalation

variable (environment : Environment) (rawSource : JsString) (summarize : SummarizeFn)
  (options : SummarizeOptions)

/-- The text that is summarized. -/
def sourceText : JsString := environment.scrub (trim rawSource)

/-- Neither answer of the summarizer is shorter than the text. -/
def FallsBack : Prop :=
  let text := sourceText environment rawSource
  text ≠ [] ∧ max 1 (estimateTokens text) ≤ estimateTokens (summarize text false options) ∧
    max 1 (estimateTokens text) ≤ estimateTokens (summarize text true options)

/-- The cut of the fallback falls between the two units of a pair. -/
def CutsPair (text : JsString) : Prop :=
  ∃ unit ∈ (text.take fallbackMaxChars).getLast?, Json.isHighSurrogate unit = true

variable {environment rawSource summarize options}

theorem wellFormed_truncationMarker (inputTokens : Nat) : WellFormed (truncationMarker inputTokens) := by
  have counted : WellFormed (js "[Truncated from " ++ decimal inputTokens) :=
    (wellFormed_js _).append_iff.mpr (wellFormed_decimal _)
  exact counted.append_iff.mpr (wellFormed_js _)

/-- The marker ends no pair, so the cut alone decides. -/
theorem wellFormed_truncated {text : JsString} (inputTokens : Nat) :
    WellFormed (text ++ js "\n" ++ truncationMarker inputTokens) ↔ WellFormed text := by
  have marker : WellFormed (js "\n" ++ truncationMarker inputTokens) :=
    (wellFormed_js _).append_iff.mpr (wellFormed_truncationMarker _)
  rw [List.append_assoc]
  constructor
  · intro formed
    apply formed.of_append
    intro unit first
    cases first
    decide
  · intro formed
    exact formed.append_iff.mpr marker

/-- With answers that are well-formed, the text of a summary is well-formed exactly when the fallback is
not taken or its cut keeps the text well-formed. -/
theorem wellFormed_escalation
    (answers : ∀ text aggressive options, WellFormed (summarize text aggressive options)) :
    WellFormed (summarizeWithEscalation environment rawSource summarize options).1 ↔
      (FallsBack environment rawSource summarize options →
        WellFormed ((sourceText environment rawSource).take fallbackMaxChars)) := by
  simp only [summarizeWithEscalation, FallsBack, sourceText]
  by_cases empty : environment.scrub (trim rawSource) = []
  · simp [empty, wellFormed_truncationMarker]
  · rw [if_neg empty]
    by_cases normal : estimateTokens (summarize (environment.scrub (trim rawSource)) false options) <
        max 1 (estimateTokens (environment.scrub (trim rawSource)))
    · rw [if_pos normal]
      simp [answers, Nat.not_le.mpr normal]
    · rw [if_neg normal]
      by_cases aggressive : estimateTokens (summarize (environment.scrub (trim rawSource)) true options) <
          max 1 (estimateTokens (environment.scrub (trim rawSource)))
      · rw [if_pos aggressive]
        simp [answers, Nat.not_le.mpr aggressive]
      · rw [if_neg aggressive, wellFormed_truncated]
        simp only [empty, Nat.not_lt.mp normal, Nat.not_lt.mp aggressive, ne_eq, not_false_eq_true, and_self,
          forall_const]

/-- A cut keeps a well-formed text well-formed unless it falls into a pair. -/
theorem wellFormed_cut {text : JsString} (formed : WellFormed text) :
    WellFormed (text.take fallbackMaxChars) ↔ ¬ CutsPair text := by
  rw [formed.take_iff, CutsPair]
  simp

end Escalation

section Sample

/-- A text of letters with a pair at the cut, in an environment that scrubs nothing. -/
def sampleEnvironment : Environment := ⟨fun _ => [], id, id⟩

def sampleSource : JsString := List.replicate 2047 97 ++ [0xd83d, 0xde00, 97]

/-- A summarizer that always answers more than it is asked. -/
def longAnswer : SummarizeFn := fun _ _ _ => List.replicate 4096 98

def sampleOptions : SummarizeOptions := ⟨none, false, none⟩

theorem longAnswer_wellFormed : ∀ text aggressive options, WellFormed (longAnswer text aggressive options) := by
  have formed : WellFormed (List.replicate 4096 98) := by decide +kernel
  exact fun _ _ _ => formed

end Sample

end Lcm.PostgreSql
