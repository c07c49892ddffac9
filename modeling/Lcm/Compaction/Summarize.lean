import Lcm.Store.Summaries

namespace Lcm.Compaction
open Text Store

/-- Four code units count as one token, rounded up. -/
def estimateTokens (content : JsString) : Nat := (content.length + 3) / 4

/-- The parts of the runtime that the engine only calls. -/
structure Environment where
  formatTimestamp : Timestamp → JsString
  scrub : JsString → JsString
  sha256Hex : JsString → JsString

inductive CompactionLevel where
  | normal
  | aggressive
  | fallback
  deriving DecidableEq, Repr

structure SummarizeOptions where
  previousSummary : Option JsString
  isCondensed : Bool
  depth : Option Nat
  deriving DecidableEq

/-- A summarizer is any function of the text, the aggressive flag and the options. -/
abbrev SummarizeFn := JsString → Bool → SummarizeOptions → JsString

def fallbackMaxChars : Nat := 512 * 4

/-- The marker that the deterministic fallback appends to the truncated text. -/
def truncationMarker (inputTokens : Nat) : JsString :=
  js "[Truncated from " ++ decimal inputTokens ++ js " tokens]"

/-- The summarizer runs normally, then aggressively, and the fallback truncates. -/
def summarizeWithEscalation (environment : Environment) (rawSource : JsString)
    (summarize : SummarizeFn) (options : SummarizeOptions) : JsString × CompactionLevel :=
  let sourceText := environment.scrub (trim rawSource)
  if sourceText = [] then (truncationMarker 0, .fallback) else
    let inputTokens := max 1 (estimateTokens sourceText)
    let normal := summarize sourceText false options
    if estimateTokens normal < inputTokens then (normal, .normal) else
      let aggressive := summarize sourceText true options
      if estimateTokens aggressive < inputTokens then (aggressive, .aggressive) else
        (sourceText.take fallbackMaxChars ++ js "\n" ++ truncationMarker inputTokens, .fallback)

/-- A summary identifier hashes the content with the time in milliseconds. -/
def generateSummaryId (environment : Environment) (content : JsString) (now : Nat) : SummaryId :=
  js "sum_" ++ (environment.sha256Hex (content ++ decimal now)).take 16

/-- A file identifier at the head of a text, between two word boundaries. -/
def fileIdAt? (previous : Option UInt16) (text : JsString) : Option JsString :=
  let candidate := (text.take 21).map toLowerAscii
  if !previous.any isWordCharacter && candidate.length == 21 && candidate.take 5 == js "file_" &&
      (candidate.drop 5).all isHexDigit && !(text.drop 21).head?.any isWordCharacter then
    some candidate
  else none

/-- The file identifiers of a text from left to right; two of them never overlap. -/
def fileIdMatches (previous : Option UInt16) : JsString → List JsString
  | [] => []
  | unit :: rest =>
      (fileIdAt? previous (unit :: rest)).toList ++ fileIdMatches (some unit) rest

def extractFileIdsFromContent (content : JsString) : List JsString :=
  dedupeOrdered (fileIdMatches none content)

end Lcm.Compaction
