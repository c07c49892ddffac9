import Lcm.Codex.Transcript

namespace Lcm.Session
open Text Store Codex

section Texts

variable {Number : Type}

mutual

/-- The text of a content. Blocks without a text are left out. -/
def extractText : Json Number → JsString
  | .string text => text
  | .array blocks => join [10] ((blockTexts blocks).filter (· ≠ []))
  | _ => []

def blockTexts : List (Json Number) → List JsString
  | [] => []
  | block :: rest => blockText block :: blockTexts rest

def blockText : Json Number → JsString
  | .object members =>
      match textField (.object members) (js "type"), textField (.object members) (js "text") with
      | some type, some text =>
          if type = js "text" then text
          else if type = js "tool_result" then contentText members
          else []
      | some type, none => if type = js "tool_result" then contentText members else []
      | none, _ => []
  | _ => []

/-- The text of the content among the members of a tool result. -/
def contentText : List (JsString × Json Number) → JsString
  | [] => []
  | (name, value) :: rest => if name = js "content" then extractText value else contentText rest

end

theorem blockTexts_eq (blocks : List (Json Number)) : blockTexts blocks = blocks.map blockText := by
  induction blocks with
  | nil => rw [blockTexts, List.map_nil]
  | cons block rest ih => rw [blockTexts, ih, List.map_cons]

/-- Blocks that are no records have no text. -/
theorem extractText_blank {blocks : List (Json Number)} (other : ∀ block ∈ blocks, isRecord block = false) :
    extractText (.array blocks) = [] := by
  have none : ∀ block ∈ blocks, blockText block = [] := by
    intro block inside
    have plain := other block inside
    cases block with
    | object members => cases plain
    | _ => rw [blockText]; exact nofun
  have texts : (blocks.map blockText).filter (· ≠ []) = [] := by
    simpa [List.filter_eq_nil_iff] using none
  rw [extractText, blockTexts_eq, texts]
  rfl

end Texts

section Lines

variable {Number : Type} (numbers : JsNumbers Number)

/-- The role of a user, assistant or system message. -/
def transcriptRole (message : Json Number) : Option MessageRole :=
  if textField message (js "role") = some (js "user") then some .user
  else if textField message (js "role") = some (js "assistant") then some .assistant
  else if textField message (js "role") = some (js "system") then some .system
  else none

/-- The message of a record, if there is one, as a list. -/
def transcriptMessage (record : Json Number) : List ParsedMessage :=
  match field record (js "message") with
  | none => []
  | some message =>
      match transcriptRole message with
      | none => []
      | some role =>
          let content := (field message (js "content")).elim [] extractText
          if trim content = [] then [] else [⟨role, content, Compaction.estimateTokens content⟩]

/-- The body of the loop over the lines. It throws for text that is not JSON and for null. -/
def transcriptLine (line : JsString) : Option (List ParsedMessage) :=
  if trim line = [] then some []
  else
    match Json.parse numbers.format (trim line) with
    | none => none
    | some .null => none
    | some record => some (transcriptMessage record)

/-- A line that throws is skipped. -/
def parseTranscriptText (raw : JsString) : List ParsedMessage :=
  (lines raw).foldl (fun messages line => messages ++ (transcriptLine numbers line).getD []) []

/-- A record whose content holds blocks that are no records has no message. -/
theorem transcriptMessage_blank {record message : Json Number} {blocks : List (Json Number)}
    (held : field record (js "message") = some message)
    (content : field message (js "content") = some (.array blocks))
    (other : ∀ block ∈ blocks, isRecord block = false) : transcriptMessage record = [] := by
  rw [transcriptMessage, held]
  dsimp only
  split
  · rfl
  · rw [content, Option.elim_some, extractText_blank other]
    exact if_pos rfl

end Lines

end Lcm.Session
