import Lcm.Session.Transcript
import Lcm.Text.Utf8

namespace Lcm.Codex
open Text Session Store

section Records

variable {Number : Type} (numbers : JsNumbers Number)

def isRecord : Json Number → Bool
  | .object _ => true
  | _ => false

/-- A property of a value. Other values than objects have none of the names that are read here. -/
def field (value : Json Number) (name : JsString) : Option (Json Number) :=
  match value with
  | .object members => property members name
  | _ => none

/-- A property that is a string. -/
def textField (value : Json Number) (name : JsString) : Option JsString :=
  match field value name with
  | some (.string text) => some text
  | _ => none

/-- A property that is an object. -/
def recordField (value : Json Number) (name : JsString) : Option (Json Number) :=
  (field value name).filter isRecord

/-- A safe integer that is not negative. -/
def codexOrdinal : Option (Json Number) → Option Nat
  | some (.number number) => ((numbers.toSafeInteger number).filter (0 ≤ ·)).map Int.toNat
  | _ => none

end Records

/-- The pieces of a text between its line feeds. -/
def lines (raw : JsString) : List JsString := raw.splitOn 10

/-- The largest line that the native reader accepts. -/
def nativeRecordByteLimit : Nat := 10 * 1024 * 1024

def oversized (line : JsString) : Bool :=
  nativeRecordByteLimit < line.length * 3 && nativeRecordByteLimit < (encodeUtf8 line).length

/-- Only tabs, carriage returns and spaces are blank for the native reader. -/
def nativeBlank (line : JsString) : Bool := line.all fun unit => unit ∈ [9, 13, 32]

/-- The lines that the native reader counts. The position of a line is its index here. -/
def nativeSourceLines (lines : List JsString) : List JsString :=
  lines.filter fun line => oversized line || !nativeBlank line

inductive CodexInheritedBoundary
  | ordinal (start : Nat) (paginated : Bool)
  | copiedFork (startRecord : Nat)
  | pending
  deriving DecidableEq

section Boundary

variable {Number : Type} (numbers : JsNumbers Number)

/-- A counted line as JSON, without a byte order mark. -/
def parseNativeSourceLine (line : JsString) : Option (Json Number) :=
  if oversized line then none
  else Json.parse numbers.format (if line.head? = some 0xfeff then line.drop 1 else line)

/-- The payload of a record that is a session_meta. -/
def sessionMetaPayload (record : Json Number) : Option (Json Number) :=
  if textField record (js "type") = some (js "session_meta") then recordField record (js "payload") else none

def firstSessionMetaPayload (lines : List JsString) : Option (Json Number) := do
  let line ← lines.find? fun line => trim line ≠ []
  let record ← Json.parse numbers.format (trim line)
  sessionMetaPayload record

/-- The thread of a fork that copied the history of its parent. -/
def copiedForkThread (payload : Json Number) : Option JsString := do
  let id ← textField payload (js "id")
  let forkedFromId ← textField payload (js "forked_from_id")
  guard (id ≠ [] ∧ forkedFromId ≠ [] ∧ forkedFromId ≠ id)
  match field payload (js "history_base") with
  | none => some id
  | some .null => some id
  | some _ => none

/-- What a record says about applied settings. -/
inductive SettingsEvent
  | other
  | unattributed
  | thread (id : JsString)
  deriving DecidableEq

def settingsEvent (record : Json Number) : SettingsEvent :=
  if textField record (js "type") = some (js "event_msg") then
    match recordField record (js "payload") with
    | none => .other
    | some payload =>
        if textField payload (js "type") = some (js "thread_settings_applied") then
          match textField payload (js "thread_id") with
          | none => .unattributed
          | some id => if id = [] then .unattributed else .thread id
        else .other
  else .other

/-- The first settings of the fork's own thread end the copied history. -/
def readSettings (threadId : JsString) : Nat → List JsString → Option CodexInheritedBoundary
  | _, [] => some .pending
  | position, line :: rest =>
      match (parseNativeSourceLine numbers line).elim .other settingsEvent with
      | .other => readSettings threadId (position + 1) rest
      | .unattributed => none
      | .thread id => if id = threadId then some (.copiedFork position) else readSettings threadId (position + 1) rest

/-- Only the first counted line may be the session_meta of a fork. -/
def readCopiedForkBoundary (lines : List JsString) : Option CodexInheritedBoundary :=
  match nativeSourceLines lines with
  | [] => none
  | first :: rest => do
      let record ← parseNativeSourceLine numbers first
      let payload ← sessionMetaPayload record
      let threadId ← copiedForkThread payload
      readSettings numbers threadId 1 rest

/-- A valid subagent ordinal wins. -/
def ordinalBoundary (lines : List JsString) : Option (Nat × Bool) := do
  let payload ← firstSessionMetaPayload numbers lines
  let start ← codexOrdinal numbers (field payload (js "subagent_history_start_ordinal"))
  some (start, textField payload (js "history_mode") = some (js "paginated"))

def readBoundary (lines : List JsString) : Option CodexInheritedBoundary :=
  match ordinalBoundary numbers lines with
  | some (start, paginated) => some (.ordinal start paginated)
  | none => readCopiedForkBoundary numbers lines

def readCodexInheritedBoundary (raw : JsString) : Option CodexInheritedBoundary :=
  readBoundary numbers (lines raw)

def isInheritedByOrdinal (record : Json Number) (boundary : Nat × Bool) : Bool :=
  match codexOrdinal numbers (field record (js "ordinal")) with
  | some ordinal => ordinal < boundary.1
  | none => boundary.2

end Boundary

section Messages

variable {Number : Type} (numbers : JsNumbers Number)

/-- The text of a content block. A block that is null has no properties to read, which throws. -/
def blockText (block : Json Number) : Option JsString :=
  match block with
  | .null => none
  | _ =>
      match textField block (js "type"), textField block (js "text") with
      | some type, some text =>
          if type = js "input_text" ∨ type = js "output_text" ∨ type = js "text" then some text else some []
      | _, _ => some []

def extractCodexText (content : Option (Json Number)) : Option JsString :=
  match content with
  | some (.string text) => some (trim text)
  | some (.array blocks) => do
      let texts ← blocks.mapM blockText
      some (trim (join [10] (texts.filter (· ≠ []))))
  | _ => some []

/-- The role of a user or assistant message. -/
def messageRole (payload : Json Number) : Option MessageRole :=
  if textField payload (js "role") = some (js "user") then some .user
  else if textField payload (js "role") = some (js "assistant") then some .assistant
  else none

/-- The message of a response_item, if there is one, as a list. -/
def codexMessageOf (record : Json Number) : Option (List ParsedMessage) :=
  match field record (js "payload") with
  | none => some []
  | some payload =>
      if textField payload (js "type") = some (js "message") then
        match messageRole payload with
        | none => some []
        | some role => do
            let content ← extractCodexText (field payload (js "content"))
            if trim content = [] then some [] else some [⟨role, content, Compaction.estimateTokens content⟩]
      else some []

def isResponseItem (record : Json Number) : Bool :=
  textField record (js "type") = some (js "response_item")

/-- One line of a whole transcript. A line that is null has no type to read, which throws. -/
def parseTranscriptLine (boundary : Option (Nat × Bool)) (line : JsString) : Option (List ParsedMessage) :=
  if trim line = [] then some []
  else
    match Json.parse numbers.format (trim line) with
    | none => some []
    | some .null => none
    | some record =>
        if isResponseItem record then
          if boundary.any (isInheritedByOrdinal numbers record) then some [] else codexMessageOf record
        else some []

/-- One counted line of a copied fork. A line that is not a record contributes nothing. -/
def parseForkLine (line : JsString) : Option (List ParsedMessage) :=
  match parseNativeSourceLine numbers line with
  | none => some []
  | some record => if isResponseItem record then codexMessageOf record else some []

/-- The counted lines of a copied fork from the first one of its own on. -/
def ownForkLines (boundary : CodexInheritedBoundary) (lines : List JsString) : List JsString :=
  ((nativeSourceLines lines).zipIdx.filter fun (_, position) =>
    match boundary with
    | .copiedFork startRecord => startRecord ≤ position
    | _ => false).map Prod.fst

/-- The messages of lines, unless one of them throws. -/
def parseLines (parse : JsString → Option (List ParsedMessage)) (lines : List JsString) :
    Option (List ParsedMessage) :=
  (lines.mapM parse).map List.flatten

def parseCodexCopiedForkMessages (lines : List JsString) (boundary : CodexInheritedBoundary) :
    Option (List ParsedMessage) :=
  parseLines (parseForkLine numbers) (ownForkLines boundary lines)

/-- The boundary that a parse respects. -/
def parseBoundary (excludeInherited : Bool) (lines : List JsString) : Option CodexInheritedBoundary :=
  if excludeInherited then readBoundary numbers lines else none

def parseTranscriptLines (excludeInherited : Bool) (lines : List JsString) : Option (List ParsedMessage) :=
  match parseBoundary numbers excludeInherited lines with
  | none => parseLines (parseTranscriptLine numbers none) lines
  | some (.ordinal start paginated) => parseLines (parseTranscriptLine numbers (some (start, paginated))) lines
  | some boundary => parseCodexCopiedForkMessages numbers lines boundary

def parseCodexTranscriptText (raw : JsString) (excludeInherited : Bool) : Option (List ParsedMessage) :=
  parseTranscriptLines numbers excludeInherited (lines raw)

end Messages

end Lcm.Codex
