import Lcm.Codex.Transcript
import Lcm.Library.Pieces
import Lcm.Text.Utf8Decoder

namespace Lcm.Codex
open Text

section Scan

variable {Number : Type} (numbers : JsNumbers Number)

/-- The first line of every restoration. -/
def restorationMarker : JsString := js "<!-- lcm-restoration -->"

/-- The text, after leading white space, has the marker alone on its first line. -/
def startsWithMarkerLine (text : JsString) : Bool :=
  let trimmed := text.dropWhile isWhiteSpace
  let rest := trimmed.drop restorationMarker.length
  restorationMarker.isPrefixOf trimmed && (rest = [] || [10].isPrefixOf rest || [13, 10].isPrefixOf rest)

/-- The text of content that is a list of blocks. -/
def messageText (content : Option (Json Number)) : JsString :=
  match content with
  | some (.array blocks) => join [10] (blocks.map fun block => (textField block (js "text")).getD [])
  | _ => []

/-- What a record does to the proof: compaction and rollback reset it, a marker sets it. -/
def recordEffect (record : Json Number) : Option Bool :=
  if isRecord record then
    let type := textField record (js "type")
    let payload := (recordField record (js "payload")).getD (.object [])
    if type = some (js "compacted") then some false
    else if type = some (js "event_msg") ∧ textField payload (js "type") = some (js "thread_rolled_back") then
      some false
    else if type = some (js "response_item") ∧ textField payload (js "type") = some (js "message") ∧
        textField payload (js "role") = some (js "developer") ∧
          startsWithMarkerLine (messageText (field payload (js "content"))) then some true
    else none
  else none

/-- A line that is not valid JSON may hide a record that resets the proof. -/
def lineEffect (line : JsString) : Option Bool :=
  if trim line = [] then none
  else
    match Json.parse numbers.format (trim line) with
    | none => some false
    | some record => recordEffect record

def scanLines (live : Bool) (lines : List JsString) : Bool :=
  lines.foldl (fun live line => (lineEffect numbers line).getD live) live

def scanLiveCodexRestoration (raw : JsString) (initialLive : Bool) : Bool :=
  scanLines numbers initialLive (lines raw)

end Scan

section Order

variable {Number : Type} {numbers : JsNumbers Number}

theorem scanLines_append (live : Bool) (first rest : List JsString) :
    scanLines numbers live (first ++ rest) = scanLines numbers (scanLines numbers live first) rest :=
  List.foldl_append

/-- A proof from nothing is a proof from any state. -/
theorem scanLines_mono {lines : List JsString} {first second : Bool} (below : first = true → second = true)
    (live : scanLines numbers first lines = true) : scanLines numbers second lines = true := by
  induction lines generalizing first second with
  | nil => exact below live
  | cons line rest ih =>
      refine ih ?_ live
      dsimp only
      cases lineEffect numbers line with
      | none => exact below
      | some effect => exact id

/-- A blank piece is inert. -/
theorem scanLines_blank (live : Bool) : scanLines numbers live [[]] = live := rfl

end Order

end Lcm.Codex
