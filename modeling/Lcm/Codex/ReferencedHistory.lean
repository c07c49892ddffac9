import Lcm.Codex.CutoffOrdinal
import Lcm.Codex.Restoration

namespace Lcm.Codex
open Text

/-- A rollout that was opened safely, with the reads of it that fail. -/
structure Rollout where
  identity : Nat × Nat
  bytes : List UInt8
  headFails : Bool
  cutoffFails : Bool
  segmentFails : Bool
  deriving DecidableEq

section Names

/-- A letter without its case. Under the Unicode rules two more characters stand for letters. -/
def foldCase (unit : UInt16) : UInt16 :=
  if unit = 0x17f then 115 else if unit = 0x212a then 107 else toLowerAscii unit

def literalUnits (literal : String) : List (UInt16 → Bool) :=
  (js literal).map fun unit other => foldCase other == foldCase unit

def digitUnits (count : Nat) : List (UInt16 → Bool) := List.replicate count Json.isDigit

def hexUnits (count : Nat) : List (UInt16 → Bool) :=
  List.replicate count fun unit => isHexDigit (foldCase unit)

def uuidUnits : List (UInt16 → Bool) :=
  hexUnits 8 ++ literalUnits "-" ++ hexUnits 4 ++ literalUnits "-" ++ hexUnits 4 ++ literalUnits "-" ++
    hexUnits 4 ++ literalUnits "-" ++ hexUnits 12

/-- What a pattern of units matches at the head of a text, and what follows. -/
def matchUnits : List (UInt16 → Bool) → JsString → Option (JsString × JsString)
  | [], text => some ([], text)
  | _ :: _, [] => none
  | unit :: units, head :: rest =>
      if unit head then (matchUnits units rest).map fun (matched, remaining) => (head :: matched, remaining)
      else none

/-- A whole UUID, in lower case. -/
def rolloutId (text : JsString) : Option JsString :=
  match matchUnits uuidUnits text with
  | some (id, []) => some (id.map toLowerAscii)
  | _ => none

/-- The rollout id of a basename: the last of its two ids, or the only one. -/
def rolloutIdOfFileName (name : JsString) : Option JsString := do
  let (_, afterTime) ← matchUnits (literalUnits "rollout-" ++ digitUnits 4 ++ literalUnits "-" ++ digitUnits 2 ++
    literalUnits "-" ++ digitUnits 2 ++ literalUnits "T" ++ digitUnits 2 ++ literalUnits "-" ++ digitUnits 2 ++
    literalUnits "-" ++ digitUnits 2 ++ literalUnits "-") name
  let (threadId, afterThread) ← matchUnits uuidUnits afterTime
  let (id, afterId) := (matchUnits (literalUnits "_" ++ uuidUnits) afterThread).elim (threadId, afterThread)
    fun (matched, rest) => (matched.drop 1, rest)
  let (_, rest) ← matchUnits (literalUnits ".jsonl") afterId
  if rest = [] then some (id.map toLowerAscii) else none

end Names

section Search

variable (Path : Type)

/-- An entry of a directory. A directory lists its entries, and then its reading may fail. -/
inductive DirectoryEntry
  | directory (name : JsString) (entries : List DirectoryEntry) (fails : Bool)
  | file (name : JsString) (path : Path)
  | other

variable {Path}

/-- The names of the directories of sessions, by depth: year, month and day. -/
def rolloutDateDirectories : List (JsString → Bool) :=
  [4, 2, 2].map fun count name => name.length = count && name.all Json.isDigit

structure RolloutSearch (Path : Type) where
  remaining : Nat
  exhausted : Bool
  found : List Path

/-- The walk stops once a second match proves ambiguity or the search is exhausted. -/
def RolloutSearch.stopped (search : RolloutSearch Path) : Bool := 1 < search.found.length || search.exhausted

/-- One entry of a directory, with the walk of its subdirectories given. -/
def visitEntry (isDate : JsString → Bool) (walk : List (DirectoryEntry Path) → Bool → RolloutSearch Path → RolloutSearch Path)
    (id : JsString) (search : RolloutSearch Path) (entry : DirectoryEntry Path) : RolloutSearch Path :=
  if search.stopped then search
  else if search.remaining = 0 then { search with exhausted := true }
  else
    let search := { search with remaining := search.remaining - 1 }
    match entry with
    | .directory name entries fails => if isDate name then walk entries fails search else search
    | .file name path =>
        if rolloutIdOfFileName name = some id then { search with found := search.found ++ [path] } else search
    | .other => search

/-- The walk of a directory and of its date directories. -/
def searchRolloutDirectory (id : JsString) : List (JsString → Bool) → List (DirectoryEntry Path) → Bool →
    RolloutSearch Path → RolloutSearch Path
  | [], entries, fails, search =>
      let visited := entries.foldl (visitEntry (fun _ => false) (fun _ _ search => search) id) search
      { visited with exhausted := visited.exhausted || fails }
  | date :: dates, entries, fails, search =>
      let visited := entries.foldl (visitEntry date (searchRolloutDirectory id dates) id) search
      { visited with exhausted := visited.exhausted || fails }

/-- The directories sessions and archived_sessions, unless they are missing, and what opens safely. -/
structure RolloutStore (Path : Type) where
  roots : List (List (DirectoryEntry Path) × Bool)
  openRollout : Path → Option Rollout

/-- The one plain file for a rollout id, and the budget that is left. -/
def locateRollout (store : RolloutStore Path) (id : JsString) (budget : Nat) : Option Path × Nat :=
  let search := store.roots.foldl (fun search root =>
    searchRolloutDirectory id rolloutDateDirectories root.1 root.2 search) ⟨budget, false, []⟩
  (match search.found, search.exhausted with
    | [path], false => some path
    | _, _ => none, search.remaining)

end Search

section Walk

variable {Number : Type} (numbers : JsNumbers Number) {Path : Type}

inductive HistoryBase
  | none
  | headless
  | invalid
  | base (rolloutId : JsString) (endOrdinal endByte : Nat)
  deriving DecidableEq

def maxSessionMetaPrefixBytes : Nat := 256 * 1024

/-- A safe integer that is positive. -/
def positiveSafeInteger (value : Option (Json Number)) : Option Nat :=
  (codexOrdinal numbers value).filter (1 ≤ ·)

/-- What the session_meta of a rollout says about the history it references. -/
def readHistoryBase (file : Rollout) : HistoryBase :=
  match firstSessionMetaPayload numbers (lines (decodeUtf8 (file.bytes.take maxSessionMetaPrefixBytes))) with
  | none => .headless
  | some payload =>
      match field payload (js "history_base") with
      | none => .none
      | some .null => .none
      | some base =>
          match (textField base (js "thread_id")).bind rolloutId,
              positiveSafeInteger numbers (field base (js "end_ordinal_exclusive")),
              positiveSafeInteger numbers (field base (js "end_byte_offset")) with
          | some id, some endOrdinal, some endByte => .base id endOrdinal endByte
          | _, _, _ => .invalid

/-- One range of the history: the bytes of a file from a start up to an end. -/
structure HistorySegment where
  file : Rollout
  start : Nat
  endByte : Nat
  deriving DecidableEq

/-- The history_base of an ancestor whose cutoff holds. -/
def validateAncestor (parent : Rollout) (endByte endOrdinal : Nat) (repeated : Bool) : Option HistoryBase :=
  if repeated ∨ parent.bytes.length < endByte then none
  else if parent.headFails then none
  else
    let read := readHistoryBase numbers parent
    if read = .headless ∨ parent.cutoffFails then none
    else if readCutoffOrdinal numbers parent.bytes endByte = some (some (endOrdinal - 1)) then some read
    else none

def maxReferencedHistoryFiles : Nat := 4

/-- The state of the walk: the segments with the oldest first, and what is left of the budgets. -/
structure HistoryWalk where
  segments : List HistorySegment
  remaining : Nat
  seenIds : List JsString
  seenFiles : List (Nat × Nat)
  budget : Nat
  read : HistoryBase

/-- The newest bytes of a file before its end, as far as the budget goes, become the oldest segment. -/
def HistoryWalk.keep (walk : HistoryWalk) (file : Rollout) (endByte : Nat) : HistoryWalk :=
  let take := min endByte walk.remaining
  { walk with
    segments := ⟨file, endByte - take, endByte⟩ :: walk.segments
    remaining := walk.remaining - take }

/-- The identity of a file is a device and an inode. -/
instance lawfulBEqIdentity : LawfulBEq (Nat × Nat) := inferInstance

/-- One link of the walk. Without a next state the walk ends with the state it has. -/
def followLink (store : RolloutStore Path) (walk : HistoryWalk) : Option HistoryWalk :=
  match walk.read with
  | .base id endOrdinal endByte =>
      if walk.remaining = 0 ∨ maxReferencedHistoryFiles ≤ walk.segments.length ∨ id ∈ walk.seenIds then none
      else do
        let (path, budget) := locateRollout store id walk.budget
        let parent ← path.bind store.openRollout
        let read ← validateAncestor numbers parent endByte endOrdinal (parent.identity ∈ walk.seenFiles)
        some { ({ walk with
          seenIds := id :: walk.seenIds
          budget := budget
          seenFiles := parent.identity :: walk.seenFiles } : HistoryWalk).keep parent endByte with read := read }
  | _ => none

/-- The walk, and whether it came to its end. -/
def followLinks (store : RolloutStore Path) : Nat → HistoryWalk → HistoryWalk × Bool
  | 0, walk => (walk, false)
  | fuel + 1, walk =>
      match followLink numbers store walk with
      | none => (walk, true)
      | some next => followLinks store fuel next

/-- The walk starts with the rollout itself. -/
def initialWalk (own : Rollout) (maxBytes maxDirectoryEntries : Nat) : HistoryWalk :=
  (⟨[], maxBytes, [], [own.identity], maxDirectoryEntries, readHistoryBase numbers own⟩ : HistoryWalk).keep own
    own.bytes.length

/-- The segments of the history, oldest first. A failed read of the rollout itself throws. -/
def resolveHistorySegments (store : RolloutStore Path) (own : Rollout) (maxBytes maxDirectoryEntries : Nat) :
    Option (List HistorySegment) :=
  if own.headFails then none
  else some (followLinks numbers store (maxReferencedHistoryFiles + 1)
    (initialWalk numbers own maxBytes maxDirectoryEntries)).1.segments

/-- The records of a segment. A start inside the file drops the first line, which may be partial. -/
def readSegmentText (segment : HistorySegment) : JsString :=
  let raw := decodeUtf8 ((segment.file.bytes.take segment.endByte).drop segment.start)
  if segment.start = 0 then raw else (raw.dropWhile (· ≠ 10)).drop 1

/-- The texts of the newest segments up to the first one that cannot be read, oldest first. -/
def readTexts : List HistorySegment → List JsString
  | [] => []
  | segment :: newer =>
      if newer.any (·.file.segmentFails) ∨ segment.file.segmentFails then readTexts newer
      else readSegmentText segment :: readTexts newer

/-- A failed read of the newest segment throws. -/
def scanHistorySegments (segments : List HistorySegment) : Option Bool :=
  match segments.getLast? with
  | none => none
  | some own =>
      if own.file.segmentFails then none
      else some ((readTexts segments).foldl (fun live text => scanLiveCodexRestoration numbers text live) false)

end Walk

end Lcm.Codex
