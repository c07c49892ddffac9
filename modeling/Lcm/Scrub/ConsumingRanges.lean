import Lcm.Text.JsString

namespace Lcm.Scrub
open Text

abbrev TextRange := Nat × Nat

/-- A compiled regular expression: where the match that starts at a position of a text ends, if there is
one. Look-around sees the whole text. -/
structure Regex where
  matchAt : JsString → Nat → Option Nat
  bounds : ∀ text index stop, matchAt text index = some stop → index ≤ stop ∧ stop ≤ text.length

namespace Regex

/-- The first match from a position on, as the execution of a global expression finds it. -/
def execFrom (regex : Regex) (text : JsString) : Nat → Nat → Option TextRange
  | 0, _ => none
  | fuel + 1, index =>
      match regex.matchAt text index with
      | some stop => some (index, stop)
      | none => regex.execFrom text fuel (index + 1)

def exec (regex : Regex) (text : JsString) (lastIndex : Nat) : Option TextRange :=
  regex.execFrom text (text.length + 1 - lastIndex) lastIndex

theorem execFrom_eq_some {regex : Regex} {text : JsString} {fuel index start stop : Nat}
    (found : regex.execFrom text fuel index = some (start, stop)) :
    index ≤ start ∧ start < index + fuel ∧ regex.matchAt text start = some stop ∧
      ∀ earlier, index ≤ earlier → earlier < start → regex.matchAt text earlier = none := by
  induction fuel generalizing index with
  | zero => cases found
  | succ fuel ih =>
      rw [execFrom] at found
      split at found
      · next here =>
          cases found
          exact ⟨Nat.le_refl _, by omega, here, fun earlier above below => absurd below (by omega)⟩
      · next missing =>
          obtain ⟨above, below, here, none⟩ := ih found
          refine ⟨by omega, by omega, here, ?_⟩
          intro earlier from' before
          rcases Nat.eq_or_lt_of_le from' with rfl | later
          · exact missing
          · exact none earlier later before

theorem execFrom_eq_none {regex : Regex} {text : JsString} {fuel index : Nat} :
    regex.execFrom text fuel index = none ↔
      ∀ position, index ≤ position → position < index + fuel → regex.matchAt text position = none := by
  induction fuel generalizing index with
  | zero =>
      simp only [execFrom, true_iff]
      omega
  | succ fuel ih =>
      rw [execFrom]
      split
      · next stop here =>
          constructor
          · exact nofun
          · intro missing
            rw [missing index (Nat.le_refl _) (by omega)] at here
            cases here
      · next here =>
          rw [ih]
          constructor
          · intro missing position above below
            rcases Nat.eq_or_lt_of_le above with rfl | later
            · exact here
            · exact missing position later (by omega)
          · intro missing position above below
            exact missing position (by omega) (by omega)

/-- A match is the first one from its position on. -/
theorem exec_eq_some {regex : Regex} {text : JsString} {lastIndex start stop : Nat} :
    regex.exec text lastIndex = some (start, stop) ↔
      lastIndex ≤ start ∧ regex.matchAt text start = some stop ∧
        ∀ earlier, lastIndex ≤ earlier → earlier < start → regex.matchAt text earlier = none := by
  constructor
  · intro found
    obtain ⟨above, _, here, before⟩ := execFrom_eq_some found
    exact ⟨above, here, before⟩
  · rintro ⟨above, here, before⟩
    have bound := regex.bounds text start stop here
    cases found : regex.exec text lastIndex with
    | none =>
        rw [exec, execFrom_eq_none] at found
        rw [found start above (by omega)] at here
        cases here
    | some other =>
        obtain ⟨first, firstStop⟩ := other
        obtain ⟨firstAbove, _, firstHere, firstBefore⟩ := execFrom_eq_some found
        rcases Nat.lt_trichotomy first start with earlier | rfl | later
        · rw [before first firstAbove earlier] at firstHere
          cases firstHere
        · rw [here] at firstHere
          cases firstHere
          rfl
        · rw [firstBefore start above later] at here
          cases here

theorem exec_bounds {regex : Regex} {text : JsString} {lastIndex start stop : Nat}
    (found : regex.exec text lastIndex = some (start, stop)) :
    lastIndex ≤ start ∧ start ≤ stop ∧ stop ≤ text.length := by
  obtain ⟨above, here, _⟩ := exec_eq_some.mp found
  obtain ⟨ordered, below⟩ := regex.bounds text start stop here
  exact ⟨above, ordered, below⟩

/-- A start without a match can be passed over. -/
theorem exec_skip {regex : Regex} {text : JsString} {lastIndex later start stop : Nat}
    (found : regex.exec text lastIndex = some (start, stop)) (above : lastIndex ≤ later)
    (below : later ≤ start) : regex.exec text later = some (start, stop) := by
  obtain ⟨_, here, before⟩ := exec_eq_some.mp found
  exact exec_eq_some.mpr ⟨below, here, fun earlier from' until' => before earlier (by omega) until'⟩

theorem exec_none_of_le {regex : Regex} {text : JsString} {lastIndex later : Nat}
    (missing : regex.exec text lastIndex = none) (above : lastIndex ≤ later) :
    regex.exec text later = none := by
  rw [exec, execFrom_eq_none] at missing ⊢
  exact fun position from' below => missing position (by omega) (by omega)

end Regex

/-- Runs of units that are not white space. The start of the run that is being read is given, if any. -/
def nonWhitespaceFrom : Nat → Option Nat → JsString → List TextRange
  | position, start, [] => start.toList.map fun start => (start, position)
  | position, start, unit :: rest =>
      if isWhiteSpace unit then
        (start.toList.map fun start => (start, position)) ++ nonWhitespaceFrom (position + 1) none rest
      else nonWhitespaceFrom (position + 1) (some (start.getD position)) rest

def nonWhitespaceRanges (text : JsString) : List TextRange := nonWhitespaceFrom 0 none text

structure RegexCollectionPlan where
  alternativeProbes : List Regex
  hasAmbiguousAlternative : Bool
  hasContextDependentLookahead : Bool
  lookaheadProbes : List Regex
  preferPrecedingAtBoundary : Bool

structure CompiledScrubPattern where
  plan : RegexCollectionPlan
  regex : Regex

/-- The binary search for the first range that stops behind an anchor. -/
def searchFollowing (ranges : List TextRange) (anchor : Nat) : Nat → Nat → Nat → Nat
  | 0, low, _ => low
  | fuel + 1, low, high =>
      if low < high then
        let middle := (low + high) / 2
        if (ranges[middle]?).any fun range => range.2 ≤ anchor then
          searchFollowing ranges anchor fuel (middle + 1) high
        else searchFollowing ranges anchor fuel low middle
      else low

/-- The tokens that a match without a width stands for. -/
def zeroWidthTokenRanges (ranges : List TextRange) (anchor : Nat)
    (preferPrecedingAtBoundary includeFollowingAtBoundary : Bool) : List TextRange :=
  let low := searchFollowing ranges anchor ranges.length 0 ranges.length
  let preceding := if low = 0 then none else ranges[low - 1]?
  let following := ranges[low]?
  match preferPrecedingAtBoundary, preceding, following with
  | true, some preceding, some following =>
      if preceding.2 < anchor ∧ anchor ≤ following.1 then [preceding, following]
      else if preceding.2 = anchor then
        if includeFollowingAtBoundary then [preceding, following] else [preceding]
      else [following]
  | true, some preceding, none => [preceding]
  | _, _, some following => [following]
  | _, some preceding, none => [preceding]
  | _, none, none => []

/-- Whether a look-ahead probe sees a token at an anchor. -/
def probeSeesToken (text : JsString) (anchor : Nat) (probe : Regex) : Bool :=
  match probe.exec (text.drop anchor) 0 with
  | some (start, stop) => (((text.drop anchor).drop start).take (stop - start)).any fun unit => !isWhiteSpace unit
  | none => false

def includesFollowing (plan : RegexCollectionPlan) (text : JsString) (anchor : Nat) : Bool :=
  plan.preferPrecedingAtBoundary &&
    (plan.hasContextDependentLookahead || plan.lookaheadProbes.any (probeSeesToken text anchor))

/-- The token ranges of an empty match at an anchor. -/
def anchorRanges (pattern : CompiledScrubPattern) (text : JsString) (tokens : List TextRange)
    (anchor : Nat) : List TextRange :=
  zeroWidthTokenRanges tokens anchor pattern.plan.preferPrecedingAtBoundary
    (includesFollowing pattern.plan text anchor)

/-- The match of an alternative that an empty match may hide. -/
def alternativeRange (text : JsString) (anchor expandedEnd : Nat) (probe : Regex) : Option TextRange :=
  (probe.exec text anchor).filter fun range => range.1 < range.2 && range.1 < expandedEnd

/-- The ranges that alternatives add to an empty match. -/
def alternativeRanges (pattern : CompiledScrubPattern) (text : JsString) (anchor : Nat)
    (ranges : List TextRange) : List TextRange :=
  let expandedEnd := (ranges.map Prod.snd).foldl max 0
  let expandedStart := (ranges.map Prod.fst).foldl min text.length
  (if pattern.plan.hasAmbiguousAlternative then [(expandedStart, text.length)] else []) ++
    pattern.plan.alternativeProbes.filterMap (alternativeRange text anchor expandedEnd)

/-- Where the scan goes on behind an empty match. -/
def resumeAfter (pattern : CompiledScrubPattern) (text : JsString) (anchor : Nat)
    (ranges : List TextRange) : Nat :=
  let reached := ((ranges ++ alternativeRanges pattern text anchor ranges).map Prod.snd).foldl max anchor
  if reached = anchor then anchor + 1 else reached

structure ScanState where
  lastIndex : Nat
  previousZeroRanges : List TextRange
  deriving DecidableEq

/-- One round of the scan: the match, the ranges that are collected for it, and where the scan goes on. -/
structure ScanRound where
  found : TextRange
  collected : List TextRange
  next : Option ScanState

def scanRound (pattern : CompiledScrubPattern) (text : JsString) (tokens : List TextRange)
    (state : ScanState) : Option ScanRound :=
  (pattern.regex.exec text state.lastIndex).map fun (start, stop) =>
    if start < stop then ⟨(start, stop), [(start, stop)], some { state with lastIndex := stop }⟩
    else
      let ranges := anchorRanges pattern text tokens start
      let fresh := ranges.filter fun range => range ∉ state.previousZeroRanges
      if ranges = [] then ⟨(start, stop), [], none⟩
      else ⟨(start, stop), fresh ++ alternativeRanges pattern text start ranges,
        some ⟨resumeAfter pattern text start ranges, ranges⟩⟩

/-- The rounds of a scan, and whether it came to its end. -/
def scanRounds (pattern : CompiledScrubPattern) (text : JsString) (tokens : List TextRange) :
    Nat → ScanState → List ScanRound × Bool
  | 0, _ => ([], false)
  | fuel + 1, state =>
      match scanRound pattern text tokens state with
      | none => ([], true)
      | some round =>
          match round.next with
          | none => ([round], true)
          | some next =>
              let (rounds, ended) := scanRounds pattern text tokens fuel next
              (round :: rounds, ended)

/-- The scan of a text. Its position ascends, so it ends within the fuel. -/
def scan (pattern : CompiledScrubPattern) (text : JsString) (tokens : List TextRange) :
    List ScanRound × Bool :=
  scanRounds pattern text tokens (text.length + 2) ⟨0, []⟩

def collectConsumingRanges (text : JsString) (pattern : CompiledScrubPattern)
    (tokens : List TextRange) : List TextRange :=
  (scan pattern text tokens).1.flatMap ScanRound.collected

end Lcm.Scrub
