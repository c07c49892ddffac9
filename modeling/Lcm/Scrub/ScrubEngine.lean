import Lcm.Library.RangeMerge
import Lcm.Scrub.ConsumingRanges
import Mathlib.Data.List.SplitBy
import Mathlib.Data.List.Infix

namespace Lcm.Scrub
open Text

def includes (text part : JsString) : Bool := decide (part <:+: text)

/-- A dot outside an escape matches a space. -/
def hasUnescapedDot : JsString → Bool
  | [] => false
  | [unit] => unit == 46
  | unit :: following :: rest =>
      if unit = 92 then hasUnescapedDot rest else unit == 46 || hasUnescapedDot (following :: rest)

def isSpanningPattern (source : JsString) : Bool :=
  includes source (js " ") || includes source (js "\\s") || hasUnescapedDot source

/-- A pattern, and what its expression compiles to, unless it is refused. -/
structure PatternSource where
  source : JsString
  compiled : Option CompiledScrubPattern

inductive ScrubCategory
  | gitleaks
  | builtIn
  | global
  | project
  deriving DecidableEq

/-- A pattern in the order of precedence. Only a bundled one has keywords, in lower case. -/
structure RankedPattern where
  category : ScrubCategory
  pattern : PatternSource
  requiredKeywords : Option (List JsString)

structure PatternLists where
  gitleaks : List (PatternSource × Option (List JsString))
  native : List PatternSource
  global : List PatternSource
  project : List PatternSource

/-- The order of precedence: gitleaks, native, global, project. -/
def PatternLists.ranked (lists : PatternLists) : List RankedPattern :=
  (lists.gitleaks.map fun (pattern, keywords) => ⟨.gitleaks, pattern, keywords⟩) ++
    (lists.native.map fun pattern => ⟨.builtIn, pattern, none⟩) ++
    (lists.global.map fun pattern => ⟨.global, pattern, none⟩) ++
    lists.project.map fun pattern => ⟨.project, pattern, none⟩

structure SpanningPattern where
  pattern : CompiledScrubPattern
  origIdx : Nat
  requiredKeywords : Option (List JsString)

structure TokenPattern where
  pattern : CompiledScrubPattern
  origIdx : Nat

structure ScrubEngine where
  spanningPatterns : List SpanningPattern
  tokenPatterns : List TokenPattern
  gitleaksCount : Nat
  nativeCount : Nat
  globalPatternCount : Nat
  useGitleaksPrefilter : Bool

/-- Bundled patterns always run on the whole text. -/
def RankedPattern.spans (ranked : RankedPattern) : Bool :=
  ranked.category = .gitleaks || isSpanningPattern ranked.pattern.source

/-- The constructor sorts the patterns that compile by whether they span white space. -/
def ScrubEngine.construct (lists : PatternLists) (useGitleaksPrefilter : Bool) : ScrubEngine where
  spanningPatterns := lists.ranked.zipIdx.filterMap fun (ranked, index) =>
    if ranked.spans then
      ranked.pattern.compiled.map fun pattern =>
        ⟨pattern, index, if useGitleaksPrefilter then ranked.requiredKeywords else none⟩
    else none
  tokenPatterns := lists.ranked.zipIdx.filterMap fun (ranked, index) =>
    if ranked.spans then none else ranked.pattern.compiled.map fun pattern => ⟨pattern, index⟩
  gitleaksCount := lists.gitleaks.length
  nativeCount := lists.native.length
  globalPatternCount := lists.global.length
  useGitleaksPrefilter := useGitleaksPrefilter

/-- The runs of white space and of other characters. -/
def segments (text : JsString) : List JsString :=
  text.splitBy fun first second => isWhiteSpace first == isWhiteSpace second

/-- The segments that token patterns are applied to, with their offsets. -/
def tokenSegmentsFrom : Nat → List JsString → List (Nat × JsString)
  | _, [] => []
  | offset, seg :: rest =>
      (if seg ≠ [] ∧ ¬ seg.all isWhiteSpace then [(offset, seg)] else []) ++
        tokenSegmentsFrom (offset + seg.length) rest

def tokenSegments (text : JsString) : List (Nat × JsString) := tokenSegmentsFrom 0 (segments text)

/-- Two ranges with one key. -/
def sameKey (first second : TaggedRange Nat) : Prop :=
  first.start = second.start ∧ first.stop = second.stop

instance : DecidableRel sameKey := fun _ _ => inferInstanceAs (Decidable (_ ∧ _))

/-- A range that is there already keeps its place, with the smaller index. -/
def addTaggedRange (table : List (TaggedRange Nat)) (range : TaggedRange Nat) : List (TaggedRange Nat) :=
  if ∃ held ∈ table, sameKey held range then
    table.map fun held => if sameKey held range then { held with tag := min range.tag held.tag } else held
  else table ++ [range]

structure ScrubCounts where
  text : JsString
  gitleaks : Nat
  builtIn : Nat
  global : Nat
  project : Nat

def ScrubCounts.ofCategory (counts : ScrubCounts) : ScrubCategory → Nat
  | .gitleaks => counts.gitleaks
  | .builtIn => counts.builtIn
  | .global => counts.global
  | .project => counts.project

def redacted : JsString := js "[REDACTED]"

namespace ScrubEngine

variable (toLowerCase : JsString → JsString) (engine : ScrubEngine) (text : JsString)

/-- A prefilter lets a pattern run when one of its keywords occurs in the text in lower case. -/
def runs (spanning : SpanningPattern) : Bool :=
  match spanning.requiredKeywords with
  | none => true
  | some keywords =>
      !engine.useGitleaksPrefilter || keywords.any fun keyword => includes (toLowerCase text) keyword

/-- The ranges of the patterns that run on the whole text. -/
def spanningRanges : List (TaggedRange Nat) :=
  (engine.spanningPatterns.filter (engine.runs toLowerCase text)).flatMap fun spanning =>
    (collectConsumingRanges text spanning.pattern (nonWhitespaceRanges text)).map fun range =>
      ⟨range.1, range.2, spanning.origIdx⟩

/-- The ranges of the patterns that run on each segment. -/
def tokenRanges : List (TaggedRange Nat) :=
  (tokenSegments text).flatMap fun (offset, seg) =>
    engine.tokenPatterns.flatMap fun token =>
      (collectConsumingRanges seg token.pattern [(0, seg.length)]).map fun range =>
        ⟨offset + range.1, offset + range.2, token.origIdx⟩

/-- The ranges in the order in which they are collected. -/
def collected : List (TaggedRange Nat) :=
  engine.spanningRanges toLowerCase text ++ engine.tokenRanges text

/-- The table of the ranges, in the order of their starts. -/
def sorted : List (TaggedRange Nat) :=
  ((engine.collected toLowerCase text).foldl addTaggedRange []).mergeSort
    fun first second => first.start ≤ second.start

/-- The ranges that are replaced. -/
def merged : List (TaggedRange Nat) := TaggedRange.merge (engine.sorted toLowerCase text)

def categoryOf (index : Nat) : ScrubCategory :=
  if index < engine.gitleaksCount then .gitleaks
  else if index < engine.gitleaksCount + engine.nativeCount then .builtIn
  else if index < engine.gitleaksCount + engine.nativeCount + engine.globalPatternCount then .global
  else .project

def count (category : ScrubCategory) : Nat :=
  (engine.merged toLowerCase text).countP fun range => engine.categoryOf range.tag = category

def scrubWithCounts : ScrubCounts :=
  if (engine.collected toLowerCase text).foldl addTaggedRange [] = [] then ⟨text, 0, 0, 0, 0⟩
  else
    { text := TaggedRange.splice redacted text 0 (engine.merged toLowerCase text)
      gitleaks := engine.count toLowerCase text .gitleaks
      builtIn := engine.count toLowerCase text .builtIn
      global := engine.count toLowerCase text .global
      project := engine.count toLowerCase text .project }

/-- The scan of the pattern with an index finds a match, in the whole text or in a segment of it. -/
def Finds (index start stop : Nat) : Prop :=
  (∃ spanning ∈ engine.spanningPatterns, spanning.origIdx = index ∧ engine.runs toLowerCase text spanning ∧
    ∃ round ∈ (scan spanning.pattern text (nonWhitespaceRanges text)).1, round.found = (start, stop)) ∨
  ∃ token ∈ engine.tokenPatterns, token.origIdx = index ∧ ∃ segment ∈ tokenSegments text,
    ∃ round ∈ (scan token.pattern segment.2 [(0, segment.2.length)]).1,
      start = segment.1 + round.found.1 ∧ stop = segment.1 + round.found.2

end ScrubEngine

section Ranges

/-- A range of a text that is not empty. -/
def Proper (text : JsString) (range : TextRange) : Prop :=
  range.1 < range.2 ∧ range.2 ≤ text.length

/-- The run that is being read ends where the reading stands. -/
theorem openRange_proper {position : Nat} {start : Option Nat} (before : ∀ first ∈ start, first < position) :
    ∀ range ∈ start.toList.map fun start => (start, position), range.1 < range.2 ∧ range.2 ≤ position := by
  intro range inside
  obtain ⟨first, held, rfl⟩ := List.mem_map.mp inside
  exact ⟨before first (Option.mem_toList.mp held), Nat.le_refl _⟩

theorem nonWhitespaceFrom_proper {position : Nat} {start : Option Nat} {text : JsString}
    (before : ∀ first ∈ start, first < position) : ∀ range ∈ nonWhitespaceFrom position start text,
      range.1 < range.2 ∧ range.2 ≤ position + text.length := by
  induction text generalizing position start with
  | nil => exact openRange_proper before
  | cons unit rest ih =>
      intro range inside
      rw [nonWhitespaceFrom] at inside
      rw [List.length_cons]
      split at inside
      · rcases List.mem_append.mp inside with closed | later
        · have bounds := openRange_proper before range closed
          omega
        · have bounds := ih (by simp) range later
          omega
      · have bounds := ih (by
          intro first held
          cases start with
          | none => cases held; exact Nat.lt_succ_self _
          | some first => cases held; exact Nat.lt_succ_of_lt (before first rfl)) range inside
        omega

theorem nonWhitespaceRanges_proper (text : JsString) :
    ∀ range ∈ nonWhitespaceRanges text, Proper text range := by
  intro range inside
  have bounds := nonWhitespaceFrom_proper (by simp) range inside
  rwa [Nat.zero_add] at bounds

/-- An empty match stands for tokens of the text. -/
theorem zeroWidthTokenRanges_mem {ranges : List TextRange} {anchor : Nat} {preceding following : Bool} :
    ∀ range ∈ zeroWidthTokenRanges ranges anchor preceding following, range ∈ ranges := by
  have before : ∀ {low : Nat} {range : TextRange}, (if low = 0 then none else ranges[low - 1]?) = some range →
      range ∈ ranges := by
    intro low range held
    split at held
    · cases held
    · exact List.mem_of_getElem? held
  have behind : ∀ {low : Nat} {range : TextRange}, ranges[low]? = some range → range ∈ ranges :=
    List.mem_of_getElem?
  intro range inside
  unfold zeroWidthTokenRanges at inside
  dsimp only at inside
  split at inside
  · next first second =>
      split at inside
      · simp only [List.mem_cons, List.not_mem_nil, or_false] at inside
        rcases inside with rfl | rfl
        · exact before first
        · exact behind second
      · split at inside
        · split at inside
          · simp only [List.mem_cons, List.not_mem_nil, or_false] at inside
            rcases inside with rfl | rfl
            · exact before first
            · exact behind second
          · rw [List.mem_singleton.mp inside]
            exact before first
        · rw [List.mem_singleton.mp inside]
          exact behind second
  · next first _ =>
      rw [List.mem_singleton.mp inside]
      exact before first
  · next second _ =>
      rw [List.mem_singleton.mp inside]
      exact behind second
  · next first _ =>
      rw [List.mem_singleton.mp inside]
      exact before first
  · cases inside

variable {pattern : CompiledScrubPattern} {text : JsString} {tokens : List TextRange}

theorem foldl_min_le (values : List Nat) (initial : Nat) :
    values.foldl min initial ≤ initial ∧ ∀ value ∈ values, values.foldl min initial ≤ value := by
  induction values generalizing initial with
  | nil => simp
  | cons first rest ih =>
      obtain ⟨start, others⟩ := ih (min initial first)
      refine ⟨Nat.le_trans start (Nat.min_le_left _ _), ?_⟩
      intro value inside
      rcases List.mem_cons.mp inside with rfl | later
      · exact Nat.le_trans start (Nat.min_le_right _ _)
      · exact others value later

theorem alternativeRanges_proper {anchor : Nat} {ranges : List TextRange} (some' : ranges ≠ [])
    (proper : ∀ range ∈ ranges, Proper text range) :
    ∀ range ∈ alternativeRanges pattern text anchor ranges, Proper text range := by
  intro range inside
  rcases List.mem_append.mp inside with ambiguous | alternative
  · split at ambiguous
    · rw [List.mem_singleton.mp ambiguous]
      obtain ⟨first, rest, rfl⟩ := List.exists_cons_of_ne_nil some'
      have wide := proper first (List.mem_cons_self ..)
      have least := (foldl_min_le ((first :: rest).map Prod.fst) text.length).2 first.1 (by simp)
      exact ⟨Nat.lt_of_le_of_lt least (Nat.lt_of_lt_of_le wide.1 wide.2), Nat.le_refl _⟩
    · cases ambiguous
  · obtain ⟨probe, _, found⟩ := List.mem_filterMap.mp alternative
    obtain ⟨matched, holds⟩ := Option.filter_eq_some_iff.mp found
    have bounds := Regex.exec_bounds matched
    simp only [Bool.and_eq_true, decide_eq_true_eq] at holds
    exact ⟨holds.1, bounds.2.2⟩

/-- Every round of a scan is a round from some state. -/
theorem scanRounds_round {fuel : Nat} {state : ScanState} :
    ∀ round ∈ (scanRounds pattern text tokens fuel state).1,
      ∃ from', scanRound pattern text tokens from' = some round := by
  induction fuel generalizing state with
  | zero => exact nofun
  | succ fuel ih =>
      intro round inside
      rw [scanRounds] at inside
      split at inside
      · cases inside
      · next first ran =>
          split at inside
          · rw [List.mem_singleton.mp inside]
            exact ⟨state, ran⟩
          · rcases List.mem_cons.mp inside with rfl | later
            · exact ⟨state, ran⟩
            · exact ih round later

/-- What a round collects is not empty and lies in the text. -/
theorem scanRound_proper (proper : ∀ range ∈ tokens, Proper text range) {state : ScanState} {round : ScanRound}
    (ran : scanRound pattern text tokens state = some round) :
    ∀ range ∈ round.collected, Proper text range := by
  obtain ⟨⟨start, stop⟩, found, rfl⟩ := Option.map_eq_some_iff.mp ran
  have bounds := Regex.exec_bounds found
  have anchored : ∀ range ∈ anchorRanges pattern text tokens start, Proper text range :=
    fun range inside => proper range (zeroWidthTokenRanges_mem range inside)
  dsimp only
  split
  · next wide =>
      intro range inside
      rw [List.mem_singleton.mp inside]
      exact ⟨wide, bounds.2.2⟩
  · split
    · exact nofun
    · next tokened =>
        intro range inside
        rcases List.mem_append.mp inside with fresh | alternative
        · exact anchored range (List.mem_filter.mp fresh).1
        · exact alternativeRanges_proper tokened anchored range alternative

theorem collectConsumingRanges_proper (proper : ∀ range ∈ tokens, Proper text range) :
    ∀ range ∈ collectConsumingRanges text pattern tokens, Proper text range := by
  intro range inside
  obtain ⟨round, listed, collected⟩ := List.mem_flatMap.mp inside
  obtain ⟨state, ran⟩ := scanRounds_round round listed
  exact scanRound_proper proper ran range collected

/-- A round collects its match, when it is not empty. -/
theorem scanRound_found {state : ScanState} {round : ScanRound}
    (ran : scanRound pattern text tokens state = some round) (wide : round.found.1 < round.found.2) :
    round.found ∈ round.collected := by
  obtain ⟨⟨start, stop⟩, _, rfl⟩ := Option.map_eq_some_iff.mp ran
  dsimp only at wide ⊢
  split
  · exact List.mem_singleton_self _
  · next empty =>
      rw [if_neg empty] at wide
      split at wide <;> exact absurd wide empty

theorem collectConsumingRanges_found {start stop : Nat}
    (found : ∃ round ∈ (scan pattern text tokens).1, round.found = (start, stop)) (wide : start < stop) :
    (start, stop) ∈ collectConsumingRanges text pattern tokens := by
  obtain ⟨round, listed, same⟩ := found
  obtain ⟨state, ran⟩ := scanRounds_round round listed
  have own := scanRound_found ran (by rw [same]; exact wide)
  exact List.mem_flatMap.mpr ⟨round, listed, same ▸ own⟩

end Ranges

section Segments

theorem tokenSegmentsFrom_bounds {offset : Nat} {parts : List JsString} :
    ∀ segment ∈ tokenSegmentsFrom offset parts,
      segment.2 ≠ [] ∧ segment.1 + segment.2.length ≤ offset + parts.flatten.length := by
  induction parts generalizing offset with
  | nil => exact nofun
  | cons seg rest ih =>
      intro segment inside
      rw [List.flatten_cons, List.length_append]
      rcases List.mem_append.mp inside with own | later
      · split at own
        · next word =>
            rw [List.mem_singleton.mp own]
            exact ⟨word.1, by dsimp only; omega⟩
        · cases own
      · obtain ⟨some', bound⟩ := ih segment later
        exact ⟨some', by omega⟩

/-- A segment is a part of the text. -/
theorem tokenSegments_bounds {text : JsString} : ∀ segment ∈ tokenSegments text,
    segment.2 ≠ [] ∧ segment.1 + segment.2.length ≤ text.length := by
  intro segment inside
  obtain ⟨some', bound⟩ := tokenSegmentsFrom_bounds segment inside
  rw [segments, List.flatten_splitBy, Nat.zero_add] at bound
  exact ⟨some', bound⟩

end Segments

/-- A table of ranges with one entry for each key, which has the least index found for it. -/
structure Represents (table collected : List (TaggedRange Nat)) : Prop where
  kept : ∀ range ∈ collected, ∃ held ∈ table, sameKey held range ∧ held.tag ≤ range.tag
  own : ∀ held ∈ table, held ∈ collected

namespace Represents

theorem empty : Represents [] [] := ⟨nofun, nofun⟩

theorem add {table before : List (TaggedRange Nat)} (represents : Represents table before)
    (range : TaggedRange Nat) : Represents (addTaggedRange table range) (before ++ [range]) := by
  rw [addTaggedRange]
  split
  · next present =>
      constructor
      · intro other inside
        rcases List.mem_append.mp inside with old | new
        · obtain ⟨held, listed, same, least⟩ := represents.kept other old
          refine ⟨_, List.mem_map_of_mem listed, ?_⟩
          split
          · exact ⟨same, (Nat.min_le_right _ _).trans least⟩
          · exact ⟨same, least⟩
        · obtain ⟨held, listed, same⟩ := present
          rw [List.mem_singleton.mp new]
          refine ⟨_, List.mem_map_of_mem listed, ?_⟩
          rw [if_pos same]
          exact ⟨same, Nat.min_le_left _ _⟩
      · intro other inside
        obtain ⟨held, listed, rfl⟩ := List.mem_map.mp inside
        have old := represents.own held listed
        split
        · next same =>
            rcases Nat.le_total range.tag held.tag with below | above
            · rw [Nat.min_eq_left below]
              exact List.mem_append_right _ (List.mem_singleton.mpr (by
                obtain ⟨start, stop⟩ := same
                cases range
                cases held
                simp_all))
            · rw [Nat.min_eq_right above]
              exact List.mem_append_left _ old
        · exact List.mem_append_left _ old
  · constructor
    · intro other inside
      rcases List.mem_append.mp inside with old | new
      · obtain ⟨held, listed, holds⟩ := represents.kept other old
        exact ⟨held, List.mem_append_left _ listed, holds⟩
      · rw [List.mem_singleton.mp new]
        exact ⟨range, by simp, ⟨rfl, rfl⟩, Nat.le_refl _⟩
    · intro held inside
      rcases List.mem_append.mp inside with old | new
      · exact List.mem_append_left _ (represents.own held old)
      · exact List.mem_append_right _ new

theorem foldl {table before : List (TaggedRange Nat)} (represents : Represents table before)
    (collected : List (TaggedRange Nat)) :
    Represents (collected.foldl addTaggedRange table) (before ++ collected) := by
  induction collected generalizing table before with
  | nil => rwa [List.append_nil]
  | cons range rest ih =>
      have next := ih (represents.add range)
      rwa [List.append_assoc] at next

end Represents

namespace ScrubEngine

section Collected

variable {toLowerCase : JsString → JsString} {engine : ScrubEngine} {text : JsString}

/-- A collected range is not empty and lies in the text. -/
theorem collected_proper : ∀ range ∈ engine.collected toLowerCase text,
    range.start < range.stop ∧ range.stop ≤ text.length := by
  intro range inside
  rcases List.mem_append.mp inside with spanning | token
  · obtain ⟨pattern, _, found⟩ := List.mem_flatMap.mp spanning
    obtain ⟨own, listed, rfl⟩ := List.mem_map.mp found
    exact collectConsumingRanges_proper (nonWhitespaceRanges_proper text) own listed
  · obtain ⟨⟨offset, seg⟩, segmented, found⟩ := List.mem_flatMap.mp token
    obtain ⟨pattern, _, matched⟩ := List.mem_flatMap.mp found
    obtain ⟨own, listed, rfl⟩ := List.mem_map.mp matched
    obtain ⟨some', bound⟩ := tokenSegments_bounds _ segmented
    have wholeSegment : ∀ range ∈ [((0, seg.length) : TextRange)], Proper seg range := by
      intro range inside
      rw [List.mem_singleton.mp inside]
      exact ⟨List.length_pos_iff.mpr some', Nat.le_refl _⟩
    obtain ⟨wide, below⟩ := collectConsumingRanges_proper wholeSegment own listed
    dsimp only at bound ⊢
    omega

/-- What the scan of a pattern finds is collected, unless it is empty. -/
theorem Finds.collected {index start stop : Nat} (finds : engine.Finds toLowerCase text index start stop)
    (wide : start < stop) : ⟨start, stop, index⟩ ∈ engine.collected toLowerCase text := by
  rcases finds with ⟨spanning, listed, rfl, runs, found⟩ |
    ⟨token, listed, rfl, segment, segmented, round, scanned, rfl, rfl⟩
  · apply List.mem_append_left
    refine List.mem_flatMap.mpr ⟨spanning, List.mem_filter.mpr ⟨listed, runs⟩, ?_⟩
    exact List.mem_map.mpr ⟨(start, stop), collectConsumingRanges_found found wide, rfl⟩
  · apply List.mem_append_right
    refine List.mem_flatMap.mpr ⟨segment, segmented, List.mem_flatMap.mpr ⟨token, listed, ?_⟩⟩
    refine List.mem_map.mpr ⟨round.found, ?_, rfl⟩
    exact collectConsumingRanges_found ⟨round, scanned, rfl⟩ (Nat.lt_of_add_lt_add_left wide)

end Collected

section Merged

variable (toLowerCase : JsString → JsString) (engine : ScrubEngine) (text : JsString)

theorem sorted_represents : Represents (engine.sorted toLowerCase text) (engine.collected toLowerCase text) := by
  have table := Represents.empty.foldl (engine.collected toLowerCase text)
  constructor
  · intro range inside
    obtain ⟨held, listed, holds⟩ := table.kept range inside
    exact ⟨held, List.mem_mergeSort.mpr listed, holds⟩
  · exact fun held inside => table.own held (List.mem_mergeSort.mp inside)

theorem sorted_ascending : TaggedRange.Ascending (engine.sorted toLowerCase text) := by
  have sorted := @List.pairwise_mergeSort (TaggedRange Nat)
    (fun first second => decide (first.start ≤ second.start))
    (by simp only [decide_eq_true_eq]; omega) (by simp only [Bool.or_eq_true, decide_eq_true_eq]; omega)
    ((engine.collected toLowerCase text).foldl addTaggedRange [])
  exact sorted.imp of_decide_eq_true

variable {toLowerCase engine text}

theorem merged_separated : TaggedRange.Separated (engine.merged toLowerCase text) :=
  TaggedRange.merge_separated (engine.sorted_ascending toLowerCase text)

/-- The replaced positions are the collected ones. -/
theorem covered_merged (position : Nat) :
    TaggedRange.covered (engine.merged toLowerCase text) position ↔
      TaggedRange.covered (engine.collected toLowerCase text) position := by
  refine (TaggedRange.covered_merge (engine.sorted_ascending toLowerCase text) position).trans ?_
  have represents := engine.sorted_represents toLowerCase text
  constructor
  · rintro ⟨range, inside, covers⟩
    exact ⟨range, represents.own range inside, covers⟩
  · rintro ⟨range, inside, from', below⟩
    obtain ⟨held, listed, ⟨start, stop⟩, _⟩ := represents.kept range inside
    exact ⟨held, listed, by omega, by omega⟩

/-- A collected range lies in a replaced one, whose index is not above its own. -/
theorem merged_within : ∀ range ∈ engine.collected toLowerCase text,
    ∃ replaced ∈ engine.merged toLowerCase text, range.within replaced ∧ replaced.tag ≤ range.tag := by
  intro range inside
  obtain ⟨held, listed, ⟨start, stop⟩, least⟩ := (engine.sorted_represents toLowerCase text).kept range inside
  obtain ⟨replaced, merged, ⟨first, last⟩, least'⟩ :=
    TaggedRange.merge_within (engine.sorted_ascending toLowerCase text) held listed
  exact ⟨replaced, merged, ⟨by omega, by omega⟩, least'.trans least⟩

/-- The index of a replaced range is that of a collected range inside it. -/
theorem merged_found : ∀ replaced ∈ engine.merged toLowerCase text,
    ∃ range ∈ engine.collected toLowerCase text, range.within replaced ∧ range.tag = replaced.tag := by
  intro replaced inside
  obtain ⟨range, listed, holds⟩ :=
    TaggedRange.merge_found (engine.sorted_ascending toLowerCase text) replaced inside
  exact ⟨range, (engine.sorted_represents toLowerCase text).own range listed, holds⟩

theorem merged_proper : ∀ replaced ∈ engine.merged toLowerCase text,
    replaced.start < replaced.stop ∧ replaced.stop ≤ text.length := by
  have own := (engine.sorted_represents toLowerCase text).own
  intro replaced inside
  constructor
  · exact TaggedRange.merge_nonempty (fun range listed => (collected_proper range (own range listed)).1)
      replaced inside
  · exact TaggedRange.merge_bounded (engine.sorted_ascending toLowerCase text)
      (fun range listed => (collected_proper range (own range listed)).1)
      (fun range listed => (collected_proper range (own range listed)).2) replaced inside

/-- No other pattern that touches a replaced range comes before the one it is attributed to. -/
theorem merged_least : ∀ replaced ∈ engine.merged toLowerCase text,
    ∀ range ∈ engine.collected toLowerCase text, range.touches replaced → replaced.tag ≤ range.tag := by
  intro replaced inside range listed touching
  obtain ⟨outer, merged, within, least⟩ := merged_within range listed
  rwa [merged_separated.unique merged inside within touching] at least

/-- Without ranges the early return gives what the replacement would give. -/
theorem scrubWithCounts_eq : engine.scrubWithCounts toLowerCase text =
    { text := TaggedRange.splice redacted text 0 (engine.merged toLowerCase text)
      gitleaks := engine.count toLowerCase text .gitleaks
      builtIn := engine.count toLowerCase text .builtIn
      global := engine.count toLowerCase text .global
      project := engine.count toLowerCase text .project } := by
  rw [scrubWithCounts]
  split
  · next empty => simp [merged, sorted, count, empty, TaggedRange.merge, TaggedRange.splice]
  · rfl

end Merged

end ScrubEngine

namespace ScrubEngine

section Categories

/-- The thresholds give the category of the list that an index falls in. -/
theorem categoryOf_ranked {lists : PatternLists} {index : Nat} {ranked : RankedPattern}
    (useGitleaksPrefilter : Bool) (listed : lists.ranked[index]? = some ranked) :
    (construct lists useGitleaksPrefilter).categoryOf index = ranked.category := by
  simp only [PatternLists.ranked, List.getElem?_append, List.length_append, List.length_map,
    List.getElem?_map] at listed
  simp only [categoryOf, construct]
  split at listed
  · split at listed
    · split at listed
      · next first =>
          obtain ⟨_, _, rfl⟩ := Option.map_eq_some_iff.mp listed
          rw [if_pos first]
      · next first second =>
          obtain ⟨_, _, rfl⟩ := Option.map_eq_some_iff.mp listed
          rw [if_neg second, if_pos first]
    · next first second =>
        obtain ⟨_, _, rfl⟩ := Option.map_eq_some_iff.mp listed
        rw [if_neg (by omega), if_neg second, if_pos first]
  · next first =>
      obtain ⟨_, _, rfl⟩ := Option.map_eq_some_iff.mp listed
      rw [if_neg (by omega), if_neg (by omega), if_neg first]

variable {lists : PatternLists} {useGitleaksPrefilter : Bool} {toLowerCase : JsString → JsString} {text : JsString}

/-- Every collected range has the index of a pattern. -/
theorem collected_ranked : ∀ range ∈ (construct lists useGitleaksPrefilter).collected toLowerCase text,
    ∃ ranked, lists.ranked[range.tag]? = some ranked := by
  intro range inside
  rcases List.mem_append.mp inside with spanning | token
  · obtain ⟨pattern, listed, found⟩ := List.mem_flatMap.mp spanning
    obtain ⟨own, _, rfl⟩ := List.mem_map.mp found
    obtain ⟨⟨ranked, index⟩, ranks, compiled⟩ := List.mem_filterMap.mp (List.mem_filter.mp listed).1
    dsimp only at compiled
    split at compiled
    · obtain ⟨_, _, rfl⟩ := Option.map_eq_some_iff.mp compiled
      exact ⟨ranked, List.mk_mem_zipIdx_iff_getElem?.mp ranks⟩
    · cases compiled
  · obtain ⟨_, _, found⟩ := List.mem_flatMap.mp token
    obtain ⟨pattern, listed, matched⟩ := List.mem_flatMap.mp found
    obtain ⟨own, _, rfl⟩ := List.mem_map.mp matched
    obtain ⟨⟨ranked, index⟩, ranks, compiled⟩ := List.mem_filterMap.mp listed
    dsimp only at compiled
    split at compiled
    · cases compiled
    · obtain ⟨_, _, rfl⟩ := Option.map_eq_some_iff.mp compiled
      exact ⟨ranked, List.mk_mem_zipIdx_iff_getElem?.mp ranks⟩

theorem count_ranked (category : ScrubCategory) :
    (construct lists useGitleaksPrefilter).count toLowerCase text category =
      ((construct lists useGitleaksPrefilter).merged toLowerCase text).countP fun range =>
        (lists.ranked[range.tag]?).map RankedPattern.category = some category := by
  apply List.countP_congr
  intro replaced inside
  obtain ⟨range, listed, _, same⟩ := merged_found replaced inside
  obtain ⟨ranked, found⟩ := collected_ranked range listed
  rw [same] at found
  rw [categoryOf_ranked useGitleaksPrefilter found, found]
  simp

/-- Every replaced range has one category. -/
theorem countP_categories (category : TaggedRange Nat → ScrubCategory) (ranges : List (TaggedRange Nat)) :
    ranges.countP (fun range => category range = .gitleaks) + ranges.countP (fun range => category range = .builtIn) +
      ranges.countP (fun range => category range = .global) +
      ranges.countP (fun range => category range = .project) = ranges.length := by
  induction ranges with
  | nil => rfl
  | cons range rest ih =>
      simp only [List.countP_cons, List.length_cons, ← ih]
      cases category range <;> simp <;> omega

end Categories

end ScrubEngine

end Lcm.Scrub
