import Lcm.Scrub.ConsumingRanges

namespace Lcm.Scrub
open Text

/-- The matches of an ordinary global scan, which goes one position on behind an empty match. -/
def globalMatchesFrom (regex : Regex) (text : JsString) : Nat → Nat → List TextRange
  | 0, _ => []
  | fuel + 1, index =>
      match regex.exec text index with
      | none => []
      | some (start, stop) =>
          (start, stop) :: globalMatchesFrom regex text fuel (if start < stop then stop else start + 1)

def globalMatches (regex : Regex) (text : JsString) : List TextRange :=
  globalMatchesFrom regex text (text.length + 2) 0

/-- The position of an ordinary scan ascends, so more fuel finds no more matches. -/
theorem globalMatchesFrom_fuel {regex : Regex} {text : JsString} {fuel index : Nat} (more : Nat)
    (enough : text.length + 2 ≤ index + fuel) :
    globalMatchesFrom regex text (fuel + more) index = globalMatchesFrom regex text fuel index := by
  induction fuel generalizing index with
  | zero =>
      have missing : regex.exec text index = none := by
        rw [Regex.exec, Regex.execFrom_eq_none]
        omega
      cases more with
      | zero => rfl
      | succ more => simp [globalMatchesFrom, missing]
  | succ fuel ih =>
      rw [Nat.add_right_comm, globalMatchesFrom, globalMatchesFrom]
      split
      · rfl
      · next start stop found =>
          have bounds := Regex.exec_bounds found
          rw [ih]
          split <;> omega

theorem globalMatchesFrom_start {regex : Regex} {text : JsString} {fuel index : Nat} :
    ∀ range ∈ globalMatchesFrom regex text fuel index, index ≤ range.1 := by
  induction fuel generalizing index with
  | zero => simp [globalMatchesFrom]
  | succ fuel ih =>
      rw [globalMatchesFrom]
      split
      · simp
      · next start stop found =>
          have bounds := Regex.exec_bounds found
          intro range inside
          rcases List.mem_cons.mp inside with rfl | later
          · exact bounds.1
          · have above := ih range later
            split at above <;> omega

section Progress

variable {pattern : CompiledScrubPattern} {text : JsString} {tokens : List TextRange}

theorem foldl_max_le (values : List Nat) (initial : Nat) :
    initial ≤ values.foldl max initial ∧ ∀ value ∈ values, value ≤ values.foldl max initial := by
  induction values generalizing initial with
  | nil => simp
  | cons first rest ih =>
      obtain ⟨start, others⟩ := ih (max initial first)
      refine ⟨Nat.le_trans (Nat.le_max_left _ _) start, ?_⟩
      intro value inside
      rcases List.mem_cons.mp inside with rfl | later
      · exact Nat.le_trans (Nat.le_max_right _ _) start
      · exact others value later

/-- The scan goes on behind an empty match and behind every range collected for it. -/
theorem resumeAfter_above (pattern : CompiledScrubPattern) (text : JsString) (anchor : Nat)
    (ranges : List TextRange) :
    anchor < resumeAfter pattern text anchor ranges ∧
      ∀ range ∈ ranges ++ alternativeRanges pattern text anchor ranges,
        range.2 ≤ resumeAfter pattern text anchor ranges := by
  have bounds := foldl_max_le
    ((ranges ++ alternativeRanges pattern text anchor ranges).map Prod.snd) anchor
  rw [resumeAfter]
  constructor
  · split <;> omega
  · intro range inside
    have below := bounds.2 range.2 (List.mem_map_of_mem inside)
    split <;> omega

/-- The position of the scan strictly increases. -/
theorem scanRound_progress {state next : ScanState} {round : ScanRound}
    (ran : scanRound pattern text tokens state = some round) (goesOn : round.next = some next) :
    state.lastIndex < next.lastIndex := by
  obtain ⟨⟨start, stop⟩, found, rfl⟩ := Option.map_eq_some_iff.mp ran
  have bounds := Regex.exec_bounds found
  dsimp only at goesOn
  split at goesOn
  · cases goesOn
    dsimp only
    omega
  · split at goesOn
    · cases goesOn
    · cases goesOn
      have above := (resumeAfter_above pattern text start (anchorRanges pattern text tokens start)).1
      dsimp only
      omega

/-- A scan with fuel for the rest of the text comes to its end. -/
theorem scanRounds_ended {fuel : Nat} {state : ScanState} (positive : 0 < fuel)
    (enough : text.length + 2 ≤ state.lastIndex + fuel) :
    (scanRounds pattern text tokens fuel state).2 = true := by
  induction fuel generalizing state with
  | zero => omega
  | succ fuel ih =>
      rw [scanRounds]
      split
      · rfl
      · next round ran =>
          split
          · rfl
          · next next goesOn =>
              have progress := scanRound_progress ran goesOn
              obtain ⟨⟨start, stop⟩, found, _⟩ := Option.map_eq_some_iff.mp ran
              have bounds := Regex.exec_bounds found
              exact ih (by omega) (by omega)

end Progress

/-- A match that begins in the stretch that the scan skips behind an empty match lies in a range that is
collected for that empty match. -/
def Undisturbed (pattern : CompiledScrubPattern) (text : JsString) (tokens : List TextRange) : Prop :=
  ∀ anchor, (anchor, anchor) ∈ globalMatches pattern.regex text →
    ∀ start stop, (start, stop) ∈ globalMatches pattern.regex text → anchor < start → start < stop →
      let ranges := anchorRanges pattern text tokens anchor
      ranges ≠ [] ∧ (start < resumeAfter pattern text anchor ranges →
        ∃ range ∈ ranges ++ alternativeRanges pattern text anchor ranges, range.1 ≤ start ∧ stop ≤ range.2)

section Coverage

variable {pattern : CompiledScrubPattern} {text : JsString} {tokens : List TextRange}

/-- The ranges that the rest of a scan collects, with those collected before. -/
def Covers (collected : List TextRange) (start stop : Nat) : Prop :=
  ∃ range ∈ collected, range.1 ≤ start ∧ stop ≤ range.2

theorem Covers.append {first second : List TextRange} {start stop : Nat} (covers : Covers first start stop) :
    Covers (first ++ second) start stop := by
  obtain ⟨range, inside, holds⟩ := covers
  exact ⟨range, List.mem_append_left _ inside, holds⟩

/-- A round of the scan for a match that is not empty. -/
theorem scanRounds_match {fuel start stop : Nat} {state : ScanState}
    (found : pattern.regex.exec text state.lastIndex = some (start, stop)) (nonempty : start < stop) :
    (scanRounds pattern text tokens (fuel + 1) state).1.flatMap ScanRound.collected =
      (start, stop) ::
        (scanRounds pattern text tokens fuel { state with lastIndex := stop }).1.flatMap ScanRound.collected := by
  simp [scanRounds, scanRound, found, nonempty]

/-- A round of the scan for an empty match in a text with tokens. -/
theorem scanRounds_empty {fuel anchor : Nat} {state : ScanState}
    (found : pattern.regex.exec text state.lastIndex = some (anchor, anchor))
    (tokened : anchorRanges pattern text tokens anchor ≠ []) :
    (scanRounds pattern text tokens (fuel + 1) state).1.flatMap ScanRound.collected =
      ((anchorRanges pattern text tokens anchor).filter fun range => range ∉ state.previousZeroRanges) ++
        alternativeRanges pattern text anchor (anchorRanges pattern text tokens anchor) ++
          (scanRounds pattern text tokens fuel
            ⟨resumeAfter pattern text anchor (anchorRanges pattern text tokens anchor),
              anchorRanges pattern text tokens anchor⟩).1.flatMap ScanRound.collected := by
  simp [scanRounds, scanRound, found, tokened]

/-- The scan covers what an ordinary scan reports. The induction is on the ordinary scan, whose matches
before the position of the scan are covered already. -/
theorem scanRounds_covers (undisturbed : Undisturbed pattern text tokens) {ordinary fuel index : Nat}
    {state : ScanState} {before : List TextRange} (behind : index ≤ state.lastIndex)
    (positive : 0 < fuel) (enough : text.length + 2 ≤ state.lastIndex + fuel)
    (listed : ∀ range ∈ globalMatchesFrom pattern.regex text ordinary index,
      range ∈ globalMatches pattern.regex text)
    (kept : ∀ range ∈ state.previousZeroRanges, range ∈ before)
    (skipped : ∀ start stop, (start, stop) ∈ globalMatches pattern.regex text → index ≤ start →
      start < state.lastIndex → start < stop →
        ∃ range ∈ before, range.1 ≤ start ∧ stop ≤ range.2 ∧ range.2 ≤ state.lastIndex) :
    ∀ start stop, (start, stop) ∈ globalMatchesFrom pattern.regex text ordinary index → start < stop →
      Covers (before ++ (scanRounds pattern text tokens fuel state).1.flatMap ScanRound.collected) start stop := by
  induction ordinary generalizing fuel index state before with
  | zero => simp [globalMatchesFrom]
  | succ ordinary ih =>
      rw [globalMatchesFrom] at listed ⊢
      cases found : pattern.regex.exec text index with
      | none => simp
      | some range =>
          obtain ⟨first, last⟩ := range
          have bounds := Regex.exec_bounds found
          simp only [found] at listed ⊢
          have reported := listed _ (List.mem_cons_self ..)
          have rest := fun range inside => listed range (List.mem_cons_of_mem _ inside)
          intro start stop inside nonempty
          by_cases ahead : first < state.lastIndex
          · -- the scan has skipped this match
            rcases List.mem_cons.mp inside with same | later
            · cases same
              obtain ⟨range, member, starts, stops, _⟩ := skipped first last reported bounds.1 ahead nonempty
              exact Covers.append ⟨range, member, starts, stops⟩
            · refine ih ?_ positive enough rest kept ?_ start stop later nonempty
              · split
                · next wide =>
                    obtain ⟨range, _, _, stops, within⟩ := skipped first last reported bounds.1 ahead wide
                    omega
                · omega
              · intro other stop member above
                apply skipped other stop member
                split at above <;> omega
          · -- both scans find this match
            have same := Regex.exec_skip found behind (Nat.le_of_not_lt ahead)
            obtain ⟨fuel, rfl⟩ := Nat.exists_eq_succ_of_ne_zero (Nat.pos_iff_ne_zero.mp positive)
            by_cases wide : first < last
            · rw [Nat.succ_eq_add_one, scanRounds_match same wide]
              rw [if_pos wide] at inside rest
              have covered : Covers (before ++ [(first, last)] ++ (scanRounds pattern text tokens fuel
                  { state with lastIndex := last }).1.flatMap ScanRound.collected) start stop := by
                rcases List.mem_cons.mp inside with same | later
                · cases same
                  exact Covers.append ⟨(first, last), by simp, Nat.le_refl _, Nat.le_refl _⟩
                · refine ih (Nat.le_refl _) ?_ ?_ rest ?_ ?_ start stop later nonempty
                  · omega
                  · dsimp only
                    omega
                  · exact fun range member => List.mem_append_left _ (kept range member)
                  · exact fun other _ _ above below => absurd below (Nat.not_lt.mpr above)
              rwa [List.append_assoc] at covered
            · obtain rfl : first = last := by omega
              rw [if_neg wide] at inside rest
              have later : (start, stop) ∈ globalMatchesFrom pattern.regex text ordinary (first + 1) := by
                rcases List.mem_cons.mp inside with same | later
                · cases same
                  omega
                · exact later
              by_cases tokened : anchorRanges pattern text tokens first = []
              · have above := globalMatchesFrom_start _ later
                exact absurd tokened (undisturbed first reported start stop (rest _ later) above nonempty).1
              · rw [Nat.succ_eq_add_one, scanRounds_empty same tokened]
                obtain ⟨progress, reached⟩ := resumeAfter_above pattern text first
                  (anchorRanges pattern text tokens first)
                have fresh : ∀ range ∈ anchorRanges pattern text tokens first,
                    range ∈ before ++ ((anchorRanges pattern text tokens first).filter
                      fun range => range ∉ state.previousZeroRanges) := by
                  intro range member
                  by_cases old : range ∈ state.previousZeroRanges
                  · exact List.mem_append_left _ (kept range old)
                  · exact List.mem_append_right _ (List.mem_filter.mpr ⟨member, by simpa using old⟩)
                have covered : Covers (before ++
                    ((anchorRanges pattern text tokens first).filter
                        (fun range => range ∉ state.previousZeroRanges) ++
                      alternativeRanges pattern text first (anchorRanges pattern text tokens first)) ++
                    (scanRounds pattern text tokens fuel
                      ⟨resumeAfter pattern text first (anchorRanges pattern text tokens first),
                        anchorRanges pattern text tokens first⟩).1.flatMap ScanRound.collected) start stop := by
                  refine ih progress (by omega) ?_ rest ?_ ?_ start stop later nonempty
                  · dsimp only
                    omega
                  · intro range member
                    rw [← List.append_assoc]
                    exact List.mem_append_left _ (fresh range member)
                  · intro other last member above below wide
                    obtain ⟨range, collected, starts, stops⟩ :=
                      (undisturbed first reported other last member above wide).2 below
                    refine ⟨range, ?_, starts, stops, reached range collected⟩
                    rw [← List.append_assoc]
                    rcases List.mem_append.mp collected with own | alternative
                    · exact List.mem_append_left _ (fresh range own)
                    · exact List.mem_append_right _ alternative
                rwa [List.append_assoc] at covered

end Coverage

/-- `(?=[xy])(?:y zzz)?` -/
def sampleRegex : Regex where
  matchAt text index :=
    if (text.drop index).head?.any fun unit => unit == 120 || unit == 121 then
      some (if [121, 32, 122, 122, 122].isPrefixOf (text.drop index) then index + 5 else index)
    else none
  bounds := by
    intro text index stop found
    split at found
    · next seen =>
        cases found
        have inside : index < text.length := by
          by_contra outside
          rw [List.drop_eq_nil_of_le (Nat.le_of_not_lt outside)] at seen
          cases seen
        split
        · next prefixed =>
            have long := (List.isPrefixOf_iff_prefix.mp prefixed).length_le
            simp only [List.length_drop, List.length_cons, List.length_nil] at long
            omega
        · omega
    · cases found

def samplePattern : CompiledScrubPattern :=
  ⟨⟨[], false, false, [⟨fun text index =>
    if index = 0 ∧ text.head?.any fun unit => unit == 120 || unit == 121 then some 1 else none, by
      intro text index stop found
      split at found
      · next seen =>
          cases found
          cases text with
          | nil => cases seen.2
          | cons unit rest => simp [seen.1]
      · cases found⟩], false⟩, sampleRegex⟩

end Lcm.Scrub
