import Mathlib.Data.List.Basic
import Mathlib.Order.MinMax
import Mathlib.Tactic.Common

/-- The positions from a start up to a stop, with the tag of whoever found them. -/
structure TaggedRange (Tag : Type*) where
  start : Nat
  stop : Nat
  tag : Tag
  deriving DecidableEq

namespace TaggedRange

variable {Tag : Type*}

def covers (range : TaggedRange Tag) (position : Nat) : Prop :=
  range.start ≤ position ∧ position < range.stop

instance (range : TaggedRange Tag) (position : Nat) : Decidable (range.covers position) :=
  inferInstanceAs (Decidable (_ ∧ _))

/-- The first range lies inside the second one. -/
def within (inner outer : TaggedRange Tag) : Prop :=
  outer.start ≤ inner.start ∧ inner.stop ≤ outer.stop

/-- Two ranges that overlap or are adjacent. -/
def touches (first second : TaggedRange Tag) : Prop :=
  first.start ≤ second.stop ∧ second.start ≤ first.stop

/-- Some range covers the position. -/
def covered (ranges : List (TaggedRange Tag)) (position : Nat) : Prop :=
  ∃ range ∈ ranges, range.covers position

instance (ranges : List (TaggedRange Tag)) : DecidablePred (covered ranges) :=
  fun position => inferInstanceAs (Decidable (∃ range ∈ ranges, range.covers position))

@[simp] theorem covered_nil (position : Nat) : ¬ covered ([] : List (TaggedRange Tag)) position := by
  simp [covered]

@[simp] theorem covered_cons (range : TaggedRange Tag) (ranges : List (TaggedRange Tag)) (position : Nat) :
    covered (range :: ranges) position ↔ range.covers position ∨ covered ranges position := by
  simp [covered]

/-- Ranges in ascending order with a gap between any two. -/
def Separated (ranges : List (TaggedRange Tag)) : Prop :=
  ranges.Pairwise fun first second => first.stop < second.start

/-- The order in which ranges are merged. -/
def Ascending (ranges : List (TaggedRange Tag)) : Prop :=
  ranges.Pairwise fun first second => first.start ≤ second.start

theorem Ascending.joined {current next : TaggedRange Tag} {rest : List (TaggedRange Tag)}
    (ascending : Ascending (current :: next :: rest)) (stop : Nat) (tag : Tag) :
    Ascending (⟨current.start, stop, tag⟩ :: rest) := by
  obtain ⟨first, later⟩ := List.pairwise_cons.mp ascending
  refine List.pairwise_cons.mpr ⟨?_, (List.pairwise_cons.mp later).2⟩
  intro range inside
  exact first range (List.mem_cons_of_mem _ inside)

section Merge

variable [LinearOrder Tag]

/-- Ranges in the order of their starts are merged while they overlap or are adjacent. The least tag wins. -/
def mergeFrom (current : TaggedRange Tag) : List (TaggedRange Tag) → List (TaggedRange Tag)
  | [] => [current]
  | next :: rest =>
      if next.start ≤ current.stop then
        mergeFrom ⟨current.start, max current.stop next.stop, min current.tag next.tag⟩ rest
      else current :: mergeFrom next rest

def merge : List (TaggedRange Tag) → List (TaggedRange Tag)
  | [] => []
  | first :: rest => mergeFrom first rest

/-- The merged ranges start at or behind the first one, which starts the first merged range. -/
theorem mergeFrom_start {current : TaggedRange Tag} {rest : List (TaggedRange Tag)}
    (ascending : Ascending (current :: rest)) : ∀ merged ∈ mergeFrom current rest,
      current.start ≤ merged.start := by
  induction rest generalizing current with
  | nil => simp [mergeFrom]
  | cons next rest ih =>
      rw [mergeFrom]
      split
      · exact ih (ascending.joined _ _)
      · obtain ⟨first, later⟩ := List.pairwise_cons.mp ascending
        intro merged inside
        rcases List.mem_cons.mp inside with rfl | inside
        · exact Nat.le_refl _
        · exact (first next (List.mem_cons_self ..)).trans (ih later merged inside)

theorem mergeFrom_separated {current : TaggedRange Tag} {rest : List (TaggedRange Tag)}
    (ascending : Ascending (current :: rest)) : Separated (mergeFrom current rest) := by
  induction rest generalizing current with
  | nil => exact List.pairwise_singleton _ _
  | cons next rest ih =>
      rw [mergeFrom]
      split
      · exact ih (ascending.joined _ _)
      · next apart =>
          have later := (List.pairwise_cons.mp ascending).2
          refine List.pairwise_cons.mpr ⟨?_, ih later⟩
          intro merged inside
          have behind := mergeFrom_start later merged inside
          omega

/-- Merging covers the same positions. -/
theorem covered_mergeFrom {current : TaggedRange Tag} {rest : List (TaggedRange Tag)}
    (ascending : Ascending (current :: rest)) (position : Nat) :
    covered (mergeFrom current rest) position ↔ covered (current :: rest) position := by
  induction rest generalizing current with
  | nil => rfl
  | cons next rest ih =>
      rw [mergeFrom]
      split
      · next touching =>
          have ordered := (List.pairwise_cons.mp ascending).1 next (List.mem_cons_self ..)
          rw [ih (ascending.joined _ _), covered_cons, covered_cons, covered_cons, ← or_assoc]
          apply or_congr_left
          simp only [covers]
          omega
      · rw [covered_cons, ih (List.pairwise_cons.mp ascending).2]
        exact (covered_cons current (next :: rest) position).symm

/-- The range that a merged one starts with keeps its place in it. -/
theorem mergeFrom_keeps {current : TaggedRange Tag} (rest : List (TaggedRange Tag)) :
    ∃ merged ∈ mergeFrom current rest, current.within merged ∧ merged.tag ≤ current.tag := by
  induction rest generalizing current with
  | nil => exact ⟨current, List.mem_singleton_self _, ⟨le_refl _, le_refl _⟩, le_refl _⟩
  | cons next rest ih =>
      rw [mergeFrom]
      split
      · obtain ⟨merged, inside, kept, least⟩ :=
          @ih ⟨current.start, max current.stop next.stop, min current.tag next.tag⟩
        refine ⟨merged, inside, ⟨kept.1, (Nat.le_max_left _ _).trans kept.2⟩, ?_⟩
        exact least.trans (min_le_left _ _)
      · exact ⟨current, List.mem_cons_self .., ⟨le_refl _, le_refl _⟩, le_refl _⟩

/-- Every range lies in a merged one, whose tag is not above its own. -/
theorem mergeFrom_within {current : TaggedRange Tag} {rest : List (TaggedRange Tag)}
    (ascending : Ascending (current :: rest)) : ∀ range ∈ current :: rest,
      ∃ merged ∈ mergeFrom current rest, range.within merged ∧ merged.tag ≤ range.tag := by
  induction rest generalizing current with
  | nil =>
      intro range inside
      rw [List.mem_singleton.mp inside]
      exact mergeFrom_keeps []
  | cons next rest ih =>
      intro range inside
      rcases List.mem_cons.mp inside with rfl | later
      · exact mergeFrom_keeps _
      rw [mergeFrom]
      split
      · next touching =>
          rcases List.mem_cons.mp later with rfl | later
          · have ordered := (List.pairwise_cons.mp ascending).1 range (List.mem_cons_self ..)
            obtain ⟨merged, inside, kept, least⟩ := @mergeFrom_keeps _ _
              ⟨current.start, max current.stop range.stop, min current.tag range.tag⟩ rest
            refine ⟨merged, inside, ⟨kept.1.trans ordered, (Nat.le_max_right _ _).trans kept.2⟩, ?_⟩
            exact least.trans (min_le_right _ _)
          · exact ih (ascending.joined _ _) range (List.mem_cons_of_mem _ later)
      · obtain ⟨merged, inside, kept⟩ := ih (List.pairwise_cons.mp ascending).2 range later
        exact ⟨merged, List.mem_cons_of_mem _ inside, kept⟩

/-- The tag of a merged range is the tag of a range inside it. -/
theorem mergeFrom_found {current : TaggedRange Tag} {rest : List (TaggedRange Tag)}
    (ascending : Ascending (current :: rest)) : ∀ merged ∈ mergeFrom current rest,
      ∃ range ∈ current :: rest, range.within merged ∧ range.tag = merged.tag := by
  induction rest generalizing current with
  | nil =>
      intro merged inside
      rw [mergeFrom, List.mem_singleton] at inside
      exact ⟨merged, by simp [inside], ⟨le_refl _, le_refl _⟩, rfl⟩
  | cons next rest ih =>
      intro merged inside
      rw [mergeFrom] at inside
      have ordered := (List.pairwise_cons.mp ascending).1 next (List.mem_cons_self ..)
      split at inside
      · obtain ⟨range, listed, kept, tag⟩ := ih (ascending.joined _ _) merged inside
        rcases List.mem_cons.mp listed with rfl | listed
        · have inner : current.within merged ∧ next.within merged := by
            simp only [within] at kept ⊢
            omega
          rcases min_choice current.tag next.tag with first | second
          · exact ⟨current, by simp, inner.1, first.symm.trans tag⟩
          · exact ⟨next, by simp, inner.2, second.symm.trans tag⟩
        · exact ⟨range, by simp [listed], kept, tag⟩
      · rcases List.mem_cons.mp inside with rfl | inside
        · exact ⟨merged, by simp, ⟨le_refl _, le_refl _⟩, rfl⟩
        · obtain ⟨range, listed, kept⟩ := ih (List.pairwise_cons.mp ascending).2 merged inside
          exact ⟨range, List.mem_cons_of_mem _ listed, kept⟩

theorem mergeFrom_nonempty {current : TaggedRange Tag} {rest : List (TaggedRange Tag)}
    (nonempty : ∀ range ∈ current :: rest, range.start < range.stop) :
    ∀ merged ∈ mergeFrom current rest, merged.start < merged.stop := by
  induction rest generalizing current with
  | nil => exact nonempty
  | cons next rest ih =>
      rw [mergeFrom]
      have first := nonempty current (by simp)
      split
      · apply ih
        intro range inside
        rcases List.mem_cons.mp inside with rfl | inside
        · simp only [lt_sup_iff]
          exact .inl first
        · exact nonempty range (by simp [inside])
      · intro merged inside
        rcases List.mem_cons.mp inside with rfl | inside
        · exact first
        · exact ih (fun range listed => nonempty range (by simp [listed])) merged inside

theorem merge_separated {ranges : List (TaggedRange Tag)} (ascending : Ascending ranges) :
    Separated (merge ranges) := by
  cases ranges with
  | nil => exact List.Pairwise.nil
  | cons first rest => exact mergeFrom_separated ascending

theorem covered_merge {ranges : List (TaggedRange Tag)} (ascending : Ascending ranges) (position : Nat) :
    covered (merge ranges) position ↔ covered ranges position := by
  cases ranges with
  | nil => rfl
  | cons first rest => exact covered_mergeFrom ascending position

theorem merge_within {ranges : List (TaggedRange Tag)} (ascending : Ascending ranges) :
    ∀ range ∈ ranges, ∃ merged ∈ merge ranges, range.within merged ∧ merged.tag ≤ range.tag := by
  cases ranges with
  | nil => exact nofun
  | cons first rest => exact mergeFrom_within ascending

theorem merge_found {ranges : List (TaggedRange Tag)} (ascending : Ascending ranges) :
    ∀ merged ∈ merge ranges, ∃ range ∈ ranges, range.within merged ∧ range.tag = merged.tag := by
  cases ranges with
  | nil => exact nofun
  | cons first rest => exact mergeFrom_found ascending

theorem merge_nonempty {ranges : List (TaggedRange Tag)} (nonempty : ∀ range ∈ ranges, range.start < range.stop) :
    ∀ merged ∈ merge ranges, merged.start < merged.stop := by
  cases ranges with
  | nil => exact nofun
  | cons first rest => exact mergeFrom_nonempty nonempty

/-- The last position of a merged range is covered, so a bound for the ranges bounds the merged ones. -/
theorem merge_bounded {ranges : List (TaggedRange Tag)} (ascending : Ascending ranges)
    (nonempty : ∀ range ∈ ranges, range.start < range.stop) {bound : Nat}
    (bounded : ∀ range ∈ ranges, range.stop ≤ bound) : ∀ merged ∈ merge ranges, merged.stop ≤ bound := by
  intro merged inside
  have wide := merge_nonempty nonempty merged inside
  have last : covered (merge ranges) (merged.stop - 1) := ⟨merged, inside, by omega, by omega⟩
  obtain ⟨range, listed, _, below⟩ := (covered_merge ascending _).mp last
  have bound := bounded range listed
  omega

end Merge

/-- A range inside one of several separated ranges touches no other one. -/
theorem Separated.unique {ranges : List (TaggedRange Tag)} (separated : Separated ranges)
    {range outer other : TaggedRange Tag} (outerListed : outer ∈ ranges) (otherListed : other ∈ ranges)
    (inside : range.within outer) (touching : range.touches other) : outer = other := by
  induction ranges with
  | nil => cases outerListed
  | cons first rest ih =>
      obtain ⟨apart, later⟩ := List.pairwise_cons.mp separated
      simp only [within, touches] at inside touching
      rcases List.mem_cons.mp outerListed with rfl | outerLater
      · rcases List.mem_cons.mp otherListed with rfl | otherLater
        · rfl
        · have gap := apart other otherLater
          omega
      · rcases List.mem_cons.mp otherListed with rfl | otherLater
        · have gap := apart outer outerLater
          omega
        · exact ih later outerLater otherLater

section Redaction

variable {Symbol : Type*} (token : List Symbol)

/-- A text with one token in the place of every stretch of hidden positions. The flag tells whether the
position before is hidden. -/
def redactFrom (hidden : Nat → Prop) [DecidablePred hidden] : Nat → Bool → List Symbol → List Symbol
  | _, _, [] => []
  | position, inside, symbol :: rest =>
      if hidden position then
        (if inside then [] else token) ++ redactFrom hidden (position + 1) true rest
      else symbol :: redactFrom hidden (position + 1) false rest

/-- A token in the place of each range, with the text between them. -/
def splice (text : List Symbol) : Nat → List (TaggedRange Tag) → List Symbol
  | position, [] => text.drop position
  | position, range :: rest =>
      (text.drop position).take (range.start - position) ++ token ++ splice text range.stop rest

variable {token}

theorem redactFrom_congr {first second : Nat → Prop} [DecidablePred first] [DecidablePred second]
    {position : Nat} (same : ∀ later, position ≤ later → (first later ↔ second later)) (inside : Bool)
    (text : List Symbol) :
    redactFrom token first position inside text = redactFrom token second position inside text := by
  induction text generalizing position inside with
  | nil => rfl
  | cons symbol rest ih =>
      have here := same position (Nat.le_refl _)
      have later : ∀ flag, redactFrom token first (position + 1) flag rest =
          redactFrom token second (position + 1) flag rest :=
        fun flag => ih (fun other above => same other (by omega)) flag
      simp only [redactFrom, here, later]

/-- A stretch of positions that are not hidden stays as it is. -/
theorem redactFrom_plain {hidden : Nat → Prop} [DecidablePred hidden] {position : Nat} (count : Nat)
    (plain : ∀ other, position ≤ other → other < position + count → ¬ hidden other) (text : List Symbol) :
    redactFrom token hidden position false text =
      text.take count ++ redactFrom token hidden (position + count) false (text.drop count) := by
  induction count generalizing position text with
  | zero => simp
  | succ count ih =>
      cases text with
      | nil => simp [redactFrom]
      | cons symbol rest =>
          have here := plain position (Nat.le_refl _) (by omega)
          have later : redactFrom token hidden (position + 1) false rest =
              rest.take count ++ redactFrom token hidden (position + 1 + count) false (rest.drop count) :=
            ih (fun other above below => plain other (by omega) (by omega)) rest
          simp only [redactFrom, here, ↓reduceIte, later, List.take_succ_cons, List.drop_succ_cons,
            List.cons_append]
          rw [Nat.add_right_comm, Nat.add_assoc]

/-- A stretch of hidden positions adds nothing to the token before it. -/
theorem redactFrom_hidden {hidden : Nat → Prop} [DecidablePred hidden] {position : Nat} (count : Nat)
    (covers : ∀ other, position ≤ other → other < position + count → hidden other) (text : List Symbol) :
    redactFrom token hidden position true text =
      redactFrom token hidden (position + count) true (text.drop count) := by
  induction count generalizing position text with
  | zero => simp
  | succ count ih =>
      cases text with
      | nil => simp [redactFrom]
      | cons symbol rest =>
          have here := covers position (Nat.le_refl _) (by omega)
          have later : redactFrom token hidden (position + 1) true rest =
              redactFrom token hidden (position + 1 + count) true (rest.drop count) :=
            ih (fun other above below => covers other (by omega) (by omega)) rest
          simp only [redactFrom, here, ↓reduceIte, later, List.nil_append, List.drop_succ_cons]
          rw [Nat.add_right_comm, Nat.add_assoc]

/-- Behind a hidden stretch the flag no longer matters. -/
theorem redactFrom_leaves {hidden : Nat → Prop} [DecidablePred hidden] {position : Nat}
    (plain : ¬ hidden position) (text : List Symbol) :
    redactFrom token hidden position true text = redactFrom token hidden position false text := by
  cases text with
  | nil => rfl
  | cons symbol rest => simp [redactFrom, plain]

/-- A token in the place of each separated range hides exactly the positions that they cover. -/
theorem splice_eq {text : List Symbol} {position : Nat} {ranges : List (TaggedRange Tag)}
    (separated : Separated ranges) (nonempty : ∀ range ∈ ranges, range.start < range.stop)
    (bounded : ∀ range ∈ ranges, range.stop ≤ text.length) (behind : ∀ range ∈ ranges, position ≤ range.start) :
    splice token text position ranges =
      redactFrom token (covered ranges) position false (text.drop position) := by
  induction ranges generalizing position with
  | nil =>
      have plain : redactFrom token (covered ([] : List (TaggedRange Tag))) position false
          (text.drop position) = _ :=
        redactFrom_plain (text.drop position).length (fun _ _ _ => covered_nil _) (text.drop position)
      rw [plain, List.take_length, List.drop_length]
      simp [splice, redactFrom]
  | cons range rest ih =>
      obtain ⟨apart, later⟩ := List.pairwise_cons.mp separated
      have first := behind range (by simp)
      have wide := nonempty range (by simp)
      have bound := bounded range (by simp)
      have behindRest : ∀ other, other ≤ range.stop → ¬ covered rest other := by
        rintro other below ⟨next, inside, starts, _⟩
        have gap := apart next inside
        omega
      have before : ∀ other, position ≤ other → other < position + (range.start - position) →
          ¬ covered (range :: rest) other := by
        intro other _ below
        rw [covered_cons]
        rintro (⟨starts, _⟩ | later)
        · omega
        · exact behindRest other (by omega) later
      have started : position + (range.start - position) = range.start := by omega
      have head : text.drop range.start = text[range.start] :: text.drop (range.start + 1) :=
        List.drop_eq_getElem_cons (by omega)
      have here : covered (range :: rest) range.start := ⟨range, by simp, Nat.le_refl _, wide⟩
      have hides : ∀ other, range.start + 1 ≤ other → other < range.start + 1 + (range.stop - range.start - 1) →
          covered (range :: rest) other := fun other above below => ⟨range, by simp, by omega, by omega⟩
      have stopped : range.start + 1 + (range.stop - range.start - 1) = range.stop := by omega
      have open' : ¬ covered (range :: rest) range.stop := by
        rw [covered_cons]
        rintro (⟨_, below⟩ | later)
        · omega
        · exact behindRest _ (Nat.le_refl _) later
      have same : ∀ other, range.stop ≤ other → (covered (range :: rest) other ↔ covered rest other) := by
        intro other above
        rw [covered_cons, or_iff_right]
        rintro ⟨_, below⟩
        omega
      rw [redactFrom_plain _ before, List.drop_drop, started, head]
      simp only [redactFrom, here, ↓reduceIte]
      rw [redactFrom_hidden _ hides, List.drop_drop, stopped, redactFrom_leaves open', redactFrom_congr same,
        ← ih later (fun next inside => nonempty next (by simp [inside]))
          (fun next inside => bounded next (by simp [inside])) fun next inside => (apart next inside).le]
      simp [splice]

end Redaction

end TaggedRange
