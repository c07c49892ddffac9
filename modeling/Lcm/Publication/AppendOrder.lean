import Lcm.Publication.AppendAdmission

namespace Lcm.Publication

variable {state before after : Admission} {frame next : Frame} {index : Nat} {reading : AdmissionReading}
  {ready : Promise Nat → Bool}

/-- How one step may change a frame. -/
structure Frame.Moves (ready : Promise Nat → Bool) (before after : Frame) : Prop where
  holds : after.holdsPublicationAdmission = before.holdsPublicationAdmission
  predecessor : after.predecessor = before.predecessor
  finished : before.ended = true → after.ended = true
  behind : after.previousSettled = true ∨ after.started = true →
    (before.previousSettled = true ∨ before.started = true) ∨ ready before.predecessor = true

namespace Frame

theorem Moves.rfl : Moves ready frame frame :=
  ⟨Eq.refl _, Eq.refl _, id, Or.inl⟩

theorem Moves.toPhase {phase : FramePhase} (unended : frame.phase ≠ .ended)
    (behind : started { frame with phase := phase } = true →
      (frame.previousSettled = true ∨ frame.started = true) ∨ ready frame.predecessor = true) :
    Moves ready frame { frame with phase := phase } where
  holds := Eq.refl _
  predecessor := Eq.refl _
  finished finished := absurd (of_decide_eq_true finished) unended
  behind := by
    rintro (noticed | started)
    · exact .inl (.inl noticed)
    · exact behind started

theorem resumed_moves (resumed : frame.resumed reading = some next) : Moves ready frame next := by
  unfold Frame.resumed at resumed
  split at resumed
  · cases resumed
  · next installed =>
      have unended : frame.phase ≠ .ended := by
        rw [not_not.mp installed]
        decide
      split at resumed
      · next settled =>
          cases resumed
          exact .toPhase unended fun _ => .inl (.inl settled)
      · cases resumed
        apply Moves.toPhase unended
        split <;> exact fun started => Bool.noConfusion started

theorem woken_moves (woken : frame.woken ready reading = some next) : Moves ready frame next := by
  unfold Frame.woken at woken
  split at woken
  · next waiting =>
      cases woken
      apply Moves.toPhase
      · rw [waiting.1]
        decide
      · exact fun _ => .inr waiting.2
  · cases woken

theorem gaveUp_moves {aborted : Bool} (gaveUp : frame.gaveUp aborted = some next) :
    Moves ready frame next := by
  simp only [Frame.gaveUp, Option.ite_none_right_eq_some] at gaveUp
  obtain ⟨waiting, gaveUp⟩ := gaveUp
  cases gaveUp
  apply Moves.toPhase
  · rw [waiting.1]
    decide
  · exact fun started => Bool.noConfusion started

theorem noticed_moves (noticed : frame.noticed ready = some next) : Moves ready frame next := by
  unfold Frame.noticed at noticed
  split at noticed
  · next settled =>
      cases noticed
      exact ⟨Eq.refl _, Eq.refl _, id, fun _ => .inr settled⟩
  · cases noticed

/-- A frame in its attempts was behind its predecessor before. -/
theorem Moves.ofStarted {phase : FramePhase} (started : frame.started = true) :
    Moves ready frame { frame with phase := phase } := by
  apply Moves.toPhase
  · intro finished
    rw [Frame.started, finished] at started
    cases started
  · exact fun _ => .inl (.inr started)

theorem admitted_moves {token : LockToken} (admitted : frame.admitted token = some next) :
    Moves ready frame next := by
  unfold Frame.admitted at admitted
  split at admitted
  · next attempting =>
      cases admitted
      apply Moves.ofStarted
      rw [started, attempting.1]
  · cases admitted

theorem inEffects_moves (effects : frame.inEffects reading = some next) : Moves ready frame next := by
  unfold Frame.inEffects at effects
  split at effects
  · next token entered =>
      split at effects
      · cases effects
      · cases effects
        apply Moves.ofStarted
        rw [started, entered]
  · cases effects

theorem failed_moves {contention : Bool} (failed : frame.failed contention reading = some next) :
    Moves ready frame next := by
  unfold Frame.failed at failed
  split at failed
  · next attempting =>
      cases failed
      apply Moves.ofStarted
      rw [started, attempting]
  · next token entered =>
      cases failed
      apply Moves.ofStarted
      rw [started, entered]
  · cases failed

theorem retried_moves (retried : frame.retried reading = some next) : Moves ready frame next := by
  unfold Frame.retried at retried
  split at retried
  · next retrying =>
      cases retried
      apply Moves.ofStarted
      rw [started, retrying]
  · cases retried

theorem returned_moves (returned : frame.returned = some next) : Moves ready frame next := by
  unfold Frame.returned at returned
  split at returned
  · next token callback =>
      cases returned
      apply Moves.ofStarted
      rw [started, callback]
  · cases returned

theorem finished_moves (finished : frame.finished = some next) : Moves ready frame next := by
  unfold Frame.finished at finished
  split at finished
  · next token leaving =>
      cases finished
      apply Moves.ofStarted
      rw [started, leaving]
  · cases finished

end Frame

namespace Admission

/-- The full tail of the home, resolved where there is none. -/
def tail (state : Admission) : Promise Nat :=
  (state.appendBarrierTail.map AppendBarrierTail.tail).getD .resolved

/-- The latest admitted frame of the home, resolved where there is none. -/
def admittedTail (state : Admission) : Promise Nat :=
  (state.appendBarrierTail.bind AppendBarrierTail.latestAdmittedFrame).getD .resolved

/-- What a step that installs no frame may change. -/
structure Advances (before after : Admission) : Prop where
  length : after.frames.length = before.frames.length
  frames : ∀ (index : Nat) (next : Frame), after.frames[index]? = some next →
    ∃ frame : Frame, before.frames[index]? = some frame ∧ frame.Moves before.isSettled next
  settled : before.settled ⊆ after.settled
  closed : Promise.Closed before.ended before.settled → Promise.Closed before.ended after.settled
  entry : after.appendBarrierTail = before.appendBarrierTail ∨
    after.appendBarrierTail = none ∧
      ∃ entry, before.appendBarrierTail = some entry ∧ before.isSettled entry.tail = true

/-- Two states with one queue. -/
def SameQueue (first second : Admission) : Prop :=
  second.frames = first.frames ∧ second.settled = first.settled ∧
    second.appendBarrierTail = first.appendBarrierTail

theorem SameQueue.advances (same : before.SameQueue after) : before.Advances after where
  length := congrArg List.length same.1
  frames index next found := by
    rw [same.1] at found
    exact ⟨next, found, Frame.Moves.rfl⟩
  settled := by
    rw [same.2.1]
    exact List.Subset.refl _
  closed := by
    rw [same.2.1]
    exact id
  entry := .inl same.2.2

theorem onFrame_advances {change : Frame → Option Frame}
    (moves : ∀ frame next, change frame = some next → frame.Moves before.isSettled next)
    (changed : before.onFrame index change = some after) : before.Advances after := by
  simp only [onFrame, Option.map_eq_some_iff, Option.bind_eq_some_iff] at changed
  obtain ⟨next, ⟨frame, found, step⟩, rfl⟩ := changed
  have inside := (List.getElem?_eq_some_iff.mp found).1
  refine ⟨List.length_set, ?_, List.Subset.refl _, id, .inl rfl⟩
  intro other later foundLater
  by_cases same : index = other
  · subst same
    rw [List.getElem?_set_self inside] at foundLater
    cases foundLater
    exact ⟨frame, found, moves frame next step⟩
  · rw [List.getElem?_set_ne same] at foundLater
    exact ⟨later, foundLater, Frame.Moves.rfl⟩

/-- The change of a frame may follow a change of the locks. -/
theorem SameQueue.onFrame_advances {middle : Admission} {change : Frame → Option Frame}
    (same : before.SameQueue middle)
    (moves : ∀ frame next, change frame = some next → frame.Moves before.isSettled next)
    (changed : middle.onFrame index change = some after) : before.Advances after := by
  have settles : middle.isSettled = before.isSettled := by
    funext promise
    rw [isSettled, isSettled, same.2.1]
    congr 1
    funext owner
    rw [ended, ended, same.1]
  have ends : middle.ended = before.ended := by
    funext owner
    rw [ended, ended, same.1]
  rw [← settles] at moves
  have moved := Admission.onFrame_advances moves changed
  refine ⟨?_, ?_, ?_, ?_, ?_⟩
  · rw [moved.length, same.1]
  · rw [← same.1, ← settles]
    exact moved.frames
  · rw [← same.2.1]
    exact moved.settled
  · rw [← same.2.1, ← ends]
    exact moved.closed
  · rw [← same.2.2, ← settles]
    exact moved.entry

theorem Advances.sameQueue {middle : Admission} (moved : before.Advances middle)
    (same : middle.SameQueue after) : before.Advances after where
  length := by
    rw [same.1]
    exact moved.length
  frames := by
    rw [same.1]
    exact moved.frames
  settled := by
    rw [same.2.1]
    exact moved.settled
  closed := by
    rw [same.2.1]
    exact moved.closed
  entry := by
    rw [same.2.2]
    exact moved.entry

theorem granted_sameQueue {token : LockToken} (granted : before.granted token = some after) :
    before.SameQueue after := by
  unfold Admission.granted at granted
  split at granted
  · cases granted
  · cases granted
    exact ⟨rfl, rfl, rfl⟩

theorem revokeOwn_sameQueue (state : Admission) (index : Nat) : state.SameQueue (state.revokeOwn index) := by
  unfold revokeOwn
  split <;> exact ⟨rfl, rfl, rfl⟩

theorem entering_sameQueue {token : LockToken} (entering : before.entering index token = some after) :
    before.SameQueue after := by
  unfold Admission.entering at entering
  split at entering
  · split at entering
    · cases entering
      exact ⟨rfl, rfl, rfl⟩
    · cases entering
  · exact granted_sameQueue entering

theorem settle_advances {first second : Promise Nat} (firstSettled : before.isSettled first = true)
    (secondSettled : before.isSettled second = true) :
    before.Advances { before with settled := (first, second) :: before.settled } where
  length := rfl
  frames _ next found := ⟨next, found, Frame.Moves.rfl⟩
  settled := List.subset_cons_self ..
  closed closed := closed.settle firstSettled secondSettled
  entry := .inl rfl

theorem cleaned_advances (cleaned : before.cleaned index = some after) : before.Advances after := by
  unfold Admission.cleaned at cleaned
  split at cleaned
  · cases cleaned
  · next frame found =>
      simp only [Option.ite_none_right_eq_some] at cleaned
      obtain ⟨settled, cleaned⟩ := cleaned
      cases cleaned
      refine ⟨rfl, fun index next found => ⟨next, found, Frame.Moves.rfl⟩, List.Subset.refl _, id, ?_⟩
      cases entry : before.appendBarrierTail with
      | none => exact .inl rfl
      | some last =>
          by_cases own : last = frame.entry
          · subst own
            exact .inr ⟨by simp [Option.filter], frame.entry, rfl, settled⟩
          · exact .inl (by simp [Option.filter, own])

/-- A step moves the frames that there are, or installs one more. -/
theorem act_cases {event : AdmissionEvent} (step : before.act event = some after) :
    before.Advances after ∨ ∃ call token, after = before.enqueue (before.install call token) := by
  cases event with
  | grant token => exact .inl (granted_sameQueue step).advances
  | revoke token =>
      cases step
      exact .inl (SameQueue.advances ⟨rfl, rfl, rfl⟩)
  | call call reading =>
      cases step
      unfold receive
      split
      · exact .inl (SameQueue.advances ⟨rfl, rfl, rfl⟩)
      · exact .inl (SameQueue.advances ⟨rfl, rfl, rfl⟩)
      · next token _ => exact .inr ⟨call, token, rfl⟩
  | settle first second =>
      simp only [act, Option.ite_none_right_eq_some] at step
      obtain ⟨⟨firstSettled, secondSettled⟩, step⟩ := step
      cases step
      exact .inl (settle_advances firstSettled secondSettled)
  | notice index => exact .inl (onFrame_advances (fun _ _ => Frame.noticed_moves) step)
  | resume index reading => exact .inl (onFrame_advances (fun _ _ => Frame.resumed_moves) step)
  | wake index reading => exact .inl (onFrame_advances (fun _ _ => Frame.woken_moves) step)
  | giveUp index aborted => exact .inl (onFrame_advances (fun _ _ => Frame.gaveUp_moves) step)
  | enter index token =>
      obtain ⟨middle, entering, changed⟩ := Option.bind_eq_some_iff.mp step
      exact .inl ((entering_sameQueue entering).onFrame_advances (fun _ _ => Frame.admitted_moves) changed)
  | effects index reading =>
      obtain ⟨middle, changed, rfl⟩ := Option.map_eq_some_iff.mp step
      have moved := onFrame_advances (fun _ _ => Frame.inEffects_moves) changed
      exact .inl (moved.sameQueue ⟨rfl, rfl, rfl⟩)
  | fail index contention reading =>
      exact .inl ((revokeOwn_sameQueue before index).onFrame_advances (fun _ _ => Frame.failed_moves) step)
  | retry index reading => exact .inl (onFrame_advances (fun _ _ => Frame.retried_moves) step)
  | «return» index =>
      obtain ⟨middle, changed, rfl⟩ := Option.map_eq_some_iff.mp step
      have moved := onFrame_advances (fun _ _ => Frame.returned_moves) changed
      exact .inl (moved.sameQueue ⟨rfl, rfl, rfl⟩)
  | finish index =>
      exact .inl ((revokeOwn_sameQueue before index).onFrame_advances (fun _ _ => Frame.finished_moves) step)
  | clean index => exact .inl (cleaned_advances step)

/-- What holds for a queued frame: it waits for every earlier frame that has not ended, with the token
only for those that hold it, and it starts behind what it waits for. -/
structure FrameSound (state : Admission) (index : Nat) (frame : Frame) : Prop where
  covers : ∀ (earlier : Nat) (other : Frame), earlier < index → state.frames[earlier]? = some other →
    (frame.holdsPublicationAdmission = true → other.holdsPublicationAdmission = true) →
    earlier ∈ frame.predecessor.owners ∨ other.ended = true
  below : ∀ owner ∈ frame.predecessor.owners, owner < index
  holders : frame.holdsPublicationAdmission = true → ∀ owner ∈ frame.predecessor.owners,
    ∃ other : Frame, state.frames[owner]? = some other ∧ other.holdsPublicationAdmission = true
  behind : frame.previousSettled = true ∨ frame.started = true → state.isSettled frame.predecessor = true

/-- What holds for the queue of a home: its tails wait for all frames that have not ended. -/
structure Sound (state : Admission) : Prop where
  closed : Promise.Closed state.ended state.settled
  frames : ∀ (index : Nat) (frame : Frame), state.frames[index]? = some frame → state.FrameSound index frame
  covers : ∀ (index : Nat) (frame : Frame), state.frames[index]? = some frame →
    index ∈ state.tail.owners ∨ frame.ended = true
  below : ∀ owner ∈ state.tail.owners, owner < state.frames.length
  admittedCovers : ∀ (index : Nat) (frame : Frame), state.frames[index]? = some frame →
    frame.holdsPublicationAdmission = true → index ∈ state.admittedTail.owners ∨ frame.ended = true
  holders : ∀ owner ∈ state.admittedTail.owners,
    ∃ frame : Frame, state.frames[owner]? = some frame ∧ frame.holdsPublicationAdmission = true
  last : ∀ entry, state.appendBarrierTail = some entry → entry.frame + 1 = state.frames.length

theorem ended_of_get (found : state.frames[index]? = some frame) : state.ended index = frame.ended := by
  rw [ended, found, Option.any_some]

/-- A frame that was there is still there. -/
theorem Advances.found (moved : before.Advances after) (found : before.frames[index]? = some frame) :
    ∃ next : Frame, after.frames[index]? = some next ∧ frame.Moves before.isSettled next := by
  have inside := (List.getElem?_eq_some_iff.mp found).1
  rw [← moved.length] at inside
  have foundNext := List.getElem?_eq_getElem inside
  obtain ⟨old, foundOld, moves⟩ := moved.frames index _ foundNext
  rw [found] at foundOld
  cases foundOld
  exact ⟨_, foundNext, moves⟩

theorem Advances.ended (moved : before.Advances after) (owner : Nat) (finished : before.ended owner = true) :
    after.ended owner = true := by
  obtain ⟨frame, found, frameOver⟩ := Option.any_eq_true _ _ |>.mp finished
  obtain ⟨next, foundNext, moves⟩ := moved.found found
  rw [ended_of_get foundNext]
  exact moves.finished frameOver

theorem Advances.isSettled (moved : before.Advances after) {promise : Promise Nat}
    (settled : before.isSettled promise = true) : after.isSettled promise = true :=
  Promise.isSettled_mono moved.ended moved.settled settled

theorem Advances.holders (moved : before.Advances after) {owners : List Nat}
    (holders : ∀ owner ∈ owners,
      ∃ frame : Frame, before.frames[owner]? = some frame ∧ frame.holdsPublicationAdmission = true) :
    ∀ owner ∈ owners,
      ∃ frame : Frame, after.frames[owner]? = some frame ∧ frame.holdsPublicationAdmission = true := by
  intro owner inside
  obtain ⟨frame, found, holds⟩ := holders owner inside
  obtain ⟨next, foundNext, moves⟩ := moved.found found
  exact ⟨next, foundNext, moves.holds.trans holds⟩

theorem Advances.frameSound (moved : before.Advances after) (moves : frame.Moves before.isSettled next)
    (sound : before.FrameSound index frame) : after.FrameSound index next where
  covers earlier other inside found both := by
    obtain ⟨old, foundOld, otherMoves⟩ := moved.frames earlier other found
    rw [moves.holds, otherMoves.holds] at both
    rw [moves.predecessor]
    exact (sound.covers earlier old inside foundOld both).imp_right otherMoves.finished
  below := by
    rw [moves.predecessor]
    exact sound.below
  holders holds := by
    rw [moves.holds] at holds
    rw [moves.predecessor]
    exact moved.holders (sound.holders holds)
  behind ready := by
    rw [moves.predecessor]
    rcases moves.behind ready with old | settled
    · exact moved.isSettled (sound.behind old)
    · exact moved.isSettled settled

/-- Where the entry of the home is deleted, every frame has ended. -/
theorem Sound.all_ended (sound : state.Sound) {entry : AppendBarrierTail}
    (queued : state.appendBarrierTail = some entry) (settled : state.isSettled entry.tail = true)
    (found : state.frames[index]? = some frame) : frame.ended = true := by
  rcases sound.covers index frame found with waiting | finished
  · rw [tail, queued] at waiting
    rw [← ended_of_get found]
    exact sound.closed.owners_done settled index waiting
  · exact finished

theorem Advances.sound (moved : before.Advances after) (sound : before.Sound) : after.Sound := by
  have closed : Promise.Closed after.ended after.settled := (moved.closed sound.closed).mono moved.ended
  have frames : ∀ (index : Nat) (next : Frame), after.frames[index]? = some next →
      after.FrameSound index next := by
    intro index next found
    obtain ⟨frame, foundOld, moves⟩ := moved.frames index next found
    exact moved.frameSound moves (sound.frames index frame foundOld)
  rcases moved.entry with same | ⟨gone, entry, queued, settled⟩
  · have sameTail : after.tail = before.tail := by rw [tail, tail, same]
    have sameAdmitted : after.admittedTail = before.admittedTail := by rw [admittedTail, admittedTail, same]
    refine ⟨closed, frames, ?_, ?_, ?_, ?_, ?_⟩
    · intro index next found
      obtain ⟨frame, foundOld, moves⟩ := moved.frames index next found
      rw [sameTail]
      exact (sound.covers index frame foundOld).imp_right moves.finished
    · rw [sameTail, moved.length]
      exact sound.below
    · intro index next found holds
      obtain ⟨frame, foundOld, moves⟩ := moved.frames index next found
      rw [moves.holds] at holds
      rw [sameAdmitted]
      exact (sound.admittedCovers index frame foundOld holds).imp_right moves.finished
    · rw [sameAdmitted]
      exact moved.holders sound.holders
    · rw [same, moved.length]
      exact sound.last
  · have finished : ∀ (index : Nat) (next : Frame), after.frames[index]? = some next → next.ended = true := by
      intro index next found
      obtain ⟨frame, foundOld, moves⟩ := moved.frames index next found
      exact moves.finished (sound.all_ended queued settled foundOld)
    have noTail : after.tail.owners = [] := by rw [tail, gone]; rfl
    have noAdmitted : after.admittedTail.owners = [] := by rw [admittedTail, gone]; rfl
    refine ⟨closed, frames, fun index next found => .inr (finished index next found), ?_,
      fun index next found _ => .inr (finished index next found), ?_, ?_⟩
    · rw [noTail]
      exact fun owner inside => absurd inside List.not_mem_nil
    · rw [noAdmitted]
      exact fun owner inside => absurd inside List.not_mem_nil
    · rw [gone]
      exact fun entry queued => absurd queued.symm (Option.some_ne_none entry)

variable (call : AdmissionCall) (token : Option LockToken)

theorem install_predecessor (state : Admission) :
    (state.install call token).predecessor =
      if (state.install call token).holdsPublicationAdmission then state.admittedTail else state.tail := by
  cases holds : token.any state.holdsActivePublicationLock <;>
    simp [install, Frame.predecessor, admittedTail, tail, holds]

theorem enqueue_tail (state : Admission) :
    (state.enqueue (state.install call token)).tail = .chained state.tail (.pending state.frames.length) :=
  rfl

theorem enqueue_admitted (state : Admission) :
    (state.enqueue (state.install call token)).admittedTail.owners =
      state.admittedTail.owners ++
        if (state.install call token).holdsPublicationAdmission then [state.frames.length] else [] := by
  cases holds : token.any state.holdsActivePublicationLock with
  | false => simp [enqueue, install, admittedTail, holds]
  | true =>
      cases latest : state.appendBarrierTail.bind AppendBarrierTail.latestAdmittedFrame <;>
        simp [enqueue, install, admittedTail, holds, latest, Promise.owners]

/-- A frame that arrives has not ended. -/
theorem enqueue_ended (state : Admission) (fresh : frame.ended = false) :
    (state.enqueue frame).ended = state.ended := by
  funext owner
  rw [ended, ended, enqueue]
  rcases Nat.lt_trichotomy owner state.frames.length with old | new | beyond
  · rw [List.getElem?_append_left old]
  · rw [new, List.getElem?_concat_length, List.getElem?_eq_none (Nat.le_refl _), Option.any_some, fresh]
    rfl
  · rw [List.getElem?_eq_none (Nat.le_of_lt beyond), List.getElem?_eq_none]
    rw [List.length_append, List.length_singleton]
    exact beyond

theorem enqueue_get (found : (state.enqueue frame).frames[index]? = some next) :
    state.frames[index]? = some next ∨ index = state.frames.length ∧ next = frame := by
  rcases Nat.lt_or_ge index state.frames.length with old | new
  · rw [enqueue, List.getElem?_append_left old] at found
    exact .inl found
  · rw [enqueue, List.getElem?_append_right new] at found
    obtain ⟨first, same⟩ := List.getElem?_eq_some_iff.mp found
    rw [List.length_singleton] at first
    have last : index - state.frames.length = 0 := by omega
    refine .inr ⟨by omega, ?_⟩
    simpa only [last, List.getElem_cons_zero] using same.symm

theorem enqueue_found (found : state.frames[index]? = some next) :
    (state.enqueue frame).frames[index]? = some next := by
  rw [enqueue, List.getElem?_append_left (List.getElem?_eq_some_iff.mp found).1]
  exact found

theorem install_ended (state : Admission) : (state.install call token).ended = false :=
  rfl

theorem enqueue_isSettled (state : Admission) (promise : Promise Nat) :
    (state.enqueue (state.install call token)).isSettled promise = state.isSettled promise := by
  rw [isSettled, enqueue_ended state (install_ended call token state)]
  rfl

/-- The frames that were queued are as sound as before. -/
theorem FrameSound.enqueue (sound : state.FrameSound index frame) (inside : index < state.frames.length) :
    (state.enqueue (state.install call token)).FrameSound index frame where
  covers earlier other before found both := by
    rcases enqueue_get found with old | ⟨new, _⟩
    · exact sound.covers earlier other before old both
    · omega
  below := sound.below
  holders holds owner waiting := by
    obtain ⟨other, found, otherHolds⟩ := sound.holders holds owner waiting
    exact ⟨other, enqueue_found found, otherHolds⟩
  behind ready := by
    rw [enqueue_isSettled]
    exact sound.behind ready

/-- A frame that arrives waits for the tail, with the token for the latest admitted frame. -/
theorem Sound.install (sound : state.Sound) :
    (state.enqueue (state.install call token)).FrameSound state.frames.length (state.install call token) where
  covers earlier other inside found both := by
    rcases enqueue_get found with old | ⟨new, _⟩
    · rw [install_predecessor]
      split
      · next holds => exact sound.admittedCovers earlier other old (both holds)
      · exact sound.covers earlier other old
    · omega
  below := by
    rw [install_predecessor]
    split
    · intro owner waiting
      obtain ⟨other, found, _⟩ := sound.holders owner waiting
      exact (List.getElem?_eq_some_iff.mp found).1
    · exact sound.below
  holders holds := by
    rw [install_predecessor, if_pos holds]
    intro owner waiting
    obtain ⟨other, found, otherHolds⟩ := sound.holders owner waiting
    exact ⟨other, enqueue_found found, otherHolds⟩
  behind ready := by
    rw [enqueue_isSettled]
    rcases ready with settled | started
    · exact settled
    · exact Bool.noConfusion started

theorem Sound.enqueue (sound : state.Sound) : (state.enqueue (state.install call token)).Sound where
  closed := by
    rw [enqueue_ended state (install_ended call token state)]
    exact sound.closed
  frames index frame found := by
    rcases enqueue_get found with old | ⟨rfl, rfl⟩
    · exact (sound.frames index frame old).enqueue call token (List.getElem?_eq_some_iff.mp old).1
    · exact sound.install call token
  covers index frame found := by
    rw [enqueue_tail, Promise.owners, List.mem_append]
    rcases enqueue_get found with old | ⟨rfl, _⟩
    · exact (sound.covers index frame old).imp_left .inl
    · exact .inl (.inr (List.mem_singleton_self _))
  below owner inside := by
    rw [enqueue_tail, Promise.owners, List.mem_append] at inside
    rw [Admission.enqueue, List.length_append, List.length_singleton]
    rcases inside with old | new
    · exact Nat.lt_succ_of_lt (sound.below owner old)
    · rw [List.mem_singleton.mp new]
      exact Nat.lt_succ_self _
  admittedCovers index frame found holds := by
    rw [enqueue_admitted, List.mem_append]
    rcases enqueue_get found with old | ⟨rfl, rfl⟩
    · exact (sound.admittedCovers index frame old holds).imp_left .inl
    · rw [if_pos holds]
      exact .inl (.inr (List.mem_singleton_self _))
  holders owner inside := by
    rw [enqueue_admitted, List.mem_append] at inside
    rcases inside with old | new
    · obtain ⟨frame, found, holds⟩ := sound.holders owner old
      exact ⟨frame, enqueue_found found, holds⟩
    · split at new
      · next holds =>
          rw [List.mem_singleton.mp new, Admission.enqueue]
          exact ⟨_, List.getElem?_concat_length, holds⟩
      · exact absurd new List.not_mem_nil
  last entry queued := by
    cases queued
    rw [Admission.enqueue, List.length_append, List.length_singleton]
    rfl

/-- Every queue that a home can reach is sound. -/
theorem sound_of_reachable (reached : system.Reachable state) : state.Sound := by
  refine reached.invariant ?_ ?_
  · rintro _ rfl
    constructor <;> simp [initial, Promise.Closed, tail, admittedTail, Promise.owners]
  · intro before event after _ sound step
    rcases act_cases step with moved | ⟨call, token, rfl⟩
    · exact moved.sound sound
    · exact sound.enqueue call token

/-- The microtasks alone settle what follows ended frames. -/
theorem settle_run (state : Admission) {settled later : List (Promise Nat × Promise Nat)}
    (settles : Promise.Settles state.ended settled later) :
    ∃ pairs : List (Promise Nat × Promise Nat),
      (pairs.map fun pair => AdmissionEvent.settle pair.1 pair.2).foldlM act
        { state with settled := settled } = some { state with settled := later } := by
  induction settles with
  | refl settled => exact ⟨[], rfl⟩
  | @step settled later first second firstSettled secondSettled _ ih =>
      obtain ⟨pairs, ran⟩ := ih
      refine ⟨(first, second) :: pairs, ?_⟩
      have step : act { state with settled := settled } (.settle first second) =
          some { state with settled := (first, second) :: settled } :=
        if_pos ⟨firstSettled, secondSettled⟩
      rw [List.map_cons, List.foldlM_cons, step]
      exact ran

/-- A frame whose predecessors have ended is woken without any further frame. -/
theorem Sound.wakes (sound : state.Sound) (found : state.frames[index]? = some frame)
    (waiting : frame.phase = .waiting)
    (finished : ∀ (earlier : Nat) (other : Frame), earlier < index → state.frames[earlier]? = some other →
      (frame.holdsPublicationAdmission = true → other.holdsPublicationAdmission = true) →
      other.ended = true) :
    ∃ (pairs : List (Promise Nat × Promise Nat)) (ready woken : Admission),
      (pairs.map fun pair => AdmissionEvent.settle pair.1 pair.2).foldlM act state = some ready ∧
        ready.act (.wake index reading) = some woken ∧
        woken.frames[index]? =
          some { frame with phase := if frame.stops reading then .ended else .attempting } := by
  have sound := sound.frames index frame found
  have ended : ∀ owner ∈ frame.predecessor.owners, state.ended owner = true := by
    intro owner inside
    have below := sound.below owner inside
    have bound := Nat.lt_trans below (List.getElem?_eq_some_iff.mp found).1
    have foundOwner := List.getElem?_eq_getElem bound
    rw [ended_of_get foundOwner]
    apply finished owner _ below foundOwner
    intro holds
    obtain ⟨other, foundOther, otherHolds⟩ := sound.holders holds owner inside
    rw [foundOwner] at foundOther
    cases foundOther
    exact otherHolds
  obtain ⟨later, settles, settled⟩ := Promise.settles_of_done frame.predecessor ended state.settled
  obtain ⟨pairs, ran⟩ := settle_run state settles
  let ready : Admission := { state with settled := later }
  let woken : Frame := { frame with phase := if frame.stops reading then .ended else .attempting }
  have wakes : frame.woken ready.isSettled reading = some woken := if_pos ⟨waiting, settled⟩
  refine ⟨pairs, ready, { ready with frames := state.frames.set index woken }, ran, ?_, ?_⟩
  · rw [act, onFrame, found, Option.bind_some, wakes, Option.map_some]
  · exact List.getElem?_set_self (List.getElem?_eq_some_iff.mp found).1

/-- The entry of a home is deleted only behind its last frame, when all have ended. -/
theorem Sound.deleted {event : AdmissionEvent} (sound : before.Sound) (step : before.act event = some after)
    {entry : AppendBarrierTail} (queued : before.appendBarrierTail = some entry)
    (gone : after.appendBarrierTail = none) :
    entry.frame + 1 = before.frames.length ∧ ∀ frame ∈ before.frames, frame.ended = true := by
  rcases act_cases step with moved | ⟨call, token, rfl⟩
  · rcases moved.entry with same | ⟨_, other, otherQueued, settled⟩
    · rw [gone, queued] at same
      cases same
    · refine ⟨sound.last entry queued, fun frame inside => ?_⟩
      obtain ⟨index, found⟩ := List.mem_iff_getElem?.mp inside
      exact sound.all_ended otherQueued settled found
  · cases gone

/-- Append admission is in order of arrival: a frame in its attempts is behind every earlier frame, with
the token behind every earlier one that holds it; a frame with the token waits only for such frames, and
needs no others to be woken; and the entry of the home is deleted only behind its last frame. -/
theorem append_admission_is_ordered (reached : system.Reachable state) :
    (∀ (earlier later : Nat) (first second : Frame), earlier < later →
      state.frames[earlier]? = some first → state.frames[later]? = some second → second.started = true →
      (second.holdsPublicationAdmission = true → first.holdsPublicationAdmission = true) →
      first.ended = true) ∧
    (∀ (index : Nat) (frame : Frame), state.frames[index]? = some frame →
      frame.holdsPublicationAdmission = true → ∀ owner ∈ frame.predecessor.owners,
        owner < index ∧
          ∃ other : Frame, state.frames[owner]? = some other ∧ other.holdsPublicationAdmission = true) ∧
    (∀ (index : Nat) (frame : Frame) (reading : AdmissionReading), state.frames[index]? = some frame →
      frame.phase = .waiting →
      (∀ (earlier : Nat) (other : Frame), earlier < index → state.frames[earlier]? = some other →
        (frame.holdsPublicationAdmission = true → other.holdsPublicationAdmission = true) →
        other.ended = true) →
      ∃ (pairs : List (Promise Nat × Promise Nat)) (ready woken : Admission),
        (pairs.map fun pair => AdmissionEvent.settle pair.1 pair.2).foldlM act state = some ready ∧
          ready.act (.wake index reading) = some woken ∧
          woken.frames[index]? =
            some { frame with phase := if frame.stops reading then .ended else .attempting }) ∧
    ∀ (event : AdmissionEvent) (after : Admission) (entry : AppendBarrierTail),
      state.act event = some after → state.appendBarrierTail = some entry →
      after.appendBarrierTail = none →
      entry.frame + 1 = state.frames.length ∧ ∀ frame ∈ state.frames, frame.ended = true := by
  have sound := sound_of_reachable reached
  refine ⟨?_, ?_, ?_, ?_⟩
  · intro earlier later first second inside foundFirst foundSecond started both
    have secondSound := sound.frames later second foundSecond
    rcases secondSound.covers earlier first inside foundFirst both with waited | finished
    · rw [← ended_of_get foundFirst]
      exact sound.closed.owners_done (secondSound.behind (.inr started)) earlier waited
    · exact finished
  · intro index frame found holds owner inside
    have frameSound := sound.frames index frame found
    exact ⟨frameSound.below owner inside, frameSound.holders holds owner inside⟩
  · exact fun index frame reading found waiting finished => sound.wakes found waiting finished
  · exact fun event after entry step queued gone => sound.deleted step queued gone

/-- Two calls with the lock's token and one without between them, which gives up at its deadline. -/
def sampleEvents : List AdmissionEvent :=
  let reading : AdmissionReading := { past := false, aborted := false }
  let barrier : AdmissionCall :=
    { kind := .barrier, inherited := none, lockToken := some 7, bounded := false, invalidOptions := false }
  let retained : AdmissionCall := { barrier with kind := .retained }
  let tokenless : AdmissionCall := { barrier with lockToken := none, bounded := true }
  [.grant 7, .call barrier reading, .call tokenless reading, .call retained reading,
    .resume 0 reading, .resume 1 reading, .resume 2 reading, .enter 0 7, .effects 0 reading,
    .giveUp 1 false, .return 0, .finish 0, .wake 2 reading]

theorem append_admission_is_ordered_sample :
    ∃ state, sampleEvents.foldlM act initial = some state ∧
      state.frames.map Frame.phase = [.ended, .ended, .attempting] ∧
      ∀ first : Frame, state.frames[0]? = some first → first.holdsPublicationAdmission = true →
        first.ended = true := by
  obtain ⟨state, ran⟩ := Option.isSome_iff_exists.mp
    (by decide : (sampleEvents.foldlM act initial).isSome = true)
  have phases : (sampleEvents.foldlM act initial).map (fun state => state.frames.map Frame.phase) =
      some [.ended, .ended, .attempting] := by decide
  rw [ran, Option.map_some, Option.some.injEq] at phases
  have reached : system.Reachable state := StepSystem.Reachable.run (fun _ _ _ => id) (.start rfl) ran
  refine ⟨state, ran, phases, fun first found holds => ?_⟩
  have phase : (state.frames.map Frame.phase)[2]? = some .attempting := by
    rw [phases]
    rfl
  rw [List.getElem?_map] at phase
  obtain ⟨second, foundSecond, attempting⟩ := Option.map_eq_some_iff.mp phase
  apply (append_admission_is_ordered reached).1 0 2 first second (by decide) found foundSecond
  · rw [Frame.started, attempting]
  · exact fun _ => holds

end Admission

end Lcm.Publication
