import Lcm.Daemon.PassiveEventProcessor

namespace Lcm.Daemon.PassiveEventProcessor
open Text

/-- A debounce timer of a project is set and will fire. -/
def Armed (processor : PassiveEventProcessor) (cwd : JsString) : Prop :=
  ∃ handle, processor.debounceTimers.get? cwd = some handle ∧
    processor.timers.get? handle = some (.debounce cwd)

/-- A project is queued with a timer. -/
def Queued (processor : PassiveEventProcessor) (cwd : JsString) : Prop :=
  cwd ∈ processor.queuedProjects ∧ processor.Armed cwd

/-- The processor knows the timers that are set by their handles. -/
structure Tracked (processor : PassiveEventProcessor) : Prop where
  debounce : ∀ cwd handle, processor.debounceTimers.get? cwd = some handle ↔
    processor.timers.get? handle = some (.debounce cwd)
  deadline : ∀ cwd deadline, processor.debounceDeadlines.get? cwd = some deadline → processor.Armed cwd
  sweep : ∀ handle, processor.sweepTimer = some handle → processor.timers.get? handle = some .sweep
  interval : ∀ handle, processor.sweepInterval = some handle → processor.timers.get? handle = some .sweepInterval
  followUp : ∀ handle, processor.followUpTimer = some handle → processor.timers.get? handle = some .followUp
  fresh : ∀ handle callback, processor.timers.get? handle = some callback → handle < processor.nextHandle

/-- A change of timers that leaves the projects alone and every project armed that was. -/
structure Rearmed (before after : PassiveEventProcessor) : Prop where
  tracked : after.Tracked
  armed : ∀ cwd, before.Armed cwd → after.Armed cwd
  queued : after.queuedProjects = before.queuedProjects
  notified : after.notified = before.notified
  running : after.running = before.running
  draining : after.draining = before.draining
  stopped : after.stopped = before.stopped
  halted : after.halted = before.halted

section Timers

variable {processor : PassiveEventProcessor}

theorem Tracked.rearmed (tracked : processor.Tracked) : Rearmed processor processor :=
  ⟨tracked, fun _ armed => armed, rfl, rfl, rfl, rfl, rfl, rfl⟩

theorem Rearmed.trans {before middle after : PassiveEventProcessor} (first : Rearmed before middle)
    (second : Rearmed middle after) : Rearmed before after where
  tracked := second.tracked
  armed cwd armed := second.armed cwd (first.armed cwd armed)
  queued := second.queued.trans first.queued
  notified := second.notified.trans first.notified
  running := second.running.trans first.running
  draining := second.draining.trans first.draining
  stopped := second.stopped.trans first.stopped
  halted := second.halted.trans first.halted

theorem Tracked.fresh_ne (tracked : processor.Tracked) {handle : TimerHandle} {callback : TimerCallback}
    (found : processor.timers.get? handle = some callback) : handle ≠ processor.nextHandle :=
  Nat.ne_of_lt (tracked.fresh handle callback found)

theorem get?_clearTimers (handles : List TimerHandle) (handle : TimerHandle) (callback : TimerCallback) :
    (processor.clearTimers handles).timers.get? handle = some callback ↔
      processor.timers.get? handle = some callback ∧ handle ∉ handles := by
  simp [clearTimers, KeyedTable.get?_retain]

/-- The timers after some are cleared and one is set. -/
theorem get?_setTimer (handles : List TimerHandle) (set : TimerCallback) (handle : TimerHandle)
    (callback : TimerCallback) :
    ((processor.clearTimers handles).setTimer set).timers.get? handle = some callback ↔
      (handle = processor.nextHandle ∧ set = callback) ∨
        (handle ≠ processor.nextHandle ∧ processor.timers.get? handle = some callback ∧ handle ∉ handles) := by
  have put : ((processor.clearTimers handles).setTimer set).timers.get? handle =
      if handle = processor.nextHandle then some set else (processor.clearTimers handles).timers.get? handle :=
    KeyedTable.get?_put ..
  rw [put]
  by_cases new : handle = processor.nextHandle
  · simp [new]
  · simp [new, get?_clearTimers]

/-- The processor after it sets the timer of a project anew. -/
def rearm (processor : PassiveEventProcessor) (cwd : JsString) (deadline : Int) : PassiveEventProcessor :=
  let armed := (processor.clearTimers (processor.debounceTimers.get? cwd).toList).setTimer (.debounce cwd)
  { armed with
    debounceTimers := armed.debounceTimers.put cwd processor.nextHandle,
    debounceDeadlines := armed.debounceDeadlines.put cwd deadline }

/-- Clearing the timer of a project clears no other one. -/
theorem Tracked.other_notMem (tracked : processor.Tracked) {cwd : JsString} {handle : TimerHandle}
    {callback : TimerCallback} (found : processor.timers.get? handle = some callback)
    (other : callback ≠ .debounce cwd) : handle ∉ (processor.debounceTimers.get? cwd).toList := by
  intro old
  have same := (tracked.debounce cwd handle).mp (Option.mem_toList.mp old)
  exact other (Option.some.inj (found.symm.trans same))

theorem Tracked.get?_rearm (tracked : processor.Tracked) (cwd : JsString) (deadline : Int) {handle : TimerHandle}
    {callback : TimerCallback} (found : processor.timers.get? handle = some callback)
    (other : callback ≠ .debounce cwd) : (processor.rearm cwd deadline).timers.get? handle = some callback :=
  (get?_setTimer ..).mpr (.inr ⟨tracked.fresh_ne found, found, tracked.other_notMem found other⟩)

theorem rearm_debounce (tracked : processor.Tracked) (cwd : JsString) (deadline : Int) (other : JsString)
    (handle : TimerHandle) :
    (processor.rearm cwd deadline).debounceTimers.get? other = some handle ↔
      (processor.rearm cwd deadline).timers.get? handle = some (.debounce other) := by
  have put : (processor.rearm cwd deadline).debounceTimers.get? other =
      if other = cwd then some processor.nextHandle else processor.debounceTimers.get? other := KeyedTable.get?_put ..
  rw [put]
  constructor
  · intro found
    by_cases same : other = cwd
    · rw [if_pos same] at found
      exact (get?_setTimer ..).mpr (.inl ⟨(Option.some.inj found).symm, same ▸ rfl⟩)
    · rw [if_neg same] at found
      exact tracked.get?_rearm cwd deadline ((tracked.debounce other handle).mp found)
        fun callback => same (TimerCallback.debounce.inj callback)
  · intro found
    rcases (get?_setTimer ..).mp found with ⟨new, callback⟩ | ⟨_, old, kept⟩
    · rw [if_pos (TimerCallback.debounce.inj callback).symm, new]
    · have known := (tracked.debounce other handle).mpr old
      by_cases same : other = cwd
      · exact absurd (Option.mem_toList.mpr (same ▸ known)) kept
      · rw [if_neg same]
        exact known

theorem rearm_armed (tracked : processor.Tracked) (cwd : JsString) (deadline : Int) {other : JsString}
    (armed : other = cwd ∨ processor.Armed other) : (processor.rearm cwd deadline).Armed other := by
  have put : (processor.rearm cwd deadline).debounceTimers.get? other =
      if other = cwd then some processor.nextHandle else processor.debounceTimers.get? other := KeyedTable.get?_put ..
  by_cases same : other = cwd
  · rw [if_pos same] at put
    exact ⟨_, put, (rearm_debounce tracked cwd deadline other _).mp put⟩
  · obtain ⟨handle, known, _⟩ := armed.resolve_left same
    rw [if_neg same, known] at put
    exact ⟨_, put, (rearm_debounce tracked cwd deadline other _).mp put⟩

theorem rearm_rearmed (tracked : processor.Tracked) (cwd : JsString) (deadline : Int) :
    Rearmed processor (processor.rearm cwd deadline) := by
  refine ⟨⟨rearm_debounce tracked cwd deadline, ?_, ?_, ?_, ?_, ?_⟩,
    fun other armed => rearm_armed tracked cwd deadline (.inr armed), rfl, rfl, rfl, rfl, rfl, rfl⟩
  · intro other found known
    have put : (processor.rearm cwd deadline).debounceDeadlines.get? other =
        if other = cwd then some deadline else processor.debounceDeadlines.get? other := KeyedTable.get?_put ..
    rw [put] at known
    by_cases same : other = cwd
    · exact rearm_armed tracked cwd deadline (.inl same)
    · rw [if_neg same] at known
      exact rearm_armed tracked cwd deadline (.inr (tracked.deadline other found known))
  · exact fun handle set => tracked.get?_rearm cwd deadline (tracked.sweep handle set) nofun
  · exact fun handle set => tracked.get?_rearm cwd deadline (tracked.interval handle set) nofun
  · exact fun handle set => tracked.get?_rearm cwd deadline (tracked.followUp handle set) nofun
  · intro handle callback found
    rcases (get?_setTimer ..).mp found with ⟨new, _⟩ | ⟨_, old, _⟩
    · exact new ▸ Nat.lt_succ_self _
    · exact Nat.lt_succ_of_lt (tracked.fresh handle callback old)

/-- A project has a timer afterwards, and the others keep theirs. -/
theorem scheduleProject_rearmed (tracked : processor.Tracked) (cwd : JsString) (delayMs : Nat) (now : Int) :
    Rearmed processor (processor.scheduleProject cwd delayMs now) ∧
      (processor.scheduleProject cwd delayMs now).Armed cwd := by
  dsimp only [scheduleProject]
  split
  · next early =>
      cases found : processor.debounceDeadlines.get? cwd with
      | none => simp [found] at early
      | some deadline => exact ⟨tracked.rearmed, tracked.deadline cwd deadline found⟩
  · exact ⟨rearm_rearmed tracked cwd _, rearm_armed tracked cwd _ (.inl rfl)⟩

theorem scheduleProjects_rearmed (tracked : processor.Tracked) (projects : List JsString) (delayMs : Nat)
    (now : Int) : Rearmed processor (processor.scheduleProjects projects delayMs now) ∧
      ∀ cwd ∈ projects, (processor.scheduleProjects projects delayMs now).Armed cwd := by
  induction projects generalizing processor with
  | nil => exact ⟨tracked.rearmed, nofun⟩
  | cons cwd projects ih =>
      obtain ⟨first, armed⟩ := scheduleProject_rearmed tracked cwd delayMs now
      obtain ⟨later, rest⟩ := ih first.tracked
      exact ⟨first.trans later, List.forall_mem_cons.mpr ⟨later.armed cwd armed, rest⟩⟩

/-- Timers of projects are kept when others are cleared. -/
theorem clearTimers_debounce {handles : List TimerHandle}
    (plain : ∀ handle ∈ handles, ∀ cwd, processor.timers.get? handle ≠ some (.debounce cwd)) (cwd : JsString)
    (handle : TimerHandle) :
    (processor.clearTimers handles).timers.get? handle = some (.debounce cwd) ↔
      processor.timers.get? handle = some (.debounce cwd) := by
  rw [get?_clearTimers]
  exact ⟨And.left, fun found => ⟨found, fun inside => plain handle inside cwd found⟩⟩

theorem setTimer_debounce (tracked : processor.Tracked) {handles : List TimerHandle} {set : TimerCallback}
    (plain : ∀ handle ∈ handles, ∀ cwd, processor.timers.get? handle ≠ some (.debounce cwd))
    (other : ∀ cwd, set ≠ .debounce cwd) (cwd : JsString) (handle : TimerHandle) :
    ((processor.clearTimers handles).setTimer set).timers.get? handle = some (.debounce cwd) ↔
      processor.timers.get? handle = some (.debounce cwd) := by
  rw [get?_setTimer]
  constructor
  · rintro (⟨_, same⟩ | ⟨_, found, _⟩)
    · exact absurd same (other cwd)
    · exact found
  · exact fun found => .inr ⟨tracked.fresh_ne found, found, fun inside => plain handle inside cwd found⟩

/-- A timer of another kind stays when the ones that are cleared are not of it. -/
theorem get?_setTimer_other (tracked : processor.Tracked) {handles : List TimerHandle} {set callback : TimerCallback}
    (kept : ∀ handle ∈ handles, processor.timers.get? handle ≠ some callback) {handle : TimerHandle}
    (found : processor.timers.get? handle = some callback) :
    ((processor.clearTimers handles).setTimer set).timers.get? handle = some callback :=
  (get?_setTimer ..).mpr (.inr ⟨tracked.fresh_ne found, found, fun inside => kept handle inside found⟩)

theorem setTimer_fresh (tracked : processor.Tracked) (handles : List TimerHandle) (set : TimerCallback) :
    ∀ handle callback, ((processor.clearTimers handles).setTimer set).timers.get? handle = some callback →
      handle < processor.nextHandle + 1 := by
  intro handle callback found
  rcases (get?_setTimer ..).mp found with ⟨new, _⟩ | ⟨_, old, _⟩
  · exact new ▸ Nat.lt_succ_self _
  · exact Nat.lt_succ_of_lt (tracked.fresh handle callback old)

/-- The armed projects of a processor are those of one with the same debounce timers. -/
theorem armed_congr {other : PassiveEventProcessor} (same : other.debounceTimers = processor.debounceTimers)
    (timers : ∀ cwd handle, other.timers.get? handle = some (.debounce cwd) ↔
      processor.timers.get? handle = some (.debounce cwd)) (cwd : JsString) :
    other.Armed cwd ↔ processor.Armed cwd := by
  simp only [Armed, same, timers]

/-- A timer of one kind is no timer of another. -/
theorem ne_of_kind {handles : List TimerHandle} {kind : TimerCallback}
    (old : ∀ handle ∈ handles, processor.timers.get? handle = some kind) (callback : TimerCallback)
    (other : callback ≠ kind) : ∀ handle ∈ handles, processor.timers.get? handle ≠ some callback :=
  fun handle inside found => other (Option.some.inj (found.symm.trans (old handle inside)))

theorem scheduleSweep_rearmed (tracked : processor.Tracked) : Rearmed processor processor.scheduleSweep := by
  have old : ∀ handle ∈ processor.sweepTimer.toList, processor.timers.get? handle = some .sweep :=
    fun handle inside => tracked.sweep handle (Option.mem_toList.mp inside)
  have timers := @setTimer_debounce processor tracked _ .sweep
    (fun handle inside cwd => ne_of_kind old (.debounce cwd) nofun handle inside) nofun
  have armed := @armed_congr processor processor.scheduleSweep rfl timers
  refine ⟨⟨?_, ?_, ?_, ?_, ?_, ?_⟩, fun cwd => (armed cwd).mpr, rfl, rfl, rfl, rfl, rfl, rfl⟩
  · exact fun cwd handle => (tracked.debounce cwd handle).trans (timers cwd handle).symm
  · exact fun cwd deadline known => (armed cwd).mpr (tracked.deadline cwd deadline known)
  · exact fun handle set => (get?_setTimer ..).mpr (.inl ⟨(Option.some.inj set).symm, rfl⟩)
  · exact fun handle set => get?_setTimer_other tracked (ne_of_kind old .sweepInterval nofun) (tracked.interval handle set)
  · exact fun handle set => get?_setTimer_other tracked (ne_of_kind old .followUp nofun) (tracked.followUp handle set)
  · exact setTimer_fresh tracked _ _

theorem start_rearmed (tracked : processor.Tracked) : Rearmed processor processor.start := by
  unfold start
  split
  · exact tracked.rearmed
  · have swept := scheduleSweep_rearmed tracked
    refine swept.trans ?_
    generalize processor.scheduleSweep = swept' at swept
    have tracked := swept.tracked
    have cleared : swept'.clearTimers [] = swept' := by
      simp [clearTimers, KeyedTable.retain]
    have timers := @setTimer_debounce swept' tracked [] .sweepInterval (by simp) (by simp)
    have keeps : ∀ callback handle, swept'.timers.get? handle = some callback →
        (swept'.setTimer .sweepInterval).timers.get? handle = some callback := by
      intro callback handle found
      have kept := @get?_setTimer_other swept' tracked [] .sweepInterval callback (by simp) handle found
      rwa [cleared] at kept
    rw [cleared] at timers
    have armed := @armed_congr swept' { swept'.setTimer .sweepInterval with sweepInterval := some swept'.nextHandle }
      rfl timers
    refine ⟨⟨?_, ?_, ?_, ?_, ?_, ?_⟩, fun cwd => (armed cwd).mpr, rfl, rfl, rfl, rfl, rfl, rfl⟩
    · exact fun cwd handle => (tracked.debounce cwd handle).trans (timers cwd handle).symm
    · exact fun cwd deadline known => (armed cwd).mpr (tracked.deadline cwd deadline known)
    · exact fun handle set => keeps _ _ (tracked.sweep handle set)
    · intro handle set
      have new := (@get?_setTimer swept' [] .sweepInterval handle .sweepInterval).mpr
        (.inl ⟨(Option.some.inj set).symm, rfl⟩)
      rwa [cleared] at new
    · exact fun handle set => keeps _ _ (tracked.followUp handle set)
    · have fresh := setTimer_fresh tracked [] .sweepInterval
      rwa [cleared] at fresh

theorem scheduleReplicationFollowUp_rearmed (tracked : processor.Tracked) (deferred : Bool) :
    Rearmed processor (processor.scheduleReplicationFollowUp deferred) := by
  have old : ∀ handle ∈ processor.followUpTimer.toList, processor.timers.get? handle = some .followUp :=
    fun handle inside => tracked.followUp handle (Option.mem_toList.mp inside)
  have plain := fun handle inside cwd => ne_of_kind old (.debounce cwd) nofun handle inside
  dsimp only [scheduleReplicationFollowUp]
  split
  · have timers := clearTimers_debounce plain
    have armed := @armed_congr processor
      { processor.clearTimers processor.followUpTimer.toList with followUpTimer := none } rfl timers
    have kept : ∀ callback, callback ≠ .followUp → ∀ handle, processor.timers.get? handle = some callback →
        (processor.clearTimers processor.followUpTimer.toList).timers.get? handle = some callback :=
      fun callback other handle found => (get?_clearTimers ..).mpr
        ⟨found, fun inside => ne_of_kind old callback other handle inside found⟩
    refine ⟨⟨?_, ?_, ?_, ?_, nofun, ?_⟩, fun cwd => (armed cwd).mpr, rfl, rfl, rfl, rfl, rfl, rfl⟩
    · exact fun cwd handle => (tracked.debounce cwd handle).trans (timers cwd handle).symm
    · exact fun cwd deadline known => (armed cwd).mpr (tracked.deadline cwd deadline known)
    · exact fun handle set => kept .sweep nofun handle (tracked.sweep handle set)
    · exact fun handle set => kept .sweepInterval nofun handle (tracked.interval handle set)
    · exact fun handle callback found => tracked.fresh handle callback ((get?_clearTimers ..).mp found).1
  · have timers := @setTimer_debounce processor tracked _ .followUp plain nofun
    refine ⟨⟨?_, ?_, ?_, ?_, ?_, ?_⟩, ?_, rfl, rfl, rfl, rfl, rfl, rfl⟩
    · exact fun cwd handle => (tracked.debounce cwd handle).trans (timers cwd handle).symm
    · intro cwd deadline known
      refine (@armed_congr processor _ ?_ ?_ cwd).mpr (tracked.deadline cwd deadline known)
      · rfl
      · exact timers
    · exact fun handle set => get?_setTimer_other tracked (ne_of_kind old .sweep nofun) (tracked.sweep handle set)
    · exact fun handle set => get?_setTimer_other tracked (ne_of_kind old .sweepInterval nofun) (tracked.interval handle set)
    · exact fun handle set => (get?_setTimer ..).mpr (.inl ⟨(Option.some.inj set).symm, rfl⟩)
    · exact setTimer_fresh tracked _ _
    · intro cwd
      refine (@armed_congr processor _ ?_ ?_ cwd).mpr
      · rfl
      · exact timers

end Timers

section Projects

variable {processor : PassiveEventProcessor}

/-- No notified project is forgotten while some projects wait in the list of a drain. -/
def Kept (processor : PassiveEventProcessor) (waiting : List JsString) : Prop :=
  processor.stopped = false → processor.halted = false →
    ∀ cwd ∈ processor.notified, processor.Queued cwd ∨ cwd ∈ waiting

/-- The same without the timers. -/
def Listed (processor : PassiveEventProcessor) (waiting : List JsString) : Prop :=
  processor.stopped = false → processor.halted = false →
    ∀ cwd ∈ processor.notified, cwd ∈ processor.queuedProjects ∨ cwd ∈ waiting

theorem Kept.listed {waiting : List JsString} (kept : processor.Kept waiting) : processor.Listed waiting :=
  fun running admitted cwd notified => (kept running admitted cwd notified).imp And.left id

theorem Rearmed.kept {after : PassiveEventProcessor} (rearmed : Rearmed processor after) {waiting : List JsString}
    (kept : processor.Kept waiting) : after.Kept waiting := by
  intro running admitted cwd notified
  rw [rearmed.notified] at notified
  rcases kept (rearmed.stopped ▸ running) (rearmed.halted ▸ admitted) cwd notified with ⟨queued, armed⟩ | waits
  · exact .inl ⟨rearmed.queued ▸ queued, rearmed.armed cwd armed⟩
  · exact .inr waits

theorem kept_of_halted (halted : processor.halted = true) (waiting : List JsString) : processor.Kept waiting :=
  fun _ admitted => absurd (halted.symm.trans admitted) Bool.true_eq_false.mp

theorem kept_of_stopped (stopped : processor.stopped = true) (waiting : List JsString) : processor.Kept waiting :=
  fun running => absurd (stopped.symm.trans running) Bool.true_eq_false.mp

/-- The attempt at a project takes it from the list. -/
theorem Kept.attempt {cwd : JsString} {waiting : List JsString} (kept : processor.Kept (cwd :: waiting)) :
    (processor.attempt cwd).Kept waiting := by
  intro running admitted other notified
  obtain ⟨notified, different⟩ := List.mem_filter.mp notified
  refine (kept running admitted other notified).imp id fun waits => ?_
  exact (List.mem_cons.mp waits).resolve_left (of_decide_eq_true different)

theorem Kept.more {waiting : List JsString} (kept : processor.Kept waiting) (cwd : JsString) :
    processor.Kept (cwd :: waiting) :=
  fun running admitted other notified => (kept running admitted other notified).imp id (List.mem_cons_of_mem _)

theorem mem_queue {cwd other : JsString} :
    other ∈ (processor.queue cwd).queuedProjects ↔ other = cwd ∨ other ∈ processor.queuedProjects := by
  unfold queue
  split
  · next inside =>
      constructor
      · exact .inr
      · rintro (rfl | queued)
        · exact inside
        · exact queued
  · rw [List.mem_append, List.mem_singleton, or_comm]

theorem Kept.queue {waiting : List JsString} (kept : processor.Kept waiting) (cwd : JsString) :
    (processor.queue cwd).Kept waiting :=
  fun running admitted other notified => (kept running admitted other notified).imp
    (fun queued => ⟨mem_queue.mpr (.inr queued.1), queued.2⟩) id

/-- What the processor knows of its timers does not depend on its other fields. -/
theorem Tracked.congr (tracked : processor.Tracked) {other : PassiveEventProcessor}
    (debounceTimers : other.debounceTimers = processor.debounceTimers)
    (debounceDeadlines : other.debounceDeadlines = processor.debounceDeadlines)
    (sweepTimer : other.sweepTimer = processor.sweepTimer)
    (sweepInterval : other.sweepInterval = processor.sweepInterval)
    (followUpTimer : other.followUpTimer = processor.followUpTimer) (timers : other.timers = processor.timers)
    (nextHandle : other.nextHandle = processor.nextHandle) : other.Tracked := by
  refine ⟨?_, ?_, ?_, ?_, ?_, ?_⟩
  · rw [debounceTimers, timers]
    exact tracked.debounce
  · rw [debounceDeadlines]
    intro cwd deadline known
    exact (armed_congr debounceTimers (by rw [timers]; exact fun _ _ => Iff.rfl) cwd).mpr
      (tracked.deadline cwd deadline known)
  · rw [sweepTimer, timers]
    exact tracked.sweep
  · rw [sweepInterval, timers]
    exact tracked.interval
  · rw [followUpTimer, timers]
    exact tracked.followUp
  · rw [timers, nextHandle]
    exact tracked.fresh

theorem clearScheduledWork_tracked (tracked : processor.Tracked) : processor.clearScheduledWork.Tracked := by
  have none' : ∀ cwd handle, processor.clearScheduledWork.timers.get? handle ≠ some (.debounce cwd) := by
    intro cwd handle found
    obtain ⟨set, kept⟩ := (get?_clearTimers ..).mp found
    have known := (tracked.debounce cwd handle).mpr set
    refine kept (List.mem_append_left _ (List.mem_append_left _ (List.mem_append_left _ ?_)))
    exact List.mem_map.mpr ⟨(cwd, handle), KeyedTable.get?_eq_some.mp known, rfl⟩
  refine ⟨?_, nofun, nofun, nofun, nofun, ?_⟩
  · exact fun cwd handle => ⟨nofun, fun found => absurd found (none' cwd handle)⟩
  · exact fun handle callback found => tracked.fresh handle callback ((get?_clearTimers ..).mp found).1

theorem haltForBackendMismatch_tracked (tracked : processor.Tracked) : processor.haltForBackendMismatch.Tracked :=
  clearScheduledWork_tracked (tracked.congr rfl rfl rfl rfl rfl rfl rfl)

theorem stop_tracked (tracked : processor.Tracked) : processor.stop.Tracked :=
  clearScheduledWork_tracked (tracked.congr rfl rfl rfl rfl rfl rfl rfl)

end Projects

section Activities

variable {defaults : PassiveEventProcessorDefaults} {replicates : Bool} {processor : PassiveEventProcessor}

/-- An activity goes on: it ends or waits again, and forgets no project. -/
structure Continues (processor : PassiveEventProcessor) (waiting : List JsString)
    (result : PassiveEventProcessor × Option Activity) : Prop where
  tracked : result.1.Tracked
  busy : result.1.draining = result.2.isSome
  kept : processor.Kept waiting → result.1.Kept (result.2.elim [] Activity.waiting)

theorem finishDrain_rearmed (tracked : processor.Tracked) (defaults : PassiveEventProcessorDefaults) (now : Int) :
    Rearmed { processor with draining := false } (processor.finishDrain defaults now) := by
  have ended : ({ processor with draining := false } : PassiveEventProcessor).Tracked :=
    tracked.congr rfl rfl rfl rfl rfl rfl rfl
  dsimp only [finishDrain]
  split
  · exact ended.rearmed
  · exact (scheduleProjects_rearmed ended _ _ _).1

theorem finishDrain_continues (tracked : processor.Tracked) (now : Int) :
    Continues processor [] (processor.finishDrain defaults now, none) := by
  have rearmed := finishDrain_rearmed tracked defaults now
  exact ⟨rearmed.tracked, rearmed.draining, rearmed.kept⟩

theorem finishSweep_continues (tracked : processor.Tracked) (now : Int) :
    Continues processor [] (processor.finishSweep defaults now, none) := by
  have drained := finishDrain_rearmed tracked defaults now
  have rearmed := drained.trans (scheduleReplicationFollowUp_rearmed drained.tracked false)
  exact ⟨rearmed.tracked, rearmed.draining, rearmed.kept⟩

theorem halt_continues (tracked : processor.Tracked) (busy : processor.draining = true) (waiting : List JsString)
    (activity : Activity) : Continues processor waiting (processor.haltForBackendMismatch, some activity) :=
  ⟨haltForBackendMismatch_tracked tracked, busy, fun _ => kept_of_halted rfl _⟩

/-- An activity waits again and the projects of its list stay in it. -/
theorem waits_continues (tracked : processor.Tracked) (busy : processor.draining = true) {waiting : List JsString}
    {activity : Activity} (same : activity.waiting = waiting) :
    Continues processor waiting (processor, some activity) := by
  subst same
  exact ⟨tracked, busy, id⟩

theorem drainProjects_continues (tracked : processor.Tracked) (busy : processor.draining = true) (now : Int)
    (waiting : List JsString) : Continues processor waiting (processor.drainProjects defaults now waiting) := by
  unfold drainProjects
  split
  · exact finishDrain_continues tracked now
  · next cwd waiting =>
      split
      · next halted =>
          have ended := @finishDrain_continues defaults processor tracked now
          exact ⟨ended.tracked, ended.busy, fun _ =>
            kept_of_halted ((finishDrain_rearmed tracked defaults now).halted.trans halted) _⟩
      · exact ⟨tracked.congr rfl rfl rfl rfl rfl rfl rfl, busy, fun kept => kept.attempt⟩

theorem promotionSettled_continues (tracked : processor.Tracked) (busy : processor.draining = true) (cwd : JsString)
    (batch : Nat) (waiting : List JsString) (outcome : Except Rejection PromoteResult) :
    Continues processor waiting (processor.promotionSettled defaults cwd batch waiting outcome) := by
  unfold promotionSettled
  split
  · split
    · exact halt_continues tracked busy waiting _
    · exact waits_continues tracked busy rfl
  · dsimp only
    split
    · exact waits_continues tracked busy rfl
    · split
      · exact ⟨tracked.congr rfl rfl rfl rfl rfl rfl rfl, busy, fun kept => (kept.more cwd).attempt⟩
      · split
        · exact waits_continues tracked busy rfl
        · exact ⟨tracked.congr rfl rfl rfl rfl rfl rfl rfl, busy, fun kept => kept.queue cwd⟩

theorem replicateRest_continues (tracked : processor.Tracked) (busy : processor.draining = true)
    (sidecars : List EventSidecar) : Continues processor [] (processor.replicateRest sidecars) := by
  induction sidecars with
  | nil => exact waits_continues tracked busy rfl
  | cons sidecar rest ih =>
      unfold replicateRest
      split
      · exact waits_continues tracked busy rfl
      · split
        · exact ih
        · exact waits_continues tracked busy rfl

theorem replicateSidecars_continues (tracked : processor.Tracked) (busy : processor.draining = true)
    (sidecars : List EventSidecar) : Continues processor [] (processor.replicateSidecars replicates sidecars) := by
  unfold replicateSidecars
  split
  · exact replicateRest_continues tracked busy sidecars
  · exact waits_continues tracked busy rfl

theorem sweepRest_continues (tracked : processor.Tracked) (busy : processor.draining = true) (now : Int)
    (all rest : List EventSidecar) :
    Continues processor [] (processor.sweepRest defaults replicates now all rest) := by
  induction rest with
  | nil => exact replicateSidecars_continues tracked busy all
  | cons sidecar rest ih =>
      unfold sweepRest
      split
      · exact finishSweep_continues tracked now
      · split
        · exact ih
        · split
          · exact ih
          · next cwd _ =>
              exact ⟨tracked.congr rfl rfl rfl rfl rfl rfl rfl, busy, fun kept => (kept.more cwd).attempt⟩

theorem scanSettled_continues (tracked : processor.Tracked) (busy : processor.draining = true) (now : Int)
    (sidecars : Option (List EventSidecar)) :
    Continues processor [] (processor.scanSettled defaults replicates now sidecars) := by
  unfold scanSettled
  split
  · exact finishSweep_continues tracked now
  · next sidecars =>
      have swept := @sweepRest_continues defaults replicates
        { processor with
          sweepStartIndex := processor.sweepStartIndex +
            max 1 (sidecars.filter fun sidecar => !sidecar.scanSkipped).length }
        (tracked.congr rfl rfl rfl rfl rfl rfl rfl) busy now sidecars sidecars
      exact ⟨swept.tracked, swept.busy, swept.kept⟩

theorem sweepPromotionSettled_continues (tracked : processor.Tracked) (busy : processor.draining = true) (now : Int)
    (rest all : List EventSidecar) (outcome : Except Rejection PromoteResult) :
    Continues processor [] (processor.sweepPromotionSettled defaults replicates now rest all outcome) := by
  unfold sweepPromotionSettled
  split
  · split
    · exact halt_continues tracked busy [] _
    · exact waits_continues tracked busy rfl
  · exact sweepRest_continues tracked busy now all rest

theorem replicationSettled_continues (tracked : processor.Tracked) (busy : processor.draining = true)
    (sidecar : EventSidecar) (rest : List EventSidecar)
    (outcome : Except Rejection (Option PassiveEventReplicationResult)) :
    Continues processor [] (processor.replicationSettled sidecar rest outcome) := by
  have stored : ∀ backlog, Continues processor []
      ({ processor with replicationBacklog := backlog }.replicateRest rest) := by
    intro backlog
    have continued := @replicateRest_continues { processor with replicationBacklog := backlog }
      (tracked.congr rfl rfl rfl rfl rfl rfl rfl) busy rest
    exact ⟨continued.tracked, continued.busy, continued.kept⟩
  unfold replicationSettled
  dsimp only
  split
  · split
    · exact halt_continues tracked busy [] _
    · exact ⟨tracked.congr rfl rfl rfl rfl rfl rfl rfl, busy, id⟩
  · exact stored _
  · split
    · exact stored _
    · exact stored _

/-- An entry point runs: it begins an activity only when none runs, and forgets no project. -/
structure Enters (processor : PassiveEventProcessor) (waiting : List JsString)
    (result : PassiveEventProcessor × Option Activity) : Prop where
  tracked : result.1.Tracked
  busy : result.1.draining = (processor.draining || result.2.isSome)
  single : processor.draining = true → result.2 = none
  kept : (processor.draining = false → waiting = []) → processor.Kept waiting →
    result.1.Kept (waiting ++ result.2.elim [] Activity.waiting)

/-- An entry point that begins no activity. -/
theorem Rearmed.enters {after : PassiveEventProcessor} (rearmed : Rearmed processor after) (waiting : List JsString) :
    Enters processor waiting (after, none) := by
  refine ⟨rearmed.tracked, ?_, fun _ => rfl, fun _ kept => ?_⟩
  · rw [rearmed.draining, Option.isSome_none, Bool.or_false]
  · rw [Option.elim_none, List.append_nil]
    exact rearmed.kept kept

theorem Enters.of_rearmed {before : PassiveEventProcessor} (rearmed : Rearmed before processor)
    {waiting : List JsString} {result : PassiveEventProcessor × Option Activity}
    (enters : Enters processor waiting result) : Enters before waiting result := by
  refine ⟨enters.tracked, ?_, fun busy => ?_, fun idle kept => ?_⟩
  · rw [← rearmed.draining]
    exact enters.busy
  · exact enters.single (rearmed.draining.trans busy)
  · exact enters.kept (fun free => idle (rearmed.draining ▸ free)) (rearmed.kept kept)

theorem runSweep_enters (tracked : processor.Tracked) (waiting : List JsString) :
    Enters processor waiting processor.runSweep := by
  unfold runSweep
  split
  · exact tracked.rearmed.enters waiting
  · split
    · exact (scheduleSweep_rearmed tracked).enters waiting
    · next free =>
        refine ⟨tracked.congr rfl rfl rfl rfl rfl rfl rfl, (Bool.or_true _).symm, fun busy => absurd busy free,
          fun idle kept => ?_⟩
        rw [idle (Bool.eq_false_iff.mpr free)] at kept ⊢
        exact kept

theorem runReplicationFollowUp_enters (tracked : processor.Tracked) (waiting : List JsString) :
    Enters processor waiting (processor.runReplicationFollowUp replicates) := by
  unfold runReplicationFollowUp
  split
  · exact tracked.rearmed.enters waiting
  · split
    · exact (scheduleReplicationFollowUp_rearmed tracked _).enters waiting
    · next free =>
        split
        · exact (scheduleReplicationFollowUp_rearmed tracked _).enters waiting
        · have continued := @replicateSidecars_continues replicates { processor with draining := true }
            (tracked.congr rfl rfl rfl rfl rfl rfl rfl) rfl processor.replicationBacklog.rows
          refine ⟨continued.tracked, ?_, fun busy => absurd busy free, fun idle kept => ?_⟩
          · rw [Bool.eq_false_iff.mpr free, Bool.false_or]
            exact continued.busy
          · rw [idle (Bool.eq_false_iff.mpr free)] at kept ⊢
            exact continued.kept kept

/-- The queue of a drain becomes its list, so its projects need no timers. -/
theorem drainQueuedProjects_enters (tracked : processor.Tracked) (now : Int) {waiting : List JsString} :
    let result := processor.drainQueuedProjects defaults now
    result.1.Tracked ∧ result.1.draining = (processor.draining || result.2.isSome) ∧
      (processor.draining = true → result.2 = none) ∧
      ((processor.draining = false → waiting = []) → processor.Listed waiting →
        result.1.Kept (waiting ++ result.2.elim [] Activity.waiting)) := by
  dsimp only [drainQueuedProjects]
  split
  · next stopped =>
      exact ⟨tracked, (Bool.or_false _).symm, fun _ => rfl, fun _ _ => kept_of_stopped stopped _⟩
  · split
    · next busy =>
        obtain ⟨rearmed, armed⟩ := scheduleProjects_rearmed tracked processor.queuedProjects defaults.debounceMs now
        refine ⟨rearmed.tracked, rearmed.draining.trans (Bool.or_false _).symm, fun _ => rfl, fun _ listed => ?_⟩
        intro running admitted cwd notified
        rw [rearmed.notified] at notified
        rw [Option.elim_none, List.append_nil]
        refine (listed (rearmed.stopped ▸ running) (rearmed.halted ▸ admitted) cwd notified).imp (fun queued => ?_) id
        refine ⟨?_, armed cwd queued⟩
        rw [rearmed.queued]
        exact queued
    · next free =>
        have idle := Bool.eq_false_iff.mpr free
        have continued := @drainProjects_continues defaults { processor with draining := true, queuedProjects := [] }
          (tracked.congr rfl rfl rfl rfl rfl rfl rfl) rfl now processor.queuedProjects
        refine ⟨continued.tracked, ?_, fun busy => absurd busy free, fun none' listed => ?_⟩
        · rw [idle, Bool.false_or]
          exact continued.busy
        · rw [none' idle] at listed ⊢
          refine continued.kept fun running admitted cwd notified => ?_
          exact .inr ((listed running admitted cwd notified).resolve_right List.not_mem_nil)

theorem fire_debounce_tracked (tracked : processor.Tracked) {handle : TimerHandle} {cwd : JsString}
    (found : processor.timers.get? handle = some (.debounce cwd)) :
    ({ processor.clearTimers [handle] with
      debounceTimers := processor.debounceTimers.erase cwd,
      debounceDeadlines := processor.debounceDeadlines.erase cwd } : PassiveEventProcessor).Tracked := by
  have known := (tracked.debounce cwd handle).mpr found
  have others : ∀ other, other ≠ cwd → ∀ timer, processor.debounceTimers.get? other = some timer → timer ≠ handle := by
    intro other different timer set same
    have callback := (tracked.debounce other timer).mp set
    rw [same, found] at callback
    exact different (TimerCallback.debounce.inj (Option.some.inj callback)).symm
  have kept : ∀ callback, callback ≠ .debounce cwd → ∀ timer, processor.timers.get? timer = some callback →
      (processor.clearTimers [handle]).timers.get? timer = some callback := by
    intro callback different timer set
    refine (get?_clearTimers ..).mpr ⟨set, fun same => ?_⟩
    rw [List.mem_singleton.mp same, found] at set
    exact different (Option.some.inj set).symm
  have debounce : ∀ other timer, (processor.debounceTimers.erase cwd).get? other = some timer ↔
      (processor.clearTimers [handle]).timers.get? timer = some (.debounce other) := by
    intro other timer
    rw [KeyedTable.get?_erase, get?_clearTimers]
    by_cases same : other = cwd
    · subst same
      rw [if_pos rfl]
      refine ⟨nofun, fun set => absurd ?_ set.2⟩
      have own := (tracked.debounce other timer).mpr set.1
      exact List.mem_singleton.mpr (Option.some.inj (own.symm.trans known))
    · rw [if_neg same, tracked.debounce]
      refine ⟨fun set => ⟨set, fun inside => ?_⟩, And.left⟩
      exact others other same timer ((tracked.debounce other timer).mpr set) (List.mem_singleton.mp inside)
  refine ⟨debounce, ?_, ?_, ?_, ?_, ?_⟩
  · intro other deadline set
    rw [KeyedTable.get?_erase] at set
    by_cases same : other = cwd
    · rw [if_pos same] at set
      cases set
    · rw [if_neg same] at set
      obtain ⟨timer, own, _⟩ := tracked.deadline other deadline set
      have erased : (processor.debounceTimers.erase cwd).get? other = some timer := by
        rw [KeyedTable.get?_erase, if_neg same]
        exact own
      exact ⟨timer, erased, (debounce other timer).mp erased⟩
  · exact fun timer set => kept .sweep nofun timer (tracked.sweep timer set)
  · exact fun timer set => kept .sweepInterval nofun timer (tracked.interval timer set)
  · exact fun timer set => kept .followUp nofun timer (tracked.followUp timer set)
  · exact fun timer callback set => tracked.fresh timer callback ((get?_clearTimers ..).mp set).1

theorem fire_sweep_rearmed (tracked : processor.Tracked) {handle : TimerHandle}
    (found : processor.timers.get? handle = some .sweep) :
    Rearmed processor { processor.clearTimers [handle] with sweepTimer := none } := by
  have old : ∀ timer ∈ [handle], processor.timers.get? timer = some .sweep :=
    fun timer inside => List.mem_singleton.mp inside ▸ found
  have timers := clearTimers_debounce fun timer inside cwd => ne_of_kind old (.debounce cwd) nofun timer inside
  have armed := @armed_congr processor { processor.clearTimers [handle] with sweepTimer := none } rfl timers
  refine ⟨⟨?_, ?_, nofun, ?_, ?_, ?_⟩, fun cwd => (armed cwd).mpr, rfl, rfl, rfl, rfl, rfl, rfl⟩
  · exact fun cwd timer => (tracked.debounce cwd timer).trans (timers cwd timer).symm
  · exact fun cwd deadline known => (armed cwd).mpr (tracked.deadline cwd deadline known)
  · exact fun timer set => (get?_clearTimers ..).mpr
      ⟨tracked.interval timer set, fun inside => ne_of_kind old .sweepInterval nofun timer inside (tracked.interval timer set)⟩
  · exact fun timer set => (get?_clearTimers ..).mpr
      ⟨tracked.followUp timer set, fun inside => ne_of_kind old .followUp nofun timer inside (tracked.followUp timer set)⟩
  · exact fun timer callback set => tracked.fresh timer callback ((get?_clearTimers ..).mp set).1

theorem fire_followUp_rearmed (tracked : processor.Tracked) {handle : TimerHandle}
    (found : processor.timers.get? handle = some .followUp) :
    Rearmed processor { processor.clearTimers [handle] with followUpTimer := none } := by
  have old : ∀ timer ∈ [handle], processor.timers.get? timer = some .followUp :=
    fun timer inside => List.mem_singleton.mp inside ▸ found
  have timers := clearTimers_debounce fun timer inside cwd => ne_of_kind old (.debounce cwd) nofun timer inside
  have armed := @armed_congr processor { processor.clearTimers [handle] with followUpTimer := none } rfl timers
  refine ⟨⟨?_, ?_, ?_, ?_, nofun, ?_⟩, fun cwd => (armed cwd).mpr, rfl, rfl, rfl, rfl, rfl, rfl⟩
  · exact fun cwd timer => (tracked.debounce cwd timer).trans (timers cwd timer).symm
  · exact fun cwd deadline known => (armed cwd).mpr (tracked.deadline cwd deadline known)
  · exact fun timer set => (get?_clearTimers ..).mpr
      ⟨tracked.sweep timer set, fun inside => ne_of_kind old .sweep nofun timer inside (tracked.sweep timer set)⟩
  · exact fun timer set => (get?_clearTimers ..).mpr
      ⟨tracked.interval timer set, fun inside => ne_of_kind old .sweepInterval nofun timer inside (tracked.interval timer set)⟩
  · exact fun timer callback set => tracked.fresh timer callback ((get?_clearTimers ..).mp set).1

theorem fire_enters (tracked : processor.Tracked) {handle : TimerHandle} {callback : TimerCallback}
    (found : processor.timers.get? handle = some callback) (now : Int) (waiting : List JsString) :
    Enters processor waiting (processor.fire defaults replicates handle now callback) := by
  cases callback with
  | debounce cwd =>
      obtain ⟨after, busy, single, kept⟩ := @drainQueuedProjects_enters defaults _ (fire_debounce_tracked tracked found)
        now waiting
      exact ⟨after, busy, single, fun idle all => kept idle all.listed⟩
  | sweep =>
      have fired := fire_sweep_rearmed tracked found
      exact .of_rearmed fired (runSweep_enters fired.tracked waiting)
  | sweepInterval => exact runSweep_enters tracked waiting
  | followUp =>
      have fired := fire_followUp_rearmed tracked found
      exact .of_rearmed fired (runReplicationFollowUp_enters fired.tracked waiting)

/-- A notified project is queued with a timer. -/
theorem notify_kept (tracked : processor.Tracked) (validateCwd : JsString → Option JsString)
    (input : PassiveEventNotification) (now : Int) (waiting : List JsString) :
    let after := processor.notify defaults validateCwd input now
    after.Tracked ∧ after.draining = processor.draining ∧ after.running = processor.running ∧
      (processor.Kept waiting → after.Kept waiting) := by
  unfold notify
  split
  · exact ⟨tracked, rfl, rfl, id⟩
  · split
    · exact ⟨tracked, rfl, rfl, id⟩
    · next cwd _ =>
        have queued : (processor.queue cwd).Tracked := tracked.congr rfl rfl rfl rfl rfl rfl rfl
        obtain ⟨rearmed, armed⟩ := scheduleProject_rearmed queued cwd
          (if normalizePriority input.priority = some 1 ∨
              defaults.activeProjectThreshold ≤ normalizePendingCount input.pendingCount
            then defaults.priorityDelayMs else defaults.debounceMs) now
        refine ⟨rearmed.tracked.congr rfl rfl rfl rfl rfl rfl rfl, rearmed.draining, rearmed.running, fun kept => ?_⟩
        intro running admitted other notified
        rcases List.mem_cons.mp notified with rfl | before
        · refine .inl ⟨?_, armed⟩
          show other ∈ (PassiveEventProcessor.scheduleProject _ _ _ _).queuedProjects
          rw [rearmed.queued]
          exact mem_queue.mpr (.inl rfl)
        · have later := rearmed.kept (kept.queue cwd)
          exact later running admitted other (rearmed.notified ▸ before)

end Activities

end Lcm.Daemon.PassiveEventProcessor
