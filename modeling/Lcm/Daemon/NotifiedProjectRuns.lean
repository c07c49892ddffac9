import Lcm.Daemon.NotifiedProjects

namespace Lcm.Daemon.PassiveEventProcessor
open Text

section Steps

variable {defaults : PassiveEventProcessorDefaults} {replicates : Bool} {validateCwd : JsString → Option JsString}

/-- While the processor is neither stopped nor halted, each project notified since its last promotion attempt is
queued with a timer or waits in the list of the drain that runs. -/
def NoneForgotten (processor : PassiveEventProcessor) : Prop :=
  processor.Kept (processor.running.flatMap Activity.waiting)

/-- At most one activity runs, and the flag says whether one does. -/
structure Sound (processor : PassiveEventProcessor) : Prop where
  tracked : processor.Tracked
  single : processor.running.length ≤ 1
  busy : processor.draining = !processor.running.isEmpty

/-- When the logger rejects the report of a drain, the notified projects behind it are queued again with timers. -/
def Permitted (processor : PassiveEventProcessor) : Action → Prop
  | .resume index (.logger true) _ =>
      processor.stopped = false → processor.halted = false →
        ∀ activity, processor.running[index]? = some activity →
          ∀ cwd ∈ activity.waiting, cwd ∈ processor.notified → processor.Queued cwd
  | _ => True

theorem Sound.idle {processor : PassiveEventProcessor} (sound : processor.Sound) (free : processor.draining = false) :
    processor.running = [] := by
  have empty := sound.busy
  rw [free] at empty
  simpa using empty.symm

theorem launch_sound {processor : PassiveEventProcessor} (sound : processor.Sound)
    {result : PassiveEventProcessor × Option Activity}
    (enters : Enters processor (processor.running.flatMap Activity.waiting) result) :
    (processor.launch result).Sound ∧ (processor.NoneForgotten → (processor.launch result).NoneForgotten) := by
  have waiting : (processor.launch result).running.flatMap Activity.waiting =
      processor.running.flatMap Activity.waiting ++ result.2.elim [] Activity.waiting := by
    rw [launch, List.flatMap_append]
    cases result.2 with
    | none => rfl
    | some activity => simp
  constructor
  · refine ⟨enters.tracked.congr rfl rfl rfl rfl rfl rfl rfl, ?_, enters.busy.trans ?_⟩
    · cases busy : processor.draining with
      | true => simpa [launch, enters.single busy] using sound.single
      | false =>
          rw [launch, sound.idle busy]
          cases result.2 with
          | none => exact Nat.zero_le _
          | some activity => exact Nat.le_refl _
    · rw [sound.busy, launch]
      cases result.2 with
      | none => simp
      | some activity => simp
  · intro kept
    rw [NoneForgotten, waiting]
    exact enters.kept (fun free => by rw [sound.idle free]; rfl) kept

/-- An activity that goes on keeps the projects, unless the logger rejects its report. -/
theorem resume_continues {processor : PassiveEventProcessor} (tracked : processor.Tracked)
    (busy : processor.draining = true) {activity : Activity} {answer : Answer} {now : Int}
    {result : PassiveEventProcessor × Option Activity}
    (resumed : processor.resume defaults replicates now activity answer = some result) :
    result.1.Tracked ∧ result.1.draining = result.2.isSome ∧
      ((answer = .logger true → processor.Kept []) → processor.Kept activity.waiting →
        result.1.Kept (result.2.elim [] Activity.waiting)) := by
  have plain : ∀ {result : PassiveEventProcessor × Option Activity},
      Continues processor activity.waiting result →
      result.1.Tracked ∧ result.1.draining = result.2.isSome ∧
        ((answer = .logger true → processor.Kept []) → processor.Kept activity.waiting →
          result.1.Kept (result.2.elim [] Activity.waiting)) :=
    fun continued => ⟨continued.tracked, continued.busy, fun _ => continued.kept⟩
  unfold resume at resumed
  split at resumed
  · cases resumed
    exact plain (promotionSettled_continues tracked busy ..)
  · next rejects =>
      cases resumed
      refine ⟨tracked, busy, fun rejected kept => ?_⟩
      cases rejects with
      | true => exact rejected rfl
      | false => exact kept
  · next rejects =>
      cases resumed
      refine ⟨tracked, busy, fun rejected kept => ?_⟩
      cases rejects with
      | true => exact rejected rfl
      | false => exact kept
  · cases resumed
    exact plain (drainProjects_continues tracked busy ..)
  · cases resumed
    exact plain (finishDrain_continues tracked ..)
  · cases resumed
    exact plain (scanSettled_continues tracked busy ..)
  · cases resumed
    exact plain (sweepPromotionSettled_continues tracked busy ..)
  · next rejects =>
      cases resumed
      cases rejects with
      | true => exact plain (finishSweep_continues tracked ..)
      | false => exact plain (sweepRest_continues tracked busy ..)
  · cases resumed
    exact plain (waits_continues tracked busy rfl)
  · cases resumed
    exact plain (replicationSettled_continues tracked busy ..)
  · cases resumed
    exact plain (replicateRest_continues tracked busy ..)
  · cases resumed
    exact plain (finishSweep_continues tracked ..)
  · cases resumed

/-- The only activity that runs. -/
theorem Sound.running_eq {processor : PassiveEventProcessor} (sound : processor.Sound) {index : Nat}
    {activity : Activity} (found : processor.running[index]? = some activity) :
    index = 0 ∧ processor.running = [activity] := by
  have single := sound.single
  match running : processor.running with
  | [] => simp [running] at found
  | [only] =>
      rw [running] at found
      cases index with
      | zero => exact ⟨rfl, by simpa using found⟩
      | succ index => simp at found
  | first :: second :: rest =>
      rw [running] at single
      simp at single

theorem step_sound {processor after : PassiveEventProcessor} {action : Action} (sound : processor.Sound)
    (stepped : processor.step defaults replicates validateCwd action = some after) :
    after.Sound ∧ (processor.Permitted action → processor.NoneForgotten → after.NoneForgotten) := by
  cases action with
  | start =>
      cases stepped
      have rearmed := start_rearmed sound.tracked
      refine ⟨⟨rearmed.tracked, ?_, ?_⟩, fun _ kept => ?_⟩
      · rw [rearmed.running]
        exact sound.single
      · rw [rearmed.draining, rearmed.running]
        exact sound.busy
      · rw [NoneForgotten, rearmed.running]
        exact rearmed.kept kept
  | stop =>
      cases stepped
      exact ⟨⟨stop_tracked sound.tracked, sound.single, sound.busy⟩, fun _ _ => kept_of_stopped rfl _⟩
  | notify input now =>
      cases stepped
      obtain ⟨tracked, draining, running, kept⟩ := @notify_kept defaults _ sound.tracked validateCwd input now
        (processor.running.flatMap Activity.waiting)
      refine ⟨⟨tracked, ?_, ?_⟩, fun _ before => ?_⟩
      · rw [running]
        exact sound.single
      · rw [draining, running]
        exact sound.busy
      · rw [NoneForgotten, running]
        exact kept before
  | fire handle now =>
      obtain ⟨callback, found, launched⟩ := Option.bind_eq_some_iff.mp stepped
      cases launched
      obtain ⟨after, kept⟩ := launch_sound sound (fire_enters sound.tracked found now _)
      exact ⟨after, fun _ => kept⟩
  | flushOnce now =>
      cases stepped
      obtain ⟨tracked, busy, single, kept⟩ := @drainQueuedProjects_enters defaults _ sound.tracked now
        (processor.running.flatMap Activity.waiting)
      obtain ⟨after, kept⟩ := launch_sound sound ⟨tracked, busy, single, fun idle all => kept idle all.listed⟩
      exact ⟨after, fun _ => kept⟩
  | resume index answer now =>
      obtain ⟨activity, found, rest⟩ := Option.bind_eq_some_iff.mp stepped
      obtain ⟨⟨resumed, next⟩, went, ended⟩ := Option.bind_eq_some_iff.mp rest
      obtain ⟨rfl, only⟩ := sound.running_eq found
      have busy : processor.draining = true := by
        rw [sound.busy, only]
        rfl
      obtain ⟨tracked, flag, kept⟩ := resume_continues sound.tracked busy went
      have running : processor.running.take 0 ++ next.toList ++ processor.running.drop (0 + 1) = next.toList := by
        simp [only]
      dsimp only at ended
      rw [running] at ended
      cases ended
      refine ⟨⟨tracked.congr rfl rfl rfl rfl rfl rfl rfl, ?_, flag.trans ?_⟩, fun permitted before => ?_⟩
      · cases next with
        | none => exact Nat.zero_le _
        | some activity => exact Nat.le_refl _
      · cases next with
        | none => rfl
        | some activity => rfl
      · have waiting : next.toList.flatMap Activity.waiting = next.elim [] Activity.waiting := by
          cases next with
          | none => rfl
          | some activity => simp
        rw [NoneForgotten, only] at before
        have own : processor.Kept activity.waiting := by simpa using before
        show PassiveEventProcessor.Kept _ (next.toList.flatMap Activity.waiting)
        rw [waiting]
        refine kept (fun rejected => ?_) own
        subst rejected
        intro running admitted cwd notified
        rcases own running admitted cwd notified with queued | waits
        · exact .inl queued
        · exact .inl (permitted running admitted activity found cwd waits notified)

/-- A rejection that is not permitted forgets a project. -/
theorem step_forgets {processor after : PassiveEventProcessor} {action : Action} (sound : processor.Sound)
    (stepped : processor.step defaults replicates validateCwd action = some after)
    (forbidden : ¬ processor.Permitted action) : ¬ after.NoneForgotten := by
  unfold Permitted at forbidden
  split at forbidden
  · next index now =>
      simp only [Classical.not_forall] at forbidden
      obtain ⟨running, admitted, activity, found, cwd, waits, notified, alone⟩ := forbidden
      obtain ⟨other, same, rest⟩ := Option.bind_eq_some_iff.mp stepped
      obtain rfl := Option.some.inj (found.symm.trans same)
      obtain ⟨⟨resumed, next⟩, went, ended⟩ := Option.bind_eq_some_iff.mp rest
      obtain ⟨rfl, only⟩ := sound.running_eq found
      have thrown : resumed = processor ∧ next = some .drainThrown := by
        cases activity with
        | logging waiting =>
            cases went
            exact ⟨rfl, rfl⟩
        | haltLogging waiting =>
            cases went
            exact ⟨rfl, rfl⟩
        | promoting _ _ _ => cases went
        | nextProject _ => cases went
        | drainThrown => cases waits
        | scanning => cases waits
        | sweepPromoting _ _ => cases waits
        | sweepLogging _ _ => cases waits
        | sweepHaltLogging => cases waits
        | replicating _ _ => cases waits
        | replicateLogging _ => cases waits
        | sweepEnding => cases waits
      obtain ⟨rfl, rfl⟩ := thrown
      rw [only] at ended
      cases ended
      intro kept
      rcases kept running admitted cwd notified with queued | waits
      · exact alone queued
      · cases waits
  · exact absurd trivial forbidden

end Steps

section Runs

variable (defaults : PassiveEventProcessorDefaults) (replicates : Bool) (validateCwd : JsString → Option JsString)

/-- A run with each step's state and action. -/
inductive Run : List (PassiveEventProcessor × Action) → PassiveEventProcessor → Prop
  | start : Run [] initial
  | next {steps : List (PassiveEventProcessor × Action)} {before after : PassiveEventProcessor} {action : Action}
      (run : Run steps before) (stepped : before.step defaults replicates validateCwd action = some after) :
      Run (steps ++ [(before, action)]) after

/-- The states of a run. -/
def visited (steps : List (PassiveEventProcessor × Action)) (last : PassiveEventProcessor) :
    List PassiveEventProcessor :=
  steps.map Prod.fst ++ [last]

variable {defaults replicates validateCwd}

theorem initial_sound : initial.Sound :=
  ⟨⟨fun _ _ => ⟨nofun, nofun⟩, nofun, nofun, nofun, nofun, nofun⟩, Nat.zero_le _, rfl⟩

/-- The actions of a list are a run. -/
theorem Run.of_actions {steps : List (PassiveEventProcessor × Action)} {first last : PassiveEventProcessor}
    (run : Run defaults replicates validateCwd steps first) {actions : List Action}
    (ran : actions.foldlM (fun state action => state.step defaults replicates validateCwd action) first = some last) :
    ∃ steps, Run defaults replicates validateCwd steps last := by
  induction actions generalizing first steps with
  | nil =>
      cases ran
      exact ⟨steps, run⟩
  | cons action actions ih =>
      obtain ⟨middle, stepped, rest⟩ := Option.bind_eq_some_iff.mp ran
      exact ih (.next run stepped) rest

theorem Run.sound {steps : List (PassiveEventProcessor × Action)} {last : PassiveEventProcessor}
    (run : Run defaults replicates validateCwd steps last) : ∀ state ∈ visited steps last, state.Sound := by
  induction run with
  | start => exact fun state inside => List.mem_singleton.mp inside ▸ initial_sound
  | next _ stepped ih =>
      intro state inside
      rw [visited, List.map_append] at inside
      rcases List.mem_append.mp inside with before | now
      · exact ih state before
      · have sound := ih _ (List.mem_append_right _ (List.mem_singleton_self _))
        exact List.mem_singleton.mp now ▸ (step_sound sound stepped).1

/-- In every run at most one drain, sweep or follow-up runs at a time, and no notified project is forgotten exactly
when each rejection of the logger is permitted. -/
theorem noneForgotten_iff {steps : List (PassiveEventProcessor × Action)} {last : PassiveEventProcessor}
    (run : Run defaults replicates validateCwd steps last) :
    (∀ state ∈ visited steps last, state.running.length ≤ 1 ∧ (state.draining = true ↔ state.running ≠ [])) ∧
      ((∀ state ∈ visited steps last, state.NoneForgotten) ↔ ∀ step ∈ steps, step.1.Permitted step.2) := by
  refine ⟨fun state inside => ?_, ?_⟩
  · have sound := run.sound state inside
    exact ⟨sound.single, by simp [sound.busy]⟩
  · induction run with
    | start =>
        refine ⟨fun _ step inside => absurd inside List.not_mem_nil, fun _ state inside => ?_⟩
        rw [List.mem_singleton.mp inside]
        exact fun _ _ cwd notified => absurd notified List.not_mem_nil
    | @next steps before after action run stepped ih =>
        have sound := run.sound before (List.mem_append_right _ (List.mem_singleton_self _))
        have states : visited (steps ++ [(before, action)]) after = visited steps before ++ [after] := by
          simp [visited]
        rw [states]
        simp only [List.forall_mem_append, List.forall_mem_singleton]
        rw [ih]
        constructor
        · rintro ⟨earlier, kept⟩
          exact ⟨earlier, Classical.byContradiction fun forbidden => step_forgets sound stepped forbidden kept⟩
        · rintro ⟨earlier, permitted⟩
          have kept := ih.mpr earlier before (List.mem_append_right _ (List.mem_singleton_self _))
          exact ⟨earlier, (step_sound sound stepped).2 permitted kept⟩

end Runs

section Samples

def sampleDefaults : PassiveEventProcessorDefaults := ⟨250, 3000, 10, 1, Nat.one_pos⟩

/-- Two projects are notified, and the promotion of the first one fails in the drain of both. -/
def sampleFailure : List Action :=
  [.notify ⟨js "/a", none, none⟩ 0, .notify ⟨js "/b", none, none⟩ 0, .fire 0 3000,
    .resume 0 (.promotion (.error ⟨false⟩)) 3000]

def sampleRun (actions : List Action) : Option PassiveEventProcessor :=
  actions.foldlM (fun state action => state.step sampleDefaults true some action) initial

theorem sampleRun_run {actions : List Action} {last : PassiveEventProcessor} (ran : sampleRun actions = some last) :
    ∃ steps, Run sampleDefaults true some steps last := Run.of_actions .start ran

theorem noneForgotten_iff_sample :
    ∃ last steps, Run sampleDefaults true some steps last ∧ last.notified = [js "/b"] ∧
      ∀ state ∈ visited steps last, state.running.length ≤ 1 ∧ (state.draining = true ↔ state.running ≠ []) := by
  have ran : (sampleRun (sampleFailure ++ [.resume 0 (.logger false) 3000])).map notified = some [js "/b"] := by
    decide
  obtain ⟨last, same, notified⟩ := Option.map_eq_some_iff.mp ran
  obtain ⟨steps, run⟩ := sampleRun_run same
  exact ⟨last, steps, run, notified, (noneForgotten_iff run).1⟩

/-- The logger rejects the report of the first project, and the second one is forgotten. -/
theorem rejected_report_forgets : ∃ steps last, Run sampleDefaults true some steps last ∧ ¬ last.NoneForgotten := by
  have ran : (sampleRun (sampleFailure ++ [.resume 0 (.logger true) 3000])).map
      (fun last => ((last.stopped, last.halted), last.notified, last.queuedProjects, last.running)) =
      some ((false, false), [js "/b"], [], [.drainThrown]) := by
    decide
  obtain ⟨last, same, fields⟩ := Option.map_eq_some_iff.mp ran
  simp only [Prod.mk.injEq] at fields
  obtain ⟨⟨stopped, halted⟩, notified, queued, running⟩ := fields
  obtain ⟨steps, run⟩ := sampleRun_run same
  refine ⟨steps, last, run, fun kept => ?_⟩
  rcases kept stopped halted (js "/b") (by simp [notified]) with ⟨inside, _⟩ | waits
  · simp [queued] at inside
  · simp [running, Activity.waiting] at waits

end Samples

end Lcm.Daemon.PassiveEventProcessor
