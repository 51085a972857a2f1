import Mathlib
import Kuscia.KusciaJobLifecycle

namespace Kuscia.JobScheduler

/-!
# Completion times of a KusciaJob

The job controller stamps `CompletionTime` in four places: the deferred
`updateJobTime` of a rejected job, `buildJobStatus` of a succeeded one, the
`Stop` and `Cancel` commands, and the handlers of the failed and final
phases.  A restart clears it.  `CompletionConsistent` is what these writes
keep between them: a job that is still active has no completion time, and a
job in a final phase has one.

`ShouldReconcile` turns away exactly the final jobs with a completion time, so
with the invariant every sync of a finished job does nothing, and the
controller never writes a finished job's status again
(`runJob_keepsCompletion`).

The handlers of the early phases decide the phase first and stamp the times
in a deferred `updateJobTime`; `Unstamped` is what holds before that stamp:
the same as `CompletionConsistent`, except that a rejected job may still wait
for its completion time.
-/

/-- A job that is still active has no completion time, and a job in a final
phase has one. -/
def CompletionConsistent (status : KusciaJobStatus) : Prop :=
  (status.phase.Active → status.completionTime = none) ∧
    (status.phase.IsFinal → status.completionTime.isSome)

instance (status : KusciaJobStatus) : Decidable (CompletionConsistent status) :=
  inferInstanceAs (Decidable (_ ∧ _))

/-- `CompletionConsistent` before the deferred `updateJobTime`: a rejected
job may still lack its completion time. -/
def Unstamped (status : KusciaJobStatus) : Prop :=
  (status.phase.Active → status.completionTime = none) ∧
    (status.phase = .succeeded → status.completionTime.isSome) ∧
    (status.phase = .cancelled → status.completionTime.isSome)

/-! ## The two predicates -/

section Predicates

variable {now : Int} {status : KusciaJobStatus}

theorem CompletionConsistent.unstamped
    (consistent : CompletionConsistent status) :
    Unstamped status := by
  refine ⟨consistent.1, fun succeeded => consistent.2 ?_, fun cancelled => consistent.2 ?_⟩
  · rw [succeeded]
    trivial
  · rw [cancelled]
    trivial

/-- A failed job carries a completion time or not. -/
theorem completionConsistent_of_failed
    (failed : status.phase = .failed) :
    CompletionConsistent status := by
  refine ⟨fun active => ?_, fun final => ?_⟩
  · rw [failed] at active
    exact False.elim active
  · rw [failed] at final
    exact False.elim final

/-- An incomplete job that has neither succeeded nor been cancelled. -/
theorem unstamped_of_incomplete
    (incomplete : status.completionTime = none)
    (notSucceeded : status.phase ≠ .succeeded)
    (notCancelled : status.phase ≠ .cancelled) :
    Unstamped status :=
  ⟨fun _ => incomplete, fun succeeded => absurd succeeded notSucceeded,
    fun cancelled => absurd cancelled notCancelled⟩

/-- The deferred `updateJobTime` stamps a rejected job. -/
theorem Unstamped.updateJobTime
    (unstamped : Unstamped status) :
    CompletionConsistent (updateJobTime now status) := by
  obtain ⟨active, succeeded, cancelled⟩ := unstamped
  dsimp only [JobScheduler.updateJobTime]
  split
  next stamped =>
    refine ⟨fun isActive => ?_, fun _ => rfl⟩
    rw [stamped.1] at isActive
    exact False.elim isActive
  next kept =>
    refine ⟨active, fun final => ?_⟩
    -- a rejected job that `updateJobTime` left has its time already
    cases phase : status.phase <;> rw [phase] at final kept
    case succeeded => exact succeeded phase
    case cancelled => exact cancelled phase
    case approvalReject => simpa [Option.isSome_iff_ne_none] using kept
    all_goals exact False.elim final

end Predicates

/-! ## What the helpers write -/

section Helpers

variable {now : Int} {status : KusciaJobStatus}

@[simp] theorem setKusciaJobStatus_completionTime
    (phase : KusciaJobPhase)
    (reason message : String) :
    (setKusciaJobStatus now status phase reason message).completionTime = status.completionTime :=
  rfl

@[simp] theorem updateJobSubTaskStatus_completionTime
    (built : TaskStatusMap) :
    (updateJobSubTaskStatus status built).1.completionTime = status.completionTime := by
  unfold updateJobSubTaskStatus
  split <;> rfl

@[simp] theorem withUpdateJobTime_status
    (result : HandlerResult) :
    (withUpdateJobTime now result).1.status = JobScheduler.updateJobTime now result.1.status := by
  obtain ⟨job, needUpdate, err⟩ := result
  rfl

theorem validateJob_completionTime
    (env : SyncEnv)
    (job : JobObject) :
    (validateJob env job).1.completionTime = job.status.completionTime := by
  unfold validateJob
  split
  · rfl
  · split <;> rfl

theorem autoApprove_completionTime
    (env : SyncEnv)
    (job : JobObject) :
    (autoApprove env job).1.status.completionTime = job.status.completionTime := by
  unfold autoApprove
  split <;> rfl

/-- `buildJobStatus` stamps a job that it finds succeeded. -/
theorem buildJobStatus_unstamped
    {phase : KusciaJobPhase}
    (incomplete : status.completionTime = none)
    (notCancelled : phase ≠ .cancelled) :
    Unstamped (buildJobStatus now status phase).1 := by
  dsimp only [buildJobStatus]
  split
  next stamped =>
    refine ⟨fun active => ?_, fun _ => rfl, fun cancelled => absurd cancelled notCancelled⟩
    rw [stamped.1] at active
    exact False.elim active
  next kept =>
    refine unstamped_of_incomplete incomplete (fun succeeded => kept ⟨succeeded, incomplete⟩)
      notCancelled

end Helpers

/-! ## The stage commands -/

section Commands

variable (env : SyncEnv) (job : JobObject)

theorem stopJob_completionConsistent
    {stageStatus : JobStagePhase}
    {phase : KusciaJobPhase}
    (consistent : CompletionConsistent job.status)
    (target : ¬phase.Active) :
    CompletionConsistent (stopJob env job stageStatus phase).1.status := by
  unfold stopJob
  cases env.stopTasks with
  | some err => exact consistent
  | none => exact ⟨fun active => absurd active target, fun _ => rfl⟩

theorem handleStageCmdRestart_completionConsistent
    (consistent : CompletionConsistent job.status) :
    CompletionConsistent (handleStageCmdRestart env job).1.status := by
  dsimp only [handleStageCmdRestart, getStageCmd]
  split_ifs
  · exact consistent
  · -- a restarted job runs again with its completion time cleared
    cases env.deleteNotSuccessTasks <;> exact ⟨fun _ => rfl, fun final => False.elim final⟩
  · exact consistent
  · cases env.setJobStage <;> exact consistent
  · exact consistent
  · exact consistent

theorem handleStageCmdSuspend_completionConsistent
    (consistent : CompletionConsistent job.status) :
    CompletionConsistent (handleStageCmdSuspend env job).1.status := by
  unfold handleStageCmdSuspend
  split
  · exact consistent
  · next running =>
    -- a running job has no completion time, and suspending it stamps none
    have incomplete := consistent.1 (by rw [not_not.mp running]; trivial)
    cases env.stopTasks with
    | some err => exact consistent
    | none => exact ⟨fun _ => incomplete, fun final => False.elim final⟩

theorem handleStageCmdStop_completionConsistent
    (consistent : CompletionConsistent job.status) :
    CompletionConsistent (handleStageCmdStop env job).1.status := by
  unfold handleStageCmdStop
  split
  · exact consistent
  · exact stopJob_completionConsistent env job consistent fun active => False.elim active

theorem handleStageCmdCancelled_completionConsistent
    (consistent : CompletionConsistent job.status) :
    CompletionConsistent (handleStageCmdCancelled env job).1.status := by
  unfold handleStageCmdCancelled
  split
  · exact consistent
  · exact stopJob_completionConsistent env job consistent fun active => False.elim active

theorem handleStageCommand_completionConsistent
    (consistent : CompletionConsistent job.status) :
    CompletionConsistent (handleStageCommand env job).1.status := by
  unfold handleStageCommand
  cases stageCommand job.labels with
  | none => exact consistent
  | some stage =>
    cases stage with
    | start => exact consistent
    | stop => exact handleStageCmdStop_completionConsistent env job consistent
    | cancel => exact handleStageCmdCancelled_completionConsistent env job consistent
    | restart => exact handleStageCmdRestart_completionConsistent env job consistent
    | suspend => exact handleStageCmdSuspend_completionConsistent env job consistent
    | create => exact consistent
    | unset => exact consistent

/-- The steerable handlers: the stage command keeps the invariant, and the rest
of the handler runs on a job the command left in its phase. -/
theorem afterStageCommand_keeps
    {keeps : KusciaJobStatus → Prop}
    {rest : JobObject → HandlerResult}
    (steerable : job.status.phase.Steerable)
    (consistent : CompletionConsistent job.status)
    (commandKeeps : ∀ status, CompletionConsistent status → keeps status)
    (restKeeps : ∀ same : JobObject, same.status.phase = job.status.phase →
      CompletionConsistent same.status → keeps (rest same).1.status) :
    keeps (afterStageCommand env job rest).1.status := by
  have commanded := handleStageCommand_completionConsistent env job consistent
  rcases afterStageCommand_cases env job rest steerable with
    commandOnly | ⟨same, commandResult, samePhase, ran⟩
  · rw [commandOnly]
    exact commandKeeps _ commanded
  · rw [commandResult] at commanded
    rw [ran]
    exact restKeeps same samePhase commanded

end Commands

/-! ## The handlers -/

section Handlers

variable (env : SyncEnv) (job : JobObject)

theorem handleInitializedBody_completionTime :
    (handleInitializedBody env job).1.status.completionTime = job.status.completionTime := by
  rw [← validateJob_completionTime env job]
  dsimp only [handleInitializedBody]
  split
  · rfl
  · -- the annotations are written to the spec, not to the status
    split
    next annotated => rw [status_of_annotateKusciaJob_eq annotated]
    next annotated => rw [status_of_annotateKusciaJob_eq annotated]
    next annotated => rw [status_of_annotateKusciaJob_eq annotated]

theorem awaitApproval_completionTime :
    (awaitApproval env job).1.status.completionTime = job.status.completionTime := by
  dsimp only [awaitApproval]
  split <;> split <;> exact autoApprove_completionTime env job

theorem movePending_completionTime
    {allPass : Bool}
    {someFail : Bool × String}
    {result : HandlerResult}
    (moved : movePending job allPass someFail = some result) :
    result.1.status.completionTime = job.status.completionTime := by
  unfold movePending at moved
  split at moved
  · cases moved
    rfl
  · split at moved
    · cases moved
      rfl
    · cases moved

theorem startPending_completionTime :
    (startPending env job).1.status.completionTime = job.status.completionTime := by
  dsimp only [startPending]
  split
  · next result bfia =>
    split at bfia
    · exact movePending_completionTime job bfia
    · cases bfia
  · cases moved : movePending job (allPartyCreateSuccess env job) (somePartyCreateFailed env job) with
    | none => rfl
    | some result => exact movePending_completionTime job moved

/-- The scheduling part of the running handler stamps a job that it finds
succeeded, and no other. -/
theorem scheduleRunning_unstamped
    (running : job.status.phase = .running)
    (incomplete : job.status.completionTime = none) :
    Unstamped (scheduleRunning env job).1.status := by
  have notCancelled : ∀ subTaskStatus, jobStatusPhaseFrom job.spec subTaskStatus ≠ .cancelled := by
    intro subTaskStatus
    rcases jobStatusPhaseFrom_cases job.spec subTaskStatus with phase | phase | phase <;>
      rw [phase] <;> decide
  -- the subtask statuses are written without touching the phase or the time
  have listed : ∀ built, Unstamped (updateJobSubTaskStatus job.status built).1 := by
    intro built
    refine unstamped_of_incomplete (by simp [incomplete]) ?_ ?_ <;> simp [running]
  dsimp only [scheduleRunning]
  split
  · exact unstamped_of_incomplete incomplete (by rw [running]; decide) (by rw [running]; decide)
  · split
    · split
      · exact listed _
      · split
        · exact buildJobStatus_unstamped (by simp [incomplete]) (notCancelled _)
        · exact unstamped_of_incomplete (by simp [incomplete]) (by simp) (by simp)
        · exact listed _
    · exact buildJobStatus_unstamped (by simp [incomplete]) (notCancelled _)

theorem runRunning_unstamped
    (running : job.status.phase = .running)
    (incomplete : job.status.completionTime = none) :
    Unstamped (runRunning env job).1.status := by
  dsimp only [runRunning]
  obtain ⟨needSetTaskID, tasks⟩ := setJobTaskID env job
  dsimp only
  have unchanged : Unstamped job.status :=
    unstamped_of_incomplete incomplete (by rw [running]; decide) (by rw [running]; decide)
  split
  · cases env.updateKusciaJob <;> exact unchanged
  · exact scheduleRunning_unstamped env job running incomplete

/-- A handler of an early phase that keeps the completion time and takes an
edge without a command leaves an unstamped job. -/
theorem unstamped_of_early_step
    {result : HandlerResult}
    (phase : KusciaJobPhase)
    (notRunning : phase ≠ .running)
    (active : phase.Active)
    (incomplete : result.1.status.completionTime = none)
    (step : LifecycleStep none phase result.1.status.phase) :
    Unstamped result.1.status := by
  refine unstamped_of_incomplete incomplete (fun succeeded => ?_) (fun cancelled => ?_)
  · rw [succeeded] at step
    rcases step.running_of_succeeded with wasRunning | wasSucceeded
    · exact notRunning wasRunning
    · rw [wasSucceeded] at active
      exact False.elim active
  · rw [cancelled] at step
    have wasCancelled := step.cancelled_of_none
    rw [wasCancelled] at active
    exact False.elim active

/-- Every handler keeps the completion times consistent. -/
theorem HandlePhase_completionConsistent
    (consistent : CompletionConsistent job.status) :
    CompletionConsistent (HandlePhase env job).1.status := by
  unfold HandlePhase
  cases phase : job.status.phase
  case initialized =>
    have incomplete := consistent.1 (by rw [phase]; trivial)
    rw [handleInitialized, withUpdateJobTime_status]
    refine Unstamped.updateJobTime (unstamped_of_early_step .initialized (by decide) trivial ?_ ?_)
    · rw [handleInitializedBody_completionTime, incomplete]
    · rw [← phase]
      exact handleInitializedBody_step env job phase
  case awaitingApproval =>
    rw [handleAwaitingApproval, withUpdateJobTime_status]
    refine Unstamped.updateJobTime
      (afterStageCommand_keeps env job (by rw [phase]; trivial) consistent
        (fun _ commanded => commanded.unstamped) fun same samePhase sameConsistent => ?_)
    have awaiting := samePhase.trans phase
    refine unstamped_of_early_step .awaitingApproval (by decide) trivial ?_ ?_
    · rw [awaitApproval_completionTime]
      exact sameConsistent.1 (by rw [awaiting]; trivial)
    · rw [← awaiting]
      exact awaitApproval_step env same awaiting
  case pending =>
    rw [handlePending, withUpdateJobTime_status]
    refine Unstamped.updateJobTime
      (afterStageCommand_keeps env job (by rw [phase]; trivial) consistent
        (fun _ commanded => commanded.unstamped) fun same samePhase sameConsistent => ?_)
    have pending := samePhase.trans phase
    refine unstamped_of_early_step .pending (by decide) trivial ?_ ?_
    · rw [startPending_completionTime]
      exact sameConsistent.1 (by rw [pending]; trivial)
    · rw [← pending]
      exact startPending_step env same pending
  case running =>
    rw [handleRunning, withUpdateJobTime_status]
    refine Unstamped.updateJobTime
      (afterStageCommand_keeps env job (by rw [phase]; trivial) consistent
        (fun _ commanded => commanded.unstamped) fun same samePhase sameConsistent => ?_)
    have running := samePhase.trans phase
    exact runRunning_unstamped env same running (sameConsistent.1 (by rw [running]; trivial))
  case suspended =>
    -- the suspended handler only fails the unfinished subtasks
    exact afterStageCommand_keeps env job (by rw [phase]; trivial) consistent
      (fun _ commanded => commanded) fun _ _ sameConsistent => sameConsistent
  case failed =>
    refine afterStageCommand_keeps env job (by rw [phase]; trivial) consistent
      (fun _ commanded => commanded) fun same samePhase _ => ?_
    apply completionConsistent_of_failed
    dsimp only
    split
    · exact samePhase.trans phase
    · cases env.stopTasks <;> exact samePhase.trans phase
  case succeeded =>
    refine ⟨fun active => ?_, fun _ => rfl⟩
    rw [handleSucceeded, phase] at active
    exact False.elim active
  case approvalReject | cancelled =>
    dsimp only [handleApprovalReject, handleCancelled, completeFinal]
    split
    · refine ⟨fun active => ?_, fun _ => rfl⟩
      rw [phase] at active
      exact False.elim active
    · exact consistent

end Handlers

/-! ## Syncs and runs -/

section Runs

theorem syncHandler_completionConsistent
    (env : SyncEnv)
    {job : JobObject}
    (consistent : CompletionConsistent job.status) :
    CompletionConsistent (syncHandler env job).status := by
  rcases syncHandler_status env job with same | built | ⟨err, -, written⟩
  · rw [same]
    exact consistent
  · rw [built]
    exact HandlePhase_completionConsistent env job consistent
  · rw [written]
    exact completionConsistent_of_failed (failKusciaJob_phase err)

/-- A sync turns a finished job away. -/
theorem syncHandler_of_finished
    (env : SyncEnv)
    {job : JobObject}
    (final : job.status.phase.IsFinal)
    (complete : job.status.completionTime.isSome) :
    syncHandler env job = job := by
  have turnedAway : ShouldReconcile job.status = false := by
    unfold ShouldReconcile
    cases phase : job.status.phase <;> rw [phase] at final
    case succeeded | approvalReject | cancelled => simp [complete]
    all_goals exact False.elim final
  unfold syncHandler
  rw [turnedAway]
  rfl

theorem runJob_completionConsistent
    {job : JobObject}
    (consistent : CompletionConsistent job.status)
    (events : List JobEvent) :
    CompletionConsistent (runJob job events).status := by
  induction events generalizing job with
  | nil => exact consistent
  | cons event rest inductionHypothesis =>
    apply inductionHypothesis
    cases event with
    | sync env => exact syncHandler_completionConsistent env consistent
    | relabel labels => exact consistent

/-- The controller never writes a finished job's status again: syncs turn it
away, and relabelling touches no status. -/
theorem runJob_status_of_finished
    {job : JobObject}
    (consistent : CompletionConsistent job.status)
    (final : job.status.phase.IsFinal)
    (events : List JobEvent) :
    (runJob job events).status = job.status := by
  induction events generalizing job with
  | nil => rfl
  | cons event rest inductionHypothesis =>
    -- one event leaves the job's status as it is, and the rest of the run
    -- starts from that status
    have stays : (jobStep job event).status = job.status := by
      cases event with
      | sync env => rw [jobStep, syncHandler_of_finished env final (consistent.2 final)]
      | relabel labels => rfl
    calc (runJob job (event :: rest)).status
        = (runJob (jobStep job event) rest).status := rfl
      _ = (jobStep job event).status :=
          inductionHypothesis (stays ▸ consistent) (stays ▸ final)
      _ = job.status := stays

/-- Along a run, completion times stay consistent, and from the first point at
which the job is in a final phase its status never changes again. -/
def KeepsCompletion (job : JobObject) (events : List JobEvent) : Prop :=
  (∀ pre post, events = pre ++ post → CompletionConsistent (runJob job pre).status) ∧
  (∀ pre post, events = pre ++ post → (runJob job pre).status.phase.IsFinal →
    (runJob job events).status = (runJob job pre).status)

theorem runJob_keepsCompletion
    (job : JobObject)
    (consistent : CompletionConsistent job.status)
    (events : List JobEvent) :
    KeepsCompletion job events := by
  refine ⟨fun pre _ _ => runJob_completionConsistent consistent pre, ?_⟩
  intro pre post split final
  rw [split, runJob_append]
  exact runJob_status_of_finished (runJob_completionConsistent consistent pre) final post

theorem runJob_keepsCompletion_newJob :
    let newJob : JobObject :=
      { name := "job", labels := ∅, parties := ["alice"]
        spec := { annotations := ∅, initiator := "alice", scheduleMode := .bestEffort,
                  maxParallelism := 2, tasks := [] }
        status := { phase := .initialized, approveStatus := ∅, stageStatus := ∅,
                    validated := none, reason := "", message := "", taskStatus := ∅,
                    startTime := none, completionTime := none, lastReconcileTime := none } }
    CompletionConsistent newJob.status ∧
      KeepsCompletion newJob [quietSync 1, quietSync 2, .relabel ∅, quietSync 3] :=
  ⟨by decide,
    runJob_keepsCompletion _ (by decide) [quietSync 1, quietSync 2, .relabel ∅, quietSync 3]⟩

end Runs

end Kuscia.JobScheduler
