import Mathlib
import Kuscia.KusciaJobController

namespace Kuscia.JobScheduler

open Kuscia.InterConnKuscia (JobStage)

/-!
# The KusciaJob lifecycle

`LifecycleStep` is the diagram a job's phase is meant to follow.  A new job
is validated and then waits for approval (an interconnection job) or is
pending; an approved job is pending, a pending job runs, a running job
succeeds.  Any phase that is not final may fail.  The stage commands add the
rest: `Cancel` cancels any phase a party can steer, `Suspend` suspends a
running job, and `Restart` runs a failed or suspended job again.
`Succeeded`, `ApprovalReject` and `Cancelled` are final.

`syncHandler_step` shows that the controller follows the diagram: every sync
moves a job along one of its edges, under the stage command the job's labels
carry, whatever the listers and the API answer.  The proof goes handler by
handler; each handler's lemma says which edges it can take.  Two facts about
whole runs follow: a final phase is never left (`runJob_final`), and a
cancelled job holds no pending or running subtask
(`runJob_cancelledSettled`), since the only way into `Cancelled` fails the
unfinished subtasks and nothing writes the subtasks of a cancelled job.
-/

/-! ## The lifecycle diagram -/

/-- The phases a party can still steer: their handlers open with
`handleStageCommand`. -/
def KusciaJobPhase.Steerable : KusciaJobPhase → Prop
  | .awaitingApproval | .pending | .running | .suspended | .failed => True
  | _ => False

/-- The phases that are neither final nor failed. -/
def KusciaJobPhase.Active : KusciaJobPhase → Prop
  | .initialized | .awaitingApproval | .pending | .running | .suspended => True
  | _ => False

/-- The final phases. -/
def KusciaJobPhase.IsFinal : KusciaJobPhase → Prop
  | .succeeded | .approvalReject | .cancelled => True
  | _ => False

instance : DecidablePred KusciaJobPhase.Active := fun phase => by
  cases phase <;> unfold KusciaJobPhase.Active <;> infer_instance

instance : DecidablePred KusciaJobPhase.IsFinal := fun phase => by
  cases phase <;> unfold KusciaJobPhase.IsFinal <;> infer_instance

/-- The edges of the lifecycle: the phase a sync may move a job to from a
phase, under the stage command the job's labels carry. -/
inductive LifecycleStep : Option JobStage → KusciaJobPhase → KusciaJobPhase → Prop where
  | stay (command : Option JobStage) (phase : KusciaJobPhase) : LifecycleStep command phase phase
  | awaitApproval (command : Option JobStage) :
      LifecycleStep command .initialized .awaitingApproval
  | enqueue (command : Option JobStage) : LifecycleStep command .initialized .pending
  | approve (command : Option JobStage) : LifecycleStep command .awaitingApproval .pending
  | reject (command : Option JobStage) : LifecycleStep command .awaitingApproval .approvalReject
  | start (command : Option JobStage) : LifecycleStep command .pending .running
  | succeed (command : Option JobStage) : LifecycleStep command .running .succeeded
  | fail (command : Option JobStage) {phase : KusciaJobPhase} (active : phase.Active) :
      LifecycleStep command phase .failed
  | cancel {phase : KusciaJobPhase} (steerable : phase.Steerable) :
      LifecycleStep (some .cancel) phase .cancelled
  | suspend : LifecycleStep (some .suspend) .running .suspended
  | restart {phase : KusciaJobPhase} (stopped : phase = .failed ∨ phase = .suspended) :
      LifecycleStep (some .restart) phase .running

section Phases

variable {phase : KusciaJobPhase}

theorem KusciaJobPhase.not_isFinal_of_active
    (active : phase.Active) :
    ¬phase.IsFinal := by
  cases phase <;> simp_all [KusciaJobPhase.Active, KusciaJobPhase.IsFinal]

theorem KusciaJobPhase.not_isFinal_of_steerable
    (steerable : phase.Steerable) :
    ¬phase.IsFinal := by
  cases phase <;> simp_all [KusciaJobPhase.Steerable, KusciaJobPhase.IsFinal]

theorem KusciaJobPhase.active_or_failed_of_not_isFinal
    (notFinal : ¬phase.IsFinal) :
    phase.Active ∨ phase = .failed := by
  cases phase <;> simp_all [KusciaJobPhase.Active, KusciaJobPhase.IsFinal]

end Phases

namespace LifecycleStep

variable {command : Option JobStage} {phase next : KusciaJobPhase}

/-- A job that is not final may be failed, whatever the command. -/
theorem toFailed
    (command : Option JobStage)
    (notFinal : ¬phase.IsFinal) :
    LifecycleStep command phase .failed := by
  rcases KusciaJobPhase.active_or_failed_of_not_isFinal notFinal with active | failed
  · exact .fail command active
  · rw [failed]
    exact .stay command .failed

/-- An edge taken without a stage command is an edge under any command. -/
theorem mono
    (step : LifecycleStep none phase next)
    (command : Option JobStage) :
    LifecycleStep command phase next := by
  cases step with
  | stay => exact .stay command _
  | awaitApproval => exact .awaitApproval command
  | enqueue => exact .enqueue command
  | approve => exact .approve command
  | reject => exact .reject command
  | start => exact .start command
  | succeed => exact .succeed command
  | fail _ active => exact .fail command active

/-- No edge leaves a final phase. -/
theorem eq_of_isFinal
    (step : LifecycleStep command phase next)
    (final : phase.IsFinal) :
    next = phase := by
  cases step with
  | stay => rfl
  | awaitApproval | enqueue | approve | reject | start | succeed => exact False.elim final
  | fail _ active => exact absurd final (KusciaJobPhase.not_isFinal_of_active active)
  | cancel steerable => exact absurd final (KusciaJobPhase.not_isFinal_of_steerable steerable)
  | suspend => exact False.elim final
  | restart stopped => rcases stopped with rfl | rfl <;> exact False.elim final

/-- Without a stage command no job is cancelled. -/
theorem cancelled_of_none
    (step : LifecycleStep none phase .cancelled) :
    phase = .cancelled := by
  cases step with
  | stay => rfl

/-- Only a running job succeeds. -/
theorem running_of_succeeded
    (step : LifecycleStep command phase .succeeded) :
    phase = .running ∨ phase = .succeeded := by
  cases step with
  | stay => exact .inr rfl
  | succeed => exact .inl rfl

end LifecycleStep

/-! ## Cancelled jobs hold no live subtask -/

/-- No subtask of the status is pending or running. -/
def NoLiveTask (taskStatus : TaskStatusMap) : Prop :=
  taskStatus.allMatch (fun phase => !isUnfinished phase) = true

/-- A cancelled job holds no live subtask. -/
def CancelledSettled (status : KusciaJobStatus) : Prop :=
  status.phase = .cancelled → NoLiveTask status.taskStatus

instance (taskStatus : TaskStatusMap) : Decidable (NoLiveTask taskStatus) :=
  inferInstanceAs (Decidable (_ = true))

instance (status : KusciaJobStatus) : Decidable (CancelledSettled status) :=
  inferInstanceAs (Decidable (_ → _))

theorem noLiveTask_setRunningTaskStatusToFailed
    (taskStatus : TaskStatusMap) :
    NoLiveTask (setRunningTaskStatusToFailed taskStatus) := by
  apply Go.Map.allMatch_iff.mpr
  intro key phase found
  rw [setRunningTaskStatusToFailed, Go.Map.lookup_mapValues] at found
  obtain ⟨before, -, rfl⟩ := Option.map_eq_some_iff.mp found
  cases before <;> simp [isUnfinished]

/-! ## What the helpers write -/

section Helpers

variable {now : Int} {status : KusciaJobStatus}

@[simp] theorem setKusciaJobStatus_phase
    (phase : KusciaJobPhase)
    (reason message : String) :
    (setKusciaJobStatus now status phase reason message).phase = phase := rfl

@[simp] theorem setKusciaJobStatus_taskStatus
    (phase : KusciaJobPhase)
    (reason message : String) :
    (setKusciaJobStatus now status phase reason message).taskStatus = status.taskStatus := rfl

@[simp] theorem updateJobTime_phase :
    (updateJobTime now status).phase = status.phase := by
  dsimp only [updateJobTime]
  split <;> rfl

@[simp] theorem updateJobTime_taskStatus :
    (updateJobTime now status).taskStatus = status.taskStatus := by
  dsimp only [updateJobTime]
  split <;> rfl

@[simp] theorem failKusciaJob_phase
    (err : String) :
    (failKusciaJob now status err).phase = .failed :=
  rfl

@[simp] theorem buildJobStatus_phase
    (phase : KusciaJobPhase) :
    (buildJobStatus now status phase).1.phase = phase := by
  dsimp only [buildJobStatus]
  split <;> rfl

@[simp] theorem updateJobSubTaskStatus_phase
    (built : TaskStatusMap) :
    (updateJobSubTaskStatus status built).1.phase = status.phase := by
  unfold updateJobSubTaskStatus
  split <;> rfl

@[simp] theorem autoApprove_phase
    (env : SyncEnv)
    (job : JobObject) :
    (autoApprove env job).1.status.phase = job.status.phase := by
  unfold autoApprove
  split <;> rfl

/-- Validation leaves the phase, or fails the job. -/
theorem validateJob_phase
    (env : SyncEnv)
    (job : JobObject) :
    (validateJob env job).1.phase = job.status.phase ∨ (validateJob env job).1.phase = .failed := by
  unfold validateJob
  split
  · exact .inl rfl
  · split
    · exact .inl rfl
    · exact .inr rfl

/-- `annotateKusciaJob` writes annotations only. -/
@[simp] theorem annotateKusciaJob_status
    (env : SyncEnv)
    (job : JobObject)
    (ownParties : List String) :
    (annotateKusciaJob env job ownParties).1.status = job.status := by
  dsimp only [annotateKusciaJob]
  split_ifs
  · rfl
  · rfl
  · repeat' split
    all_goals rfl

theorem status_of_annotateKusciaJob_eq
    {env : SyncEnv}
    {job : JobObject}
    {ownParties : List String}
    {annotated : JobObject × Bool × Option String}
    (written : annotateKusciaJob env job ownParties = annotated) :
    annotated.1.status = job.status := by
  rw [← written, annotateKusciaJob_status]

/-- The phase `jobStatusPhaseFrom` computes is `Running`, `Succeeded` or `Failed`. -/
theorem jobStatusPhaseFrom_cases
    (spec : KusciaJob)
    (currentSubTasksStatus : TaskStatusMap) :
    jobStatusPhaseFrom spec currentSubTasksStatus = .running ∨
      jobStatusPhaseFrom spec currentSubTasksStatus = .succeeded ∨
      jobStatusPhaseFrom spec currentSubTasksStatus = .failed := by
  dsimp only [jobStatusPhaseFrom]
  cases spec.scheduleMode <;> dsimp only <;> split_ifs <;> simp

end Helpers

/-! ## The stage commands -/

/-- What a stage command may do to a job: keep its phase, or move it along an
edge of the diagram under that command and ask for the status to be written;
a job it cancels holds no live subtask. -/
def CommandMoves (command : Option JobStage) (job : JobObject) (result : HandlerResult) : Prop :=
  result.1.status.phase = job.status.phase ∨
    (result.2 = (true, none) ∧
      LifecycleStep command job.status.phase result.1.status.phase ∧
      (result.1.status.phase = .cancelled → NoLiveTask result.1.status.taskStatus))

section Commands

variable (env : SyncEnv) (job : JobObject)

/-- `stopJob` fails when `stopTasks` does and leaves the job; otherwise the job
is in the target phase with no live subtask. -/
theorem stopJob_cases
    (stageStatus : JobStagePhase)
    (phase : KusciaJobPhase) :
    stopJob env job stageStatus phase = (job, false, env.stopTasks) ∨
      ((stopJob env job stageStatus phase).1.status.phase = phase ∧
        NoLiveTask (stopJob env job stageStatus phase).1.status.taskStatus ∧
        (stopJob env job stageStatus phase).2 = (true, none)) := by
  unfold stopJob
  cases stopped : env.stopTasks with
  | some err => exact .inl rfl
  | none => exact .inr ⟨rfl, noLiveTask_setRunningTaskStatusToFailed _, rfl⟩

theorem stopJob_moves
    {command : Option JobStage}
    {stageStatus : JobStagePhase}
    {phase : KusciaJobPhase}
    (step : LifecycleStep command job.status.phase phase) :
    CommandMoves command job (stopJob env job stageStatus phase) := by
  rcases stopJob_cases env job stageStatus phase with failed | ⟨moved, settled, written⟩
  · left
    rw [failed]
  · right
    refine ⟨written, ?_, fun _ => settled⟩
    rw [moved]
    exact step

theorem handleStageCmdStop_moves
    (steerable : job.status.phase.Steerable) :
    CommandMoves (some .stop) job (handleStageCmdStop env job) := by
  unfold handleStageCmdStop
  split
  · exact .inl rfl
  · exact stopJob_moves env job
      (.toFailed _ (KusciaJobPhase.not_isFinal_of_steerable steerable))

theorem handleStageCmdCancelled_moves
    (steerable : job.status.phase.Steerable) :
    CommandMoves (some .cancel) job (handleStageCmdCancelled env job) := by
  unfold handleStageCmdCancelled
  split
  · exact .inl rfl
  · exact stopJob_moves env job (.cancel steerable)

theorem handleStageCmdSuspend_moves :
    CommandMoves (some .suspend) job (handleStageCmdSuspend env job) := by
  unfold handleStageCmdSuspend
  split
  · exact .inl rfl
  · rename_i running
    cases stopped : env.stopTasks with
    | some err => exact .inl rfl
    | none =>
      right
      refine ⟨rfl, ?_, fun suspended => nomatch suspended⟩
      rw [not_not.mp running]
      exact .suspend

theorem handleStageCmdRestart_moves :
    CommandMoves (some .restart) job (handleStageCmdRestart env job) := by
  dsimp only [handleStageCmdRestart, getStageCmd]
  split_ifs with invalid stopped running incomplete initiator
  · exact .inl rfl
  · -- a failed or suspended job runs again, whether or not the deletion failed
    right
    cases env.deleteNotSuccessTasks
    all_goals exact ⟨rfl, .restart stopped, fun running => nomatch running⟩
  · exact .inl rfl
  · cases env.setJobStage <;> exact .inl rfl
  · exact .inl rfl
  · exact .inl rfl

/-- Every stage command moves a steerable job as `CommandMoves` says. -/
theorem handleStageCommand_moves
    (steerable : job.status.phase.Steerable) :
    CommandMoves (stageCommand job.labels) job (handleStageCommand env job) := by
  unfold handleStageCommand
  cases command : stageCommand job.labels with
  | none => exact .inl rfl
  | some stage =>
    cases stage with
    | start => exact .inl rfl
    | stop => exact handleStageCmdStop_moves env job steerable
    | cancel => exact handleStageCmdCancelled_moves env job steerable
    | restart => exact handleStageCmdRestart_moves env job
    | suspend => exact handleStageCmdSuspend_moves env job
    | create => exact .inl rfl
    | unset => exact .inl rfl

end Commands

/-! ## The handlers -/

/-- What a handler may do to a job: move it along an edge of the diagram under
the job's stage command; a job it moves into `Cancelled` holds no live
subtask. -/
def HandlerMoves (job : JobObject) (result : HandlerResult) : Prop :=
  LifecycleStep (stageCommand job.labels) job.status.phase result.1.status.phase ∧
    (result.1.status.phase = .cancelled → job.status.phase ≠ .cancelled →
      NoLiveTask result.1.status.taskStatus)

namespace HandlerMoves

variable {job : JobObject} {result : HandlerResult}

theorem of_phase
    (same : result.1.status.phase = job.status.phase) :
    HandlerMoves job result := by
  refine ⟨?_, fun cancelled before => absurd (same ▸ cancelled) before⟩
  rw [same]
  exact .stay _ _

/-- A handler that takes only edges without a command moves as the diagram
says, and never cancels. -/
theorem of_none
    (step : LifecycleStep none job.status.phase result.1.status.phase) :
    HandlerMoves job result := by
  refine ⟨step.mono _, fun cancelled before => ?_⟩
  rw [cancelled] at step
  exact absurd step.cancelled_of_none before

theorem withUpdateJobTime
    (now : Int)
    (moves : HandlerMoves job result) :
    HandlerMoves job (JobScheduler.withUpdateJobTime now result) := by
  obtain ⟨moved, written, err⟩ := result
  simpa [HandlerMoves, JobScheduler.withUpdateJobTime] using moves

end HandlerMoves

section Handlers

variable (env : SyncEnv) (job : JobObject)

/-- The rest of a steerable handler runs only when the stage command did
nothing, and then on a job the command left in its phase. -/
theorem afterStageCommand_cases
    (rest : JobObject → HandlerResult)
    (steerable : job.status.phase.Steerable) :
    afterStageCommand env job rest = handleStageCommand env job ∨
      ∃ same, handleStageCommand env job = (same, false, none) ∧
        same.status.phase = job.status.phase ∧ afterStageCommand env job rest = rest same := by
  have command := handleStageCommand_moves env job steerable
  unfold afterStageCommand
  generalize handleStageCommand env job = result at command ⊢
  obtain ⟨same, reconciled, err⟩ := result
  -- the rest runs only when the command neither reconciled nor failed
  cases reconciled <;> cases err
  case false.none =>
    rcases command with samePhase | ⟨written, -, -⟩
    · exact .inr ⟨same, rfl, samePhase, rfl⟩
    · cases written
  all_goals exact .inl rfl

/-- The steerable handlers: the stage command, then the rest of the handler on
the job the command left when it did nothing. -/
theorem afterStageCommand_moves
    {rest : JobObject → HandlerResult}
    (steerable : job.status.phase.Steerable)
    (restStep : ∀ same : JobObject, same.status.phase = job.status.phase →
      LifecycleStep none same.status.phase (rest same).1.status.phase) :
    HandlerMoves job (afterStageCommand env job rest) := by
  rcases afterStageCommand_cases env job rest steerable with
    commanded | ⟨same, -, samePhase, ran⟩
  · rw [commanded]
    rcases handleStageCommand_moves env job steerable with same | ⟨-, step, settled⟩
    · exact HandlerMoves.of_phase same
    · exact ⟨step, fun cancelled _ => settled cancelled⟩
  · rw [ran]
    apply HandlerMoves.of_none
    rw [← samePhase]
    exact restStep same samePhase

theorem handleInitializedBody_step
    (initialized : job.status.phase = .initialized) :
    LifecycleStep none job.status.phase (handleInitializedBody env job).1.status.phase := by
  have validated := validateJob_phase env job
  rw [initialized] at validated ⊢
  -- after validation the phase is `Initialized` or `Failed`
  have checked : LifecycleStep none .initialized (validateJob env job).1.phase := by
    rcases validated with same | failed
    · rw [same]
      exact .stay _ _
    · rw [failed]
      exact .fail none trivial
  dsimp only [handleInitializedBody]
  split
  · exact checked
  · -- the annotations are written to the spec, not to the status
    split
    next annotated =>
      rw [status_of_annotateKusciaJob_eq annotated]
      exact checked
    next annotated =>
      rw [status_of_annotateKusciaJob_eq annotated]
      exact checked
    · dsimp only
      split
      · exact .awaitApproval none
      · exact .enqueue none

theorem awaitApproval_step
    (awaiting : job.status.phase = .awaitingApproval) :
    LifecycleStep none job.status.phase (awaitApproval env job).1.status.phase := by
  have kept := autoApprove_phase env job
  rw [awaiting] at kept ⊢
  dsimp only [awaitApproval]
  split
  · exact .reject none
  · split
    · exact .approve none
    · rw [kept]
      exact .stay none _

/-- A pending job that moves on runs or fails. -/
theorem movePending_step
    (pending : job.status.phase = .pending)
    {allPass : Bool}
    {someFail : Bool × String}
    {result : HandlerResult}
    (moved : movePending job allPass someFail = some result) :
    LifecycleStep none job.status.phase result.1.status.phase := by
  rw [pending]
  unfold movePending at moved
  split at moved
  · cases moved
    exact .start none
  · split at moved
    · cases moved
      exact .fail none trivial
    · cases moved

theorem startPending_step
    (pending : job.status.phase = .pending) :
    LifecycleStep none job.status.phase (startPending env job).1.status.phase := by
  dsimp only [startPending]
  split
  · rename_i result bfia
    split at bfia
    · exact movePending_step job pending bfia
    · cases bfia
  · cases moved : movePending job (allPartyCreateSuccess env job) (somePartyCreateFailed env job) with
    | none => exact .stay none _
    | some result => exact movePending_step job pending moved

/-- The phase the scheduling part of `handleRunning` leaves: the job's own,
`Failed`, or the phase `jobStatusPhaseFrom` computes. -/
theorem scheduleRunning_phase :
    (scheduleRunning env job).1.status.phase = job.status.phase ∨
      (scheduleRunning env job).1.status.phase = .failed ∨
      ∃ subTaskStatus, (scheduleRunning env job).1.status.phase =
        jobStatusPhaseFrom job.spec subTaskStatus := by
  dsimp only [scheduleRunning]
  split
  · exact .inl rfl
  · split
    · split
      · exact .inl (updateJobSubTaskStatus_phase _)
      · split
        · exact .inr (.inr ⟨_, buildJobStatus_phase _⟩)
        · exact .inr (.inl rfl)
        · exact .inl (updateJobSubTaskStatus_phase _)
    · exact .inr (.inr ⟨_, buildJobStatus_phase _⟩)

theorem runRunning_step
    (running : job.status.phase = .running) :
    LifecycleStep none job.status.phase (runRunning env job).1.status.phase := by
  dsimp only [runRunning]
  -- the task IDs come first, as a tuple, then the initiator's test
  obtain ⟨needSetTaskID, tasks⟩ := setJobTaskID env job
  dsimp only
  split
  · cases env.updateKusciaJob <;> exact .stay none _
  · rw [running]
    rcases scheduleRunning_phase env job with same | failed | ⟨subTaskStatus, computed⟩
    · rw [same, running]
      exact .stay none _
    · rw [failed]
      exact .fail none trivial
    · rw [computed]
      rcases jobStatusPhaseFrom_cases job.spec subTaskStatus with phase | phase | phase <;>
        rw [phase]
      · exact .stay none _
      · exact .succeed none
      · exact .fail none trivial

/-- Every handler moves a job as `HandlerMoves` says. -/
theorem HandlePhase_moves :
    HandlerMoves job (HandlePhase env job) := by
  unfold HandlePhase
  cases phase : job.status.phase
  case initialized =>
    exact (HandlerMoves.of_none (handleInitializedBody_step env job phase)).withUpdateJobTime env.now
  case awaitingApproval =>
    exact (afterStageCommand_moves env job (by rw [phase]; trivial) fun same samePhase =>
      awaitApproval_step env same (samePhase.trans phase)).withUpdateJobTime env.now
  case pending =>
    exact (afterStageCommand_moves env job (by rw [phase]; trivial) fun same samePhase =>
      startPending_step env same (samePhase.trans phase)).withUpdateJobTime env.now
  case running =>
    exact (afterStageCommand_moves env job (by rw [phase]; trivial) fun same samePhase =>
      runRunning_step env same (samePhase.trans phase)).withUpdateJobTime env.now
  case suspended =>
    exact afterStageCommand_moves env job (by rw [phase]; trivial) fun _ _ => .stay none _
  case failed =>
    -- the rest of the failed handler only stamps the completion time
    refine afterStageCommand_moves env job (by rw [phase]; trivial) fun same _ => ?_
    dsimp only
    split
    · exact .stay none _
    · cases env.stopTasks <;> exact .stay none _
  case succeeded => exact HandlerMoves.of_phase rfl
  case approvalReject =>
    apply HandlerMoves.of_phase
    dsimp only [handleApprovalReject, completeFinal]
    split <;> rfl
  case cancelled =>
    apply HandlerMoves.of_phase
    dsimp only [handleCancelled, completeFinal]
    split <;> rfl

/-- Only the handlers of phases that are not final return errors. -/
theorem HandlePhase_error_not_final
    (failed : (HandlePhase env job).2.2.isSome) :
    ¬job.status.phase.IsFinal := by
  unfold HandlePhase at failed
  cases phase : job.status.phase <;> rw [phase] at failed <;>
    simp only [KusciaJobPhase.IsFinal, not_false_eq_true, not_true_eq_false]
  case succeeded => simp [handleSucceeded] at failed
  case approvalReject | cancelled =>
    simp only [handleApprovalReject, handleCancelled, completeFinal] at failed
    split at failed <;> simp at failed

/-- The handler of a cancelled job touches no subtask. -/
theorem HandlePhase_taskStatus_of_cancelled
    (cancelled : job.status.phase = .cancelled) :
    (HandlePhase env job).1.status.taskStatus = job.status.taskStatus := by
  unfold HandlePhase
  rw [cancelled]
  dsimp only [handleCancelled, completeFinal]
  split <;> rfl

end Handlers

/-! ## The sync -/

section Sync

variable (env : SyncEnv) (job : JobObject)

/-- What a sync writes: nothing, the status the handler built, or that status
failed by `failKusciaJob` after a handler error. -/
theorem syncHandler_status :
    (syncHandler env job).status = job.status ∨
      (syncHandler env job).status = (HandlePhase env job).1.status ∨
      ∃ err, (HandlePhase env job).2.2 = some err ∧
        (syncHandler env job).status = failKusciaJob env.now (HandlePhase env job).1.status err := by
  unfold syncHandler
  split
  · exact .inl rfl
  · generalize HandlePhase env job = result
    obtain ⟨curJob, needUpdate, err⟩ := result
    cases err with
    | none =>
      dsimp only
      split
      · exact .inr (.inl rfl)
      · exact .inl rfl
    | some err =>
      dsimp only
      split
      · exact .inl rfl
      · split
        · exact .inr (.inr ⟨err, rfl, rfl⟩)
        · exact .inl rfl

/-- Every sync moves the job along an edge of the lifecycle, under the stage
command its labels carry. -/
theorem syncHandler_step :
    LifecycleStep (stageCommand job.labels) job.status.phase (syncHandler env job).status.phase := by
  rcases syncHandler_status env job with same | built | ⟨err, failed, written⟩
  · rw [same]
    exact .stay _ _
  · rw [built]
    exact (HandlePhase_moves env job).1
  · rw [written, failKusciaJob_phase]
    exact .toFailed _ (HandlePhase_error_not_final env job (by rw [failed]; rfl))

/-- A sync keeps a cancelled job free of live subtasks. -/
theorem syncHandler_cancelledSettled
    (settled : CancelledSettled job.status) :
    CancelledSettled (syncHandler env job).status := by
  intro cancelled
  rcases syncHandler_status env job with same | built | ⟨err, -, written⟩
  · rw [same] at cancelled ⊢
    exact settled cancelled
  · rw [built] at cancelled ⊢
    by_cases before : job.status.phase = .cancelled
    · rw [HandlePhase_taskStatus_of_cancelled env job before]
      exact settled before
    · exact (HandlePhase_moves env job).2 cancelled before
  · rw [written, failKusciaJob_phase] at cancelled
    cases cancelled

end Sync

/-! ## Runs -/

section Runs

theorem runJob_append
    (job : JobObject)
    (pre post : List JobEvent) :
    runJob job (pre ++ post) = runJob (runJob job pre) post :=
  List.foldl_append

/-- A final phase is never left. -/
theorem runJob_final
    {job : JobObject}
    (final : job.status.phase.IsFinal)
    (events : List JobEvent) :
    (runJob job events).status.phase = job.status.phase := by
  induction events generalizing job with
  | nil => rfl
  | cons event rest inductionHypothesis =>
    -- one event keeps a final phase, and the rest of the run starts from it
    have stays : (jobStep job event).status.phase = job.status.phase := by
      cases event with
      | sync env => exact (syncHandler_step env job).eq_of_isFinal final
      | relabel labels => rfl
    calc (runJob job (event :: rest)).status.phase
        = (runJob (jobStep job event) rest).status.phase := rfl
      _ = (jobStep job event).status.phase := inductionHypothesis (stays ▸ final)
      _ = job.status.phase := stays

/-- A cancelled job holds no live subtask all along a run. -/
theorem runJob_cancelledSettled
    {job : JobObject}
    (settled : CancelledSettled job.status)
    (events : List JobEvent) :
    CancelledSettled (runJob job events).status := by
  induction events generalizing job with
  | nil => exact settled
  | cons event rest inductionHypothesis =>
    apply inductionHypothesis
    cases event with
    | sync env => exact syncHandler_cancelledSettled env job settled
    | relabel labels => exact settled

/-- A run follows the lifecycle: each sync in it moves the job along an edge
of the diagram, under the stage command on the labels at that point; a final
phase, once reached, is the phase at the end; and at every point of the run a
cancelled job holds no live subtask. -/
def FollowsLifecycle (job : JobObject) (events : List JobEvent) : Prop :=
  (∀ pre env post, events = pre ++ JobEvent.sync env :: post →
    LifecycleStep (stageCommand (runJob job pre).labels) (runJob job pre).status.phase
      (runJob job (pre ++ [.sync env])).status.phase) ∧
  (∀ pre post, events = pre ++ post → (runJob job pre).status.phase.IsFinal →
    (runJob job events).status.phase = (runJob job pre).status.phase) ∧
  (∀ pre post, events = pre ++ post → CancelledSettled (runJob job pre).status)

theorem runJob_followsLifecycle
    (job : JobObject)
    (settled : CancelledSettled job.status)
    (events : List JobEvent) :
    FollowsLifecycle job events := by
  refine ⟨?edges, ?final, ?settled⟩
  case edges =>
    intro pre env _ _
    rw [runJob_append]
    exact syncHandler_step env (runJob job pre)
  case final =>
    intro pre post split final
    rw [split, runJob_append]
    exact runJob_final final post
  case settled =>
    intro pre _ _
    exact runJob_cancelledSettled settled pre

/-- A sync at time `now` in which every read and write succeeds and the task
lister finds no subtask. -/
def quietSync (now : Int) : JobEvent :=
  .sync
    { now := now, domainRole := fun _ => some "", namespaces := fun _ => .ok ⟨none, none⟩,
      enableWorkloadApprove := false, updateKusciaJob := none, uuidSuffix := fun _ => "0000",
      stopTasks := none, deleteNotSuccessTasks := none, setJobStage := none, subTasks := .ok [],
      selfClusterAsParticipant := fun _ => none, createTask := fun _ => .created,
      numRequeues := 0, statusUpdateLands := true }

theorem runJob_followsLifecycle_cancelledJob :
    let cancelledJob : JobObject :=
      { name := "job", labels := ∅, parties := ["alice", "bob"]
        spec := { annotations := ∅, initiator := "alice", scheduleMode := .strict,
                  maxParallelism := 1, tasks := [] }
        status := { phase := .cancelled, approveStatus := ∅, stageStatus := ∅,
                    validated := some true, reason := "", message := "",
                    taskStatus := Go.Map.ofList [("task-a", .failed)], startTime := some 0,
                    completionTime := some 1, lastReconcileTime := none } }
    CancelledSettled cancelledJob.status ∧
      FollowsLifecycle cancelledJob [quietSync 2, .relabel ∅, quietSync 3, quietSync 4] :=
  ⟨by decide,
    runJob_followsLifecycle _ (by decide) [quietSync 2, .relabel ∅, quietSync 3, quietSync 4]⟩

end Runs

end Kuscia.JobScheduler
