import Mathlib
import Kuscia.KusciaJobStatusPhase

namespace Kuscia.JobScheduler

/-!
# The running handler's parallelism bound

`willStartTasksOf` (`scheduler.go`) counts the subtasks of the alias-keyed
status map that are still unfinished and lets the ready subtasks start only
up to `MaxParallelism`.  `handleRunning` (`running.go`) creates those
subtasks unless the job phase it has just computed is final.

The count is a loop over the map's values; `Go.Map.sumBy` is that loop.  Go's
test also admits the empty phase, which the map cannot hold here:
`buildJobSubTaskStatus` has rewritten it to `Pending` (see
`Kuscia.KusciaJobSpec`).  The subtasks a reconcile creates are new, so the next
reconcile lists each of them with an unfinished phase; `statusAfterCreation`
records them as `Pending`, which is how an empty phase is listed.
-/

/-- The phases `willStartTasksOf` counts: `Running` and `Pending`. -/
def isUnfinished : KusciaTaskPhase → Bool
  | .running => true
  | .pending => true
  | .succeeded => false
  | .failed => false

/-- The counting loop of `willStartTasksOf`. -/
def unfinishedCount (status : TaskStatusMap) : Nat :=
  status.sumBy fun phase => if isUnfinished phase then 1 else 0

/-- `willStartTasksOf`: no subtask once `MaxParallelism` are unfinished, and
otherwise the ready subtasks up to the free places. -/
def willStartTasksOf
    (kusciaJob : KusciaJob)
    (readyTasks : List KusciaTaskTemplate)
    (status : TaskStatusMap) :
    List KusciaTaskTemplate :=
  let count : Int := unfinishedCount status
  if kusciaJob.maxParallelism ≤ count then []
  else if readyTasks.length > kusciaJob.maxParallelism - count then
    readyTasks.take (kusciaJob.maxParallelism - count).toNat
  else readyTasks

/-- The subtasks one reconcile of `handleRunning` creates from the listed
subtasks' alias-keyed status: the will-start subtasks, unless the job phase is
`Failed` or `Succeeded`. -/
def handleRunningCreates (job : KusciaJob) (currentSubTasksStatusWithAlias : TaskStatusMap) :
    List KusciaTaskTemplate :=
  let currentJobPhase := jobStatusPhaseFrom job currentSubTasksStatusWithAlias
  let readyTask := readyTasksOf job currentSubTasksStatusWithAlias
  if currentJobPhase != .failed && currentJobPhase != .succeeded then
    willStartTasksOf job readyTask currentSubTasksStatusWithAlias
  else []

/-- The alias-keyed status once the subtasks of `created` exist, each listed
as `Pending`. -/
def statusAfterCreation (status : TaskStatusMap) (created : List KusciaTaskTemplate) :
    TaskStatusMap :=
  created.foldl (fun status t => status.insert t.taskAlias .pending) status

/-! ## The count -/

/-- Storing one phase adds at most one unfinished subtask. -/
theorem unfinishedCount_insert_le
    (status : TaskStatusMap)
    (taskAlias : String)
    (phase : KusciaTaskPhase) :
    unfinishedCount (status.insert taskAlias phase) ≤ unfinishedCount status + 1 := by
  have erased := Go.Map.sumBy_erase_le (fun phase => if isUnfinished phase then 1 else 0)
    status taskAlias
  have counted : (if isUnfinished phase then 1 else 0) ≤ 1 := by
    split <;> omega
  unfold unfinishedCount
  rw [Go.Map.sumBy_insert]
  omega

/-- Creating subtasks adds at most one unfinished subtask each. -/
theorem unfinishedCount_statusAfterCreation_le
    (created : List KusciaTaskTemplate) :
    ∀ status : TaskStatusMap,
      unfinishedCount (statusAfterCreation status created) ≤
        unfinishedCount status + created.length := by
  induction created with
  | nil =>
    intro status
    simp [statusAfterCreation]
  | cons t rest inductionHypothesis =>
    intro status
    have inserted := unfinishedCount_insert_le status t.taskAlias .pending
    have later := inductionHypothesis (status.insert t.taskAlias .pending)
    simp only [statusAfterCreation, List.foldl_cons, List.length_cons] at later ⊢
    omega

/-! ## The will-start subtasks -/

/-- The will-start subtasks are the ready ones up to the free places. -/
theorem willStartTasksOf_eq_take
    (job : KusciaJob)
    (readyTasks : List KusciaTaskTemplate)
    (status : TaskStatusMap) :
    willStartTasksOf job readyTasks status =
      readyTasks.take (job.maxParallelism - unfinishedCount status).toNat := by
  unfold willStartTasksOf
  dsimp only
  split_ifs with full tooMany
  · rw [Int.toNat_of_nonpos (by omega), List.take_zero]
  · rfl
  · rw [List.take_of_length_le (by omega)]

theorem length_willStartTasksOf
    (job : KusciaJob)
    (readyTasks : List KusciaTaskTemplate)
    (status : TaskStatusMap) :
    ((willStartTasksOf job readyTasks status).length : Int) =
      max 0 (min (readyTasks.length : Int) (job.maxParallelism - unfinishedCount status)) := by
  rw [willStartTasksOf_eq_take, List.length_take]
  omega

/-- Whatever part of the will-start subtasks a reconcile creates, the
unfinished subtasks number at most `MaxParallelism`, or what they numbered
before when that was already more. -/
theorem unfinishedCount_after_handleRunning_le
    (job : KusciaJob)
    (status : TaskStatusMap)
    {created : List KusciaTaskTemplate}
    (createdPrefix : List.IsPrefix created (handleRunningCreates job status)) :
    (unfinishedCount (statusAfterCreation status created) : Int) ≤
      max job.maxParallelism (unfinishedCount status) := by
  have createdShorter := createdPrefix.length_le
  have scheduledShorter : ((handleRunningCreates job status).length : Int) ≤
      max 0 (job.maxParallelism - unfinishedCount status) := by
    unfold handleRunningCreates
    dsimp only
    split
    · rw [length_willStartTasksOf]
      omega
    · simp
  have counted := unfinishedCount_statusAfterCreation_le created status
  omega

/-- For every job and alias-keyed status map, `willStartTasksOf` returns a
prefix of the ready subtasks of length `max 0 (min |R| (m - k))`, `k` being
the unfinished subtasks; so after a reconcile of `handleRunning` has created
any part of what it schedules, at most `max m k` subtasks are unfinished. -/
theorem running_handler_respects_parallelism
    (job : KusciaJob)
    (status : TaskStatusMap) :
    (∀ readyTasks : List KusciaTaskTemplate,
      List.IsPrefix (willStartTasksOf job readyTasks status) readyTasks ∧
        ((willStartTasksOf job readyTasks status).length : Int) =
          max 0 (min (readyTasks.length : Int) (job.maxParallelism - unfinishedCount status))) ∧
    ∀ created : List KusciaTaskTemplate,
      List.IsPrefix created (handleRunningCreates job status) →
        (unfinishedCount (statusAfterCreation status created) : Int) ≤
          max job.maxParallelism (unfinishedCount status) := by
  refine ⟨fun readyTasks => ⟨?_, length_willStartTasksOf job readyTasks status⟩,
    fun created createdPrefix => unfinishedCount_after_handleRunning_le job status createdPrefix⟩
  rw [willStartTasksOf_eq_take]
  exact List.take_prefix _ _

end Kuscia.JobScheduler
