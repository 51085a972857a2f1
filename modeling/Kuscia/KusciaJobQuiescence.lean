import Kuscia.KusciaJobStatusPhase

namespace Kuscia.JobScheduler

/-!
# Quiescent jobs

A job is quiescent when no subtask is running or pending and `readyTasksOf`
offers nothing to create: the running handler can make no further progress.
The question is whether `jobStatusPhaseFrom` then reports a final phase.

It does not in general.  A tolerable task that fails while another task
depends on it leaves that dependent neither finished nor ready, and since no
critical task failed, both schedule modes report `Running` for ever.  The
API documents the case away: `KusciaTaskTemplate.Tolerable` says "tolerable
sub-task can not be other sub-tasks dependencies", though validation does not
check it.  Under that rule a descent along dependencies, well-founded because
validation accepted the job, always reaches a failed critical task.

In BestEffort mode the phase also reads `readyTaskMap`, which looks
dependencies up by `TaskID`.  Where a task's `TaskID` is the alias of
another task that some task depends on, that lookup can find a succeeded task
in place of a failed dependency and keep the job `Running` with nothing to
create (`jobStatusPhaseFrom_running_when_taskID_clashes`).
-/

/-- No subtask of the job is running or pending. -/
def Quiescent (tasks : List KusciaTaskTemplate) (status : TaskStatusMap) : Prop :=
  ∀ t ∈ tasks, status.lookup t.taskAlias ≠ some .running ∧
    status.lookup t.taskAlias ≠ some .pending

instance (tasks : List KusciaTaskTemplate) (status : TaskStatusMap) :
    Decidable (Quiescent tasks status) :=
  inferInstanceAs (Decidable (∀ t ∈ tasks, _))

/-- Every task some task depends on is critical, as the API's documentation
of `Tolerable` requires. -/
def NoTolerableDependency (tasks : List KusciaTaskTemplate) : Prop :=
  ∀ t ∈ tasks, ∀ d ∈ t.dependencies, ∀ u ∈ tasks, u.taskAlias = d → u.critical = true

instance (tasks : List KusciaTaskTemplate) : Decidable (NoTolerableDependency tasks) :=
  inferInstanceAs (Decidable (∀ t ∈ tasks, _))

section Descent

variable {job : KusciaJob} {status : TaskStatusMap}

/-- Below an uncreated task of a quiescent job with nothing ready there is a
failed critical task; the induction runs along the well-founded dependency
relation. -/
theorem exists_failed_critical_of_uncreated
    (keyed : WellKeyed job.tasks)
    (dependenciesExist : DependenciesExist job.tasks)
    (noTolerableDependency : NoTolerableDependency job.tasks)
    (quiescent : Quiescent job.tasks status)
    (nothingReady : ∀ t ∈ job.tasks, ¬ ReadyIn status t)
    {a : String}
    (accessible : Acc (DependsOn job.tasks) a) :
    ∀ t ∈ job.tasks, t.taskAlias = a → status.lookup a = none →
      ∃ u ∈ job.tasks, u.critical = true ∧ status.lookup u.taskAlias = some .failed := by
  induction accessible with
  | intro a _ inductionHypothesis =>
      intro t tMember tAlias uncreated
      have blocked : ∃ d ∈ t.dependencies, status.lookup d ≠ some .succeeded := by
        by_contra allSucceeded
        push Not at allSucceeded
        exact nothingReady t tMember
          ⟨keyed.taskIDsNonEmpty t tMember, tAlias ▸ uncreated, allSucceeded⟩
      rcases blocked with ⟨d, dMember, notSucceeded⟩
      rcases List.mem_map.mp (dependenciesExist t tMember d dMember) with ⟨u, uMember, uAlias⟩
      have related : DependsOn job.tasks d a := ⟨t, tMember, tAlias, dMember⟩
      have uCritical : u.critical = true :=
        noTolerableDependency t tMember d dMember u uMember uAlias
      cases phase : status.lookup d with
      | none =>
          exact inductionHypothesis d related u uMember uAlias phase
      | some p =>
          rw [← uAlias] at phase
          cases p with
          | failed =>
              exact ⟨u, uMember, uCritical, phase⟩
          | succeeded =>
              rw [← uAlias] at notSucceeded
              exact absurd phase notSucceeded
          | running =>
              exact absurd phase (quiescent u uMember).1
          | pending =>
              exact absurd phase (quiescent u uMember).2

/-- A quiescent validated job has either finished with every critical task
succeeded, or a failed critical task. -/
theorem finished_or_failed_critical
    (keyed : WellKeyed job.tasks)
    (dependenciesExist : DependenciesExist job.tasks)
    (accessible : ∀ t ∈ job.tasks, Acc (DependsOn job.tasks) t.taskAlias)
    (noTolerableDependency : NoTolerableDependency job.tasks)
    (quiescent : Quiescent job.tasks status)
    (nothingReady : ∀ t ∈ job.tasks, ¬ ReadyIn status t) :
    (∀ t ∈ job.tasks,
        (status.lookup t.taskAlias = some .succeeded ∨ status.lookup t.taskAlias = some .failed) ∧
          (t.critical = true → status.lookup t.taskAlias = some .succeeded)) ∨
      ∃ u ∈ job.tasks, u.critical = true ∧ status.lookup u.taskAlias = some .failed := by
  by_cases someUncreated : ∃ t ∈ job.tasks, status.lookup t.taskAlias = none
  · rcases someUncreated with ⟨t, tMember, uncreated⟩
    exact Or.inr (exists_failed_critical_of_uncreated keyed dependenciesExist
      noTolerableDependency quiescent nothingReady (accessible t tMember) t tMember rfl uncreated)
  · by_cases someCriticalFailed :
        ∃ u ∈ job.tasks, u.critical = true ∧ status.lookup u.taskAlias = some .failed
    · exact Or.inr someCriticalFailed
    · refine Or.inl fun t tMember => ?_
      push Not at someUncreated someCriticalFailed
      have finished :
          status.lookup t.taskAlias = some .succeeded ∨
            status.lookup t.taskAlias = some .failed := by
        rcases (quiescent t tMember) with ⟨notRunning, notPending⟩
        cases phase : status.lookup t.taskAlias with
        | none => exact absurd phase (someUncreated t tMember)
        | some p =>
            cases p <;> simp_all
      refine ⟨finished, fun critical => ?_⟩
      exact finished.resolve_right (someCriticalFailed t tMember critical)

end Descent

section Outcomes

variable {job : KusciaJob} {status : TaskStatusMap}

/-- Every task finished and every critical one succeeded: `Succeeded`. -/
theorem jobStatusPhaseFrom_eq_succeeded
    (taskIDsNodup : (job.tasks.map KusciaTaskTemplate.taskID).Nodup)
    (nonEmpty : job.tasks ≠ [])
    (allFinished : ∀ t ∈ job.tasks,
      (status.lookup t.taskAlias = some .succeeded ∨ status.lookup t.taskAlias = some .failed) ∧
        (t.critical = true → status.lookup t.taskAlias = some .succeeded)) :
    jobStatusPhaseFrom job status = .succeeded := by
  rcases List.exists_mem_of_ne_nil _ nonEmpty with ⟨t, tMember⟩
  have someCreated :
      (currentTaskMapFrom job status).allMatch taskNotExists = false := by
    apply Bool.eq_false_iff.mpr
    rw [ne_eq, allMatch_currentTaskMapFrom_iff taskIDsNodup]
    intro allAbsent
    have absent := allAbsent t tMember
    rcases (allFinished t tMember).1 with phase | phase <;>
      simp [taskNotExists, currentTaskOf, phase] at absent
  have allDone :
      (currentTaskMapFrom job status).allMatch taskFinished = true := by
    rw [allMatch_currentTaskMapFrom_iff taskIDsNodup]
    intro t tMember
    rcases (allFinished t tMember).1 with phase | phase <;>
      simp [taskFinished, currentTaskOf, phase]
  have criticalDone :
      (currentTaskMapFrom job status).criticalTaskMap.allMatch taskSucceeded = true := by
    rw [allMatch_criticalTaskMap_iff taskIDsNodup]
    intro t tMember critical
    simp [taskSucceeded, currentTaskOf, (allFinished t tMember).2 critical]
  simp only [jobStatusPhaseFrom, someCreated, allDone, criticalDone]
  rfl

/-- A failed critical task with nothing running gives `Failed`, provided that
in non-interconnection BestEffort mode `readyTaskMap` is empty as well. -/
theorem jobStatusPhaseFrom_eq_failed
    (taskIDsNodup : (job.tasks.map KusciaTaskTemplate.taskID).Nodup)
    {u : KusciaTaskTemplate}
    (uMember : u ∈ job.tasks)
    (uCritical : u.critical = true)
    (uFailed : status.lookup u.taskAlias = some .failed)
    (noneRunning : (currentTaskMapFrom job status).anyMatch taskRunning = false)
    (readyEmpty :
      job.scheduleMode = .strict ∨ isInterConnJob job = true ∨
        (currentTaskMapFrom job status).readyTaskMap.size = 0) :
    jobStatusPhaseFrom job status = .failed := by
  have someCreated :
      (currentTaskMapFrom job status).allMatch taskNotExists = false := by
    apply Bool.eq_false_iff.mpr
    rw [ne_eq, allMatch_currentTaskMapFrom_iff taskIDsNodup]
    intro allAbsent
    simpa [taskNotExists, currentTaskOf, uFailed] using allAbsent u uMember
  have criticalNotDone :
      (currentTaskMapFrom job status).criticalTaskMap.allMatch taskSucceeded = false := by
    apply Bool.eq_false_iff.mpr
    rw [ne_eq, allMatch_criticalTaskMap_iff taskIDsNodup]
    intro allSucceeded
    simpa [taskSucceeded, currentTaskOf, uFailed] using allSucceeded u uMember uCritical
  have criticalFailed :
      (currentTaskMapFrom job status).criticalTaskMap.anyMatch taskFailed = true :=
    (anyMatch_criticalTaskMap_iff taskIDsNodup).mpr
      ⟨u, uMember, uCritical, by simp [taskFailed, currentTaskOf, uFailed]⟩
  have someFailed :
      (currentTaskMapFrom job status).anyMatch taskFailed = true :=
    (anyMatch_currentTaskMapFrom_iff taskIDsNodup).mpr
      ⟨u, uMember, by simp [taskFailed, currentTaskOf, uFailed]⟩
  simp only [jobStatusPhaseFrom, someCreated, criticalNotDone, Bool.and_false]
  cases mode : job.scheduleMode with
  | strict =>
      simp [criticalFailed]
  | bestEffort =>
      by_cases interConn : isInterConnJob job = true
      · simp [interConn, someFailed]
      · rcases readyEmpty with strict | interConnJob | emptyReady
        · rw [mode] at strict
          cases strict
        · exact absurd interConnJob interConn
        · simp [interConn, emptyReady, noneRunning, criticalFailed]

end Outcomes

/--
For a validated job with distinct aliases and distinct non-empty `TaskID`s in
which no task depends on a tolerable one, a quiescent state is reported as
`Succeeded` or `Failed`, in Strict mode and, in BestEffort mode, whenever the
job is an interconnection job or no `TaskID` clashes with a dependency's alias
(the cases in which `readyTaskMap`'s `TaskID`-keyed lookup cannot invent a
ready task).
-/
theorem jobStatusPhaseFrom_final_of_quiescent
    (namespaceLister : String → Except String Unit)
    (job : KusciaJob)
    (status : TaskStatusMap)
    (validated : kusciaJobValidate namespaceLister job = .ok ())
    (keyed : WellKeyed job.tasks)
    (noTolerableDependency : NoTolerableDependency job.tasks)
    (lookupByAlias :
      job.scheduleMode = .strict ∨ isInterConnJob job = true ∨ NoTaskIDClash job.tasks)
    (quiescent : Quiescent job.tasks status)
    (nothingReady : readyTasksOf job status = []) :
    jobStatusPhaseFrom job status = .succeeded ∨ jobStatusPhaseFrom job status = .failed := by
  rcases validate_ok_iff.mp validated with ⟨-, nonEmpty, dependenciesChecked, acyclic⟩
  have dependenciesExist := dependenciesExist_of_exits dependenciesChecked
  have accessible := acc_dependsOn_of_hasTaskCycle_ok keyed.aliasesNodup acyclic
  have noneReady := (readyTasksOf_eq_nil_iff job status).mp nothingReady
  rcases finished_or_failed_critical keyed dependenciesExist accessible noTolerableDependency
      quiescent noneReady with allFinished | ⟨u, uMember, uCritical, uFailed⟩
  · exact Or.inl (jobStatusPhaseFrom_eq_succeeded keyed.taskIDsNodup nonEmpty allFinished)
  · have noneRunning :
        (currentTaskMapFrom job status).anyMatch taskRunning = false := by
      apply Bool.eq_false_iff.mpr
      rw [ne_eq, anyMatch_currentTaskMapFrom_iff keyed.taskIDsNodup]
      rintro ⟨t, tMember, running⟩
      rcases quiescent t tMember with ⟨notRunning, notPending⟩
      simp [taskRunning, currentTaskOf, notRunning, notPending] at running
    have readyEmpty :
        job.scheduleMode = .strict ∨ isInterConnJob job = true ∨
          (currentTaskMapFrom job status).readyTaskMap.size = 0 := by
      rcases lookupByAlias with strict | interConn | noClash
      · exact Or.inl strict
      · exact Or.inr (Or.inl interConn)
      · exact Or.inr (Or.inr
          (readyTaskMap_size_eq_zero_of_noTaskIDClash keyed noClash nothingReady))
    exact Or.inr (jobStatusPhaseFrom_eq_failed keyed.taskIDsNodup uMember uCritical uFailed
      noneRunning readyEmpty)

/-- A BestEffort job whose critical `a` failed while the critical `b` waits
on it, with `TaskID`s other than the aliases, is reported final. -/
theorem jobStatusPhaseFrom_final_of_quiescent_failedDependency :
    let taskA : KusciaTaskTemplate :=
      { taskAlias := "a", taskID := "task-a", dependencies := [], tolerable := none,
        priority := 0 }
    let taskB : KusciaTaskTemplate :=
      { taskAlias := "b", taskID := "task-b", dependencies := ["a"], tolerable := none,
        priority := 0 }
    let job : KusciaJob :=
      { annotations := ∅, initiator := "alice", scheduleMode := .bestEffort, maxParallelism := 1,
        tasks := [taskA, taskB] }
    let status : TaskStatusMap := (∅ : TaskStatusMap).insert "a" .failed
    Quiescent job.tasks status ∧ readyTasksOf job status = [] ∧
      (jobStatusPhaseFrom job status = .succeeded ∨ jobStatusPhaseFrom job status = .failed) := by
  intro taskA taskB job status
  have validated : kusciaJobValidate (fun _ => .ok ()) job = .ok () := by decide +kernel
  have nothingReady : readyTasksOf job status = [] := by decide +kernel
  refine ⟨by decide, nothingReady, ?_⟩
  exact jobStatusPhaseFrom_final_of_quiescent (fun _ => .ok ()) job status validated
    ⟨by decide, by decide, by decide⟩ (by decide) (Or.inr (Or.inr (by decide))) (by decide)
    nothingReady

/--
A task that depends on a tolerable one can keep a job `Running` for ever: `a`
is tolerable and failed, the critical `b` depends on it, nothing runs and
nothing is ready, yet both schedule modes report `Running`.
-/
theorem jobStatusPhaseFrom_running_when_tolerable_dependency_failed :
    let taskA : KusciaTaskTemplate :=
      { taskAlias := "a", taskID := "a", dependencies := [], tolerable := some true,
        priority := 0 }
    let taskB : KusciaTaskTemplate :=
      { taskAlias := "b", taskID := "b", dependencies := ["a"], tolerable := none, priority := 0 }
    let job : KusciaJob :=
      { annotations := ∅, initiator := "alice", scheduleMode := .strict, maxParallelism := 1,
        tasks := [taskA, taskB] }
    let status : TaskStatusMap := (∅ : TaskStatusMap).insert "a" .failed
    kusciaJobValidate (fun _ => .ok ()) job = .ok () ∧ WellKeyed job.tasks ∧
      Quiescent job.tasks status ∧ readyTasksOf job status = [] ∧
      jobStatusPhaseFrom job status = .running ∧
      jobStatusPhaseFrom { job with scheduleMode := .bestEffort } status = .running := by
  refine ⟨by decide +kernel, ⟨by decide, by decide, by decide⟩, by decide, by decide +kernel,
    by decide, by decide⟩

/--
A `TaskID` that is a dependency's alias keeps a quiescent BestEffort job
`Running`: `t` waits on the failed `a`, but `readyTaskMap` looks `a` up under
the `TaskID` of the succeeded `u` and counts `t` ready, while `readyTasksOf`
offers nothing to create.
-/
theorem jobStatusPhaseFrom_running_when_taskID_clashes :
    let taskA : KusciaTaskTemplate :=
      { taskAlias := "a", taskID := "task-a", dependencies := [], tolerable := none,
        priority := 0 }
    let taskU : KusciaTaskTemplate :=
      { taskAlias := "u", taskID := "a", dependencies := [], tolerable := none, priority := 0 }
    let taskT : KusciaTaskTemplate :=
      { taskAlias := "t", taskID := "task-t", dependencies := ["a"], tolerable := none,
        priority := 0 }
    let job : KusciaJob :=
      { annotations := ∅, initiator := "alice", scheduleMode := .bestEffort, maxParallelism := 1,
        tasks := [taskA, taskU, taskT] }
    let status : TaskStatusMap := ((∅ : TaskStatusMap).insert "a" .failed).insert "u" .succeeded
    kusciaJobValidate (fun _ => .ok ()) job = .ok () ∧ WellKeyed job.tasks ∧
      NoTolerableDependency job.tasks ∧ Quiescent job.tasks status ∧
      readyTasksOf job status = [] ∧ jobStatusPhaseFrom job status = .running := by
  refine ⟨by decide +kernel, ⟨by decide, by decide, by decide⟩, by decide, by decide,
    by decide +kernel, by decide⟩

end Kuscia.JobScheduler
