import Kuscia.KusciaJobReadyTasks
import Kuscia.KusciaJobValidate

namespace Kuscia.JobScheduler

/-!
# The phase of a running job

`jobStatusPhaseFrom` (`scheduler.go`) classifies a job from its subtasks.  It
first builds a `currentTaskMap` keyed by `TaskID` (`currentTaskMapFrom`), each
entry carrying the template and the phase found in the alias-keyed status map,
then runs a cascade of `AllMatch`/`AnyMatch` checks over that map, its
critical part and its ready part.

`readyTaskMap` looks every dependency (an alias) up in the `TaskID`-keyed map.
The lemmas at the end of this module say when a task it keeps is one that the
alias-keyed test of `readyTasksOf` finds ready as well: when no `TaskID` is the
alias of a dependency of another task (`NoTaskIDClash`).  It may still miss a
ready task whose dependency's `TaskID` differs from its alias
(`readyTaskMap_disagrees_with_readyTasksOf`).
-/

/-- `currentTask`: a template with the phase of its alias, if one is recorded. -/
structure CurrentTask where
  template : KusciaTaskTemplate
  phase : Option KusciaTaskPhase
  deriving Repr, DecidableEq

/-- `currentTaskMap`, keyed by `TaskID`. -/
abbrev CurrentTaskMap := Go.Map String CurrentTask

/-- `taskFinished`. -/
def taskFinished (v : CurrentTask) : Bool :=
  v.phase == some .succeeded || v.phase == some .failed

/-- `taskNotExists`. -/
def taskNotExists (v : CurrentTask) : Bool :=
  v.phase.isNone

/-- `taskSucceeded`. -/
def taskSucceeded (v : CurrentTask) : Bool :=
  v.phase == some .succeeded

/-- `taskFailed`. -/
def taskFailed (v : CurrentTask) : Bool :=
  v.phase == some .failed

/-- `taskRunning`: running or pending (the empty phase never reaches here). -/
def taskRunning (v : CurrentTask) : Bool :=
  v.phase == some .running || v.phase == some .pending

/-- The entry `currentTaskMapFrom` builds for one template. -/
def currentTaskOf (currentTaskStatus : TaskStatusMap) (t : KusciaTaskTemplate) :
    CurrentTask where
  template := t
  phase := currentTaskStatus.lookup t.taskAlias

/-- `currentTaskMapFrom`: one entry per template, stored under its `TaskID`. -/
def currentTaskMapFrom (job : KusciaJob) (currentTaskStatus : TaskStatusMap) :
    CurrentTaskMap :=
  Go.Map.ofList (job.tasks.map fun t => (t.taskID, currentTaskOf currentTaskStatus t))

/-- No task's `TaskID` is the alias of another task that some task depends
on: a dependency looked up by `TaskID` finds its own task or nothing. -/
def NoTaskIDClash (tasks : List KusciaTaskTemplate) : Prop :=
  ∀ t ∈ tasks, ∀ d ∈ t.dependencies, ∀ u ∈ tasks, u.taskID = d → u.taskAlias = d

instance (tasks : List KusciaTaskTemplate) : Decidable (NoTaskIDClash tasks) :=
  inferInstanceAs (Decidable (∀ t ∈ tasks, _))

namespace CurrentTaskMap

/-- `currentTaskMap.criticalTaskMap`. -/
def criticalTaskMap (c : CurrentTaskMap) : CurrentTaskMap :=
  c.filter fun _ t => t.template.critical

/-- The test `readyTaskMap` applies to a dependency: the task stored under that
key has succeeded. -/
def dependencySucceeded (c : CurrentTaskMap) (taskId : String) : Bool :=
  (c.lookup taskId).bind CurrentTask.phase == some .succeeded

/-- `currentTaskMap.readyTaskMap`: not yet created, and every dependency looked
up in this (`TaskID`-keyed) map has succeeded. -/
def readyTaskMap (c : CurrentTaskMap) : CurrentTaskMap :=
  c.filter fun _ t =>
    taskNotExists t &&
      (t.template.dependencies.isEmpty || t.template.dependencies.all (dependencySucceeded c))

end CurrentTaskMap

/-- `jobStatusPhaseFrom`. -/
def jobStatusPhaseFrom (job : KusciaJob) (currentSubTasksStatus : TaskStatusMap) :
    KusciaJobPhase :=
  let tasks := currentTaskMapFrom job currentSubTasksStatus
  if tasks.allMatch taskNotExists then
    .running
  else
    let criticalTasks := tasks.criticalTaskMap
    let readyTasks := tasks.readyTaskMap
    if tasks.allMatch taskFinished && criticalTasks.allMatch taskSucceeded then
      .succeeded
    else
      match job.scheduleMode with
      | .strict =>
          if criticalTasks.anyMatch taskFailed then .failed else .running
      | .bestEffort =>
          if isInterConnJob job then
            if tasks.anyMatch taskFailed then .failed else .running
          else if readyTasks.size == 0 && !tasks.anyMatch taskRunning &&
              criticalTasks.anyMatch taskFailed then
            .failed
          else
            .running

section CurrentTasks

variable {job : KusciaJob} {currentTaskStatus : TaskStatusMap}

/-- Every entry of the current task map is the entry of some template stored
under its own `TaskID`. -/
theorem lookup_currentTaskMapFrom_eq_some
    {key : String}
    {v : CurrentTask}
    (found : (currentTaskMapFrom job currentTaskStatus).lookup key = some v) :
    ∃ t ∈ job.tasks, t.taskID = key ∧ v = currentTaskOf currentTaskStatus t := by
  rw [currentTaskMapFrom, Go.Map.lookup_ofList] at found
  obtain ⟨entry, entryFound, rfl⟩ := Option.map_eq_some_iff.mp found
  have entryMember := List.mem_reverse.mp (List.mem_of_find?_eq_some entryFound)
  have entryKey : entry.1 = key := by simpa using List.find?_some entryFound
  obtain ⟨t, tMember, rfl⟩ := List.mem_map.mp entryMember
  exact ⟨t, tMember, entryKey, rfl⟩

/-- With unique `TaskID`s, every template is stored under its `TaskID`. -/
theorem lookup_currentTaskMapFrom
    (taskIDsNodup : (job.tasks.map KusciaTaskTemplate.taskID).Nodup)
    {t : KusciaTaskTemplate}
    (tMember : t ∈ job.tasks) :
    (currentTaskMapFrom job currentTaskStatus).lookup t.taskID =
      some (currentTaskOf currentTaskStatus t) := by
  apply Go.Map.lookup_ofList_of_mem
  · simpa [List.map_map, Function.comp_def] using taskIDsNodup
  · exact List.mem_map.mpr ⟨t, tMember, rfl⟩

/-- A predicate holds on all entries exactly when it holds on every template's
entry. -/
theorem allMatch_currentTaskMapFrom_iff
    (taskIDsNodup : (job.tasks.map KusciaTaskTemplate.taskID).Nodup)
    {p : CurrentTask → Bool} :
    (currentTaskMapFrom job currentTaskStatus).allMatch p = true ↔
      ∀ t ∈ job.tasks, p (currentTaskOf currentTaskStatus t) = true := by
  rw [Go.Map.allMatch_iff]
  constructor
  · intro every t tMember
    exact every _ _ (lookup_currentTaskMapFrom taskIDsNodup tMember)
  · intro every key v found
    obtain ⟨t, tMember, -, rfl⟩ := lookup_currentTaskMapFrom_eq_some found
    exact every t tMember

/-- A predicate holds on some entry exactly when it holds on some template's
entry. -/
theorem anyMatch_currentTaskMapFrom_iff
    (taskIDsNodup : (job.tasks.map KusciaTaskTemplate.taskID).Nodup)
    {p : CurrentTask → Bool} :
    (currentTaskMapFrom job currentTaskStatus).anyMatch p = true ↔
      ∃ t ∈ job.tasks, p (currentTaskOf currentTaskStatus t) = true := by
  rw [Go.Map.anyMatch_iff]
  constructor
  · rintro ⟨key, v, found, holds⟩
    obtain ⟨t, tMember, -, rfl⟩ := lookup_currentTaskMapFrom_eq_some found
    exact ⟨t, tMember, holds⟩
  · rintro ⟨t, tMember, holds⟩
    exact ⟨_, _, lookup_currentTaskMapFrom taskIDsNodup tMember, holds⟩

/-- The critical part holds some entry satisfying `p` exactly when some
critical template's entry does. -/
theorem anyMatch_criticalTaskMap_iff
    (taskIDsNodup : (job.tasks.map KusciaTaskTemplate.taskID).Nodup)
    {p : CurrentTask → Bool} :
    (currentTaskMapFrom job currentTaskStatus).criticalTaskMap.anyMatch p = true ↔
      ∃ t ∈ job.tasks, t.critical = true ∧ p (currentTaskOf currentTaskStatus t) = true := by
  rw [Go.Map.anyMatch_iff]
  constructor
  · rintro ⟨key, v, found, holds⟩
    obtain ⟨inMap, critical⟩ := Go.Map.lookup_filter_eq_some_iff.mp found
    obtain ⟨t, tMember, -, rfl⟩ := lookup_currentTaskMapFrom_eq_some inMap
    exact ⟨t, tMember, critical, holds⟩
  · rintro ⟨t, tMember, critical, holds⟩
    refine ⟨t.taskID, _, ?_, holds⟩
    exact Go.Map.lookup_filter_eq_some_iff.mpr
      ⟨lookup_currentTaskMapFrom taskIDsNodup tMember, critical⟩

/-- The critical part satisfies `p` everywhere exactly when every critical
template's entry does. -/
theorem allMatch_criticalTaskMap_iff
    (taskIDsNodup : (job.tasks.map KusciaTaskTemplate.taskID).Nodup)
    {p : CurrentTask → Bool} :
    (currentTaskMapFrom job currentTaskStatus).criticalTaskMap.allMatch p = true ↔
      ∀ t ∈ job.tasks, t.critical = true → p (currentTaskOf currentTaskStatus t) = true := by
  rw [Go.Map.allMatch_iff]
  constructor
  · intro every t tMember critical
    exact every _ _ (Go.Map.lookup_filter_eq_some_iff.mpr
      ⟨lookup_currentTaskMapFrom taskIDsNodup tMember, critical⟩)
  · intro every key v found
    obtain ⟨inMap, critical⟩ := Go.Map.lookup_filter_eq_some_iff.mp found
    obtain ⟨t, tMember, -, rfl⟩ := lookup_currentTaskMapFrom_eq_some inMap
    exact every t tMember critical

end CurrentTasks

section AliasKeyed

variable {job : KusciaJob} {currentTaskStatus : TaskStatusMap}

/-- A dependency that `readyTaskMap` finds succeeded under a `TaskID` key has
succeeded under its alias, when that `TaskID` is no other task's alias. -/
theorem succeeded_of_dependencySucceeded
    (noClash : NoTaskIDClash job.tasks)
    {t : KusciaTaskTemplate}
    (tMember : t ∈ job.tasks)
    {d : String}
    (dMember : d ∈ t.dependencies)
    (found : (currentTaskMapFrom job currentTaskStatus).dependencySucceeded d = true) :
    currentTaskStatus.lookup d = some .succeeded := by
  simp only [CurrentTaskMap.dependencySucceeded, beq_iff_eq, Option.bind_eq_some_iff] at found
  obtain ⟨v, inMap, phase⟩ := found
  obtain ⟨u, uMember, uKey, rfl⟩ := lookup_currentTaskMapFrom_eq_some inMap
  rw [← noClash t tMember d dMember u uMember uKey]
  exact phase

/-- Without a clash of a `TaskID` with a dependency's alias, every task that
`readyTaskMap` keeps is ready for `readyTasksOf` as well. -/
theorem ready_of_lookup_readyTaskMap
    (keyed : WellKeyed job.tasks)
    (noClash : NoTaskIDClash job.tasks)
    {key : String}
    {v : CurrentTask}
    (found : (currentTaskMapFrom job currentTaskStatus).readyTaskMap.lookup key = some v) :
    v.template ∈ job.tasks ∧ ReadyIn currentTaskStatus v.template := by
  obtain ⟨inMap, kept⟩ := Go.Map.lookup_filter_eq_some_iff.mp found
  obtain ⟨t, tMember, -, rfl⟩ := lookup_currentTaskMapFrom_eq_some inMap
  simp only [taskNotExists, currentTaskOf, Option.isNone_iff_eq_none, Bool.and_eq_true,
    Bool.or_eq_true, List.isEmpty_iff, List.all_eq_true] at kept
  obtain ⟨absent, noDependencies | allSucceeded⟩ := kept
  · refine ⟨tMember, keyed.taskIDsNonEmpty t tMember, absent, fun d dMember => ?_⟩
    simp [currentTaskOf, noDependencies] at dMember
  · exact ⟨tMember, keyed.taskIDsNonEmpty t tMember, absent, fun d dMember =>
      succeeded_of_dependencySucceeded noClash tMember dMember (allSucceeded d dMember)⟩

/-- Hence, without such a clash, `readyTaskMap` is empty when `readyTasksOf`
is. -/
theorem readyTaskMap_size_eq_zero_of_noTaskIDClash
    (keyed : WellKeyed job.tasks)
    (noClash : NoTaskIDClash job.tasks)
    (nothingReady : readyTasksOf job currentTaskStatus = []) :
    (currentTaskMapFrom job currentTaskStatus).readyTaskMap.size = 0 := by
  rw [Go.Map.size_eq_zero_iff]
  intro key
  cases found : (currentTaskMapFrom job currentTaskStatus).readyTaskMap.lookup key with
  | none => rfl
  | some v =>
      obtain ⟨tMember, ready⟩ := ready_of_lookup_readyTaskMap keyed noClash found
      exact absurd ready ((readyTasksOf_eq_nil_iff job currentTaskStatus).mp nothingReady _ tMember)

/--
`readyTaskMap` and `readyTasksOf` disagree once a `TaskID` differs from its
alias: the dependency `"a"` of `b` is looked up under the `TaskID` key
`"a"`, which holds nothing, so `readyTaskMap` misses the ready `b`.  In
BestEffort mode the job is then declared `Failed` while `b` could still run,
and renaming the `TaskID`s back to the aliases changes the phase to `Running`.
-/
theorem readyTaskMap_disagrees_with_readyTasksOf :
    let taskA : KusciaTaskTemplate :=
      { taskAlias := "a", taskID := "task-a", dependencies := [], tolerable := none, priority := 0 }
    let taskB : KusciaTaskTemplate :=
      { taskAlias := "b", taskID := "task-b", dependencies := ["a"], tolerable := none,
        priority := 0 }
    let taskC : KusciaTaskTemplate :=
      { taskAlias := "c", taskID := "task-c", dependencies := [], tolerable := none, priority := 0 }
    let job : KusciaJob :=
      { annotations := ∅, initiator := "alice", scheduleMode := .bestEffort, maxParallelism := 1,
        tasks := [taskA, taskB, taskC] }
    let renamed : KusciaJob :=
      { job with tasks := job.tasks.map fun t => { t with taskID := t.taskAlias } }
    let status : TaskStatusMap := ((∅ : TaskStatusMap).insert "a" .succeeded).insert "c" .failed
    kusciaJobValidate (fun _ => .ok ()) job = .ok () ∧ WellKeyed job.tasks ∧
      readyTasksOf job status = [taskB] ∧
      (currentTaskMapFrom job status).readyTaskMap.size = 0 ∧
      jobStatusPhaseFrom job status = .failed ∧
      jobStatusPhaseFrom renamed status = .running := by
  refine ⟨by decide +kernel, ⟨by decide, by decide, by decide⟩, by decide +kernel, by decide,
    by decide, by decide⟩

end AliasKeyed

end Kuscia.JobScheduler
