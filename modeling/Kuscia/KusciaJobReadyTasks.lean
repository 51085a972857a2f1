import Kuscia.KusciaJobValidate

namespace Kuscia.JobScheduler

/-!
# Ready subtasks

`readyTasksOf` (`scheduler.go`) returns the subtasks that can be created now:
those whose dependencies all map to `Succeeded` in the alias-keyed status map,
whose `TaskID` is set and whose alias is not in the map yet.  The result is
sorted by priority and mapped back to the original templates by alias.

`sort.Slice` is not stable; `List.mergeSort` with the same comparison is one
of the orders it may produce, and nothing below depends on which.
-/

/-- A dependency still blocks a task unless the status map records it as
`Succeeded` (a missing key reads as the empty phase). -/
def dependencyPending (currentTasks : TaskStatusMap) (d : String) : Bool :=
  currentTasks.lookup d != some .succeeded

/-- The task with its satisfied dependencies removed (the `stringFilter` loop
over the deep copy). -/
def pruneSucceeded (currentTasks : TaskStatusMap) (t : KusciaTaskTemplate) :
    KusciaTaskTemplate :=
  { t with dependencies := t.dependencies.filter (dependencyPending currentTasks) }

/-- `readyTasksOf`. -/
def readyTasksOf (job : KusciaJob) (currentTasks : TaskStatusMap) :
    List KusciaTaskTemplate :=
  let pruned := job.tasks.map (pruneSucceeded currentTasks)
  let noDependenciesTasks :=
    pruned.filter fun t => t.dependencies.isEmpty && t.taskID != ""
  let readyTasks :=
    noDependenciesTasks.filter fun t => (currentTasks.lookup t.taskAlias).isNone
  if readyTasks.isEmpty then
    []
  else
    -- task with higher priority should run early
    let sorted := readyTasks.mergeSort fun a b => decide (b.priority ≤ a.priority)
    let kusciaJobTaskMap := Go.Map.ofList (job.tasks.map fun t => (t.taskAlias, t))
    sorted.map fun t => (kusciaJobTaskMap.lookup t.taskAlias).getD default

/-- The readiness test `readyTasksOf` applies to one template, stated on the
original dependency list. -/
def ReadyIn (currentTasks : TaskStatusMap) (t : KusciaTaskTemplate) : Prop :=
  t.taskID ≠ "" ∧ currentTasks.lookup t.taskAlias = none ∧
    ∀ d ∈ t.dependencies, currentTasks.lookup d = some .succeeded

instance (currentTasks : TaskStatusMap) (t : KusciaTaskTemplate) :
    Decidable (ReadyIn currentTasks t) :=
  inferInstanceAs (Decidable (_ ∧ _ ∧ _))

/-- Pruning keeps the alias and the `TaskID`. -/
@[simp] theorem pruneSucceeded_taskAlias
    (currentTasks : TaskStatusMap)
    (t : KusciaTaskTemplate) :
    (pruneSucceeded currentTasks t).taskAlias = t.taskAlias :=
  rfl

@[simp] theorem pruneSucceeded_taskID
    (currentTasks : TaskStatusMap)
    (t : KusciaTaskTemplate) :
    (pruneSucceeded currentTasks t).taskID = t.taskID :=
  rfl

/-- A pruned template passes both filters exactly when the original is ready. -/
theorem pruned_passes_iff
    (currentTasks : TaskStatusMap)
    (t : KusciaTaskTemplate) :
    ((currentTasks.lookup (pruneSucceeded currentTasks t).taskAlias).isNone &&
        ((pruneSucceeded currentTasks t).dependencies.isEmpty &&
          (pruneSucceeded currentTasks t).taskID != "")) = true ↔
      ReadyIn currentTasks t := by
  simp only [pruneSucceeded, ReadyIn, dependencyPending, Bool.and_eq_true,
    List.isEmpty_iff, List.filter_eq_nil_iff, bne_iff_ne, ne_eq, Option.isNone_iff_eq_none,
    Decidable.not_not]
  tauto

/-- The unsorted candidates of `readyTasksOf`, before the map back to the
original templates. -/
theorem readyTasks_filter_eq
    (job : KusciaJob)
    (currentTasks : TaskStatusMap) :
    ((job.tasks.map (pruneSucceeded currentTasks)).filter
        (fun t => t.dependencies.isEmpty && t.taskID != "")).filter
        (fun t => (currentTasks.lookup t.taskAlias).isNone) =
      (job.tasks.filter fun t => decide (ReadyIn currentTasks t)).map
        (pruneSucceeded currentTasks) := by
  rw [List.filter_filter, List.filter_map]
  congr 1
  apply List.filter_congr
  intro t _
  exact Bool.eq_iff_iff.mpr ((pruned_passes_iff currentTasks t).trans decide_eq_true_iff.symm)

/-- `readyTasksOf` is empty exactly when no template of the job is ready. -/
theorem readyTasksOf_eq_nil_iff
    (job : KusciaJob)
    (currentTasks : TaskStatusMap) :
    readyTasksOf job currentTasks = [] ↔ ∀ t ∈ job.tasks, ¬ ReadyIn currentTasks t := by
  have candidatesNil :
      (job.tasks.filter fun t => decide (ReadyIn currentTasks t)).map
          (pruneSucceeded currentTasks) = [] ↔
        ∀ t ∈ job.tasks, ¬ ReadyIn currentTasks t := by
    simp [List.filter_eq_nil_iff]
  rw [← candidatesNil]
  simp only [readyTasksOf, readyTasks_filter_eq]
  split
  · rename_i noneReady
    simpa [List.isEmpty_iff] using noneReady
  · rw [← List.length_eq_zero_iff, List.length_map, List.length_mergeSort,
      List.length_eq_zero_iff]

/-- With distinct aliases, the alias-keyed copy of `Spec.Tasks` maps every
alias back to its own template. -/
theorem lookup_taskMap_of_mem
    {job : KusciaJob}
    (aliasesNodup : (aliases job.tasks).Nodup)
    {u : KusciaTaskTemplate}
    (uMember : u ∈ job.tasks) :
    (Go.Map.ofList (job.tasks.map fun t => (t.taskAlias, t))).lookup u.taskAlias = some u := by
  have keysNodup : ((job.tasks.map fun t => (t.taskAlias, t)).map Prod.fst).Nodup := by
    simpa [List.map_map, Function.comp_def, aliases] using aliasesNodup
  exact Go.Map.lookup_ofList_of_mem keysNodup (List.mem_map.mpr ⟨u, uMember, rfl⟩)

/-- The comparison `readyTasksOf` sorts with: higher priority first. -/
def priorityFirst (a b : KusciaTaskTemplate) : Bool :=
  decide (b.priority ≤ a.priority)

theorem priorityFirst_trans
    {a b c : KusciaTaskTemplate}
    (first : priorityFirst a b = true)
    (second : priorityFirst b c = true) :
    priorityFirst a c = true := by
  simp only [priorityFirst, decide_eq_true_eq] at first second ⊢
  exact Int.le_trans second first

theorem priorityFirst_total
    (a b : KusciaTaskTemplate) :
    (priorityFirst a b || priorityFirst b a) = true := by
  simp only [priorityFirst, Bool.or_eq_true, decide_eq_true_eq]
  exact Int.le_total _ _

/-- Mapping the sorted copies back by alias gives the originals, in the same
order: with distinct aliases, each copy's alias names its own template. -/
theorem map_back_pruned
    {job : KusciaJob}
    (aliasesNodup : (aliases job.tasks).Nodup)
    (currentTasks : TaskStatusMap)
    {ready : List KusciaTaskTemplate}
    (readySub : ∀ t ∈ ready, t ∈ job.tasks) :
    (ready.map (pruneSucceeded currentTasks)).map
        (fun t => ((Go.Map.ofList (job.tasks.map fun t => (t.taskAlias, t))).lookup
          t.taskAlias).getD default) = ready := by
  rw [List.map_map]
  conv_rhs => rw [← List.map_id ready]
  apply List.map_congr_left
  intro t tMember
  simp only [Function.comp_apply, id, pruneSucceeded_taskAlias,
    lookup_taskMap_of_mem aliasesNodup (readySub t tMember), Option.getD_some]

/-- With distinct aliases, `readyTasksOf` returns the ready templates of
`Spec.Tasks`, each as often as it is listed, highest priority first. -/
theorem readyTasksOf_perm_priority_sorted
    {job : KusciaJob}
    (aliasesNodup : (aliases job.tasks).Nodup)
    (currentTasks : TaskStatusMap) :
    List.Perm (readyTasksOf job currentTasks)
        (job.tasks.filter fun t => decide (ReadyIn currentTasks t)) ∧
      (readyTasksOf job currentTasks).Pairwise fun a b => b.priority ≤ a.priority := by
  have readySub : ∀ t ∈ job.tasks.filter (fun t => decide (ReadyIn currentTasks t)),
      t ∈ job.tasks :=
    fun t member => (List.mem_filter.mp member).1
  simp only [readyTasksOf, readyTasks_filter_eq]
  split
  · rename_i noneReady
    simp only [List.isEmpty_iff, List.map_eq_nil_iff] at noneReady
    rw [noneReady]
    exact ⟨List.Perm.refl _, List.Pairwise.nil⟩
  · -- sorting permutes the pruned copies; mapping back undoes the pruning
    have sortedPerm := List.mergeSort_perm
      ((job.tasks.filter fun t => decide (ReadyIn currentTasks t)).map
        (pruneSucceeded currentTasks)) priorityFirst
    have sorted := @List.pairwise_mergeSort _ priorityFirst
      (fun _ _ _ first second => priorityFirst_trans first second) priorityFirst_total
      ((job.tasks.filter fun t => decide (ReadyIn currentTasks t)).map
        (pruneSucceeded currentTasks))
    refine ⟨?_, ?_⟩
    · have mapped := sortedPerm.map fun t =>
        ((Go.Map.ofList (job.tasks.map fun t => (t.taskAlias, t))).lookup t.taskAlias).getD default
      rw [map_back_pruned aliasesNodup currentTasks readySub] at mapped
      exact mapped
    · apply List.pairwise_map.mpr
      refine sorted.imp_of_mem fun {a b} aMember bMember ordered => ?_
      obtain ⟨u, uMember, rfl⟩ := List.mem_map.mp (sortedPerm.subset aMember)
      obtain ⟨v, vMember, rfl⟩ := List.mem_map.mp (sortedPerm.subset bMember)
      simp only [pruneSucceeded_taskAlias, lookup_taskMap_of_mem aliasesNodup (readySub u uMember),
        lookup_taskMap_of_mem aliasesNodup (readySub v vMember), Option.getD_some]
      exact of_decide_eq_true ordered
/-- Three distinct aliases, `a` done: `b` and `c` are ready. -/
theorem readyTasksOf_perm_priority_sorted_threeTasks :
    let job : KusciaJob :=
      { annotations := ∅, initiator := "alice", scheduleMode := .strict, maxParallelism := 1,
        tasks := [⟨"a", "job-a", [], none, 1⟩, ⟨"b", "job-b", ["a"], none, 5⟩,
          ⟨"c", "job-c", [], none, 3⟩] }
    let status : TaskStatusMap := (∅ : TaskStatusMap).insert "a" .succeeded
    (aliases job.tasks).Nodup ∧
      List.Perm (readyTasksOf job status) (job.tasks.filter fun t => decide (ReadyIn status t)) ∧
      (readyTasksOf job status).Pairwise fun a b => b.priority ≤ a.priority :=
  ⟨by decide, readyTasksOf_perm_priority_sorted (by decide) _⟩

/-- Two tasks share the alias `a`, and the job passes `kusciaJobValidate`.
While `x` runs, the first `a` is ready and the second waits for `x`.  The ready
copy of the first is mapped back by alias to the last template under `a`, so
`readyTasksOf` returns the waiting template and leaves out the ready one. -/
theorem readyTasksOf_returns_waiting_namesake :
    let x : KusciaTaskTemplate :=
      { taskAlias := "x", taskID := "job-x", dependencies := [], tolerable := none, priority := 0 }
    let first : KusciaTaskTemplate :=
      { taskAlias := "a", taskID := "job-a1", dependencies := [], tolerable := none, priority := 0 }
    let second : KusciaTaskTemplate :=
      { taskAlias := "a", taskID := "job-a2", dependencies := ["x"], tolerable := none,
        priority := 0 }
    let job : KusciaJob :=
      { annotations := ∅, initiator := "alice", scheduleMode := .strict, maxParallelism := 1,
        tasks := [x, first, second] }
    let status : TaskStatusMap := (∅ : TaskStatusMap).insert "x" .running
    kusciaJobValidate (fun _ => .ok ()) job = .ok () ∧
      readyTasksOf job status = [second] ∧
      (job.tasks.filter fun t => decide (ReadyIn status t)) = [first] ∧
      ¬ ReadyIn status second := by
  refine ⟨by decide +kernel, by decide +kernel, by decide, by decide⟩

end Kuscia.JobScheduler
