import Kuscia.KusciaJobSpec
import Mathlib

namespace Kuscia.JobScheduler

/-!
# Validation of a submitted KusciaJob

`JobScheduler.kusciaJobValidate` (`scheduler.go`) accepts a job when its
initiator namespace exists, it has at least one task, every dependency names
an alias of the job (`kusciaJobDependenciesExits`), and repeatedly peeling off
the tasks without dependencies empties the job (`kusciaJobHasTaskCycle`).

The cycle check accepts a job exactly when its tasks admit an order in which
every dependency of each task is the alias of a task placed before it
(`hasTaskCycle_ok_iff_dependenciesFirst`), whatever the aliases and the
dependency lists; the rounds are the induction, as `fun_induction` gives them.
An accepted check also makes the dependency relation well-founded: every alias
is accessible for `DependsOn`, so an argument may descend along dependencies.
-/

/-- The aliases `kusciaJobHasTaskCycle` removes in one round: those of the
tasks that have no dependency left. -/
def removeSubtasks (tasks : List KusciaTaskTemplate) : List String :=
  aliases (tasks.filter fun t => t.dependencies.isEmpty)

/-- One round of `kusciaJobHasTaskCycle`: drop the tasks without dependencies,
then drop the removed aliases from the remaining dependency lists. -/
def peelTasks (tasks : List KusciaTaskTemplate) : List KusciaTaskTemplate :=
  (tasks.filter fun t => !t.dependencies.isEmpty).map fun t =>
    { t with dependencies := t.dependencies.filter fun d => d ∉ removeSubtasks tasks }

/-- A round that removes some alias strictly shortens the task list. -/
private theorem peelTasks_length_lt
    {tasks : List KusciaTaskTemplate}
    (removedSome : removeSubtasks tasks ≠ []) :
    (peelTasks tasks).length < tasks.length := by
  obtain ⟨removed, removedMember⟩ := List.exists_mem_of_ne_nil _ removedSome
  obtain ⟨t, tMember, -⟩ := List.mem_map.mp removedMember
  obtain ⟨inTasks, noDependencies⟩ := List.mem_filter.mp tMember
  rw [peelTasks, List.length_map]
  apply List.length_filter_lt_length_iff_exists.mpr
  exact ⟨t, inTasks, by simpa using noDependencies⟩

/-- `kusciaJobHasTaskCycle`: peel rounds until none removes a task; the job is
acyclic exactly when nothing with a dependency is left then. -/
def kusciaJobHasTaskCycle (tasks : List KusciaTaskTemplate) : Except String Unit :=
  if _removedNone : removeSubtasks tasks = [] then
    if (peelTasks tasks).all fun t => t.dependencies.isEmpty then
      .ok ()
    else
      .error "validate failed: cycled dependencies"
  else
    kusciaJobHasTaskCycle (peelTasks tasks)
termination_by tasks.length
decreasing_by exact peelTasks_length_lt _removedNone

/-- `kusciaJobDependenciesExits`: the first dependency, in task order, that
names no alias of the job is reported. -/
def kusciaJobDependenciesExits (tasks : List KusciaTaskTemplate) : Except String Unit :=
  let taskIDSet := aliases tasks
  let missing := tasks.findSome? fun t =>
    (t.dependencies.find? fun d => d ∉ taskIDSet).map fun d => (t.taskAlias, d)
  match missing with
  | some (taskAlias, dependency) =>
      .error s!"validate failed: task {taskAlias} has not exist dependency task {dependency}"
  | none => .ok ()

/--
`JobScheduler.kusciaJobValidate`.  The namespace lister is a parameter: it
answers whether the initiator's namespace exists, with the lister's error text
otherwise.
-/
def kusciaJobValidate
    (namespaceLister : String → Except String Unit)
    (job : KusciaJob) :
    Except String Unit :=
  match namespaceLister job.initiator with
  | .error listerError =>
      let initiator := job.initiator
      .error s!"can\x27t find initiator namespace {initiator} under cluster, {listerError}"
  | .ok () =>
      if job.tasks.isEmpty then
        .error "kuscia job should include at least one of task"
      else
        match kusciaJobDependenciesExits job.tasks with
        | .error message => .error message
        | .ok () => kusciaJobHasTaskCycle job.tasks

/-- Every dependency names an alias of the job. -/
def DependenciesExist (tasks : List KusciaTaskTemplate) : Prop :=
  ∀ t ∈ tasks, ∀ d ∈ t.dependencies, d ∈ aliases tasks

/-- An accepted dependency check means every dependency names an alias. -/
theorem dependenciesExist_of_exits
    {tasks : List KusciaTaskTemplate}
    (accepted : kusciaJobDependenciesExits tasks = .ok ()) :
    DependenciesExist tasks := by
  dsimp only [kusciaJobDependenciesExits] at accepted
  split at accepted
  · cases accepted
  · rename_i noneMissing
    intro t tMember d dMember
    have taskClean := List.findSome?_eq_none_iff.mp noneMissing t tMember
    have dependencyFound := List.find?_eq_none.mp (Option.map_eq_none_iff.mp taskClean) d dMember
    simpa using dependencyFound

/-- A validated job has tasks, existing dependencies and an accepted cycle
check. -/
theorem validate_ok_iff
    {namespaceLister : String → Except String Unit}
    {job : KusciaJob} :
    kusciaJobValidate namespaceLister job = .ok () ↔
      namespaceLister job.initiator = .ok () ∧ job.tasks ≠ [] ∧
        kusciaJobDependenciesExits job.tasks = .ok () ∧
        kusciaJobHasTaskCycle job.tasks = .ok () := by
  unfold kusciaJobValidate
  cases listed : namespaceLister job.initiator with
  | error listerError => simp
  | ok _ =>
      cases job.tasks with
      | nil => simp
      | cons first rest =>
          cases dependencies : kusciaJobDependenciesExits (first :: rest) with
          | error message => simp
          | ok _ => simp

/-- Peeling keeps aliases: every task of a round comes from one of the
previous round with the same alias. -/
private theorem mem_peelTasks_alias
    {tasks : List KusciaTaskTemplate}
    {t : KusciaTaskTemplate}
    (tMember : t ∈ tasks)
    (hasDependencies : t.dependencies ≠ []) :
    ∃ peeled ∈ peelTasks tasks, peeled.taskAlias = t.taskAlias := by
  refine ⟨_, List.mem_map.mpr ⟨t, List.mem_filter.mpr ⟨tMember, ?_⟩, rfl⟩, rfl⟩
  simpa using hasDependencies

/-- A round that removes nothing and leaves no dependency had no task. -/
theorem eq_nil_of_nothing_removed
    {tasks : List KusciaTaskTemplate}
    (removedNone : removeSubtasks tasks = [])
    (allEmpty : ((peelTasks tasks).all fun t => t.dependencies.isEmpty) = true) :
    tasks = [] := by
  apply List.eq_nil_iff_forall_not_mem.mpr
  intro t tMember
  have hasDependencies : t.dependencies ≠ [] := by
    intro noDependencies
    have removed : t.taskAlias ∈ removeSubtasks tasks :=
      List.mem_map.mpr ⟨t, List.mem_filter.mpr ⟨tMember, by simp [noDependencies]⟩, rfl⟩
    simp [removedNone] at removed
  obtain ⟨peeled, peeledMember, -⟩ := mem_peelTasks_alias tMember hasDependencies
  obtain ⟨original, originalMember, rfl⟩ := List.mem_map.mp peeledMember
  have stillEmpty := List.all_eq_true.mp allEmpty _ peeledMember
  have keptDependencies := (List.mem_filter.mp originalMember).2
  simp only [removedNone, List.not_mem_nil, not_false_eq_true, decide_true,
    List.filter_true] at stillEmpty
  simp [stillEmpty] at keptDependencies

section Acyclic

variable {R : String → String → Prop}

/--
A task whose every `R`-predecessor is still listed as a dependency, or is
already known accessible.  This is the invariant the peeling rounds keep: a
dependency leaves a task's list only once its alias has been removed, and a
removed alias is accessible.
-/
def Covered (R : String → String → Prop) (t : KusciaTaskTemplate) : Prop :=
  ∀ b, R b t.taskAlias → b ∈ t.dependencies ∨ Acc R b

/-- A removed task's alias is accessible: it has no dependency left, so every
predecessor is already accessible. -/
private theorem acc_of_removed
    {t : KusciaTaskTemplate}
    (covered : Covered R t)
    (noDependencies : t.dependencies = []) :
    Acc R t.taskAlias := by
  refine Acc.intro _ fun b related => ?_
  rcases covered b related with listed | accessible
  · simp [noDependencies] at listed
  · exact accessible

/-- One peeling round keeps every remaining task covered. -/
private theorem covered_peelTasks
    {tasks : List KusciaTaskTemplate}
    (covered : ∀ t ∈ tasks, Covered R t) :
    ∀ t ∈ peelTasks tasks, Covered R t := by
  intro peeled peeledMember
  obtain ⟨t, tMember, rfl⟩ := List.mem_map.mp peeledMember
  have inTasks : t ∈ tasks := (List.mem_filter.mp tMember).1
  intro b related
  rcases covered t inTasks b related with listed | accessible
  · by_cases removed : b ∈ removeSubtasks tasks
    · -- `b` is the alias of a task without dependencies: accessible.
      obtain ⟨u, uMember, uAlias⟩ := List.mem_map.mp removed
      obtain ⟨uInTasks, uEmpty⟩ := List.mem_filter.mp uMember
      have uAccessible :=
        acc_of_removed (covered u uInTasks) (List.isEmpty_iff.mp uEmpty)
      exact Or.inr (uAlias ▸ uAccessible)
    · exact Or.inl (List.mem_filter.mpr ⟨listed, by simpa using removed⟩)
  · exact Or.inr accessible

/-- An accepted cycle check makes every covered task's alias accessible; the
induction follows the rounds of `kusciaJobHasTaskCycle`. -/
theorem acc_of_hasTaskCycle_ok
    {tasks : List KusciaTaskTemplate}
    (accepted : kusciaJobHasTaskCycle tasks = .ok ())
    (covered : ∀ t ∈ tasks, Covered R t) :
    ∀ t ∈ tasks, Acc R t.taskAlias := by
  fun_induction kusciaJobHasTaskCycle tasks with
  | case1 tasks removedNone allEmpty =>
      intro t tMember
      rw [eq_nil_of_nothing_removed removedNone allEmpty] at tMember
      cases tMember
  | case2 tasks removedNone someLeft =>
      simp at accepted
  | case3 tasks removedSome inductionHypothesis =>
      intro t tMember
      by_cases noDependencies : t.dependencies = []
      · exact acc_of_removed (covered t tMember) noDependencies
      · obtain ⟨peeled, peeledMember, sameAlias⟩ :=
          mem_peelTasks_alias tMember noDependencies
        rw [← sameAlias]
        exact inductionHypothesis accepted (covered_peelTasks covered) peeled peeledMember

end Acyclic

/-- With distinct aliases, every task of an accepted job has an accessible
alias for `DependsOn`. -/
theorem acc_dependsOn_of_hasTaskCycle_ok
    {tasks : List KusciaTaskTemplate}
    (aliasesNodup : (aliases tasks).Nodup)
    (accepted : kusciaJobHasTaskCycle tasks = .ok ()) :
    ∀ t ∈ tasks, Acc (DependsOn tasks) t.taskAlias := by
  apply acc_of_hasTaskCycle_ok accepted
  intro t tMember b ⟨u, uMember, sameAlias, listed⟩
  have same : u = t :=
    List.inj_on_of_nodup_map aliasesNodup uMember tMember sameAlias
  exact Or.inl (same ▸ listed)

/-! ## The order an accepted job admits -/

/-- Every dependency of each task is the alias of a task placed before it,
`placed` being the aliases placed ahead of the list. -/
def placedInOrder (placed : List String) : List KusciaTaskTemplate → Prop
  | [] => True
  | t :: rest =>
    (∀ d ∈ t.dependencies, d ∈ placed) ∧ placedInOrder (placed ++ [t.taskAlias]) rest

/-- An order of the tasks in which every dependency of each task is the alias
of some task placed before it. -/
def DependenciesFirst (order : List KusciaTaskTemplate) : Prop :=
  ∀ pre t post, order = pre ++ t :: post → ∀ d ∈ t.dependencies, d ∈ aliases pre

/-- The task with the dependencies in `removed` dropped, as a round of
`kusciaJobHasTaskCycle` leaves it. -/
def pruneRemoved (removed : List String) (t : KusciaTaskTemplate) : KusciaTaskTemplate :=
  { t with dependencies := t.dependencies.filter fun d => d ∉ removed }

theorem peelTasks_eq
    (tasks : List KusciaTaskTemplate) :
    peelTasks tasks =
      (tasks.filter fun t => !t.dependencies.isEmpty).map (pruneRemoved (removeSubtasks tasks)) :=
  rfl

@[simp] theorem pruneRemoved_taskAlias
    (removed : List String)
    (t : KusciaTaskTemplate) :
    (pruneRemoved removed t).taskAlias = t.taskAlias :=
  rfl

theorem placedInOrder_iff
    (placed : List String)
    (order : List KusciaTaskTemplate) :
    placedInOrder placed order ↔
      ∀ pre t post, order = pre ++ t :: post →
        ∀ d ∈ t.dependencies, d ∈ placed ++ aliases pre := by
  induction order generalizing placed with
  | nil => simp [placedInOrder]
  | cons u rest inductionHypothesis =>
    rw [placedInOrder, inductionHypothesis]
    constructor
    · rintro ⟨first, later⟩ pre t post split
      rcases List.cons_eq_append_iff.mp split with ⟨rfl, same⟩ | ⟨pre', rfl, restSplit⟩
      · -- `t` is the head
        obtain ⟨rfl, -⟩ := List.cons.inj same
        simpa [aliases] using first
      · intro d member
        simpa [aliases] using later pre' t post restSplit d member
    · intro every
      refine ⟨fun d member => by simpa [aliases] using every [] u rest rfl d member, ?_⟩
      intro pre t post split d member
      simpa [aliases] using every (u :: pre) t post (by rw [split]; rfl) d member

theorem dependenciesFirst_iff
    (order : List KusciaTaskTemplate) :
    DependenciesFirst order ↔ placedInOrder [] order := by
  rw [placedInOrder_iff]
  simp [DependenciesFirst]

theorem placedInOrder_append
    (placed : List String)
    (first second : List KusciaTaskTemplate) :
    placedInOrder placed (first ++ second) ↔
      placedInOrder placed first ∧ placedInOrder (placed ++ aliases first) second := by
  induction first generalizing placed with
  | nil => simp [placedInOrder, aliases]
  | cons u rest inductionHypothesis =>
    simp only [List.cons_append, placedInOrder, inductionHypothesis, aliases, List.map_cons,
      List.append_assoc, List.nil_append, and_assoc]

/-- Tasks without dependencies may stand in any order. -/
theorem placedInOrder_of_no_dependencies
    (placed : List String) :
    ∀ order : List KusciaTaskTemplate, (∀ t ∈ order, t.dependencies = []) →
      placedInOrder placed order := by
  intro order
  induction order generalizing placed with
  | nil => intro _; trivial
  | cons u rest inductionHypothesis =>
    intro none
    refine ⟨fun d member => ?_, inductionHypothesis _ fun t tMember => none t (.tail _ tMember)⟩
    rw [none u (.head _)] at member
    cases member

section Rounds

variable {removed : List String}

/-- One round keeps an order: every dependency it leaves names a task that
stays, and it drops only the tasks whose aliases it removes. -/
theorem placedInOrder_peel
    {order : List KusciaTaskTemplate}
    (covers : ∀ t ∈ order, t.dependencies = [] → t.taskAlias ∈ removed) :
    ∀ placed placed', (∀ d ∈ placed, d ∉ removed → d ∈ placed') →
      placedInOrder placed order →
      placedInOrder placed'
        ((order.filter fun t => !t.dependencies.isEmpty).map (pruneRemoved removed)) := by
  induction order with
  | nil =>
    intro _ _ _ _
    trivial
  | cons u rest inductionHypothesis =>
    intro placed placed' carried ordered
    obtain ⟨first, later⟩ := ordered
    have restCovers : ∀ t ∈ rest, t.dependencies = [] → t.taskAlias ∈ removed :=
      fun t tMember => covers t (.tail _ tMember)
    by_cases noDependencies : u.dependencies = []
    · -- `u` is removed by the round, and so is every dependency on it
      have uRemoved := covers u (.head _) noDependencies
      rw [List.filter_cons_of_neg (by simp [noDependencies])]
      refine inductionHypothesis restCovers (placed ++ [u.taskAlias]) placed' ?_ later
      intro d member notRemoved
      rcases List.mem_append.mp member with old | new
      · exact carried d old notRemoved
      · rw [List.mem_singleton.mp new] at notRemoved
        exact absurd uRemoved notRemoved
    · rw [List.filter_cons_of_pos (by simpa using noDependencies), List.map_cons]
      refine ⟨?_, inductionHypothesis restCovers (placed ++ [u.taskAlias])
        (placed' ++ [u.taskAlias]) ?_ later⟩
      · intro d member
        obtain ⟨listed, notRemoved⟩ := List.mem_filter.mp member
        exact carried d (first d listed) (by simpa using notRemoved)
      · intro d member notRemoved
        rcases List.mem_append.mp member with old | new
        · exact List.mem_append_left _ (carried d old notRemoved)
        · exact List.mem_append_right _ new

/-- An order of the tasks a round leaves is an order of the tasks before it,
once the removed aliases are placed ahead. -/
theorem placedInOrder_of_pruned :
    ∀ (order : List KusciaTaskTemplate) (placed placed' : List String),
      (∀ d ∈ placed', d ∈ placed) → (∀ d ∈ removed, d ∈ placed) →
      placedInOrder placed' (order.map (pruneRemoved removed)) → placedInOrder placed order := by
  intro order
  induction order with
  | nil =>
    intro _ _ _ _ _
    trivial
  | cons u rest inductionHypothesis =>
    intro placed placed' carried removedPlaced ordered
    obtain ⟨first, later⟩ := ordered
    refine ⟨fun d member => ?_, inductionHypothesis (placed ++ [u.taskAlias])
      (placed' ++ [u.taskAlias]) ?_ ?_ later⟩
    · by_cases wasRemoved : d ∈ removed
      · exact removedPlaced d wasRemoved
      · exact carried d (first d (List.mem_filter.mpr ⟨member, by simpa using wasRemoved⟩))
    · intro d member
      rcases List.mem_append.mp member with old | new
      · exact List.mem_append_left _ (carried d old)
      · exact List.mem_append_right _ new
    · exact fun d member => List.mem_append_left _ (removedPlaced d member)

end Rounds

/-- An accepted job admits an order: the tasks of each round, then those of
the next. -/
theorem exists_order_of_hasTaskCycle_ok
    {tasks : List KusciaTaskTemplate}
    (accepted : kusciaJobHasTaskCycle tasks = .ok ()) :
    ∃ order, List.Perm order tasks ∧ placedInOrder [] order := by
  fun_induction kusciaJobHasTaskCycle tasks with
  | case1 tasks removedNone allEmpty =>
    rw [eq_nil_of_nothing_removed removedNone allEmpty]
    exact ⟨[], List.Perm.nil, trivial⟩
  | case2 tasks removedNone someLeft =>
    simp at accepted
  | case3 tasks removedSome inductionHypothesis =>
    obtain ⟨peeledOrder, peeledPerm, peeledPlaced⟩ := inductionHypothesis accepted
    rw [peelTasks_eq] at peeledPerm
    -- the order of the peeled tasks comes from an order of the tasks kept
    obtain ⟨kept, rfl, keptPerm⟩ :=
      (congrFun (congrFun (List.eq_map_comp_perm (pruneRemoved (removeSubtasks tasks)))
        peeledOrder) _).mpr peeledPerm
    refine ⟨(tasks.filter fun t => t.dependencies.isEmpty) ++ kept, ?_, ?_⟩
    · exact (keptPerm.append_left _).trans (List.filter_append_perm _ tasks)
    · rw [placedInOrder_append]
      refine ⟨placedInOrder_of_no_dependencies _ _ fun t tMember => ?_, ?_⟩
      · exact List.isEmpty_iff.mp (List.mem_filter.mp tMember).2
      · exact placedInOrder_of_pruned kept _ [] (fun d member => absurd member List.not_mem_nil)
          (fun d member => member) peeledPlaced

/-- A job that admits an order is accepted: each round keeps an order of the
tasks it leaves, and a round that removes nothing finds no task left. -/
theorem hasTaskCycle_ok_of_order
    {tasks : List KusciaTaskTemplate}
    (ordered : ∃ order, List.Perm order tasks ∧ placedInOrder [] order) :
    kusciaJobHasTaskCycle tasks = .ok () := by
  fun_induction kusciaJobHasTaskCycle tasks with
  | case1 tasks removedNone allEmpty => rfl
  | case2 tasks removedNone someLeft =>
    obtain ⟨order, perm, placed⟩ := ordered
    cases order with
    | nil =>
      rw [← List.Perm.nil_eq perm] at someLeft
      simp [peelTasks, removeSubtasks] at someLeft
    | cons u rest =>
      -- the first task has no dependency, so the round removes it
      have noDependencies : u.dependencies = [] :=
        List.eq_nil_iff_forall_not_mem.mpr fun d member => absurd (placed.1 d member) List.not_mem_nil
      have removed : u.taskAlias ∈ removeSubtasks tasks :=
        List.mem_map.mpr ⟨u, List.mem_filter.mpr ⟨perm.subset (.head _), by simp [noDependencies]⟩, rfl⟩
      simp [removedNone] at removed
  | case3 tasks removedSome inductionHypothesis =>
    obtain ⟨order, perm, placed⟩ := ordered
    apply inductionHypothesis
    refine ⟨(order.filter fun t => !t.dependencies.isEmpty).map
      (pruneRemoved (removeSubtasks tasks)), ?_, ?_⟩
    · rw [peelTasks_eq]
      exact (perm.filter _).map _
    · refine placedInOrder_peel (fun t tMember noDependencies => ?_) [] [] (fun d member => absurd member List.not_mem_nil) placed
      exact List.mem_map.mpr
        ⟨t, List.mem_filter.mpr ⟨perm.subset tMember, by simp [noDependencies]⟩, rfl⟩

/-- `kusciaJobHasTaskCycle` accepts a job exactly when its tasks admit an
order in which every dependency of each task is the alias of a task placed
before it. -/
theorem hasTaskCycle_ok_iff_dependenciesFirst
    (tasks : List KusciaTaskTemplate) :
    kusciaJobHasTaskCycle tasks = .ok () ↔
      ∃ order, List.Perm order tasks ∧ DependenciesFirst order := by
  simp only [dependenciesFirst_iff]
  exact ⟨exists_order_of_hasTaskCycle_ok, hasTaskCycle_ok_of_order⟩

end Kuscia.JobScheduler
