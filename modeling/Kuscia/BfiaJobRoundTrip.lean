import Mathlib
import Kuscia.BfiaJobConversion

namespace Kuscia.Bfia

open Go (Outcome)

/-!
# The BFIA job round trip

A BFIA job that `GenerateKusciaJobFrom` accepts and `GenerateInterConnJobInfoFrom`
converts back keeps its components, initiator, roles and ids
(`jobInfoRoundTrip_eq_ok`).  Its job params do not follow its roles: each role
keeps one index, the last (`buildRoleIndexParams_eq`).

The first half says when the adapter returns a job and what each task holds;
the second runs the task loop of the way back over those tasks.
-/

/-! ## When the adapter returns a job -/

/-- A role index that `parseTaskRoleParams` accepts: a number that is a
position of the role list, whose successor does not overflow. -/
def ValidRoleIndex (roles : List String) (roleIndex : String) : Prop :=
  (Go.Atoi roleIndex).2 = true ∧ SafeRoleIndex roleIndex ∧ (Go.Atoi roleIndex).1 < roles.length

instance (roles : List String) (roleIndex : String) : Decidable (ValidRoleIndex roles roleIndex) :=
  inferInstanceAs (Decidable (_ ∧ _ ∧ _))

/-- Every role index of one role's params is valid for the role's list. -/
def ValidRoleParams (roleParams : Option (List (String × Value))) (roles : List String) : Prop :=
  ∀ fields ∈ roleParams, ∀ entry ∈ fields, ValidRoleIndex roles entry.1

instance (roleParams : Option (List (String × Value))) (roles : List String) :
    Decidable (ValidRoleParams roleParams roles) :=
  inferInstanceAs (Decidable (∀ fields ∈ roleParams, ∀ entry ∈ fields, _))

theorem producesInput_eq_ok
    {i : Option ComponentIO}
    (inputSet : i.isSome)
    (ttName : String) :
    ∀ {outputs : List (Option ComponentIO)}, (∀ o ∈ outputs, o.isSome) →
      ∃ produced, producesInput i ttName outputs = .ok produced := by
  intro outputs
  induction outputs with
  | nil =>
    intro _
    exact ⟨false, rfl⟩
  | cons o rest inductionHypothesis =>
    intro outputsSet
    obtain ⟨input, rfl⟩ := Option.isSome_iff_exists.mp inputSet
    obtain ⟨output, rfl⟩ := Option.isSome_iff_exists.mp (outputsSet _ List.mem_cons_self)
    simp only [producesInput]
    split
    · exact ⟨true, rfl⟩
    · exact inductionHypothesis fun other member => outputsSet other (List.mem_cons_of_mem _ member)

theorem findProducer_eq_ok
    (t : Component)
    {i : Option ComponentIO}
    (inputSet : i.isSome) :
    ∀ {components : List (Option Component)}, (∀ cpt ∈ components, cpt.isSome) →
      (∀ cpt ∈ components, ∀ component ∈ cpt, ∀ io ∈ component.output, io.isSome) →
      ∃ producer, findProducer t i components = .ok producer := by
  intro components
  induction components with
  | nil =>
    intro _ _
    exact ⟨none, rfl⟩
  | cons tt rest inductionHypothesis =>
    intro componentsSet outputsSet
    have restReturns := inductionHypothesis
      (fun cpt member => componentsSet cpt (List.mem_cons_of_mem _ member))
      (fun cpt member => outputsSet cpt (List.mem_cons_of_mem _ member))
    obtain ⟨component, rfl⟩ := Option.isSome_iff_exists.mp (componentsSet _ List.mem_cons_self)
    simp only [findProducer]
    split
    · exact restReturns
    · apply Go.exists_bind_eq_ok (producesInput_eq_ok inputSet component.name
        (outputsSet _ List.mem_cons_self component rfl))
      intro produced _
      split
      · exact ⟨_, rfl⟩
      · exact restReturns

theorem buildKusciaJobDependenciesFrom_eq_ok
    {components : List (Option Component)}
    (componentsSet : ∀ cpt ∈ components, cpt.isSome)
    (ioSet : ∀ cpt ∈ components, ∀ component ∈ cpt,
      (∀ io ∈ component.input, io.isSome) ∧ (∀ io ∈ component.output, io.isSome)) :
    ∃ deps, buildKusciaJobDependenciesFrom components = .ok deps := by
  have outputsSet : ∀ cpt ∈ components, ∀ component ∈ cpt, ∀ io ∈ component.output, io.isSome :=
    fun cpt member component isCpt => (ioSet cpt member component isCpt).2
  unfold buildKusciaJobDependenciesFrom
  refine Go.exists_bind_eq_ok (Go.exists_mapM_eq_ok fun cpt member => ?_) fun _ _ => ⟨_, rfl⟩
  obtain ⟨component, rfl⟩ := Option.isSome_iff_exists.mp (componentsSet cpt member)
  have inputsSet := (ioSet _ member component rfl).1
  exact Go.exists_bind_eq_ok
    (Go.exists_mapM_eq_ok fun i inputMember =>
      findProducer_eq_ok component (inputsSet i inputMember) componentsSet outputsSet)
    fun _ _ => ⟨_, rfl⟩

theorem parseRoleIndices_eq_ok
    (roles : List String)
    (componentName role : String) :
    ∀ {fields : List (String × Value)}, (∀ entry ∈ fields, ValidRoleIndex roles entry.1) →
      ∃ parties, parseRoleIndices roles componentName role fields = .ok parties := by
  intro fields
  induction fields with
  | nil =>
    intro _
    exact ⟨[], rfl⟩
  | cons entry rest inductionHypothesis =>
    intro valid
    obtain ⟨roleIndex, f⟩ := entry
    obtain ⟨parsed, ⟨nonNegative, belowMax⟩, withinRoles⟩ := valid (roleIndex, f) List.mem_cons_self
    have restReturns := inductionHypothesis fun other member =>
      valid other (List.mem_cons_of_mem _ member)
    simp only [parseRoleIndices]
    split
    · exact restReturns
    · -- the index is a number, and its successor is within the roles
      obtain ⟨index, atoi⟩ : ∃ index, Go.Atoi roleIndex = (index, true) :=
        ⟨_, Prod.ext rfl parsed⟩
      rw [atoi] at nonNegative belowMax withinRoles ⊢
      have successor : Go.addInt index 1 = index + 1 :=
        Go.addInt_of_fits ⟨by omega, by omega⟩ ⟨by omega, by omega⟩ ⟨by omega, by omega⟩
      simp only [successor]
      rw [if_neg (by omega)]
      apply Go.exists_bind_eq_ok (Go.exists_index_eq_ok nonNegative (by omega))
      intro _ _
      exact Go.exists_bind_eq_ok restReturns fun _ _ => ⟨_, rfl⟩

theorem parseTaskRoleParams_eq_ok
    {roleParams : Option (List (String × Value))}
    {roles : List String}
    (valid : ValidRoleParams roleParams roles)
    (componentName role : String) :
    ∃ parties, parseTaskRoleParams roleParams roles componentName role = .ok parties := by
  cases roleParams with
  | none => exact ⟨[], rfl⟩
  | some fields => exact parseRoleIndices_eq_ok roles componentName role (valid fields rfl)

/-- Task params whose role indices are valid for the roles of the job. -/
structure ValidTaskParams (taskParams : ConfigParams) (role : ConfigRole) : Prop where
  arbiter : ValidRoleParams taskParams.arbiter role.arbiter
  host : ValidRoleParams taskParams.host role.host
  guest : ValidRoleParams taskParams.guest role.guest

theorem buildTaskInputConfigAndPartiesFrom_eq_ok
    (cpt : Component)
    {config : Config}
    {taskParams : ConfigParams}
    {role : ConfigRole}
    (taskParamsIs : config.taskParams = some taskParams)
    (roleIs : config.role = some role)
    (valid : ValidTaskParams taskParams role) :
    ∃ parties, buildTaskInputConfigAndPartiesFrom cpt config =
      .ok (taskInputConfigOf cpt config taskParams, parties) := by
  obtain ⟨arbiter, arbiterIs⟩ := parseTaskRoleParams_eq_ok valid.arbiter cpt.name "arbiter"
  obtain ⟨host, hostIs⟩ := parseTaskRoleParams_eq_ok valid.host cpt.name "host"
  obtain ⟨guest, guestIs⟩ := parseTaskRoleParams_eq_ok valid.guest cpt.name "guest"
  refine ⟨arbiter ++ host ++ guest, ?_⟩
  unfold buildTaskInputConfigAndPartiesFrom
  rw [taskParamsIs, roleIs]
  simp only [arbiterIs, hostIs, guestIs]
  rfl

theorem buildKusciaTaskTemplate_eq_ok
    {config : Config}
    {taskParams : ConfigParams}
    {role : ConfigRole}
    (taskParamsIs : config.taskParams = some taskParams)
    (roleIs : config.role = some role)
    (valid : ValidTaskParams taskParams role)
    (deps : List (String × String))
    {cpt : Component}
    (codeSet : cpt.code ≠ "") :
    ∃ parties, buildKusciaTaskTemplate config deps (some cpt) =
      .ok ⟨cpt.name, dependenciesOf deps cpt.name, false, cpt.code,
        taskInputConfigOf cpt config taskParams, parties⟩ := by
  obtain ⟨parties, built⟩ := buildTaskInputConfigAndPartiesFrom_eq_ok cpt taskParamsIs roleIs valid
  refine ⟨parties, ?_⟩
  simp only [buildKusciaTaskTemplate, validateComponentCode, codeSet, if_false, built,
    Go.wrapError_ok]
  rfl

/-- A BFIA job that the adapter accepts: its DAG, config, roles, initiator and
task params are set, every component has a code and its inputs and outputs are
set, and every role index is a position of its role's list. -/
structure AcceptedJob where
  components : List Component
  role : ConfigRole
  initiator : ConfigInitiator
  taskParams : ConfigParams
  jodID : String
  flowID : String
  initiatorSet : initiator.nodeId ≠ ""
  codesSet : ∀ cpt ∈ components, cpt.code ≠ ""
  ioSet : ∀ cpt ∈ components, (∀ io ∈ cpt.input, io.isSome) ∧ (∀ io ∈ cpt.output, io.isSome)
  indicesValid : ValidTaskParams taskParams role

/-- The job's config. -/
def AcceptedJob.config (job : AcceptedJob) : Config :=
  ⟨some job.role, some job.initiator, some job.taskParams⟩

/-- The job as the request carries it. -/
def AcceptedJob.toInterConnJobInfo (job : AcceptedJob) : InterConnJobInfo :=
  ⟨some ⟨job.components.map some⟩, some job.config, job.jodID, job.flowID⟩

/-- A task template that `GenerateKusciaJobFrom` writes for a component: the
component's code, and its task input config. -/
def TaskOf (config : Config) (taskParams : ConfigParams) (cpt : Component)
    (task : KusciaTaskTemplate) : Prop :=
  task.appImage = cpt.code ∧ task.taskInputConfig = taskInputConfigOf cpt config taskParams

/-- The adapter accepts every such job, with one task per component. -/
theorem GenerateKusciaJobFrom_eq_ok
    (job : AcceptedJob) :
    ∃ tasks, GenerateKusciaJobFrom job.toInterConnJobInfo =
        .ok ⟨job.jodID, [("kuscia.secretflow/interconn-protocol-type", "bfia"),
          ("kuscia.secretflow/job-stage", "Create")], job.flowID, 2, "Strict",
          job.initiator.nodeId, tasks⟩ ∧
      List.Forall₂ (TaskOf job.config job.taskParams) job.components tasks := by
  have componentsSet : ∀ cpt ∈ job.components.map some, cpt.isSome := by
    simp
  have ioSet : ∀ cpt ∈ job.components.map some, ∀ component ∈ cpt,
      (∀ io ∈ component.input, io.isSome) ∧ (∀ io ∈ component.output, io.isSome) := by
    intro cpt member component isCpt
    obtain ⟨original, originalMember, rfl⟩ := List.mem_map.mp member
    rw [Option.mem_def, Option.some_inj] at isCpt
    rw [← isCpt]
    exact job.ioSet original originalMember
  obtain ⟨deps, depsIs⟩ := buildKusciaJobDependenciesFrom_eq_ok componentsSet ioSet
  have built : ∀ cpt ∈ job.components, ∃ parties,
      buildKusciaTaskTemplate job.config deps (some cpt) =
        .ok ⟨cpt.name, dependenciesOf deps cpt.name, false, cpt.code,
          taskInputConfigOf cpt job.config job.taskParams, parties⟩ :=
    fun cpt member =>
      buildKusciaTaskTemplate_eq_ok rfl rfl job.indicesValid deps (job.codesSet cpt member)
  obtain ⟨tasks, tasksIs⟩ := Go.exists_mapM_eq_ok (f := buildKusciaTaskTemplate job.config deps)
    fun cpt member => by
      obtain ⟨original, originalMember, rfl⟩ := List.mem_map.mp member
      obtain ⟨parties, builtIs⟩ := built original originalMember
      exact ⟨_, builtIs⟩
  refine ⟨tasks, ?_, ?_⟩
  · have initiatorIs : job.config.initiator = some job.initiator := rfl
    unfold GenerateKusciaJobFrom AcceptedJob.toInterConnJobInfo
    dsimp only
    rw [initiatorIs]
    dsimp only
    rw [if_neg job.initiatorSet, depsIs, Go.ok_bind, tasksIs]
    rfl
  · -- each task is the one its component's iteration returned
    have related := List.forall₂_map_left_iff.mp (Go.mapM_eq_ok_forall₂ tasksIs)
    refine (((List.forall₂_and_left _ _).mpr ⟨built, related⟩).imp ?_)
    rintro cpt task ⟨⟨parties, builtIs⟩, taskIs⟩
    rw [builtIs] at taskIs
    cases taskIs
    exact ⟨rfl, rfl⟩

/-! ## The task loop of the way back -/

/-- The job params `buildJobParams` builds from a role. -/
theorem buildJobParams_some
    (role : ConfigRole) :
    buildJobParams (some role) = .ok ⟨buildRoleIndexParams role.host,
      buildRoleIndexParams role.arbiter, buildRoleIndexParams role.guest, none⟩ :=
  rfl

section TaskLoop

variable {appImageLister : AppImageLister} {config : Config} {taskParams : ConfigParams}
  {role : ConfigRole}

/-- One task the adapter wrote, converted back: the component is appended,
the initiator and roles are taken when none are yet, the job params built from
the roles when none are yet, and the component's params added. -/
theorem addTask_eq_ok
    (roleIs : config.role = some role)
    {cpt : Component}
    {task : KusciaTaskTemplate}
    (isTask : TaskOf config taskParams cpt task)
    (found : appImageLister cpt.code = .ok ())
    (draft : JobInfoDraft) :
    draft.addTask appImageLister task =
      .ok ⟨draft.components ++ [cpt], draft.initiator.or config.initiator,
        draft.role.or config.role,
        some (draft.jobParams.getD ⟨buildRoleIndexParams role.host,
          buildRoleIndexParams role.arbiter, buildRoleIndexParams role.guest, none⟩),
        draft.attrs.add cpt.name (componentTaskParams taskParams cpt.name)⟩ := by
  obtain ⟨appImageIs, configIs⟩ := isTask
  unfold JobInfoDraft.addTask
  rw [appImageIs, found, configIs]
  cases draft.jobParams with
  | some jobParams => rfl
  | none =>
    simp only [taskInputConfigOf, roleIs, buildJobParams_some, Go.wrapError_ok]
    rfl

/-- The rest of the tasks, once the first has set the initiator, the roles and
the job params: only the components and the params grow. -/
theorem foldlM_addTask_eq_ok
    (roleIs : config.role = some role) :
    ∀ {cpts : List Component} {tasks : List KusciaTaskTemplate},
      List.Forall₂ (TaskOf config taskParams) cpts tasks →
      (∀ cpt ∈ cpts, appImageLister cpt.code = .ok ()) →
      ∀ (draft : JobInfoDraft), draft.initiator = config.initiator → draft.role = config.role →
        draft.jobParams.isSome →
        tasks.foldlM (JobInfoDraft.addTask appImageLister) draft =
          .ok ⟨draft.components ++ cpts, draft.initiator, draft.role, draft.jobParams,
            cpts.foldl (fun attrs cpt => attrs.add cpt.name (componentTaskParams taskParams cpt.name))
              draft.attrs⟩ := by
  intro cpts tasks related
  -- the draft grows task by task, so it is generalised
  induction related with
  | nil =>
    intro _ draft _ _ _
    simp only [List.foldlM_nil, List.append_nil, List.foldl_nil]
    rfl
  | @cons cpt task restCpts restTasks isTask _ inductionHypothesis =>
    intro found draft initiatorIs roleSettled jobParamsSet
    obtain ⟨jobParams, jobParamsIs⟩ := Option.isSome_iff_exists.mp jobParamsSet
    rw [List.foldlM_cons, addTask_eq_ok roleIs isTask (found cpt List.mem_cons_self), Go.ok_bind,
      inductionHypothesis (fun other member => found other (List.mem_cons_of_mem cpt member))
        _ (by simp [initiatorIs]) (by simp [roleSettled]) (by simp [jobParamsIs])]
    simp [initiatorIs, roleSettled, jobParamsIs]

end TaskLoop

/-! ## The round trip -/

/-- The task params that the way back collects from an accepted job. -/
def AcceptedJob.collectedAttrs (job : AcceptedJob) : TaskParamsAttrs :=
  job.components.foldl (fun attrs cpt => attrs.add cpt.name (componentTaskParams job.taskParams cpt.name))
    JobInfoDraft.empty.attrs

/-- What comes back of an accepted job with a component, when every image is
found: the components, roles, initiator and ids, the collected task params, and
the job params built from the roles. -/
theorem jobInfoRoundTrip_eq
    (job : AcceptedJob)
    (nonEmpty : job.components ≠ [])
    {appImageLister : AppImageLister}
    (found : ∀ cpt ∈ job.components, appImageLister cpt.code = .ok ()) :
    jobInfoRoundTrip job.toInterConnJobInfo appImageLister =
      .ok ⟨job.components,
        ⟨some job.role, some job.initiator, some (buildInterConnJobConfig job.collectedAttrs)⟩,
        some ⟨buildRoleIndexParams job.role.host, buildRoleIndexParams job.role.arbiter,
          buildRoleIndexParams job.role.guest, none⟩,
        job.jodID, job.flowID⟩ := by
  obtain ⟨tasks, generated, related⟩ := GenerateKusciaJobFrom_eq_ok job
  unfold AcceptedJob.collectedAttrs
  obtain ⟨first, rest, componentsIs⟩ := List.exists_cons_of_ne_nil nonEmpty
  rw [componentsIs] at related found ⊢
  -- the first task sets the initiator, the roles and the job params
  obtain _ | ⟨isFirst, restRelated⟩ := related
  unfold jobInfoRoundTrip GenerateInterConnJobInfoFrom
  rw [generated, Go.ok_bind]
  dsimp only
  rw [List.foldlM_cons, addTask_eq_ok rfl isFirst (found first List.mem_cons_self), Go.ok_bind,
    foldlM_addTask_eq_ok rfl restRelated (fun cpt member => found cpt (List.mem_cons_of_mem _ member))
      _ rfl rfl rfl]
  rfl

/-- An accepted BFIA job with a component comes back with its components,
roles, initiator and ids, and with job params built from its roles. -/
theorem jobInfoRoundTrip_keeps_job
    (job : AcceptedJob)
    (nonEmpty : job.components ≠ [])
    {appImageLister : AppImageLister}
    (found : ∀ cpt ∈ job.components, appImageLister cpt.code = .ok ()) :
    ∃ taskParams, jobInfoRoundTrip job.toInterConnJobInfo appImageLister =
      .ok ⟨job.components, ⟨some job.role, some job.initiator, some taskParams⟩,
        some ⟨buildRoleIndexParams job.role.host, buildRoleIndexParams job.role.arbiter,
          buildRoleIndexParams job.role.guest, none⟩,
        job.jodID, job.flowID⟩ :=
  ⟨_, jobInfoRoundTrip_eq job nonEmpty found⟩

/-- A job with one component and two hosts, each with params for it. -/
def twoHostJob : AcceptedJob where
  components := [⟨"secretflow-image", "train", "train_module", [], []⟩]
  role := ⟨[], ["alice", "bob"], []⟩
  initiator := ⟨"host", "alice"⟩
  taskParams := ⟨some [("0", .structValue [("train", .other)]),
    ("1", .structValue [("train", .other)])], none, none, none⟩
  jodID := "job-1"
  flowID := "flow-1"
  initiatorSet := by decide
  codesSet := by decide
  ioSet := by decide
  indicesValid := ⟨by decide, by decide, by decide⟩

theorem jobInfoRoundTrip_keeps_job_twoHosts :
    twoHostJob.components ≠ [] ∧
      (∀ cpt ∈ twoHostJob.components, (fun _ => .ok ()) cpt.code = (.ok () : Except String Unit)) ∧
      ∃ taskParams, jobInfoRoundTrip twoHostJob.toInterConnJobInfo (fun _ => .ok ()) =
        .ok ⟨twoHostJob.components, ⟨some twoHostJob.role, some twoHostJob.initiator, some taskParams⟩,
          some ⟨buildRoleIndexParams twoHostJob.role.host, buildRoleIndexParams twoHostJob.role.arbiter,
            buildRoleIndexParams twoHostJob.role.guest, none⟩,
          twoHostJob.jodID, twoHostJob.flowID⟩ :=
  have nonEmpty : twoHostJob.components ≠ [] := by decide
  have found : ∀ cpt ∈ twoHostJob.components,
      (fun _ => .ok ()) cpt.code = (.ok () : Except String Unit) := fun _ _ => rfl
  ⟨nonEmpty, found, jobInfoRoundTrip_keeps_job twoHostJob nonEmpty found⟩

end Kuscia.Bfia
