import Mathlib
import Kuscia.BfiaAdapter
import Kuscia.GoMap

namespace Kuscia.Bfia

open Go (Outcome)

/-!
# From a Kuscia job back to a BFIA job

`GenerateInterConnJobInfoFrom` (`adapter.go`) rebuilds the `InterConnJobInfo`
of a job from its task templates: a component from each task's input config
and app image, the initiator and roles from the first task that carries them,
and the task params by turning each task's params, from role index to the
component's params, back into maps from role index to every component's.  The
job params are built once, by `buildJobParams`, from the roles of the first
task.

Go maps are `Go.Map`s.  The image tag, which only sets the component's version,
and the constant versions of the DAG and the config are left out; `NewStruct`
does not fail on values read from structs, and the task input config is read
back as `GenerateKusciaJobFrom` wrote it.

`buildJobParams` builds a new struct for every role index and keeps the last:
the job params hold one index per role, whatever its length
(`buildRoleIndexParams_eq`).
-/

/-- `appImageLister.Get`: the error text when the image is not found. -/
abbrev AppImageLister := String → Except String Unit

/-! ## Job params -/

/-- The empty struct each role index of the job params maps to. -/
def emptyStruct : Value :=
  .structValue []

/-- One role's loop of `buildJobParams`: each index builds a new struct that
holds that index only, and replaces the role's params. -/
def buildRoleIndexParams (roles : List String) : Option (List (String × Value)) :=
  (List.range roles.length).foldl (fun _ (idx : Nat) => some [(Go.Itoa idx, emptyStruct)]) none

/-- `buildJobParams`: `role.Arbiter` is read through the pointer. -/
def buildJobParams (role : Option ConfigRole) : Outcome ConfigParams := do
  let some role := role | .error Go.nilDereference
  pure ⟨buildRoleIndexParams role.host, buildRoleIndexParams role.arbiter,
    buildRoleIndexParams role.guest, none⟩

/-- Each role of the job params keeps one index, the last one of its list. -/
theorem buildRoleIndexParams_eq
    (roles : List String) :
    buildRoleIndexParams roles =
      if roles = [] then none else some [(Go.Itoa ↑(roles.length - 1), emptyStruct)] := by
  rcases List.eq_nil_or_concat roles with rfl | ⟨earlier, last, rfl⟩
  · rfl
  · -- the loop's last round is the one for the last index
    rw [buildRoleIndexParams, List.concat_eq_append, List.length_append, List.length_singleton,
      List.range_succ, List.foldl_append]
    simp

/-! ## Task params -/

/-- Params by role index, then by component name. -/
abbrev ParamsByIndex := Go.Map String (Go.Map String Value)

/-- The `setAttr` closure of `parseTaskParamsFromTaskInputConfig`: the params
of each role index go under the component's name, in that index's map. -/
def setAttr (name : String) (input : List (String × Value)) (output : ParamsByIndex) :
    ParamsByIndex :=
  input.foldl (fun output (index, inputAttr) =>
    output.insert index (((output.lookup index).getD ∅).insert name inputAttr)) output

/-- The four maps of task params that the task loop fills. -/
structure TaskParamsAttrs where
  common : Go.Map String Value
  host : ParamsByIndex
  guest : ParamsByIndex
  arbiter : ParamsByIndex

/-- The role params of one component added to a role's map, when it has some. -/
def setRoleAttr (name : String) (roleParams : Option (List (String × Value)))
    (output : ParamsByIndex) : ParamsByIndex :=
  match roleParams with
  | some input => setAttr name input output
  | none => output

/-- One component's task params added to the maps. -/
def TaskParamsAttrs.add (attrs : TaskParamsAttrs) (name : String) (taskParams : ConfigParams) :
    TaskParamsAttrs where
  common :=
    match taskParams.common with
    | some common => attrs.common.insert name (.structValue common)
    | none => attrs.common
  host := setRoleAttr name taskParams.host attrs.host
  guest := setRoleAttr name taskParams.guest attrs.guest
  arbiter := setRoleAttr name taskParams.arbiter attrs.arbiter

/-- `parseTaskParamsFromTaskInputConfig`: one task's params added to the maps,
read through `taskInputConfig.TaskParams`. -/
def parseTaskParamsFromTaskInputConfig (taskInputConfig : TaskInputConfig)
    (attrs : TaskParamsAttrs) : Outcome TaskParamsAttrs := do
  let some taskParams := taskInputConfig.taskParams | .error Go.nilDereference
  pure (attrs.add taskInputConfig.name taskParams)

/-- A map of maps as `structpb.NewStruct` makes it a struct. -/
def structOfParamsByIndex (attrs : ParamsByIndex) : List (String × Value) :=
  attrs.entries.map fun entry =>
    (entry.1, .structValue (entry.2.entries.map fun field => (field.1, field.2)))

/-- `buildInterConnJobConfig`: the job's task params, every one set even when
its map is empty. -/
def buildInterConnJobConfig (attrs : TaskParamsAttrs) : ConfigParams :=
  ⟨some (structOfParamsByIndex attrs.host), some (structOfParamsByIndex attrs.arbiter),
    some (structOfParamsByIndex attrs.guest),
    some (attrs.common.entries.map fun entry => (entry.1, entry.2))⟩

/-! ## The task loop -/

/-- What the task loop of `GenerateInterConnJobInfoFrom` has built so far. -/
structure JobInfoDraft where
  components : List Component
  initiator : Option ConfigInitiator
  role : Option ConfigRole
  jobParams : Option ConfigParams
  attrs : TaskParamsAttrs

/-- The draft before the first task. -/
def JobInfoDraft.empty : JobInfoDraft :=
  ⟨[], none, none, none, ⟨∅, ∅, ∅, ∅⟩⟩

/-- One iteration of the task loop. -/
def JobInfoDraft.addTask (appImageLister : AppImageLister) (draft : JobInfoDraft)
    (task : KusciaTaskTemplate) : Outcome JobInfoDraft := do
  let taskInputConfig := task.taskInputConfig
  match appImageLister task.appImage with
  | .error err => .error (.error ("failed to get appimage " ++ task.appImage ++ ", " ++ err))
  | .ok () =>
    let cpt : Component := ⟨task.appImage, taskInputConfig.name, taskInputConfig.moduleName,
      taskInputConfig.input, taskInputConfig.output⟩
    -- the job params are built from the roles of the first task, set or not
    let jobParams ←
      match draft.jobParams with
      | some jobParams => pure jobParams
      | none => Go.wrapError "build job params failed, " (buildJobParams taskInputConfig.role)
    let attrs ← parseTaskParamsFromTaskInputConfig taskInputConfig draft.attrs
    -- the first task that carries an initiator, or roles, sets the job's
    pure ⟨draft.components ++ [cpt], draft.initiator.or taskInputConfig.initiator,
      draft.role.or taskInputConfig.role, some jobParams, attrs⟩

/-- The `InterConnJobInfo` that `GenerateInterConnJobInfoFrom` returns: its DAG
and config are set, and the config has job params. -/
structure GeneratedJobInfo where
  components : List Component
  config : Config
  jobParams : Option ConfigParams
  jodID : String
  flowID : String
  deriving DecidableEq

/-- `GenerateInterConnJobInfoFrom`. -/
def GenerateInterConnJobInfoFrom (kusciaJob : KusciaJob) (appImageLister : AppImageLister) :
    Outcome GeneratedJobInfo := do
  let draft ← kusciaJob.tasks.foldlM (JobInfoDraft.addTask appImageLister) JobInfoDraft.empty
  pure ⟨draft.components,
    ⟨draft.role, draft.initiator, some (buildInterConnJobConfig draft.attrs)⟩,
    draft.jobParams, kusciaJob.name, kusciaJob.flowID⟩

/-- A BFIA job sent to Kuscia as a job, and converted back. -/
def jobInfoRoundTrip (jobInfo : InterConnJobInfo) (appImageLister : AppImageLister) :
    Outcome GeneratedJobInfo := do
  let kusciaJob ← GenerateKusciaJobFrom jobInfo
  GenerateInterConnJobInfoFrom kusciaJob appImageLister

theorem job_params_keep_last_role_index :
    jobInfoRoundTrip
        ⟨some ⟨[some ⟨"secretflow-image", "train", "train_module", [], []⟩]⟩,
          some ⟨some ⟨[], ["alice", "bob"], []⟩, some ⟨"host", "alice"⟩,
            some ⟨some [("0", .structValue [("train", .other)]),
              ("1", .structValue [("train", .other)])], none, none, none⟩⟩,
          "job-1", "flow-1"⟩
        (fun _ => .ok ()) =
      .ok ⟨[⟨"secretflow-image", "train", "train_module", [], []⟩],
        ⟨some ⟨[], ["alice", "bob"], []⟩, some ⟨"host", "alice"⟩,
          some ⟨some [("1", .structValue [("train", .other)]),
            ("0", .structValue [("train", .other)])], some [], some [], some []⟩⟩,
        some ⟨some [("1", emptyStruct)], none, none, none⟩, "job-1", "flow-1"⟩ := by
  decide

end Kuscia.Bfia
