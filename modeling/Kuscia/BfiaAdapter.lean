import Kuscia.GoRuntime
import Kuscia.GoStrconv

namespace Kuscia.Bfia

open Go (Outcome NoPanic)

/-!
# The BFIA create-job adapter

`GenerateKusciaJobFrom` (`adapter.go`) turns the `InterConnJobInfo` that a
remote party sends through the create-job handler into a `KusciaJob`.  The
request is nested, optional protobuf: the handler checks only that the DAG and
the config are present.  The adapter dereferences the config's role and task
params, every component and every input and output it compares.  It also
indexes a role list with a string index that it parses with `Atoi` and checks
only from above (`index+1 > len(roles)`, in wrapping `int` arithmetic).

A call therefore ends in one of three ways (`Go.Outcome`): a job, an error,
or a runtime panic.  `adapter_panics_on_remote_input` gives three requests
that panic.  `GenerateKusciaJobFrom_noPanic` states what is enough for the
adapter to return: every pointer it follows is set, and every role index is a
non-negative number below the largest `int`.

Go maps are lists in their iteration order.
-/

/-- `structpb.Value`, as far as the adapter reads it: a struct, with its
fields in the map's iteration order, or a value of another kind. -/
inductive Value where
  | structValue (fields : List (String × Value))
  | other
  deriving Repr

mutual
/-- Decidable equality of values, defined with that of struct fields. -/
def Value.decEq : (a b : Value) → Decidable (a = b)
  | .structValue xs, .structValue ys =>
    match Value.decEqFields xs ys with
    | isTrue same => isTrue (congrArg Value.structValue same)
    | isFalse differ => isFalse fun equal => differ (Value.structValue.inj equal)
  | .structValue _, .other => isFalse nofun
  | .other, .structValue _ => isFalse nofun
  | .other, .other => isTrue rfl
/-- Decidable equality of struct fields, defined with that of values. -/
def Value.decEqFields : (xs ys : List (String × Value)) → Decidable (xs = ys)
  | [], [] => isTrue rfl
  | [], _ :: _ => isFalse nofun
  | _ :: _, [] => isFalse nofun
  | (k, v) :: xs, (l, w) :: ys =>
    if sameKey : k = l then
      match Value.decEq v w, Value.decEqFields xs ys with
      | isTrue sameValue, isTrue sameRest => isTrue (by rw [sameKey, sameValue, sameRest])
      | isFalse differ, _ => isFalse fun equal => differ (by simp_all)
      | _, isFalse differ => isFalse fun equal => differ (by simp_all)
    else isFalse fun equal => sameKey (by simp_all)
end

instance : DecidableEq Value := Value.decEq

/-- The entries of `GetStructValue().AsMap()`: none unless the value is a struct. -/
def Value.structFields : Value → List (String × Value)
  | .structValue fields => fields
  | .other => []

/-- `interconn.ComponentIO`. -/
structure ComponentIO where
  type : String
  key : String
  deriving Repr, DecidableEq

/-- `interconn.Component`; a `none` entry of its inputs or outputs is a nil pointer. -/
structure Component where
  code : String
  name : String
  moduleName : String
  input : List (Option ComponentIO)
  output : List (Option ComponentIO)
  deriving Repr, DecidableEq

/-- `interconn.DAG`; a `none` component is a nil pointer. -/
structure DAG where
  components : List (Option Component)

/-- `interconn.ConfigRole`: the node ids of each role. -/
structure ConfigRole where
  arbiter : List String
  host : List String
  guest : List String
  deriving Repr, DecidableEq

/-- `interconn.ConfigInitiator`. -/
structure ConfigInitiator where
  role : String
  nodeId : String
  deriving Repr, DecidableEq

/-- `interconn.ConfigParams`: per role, a struct from role index to the
params of each component. -/
structure ConfigParams where
  host : Option (List (String × Value))
  arbiter : Option (List (String × Value))
  guest : Option (List (String × Value))
  common : Option (List (String × Value))
  deriving Repr, DecidableEq

/-- `interconn.Config`, with the pointers the adapter follows. -/
structure Config where
  role : Option ConfigRole
  initiator : Option ConfigInitiator
  taskParams : Option ConfigParams
  deriving DecidableEq

/-- `InterConnJobInfo`. -/
structure InterConnJobInfo where
  dag : Option DAG
  config : Option Config
  jodID : String
  flowID : String

/-- `Party` of a task template. -/
structure Party where
  domainID : String
  role : String
  deriving Repr, DecidableEq

/-- `interconn.TaskInputConfig`: one component and the params and roles of
the job that concern it.  The task template holds it as JSON text; the text is
modelled by the value it encodes, which `json.Unmarshal` reads back. -/
structure TaskInputConfig where
  name : String
  moduleName : String
  input : List (Option ComponentIO)
  output : List (Option ComponentIO)
  role : Option ConfigRole
  initiator : Option ConfigInitiator
  taskParams : Option ConfigParams
  deriving Repr, DecidableEq

/-- `KusciaTaskTemplate` as the adapter fills it. -/
structure KusciaTaskTemplate where
  taskAlias : String
  dependencies : List String
  tolerable : Bool
  appImage : String
  taskInputConfig : TaskInputConfig
  parties : List Party
  deriving Repr, DecidableEq

/-- `KusciaJob` as the adapter fills it. -/
structure KusciaJob where
  name : String
  labels : List (String × String)
  flowID : String
  maxParallelism : Nat
  scheduleMode : String
  initiator : String
  tasks : List KusciaTaskTemplate
  deriving Repr, DecidableEq

/-! ## Dependencies -/

/-- The output loop for one input: whether some output of `tt` produces it.
`i.Type` is read before `o.Type`, each through its pointer. -/
def producesInput (i : Option ComponentIO) (ttName : String) :
    List (Option ComponentIO) → Outcome Bool
  | [] => .ok false
  | o :: rest =>
    match i, o with
    | none, _ => .error Go.nilDereference
    | some _, none => .error Go.nilDereference
    | some input, some output =>
      if input.type = output.type ∧ input.key = ttName ++ "." ++ output.key then .ok true
      else producesInput i ttName rest

/-- The component loop for one input of `t` (`break loop` at the first
producer): the name of the first other component that produces it. -/
def findProducer (t : Component) (i : Option ComponentIO) :
    List (Option Component) → Outcome (Option String)
  | [] => .ok none
  | tt :: rest =>
    match tt with
    | none => .error Go.nilDereference
    | some tt =>
      if t.name = tt.name ∧ t.moduleName = tt.moduleName then findProducer t i rest
      else do
        let produced ← producesInput i tt.name tt.output
        if produced then pure (some tt.name) else findProducer t i rest

/-- The input loop of `t`: one `(task, dependency)` pair per input that some
other component produces. -/
def inputDependencies (components : List (Option Component)) (t : Component) :
    Outcome (List (String × String)) := do
  let producers ← t.input.mapM fun i => findProducer t i components
  pure (producers.filterMap fun producer => producer.map fun name => (t.name, name))

/-- `buildKusciaJobDependenciesFrom`: the pairs of every component, in the
order of the appends (`len(t.Input)` reads through the component's pointer). -/
def buildKusciaJobDependenciesFrom (components : List (Option Component)) :
    Outcome (List (String × String)) := do
  let perComponent ← components.mapM fun t =>
    match t with
    | none => .error Go.nilDereference
    | some t => inputDependencies components t
  pure perComponent.flatten

/-- `deps[name]`. -/
def dependenciesOf (deps : List (String × String)) (name : String) : List String :=
  deps.filterMap fun dep => if dep.1 = name then some dep.2 else none

/-! ## Parties -/

/-- The role-index loop of `parseTaskRoleParams`: the party of each role index
whose params name the component, in the loop's order. -/
def parseRoleIndices (roles : List String) (componentName role : String) :
    List (String × Value) → Outcome (List Party)
  | [] => .ok []
  | (roleIndex, f) :: rest =>
    if (f.structFields.find? fun entry => entry.1 = componentName).isNone then
      parseRoleIndices roles componentName role rest
    else
      match Go.Atoi roleIndex with
      | (_, false) =>
        .error (.error ("role index should be number string format, " ++ Go.atoiErrorText roleIndex))
      | (index, true) =>
        if Go.addInt index 1 > roles.length then
          .error (.error ("role index " ++ Go.Itoa (Go.addInt index 1) ++ " should be less than role " ++
            Go.formatStrings roles ++ " length"))
        else do
          let domainID ← Go.index roles index
          let parties ← parseRoleIndices roles componentName role rest
          pure (⟨domainID, role⟩ :: parties)

/-- `parseTaskRoleParams`: the parties of one role (no params, no parties). -/
def parseTaskRoleParams (roleParams : Option (List (String × Value))) (roles : List String)
    (componentName role : String) : Outcome (List Party) :=
  match roleParams with
  | none => .ok []
  | some fields => parseRoleIndices roles componentName role fields

/-- The params map that `parseTaskRoleParams` builds in the same loop as the
parties: each role index whose params name the component, with those params;
`nil` when there is none. -/
def taskRoleParams (roleParams : Option (List (String × Value))) (componentName : String) :
    Option (List (String × Value)) :=
  match roleParams with
  | none => none
  | some fields =>
    let paramsMap := fields.filterMap fun (roleIndex, f) =>
      (f.structFields.find? fun entry => entry.1 = componentName).map fun entry => (roleIndex, entry.2)
    if paramsMap = [] then none else some paramsMap

/-- The common params of one component: the fields of the entry of
`config.TaskParams.Common` named after it, kept only when there are some. -/
def commonTaskParams (common : Option (List (String × Value))) (componentName : String) :
    Option (List (String × Value)) :=
  match common with
  | none => none
  | some fields =>
    let params := ((fields.find? fun entry => entry.1 = componentName).map
      fun entry => entry.2.structFields).getD []
    if params = [] then none else some params

/-- The task params that concern one component. -/
def componentTaskParams (taskParams : ConfigParams) (componentName : String) : ConfigParams :=
  ⟨taskRoleParams taskParams.host componentName, taskRoleParams taskParams.arbiter componentName,
    taskRoleParams taskParams.guest componentName, commonTaskParams taskParams.common componentName⟩

/-- The task input config that `buildTaskInputConfigAndPartiesFrom` marshals
for a component: the component, the job's roles and initiator, and the task
params that concern the component. -/
def taskInputConfigOf (cpt : Component) (config : Config) (taskParams : ConfigParams) :
    TaskInputConfig :=
  ⟨cpt.name, cpt.moduleName, cpt.input, cpt.output, config.role, config.initiator,
    some (componentTaskParams taskParams cpt.name)⟩

/-- `buildTaskInputConfigAndPartiesFrom`: the component's task input config,
and its parties: arbiters, hosts, then guests.  `config.TaskParams` is read
before `config.Role`; the common params and the JSON text cannot fail on values
read from a struct. -/
def buildTaskInputConfigAndPartiesFrom (cpt : Component) (config : Config) :
    Outcome (TaskInputConfig × List Party) := do
  let some taskParams := config.taskParams | .error Go.nilDereference
  let some role := config.role | .error Go.nilDereference
  let arbiter ← parseTaskRoleParams taskParams.arbiter role.arbiter cpt.name "arbiter"
  let host ← parseTaskRoleParams taskParams.host role.host cpt.name "host"
  let guest ← parseTaskRoleParams taskParams.guest role.guest cpt.name "guest"
  pure (taskInputConfigOf cpt config taskParams, arbiter ++ host ++ guest)

/-! ## The job -/

/-- `validateComponentCode`. -/
def validateComponentCode (code : String) : Outcome Unit :=
  if code = "" then .error (.error "component code can't be empty") else .ok ()

/-- One iteration of the component loop of `GenerateKusciaJobFrom`: the task
template of a component. -/
def buildKusciaTaskTemplate (config : Config) (deps : List (String × String))
    (cpt : Option Component) : Outcome KusciaTaskTemplate := do
  let some cpt := cpt | .error Go.nilDereference
  Go.wrapError "validate appImage failed, " (validateComponentCode cpt.code)
  let (taskInputConfig, parties) ←
    Go.wrapError "generate taskInputConfig failed, " (buildTaskInputConfigAndPartiesFrom cpt config)
  pure ⟨cpt.name, dependenciesOf deps cpt.name, false, cpt.code, taskInputConfig, parties⟩

/-- `GenerateKusciaJobFrom`. -/
def GenerateKusciaJobFrom (jobInfo : InterConnJobInfo) : Outcome KusciaJob := do
  let (some config, some dag) := (jobInfo.config, jobInfo.dag)
    | .error (.error "dag and config of interconn job info can't be empty")
  let some initiator := config.initiator
    | .error (.error "interconn job config initiator can't be empty")
  if initiator.nodeId = "" then
    .error (.error "interconn job config initiator can't be empty")
  else
    let deps ← buildKusciaJobDependenciesFrom dag.components
    let jobTasks ← dag.components.mapM (buildKusciaTaskTemplate config deps)
    pure {
      name := jobInfo.jodID
      labels := [("kuscia.secretflow/interconn-protocol-type", "bfia"),
        ("kuscia.secretflow/job-stage", "Create")]
      flowID := jobInfo.flowID
      maxParallelism := 2
      scheduleMode := "Strict"
      initiator := initiator.nodeId
      tasks := jobTasks }

/-! ## Panics on remote input -/

/-- Three create-job requests with one component `train` and host `bob` that
make the adapter panic: a host role index `-1`, which passes the upper check
and indexes the role list below its start; the index of the largest `int`,
whose successor wraps to the smallest and so passes the check too; and a
config without task params. -/
theorem adapter_panics_on_remote_input :
    let train : Component := ⟨"secretflow-image", "train", "train_module", [], []⟩
    let hostParams (roleIndex : String) : Option ConfigParams :=
      some ⟨some [(roleIndex, .structValue [("train", .other)])], none, none, none⟩
    let request (taskParams : Option ConfigParams) : InterConnJobInfo :=
      ⟨some ⟨[some train]⟩, some ⟨some ⟨[], ["bob"], []⟩, some ⟨"host", "bob"⟩, taskParams⟩,
        "job-1", "flow-1"⟩
    GenerateKusciaJobFrom (request (hostParams "-1")) = .error Go.indexOutOfRange ∧
      GenerateKusciaJobFrom (request (hostParams "9223372036854775807")) = .error Go.indexOutOfRange ∧
      GenerateKusciaJobFrom (request none) = .error Go.nilDereference := by
  decide

/-! ## What keeps the adapter from panicking -/

/-- A role index that the check from above protects: it reads as a
non-negative number whose successor does not overflow. -/
def SafeRoleIndex (roleIndex : String) : Prop :=
  0 ≤ (Go.Atoi roleIndex).1 ∧ (Go.Atoi roleIndex).1 < 2 ^ 63 - 1

instance (roleIndex : String) : Decidable (SafeRoleIndex roleIndex) :=
  inferInstanceAs (Decidable (_ ∧ _))

/-- Every role index of one role's params is safe. -/
def SafeRoleParams (roleParams : Option (List (String × Value))) : Prop :=
  ∀ fields ∈ roleParams, ∀ entry ∈ fields, SafeRoleIndex entry.1

instance (roleParams : Option (List (String × Value))) : Decidable (SafeRoleParams roleParams) :=
  inferInstanceAs (Decidable (∀ fields ∈ roleParams, ∀ entry ∈ fields, _))

/-- A request on which `GenerateKusciaJobFrom` cannot panic: every component
and every input and output is set, the task params and the roles are set when
there is a component, and every role index is safe. -/
structure SafeRequest (dag : DAG) (config : Config) : Prop where
  componentsSet : ∀ cpt ∈ dag.components, cpt.isSome
  ioSet : ∀ cpt ∈ dag.components, ∀ component ∈ cpt,
    (∀ io ∈ component.input, io.isSome) ∧ (∀ io ∈ component.output, io.isSome)
  paramsSet : dag.components ≠ [] → config.taskParams.isSome ∧ config.role.isSome
  roleIndicesSafe : ∀ taskParams ∈ config.taskParams,
    SafeRoleParams taskParams.arbiter ∧ SafeRoleParams taskParams.host ∧
      SafeRoleParams taskParams.guest

theorem producesInput_noPanic
    {i : Option ComponentIO}
    (inputSet : i.isSome)
    (ttName : String) :
    ∀ {outputs : List (Option ComponentIO)}, (∀ o ∈ outputs, o.isSome) →
      NoPanic (producesInput i ttName outputs) := by
  intro outputs
  induction outputs with
  | nil =>
    intro _
    trivial
  | cons o rest inductionHypothesis =>
    intro outputsSet
    obtain ⟨input, rfl⟩ := Option.isSome_iff_exists.mp inputSet
    obtain ⟨output, rfl⟩ := Option.isSome_iff_exists.mp (outputsSet _ List.mem_cons_self)
    simp only [producesInput]
    split
    · trivial
    · exact inductionHypothesis fun other member => outputsSet other (List.mem_cons_of_mem _ member)

theorem findProducer_noPanic
    (t : Component)
    {i : Option ComponentIO}
    (inputSet : i.isSome) :
    ∀ {components : List (Option Component)}, (∀ cpt ∈ components, cpt.isSome) →
      (∀ cpt ∈ components, ∀ component ∈ cpt, ∀ io ∈ component.output, io.isSome) →
      NoPanic (findProducer t i components) := by
  intro components
  induction components with
  | nil =>
    intro _ _
    trivial
  | cons tt rest inductionHypothesis =>
    intro componentsSet outputsSet
    have restNoPanic := inductionHypothesis
      (fun cpt member => componentsSet cpt (List.mem_cons_of_mem _ member))
      (fun cpt member => outputsSet cpt (List.mem_cons_of_mem _ member))
    obtain ⟨component, rfl⟩ := Option.isSome_iff_exists.mp (componentsSet _ List.mem_cons_self)
    simp only [findProducer]
    split
    · exact restNoPanic
    · apply NoPanic.bind (producesInput_noPanic inputSet component.name
        (outputsSet _ List.mem_cons_self component rfl))
      intro produced _
      split
      · exact Go.noPanic_pure _
      · exact restNoPanic

theorem buildKusciaJobDependenciesFrom_noPanic
    {components : List (Option Component)}
    (componentsSet : ∀ cpt ∈ components, cpt.isSome)
    (ioSet : ∀ cpt ∈ components, ∀ component ∈ cpt,
      (∀ io ∈ component.input, io.isSome) ∧ (∀ io ∈ component.output, io.isSome)) :
    NoPanic (buildKusciaJobDependenciesFrom components) := by
  have outputsSet : ∀ cpt ∈ components, ∀ component ∈ cpt, ∀ io ∈ component.output, io.isSome :=
    fun cpt member component isCpt => (ioSet cpt member component isCpt).2
  unfold buildKusciaJobDependenciesFrom
  refine NoPanic.bind (NoPanic.mapM fun cpt member => ?_) fun _ _ => Go.noPanic_pure _
  obtain ⟨component, rfl⟩ := Option.isSome_iff_exists.mp (componentsSet cpt member)
  -- each input of the component looks for its producer among all components
  have inputsSet := (ioSet _ member component rfl).1
  exact NoPanic.bind
    (NoPanic.mapM fun i inputMember =>
      findProducer_noPanic component (inputsSet i inputMember) componentsSet outputsSet)
    fun _ _ => Go.noPanic_pure _

theorem parseRoleIndices_noPanic
    (roles : List String)
    (componentName role : String) :
    ∀ {fields : List (String × Value)}, (∀ entry ∈ fields, SafeRoleIndex entry.1) →
      NoPanic (parseRoleIndices roles componentName role fields) := by
  intro fields
  induction fields with
  | nil =>
    intro _
    trivial
  | cons entry rest inductionHypothesis =>
    intro safe
    obtain ⟨roleIndex, f⟩ := entry
    obtain ⟨nonNegative, belowMax⟩ := safe (roleIndex, f) List.mem_cons_self
    have restNoPanic := inductionHypothesis fun other member => safe other (List.mem_cons_of_mem _ member)
    simp only [parseRoleIndices]
    split
    · exact restNoPanic
    · split
      · trivial
      · rename_i index parsed
        rw [parsed] at nonNegative belowMax
        -- the successor does not wrap, so the check from above bounds the index
        have successor : Go.addInt index 1 = index + 1 :=
          Go.addInt_of_fits ⟨by omega, by omega⟩ ⟨by omega, by omega⟩ ⟨by omega, by omega⟩
        split
        · trivial
        · rename_i withinRoles
          rw [successor] at withinRoles
          apply NoPanic.bind (Go.noPanic_index nonNegative (by omega))
          intro _ _
          exact NoPanic.bind restNoPanic fun _ _ => Go.noPanic_pure _

theorem parseTaskRoleParams_noPanic
    {roleParams : Option (List (String × Value))}
    (safe : SafeRoleParams roleParams)
    (roles : List String)
    (componentName role : String) :
    NoPanic (parseTaskRoleParams roleParams roles componentName role) := by
  cases roleParams with
  | none => trivial
  | some fields => exact parseRoleIndices_noPanic roles componentName role (safe fields rfl)

theorem buildTaskInputConfigAndPartiesFrom_noPanic
    (cpt : Component)
    {config : Config}
    {taskParams : ConfigParams}
    {role : ConfigRole}
    (taskParamsIs : config.taskParams = some taskParams)
    (roleIs : config.role = some role)
    (safe : SafeRoleParams taskParams.arbiter ∧ SafeRoleParams taskParams.host ∧
      SafeRoleParams taskParams.guest) :
    NoPanic (buildTaskInputConfigAndPartiesFrom cpt config) := by
  obtain ⟨arbiterSafe, hostSafe, guestSafe⟩ := safe
  unfold buildTaskInputConfigAndPartiesFrom
  rw [taskParamsIs, roleIs]
  apply NoPanic.bind (parseTaskRoleParams_noPanic arbiterSafe _ _ _)
  intro _ _
  apply NoPanic.bind (parseTaskRoleParams_noPanic hostSafe _ _ _)
  intro _ _
  exact NoPanic.bind (parseTaskRoleParams_noPanic guestSafe _ _ _) fun _ _ => Go.noPanic_pure _

theorem validateComponentCode_noPanic
    (code : String) :
    NoPanic (validateComponentCode code) := by
  unfold validateComponentCode
  split <;> trivial

/-- On a safe request the adapter returns a job or an error: it never panics. -/
theorem GenerateKusciaJobFrom_noPanic
    {jobInfo : InterConnJobInfo}
    {dag : DAG}
    {config : Config}
    (dagIs : jobInfo.dag = some dag)
    (configIs : jobInfo.config = some config)
    (safe : SafeRequest dag config) :
    NoPanic (GenerateKusciaJobFrom jobInfo) := by
  unfold GenerateKusciaJobFrom
  rw [dagIs, configIs]
  dsimp only
  split
  · split
    · trivial
    · apply NoPanic.bind (buildKusciaJobDependenciesFrom_noPanic safe.componentsSet safe.ioSet)
      intro _ _
      refine NoPanic.bind (NoPanic.mapM fun cpt member => ?_) fun _ _ => Go.noPanic_pure _
      -- a component is set, and so are the task params and the roles it reads
      obtain ⟨component, rfl⟩ := Option.isSome_iff_exists.mp (safe.componentsSet _ member)
      obtain ⟨taskParamsSet, roleSet⟩ := safe.paramsSet (List.ne_nil_of_mem member)
      obtain ⟨taskParams, taskParamsIs⟩ := Option.isSome_iff_exists.mp taskParamsSet
      obtain ⟨role, roleIs⟩ := Option.isSome_iff_exists.mp roleSet
      have partiesNoPanic := buildTaskInputConfigAndPartiesFrom_noPanic component taskParamsIs roleIs
        (safe.roleIndicesSafe taskParams taskParamsIs)
      unfold buildKusciaTaskTemplate
      apply NoPanic.bind ((validateComponentCode_noPanic component.code).wrapError _)
      intro _ _
      exact NoPanic.bind (partiesNoPanic.wrapError _) fun _ _ => Go.noPanic_pure _
  · trivial

theorem GenerateKusciaJobFrom_noPanic_hostZero :
    let train : Component := ⟨"secretflow-image", "train", "train_module", [], []⟩
    let dag : DAG := ⟨[some train]⟩
    let config : Config :=
      ⟨some ⟨[], ["bob"], []⟩, some ⟨"host", "bob"⟩,
        some ⟨some [("0", .structValue [("train", .other)])], none, none, none⟩⟩
    SafeRequest dag config ∧ NoPanic (GenerateKusciaJobFrom ⟨some dag, some config, "job-1", "flow-1"⟩) := by
  intro train dag config
  have safe : SafeRequest dag config := ⟨by decide, by decide, by decide, by decide⟩
  exact ⟨safe, GenerateKusciaJobFrom_noPanic rfl rfl safe⟩

end Kuscia.Bfia
