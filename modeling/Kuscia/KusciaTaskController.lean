import Mathlib
import Kuscia.GoStrconv
import Kuscia.ClusterDomainRoute
import Kuscia.KusciaJobController

namespace Kuscia.KusciaTaskHandler

open Kuscia.JobScheduler (KusciaTaskPhase Namespace partnerRole SelfClusterAsInitiator)
open Kuscia.ClusterDomainRoute (ConditionStatus)

/-!
# The KusciaTask controller

`syncHandler` (`kusciatask/controller.go`) hands a task to the handler of its
phase: the pending handler prepares the task's resources and waits for a pod
to start, the running handler follows the TaskResourceGroup and the pods,
and the succeeded and failed handlers delete the resources and stamp the
completion time.

The running handler decides the task's phase from its parties, in two
counts.  `getPartyTaskStatus` decides each own party from its pods: failed
when too few pods can still run (`MinReservedPods`), succeeded when enough
have succeeded, running while one runs.  `reconcileTaskStatus` decides the
task from the parties against `MinReservedMembers` in the same way.  A party
whose recorded status is already succeeded or failed keeps it, without a
look at its pods.

What the handlers read from outside the task (the TaskResourceGroup, the
namespaces, the pods, the answers of the API) is a `TaskSyncEnv`, so every
result holds for every answer.  The creation of the resources in
`prepareTaskResources` and the refresh of the pod and service statuses are
inputs too: what they return, not how.
-/

/-! ## Constants -/

/-- `common.LabelTaskUnschedulable`. -/
def labelTaskUnschedulable : String := "kuscia.secretflow/task-unschedulable"

/-- `common.SelfClusterAsParticipantAnnotationKey`. -/
def selfClusterAsParticipantAnnotationKey : String :=
  "kuscia.secretflow/self-cluster-as-participant"

/-- `maxBackoffLimit` (`kusciatask/controller.go`). -/
def maxBackoffLimit : Nat := 3

/-- `defaultPullImageRetryCount`. -/
def defaultPullImageRetryCount : Int := 3

/-- `errImagePull`. -/
def errImagePull : String := "ErrImagePull"

/-- `errImagePullBackOff`. -/
def errImagePullBackOff : String := "ErrImagePullBackOff"

/-- `podFailedContainerReason`: the waiting reasons that fail a pod at once. -/
def podFailedContainerReason : List String :=
  ["CrashLoopBackOff", "ImageInspectError", "ErrImageNeverPull", "RegistryUnavailable",
    "InvalidImageName", "CreateContainerConfigError", "CreateContainerError",
    "PreStartHookError", "PostStartHookError"]

/-- `v1.ContainersReady`. -/
def containersReady : String := "ContainersReady"

/-- `TaskResourceGroupExpired`. -/
def taskResourceGroupExpired : String := "TaskResourceGroupExpired"

/-! ## Pods -/

/-- `v1.PodPhase`; `unknown` is `Unknown` and every other text. -/
inductive PodPhase where
  | pending
  | running
  | succeeded
  | failed
  | unknown
  deriving Repr, DecidableEq

/-- A `v1.PodCondition`: its type and status. -/
structure PodCondition where
  type : String
  status : ConditionStatus
  deriving DecidableEq

/-- A `v1.ContainerStatus`: the reason of its waiting state, when it waits,
and its restart count. -/
structure ContainerStatus where
  waitingReason : Option String
  restartCount : Int
  deriving DecidableEq

/-- A pod, with the parts of its status `getPartyTaskStatus` reads. -/
structure Pod where
  phase : PodPhase
  conditions : List PodCondition
  containerStatuses : List ContainerStatus
  deriving DecidableEq

/-- The inner loop of `isPodFailed`, over the container statuses: `some` when
it returns.  An image pull error decides only after more than
`defaultPullImageRetryCount` restarts; any other waiting reason decides at
once, failed or not. -/
def waitingVerdict : List ContainerStatus → Option Bool
  | [] => none
  | cs :: rest =>
    match cs.waitingReason with
    | none => waitingVerdict rest
    | some reason =>
      if reason = errImagePull ∨ reason = errImagePullBackOff then
        if cs.restartCount > defaultPullImageRetryCount then some true else waitingVerdict rest
      else some (podFailedContainerReason.contains reason)

/-- The outer loop of `isPodFailed`, over the pod's conditions. -/
def isPodFailedLoop (containerStatuses : List ContainerStatus) : List PodCondition → Bool
  | [] => false
  | cond :: rest =>
    if cond.type = containersReady ∧ cond.status = .conditionFalse then
      match waitingVerdict containerStatuses with
      | some verdict => verdict
      | none => isPodFailedLoop containerStatuses rest
    else isPodFailedLoop containerStatuses rest

/-- `isPodFailed`. -/
def isPodFailed (pod : Pod) : Bool :=
  isPodFailedLoop pod.containerStatuses pod.conditions

/-! ## The TaskResourceGroup -/

/-- `TaskResourceGroupParty`, without `TaskResourceName`. -/
structure TaskResourceGroupParty where
  role : String
  domainID : String
  minReservedPods : Int
  pods : List String
  deriving DecidableEq

/-- `TaskResourceGroupPhase`; `empty` is the empty phase and `unknown` every
text that is no phase. -/
inductive TaskResourceGroupPhase where
  | empty
  | pending
  | creating
  | reserving
  | reserved
  | reserveFailed
  | failed
  | unknown
  deriving Repr, DecidableEq

/-- A `TaskResourceGroupCondition`: its type, status and reason.  An empty
status reads as `conditionUnknown`, which the handlers treat alike. -/
structure TaskResourceGroupCondition where
  type : String
  status : ConditionStatus
  reason : String
  deriving DecidableEq

/-- A `TaskResourceGroup`, with the fields of its spec and status that the
handlers read. -/
structure TaskResourceGroup where
  minReservedMembers : Int
  lifecycleSeconds : Int
  initiator : String
  annotations : Go.Map String String
  parties : List TaskResourceGroupParty
  outOfControlledParties : List TaskResourceGroupParty
  phase : TaskResourceGroupPhase
  conditions : List TaskResourceGroupCondition

/-! ## The task -/

/-- `PartyTaskStatus`; the phase is `none` when it is empty. -/
structure PartyTaskStatus where
  domainID : String
  role : String
  phase : Option KusciaTaskPhase
  message : String
  deriving DecidableEq

/-- `KusciaTaskStatus`, with the fields the handlers decide on or write; the
phase is `none` when it is empty. -/
structure KusciaTaskStatus where
  phase : Option KusciaTaskPhase
  partyTaskStatus : List PartyTaskStatus
  reason : String
  message : String
  startTime : Option Int
  completionTime : Option Int
  lastReconcileTime : Option Int
  deriving DecidableEq

/-- A `PartyInfo` of the task's spec: its domain and role. -/
structure PartyInfo where
  domainID : String
  role : String
  deriving DecidableEq

/-- A `KusciaTask` as its controller reads and writes it: `none` stands for a
nil map. -/
structure TaskObject where
  name : String
  annotations : Option (Go.Map String String)
  labels : Option (Go.Map String String)
  deleting : Bool
  parties : List PartyInfo
  minReservedMembers : Int
  status : KusciaTaskStatus

/-- What one sync reads from outside the task. -/
structure TaskSyncEnv where
  now : Int
  /-- `getTaskResourceGroup`: the lister's answer, or the API's after a miss. -/
  trg : Except String TaskResourceGroup
  namespaces : String → Except String Namespace
  /-- A pod by namespace and name, from the lister or the API; `none` when
  neither returns it. -/
  pods : String → String → Option Pod
  /-- Whether `refreshKtResourcesStatus` changed the pod or service statuses. -/
  resourcesRefreshed : Bool
  /-- What `prepareTaskResources` returns after its defaults: whether it
  wrote, and its error. -/
  prepared : Bool × Option String
  /-- Whether the pod scan of `taskRunning` finds a pod past `Pending`. -/
  podStarted : Bool
  /-- The error of `DeleteTaskResources`. -/
  deleteTaskResources : Option String
  numRequeues : Nat
  statusUpdateLands : Bool

/-- `IsPartnerDomain`. -/
def IsPartnerDomain (namespaces : String → Except String Namespace) (domainID : String) :
    Except String Bool :=
  (namespaces domainID).map fun ns => ns.role == some partnerRole

/-- The party loop of `selfClusterAsParticipant`: some party's domain is no
partner. -/
def someSelfParty (namespaces : String → Except String Namespace) :
    List PartyInfo → Except String Bool
  | [] => .ok false
  | party :: rest =>
    match IsPartnerDomain namespaces party.domainID with
    | .error err => .error err
    | .ok true => someSelfParty namespaces rest
    | .ok false => .ok true

/-- `selfClusterAsParticipant`. -/
def selfClusterAsParticipant (namespaces : String → Except String Namespace) (task : TaskObject) :
    Except String Bool :=
  if (task.annotations.bind fun a => a.lookup selfClusterAsParticipantAnnotationKey) = some "true" then
    .ok true
  else someSelfParty namespaces task.parties

/-- `buildPartyKey`. -/
def buildPartyKey (domainID role : String) : String :=
  Go.TrimSuffix s!"{domainID}-{role}" "-"

/-- Whether a recorded party status is the one of a party. -/
def PartyTaskStatus.IsOf (status : PartyTaskStatus) (domainID role : String) : Prop :=
  status.domainID = domainID ∧ status.role = role

instance (status : PartyTaskStatus) (domainID role : String) :
    Decidable (status.IsOf domainID role) :=
  inferInstanceAs (Decidable (_ ∧ _))

/-! ## The running handler -/

/-- `partyStatus`. -/
inductive PartyStatus where
  | partyPending
  | partyRunning
  | partySucceeded
  | partyFailed
  deriving Repr, DecidableEq

/-- The first loop of `getPartyTaskStatus`: the first recorded status of the
party that has finished decides. -/
def recordedOutcome (party : TaskResourceGroupParty) : List PartyTaskStatus → Option PartyStatus
  | [] => none
  | pts :: rest =>
    if pts.IsOf party.domainID party.role then
      if pts.phase = some .succeeded then some .partySucceeded
      else if pts.phase = some .failed then some .partyFailed
      else recordedOutcome party rest
    else recordedOutcome party rest

/-- The counters of the pod loop of `getPartyTaskStatus`. -/
structure PodCounts where
  running : Nat
  failed : Nat
  succeeded : Nat

/-- One pod of the pod loop: a pod that cannot be read counts as failed. -/
def countPod (counts : PodCounts) : Option Pod → PodCounts
  | none => { counts with failed := counts.failed + 1 }
  | some pod =>
    match pod.phase with
    | .pending => if isPodFailed pod then { counts with failed := counts.failed + 1 } else counts
    | .running =>
      if isPodFailed pod then { counts with failed := counts.failed + 1 }
      else { counts with running := counts.running + 1 }
    | .succeeded => { counts with succeeded := counts.succeeded + 1 }
    | .failed => { counts with failed := counts.failed + 1 }
    | .unknown => { counts with failed := counts.failed + 1 }

/-- `getPartyTaskStatus`: the recorded outcome, or else the party's pods
against `MinReservedPods` (all of them when it is 0). -/
def getPartyTaskStatus (pods : String → String → Option Pod) (statuses : List PartyTaskStatus)
    (party : TaskResourceGroupParty) : PartyStatus :=
  match recordedOutcome party statuses with
  | some outcome => outcome
  | none =>
    let counts := party.pods.foldl (fun counts name => countPod counts (pods party.domainID name))
      ⟨0, 0, 0⟩
    let podsCount : Int := party.pods.length
    let minReservedPods := if party.minReservedPods = 0 then podsCount else party.minReservedPods
    if minReservedPods > podsCount - counts.failed then .partyFailed
    else if (counts.succeeded : Int) ≥ minReservedPods then .partySucceeded
    else if counts.running > 0 then .partyRunning
    else .partyPending

/-- The task phase `buildPartyTaskStatus` records for a party status. -/
def PartyStatus.taskPhase : PartyStatus → KusciaTaskPhase
  | .partyFailed => .failed
  | .partySucceeded => .succeeded
  | .partyRunning => .running
  | .partyPending => .pending

/-- `buildOuterPartyTaskStatus`: a party outside this cluster's control keeps
what is recorded for it, and is pending when nothing is. -/
def buildOuterPartyTaskStatus (statuses : List PartyTaskStatus) (party : TaskResourceGroupParty) :
    PartyTaskStatus :=
  match statuses.find? fun s => decide (s.IsOf party.domainID party.role) with
  | some recorded => ⟨party.domainID, party.role, recorded.phase, recorded.message⟩
  | none => ⟨party.domainID, party.role, some .pending, ""⟩

/-- `buildPartyTaskStatus`: the parties out of control first, then the own
parties, each decided by `getPartyTaskStatus`. -/
def buildPartyTaskStatus (pods : String → String → Option Pod) (statuses : List PartyTaskStatus)
    (trg : TaskResourceGroup) : List PartyTaskStatus :=
  trg.outOfControlledParties.map (buildOuterPartyTaskStatus statuses) ++
    trg.parties.map fun party =>
      ⟨party.domainID, party.role, some (getPartyTaskStatus pods statuses party).taskPhase, ""⟩

/-- The keys of the recorded statuses whose phase passes a test. -/
def partyKeys (statuses : List PartyTaskStatus) (test : Option KusciaTaskPhase → Bool) : List String :=
  (statuses.filter fun s => test s.phase).map fun s => buildPartyKey s.domainID s.role

/-- `reconcileTaskStatus`: failed when the parties that have not failed are
fewer than `MinReservedMembers`, succeeded when that many have succeeded,
running while one runs, and otherwise the phase as it was. -/
def reconcileTaskStatus (pods : String → String → Option Pod) (taskStatus : KusciaTaskStatus)
    (trg : TaskResourceGroup) : KusciaTaskStatus :=
  let partyTaskStatuses := buildPartyTaskStatus pods taskStatus.partyTaskStatus trg
  let taskStatus := { taskStatus with partyTaskStatus := partyTaskStatuses }
  let successfulParty := partyKeys partyTaskStatuses fun phase => phase == some .succeeded
  let failedParty := partyKeys partyTaskStatuses fun phase => phase == some .failed
  let runningParty := partyKeys partyTaskStatuses fun phase => phase == some .running
  let pendingParty := partyKeys partyTaskStatuses fun phase =>
    phase != some .succeeded && phase != some .failed && phase != some .running
  let validPartyCount : Int := trg.parties.length + trg.outOfControlledParties.length
  let minReservedMembers := trg.minReservedMembers
  if minReservedMembers > validPartyCount - failedParty.length then
    let remaining := validPartyCount - failedParty.length
    let pendingText := ",".intercalate pendingParty
    let runningText := ",".intercalate runningParty
    let successfulText := ",".intercalate successfulParty
    let failedText := ",".intercalate failedParty
    { taskStatus with
      phase := some .failed
      message := s!"The remaining no-failed party task counts {remaining} are less than the task success threshold {minReservedMembers}. pending party[{pendingText}], running party[{runningText}], successful party[{successfulText}], failed party[{failedText}]" }
  else if (successfulParty.length : Int) ≥ minReservedMembers then
    { taskStatus with phase := some .succeeded }
  else if runningParty.length > 0 then { taskStatus with phase := some .running }
  else taskStatus

/-- `buildTaskStatusMessage`: the expiry, or the reasons of the conditions
that are not true. -/
def buildTaskStatusMessage (trg : TaskResourceGroup) : String :=
  let expired := trg.conditions.find? fun cond => cond.type = taskResourceGroupExpired
  if (expired.map fun cond => cond.status) = some .conditionTrue then
    let lifecycleSeconds := trg.lifecycleSeconds
    s!"The task was not scheduled within {lifecycleSeconds} seconds of its entire lifecycle"
  else
    let condReason := trg.conditions.foldl (fun condReason cond =>
      if cond.status ≠ .conditionTrue ∧ cond.reason ≠ "" then
        let condType := cond.type
        let reason := cond.reason
        condReason ++ s!"{condType} failed: {reason},"
      else condReason) ""
    Go.TrimSuffix condReason ","

/-- `setTaskStatusPhase`: the task runs while its TaskResourceGroup is on its
way, and fails with it. -/
def setTaskStatusPhase (taskStatus : KusciaTaskStatus) (trg : TaskResourceGroup) : KusciaTaskStatus :=
  match trg.phase with
  | .empty | .pending | .creating | .reserving | .reserveFailed | .reserved =>
    { taskStatus with phase := some .running }
  | .failed =>
    { taskStatus with
      phase := some .failed
      reason := "TaskResourceGroupPhaseFailed"
      message := buildTaskStatusMessage trg }
  | .unknown =>
    { taskStatus with
      phase := some .failed
      reason := "TaskResourceGroupPhaseUnknown"
      message := "Task resource group status phase is unknown" }

/-- The result of a handler: the task, whether its status is to be written,
and its error. -/
abbrev HandlerResult := TaskObject × Bool × Option String

/-- The closing of the running handler and of the pending handler's refresh:
a status that changed, or refreshed resources, are written with the time. -/
def writeIfChanged (now : Int) (task : TaskObject) (taskStatus : KusciaTaskStatus) (refreshed : Bool) :
    TaskObject × Bool :=
  if taskStatus ≠ task.status ∨ refreshed = true then
    ({ task with status := { taskStatus with lastReconcileTime := some now } }, true)
  else (task, false)

/-- `RunningHandler.Handle`. -/
def runningHandle (env : TaskSyncEnv) (task : TaskObject) : HandlerResult :=
  match env.trg with
  | .error err =>
    let name := task.name
    (task, false, some s!"get task resource group {name} failed, {err}")
  | .ok trg =>
    match selfClusterAsParticipant env.namespaces task with
    | .error err => (task, false, some err)
    | .ok asParticipant =>
      let taskStatus := setTaskStatusPhase task.status trg
      -- the parties are counted once the resources are reserved, or while
      -- they are reserved for a cluster that does not initiate
      let refreshTaskStatus := trg.phase = .reserved ∨
        (trg.phase = .reserving ∧
          (!asParticipant ∨ !SelfClusterAsInitiator env.namespaces trg.initiator trg.annotations))
      let taskStatus :=
        if refreshTaskStatus then reconcileTaskStatus env.pods taskStatus trg else taskStatus
      let written := writeIfChanged env.now task taskStatus env.resourcesRefreshed
      (written.1, written.2, none)

/-! ## The pending handler -/

/-- `setPartyTaskStatus`: a party with no recorded status is recorded
pending. -/
def setPartyTaskStatus (statuses : List PartyTaskStatus) (party : PartyInfo) :
    List PartyTaskStatus :=
  if statuses.any fun s => decide (s.IsOf party.domainID party.role) then statuses
  else statuses ++ [⟨party.domainID, party.role, some .pending, ""⟩]

/-- `initPartyTaskStatus`. -/
def initPartyTaskStatus (parties : List PartyInfo) (statuses : List PartyTaskStatus) :
    List PartyTaskStatus :=
  parties.foldl setPartyTaskStatus statuses

/-- `taskFailed`: failed when the parties that have not failed are fewer than
`MinReservedMembers`, all parties when it is not positive. -/
def taskFailed (now : Int) (task : TaskObject) : Option TaskObject :=
  let failedParty := partyKeys task.status.partyTaskStatus fun phase => phase == some .failed
  let minReservedMembers : Int :=
    if task.minReservedMembers ≤ 0 then task.parties.length else task.minReservedMembers
  let remainingParty : Int := task.parties.length - failedParty.length
  if minReservedMembers > remainingParty then
    let failedText := ",".intercalate failedParty
    some { task with status := { task.status with
      phase := some .failed
      message := s!"The remaining no-failed party task counts {remainingParty} are less than the task success threshold {minReservedMembers}. failed party[{failedText}]"
      lastReconcileTime := some now } }
  else none

/-- `taskRunning`: a cluster that takes no part runs the task once another
party reports, and every cluster once one of its pods has started. -/
def taskRunning (env : TaskSyncEnv) (task : TaskObject) : Except String (Option TaskObject) :=
  match selfClusterAsParticipant env.namespaces task with
  | .error err => .error err
  | .ok asParticipant =>
    let running := { task with status := { task.status with
      phase := some .running
      lastReconcileTime := some env.now } }
    if !asParticipant ∧ task.status.partyTaskStatus.any fun s =>
        s.phase != none && s.phase != some .pending then .ok (some running)
    else if env.podStarted then .ok (some running)
    else .ok none

/-- `generateMessageBy`: the reasons of the false conditions. -/
def generateMessageBy (trg : TaskResourceGroup) : String :=
  trg.conditions.foldl (fun message cond =>
    if cond.status = .conditionFalse then message ++ cond.reason ++ "," else message) ""

/-- `taskExpired`: the task fails with its TaskResourceGroup. -/
def taskExpired (env : TaskSyncEnv) (task : TaskObject) : Except String (Option TaskObject) :=
  match env.trg with
  | .error err =>
    let name := task.name
    .error s!"get task resource group {name} failed, {err}"
  | .ok trg =>
    if trg.phase = .failed then
      .ok (some { task with status := { task.status with
        phase := some .failed
        message := generateMessageBy trg
        lastReconcileTime := some env.now } })
    else .ok none

/-- The defaults `prepareTaskResources` writes before anything else. -/
def prepareDefaults (now : Int) (status : KusciaTaskStatus) : KusciaTaskStatus :=
  { status with
    startTime := some (status.startTime.getD now)
    phase := some (status.phase.getD .pending) }

/-- `PendingHandler.Handle`. -/
def pendingHandle (env : TaskSyncEnv) (task : TaskObject) : HandlerResult :=
  let task := { task with status := prepareDefaults env.now task.status }
  match env.prepared with
  | (true, err) => (task, true, err)
  | (false, some err) => (task, false, some err)
  | (false, none) =>
    let curKtStatus := { task.status with
      partyTaskStatus := initPartyTaskStatus task.parties task.status.partyTaskStatus }
    let refreshed := writeIfChanged env.now task curKtStatus env.resourcesRefreshed
    let task := refreshed.1
    match taskFailed env.now task with
    | some failed => (failed, true, none)
    | none =>
      match taskRunning env task with
      | .error err => (task, false, some err)
      | .ok (some running) => (running, true, none)
      | .ok none =>
        match taskExpired env task with
        | .error err => (task, false, some err)
        | .ok (some expired) => (expired, true, none)
        | .ok none => (task, refreshed.2, none)

/-! ## The finished handlers -/

/-- `FinishedHandler.Handle`: the resources are deleted and the completion
time stamped. -/
def finishedHandle (env : TaskSyncEnv) (task : TaskObject) : HandlerResult :=
  match env.deleteTaskResources with
  | some err => (task, false, some err)
  | none => ({ task with status := { task.status with completionTime := some env.now } }, true, none)

/-- `SucceededHandler.Handle`, which drops the error of the finished handler. -/
def succeededHandle (env : TaskSyncEnv) (task : TaskObject) : HandlerResult :=
  match finishedHandle env task with
  | (task, _, some _) => (task, false, none)
  | result => result

/-- `setPartyTaskStatusFailed`: every party fails, or every party that has
not finished when some are recorded. -/
def setPartyTaskStatusFailed (parties : List PartyInfo) (statuses : List PartyTaskStatus) :
    List PartyTaskStatus :=
  if statuses.isEmpty then parties.map fun party => ⟨party.domainID, party.role, some .failed, ""⟩
  else statuses.map fun s =>
    if s.phase = some .pending ∨ s.phase = some .running then { s with phase := some .failed } else s

/-- `FailedHandler.Handle`. -/
def failedHandle (env : TaskSyncEnv) (task : TaskObject) : HandlerResult :=
  finishedHandle env { task with status := { task.status with
    partyTaskStatus := setPartyTaskStatusFailed task.parties task.status.partyTaskStatus } }

/-- `GetKusciaTaskPhaseHandler(phase).Handle`, an empty phase read as
`Pending`. -/
def handlePhase (env : TaskSyncEnv) (task : TaskObject) : HandlerResult :=
  match task.status.phase.getD .pending with
  | .pending => pendingHandle env task
  | .running => runningHandle env task
  | .succeeded => succeededHandle env task
  | .failed => failedHandle env task

/-! ## The sync -/

/-- Whether `syncHandler` leaves the task alone: without annotations or
labels, unschedulable and not failed, terminating, or finished. -/
def skipSync (task : TaskObject) : Bool :=
  task.annotations.isNone || task.labels.isNone ||
    (task.status.phase != some .failed &&
      (task.labels.bind fun labels => labels.lookup labelTaskUnschedulable) == some "true") ||
    task.deleting || task.status.completionTime.isSome

/-- `failKusciaTask`. -/
def failKusciaTask (now : Int) (status : KusciaTaskStatus) (err : String) : KusciaTaskStatus :=
  { status with
    phase := some .failed
    message := s!"KusciaTask failed after 3x retry, last error: {err}"
    lastReconcileTime := some now }

/-- `syncHandler`: the status is written when the handler asks for it (or has
failed past the retry limit) and the write lands. -/
def syncHandler (env : TaskSyncEnv) (preTask : TaskObject) : TaskObject :=
  if skipSync preTask then preTask
  else
    let handled := handlePhase env preTask
    let written : KusciaTaskStatus × Bool :=
      match handled.2.2 with
      | none => (handled.1.status, handled.2.1)
      | some err =>
        if env.numRequeues ≤ maxBackoffLimit then (handled.1.status, false)
        else (failKusciaTask env.now handled.1.status err, true)
    { preTask with status := if written.2 && env.statusUpdateLands then written.1 else preTask.status }

/-- A run of syncs. -/
def runTask (task : TaskObject) (envs : List TaskSyncEnv) : TaskObject :=
  envs.foldl (fun task env => syncHandler env task) task

end Kuscia.KusciaTaskHandler
