import Mathlib
import Kuscia.KusciaJobParallelism
import Kuscia.KusciaJobValidate
import Kuscia.JobStageSync

namespace Kuscia.JobScheduler

open Kuscia.InterConnKuscia (JobStage GetJobStage)

/-!
# The KusciaJob controller's phase machine

`syncHandler` (`controller.go`) reads a `KusciaJob`, hands it to the handler
of its phase (`factory.go`) and writes the status back when the handler asks
for it.  The handlers of the phases a party can still steer
(`AwaitingApproval`, `Pending`, `Running`, `Suspended`, `Failed`) first run
`handleStageCommand` (`scheduler.go`), which acts on the stage command the
job's labels carry: `Start`, `Stop`, `Cancel`, `Restart` or `Suspend`.

What a sync reads from outside the job is a `SyncEnv`: the clock, the domain
and namespace listers, the subtasks the task lister returns, and the answer of
each API call the sync makes.  The API writes a sync makes besides the status
land on the job too: the stage labels of `setJobStage`, the annotations of
`annotateKusciaJob` and the task IDs of `setJobTaskID`.  What a sync does to
other objects (creating, stopping or deleting KusciaTasks) is read back by a
later sync through the subtasks it lists.

Go iterates a map in an unspecified order.  The loops over the job's parties
run here in the order of `getParties`; only the party a reason names, and the
order of the domains an interconnection annotation lists, depend on it.
-/

/-! ## The job -/

/-- `JobStagePhase`: what a party reports for the last stage command. -/
inductive JobStagePhase where
  | createSucceeded
  | createFailed
  | startSucceeded
  | startFailed
  | restartSucceeded
  | restartFailed
  | stopSucceeded
  | stopFailed
  | cancelSucceeded
  | cancelFailed
  | suspendSucceeded
  | suspendFailed
  deriving Repr, DecidableEq

/-- `JobApprovePhase`. -/
inductive JobApprovePhase where
  | rejected
  | accepted
  deriving Repr, DecidableEq

/-- `KusciaJobStatus`, with the fields the controller reads or writes.  Of the
conditions only `JobValidated` is read, and only for its status: `some true`
for `True`, `some false` for `False`, and `none` when it is absent (an
`Unknown` status reads as absent in both places that look at it).
`TaskStatus` is keyed by task ID. -/
structure KusciaJobStatus where
  phase : KusciaJobPhase
  approveStatus : Go.Map String JobApprovePhase
  stageStatus : Go.Map String JobStagePhase
  validated : Option Bool
  reason : String
  message : String
  taskStatus : TaskStatusMap
  startTime : Option Int
  completionTime : Option Int
  lastReconcileTime : Option Int

/-- A `KusciaJob` as its controller reads and writes it: its name, labels,
spec, the domain of every party of every task (in task order), and status. -/
structure JobObject where
  name : String
  labels : Go.Map String String
  spec : KusciaJob
  parties : List String
  status : KusciaJobStatus

/-- `common.LabelJobStage`. -/
def labelJobStage : String := "kuscia.secretflow/job-stage"

/-- `common.LabelJobStageTrigger`. -/
def labelJobStageTrigger : String := "kuscia.secretflow/job-stage-trigger"

/-- `common.LabelJobStageVersion`. -/
def labelJobStageVersion : String := "kuscia.secretflow/job-stage-version"

/-- `common.InitiatorAnnotationKey`. -/
def initiatorAnnotationKey : String := "kuscia.secretflow/initiator"

/-- `common.SelfClusterAsInitiatorAnnotationKey`. -/
def selfClusterAsInitiatorAnnotationKey : String :=
  "kuscia.secretflow/self-cluster-as-initiator"

/-- `common.InterConnSelfPartyAnnotationKey`. -/
def interConnSelfPartyAnnotationKey : String := "kuscia.secretflow/interconn-self-parties"

/-- `DomainRole` `Partner`. -/
def partnerRole : String := "partner"

/-- `maxBackoffLimit` (`controller.go`). -/
def maxBackoffLimit : Nat := 3

/-! ## What a sync reads -/

/-- A namespace as the job controller reads it: its `LabelDomainRole` and
`LabelInterConnProtocols` labels. -/
structure Namespace where
  role : Option String
  interConnProtocol : Option String

/-- The answer of `Create` for one subtask in `handleRunning`. -/
inductive CreateAnswer where
  /-- The task is created. -/
  | created
  /-- `AlreadyExists`, and the task found carries this job's UID label. -/
  | ownedByJob
  /-- `AlreadyExists`, and the task found carries no or another job's UID label. -/
  | ownedByOther
  /-- `AlreadyExists`, and reading the existing task fails. -/
  | getFailed (err : String)
  /-- Any other error. -/
  | failed (err : String)

/-- What one sync reads from outside the job. -/
structure SyncEnv where
  /-- `metav1.Now()`. -/
  now : Int
  /-- `domainLister.Get`: the domain's `Spec.Role`, or `none` when the lister fails. -/
  domainRole : String → Option String
  /-- `namespaceLister.Get`. -/
  namespaces : String → Except String Namespace
  /-- `Dependencies.EnableWorkloadApprove`. -/
  enableWorkloadApprove : Bool
  /-- The error of `UpdateKusciaJob` (the annotation or task-ID write). -/
  updateKusciaJob : Option String
  /-- The last part of the UUID `generateTaskID` draws for a task. -/
  uuidSuffix : KusciaTaskTemplate → String
  /-- The error of `stopTasks`. -/
  stopTasks : Option String
  /-- The error of `deleteNotSuccessTasks`. -/
  deleteNotSuccessTasks : Option String
  /-- The error of `setJobStage` (its `Get` or `Update`). -/
  setJobStage : Option String
  /-- The subtasks the task lister returns: name and phase (`none` for an
  empty phase), or the lister's error. -/
  subTasks : Except String (List (String × Option KusciaTaskPhase))
  /-- The error of `selfClusterAsParticipant` for a subtask. -/
  selfClusterAsParticipant : KusciaTaskTemplate → Option String
  /-- The answer of `Create` for a subtask. -/
  createTask : KusciaTaskTemplate → CreateAnswer
  /-- `workqueue.NumRequeues(key)`. -/
  numRequeues : Nat
  /-- Whether `UpdateKusciaJobStatus` lands (a conflict is dropped, another
  error returned). -/
  statusUpdateLands : Bool

/-! ## Helpers of `scheduler.go` -/

/-- `getParties`: the keys of the party map. -/
def getParties (job : JobObject) : List String :=
  job.parties.dedup

/-- `getAllParties`, of which callers keep the own parties: the parties whose
domain is no partner, and none at all when some domain cannot be read. -/
def getAllParties (domainRole : String → Option String) (job : JobObject) : List String :=
  let parties := getParties job
  if parties.all fun p => (domainRole p).isSome then
    parties.filter fun p => domainRole p != some partnerRole
  else []

/-- The loop of `allApprovalAccept`, `allPartyCreateSuccess` and
`allPartyStartSuccess`: every party's domain can be read and the party
passes. -/
def allPartiesPass (domainRole : String → Option String) (parties : List String)
    (passes : String → Bool) : Bool :=
  parties.all fun p => (domainRole p).isSome && passes p

/-- The loop of `someApprovalReject`, `somePartyCreateFailed` and
`somePartyStartFailed`: the first party whose domain cannot be read or that
fails, reported when its domain was read. -/
def somePartyFails (domainRole : String → Option String) (parties : List String)
    (fails : String → Bool) : Bool × String :=
  match parties.find? fun p => (domainRole p).isNone || fails p with
  | some p => if (domainRole p).isSome then (true, p) else (false, "")
  | none => (false, "")

/-- `allApprovalAccept`: the initiator counts as accepted. -/
def allApprovalAccept (env : SyncEnv) (job : JobObject) : Bool :=
  allPartiesPass env.domainRole (getParties job) fun p =>
    p == job.spec.initiator || job.status.approveStatus.lookup p == some .accepted

/-- `someApprovalReject`. -/
def someApprovalReject (env : SyncEnv) (job : JobObject) : Bool × String :=
  somePartyFails env.domainRole (getParties job) fun p =>
    p != job.spec.initiator && job.status.approveStatus.lookup p == some .rejected

/-- `allPartyCreateSuccess`. -/
def allPartyCreateSuccess (env : SyncEnv) (job : JobObject) : Bool :=
  allPartiesPass env.domainRole (getParties job) fun p =>
    job.status.stageStatus.lookup p == some .createSucceeded ||
      job.status.stageStatus.lookup p == some .startSucceeded

/-- `somePartyCreateFailed`. -/
def somePartyCreateFailed (env : SyncEnv) (job : JobObject) : Bool × String :=
  somePartyFails env.domainRole (getParties job) fun p =>
    job.status.stageStatus.lookup p == some .createFailed

/-- `allPartyStartSuccess`. -/
def allPartyStartSuccess (env : SyncEnv) (job : JobObject) : Bool :=
  allPartiesPass env.domainRole (getParties job) fun p =>
    job.status.stageStatus.lookup p == some .startSucceeded

/-- `somePartyStartFailed`. -/
def somePartyStartFailed (env : SyncEnv) (job : JobObject) : Bool × String :=
  somePartyFails env.domainRole (getParties job) fun p =>
    job.status.stageStatus.lookup p == some .startFailed ||
      job.status.stageStatus.lookup p == some .createFailed

/-- `isAllPartyRestartComplete`: every party has reported the restart stage. -/
def isAllPartyRestartComplete (job : JobObject) : Bool :=
  (getParties job).all fun p =>
    job.status.stageStatus.lookup p == some .restartFailed ||
      job.status.stageStatus.lookup p == some .restartSucceeded

/-- A `for p := range ownP { StageStatus[p] = phase }` loop. -/
def setStageStatus (parties : List String) (phase : JobStagePhase)
    (stageStatus : Go.Map String JobStagePhase) : Go.Map String JobStagePhase :=
  parties.foldl (fun stageStatus p => stageStatus.insert p phase) stageStatus

/-- A `for p := range ownP { ApproveStatus[p] = phase }` loop. -/
def setApproveStatus (parties : List String) (phase : JobApprovePhase)
    (approveStatus : Go.Map String JobApprovePhase) : Go.Map String JobApprovePhase :=
  parties.foldl (fun approveStatus p => approveStatus.insert p phase) approveStatus

/-- `getStageCmd`: the stage label, the trigger label, and whether the trigger
label is present (the second lookup overwrites the flag of the first). -/
def getStageCmd (labels : Go.Map String String) : String × String × Bool :=
  ((labels.lookup labelJobStage).getD "", (labels.lookup labelJobStageTrigger).getD "",
    (labels.lookup labelJobStageTrigger).isSome)

/-- The stage command a sync acts on: the stage its labels name, when
`getStageCmd` reports the labels present. -/
def stageCommand (labels : Go.Map String String) : Option JobStage :=
  let (stageCmd, _, ok) := getStageCmd labels
  if ok then some (GetJobStage stageCmd) else none

/-- The stage register of the labels, read as `GetObjectLabel` reads them. -/
def stageRegister (job : JobObject) : Kuscia.InterConnKuscia.KusciaJob where
  stageVersion := (job.labels.lookup labelJobStageVersion).getD ""
  stage := (job.labels.lookup labelJobStage).getD ""
  stageTrigger := (job.labels.lookup labelJobStageTrigger).getD ""
  phase := job.status.phase

/-- `JobScheduler.setJobStage`: the stage, its trigger and the next version
written to the job's labels. -/
def setJobStage (job : JobObject) (trigger stage : String) : Go.Map String String :=
  let written := Kuscia.InterConnKuscia.JobScheduler.setJobStage (stageRegister job) trigger stage
  ((job.labels.insert labelJobStage written.stage).insert labelJobStageTrigger
    written.stageTrigger).insert labelJobStageVersion written.stageVersion

/-- `setKusciaJobStatus`. -/
def setKusciaJobStatus (now : Int) (status : KusciaJobStatus) (phase : KusciaJobPhase)
    (reason message : String) : KusciaJobStatus :=
  { status with
    phase := phase
    reason := reason
    message := message
    lastReconcileTime := some now
    startTime := some (status.startTime.getD now) }

/-- `setRunningTaskStatusToFailed`. -/
def setRunningTaskStatusToFailed (taskStatus : TaskStatusMap) : TaskStatusMap :=
  taskStatus.mapValues fun v => if v = .pending ∨ v = .running then .failed else v

/-- `deleteNotSuccessTasks`, once every deletion succeeded: the status keeps
the succeeded subtasks. -/
def deleteNotSuccessTasks (taskStatus : TaskStatusMap) : TaskStatusMap :=
  taskStatus.filter fun _ phase => phase == .succeeded

/-- `updateJobTime`, deferred by the handlers of the early phases. -/
def updateJobTime (now : Int) (status : KusciaJobStatus) : KusciaJobStatus :=
  let status := { status with
    startTime := some (status.startTime.getD now)
    lastReconcileTime := some now }
  if status.phase = .approvalReject ∧ status.completionTime = none then
    { status with completionTime := some now }
  else status

/-- `SelfClusterAsInitiator` (`utils/resources`): the annotation decides, and
without it the initiator's namespace. -/
def SelfClusterAsInitiator (namespaces : String → Except String Namespace)
    (domainID : String) (annotations : Go.Map String String) : Bool :=
  if annotations.lookup selfClusterAsInitiatorAnnotationKey = some "true" then true
  else if annotations.lookup selfClusterAsInitiatorAnnotationKey = some "false" then false
  else
    match namespaces domainID with
    | .error _ => false
    | .ok ns => ns.role != some partnerRole

/-- `SelfClusterIsInitiator` (`interconn/kuscia/common`), whose error callers
read as `false`. -/
def SelfClusterIsInitiator (domainRole : String → Option String)
    (annotations : Go.Map String String) : Bool :=
  let initiator := (annotations.lookup initiatorAnnotationKey).getD ""
  if annotations.size = 0 ∨ initiator = "" then false
  else if annotations.lookup selfClusterAsInitiatorAnnotationKey = some "false" then false
  else if annotations.lookup selfClusterAsInitiatorAnnotationKey = some "true" then true
  else
    match domainRole initiator with
    | none => false
    | some role => role != partnerRole

/-- `isBFIAInterConnJob`: the job has labels and the BFIA party annotation. -/
def isBFIAInterConnJob (job : JobObject) : Bool :=
  job.labels.size != 0 && (job.spec.annotations.lookup interConnBFIAPartyAnnotationKey).isSome

/-! ## Stage commands -/

/-- The result of a handler: the job, whether its status is to be written
(`hasReconciled` or `needUpdate`), and its error. -/
abbrev HandlerResult := JobObject × Bool × Option String

/-- `handleStageCmdStart`: the own parties report the start stage. -/
def handleStageCmdStart (env : SyncEnv) (job : JobObject) : HandlerResult :=
  let ownP := getAllParties env.domainRole job
  let pending := ownP.filter fun p => job.status.stageStatus.lookup p != some .startSucceeded
  ({ job with status := { job.status with
      stageStatus := setStageStatus pending .startSucceeded job.status.stageStatus } },
    !pending.isEmpty, none)

/-- `handleStageCmdRestart`. -/
def handleStageCmdRestart (env : SyncEnv) (job : JobObject) : HandlerResult :=
  let (cmd, cmdTrigger, _) := getStageCmd job.labels
  if job.status.validated = some false then (job, false, none)
  else if job.status.phase = .failed ∨ job.status.phase = .suspended then
    -- a failed or suspended job runs again without its unsucceeded subtasks
    let status := { job.status with
      phase := .running
      completionTime := none
      message := s!"This job is restarted by {cmdTrigger}"
      reason := s!"Party: {cmdTrigger} execute the cmd: {cmd}." }
    let (status, partyStage) : KusciaJobStatus × JobStagePhase :=
      match env.deleteNotSuccessTasks with
      | some deleteErr =>
        ({ status with
            message := s!"Restart this job and delete the \x27failed\x27 phase task failed, error: {deleteErr}." },
          .restartFailed)
      | none => ({ status with taskStatus := deleteNotSuccessTasks status.taskStatus }, .restartSucceeded)
    let ownP := getAllParties env.domainRole job
    ({ job with status := { status with
        stageStatus := setStageStatus ownP partyStage status.stageStatus } }, true, none)
  else if job.status.phase = .running then
    -- the restart is complete once every party reported it; the initiator
    -- then turns the stage to `Start`
    if !isAllPartyRestartComplete job then (job, true, none)
    else if SelfClusterIsInitiator env.domainRole job.spec.annotations then
      match env.setJobStage with
      | some err => (job, true, some err)
      | none => ({ job with labels := setJobStage job job.spec.initiator "Start" }, true, none)
    else (job, false, none)
  else (job, false, none)

/-- The common part of `handleStageCmdStop` and `handleStageCmdCancelled`:
stop the subtasks, report the stage, fail the unfinished subtasks, move the
phase and stamp the completion time. -/
def stopJob (env : SyncEnv) (job : JobObject) (stageStatus : JobStagePhase)
    (phase : KusciaJobPhase) : HandlerResult :=
  let (cmd, cmdTrigger, _) := getStageCmd job.labels
  let ownP := getAllParties env.domainRole job
  match env.stopTasks with
  | some err => (job, false, some err)
  | none =>
    let reason := s!"Party: {cmdTrigger} execute the cmd: {cmd}."
    let status := setKusciaJobStatus env.now
      { job.status with
        stageStatus := setStageStatus ownP stageStatus job.status.stageStatus
        taskStatus := setRunningTaskStatusToFailed job.status.taskStatus }
      phase reason reason
    ({ job with status := { status with
        completionTime := some (status.completionTime.getD env.now) } }, true, none)

/-- `handleStageCmdStop`: nothing for a cancelled job or a failed one that is
complete. -/
def handleStageCmdStop (env : SyncEnv) (job : JobObject) : HandlerResult :=
  if job.status.phase = .cancelled ∨
      (job.status.phase = .failed ∧ job.status.completionTime.isSome) then
    (job, false, none)
  else stopJob env job .stopSucceeded .failed

/-- `handleStageCmdCancelled`: nothing for a cancelled job that is complete. -/
def handleStageCmdCancelled (env : SyncEnv) (job : JobObject) : HandlerResult :=
  if job.status.phase = .cancelled ∧ job.status.completionTime.isSome then (job, false, none)
  else stopJob env job .cancelSucceeded .cancelled

/-- `handleStageCmdSuspend`: a running job stops its subtasks and is
suspended; its subtasks' status is left to the `Suspended` handler. -/
def handleStageCmdSuspend (env : SyncEnv) (job : JobObject) : HandlerResult :=
  if job.status.phase ≠ .running then (job, false, none)
  else
    let (cmd, cmdTrigger, _) := getStageCmd job.labels
    let ownP := getAllParties env.domainRole job
    match env.stopTasks with
    | some err => (job, false, some err)
    | none =>
      let reason := s!"Party: {cmdTrigger} execute the cmd: {cmd}."
      let status := setKusciaJobStatus env.now
        { job.status with stageStatus := setStageStatus ownP .suspendSucceeded job.status.stageStatus }
        .suspended reason ""
      ({ job with status := status }, true, none)

/-- `handleStageCommand`. -/
def handleStageCommand (env : SyncEnv) (job : JobObject) : HandlerResult :=
  match stageCommand job.labels with
  | some .start => handleStageCmdStart env job
  | some .stop => handleStageCmdStop env job
  | some .cancel => handleStageCmdCancelled env job
  | some .restart => handleStageCmdRestart env job
  | some .suspend => handleStageCmdSuspend env job
  | _ => (job, false, none)

/-- How the handlers of the steerable phases open: the stage command first,
and the rest of the handler only when the command neither failed nor
reconciled. -/
def afterStageCommand (env : SyncEnv) (job : JobObject)
    (rest : JobObject → HandlerResult) : HandlerResult :=
  match handleStageCommand env job with
  | (job, false, none) => rest job
  | result => result

/-- A handler whose `defer updateJobTime(now, job)` stamps the times on the
job it returns. -/
def withUpdateJobTime (now : Int) : HandlerResult → HandlerResult
  | (job, needUpdate, err) => ({ job with status := updateJobTime now job.status }, needUpdate, err)

/-! ## The handlers of the phases -/

/-- `validateJob`: the new status and whether the job passed. -/
def validateJob (env : SyncEnv) (job : JobObject) : KusciaJobStatus × Bool :=
  if job.status.validated = some true then (job.status, true)
  else
    match kusciaJobValidate (fun d => (env.namespaces d).map fun _ => ()) job.spec with
    | .ok () => ({ job.status with validated := some true }, true)
    | .error _ =>
      (setKusciaJobStatus env.now { job.status with validated := some false } .failed
        "ValidateFailed" "", false)

/-- `annotateSelfClusterAsInitiator`. -/
def annotateSelfClusterAsInitiator (env : SyncEnv) (spec : KusciaJob) :
    Except String (Go.Map String String) :=
  match env.namespaces spec.initiator with
  | .error err => .error err
  | .ok ns =>
    if ns.role = some partnerRole then
      .ok (spec.annotations.insert selfClusterAsInitiatorAnnotationKey "false")
    else
      .ok ((spec.annotations.insert selfClusterAsInitiatorAnnotationKey "true").insert
        initiatorAnnotationKey spec.initiator)

/-- `domainListToString`. -/
def domainListToString (domains : List String) : String :=
  domains.foldl (fun labelValue v => if labelValue = "" then v else labelValue ++ "_" ++ v) ""

/-- Sets an annotation to the domains of a list that is not empty. -/
def annotateDomains (key : String) (domains : List String)
    (annotations : Go.Map String String) : Go.Map String String :=
  if domains.isEmpty then annotations else annotations.insert key (domainListToString domains)

/-- `annotateInterConn`: a partner domain is listed under its protocol (only
when this cluster initiates), every other domain as one of the own. -/
def annotateInterConn (env : SyncEnv) (spec : KusciaJob) (parties : List String) :
    Except String (Go.Map String String) :=
  match parties.mapM fun p => (env.namespaces p).map fun ns => (p, ns) with
  | .error err => .error err
  | .ok found =>
    let initiatorSide := SelfClusterAsInitiator env.namespaces spec.initiator spec.annotations
    let partners := if initiatorSide then found.filter fun f => f.2.role = some partnerRole else []
    let bfiaDomainList := (partners.filter fun f => f.2.interConnProtocol = some "bfia").map Prod.fst
    let kusciaDomainList := (partners.filter fun f => f.2.interConnProtocol ≠ some "bfia").map Prod.fst
    let selfDomainList := (found.filter fun f => f.2.role ≠ some partnerRole).map Prod.fst
    .ok (spec.annotations
      |> annotateDomains interConnBFIAPartyAnnotationKey bfiaDomainList
      |> annotateDomains interConnKusciaPartyAnnotationKey kusciaDomainList
      |> annotateDomains interConnSelfPartyAnnotationKey selfDomainList)

/-- `annotateKusciaJob`: the job with the annotations written, whether it
wrote them, and the error. -/
def annotateKusciaJob (env : SyncEnv) (job : JobObject) (ownParties : List String) :
    JobObject × Bool × Option String :=
  let annotations := job.spec.annotations
  if (annotations.lookup interConnSelfPartyAnnotationKey).isSome then (job, false, none)
  else if ownParties.isEmpty ∧ (annotations.lookup selfClusterAsInitiatorAnnotationKey).isSome then
    (job, false, none)
  else
    match annotateSelfClusterAsInitiator env job.spec with
    | .error err => (job, false, some err)
    | .ok annotations =>
      match annotateInterConn env { job.spec with annotations := annotations } (getParties job) with
      | .error err => (job, false, some err)
      | .ok annotations =>
        match env.updateKusciaJob with
        | some err => (job, true, some err)
        | none => ({ job with spec := { job.spec with annotations := annotations } }, true, none)

/-- `handleInitialized`, before its deferred `updateJobTime`. -/
def handleInitializedBody (env : SyncEnv) (job : JobObject) : HandlerResult :=
  let validated := validateJob env job
  let job := { job with status := validated.1 }
  if !validated.2 then (job, true, none)
  else
    let ownP := getAllParties env.domainRole job
    match annotateKusciaJob env job ownP with
    | (job, _, some err) => (job, true, some err)
    | (job, true, none) => (job, false, none)
    | (job, false, none) =>
      let approveStatus :=
        if SelfClusterAsInitiator env.namespaces job.spec.initiator job.spec.annotations then
          setApproveStatus ownP .accepted job.status.approveStatus
        else job.status.approveStatus
      ({ job with status := { job.status with
          stageStatus := setStageStatus ownP .createSucceeded job.status.stageStatus
          approveStatus := approveStatus
          phase := if isInterConnJob job.spec then .awaitingApproval else .pending } },
        true, none)

/-- `handleInitialized`. -/
def handleInitialized (env : SyncEnv) (job : JobObject) : HandlerResult :=
  withUpdateJobTime env.now (handleInitializedBody env job)

/-- The opening of `handleAwaitingApproval` after the stage command: a partner
cluster approves its own parties itself unless approval is manual.  The job,
and whether an approval was written. -/
def autoApprove (env : SyncEnv) (job : JobObject) : JobObject × Bool :=
  if !SelfClusterIsInitiator env.domainRole job.spec.annotations && !env.enableWorkloadApprove then
    let ownP := getAllParties env.domainRole job
    ({ job with status := { job.status with
        approveStatus := setApproveStatus ownP .accepted job.status.approveStatus } },
      !ownP.isEmpty)
  else (job, false)

/-- The part of `handleAwaitingApproval` after the stage command. -/
def awaitApproval (env : SyncEnv) (job : JobObject) : HandlerResult :=
  let approved := autoApprove env job
  let accepted := allApprovalAccept env approved.1
  let job := if accepted then
      { approved.1 with status := { approved.1.status with phase := .pending } }
    else approved.1
  match someApprovalReject env job with
  | (true, p) =>
    ({ job with status := { job.status with
        phase := .approvalReject
        reason := s!"Party: {p} approval reject." } }, true, none)
  | (false, _) => (job, approved.2 || accepted, none)

/-- `handleAwaitingApproval`. -/
def handleAwaitingApproval (env : SyncEnv) (job : JobObject) : HandlerResult :=
  withUpdateJobTime env.now (afterStageCommand env job (awaitApproval env))

/-- A pending job moves on: `Running` when every party passed, `Failed` when
one failed. -/
def movePending (job : JobObject) (allPass : Bool) (someFail : Bool × String) :
    Option HandlerResult :=
  if allPass then some ({ job with status := { job.status with phase := .running } }, true, none)
  else
    match someFail with
    | (true, p) =>
      some ({ job with status := { job.status with
          reason := s!"Party: {p} start failed."
          phase := .failed } }, true, none)
    | (false, _) => none

/-- The part of `handlePending` after the stage command: a BFIA job waits for
its parties' start stage, and then every job for their create stage. -/
def startPending (env : SyncEnv) (job : JobObject) : HandlerResult :=
  let bfia := if isBFIAInterConnJob job then
      movePending job (allPartyStartSuccess env job) (somePartyStartFailed env job)
    else none
  match bfia with
  | some result => result
  | none =>
    (movePending job (allPartyCreateSuccess env job) (somePartyCreateFailed env job)).getD
      (job, false, none)

/-- `handlePending`. -/
def handlePending (env : SyncEnv) (job : JobObject) : HandlerResult :=
  withUpdateJobTime env.now (afterStageCommand env job (startPending env))

/-- `generateTaskID`. -/
def generateTaskID (jobName uuidSuffix : String) : String :=
  jobName ++ "-" ++ uuidSuffix

/-- `setJobTaskID`: whether some task has no ID, and the tasks with IDs. -/
def setJobTaskID (env : SyncEnv) (job : JobObject) : Bool × List KusciaTaskTemplate :=
  (job.spec.tasks.any fun t => t.taskID = "",
    job.spec.tasks.map fun t =>
      if t.taskID = "" then { t with taskID := generateTaskID job.name (env.uuidSuffix t) } else t)

/-- `buildJobSubTaskStatus`: the listed subtasks' phases by alias and by task
ID, an empty phase read as `Pending`. -/
def buildJobSubTaskStatus (listed : List (String × Option KusciaTaskPhase)) (spec : KusciaJob) :
    TaskStatusMap × TaskStatusMap :=
  listed.foldl (fun maps subTask =>
    spec.tasks.foldl (fun maps task =>
      if task.taskID = subTask.1 then
        (maps.1.insert task.taskAlias (subTask.2.getD .pending),
          maps.2.insert task.taskID (subTask.2.getD .pending))
      else maps) maps) (∅, ∅)

/-- `updateJobSubTaskStatus`.  The stored map has come through the API, which
drops an empty map, so an empty stored map is `nil` and `reflect.DeepEqual`
tells it from the built map, which never is. -/
def updateJobSubTaskStatus (kjStatus : KusciaJobStatus) (currentSubTasksStatus : TaskStatusMap) :
    KusciaJobStatus × Bool :=
  if kjStatus.taskStatus.size != 0 && kjStatus.taskStatus.deepEqual currentSubTasksStatus then
    (kjStatus, false)
  else ({ kjStatus with taskStatus := currentSubTasksStatus }, true)

/-- `buildWillStartKusciaTask`, of which the tasks are kept as their
templates. -/
def buildWillStartKusciaTask (env : SyncEnv) (willStartTask : List KusciaTaskTemplate) :
    Except String (List KusciaTaskTemplate) :=
  willStartTask.mapM fun t =>
    match env.selfClusterAsParticipant t with
    | some err => .error err
    | none => .ok t

/-- How the create loop of `handleRunning` ends. -/
inductive CreateOutcome where
  | allCreated
  /-- The job fails with `CreateTaskFailed` and this message. -/
  | jobFailed (message : String)
  /-- The loop returns this error. -/
  | createError (err : String)

/-- The create loop of `handleRunning`. -/
def createTasks (createTask : KusciaTaskTemplate → CreateAnswer) :
    List KusciaTaskTemplate → CreateOutcome
  | [] => .allCreated
  | t :: rest =>
    match createTask t with
    | .created => createTasks createTask rest
    | .ownedByJob => createTasks createTask rest
    | .ownedByOther =>
      let name := t.taskID
      .jobFailed s!"Failed to create task {name} because of a task with the same name already exists"
    | .getFailed err => .jobFailed err
    | .failed err => .createError err

/-- `buildJobStatus`. -/
def buildJobStatus (now : Int) (kjStatus : KusciaJobStatus)
    (currentJobStatusPhase : KusciaJobPhase) : KusciaJobStatus × Bool :=
  let needUpdate := kjStatus.phase != currentJobStatusPhase
  let kjStatus := { kjStatus with phase := currentJobStatusPhase }
  if currentJobStatusPhase = .succeeded ∧ kjStatus.completionTime = none then
    ({ kjStatus with completionTime := some now }, true)
  else (kjStatus, needUpdate)

/-- The scheduling part of `handleRunning`: the listed subtasks decide the
job's phase, and the ready subtasks are created unless that phase is final. -/
def scheduleRunning (env : SyncEnv) (job : JobObject) : HandlerResult :=
  match env.subTasks with
  | .error err => (job, false, some err)
  | .ok listed =>
    -- the listed subtasks' phases by alias and by task ID
    let subTaskStatus := buildJobSubTaskStatus listed job.spec
    let currentJobPhase := jobStatusPhaseFrom job.spec subTaskStatus.1
    let updated := updateJobSubTaskStatus job.status subTaskStatus.2
    let job := { job with status := updated.1 }
    let built := buildJobStatus env.now job.status currentJobPhase
    let finish : HandlerResult := ({ job with status := built.1 }, updated.2 || built.2, none)
    if currentJobPhase != .failed && currentJobPhase != .succeeded then
      let willStartTask :=
        willStartTasksOf job.spec (readyTasksOf job.spec subTaskStatus.1) subTaskStatus.1
      match buildWillStartKusciaTask env willStartTask with
      | .error err => (job, updated.2, some err)
      | .ok tasks =>
        match createTasks env.createTask tasks with
        | .allCreated => finish
        | .jobFailed message =>
          ({ job with status := setKusciaJobStatus env.now job.status .failed "CreateTaskFailed" message },
            true, none)
        | .createError err => (job, true, some err)
    else finish

/-- The part of `handleRunning` after the stage command: an initiator first
gives every task an ID. -/
def runRunning (env : SyncEnv) (job : JobObject) : HandlerResult :=
  let (needSetTaskID, tasks) := setJobTaskID env job
  if SelfClusterAsInitiator env.namespaces job.spec.initiator job.spec.annotations ∧ needSetTaskID then
    match env.updateKusciaJob with
    | some err => (job, false, some err)
    | none => ({ job with spec := { job.spec with tasks := tasks } }, false, none)
  else scheduleRunning env job

/-- `handleRunning`. -/
def handleRunning (env : SyncEnv) (job : JobObject) : HandlerResult :=
  withUpdateJobTime env.now (afterStageCommand env job (runRunning env))

/-- The loop of the `Suspended` handler, which fails every unfinished subtask. -/
def failUnfinishedTasks (taskStatus : TaskStatusMap) : TaskStatusMap :=
  taskStatus.mapValues fun phase =>
    if phase ≠ .failed ∧ phase ≠ .succeeded then .failed else phase

/-- `SuspendedHandler.HandlePhase`. -/
def handleSuspended (env : SyncEnv) (job : JobObject) : HandlerResult :=
  afterStageCommand env job fun job =>
    ({ job with status := { job.status with taskStatus := failUnfinishedTasks job.status.taskStatus } },
      job.status.taskStatus.anyMatch (fun phase => phase ≠ .failed ∧ phase ≠ .succeeded), none)

/-- `FailedHandler.HandlePhase`: a failed job that is not complete yet stops
its subtasks and is stamped complete. -/
def handleFailed (env : SyncEnv) (job : JobObject) : HandlerResult :=
  afterStageCommand env job fun job =>
    if job.status.completionTime.isSome then (job, false, none)
    else
      match env.stopTasks with
      | some err => (job, false, some err)
      | none =>
        ({ job with status := { job.status with
            taskStatus := setRunningTaskStatusToFailed job.status.taskStatus
            completionTime := some env.now } }, true, none)

/-- `SucceededHandler.HandlePhase`. -/
def handleSucceeded (env : SyncEnv) (job : JobObject) : HandlerResult :=
  ({ job with status := { job.status with
      completionTime := some (job.status.completionTime.getD env.now) } }, true, none)

/-- `handleApprovalReject` and `handleCancelled`: a job in a final phase is
stamped complete once. -/
def completeFinal (env : SyncEnv) (job : JobObject) : HandlerResult :=
  if job.status.completionTime = none then
    ({ job with status := { job.status with completionTime := some env.now } }, true, none)
  else (job, false, none)

/-- `handleApprovalReject`. -/
def handleApprovalReject (env : SyncEnv) (job : JobObject) : HandlerResult :=
  completeFinal env job

/-- `handleCancelled`. -/
def handleCancelled (env : SyncEnv) (job : JobObject) : HandlerResult :=
  completeFinal env job

/-- `KusciaJobPhaseHandlerFor(phase).HandlePhase`. -/
def HandlePhase (env : SyncEnv) (job : JobObject) : HandlerResult :=
  match job.status.phase with
  | .initialized => handleInitialized env job
  | .awaitingApproval => handleAwaitingApproval env job
  | .pending => handlePending env job
  | .running => handleRunning env job
  | .suspended => handleSuspended env job
  | .succeeded => handleSucceeded env job
  | .failed => handleFailed env job
  | .approvalReject => handleApprovalReject env job
  | .cancelled => handleCancelled env job

/-! ## The sync -/

/-- `ShouldReconcile`: a job in a final phase that is complete is left alone. -/
def ShouldReconcile (status : KusciaJobStatus) : Bool :=
  !((status.phase = .approvalReject ∨ status.phase = .cancelled ∨ status.phase = .succeeded) ∧
    status.completionTime.isSome)

/-- `failKusciaJob`. -/
def failKusciaJob (now : Int) (status : KusciaJobStatus) (err : String) : KusciaJobStatus :=
  { status with
    startTime := some (status.startTime.getD now)
    phase := .failed
    message := s!"KusciaJob failed after 3x retry, last error: {err}"
    completionTime := some now
    lastReconcileTime := some now }

/-- `syncHandler`: the status is written when the handler asks for it (or
has failed past the retry limit) and the write lands; the handler's other API
writes stand either way. -/
def syncHandler (env : SyncEnv) (preJob : JobObject) : JobObject :=
  if !ShouldReconcile preJob.status then preJob
  else
    let (curJob, needUpdate, err) := HandlePhase env preJob
    let (status, needUpdate) : KusciaJobStatus × Bool :=
      match err with
      | none => (curJob.status, needUpdate)
      | some err =>
        if env.numRequeues ≤ maxBackoffLimit then (curJob.status, false)
        else (failKusciaJob env.now curJob.status err, true)
    { curJob with status := if needUpdate && env.statusUpdateLands then status else preJob.status }

/-- What happens to a job: a sync of its controller, or a write of its labels
(a stage command of the API, a stage copied from a job summary, or the
controller's own `setJobStage`). -/
inductive JobEvent where
  | sync (env : SyncEnv)
  | relabel (labels : Go.Map String String)

/-- One event. -/
def jobStep (job : JobObject) : JobEvent → JobObject
  | .sync env => syncHandler env job
  | .relabel labels => { job with labels := labels }

/-- A run of events. -/
def runJob (job : JobObject) (events : List JobEvent) : JobObject :=
  events.foldl jobStep job

end Kuscia.JobScheduler
