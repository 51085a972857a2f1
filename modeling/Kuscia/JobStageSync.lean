import Mathlib
import Kuscia.KusciaJobSpec
import Kuscia.GoStrconv

namespace Kuscia.InterConnKuscia

open Kuscia.JobScheduler (KusciaJobPhase)

/-!
# Job stages across interconnected Kuscia clusters

A job that spans Kuscia clusters has one stage register per replica: the host
cluster's `KusciaJob`, the host's `KusciaJobSummary` for each member cluster,
and each member cluster's mirror `KusciaJob`.  A register is the three labels
`LabelJobStageVersion`, `LabelJobStage` and `LabelJobStageTrigger` (on a
summary, the version label and the spec's stage and trigger).  A stage command
(`setJobStage`) on any replica writes a stage and the version plus one; the
sync rules copy a register onto another when its version, read with `Atoi`,
is greater.

The version orders commands but does not break ties: two replicas that each
take a command from the same version end with equal versions and different
stages, and no sync rule copies either onto the other.  What the versions do
give (`fixpoint_versions_agree`) is that at a fixpoint every replica holds the
same version number.  A `Cancel` held by a summary is never replaced
(`summary_cancel_sticky`); a job only refuses a newer stage once its phase is
`Cancelled`.
-/

/-- `JobStage`; `unset` is the empty stage that `GetJobStage` returns for any
other label. -/
inductive JobStage where
  | create
  | start
  | stop
  | cancel
  | restart
  | suspend
  | unset
  deriving Repr, DecidableEq

/-- The label text of a stage. -/
def JobStage.toLabel : JobStage → String
  | .create => "Create"
  | .start => "Start"
  | .stop => "Stop"
  | .cancel => "Cancel"
  | .restart => "Restart"
  | .suspend => "Suspend"
  | .unset => ""

/-- `GetJobStage`. -/
def GetJobStage (stage : String) : JobStage :=
  if stage = "Create" then .create
  else if stage = "Start" then .start
  else if stage = "Stop" then .stop
  else if stage = "Cancel" then .cancel
  else if stage = "Restart" then .restart
  else if stage = "Suspend" then .suspend
  else .unset

/-- A `KusciaJob`'s stage labels, read as `GetObjectLabel` reads them (empty
when absent), and its phase. -/
structure KusciaJob where
  stageVersion : String
  stage : String
  stageTrigger : String
  phase : KusciaJobPhase
  deriving Repr, DecidableEq

/-- A `KusciaJobSummary`'s stage version label and its spec's stage and trigger. -/
structure KusciaJobSummary where
  stageVersion : String
  stage : JobStage
  stageTrigger : String
  deriving Repr, DecidableEq

/-- The label update of a stage command: the stage, its trigger, and the
version plus one (`"1"` when the version label is absent or not a number). -/
def setJobStageLabels (job : KusciaJob) (stage trigger : String) : KusciaJob :=
  let jobVersion :=
    match Go.Atoi job.stageVersion with
    | (version, true) => Go.Itoa (Go.addInt version 1)
    | (_, false) => "1"
  { job with stage := stage, stageTrigger := trigger, stageVersion := jobVersion }

/-- `jobService.setJobStage` (KusciaAPI). -/
def JobService.setJobStage (job : KusciaJob) (stage : JobStage) (domain : String) : KusciaJob :=
  setJobStageLabels job stage.toLabel domain

/-- `JobScheduler.setJobStage` (the job controller), on the job it reads back. -/
def JobScheduler.setJobStage (job : KusciaJob) (trigger stage : String) : KusciaJob :=
  setJobStageLabels job stage trigger

/-- `UpdateJobStage`: a job takes a summary's stage when the summary's version
is greater, unless the job is cancelled. -/
def UpdateJobStage (job : KusciaJob) (jobSummary : KusciaJobSummary) : Bool × KusciaJob :=
  if job.phase = .cancelled then (false, job)
  else if (Go.Atoi jobSummary.stageVersion).1 ≤ (Go.Atoi job.stageVersion).1 then (false, job)
  else
    (true, { job with
      stageVersion := jobSummary.stageVersion
      stage := jobSummary.stage.toLabel
      stageTrigger := jobSummary.stageTrigger })

/-- `updateJobSummaryStage`: the host's summary takes the host job's version
when it is greater, and its stage and trigger when the stage differs; only a
changed stage is reported. -/
def updateJobSummaryStage (job : KusciaJob) (jobSummary : KusciaJobSummary) :
    Bool × KusciaJobSummary :=
  -- if the stage of job changed to cancel, we will prevent updating the job stage
  if jobSummary.stage = .cancel then (false, jobSummary)
  else
    let jobStage := GetJobStage job.stage
    if (Go.Atoi job.stageVersion).1 ≤ (Go.Atoi jobSummary.stageVersion).1 then (false, jobSummary)
    else
      let jobSummary := { jobSummary with stageVersion := job.stageVersion }
      if jobStage ≠ jobSummary.stage then
        (true, { jobSummary with stage := jobStage, stageTrigger := job.stageTrigger })
      else (false, jobSummary)

/-- `updateHostJobSummaryStage`: the host's summary takes a member job's
version and stage when its version is greater, with the member as trigger. -/
def updateHostJobSummaryStage (job : KusciaJob) (jobSummary : KusciaJobSummary)
    (masterDomainID : String) : Bool × KusciaJobSummary :=
  if jobSummary.stage = .cancel then (false, jobSummary)
  else if (Go.Atoi job.stageVersion).1 ≤ (Go.Atoi jobSummary.stageVersion).1 then (false, jobSummary)
  else
    (true, { jobSummary with
      stageVersion := job.stageVersion
      stage := GetJobStage job.stage
      stageTrigger := masterDomainID })

/-! ## The replicas and their steps -/

/-- The stage registers of one job: the host's job, the host's summary for
each member cluster, and each member's mirror job. -/
structure Replicas (Member : Type) where
  hostJob : KusciaJob
  summaries : Member → KusciaJobSummary
  memberJobs : Member → KusciaJob

/-- What can happen to the registers. -/
inductive Action (Member : Type) where
  /-- A stage command on the host's job. -/
  | hostCommand (stage trigger : String)
  /-- A stage command on a member's mirror job. -/
  | memberCommand (member : Member) (stage trigger : String)
  /-- The host's job controller updates a summary (`updateJobSummary`); the
  summary is written when the stage changed or some other status field did. -/
  | hostJobToSummary (member : Member) (otherChanges : Bool)
  /-- A member's job controller updates its summary on the host
  (`updateHostJobSummary`). -/
  | memberJobToSummary (member : Member)
  /-- The host's summary controller updates the host's job. -/
  | summaryToHostJob (member : Member)
  /-- A member's host-resources controller updates its mirror job. -/
  | summaryToMemberJob (member : Member)
  /-- A job controller moves a job's phase. -/
  | hostPhase (phase : KusciaJobPhase)
  | memberPhase (member : Member) (phase : KusciaJobPhase)

section Steps

variable {Member : Type} [DecidableEq Member]

/-- One step; `masterDomainID` names each member cluster's domain. -/
def step (masterDomainID : Member → String) (replicas : Replicas Member) :
    Action Member → Replicas Member
  | .hostCommand stage trigger =>
    { replicas with hostJob := setJobStageLabels replicas.hostJob stage trigger }
  | .memberCommand member stage trigger =>
    { replicas with
      memberJobs := Function.update replicas.memberJobs member
        (setJobStageLabels (replicas.memberJobs member) stage trigger) }
  | .hostJobToSummary member otherChanges =>
    let (changed, jobSummary) := updateJobSummaryStage replicas.hostJob (replicas.summaries member)
    if changed || otherChanges then
      { replicas with summaries := Function.update replicas.summaries member jobSummary }
    else replicas
  | .memberJobToSummary member =>
    { replicas with
      summaries := Function.update replicas.summaries member
        (updateHostJobSummaryStage (replicas.memberJobs member) (replicas.summaries member)
          (masterDomainID member)).2 }
  | .summaryToHostJob member =>
    { replicas with hostJob := (UpdateJobStage replicas.hostJob (replicas.summaries member)).2 }
  | .summaryToMemberJob member =>
    { replicas with
      memberJobs := Function.update replicas.memberJobs member
        (UpdateJobStage (replicas.memberJobs member) (replicas.summaries member)).2 }
  | .hostPhase phase => { replicas with hostJob := { replicas.hostJob with phase := phase } }
  | .memberPhase member phase =>
    { replicas with
      memberJobs := Function.update replicas.memberJobs member
        { replicas.memberJobs member with phase := phase } }

/-- A run of steps. -/
def run (masterDomainID : Member → String) (replicas : Replicas Member)
    (actions : List (Action Member)) : Replicas Member :=
  actions.foldl (step masterDomainID) replicas

/-- No sync rule changes any register. -/
def SyncFixpoint (masterDomainID : Member → String) (replicas : Replicas Member) : Prop :=
  ∀ member,
    (updateJobSummaryStage replicas.hostJob (replicas.summaries member)).2 = replicas.summaries member ∧
      (updateHostJobSummaryStage (replicas.memberJobs member) (replicas.summaries member)
        (masterDomainID member)).2 = replicas.summaries member ∧
      (UpdateJobStage replicas.hostJob (replicas.summaries member)).2 = replicas.hostJob ∧
      (UpdateJobStage (replicas.memberJobs member) (replicas.summaries member)).2 =
        replicas.memberJobs member

instance [Fintype Member] (masterDomainID : Member → String) (replicas : Replicas Member) :
    Decidable (SyncFixpoint masterDomainID replicas) :=
  inferInstanceAs (Decidable (∀ _, _ ∧ _ ∧ _ ∧ _))

/-! ## A cancelled summary is frozen -/

theorem updateJobSummaryStage_of_cancel
    (job : KusciaJob)
    {jobSummary : KusciaJobSummary}
    (cancelled : jobSummary.stage = .cancel) :
    updateJobSummaryStage job jobSummary = (false, jobSummary) := by
  simp [updateJobSummaryStage, cancelled]

theorem updateHostJobSummaryStage_of_cancel
    (job : KusciaJob)
    {jobSummary : KusciaJobSummary}
    (cancelled : jobSummary.stage = .cancel)
    (masterDomainID : String) :
    updateHostJobSummaryStage job jobSummary masterDomainID = (false, jobSummary) := by
  simp [updateHostJobSummaryStage, cancelled]

/-- No step changes a summary that holds `Cancel`: the commands and the job
updates leave the summaries alone, and both summary updates refuse. -/
theorem step_summary_of_cancel
    (masterDomainID : Member → String)
    {replicas : Replicas Member}
    {member : Member}
    (cancelled : (replicas.summaries member).stage = .cancel)
    (action : Action Member) :
    (step masterDomainID replicas action).summaries member = replicas.summaries member := by
  cases action with
  | hostJobToSummary other otherChanges =>
    by_cases same : member = other
    · subst same
      simp [step, updateJobSummaryStage_of_cancel _ cancelled]
    · simp only [step]
      split <;> simp [Function.update_of_ne same]
  | memberJobToSummary other =>
    by_cases same : member = other
    · subst same
      simp [step, updateHostJobSummaryStage_of_cancel _ cancelled]
    · simp [step, Function.update_of_ne same]
  | hostCommand => rfl
  | memberCommand => rfl
  | summaryToHostJob => rfl
  | summaryToMemberJob => rfl
  | hostPhase => rfl
  | memberPhase => rfl

/-- Over any run, a summary that holds `Cancel` keeps it, and everything else
it holds. -/
theorem summary_cancel_sticky
    (masterDomainID : Member → String)
    (actions : List (Action Member)) :
    ∀ (replicas : Replicas Member) (member : Member),
      (replicas.summaries member).stage = .cancel →
        (run masterDomainID replicas actions).summaries member = replicas.summaries member := by
  induction actions with
  | nil =>
    intro replicas _ _
    rfl
  | cons action rest inductionHypothesis =>
    intro replicas member cancelled
    have stepped := step_summary_of_cancel masterDomainID cancelled action
    have stillCancelled : ((step masterDomainID replicas action).summaries member).stage = .cancel := by
      rw [stepped]
      exact cancelled
    show (run masterDomainID (step masterDomainID replicas action) rest).summaries member = _
    rw [inductionHypothesis _ member stillCancelled, stepped]

theorem summary_cancel_sticky_afterHostStart :
    let cancelledJob : KusciaJob := ⟨"1", "Cancel", "bob", .running⟩
    let cancelledReplicas : Replicas Unit :=
      ⟨cancelledJob, fun _ => ⟨"1", .cancel, "bob"⟩, fun _ => cancelledJob⟩
    (cancelledReplicas.summaries ()).stage = .cancel ∧
      (run (fun _ => "bob") cancelledReplicas
        [.hostCommand "Start" "alice", .hostJobToSummary () true]).summaries () =
        cancelledReplicas.summaries () :=
  ⟨rfl, summary_cancel_sticky _ _ _ () rfl⟩

/-! ## The version orders commands but does not break ties -/

/-- Two runs of one job across a host and one member cluster, from replicas
with no stage labels.  Concurrent commands on the host and on the member each
write version 1, and the sync rules reach a fixpoint at which the host's job
is stopped and the member's job started.  And a `Cancel` on the member's job is
replaced by a later host command of a greater version. -/
theorem stage_commands_diverge :
    let idle : KusciaJob := ⟨"", "", "", .running⟩
    let unlabelled : Replicas Unit := ⟨idle, fun _ => ⟨"", .unset, ""⟩, fun _ => idle⟩
    let masterDomainID : Unit → String := fun _ => "bob"
    let concurrent := run masterDomainID unlabelled
      [.hostCommand "Stop" "alice", .memberCommand () "Start" "bob", .hostJobToSummary () false,
        .memberJobToSummary (), .summaryToHostJob (), .summaryToMemberJob ()]
    let cancelled := run masterDomainID unlabelled [.memberCommand () "Cancel" "bob"]
    let overwritten := run masterDomainID cancelled
      [.hostCommand "Stop" "alice", .hostCommand "Start" "alice", .hostJobToSummary () false,
        .summaryToMemberJob ()]
    (SyncFixpoint masterDomainID concurrent ∧ concurrent.hostJob.stage = "Stop" ∧
        (concurrent.memberJobs ()).stage = "Start" ∧
        concurrent.hostJob.stageVersion = (concurrent.memberJobs ()).stageVersion) ∧
      (cancelled.memberJobs ()).stage = "Cancel" ∧ (overwritten.memberJobs ()).stage = "Start" := by
  decide

end Steps

/-! ## At a fixpoint the versions agree -/

section Fixpoint

variable {Member : Type}


/-- A summary the host's job leaves alone has a version at least the job's. -/
theorem version_le_of_updateJobSummaryStage_fixed
    {job : KusciaJob}
    {jobSummary : KusciaJobSummary}
    (notCancelled : jobSummary.stage ≠ .cancel)
    (fixed : (updateJobSummaryStage job jobSummary).2 = jobSummary) :
    (Go.Atoi job.stageVersion).1 ≤ (Go.Atoi jobSummary.stageVersion).1 := by
  by_contra greater
  -- past the version check the summary takes the job's version label
  have versionTaken : (updateJobSummaryStage job jobSummary).2.stageVersion = job.stageVersion := by
    simp only [updateJobSummaryStage, notCancelled, if_false, greater]
    split <;> rfl
  rw [fixed] at versionTaken
  rw [versionTaken] at greater
  exact greater (le_refl _)

/-- A summary a member's job leaves alone has a version at least the job's. -/
theorem version_le_of_updateHostJobSummaryStage_fixed
    {job : KusciaJob}
    {jobSummary : KusciaJobSummary}
    {masterDomainID : String}
    (notCancelled : jobSummary.stage ≠ .cancel)
    (fixed : (updateHostJobSummaryStage job jobSummary masterDomainID).2 = jobSummary) :
    (Go.Atoi job.stageVersion).1 ≤ (Go.Atoi jobSummary.stageVersion).1 := by
  by_contra greater
  have versionTaken :
      (updateHostJobSummaryStage job jobSummary masterDomainID).2.stageVersion = job.stageVersion := by
    simp [updateHostJobSummaryStage, notCancelled, greater]
  rw [fixed] at versionTaken
  rw [versionTaken] at greater
  exact greater (le_refl _)

/-- A job a summary leaves alone has a version at least the summary's, unless
it is cancelled. -/
theorem version_le_of_UpdateJobStage_fixed
    {job : KusciaJob}
    {jobSummary : KusciaJobSummary}
    (notCancelled : job.phase ≠ .cancelled)
    (fixed : (UpdateJobStage job jobSummary).2 = job) :
    (Go.Atoi jobSummary.stageVersion).1 ≤ (Go.Atoi job.stageVersion).1 := by
  by_contra greater
  have versionTaken : (UpdateJobStage job jobSummary).2.stageVersion = jobSummary.stageVersion := by
    simp [UpdateJobStage, notCancelled, greater]
  rw [fixed] at versionTaken
  rw [versionTaken] at greater
  exact greater (le_refl _)

/-- At a fixpoint of the sync rules, with nothing cancelled, the host's job,
each summary and each member's job hold the same version number. -/
theorem fixpoint_versions_agree
    {masterDomainID : Member → String}
    {replicas : Replicas Member}
    (fixpoint : SyncFixpoint masterDomainID replicas)
    (member : Member)
    (hostRunning : replicas.hostJob.phase ≠ .cancelled)
    (memberRunning : (replicas.memberJobs member).phase ≠ .cancelled)
    (summaryOpen : (replicas.summaries member).stage ≠ .cancel) :
    (Go.Atoi replicas.hostJob.stageVersion).1 = (Go.Atoi (replicas.summaries member).stageVersion).1 ∧
      (Go.Atoi (replicas.memberJobs member).stageVersion).1 =
        (Go.Atoi (replicas.summaries member).stageVersion).1 := by
  obtain ⟨hostToSummary, memberToSummary, summaryToHost, summaryToMember⟩ := fixpoint member
  constructor
  · exact le_antisymm (version_le_of_updateJobSummaryStage_fixed summaryOpen hostToSummary)
      (version_le_of_UpdateJobStage_fixed hostRunning summaryToHost)
  · exact le_antisymm (version_le_of_updateHostJobSummaryStage_fixed summaryOpen memberToSummary)
      (version_le_of_UpdateJobStage_fixed memberRunning summaryToMember)

theorem fixpoint_versions_agree_stopAndStart :
    let replicas : Replicas Unit :=
      ⟨⟨"1", "Stop", "alice", .running⟩, fun _ => ⟨"1", .stop, "alice"⟩,
        fun _ => ⟨"1", "Start", "bob", .running⟩⟩
    SyncFixpoint (fun _ => "bob") replicas ∧
      (Go.Atoi replicas.hostJob.stageVersion).1 = (Go.Atoi (replicas.summaries ()).stageVersion).1 ∧
      (Go.Atoi (replicas.memberJobs ()).stageVersion).1 =
        (Go.Atoi (replicas.summaries ()).stageVersion).1 :=
  ⟨by decide,
    @fixpoint_versions_agree Unit (fun _ => "bob") _ (by decide) () (by decide) (by decide)
      (by decide)⟩

end Fixpoint

end Kuscia.InterConnKuscia
