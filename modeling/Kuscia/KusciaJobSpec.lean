import Kuscia.GoMap

namespace Kuscia.JobScheduler

/-!
# KusciaJob data model

The fields of `KusciaJob` and `KusciaTaskTemplate` that the job scheduler
reads (`pkg/crd/apis/kuscia/v1alpha1/kusciajob_types.go`), and the phases it
reads and writes.  Fields the scheduling functions only carry along
(`AppImage`, `TaskInputConfig`, `Parties`, `ScheduleConfig`) are left out.

The alias-keyed subtask status map is a Go map from alias to
`KusciaTaskPhase`.  `buildJobSubTaskStatus` rewrites an empty phase to
`Pending` before the map reaches any function modelled here, so the four
named phases are all the values it can hold.
-/

/-- The phase a KusciaTask reports (`KusciaTaskPhase`). -/
inductive KusciaTaskPhase where
  | pending
  | running
  | succeeded
  | failed
  deriving Repr, DecidableEq

/-- The phase of a KusciaJob (`KusciaJobPhase`). -/
inductive KusciaJobPhase where
  | initialized
  | awaitingApproval
  | pending
  | running
  | succeeded
  | failed
  | cancelled
  | approvalReject
  | suspended
  deriving Repr, DecidableEq

/--
How a job reacts to a failed critical subtask (`KusciaJobScheduleMode`).

The CRD declares `+kubebuilder:validation:Enum=Strict;BestEffort` with default
`Strict`, so the API server admits no other value; the `default:` branch of
`jobStatusPhaseFrom`, commented there as unreachable, has no counterpart.
-/
inductive KusciaJobScheduleMode where
  | strict
  | bestEffort
  deriving Repr, DecidableEq

/-- One subtask of a job (`KusciaTaskTemplate`), restricted to the fields the
scheduler reads. -/
structure KusciaTaskTemplate where
  /-- `Alias` (a keyword in Lean, hence the longer name). -/
  taskAlias : String
  taskID : String
  dependencies : List String
  tolerable : Option Bool
  priority : Int
  deriving Repr, DecidableEq, Inhabited

/-- The parts of a `KusciaJob` the scheduler reads. -/
structure KusciaJob where
  annotations : Go.Map String String
  initiator : String
  scheduleMode : KusciaJobScheduleMode
  maxParallelism : Int
  tasks : List KusciaTaskTemplate

/-- An alias-keyed subtask status map, as built by `buildJobSubTaskStatus`. -/
abbrev TaskStatusMap := Go.Map String KusciaTaskPhase

/-- `common.InterConnKusciaPartyAnnotationKey`. -/
def interConnKusciaPartyAnnotationKey : String :=
  "kuscia.secretflow/interconn-kuscia-parties"

/-- `common.InterConnBFIAPartyAnnotationKey`. -/
def interConnBFIAPartyAnnotationKey : String :=
  "kuscia.secretflow/interconn-bfia-parties"

/-- `isInterConnJob`: either interconnection annotation is present. -/
def isInterConnJob (job : KusciaJob) : Bool :=
  (job.annotations.lookup interConnBFIAPartyAnnotationKey).isSome ||
    (job.annotations.lookup interConnKusciaPartyAnnotationKey).isSome

/-- A template is critical when `Tolerable` is nil or false. -/
def KusciaTaskTemplate.critical (t : KusciaTaskTemplate) : Bool :=
  t.tolerable != some true

/-- The aliases of a job's tasks, in `Spec.Tasks` order. -/
def aliases (tasks : List KusciaTaskTemplate) : List String :=
  tasks.map KusciaTaskTemplate.taskAlias

/-- `t` (whose alias is `a`) lists `b` among its dependencies. -/
def DependsOn (tasks : List KusciaTaskTemplate) (b a : String) : Prop :=
  ∃ t ∈ tasks, t.taskAlias = a ∧ b ∈ t.dependencies

/--
The keys the scheduler's maps rely on and validation does not check: aliases
are pairwise distinct, as the status map is keyed by alias, and every `TaskID`
is non-empty and unique, as `currentTaskMap` is keyed by `TaskID`.
-/
structure WellKeyed (tasks : List KusciaTaskTemplate) : Prop where
  aliasesNodup : (aliases tasks).Nodup
  taskIDsNodup : (tasks.map KusciaTaskTemplate.taskID).Nodup
  taskIDsNonEmpty : ∀ t ∈ tasks, t.taskID ≠ ""

end Kuscia.JobScheduler
