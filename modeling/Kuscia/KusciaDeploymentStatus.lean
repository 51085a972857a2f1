import Kuscia.PortAllocation

namespace Kuscia.KusciaDeploymentController

/-!
# The phase of a KusciaDeployment

`refreshPartyDeploymentStatuses` (`reconcile.go`) recomputes the status of a
KusciaDeployment from the Deployments of its parties: one entry per party
Deployment with a phase read off its replica counts, the number of available
parties, and the phase of the whole KusciaDeployment.  That phase is updated
incrementally: it starts from the stored phase and is overwritten only when
the available parties number `TotalParties`, which is set only while it is
zero.  `handleError` runs the same refresh on a status that records a failure.

The documented state diagram asks for `Progressing` whenever some party is
unavailable.  What the refresh guarantees instead is weaker
(`refreshRun_never_progressing`): once the phase has left `Progressing` it never
comes back to it, over any run of refreshes.
-/

/-- `KusciaDeploymentPhase`. -/
inductive KusciaDeploymentPhase where
  | progressing
  | partialAvailable
  | available
  | failed
  deriving Repr, DecidableEq

/-- The replica counts of `appsv1.DeploymentStatus`. -/
structure DeploymentStatus where
  replicas : Int32
  updatedReplicas : Int32
  availableReplicas : Int32
  unavailableReplicas : Int32
  deriving Repr, DecidableEq

/-- `appsv1.Deployment`: where it lives and its status. -/
structure Deployment where
  namespaceName : String
  name : String
  status : DeploymentStatus
  deriving Repr, DecidableEq

/-- `KusciaDeploymentPartyStatus`.  The conditions and the creation time, which
are copied from the Deployment and enter no count, are left out. -/
structure KusciaDeploymentPartyStatus where
  phase : KusciaDeploymentPhase
  role : String
  replicas : Int32
  updatedReplicas : Int32
  availableReplicas : Int32
  unavailableReplicas : Int32
  deriving Repr, DecidableEq

/-- `KusciaDeploymentStatus`; `phase = none` is the empty phase of a new
object.  The party statuses are keyed by namespace, then by Deployment name. -/
structure KusciaDeploymentStatus where
  phase : Option KusciaDeploymentPhase
  reason : String
  message : String
  totalParties : Nat
  availableParties : Nat
  partyDeploymentStatuses : Go.Map String (Go.Map String KusciaDeploymentPartyStatus)
  deriving DecidableEq

/-- The party status `refreshPartyDeploymentStatus` computes from a Deployment. -/
def partyStatusOf (deployment : Deployment) (role : String) : KusciaDeploymentPartyStatus where
  phase :=
    if deployment.status.availableReplicas > 0 then
      if deployment.status.availableReplicas ≥ deployment.status.replicas then .available
      else .partialAvailable
    else .progressing
  role := role
  replicas := deployment.status.replicas
  updatedReplicas := deployment.status.updatedReplicas
  availableReplicas := deployment.status.availableReplicas
  unavailableReplicas := deployment.status.unavailableReplicas

/-- `refreshPartyDeploymentStatus`: store the Deployment's party status, and
whether it changed. -/
def refreshPartyDeploymentStatus
    (partyDeploymentStatuses : Go.Map String (Go.Map String KusciaDeploymentPartyStatus))
    (deployment : Deployment)
    (role : String) :
    Bool × Go.Map String (Go.Map String KusciaDeploymentPartyStatus) :=
  let curDepStatus := partyStatusOf deployment role
  match partyDeploymentStatuses.lookup deployment.namespaceName with
  | none =>
    (true, partyDeploymentStatuses.insert deployment.namespaceName
      ((∅ : Go.Map String KusciaDeploymentPartyStatus).insert deployment.name curDepStatus))
  | some partyDepStatuses =>
    let stored :=
      partyDeploymentStatuses.insert deployment.namespaceName
        (partyDepStatuses.insert deployment.name curDepStatus)
    match partyDepStatuses.lookup deployment.name with
    | none => (true, stored)
    | some depStatus => if depStatus ≠ curDepStatus then (true, stored) else (false, partyDeploymentStatuses)

/-- Every party status recorded, over all namespaces. -/
def allPartyStatuses
    (partyDeploymentStatuses : Go.Map String (Go.Map String KusciaDeploymentPartyStatus)) :
    List KusciaDeploymentPartyStatus :=
  partyDeploymentStatuses.values.flatMap Go.Map.values

/-- The loop of `refreshPartyDeploymentStatuses` over the party kits: the
Deployment lister answers by namespace and name (`none`: not found, or any
other error, both of which skip the party). -/
def refreshParties
    (deploymentLister : String → String → Option DeploymentStatus) :
    List PartyKitInfo → Bool × Go.Map String (Go.Map String KusciaDeploymentPartyStatus) →
      Bool × Go.Map String (Go.Map String KusciaDeploymentPartyStatus)
  | [], state => state
  | partyKitInfo :: rest, (updated, statuses) =>
    if partyKitInfo.domainID = "" ∨ partyKitInfo.dkInfo.deploymentName = "" then
      refreshParties deploymentLister rest (updated, statuses)
    else
      match deploymentLister partyKitInfo.domainID partyKitInfo.dkInfo.deploymentName with
      | none => refreshParties deploymentLister rest (updated, statuses)
      | some status =>
        let deployment : Deployment :=
          ⟨partyKitInfo.domainID, partyKitInfo.dkInfo.deploymentName, status⟩
        let (changed, statuses) := refreshPartyDeploymentStatus statuses deployment partyKitInfo.role
        refreshParties deploymentLister rest (updated || changed, statuses)

/-- The phase `refreshPartyDeploymentStatuses` computes: the stored one
(`Progressing` if empty), unless the available parties number `TotalParties`. -/
def kdStatusPhaseOf (stored : Option KusciaDeploymentPhase) (totalParties availableParties : Nat)
    (hasPartialAvailableParty : Bool) : KusciaDeploymentPhase :=
  if availableParties = totalParties then
    if hasPartialAvailableParty then .partialAvailable else .available
  else stored.getD .progressing

/-- `refreshPartyDeploymentStatuses`, for a KusciaDeployment with
`specParties` parties: whether the status changed, and the status. -/
def refreshPartyDeploymentStatuses
    (deploymentLister : String → String → Option DeploymentStatus)
    (specParties : Nat)
    (partyKitInfos : List PartyKitInfo)
    (status : KusciaDeploymentStatus) :
    Bool × KusciaDeploymentStatus :=
  -- `TotalParties` is set only while it is zero
  let (updated, status) :=
    if status.totalParties = 0 then (true, { status with totalParties := specParties })
    else (false, status)
  let (updated, statuses) :=
    refreshParties deploymentLister partyKitInfos (updated, status.partyDeploymentStatuses)
  let status := { status with partyDeploymentStatuses := statuses }
  let counted := allPartyStatuses statuses
  let availableParties :=
    (counted.filter fun v => v.phase = .available ∨ v.phase = .partialAvailable).length
  let hasPartialAvailableParty := counted.any fun v => v.phase = .partialAvailable
  let (updated, status) :=
    if status.availableParties ≠ availableParties then
      (true, { status with availableParties := availableParties })
    else (updated, status)
  let kdStatusPhase :=
    kdStatusPhaseOf status.phase status.totalParties availableParties hasPartialAvailableParty
  if status.phase ≠ some kdStatusPhase then
    (true, { status with phase := some kdStatusPhase, reason := "", message := "" })
  else (updated, status)

/-- What `updateKusciaDeploymentStatus` writes (the reconcile time apart). -/
def updateKusciaDeploymentStatus (specParties : Nat) (status : KusciaDeploymentStatus) :
    KusciaDeploymentStatus :=
  if status.totalParties = 0 then { status with totalParties := specParties } else status

/-- `handleError`: a status recording a failure is refreshed and written when
anything changed; the status written, if any. -/
def handleError
    (deploymentLister : String → String → Option DeploymentStatus)
    (specParties : Nat)
    (partyKitInfos : List PartyKitInfo)
    (preKdStatus status : KusciaDeploymentStatus) :
    Option KusciaDeploymentStatus :=
  if status.phase = some .failed then
    let (updated, status) :=
      refreshPartyDeploymentStatuses deploymentLister specParties partyKitInfos status
    if updated || preKdStatus ≠ status then some (updateKusciaDeploymentStatus specParties status)
    else none
  else none

/-! ## Once out of `Progressing`, never back -/

/-- The last step of a refresh leaves the phase it computed, whether it writes
it or finds it already stored. -/
theorem phase_after_phase_write
    {stored : Option KusciaDeploymentPhase}
    {kdStatusPhase : KusciaDeploymentPhase}
    {written kept : Bool × KusciaDeploymentStatus}
    (writes : written.2.phase = some kdStatusPhase)
    (keeps : kept.2.phase = stored) :
    (if stored ≠ some kdStatusPhase then written else kept).2.phase = some kdStatusPhase := by
  split
  · exact writes
  · rename_i same
    rw [keeps]
    exact not_not.mp same

/-- The phase computed is the stored one or one of the two available ones. -/
theorem kdStatusPhaseOf_cases
    (stored : Option KusciaDeploymentPhase)
    (totalParties availableParties : Nat)
    (hasPartialAvailableParty : Bool) :
    kdStatusPhaseOf stored totalParties availableParties hasPartialAvailableParty =
        stored.getD .progressing ∨
      kdStatusPhaseOf stored totalParties availableParties hasPartialAvailableParty = .available ∨
      kdStatusPhaseOf stored totalParties availableParties hasPartialAvailableParty =
        .partialAvailable := by
  unfold kdStatusPhaseOf
  split
  · cases hasPartialAvailableParty <;> simp
  · exact Or.inl rfl

/-- The phase a refresh leaves is the stored one (`Progressing` if empty) or
one of the two available ones: only the last step writes it. -/
theorem refreshPartyDeploymentStatuses_phase
    (deploymentLister : String → String → Option DeploymentStatus)
    (specParties : Nat)
    (partyKitInfos : List PartyKitInfo)
    (status : KusciaDeploymentStatus) :
    ∃ kdStatusPhase,
      (refreshPartyDeploymentStatuses deploymentLister specParties partyKitInfos status).2.phase =
          some kdStatusPhase ∧
        (kdStatusPhase = status.phase.getD .progressing ∨ kdStatusPhase = .available ∨
          kdStatusPhase = .partialAvailable) := by
  unfold refreshPartyDeploymentStatuses
  -- setting `TotalParties` keeps the stored phase
  split
  rename_i updated0 status0 totalSet
  have phase0 : status0.phase = status.phase := by
    split at totalSet <;> (obtain ⟨-, rfl⟩ := Prod.mk.inj totalSet; rfl)
  split
  dsimp only
  -- so does counting the available parties, in either branch
  split
  all_goals
    rw [← phase0]
    exact ⟨_, phase_after_phase_write rfl rfl, kdStatusPhaseOf_cases _ _ _ _⟩
/-- A refresh keeps every phase but `Progressing` out of `Progressing`. -/
theorem refreshPartyDeploymentStatuses_not_progressing
    (deploymentLister : String → String → Option DeploymentStatus)
    (specParties : Nat)
    (partyKitInfos : List PartyKitInfo)
    {status : KusciaDeploymentStatus}
    {stored : KusciaDeploymentPhase}
    (storedIs : status.phase = some stored)
    (notProgressing : stored ≠ .progressing) :
    ∃ next, (refreshPartyDeploymentStatuses deploymentLister specParties partyKitInfos status).2.phase =
        some next ∧ next ≠ .progressing := by
  obtain ⟨next, nextIs, nextCases⟩ :=
    refreshPartyDeploymentStatuses_phase deploymentLister specParties partyKitInfos status
  refine ⟨next, nextIs, ?_⟩
  rw [storedIs, Option.getD_some] at nextCases
  rcases nextCases with rfl | rfl | rfl
  · exact notProgressing
  · simp
  · simp

/-- A run of refreshes, each with the spec size, party kits and Deployments of
its reconcile. -/
def refreshRun :
    List (Nat × List PartyKitInfo × (String → String → Option DeploymentStatus)) →
      KusciaDeploymentStatus → KusciaDeploymentStatus
  | [], status => status
  | (specParties, partyKitInfos, deploymentLister) :: rest, status =>
    refreshRun rest
      (refreshPartyDeploymentStatuses deploymentLister specParties partyKitInfos status).2

/-- Once the phase has left `Progressing`, no run of refreshes brings it back,
whatever the parties' Deployments do. -/
theorem refreshRun_never_progressing :
    ∀ (reconciles : List (Nat × List PartyKitInfo × (String → String → Option DeploymentStatus)))
      (status : KusciaDeploymentStatus) (stored : KusciaDeploymentPhase),
      status.phase = some stored → stored ≠ .progressing →
      (refreshRun reconciles status).phase ≠ some .progressing := by
  intro reconciles
  induction reconciles with
  | nil =>
    intro status stored storedIs notProgressing
    rw [refreshRun, storedIs]
    simpa using notProgressing
  | cons reconcile rest inductionHypothesis =>
    intro status stored storedIs notProgressing
    obtain ⟨specParties, partyKitInfos, deploymentLister⟩ := reconcile
    obtain ⟨next, nextIs, nextNot⟩ := refreshPartyDeploymentStatuses_not_progressing
      deploymentLister specParties partyKitInfos storedIs notProgressing
    exact inductionHypothesis _ next nextIs nextNot

theorem refreshRun_never_progressing_afterFailure :
    let alice : PartyKitInfo := ⟨"alice", "host", ⟨"kd-alice", [], []⟩⟩
    let down : String → String → Option DeploymentStatus := fun _ _ => some ⟨1, 1, 0, 1⟩
    let failedStatus : KusciaDeploymentStatus := ⟨some .failed, "CreateServiceFailed", "", 1, 1, ∅⟩
    failedStatus.phase = some .failed ∧
      (refreshRun [(1, [alice], down), (2, [alice], down)] failedStatus).phase ≠ some .progressing :=
  ⟨rfl, refreshRun_never_progressing _ _ .failed rfl (by decide)⟩

/-- Three reconciles of a KusciaDeployment whose party Deployments have one
replica each.  A party that loses its only available replica leaves the phase
`Available`; a second party in the spec leaves `TotalParties` at one; and
`handleError` on a recorded service failure writes `Available` with an empty
reason. -/
theorem refresh_keeps_stale_phase_and_overwrites_failure :
    let alice : PartyKitInfo := ⟨"alice", "host", ⟨"kd-alice", [], []⟩⟩
    let bob : PartyKitInfo := ⟨"bob", "guest", ⟨"kd-bob", [], []⟩⟩
    let ready : String → String → Option DeploymentStatus := fun _ _ => some ⟨1, 1, 1, 0⟩
    let down : String → String → Option DeploymentStatus := fun _ _ => some ⟨1, 1, 0, 1⟩
    let availableStatus :=
      (refreshPartyDeploymentStatuses ready 1 [alice] ⟨none, "", "", 0, 0, ∅⟩).2
    let failedStatus : KusciaDeploymentStatus :=
      { availableStatus with
        phase := some .failed, reason := "CreateServiceFailed", message := "service exists" }
    availableStatus.phase = some .available ∧
      (refreshPartyDeploymentStatuses down 1 [alice] availableStatus).2.phase = some .available ∧
      (refreshPartyDeploymentStatuses ready 2 [alice, bob] availableStatus).2.totalParties = 1 ∧
      (handleError ready 1 [alice] availableStatus failedStatus).map
          (fun written => (written.phase, written.reason)) = some (some .available, "") := by
  decide

end Kuscia.KusciaDeploymentController
