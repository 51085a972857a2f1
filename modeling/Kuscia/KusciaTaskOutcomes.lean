import Mathlib
import Kuscia.KusciaTaskController

namespace Kuscia.KusciaTaskHandler

open Kuscia.JobScheduler (KusciaTaskPhase)

/-!
# The lifecycle of a KusciaTask and the outcomes of its parties

`TaskStep` is the diagram a task's phase follows: an empty phase becomes
`Pending`, a pending task runs, a running task succeeds, and a task that has
not succeeded may fail.  `syncHandler_step` shows that every sync takes one
of its edges, whatever the TaskResourceGroup, the pods and the API answer.
A succeeded task cannot fail because the succeeded handler drops the error of
the resource deletion, the only error it could return.

The parties' outcomes are final too.  The running handler rebuilds the list
of party statuses at every reconcile, but a party first recorded succeeded or
failed is rebuilt as it was: an own party through the first loop of
`getPartyTaskStatus`, which never looks at its pods again, and a party out of
this cluster's control by the copy of `buildOuterPartyTaskStatus`.  The
pending handler only appends parties, and the failed handler fails only the
parties that have not finished.  This holds as long as the TaskResourceGroup
lists the party; a party it does not list is dropped from the list.

`runTask_followsTaskLifecycle` puts these together for every run.
-/

/-! ## The lifecycle diagram -/

/-- The finished phases. -/
def TaskPhaseFinal (phase : Option KusciaTaskPhase) : Prop :=
  phase = some .succeeded ∨ phase = some .failed

@[simp] theorem taskPhaseFinal_some
    (phase : KusciaTaskPhase) :
    TaskPhaseFinal (some phase) ↔ phase = .succeeded ∨ phase = .failed := by
  simp [TaskPhaseFinal]

/-- The edges a sync may move a task's phase along. -/
inductive TaskStep : Option KusciaTaskPhase → Option KusciaTaskPhase → Prop where
  | stay (phase : Option KusciaTaskPhase) : TaskStep phase phase
  | pending : TaskStep none (some .pending)
  | start {phase : Option KusciaTaskPhase} (waiting : phase = none ∨ phase = some .pending) :
      TaskStep phase (some .running)
  | succeed : TaskStep (some .running) (some .succeeded)
  | fail {phase : Option KusciaTaskPhase} (notSucceeded : phase ≠ some .succeeded) :
      TaskStep phase (some .failed)

namespace TaskStep

variable {phase next : Option KusciaTaskPhase}

/-- No edge leaves a finished phase. -/
theorem eq_of_final
    (step : TaskStep phase next)
    (final : TaskPhaseFinal phase) :
    next = phase := by
  cases step with
  | stay => rfl
  | pending => rcases final with final | final <;> cases final
  | start waiting =>
    rcases waiting with rfl | rfl <;> rcases final with final | final <;> cases final
  | succeed => rcases final with final | final <;> cases final
  | fail notSucceeded =>
    rcases final with succeeded | failed
    · exact absurd succeeded notSucceeded
    · exact failed.symm

/-- What the pending handler may do: keep the phase (an empty one becomes
`Pending`), run the task or fail it. -/
theorem of_waiting
    (waiting : phase = none ∨ phase = some .pending)
    (moved : next = some .pending ∨ next = some .running ∨ next = some .failed) :
    TaskStep phase next := by
  rcases moved with rfl | rfl | rfl
  · rcases waiting with rfl | rfl
    · exact .pending
    · exact .stay _
  · exact .start waiting
  · refine .fail ?_
    rcases waiting with rfl | rfl <;> simp

end TaskStep

/-! ## What the helpers write -/

section Helpers

variable {now : Int} {task : TaskObject} {status : KusciaTaskStatus}

@[simp] theorem prepareDefaults_phase :
    (prepareDefaults now status).phase = some (status.phase.getD .pending) := rfl

@[simp] theorem prepareDefaults_partyTaskStatus :
    (prepareDefaults now status).partyTaskStatus = status.partyTaskStatus := rfl

/-- `writeIfChanged` leaves the task, or writes the status with the time. -/
theorem writeIfChanged_cases
    (now : Int)
    (task : TaskObject)
    (taskStatus : KusciaTaskStatus)
    (refreshed : Bool) :
    writeIfChanged now task taskStatus refreshed = (task, false) ∨
      writeIfChanged now task taskStatus refreshed =
        ({ task with status := { taskStatus with lastReconcileTime := some now } }, true) := by
  unfold writeIfChanged
  split
  · exact .inr rfl
  · exact .inl rfl

/-- Over a running task, writing a running, failed or succeeded status is one
step of the diagram. -/
theorem writeIfChanged_step
    (running : task.status.phase = some .running)
    (refreshed : Bool)
    (moved : status.phase = some .running ∨ status.phase = some .failed ∨
      status.phase = some .succeeded) :
    TaskStep task.status.phase (writeIfChanged now task status refreshed).1.status.phase := by
  rcases writeIfChanged_cases now task status refreshed with unchanged | written
  · rw [unchanged]
    exact .stay _
  · rw [written, running]
    rcases moved with phase | phase | phase <;> rw [phase]
    · exact .stay _
    · exact .fail (by simp)
    · exact .succeed

theorem taskFailed_eq_some
    {failed : TaskObject}
    (decided : taskFailed now task = some failed) :
    failed.status.phase = some .failed ∧
      failed.status.partyTaskStatus = task.status.partyTaskStatus := by
  dsimp only [taskFailed] at decided
  split_ifs at decided <;> cases decided <;> exact ⟨rfl, rfl⟩

theorem taskRunning_eq_ok_some
    {env : TaskSyncEnv}
    {running : TaskObject}
    (decided : taskRunning env task = .ok (some running)) :
    running.status.phase = some .running ∧
      running.status.partyTaskStatus = task.status.partyTaskStatus := by
  dsimp only [taskRunning] at decided
  split at decided
  · cases decided
  · split_ifs at decided <;> cases decided <;> exact ⟨rfl, rfl⟩

theorem taskExpired_eq_ok_some
    {env : TaskSyncEnv}
    {expired : TaskObject}
    (decided : taskExpired env task = .ok (some expired)) :
    expired.status.phase = some .failed ∧
      expired.status.partyTaskStatus = task.status.partyTaskStatus := by
  dsimp only [taskExpired] at decided
  split at decided
  · cases decided
  · split_ifs at decided <;> cases decided
    exact ⟨rfl, rfl⟩

theorem setTaskStatusPhase_cases
    (taskStatus : KusciaTaskStatus)
    (trg : TaskResourceGroup) :
    ((setTaskStatusPhase taskStatus trg).phase = some .running ∨
      (setTaskStatusPhase taskStatus trg).phase = some .failed) ∧
    (setTaskStatusPhase taskStatus trg).partyTaskStatus = taskStatus.partyTaskStatus := by
  unfold setTaskStatusPhase
  split
  all_goals first
    | exact ⟨.inl rfl, rfl⟩
    | exact ⟨.inr rfl, rfl⟩

@[simp] theorem reconcileTaskStatus_partyTaskStatus
    (pods : String → String → Option Pod)
    (trg : TaskResourceGroup) :
    (reconcileTaskStatus pods status trg).partyTaskStatus =
      buildPartyTaskStatus pods status.partyTaskStatus trg := by
  dsimp only [reconcileTaskStatus]
  split_ifs <;> rfl

/-- A reconcile keeps the phase or decides failed, succeeded or running. -/
theorem reconcileTaskStatus_phase
    (pods : String → String → Option Pod)
    (taskStatus : KusciaTaskStatus)
    (trg : TaskResourceGroup) :
    (reconcileTaskStatus pods taskStatus trg).phase = taskStatus.phase ∨
      (reconcileTaskStatus pods taskStatus trg).phase = some .failed ∨
      (reconcileTaskStatus pods taskStatus trg).phase = some .succeeded ∨
      (reconcileTaskStatus pods taskStatus trg).phase = some .running := by
  dsimp only [reconcileTaskStatus]
  split_ifs
  · exact .inr (.inl rfl)
  · exact .inr (.inr (.inl rfl))
  · exact .inr (.inr (.inr rfl))
  · exact .inl rfl

end Helpers

/-! ## The handlers move along the diagram -/

section Handlers

variable (env : TaskSyncEnv) (task : TaskObject)

theorem pendingHandle_step
    (waiting : task.status.phase = none ∨ task.status.phase = some .pending) :
    TaskStep task.status.phase (pendingHandle env task).1.status.phase := by
  apply TaskStep.of_waiting waiting
  -- after the defaults the phase is `Pending`
  have defaulted : (prepareDefaults env.now task.status).phase = some .pending := by
    rcases waiting with waiting | waiting <;> simp [waiting]
  dsimp only [pendingHandle]
  split
  · exact .inl defaulted
  · exact .inl defaulted
  · generalize written : writeIfChanged _ _ _ _ = refreshed
    have kept : refreshed.1.status.phase = some .pending := by
      rw [← written]
      unfold writeIfChanged
      split <;> exact defaulted
    split
    next failed decided => exact .inr (.inr (taskFailed_eq_some decided).1)
    next =>
      split
      · exact .inl kept
      next running decided => exact .inr (.inl (taskRunning_eq_ok_some decided).1)
      next =>
        split
        · exact .inl kept
        next expired decided => exact .inr (.inr (taskExpired_eq_ok_some decided).1)
        · exact .inl kept

/-- The running handler keeps the phase, or writes what it decided: running,
failed with the TaskResourceGroup, or the reconciled phase. -/
theorem runningHandle_step
    (running : task.status.phase = some .running) :
    TaskStep task.status.phase (runningHandle env task).1.status.phase := by
  dsimp only [runningHandle]
  split
  · exact .stay _
  next trg _ =>
    split
    · exact .stay _
    next asParticipant _ =>
      have decided := (setTaskStatusPhase_cases task.status trg).1
      -- the phase the handler decides, before the write
      apply writeIfChanged_step running
      split
      · rcases reconcileTaskStatus_phase env.pods (setTaskStatusPhase task.status trg) trg
          with same | failed | succeeded | reconciled
        · rw [same]
          rcases decided with phase | phase
          · exact .inl phase
          · exact .inr (.inl phase)
        · exact .inr (.inl failed)
        · exact .inr (.inr succeeded)
        · exact .inl reconciled
      · rcases decided with phase | phase
        · exact .inl phase
        · exact .inr (.inl phase)

@[simp] theorem finishedHandle_phase :
    (finishedHandle env task).1.status.phase = task.status.phase := by
  unfold finishedHandle
  split <;> rfl

@[simp] theorem finishedHandle_partyTaskStatus :
    (finishedHandle env task).1.status.partyTaskStatus = task.status.partyTaskStatus := by
  unfold finishedHandle
  split <;> rfl

/-- The succeeded handler returns the task of the finished handler. -/
@[simp] theorem succeededHandle_task :
    (succeededHandle env task).1 = (finishedHandle env task).1 := by
  unfold succeededHandle
  generalize finishedHandle env task = result
  obtain ⟨handled, needUpdate, err⟩ := result
  cases err <;> rfl

@[simp] theorem failedHandle_phase :
    (failedHandle env task).1.status.phase = task.status.phase := by
  unfold failedHandle
  rw [finishedHandle_phase]

/-- The succeeded handler never fails. -/
theorem succeededHandle_error :
    (succeededHandle env task).2.2 = none := by
  unfold succeededHandle
  generalize finishedHandle env task = result
  obtain ⟨handled, needUpdate, err⟩ := result
  cases err <;> rfl

/-- Every handler moves the task along an edge of the diagram. -/
theorem handlePhase_step :
    TaskStep task.status.phase (handlePhase env task).1.status.phase := by
  unfold handlePhase
  -- an empty phase is handled as a pending one
  cases phase : task.status.phase with
  | none =>
    have step := pendingHandle_step env task (.inl phase)
    rw [phase] at step
    exact step
  | some current =>
    cases current with
    | pending =>
      have step := pendingHandle_step env task (.inr phase)
      rw [phase] at step
      exact step
    | running =>
      have step := runningHandle_step env task phase
      rw [phase] at step
      exact step
    | succeeded =>
      show TaskStep _ (succeededHandle env task).1.status.phase
      rw [succeededHandle_task, finishedHandle_phase, phase]
      exact .stay _
    | failed =>
      show TaskStep _ (failedHandle env task).1.status.phase
      rw [failedHandle_phase, phase]
      exact .stay _

/-- Only a task that has not succeeded can end a sync with an error. -/
theorem handlePhase_error_not_succeeded
    (failed : (handlePhase env task).2.2.isSome) :
    task.status.phase ≠ some .succeeded := by
  intro succeeded
  unfold handlePhase at failed
  rw [succeeded, Option.getD_some, succeededHandle_error] at failed
  cases failed

end Handlers

/-! ## The sync -/

section Sync

variable (env : TaskSyncEnv) (task : TaskObject)

/-- What a sync writes: nothing, the status the handler built, or that status
failed by `failKusciaTask` after a handler error. -/
theorem syncHandler_status :
    (syncHandler env task).status = task.status ∨
      (syncHandler env task).status = (handlePhase env task).1.status ∨
      ∃ err, (handlePhase env task).2.2 = some err ∧
        (syncHandler env task).status = failKusciaTask env.now (handlePhase env task).1.status err := by
  unfold syncHandler
  split
  · exact .inl rfl
  · generalize handlePhase env task = handled
    obtain ⟨handledTask, needUpdate, err⟩ := handled
    cases err with
    | none =>
      dsimp only
      split
      · exact .inr (.inl rfl)
      · exact .inl rfl
    | some err =>
      dsimp only
      split
      · exact .inl rfl
      · split
        · exact .inr (.inr ⟨err, rfl, rfl⟩)
        · exact .inl rfl

theorem syncHandler_step :
    TaskStep task.status.phase (syncHandler env task).status.phase := by
  rcases syncHandler_status env task with same | handled | ⟨err, failed, written⟩
  · rw [same]
    exact .stay _
  · rw [handled]
    exact handlePhase_step env task
  · rw [written]
    exact .fail (handlePhase_error_not_succeeded env task (by rw [failed]; rfl))

end Sync

/-! ## The parties' outcomes -/

/-- The phase first recorded for a party. -/
def firstOutcome (statuses : List PartyTaskStatus) (domainID role : String) :
    Option (Option KusciaTaskPhase) :=
  (statuses.find? fun s => decide (s.IsOf domainID role)).map PartyTaskStatus.phase

/-- The party status `getPartyTaskStatus` reports for a finished task phase. -/
def outcomeOf : KusciaTaskPhase → PartyStatus
  | .succeeded => .partySucceeded
  | .failed => .partyFailed
  | .running => .partyRunning
  | .pending => .partyPending

@[simp] theorem taskPhase_outcomeOf
    (phase : KusciaTaskPhase) :
    (outcomeOf phase).taskPhase = phase := by
  cases phase <;> rfl

/-- Whether a TaskResourceGroup lists a party, out of control or not. -/
def Listed (trg : TaskResourceGroup) (domainID role : String) : Prop :=
  ∃ party ∈ trg.outOfControlledParties ++ trg.parties, party.domainID = domainID ∧ party.role = role

section Outcomes

variable {statuses : List PartyTaskStatus} {domainID role : String} {outcome : KusciaTaskPhase}

/-- The first loop of `getPartyTaskStatus` finds the first recorded status of
the party when it has finished. -/
theorem recordedOutcome_of_firstOutcome
    {party : TaskResourceGroupParty}
    (keyed : party.domainID = domainID ∧ party.role = role)
    (final : TaskPhaseFinal (some outcome))
    (first : firstOutcome statuses domainID role = some (some outcome)) :
    recordedOutcome party statuses = some (outcomeOf outcome) := by
  obtain ⟨rfl, rfl⟩ := keyed
  induction statuses with
  | nil => cases first
  | cons pts rest inductionHypothesis =>
    unfold firstOutcome at first
    rw [List.find?_cons] at first
    unfold recordedOutcome
    by_cases matched : pts.IsOf party.domainID party.role
    · -- the first status of the party decides, and it has finished
      simp only [matched, decide_true, Option.map_some, Option.some.injEq] at first
      rw [if_pos matched, first]
      rcases (taskPhaseFinal_some outcome).mp final with rfl | rfl <;> rfl
    · simp only [matched, decide_false] at first
      rw [if_neg matched]
      exact inductionHypothesis first

/-- A party out of control keeps its first recorded phase. -/
theorem buildOuterPartyTaskStatus_phase
    (party : TaskResourceGroupParty) :
    (buildOuterPartyTaskStatus statuses party).phase =
      (firstOutcome statuses party.domainID party.role).getD (some .pending) := by
  unfold buildOuterPartyTaskStatus firstOutcome
  cases statuses.find? fun s => decide (s.IsOf party.domainID party.role) <;> rfl

@[simp] theorem buildOuterPartyTaskStatus_isOf
    (party : TaskResourceGroupParty) :
    (buildOuterPartyTaskStatus statuses party).IsOf domainID role ↔
      party.domainID = domainID ∧ party.role = role := by
  unfold buildOuterPartyTaskStatus
  cases statuses.find? fun s => decide (s.IsOf party.domainID party.role) <;> rfl

/-- A reconcile rebuilds a finished party as it was, when the TaskResourceGroup
lists it. -/
theorem firstOutcome_buildPartyTaskStatus
    (pods : String → String → Option Pod)
    {trg : TaskResourceGroup}
    (listed : Listed trg domainID role)
    (final : TaskPhaseFinal (some outcome))
    (first : firstOutcome statuses domainID role = some (some outcome)) :
    firstOutcome (buildPartyTaskStatus pods statuses trg) domainID role = some (some outcome) := by
  unfold buildPartyTaskStatus
  unfold firstOutcome
  rw [List.find?_append, List.find?_map, List.find?_map]
  cases outer : trg.outOfControlledParties.find?
      ((fun s => decide (s.IsOf domainID role)) ∘ buildOuterPartyTaskStatus statuses) with
  | some party =>
    -- the first listed party out of control copies the first record
    have keyed : (buildOuterPartyTaskStatus statuses party).IsOf domainID role := by
      have picked := List.find?_some outer
      exact of_decide_eq_true picked
    rw [buildOuterPartyTaskStatus_isOf] at keyed
    simp only [Option.map_some, Option.some_or, buildOuterPartyTaskStatus_phase]
    rw [keyed.1, keyed.2, first]
    rfl
  | none =>
    -- otherwise an own party is listed, and its first loop decides
    have own : ∃ party ∈ trg.parties, party.domainID = domainID ∧ party.role = role := by
      obtain ⟨party, member, keyed⟩ := listed
      rcases List.mem_append.mp member with outerMember | ownMember
      · have missed := List.find?_eq_none.mp outer party outerMember
        simp [Function.comp_apply, buildOuterPartyTaskStatus_isOf, keyed] at missed
      · exact ⟨party, ownMember, keyed⟩
    obtain ⟨party, member, keyed⟩ := own
    cases found : trg.parties.find? ((fun s => decide (s.IsOf domainID role)) ∘ fun party =>
        (⟨party.domainID, party.role,
          some (getPartyTaskStatus pods statuses party).taskPhase, ""⟩ : PartyTaskStatus)) with
    | none =>
      have missed := List.find?_eq_none.mp found party member
      simp [Function.comp_apply, PartyTaskStatus.IsOf, keyed] at missed
    | some ownParty =>
      have foundKeyed : ownParty.domainID = domainID ∧ ownParty.role = role := by
        have picked := List.find?_some found
        exact of_decide_eq_true picked
      simp only [Option.map_none, Option.none_or, Option.map_some]
      unfold getPartyTaskStatus
      rw [recordedOutcome_of_firstOutcome foundKeyed final first, taskPhase_outcomeOf]

/-- The pending handler appends only parties with no record. -/
theorem firstOutcome_setPartyTaskStatus
    {recorded : Option KusciaTaskPhase}
    (party : PartyInfo)
    (first : firstOutcome statuses domainID role = some recorded) :
    firstOutcome (setPartyTaskStatus statuses party) domainID role = some recorded := by
  unfold setPartyTaskStatus
  split
  · exact first
  · unfold firstOutcome at first ⊢
    rw [List.find?_append]
    cases found : statuses.find? fun s => decide (s.IsOf domainID role) with
    | none => rw [found] at first; cases first
    | some s =>
      rw [found] at first
      exact first

theorem firstOutcome_initPartyTaskStatus
    {recorded : Option KusciaTaskPhase}
    (parties : List PartyInfo)
    (first : firstOutcome statuses domainID role = some recorded) :
    firstOutcome (initPartyTaskStatus parties statuses) domainID role = some recorded := by
  unfold initPartyTaskStatus
  induction parties generalizing statuses with
  | nil => exact first
  | cons party rest inductionHypothesis =>
    exact inductionHypothesis (firstOutcome_setPartyTaskStatus party first)

/-- The failed handler fails only the parties that have not finished. -/
theorem firstOutcome_setPartyTaskStatusFailed
    (parties : List PartyInfo)
    (final : TaskPhaseFinal (some outcome))
    (first : firstOutcome statuses domainID role = some (some outcome)) :
    firstOutcome (setPartyTaskStatusFailed parties statuses) domainID role = some (some outcome) := by
  unfold setPartyTaskStatusFailed
  split
  next empty =>
    rw [List.isEmpty_iff.mp empty] at first
    cases first
  next =>
    unfold firstOutcome at first ⊢
    rw [List.find?_map]
    -- failing a status keeps its party, so the first record stays first
    have sameKey : ((fun s => decide (s.IsOf domainID role)) ∘ fun s : PartyTaskStatus =>
        if s.phase = some .pending ∨ s.phase = some .running then { s with phase := some .failed }
        else s) = fun s => decide (s.IsOf domainID role) := by
      funext s
      simp only [Function.comp_apply]
      split <;> rfl
    rw [sameKey]
    cases found : statuses.find? fun s => decide (s.IsOf domainID role) with
    | none => rw [found] at first; cases first
    | some s =>
      rw [found] at first
      simp only [Option.map_some, Option.some.injEq] at first ⊢
      rw [if_neg]
      · exact first
      · rw [first]
        rcases (taskPhaseFinal_some outcome).mp final with rfl | rfl <;> simp

/-- A write keeps a party's record when the task and the status it writes
both hold it. -/
theorem writeIfChanged_firstOutcome
    {now : Int}
    {task : TaskObject}
    {status : KusciaTaskStatus}
    {recorded : Option KusciaTaskPhase}
    (refreshed : Bool)
    (before : firstOutcome task.status.partyTaskStatus domainID role = some recorded)
    (kept : firstOutcome status.partyTaskStatus domainID role = some recorded) :
    firstOutcome (writeIfChanged now task status refreshed).1.status.partyTaskStatus
      domainID role = some recorded := by
  rcases writeIfChanged_cases now task status refreshed with unchanged | written
  · rw [unchanged]
    exact before
  · rw [written]
    exact kept

end Outcomes

section OutcomeSteps

variable (env : TaskSyncEnv) (task : TaskObject) {domainID role : String}
  {outcome : KusciaTaskPhase}

/-- The parties a sync may read the TaskResourceGroup for. -/
def ListsParty (env : TaskSyncEnv) (domainID role : String) : Prop :=
  ∀ trg, env.trg = .ok trg → Listed trg domainID role

theorem pendingHandle_firstOutcome
    {recorded : Option KusciaTaskPhase}
    (first : firstOutcome task.status.partyTaskStatus domainID role = some recorded) :
    firstOutcome (pendingHandle env task).1.status.partyTaskStatus domainID role = some recorded := by
  dsimp only [pendingHandle]
  split
  · exact first
  · exact first
  · generalize written : writeIfChanged _ _ _ _ = refreshed
    have kept : firstOutcome refreshed.1.status.partyTaskStatus domainID role = some recorded := by
      rw [← written]
      unfold writeIfChanged
      split
      · exact firstOutcome_initPartyTaskStatus task.parties first
      · exact first
    split
    next failed decided => rw [(taskFailed_eq_some decided).2]; exact kept
    next =>
      split
      · exact kept
      next running decided => rw [(taskRunning_eq_ok_some decided).2]; exact kept
      next =>
        split
        · exact kept
        next expired decided => rw [(taskExpired_eq_ok_some decided).2]; exact kept
        · exact kept

theorem runningHandle_firstOutcome
    (lists : ListsParty env domainID role)
    (final : TaskPhaseFinal (some outcome))
    (first : firstOutcome task.status.partyTaskStatus domainID role = some (some outcome)) :
    firstOutcome (runningHandle env task).1.status.partyTaskStatus domainID role =
      some (some outcome) := by
  dsimp only [runningHandle]
  split
  · exact first
  next trg found =>
    split
    · exact first
    next =>
      have decided := (setTaskStatusPhase_cases task.status trg).2
      -- the write keeps the party when the status it writes does
      apply writeIfChanged_firstOutcome _ first
      split
      · rw [reconcileTaskStatus_partyTaskStatus, decided]
        exact firstOutcome_buildPartyTaskStatus env.pods (lists trg found) final first
      · rw [decided]
        exact first

/-- Every handler keeps a finished party that the TaskResourceGroup lists. -/
theorem handlePhase_firstOutcome
    (lists : ListsParty env domainID role)
    (final : TaskPhaseFinal (some outcome))
    (first : firstOutcome task.status.partyTaskStatus domainID role = some (some outcome)) :
    firstOutcome (handlePhase env task).1.status.partyTaskStatus domainID role =
      some (some outcome) := by
  unfold handlePhase
  split
  · exact pendingHandle_firstOutcome env task first
  · exact runningHandle_firstOutcome env task lists final first
  · rw [succeededHandle_task, finishedHandle_partyTaskStatus]
    exact first
  · unfold failedHandle
    rw [finishedHandle_partyTaskStatus]
    exact firstOutcome_setPartyTaskStatusFailed task.parties final first

theorem syncHandler_firstOutcome
    (lists : ListsParty env domainID role)
    (final : TaskPhaseFinal (some outcome))
    (first : firstOutcome task.status.partyTaskStatus domainID role = some (some outcome)) :
    firstOutcome (syncHandler env task).status.partyTaskStatus domainID role =
      some (some outcome) := by
  have handled := handlePhase_firstOutcome env task lists final first
  rcases syncHandler_status env task with same | written | ⟨err, _, failed⟩
  · rw [same]
    exact first
  · rw [written]
    exact handled
  · -- `failKusciaTask` keeps the party statuses
    rw [failed]
    exact handled

end OutcomeSteps

/-! ## Runs -/

section Runs

@[simp] theorem runTask_nil
    (task : TaskObject) :
    runTask task [] = task := rfl

theorem runTask_append
    (task : TaskObject)
    (pre post : List TaskSyncEnv) :
    runTask task (pre ++ post) = runTask (runTask task pre) post :=
  List.foldl_append

/-- A finished phase stays for the rest of a run. -/
theorem runTask_final
    {task : TaskObject}
    (final : TaskPhaseFinal task.status.phase)
    (envs : List TaskSyncEnv) :
    (runTask task envs).status.phase = task.status.phase := by
  induction envs generalizing task with
  | nil => rfl
  | cons env rest inductionHypothesis =>
    have stays := (syncHandler_step env task).eq_of_final final
    have synced : TaskPhaseFinal (syncHandler env task).status.phase := stays ▸ final
    show (runTask (syncHandler env task) rest).status.phase = task.status.phase
    rw [inductionHypothesis synced, stays]

/-- A finished party stays for the rest of a run that lists it. -/
theorem runTask_firstOutcome
    {task : TaskObject}
    {domainID role : String}
    {outcome : KusciaTaskPhase}
    (final : TaskPhaseFinal (some outcome))
    (envs : List TaskSyncEnv)
    (lists : ∀ env ∈ envs, ListsParty env domainID role)
    (first : firstOutcome task.status.partyTaskStatus domainID role = some (some outcome)) :
    firstOutcome (runTask task envs).status.partyTaskStatus domainID role = some (some outcome) := by
  induction envs generalizing task with
  | nil => exact first
  | cons env rest inductionHypothesis =>
    have synced := syncHandler_firstOutcome env task (lists env List.mem_cons_self) final first
    exact inductionHypothesis (fun env member => lists env (List.mem_cons_of_mem _ member)) synced

/-- What every run of syncs keeps: each sync moves the phase along an edge of
`TaskStep`, a finished phase stays, and a party recorded succeeded or failed
stays so while the TaskResourceGroups it is read against list it. -/
def FollowsTaskLifecycle (task : TaskObject) (envs : List TaskSyncEnv) : Prop :=
  (∀ pre env post, envs = pre ++ env :: post →
    TaskStep (runTask task pre).status.phase (runTask task (pre ++ [env])).status.phase) ∧
  (∀ pre post, envs = pre ++ post → TaskPhaseFinal (runTask task pre).status.phase →
    (runTask task envs).status.phase = (runTask task pre).status.phase) ∧
  (∀ pre post domainID role outcome, envs = pre ++ post →
    (∀ env ∈ post, ListsParty env domainID role) → TaskPhaseFinal (some outcome) →
    firstOutcome (runTask task pre).status.partyTaskStatus domainID role = some (some outcome) →
    firstOutcome (runTask task envs).status.partyTaskStatus domainID role = some (some outcome))

theorem runTask_followsTaskLifecycle
    (task : TaskObject)
    (envs : List TaskSyncEnv) :
    FollowsTaskLifecycle task envs := by
  refine ⟨?edges, ?final, ?outcomes⟩
  case edges =>
    intro pre env _ _
    rw [runTask_append]
    exact syncHandler_step env (runTask task pre)
  case final =>
    intro pre post split final
    rw [split, runTask_append]
    exact runTask_final final post
  case outcomes =>
    intro pre post _ _ _ split lists final first
    rw [split, runTask_append]
    exact runTask_firstOutcome final post lists first

end Runs

end Kuscia.KusciaTaskHandler
