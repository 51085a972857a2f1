import Mathlib

namespace Kuscia.ClusterDomainRoute

/-!
# The Ready condition of a ClusterDomainRoute

`syncStatusFromDomainroute` (`domainroute.go`) mirrors the token lists of the
two DomainRoutes of a ClusterDomainRoute into its status and keeps a `Ready`
condition.  The update is change-driven: it starts from `Ready = True`,
re-examines the source side only when the source tokens changed or the
source's reachability disagrees with the stored bit, the destination side only
when the destination tokens changed, and writes only when one of these, or a
heartbeat timeout, forced it.

Two directions are proved.  A `False` is never stale
(`ready_of_route_conditions`): whenever both DomainRoutes pass every check,
the status left by a sync is `Ready`.  A `True` is sound for the checks made
at every write (`ready_status_sound`): the destination heartbeats have not
timed out and the last tokens of both sides carry one revision.  What is not
re-examined when it did not change is the source's and the destination's
token count, so a `True` can stand while a side has no token.

Go slices are lists; the API server returns an empty token list as `nil`, so
the empty list is the only empty value a DomainRoute carries.
-/

/-- `corev1.ConditionStatus`. -/
inductive ConditionStatus where
  | conditionTrue
  | conditionFalse
  | conditionUnknown
  deriving Repr, DecidableEq

/-- `ClusterDomainRouteConditionType`. -/
inductive ClusterDomainRouteConditionType where
  | running
  | pending
  | failure
  | ready
  deriving Repr, DecidableEq

/-- `ClusterDomainRouteCondition`; its update and transition times enter no
decision and are left out. -/
structure ClusterDomainRouteCondition where
  type : ClusterDomainRouteConditionType
  status : ConditionStatus
  reason : String
  message : String
  deriving Repr, DecidableEq

/-- `DomainRouteToken`.  Times are nanoseconds, `none` for the zero
`metav1.Time`; `reflect.DeepEqual` compares every field, so all are kept. -/
structure DomainRouteToken where
  isReady : Bool
  token : String
  revision : Int64
  revisionTime : Option Int
  expirationTime : Option Int
  heartBeatTime : Option Int
  effectiveInstances : List String
  deriving Repr, DecidableEq

/-- `ClusterDomainRouteTokenStatus`: the two token lists the sync copies (the
status revision and its time are neither read nor written by it). -/
structure ClusterDomainRouteTokenStatus where
  sourceTokens : List DomainRouteToken
  destinationTokens : List DomainRouteToken
  deriving Repr, DecidableEq

/-- `ClusterDomainRouteStatus` (the endpoint statuses are not read by the sync). -/
structure ClusterDomainRouteStatus where
  tokenStatus : ClusterDomainRouteTokenStatus
  conditions : List ClusterDomainRouteCondition
  deriving Repr, DecidableEq

/-- `DomainRouteStatus`, with `TokenStatus.Tokens`. -/
structure DomainRouteStatus where
  isDestinationAuthorized : Bool
  isDestinationUnreachable : Bool
  tokens : List DomainRouteToken
  deriving Repr, DecidableEq

/-- `newCondition`, without its timestamps. -/
def newCondition (condType : ClusterDomainRouteConditionType) (status : ConditionStatus)
    (reason message : String) : ClusterDomainRouteCondition :=
  ⟨condType, status, reason, message⟩

/-- The loop of `setCondition`: the first condition of the type is replaced
unless it has the status already; with none of the type, the condition is
appended.  Whether anything changed, and the conditions. -/
def setConditionIn (condition : ClusterDomainRouteCondition) :
    List ClusterDomainRouteCondition → Bool × List ClusterDomainRouteCondition
  | [] => (true, [condition])
  | v :: rest =>
    if v.type = condition.type then
      if v.status = condition.status then (false, v :: rest) else (true, condition :: rest)
    else
      let (changed, rest) := setConditionIn condition rest
      (changed, v :: rest)

/-- `setCondition`. -/
def setCondition (status : ClusterDomainRouteStatus) (condition : ClusterDomainRouteCondition) :
    Bool × ClusterDomainRouteStatus :=
  let (changed, conditions) := setConditionIn condition status.conditions
  (changed, { status with conditions := conditions })

/-- `IsReady`: the first `Ready` condition is `True`. -/
def IsReady (status : ClusterDomainRouteStatus) : Bool :=
  match status.conditions.find? (fun cond => cond.type = .ready) with
  | some cond => cond.status = .conditionTrue
  | none => false

/-- `common.GatewayHealthCheckDuration`, 15 s. -/
def gatewayHealthCheckDuration : Int := 15 * 1000000000

/-- `time.Since(t)` at clock `now`: `now.Sub(t)`, which saturates at the
bounds of `time.Duration`. -/
def since (now t : Int) : Int :=
  max (-2 ^ 63) (min (2 ^ 63 - 1) (now - t))

/-- `IsTokenHeartBeatTimeout` at clock `now`: some token is ready, some ready
token has a heartbeat, and no ready token's heartbeat is recent. -/
def IsTokenHeartBeatTimeout (now : Int) (tokens : List DomainRouteToken) : Bool :=
  let readyTokens := tokens.filter fun token => token.isReady
  if readyTokens.length ≤ 0 then false
  else
    -- heartbeatTime not exists compatible with lower versions
    let noHeartbeat := readyTokens.all fun token => token.heartBeatTime.isNone
    if noHeartbeat then false
    else if readyTokens.any (fun token =>
        match token.heartBeatTime with
        | some heartBeatTime => decide (since now heartBeatTime ≤ 2 * gatewayHealthCheckDuration)
        | none => false) then false
    else true

/-- What `syncStatusFromDomainroute` carries from block to block: whether a
write is needed, and its copy of the status. -/
structure SyncState where
  needUpdate : Bool
  status : ClusterDomainRouteStatus

/-- The source branch of `syncStatusFromDomainroute`: copy the source tokens;
not ready when there is none or the destination is unreachable. -/
def syncSourceTokens (srcdr : DomainRouteStatus) (status : ClusterDomainRouteStatus) :
    ClusterDomainRouteStatus :=
  let status := { status with tokenStatus := { status.tokenStatus with sourceTokens := srcdr.tokens } }
  if status.tokenStatus.sourceTokens.length = 0 then
    if !srcdr.isDestinationAuthorized then
      (setCondition status
        (newCondition .ready .conditionFalse "DestinationIsNotAuthrized" "TokenNotGenerate")).2
    else
      (setCondition status (newCondition .ready .conditionFalse "TokenNotGenerate" "TokenNotGenerate")).2
  else if srcdr.isDestinationUnreachable then
    (setCondition status
      (newCondition .ready .conditionFalse "DestinationUnreachable" "DestinationUnreachable")).2
  else status

/-- The source block: the branch runs when the source tokens changed or the
stored Ready bit disagrees with the source's reachability. -/
def syncSourceBlock (srcdr : Option DomainRouteStatus) (isSrcChanged : Bool) (state : SyncState) :
    SyncState :=
  match srcdr with
  | some src => if isSrcChanged then ⟨true, syncSourceTokens src state.status⟩ else state
  | none => state

/-- The destination branch: copy the destination tokens; not ready when there
is none. -/
def syncDestinationTokens (destdr : DomainRouteStatus) (status : ClusterDomainRouteStatus) :
    ClusterDomainRouteStatus :=
  let status :=
    { status with tokenStatus := { status.tokenStatus with destinationTokens := destdr.tokens } }
  if status.tokenStatus.destinationTokens.length = 0 then
    (setCondition status (newCondition .ready .conditionFalse "TokenNotGenerate" "TokenNotGenerate")).2
  else status

/-- The destination block: the branch runs when the destination tokens changed. -/
def syncDestinationBlock (destdr : Option DomainRouteStatus) (state : SyncState) : SyncState :=
  match destdr with
  | some dest =>
    if state.status.tokenStatus.destinationTokens ≠ dest.tokens then
      ⟨true, syncDestinationTokens dest state.status⟩
    else state
  | none => state

/-- The heartbeat block: a Ready route whose destination heartbeats all timed
out is marked not ready. -/
def heartBeatBlock (now : Int) (state : SyncState) : SyncState :=
  if IsReady state.status && IsTokenHeartBeatTimeout now state.status.tokenStatus.destinationTokens then
    ⟨true,
      (setCondition state.status (newCondition .ready .conditionFalse "HeartBeatTimeout" "HeartBeatTimeout")).2⟩
  else state

/-- The revision check made before a write: the last source and destination
tokens (`[sn-1]`, `[dn-1]`) must carry one revision. -/
def checkTokenRevision (status : ClusterDomainRouteStatus) : ClusterDomainRouteStatus :=
  match status.tokenStatus.sourceTokens.getLast?, status.tokenStatus.destinationTokens.getLast? with
  | some source, some destination =>
    if source.revision ≠ destination.revision then
      (setCondition status
        (newCondition .ready .conditionFalse "TokenRevisionNotMatch" "TokenRevisionNotMatch")).2
    else status
  | _, _ => status

/-- `syncStatusFromDomainroute` at clock `now`: the status it writes, if any. -/
def syncStatusFromDomainroute (now : Int) (status : ClusterDomainRouteStatus)
    (srcdr destdr : Option DomainRouteStatus) : Option ClusterDomainRouteStatus :=
  let isSrcTokenChanged := srcdr.any fun src => status.tokenStatus.sourceTokens ≠ src.tokens
  let isSrcStatusChanged := srcdr.any fun src => !src.isDestinationUnreachable != IsReady status
  -- init new condition
  let initialized : SyncState :=
    ⟨false, (setCondition status (newCondition .ready .conditionTrue "" "Success")).2⟩
  let synced :=
    heartBeatBlock now
      (syncDestinationBlock destdr
        (syncSourceBlock srcdr (isSrcTokenChanged || isSrcStatusChanged) initialized))
  if synced.needUpdate then some (checkTokenRevision synced.status) else none

/-- The status stored after a sync whose write, if any, succeeds. -/
def syncStep (now : Int) (srcdr destdr : Option DomainRouteStatus)
    (status : ClusterDomainRouteStatus) : ClusterDomainRouteStatus :=
  (syncStatusFromDomainroute now status srcdr destdr).getD status

/-- A run of syncs, each at its clock and with the DomainRoutes of its time. -/
def syncRun :
    List (Int × Option DomainRouteStatus × Option DomainRouteStatus) →
      ClusterDomainRouteStatus → ClusterDomainRouteStatus
  | [], status => status
  | (now, srcdr, destdr) :: rest, status => syncRun rest (syncStep now srcdr destdr status)

/-- The status of a new ClusterDomainRoute. -/
def emptyStatus : ClusterDomainRouteStatus := ⟨⟨[], []⟩, []⟩

/-- The last source and destination tokens carry one revision, where both
sides have a token. -/
def LastRevisionsMatch (tokenStatus : ClusterDomainRouteTokenStatus) : Prop :=
  ∀ source ∈ tokenStatus.sourceTokens.getLast?,
    ∀ destination ∈ tokenStatus.destinationTokens.getLast?, source.revision = destination.revision

instance (tokenStatus : ClusterDomainRouteTokenStatus) : Decidable (LastRevisionsMatch tokenStatus) :=
  inferInstanceAs (Decidable (∀ source ∈ _, ∀ destination ∈ _, _))

/-- The Ready condition evaluated from scratch: both DomainRoutes have a token,
the destination is reachable, the destination heartbeats have not timed out,
and the last tokens of both sides carry one revision. -/
def RouteReady (now : Int) (srcdr destdr : DomainRouteStatus) : Prop :=
  srcdr.tokens ≠ [] ∧ srcdr.isDestinationUnreachable = false ∧ destdr.tokens ≠ [] ∧
    IsTokenHeartBeatTimeout now destdr.tokens = false ∧ LastRevisionsMatch ⟨srcdr.tokens, destdr.tokens⟩

instance (now : Int) (srcdr destdr : DomainRouteStatus) : Decidable (RouteReady now srcdr destdr) :=
  inferInstanceAs (Decidable (_ ∧ _ ∧ _ ∧ _ ∧ _))

/-! ## Setting a condition -/

theorem setCondition_snd
    (status : ClusterDomainRouteStatus)
    (condition : ClusterDomainRouteCondition) :
    (setCondition status condition).2 =
      { status with conditions := (setConditionIn condition status.conditions).2 } := rfl

@[simp] theorem setCondition_tokenStatus
    (status : ClusterDomainRouteStatus)
    (condition : ClusterDomainRouteCondition) :
    (setCondition status condition).2.tokenStatus = status.tokenStatus := rfl

@[simp] theorem IsReady_withTokenStatus
    (status : ClusterDomainRouteStatus)
    (tokenStatus : ClusterDomainRouteTokenStatus) :
    IsReady { status with tokenStatus := tokenStatus } = IsReady status := rfl

/-- After the loop, the first condition of the type has the status set. -/
theorem find?_setConditionIn
    {condition : ClusterDomainRouteCondition}
    {conditionType : ClusterDomainRouteConditionType}
    (typeIs : condition.type = conditionType) :
    ∀ conditions : List ClusterDomainRouteCondition,
      ∃ found, (setConditionIn condition conditions).2.find? (fun cond => cond.type = conditionType) =
        some found ∧ found.status = condition.status := by
  subst typeIs
  intro conditions
  induction conditions with
  | nil => exact ⟨condition, by simp [setConditionIn], rfl⟩
  | cons v rest inductionHypothesis =>
    by_cases sameType : v.type = condition.type
    · by_cases sameStatus : v.status = condition.status
      · exact ⟨v, by simp [setConditionIn, sameType, sameStatus], sameStatus⟩
      · exact ⟨condition, by simp [setConditionIn, sameType, sameStatus], rfl⟩
    · obtain ⟨found, foundIs, foundStatus⟩ := inductionHypothesis
      refine ⟨found, ?_, foundStatus⟩
      -- a condition of another type is kept in front and skipped by the search
      have kept : (setConditionIn condition (v :: rest)).2 = v :: (setConditionIn condition rest).2 := by
        simp [setConditionIn, sameType]
      rw [kept, List.find?_cons_of_neg (by simpa using sameType)]
      exact foundIs

/-- Setting the Ready condition makes `IsReady` read its status. -/
@[simp] theorem IsReady_setCondition_ready
    (status : ClusterDomainRouteStatus)
    (conditionStatus : ConditionStatus)
    (reason message : String) :
    IsReady (setCondition status (newCondition .ready conditionStatus reason message)).2 =
      decide (conditionStatus = .conditionTrue) := by
  obtain ⟨found, foundIs, foundStatus⟩ :=
    @find?_setConditionIn (newCondition .ready conditionStatus reason message) .ready rfl
      status.conditions
  unfold IsReady
  rw [setCondition_snd]
  dsimp only
  rw [foundIs]
  dsimp only
  rw [foundStatus]
  rfl

/-! ## The blocks -/

/-- A block of the sync leaves its state as it is or asks for a write. -/
def LeavesOrWrites (block : SyncState → SyncState) : Prop :=
  ∀ state, block state = state ∨ (block state).needUpdate = true

/-- A block that asks for no write left its state as it was. -/
theorem LeavesOrWrites.eq_of_quiet
    {block : SyncState → SyncState}
    (leaves : LeavesOrWrites block)
    {state : SyncState}
    (quiet : (block state).needUpdate = false) :
    block state = state := by
  rcases leaves state with same | writes
  · exact same
  · rw [writes] at quiet
    cases quiet

theorem syncSourceBlock_leavesOrWrites
    (srcdr : Option DomainRouteStatus)
    (isSrcChanged : Bool) :
    LeavesOrWrites (syncSourceBlock srcdr isSrcChanged) := by
  intro state
  unfold syncSourceBlock
  split
  · split
    · exact Or.inr rfl
    · exact Or.inl rfl
  · exact Or.inl rfl

theorem syncDestinationBlock_leavesOrWrites
    (destdr : Option DomainRouteStatus) :
    LeavesOrWrites (syncDestinationBlock destdr) := by
  intro state
  unfold syncDestinationBlock
  split
  · split
    · exact Or.inr rfl
    · exact Or.inl rfl
  · exact Or.inl rfl

theorem heartBeatBlock_leavesOrWrites
    (now : Int) :
    LeavesOrWrites (heartBeatBlock now) := by
  intro state
  unfold heartBeatBlock
  split
  · exact Or.inr rfl
  · exact Or.inl rfl

/-- A sync that asks for no write ran none of its blocks. -/
theorem blocks_quiet
    {now : Int}
    {srcdr destdr : Option DomainRouteStatus}
    {isSrcChanged : Bool}
    {initialized : SyncState}
    (quiet :
      (heartBeatBlock now
        (syncDestinationBlock destdr (syncSourceBlock srcdr isSrcChanged initialized))).needUpdate = false) :
    syncSourceBlock srcdr isSrcChanged initialized = initialized ∧
      syncDestinationBlock destdr initialized = initialized ∧
      heartBeatBlock now initialized = initialized := by
  have heartBeatQuiet := (heartBeatBlock_leavesOrWrites now).eq_of_quiet quiet
  rw [heartBeatQuiet] at quiet
  have destinationQuiet := (syncDestinationBlock_leavesOrWrites destdr).eq_of_quiet quiet
  rw [destinationQuiet] at quiet heartBeatQuiet
  have sourceQuiet := (syncSourceBlock_leavesOrWrites srcdr isSrcChanged).eq_of_quiet quiet
  rw [sourceQuiet] at destinationQuiet heartBeatQuiet
  exact ⟨sourceQuiet, destinationQuiet, heartBeatQuiet⟩

/-- A quiet source block with a source DomainRoute did not run its branch. -/
theorem isSrcChanged_of_quiet
    {srcdr : DomainRouteStatus}
    {isSrcChanged : Bool}
    {state : SyncState}
    (quiet : syncSourceBlock (some srcdr) isSrcChanged state = state)
    (notWriting : state.needUpdate = false) :
    isSrcChanged = false := by
  cases isSrcChanged with
  | false => rfl
  | true =>
    have writes := congrArg SyncState.needUpdate quiet
    simp only [syncSourceBlock, if_true] at writes
    rw [notWriting] at writes
    cases writes

/-- A quiet heartbeat block on a Ready status saw no timeout. -/
theorem heartBeatBlock_alive_of_quiet
    {now : Int}
    {state : SyncState}
    (quiet : heartBeatBlock now state = state)
    (notWriting : state.needUpdate = false)
    (ready : IsReady state.status = true) :
    IsTokenHeartBeatTimeout now state.status.tokenStatus.destinationTokens = false := by
  by_cases fired : (IsReady state.status && IsTokenHeartBeatTimeout now
      state.status.tokenStatus.destinationTokens) = true
  · have writes := congrArg SyncState.needUpdate quiet
    simp only [heartBeatBlock, fired, if_true] at writes
    rw [notWriting] at writes
    cases writes
  · simpa [ready] using fired

/-- A Ready status after the heartbeat block has no timed-out destination. -/
theorem heartBeatBlock_sound
    (now : Int)
    (state : SyncState)
    (ready : IsReady (heartBeatBlock now state).status = true) :
    IsTokenHeartBeatTimeout now (heartBeatBlock now state).status.tokenStatus.destinationTokens =
      false := by
  unfold heartBeatBlock at ready ⊢
  by_cases fired : (IsReady state.status && IsTokenHeartBeatTimeout now
      state.status.tokenStatus.destinationTokens) = true
  · rw [if_pos fired] at ready
    simp at ready
  · rw [if_neg fired] at ready ⊢
    simpa [ready] using fired

/-- With live destination heartbeats the heartbeat block does nothing. -/
theorem heartBeatBlock_of_alive
    (now : Int)
    (state : SyncState)
    (alive : IsTokenHeartBeatTimeout now state.status.tokenStatus.destinationTokens = false) :
    heartBeatBlock now state = state := by
  simp [heartBeatBlock, alive]

@[simp] theorem checkTokenRevision_tokenStatus
    (status : ClusterDomainRouteStatus) :
    (checkTokenRevision status).tokenStatus = status.tokenStatus := by
  unfold checkTokenRevision
  split
  · split <;> rfl
  · rfl

/-- Matching revisions pass the check unchanged. -/
theorem checkTokenRevision_of_match
    (status : ClusterDomainRouteStatus)
    (matching : LastRevisionsMatch status.tokenStatus) :
    checkTokenRevision status = status := by
  unfold checkTokenRevision
  split
  · rename_i source destination sourceIs destinationIs
    rw [if_neg (not_not.mpr (matching source sourceIs destination destinationIs))]
  · rfl

/-- A status left Ready by the check was Ready and passes it. -/
theorem checkTokenRevision_sound
    (status : ClusterDomainRouteStatus)
    (ready : IsReady (checkTokenRevision status) = true) :
    IsReady status = true ∧ LastRevisionsMatch status.tokenStatus := by
  unfold checkTokenRevision at ready
  split at ready
  · rename_i source destination sourceIs destinationIs
    split at ready
    · simp at ready
    · rename_i sameRevision
      refine ⟨ready, ?_⟩
      intro otherSource otherSourceIs otherDestination otherDestinationIs
      rw [Option.mem_def, sourceIs, Option.some.injEq] at otherSourceIs
      rw [Option.mem_def, destinationIs, Option.some.injEq] at otherDestinationIs
      rw [← otherSourceIs, ← otherDestinationIs]
      exact not_not.mp sameRevision
  · rename_i noLastPair
    refine ⟨ready, ?_⟩
    intro source sourceIs destination destinationIs
    exact (noLastPair source destination sourceIs destinationIs).elim

/-- A source with a token and a reachable destination only has its tokens copied. -/
theorem syncSourceTokens_of_route
    {srcdr : DomainRouteStatus}
    (hasToken : srcdr.tokens ≠ [])
    (reachable : srcdr.isDestinationUnreachable = false)
    (status : ClusterDomainRouteStatus) :
    syncSourceTokens srcdr status =
      { status with tokenStatus := { status.tokenStatus with sourceTokens := srcdr.tokens } } := by
  have notEmpty : ¬ srcdr.tokens.length = 0 := by
    simpa using hasToken
  simp [syncSourceTokens, notEmpty, reachable]

/-- Such a source block leaves the source tokens mirrored and the conditions
as they were, whether its branch runs or found them mirrored already. -/
theorem syncSourceBlock_of_route
    {srcdr : DomainRouteStatus}
    (hasToken : srcdr.tokens ≠ [])
    (reachable : srcdr.isDestinationUnreachable = false)
    (isSrcChanged : Bool)
    (state : SyncState)
    (mirrored : isSrcChanged = false → state.status.tokenStatus.sourceTokens = srcdr.tokens) :
    (syncSourceBlock (some srcdr) isSrcChanged state).status =
      { state.status with tokenStatus := { state.status.tokenStatus with sourceTokens := srcdr.tokens } } := by
  cases isSrcChanged with
  | true => exact syncSourceTokens_of_route hasToken reachable state.status
  | false =>
    rw [← mirrored rfl]
    rfl

/-- A destination with a token only has its tokens copied. -/
theorem syncDestinationTokens_of_token
    {destdr : DomainRouteStatus}
    (hasToken : destdr.tokens ≠ [])
    (status : ClusterDomainRouteStatus) :
    syncDestinationTokens destdr status =
      { status with tokenStatus := { status.tokenStatus with destinationTokens := destdr.tokens } } := by
  have notEmpty : ¬ destdr.tokens.length = 0 := by
    simpa using hasToken
  simp [syncDestinationTokens, notEmpty]

/-- Such a destination block leaves the destination tokens mirrored and the
conditions as they were. -/
theorem syncDestinationBlock_of_token
    {destdr : DomainRouteStatus}
    (hasToken : destdr.tokens ≠ [])
    (state : SyncState) :
    (syncDestinationBlock (some destdr) state).status =
      { state.status with
        tokenStatus := { state.status.tokenStatus with destinationTokens := destdr.tokens } } := by
  unfold syncDestinationBlock
  dsimp only
  split
  · exact syncDestinationTokens_of_token hasToken state.status
  · rename_i unchanged
    rw [← not_not.mp unchanged]

/-! ## A `False` is never stale -/

/-- Whenever both DomainRoutes pass every check, the status a sync leaves is
Ready, from any stored status. -/
theorem ready_of_route_conditions
    (now : Int)
    (status : ClusterDomainRouteStatus)
    (srcdr destdr : DomainRouteStatus)
    (routeReady : RouteReady now srcdr destdr) :
    IsReady (syncStep now (some srcdr) (some destdr) status) = true := by
  obtain ⟨srcHasToken, srcReachable, destHasToken, destAlive, revisionsMatch⟩ := routeReady
  unfold syncStep syncStatusFromDomainroute
  dsimp only [Option.any_some]
  generalize isSrcChangedIs : (decide (status.tokenStatus.sourceTokens ≠ srcdr.tokens) ||
    (!srcdr.isDestinationUnreachable != IsReady status)) = isSrcChanged
  generalize initializedIs :
    (⟨false, (setCondition status (newCondition .ready .conditionTrue "" "Success")).2⟩ : SyncState) =
      initialized
  have initializedReady : IsReady initialized.status = true := by
    rw [← initializedIs]
    simp
  have sourceMirrored :
      isSrcChanged = false → initialized.status.tokenStatus.sourceTokens = srcdr.tokens := by
    intro unchanged
    rw [← isSrcChangedIs] at unchanged
    rw [← initializedIs]
    simpa using (Bool.or_eq_false_iff.mp unchanged).1
  have afterSource :=
    syncSourceBlock_of_route srcHasToken srcReachable isSrcChanged initialized sourceMirrored
  have afterDestination :=
    syncDestinationBlock_of_token destHasToken (syncSourceBlock (some srcdr) isSrcChanged initialized)
  split
  · -- a write: the blocks copied both token lists and the checks pass on them
    rw [Option.getD_some]
    have syncedTokens :
        (syncDestinationBlock (some destdr)
          (syncSourceBlock (some srcdr) isSrcChanged initialized)).status.tokenStatus =
          ⟨srcdr.tokens, destdr.tokens⟩ := by
      rw [afterDestination, afterSource]
    rw [heartBeatBlock_of_alive now _ (by rw [syncedTokens]; exact destAlive),
      checkTokenRevision_of_match _ (by rw [syncedTokens]; exact revisionsMatch),
      afterDestination, IsReady_withTokenStatus, afterSource, IsReady_withTokenStatus]
    exact initializedReady
  · -- no write: the stored Ready bit agreed with the reachable source
    rename_i quiet
    rw [Option.getD_none]
    have notWriting : initialized.needUpdate = false := by
      rw [← initializedIs]
    obtain ⟨sourceQuiet, -, -⟩ := blocks_quiet (Bool.eq_false_iff.mpr quiet)
    have unchanged := isSrcChanged_of_quiet sourceQuiet notWriting
    rw [← isSrcChangedIs] at unchanged
    have agrees := (Bool.or_eq_false_iff.mp unchanged).2
    simpa [srcReachable] using agrees

theorem ready_of_route_conditions_oneToken :
    let token : DomainRouteToken := ⟨true, "token", 1, none, none, some 0, []⟩
    let srcdr : DomainRouteStatus := ⟨true, false, [token]⟩
    let destdr : DomainRouteStatus := ⟨true, false, [token]⟩
    RouteReady 0 srcdr destdr ∧ IsReady (syncStep 0 (some srcdr) (some destdr) emptyStatus) = true :=
  ⟨by decide, ready_of_route_conditions 0 emptyStatus _ _ (by decide)⟩

/-! ## A `True` is sound for the checks made at a write -/

/-- A Ready status passed the revision check on its tokens. -/
def ReadyRevisionsMatch (status : ClusterDomainRouteStatus) : Prop :=
  IsReady status = true → LastRevisionsMatch status.tokenStatus

/-- After a sync, a Ready status has live destination heartbeats at the sync's
clock, and matching last revisions if it had them before. -/
theorem syncStep_sound
    (now : Int)
    (srcdr destdr : Option DomainRouteStatus)
    {status : ClusterDomainRouteStatus}
    (revisionsMatch : ReadyRevisionsMatch status)
    (ready : IsReady (syncStep now srcdr destdr status) = true) :
    IsTokenHeartBeatTimeout now (syncStep now srcdr destdr status).tokenStatus.destinationTokens =
        false ∧
      LastRevisionsMatch (syncStep now srcdr destdr status).tokenStatus := by
  unfold syncStep syncStatusFromDomainroute at ready ⊢
  dsimp only at ready ⊢
  split
  · -- a write: the heartbeat block and the revision check both let Ready stand
    rename_i writes
    rw [if_pos writes, Option.getD_some] at ready
    rw [Option.getD_some, checkTokenRevision_tokenStatus]
    obtain ⟨syncedReady, syncedMatch⟩ := checkTokenRevision_sound _ ready
    exact ⟨heartBeatBlock_sound now _ syncedReady, syncedMatch⟩
  · -- no write: the stored status stands, and the quiet heartbeat block saw it alive
    rename_i quiet
    rw [if_neg quiet, Option.getD_none] at ready
    rw [Option.getD_none]
    obtain ⟨-, -, heartBeatQuiet⟩ := blocks_quiet (Bool.eq_false_iff.mpr quiet)
    refine ⟨?_, revisionsMatch ready⟩
    simpa using heartBeatBlock_alive_of_quiet heartBeatQuiet rfl (by simp)

theorem ReadyRevisionsMatch.step
    (now : Int)
    (srcdr destdr : Option DomainRouteStatus)
    {status : ClusterDomainRouteStatus}
    (revisionsMatch : ReadyRevisionsMatch status) :
    ReadyRevisionsMatch (syncStep now srcdr destdr status) :=
  fun ready => (syncStep_sound now srcdr destdr revisionsMatch ready).2

theorem ReadyRevisionsMatch.run :
    ∀ (syncs : List (Int × Option DomainRouteStatus × Option DomainRouteStatus))
      (status : ClusterDomainRouteStatus),
      ReadyRevisionsMatch status → ReadyRevisionsMatch (syncRun syncs status) := by
  intro syncs
  induction syncs with
  | nil =>
    intro status revisionsMatch
    exact revisionsMatch
  | cons sync rest inductionHypothesis =>
    intro status revisionsMatch
    obtain ⟨now, srcdr, destdr⟩ := sync
    exact inductionHypothesis _ (revisionsMatch.step now srcdr destdr)

theorem emptyStatus_readyRevisionsMatch :
    ReadyRevisionsMatch emptyStatus := by
  intro ready
  cases ready

/-- After every sync of a run from an empty status, a Ready status has live
destination heartbeats at that sync's clock, and its last source and
destination tokens carry one revision. -/
theorem ready_status_sound
    (syncs : List (Int × Option DomainRouteStatus × Option DomainRouteStatus))
    (now : Int)
    (srcdr destdr : Option DomainRouteStatus)
    (ready : IsReady (syncStep now srcdr destdr (syncRun syncs emptyStatus)) = true) :
    IsTokenHeartBeatTimeout now
        (syncStep now srcdr destdr (syncRun syncs emptyStatus)).tokenStatus.destinationTokens = false ∧
      LastRevisionsMatch (syncStep now srcdr destdr (syncRun syncs emptyStatus)).tokenStatus :=
  syncStep_sound now srcdr destdr
    (ReadyRevisionsMatch.run syncs emptyStatus emptyStatus_readyRevisionsMatch) ready

theorem ready_status_sound_afterTwoSyncs :
    let token : DomainRouteToken := ⟨true, "token", 1, none, none, some 0, []⟩
    let srcdr : DomainRouteStatus := ⟨true, false, [token]⟩
    IsReady (syncStep 5 (some srcdr) (some srcdr) (syncRun [(0, some srcdr, none)] emptyStatus)) =
        true ∧
      IsTokenHeartBeatTimeout 5
          (syncStep 5 (some srcdr) (some srcdr)
            (syncRun [(0, some srcdr, none)] emptyStatus)).tokenStatus.destinationTokens = false ∧
        LastRevisionsMatch
          (syncStep 5 (some srcdr) (some srcdr) (syncRun [(0, some srcdr, none)] emptyStatus)).tokenStatus :=
  ⟨by decide, ready_status_sound _ 5 _ _ (by decide)⟩

/-! ## The Ready bit against its conditions -/

/-- Two runs from an empty status.  A destination DomainRoute without a token
has the same (empty) token list as the new status, so its side is never
examined and the first sync writes `Ready = True`.  And once the source is
unreachable and `Ready = False` is stored, a new destination token makes the
sync write `Ready = True` without looking at the source. -/
theorem ready_stands_while_route_fails :
    let token : DomainRouteToken := ⟨true, "token", 1, none, none, none, []⟩
    let srcdr : DomainRouteStatus := ⟨true, false, [token]⟩
    let unreachable : DomainRouteStatus := ⟨true, true, [token]⟩
    let noToken : DomainRouteStatus := ⟨true, false, []⟩
    let oneToken : DomainRouteStatus := ⟨true, false, [token]⟩
    let written := syncStep 0 (some srcdr) (some noToken) emptyStatus
    let markedUnreachable := syncStep 0 (some unreachable) (some noToken) written
    let destinationTokenAdded := syncStep 0 (some unreachable) (some oneToken) markedUnreachable
    (IsReady written = true ∧ ¬ RouteReady 0 srcdr noToken) ∧
      IsReady markedUnreachable = false ∧
      (IsReady destinationTokenAdded = true ∧ ¬ RouteReady 0 unreachable oneToken) := by
  decide

end Kuscia.ClusterDomainRoute
