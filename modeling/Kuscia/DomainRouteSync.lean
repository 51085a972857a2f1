import Mathlib
import Kuscia.DomainRouteRolling
import Kuscia.GoStrconv

namespace Kuscia.DomainRoute

/-!
# The DomainRoute sync and the handshake's readiness check

The controller's `syncHandler` writes a DomainRoute's status on both sides of
the route.  On the source it starts a new rolling round, changes the initializer
or appends the ready revision.  On the destination it drops an expired first
token or runs `postRollingDestinationDomainRoute`.  Together with the
handshake's `DestReplyHandshake` and each gateway's
`checkAndUpdateTokenInstances`, these are the only writes to the destination's
window (`DestinationEvent`).

The source then asks the destination about its revision.  It sends a GET with
the revision printed in decimal (`checkConnectionStatus`), and the destination
looks the text up in its window (`checkTokenStatus`, `checkTokenRevision`,
`IndexToken`).  `IndexToken` returns the first token that prints as the text,
so the answer speaks for "the" token of a revision only while no two tokens
share one.  The destination's writes keep the window's revisions strictly
increasing (`RevisionsIncrease.runDestination`), and `FormatInt` prints two
revisions apart (`Go.FormatInt_injective`).  So from every reachable
destination status, a token's revision is answered with that token's
readiness.

The source's `handleGetResponse` acts on the answer.  It marks its revision
ready on `TokenReady`, drops its whole token status on `TokenNotFound`, and
returns an error otherwise.  Before that, a source that had marked its
destination unreachable (`markDestUnreachable`, after a failed GET past the
heartbeat timeout) writes it reachable again (`markDestReachable`).  The
answer is then handled on the status read before that write, which the API
server refuses as stale, so such a round neither marks nor wipes
(`checkConnectionStatus_of_unreachable`); the next round does.  The lister's `Get` reads a local cache and fails
only with `NotFound`.  The token's `HeartBeatTime`, which `checkTokenStatus`
refreshes, is read by nothing here and is left out.
-/

/-! ## The controller's sync -/

/-- `needRollingToNext`: an unready revision is rolled again once it has waited
a sync period; a ready one, with rolling on, once it is older than the rolling
period or past its expiration. -/
def needRollingToNext (rt : DomainRouteToken) (rollingUpdatePeriod now : Int) : Bool :=
  if !rt.isReady then decide (now - rt.revisionTime > domainRouteSyncPeriod)
  else
    decide (rollingUpdatePeriod > 0 ∧
      (now - rt.revisionTime > rollingUpdatePeriod * Go.nanosPerSecond ∨ now > rt.expirationTime))

/-- `ensureInitializer`: the status with another initializer when
`selectInitializer` picks one, nothing when it keeps the current one, and the
error when there is no live gateway. -/
def ensureInitializer (domainNamespace : String) (ts : TokenStatus) (gateways : List Gateway)
    (now : Int) (draw : Nat) : Except String (Option TokenStatus) :=
  match selectInitializer domainNamespace ts.revisionInitializer gateways now draw with
  | .error err => .error err
  | .ok initializer =>
    if initializer = ts.revisionInitializer then .ok none
    else .ok (some { ts with revisionInitializer := initializer })

/-- The source's branch of `syncHandler`, for a route with token
authentication and both public keys: roll to the next revision when it is due,
otherwise settle the initializer, otherwise append a ready revision. -/
def syncSourceDomainRoute (domainNamespace : String) (ts : TokenStatus) (rollingUpdatePeriod : Int)
    (gateways : List Gateway) (now : Int) (draw : Nat) : Option TokenStatus :=
  if needRollingToNext ts.revisionToken rollingUpdatePeriod now then
    preRollingSourceDomainRoute domainNamespace ts gateways now draw
  else
    match ensureInitializer domainNamespace ts gateways now draw with
    | .error _ => none
    | .ok (some written) => some written
    | .ok none => if ts.revisionToken.isReady then postRollingSourceDomainRoute ts else none

/-- The destination's branch of `syncHandler`: the expired first token is
dropped, and only when there is none does `postRollingDestinationDomainRoute`
run. -/
def syncDestinationDomainRoute (ts : TokenStatus) (rollingUpdatePeriod : Int)
    (gateways : List Gateway) (now : Int) : Option TokenStatus :=
  match deleteExpiredToken ts rollingUpdatePeriod now with
  | some written => some written
  | none => postRollingDestinationDomainRoute ts gateways now

/-- The writes to a destination's status: the controller's sync, the POST
handshake's new revision, and a gateway listing itself in the tokens. -/
inductive DestinationEvent where
  | sync (rollingUpdatePeriod : Int) (gateways : List Gateway) (now : Int)
  | destReply (tokenEncrypted : String) (rollingUpdatePeriod now : Int)
  | syncInstances (gatewayName : String)

/-- One write to the destination's status, or the status unchanged. -/
def destinationStep (ts : TokenStatus) : DestinationEvent → TokenStatus
  | .sync rollingUpdatePeriod gateways now =>
    (syncDestinationDomainRoute ts rollingUpdatePeriod gateways now).getD ts
  | .destReply tokenEncrypted rollingUpdatePeriod now =>
    (destReplyHandshake ts tokenEncrypted rollingUpdatePeriod now).getD ts
  | .syncInstances gatewayName => (checkAndUpdateTokenInstances ts gatewayName).getD ts

/-- A sequence of writes to the destination's status. -/
def runDestination (ts : TokenStatus) (events : List DestinationEvent) : TokenStatus :=
  events.foldl destinationStep ts

/-! ## The destination's answer -/

/-- `DestinationStatus`, the answer to a GET handshake. -/
inductive DestinationStatus where
  | TokenReady
  | DomainIDInputInvalid
  | TokenRevisionInputInvalid
  | TokenNotReady
  | TokenNotFound
  | NoAuthentication
  | InternalError
  | NetworkUnreachable
  deriving DecidableEq, Repr

/-- `kusciaapisv1alpha1.DomainRouteToken{}`. -/
def emptyToken : DomainRouteToken :=
  ⟨"", 0, zeroTime, zeroTime, false, []⟩

/-- The loop of `IndexToken` from position `index` on: the first token whose
revision prints as `revision`, with its position, or `-1`. -/
def indexTokenFrom (revision : String) (index : Nat) :
    List DomainRouteToken → Int × DomainRouteToken
  | [] => (-1, emptyToken)
  | t :: rest =>
    if Go.FormatInt t.revision = revision then (index, t)
    else indexTokenFrom revision (index + 1) rest

/-- `IndexToken`. -/
def IndexToken (revision : String) (ts : TokenStatus) : Int × DomainRouteToken :=
  indexTokenFrom revision 0 ts.tokens

/-- `checkTokenRevision`. -/
def checkTokenRevision (tokenRevision : String) (ts : TokenStatus) : DestinationStatus :=
  if tokenRevision = "" then .TokenRevisionInputInvalid
  else if (IndexToken tokenRevision ts).1 = -1 then .TokenNotFound
  else if (IndexToken tokenRevision ts).2.isReady then .TokenReady
  else .TokenNotReady

/-- `checkTokenStatus`, with the route the lister finds for `domainID`, or
`none` when it finds none. -/
def checkTokenStatus (domainID tokenRevision : String) (route : Option TokenStatus) :
    DestinationStatus :=
  if domainID = "" then .DomainIDInputInvalid
  else
    match route with
    | some ts => checkTokenRevision tokenRevision ts
    | none => .NoAuthentication

/-! ## The source's reaction -/

/-- `DomainRouteStatus`, as the source's gateway reads and writes it. -/
structure RouteStatus where
  isDestinationAuthorized : Bool
  isDestinationUnreachable : Bool
  tokenStatus : TokenStatus
  deriving DecidableEq, Repr

/-- `kusciaapisv1alpha1.DomainRouteTokenStatus{}`. -/
def emptyTokenStatus : TokenStatus :=
  ⟨"", emptyToken, []⟩

/-- `handleGetResponse`: the status the source writes, if any, and the error it
returns.  An empty window is `nil` here: the status is read back from the API
server, which omits an empty `tokens`. -/
def handleGetResponse (state : DestinationStatus) (name : String) (dr : RouteStatus) :
    Option RouteStatus × Option String :=
  match state with
  | .TokenReady =>
    if !dr.tokenStatus.revisionToken.isReady then
      (some { dr with
        tokenStatus := { dr.tokenStatus with
          revisionToken := { dr.tokenStatus.revisionToken with isReady := true } }
        isDestinationUnreachable := false }, none)
    else (none, none)
  | .TokenNotFound =>
    if dr.tokenStatus.revisionToken.token ≠ "" ∨ dr.tokenStatus.tokens ≠ [] ∨
        dr.tokenStatus.revisionToken.isReady then
      (some { dr with tokenStatus := emptyTokenStatus }, none)
    else (none, none)
  | .DomainIDInputInvalid =>
    (none, some (name ++
      " destinationreturn  DomainIDInputInvalid, check \x27Kuscia-Source\x27 in header"))
  | .TokenRevisionInputInvalid =>
    (none, some (name ++
      " destination return TokenRevisionInputInvalid, check \x27Kuscia-Token-Revision\x27 in header"))
  | .TokenNotReady => (none, some (name ++ " destination token is not ready"))
  | .NoAuthentication =>
    if dr.isDestinationAuthorized then
      (some ⟨false, false, emptyTokenStatus⟩,
        some (name ++ " cant contact destination because destination authentication is false"))
    else (none, none)
  | .InternalError => (none, some (name ++ " destination return unkown error"))
  | .NetworkUnreachable => (none, none)

/-- `markDestReachable`: once the GET comes back, a source that had marked its
destination unreachable writes it reachable. -/
def markDestReachable (dr : RouteStatus) : Option RouteStatus :=
  if dr.isDestinationUnreachable then some { dr with isDestinationUnreachable := false }
  else none

/-- `markDestUnreachable`: once the GET fails after the heartbeat has timed
out, a source that saw its destination reachable writes it unreachable. -/
def markDestUnreachable (dr : RouteStatus) (heartbeatTimeout : Bool) : Option RouteStatus :=
  if !dr.isDestinationUnreachable && heartbeatTimeout then
    some { dr with isDestinationUnreachable := true }
  else none

/-- The error `UpdateStatus` returns for an object older than the stored one,
in the API server's words. -/
def conflictError (name : String) : String :=
  "Operation cannot be fulfilled on domainroutes.kuscia.secretflow \"" ++ name ++
    "\": the object has been modified; please apply your changes to the latest version and try again"

/-- `checkConnectionStatus` once the GET is answered: the source sends its
revision, printed by `%d`, marks the destination reachable again, and handles
the destination's answer on the status it read.  After a write of
`markDestReachable` that status is stale, and the API server refuses the
write of `handleGetResponse` with a conflict; on `NoAuthentication` the source
drops that error and returns its own. -/
def checkConnectionStatus (source name : String) (dr : RouteStatus)
    (destination : Option TokenStatus) : Option RouteStatus × Option String :=
  let tokenRevision := Go.FormatInt dr.tokenStatus.revisionToken.revision
  let state := checkTokenStatus source tokenRevision destination
  let handled := handleGetResponse state name dr
  match markDestReachable dr with
  | none => handled
  | some reachable =>
    let err := match handled.1 with
      | none => handled.2
      | some _ => if state = .NoAuthentication then handled.2 else some (conflictError name)
    (some reachable, err)

/-- The writes to a source's status: the controller's sync, the revision the
POST handshake brings back (`UpdateDomainRouteRevisionToken`), and the GET
round against the destination's status, answered or failed. -/
inductive SourceEvent where
  | sync (domainNamespace : String) (rollingUpdatePeriod : Int) (gateways : List Gateway)
      (now : Int) (draw : Nat)
  | revisionUpdate (tokenEncrypted : String) (revision rollingUpdatePeriod expirationTime now : Int)
  | connectionCheck (source name : String) (destination : Option TokenStatus)
  | connectionFailure (heartbeatTimeout : Bool)

/-- One write to the source's status, or the status unchanged. -/
def sourceStep (dr : RouteStatus) : SourceEvent → RouteStatus
  | .sync domainNamespace rollingUpdatePeriod gateways now draw =>
    { dr with
      tokenStatus := (syncSourceDomainRoute domainNamespace dr.tokenStatus rollingUpdatePeriod
        gateways now draw).getD dr.tokenStatus }
  | .revisionUpdate tokenEncrypted revision rollingUpdatePeriod expirationTime now =>
    { dr with
      isDestinationAuthorized := true
      tokenStatus := UpdateDomainRouteRevisionToken dr.tokenStatus tokenEncrypted revision
        rollingUpdatePeriod expirationTime now }
  | .connectionCheck source name destination =>
    (checkConnectionStatus source name dr destination).1.getD dr
  | .connectionFailure heartbeatTimeout => (markDestUnreachable dr heartbeatTimeout).getD dr

/-- A sequence of writes to the source's status. -/
def runSource (dr : RouteStatus) (events : List SourceEvent) : RouteStatus :=
  events.foldl sourceStep dr

/-! ## The lookup -/

section ModifyLast

variable {α β : Type}

/-- Changing the last element in a way a projection does not see keeps the
projected list. -/
theorem map_modifyLast_of_comp
    {l : List α}
    (f : α → α)
    (g : α → β)
    (unseen : ∀ a, g (f a) = g a) :
    (l.modifyLast f).map g = l.map g := by
  cases lastIs : l.getLast? with
  | none =>
    rw [List.getLast?_eq_none_iff.mp lastIs]
    rfl
  | some a =>
    rw [modifyLast_of_getLast? f lastIs]
    conv_rhs => rw [← List.dropLast_append_getLast? a lastIs]
    simp [unseen]

end ModifyLast

/-- The test of `IndexToken`'s loop. -/
def printsAs (revision : String) (t : DomainRouteToken) : Bool :=
  Go.FormatInt t.revision = revision

/-- With no token of the revision, the loop returns `-1`. -/
theorem indexTokenFrom_of_find?_none
    {revision : String}
    {tokens : List DomainRouteToken}
    (missing : tokens.find? (printsAs revision) = none)
    (index : Nat) :
    indexTokenFrom revision index tokens = (-1, emptyToken) := by
  induction tokens generalizing index with
  | nil => rfl
  | cons t rest inductionHypothesis =>
    rw [List.find?_cons] at missing
    -- the head does not match, so the loop goes on at the next position
    split at missing
    · cases missing
    · rename_i headMisses
      rw [indexTokenFrom, if_neg (by simpa [printsAs] using headMisses)]
      exact inductionHypothesis missing (index + 1)

/-- The loop returns the first token of the revision, at a position that is
not `-1`. -/
theorem indexTokenFrom_of_find?_some
    {revision : String}
    {tokens : List DomainRouteToken}
    {t : DomainRouteToken}
    (found : tokens.find? (printsAs revision) = some t)
    (index : Nat) :
    ∃ position : Nat, indexTokenFrom revision index tokens = ((position : Int), t) := by
  induction tokens generalizing index with
  | nil => cases found
  | cons s rest inductionHypothesis =>
    rw [List.find?_cons] at found
    split at found
    · rename_i headMatches
      rw [indexTokenFrom, if_pos (by simpa [printsAs] using headMatches)]
      exact ⟨index, by rw [Option.some_inj.mp found]⟩
    · rename_i headMisses
      rw [indexTokenFrom, if_neg (by simpa [printsAs] using headMisses)]
      exact inductionHypothesis found (index + 1)

/-- `checkTokenRevision` answers from the first token whose revision prints as
the header. -/
theorem checkTokenRevision_eq_find?
    {tokenRevision : String}
    (given : tokenRevision ≠ "")
    (ts : TokenStatus) :
    checkTokenRevision tokenRevision ts =
      match ts.tokens.find? (printsAs tokenRevision) with
      | some t => if t.isReady then .TokenReady else .TokenNotReady
      | none => .TokenNotFound := by
  cases found : ts.tokens.find? (printsAs tokenRevision) with
  | none =>
    have indexed := indexTokenFrom_of_find?_none found 0
    simp only [checkTokenRevision, IndexToken, given, indexed, if_false, if_true]
  | some t =>
    obtain ⟨position, indexed⟩ := indexTokenFrom_of_find?_some found 0
    have notMissing : (position : Int) ≠ -1 := by omega
    simp only [checkTokenRevision, IndexToken, given, indexed, notMissing, if_false]

/-! ## The destination's window over runs -/

/-- The window's revisions strictly increase, and none is past the revision
being rolled. -/
structure RevisionsIncrease (ts : TokenStatus) : Prop where
  increasing : (ts.tokens.map (·.revision)).Pairwise (· < ·)
  atMostRevision : ∀ t ∈ ts.tokens, t.revision ≤ ts.revisionToken.revision

/-- Under increasing revisions, a token is the first, and only, token whose
revision prints as its own. -/
theorem find?_printsAs_of_mem
    {tokens : List DomainRouteToken}
    (increasing : (tokens.map (·.revision)).Pairwise (· < ·))
    {t : DomainRouteToken}
    (member : t ∈ tokens) :
    tokens.find? (printsAs (Go.FormatInt t.revision)) = some t := by
  have distinct : (tokens.map (·.revision)).Nodup := increasing.imp ne_of_lt
  cases found : tokens.find? (printsAs (Go.FormatInt t.revision)) with
  | none =>
    -- `t` itself matches, so the search cannot miss
    have misses := List.find?_eq_none.mp found t member
    simp [printsAs] at misses
  | some s =>
    have sameText : Go.FormatInt s.revision = Go.FormatInt t.revision := by
      simpa [printsAs] using List.find?_some found
    have sameRevision := Go.FormatInt_injective sameText
    rw [List.inj_on_of_nodup_map distinct (List.mem_of_find?_eq_some found) member sameRevision]

/-- From a window of increasing revisions, the GET handshake answers for each
token of the window with that token's readiness. -/
theorem checkTokenRevision_of_mem
    {ts : TokenStatus}
    (increasing : (ts.tokens.map (·.revision)).Pairwise (· < ·))
    {t : DomainRouteToken}
    (member : t ∈ ts.tokens) :
    checkTokenRevision (Go.FormatInt t.revision) ts =
      if t.isReady then .TokenReady else .TokenNotReady := by
  rw [checkTokenRevision_eq_find? (Go.FormatInt_ne_empty t.revision),
    find?_printsAs_of_mem increasing member]

/-- A token prints as a revision's text exactly when it has that revision. -/
theorem printsAs_FormatInt
    (revision : Int) :
    printsAs (Go.FormatInt revision) = fun t => decide (t.revision = revision) := by
  funext t
  simp only [printsAs, decide_eq_decide]
  exact Go.FormatInt_injective.eq_iff

/-- Asked about a revision's text, the destination answers `TokenNotFound`
exactly when no token has the revision. -/
theorem checkTokenRevision_eq_TokenNotFound_iff
    (revision : Int)
    (ts : TokenStatus) :
    checkTokenRevision (Go.FormatInt revision) ts = .TokenNotFound ↔
      ∀ t ∈ ts.tokens, t.revision ≠ revision := by
  rw [checkTokenRevision_eq_find? (Go.FormatInt_ne_empty revision), printsAs_FormatInt]
  cases found : ts.tokens.find? (fun t => decide (t.revision = revision)) with
  | none => simpa using List.find?_eq_none.mp found
  | some t =>
    -- the token found has the revision, so both sides fail
    have member := List.mem_of_find?_eq_some found
    have same : t.revision = revision := by simpa using List.find?_some found
    have answered :
        (if t.isReady then DestinationStatus.TokenReady else .TokenNotReady) ≠ .TokenNotFound := by
      split_ifs <;> simp
    exact iff_of_false answered fun missing => missing t member same

/-- With increasing revisions, asked about a revision's text, the destination
answers with the readiness of the token of that revision, and only so. -/
theorem checkTokenRevision_eq_readiness_iff
    {ts : TokenStatus}
    (increasing : (ts.tokens.map (·.revision)).Pairwise (· < ·))
    (revision : Int)
    (ready : Bool) :
    checkTokenRevision (Go.FormatInt revision) ts =
        (if ready then .TokenReady else .TokenNotReady) ↔
      ∃ t ∈ ts.tokens, t.revision = revision ∧ t.isReady = ready := by
  constructor
  · intro answered
    -- the answer is not `TokenNotFound`, so some token has the revision
    have found : ¬∀ t ∈ ts.tokens, t.revision ≠ revision := by
      rw [← checkTokenRevision_eq_TokenNotFound_iff, answered]
      split_ifs <;> simp
    simp only [not_forall, not_not] at found
    obtain ⟨t, member, same⟩ := found
    have reported := checkTokenRevision_of_mem increasing member
    rw [same, answered] at reported
    refine ⟨t, member, same, ?_⟩
    cases ready <;> cases readiness : t.isReady <;> simp_all
  · rintro ⟨t, member, rfl, rfl⟩
    exact checkTokenRevision_of_mem increasing member

namespace RevisionsIncrease

variable {ts ts' : TokenStatus}

/-- A step that writes nothing keeps the status. -/
theorem getD
    {written : Option TokenStatus}
    (r : RevisionsIncrease ts)
    (kept : ∀ ts', written = some ts' → RevisionsIncrease ts') :
    RevisionsIncrease (written.getD ts) := by
  cases written with
  | none => exact r
  | some ts' => exact kept ts' rfl

/-- The rolled window: the last token, whose revision differs from the
revision's and so is below it, then the revision. -/
theorem rolled
    (r : RevisionsIncrease ts)
    (differs : lastRevisionDiffers ts = true) :
    RevisionsIncrease { ts with tokens := rolledTokens ts } := by
  cases lastIs : ts.tokens.getLast? with
  | none =>
    exact ⟨by simp [rolledTokens, lastIs], by simp [rolledTokens, lastIs]⟩
  | some last =>
    have below : last.revision ≤ ts.revisionToken.revision :=
      r.atMostRevision last (List.mem_of_getLast? lastIs)
    have apart : last.revision ≠ ts.revisionToken.revision := by
      simpa [lastRevisionDiffers, lastIs] using differs
    have strictly : last.revision < ts.revisionToken.revision := lt_of_le_of_ne below apart
    exact ⟨by simpa [rolledTokens, lastIs] using strictly, by simp [rolledTokens, lastIs, below]⟩

/-- Marking the last token ready keeps every revision. -/
theorem markLastReady_revisions
    (tokens : List DomainRouteToken) :
    (markLastReady tokens).map (·.revision) = tokens.map (·.revision) :=
  map_modifyLast_of_comp _ _ fun _ => rfl

theorem postRollingDestinationDomainRoute
    {gateways : List Gateway}
    {now : Int}
    (r : RevisionsIncrease ts)
    (writes : DomainRoute.postRollingDestinationDomainRoute ts gateways now = some ts') :
    RevisionsIncrease ts' := by
  rcases postRollingDestinationDomainRoute_eq_some writes with
    ⟨-, -, differs, rfl⟩ | ⟨-, -, -, rfl⟩
  · exact r.rolled differs
  · -- marking ready moves no revision
    refine ⟨(markLastReady_revisions ts.tokens).symm ▸ r.increasing, ?_⟩
    intro t member
    have listed : t.revision ∈ ts.tokens.map (·.revision) := by
      rw [← markLastReady_revisions]
      exact List.mem_map_of_mem member
    obtain ⟨s, kept, sameRevision⟩ := List.mem_map.mp listed
    rw [← sameRevision]
    exact r.atMostRevision s kept

theorem deleteExpiredToken
    {rollingUpdatePeriod now : Int}
    (r : RevisionsIncrease ts)
    (writes : DomainRoute.deleteExpiredToken ts rollingUpdatePeriod now = some ts') :
    RevisionsIncrease ts' := by
  rw [deleteExpiredToken_eq_some writes]
  refine ⟨?_, fun t member => r.atMostRevision t (List.mem_of_mem_tail member)⟩
  rw [List.map_tail]
  exact r.increasing.sublist (List.tail_sublist _)

theorem syncDestinationDomainRoute
    {rollingUpdatePeriod : Int}
    {gateways : List Gateway}
    {now : Int}
    (r : RevisionsIncrease ts)
    (writes : DomainRoute.syncDestinationDomainRoute ts rollingUpdatePeriod gateways now =
      some ts') :
    RevisionsIncrease ts' := by
  unfold DomainRoute.syncDestinationDomainRoute at writes
  split at writes
  · rename_i deleted
    exact r.deleteExpiredToken (writes ▸ deleted)
  · exact r.postRollingDestinationDomainRoute writes

/-- The POST handshake's revision is the next one, above the whole window. -/
theorem destReplyHandshake
    {tokenEncrypted : String}
    {rollingUpdatePeriod now : Int}
    (r : RevisionsIncrease ts)
    (writes : DomainRoute.destReplyHandshake ts tokenEncrypted rollingUpdatePeriod now =
      some ts') :
    RevisionsIncrease ts' := by
  unfold DomainRoute.destReplyHandshake at writes
  split_ifs at writes
  rw [← Option.some_inj.mp writes]
  exact ⟨r.increasing, fun t member => (r.atMostRevision t member).trans (Int.le_add_one le_rfl)⟩

/-- Listing an instance moves no revision. -/
theorem checkAndUpdateTokenInstances
    {gatewayName : String}
    (r : RevisionsIncrease ts)
    (writes : DomainRoute.checkAndUpdateTokenInstances ts gatewayName = some ts') :
    RevisionsIncrease ts' := by
  rw [checkAndUpdateTokenInstances_eq_some writes]
  have sameRevisions :
      (ts.tokens.map fun t =>
          if gatewayName ∈ t.effectiveInstances then t
          else { t with effectiveInstances := t.effectiveInstances ++ [gatewayName] }).map
        (·.revision) = ts.tokens.map (·.revision) := by
    rw [List.map_map]
    congr 1
    funext t
    simp only [Function.comp_apply]
    split_ifs <;> rfl
  refine ⟨sameRevisions ▸ r.increasing, ?_⟩
  intro t member
  obtain ⟨s, kept, rfl⟩ := List.mem_map.mp member
  split_ifs
  · exact r.atMostRevision s kept
  · exact r.atMostRevision s kept

/-- Every write to the destination keeps the revisions increasing. -/
theorem destinationStep
    (r : RevisionsIncrease ts) :
    ∀ event, RevisionsIncrease (DomainRoute.destinationStep ts event)
  | .sync .. => r.getD fun _ => r.syncDestinationDomainRoute
  | .destReply .. => r.getD fun _ => r.destReplyHandshake
  | .syncInstances .. => r.getD fun _ => r.checkAndUpdateTokenInstances

/-- Every run of the destination keeps the revisions increasing. -/
theorem runDestination
    (r : RevisionsIncrease ts)
    (events : List DestinationEvent) :
    RevisionsIncrease (DomainRoute.runDestination ts events) := by
  induction events generalizing ts with
  | nil => exact r
  | cons event events inductionHypothesis =>
    exact inductionHypothesis (r.destinationStep event)

end RevisionsIncrease

/-- A route with no token yet has nothing to order. -/
theorem zeroStatus_revisionsIncrease :
    RevisionsIncrease zeroStatus :=
  ⟨List.Pairwise.nil, nofun⟩

/-! ## The destination's answer over runs -/

/-- From a status whose window's revisions increase, after any run of the
destination's writes, the GET handshake asked about a revision answers
`TokenReady` or `TokenNotReady` exactly as a token of that revision is ready or
not, and `TokenNotFound` exactly when no token has it. -/
theorem destination_answers_by_revision
    {ts : TokenStatus}
    (start : RevisionsIncrease ts)
    (events : List DestinationEvent)
    (revision : Int) :
    (∀ ready : Bool,
      checkTokenRevision (Go.FormatInt revision) (runDestination ts events) =
          (if ready then .TokenReady else .TokenNotReady) ↔
        ∃ t ∈ (runDestination ts events).tokens, t.revision = revision ∧ t.isReady = ready) ∧
      (checkTokenRevision (Go.FormatInt revision) (runDestination ts events) = .TokenNotFound ↔
        ∀ t ∈ (runDestination ts events).tokens, t.revision ≠ revision) :=
  ⟨checkTokenRevision_eq_readiness_iff (start.runDestination events).increasing revision,
    checkTokenRevision_eq_TokenNotFound_iff revision _⟩

/-- A fresh destination takes a revision, appends it, lists its gateway, marks
it ready, and then takes a second revision. -/
def twoRevisionDestinationEvents : List DestinationEvent :=
  [.destReply "token-1" 60 (1000 * Go.nanosPerSecond),
    .sync 60 [⟨"gw-1", 1000 * Go.nanosPerSecond⟩] (1001 * Go.nanosPerSecond),
    .syncInstances "gw-1",
    .sync 60 [⟨"gw-1", 1002 * Go.nanosPerSecond⟩] (1002 * Go.nanosPerSecond),
    .destReply "token-2" 60 (1010 * Go.nanosPerSecond)]

theorem destination_answers_by_revision_twoRevisions :
    RevisionsIncrease zeroStatus ∧
      ((∀ ready : Bool,
        checkTokenRevision (Go.FormatInt 1) (runDestination zeroStatus twoRevisionDestinationEvents) =
            (if ready then .TokenReady else .TokenNotReady) ↔
          ∃ t ∈ (runDestination zeroStatus twoRevisionDestinationEvents).tokens,
            t.revision = 1 ∧ t.isReady = ready) ∧
        (checkTokenRevision (Go.FormatInt 1) (runDestination zeroStatus twoRevisionDestinationEvents) =
            .TokenNotFound ↔
          ∀ t ∈ (runDestination zeroStatus twoRevisionDestinationEvents).tokens, t.revision ≠ 1)) :=
  ⟨zeroStatus_revisionsIncrease,
    destination_answers_by_revision zeroStatus_revisionsIncrease twoRevisionDestinationEvents 1⟩

/-! ## The source's round -/

/-- For a named source with a route, the destination answers about the
source's revision. -/
theorem checkTokenStatus_of_named
    {source : String}
    (named : source ≠ "")
    (tokenRevision : String)
    (destination : TokenStatus) :
    checkTokenStatus source tokenRevision (some destination) =
      checkTokenRevision tokenRevision destination := by
  simp only [checkTokenStatus, if_neg named]

/-- A source that saw its destination reachable handles the answer, and its
write goes through. -/
theorem checkConnectionStatus_of_reachable
    (source name : String)
    {dr : RouteStatus}
    (reachable : dr.isDestinationUnreachable = false)
    (destination : Option TokenStatus) :
    checkConnectionStatus source name dr destination =
      handleGetResponse
        (checkTokenStatus source (Go.FormatInt dr.tokenStatus.revisionToken.revision) destination)
        name dr := by
  simp [checkConnectionStatus, markDestReachable, reachable]

/-- A source that had marked its destination unreachable writes only that it
is reachable: the write of `handleGetResponse`, from the status read before,
conflicts. -/
theorem checkConnectionStatus_of_unreachable
    (source name : String)
    {dr : RouteStatus}
    (unreachable : dr.isDestinationUnreachable = true)
    (destination : Option TokenStatus) :
    (checkConnectionStatus source name dr destination).1 =
      some { dr with isDestinationUnreachable := false } := by
  simp only [checkConnectionStatus, markDestReachable, unreachable, if_true]

/-- A write of `handleGetResponse` leaves the source's revision ready only on
`TokenReady`, and writes only when it was not ready yet. -/
theorem handleGetResponse_marks_ready_iff
    (state : DestinationStatus)
    (name : String)
    (dr : RouteStatus) :
    (∃ written, (handleGetResponse state name dr).1 = some written ∧
        written.tokenStatus.revisionToken.isReady = true) ↔
      state = .TokenReady ∧ dr.tokenStatus.revisionToken.isReady = false := by
  cases state with
  | TokenReady =>
    cases ready : dr.tokenStatus.revisionToken.isReady <;> simp [handleGetResponse, ready]
  | TokenNotFound =>
    -- the wiped status holds the empty token, which is not ready
    simp only [handleGetResponse]
    split_ifs <;> simp [emptyTokenStatus, emptyToken]
  | NoAuthentication =>
    simp only [handleGetResponse]
    split_ifs <;> simp [emptyTokenStatus, emptyToken]
  | _ => simp [handleGetResponse]

/-- `handleGetResponse` wipes the source's token status, keeping the rest, only
on `TokenNotFound`, and only when there is something to wipe. -/
theorem handleGetResponse_wipes_iff
    (state : DestinationStatus)
    (name : String)
    (dr : RouteStatus) :
    (handleGetResponse state name dr).1 = some { dr with tokenStatus := emptyTokenStatus } ↔
      state = .TokenNotFound ∧
        (dr.tokenStatus.revisionToken.token ≠ "" ∨ dr.tokenStatus.tokens ≠ [] ∨
          dr.tokenStatus.revisionToken.isReady = true) := by
  cases state with
  | TokenReady =>
    -- marking leaves the revision ready, and the wiped status has it unready
    simp only [handleGetResponse]
    split_ifs <;> simp [emptyTokenStatus, emptyToken]
  | TokenNotFound =>
    simp only [handleGetResponse]
    split_ifs with something <;> simp [something]
  | NoAuthentication =>
    -- the wipe on `NoAuthentication` also drops the authorization it checked
    simp only [handleGetResponse]
    split_ifs with authorized <;> simp [authorized]
  | _ => simp [handleGetResponse]

/-- From a destination whose window's revisions increase, after any run of the
destination, the source's GET round writes only that the destination is
reachable when it had marked it unreachable.  Otherwise the round marks the
source's revision ready exactly when it was not ready and the destination
holds a ready token of that revision, and it wipes the source's token status
exactly when it holds something and no destination token has the revision. -/
theorem source_follows_destination_token
    {ts : TokenStatus}
    (start : RevisionsIncrease ts)
    (events : List DestinationEvent)
    {source : String}
    (named : source ≠ "")
    (name : String)
    (dr : RouteStatus) :
    (dr.isDestinationUnreachable = true →
      (checkConnectionStatus source name dr (some (runDestination ts events))).1 =
        some { dr with isDestinationUnreachable := false }) ∧
    (dr.isDestinationUnreachable = false →
      ((∃ written,
          (checkConnectionStatus source name dr (some (runDestination ts events))).1 =
              some written ∧
            written.tokenStatus.revisionToken.isReady = true) ↔
        dr.tokenStatus.revisionToken.isReady = false ∧
          ∃ t ∈ (runDestination ts events).tokens,
            t.revision = dr.tokenStatus.revisionToken.revision ∧ t.isReady = true) ∧
      ((checkConnectionStatus source name dr (some (runDestination ts events))).1 =
          some { dr with tokenStatus := emptyTokenStatus } ↔
        (dr.tokenStatus.revisionToken.token ≠ "" ∨ dr.tokenStatus.tokens ≠ [] ∨
            dr.tokenStatus.revisionToken.isReady = true) ∧
          ∀ t ∈ (runDestination ts events).tokens,
            t.revision ≠ dr.tokenStatus.revisionToken.revision)) := by
  refine ⟨fun unreachable => checkConnectionStatus_of_unreachable source name unreachable _,
    fun reachable => ?_⟩
  have increasing := (start.runDestination events).increasing
  have readyAnswer :=
    checkTokenRevision_eq_readiness_iff increasing dr.tokenStatus.revisionToken.revision true
  rw [if_pos rfl] at readyAnswer
  rw [checkConnectionStatus_of_reachable source name reachable, checkTokenStatus_of_named named,
    handleGetResponse_marks_ready_iff, handleGetResponse_wipes_iff,
    checkTokenRevision_eq_TokenNotFound_iff, readyAnswer]
  exact ⟨and_comm, and_comm⟩

/-- A source named `alice` at revision 1, not yet ready, asks the destination
above. -/
def aliceAtFirstRevision : RouteStatus :=
  ⟨true, false, ⟨"gw-a", ⟨"token-1", 1, 1000 * Go.nanosPerSecond, 1120 * Go.nanosPerSecond, false, []⟩, []⟩⟩

theorem source_follows_destination_token_twoRevisions :
    RevisionsIncrease zeroStatus ∧ "alice" ≠ "" ∧
      ((aliceAtFirstRevision.isDestinationUnreachable = true →
        (checkConnectionStatus "alice" "alice-bob" aliceAtFirstRevision
            (some (runDestination zeroStatus twoRevisionDestinationEvents))).1 =
          some { aliceAtFirstRevision with isDestinationUnreachable := false }) ∧
      (aliceAtFirstRevision.isDestinationUnreachable = false →
        ((∃ written,
            (checkConnectionStatus "alice" "alice-bob" aliceAtFirstRevision
                (some (runDestination zeroStatus twoRevisionDestinationEvents))).1 =
                some written ∧
              written.tokenStatus.revisionToken.isReady = true) ↔
          aliceAtFirstRevision.tokenStatus.revisionToken.isReady = false ∧
            ∃ t ∈ (runDestination zeroStatus twoRevisionDestinationEvents).tokens,
              t.revision = aliceAtFirstRevision.tokenStatus.revisionToken.revision ∧
                t.isReady = true) ∧
        ((checkConnectionStatus "alice" "alice-bob" aliceAtFirstRevision
              (some (runDestination zeroStatus twoRevisionDestinationEvents))).1 =
            some { aliceAtFirstRevision with tokenStatus := emptyTokenStatus } ↔
          (aliceAtFirstRevision.tokenStatus.revisionToken.token ≠ "" ∨
              aliceAtFirstRevision.tokenStatus.tokens ≠ [] ∨
              aliceAtFirstRevision.tokenStatus.revisionToken.isReady = true) ∧
            ∀ t ∈ (runDestination zeroStatus twoRevisionDestinationEvents).tokens,
              t.revision ≠ aliceAtFirstRevision.tokenStatus.revisionToken.revision))) :=
  ⟨zeroStatus_revisionsIncrease, by decide,
    source_follows_destination_token zeroStatus_revisionsIncrease twoRevisionDestinationEvents
      (by decide) "alice-bob" aliceAtFirstRevision⟩

/-! ## The source's window over runs -/

/-- `ensureInitializer` writes only another initializer. -/
theorem ensureInitializer_eq_ok_some
    {domainNamespace : String}
    {ts ts' : TokenStatus}
    {gateways : List Gateway}
    {now : Int}
    {draw : Nat}
    (writes : ensureInitializer domainNamespace ts gateways now draw = .ok (some ts')) :
    ∃ initializer, ts' = { ts with revisionInitializer := initializer } := by
  unfold ensureInitializer at writes
  split at writes
  · cases writes
  · -- keeping the initializer writes nothing
    split_ifs at writes
    · cases writes
    · exact ⟨_, (Option.some_inj.mp (Except.ok.inj writes)).symm⟩

/-- The source's sync keeps the window, or rolls a ready revision into it. -/
theorem syncSourceDomainRoute_eq_some
    {domainNamespace : String}
    {ts ts' : TokenStatus}
    {rollingUpdatePeriod : Int}
    {gateways : List Gateway}
    {now : Int}
    {draw : Nat}
    (writes : syncSourceDomainRoute domainNamespace ts rollingUpdatePeriod gateways now draw =
      some ts') :
    ts'.tokens = ts.tokens ∨
      (ts.revisionToken.isReady = true ∧ ts' = { ts with tokens := rolledTokens ts }) := by
  unfold syncSourceDomainRoute at writes
  by_cases due : needRollingToNext ts.revisionToken rollingUpdatePeriod now = true
  · rw [if_pos due] at writes
    obtain ⟨initializer, rfl⟩ := preRollingSourceDomainRoute_eq_some writes
    exact .inl rfl
  · rw [if_neg due] at writes
    split at writes
    · cases writes
    · rename_i ensured
      cases writes
      obtain ⟨initializer, rfl⟩ := ensureInitializer_eq_ok_some ensured
      exact .inl rfl
    · -- only a ready revision is appended
      split_ifs at writes with ready
      exact .inr ⟨ready, (postRollingSourceDomainRoute_eq_some writes).2⟩

/-- `handleGetResponse` keeps the source's window or empties it. -/
theorem handleGetResponse_tokens
    {state : DestinationStatus}
    {name : String}
    {dr dr' : RouteStatus}
    (writes : (handleGetResponse state name dr).1 = some dr') :
    dr'.tokenStatus.tokens = dr.tokenStatus.tokens ∨ dr'.tokenStatus.tokens = [] := by
  cases state with
  | TokenReady =>
    simp only [handleGetResponse] at writes
    split_ifs at writes
    cases writes
    exact .inl rfl
  | TokenNotFound =>
    simp only [handleGetResponse] at writes
    split_ifs at writes
    cases writes
    exact .inr rfl
  | NoAuthentication =>
    simp only [handleGetResponse] at writes
    split_ifs at writes
    cases writes
    exact .inr rfl
  | _ => simp [handleGetResponse] at writes

/-- So does a GET round. -/
theorem checkConnectionStatus_tokens
    {source name : String}
    {dr dr' : RouteStatus}
    {destination : Option TokenStatus}
    (writes : (checkConnectionStatus source name dr destination).1 = some dr') :
    dr'.tokenStatus.tokens = dr.tokenStatus.tokens ∨ dr'.tokenStatus.tokens = [] := by
  cases unreachable : dr.isDestinationUnreachable with
  | true =>
    rw [checkConnectionStatus_of_unreachable source name unreachable] at writes
    cases writes
    exact .inl rfl
  | false =>
    rw [checkConnectionStatus_of_reachable source name unreachable] at writes
    exact handleGetResponse_tokens writes

/-- The source's window holds at most two tokens, each of them ready. -/
structure SourceWindow (dr : RouteStatus) : Prop where
  bounded : dr.tokenStatus.tokens.length ≤ 2
  allReady : ∀ t ∈ dr.tokenStatus.tokens, t.isReady = true

namespace SourceWindow

variable {dr dr' : RouteStatus}

/-- A write that keeps the window keeps it ready. -/
theorem of_tokens
    (w : SourceWindow dr)
    (same : dr'.tokenStatus.tokens = dr.tokenStatus.tokens) :
    SourceWindow dr' :=
  ⟨same ▸ w.bounded, same ▸ w.allReady⟩

theorem of_empty
    (empty : dr.tokenStatus.tokens = []) :
    SourceWindow dr :=
  ⟨by simp [empty], by simp [empty]⟩

/-- The rolled window holds the last token and the revision, both ready. -/
theorem rolled
    (w : SourceWindow dr)
    (ready : dr.tokenStatus.revisionToken.isReady = true)
    (written : dr'.tokenStatus = { dr.tokenStatus with tokens := rolledTokens dr.tokenStatus }) :
    SourceWindow dr' := by
  refine ⟨?_, ?_⟩ <;> rw [written]
  · cases lastIs : dr.tokenStatus.tokens.getLast? <;> simp [rolledTokens, lastIs]
  · intro t member
    rcases List.mem_append.mp member with kept | added
    · rw [Option.mem_toList] at kept
      exact w.allReady t (List.mem_of_getLast? kept)
    · rw [List.mem_singleton.mp added]
      exact ready

/-- Every write to the source keeps its window. -/
theorem sourceStep
    (w : SourceWindow dr) :
    ∀ event, SourceWindow (DomainRoute.sourceStep dr event)
  | .sync domainNamespace rollingUpdatePeriod gateways now draw => by
    simp only [DomainRoute.sourceStep]
    cases writes : syncSourceDomainRoute domainNamespace dr.tokenStatus rollingUpdatePeriod
        gateways now draw with
    | none => exact w.of_tokens rfl
    | some ts' =>
      rcases syncSourceDomainRoute_eq_some writes with same | ⟨ready, rolledIn⟩
      · exact w.of_tokens same
      · exact w.rolled ready rolledIn
  | .revisionUpdate .. => w.of_tokens rfl
  | .connectionCheck source name destination => by
    simp only [DomainRoute.sourceStep]
    cases writes : (checkConnectionStatus source name dr destination).1 with
    | none => exact w
    | some dr' =>
      rcases checkConnectionStatus_tokens writes with same | empty
      · exact w.of_tokens same
      · exact of_empty empty
  | .connectionFailure heartbeatTimeout => by
    simp only [DomainRoute.sourceStep, markDestUnreachable]
    split_ifs
    · exact w.of_tokens rfl
    · exact w

/-- Every run of the source keeps its window. -/
theorem runSource
    (w : SourceWindow dr)
    (events : List SourceEvent) :
    SourceWindow (DomainRoute.runSource dr events) := by
  induction events generalizing dr with
  | nil => exact w
  | cons event events inductionHypothesis =>
    exact inductionHypothesis (w.sourceStep event)

end SourceWindow

/-- From a source status whose window holds at most two tokens, all ready,
every run of the source's writes keeps it so: its syncs, the revisions the POST
handshake brings back, and GET rounds against any destination. -/
theorem source_window_stays_ready
    {dr : RouteStatus}
    (startBounded : dr.tokenStatus.tokens.length ≤ 2)
    (startReady : ∀ t ∈ dr.tokenStatus.tokens, t.isReady = true)
    (events : List SourceEvent) :
    (runSource dr events).tokenStatus.tokens.length ≤ 2 ∧
      ∀ t ∈ (runSource dr events).tokenStatus.tokens, t.isReady = true := by
  have reached := SourceWindow.runSource ⟨startBounded, startReady⟩ events
  exact ⟨reached.bounded, reached.allReady⟩

/-- A source that has never rolled. -/
def zeroRoute : RouteStatus :=
  ⟨false, false, zeroStatus⟩

/-- The source takes revision 1 from the POST handshake, syncs, and asks the
destination above about it. -/
def firstRevisionSourceEvents : List SourceEvent :=
  [.revisionUpdate "token-1" 1 60 (1120 * Go.nanosPerSecond) (1000 * Go.nanosPerSecond),
    .sync "alice" 60 [⟨"gw-a", 1000 * Go.nanosPerSecond⟩] (1001 * Go.nanosPerSecond) 0,
    .connectionCheck "alice" "alice-bob"
      (some (runDestination zeroStatus twoRevisionDestinationEvents))]

theorem source_window_stays_ready_firstRevision :
    zeroRoute.tokenStatus.tokens.length ≤ 2 ∧
      (∀ t ∈ zeroRoute.tokenStatus.tokens, t.isReady = true) ∧
      ((runSource zeroRoute firstRevisionSourceEvents).tokenStatus.tokens.length ≤ 2 ∧
        ∀ t ∈ (runSource zeroRoute firstRevisionSourceEvents).tokenStatus.tokens,
          t.isReady = true) :=
  ⟨by decide, by simp [zeroRoute, zeroStatus],
    source_window_stays_ready (by decide) (by simp [zeroRoute, zeroStatus]) firstRevisionSourceEvents⟩

end Kuscia.DomainRoute
