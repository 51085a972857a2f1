import Mathlib
import Kuscia.GoTime

namespace Kuscia.DomainRoute

/-!
# Rolling the tokens of a DomainRoute

A DomainRoute's status keeps the revision being rolled out (`RevisionToken`)
and a window of the tokens in use (`Tokens`).  The handshake writes a new
revision (`DestReplyHandshake` on the destination, with an expiration time,
`UpdateDomainRouteRevisionToken` on the source); the controller then appends it
to the window (`postRollingSourceDomainRoute`, `postRollingDestinationDomainRoute`),
each gateway instance lists itself in every token it has taken
(`checkAndUpdateTokenInstances`), and the destination marks the revision ready
once every live gateway has taken the last token.

A step here is one status write: the status it writes, or none when the code
writes nothing (or its write fails).  Times are Unix nanoseconds, with Go's
zero time as `zeroTime`.  The handshake itself, with its cryptography and its
compare-and-swap writes, is modelled in `Kuscia.Gateway`; here its writes are
taken at the granularity of the rolling: the encrypted token as the string the
status holds, and the revision as an integer (an `int64` that never nears its
bound).

The two appending branches keep the last token and add the revision
(`postRollingSourceDomainRoute_eq_some`, `postRollingDestinationDomainRoute_cases`),
and readiness is marked only when every live gateway is listed, as long as no
token lists an instance twice, which every step keeps (`Windowed.run`).  The
ready branch does not look at which revision the last token has.
-/

/-- `DomainRouteToken`, with the fields the rolling steps read and write. -/
structure DomainRouteToken where
  token : String
  revision : Int
  revisionTime : Int
  expirationTime : Int
  isReady : Bool
  effectiveInstances : List String
  deriving DecidableEq, Repr

/-- `dr.Status.TokenStatus`. -/
structure TokenStatus where
  revisionInitializer : String
  revisionToken : DomainRouteToken
  tokens : List DomainRouteToken
  deriving DecidableEq, Repr

/-- A gateway of the namespace as the lister returns it. -/
structure Gateway where
  name : String
  heartbeatTime : Int
  deriving DecidableEq, Repr

/-- Go's zero `time.Time`, January 1 of year 1, in Unix nanoseconds. -/
def zeroTime : Int :=
  -62135596800 * Go.nanosPerSecond

/-- `common.GatewayLiveTimeout`: three minutes. -/
def GatewayLiveTimeout : Int :=
  3 * 60 * Go.nanosPerSecond

/-- `domainRouteSyncPeriod`: two minutes. -/
def domainRouteSyncPeriod : Int :=
  2 * 60 * Go.nanosPerSecond

/-! ## The controller's steps -/

/-- `selectInitializer`: the current initializer if it is live, otherwise the
live gateway at the random draw (`mrand.Intn(len(liveGateways))`). -/
def selectInitializer (domainNamespace revisionInitializer : String) (gateways : List Gateway)
    (now : Int) (draw : Nat) : Except String String :=
  let liveGateways := gateways.filter fun g =>
    now - g.heartbeatTime < GatewayLiveTimeout ∨ g.heartbeatTime = zeroTime
  if liveGateways.any (·.name = revisionInitializer) then .ok revisionInitializer
  else
    match liveGateways[draw % liveGateways.length]? with
    | some initializer => .ok initializer.name
    | none => .error ("there is no live gateway instance of " ++ domainNamespace)

/-- `preRollingSourceDomainRoute`: a new rolling round, with an initializer and
a fresh, unready revision token of the same revision. -/
def preRollingSourceDomainRoute (domainNamespace : String) (ts : TokenStatus) (gateways : List Gateway)
    (now : Int) (draw : Nat) : Option TokenStatus :=
  match selectInitializer domainNamespace ts.revisionInitializer gateways now draw with
  | .error _ => none
  | .ok initializer =>
    some { ts with
      revisionInitializer := initializer
      revisionToken := ⟨"", ts.revisionToken.revision, now, zeroTime, false, []⟩ }

/-- `n == 0 || Tokens[n-1].Revision != RevisionToken.Revision`: the window does
not end with the revision. -/
def lastRevisionDiffers (ts : TokenStatus) : Bool :=
  match ts.tokens.getLast? with
  | none => true
  | some last => last.revision != ts.revisionToken.revision

/-- `postRollingSourceDomainRoute`: append the revision, then keep the last two. -/
def postRollingSourceDomainRoute (ts : TokenStatus) : Option TokenStatus :=
  let n := ts.tokens.length
  if lastRevisionDiffers ts then
    let tokens := ts.tokens ++ [ts.revisionToken]
    some { ts with tokens := if n > 1 then tokens.drop (n - 1) else tokens }
  else none

/-- `checkEffectiveInstances`: the live gateways, a map from name, against the
instances listed in the last token, each listing counted. -/
def checkEffectiveInstances (ts : TokenStatus) (gateways : List Gateway) (now : Int) : Bool :=
  match ts.tokens.getLast? with
  | none => false
  | some last =>
    if gateways = [] then false
    else
      let liveGateways := ((gateways.filter fun gw =>
        now - gw.heartbeatTime < GatewayLiveTimeout).map Gateway.name).dedup
      let found := (last.effectiveInstances.filter fun ins => ins ∈ liveGateways).length
      found == liveGateways.length

/-- `postRollingDestinationDomainRoute`: a live revision not yet in the window
is appended after the last token; otherwise an unready revision is marked ready,
with the last token, once the live gateways have taken that token. -/
def postRollingDestinationDomainRoute (ts : TokenStatus) (gateways : List Gateway) (now : Int) :
    Option TokenStatus :=
  let n := ts.tokens.length
  if now - ts.revisionToken.expirationTime < 0 ∧ ts.revisionToken.token ≠ "" ∧
      lastRevisionDiffers ts then
    let tokens := if n > 1 then ts.tokens.drop (n - 1) else ts.tokens
    some { ts with tokens := tokens ++ [ts.revisionToken] }
  else if !ts.revisionToken.isReady ∧ checkEffectiveInstances ts gateways now then
    some { ts with
      tokens := ts.tokens.modifyLast fun last => { last with isReady := true }
      revisionToken := { ts.revisionToken with isReady := true } }
  else none

/-- The destination's removal of its first token once it has expired for a sync
period, in `syncHandler`. -/
def deleteExpiredToken (ts : TokenStatus) (rollingUpdatePeriod now : Int) : Option TokenStatus :=
  match ts.tokens with
  | first :: rest =>
    if rollingUpdatePeriod > 0 ∧ now - first.expirationTime > domainRouteSyncPeriod then
      some { ts with tokens := rest }
    else none
  | [] => none

/-! ## The gateways' writes -/

/-- The expiration of a revision written at `now`: a hundred years without
rolling, two periods with it. -/
def revisionExpiration (rollingUpdatePeriod now : Int) : Int :=
  if rollingUpdatePeriod = 0 then Go.AddDate now 100 0 0
  else now + 2 * rollingUpdatePeriod * Go.nanosPerSecond

/-- The write of `DestReplyHandshake` for a token that differs from the stored
one: the next revision, unready. -/
def destReplyHandshake (ts : TokenStatus) (tokenEncrypted : String) (rollingUpdatePeriod now : Int) :
    Option TokenStatus :=
  if ts.revisionToken.token ≠ tokenEncrypted then
    some { ts with
      revisionToken := { ts.revisionToken with
        token := tokenEncrypted
        revision := ts.revisionToken.revision + 1
        revisionTime := now
        isReady := false
        expirationTime := revisionExpiration rollingUpdatePeriod now } }
  else none

/-- `UpdateDomainRouteRevisionToken`: the source's copy takes the revision the
destination answered, ready. -/
def UpdateDomainRouteRevisionToken (ts : TokenStatus) (tokenEncrypted : String) (revision : Int)
    (rollingUpdatePeriod expirationTime now : Int) : TokenStatus :=
  { ts with
    revisionToken := { ts.revisionToken with
      token := tokenEncrypted
      revision := revision
      isReady := true
      revisionTime := now
      expirationTime :=
        if rollingUpdatePeriod = 0 then Go.AddDate now 100 0 0 else expirationTime } }

/-- `checkAndUpdateTokenInstances`: the gateway lists itself in every token
that does not list it yet. -/
def checkAndUpdateTokenInstances (ts : TokenStatus) (gatewayName : String) : Option TokenStatus :=
  if ts.tokens.all fun t => gatewayName ∈ t.effectiveInstances then none
  else
    some { ts with
      tokens := ts.tokens.map fun t =>
        if gatewayName ∈ t.effectiveInstances then t
        else { t with effectiveInstances := t.effectiveInstances ++ [gatewayName] } }

/-! ## Runs -/

/-- The writes to one DomainRoute status. -/
inductive Event where
  | preRollingSource (domainNamespace : String) (gateways : List Gateway) (now : Int) (draw : Nat)
  | postRollingSource
  | postRollingDestination (gateways : List Gateway) (now : Int)
  | deleteExpired (rollingUpdatePeriod now : Int)
  | destReply (tokenEncrypted : String) (rollingUpdatePeriod now : Int)
  | sourceUpdate (tokenEncrypted : String) (revision rollingUpdatePeriod expirationTime now : Int)
  | syncInstances (gatewayName : String)

/-- One event: the status it writes, or the status unchanged. -/
def step (ts : TokenStatus) : Event → TokenStatus
  | .preRollingSource domainNamespace gateways now draw =>
    (preRollingSourceDomainRoute domainNamespace ts gateways now draw).getD ts
  | .postRollingSource => (postRollingSourceDomainRoute ts).getD ts
  | .postRollingDestination gateways now => (postRollingDestinationDomainRoute ts gateways now).getD ts
  | .deleteExpired rollingUpdatePeriod now => (deleteExpiredToken ts rollingUpdatePeriod now).getD ts
  | .destReply tokenEncrypted rollingUpdatePeriod now =>
    (destReplyHandshake ts tokenEncrypted rollingUpdatePeriod now).getD ts
  | .sourceUpdate tokenEncrypted revision rollingUpdatePeriod expirationTime now =>
    UpdateDomainRouteRevisionToken ts tokenEncrypted revision rollingUpdatePeriod expirationTime now
  | .syncInstances gatewayName => (checkAndUpdateTokenInstances ts gatewayName).getD ts

/-- A sequence of events. -/
def run (ts : TokenStatus) (events : List Event) : TokenStatus :=
  events.foldl step ts

/-! ## Trimming the window -/

section Trim

variable {α : Type}

/-- Slicing from the last index keeps the last element, or nothing. -/
theorem drop_length_pred_eq_getLast?
    (l : List α) :
    l.drop (l.length - 1) = l.getLast?.toList := by
  by_cases empty : l = []
  · subst empty
    rfl
  · rw [List.drop_length_sub_one empty, List.getLast?_eq_some_getLast empty]
    rfl

/-- The destination's trim, `[n-1:]` from two tokens on, keeps the last token. -/
theorem trim_eq_getLast?
    (l : List α) :
    (if l.length > 1 then l.drop (l.length - 1) else l) = l.getLast?.toList := by
  rw [← drop_length_pred_eq_getLast?]
  split_ifs with long
  · rfl
  · rw [show l.length - 1 = 0 by omega, List.drop_zero]

/-- The source's trim, after the append, keeps the last token and the new one. -/
theorem trim_append_eq_getLast?
    (l : List α)
    (x : α) :
    (if l.length > 1 then (l ++ [x]).drop (l.length - 1) else l ++ [x]) =
      l.getLast?.toList ++ [x] := by
  rw [← trim_eq_getLast?]
  split_ifs with long
  · exact List.drop_append_of_le_length (by omega)
  · rfl

/-- Setting the last element of a list with one. -/
theorem modifyLast_of_getLast?
    {l : List α}
    {a : α}
    (f : α → α)
    (lastIs : l.getLast? = some a) :
    l.modifyLast f = l.dropLast ++ [f a] := by
  rw [← List.dropLast_append_getLast? a lastIs, List.modifyLast_concat, List.dropLast_concat]

end Trim

/-! ## What each write does -/

/-- The window an appending step writes: the last token, if there is one, then
the revision. -/
def rolledTokens (ts : TokenStatus) : List DomainRouteToken :=
  ts.tokens.getLast?.toList ++ [ts.revisionToken]

/-- The last token, marked ready. -/
def markLastReady (tokens : List DomainRouteToken) : List DomainRouteToken :=
  tokens.modifyLast fun last => { last with isReady := true }

/-- `postRollingSourceDomainRoute` writes only when the window does not end with
the revision, and then writes the rolled window. -/
theorem postRollingSourceDomainRoute_eq_some
    {ts ts' : TokenStatus}
    (writes : postRollingSourceDomainRoute ts = some ts') :
    lastRevisionDiffers ts = true ∧ ts' = { ts with tokens := rolledTokens ts } := by
  unfold postRollingSourceDomainRoute at writes
  split_ifs at writes with differs
  refine ⟨differs, ?_⟩
  rw [← Option.some_inj.mp writes, trim_append_eq_getLast?]
  rfl

/-- `postRollingDestinationDomainRoute` either appends a live revision, with the
window trimmed first, or marks an unready revision and the last token ready. -/
theorem postRollingDestinationDomainRoute_eq_some
    {ts ts' : TokenStatus}
    {gateways : List Gateway}
    {now : Int}
    (writes : postRollingDestinationDomainRoute ts gateways now = some ts') :
    (now - ts.revisionToken.expirationTime < 0 ∧ ts.revisionToken.token ≠ "" ∧
        lastRevisionDiffers ts = true ∧ ts' = { ts with tokens := rolledTokens ts }) ∨
      (¬(now - ts.revisionToken.expirationTime < 0 ∧ ts.revisionToken.token ≠ "" ∧
          lastRevisionDiffers ts = true) ∧
        ts.revisionToken.isReady = false ∧ checkEffectiveInstances ts gateways now = true ∧
        ts' = { ts with
          tokens := markLastReady ts.tokens
          revisionToken := { ts.revisionToken with isReady := true } }) := by
  unfold postRollingDestinationDomainRoute at writes
  split_ifs at writes with appends marks
  · -- the appending branch: trim to the last token, then append
    left
    refine ⟨appends.1, appends.2.1, appends.2.2, ?_⟩
    rw [← Option.some_inj.mp writes, trim_eq_getLast?]
    rfl
  · right
    rw [Bool.not_eq_true', ← Bool.not_eq_true] at marks
    exact ⟨appends, by simpa using marks.1, marks.2, (Option.some_inj.mp writes).symm⟩

/-- `preRollingSourceDomainRoute` writes a fresh revision token of the same
revision, with the initializer it chose. -/
theorem preRollingSourceDomainRoute_eq_some
    {domainNamespace : String}
    {ts ts' : TokenStatus}
    {gateways : List Gateway}
    {now : Int}
    {draw : Nat}
    (writes : preRollingSourceDomainRoute domainNamespace ts gateways now draw = some ts') :
    ∃ initializer, ts' = { ts with
      revisionInitializer := initializer
      revisionToken := ⟨"", ts.revisionToken.revision, now, zeroTime, false, []⟩ } := by
  unfold preRollingSourceDomainRoute at writes
  split at writes
  · cases writes
  · exact ⟨_, (Option.some_inj.mp writes).symm⟩

/-- The destination drops the first token of the window. -/
theorem deleteExpiredToken_eq_some
    {ts ts' : TokenStatus}
    {rollingUpdatePeriod now : Int}
    (writes : deleteExpiredToken ts rollingUpdatePeriod now = some ts') :
    ts' = { ts with tokens := ts.tokens.tail } := by
  unfold deleteExpiredToken at writes
  split at writes
  · rename_i first rest tokensAre
    split_ifs at writes
    rw [← Option.some_inj.mp writes, tokensAre]
    rfl
  · cases writes

/-- A gateway's write adds its name to the tokens that do not list it. -/
theorem checkAndUpdateTokenInstances_eq_some
    {ts ts' : TokenStatus}
    {gatewayName : String}
    (writes : checkAndUpdateTokenInstances ts gatewayName = some ts') :
    ts' = { ts with
      tokens := ts.tokens.map fun t =>
        if gatewayName ∈ t.effectiveInstances then t
        else { t with effectiveInstances := t.effectiveInstances ++ [gatewayName] } } := by
  unfold checkAndUpdateTokenInstances at writes
  split_ifs at writes
  exact (Option.some_inj.mp writes).symm

/-- Marking the last token ready keeps the window's length and the instances
each token lists. -/
theorem markLastReady_spec
    (tokens : List DomainRouteToken) :
    (markLastReady tokens).length = tokens.length ∧
      ∀ t ∈ markLastReady tokens, ∃ s ∈ tokens, t.effectiveInstances = s.effectiveInstances := by
  cases lastIs : tokens.getLast? with
  | none =>
    rw [List.getLast?_eq_none_iff.mp lastIs]
    exact ⟨rfl, nofun⟩
  | some last =>
    have lastMember := List.mem_of_getLast? lastIs
    have nonEmpty := List.length_pos_of_mem lastMember
    rw [markLastReady, modifyLast_of_getLast? _ lastIs]
    refine ⟨by simp only [List.length_append, List.length_dropLast, List.length_singleton]; omega, ?_⟩
    intro t member
    rcases List.mem_append.mp member with front | isLast
    · exact ⟨t, List.mem_of_mem_dropLast front, rfl⟩
    · rw [List.mem_singleton.mp isLast]
      exact ⟨last, lastMember, rfl⟩

/-! ## The window over runs -/

/-- The window holds at most two tokens, and no token, the revision's included,
lists an instance twice. -/
structure Windowed (ts : TokenStatus) : Prop where
  bounded : ts.tokens.length ≤ 2
  tokensNodup : ∀ t ∈ ts.tokens, t.effectiveInstances.Nodup
  revisionNodup : ts.revisionToken.effectiveInstances.Nodup

namespace Windowed

variable {ts ts' : TokenStatus}

/-- A step that writes nothing keeps the status. -/
theorem getD
    {written : Option TokenStatus}
    (w : Windowed ts)
    (kept : ∀ ts', written = some ts' → Windowed ts') :
    Windowed (written.getD ts) := by
  cases written with
  | none => exact w
  | some ts' => exact kept ts' rfl

/-- The rolled window holds the last token and the revision. -/
theorem rolled
    (w : Windowed ts) :
    Windowed { ts with tokens := rolledTokens ts } where
  bounded := by
    cases lastIs : ts.tokens.getLast? <;> simp [rolledTokens, lastIs]
  tokensNodup := by
    intro t member
    rcases List.mem_append.mp member with kept | added
    · -- the kept token is the window's last
      rw [Option.mem_toList] at kept
      exact w.tokensNodup t (List.mem_of_getLast? kept)
    · rw [List.mem_singleton.mp added]
      exact w.revisionNodup
  revisionNodup := w.revisionNodup

theorem preRollingSourceDomainRoute
    {domainNamespace : String}
    {gateways : List Gateway}
    {now : Int}
    {draw : Nat}
    (w : Windowed ts)
    (writes : DomainRoute.preRollingSourceDomainRoute domainNamespace ts gateways now draw =
      some ts') :
    Windowed ts' := by
  obtain ⟨initializer, rfl⟩ := preRollingSourceDomainRoute_eq_some writes
  exact ⟨w.bounded, w.tokensNodup, List.nodup_nil⟩

theorem postRollingSourceDomainRoute
    (w : Windowed ts)
    (writes : DomainRoute.postRollingSourceDomainRoute ts = some ts') :
    Windowed ts' := by
  obtain ⟨-, rfl⟩ := postRollingSourceDomainRoute_eq_some writes
  exact w.rolled

theorem postRollingDestinationDomainRoute
    {gateways : List Gateway}
    {now : Int}
    (w : Windowed ts)
    (writes : DomainRoute.postRollingDestinationDomainRoute ts gateways now = some ts') :
    Windowed ts' := by
  rcases postRollingDestinationDomainRoute_eq_some writes with ⟨-, -, -, rfl⟩ | ⟨-, -, -, rfl⟩
  · exact w.rolled
  · obtain ⟨sameLength, sameInstances⟩ := markLastReady_spec ts.tokens
    refine ⟨sameLength ▸ w.bounded, ?_, w.revisionNodup⟩
    intro t member
    obtain ⟨s, kept, instancesAre⟩ := sameInstances t member
    rw [instancesAre]
    exact w.tokensNodup s kept

theorem deleteExpiredToken
    {rollingUpdatePeriod now : Int}
    (w : Windowed ts)
    (writes : DomainRoute.deleteExpiredToken ts rollingUpdatePeriod now = some ts') :
    Windowed ts' := by
  rw [deleteExpiredToken_eq_some writes]
  refine ⟨?_, fun t member => w.tokensNodup t (List.mem_of_mem_tail member), w.revisionNodup⟩
  have shorter := w.bounded
  simp only [List.length_tail]
  omega

theorem checkAndUpdateTokenInstances
    {gatewayName : String}
    (w : Windowed ts)
    (writes : DomainRoute.checkAndUpdateTokenInstances ts gatewayName = some ts') :
    Windowed ts' := by
  rw [checkAndUpdateTokenInstances_eq_some writes]
  refine ⟨(List.length_map _).symm ▸ w.bounded, ?_, w.revisionNodup⟩
  intro t member
  obtain ⟨s, kept, rfl⟩ := List.mem_map.mp member
  have noRepeat := w.tokensNodup s kept
  -- the name is appended only to a token that does not list it yet
  split_ifs with listed
  · exact noRepeat
  · rw [← List.concat_eq_append]
    exact noRepeat.concat listed

/-- Every write keeps the window. -/
theorem step
    (w : Windowed ts) :
    ∀ event, Windowed (DomainRoute.step ts event)
  | .preRollingSource .. => w.getD fun _ => w.preRollingSourceDomainRoute
  | .postRollingSource => w.getD fun _ => w.postRollingSourceDomainRoute
  | .postRollingDestination .. => w.getD fun _ => w.postRollingDestinationDomainRoute
  | .deleteExpired .. => w.getD fun _ => w.deleteExpiredToken
  | .destReply .. => w.getD fun _ writes => by
    unfold destReplyHandshake at writes
    split_ifs at writes
    rw [← Option.some_inj.mp writes]
    exact ⟨w.bounded, w.tokensNodup, w.revisionNodup⟩
  | .sourceUpdate .. => ⟨w.bounded, w.tokensNodup, w.revisionNodup⟩
  | .syncInstances .. => w.getD fun _ => w.checkAndUpdateTokenInstances

/-- Every run keeps the window. -/
theorem run
    (w : Windowed ts)
    (events : List Event) :
    Windowed (DomainRoute.run ts events) := by
  induction events generalizing ts with
  | nil => exact w
  | cons event events inductionHypothesis =>
    -- the run goes on from the status the first event wrote
    exact inductionHypothesis (w.step event)

end Windowed

/-! ## Readiness -/

/-- Once `checkEffectiveInstances` passes, every live gateway is listed in the
last token, as long as the token lists no instance twice: the listings that
are live then form the live names, counted once each. -/
theorem mem_of_checkEffectiveInstances
    {ts : TokenStatus}
    {gateways : List Gateway}
    {now : Int}
    {last : DomainRouteToken}
    (lastIs : ts.tokens.getLast? = some last)
    (noRepeat : last.effectiveInstances.Nodup)
    (checked : checkEffectiveInstances ts gateways now = true)
    {gw : Gateway}
    (member : gw ∈ gateways)
    (live : now - gw.heartbeatTime < GatewayLiveTimeout) :
    gw.name ∈ last.effectiveInstances := by
  unfold checkEffectiveInstances at checked
  rw [lastIs] at checked
  split_ifs at checked with noGateways
  set liveGateways := ((gateways.filter fun gw =>
    now - gw.heartbeatTime < GatewayLiveTimeout).map Gateway.name).dedup with liveIs
  set listed := last.effectiveInstances.filter fun ins => ins ∈ liveGateways
  have listedLive : listed.Subperm liveGateways :=
    (noRepeat.filter _).subperm fun ins member => by simpa using (List.mem_filter.mp member).2
  have sameNames : listed.Perm liveGateways :=
    listedLive.perm_of_length_le (beq_iff_eq.mp checked).ge
  have nameLive : gw.name ∈ liveGateways := by
    rw [liveIs, List.mem_dedup]
    exact List.mem_map_of_mem (List.mem_filter.mpr ⟨member, by simpa using live⟩)
  exact (List.mem_filter.mp (sameNames.mem_iff.mpr nameLive)).1

/-- A destination write that marks the revision ready marks the last token
ready, and every live gateway is listed in it. -/
theorem ready_lists_live_gateways
    {ts ts' : TokenStatus}
    {gateways : List Gateway}
    {now : Int}
    (noRepeat : ∀ t ∈ ts.tokens, t.effectiveInstances.Nodup)
    (writes : postRollingDestinationDomainRoute ts gateways now = some ts')
    (wasNotReady : ts.revisionToken.isReady = false)
    (marked : ts'.revisionToken.isReady = true) :
    ∃ last, ts'.tokens.getLast? = some last ∧ last.isReady = true ∧
      ∀ gw ∈ gateways, now - gw.heartbeatTime < GatewayLiveTimeout →
        gw.name ∈ last.effectiveInstances := by
  rcases postRollingDestinationDomainRoute_eq_some writes with
    ⟨-, -, -, rfl⟩ | ⟨-, -, checked, rfl⟩
  · -- an appending write leaves the revision token unready
    rw [wasNotReady] at marked
    cases marked
  · -- `checkEffectiveInstances` fails on an empty window
    obtain ⟨last, lastIs⟩ : ∃ last, ts.tokens.getLast? = some last := by
      cases lastIs : ts.tokens.getLast? with
      | none =>
        unfold checkEffectiveInstances at checked
        rw [lastIs] at checked
        cases checked
      | some last => exact ⟨last, rfl⟩
    refine ⟨{ last with isReady := true }, ?_, rfl, ?_⟩
    · rw [markLastReady, modifyLast_of_getLast? _ lastIs, List.getLast?_concat]
    · intro gw member live
      exact mem_of_checkEffectiveInstances lastIs
        (noRepeat last (List.mem_of_getLast? lastIs)) checked member live

/-! ## Readiness over runs -/

/-- A DomainRoute that has never rolled: Go's zero status. -/
def zeroStatus : TokenStatus :=
  ⟨"", ⟨"", 0, zeroTime, zeroTime, false, []⟩, []⟩

theorem zeroStatus_windowed :
    Windowed zeroStatus :=
  ⟨Nat.zero_le _, nofun, List.nodup_nil⟩

/-- From a status whose window holds, after any run, a destination write that
marks the revision ready leaves at most two tokens, and the last, now ready,
lists every live gateway of the namespace. -/
theorem ready_marks_follow_live_gateways
    {ts : TokenStatus}
    (start : Windowed ts)
    (events : List Event)
    {gateways : List Gateway}
    {now : Int}
    {ts' : TokenStatus}
    (writes : postRollingDestinationDomainRoute (run ts events) gateways now = some ts')
    (wasNotReady : (run ts events).revisionToken.isReady = false)
    (marked : ts'.revisionToken.isReady = true) :
    ts'.tokens.length ≤ 2 ∧
      ∃ last, ts'.tokens.getLast? = some last ∧ last.isReady = true ∧
        ∀ gw ∈ gateways, now - gw.heartbeatTime < GatewayLiveTimeout →
          gw.name ∈ last.effectiveInstances := by
  have reached := start.run events
  exact ⟨(reached.postRollingDestinationDomainRoute writes).bounded,
    ready_lists_live_gateways reached.tokensNodup writes wasNotReady marked⟩

/-- A fresh destination takes its first revision, writes it to the window, and
its one gateway lists itself in it. -/
def firstRevisionEvents : List Event :=
  [.destReply "token-1" 60 (1000 * Go.nanosPerSecond),
    .postRollingDestination [⟨"gw-1", 1000 * Go.nanosPerSecond⟩] (1001 * Go.nanosPerSecond),
    .syncInstances "gw-1"]

/-- The first revision, ready, with the gateway listed. -/
def firstRevisionReady : TokenStatus :=
  ⟨"", ⟨"token-1", 1, 1000 * Go.nanosPerSecond, 1120 * Go.nanosPerSecond, true, []⟩,
    [⟨"token-1", 1, 1000 * Go.nanosPerSecond, 1120 * Go.nanosPerSecond, true, ["gw-1"]⟩]⟩

theorem ready_marks_follow_live_gateways_firstRevision :
    firstRevisionReady.tokens.length ≤ 2 ∧
      ∃ last, firstRevisionReady.tokens.getLast? = some last ∧ last.isReady = true ∧
        ∀ gw ∈ [(⟨"gw-1", 1002 * Go.nanosPerSecond⟩ : Gateway)],
          1002 * Go.nanosPerSecond - gw.heartbeatTime < GatewayLiveTimeout →
            gw.name ∈ last.effectiveInstances :=
  ready_marks_follow_live_gateways zeroStatus_windowed firstRevisionEvents
    (by decide) (by decide) (by decide)

/-- The first revision made ready, then a second handshake whose revision the
controller next looks at 70 seconds after its expiration time, before the first
token has been expired for a sync period. -/
def secondRevisionEvents : List Event :=
  firstRevisionEvents ++
    [.postRollingDestination [⟨"gw-1", 1002 * Go.nanosPerSecond⟩] (1002 * Go.nanosPerSecond),
      .destReply "token-2" 60 (1010 * Go.nanosPerSecond)]

/-- The ready branch marks the revision ready without looking at which revision
the last token has: once the second revision is past its expiration time, the
first token is still last, and both are marked ready. -/
theorem ready_write_leaves_older_revision_last :
    deleteExpiredToken (run zeroStatus secondRevisionEvents) 60 (1200 * Go.nanosPerSecond) = none ∧
      (postRollingDestinationDomainRoute (run zeroStatus secondRevisionEvents)
          [⟨"gw-1", 1200 * Go.nanosPerSecond⟩] (1200 * Go.nanosPerSecond)).map
        (fun ts' => (ts'.tokens.map fun t => (t.revision, t.isReady),
          ts'.revisionToken.revision, ts'.revisionToken.isReady)) =
        some ([(1, true)], 2, true) := by
  decide

end Kuscia.DomainRoute
