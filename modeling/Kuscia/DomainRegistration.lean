import Mathlib
import Kuscia.CasStore
import Kuscia.GoRuntime

namespace Kuscia.DomainRegistration

open CasStore Go

/-!
# Domain registration against deploy tokens

A domain registers with the master by a `RegisterRequest` (domain id, CSR and
request time) and a JWT signed with the CSR's key.  `registerHandle` verifies
both, fetches the Domain, looks up the CSR's deploy token in
`Status.DeployTokenStatuses`, marks it used by `UpdateStatus`, and then sets
`Spec.Cert` by a merge `Patch`.  Meanwhile the domain controller's
`syncDomainStatus` rebuilds the token list from its informer's copy of the
Domain: it keeps the newest used and the newest unused token, and generates an
unused one when none is left.

The API server holds the Domain as a `CasStore.Store`: `UpdateStatus` of the
status subresource is refused unless it names the current resourceVersion, and
replaces the status only; the merge `Patch` names no resourceVersion and
replaces `Spec.Cert` only.  Each API call of a registration is a step of its
own, so registrations and controller syncs interleave in every order, and the
controller reads whichever version its cache holds.

Cryptography is a parameter (`Crypto`): parsing a CSR, verifying a JWT's
signature, SHA-256 and issuing a certificate are taken as given.

A `World` also carries ghost fields, which only grow: the values the token
generator produced, the tokens registrations marked, and the certificates they
patched in.  They are what the safety statements of
`Kuscia.DomainRegistrationSafety` are about.
-/

/-! ## The Domain -/

/-- `common.DeployTokenUsedState`. -/
def DeployTokenUsedState : String :=
  "used"

/-- `common.DeployTokenUnusedState`. -/
def DeployTokenUnusedState : String :=
  "unused"

/-- `DeployTokenStatus`, with `LastTransitionTime` in seconds. -/
structure DeployTokenStatus where
  token : String
  state : String
  lastTransitionTime : Nat
  deriving DecidableEq, Repr

/-- `NodeStatus`, as `getDomainNodeStatus` builds it from a node. -/
structure NodeStatus where
  name : String
  version : String
  status : String
  lastHeartbeatTime : Nat
  lastTransitionTime : Nat
  deriving DecidableEq, Repr

/-- `DomainStatus`. -/
structure DomainStatus where
  nodeStatuses : List NodeStatus
  deployTokenStatuses : List DeployTokenStatus
  deriving DecidableEq, Repr

/-- The parts of a `Domain` the two writers touch: `Spec.Cert` and `Status`. -/
structure Domain where
  cert : String
  status : Option DomainStatus
  deriving DecidableEq, Repr

/-- The deploy tokens of a Domain; a nil status has none. -/
def Domain.tokens (domain : Domain) : List DeployTokenStatus :=
  (domain.status.map DomainStatus.deployTokenStatuses).getD []

/-- `UpdateStatus` of the status subresource: refused (a conflict) unless
`basis` is the current resourceVersion; the spec is kept. -/
def updateStatus (store : Store Domain) (basis : Nat) (status : DomainStatus) :
    Option (Store Domain) :=
  store.update basis { store.current.value with status := some status }

/-- A merge `Patch` of `Spec.Cert`: it names no resourceVersion and is never
refused. -/
def patchCert (store : Store Domain) (cert : String) : Store Domain :=
  store.write { store.current.value with cert := cert }

/-! ## The domain controller -/

/-- `usedLimit`. -/
def usedLimit : Nat :=
  1

/-- `unusedLimit`. -/
def unusedLimit : Nat :=
  1

/-- `sortTokenStatus`: `sort.SliceStable` by `LastTransitionTime`.  Every
stable sort gives the same order; insertion sort is the one that computes here. -/
def sortTokenStatus (status : List DeployTokenStatus) : List DeployTokenStatus :=
  status.insertionSort fun a b => a.lastTransitionTime ≤ b.lastTransitionTime

/-- `sortNodeStatus`: `sort.SliceStable` by name. -/
def sortNodeStatus (status : List NodeStatus) : List NodeStatus :=
  status.insertionSort fun a b => ¬ b.name < a.name

/-- `generateTokenStatus`: `size` unused tokens stamped `now`, whose values
`generateToken` draws; `generated` lists the draws. -/
def generateTokenStatus (size : Nat) (generated : List String) (now : Nat) :
    List DeployTokenStatus :=
  (generated.take size).map fun token => ⟨token, DeployTokenUnusedState, now⟩

/-- `newDomainTokenStatus`: the newest used token, the newest unused token, and
a generated one when no unused token is left.  Tokens with an empty value or
another state are dropped. -/
def newDomainTokenStatus (domain : Domain) (generated : List String) (now : Nat) :
    List DeployTokenStatus :=
  let oldTokenStatuses := sortTokenStatus domain.tokens
  let valid := oldTokenStatuses.filter fun tokenStatus => tokenStatus.token != ""
  let usedTokens := valid.filter fun tokenStatus => tokenStatus.state == DeployTokenUsedState
  let unusedTokens := valid.filter fun tokenStatus => tokenStatus.state == DeployTokenUnusedState
  let used := usedTokens.length
  let keptUsed := if used > usedLimit then usedTokens.drop (used - usedLimit) else usedTokens
  let unused := unusedTokens.length
  let keptUnused :=
    if unused > unusedLimit then unusedTokens.drop (unused - unusedLimit)
    else unusedTokens ++ generateTokenStatus (unusedLimit - unused) generated now
  sortTokenStatus (keptUsed ++ keptUnused)

/-- `isDomainStatusEqual` against the freshly built status, which is never nil.
Lists stand for slices, so a nil slice and an empty one compare equal here. -/
def isDomainStatusEqual (oldStatus : Option DomainStatus) (newStatus : DomainStatus) : Bool :=
  match oldStatus with
  | none => false
  | some oldStatus =>
    oldStatus.nodeStatuses.length == newStatus.nodeStatuses.length &&
      oldStatus.deployTokenStatuses.length == newStatus.deployTokenStatuses.length &&
      sortNodeStatus oldStatus.nodeStatuses == sortNodeStatus newStatus.nodeStatuses &&
      sortTokenStatus oldStatus.deployTokenStatuses == sortTokenStatus newStatus.deployTokenStatuses

/-- `syncDomainStatus` on the informer's copy of the Domain: the status to
write, if it differs from the copy's.  `nodeStatuses` is what
`newDomainNodeStatus` reads from the listers. -/
def syncDomainStatus
    (dm : Domain)
    (nodeStatuses : List NodeStatus)
    (generated : List String)
    (now : Nat) :
    Option DomainStatus :=
  let newStatus : DomainStatus := ⟨nodeStatuses, newDomainTokenStatus dm generated now⟩
  if isDomainStatusEqual dm.status newStatus then none else some newStatus

/-! ## The registration handler -/

/-- An `x509.CertificateRequest`: its subject's common name, its public key and
its extensions as (id, value). -/
structure CertificateRequest where
  commonName : String
  publicKey : String
  extensions : List (String × String)
  deriving DecidableEq, Repr

/-- `handshake.RegisterRequest`. -/
structure RegisterRequest where
  domainId : String
  csr : String
  requestTime : Int
  deriving DecidableEq, Repr

/-- `RegisterJwtClaims`: the request hash, and `ExpiresAt`, nil when the token
has no expiry. -/
structure RegisterJwtClaims where
  reqHashSha256 : String
  expiresAt : Option Int
  deriving DecidableEq, Repr

/-- The primitives registration relies on, taken as correct. -/
structure Crypto where
  /-- `parseCertRequest`: base64, PEM and x509 parsing of a CSR. -/
  parseCertRequest : String → Except String CertificateRequest
  /-- `jwt.ParseWithClaims` with a key function returning the key: the claims
  of a token whose signature verifies under the key. -/
  parseWithClaims : String → String → Except String RegisterJwtClaims
  /-- `sha256.Sum256`. -/
  sha256 : String → String
  /-- `x509.CreateCertificate` by the master's CA, PEM and base64 encoded: the
  certificate of the CSR's subject and public key, valid from the time given. -/
  createCertificate : CertificateRequest → Int → String
  /-- `isCertMatch`: the certificate text parses to a certificate with the
  CSR's public key, subject and key algorithm. -/
  isCertMatch : String → CertificateRequest → Bool

/-- `common.DomainCsrExtensionID`. -/
def DomainCsrExtensionID : String :=
  "1.2.3.4"

/-- `getTokenFromCertRequest`: the value of the first extension with the
deploy token's id, or empty. -/
def getTokenFromCertRequest (certRequest : CertificateRequest) : String :=
  match certRequest.extensions.find? (fun e => e.1 == DomainCsrExtensionID) with
  | some e => e.2
  | none => ""

/-- `getRegisterRequestHashSha256`. -/
def getRegisterRequestHashSha256 (crypto : Crypto) (regReq : RegisterRequest) : String :=
  crypto.sha256 (regReq.domainId ++ "_" ++ regReq.csr ++ "_" ++ toString regReq.requestTime)

/-- `verifyJwtToken` at time `now`.  A token without an expiry leaves
`ExpiresAt` nil, and reading its time panics. -/
def verifyJwtToken
    (crypto : Crypto)
    (jwtTokenStr pubKey : String)
    (req : RegisterRequest)
    (now : Int) :
    Outcome Unit :=
  match crypto.parseWithClaims jwtTokenStr pubKey with
  | .error message => .error (.error message)
  | .ok rjc =>
    match rjc.expiresAt with
    | none => .error nilDereference
    | some expiresAt =>
      if now - expiresAt > 0 then .error (.error "verify jwt failed, detail: token expired")
      else if getRegisterRequestHashSha256 crypto req = rjc.reqHashSha256 then .ok ()
      else .error (.error "verify jwt failed, detail: the request content doesn\x27t match the hash")

/-- `verifyCSR`: the common name must be the domain id. -/
def verifyCSR (csr : CertificateRequest) (domainID : String) : Except String Unit :=
  if csr.commonName ≠ domainID then
    .error ("the csr subject common name must be domainID: " ++ csr.commonName ++ " not " ++ domainID)
  else .ok ()

/-- `verifyRegisterRequest`. -/
def verifyRegisterRequest
    (crypto : Crypto)
    (req : RegisterRequest)
    (token : String)
    (now : Int) :
    Outcome Unit :=
  match crypto.parseCertRequest req.csr with
  | .error message => .error (.error ("parse cert request failed, detail: " ++ message))
  | .ok certRequest =>
    match verifyCSR certRequest req.domainId with
    | .error message => .error (.error ("verify csr failed, detail: " ++ message))
    | .ok () => wrapError "verify jwt failed, detail: " (verifyJwtToken crypto token certRequest.publicKey req now)

/-- The loop of `deployTokenMatched` from position `i`: the first token with
the value decides. -/
def deployTokenMatchedFrom (regToken : String) (i : Nat) :
    List DeployTokenStatus → Except String Nat
  | [] => .error "deploy token not found, please use a valid unused deploy token"
  | dts :: rest =>
    if dts.token = regToken then
      if dts.state = DeployTokenUnusedState then .ok i
      else .error "deploy token found but used, please use an unused deploy token"
    else deployTokenMatchedFrom regToken (i + 1) rest

/-- `deployTokenMatched`: the index of the CSR's token, if it is unused. -/
def deployTokenMatched
    (certRequest : CertificateRequest)
    (deployTokenStatuses : List DeployTokenStatus) :
    Except String Nat :=
  let regToken := getTokenFromCertRequest certRequest
  if regToken = "" then .error "token not found in cert request, bad request"
  else deployTokenMatchedFrom regToken 0 deployTokenStatuses

/-- Where one `registerHandle` execution stands between its API calls. -/
inductive Phase where
  /-- Verified, with the certificate made and the Domain fetched at `domain`. -/
  | fetched (certRequest : CertificateRequest) (domainCrtStr : String) (domain : Versioned Domain)
  /-- The token is marked used; the patch of the certificate is to come. -/
  | statusUpdated (domainCrtStr : String)
  /-- The response is written. -/
  | responded
  /-- The handler wrote an error, or panicked. -/
  | failed (failure : Failure)
  deriving Repr

/-- One `registerHandle` execution: its request, the `jwt-token` header, the
time it verified the token at, and its phase. -/
structure Execution where
  req : RegisterRequest
  jwtToken : String
  now : Int
  phase : Phase

/-- `registerHandle` up to the `Get` of the Domain named `name`. -/
def registerStart
    (crypto : Crypto)
    (name : String)
    (store : Store Domain)
    (req : RegisterRequest)
    (jwtToken : String)
    (now : Int) :
    Phase :=
  match crypto.parseCertRequest req.csr with
  | .error message => .failed (.error message)
  | .ok certRequest =>
    match verifyRegisterRequest crypto req jwtToken now with
    | .error failure => .failed failure
    | .ok () =>
      if req.domainId = name then
        .fetched certRequest (crypto.createCertificate certRequest req.requestTime) store.current
      else .failed (.error ("domain [" ++ req.domainId ++ "] not found"))

/-- What `registerHandle` does with the fetched Domain before it writes. -/
inductive Decision where
  /-- The certificate already matches: respond without writing. -/
  | respond
  /-- Write the error. -/
  | fail (message : String)
  /-- Mark the token: `UpdateStatus` with this status. -/
  | mark (newStatus : DomainStatus)

/-- `registerHandle` from the fetched Domain to its `UpdateStatus`. -/
def registerDecision
    (crypto : Crypto)
    (req : RegisterRequest)
    (certRequest : CertificateRequest)
    (domain : Domain) :
    Decision :=
  match domain.status with
  | none => .fail "deploytokenstatus of domain is empty"
  | some status =>
    if crypto.isCertMatch domain.cert certRequest then .respond
    else
      match deployTokenMatched certRequest status.deployTokenStatuses with
      | .error message =>
        .fail ("source domain [" ++ req.domainId ++ "] deploy token mismatch, detail -> " ++ message)
      | .ok index =>
        .mark { status with
          deployTokenStatuses := status.deployTokenStatuses.modify index
            fun tokenStatus => { tokenStatus with state := DeployTokenUsedState } }

/-- The error text of a refused `UpdateStatus`. -/
def conflictMessage (req : RegisterRequest) : String :=
  "get source domain [" ++ req.domainId ++ "] error, detail -> the object has been modified"

/-! ## Interleaved runs -/

/-- The API server's Domain, the registrations so far, and the ghost record. -/
structure World where
  /-- The Domain's name. -/
  name : String
  store : Store Domain
  /-- Every `registerHandle` execution, numbered by its position. -/
  executions : List Execution
  /-- Ghost: every value `generateToken` has drawn. -/
  seen : List String
  /-- Ghost: the tokens registrations marked used, with the execution that did. -/
  marks : List (Nat × String)
  /-- Ghost: the certificates registrations patched in, with the execution that did. -/
  patches : List (Nat × String)

/-- A Domain just created, with no status, and nothing else yet. -/
def World.init (name : String) (cert : String) : World :=
  ⟨name, Store.create ⟨cert, none⟩, [], [], [], []⟩

/-- One step of one party. -/
inductive Action where
  /-- A request reaches `registerHandle`, which verifies it and fetches the Domain. -/
  | register (req : RegisterRequest) (jwtToken : String) (now : Int)
  /-- Execution `execution` checks the fetched Domain and calls `UpdateStatus`. -/
  | updateStatus (execution : Nat)
  /-- Execution `execution` patches the certificate in and responds. -/
  | patch (execution : Nat)
  /-- The controller syncs from a copy `staleness` writes behind. -/
  | syncDomainStatus (staleness : Nat) (nodeStatuses : List NodeStatus)
      (generated : List String) (now : Nat)

/-- The values `generateToken` draws during an action. -/
def Action.generated : Action → List String
  | .syncDomainStatus _ _ generated _ => generated
  | _ => []

/-- Execution `i` moves to `phase`. -/
def World.setPhase (w : World) (i : Nat) (e : Execution) (phase : Phase) : World :=
  { w with executions := w.executions.set i { e with phase := phase } }

/-- The `UpdateStatus` step of execution `i`, at `e` with its fetched Domain. -/
def updateStatusStep
    (crypto : Crypto)
    (w : World)
    (i : Nat)
    (e : Execution)
    (certRequest : CertificateRequest)
    (domainCrtStr : String)
    (domain : Versioned Domain) :
    World :=
  match registerDecision crypto e.req certRequest domain.value with
  | .respond => w.setPhase i e .responded
  | .fail message => w.setPhase i e (.failed (.error message))
  | .mark newStatus =>
    match updateStatus w.store domain.resourceVersion newStatus with
    | none => w.setPhase i e (.failed (.error (conflictMessage e.req)))
    | some store =>
      { w.setPhase i e (.statusUpdated domainCrtStr) with
        store := store
        marks := w.marks ++ [(i, getTokenFromCertRequest certRequest)] }

/-- The controller's sync from the cached version `dm`; a refused
`UpdateStatus` is ignored. -/
def syncStep
    (w : World)
    (dm : Versioned Domain)
    (nodeStatuses : List NodeStatus)
    (generated : List String)
    (now : Nat) :
    World :=
  let w := { w with seen := w.seen ++ generated }
  match syncDomainStatus dm.value nodeStatuses generated now with
  | none => w
  | some newStatus =>
    match updateStatus w.store dm.resourceVersion newStatus with
    | none => w
    | some store => { w with store := store }

/-- One step. -/
def step (crypto : Crypto) (w : World) : Action → World
  | .register req jwtToken now =>
    { w with
      executions := w.executions ++
        [⟨req, jwtToken, now, registerStart crypto w.name w.store req jwtToken now⟩] }
  | .updateStatus i =>
    match w.executions[i]? with
    | some e =>
      match e.phase with
      | .fetched certRequest domainCrtStr domain =>
        updateStatusStep crypto w i e certRequest domainCrtStr domain
      | _ => w
    | none => w
  | .patch i =>
    match w.executions[i]? with
    | some e =>
      match e.phase with
      | .statusUpdated domainCrtStr =>
        { w.setPhase i e .responded with
          store := patchCert w.store domainCrtStr
          patches := w.patches ++ [(i, domainCrtStr)] }
      | _ => w
    | none => w
  | .syncDomainStatus staleness nodeStatuses generated now =>
    syncStep w (w.store.read staleness) nodeStatuses generated now

/-- The world after a sequence of steps. -/
def run (crypto : Crypto) (w : World) : List Action → World
  | [] => w
  | action :: rest => run crypto (step crypto w action) rest

end Kuscia.DomainRegistration
