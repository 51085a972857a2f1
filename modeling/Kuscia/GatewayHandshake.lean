import Kuscia.CasStore
import Kuscia.GoMap

namespace Kuscia.Gateway

/-!
# The gateway token handshake

The two ends of a DomainRoute agree on a 32-byte token
(`pkg/gateway/controller/handshake.go`).  A source gateway sends a
`HandShakeRequest`, either from `sourceInitiateHandShake` (the DomainRoute
controller) or from `HandshakeToMaster` (a Lite gateway at start-up).  The
destination answers it in `DestReplyHandshake`.  It stores the token in its
copy of the DomainRoute under the next revision, waits for the token to become
ready, and returns its own part encrypted for the source.  The source then
stores the token with the returned revision in its own copy
(`UpdateDomainRouteRevisionToken`).

What the model fixes:

* RSA PKCS#1 v1.5 is symbolic (`Ciphertext`).  A ciphertext names the public
  key it was made for, the message, and the random padding that makes two
  encryptions of one message differ.  Decryption succeeds exactly with the
  matching private key and the expected length, which is how
  `DecryptPKCS1v15` with its prefix check behaves when RSA itself is correct.
* Each copy of the DomainRoute's token status is a `CasStore.Store`:
  `UpdateStatus` is a compare-and-swap on the resource version, and a lister
  read returns any version the store has held.
* The network keeps every request, since clients retry, and every response.
  A `DestReplyHandshake` call is split at `waitTokenReady`, so that other
  handshakes and the destination's DomainRoute controller run while it waits.
* A run is any interleaving of these steps.  The `Action`s that choose it also
  carry the random bytes, the clock and how stale each read is.
-/

/-- A byte slice. -/
abbrev Bytes := List UInt8

def tokenByteSize : Nat := 32

/-- tokenPrefix, the bytes of "kuscia". -/
def tokenPrefix : Bytes := [0x6b, 0x75, 0x73, 0x63, 0x69, 0x61]

/-! ## Cryptography (`pkg/utils/tls/crypt.go`) -/

/-- An RSA key pair, by name: a `*rsa.PublicKey` and the `*rsa.PrivateKey` of
the same pair carry the same name. -/
structure RSAKey where
  id : Nat
  deriving DecidableEq, Repr

/-- A PKCS#1 v1.5 ciphertext (base64 encoded where Go keeps a string). -/
structure Ciphertext where
  publicKey : RSAKey
  message : Bytes
  padding : Nat
  deriving DecidableEq, Repr

/-- `EncryptPKCS1v15`: the prefix is put before the key, and the whole is
encrypted with random padding. -/
def EncryptPKCS1v15 (pub : RSAKey) (key pre : Bytes) (padding : Nat) : Ciphertext :=
  ⟨pub, pre ++ key, padding⟩

/-- `DecryptPKCS1v15` for a non-empty prefix.  `DecryptPKCS1v15SessionKey`
overwrites the random key that `genKey` drew only when the private key matches
and the message has exactly `keysize + len(prefix)` bytes.  `genKey` never
draws a key that starts with the prefix, so every other case ends in "decrypt
error, prefix not match".  `none` stands for the empty string, which is no
ciphertext at all. -/
def DecryptPKCS1v15 (priv : RSAKey) (ciphertext : Option Ciphertext) (keysize : Nat)
    (pre : Bytes) : Option Bytes :=
  match ciphertext with
  | none => none
  | some c =>
    if c.publicKey = priv ∧ c.message.length = keysize + pre.length ∧
        pre.isPrefixOf c.message = true then
      some (c.message.drop pre.length)
    else none

def encryptToken (pub : RSAKey) (key : Bytes) (padding : Nat) : Ciphertext :=
  EncryptPKCS1v15 pub key tokenPrefix padding

def decryptToken (priv : RSAKey) (ciphertext : Option Ciphertext) (keysize : Nat) :
    Option Bytes :=
  DecryptPKCS1v15 priv ciphertext keysize tokenPrefix

/-- `make([]byte, n)` filled by `rand.Read`: the first `n` of the bytes the
environment draws. -/
def randRead (n : Nat) (random : Bytes) : Bytes :=
  (random ++ List.replicate n 0).take n

def generateRandomToken (size : Nat) (random : Bytes) : Bytes :=
  randRead size random

/-- The base64 SHA-256 digest of a public key, taken to be collision-free: it
identifies the key it was computed from. -/
structure PublicKeyHash where
  key : RSAKey
  deriving DecidableEq, Repr

def calcPublicKeyHash (pub : RSAKey) : PublicKeyHash :=
  ⟨pub⟩

/-! ## The DomainRoute -/

/-- `DomainRouteToken`, the fields the handshake reads and writes.  `token` is
`none` for the empty string; times are Unix nanoseconds. -/
structure DomainRouteToken where
  token : Option Ciphertext
  revision : Int64
  revisionTime : Int
  isReady : Bool
  deriving DecidableEq, Repr

/-- The token status of a newly created DomainRoute. -/
def emptyToken : DomainRouteToken :=
  ⟨none, 0, 0, false⟩

inductive TokenGenMethod where
  | RSA
  | UIDRSA
  | other (name : String)
  deriving DecidableEq, Repr

/-- `dr.Spec.TokenConfig`.  The public keys are given as parsed keys; the
rolling period is in seconds. -/
structure DomainRouteTokenConfig where
  sourcePublicKey : RSAKey
  destinationPublicKey : RSAKey
  rollingUpdatePeriod : Int
  tokenGenMethod : TokenGenMethod
  deriving DecidableEq, Repr

def GenDomainRouteName (src dest : String) : String :=
  s!"{src}-{dest}"

/-- The refusal of an `UpdateStatus` made from an outdated resource version. -/
def conflictMessage (name : String) : String :=
  s!"Operation cannot be fulfilled on domainroutes.kuscia.secretflow \"{name}\": the object has been modified; please apply your changes to the latest version and try again"

/-! ## Messages (`proto/api/v1alpha1/handshake`) -/

/-- The request's `Type`: handShakeTypeUID, handShakeTypeRSA, or any other
string. -/
inductive HandShakeType where
  | UID
  | RSA
  | other (name : String)
  deriving DecidableEq, Repr

structure TokenConfig where
  token : Ciphertext
  revision : Int64
  pubhash : PublicKeyHash
  deriving DecidableEq, Repr

/-- `HandShakeRequest`; `tokenConfig` is `nil` in UID requests. -/
structure HandShakeRequest where
  domainId : String
  type : HandShakeType
  tokenConfig : Option TokenConfig
  deriving DecidableEq, Repr

structure Status where
  code : Int32
  message : String
  deriving DecidableEq, Repr

/-- The response's `Token`; its revision travels as an `int32`. -/
structure Token where
  token : Ciphertext
  revision : Int32
  deriving DecidableEq, Repr

structure HandShakeResponse where
  status : Status
  token : Option Token
  deriving DecidableEq, Repr

def buildFailedHandshakeReply (code : Int32) (message : String) : HandShakeResponse :=
  ⟨⟨code, message⟩, none⟩

/-! ## The destination (`DestReplyHandshake`) -/

/-- The destination gateway: its key pair `c.prikey`, its domain
`c.gateway.Namespace`, and the name and spec of its copy of the DomainRoute. -/
structure Destination where
  prikey : RSAKey
  domain : String
  drName : String
  tokenConfig : DomainRouteTokenConfig
  deriving DecidableEq, Repr

/-- The random choices of one `DestReplyHandshake` call: the bytes `rand.Read`
yields for the response token, and the paddings of its two encryptions. -/
structure DestRandom where
  respToken : Bytes
  tokenPadding : Nat
  respPadding : Nat
  deriving DecidableEq, Repr

/-- In UID mode a new token is drawn when none is stored or when the stored
one has outlived the rolling period. -/
def needGenerateToken (tokenConfig : DomainRouteTokenConfig) (dstRevisionToken : DomainRouteToken)
    (now : Int) : Bool :=
  dstRevisionToken.token.isNone ||
    (decide (0 < tokenConfig.rollingUpdatePeriod) &&
      decide (tokenConfig.rollingUpdatePeriod * 1000000000 < now - dstRevisionToken.revisionTime))

/-- `DestReplyHandshake` up to the encryption of the tokens, from the first
lister read `dr`: a failed reply's message, or the token the destination
stores together with the part of it that it returns.  `none`: an RSA request
without a `TokenConfig` dereferences `nil`, and the handler panics without a
reply. -/
def destTokens (d : Destination) (req : HandShakeRequest) (dr : DomainRouteToken) (now : Int)
    (random : Bytes) : Option (Except String (Bytes × Bytes)) :=
  let srcDomain := req.domainId
  let destDomain := d.domain
  let drName := GenDomainRouteName srcDomain destDomain
  if drName ≠ d.drName then
    some (.error s!"domainRoute [{drName}] not found in dest domain [{destDomain}]")
  else
  match req.type with
  | .UID =>
    -- reuse the stored token unless it is missing, expired or unreadable
    let respToken :=
      if needGenerateToken d.tokenConfig dr now then generateRandomToken tokenByteSize random
      else
        match decryptToken d.prikey dr.token tokenByteSize with
        | some stored => stored
        | none => generateRandomToken tokenByteSize random
    some (.ok (respToken, respToken))
  | .RSA =>
    match req.tokenConfig with
    | none => none
    | some tokenConfig =>
      if tokenConfig.pubhash ≠ calcPublicKeyHash d.tokenConfig.sourcePublicKey then
        some (.error s!"source domain [{srcDomain}] publickey hash mismatch in domainroute [{drName}]")
      else
        match decryptToken d.prikey (some tokenConfig.token) (tokenByteSize / 2) with
        | none =>
          some (.error s!"dest domain [{destDomain}] publickey in source domain [{srcDomain}] may be not correct")
        | some sourceToken =>
          let respToken := randRead (tokenByteSize / 2) random
          some (.ok (sourceToken ++ respToken, respToken))
  | .other name => some (.error s!"invalid handshake type [{name}]")

/-- The new RevisionToken written from `drLatest`, when the encrypted token
differs from the stored one. -/
def nextRevisionToken (drLatest : DomainRouteToken) (tokenEncrypted : Ciphertext) (now : Int) :
    Option DomainRouteToken :=
  if drLatest.token ≠ some tokenEncrypted then
    some { drLatest with
      token := some tokenEncrypted
      revision := drLatest.revision + 1
      revisionTime := now
      isReady := false }
  else none

/-- What a `DestReplyHandshake` call has when it enters `waitTokenReady`: the
encrypted response token and the revision it will report. -/
structure ReplyInWait where
  respTokenEncrypted : Ciphertext
  revision : Int64
  deriving DecidableEq, Repr

/-- `DestReplyHandshake` up to `waitTokenReady`, against the destination's
store; `dr` and `drLatest` are its two lister reads.  The result is the failed
reply, or the store after the write together with the call's state.  `none`:
the handler panicked. -/
def DestReplyHandshake (d : Destination) (store : CasStore.Store DomainRouteToken)
    (req : HandShakeRequest) (dr drLatest : CasStore.Versioned DomainRouteToken) (now : Int)
    (r : DestRandom) :
    Option (Except HandShakeResponse (CasStore.Store DomainRouteToken × ReplyInWait)) :=
  let destDomain := d.domain
  let drName := d.drName
  (destTokens d req dr.value now r.respToken).map fun
    | .error message => .error (buildFailedHandshakeReply 500 message)
    | .ok (token, respToken) =>
      let tokenEncrypted := encryptToken d.prikey token r.tokenPadding
      let respTokenEncrypted := encryptToken d.tokenConfig.sourcePublicKey respToken r.respPadding
      match nextRevisionToken drLatest.value tokenEncrypted now with
      | some updated =>
        match store.update drLatest.resourceVersion updated with
        | some store' => .ok (store', ⟨respTokenEncrypted, updated.revision⟩)
        | none =>
          let err := conflictMessage drName
          .error (buildFailedHandshakeReply 500
            s!"update domainRoute [{drName}] in dest domain [{destDomain}] error: {err}")
      | none => .ok (store, ⟨respTokenEncrypted, drLatest.value.revision⟩)

/-- The reply a waiting call sends once the token is ready. -/
def ReplyInWait.reply (call : ReplyInWait) : HandShakeResponse :=
  ⟨⟨0, ""⟩, some ⟨call.respTokenEncrypted, call.revision.toInt32⟩⟩

def maxRetryTimes : Nat := 30

/-- The loop of `waitTokenReady` over the versions its ticks read from the
lister, `i` ticks in; `none` while it has not decided. -/
def waitTokenReady (drName : String) : Nat → List DomainRouteToken → Option (Except String Unit)
  | _, [] => none
  | i, drLatest :: later =>
    if drLatest.isReady then some (.ok ())
    else if drLatest.token = none then some (.error s!"token of dr {drName} was deleted ")
    else if i + 1 = maxRetryTimes then
      some (.error s!"wait dr {drName} token ready failed at max retry times:{maxRetryTimes}")
    else waitTokenReady drName (i + 1) later

/-- The end of `DestReplyHandshake`, from what `waitTokenReady` observes. -/
def finishReply (d : Destination) (call : ReplyInWait) (observed : List DomainRouteToken) :
    Option HandShakeResponse :=
  let destDomain := d.domain
  (waitTokenReady d.drName 0 observed).map fun
    | .error err =>
      buildFailedHandshakeReply 500 s!"wait token ready in dest domain [{destDomain}] error: {err}"
    | .ok () => call.reply

/-- The branch of `postRollingDestinationDomainRoute` that marks the token
ready once every destination instance has taken it, written from a lister
read. -/
def markTokenReady (store : CasStore.Store DomainRouteToken)
    (dr : CasStore.Versioned DomainRouteToken) : Option (CasStore.Store DomainRouteToken) :=
  if dr.value.isReady then none
  else store.update dr.resourceVersion { dr.value with isReady := true }

/-! ## The source -/

/-- The source domain's gateways: the domain's key pair `c.prikey`, shared by
every instance and published as `c.gateway.Status.PublicKey`; the domain; and
the name and spec of its copy of the DomainRoute. -/
structure Source where
  prikey : RSAKey
  domainId : String
  drName : String
  tokenConfig : DomainRouteTokenConfig
  deriving DecidableEq, Repr

/-- Who started a handshake: `sourceInitiateHandShake`, or `HandshakeToMaster`
with the master's public key if registration returned one. -/
inductive Initiator where
  | domainRoute
  | master (masterPubKey : Option RSAKey)
  deriving DecidableEq, Repr

/-- A source instance's handshake in flight: the request it sent and its own
half of the token (empty in UID mode). -/
structure Pending where
  initiator : Initiator
  sourceToken : Bytes
  request : HandShakeRequest
  deriving DecidableEq, Repr

/-- `RevisionToken`, what a completed handshake gives the source. -/
structure RevisionToken where
  rawToken : Bytes
  publicKey : RSAKey
  revision : Int32
  deriving DecidableEq, Repr

/-- A Go nil-pointer panic, taken as the handshake failing. -/
def nilDereference : String :=
  "runtime error: invalid memory address or nil pointer dereference"

def tokenGenMethodError : String :=
  "TokenGenMethod must be UID-RSA-GEN or RSA-GEN"

/-- `sourceInitiateHandShake` up to `doHTTPWithDefaultRetry`, from the
source's lister read `dr`.  `.ok none`: the DomainRoute names another source
key, and the call returns nil without a handshake. -/
def sourceInitiateRequest (src : Source) (dr : DomainRouteToken) (random : Bytes)
    (padding : Nat) : Except String (Option Pending) :=
  if src.tokenConfig.sourcePublicKey ≠ src.prikey then .ok none
  else
    match src.tokenConfig.tokenGenMethod with
    | .UIDRSA => .ok (some ⟨.domainRoute, [], ⟨src.domainId, .UID, none⟩⟩)
    | .RSA =>
      let sourceToken := randRead (tokenByteSize / 2) random
      let sourceTokenEnc := encryptToken src.tokenConfig.destinationPublicKey sourceToken padding
      .ok (some ⟨.domainRoute, sourceToken,
        ⟨src.domainId, .RSA, some ⟨sourceTokenEnc, dr.revision, calcPublicKeyHash src.prikey⟩⟩⟩)
    | .other _ => .error tokenGenMethodError

/-- `sourceInitiateHandShake` from the response on, up to
`UpdateDomainRouteRevisionToken`.  The branch taken is the one the request was
built in. -/
def sourceInitiateResponse (src : Source) (p : Pending) (resp : HandShakeResponse) :
    Except String RevisionToken :=
  let drName := src.drName
  let message := resp.status.message
  if resp.status.code ≠ 0 then .error s!"DomainRoute {drName}: handshake fail, return error:{message}"
  else
    match resp.token with
    | none => .error nilDereference
    | some t =>
      match p.request.type with
      | .UID =>
        match decryptToken src.prikey (some t.token) tokenByteSize with
        | none => .error s!"DomainRoute {drName}: handshake fail, return error:{message}"
        | some token => .ok ⟨token, src.prikey, t.revision⟩
      | .RSA =>
        match decryptToken src.prikey (some t.token) (tokenByteSize / 2) with
        | none => .error s!"DomainRoute {drName}: handshake fail, decryptToken  error:{message}"
        | some destToken => .ok ⟨p.sourceToken ++ destToken, src.prikey, t.revision⟩
      | .other _ => .error tokenGenMethodError

/-- `prepareHandshakeReq`: the request and the source's half of the token. -/
def prepareHandshakeReq (domainID : String) (prikey : RSAKey) (masterPubKey : Option RSAKey)
    (random : Bytes) (padding : Nat) : HandShakeRequest × Bytes :=
  match masterPubKey with
  | some masterPub =>
    let sourceToken := randRead (tokenByteSize / 2) random
    (⟨domainID, .RSA, some ⟨encryptToken masterPub sourceToken padding, 0, calcPublicKeyHash prikey⟩⟩,
      sourceToken)
  | none => (⟨domainID, .UID, none⟩, [])

/-- `HandshakeToMaster` after its retry loop, from the response the loop ended
with. -/
def HandshakeToMaster (prikey : RSAKey) (p : Pending) (resp : HandShakeResponse) :
    Except String RevisionToken :=
  let message := resp.status.message
  if resp.status.code ≠ 0 then .error s!"handshake to master fail, return error:{message}"
  else
    match resp.token with
    | none => .error nilDereference
    | some t =>
      let keysize := if p.request.type = .RSA then tokenByteSize / 2 else tokenByteSize
      match decryptToken prikey (some t.token) keysize with
      | none => .error "decrypt error, prefix not match"
      | some token => .ok ⟨p.sourceToken ++ token, prikey, t.revision⟩

/-- The second half of a handshake, by whoever started it. -/
def Pending.complete (src : Source) (p : Pending) (resp : HandShakeResponse) :
    Except String RevisionToken :=
  match p.initiator with
  | .domainRoute => sourceInitiateResponse src p resp
  | .master _ => HandshakeToMaster src.prikey p resp

/-- `UpdateDomainRouteRevisionToken`, written from the version `drLatest` that
its `Get` returned. -/
def UpdateDomainRouteRevisionToken (store : CasStore.Store DomainRouteToken)
    (drLatest : CasStore.Versioned DomainRouteToken) (drName : String)
    (revisionToken : RevisionToken) (now : Int) (padding : Nat) :
    Except String (CasStore.Store DomainRouteToken) :=
  let tokenEncrypted := encryptToken revisionToken.publicKey revisionToken.rawToken padding
  let drUpdate := { drLatest.value with
    token := some tokenEncrypted
    revision := revisionToken.revision.toInt64
    isReady := true
    revisionTime := now }
  match store.update drLatest.resourceVersion drUpdate with
  | some store' => .ok store'
  | none => .error (conflictMessage drName)

/-! ## The protocol -/

/-- A `DestReplyHandshake` call inside `waitTokenReady`, and the source
instance it answers. -/
structure WaitingReply where
  inst : Nat
  request : HandShakeRequest
  call : ReplyInWait
  deriving DecidableEq, Repr

/-- The two copies of the DomainRoute's token status, the source instances'
handshakes in flight, and the network. -/
structure World where
  dest : CasStore.Store DomainRouteToken
  source : CasStore.Store DomainRouteToken
  pending : Go.Map Nat Pending
  requests : List (Nat × HandShakeRequest)
  waiting : List WaitingReply
  responses : List (Nat × HandShakeRequest × HandShakeResponse)

/-- Both copies newly created, nothing in flight. -/
def World.init : World :=
  ⟨.create emptyToken, .create emptyToken, ∅, [], [], []⟩

/-- One step of some party.  Indices pick a request, a waiting call or a
response (newest first); `read`, `latest` and `get` say how stale a read is. -/
inductive Action where
  /-- source instance `inst` sends a request -/
  | initiate (inst : Nat) (initiator : Initiator) (read : Nat) (random : Bytes) (padding : Nat)
  /-- the destination handles a request up to `waitTokenReady` -/
  | reply (request : Nat) (now : Int) (read latest : Nat) (random : DestRandom)
  /-- a waiting call's `waitTokenReady` observes these reads and ends -/
  | finishWait (call : Nat) (reads : List Nat)
  /-- the destination's DomainRoute controller marks the token ready -/
  | markReady (read : Nat)
  /-- source instance `inst` takes a response and stores the token -/
  | complete (inst : Nat) (response : Nat) (get : Nat) (now : Int) (padding : Nat)
  deriving DecidableEq, Repr

/-- The handshake a source instance starts, if any. -/
def startHandshake (src : Source) (dr : DomainRouteToken) (initiator : Initiator)
    (random : Bytes) (padding : Nat) : Option Pending :=
  match initiator with
  | .domainRoute =>
    match sourceInitiateRequest src dr random padding with
    | .ok started => started
    | .error _ => none
  | .master masterPubKey =>
    let (request, sourceToken) := prepareHandshakeReq src.domainId src.prikey masterPubKey random padding
    some ⟨.master masterPubKey, sourceToken, request⟩

/-- The source instance's second half: the token status to store, if the
handshake and the write succeed. -/
def finishHandshake (src : Source) (store : CasStore.Store DomainRouteToken)
    (drLatest : CasStore.Versioned DomainRouteToken) (p : Pending) (resp : HandShakeResponse)
    (now : Int) (padding : Nat) : Option (CasStore.Store DomainRouteToken) :=
  match p.complete src resp with
  | .error _ => none
  | .ok revisionToken =>
    match UpdateDomainRouteRevisionToken store drLatest src.drName revisionToken now padding with
    | .ok store' => some store'
    | .error _ => none

namespace World

variable (src : Source) (dst : Destination)

def step (w : World) : Action → World
  | .initiate inst initiator read random padding =>
    match startHandshake src (w.source.read read).value initiator random padding with
    | none => w
    | some p => { w with
        pending := w.pending.insert inst p
        requests := (inst, p.request) :: w.requests }
  | .reply request now read latest random =>
    match w.requests[request]? with
    | none => w
    | some (inst, req) =>
      match DestReplyHandshake dst w.dest req (w.dest.read read) (w.dest.read latest) now random with
      | none => w
      | some (.error resp) => { w with responses := (inst, req, resp) :: w.responses }
      | some (.ok (dest, call)) => { w with
          dest := dest
          waiting := ⟨inst, req, call⟩ :: w.waiting }
  | .finishWait index reads =>
    match w.waiting[index]? with
    | none => w
    | some waiting =>
      match finishReply dst waiting.call (reads.map fun r => (w.dest.read r).value) with
      | none => w
      | some resp => { w with
          waiting := w.waiting.eraseIdx index
          responses := (waiting.inst, waiting.request, resp) :: w.responses }
  | .markReady read =>
    match markTokenReady w.dest (w.dest.read read) with
    | none => w
    | some dest => { w with dest := dest }
  | .complete inst response get now padding =>
    match w.pending.lookup inst, w.responses[response]? with
    | some p, some (target, req, resp) =>
      if target = inst ∧ req = p.request then
        match finishHandshake src w.source (w.source.read get) p resp now padding with
        | none => { w with pending := w.pending.erase inst }
        | some source => { w with source := source, pending := w.pending.erase inst }
      else w
    | _, _ => w

/-- A run: the actions in order. -/
def run (w : World) (actions : List Action) : World :=
  actions.foldl (step src dst) w

@[simp] theorem run_nil
    (w : World) :
    run src dst w [] = w := rfl

@[simp] theorem run_cons
    (w : World)
    (a : Action)
    (actions : List Action) :
    run src dst w (a :: actions) = run src dst (step src dst w a) actions := rfl

theorem run_append
    (w : World)
    (first second : List Action) :
    run src dst w (first ++ second) = run src dst (run src dst w first) second :=
  List.foldl_append

end World

end Kuscia.Gateway
