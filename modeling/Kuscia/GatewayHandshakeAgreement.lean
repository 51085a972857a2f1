import Kuscia.GatewayHandshake

namespace Kuscia.Gateway

/-!
# Token agreement across interleaved handshakes

Whatever the interleaving of handshakes, from any number of source instances
and in both modes, a token the source stores under a revision is one that the
destination has held under that revision, and the destination never holds two
tokens under one revision.  This holds as long as the destination's revisions
fit the `int32` in which `DestReplyHandshake` reports them
(`handshake_tokens_agree`).  The revision is an `int64` in the DomainRoute
and in the request's `TokenConfig`, and only the reply's `Token.revision`
narrows it to `int32`; past that bound the source stores a revision that the
destination never gave (`revision_wraps_at_int32`).

The argument is an invariant of the whole world (`Agreement`):

* the destination's revisions only grow, and its token changes only with its
  revision (`RevisionsMonotone`).  A new token is written from the current
  version, since the compare-and-swap refuses any other
  (`CasStore.Store.eq_current_of_update`), and it raises the revision;
* every reply on the wire or about to be sent answers its request
  (`Answers`): a source that completes the request's handshake with it gets a
  token that some version of the destination holds under the reply's revision;
* every token the source has stored is such a token (`SourceAgrees`).
-/

/-! ## Symbolic encryption and machine integers -/

theorem decryptToken_encryptToken
    (priv pub : RSAKey)
    (key : Bytes)
    (padding keysize : Nat) :
    decryptToken priv (some (encryptToken pub key padding)) keysize =
      if pub = priv ∧ key.length = keysize then some key else none := by
  have isPrefix : tokenPrefix.isPrefixOf (tokenPrefix ++ key) = true :=
    List.isPrefixOf_iff_prefix.mpr (List.prefix_append _ _)
  have sameLength :
      tokenPrefix.length + key.length = keysize + tokenPrefix.length ↔ key.length = keysize := by
    omega
  simp only [decryptToken, encryptToken, DecryptPKCS1v15, EncryptPKCS1v15, isPrefix, and_true,
    List.length_append, sameLength, List.drop_left]

theorem decryptToken_encryptToken_eq_some
    {priv pub : RSAKey}
    {key key' : Bytes}
    {padding keysize : Nat}
    (decrypted : decryptToken priv (some (encryptToken pub key padding)) keysize = some key') :
    key' = key ∧ pub = priv ∧ key.length = keysize := by
  rw [decryptToken_encryptToken] at decrypted
  split at decrypted
  · rename_i matching
    exact ⟨(Option.some.inj decrypted).symm, matching⟩
  · cases decrypted

theorem decryptToken_length
    {priv : RSAKey}
    {ciphertext : Option Ciphertext}
    {keysize : Nat}
    {key : Bytes}
    (decrypted : decryptToken priv ciphertext keysize = some key) :
    key.length = keysize := by
  unfold decryptToken DecryptPKCS1v15 at decrypted
  cases ciphertext with
  | none => cases decrypted
  | some c =>
    dsimp only at decrypted
    split at decrypted
    · rename_i accepted
      have messageLength := accepted.2.1
      cases decrypted
      rw [List.length_drop]
      omega
    · cases decrypted

@[simp] theorem randRead_length
    (n : Nat)
    (random : Bytes) :
    (randRead n random).length = n := by
  simp only [randRead, List.length_take, List.length_append, List.length_replicate]
  omega

theorem toInt_add_one_of_lt
    {x : Int64}
    (small : x.toInt + 1 < 2 ^ 63) :
    (x + 1).toInt = x.toInt + 1 := by
  have lower := Int64.le_toInt x
  rw [Int64.toInt_add, Int64.toInt_one]
  exact Int.bmod_eq_of_le (by omega) (by omega)

/-- A revision that fits in an `int32` survives the trip through one. -/
theorem toInt32_toInt64_of_fits
    {x : Int64}
    (nonneg : 0 ≤ x.toInt)
    (fits : x.toInt < 2 ^ 31) :
    x.toInt32.toInt64 = x := by
  apply Int64.toInt_inj.mp
  rw [Int32.toInt_toInt64, Int64.toInt_toInt32]
  exact Int.bmod_eq_of_le (by omega) (by omega)

/-! ## What the source makes of a reply -/

/-- The size of the destination's part that a handshake decrypts: half the
token in RSA mode, all of it in UID mode. -/
def Pending.respTokenSize (p : Pending) : Nat :=
  if p.request.type = .RSA then tokenByteSize / 2 else tokenByteSize

/-- A handshake in flight as the initiators start it: in UID mode the source
has no part of the token, in RSA mode the request carries the source's part
encrypted. -/
def Pending.WellFormed (p : Pending) : Prop :=
  (p.request.type = .UID ∧ p.sourceToken = []) ∨
    (p.request.type = .RSA ∧ ∃ tokenConfig key padding,
      p.request.tokenConfig = some tokenConfig ∧
        tokenConfig.token = encryptToken key p.sourceToken padding)

theorem sourceInitiateRequest_wellFormed
    {src : Source}
    {dr : DomainRouteToken}
    {random : Bytes}
    {padding : Nat}
    {p : Pending}
    (started : sourceInitiateRequest src dr random padding = .ok (some p)) :
    p.WellFormed := by
  unfold sourceInitiateRequest at started
  split at started
  · cases started
  · split at started
    · cases started
      exact .inl ⟨rfl, rfl⟩
    · cases started
      exact .inr ⟨rfl, _, _, _, rfl, rfl⟩
    · cases started

theorem startHandshake_wellFormed
    {src : Source}
    {dr : DomainRouteToken}
    {initiator : Initiator}
    {random : Bytes}
    {padding : Nat}
    {p : Pending}
    (started : startHandshake src dr initiator random padding = some p) :
    p.WellFormed := by
  cases initiator with
  | domainRoute =>
    simp only [startHandshake] at started
    split at started
    · rename_i request
      subst started
      exact sourceInitiateRequest_wellFormed request
    · cases started
  | master masterPubKey =>
    cases masterPubKey with
    | none =>
      cases started
      exact .inl ⟨rfl, rfl⟩
    | some masterPub =>
      cases started
      exact .inr ⟨rfl, _, _, _, rfl, rfl⟩

theorem sourceInitiateResponse_eq_ok
    {src : Source}
    {p : Pending}
    {resp : HandShakeResponse}
    {revisionToken : RevisionToken}
    (wf : p.WellFormed)
    (done : sourceInitiateResponse src p resp = .ok revisionToken) :
    ∃ t part, resp.status.code = 0 ∧ resp.token = some t ∧
      revisionToken.revision = t.revision ∧
      decryptToken src.prikey (some t.token) p.respTokenSize = some part ∧
      revisionToken.rawToken = p.sourceToken ++ part := by
  unfold sourceInitiateResponse at done
  split at done
  · cases done
  · rename_i success
    split at done
    · cases done
    · rename_i t found
      have code : resp.status.code = 0 := Decidable.of_not_not success
      -- the branch is the one the request was built in
      rcases wf with ⟨uid, noSourceToken⟩ | ⟨rsa, -⟩
      · simp only [uid] at done
        split at done
        · cases done
        · rename_i part decrypted
          cases done
          refine ⟨t, part, code, found, rfl, ?_, by rw [noSourceToken, List.nil_append]⟩
          simpa [Pending.respTokenSize, uid] using decrypted
      · simp only [rsa] at done
        split at done
        · cases done
        · rename_i part decrypted
          cases done
          exact ⟨t, part, code, found, rfl, by simpa [Pending.respTokenSize, rsa] using decrypted, rfl⟩

theorem HandshakeToMaster_eq_ok
    {prikey : RSAKey}
    {p : Pending}
    {resp : HandShakeResponse}
    {revisionToken : RevisionToken}
    (done : HandshakeToMaster prikey p resp = .ok revisionToken) :
    ∃ t part, resp.status.code = 0 ∧ resp.token = some t ∧
      revisionToken.revision = t.revision ∧
      decryptToken prikey (some t.token) p.respTokenSize = some part ∧
      revisionToken.rawToken = p.sourceToken ++ part := by
  unfold HandshakeToMaster at done
  dsimp only at done
  rw [show (if p.request.type = .RSA then tokenByteSize / 2 else tokenByteSize) = p.respTokenSize
    from rfl] at done
  split at done
  · cases done
  · rename_i success
    split at done
    · cases done
    · rename_i t found
      split at done
      · cases done
      · rename_i part decrypted
        cases done
        exact ⟨t, part, Decidable.of_not_not success, found, rfl, decrypted, rfl⟩

/-- What a completed handshake is made of, whoever started it. -/
theorem Pending.complete_eq_ok
    {src : Source}
    {p : Pending}
    {resp : HandShakeResponse}
    {revisionToken : RevisionToken}
    (wf : p.WellFormed)
    (done : p.complete src resp = .ok revisionToken) :
    ∃ t part, resp.status.code = 0 ∧ resp.token = some t ∧
      revisionToken.revision = t.revision ∧
      decryptToken src.prikey (some t.token) p.respTokenSize = some part ∧
      revisionToken.rawToken = p.sourceToken ++ part := by
  unfold Pending.complete at done
  split at done
  · exact sourceInitiateResponse_eq_ok wf done
  · exact HandshakeToMaster_eq_ok done

/-! ## What the destination stores and replies -/

theorem destTokens_eq_ok
    {d : Destination}
    {req : HandShakeRequest}
    {dr : DomainRouteToken}
    {now : Int}
    {random token respToken : Bytes}
    (tokens : destTokens d req dr now random = some (.ok (token, respToken))) :
    (req.type = .UID ∧ token = respToken ∧ respToken.length = tokenByteSize) ∨
      (req.type = .RSA ∧ ∃ tokenConfig sourceToken, req.tokenConfig = some tokenConfig ∧
        decryptToken d.prikey (some tokenConfig.token) (tokenByteSize / 2) = some sourceToken ∧
        respToken.length = tokenByteSize / 2 ∧ token = sourceToken ++ respToken) := by
  unfold destTokens at tokens
  dsimp only at tokens
  split at tokens
  · cases tokens
  · split at tokens
    · rename_i uid
      simp only [Option.some.injEq, Except.ok.injEq, Prod.mk.injEq] at tokens
      obtain ⟨rfl, rfl⟩ := tokens
      refine .inl ⟨uid, rfl, ?_⟩
      -- a reused token decrypts to tokenByteSize bytes, a drawn one has them
      split
      · exact randRead_length _ _
      · split
        · rename_i stored decrypted
          exact decryptToken_length decrypted
        · exact randRead_length _ _
    · rename_i rsa
      split at tokens
      · cases tokens
      · rename_i tokenConfig found
        split at tokens
        · cases tokens
        · split at tokens
          · cases tokens
          · rename_i sourceToken decrypted
            simp only [Option.some.injEq, Except.ok.injEq, Prod.mk.injEq] at tokens
            obtain ⟨rfl, rfl⟩ := tokens
            exact .inr ⟨rsa, tokenConfig, sourceToken, found, decrypted, randRead_length _ _, rfl⟩
    · cases tokens

/-- A completed handshake assembles exactly the token the destination stored
for its request. -/
theorem complete_reply_eq_token
    {src : Source}
    {dst : Destination}
    {p : Pending}
    {req : HandShakeRequest}
    {dr : DomainRouteToken}
    {now : Int}
    {random token respToken : Bytes}
    {respPadding : Nat}
    {revision : Int32}
    {revisionToken : RevisionToken}
    (wf : p.WellFormed)
    (same : p.request = req)
    (tokens : destTokens dst req dr now random = some (.ok (token, respToken)))
    (done : p.complete src
      ⟨⟨0, ""⟩, some ⟨encryptToken dst.tokenConfig.sourcePublicKey respToken respPadding, revision⟩⟩ =
        .ok revisionToken) :
    revisionToken.revision = revision ∧ revisionToken.rawToken = token ∧
      token.length = tokenByteSize := by
  obtain ⟨t, part, -, found, sameRevision, decrypted, raw⟩ := Pending.complete_eq_ok wf done
  cases found
  obtain ⟨samePart, -, -⟩ := decryptToken_encryptToken_eq_some decrypted
  subst samePart same
  refine ⟨sameRevision, ?_⟩
  rcases destTokens_eq_ok tokens with ⟨uid, rfl, respLength⟩ | ⟨rsa, tokenConfig, sourceToken, sent, opened, respLength, rfl⟩
  · rcases wf with ⟨-, noSourceToken⟩ | ⟨rsa, -⟩
    · rw [raw, noSourceToken, List.nil_append]
      exact ⟨rfl, respLength⟩
    · rw [uid] at rsa
      cases rsa
  · rcases wf with ⟨uid, -⟩ | ⟨-, tokenConfig', key, padding, sent', encrypted⟩
    · rw [rsa] at uid
      cases uid
    · -- the destination opened the source's part from the request
      rw [sent] at sent'
      cases sent'
      rw [encrypted] at opened
      obtain ⟨rfl, -, sourceLength⟩ := decryptToken_encryptToken_eq_some opened
      refine ⟨raw, ?_⟩
      rw [List.length_append, sourceLength, respLength]
      rfl

theorem nextRevisionToken_eq_some
    {drLatest updated : DomainRouteToken}
    {tokenEncrypted : Ciphertext}
    {now : Int}
    (next : nextRevisionToken drLatest tokenEncrypted now = some updated) :
    updated.token = some tokenEncrypted ∧ updated.revision = drLatest.revision + 1 := by
  unfold nextRevisionToken at next
  split at next
  · cases next
    exact ⟨rfl, rfl⟩
  · cases next

theorem nextRevisionToken_eq_none
    {drLatest : DomainRouteToken}
    {tokenEncrypted : Ciphertext}
    {now : Int}
    (next : nextRevisionToken drLatest tokenEncrypted now = none) :
    drLatest.token = some tokenEncrypted := by
  unfold nextRevisionToken at next
  split at next
  · cases next
  · exact Decidable.of_not_not ‹_›

theorem DestReplyHandshake_eq_error
    {d : Destination}
    {store : CasStore.Store DomainRouteToken}
    {req : HandShakeRequest}
    {dr drLatest : CasStore.Versioned DomainRouteToken}
    {now : Int}
    {r : DestRandom}
    {resp : HandShakeResponse}
    (replied : DestReplyHandshake d store req dr drLatest now r = some (.error resp)) :
    resp.status.code = 500 := by
  unfold DestReplyHandshake at replied
  cases tokens : destTokens d req dr.value now r.respToken with
  | none =>
    rw [tokens] at replied
    cases replied
  | some outcome =>
    rw [tokens] at replied
    cases outcome with
    | error message =>
      cases replied
      rfl
    | ok result =>
      simp only [Option.map_some, Option.some.injEq] at replied
      split at replied
      · split at replied
        · cases replied
        · cases replied
          rfl
      · cases replied

/-- A reply that reaches `waitTokenReady` either wrote the new token from the
version it read last, or found that version already holding it. -/
theorem DestReplyHandshake_eq_ok
    {d : Destination}
    {store store' : CasStore.Store DomainRouteToken}
    {req : HandShakeRequest}
    {dr drLatest : CasStore.Versioned DomainRouteToken}
    {now : Int}
    {r : DestRandom}
    {call : ReplyInWait}
    (replied : DestReplyHandshake d store req dr drLatest now r = some (.ok (store', call))) :
    ∃ token respToken, destTokens d req dr.value now r.respToken = some (.ok (token, respToken)) ∧
      call.respTokenEncrypted = encryptToken d.tokenConfig.sourcePublicKey respToken r.respPadding ∧
      ((∃ updated,
          nextRevisionToken drLatest.value (encryptToken d.prikey token r.tokenPadding) now =
            some updated ∧
          store.update drLatest.resourceVersion updated = some store' ∧
          call.revision = updated.revision) ∨
        (nextRevisionToken drLatest.value (encryptToken d.prikey token r.tokenPadding) now = none ∧
          store' = store ∧ call.revision = drLatest.value.revision)) := by
  unfold DestReplyHandshake at replied
  cases tokens : destTokens d req dr.value now r.respToken with
  | none =>
    rw [tokens] at replied
    cases replied
  | some outcome =>
    rw [tokens] at replied
    cases outcome with
    | error message => cases replied
    | ok result =>
      obtain ⟨token, respToken⟩ := result
      simp only [Option.map_some, Option.some.injEq] at replied
      refine ⟨token, respToken, rfl, ?_⟩
      split at replied
      · rename_i updated next
        split at replied
        · rename_i accepted
          cases replied
          exact ⟨rfl, .inl ⟨updated, next, accepted, rfl⟩⟩
        · cases replied
      · rename_i next
        cases replied
        exact ⟨rfl, .inr ⟨next, rfl, rfl⟩⟩

theorem finishReply_eq_some
    {d : Destination}
    {call : ReplyInWait}
    {observed : List DomainRouteToken}
    {resp : HandShakeResponse}
    (finished : finishReply d call observed = some resp) :
    resp = call.reply ∨ resp.status.code = 500 := by
  unfold finishReply at finished
  cases decided : waitTokenReady d.drName 0 observed with
  | none =>
    rw [decided] at finished
    cases finished
  | some result =>
    rw [decided] at finished
    cases result with
    | ok u =>
      cases finished
      exact .inl rfl
    | error err =>
      cases finished
      exact .inr rfl

theorem finishHandshake_eq_some
    {src : Source}
    {store store' : CasStore.Store DomainRouteToken}
    {drLatest : CasStore.Versioned DomainRouteToken}
    {p : Pending}
    {resp : HandShakeResponse}
    {now : Int}
    {padding : Nat}
    (finished : finishHandshake src store drLatest p resp now padding = some store') :
    ∃ revisionToken, p.complete src resp = .ok revisionToken ∧
      store.update drLatest.resourceVersion { drLatest.value with
        token := some (encryptToken revisionToken.publicKey revisionToken.rawToken padding)
        revision := revisionToken.revision.toInt64
        isReady := true
        revisionTime := now } = some store' := by
  unfold finishHandshake at finished
  split at finished
  · cases finished
  · rename_i revisionToken done
    split at finished
    · rename_i written
      cases finished
      refine ⟨revisionToken, done, ?_⟩
      unfold UpdateDomainRouteRevisionToken at written
      dsimp only at written
      split at written
      · rename_i accepted
        cases written
        exact accepted
      · cases written
    · cases finished

theorem markTokenReady_eq_some
    {store store' : CasStore.Store DomainRouteToken}
    {dr : CasStore.Versioned DomainRouteToken}
    (marked : markTokenReady store dr = some store') :
    store.update dr.resourceVersion { dr.value with isReady := true } = some store' := by
  unfold markTokenReady at marked
  split at marked
  · cases marked
  · exact marked

/-! ## The destination's history of revisions -/

/-- The token a version of the destination's DomainRoute holds. -/
def heldToken (dst : Destination) (version : DomainRouteToken) : Option Bytes :=
  decryptToken dst.prikey version.token tokenByteSize

/-- Older versions of the destination's DomainRoute have smaller revisions, or
the same revision with the same token. -/
def RevisionsMonotone (versions : List (CasStore.Versioned DomainRouteToken)) : Prop :=
  versions.Pairwise fun newer older =>
    older.value.revision.toInt < newer.value.revision.toInt ∨
      (older.value.revision = newer.value.revision ∧ older.value.token = newer.value.token)

theorem RevisionsMonotone.le_head
    {head : CasStore.Versioned DomainRouteToken}
    {rest : List (CasStore.Versioned DomainRouteToken)}
    (monotone : RevisionsMonotone (head :: rest))
    {version : CasStore.Versioned DomainRouteToken}
    (mem : version ∈ head :: rest) :
    version.value.revision.toInt ≤ head.value.revision.toInt := by
  rcases List.mem_cons.mp mem with rfl | older
  · exact Int.le_refl _
  · rcases (List.pairwise_cons.mp monotone).1 version older with smaller | ⟨same, -⟩
    · exact Int.le_of_lt smaller
    · exact Int.le_of_eq (congrArg Int64.toInt same)

/-- A write with a revision above the current one keeps the history monotone. -/
theorem RevisionsMonotone.next
    {head new : CasStore.Versioned DomainRouteToken}
    {rest : List (CasStore.Versioned DomainRouteToken)}
    (monotone : RevisionsMonotone (head :: rest))
    (above : head.value.revision.toInt < new.value.revision.toInt) :
    RevisionsMonotone (new :: head :: rest) := by
  refine List.pairwise_cons.mpr ⟨fun version mem => .inl ?_, monotone⟩
  exact Int.lt_of_le_of_lt (monotone.le_head mem) above

/-- So does a write that keeps the current revision and token. -/
theorem RevisionsMonotone.same
    {head new : CasStore.Versioned DomainRouteToken}
    {rest : List (CasStore.Versioned DomainRouteToken)}
    (monotone : RevisionsMonotone (head :: rest))
    (sameRevision : new.value.revision = head.value.revision)
    (sameToken : new.value.token = head.value.token) :
    RevisionsMonotone (new :: head :: rest) := by
  refine List.pairwise_cons.mpr ⟨fun version mem => ?_, monotone⟩
  rw [sameRevision, sameToken]
  rcases List.mem_cons.mp mem with rfl | older
  · exact .inr ⟨rfl, rfl⟩
  · exact (List.pairwise_cons.mp monotone).1 version older

/-- Two versions with one revision hold one token. -/
theorem RevisionsMonotone.token_eq
    {versions : List (CasStore.Versioned DomainRouteToken)}
    (monotone : RevisionsMonotone versions)
    {first second : CasStore.Versioned DomainRouteToken}
    (firstMem : first ∈ versions)
    (secondMem : second ∈ versions)
    (sameRevision : first.value.revision = second.value.revision) :
    first.value.token = second.value.token := by
  induction versions with
  | nil => cases firstMem
  | cons head rest inductionHypothesis =>
    obtain ⟨headAbove, restMonotone⟩ := List.pairwise_cons.mp monotone
    -- a version below the head with the head's revision has the head's token
    have ofHead : ∀ older ∈ rest, older.value.revision = head.value.revision →
        older.value.token = head.value.token := by
      intro older mem same
      rcases headAbove older mem with smaller | ⟨-, sameToken⟩
      · rw [same] at smaller
        exact absurd smaller (Int.lt_irrefl _)
      · exact sameToken
    rcases List.mem_cons.mp firstMem with rfl | firstOlder <;>
      rcases List.mem_cons.mp secondMem with rfl | secondOlder
    · rfl
    · exact (ofHead second secondOlder sameRevision.symm).symm
    · exact ofHead first firstOlder sameRevision
    · exact inductionHypothesis restMonotone firstOlder secondOlder

/-! ## The invariant -/

section Invariant

variable (src : Source) (dst : Destination)

/-- A reply answers a request when any well-formed handshake of that request,
completed with it, gives the source a token that some version of the
destination holds under the reply's revision. -/
def Answers (dest : CasStore.Store DomainRouteToken) (req : HandShakeRequest)
    (resp : HandShakeResponse) : Prop :=
  ∀ p : Pending, p.WellFormed → p.request = req → ∀ revisionToken,
    p.complete src resp = .ok revisionToken →
      ∃ held ∈ dest.versions, held.value.revision.toInt32 = revisionToken.revision ∧
        heldToken dst held.value = some revisionToken.rawToken

/-- Every token the source has stored, under its own key, is one that the
destination has held under the same revision. -/
def SourceAgrees (dest source : CasStore.Store DomainRouteToken) : Prop :=
  ∀ stored ∈ source.versions, ∀ raw,
    decryptToken src.prikey stored.value.token tokenByteSize = some raw →
      ∃ held ∈ dest.versions, held.value.revision = stored.value.revision ∧
        heldToken dst held.value = some raw

structure Agreement (w : World) : Prop where
  monotone : RevisionsMonotone w.dest.versions
  nonneg : ∀ held ∈ w.dest.versions, 0 ≤ held.value.revision.toInt
  pendingWellFormed : ∀ inst p, w.pending.lookup inst = some p → p.WellFormed
  waitingAnswer : ∀ waiting ∈ w.waiting, Answers src dst w.dest waiting.request waiting.call.reply
  responsesAnswer : ∀ sent ∈ w.responses, Answers src dst w.dest sent.2.1 sent.2.2
  sourceAgrees : SourceAgrees src dst w.dest w.source

variable {src dst}

theorem Answers.mono
    {dest dest' : CasStore.Store DomainRouteToken}
    {req : HandShakeRequest}
    {resp : HandShakeResponse}
    (ext : dest.Extends dest')
    (answers : Answers src dst dest req resp) :
    Answers src dst dest' req resp := by
  intro p wf same revisionToken done
  obtain ⟨held, mem, revision, token⟩ := answers p wf same revisionToken done
  exact ⟨held, ext.mem mem, revision, token⟩

theorem SourceAgrees.mono
    {dest dest' source : CasStore.Store DomainRouteToken}
    (ext : dest.Extends dest')
    (agrees : SourceAgrees src dst dest source) :
    SourceAgrees src dst dest' source := by
  intro stored mem raw decrypted
  obtain ⟨held, heldMem, revision, token⟩ := agrees stored mem raw decrypted
  exact ⟨held, ext.mem heldMem, revision, token⟩

/-- A failed reply answers anything: no handshake completes with it. -/
theorem answers_failed
    {dest : CasStore.Store DomainRouteToken}
    {req : HandShakeRequest}
    {resp : HandShakeResponse}
    (failed : resp.status.code ≠ 0) :
    Answers src dst dest req resp := by
  intro p wf _ revisionToken done
  obtain ⟨_, _, code, _⟩ := Pending.complete_eq_ok wf done
  exact absurd code failed

/-- The reply of a call that stored (or found) its token in a version of the
destination's DomainRoute answers its request. -/
theorem answers_reply
    {dest : CasStore.Store DomainRouteToken}
    {req : HandShakeRequest}
    {dr : DomainRouteToken}
    {now : Int}
    {random token respToken : Bytes}
    {tokenPadding respPadding : Nat}
    {held : CasStore.Versioned DomainRouteToken}
    (tokens : destTokens dst req dr now random = some (.ok (token, respToken)))
    (mem : held ∈ dest.versions)
    (stored : held.value.token = some (encryptToken dst.prikey token tokenPadding)) :
    Answers src dst dest req
      (ReplyInWait.reply
        ⟨encryptToken dst.tokenConfig.sourcePublicKey respToken respPadding, held.value.revision⟩) := by
  intro p wf same revisionToken done
  obtain ⟨revision, raw, tokenLength⟩ := complete_reply_eq_token wf same tokens done
  refine ⟨held, mem, revision.symm, ?_⟩
  rw [heldToken, stored, decryptToken_encryptToken, if_pos ⟨rfl, tokenLength⟩, raw]

end Invariant

/-- Every revision the destination has given fits in an `int32`. -/
def RevisionsFitInt32 (w : World) : Prop :=
  ∀ held ∈ w.dest.versions, held.value.revision.toInt < 2 ^ 31

theorem RevisionsFitInt32.of_extends
    {w w' : World}
    (ext : w.dest.Extends w'.dest)
    (fits : RevisionsFitInt32 w') :
    RevisionsFitInt32 w :=
  fun held mem => fits held (ext.mem mem)

/-! ## Each step keeps the invariant -/

section Steps

variable {src : Source} {dst : Destination}

/-- No step forgets a version of the destination's DomainRoute. -/
theorem dest_extends_step
    (w : World)
    (a : Action) :
    w.dest.Extends (World.step src dst w a).dest := by
  cases a with
  | initiate inst initiator read random padding =>
    simp only [World.step]
    split <;> exact .refl _
  | reply request now read latest random =>
    simp only [World.step]
    split
    · exact .refl _
    · split
      · exact .refl _
      · exact .refl _
      · rename_i replied
        obtain ⟨_, _, _, _, write⟩ := DestReplyHandshake_eq_ok replied
        rcases write with ⟨_, _, accepted, _⟩ | ⟨_, rfl, _⟩
        · exact CasStore.Store.extends_update accepted
        · exact .refl _
  | finishWait index reads =>
    simp only [World.step]
    split
    · exact .refl _
    · split <;> exact .refl _
  | markReady read =>
    simp only [World.step]
    split
    · exact .refl _
    · rename_i marked
      exact CasStore.Store.extends_update (markTokenReady_eq_some marked)
  | complete inst response get now padding =>
    simp only [World.step]
    split
    · split
      · split <;> exact .refl _
      · exact .refl _
    · exact .refl _

theorem dest_extends_run
    (w : World)
    (actions : List Action) :
    w.dest.Extends (World.run src dst w actions).dest := by
  induction actions generalizing w with
  | nil => exact .refl _
  | cons a rest inductionHypothesis =>
    exact (dest_extends_step w a).trans (inductionHypothesis _)

variable {w : World}

theorem Agreement.initiate
    {inst : Nat}
    {initiator : Initiator}
    {read : Nat}
    {random : Bytes}
    {padding : Nat}
    (inv : Agreement src dst w) :
    Agreement src dst (World.step src dst w (.initiate inst initiator read random padding)) := by
  simp only [World.step]
  split
  · exact inv
  · rename_i p started
    refine ⟨inv.monotone, inv.nonneg, ?_, inv.waitingAnswer, inv.responsesAnswer, inv.sourceAgrees⟩
    intro other q found
    dsimp only at found
    by_cases same : other = inst
    · subst same
      rw [AList.lookup_insert] at found
      cases found
      exact startHandshake_wellFormed started
    · rw [AList.lookup_insert_ne same] at found
      exact inv.pendingWellFormed other q found

/-- A call that reached `waitTokenReady` keeps the invariant.  Its write, if
any, was made from the current version and raises the revision; its reply
answers its request. -/
theorem Agreement.write
    {inst : Nat}
    {req : HandShakeRequest}
    {dr drLatest : CasStore.Versioned DomainRouteToken}
    {now : Int}
    {random : DestRandom}
    {dest' : CasStore.Store DomainRouteToken}
    {call : ReplyInWait}
    (inv : Agreement src dst w)
    (latestMem : drLatest ∈ w.dest.versions)
    (replied : DestReplyHandshake dst w.dest req dr drLatest now random = some (.ok (dest', call)))
    (fits : ∀ held ∈ dest'.versions, held.value.revision.toInt < 2 ^ 31) :
    Agreement src dst { w with dest := dest', waiting := ⟨inst, req, call⟩ :: w.waiting } := by
  obtain ⟨respTokenEncrypted, callRevision⟩ := call
  obtain ⟨token, respToken, tokens, respEncrypted, write⟩ := DestReplyHandshake_eq_ok replied
  dsimp only at respEncrypted write
  subst respEncrypted
  -- the store after the call, and a version of it holding the call's token under its revision
  have written : w.dest.Extends dest' ∧ RevisionsMonotone dest'.versions ∧
      (∀ held ∈ dest'.versions, 0 ≤ held.value.revision.toInt) ∧
      ∃ held ∈ dest'.versions,
        held.value.token = some (encryptToken dst.prikey token random.tokenPadding) ∧
          held.value.revision = callRevision := by
    rcases write with ⟨updated, next, accepted, revision⟩ | ⟨next, rfl, revision⟩
    · have current := CasStore.Store.eq_current_of_update latestMem accepted
      subst current
      obtain ⟨storedToken, raised⟩ := nextRevisionToken_eq_some next
      have versions := CasStore.Store.versions_update accepted
      -- the current revision fits, so the next one does not wrap
      have currentFits := fits w.dest.current (by
        rw [versions]
        exact List.mem_cons_of_mem _ w.dest.current_mem)
      have currentNonneg := inv.nonneg w.dest.current w.dest.current_mem
      have above : updated.revision.toInt = w.dest.current.value.revision.toInt + 1 := by
        rw [raised]
        exact toInt_add_one_of_lt (by omega)
      refine ⟨CasStore.Store.extends_update accepted, ?_, ?_,
        ⟨w.dest.current.resourceVersion + 1, updated⟩, ?_, storedToken, revision.symm⟩
      · rw [versions]
        exact inv.monotone.next (by dsimp only; omega)
      · rw [versions]
        exact List.forall_mem_cons.mpr ⟨by dsimp only; omega, inv.nonneg⟩
      · rw [versions]
        exact List.mem_cons_self
    · exact ⟨.refl _, inv.monotone, inv.nonneg, drLatest, latestMem,
        nextRevisionToken_eq_none next, revision.symm⟩
  obtain ⟨ext, monotone, nonneg, held, heldMem, stored, revision⟩ := written
  subst revision
  refine ⟨monotone, nonneg, inv.pendingWellFormed, ?_, fun sent mem => (inv.responsesAnswer sent mem).mono ext,
    inv.sourceAgrees.mono ext⟩
  intro waiting mem
  rcases List.mem_cons.mp mem with rfl | old
  · exact answers_reply tokens heldMem stored
  · exact (inv.waitingAnswer waiting old).mono ext

theorem Agreement.reply
    {request : Nat}
    {now : Int}
    {read latest : Nat}
    {random : DestRandom}
    (inv : Agreement src dst w) :
    RevisionsFitInt32 (World.step src dst w (.reply request now read latest random)) →
      Agreement src dst (World.step src dst w (.reply request now read latest random)) := by
  simp only [World.step]
  split
  · exact fun _ => inv
  · split
    · exact fun _ => inv
    · rename_i resp replied
      intro _
      refine ⟨inv.monotone, inv.nonneg, inv.pendingWellFormed, inv.waitingAnswer, ?_,
        inv.sourceAgrees⟩
      intro sent mem
      rcases List.mem_cons.mp mem with rfl | old
      · exact answers_failed (by rw [DestReplyHandshake_eq_error replied]; decide)
      · exact inv.responsesAnswer sent old
    · rename_i replied
      exact inv.write (w.dest.read_mem latest) replied

theorem Agreement.finishWait
    {index : Nat}
    {reads : List Nat}
    (inv : Agreement src dst w) :
    Agreement src dst (World.step src dst w (.finishWait index reads)) := by
  simp only [World.step]
  split
  · exact inv
  · rename_i waiting found
    split
    · exact inv
    · rename_i resp finished
      refine ⟨inv.monotone, inv.nonneg, inv.pendingWellFormed,
        fun other mem => inv.waitingAnswer other (List.mem_of_mem_eraseIdx mem), ?_,
        inv.sourceAgrees⟩
      intro sent mem
      rcases List.mem_cons.mp mem with rfl | old
      · rcases finishReply_eq_some finished with rfl | failed
        · exact inv.waitingAnswer waiting (List.mem_of_getElem? found)
        · exact answers_failed (by rw [failed]; decide)
      · exact inv.responsesAnswer sent old

theorem Agreement.markReady
    {read : Nat}
    (inv : Agreement src dst w) :
    Agreement src dst (World.step src dst w (.markReady read)) := by
  simp only [World.step]
  split
  · exact inv
  · rename_i dest' marked
    -- the controller writes from the current version, changing only isReady
    have accepted := markTokenReady_eq_some marked
    have current := CasStore.Store.eq_current_of_update (w.dest.read_mem read) accepted
    have versions := CasStore.Store.versions_update accepted
    rw [current] at versions
    have ext := CasStore.Store.extends_update accepted
    refine ⟨?_, ?_, inv.pendingWellFormed, fun waiting mem => (inv.waitingAnswer waiting mem).mono ext,
      fun sent mem => (inv.responsesAnswer sent mem).mono ext, inv.sourceAgrees.mono ext⟩
    · rw [versions]
      exact inv.monotone.same rfl rfl
    · rw [versions]
      exact List.forall_mem_cons.mpr ⟨inv.nonneg w.dest.current w.dest.current_mem, inv.nonneg⟩

theorem Agreement.complete
    {inst response get : Nat}
    {now : Int}
    {padding : Nat}
    (inv : Agreement src dst w)
    (fits : RevisionsFitInt32 w) :
    Agreement src dst (World.step src dst w (.complete inst response get now padding)) := by
  simp only [World.step]
  split
  · rename_i p target req resp found sent
    split
    · rename_i matching
      have erased : ∀ other q, (w.pending.erase inst).lookup other = some q → q.WellFormed := by
        intro other q lookedUp
        by_cases same : other = inst
        · subst same
          rw [AList.lookup_erase] at lookedUp
          cases lookedUp
        · rw [AList.lookup_erase_ne same] at lookedUp
          exact inv.pendingWellFormed other q lookedUp
      split
      · exact ⟨inv.monotone, inv.nonneg, erased, inv.waitingAnswer, inv.responsesAnswer,
          inv.sourceAgrees⟩
      · rename_i source' finished
        refine ⟨inv.monotone, inv.nonneg, erased, inv.waitingAnswer, inv.responsesAnswer, ?_⟩
        obtain ⟨revisionToken, done, accepted⟩ := finishHandshake_eq_some finished
        intro stored mem raw decrypted
        rw [CasStore.Store.versions_update accepted] at mem
        rcases List.mem_cons.mp mem with rfl | old
        · -- the token just stored came with a reply that answered the pending request
          dsimp only at decrypted ⊢
          obtain ⟨sameRaw, -, -⟩ := decryptToken_encryptToken_eq_some decrypted
          obtain ⟨held, heldMem, revision, token⟩ :=
            inv.responsesAnswer (target, req, resp) (List.mem_of_getElem? sent) p
              (inv.pendingWellFormed inst p found) matching.2.symm revisionToken done
          refine ⟨held, heldMem, ?_, by rw [sameRaw]; exact token⟩
          rw [← revision, toInt32_toInt64_of_fits (inv.nonneg held heldMem) (fits held heldMem)]
        · exact inv.sourceAgrees stored old raw decrypted
    · exact inv
  · exact inv

theorem Agreement.step
    (inv : Agreement src dst w)
    (a : Action)
    (fits : RevisionsFitInt32 (World.step src dst w a)) :
    Agreement src dst (World.step src dst w a) := by
  cases a with
  | initiate => exact inv.initiate
  | reply => exact inv.reply fits
  | finishWait => exact inv.finishWait
  | markReady => exact inv.markReady
  | complete => exact inv.complete (fits.of_extends (dest_extends_step w _))

theorem Agreement.run
    (inv : Agreement src dst w)
    (actions : List Action)
    (fits : RevisionsFitInt32 (World.run src dst w actions)) :
    Agreement src dst (World.run src dst w actions) := by
  induction actions generalizing w with
  | nil => exact inv
  | cons a rest inductionHypothesis =>
    -- the bound at the end of the run holds at every earlier point
    have stepFits : RevisionsFitInt32 (World.step src dst w a) :=
      fits.of_extends (dest_extends_run _ rest)
    exact inductionHypothesis (inv.step a stepFits) fits

theorem agreement_init :
    Agreement src dst World.init := by
  refine ⟨List.pairwise_singleton _ _, ?_, ?_, ?_, ?_, ?_⟩
  · intro held mem
    rw [List.mem_singleton.mp mem]
    decide
  · intro inst p found
    cases found
  · intro waiting mem
    cases mem
  · intro sent mem
    cases mem
  · intro stored mem raw decrypted
    rw [List.mem_singleton.mp mem] at decrypted
    cases decrypted

end Steps

/-! ## Agreement -/

/-- Over every run whose destination revisions fit in `int32`, a token the
source stores decrypts to a token the destination held under the same
revision, and the destination never holds two tokens under one revision. -/
theorem handshake_tokens_agree
    (src : Source)
    (dst : Destination)
    (actions : List Action)
    (fits : ∀ held ∈ (World.init.run src dst actions).dest.versions,
      held.value.revision.toInt < 2 ^ 31) :
    (∀ stored ∈ (World.init.run src dst actions).source.versions, ∀ raw,
        decryptToken src.prikey stored.value.token tokenByteSize = some raw →
          ∃ held ∈ (World.init.run src dst actions).dest.versions,
            held.value.revision = stored.value.revision ∧
              decryptToken dst.prikey held.value.token tokenByteSize = some raw) ∧
      ∀ held ∈ (World.init.run src dst actions).dest.versions,
        ∀ held' ∈ (World.init.run src dst actions).dest.versions,
          held.value.revision = held'.value.revision →
            decryptToken dst.prikey held.value.token tokenByteSize =
              decryptToken dst.prikey held'.value.token tokenByteSize := by
  have inv : Agreement src dst (World.init.run src dst actions) := agreement_init.run actions fits
  refine ⟨inv.sourceAgrees, ?_⟩
  intro held mem held' mem' sameRevision
  rw [inv.monotone.token_eq mem mem' sameRevision]

/-- A source whose DomainRoute asks for RSA tokens, and its destination. -/
def rsaSource : Source :=
  ⟨⟨1⟩, "alice", "alice-bob", ⟨⟨1⟩, ⟨2⟩, 0, .RSA⟩⟩

def rsaDestination : Destination :=
  ⟨⟨2⟩, "bob", "alice-bob", ⟨⟨1⟩, ⟨2⟩, 0, .RSA⟩⟩

/-- Instance 0 starts an RSA handshake from the DomainRoute while instance 1
starts a UID handshake to the master; the destination answers them in the
other order, reusing the RSA token for the UID request, and both complete. -/
def concurrentRun : List Action :=
  [.initiate 0 .domainRoute 0 (List.replicate 16 7) 0,
   .initiate 1 (.master none) 0 [] 0,
   .reply 1 0 0 0 ⟨List.replicate 16 9, 0, 0⟩,
   .reply 0 0 0 0 ⟨List.replicate 32 9, 1, 0⟩,
   .markReady 0,
   .finishWait 0 [0],
   .finishWait 0 [0],
   .complete 0 0 0 0 0,
   .complete 1 1 0 0 1]

theorem handshake_tokens_agree_concurrent :
    (∀ held ∈ (World.init.run rsaSource rsaDestination concurrentRun).dest.versions,
        held.value.revision.toInt < 2 ^ 31) ∧
      ((∀ stored ∈ (World.init.run rsaSource rsaDestination concurrentRun).source.versions, ∀ raw,
          decryptToken rsaSource.prikey stored.value.token tokenByteSize = some raw →
            ∃ held ∈ (World.init.run rsaSource rsaDestination concurrentRun).dest.versions,
              held.value.revision = stored.value.revision ∧
                decryptToken rsaDestination.prikey held.value.token tokenByteSize = some raw) ∧
        ∀ held ∈ (World.init.run rsaSource rsaDestination concurrentRun).dest.versions,
          ∀ held' ∈ (World.init.run rsaSource rsaDestination concurrentRun).dest.versions,
            held.value.revision = held'.value.revision →
              decryptToken rsaDestination.prikey held.value.token tokenByteSize =
                decryptToken rsaDestination.prikey held'.value.token tokenByteSize) :=
  have fits : ∀ held ∈ (World.init.run rsaSource rsaDestination concurrentRun).dest.versions,
      held.value.revision.toInt < 2 ^ 31 := by decide
  ⟨fits, handshake_tokens_agree rsaSource rsaDestination concurrentRun fits⟩

/-! ## Past the int32 bound

Round after round of UID handshakes raises the destination's revision by one
each time.  The round that reaches 2^31 reports it as the int32 -2^31 through
`int32(revision)`, and the source stores its token under a revision that the
destination never held. -/

/-- A source whose DomainRoute asks for UID tokens, and its destination. -/
def uidSource : Source :=
  ⟨⟨1⟩, "alice", "alice-bob", ⟨⟨1⟩, ⟨2⟩, 0, .UIDRSA⟩⟩

def uidDestination : Destination :=
  ⟨⟨2⟩, "bob", "alice-bob", ⟨⟨1⟩, ⟨2⟩, 0, .UIDRSA⟩⟩

def uidToken : Bytes :=
  List.replicate tokenByteSize 7

def uidPending : Pending :=
  ⟨.domainRoute, [], ⟨"alice", .UID, none⟩⟩

/-- One UID handshake of source instance 0 with fresh reads.  The destination
pads its encryption with the round number, so that every round writes. -/
def uidRound (k : Nat) : List Action :=
  [.initiate 0 .domainRoute 0 [] 0, .reply 0 0 0 0 ⟨uidToken, k, 0⟩, .markReady 0,
    .finishWait 0 [0], .complete 0 0 0 0 0]

def uidRounds : Nat → List Action
  | 0 => []
  | n + 1 => uidRounds n ++ uidRound n

/-- The version the destination writes in round `k` from the current one. -/
def uidRoundToken (current : DomainRouteToken) (k : Nat) : DomainRouteToken :=
  { current with
    token := some (encryptToken uidDestination.prikey uidToken k)
    revision := current.revision + 1
    revisionTime := 0
    isReady := false }

/-- Before round `k`: the destination is at revision `k`, holds the UID token
(if any) padded below `k`, and has never held a revision above `k`. -/
structure RoundReady (w : World) (k : Nat) : Prop where
  revision : w.dest.current.value.revision = Int64.ofNat k
  token : w.dest.current.value.token = none ∨
    ∃ padding < k, w.dest.current.value.token = some (encryptToken uidDestination.prikey uidToken padding)
  history : ∀ held ∈ w.dest.versions, ∃ j ≤ k, held.value.revision = Int64.ofNat j

theorem step_initiate_uid
    (w : World) :
    World.step uidSource uidDestination w (.initiate 0 .domainRoute 0 [] 0) =
      ⟨w.dest, w.source, w.pending.insert 0 uidPending, (0, uidPending.request) :: w.requests,
        w.waiting, w.responses⟩ := rfl

theorem uidToken_length :
    uidToken.length = tokenByteSize :=
  List.length_replicate

/-- The destination reuses the UID token it holds, or draws it when it holds
none. -/
theorem destTokens_uid
    (dr : DomainRouteToken)
    (k : Nat)
    (stored : dr.token = none ∨
      ∃ padding < k, dr.token = some (encryptToken uidDestination.prikey uidToken padding)) :
    destTokens uidDestination uidPending.request dr 0 uidToken = some (.ok (uidToken, uidToken)) := by
  have named : GenDomainRouteName "alice" "bob" = "alice-bob" := by decide
  have drawn : generateRandomToken tokenByteSize uidToken = uidToken := rfl
  rcases stored with missing | ⟨padding, -, held⟩
  · simp [destTokens, needGenerateToken, missing, drawn, uidPending, uidDestination, named]
  · have notDue : needGenerateToken uidDestination.tokenConfig dr 0 = false := by
      simp [needGenerateToken, held, uidDestination]
    have reused : decryptToken uidDestination.prikey dr.token tokenByteSize = some uidToken := by
      rw [held, decryptToken_encryptToken, if_pos ⟨rfl, uidToken_length⟩]
    simp only [destTokens, uidPending, uidDestination] at notDue reused ⊢
    simp [named, notDue, reused]

theorem step_reply_uid
    (dest source : CasStore.Store DomainRouteToken)
    (pending : Go.Map Nat Pending)
    (requests : List (Nat × HandShakeRequest))
    (waiting : List WaitingReply)
    (responses : List (Nat × HandShakeRequest × HandShakeResponse))
    (k : Nat)
    (stored : dest.current.value.token = none ∨
      ∃ padding < k, dest.current.value.token =
        some (encryptToken uidDestination.prikey uidToken padding)) :
    World.step uidSource uidDestination
        ⟨dest, source, pending, (0, uidPending.request) :: requests, waiting, responses⟩
        (.reply 0 0 0 0 ⟨uidToken, k, 0⟩) =
      ⟨dest.write (uidRoundToken dest.current.value k), source, pending,
        (0, uidPending.request) :: requests,
        ⟨0, uidPending.request,
          ⟨encryptToken uidSource.prikey uidToken 0, dest.current.value.revision + 1⟩⟩ :: waiting,
        responses⟩ := by
  -- the token written in round k differs from every one held before it
  have fresh : dest.current.value.token ≠ some (encryptToken uidDestination.prikey uidToken k) := by
    rcases stored with missing | ⟨padding, below, held⟩
    · rw [missing]
      simp
    · rw [held]
      intro same
      have := congrArg Ciphertext.padding (Option.some.inj same)
      exact absurd this (by dsimp only [encryptToken, EncryptPKCS1v15]; omega)
  simp only [World.step, List.getElem?_cons_zero, CasStore.Store.read_zero, DestReplyHandshake,
    destTokens_uid _ k stored, Option.map_some, nextRevisionToken, ne_eq, fresh,
    not_false_eq_true, if_true, CasStore.Store.update_current]
  rfl

/-- A controller reading the current version marks it ready. -/
theorem step_markReady_current
    (src : Source)
    (dst : Destination)
    (dest source : CasStore.Store DomainRouteToken)
    (pending : Go.Map Nat Pending)
    (requests : List (Nat × HandShakeRequest))
    (waiting : List WaitingReply)
    (responses : List (Nat × HandShakeRequest × HandShakeResponse))
    (notReady : dest.current.value.isReady = false) :
    World.step src dst ⟨dest, source, pending, requests, waiting, responses⟩ (.markReady 0) =
      ⟨dest.write { dest.current.value with isReady := true }, source, pending, requests, waiting,
        responses⟩ := by
  simp [World.step, markTokenReady, notReady]

/-- A waiting call that reads a ready token sends its reply. -/
theorem step_finishWait_ready
    (src : Source)
    (dst : Destination)
    (dest source : CasStore.Store DomainRouteToken)
    (pending : Go.Map Nat Pending)
    (requests : List (Nat × HandShakeRequest))
    (call : WaitingReply)
    (waiting : List WaitingReply)
    (responses : List (Nat × HandShakeRequest × HandShakeResponse))
    (ready : dest.current.value.isReady = true) :
    World.step src dst ⟨dest, source, pending, requests, call :: waiting, responses⟩
        (.finishWait 0 [0]) =
      ⟨dest, source, pending, requests, waiting,
        (call.inst, call.request, call.call.reply) :: responses⟩ := by
  simp [World.step, finishReply, waitTokenReady, ready]

theorem step_complete_uid
    (dest source : CasStore.Store DomainRouteToken)
    (pending : Go.Map Nat Pending)
    (requests : List (Nat × HandShakeRequest))
    (waiting : List WaitingReply)
    (revision : Int64)
    (responses : List (Nat × HandShakeRequest × HandShakeResponse))
    (found : pending.lookup 0 = some uidPending) :
    World.step uidSource uidDestination
        ⟨dest, source, pending, requests, waiting,
          (0, uidPending.request,
            ReplyInWait.reply ⟨encryptToken uidSource.prikey uidToken 0, revision⟩) :: responses⟩
        (.complete 0 0 0 0 0) =
      ⟨dest,
        source.write { source.current.value with
          token := some (encryptToken uidSource.prikey uidToken 0)
          revision := revision.toInt32.toInt64
          isReady := true
          revisionTime := 0 },
        pending.erase 0, requests, waiting,
        (0, uidPending.request,
          ReplyInWait.reply ⟨encryptToken uidSource.prikey uidToken 0, revision⟩) :: responses⟩ := by
  have opened : decryptToken uidSource.prikey (some (encryptToken uidSource.prikey uidToken 0))
      tokenByteSize = some uidToken := by
    rw [decryptToken_encryptToken, if_pos ⟨rfl, uidToken_length⟩]
  simp [World.step, found, finishHandshake, Pending.complete, uidPending, sourceInitiateResponse,
    ReplyInWait.reply, opened, UpdateDomainRouteRevisionToken]

theorem toInt_ofNat_of_lt
    {n : Nat}
    (small : n < 2 ^ 63) :
    (Int64.ofNat n).toInt = n := by
  rw [Int64.toInt_ofNat']
  exact Int.bmod_eq_of_le (by simp [Int64.size]) (by simp [Int64.size]; omega)

/-- One round raises the destination's revision by one and leaves the source
holding the UID token under the revision the reply reported. -/
theorem run_uidRound
    (w : World)
    (k : Nat)
    (ready : RoundReady w k) :
    RoundReady (World.run uidSource uidDestination w (uidRound k)) (k + 1) ∧
      (World.run uidSource uidDestination w (uidRound k)).source.current.value.token =
        some (encryptToken uidSource.prikey uidToken 0) ∧
      (World.run uidSource uidDestination w (uidRound k)).source.current.value.revision =
        (Int64.ofNat (k + 1)).toInt32.toInt64 := by
  have raised : w.dest.current.value.revision + 1 = Int64.ofNat (k + 1) := by
    rw [ready.revision, Int64.ofNat_add]
    rfl
  simp only [uidRound, World.run_cons, World.run_nil]
  rw [step_initiate_uid, step_reply_uid _ _ _ _ _ _ k ready.token, step_markReady_current,
    step_finishWait_ready, step_complete_uid]
  · refine ⟨⟨raised, .inr ⟨k, Nat.lt_succ_self k, rfl⟩, ?history⟩, rfl, ?reported⟩
    case reported =>
      rw [raised]
      rfl
    case history =>
      -- the two new versions carry revision k + 1, the older ones at most k
      intro held mem
      simp only [CasStore.Store.versions_write, List.mem_cons] at mem
      rcases mem with rfl | rfl | old
      · exact ⟨k + 1, Nat.le_refl _, raised⟩
      · exact ⟨k + 1, Nat.le_refl _, raised⟩
      · obtain ⟨j, below, revision⟩ := ready.history held old
        exact ⟨j, Nat.le_succ_of_le below, revision⟩
  · exact AList.lookup_insert _
  · rfl
  · rfl

theorem uidRounds_ready
    (n : Nat) :
    RoundReady (World.run uidSource uidDestination World.init (uidRounds n)) n := by
  induction n with
  | zero =>
    refine ⟨rfl, .inl rfl, ?_⟩
    intro held mem
    rw [List.mem_singleton.mp mem]
    exact ⟨0, Nat.le_refl 0, rfl⟩
  | succ n inductionHypothesis =>
    rw [uidRounds, World.run_append]
    exact (run_uidRound _ n inductionHypothesis).1

theorem revision_wraps_at_int32 :
    ∃ stored ∈ (World.init.run uidSource uidDestination (uidRounds (2 ^ 31))).source.versions,
      decryptToken uidSource.prikey stored.value.token tokenByteSize = some uidToken ∧
        stored.value.revision.toInt = -2 ^ 31 ∧
        ∀ held ∈ (World.init.run uidSource uidDestination (uidRounds (2 ^ 31))).dest.versions,
          held.value.revision ≠ stored.value.revision := by
  have last : uidRounds (2 ^ 31) = uidRounds (2 ^ 31 - 1) ++ uidRound (2 ^ 31 - 1) := rfl
  have wrapped : (Int64.ofNat (2 ^ 31 - 1 + 1)).toInt32.toInt64.toInt = -2 ^ 31 := by decide
  obtain ⟨ready, token, revision⟩ :=
    run_uidRound _ (2 ^ 31 - 1) (uidRounds_ready (2 ^ 31 - 1))
  rw [← World.run_append, ← last] at ready token revision
  refine ⟨_, CasStore.Store.current_mem _, ?_, by rw [revision]; exact wrapped, ?_⟩
  · rw [token, decryptToken_encryptToken, if_pos ⟨rfl, uidToken_length⟩]
  · -- every revision the destination held is some j ≤ 2^31, never negative
    intro held mem same
    obtain ⟨j, below, heldRevision⟩ := ready.history held mem
    have heldInt := toInt_ofNat_of_lt (n := j) (by omega)
    rw [← heldRevision, same, revision, wrapped] at heldInt
    omega

end Kuscia.Gateway
