import Mathlib
import Kuscia.DomainRegistrationSpec

namespace Kuscia.DomainRegistration

open CasStore Go

/-!
# Deploy tokens are spent once, and only an authorised request sets the certificate

Over every interleaving of registrations and controller syncs in which the
token generator never repeats a value, this module shows:

* a token seen used is never unused later, and each token is marked used by at
  most one registration, at a moment when it was unused;
* every certificate the Domain has held is its first one or was patched in by a
  registration whose CSR names the domain, whose JWT verifies under the CSR's
  key and covers the request, and which marked a token.

The argument is the compare-and-swap of `UpdateStatus`: a status write built
from any version the writer read is accepted only if that version is the
current one (`Store.eq_current_of_update`), so the controller's stale copies
and a registration's earlier `Get` never overwrite a newer status.  `TokenInv`
relates the current token list to the ghost record, and `CertInv` the
executions and certificates; both hold along every run (`Safe.run`).
-/

/-! ## The invariants -/

theorem used_ne_unused :
    DeployTokenUsedState ≠ DeployTokenUnusedState := by
  decide

/-- The deploy tokens of the Domain's current version. -/
def World.tokens (w : World) : List DeployTokenStatus :=
  w.store.current.value.tokens

/-- `token` is marked used in the Domain's current status. -/
def UsedIn (w : World) (token : String) : Prop :=
  ∃ ts ∈ w.tokens, ts.token = token ∧ ts.state = DeployTokenUsedState

/-- `token` is unused in the Domain's current status. -/
def UnusedIn (w : World) (token : String) : Prop :=
  ∃ ts ∈ w.tokens, ts.token = token ∧ ts.state = DeployTokenUnusedState

/-- The current token list against the ghost record. -/
structure TokenInv (w : World) : Prop where
  /-- No two tokens of the current status share a value. -/
  distinct : (w.tokens.map DeployTokenStatus.token).Nodup
  /-- Every token value was drawn by the generator. -/
  drawn : ∀ ts ∈ w.tokens, ts.token ∈ w.seen
  /-- A marked value is not unused. -/
  markedNotUnused :
    ∀ ts ∈ w.tokens, ts.token ∈ w.marks.map Prod.snd → ts.state ≠ DeployTokenUnusedState
  /-- A used token was marked by a registration. -/
  usedMarked :
    ∀ ts ∈ w.tokens, ts.state = DeployTokenUsedState → ts.token ∈ w.marks.map Prod.snd
  marksDrawn : ∀ mark ∈ w.marks, mark.2 ∈ w.seen
  /-- No value was marked twice. -/
  marksDistinct : (w.marks.map Prod.snd).Nodup

/-- Execution `i` verified its request, `cert` is the certificate it made from
its CSR, and it marked the CSR's token. -/
def Authorised (crypto : Crypto) (w : World) (i : Nat) (cert : String) : Prop :=
  ∃ e certRequest, w.executions[i]? = some e ∧
    crypto.parseCertRequest e.req.csr = .ok certRequest ∧
    verifyRegisterRequest crypto e.req e.jwtToken e.now = .ok () ∧
    cert = crypto.createCertificate certRequest e.req.requestTime ∧
    (i, getTokenFromCertRequest certRequest) ∈ w.marks

/-- What an execution's phase says it has done. -/
def PhaseInv (crypto : Crypto) (w : World) (i : Nat) (e : Execution) : Prop :=
  match e.phase with
  | .fetched certRequest domainCrtStr domain =>
    crypto.parseCertRequest e.req.csr = .ok certRequest ∧
      verifyRegisterRequest crypto e.req e.jwtToken e.now = .ok () ∧
      domainCrtStr = crypto.createCertificate certRequest e.req.requestTime ∧
      domain ∈ w.store.versions
  | .statusUpdated domainCrtStr => Authorised crypto w i domainCrtStr
  | _ => True

/-- The executions and the certificates the Domain has held. -/
structure CertInv (crypto : Crypto) (initialCert : String) (w : World) : Prop where
  executions : ∀ i e, w.executions[i]? = some e → PhaseInv crypto w i e
  patched : ∀ patch ∈ w.patches, Authorised crypto w patch.1 patch.2
  certs : ∀ v ∈ w.store.versions,
    v.value.cert = initialCert ∨ ∃ patch ∈ w.patches, patch.2 = v.value.cert

/-- `w'` keeps what `w` recorded: each execution's request, the marks, the
patches and the store's history. -/
structure Grows (w w' : World) : Prop where
  requests : ∀ (i : Nat) (e : Execution), w.executions[i]? = some e →
    ∃ e' : Execution, w'.executions[i]? = some e' ∧ e'.req = e.req ∧
      e'.jwtToken = e.jwtToken ∧ e'.now = e.now
  marks : w.marks ⊆ w'.marks
  patches : w.patches ⊆ w'.patches
  history : w.store.Extends w'.store

section Invariants

variable {crypto : Crypto} {initialCert : String}

theorem Authorised.grows
    {w w' : World}
    {i : Nat}
    {cert : String}
    (authorised : Authorised crypto w i cert)
    (grows : Grows w w') :
    Authorised crypto w' i cert := by
  obtain ⟨e, certRequest, found, parsed, verified, made, marked⟩ := authorised
  obtain ⟨e', found', sameReq, sameJwt, sameNow⟩ := grows.requests i e found
  refine ⟨e', certRequest, found', ?_, ?_, ?_, grows.marks marked⟩
  · rw [sameReq]
    exact parsed
  · rw [sameReq, sameJwt, sameNow]
    exact verified
  · rw [sameReq]
    exact made

/-- What an authorising execution has shown: its CSR names the domain, and its
JWT verifies under the CSR's key with the hash of its request. -/
theorem Authorised.verified
    {w : World}
    {i : Nat}
    {cert : String}
    (authorised : Authorised crypto w i cert) :
    ∃ e certRequest claims,
      w.executions[i]? = some e ∧
      crypto.parseCertRequest e.req.csr = .ok certRequest ∧
      certRequest.commonName = e.req.domainId ∧
      crypto.parseWithClaims e.jwtToken certRequest.publicKey = .ok claims ∧
      claims.reqHashSha256 = getRegisterRequestHashSha256 crypto e.req ∧
      cert = crypto.createCertificate certRequest e.req.requestTime ∧
      (i, getTokenFromCertRequest certRequest) ∈ w.marks := by
  obtain ⟨e, certRequest, found, parsed, verified, made, marked⟩ := authorised
  obtain ⟨certRequest', claims, parsed', named, claimsParsed, hashSame⟩ :=
    verifyRegisterRequest_eq_ok verified
  -- the request was parsed twice, to the same result
  rw [parsed] at parsed'
  cases parsed'
  exact ⟨e, certRequest, claims, found, parsed, named, claimsParsed, hashSame, made, marked⟩

theorem PhaseInv.grows
    {w w' : World}
    {i : Nat}
    {e : Execution}
    (holds : PhaseInv crypto w i e)
    (grows : Grows w w') :
    PhaseInv crypto w' i e := by
  unfold PhaseInv at holds ⊢
  split
  · rename_i certRequest domainCrtStr domain phaseIs
    rw [phaseIs] at holds
    obtain ⟨parsed, verified, made, fetchedVersion⟩ := holds
    exact ⟨parsed, verified, made, grows.history.mem fetchedVersion⟩
  · rename_i domainCrtStr phaseIs
    rw [phaseIs] at holds
    exact Authorised.grows holds grows
  · trivial

theorem Grows.refl
    (w : World) :
    Grows w w :=
  ⟨fun _ e found => ⟨e, found, rfl, rfl, rfl⟩, fun _ member => member,
    fun _ member => member, Store.Extends.refl _⟩

theorem getElem?_setPhase
    {w : World}
    {i j : Nat}
    {e : Execution}
    {phase : Phase}
    (found : w.executions[i]? = some e) :
    (w.setPhase i e phase).executions[j]? =
      if i = j then some { e with phase := phase } else w.executions[j]? := by
  have inBounds : i < w.executions.length := by
    by_contra outside
    rw [List.getElem?_eq_none (by omega)] at found
    cases found
  simp only [World.setPhase, List.getElem?_set, inBounds, if_true]

/-- Moving one execution to another phase keeps every request. -/
theorem grows_setPhase
    {w : World}
    {i : Nat}
    {e : Execution}
    (phase : Phase)
    (found : w.executions[i]? = some e) :
    ∀ (j : Nat) (e'' : Execution), w.executions[j]? = some e'' →
      ∃ e' : Execution, (w.setPhase i e phase).executions[j]? = some e' ∧ e'.req = e''.req ∧
        e'.jwtToken = e''.jwtToken ∧ e'.now = e''.now := by
  intro j e'' found''
  rw [getElem?_setPhase found]
  split_ifs with same
  · subst same
    rw [found] at found''
    cases found''
    exact ⟨_, rfl, rfl, rfl, rfl⟩
  · exact ⟨e'', found'', rfl, rfl, rfl⟩

/-! ### The token invariant, action by action -/

/-- A step that leaves the token list and the marks alone keeps `TokenInv`. -/
theorem TokenInv.of_tokens_eq
    {w w' : World}
    (inv : TokenInv w)
    (tokens : w'.tokens = w.tokens)
    (marks : w'.marks = w.marks)
    (seen : w.seen ⊆ w'.seen) :
    TokenInv w' where
  distinct := tokens ▸ inv.distinct
  drawn := fun ts member => seen (inv.drawn ts (tokens ▸ member))
  markedNotUnused := fun ts member => marks ▸ inv.markedNotUnused ts (tokens ▸ member)
  usedMarked := fun ts member => marks ▸ inv.usedMarked ts (tokens ▸ member)
  marksDrawn := fun mark member => seen (inv.marksDrawn mark (marks ▸ member))
  marksDistinct := marks ▸ inv.marksDistinct

/-- Marking the unused token at `index` keeps `TokenInv`: its value was never
marked, and no other token carries it. -/
theorem TokenInv.mark
    {w w' : World}
    {index i : Nat}
    {ts : DeployTokenStatus}
    (inv : TokenInv w)
    (found : w.tokens[index]? = some ts)
    (unused : ts.state = DeployTokenUnusedState)
    (tokens : w'.tokens =
      w.tokens.modify index (fun t => { t with state := DeployTokenUsedState }))
    (marks : w'.marks = w.marks ++ [(i, ts.token)])
    (seen : w'.seen = w.seen) :
    TokenInv w' := by
  have tsMember : ts ∈ w.tokens := List.mem_of_getElem? found
  have notMarked : ts.token ∉ w.marks.map Prod.snd := fun marked =>
    inv.markedNotUnused ts tsMember marked unused
  -- a token of the new list is the marked one, or one of the old list elsewhere
  have cases : ∀ t ∈ w'.tokens,
      (t ∈ w.tokens ∧ t.token ≠ ts.token) ∨
        (t.token = ts.token ∧ t.state = DeployTokenUsedState) := by
    intro t member
    rw [tokens] at member
    rcases mem_modify member with ⟨j, other, atJ⟩ | ⟨a, atIndex, rfl⟩
    · exact Or.inl ⟨List.mem_of_getElem? atJ, fun sameToken =>
        other (eq_of_getElem?_of_key inv.distinct atJ found sameToken)⟩
    · rw [found] at atIndex
      cases atIndex
      exact Or.inr ⟨rfl, rfl⟩
  refine ⟨?_, ?_, ?_, ?_, ?_, ?_⟩
  · rw [tokens, map_modify_of_key (fun t => { t with state := DeployTokenUsedState })
      DeployTokenStatus.token (fun _ => rfl)]
    exact inv.distinct
  · intro t member
    rw [seen]
    rcases cases t member with ⟨old, _⟩ | ⟨sameToken, _⟩
    · exact inv.drawn t old
    · exact sameToken ▸ inv.drawn ts tsMember
  · intro t member marked
    rw [marks, List.map_append, List.mem_append] at marked
    rcases cases t member with ⟨old, otherToken⟩ | ⟨_, used⟩
    · rcases marked with before | justNow
      · exact inv.markedNotUnused t old before
      · exact (otherToken (by simpa using justNow)).elim
    · rw [used]
      exact used_ne_unused
  · intro t member used
    rw [marks, List.map_append, List.mem_append]
    rcases cases t member with ⟨old, _⟩ | ⟨sameToken, _⟩
    · exact Or.inl (inv.usedMarked t old used)
    · exact Or.inr (by simp [sameToken])
  · intro mark member
    rw [marks, List.mem_append, List.mem_singleton] at member
    rw [seen]
    rcases member with before | rfl
    · exact inv.marksDrawn mark before
    · exact inv.drawn ts tsMember
  · rw [marks, List.map_append, List.nodup_append]
    refine ⟨inv.marksDistinct, List.nodup_singleton _, ?_⟩
    intro a aMember b bMember same
    simp only [List.map_cons, List.map_nil, List.mem_singleton] at bMember
    rw [same, bMember] at aMember
    exact notMarked aMember

/-- The controller's write keeps `TokenInv` when the generator draws values it
never drew before. -/
theorem TokenInv.sync
    {w w' : World}
    {generated : List String}
    {now : Nat}
    (inv : TokenInv w)
    (generatedDistinct : generated.Nodup)
    (notDrawn : ∀ t ∈ generated, t ∉ w.seen)
    (tokens : w'.tokens = newDomainTokenStatus w.store.current.value generated now)
    (marks : w'.marks = w.marks)
    (seen : w'.seen = w.seen ++ generated) :
    TokenInv w' := by
  have notMarked : ∀ t ∈ generated, t ∉ w.marks.map Prod.snd := by
    intro t isGenerated marked
    obtain ⟨mark, markMember, rfl⟩ := List.mem_map.mp marked
    exact notDrawn _ isGenerated (inv.marksDrawn mark markMember)
  refine ⟨?_, ?_, ?_, ?_, ?_, ?_⟩
  · rw [tokens]
    refine newDomainTokenStatus_distinct inv.distinct generatedDistinct ?_
    intro t isGenerated present
    obtain ⟨ts, tsMember, rfl⟩ := List.mem_map.mp present
    exact notDrawn _ isGenerated (inv.drawn ts tsMember)
  · intro t member
    rw [tokens] at member
    rw [seen, List.mem_append]
    rcases mem_newDomainTokenStatus member with old | ⟨isGenerated, _⟩
    · exact Or.inl (inv.drawn t old)
    · exact Or.inr isGenerated
  · intro t member marked
    rw [tokens] at member
    rw [marks] at marked
    rcases mem_newDomainTokenStatus member with old | ⟨isGenerated, _⟩
    · exact inv.markedNotUnused t old marked
    · exact (notMarked _ isGenerated marked).elim
  · intro t member used
    rw [tokens] at member
    rw [marks]
    rcases mem_newDomainTokenStatus member with old | ⟨_, unused⟩
    · exact inv.usedMarked t old used
    · exact (used_ne_unused (used.symm.trans unused)).elim
  · intro mark member
    rw [marks] at member
    rw [seen]
    exact List.mem_append_left _ (inv.marksDrawn mark member)
  · rw [marks]
    exact inv.marksDistinct

/-- A token used in `w` is not unused in any later world: it was marked, and
the marks are kept. -/
theorem TokenInv.not_unusedIn
    {w w' : World}
    {token : String}
    (inv : TokenInv w)
    (inv' : TokenInv w')
    (grows : Grows w w')
    (used : UsedIn w token) :
    ¬ UnusedIn w' token := by
  obtain ⟨ts, tsMember, tokenIs, usedState⟩ := used
  rintro ⟨ts', tsMember', tokenIs', unusedState⟩
  have marked := inv.usedMarked ts tsMember usedState
  have markedLater : ts'.token ∈ w'.marks.map Prod.snd := by
    rw [tokenIs', ← tokenIs]
    exact List.map_subset _ grows.marks marked
  exact inv'.markedNotUnused ts' tsMember' markedLater unusedState

/-! ### The certificate invariant -/

theorem Grows.trans
    {w w' w'' : World}
    (first : Grows w w')
    (second : Grows w' w'') :
    Grows w w'' where
  requests := by
    intro i e found
    obtain ⟨e', found', req', jwt', now'⟩ := first.requests i e found
    obtain ⟨e'', found'', req'', jwt'', now''⟩ := second.requests i e' found'
    exact ⟨e'', found'', req''.trans req', jwt''.trans jwt', now''.trans now'⟩
  marks := fun _ member => second.marks (first.marks member)
  patches := fun _ member => second.patches (first.patches member)
  history := first.history.trans second.history

/-- What the executions had done still holds after a step that keeps the record. -/
theorem CertInv.phases_grow
    {w w' : World}
    (inv : CertInv crypto initialCert w)
    (grows : Grows w w') :
    ∀ (j : Nat) (e : Execution), w.executions[j]? = some e → PhaseInv crypto w' j e :=
  fun j e found => (inv.executions j e found).grows grows

/-- The phases after execution `i` moves to `phase`, from those before. -/
theorem phaseInv_setPhase
    {w w' : World}
    {i : Nat}
    {e : Execution}
    {phase : Phase}
    (found : w.executions[i]? = some e)
    (before : ∀ (j : Nat) (e'' : Execution), w.executions[j]? = some e'' →
      PhaseInv crypto w' j e'')
    (moved : PhaseInv crypto w' i { e with phase := phase }) :
    ∀ (j : Nat) (e' : Execution), (w.setPhase i e phase).executions[j]? = some e' →
      PhaseInv crypto w' j e' := by
  intro j e' found'
  rw [getElem?_setPhase found] at found'
  split_ifs at found' with same
  · subst same
    cases found'
    exact moved
  · exact before j e' found'

/-- `CertInv` after a step that keeps what was recorded, from the phases after
it and the facts about what it added. -/
theorem CertInv.of_grows
    {w w' : World}
    (inv : CertInv crypto initialCert w)
    (grows : Grows w w')
    (phases : ∀ (j : Nat) (e : Execution), w'.executions[j]? = some e → PhaseInv crypto w' j e)
    (newPatches : ∀ patch ∈ w'.patches, patch ∉ w.patches →
      Authorised crypto w' patch.1 patch.2)
    (newVersions : ∀ v ∈ w'.store.versions, v ∉ w.store.versions →
      v.value.cert = initialCert ∨ ∃ patch ∈ w'.patches, patch.2 = v.value.cert) :
    CertInv crypto initialCert w' where
  executions := phases
  patched := by
    intro patch member
    by_cases old : patch ∈ w.patches
    · exact (inv.patched patch old).grows grows
    · exact newPatches patch member old
  certs := by
    intro v member
    by_cases old : v ∈ w.store.versions
    · rcases inv.certs v old with first | ⟨patch, patchMember, patched⟩
      · exact Or.inl first
      · exact Or.inr ⟨patch, grows.patches patchMember, patched⟩
    · exact newVersions v member old

/-- The one version a write adds. -/
theorem eq_of_mem_write
    {store : Store Domain}
    {value : Domain}
    {v : Versioned Domain}
    (member : v ∈ (store.write value).versions)
    (new : v ∉ store.versions) :
    v.value = value := by
  rw [Store.versions_write, List.mem_cons] at member
  rcases member with rfl | old
  · rfl
  · exact (new old).elim

/-- A write that keeps the current certificate adds no new one. -/
theorem certs_of_write_status
    {w : World}
    {status : Option DomainStatus}
    {patches : List (Nat × String)}
    (inv : CertInv crypto initialCert w)
    (kept : w.patches ⊆ patches) :
    ∀ v ∈ (w.store.write { w.store.current.value with status := status }).versions,
      v ∉ w.store.versions →
      v.value.cert = initialCert ∨ ∃ patch ∈ patches, patch.2 = v.value.cert := by
  intro v member new
  rw [eq_of_mem_write member new]
  rcases inv.certs _ (Store.current_mem _) with first | ⟨patch, patchMember, patched⟩
  · exact Or.inl first
  · exact Or.inr ⟨patch, kept patchMember, patched⟩

/-! ### One step of each party -/

/-- Both invariants. -/
structure Safe (crypto : Crypto) (initialCert : String) (w : World) : Prop where
  tokens : TokenInv w
  certs : CertInv crypto initialCert w

/-- A step from a safe world: the next world is safe, keeps the record, and
marks only tokens that were unused. -/
structure SafeStep (crypto : Crypto) (initialCert : String) (w w' : World) : Prop where
  safe : Safe crypto initialCert w'
  grows : Grows w w'
  markedUnused : ∀ mark ∈ w'.marks, mark ∉ w.marks → UnusedIn w mark.2

/-- The generator's draws in `action` are new. -/
def Fresh (w : World) (action : Action) : Prop :=
  action.generated.Nodup ∧ ∀ t ∈ action.generated, t ∉ w.seen

theorem safe_init
    (name cert : String) :
    Safe crypto cert (World.init name cert) where
  tokens := ⟨List.nodup_nil, nofun, nofun, nofun, nofun, List.nodup_nil⟩
  certs := ⟨nofun, nofun, fun v member => by
    simp only [World.init, Store.versions_create, List.mem_singleton] at member
    subst member
    exact Or.inl rfl⟩

/-- A step that only moves executions along or adds one, with the phases after
it known, keeps `Safe`. -/
theorem SafeStep.of_phases
    {w w' : World}
    (safe : Safe crypto initialCert w)
    (grows : Grows w w')
    (store : w'.store = w.store)
    (marks : w'.marks = w.marks)
    (patches : w'.patches = w.patches)
    (seen : w.seen ⊆ w'.seen)
    (phases : ∀ (j : Nat) (e : Execution), w'.executions[j]? = some e →
      PhaseInv crypto w' j e) :
    SafeStep crypto initialCert w w' := by
  refine ⟨⟨safe.tokens.of_tokens_eq (by rw [World.tokens, store]; rfl) marks seen, ?_⟩, grows,
    fun mark member old => (old (marks ▸ member)).elim⟩
  refine safe.certs.of_grows grows phases (fun patch member old => (old (patches ▸ member)).elim) ?_
  intro v member old
  rw [store] at member
  exact (old member).elim

/-- A step that changes nothing. -/
theorem SafeStep.refl
    {w : World}
    (safe : Safe crypto initialCert w) :
    SafeStep crypto initialCert w w :=
  SafeStep.of_phases safe (Grows.refl w) rfl rfl rfl (fun _ member => member) safe.certs.executions

/-- Execution `i` answers or fails without writing. -/
theorem Safe.settle
    {w : World}
    {i : Nat}
    {e : Execution}
    {phase : Phase}
    (safe : Safe crypto initialCert w)
    (found : w.executions[i]? = some e)
    (moved : PhaseInv crypto (w.setPhase i e phase) i { e with phase := phase }) :
    SafeStep crypto initialCert w (w.setPhase i e phase) := by
  have grows : Grows w (w.setPhase i e phase) :=
    ⟨grows_setPhase phase found, fun _ member => member, fun _ member => member,
      Store.Extends.refl _⟩
  refine SafeStep.of_phases safe grows rfl rfl rfl (fun _ member => member) ?_
  exact phaseInv_setPhase found
    (safe.certs.phases_grow grows) moved

/-- A registration whose `UpdateStatus` is accepted marks an unused token of
the current status. -/
theorem Safe.mark
    {w : World}
    {i : Nat}
    {e : Execution}
    {certRequest : CertificateRequest}
    {domainCrtStr : String}
    {domain : Versioned Domain}
    {newStatus : DomainStatus}
    {store : Store Domain}
    (safe : Safe crypto initialCert w)
    (found : w.executions[i]? = some e)
    (phaseIs : e.phase = .fetched certRequest domainCrtStr domain)
    (decision : registerDecision crypto e.req certRequest domain.value = .mark newStatus)
    (accepted : updateStatus w.store domain.resourceVersion newStatus = some store) :
    SafeStep crypto initialCert w
      { w.setPhase i e (.statusUpdated domainCrtStr) with
        store := store
        marks := w.marks ++ [(i, getTokenFromCertRequest certRequest)] } := by
  have fetchedFacts := safe.certs.executions i e found
  unfold PhaseInv at fetchedFacts
  rw [phaseIs] at fetchedFacts
  obtain ⟨parsed, verified, made, fetchedVersion⟩ := fetchedFacts
  obtain ⟨basisCurrent, written⟩ := Store.update_eq_some accepted
  -- compare-and-swap: the fetched version is the current one
  have isCurrent : domain = w.store.current :=
    Store.eq_current_of_resourceVersion fetchedVersion basisCurrent
  obtain ⟨index, ts, atIndex, tokenIs, unused, newTokens⟩ := registerDecision_eq_mark decision
  rw [isCurrent] at atIndex newTokens
  have grows : Grows w { w.setPhase i e (.statusUpdated domainCrtStr) with
      store := store
      marks := w.marks ++ [(i, getTokenFromCertRequest certRequest)] } :=
    ⟨grows_setPhase _ found, List.subset_append_left _ _, fun _ member => member,
      Store.extends_update accepted⟩
  refine ⟨⟨?_, ?_⟩, grows, ?_⟩
  · refine safe.tokens.mark atIndex unused ?_ (by rw [tokenIs]) rfl
    simp only [World.tokens, written, Store.current_write, Domain.tokens, Option.map_some,
      Option.getD_some]
    exact newTokens
  · refine safe.certs.of_grows grows ?_ (fun _ _ old => (old ‹_›).elim) ?_
    · refine phaseInv_setPhase found
        (safe.certs.phases_grow grows) ?_
      exact ⟨{ e with phase := .statusUpdated domainCrtStr }, certRequest,
        (getElem?_setPhase found).trans (if_pos rfl), parsed, verified, made,
        List.mem_append_right _ (List.mem_singleton_self _)⟩
    · rw [written]
      exact certs_of_write_status safe.certs (fun _ member => member)
  · -- the one new mark is the token found unused
    intro mark member old
    rw [List.mem_append, List.mem_singleton] at member
    rcases member with before | rfl
    · exact (old before).elim
    · exact ⟨ts, List.mem_of_getElem? atIndex, tokenIs, unused⟩

/-- A registration patches its certificate in. -/
theorem Safe.patch
    {w : World}
    {i : Nat}
    {e : Execution}
    {domainCrtStr : String}
    (safe : Safe crypto initialCert w)
    (found : w.executions[i]? = some e)
    (phaseIs : e.phase = .statusUpdated domainCrtStr) :
    SafeStep crypto initialCert w
      { w.setPhase i e .responded with
        store := patchCert w.store domainCrtStr
        patches := w.patches ++ [(i, domainCrtStr)] } := by
  have authorised := safe.certs.executions i e found
  unfold PhaseInv at authorised
  rw [phaseIs] at authorised
  have grows : Grows w { w.setPhase i e .responded with
      store := patchCert w.store domainCrtStr
      patches := w.patches ++ [(i, domainCrtStr)] } :=
    ⟨grows_setPhase _ found, fun _ member => member, List.subset_append_left _ _,
      Store.extends_write _ _⟩
  refine ⟨⟨safe.tokens.of_tokens_eq rfl rfl (fun _ member => member), ?_⟩, grows,
    fun _ _ old => (old ‹_›).elim⟩
  refine safe.certs.of_grows grows ?_ ?_ ?_
  · exact phaseInv_setPhase found
      (safe.certs.phases_grow grows) trivial
  · intro patch member old
    rw [List.mem_append, List.mem_singleton] at member
    rcases member with before | rfl
    · exact (old before).elim
    · exact authorised.grows grows
  · intro v member new
    rw [eq_of_mem_write member new]
    exact Or.inr ⟨(i, domainCrtStr), List.mem_append_right _ (List.mem_singleton_self _), rfl⟩

theorem syncDomainStatus_eq_some
    {dm : Domain}
    {nodeStatuses : List NodeStatus}
    {generated : List String}
    {now : Nat}
    {newStatus : DomainStatus}
    (changed : syncDomainStatus dm nodeStatuses generated now = some newStatus) :
    newStatus.deployTokenStatuses = newDomainTokenStatus dm generated now := by
  unfold syncDomainStatus at changed
  dsimp only at changed
  split_ifs at changed
  cases changed
  rfl

/-- The controller's sync from any cached version. -/
theorem Safe.sync
    {w : World}
    {dm : Versioned Domain}
    {nodeStatuses : List NodeStatus}
    {generated : List String}
    {now : Nat}
    (safe : Safe crypto initialCert w)
    (cached : dm ∈ w.store.versions)
    (fresh : generated.Nodup ∧ ∀ t ∈ generated, t ∉ w.seen) :
    SafeStep crypto initialCert w (syncStep w dm nodeStatuses generated now) := by
  have growsDrawn : Grows w { w with seen := w.seen ++ generated } :=
    ⟨fun _ e found => ⟨e, found, rfl, rfl, rfl⟩, fun _ member => member,
      fun _ member => member, Store.Extends.refl _⟩
  have drawn : SafeStep crypto initialCert w { w with seen := w.seen ++ generated } :=
    SafeStep.of_phases safe growsDrawn rfl rfl rfl (List.subset_append_left _ _)
      (safe.certs.phases_grow growsDrawn)
  unfold syncStep
  dsimp only
  split
  · exact drawn
  · rename_i newStatus changed
    split
    · exact drawn
    · rename_i store accepted
      obtain ⟨basisCurrent, written⟩ := Store.update_eq_some accepted
      -- compare-and-swap: a stale copy is refused, so the copy is current
      have isCurrent : dm = w.store.current :=
        Store.eq_current_of_resourceVersion cached basisCurrent
      have grows : Grows w { w with seen := w.seen ++ generated, store := store } :=
        ⟨fun _ e found => ⟨e, found, rfl, rfl, rfl⟩, fun _ member => member,
          fun _ member => member, Store.extends_update accepted⟩
      refine ⟨⟨?_, ?_⟩, grows, fun _ _ old => (old ‹_›).elim⟩
      · have tokensAre : store.current.value.tokens =
            newDomainTokenStatus w.store.current.value generated now := by
          simp only [written, Store.current_write, Domain.tokens, Option.map_some,
            Option.getD_some]
          rw [syncDomainStatus_eq_some changed, isCurrent]
        exact safe.tokens.sync fresh.1 fresh.2 tokensAre rfl rfl
      · refine safe.certs.of_grows grows
          (safe.certs.phases_grow grows)
          (fun _ _ old => (old ‹_›).elim) ?_
        rw [written]
        exact certs_of_write_status safe.certs (fun _ member => member)

/-- A request starts an execution, which has verified what it fetched for. -/
theorem phaseInv_registerStart
    {w' : World}
    {i : Nat}
    {name : String}
    {store : Store Domain}
    {req : RegisterRequest}
    {jwtToken : String}
    {now : Int}
    (current : store.current ∈ w'.store.versions) :
    PhaseInv crypto w' i ⟨req, jwtToken, now, registerStart crypto name store req jwtToken now⟩ := by
  unfold PhaseInv
  split
  · rename_i certRequest domainCrtStr domain started
    obtain ⟨parsed, verified, made, rfl⟩ := registerStart_eq_fetched started
    exact ⟨parsed, verified, made, current⟩
  · rename_i domainCrtStr started
    exact (registerStart_ne_statusUpdated crypto name store req jwtToken now domainCrtStr
      started).elim
  · trivial

theorem Safe.register
    {w : World}
    {req : RegisterRequest}
    {jwtToken : String}
    {now : Int}
    (safe : Safe crypto initialCert w) :
    SafeStep crypto initialCert w (step crypto w (.register req jwtToken now)) := by
  have grows : Grows w (step crypto w (.register req jwtToken now)) := by
    refine ⟨fun j e found => ⟨e, ?_, rfl, rfl, rfl⟩, fun _ member => member,
      fun _ member => member, Store.Extends.refl _⟩
    have inBounds : j < w.executions.length := by
      by_contra outside
      rw [List.getElem?_eq_none (by omega)] at found
      cases found
    simp only [step, List.getElem?_append_left inBounds, found]
  refine SafeStep.of_phases safe grows rfl rfl rfl (fun _ member => member) ?_
  intro j e found
  by_cases old : j < w.executions.length
  · simp only [step, List.getElem?_append_left old] at found
    exact safe.certs.phases_grow grows j e found
  · -- the new execution, at the end
    simp only [step, List.getElem?_append_right (Nat.le_of_not_lt old),
      List.getElem?_singleton] at found
    split_ifs at found
    cases found
    exact phaseInv_registerStart (Store.current_mem _)

/-- The `UpdateStatus` step of a fetched execution. -/
theorem Safe.fetched
    {w : World}
    {i : Nat}
    {e : Execution}
    {certRequest : CertificateRequest}
    {domainCrtStr : String}
    {domain : Versioned Domain}
    (safe : Safe crypto initialCert w)
    (found : w.executions[i]? = some e)
    (phaseIs : e.phase = .fetched certRequest domainCrtStr domain) :
    SafeStep crypto initialCert w
      (updateStatusStep crypto w i e certRequest domainCrtStr domain) := by
  unfold updateStatusStep
  split
  · exact safe.settle found trivial
  · exact safe.settle found trivial
  · rename_i newStatus decision
    split
    · exact safe.settle found trivial
    · rename_i store accepted
      exact safe.mark found phaseIs decision accepted

/-- Every step of every party from a safe world, when the generator draws new
values. -/
theorem Safe.next
    {w : World}
    {action : Action}
    (safe : Safe crypto initialCert w)
    (fresh : Fresh w action) :
    SafeStep crypto initialCert w (step crypto w action) := by
  cases action with
  | register req jwtToken now =>
    exact safe.register
  | updateStatus i =>
    simp only [step]
    split
    · rename_i e found
      split
      · rename_i certRequest domainCrtStr domain phaseIs
        exact safe.fetched found phaseIs
      · exact SafeStep.refl safe
    · exact SafeStep.refl safe
  | patch i =>
    simp only [step]
    split
    · rename_i e found
      split
      · rename_i domainCrtStr phaseIs
        exact safe.patch found phaseIs
      · exact SafeStep.refl safe
    · exact SafeStep.refl safe
  | syncDomainStatus staleness nodeStatuses generated now =>
    exact safe.sync (Store.read_mem _ _) fresh

/-! ## Runs -/

theorem run_append
    (crypto : Crypto)
    (w : World)
    (first second : List Action) :
    run crypto w (first ++ second) = run crypto (run crypto w first) second := by
  induction first generalizing w with
  | nil => rfl
  | cons action rest inductionHypothesis => exact inductionHypothesis (step crypto w action)

theorem seen_updateStatusStep
    (crypto : Crypto)
    (w : World)
    (i : Nat)
    (e : Execution)
    (certRequest : CertificateRequest)
    (domainCrtStr : String)
    (domain : Versioned Domain) :
    (updateStatusStep crypto w i e certRequest domainCrtStr domain).seen = w.seen := by
  unfold updateStatusStep
  split
  · rfl
  · rfl
  · split <;> rfl

/-- Only the controller's draws are added to `seen`. -/
theorem seen_step
    (crypto : Crypto)
    (w : World)
    (action : Action) :
    (step crypto w action).seen = w.seen ++ action.generated := by
  cases action with
  | register req jwtToken now => simp [step, Action.generated]
  | updateStatus i =>
    simp only [step, Action.generated, List.append_nil]
    split
    · split
      · exact seen_updateStatusStep ..
      · rfl
    · rfl
  | patch i =>
    simp only [step, Action.generated, List.append_nil]
    split
    · split <;> rfl
    · rfl
  | syncDomainStatus staleness nodeStatuses generated now =>
    simp only [step, Action.generated, syncStep]
    split
    · rfl
    · split <;> rfl

/-- The generator draws no value twice, and none it drew before `w`. -/
def FreshDraws (w : World) (actions : List Action) : Prop :=
  (actions.flatMap Action.generated).Nodup ∧ ∀ t ∈ actions.flatMap Action.generated, t ∉ w.seen

theorem FreshDraws.head
    {w : World}
    {action : Action}
    {rest : List Action}
    (fresh : FreshDraws w (action :: rest)) :
    Fresh w action := by
  rw [FreshDraws, List.flatMap_cons] at fresh
  exact ⟨fresh.1.of_append_left, fun t member => fresh.2 t (List.mem_append_left _ member)⟩

theorem FreshDraws.tail
    {crypto : Crypto}
    {w : World}
    {action : Action}
    {rest : List Action}
    (fresh : FreshDraws w (action :: rest)) :
    FreshDraws (step crypto w action) rest := by
  rw [FreshDraws, List.flatMap_cons, List.nodup_append] at fresh
  obtain ⟨⟨_, restDistinct, apart⟩, notDrawn⟩ := fresh
  refine ⟨restDistinct, fun t member drawn => ?_⟩
  rw [seen_step, List.mem_append] at drawn
  rcases drawn with before | now
  · exact notDrawn t (List.mem_append_right _ member) before
  · exact apart t now t member rfl

theorem FreshDraws.drop
    {crypto : Crypto} :
    ∀ {w : World} {first second : List Action},
      FreshDraws w (first ++ second) → FreshDraws (run crypto w first) second := by
  intro w first second fresh
  induction first generalizing w with
  | nil => exact fresh
  | cons action rest inductionHypothesis =>
    exact inductionHypothesis (FreshDraws.tail fresh)

/-- Along every run with fresh draws the world stays safe and keeps what it
recorded. -/
theorem Safe.run :
    ∀ (actions : List Action) {w : World},
      Safe crypto initialCert w → FreshDraws w actions →
      Safe crypto initialCert (run crypto w actions) ∧ Grows w (run crypto w actions) := by
  intro actions
  induction actions with
  | nil =>
    intro w safe _
    exact ⟨safe, Grows.refl w⟩
  | cons action rest inductionHypothesis =>
    intro w safe fresh
    have next := safe.next fresh.head
    obtain ⟨safeAfter, growsAfter⟩ := inductionHypothesis next.safe fresh.tail
    exact ⟨safeAfter, next.grows.trans growsAfter⟩

/-- The first `k` actions of a run whose draws are all distinct draw fresh
values. -/
theorem freshDraws_take
    {actions : List Action}
    (distinct : (actions.flatMap Action.generated).Nodup)
    (name cert : String)
    (k : Nat) :
    FreshDraws (World.init name cert) (actions.take k) := by
  rw [← List.take_append_drop k actions, List.flatMap_append] at distinct
  exact ⟨distinct.of_append_left, fun _ _ drawn => nomatch drawn⟩

/-- Every world a run with distinct draws passes through is safe. -/
theorem safe_take
    {actions : List Action}
    (distinct : (actions.flatMap Action.generated).Nodup)
    (name cert : String)
    (k : Nat) :
    Safe crypto cert (run crypto (World.init name cert) (actions.take k)) :=
  (Safe.run (actions.take k) (safe_init name cert) (freshDraws_take distinct name cert k)).1

/-- The world after the first `j` actions keeps what the world after the
first `i` recorded. -/
theorem grows_take
    {actions : List Action}
    (distinct : (actions.flatMap Action.generated).Nodup)
    (name cert : String)
    {i j : Nat}
    (le : i ≤ j) :
    Grows (run crypto (World.init name cert) (actions.take i))
      (run crypto (World.init name cert) (actions.take j)) := by
  have split : actions.take j = actions.take i ++ (actions.take j).drop i := by
    conv_lhs => rw [← List.take_append_drop i (actions.take j)]
    rw [List.take_take, Nat.min_eq_left le]
  have fresh := freshDraws_take distinct name cert j
  rw [split] at fresh
  rw [split, run_append]
  exact (Safe.run _ (safe_take distinct name cert i) (FreshDraws.drop fresh)).2

/-- The action after the first `k` of a run with distinct draws marks only
tokens that were unused before it. -/
theorem markedUnused_take
    {actions : List Action}
    (distinct : (actions.flatMap Action.generated).Nodup)
    (name cert : String)
    {k : Nat}
    {mark : Nat × String}
    (member : mark ∈ (run crypto (World.init name cert) (actions.take (k + 1))).marks)
    (old : mark ∉ (run crypto (World.init name cert) (actions.take k)).marks) :
    UnusedIn (run crypto (World.init name cert) (actions.take k)) mark.2 := by
  rw [List.take_add_one, run_append] at member
  cases next : actions[k]? with
  | none =>
    rw [next] at member
    exact (old member).elim
  | some action =>
    rw [next] at member
    have fresh : FreshDraws (run crypto (World.init name cert) (actions.take k)) [action] := by
      have freshNext := freshDraws_take distinct name cert (k + 1)
      rw [List.take_add_one, next] at freshNext
      exact FreshDraws.drop freshNext
    exact ((safe_take distinct name cert k).next fresh.head).markedUnused mark member old

end Invariants

/-! ## Tokens are spent once; certificates are authorised -/

/-- Primitives for one domain, alice, whose CSR carries the deploy token
`token-1` and whose JWT covers a request made at time 5. -/
def aliceCrypto : Crypto where
  parseCertRequest csr :=
    if csr = "csr-alice" then .ok ⟨"alice", "key-alice", [(DomainCsrExtensionID, "token-1")]⟩
    else .error "pem decode csr error"
  parseWithClaims token key :=
    if token = "jwt-alice" ∧ key = "key-alice" then .ok ⟨"alice_csr-alice_5", some 10⟩
    else .error "token signature is invalid"
  sha256 text := text
  createCertificate certRequest _ := "cert-of-" ++ certRequest.publicKey
  isCertMatch cert certRequest := cert = "cert-of-" ++ certRequest.publicKey

/-- The controller generates `token-1`, then alice registers with it. -/
def aliceRegisters : List Action :=
  [.syncDomainStatus 0 [] ["token-1"] 1, .register ⟨"alice", "csr-alice", 5⟩ "jwt-alice" 6,
    .updateStatus 0, .patch 0]

/-- Over every interleaving of registrations and controller syncs in which the
token generator never draws a value twice: a token seen used is never unused
later; each token value is marked by at most one registration, and only while
it is unused; and every certificate the Domain has held is its first one or was
patched in by a registration whose CSR names the domain, whose JWT verifies
under the CSR's key with a hash of the request, and which marked the CSR's
token. -/
theorem deploy_tokens_spent_once
    (crypto : Crypto)
    (name cert : String)
    (actions : List Action)
    (drawsDistinct : (actions.flatMap Action.generated).Nodup) :
    (∀ i j token, i ≤ j →
      UsedIn (run crypto (World.init name cert) (actions.take i)) token →
      ¬ UnusedIn (run crypto (World.init name cert) (actions.take j)) token) ∧
    ((run crypto (World.init name cert) actions).marks.map Prod.snd).Nodup ∧
    (∀ k mark, mark ∈ (run crypto (World.init name cert) (actions.take (k + 1))).marks →
      mark ∉ (run crypto (World.init name cert) (actions.take k)).marks →
      UnusedIn (run crypto (World.init name cert) (actions.take k)) mark.2) ∧
    (∀ v ∈ (run crypto (World.init name cert) actions).store.versions,
      v.value.cert = cert ∨
      ∃ i e certRequest claims,
        (i, v.value.cert) ∈ (run crypto (World.init name cert) actions).patches ∧
        (run crypto (World.init name cert) actions).executions[i]? = some e ∧
        crypto.parseCertRequest e.req.csr = .ok certRequest ∧
        certRequest.commonName = e.req.domainId ∧
        crypto.parseWithClaims e.jwtToken certRequest.publicKey = .ok claims ∧
        claims.reqHashSha256 = getRegisterRequestHashSha256 crypto e.req ∧
        v.value.cert = crypto.createCertificate certRequest e.req.requestTime ∧
        (i, getTokenFromCertRequest certRequest) ∈
          (run crypto (World.init name cert) actions).marks) := by
  have safeEnd : Safe crypto cert (run crypto (World.init name cert) actions) := by
    simpa using safe_take drawsDistinct name cert actions.length
  refine ⟨?_, safeEnd.tokens.marksDistinct, ?_, ?_⟩
  · -- a used token was marked, and a marked token is never unused
    intro i j token le used
    exact (safe_take drawsDistinct name cert i).tokens.not_unusedIn
      (safe_take drawsDistinct name cert j).tokens (grows_take drawsDistinct name cert le) used
  · intro k mark member old
    exact markedUnused_take drawsDistinct name cert member old
  · -- every certificate is the first or was patched in by an authorised registration
    intro v member
    rcases safeEnd.certs.certs v member with first | ⟨patch, patchMember, patched⟩
    · exact Or.inl first
    · obtain ⟨e, certRequest, claims, found, parsed, named, claimsParsed, hashSame, made, marked⟩ :=
        (safeEnd.certs.patched patch patchMember).verified
      refine Or.inr ⟨patch.1, e, certRequest, claims, ?_, found, parsed, named, claimsParsed,
        hashSame, patched ▸ made, marked⟩
      rw [← patched]
      exact patchMember

theorem deploy_tokens_spent_once_aliceRegisters :
    (aliceRegisters.flatMap Action.generated).Nodup ∧
      (run aliceCrypto (World.init "alice" "") aliceRegisters).patches =
        [(0, "cert-of-key-alice")] ∧
      ((run aliceCrypto (World.init "alice" "") aliceRegisters).marks.map Prod.snd).Nodup :=
  ⟨by decide, by decide,
    (deploy_tokens_spent_once aliceCrypto "alice" "" aliceRegisters (by decide)).2.1⟩

end Kuscia.DomainRegistration
