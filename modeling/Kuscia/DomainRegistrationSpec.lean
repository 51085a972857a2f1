import Mathlib
import Kuscia.DomainRegistration

namespace Kuscia.DomainRegistration

open CasStore Go

/-!
# What each step of registration and of the controller computes

One lemma per function of `Kuscia.DomainRegistration`, in the form the safety
proof uses: which tokens `newDomainTokenStatus` keeps and adds, which entry
`deployTokenMatched` finds, what a `.mark` decision writes, and what a
verified request has shown.  The list facts at the top are general.
-/

/-! ## Lists -/

/-- Two filters of a list with distinct keys, by exclusive predicates, have
distinct keys together. -/
theorem nodup_map_filter_append
    {α β : Type}
    {key : α → β}
    {l : List α}
    {p q : α → Bool}
    (distinct : (l.map key).Nodup)
    (exclusive : ∀ a, p a = true → q a = true → False) :
    ((l.filter p ++ l.filter q).map key).Nodup := by
  rw [List.map_append, List.nodup_append]
  refine ⟨distinct.sublist (List.filter_sublist.map key),
    distinct.sublist (List.filter_sublist.map key), ?_⟩
  intro x xMember y yMember same
  obtain ⟨a, aMember, rfl⟩ := List.mem_map.mp xMember
  obtain ⟨b, bMember, rfl⟩ := List.mem_map.mp yMember
  rw [List.mem_filter] at aMember bMember
  obtain rfl : a = b := List.inj_on_of_nodup_map distinct aMember.1 bMember.1 same
  exact exclusive a aMember.2 bMember.2

/-- An element of `l.modify i f` is one of `l` at another position, or `f`
of the element at `i`. -/
theorem mem_modify
    {α : Type}
    {l : List α}
    {i : Nat}
    {f : α → α}
    {x : α}
    (member : x ∈ l.modify i f) :
    (∃ j, j ≠ i ∧ l[j]? = some x) ∨ ∃ a, l[i]? = some a ∧ x = f a := by
  obtain ⟨j, found⟩ := List.mem_iff_getElem?.mp member
  rw [List.getElem?_modify] at found
  cases original : l[j]? with
  | none =>
    rw [original] at found
    cases found
  | some a =>
    rw [original] at found
    by_cases same : i = j
    · subst same
      simp only [Option.map_eq_map, Option.map_some, Option.some.injEq] at found
      exact Or.inr ⟨a, original, found.symm⟩
    · simp only [Option.map_eq_map, Option.map_some, if_neg same, Option.some.injEq] at found
      exact Or.inl ⟨j, Ne.symm same, found ▸ original⟩

/-- `modify` by a function that keeps a key keeps the keys. -/
theorem map_modify_of_key
    {α β : Type}
    {l : List α}
    {i : Nat}
    (f : α → α)
    (key : α → β)
    (keeps : ∀ a, key (f a) = key a) :
    (l.modify i f).map key = l.map key := by
  apply List.ext_getElem?
  intro j
  simp only [List.getElem?_map, List.getElem?_modify]
  cases l[j]? with
  | none => rfl
  | some a =>
    by_cases same : i = j
    · simp [same, keeps]
    · simp [same]

/-- In a list with distinct keys, two positions holding one key are the same. -/
theorem eq_of_getElem?_of_key
    {α β : Type}
    {l : List α}
    {key : α → β}
    {i j : Nat}
    {a b : α}
    (distinct : (l.map key).Nodup)
    (atI : l[i]? = some a)
    (atJ : l[j]? = some b)
    (same : key a = key b) :
    i = j := by
  obtain ⟨iBound, atI'⟩ := List.getElem?_eq_some_iff.mp atI
  obtain ⟨jBound, atJ'⟩ := List.getElem?_eq_some_iff.mp atJ
  have iKey : i < (l.map key).length := by simpa using iBound
  have jKey : j < (l.map key).length := by simpa using jBound
  have keysEqual : (l.map key)[i] = (l.map key)[j] := by
    simp [atI', atJ', same]
  exact distinct.getElem_inj_iff.mp keysEqual

/-! ## The controller's token list -/

theorem perm_sortTokenStatus
    (status : List DeployTokenStatus) :
    (sortTokenStatus status).Perm status :=
  List.perm_insertionSort _ _

theorem mem_sortTokenStatus
    {status : List DeployTokenStatus}
    {ts : DeployTokenStatus} :
    ts ∈ sortTokenStatus status ↔ ts ∈ status :=
  (perm_sortTokenStatus status).mem_iff

/-- The tokens `newDomainTokenStatus` sorts into used and unused: those with a
value. -/
def validTokens (domain : Domain) : List DeployTokenStatus :=
  (sortTokenStatus domain.tokens).filter fun tokenStatus => tokenStatus.token != ""

theorem mem_of_mem_validTokens
    {domain : Domain}
    {ts : DeployTokenStatus}
    (member : ts ∈ validTokens domain) :
    ts ∈ domain.tokens :=
  mem_sortTokenStatus.mp (List.mem_filter.mp member).1

theorem mem_generateTokenStatus
    {size : Nat}
    {generated : List String}
    {now : Nat}
    {ts : DeployTokenStatus}
    (member : ts ∈ generateTokenStatus size generated now) :
    ts.token ∈ generated ∧ ts.state = DeployTokenUnusedState := by
  simp only [generateTokenStatus, List.mem_map] at member
  obtain ⟨token, taken, rfl⟩ := member
  exact ⟨List.mem_of_mem_take taken, rfl⟩

theorem map_token_generateTokenStatus
    (size : Nat)
    (generated : List String)
    (now : Nat) :
    (generateTokenStatus size generated now).map DeployTokenStatus.token =
      generated.take size := by
  simp [generateTokenStatus, Function.comp_def]

@[simp] theorem generateTokenStatus_zero
    (generated : List String)
    (now : Nat) :
    generateTokenStatus 0 generated now = [] :=
  rfl

/-- `newDomainTokenStatus` sorts kept tokens, used then unused, and generated
ones. -/
theorem newDomainTokenStatus_shape
    (domain : Domain)
    (generated : List String)
    (now : Nat) :
    ∃ kept size,
      newDomainTokenStatus domain generated now =
        sortTokenStatus (kept ++ generateTokenStatus size generated now) ∧
      List.Sublist kept
        ((validTokens domain).filter (fun ts => ts.state == DeployTokenUsedState) ++
          (validTokens domain).filter (fun ts => ts.state == DeployTokenUnusedState)) := by
  unfold newDomainTokenStatus
  dsimp only
  -- one case per branch of the two trims; the equation fixes `kept`
  split_ifs
  · refine ⟨?_, 0, ?_, ?_⟩
    rotate_left
    · rw [generateTokenStatus_zero, List.append_nil]
    · exact (List.drop_sublist _ _).append (List.drop_sublist _ _)
  · refine ⟨?_, ?_, ?_, ?_⟩
    rotate_left 2
    · rw [← List.append_assoc]
    · exact (List.drop_sublist _ _).append (List.Sublist.refl _)
  · refine ⟨?_, 0, ?_, ?_⟩
    rotate_left
    · rw [generateTokenStatus_zero, List.append_nil]
    · exact (List.Sublist.refl _).append (List.drop_sublist _ _)
  · refine ⟨?_, ?_, ?_, ?_⟩
    rotate_left 2
    · rw [← List.append_assoc]
    · exact List.Sublist.refl _

/-- The controller keeps tokens of the copy it read, or adds generated unused
ones. -/
theorem mem_newDomainTokenStatus
    {domain : Domain}
    {generated : List String}
    {now : Nat}
    {ts : DeployTokenStatus}
    (member : ts ∈ newDomainTokenStatus domain generated now) :
    ts ∈ domain.tokens ∨ (ts.token ∈ generated ∧ ts.state = DeployTokenUnusedState) := by
  obtain ⟨kept, size, shape, keptSub⟩ := newDomainTokenStatus_shape domain generated now
  rw [shape, mem_sortTokenStatus, List.mem_append] at member
  rcases member with isKept | isGenerated
  · left
    rcases List.mem_append.mp (keptSub.subset isKept) with used | unused
    · exact mem_of_mem_validTokens (List.mem_filter.mp used).1
    · exact mem_of_mem_validTokens (List.mem_filter.mp unused).1
  · exact Or.inr (mem_generateTokenStatus isGenerated)

/-- The controller keeps token values distinct when the generator draws new
values. -/
theorem newDomainTokenStatus_distinct
    {domain : Domain}
    {generated : List String}
    {now : Nat}
    (distinct : (domain.tokens.map DeployTokenStatus.token).Nodup)
    (generatedDistinct : generated.Nodup)
    (notDrawn : ∀ t ∈ generated, t ∉ domain.tokens.map DeployTokenStatus.token) :
    ((newDomainTokenStatus domain generated now).map DeployTokenStatus.token).Nodup := by
  obtain ⟨kept, size, shape, keptSub⟩ := newDomainTokenStatus_shape domain generated now
  have validDistinct : ((validTokens domain).map DeployTokenStatus.token).Nodup :=
    ((((perm_sortTokenStatus _).map _).nodup_iff.mpr distinct)).sublist
      (List.filter_sublist.map _)
  have keptDistinct : (kept.map DeployTokenStatus.token).Nodup :=
    (nodup_map_filter_append validDistinct (by simp_all [DeployTokenUsedState,
      DeployTokenUnusedState])).sublist (keptSub.map _)
  rw [shape, ((perm_sortTokenStatus _).map _).nodup_iff, List.map_append,
    map_token_generateTokenStatus, List.nodup_append]
  refine ⟨keptDistinct, generatedDistinct.sublist (List.take_sublist _ _), ?_⟩
  -- a kept value is one of the copy's, and no generated value is
  intro x xMember y yMember same
  obtain ⟨ts, tsKept, rfl⟩ := List.mem_map.mp xMember
  have tsMember : ts ∈ domain.tokens := by
    rcases List.mem_append.mp (keptSub.subset tsKept) with used | unused
    · exact mem_of_mem_validTokens (List.mem_filter.mp used).1
    · exact mem_of_mem_validTokens (List.mem_filter.mp unused).1
  exact notDrawn y (List.mem_of_mem_take yMember) (same ▸ List.mem_map_of_mem tsMember)

/-! ## The registration handler -/

theorem deployTokenMatchedFrom_eq_ok
    {regToken : String} :
    ∀ {i index : Nat} {statuses : List DeployTokenStatus},
      deployTokenMatchedFrom regToken i statuses = .ok index →
      i ≤ index ∧ ∃ ts, statuses[index - i]? = some ts ∧ ts.token = regToken ∧
        ts.state = DeployTokenUnusedState := by
  intro i index statuses
  induction statuses generalizing i with
  | nil =>
    intro matched
    cases matched
  | cons dts rest inductionHypothesis =>
    intro matched
    unfold deployTokenMatchedFrom at matched
    split_ifs at matched with tokenSame stateUnused
    · cases matched
      exact ⟨le_refl _, dts, by simp, tokenSame, stateUnused⟩
    · -- the loop goes on from the next position
      obtain ⟨later, ts, found, tokenIs, stateIs⟩ := inductionHypothesis matched
      have shift : index - i = (index - (i + 1)) + 1 := by omega
      exact ⟨by omega, ts, by rw [shift, List.getElem?_cons_succ]; exact found, tokenIs, stateIs⟩

theorem deployTokenMatched_eq_ok
    {certRequest : CertificateRequest}
    {statuses : List DeployTokenStatus}
    {index : Nat}
    (matched : deployTokenMatched certRequest statuses = .ok index) :
    ∃ ts, statuses[index]? = some ts ∧ ts.token = getTokenFromCertRequest certRequest ∧
      ts.state = DeployTokenUnusedState := by
  unfold deployTokenMatched at matched
  dsimp only at matched
  split_ifs at matched
  obtain ⟨_, found⟩ := deployTokenMatchedFrom_eq_ok matched
  simpa using found

/-- A registration marks the CSR's token, found unused in the fetched status. -/
theorem registerDecision_eq_mark
    {crypto : Crypto}
    {req : RegisterRequest}
    {certRequest : CertificateRequest}
    {domain : Domain}
    {newStatus : DomainStatus}
    (decided : registerDecision crypto req certRequest domain = .mark newStatus) :
    ∃ index ts, domain.tokens[index]? = some ts ∧
      ts.token = getTokenFromCertRequest certRequest ∧ ts.state = DeployTokenUnusedState ∧
      newStatus.deployTokenStatuses = domain.tokens.modify index
        (fun tokenStatus => { tokenStatus with state := DeployTokenUsedState }) := by
  unfold registerDecision at decided
  split at decided
  · cases decided
  · rename_i status statusIs
    split_ifs at decided
    split at decided
    · cases decided
    · rename_i index matched
      cases decided
      obtain ⟨ts, found, tokenIs, stateIs⟩ := deployTokenMatched_eq_ok matched
      simp only [Domain.tokens, statusIs, Option.map_some, Option.getD_some]
      exact ⟨index, ts, found, tokenIs, stateIs, rfl⟩

theorem verifyJwtToken_eq_ok
    {crypto : Crypto}
    {jwtTokenStr pubKey : String}
    {req : RegisterRequest}
    {now : Int}
    (verified : verifyJwtToken crypto jwtTokenStr pubKey req now = .ok ()) :
    ∃ claims, crypto.parseWithClaims jwtTokenStr pubKey = .ok claims ∧
      claims.reqHashSha256 = getRegisterRequestHashSha256 crypto req := by
  unfold verifyJwtToken at verified
  split at verified
  · cases verified
  · rename_i claims parsed
    split at verified
    · cases verified
    · split_ifs at verified with expired hashSame
      exact ⟨claims, parsed, hashSame.symm⟩

/-- What a verified request has shown: its CSR names the domain, and its JWT
verifies under the CSR's key and covers the request. -/
theorem verifyRegisterRequest_eq_ok
    {crypto : Crypto}
    {req : RegisterRequest}
    {token : String}
    {now : Int}
    (verified : verifyRegisterRequest crypto req token now = .ok ()) :
    ∃ certRequest claims, crypto.parseCertRequest req.csr = .ok certRequest ∧
      certRequest.commonName = req.domainId ∧
      crypto.parseWithClaims token certRequest.publicKey = .ok claims ∧
      claims.reqHashSha256 = getRegisterRequestHashSha256 crypto req := by
  unfold verifyRegisterRequest at verified
  split at verified
  · cases verified
  · rename_i certRequest parsed
    split at verified
    · cases verified
    · rename_i csrVerified
      have named : certRequest.commonName = req.domainId := by
        unfold verifyCSR at csrVerified
        split_ifs at csrVerified with differs
        exact not_not.mp differs
      obtain ⟨claims, claimsParsed, hashSame⟩ := verifyJwtToken_eq_ok (wrapError_eq_ok verified)
      exact ⟨certRequest, claims, parsed, named, claimsParsed, hashSame⟩

/-- A registration that fetched the Domain verified its request first. -/
theorem registerStart_eq_fetched
    {crypto : Crypto}
    {name : String}
    {store : Store Domain}
    {req : RegisterRequest}
    {jwtToken : String}
    {now : Int}
    {certRequest : CertificateRequest}
    {domainCrtStr : String}
    {domain : Versioned Domain}
    (started : registerStart crypto name store req jwtToken now =
      .fetched certRequest domainCrtStr domain) :
    crypto.parseCertRequest req.csr = .ok certRequest ∧
      verifyRegisterRequest crypto req jwtToken now = .ok () ∧
      domainCrtStr = crypto.createCertificate certRequest req.requestTime ∧
      domain = store.current := by
  unfold registerStart at started
  split at started
  · cases started
  · rename_i parsedRequest parsed
    split at started
    · cases started
    · rename_i verified
      split_ifs at started
      cases started
      exact ⟨parsed, verified, rfl, rfl⟩

theorem registerStart_ne_statusUpdated
    (crypto : Crypto)
    (name : String)
    (store : Store Domain)
    (req : RegisterRequest)
    (jwtToken : String)
    (now : Int)
    (domainCrtStr : String) :
    registerStart crypto name store req jwtToken now ≠ .statusUpdated domainCrtStr := by
  unfold registerStart
  split
  · simp
  · split
    · simp
    · split_ifs <;> simp

end Kuscia.DomainRegistration
