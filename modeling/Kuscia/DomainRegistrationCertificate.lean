import Mathlib
import Kuscia.DomainRegistration
import Kuscia.GoTime

namespace Kuscia.DomainRegistration

open Go

/-!
# The validity window of a registered domain's certificate

`generateJwtToken` (the domain's side of `RegisterDomain`) stamps its
`RegisterRequest` with `RequestTime`, and `registerHandle` on the master
issues the certificate from `time.Unix(RequestTime / 1e9, RequestTime % 1e9)`
for ten years (`AddDate(10, 0, 0)`).  The domain writes
`time.Now().Nanosecond()`, the offset within the current second, where the
master reads nanoseconds since the epoch.  So every certificate starts within
the first second of 1970 and ends within the first second of 1980
(`certificateValidity_generateJwtToken`), whenever the request is made.  The
JWT binds the same `RequestTime` through `getRegisterRequestHashSha256`, so
the master accepts the request as it is.
-/

/-- What `generateJwtToken` builds at the domain's clock `now` (Unix
nanoseconds): the request, whose CSR is already base64-encoded, and the claims
its token carries, with `ExpiresAt` five minutes on in whole seconds. -/
def generateJwtToken (crypto : Crypto) (domainNamespace csr : String) (now : Int) :
    RegisterRequest × RegisterJwtClaims :=
  let req : RegisterRequest := ⟨domainNamespace, csr, Nanosecond now⟩
  (req, ⟨getRegisterRequestHashSha256 crypto req,
    some ((now + 5 * 60 * nanosPerSecond) / nanosPerSecond)⟩)

/-- The `NotBefore` and `NotAfter` of a certificate, as Unix nanoseconds. -/
structure Validity where
  notBefore : Int
  notAfter : Int
  deriving DecidableEq, Repr

/-- The validity `registerHandle` writes into the certificate template for a
request; Go's division and remainder truncate. -/
def certificateValidity (req : RegisterRequest) : Validity :=
  let t := Unix (req.requestTime.tdiv nanosPerSecond) (req.requestTime.tmod nanosPerSecond)
  ⟨t, AddDate t 10 0 0⟩

/-- 1980-01-01, ten years after the epoch: day 3652. -/
theorem daysFromCivil_1980 :
    daysFromCivil 1980 1 1 = 3652 := by
  decide

/-- A time within the epoch's first day moves ten years to the same time of
1980-01-01. -/
theorem AddDate_ten_years_of_first_day
    {t : Int}
    (inFirstDay : 0 ≤ t ∧ t < nanosPerDay) :
    AddDate t 10 0 0 = daysFromCivil 1980 1 1 * nanosPerDay + t := by
  have shifted := AddDate_add_clock 0 inFirstDay 10 0 0
  rw [zero_mul, zero_add] at shifted
  rw [shifted]
  have epoch : AddDate 0 10 0 0 = daysFromCivil 1980 1 1 * nanosPerDay := by
    decide
  rw [epoch]

/-- Whatever the domain's clock reads, the certificate for the request it
generates starts at the same offset into the first second of 1970 and ends ten
years later. -/
theorem certificateValidity_generateJwtToken
    (crypto : Crypto)
    (domainNamespace csr : String)
    (now : Int) :
    certificateValidity (generateJwtToken crypto domainNamespace csr now).1 =
      ⟨now % nanosPerSecond, daysFromCivil 1980 1 1 * nanosPerDay + now % nanosPerSecond⟩ := by
  have secondPositive : 0 < nanosPerSecond := by decide
  have lower := Int.emod_nonneg now secondPositive.ne'
  have upper := Int.emod_lt_of_pos now secondPositive
  have withinDay : now % nanosPerSecond < nanosPerDay := by
    unfold nanosPerDay
    omega
  -- the offset is below a second, so the master reads it as second 0 of 1970
  have noSeconds : (now % nanosPerSecond).tdiv nanosPerSecond = 0 :=
    Int.tdiv_eq_zero_of_lt lower upper
  have sameOffset : (now % nanosPerSecond).tmod nanosPerSecond = now % nanosPerSecond :=
    Int.tmod_eq_of_lt lower upper
  simp only [certificateValidity, generateJwtToken, Nanosecond, noSeconds, sameOffset, Unix,
    zero_mul, zero_add, AddDate_ten_years_of_first_day ⟨lower, withinDay⟩]

/-- Primitives for one domain, bob, whose CSR `csr-bob` names bob and whose JWT
`jwt-bob` carries the claims `generateJwtToken` made at
2024-01-01T00:00:00.5Z. -/
def bobCrypto : Crypto where
  parseCertRequest csr :=
    if csr = "csr-bob" then .ok ⟨"bob", "key-bob", []⟩ else .error "pem decode csr error"
  parseWithClaims token key :=
    if token = "jwt-bob" ∧ key = "key-bob" then .ok ⟨"bob_csr-bob_500000000", some 1704067500⟩
    else .error "token signature is invalid"
  sha256 text := text
  createCertificate certRequest _ := "cert-of-" ++ certRequest.publicKey
  isCertMatch cert certRequest := cert = "cert-of-" ++ certRequest.publicKey

/-- bob registers at 2024-01-01T00:00:00.5Z.  The master verifies the request
a second later and issues a certificate valid from 1970-01-01T00:00:00.5Z to
1980-01-01T00:00:00.5Z, which has long expired. -/
theorem registered_certificate_predates_request :
    (generateJwtToken bobCrypto "bob" "csr-bob" 1704067200500000000).2 =
        ⟨"bob_csr-bob_500000000", some 1704067500⟩ ∧
      verifyRegisterRequest bobCrypto
          (generateJwtToken bobCrypto "bob" "csr-bob" 1704067200500000000).1 "jwt-bob"
          1704067201 = .ok () ∧
      certificateValidity (generateJwtToken bobCrypto "bob" "csr-bob" 1704067200500000000).1 =
        ⟨500000000, 315532800500000000⟩ ∧
      (certificateValidity
          (generateJwtToken bobCrypto "bob" "csr-bob" 1704067200500000000).1).notAfter ≤
        1704067200500000000 := by
  have validity := certificateValidity_generateJwtToken bobCrypto "bob" "csr-bob"
    1704067200500000000
  refine ⟨by decide, by decide, ?_, ?_⟩
  · rw [validity, daysFromCivil_1980]
    decide
  · rw [validity, daysFromCivil_1980]
    decide

end Kuscia.DomainRegistration
