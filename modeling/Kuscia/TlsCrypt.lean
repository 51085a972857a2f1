import Mathlib
import Kuscia.GoWindowLoop

namespace Kuscia.Tls

open Go

/-!
# Token and secret encryption

`crypt.go` wraps `crypto/rsa` for two uses.  The gateway's handshake token is
encrypted with PKCS#1 v1.5 behind a fixed prefix, and decrypted through
`rsa.DecryptPKCS1v15SessionKey`, which never reports a bad padding: it leaves
the caller's random key in place instead, so `genKey` draws a key that cannot
start with the prefix and the prefix check rejects it.  Secrets of any length
are encrypted with OAEP in rounds of `pub.Size() - 2 * hLen - 2` bytes, one
ciphertext block of `pub.Size()` bytes each, and decrypted block by block.

The standard library is a parameter, `Primitives`, over the state of
`rand.Reader` and the key types; `Primitives.Correct` is what the round trips
assume of it.  `toyPrimitives` meets those assumptions with a reader whose
`r`-th draw is the byte `r` repeated.

The loops are run with explicit bounds: `genKey` for at most `draws` draws and
the OAEP loops for at most `rounds` rounds, `none` standing for a call that has
not returned within them.
-/

/-- A byte slice. -/
abbrev Bytes := List UInt8

/-- `sha256.New().Size()`. -/
def hashSize : Nat :=
  32

/-- What `crypt.go` calls in the standard library, over the state `R` of
`rand.Reader`. -/
structure Primitives (R PublicKey PrivateKey : Type) where
  /-- `io.ReadFull(rand.Reader, buf)` into `n` bytes: the bytes and the reader
  after them; `crypto/rand`'s reader does not fail. -/
  read : R → Nat → Bytes × R
  /-- `priv.PublicKey`. -/
  publicKey : PrivateKey → PublicKey
  /-- `pub.Size()`: the modulus length in bytes. -/
  size : PublicKey → Nat
  /-- `rsa.EncryptPKCS1v15(rand.Reader, pub, msg)`. -/
  encryptPKCS1v15 : R → PublicKey → Bytes → Except String (Bytes × R)
  /-- The RSA decryption and unpadding inside `rsa.DecryptPKCS1v15SessionKey`:
  an error when the ciphertext does not decrypt, otherwise the message of the
  block, or `none` when its padding is bad. -/
  decryptPKCS1v15 : PrivateKey → Bytes → Except String (Option Bytes)
  /-- `rsa.EncryptOAEP(sha256.New(), rand.Reader, pub, msg, nil)`. -/
  encryptOAEP : R → PublicKey → Bytes → Except String (Bytes × R)
  /-- `rsa.DecryptOAEP(sha256.New(), rand.Reader, priv, ciphertext, nil)`; the
  reader only blinds the RSA operation. -/
  decryptOAEP : PrivateKey → Bytes → Except String Bytes
  /-- `base64.StdEncoding.EncodeToString`. -/
  encodeBase64 : Bytes → String
  /-- `base64.StdEncoding.DecodeString`. -/
  decodeBase64 : String → Except String Bytes

variable {R PublicKey PrivateKey : Type}

/-- The standard library as the round trips assume it: the reader fills its
buffer, a message that fits encrypts and decrypts back, every OAEP block is
exactly `priv.Size()` bytes, and base64 decoding inverts encoding. -/
structure Primitives.Correct (p : Primitives R PublicKey PrivateKey) : Prop where
  length_read : ∀ random n, (p.read random n).1.length = n
  encryptPKCS1v15_decrypts : ∀ priv random message,
    message.length + 11 ≤ p.size (p.publicKey priv) →
    ∃ ciphertext random', p.encryptPKCS1v15 random (p.publicKey priv) message =
        .ok (ciphertext, random') ∧
      p.decryptPKCS1v15 priv ciphertext = .ok (some message)
  encryptOAEP_decrypts : ∀ priv random message,
    message.length + 2 * hashSize + 2 ≤ p.size (p.publicKey priv) →
    ∃ ciphertext random', p.encryptOAEP random (p.publicKey priv) message =
        .ok (ciphertext, random') ∧
      ciphertext.length = p.size (p.publicKey priv) ∧
      p.decryptOAEP priv ciphertext = .ok message
  decodeBase64_encodeBase64 : ∀ bytes, p.decodeBase64 (p.encodeBase64 bytes) = .ok bytes

section Model

variable (p : Primitives R PublicKey PrivateKey)

/-- `EncryptPKCS1v15`: the prefix and the key in one block, base64-encoded. -/
def EncryptPKCS1v15 (pub : PublicKey) (key pre : Bytes) (random : R) : Outcome String :=
  let keyToEncrypt := pre ++ key
  match p.encryptPKCS1v15 random pub keyToEncrypt with
  | .error message => .error (.error message)
  | .ok (ciphertext, _) => .ok (p.encodeBase64 ciphertext)

/-- `generateRandKey`. -/
def generateRandKey (keysize : Nat) (random : R) : Bytes × R :=
  p.read random keysize

/-- `genKey`, for at most `draws` draws: `keysize + len(prefix)` random bytes,
drawn again while they start with a non-empty prefix. -/
def genKey (keysize : Nat) (pre : Bytes) : Nat → R → Option (Bytes × R)
  | 0, _ => none
  | draws + 1, random =>
    let (key, random) := generateRandKey p (keysize + pre.length) random
    if pre.length > 0 then
      -- the loop over the prefix returns the key at its first differing byte
      if pre.isPrefixOf key then genKey keysize pre draws random else some (key, random)
    else some (key, random)

/-- `rsa.DecryptPKCS1v15SessionKey(rand.Reader, priv, ciphertext, key)`: the key
after the call.  The message overwrites the key only when the padding is good
and the message is exactly as long as the key; otherwise the key stays as the
caller made it, and no error tells the two apart. -/
def DecryptPKCS1v15SessionKey (priv : PrivateKey) (ciphertext key : Bytes) :
    Except String Bytes :=
  if p.size (p.publicKey priv) < key.length + 3 + 8 then .error "crypto/rsa: decryption error"
  else
    match p.decryptPKCS1v15 priv ciphertext with
    | .error message => .error message
    | .ok (some message) => if message.length = key.length then .ok message else .ok key
    | .ok none => .ok key

/-- The end of `DecryptPKCS1v15`: the key after a non-empty prefix it must
start with, or `key[1:]` for the empty prefix. -/
def stripPrefix (pre key : Bytes) : Outcome Bytes :=
  if pre.length > 0 then
    if pre.isPrefixOf key then .ok (key.drop pre.length)
    else .error (.error "decrypt error, prefix not match")
  else slice key 1 key.length

/-- `DecryptPKCS1v15`, with `genKey` allowed `draws` draws. -/
def DecryptPKCS1v15
    (priv : PrivateKey)
    (ciphertext : String)
    (keysize : Nat)
    (pre : Bytes)
    (draws : Nat)
    (random : R) :
    Option (Outcome Bytes) :=
  match genKey p keysize pre draws random with
  | none => none
  | some (key, _) =>
    some <|
      match p.decodeBase64 ciphertext with
      | .error message => .error (.error message)
      | .ok text =>
        match DecryptPKCS1v15SessionKey p priv text key with
        | .error message => .error (.error message)
        | .ok key => stripPrefix pre key

/-- `EncryptOAEP`, for at most `rounds` rounds: the key in rounds of
`pub.Size() - 2 * hLen - 2` bytes, each encrypted to one block. -/
def EncryptOAEP (pub : PublicKey) (key : Bytes) (rounds : Nat) (random : R) :
    Option (Outcome String) :=
  let roundLength : Int := (p.size pub : Int) - 2 * hashSize - 2
  let encrypted := windowLoop (fun random window => p.encryptOAEP random pub window)
    roundLength key rounds 0 [] random
  encrypted.map fun result => result.map fun (ciphertext, _) => p.encodeBase64 ciphertext

/-- `DecryptOAEP`, for at most `rounds` rounds: the ciphertext in blocks of
`priv.Size()` bytes, each decrypted on its own. -/
def DecryptOAEP (priv : PrivateKey) (ciphertext : String) (rounds : Nat) :
    Option (Outcome Bytes) :=
  match p.decodeBase64 ciphertext with
  | .error message => some (.error (.error message))
  | .ok text =>
    let roundLength : Int := p.size (p.publicKey priv)
    let decrypted := windowLoop
      (fun (_ : Unit) window => (p.decryptOAEP priv window).map fun plain => (plain, ()))
      roundLength text rounds 0 [] ()
    decrypted.map fun result => result.map Prod.fst

end Model

/-! ## Primitives that meet the assumptions -/

/-- A stand-in for PKCS#1 v1.5: the message behind the bytes `0 2`. -/
def toyPadPKCS1v15 (message : Bytes) : Bytes :=
  0 :: 2 :: message

/-- A stand-in for OAEP: a run of `1`s, a `0` and the message, `size` bytes in all. -/
def toyPadOAEP (size : Nat) (message : Bytes) : Bytes :=
  List.replicate (size - 1 - message.length) 1 ++ 0 :: message

/-- Reads the message back from `toyPadOAEP`. -/
def toyUnpadOAEP (block : Bytes) : Except String Bytes :=
  match block.dropWhile (· == 1) with
  | 0 :: message => .ok message
  | _ => .error "crypto/rsa: decryption error"

/-- Keys are their own size in bytes; the reader's `r`-th draw is the byte `r`
repeated; base64 writes each byte as one character. -/
def toyPrimitives : Primitives Nat Nat Nat where
  read random n := (List.replicate n (UInt8.ofNat random), random + 1)
  publicKey priv := priv
  size pub := pub
  encryptPKCS1v15 random pub message :=
    if message.length + 11 ≤ pub then .ok (toyPadPKCS1v15 message, random + 1)
    else .error "crypto/rsa: message too long for RSA key size"
  decryptPKCS1v15 priv ciphertext :=
    if ciphertext.length ≤ priv then
      match ciphertext with
      | 0 :: 2 :: message => .ok (some message)
      | _ => .ok none
    else .error "crypto/rsa: decryption error"
  encryptOAEP random pub message :=
    if message.length + 2 * hashSize + 2 ≤ pub then .ok (toyPadOAEP pub message, random + 1)
    else .error "crypto/rsa: message too long for RSA key size"
  decryptOAEP priv ciphertext :=
    if ciphertext.length = priv then toyUnpadOAEP ciphertext
    else .error "crypto/rsa: decryption error"
  encodeBase64 bytes := String.ofList (bytes.map fun byte => Char.ofNat byte.toNat)
  decodeBase64 text := text.toList.mapM fun c =>
    if c.toNat < 256 then .ok (UInt8.ofNat c.toNat) else .error "illegal base64 data"

/-- The toy padding is read back. -/
theorem toyUnpadOAEP_toyPadOAEP
    (size : Nat)
    (message : Bytes) :
    toyUnpadOAEP (toyPadOAEP size message) = .ok message := by
  have skipOnes : (toyPadOAEP size message).dropWhile (· == 1) = 0 :: message := by
    rw [toyPadOAEP, List.dropWhile_append, List.dropWhile_replicate]
    simp
  rw [toyUnpadOAEP, skipOnes]
  rfl

/-- Every byte comes back from its character. -/
theorem toy_decode_encode
    (bytes : Bytes) :
    toyPrimitives.decodeBase64 (toyPrimitives.encodeBase64 bytes) = .ok bytes := by
  simp only [toyPrimitives, String.toList_ofList]
  induction bytes with
  | nil => rfl
  | cons byte rest inductionHypothesis =>
    have small : byte.toNat < 256 := byte.toNat_lt
    have isChar : (byte.toNat).isValidChar := Or.inl (by omega)
    simp only [List.map_cons, List.mapM_cons, Char.toNat_ofNat, isChar, small, if_true,
      UInt8.ofNat_toNat, inductionHypothesis]
    rfl

theorem toyPrimitives_correct :
    toyPrimitives.Correct where
  length_read random n := by
    simp [toyPrimitives]
  encryptPKCS1v15_decrypts priv random message fits := by
    simp only [toyPrimitives] at fits ⊢
    have shortEnough : (toyPadPKCS1v15 message).length ≤ priv := by
      simp only [toyPadPKCS1v15, List.length_cons]
      omega
    refine ⟨toyPadPKCS1v15 message, random + 1, by simp [fits], ?_⟩
    simp only [shortEnough, if_true]
    rfl
  encryptOAEP_decrypts priv random message fits := by
    simp only [toyPrimitives] at fits ⊢
    have blockLength : (toyPadOAEP priv message).length = priv := by
      simp only [toyPadOAEP, List.length_append, List.length_replicate, List.length_cons]
      simp only [hashSize] at fits
      omega
    exact ⟨toyPadOAEP priv message, random + 1, by simp [fits], blockLength,
      by simp [blockLength, toyUnpadOAEP_toyPadOAEP]⟩
  decodeBase64_encodeBase64 := toy_decode_encode

end Kuscia.Tls
