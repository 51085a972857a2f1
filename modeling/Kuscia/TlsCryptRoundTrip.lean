import Mathlib
import Kuscia.TlsCrypt

namespace Kuscia.Tls

open Go

/-!
# Which ciphertexts come back

With a non-empty prefix the PKCS#1 v1.5 token round-trips
(`DecryptPKCS1v15_EncryptPKCS1v15`), and whatever `DecryptPKCS1v15` returns was
encrypted behind the prefix at the right length (`DecryptPKCS1v15_eq_ok`): a
bad padding leaves `genKey`'s key, which does not start with the prefix.  With
the empty prefix neither holds: the result is `key[1:]` of whatever key the
session-key call leaves, the encrypted token or the random one.

OAEP round-trips when a round holds at least one byte, that is for keys of
more than `2 * hLen + 2 = 66` bytes (`DecryptOAEP_EncryptOAEP`).  A 66-byte key
makes every round empty and the loop never ends; a smaller one makes the first
round's bounds cross.
-/

variable {R PublicKey PrivateKey : Type}
variable {p : Primitives R PublicKey PrivateKey}

/-! ## The key `genKey` draws -/

/-- The reader after `j` draws of `n` bytes. -/
def afterDraws (p : Primitives R PublicKey PrivateKey) (n : Nat) (random : R) : Nat → R
  | 0 => random
  | j + 1 => afterDraws p n (p.read random n).2 j

/-- One draw of `genKey`: it is kept unless it starts with a non-empty prefix. -/
theorem genKey_succ
    (keysize : Nat)
    (pre : Bytes)
    (draws : Nat)
    (random : R) :
    genKey p keysize pre (draws + 1) random =
      if 0 < pre.length ∧ pre.isPrefixOf (p.read random (keysize + pre.length)).1 then
        genKey p keysize pre draws (p.read random (keysize + pre.length)).2
      else some (p.read random (keysize + pre.length)) := by
  simp only [genKey, generateRandKey]
  by_cases nonEmpty : 0 < pre.length <;>
    by_cases startsWith : pre.isPrefixOf (p.read random (keysize + pre.length)).1 <;>
    simp [nonEmpty, startsWith]

/-- With the empty prefix the first draw is the key. -/
theorem genKey_empty_prefix
    (keysize draws : Nat)
    (random : R) :
    genKey p keysize [] (draws + 1) random = some (p.read random keysize) := by
  simp [genKey_succ]

/-- Every key `genKey` returns has `keysize + len(prefix)` bytes and does not
start with a non-empty prefix. -/
theorem genKey_spec
    (correct : p.Correct)
    {keysize : Nat}
    {pre : Bytes} :
    ∀ {draws : Nat} {random : R} {key : Bytes} {random' : R},
      genKey p keysize pre draws random = some (key, random') →
        key.length = keysize + pre.length ∧ (0 < pre.length → ¬List.IsPrefix pre key) := by
  intro draws
  induction draws with
  | zero =>
    intro random key random' returned
    cases returned
  | succ draws inductionHypothesis =>
    intro random key random' returned
    rw [genKey_succ] at returned
    split_ifs at returned with rejected
    · exact inductionHypothesis returned
    · -- the draw itself is returned
      have drawn : p.read random (keysize + pre.length) = (key, random') :=
        Option.some.inj returned
      refine ⟨by rw [← correct.length_read random (keysize + pre.length), drawn], ?_⟩
      intro nonEmpty
      rw [drawn] at rejected
      simpa [nonEmpty, List.isPrefixOf_iff_prefix] using rejected

/-- `genKey` returns once a draw does not start with the prefix. -/
theorem genKey_returns
    {keysize : Nat}
    {pre : Bytes} :
    ∀ {draws : Nat} {random : R},
      (∃ j < draws, ¬List.IsPrefix pre
          (p.read (afterDraws p (keysize + pre.length) random j) (keysize + pre.length)).1) →
        ∃ key random', genKey p keysize pre draws random = some (key, random') := by
  intro draws
  induction draws with
  | zero =>
    intro random differing
    obtain ⟨j, beyond, _⟩ := differing
    omega
  | succ draws inductionHypothesis =>
    intro random differing
    rw [genKey_succ]
    split_ifs with rejected
    · -- the first draw starts with the prefix, so a later one is the differing one
      obtain ⟨j, within, differs⟩ := differing
      cases j with
      | zero =>
        simp only [afterDraws] at differs
        simp [List.isPrefixOf_iff_prefix, differs] at rejected
      | succ j =>
        exact inductionHypothesis ⟨j, by omega, differs⟩
    · exact ⟨_, _, rfl⟩

/-! ## The session-key call -/

section SessionKey

variable {priv : PrivateKey} {text key key' : Bytes}

/-- The key after the session-key call is the caller's, or a message of the same
length that the ciphertext decrypts to. -/
theorem DecryptPKCS1v15SessionKey_eq_ok
    (decrypted : DecryptPKCS1v15SessionKey p priv text key = .ok key') :
    key.length + 11 ≤ p.size (p.publicKey priv) ∧ key'.length = key.length ∧
      (key' = key ∨ p.decryptPKCS1v15 priv text = .ok (some key')) := by
  unfold DecryptPKCS1v15SessionKey at decrypted
  split_ifs at decrypted with tooSmall
  refine ⟨by omega, ?_⟩
  split at decrypted
  · cases decrypted
  · rename_i message decrypts
    split_ifs at decrypted with sameLength
    · cases decrypted
      exact ⟨sameLength, .inr decrypts⟩
    · cases decrypted
      exact ⟨rfl, .inl rfl⟩
  · cases decrypted
    exact ⟨rfl, .inl rfl⟩

/-- A message as long as the key replaces it. -/
theorem DecryptPKCS1v15SessionKey_of_decrypts
    {message : Bytes}
    (fits : key.length + 11 ≤ p.size (p.publicKey priv))
    (decrypts : p.decryptPKCS1v15 priv text = .ok (some message))
    (sameLength : message.length = key.length) :
    DecryptPKCS1v15SessionKey p priv text key = .ok message := by
  have roomy : ¬p.size (p.publicKey priv) < key.length + 3 + 8 := by
    omega
  simp [DecryptPKCS1v15SessionKey, roomy, decrypts, sameLength]

/-- A bad padding leaves the key, without an error. -/
theorem DecryptPKCS1v15SessionKey_of_bad_padding
    (fits : key.length + 11 ≤ p.size (p.publicKey priv))
    (badPadding : p.decryptPKCS1v15 priv text = .ok none) :
    DecryptPKCS1v15SessionKey p priv text key = .ok key := by
  have roomy : ¬p.size (p.publicKey priv) < key.length + 3 + 8 := by
    omega
  simp [DecryptPKCS1v15SessionKey, roomy, badPadding]

end SessionKey

/-! ## The prefix check -/

/-- A key made of a non-empty prefix and a token passes the check. -/
theorem stripPrefix_append
    {pre : Bytes}
    (nonEmpty : 0 < pre.length)
    (token : Bytes) :
    stripPrefix pre (pre ++ token) = .ok token := by
  simp [stripPrefix, nonEmpty, List.isPrefixOf_iff_prefix]

/-- With the empty prefix the check is the slice `key[1:]`. -/
theorem stripPrefix_nil
    (key : Bytes) :
    stripPrefix [] key = slice key 1 key.length :=
  rfl

/-- Only a key that starts with a non-empty prefix passes the check, and the
token is the rest of it. -/
theorem stripPrefix_eq_ok
    {pre key token : Bytes}
    (nonEmpty : 0 < pre.length)
    (stripped : stripPrefix pre key = .ok token) :
    key = pre ++ token := by
  simp only [stripPrefix, nonEmpty, if_true] at stripped
  split_ifs at stripped with startsWith
  cases stripped
  rw [List.isPrefixOf_iff_prefix, List.prefix_iff_eq_take] at startsWith
  conv_lhs => rw [← List.take_append_drop pre.length key, ← startsWith]

/-! ## PKCS#1 v1.5 decryption -/

section Decrypt

variable {priv : PrivateKey} {ciphertext : String} {keysize : Nat} {pre : Bytes} {draws : Nat}
  {random : R}

/-- The steps of a call of `DecryptPKCS1v15` that gets to the prefix check. -/
theorem DecryptPKCS1v15_of_steps
    {randomKey text sessionKey : Bytes}
    {random' : R}
    (drawn : genKey p keysize pre draws random = some (randomKey, random'))
    (decoded : p.decodeBase64 ciphertext = .ok text)
    (session : DecryptPKCS1v15SessionKey p priv text randomKey = .ok sessionKey) :
    DecryptPKCS1v15 p priv ciphertext keysize pre draws random =
      some (stripPrefix pre sessionKey) := by
  simp only [DecryptPKCS1v15, drawn, decoded, session]

/-- A call of `DecryptPKCS1v15` that returns bytes went through every step. -/
theorem DecryptPKCS1v15_eq_some_ok
    {token : Bytes}
    (decrypted : DecryptPKCS1v15 p priv ciphertext keysize pre draws random = some (.ok token)) :
    ∃ randomKey random' text sessionKey,
      genKey p keysize pre draws random = some (randomKey, random') ∧
      p.decodeBase64 ciphertext = .ok text ∧
      DecryptPKCS1v15SessionKey p priv text randomKey = .ok sessionKey ∧
      stripPrefix pre sessionKey = .ok token := by
  unfold DecryptPKCS1v15 at decrypted
  split at decrypted
  · cases decrypted
  · rename_i randomKey random' drawn
    split at decrypted
    · cases decrypted
    · rename_i text decoded
      split at decrypted
      · cases decrypted
      · rename_i sessionKey session
        exact ⟨randomKey, random', text, sessionKey, drawn, decoded, session,
          Option.some.inj decrypted⟩

/-- With a non-empty prefix, `DecryptPKCS1v15` returns bytes only for a
ciphertext that decodes and decrypts to the prefix followed by a token of
`keysize` bytes, and the bytes are that token. -/
theorem DecryptPKCS1v15_eq_ok
    (correct : p.Correct)
    (nonEmpty : 0 < pre.length)
    {token : Bytes}
    (decrypted : DecryptPKCS1v15 p priv ciphertext keysize pre draws random = some (.ok token)) :
    token.length = keysize ∧
      ∃ text, p.decodeBase64 ciphertext = .ok text ∧
        p.decryptPKCS1v15 priv text = .ok (some (pre ++ token)) := by
  obtain ⟨randomKey, random', text, sessionKey, drawn, decoded, session, stripped⟩ :=
    DecryptPKCS1v15_eq_some_ok decrypted
  obtain ⟨randomLength, notPrefixed⟩ := genKey_spec correct drawn
  obtain ⟨_, sameLength, kept | decrypts⟩ := DecryptPKCS1v15SessionKey_eq_ok session
  · -- a kept random key would have failed the prefix check
    rw [kept] at stripped
    have startsWith := stripPrefix_eq_ok nonEmpty stripped
    exact absurd (startsWith ▸ List.prefix_append pre token) (notPrefixed nonEmpty)
  · have whole := stripPrefix_eq_ok nonEmpty stripped
    have wholeLength := congrArg List.length whole
    rw [List.length_append] at wholeLength
    refine ⟨by omega, text, decoded, ?_⟩
    rw [← whole]
    exact decrypts

/-- The block `0 2 9 1 2` decrypts to the prefix `9` and the token `1 2`. -/
theorem DecryptPKCS1v15_eq_ok_of_padded_token :
    DecryptPKCS1v15 toyPrimitives 64 (toyPrimitives.encodeBase64 [0, 2, 9, 1, 2]) 2 [9] 1 0 =
        some (.ok [1, 2]) ∧
      ([1, 2] : Bytes).length = 2 ∧
      ∃ text, toyPrimitives.decodeBase64 (toyPrimitives.encodeBase64 [0, 2, 9, 1, 2]) = .ok text ∧
        toyPrimitives.decryptPKCS1v15 64 text = .ok (some ([9] ++ [1, 2])) := by
  have decrypted : DecryptPKCS1v15 toyPrimitives 64 (toyPrimitives.encodeBase64 [0, 2, 9, 1, 2])
      2 [9] 1 0 = some (.ok [1, 2]) := by
    decide
  exact ⟨decrypted, DecryptPKCS1v15_eq_ok toyPrimitives_correct (by decide) decrypted⟩

/-- With a non-empty prefix the token round-trips, once `genKey` draws a key
that does not start with the prefix. -/
theorem DecryptPKCS1v15_EncryptPKCS1v15
    (correct : p.Correct)
    (priv : PrivateKey)
    {token : Bytes}
    (nonEmpty : 0 < pre.length)
    (fits : pre.length + token.length + 11 ≤ p.size (p.publicKey priv))
    (random : R) :
    ∃ ciphertext, EncryptPKCS1v15 p (p.publicKey priv) token pre random = .ok ciphertext ∧
      ∀ draws random',
        (∃ j < draws, ¬List.IsPrefix pre (p.read (afterDraws p (token.length + pre.length)
          random' j) (token.length + pre.length)).1) →
        DecryptPKCS1v15 p priv ciphertext token.length pre draws random' = some (.ok token) := by
  obtain ⟨encrypted, _, encrypts, decrypts⟩ :=
    correct.encryptPKCS1v15_decrypts priv random (pre ++ token) (by simp; omega)
  refine ⟨p.encodeBase64 encrypted, by simp [EncryptPKCS1v15, encrypts], ?_⟩
  intro draws random' differing
  obtain ⟨randomKey, random'', drawn⟩ := genKey_returns differing
  obtain ⟨randomLength, _⟩ := genKey_spec correct drawn
  have session : DecryptPKCS1v15SessionKey p priv encrypted randomKey = .ok (pre ++ token) :=
    DecryptPKCS1v15SessionKey_of_decrypts (by omega) decrypts (by simp; omega)
  rw [DecryptPKCS1v15_of_steps drawn (correct.decodeBase64_encodeBase64 encrypted) session,
    stripPrefix_append nonEmpty]

/-- The toy reader's first draw is `0 0 0`, which starts with the prefix `0`, so
`genKey` draws `1 1 1` before the token comes back. -/
theorem DecryptPKCS1v15_EncryptPKCS1v15_after_retry :
    ∃ ciphertext, EncryptPKCS1v15 toyPrimitives 64 [1, 2] [0] 0 = .ok ciphertext ∧
      DecryptPKCS1v15 toyPrimitives 64 ciphertext 2 [0] 2 0 = some (.ok [1, 2]) := by
  obtain ⟨ciphertext, encrypted, roundTrip⟩ := DecryptPKCS1v15_EncryptPKCS1v15
    toyPrimitives_correct 64 (by decide : 0 < ([0] : Bytes).length)
    (by decide : ([0] : Bytes).length + ([1, 2] : Bytes).length + 11 ≤ 64) 0
  exact ⟨ciphertext, encrypted, roundTrip 2 0 ⟨1, by decide, by decide⟩⟩

/-! ## The empty prefix -/

/-- With the empty prefix the token comes back as `token[1:]`. -/
theorem DecryptPKCS1v15_EncryptPKCS1v15_empty_prefix
    (correct : p.Correct)
    (priv : PrivateKey)
    {token : Bytes}
    (fits : token.length + 11 ≤ p.size (p.publicKey priv))
    (random : R) :
    ∃ ciphertext, EncryptPKCS1v15 p (p.publicKey priv) token [] random = .ok ciphertext ∧
      ∀ draws random',
        DecryptPKCS1v15 p priv ciphertext token.length [] (draws + 1) random' =
          some (slice token 1 token.length) := by
  obtain ⟨encrypted, _, encrypts, decrypts⟩ :=
    correct.encryptPKCS1v15_decrypts priv random token (by simpa using fits)
  refine ⟨p.encodeBase64 encrypted, by simp [EncryptPKCS1v15, encrypts], ?_⟩
  intro draws random'
  have drawn := genKey_empty_prefix (p := p) token.length draws random'
  have randomLength := correct.length_read random' token.length
  have session : DecryptPKCS1v15SessionKey p priv encrypted (p.read random' token.length).1 =
      .ok token :=
    DecryptPKCS1v15SessionKey_of_decrypts (by omega) decrypts randomLength.symm
  rw [DecryptPKCS1v15_of_steps drawn (correct.decodeBase64_encodeBase64 encrypted) session,
    stripPrefix_nil]

/-- With the empty prefix a ciphertext with a bad padding is not rejected: the
random key comes back as `key[1:]`. -/
theorem DecryptPKCS1v15_empty_prefix_of_bad_padding
    (correct : p.Correct)
    {text : Bytes}
    (decoded : p.decodeBase64 ciphertext = .ok text)
    (badPadding : p.decryptPKCS1v15 priv text = .ok none)
    (fits : keysize + 11 ≤ p.size (p.publicKey priv))
    (draws : Nat)
    (random : R) :
    DecryptPKCS1v15 p priv ciphertext keysize [] (draws + 1) random =
      some (slice (p.read random keysize).1 1 keysize) := by
  have drawn := genKey_empty_prefix (p := p) keysize draws random
  have randomLength := correct.length_read random keysize
  have session : DecryptPKCS1v15SessionKey p priv text (p.read random keysize).1 =
      .ok (p.read random keysize).1 :=
    DecryptPKCS1v15SessionKey_of_bad_padding (by omega) badPadding
  rw [DecryptPKCS1v15_of_steps drawn decoded session, stripPrefix_nil, randomLength]

end Decrypt

/-! ## OAEP -/

section Oaep

/-- With a key of more than `2 * hLen + 2` bytes a secret of any length
round-trips, once the loops are allowed a round per byte. -/
theorem DecryptOAEP_EncryptOAEP
    (correct : p.Correct)
    (priv : PrivateKey)
    (roomy : 2 * hashSize + 2 < p.size (p.publicKey priv))
    (secret : Bytes)
    {rounds : Nat}
    (enough : secret.length < rounds)
    (random : R) :
    ∃ ciphertext, EncryptOAEP p (p.publicKey priv) secret rounds random = some (.ok ciphertext) ∧
      ∀ rounds', secret.length < rounds' →
        DecryptOAEP p priv ciphertext rounds' = some (.ok secret) := by
  have positive : (0 : Int) < (p.size (p.publicKey priv) : Int) - 2 * hashSize - 2 := by
    omega
  -- every round is encrypted to one block that decrypts back to it
  obtain ⟨windows, blocks, _, encrypted, windowsFlatten, windowsNonEmpty, related⟩ :=
    windowLoop_run positive secret
      (R := fun window block => block.length = p.size (p.publicKey priv) ∧
        p.decryptOAEP priv block = .ok window)
      (fun state window _ short => by
        obtain ⟨block, state', encrypts, blockLength, decrypts⟩ :=
          correct.encryptOAEP_decrypts priv state window (by omega)
        exact ⟨block, state', encrypts, blockLength, decrypts⟩)
      rounds 0 [] random le_rfl (by omega)
  refine ⟨p.encodeBase64 blocks.flatten, ?_, ?_⟩
  · simp only [EncryptOAEP]
    rw [encrypted]
    rfl
  intro rounds' enough'
  -- the blocks are read back one by one
  have blocksRelated : List.Forall₂ (fun block window =>
      block.length = (p.size (p.publicKey priv) : Int).toNat ∧
        ∀ (state : Unit), ∃ state', (p.decryptOAEP priv block).map (fun plain => (plain, ())) =
          .ok (window, state')) blocks windows :=
    related.flip.imp fun block window ⟨blockLength, decrypts⟩ =>
      ⟨by simp [blockLength], fun _ => ⟨(), by rw [decrypts]; rfl⟩⟩
  have fewBlocks : blocks.length < rounds' := by
    have sameCount := related.length_eq
    have fewWindows := length_le_length_flatten windowsNonEmpty
    rw [windowsFlatten, Int.toNat_zero, List.drop_zero] at fewWindows
    omega
  obtain ⟨_, decrypted⟩ := windowLoop_blocks (Int.natCast_pos.mpr (by omega)) blocks.flatten
    blocksRelated rounds' 0 [] () le_rfl (by simp) fewBlocks
  simp only [DecryptOAEP, correct.decodeBase64_encodeBase64]
  rw [decrypted, List.nil_append, windowsFlatten, Int.toNat_zero, List.drop_zero]
  rfl

/-- Under a 128-byte key a round holds 62 bytes: a 70-byte secret takes two
blocks and comes back. -/
theorem DecryptOAEP_EncryptOAEP_two_blocks :
    ∃ ciphertext, EncryptOAEP toyPrimitives 128 (List.replicate 70 7) 71 0 = some (.ok ciphertext) ∧
      DecryptOAEP toyPrimitives 128 ciphertext 71 = some (.ok (List.replicate 70 7)) := by
  obtain ⟨ciphertext, encrypted, roundTrip⟩ := DecryptOAEP_EncryptOAEP toyPrimitives_correct 128
    (by decide) (List.replicate 70 7) (by decide : (List.replicate 70 (7 : UInt8)).length < 71) 0
  exact ⟨ciphertext, encrypted, roundTrip 71 (by decide)⟩

/-- With a key of exactly `2 * hLen + 2` bytes every round is empty: encrypting
a non-empty secret never returns. -/
theorem EncryptOAEP_never_returns
    (correct : p.Correct)
    (priv : PrivateKey)
    (tight : p.size (p.publicKey priv) = 2 * hashSize + 2)
    {secret : Bytes}
    (nonEmpty : secret ≠ [])
    (rounds : Nat)
    (random : R) :
    EncryptOAEP p (p.publicKey priv) secret rounds random = none := by
  have emptyRound : (p.size (p.publicKey priv) : Int) - 2 * hashSize - 2 = 0 := by
    omega
  have takesEmpty : ∀ state, ∃ block state',
      p.encryptOAEP state (p.publicKey priv) [] = .ok (block, state') := by
    intro state
    obtain ⟨block, state', encrypts, _⟩ :=
      correct.encryptOAEP_decrypts priv state [] (by simp; omega)
    exact ⟨block, state', encrypts⟩
  have secretLength : (0 : Int) < secret.length := by
    simpa [List.length_pos_iff] using nonEmpty
  simp only [EncryptOAEP, emptyRound,
    windowLoop_zero_round le_rfl secretLength takesEmpty, Option.map_none]

/-- With a key of fewer than `2 * hLen + 2` bytes the first round's bounds cross:
encrypting a non-empty secret panics. -/
theorem EncryptOAEP_panics
    (pub : PublicKey)
    (small : p.size pub < 2 * hashSize + 2)
    {secret : Bytes}
    (nonEmpty : secret ≠ [])
    (rounds : Nat)
    (random : R) :
    EncryptOAEP p pub secret (rounds + 1) random = some (.error sliceBoundsOutOfRange) := by
  have negative : (p.size pub : Int) - 2 * hashSize - 2 < 0 := by
    omega
  have secretLength : (0 : Int) < secret.length := by
    simpa [List.length_pos_iff] using nonEmpty
  simp only [EncryptOAEP, windowLoop_negative_round negative secretLength, Option.map_some]
  rfl

end Oaep

/-! ## Where the round trips fail -/

/-- At primitives that meet every assumption: the token `1 2 3` behind the
empty prefix comes back as `2 3`; a ciphertext with a bad padding comes back
as the tail of the random key `5 5 5` instead of an error; an empty token
makes the slice `key[1:]` panic; a one-byte secret never finishes encrypting
under a 66-byte key, and panics under a 64-byte one. -/
theorem round_trip_fails_for_empty_prefix_and_small_keys :
    (∃ ciphertext, EncryptPKCS1v15 toyPrimitives 64 [1, 2, 3] [] 0 = .ok ciphertext ∧
      DecryptPKCS1v15 toyPrimitives 64 ciphertext 3 [] 1 0 = some (.ok [2, 3])) ∧
    DecryptPKCS1v15 toyPrimitives 64 (toyPrimitives.encodeBase64 [7, 7]) 3 [] 1 5 =
      some (.ok [5, 5]) ∧
    (∃ ciphertext, EncryptPKCS1v15 toyPrimitives 64 [] [] 0 = .ok ciphertext ∧
      DecryptPKCS1v15 toyPrimitives 64 ciphertext 0 [] 1 0 =
        some (.error sliceBoundsOutOfRange)) ∧
    (∀ rounds, EncryptOAEP toyPrimitives 66 [7] rounds 0 = none) ∧
    EncryptOAEP toyPrimitives 64 [7] 1 0 = some (.error sliceBoundsOutOfRange) := by
  refine ⟨?_, ?_, ?_, ?_, ?_⟩
  · -- the token loses its first byte
    obtain ⟨ciphertext, encrypted, roundTrip⟩ := DecryptPKCS1v15_EncryptPKCS1v15_empty_prefix
      toyPrimitives_correct 64 (by decide : ([1, 2, 3] : Bytes).length + 11 ≤ 64) 0
    refine ⟨ciphertext, encrypted, (roundTrip 0 0).trans ?_⟩
    decide
  · -- a bad padding is not rejected
    have badPadding : toyPrimitives.decryptPKCS1v15 64 [7, 7] = .ok none := by
      decide
    rw [DecryptPKCS1v15_empty_prefix_of_bad_padding toyPrimitives_correct (toy_decode_encode _)
      badPadding (by decide) 0 5]
    decide
  · -- the empty token has no first byte to drop
    obtain ⟨ciphertext, encrypted, roundTrip⟩ := DecryptPKCS1v15_EncryptPKCS1v15_empty_prefix
      toyPrimitives_correct 64 (by decide : ([] : Bytes).length + 11 ≤ 64) 0
    refine ⟨ciphertext, encrypted, (roundTrip 0 0).trans ?_⟩
    decide
  · intro rounds
    exact EncryptOAEP_never_returns toyPrimitives_correct 66 rfl (by simp : ([7] : Bytes) ≠ [])
      rounds 0
  · exact EncryptOAEP_panics 64 (by decide) (by simp : ([7] : Bytes) ≠ []) 0 0

end Kuscia.Tls
