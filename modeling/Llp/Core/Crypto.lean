/-
  `llp-core/crypto.rs`: nonces, the AEAD cipher, key exchange and HMAC.

  The crates behind it are parameters. `ChaCha20Poly1305` is the AEAD; its `encrypt` refuses
  only by the length of the message. `Primitives` holds X25519, HKDF-SHA256 and HMAC-SHA256
  as functions of their inputs. Random bytes are arguments.

  * `asBytes_inj`: the 12 nonce bytes determine the counter and the 32-bit session id.
  * `encrypt_apply`: what one `AeadCipher::encrypt` returns and does to the counter.
  * `decrypt_eq_ok`: what an `AeadCipher::decrypt` that returns has opened.
  * `decrypt_ciphertext`: a cipher opens what one of the same key and session id sealed.
  * `Inverts`, `Tagged`: decryption inverts encryption; a ciphertext is the message and a tag.
    `sampleAead` meets both.
  * `Ideal`: the assumption of an ideal AEAD, about the messages sealed in a run.
    `tableAead` meets it for any list of messages.
-/
import Llp.Lib.Bytes
import Llp.Core.Error

namespace Llp
open ByteCodec

/-- Size of a ChaCha20 nonce. -/
def CHACHA20_NONCE_SIZE : ℕ := 12

/-- Size of the Poly1305 tag. -/
def POLY1305_TAG_SIZE : ℕ := 16

/-! ## The crates -/

/-- The ChaCha20-Poly1305 crate, as functions of key, nonce, AAD and data. -/
structure ChaCha20Poly1305 where
  maxPlaintext : ℕ
  ciphertext : Arr 32 → Bytes → Bytes → Bytes → Bytes
  plaintext? : Arr 32 → Bytes → Bytes → Bytes → Option Bytes

namespace ChaCha20Poly1305

/-- `Aead::encrypt`: refuses a message over the length limit. -/
def encrypt (A : ChaCha20Poly1305) (key : Arr 32) (nonce aad msg : Bytes) : Option Bytes :=
  if msg.length ≤ A.maxPlaintext then some (A.ciphertext key nonce aad msg) else none

/-- `Aead::decrypt`: the plaintext, if the ciphertext authenticates. -/
def decrypt (A : ChaCha20Poly1305) (key : Arr 32) (nonce aad msg : Bytes) : Option Bytes :=
  A.plaintext? key nonce aad msg

/-- Decryption inverts encryption. -/
def Inverts (A : ChaCha20Poly1305) : Prop :=
  ∀ key nonce aad m, A.decrypt key nonce aad (A.ciphertext key nonce aad m) = some m

/-- A ciphertext is 16 bytes longer than its message. -/
structure Tagged (A : ChaCha20Poly1305) : Prop where
  sealed : ∀ key nonce aad m,
    (A.ciphertext key nonce aad m).length = m.length + POLY1305_TAG_SIZE
  opened : ∀ key nonce aad c m, A.decrypt key nonce aad c = some m →
    c.length = m.length + POLY1305_TAG_SIZE

end ChaCha20Poly1305

/-- X25519, HKDF-SHA256 (to 32 bytes; salt, input key, info) and HMAC-SHA256. -/
structure Primitives where
  publicKey : Arr 32 → Arr 32
  diffieHellman : Arr 32 → Arr 32 → Arr 32
  hkdf : Bytes → Bytes → Bytes → Arr 32
  hmac : Bytes → Bytes → Arr 32

/-! ## Key exchange and HMAC -/

/-- A key pair: the public half is that of the secret. -/
structure X25519Key (P : Primitives) where
  secret : Arr 32
  publicKey : Arr 32
  publicKey_eq : publicKey = P.publicKey secret

/-- A session key. -/
structure SessionKey where
  bytes : Arr 32
deriving DecidableEq

section KeyExchange

variable (P : Primitives)

/-- `X25519Key::generate`, from 32 random bytes. -/
def X25519Key.generate (secret : Arr 32) : X25519Key P := ⟨secret, P.publicKey secret, rfl⟩

/-- `X25519Key::diffie_hellman`. -/
def X25519Key.diffieHellman (self : X25519Key P) (theirPublic : Arr 32) : Arr 32 :=
  P.diffieHellman self.secret theirPublic

/-- `SharedSecret::derive_session_key`. A 32-byte expansion of HKDF-SHA256 never fails. -/
def deriveSessionKey (shared : Arr 32) (salt info : Bytes) : SessionKey :=
  ⟨P.hkdf salt shared.toList info⟩

/-- `hmac_sha256`. -/
def hmacSha256 (key data : Bytes) : Arr 32 := P.hmac key data

/-- `verify_hmac_sha256`. -/
def verifyHmacSha256 (key data expectedTag : Bytes) : Bool :=
  (P.hmac key data).toList = expectedTag

end KeyExchange

/-! ## Nonces -/

/-- `ChaCha20Nonce`: the packet counter and the low half of the session id. -/
structure ChaCha20Nonce where
  counter : UInt64
  sessionId : UInt32
deriving DecidableEq

namespace ChaCha20Nonce

/-- `ChaCha20Nonce::new`. -/
def new (sessionId counter : UInt64) : ChaCha20Nonce :=
  ⟨counter, (sessionId &&& 0xFFFFFFFF).toUInt32⟩

/-- `as_bytes`: the counter and the session id, both little-endian. -/
def asBytes (self : ChaCha20Nonce) : Bytes :=
  toLE 8 self.counter.toNat ++ toLE 4 self.sessionId.toNat

/-- `increment`. -/
def increment : Method ChaCha20Nonce LlpError Unit := do
  let self ← get
  let counter ← Method.okOr (.cryptoError .nonceOverflow) (checkedAdd64 self.counter)
  set { self with counter := counter }

/-- The counter goes up by one, and stays at `u64::MAX`. -/
theorem increment_apply (n : ChaCha20Nonce) :
    increment n =
      if n.counter.toNat + 1 < 2 ^ 64 then .ok () { n with counter := n.counter + 1 }
      else .error (.err (.cryptoError .nonceOverflow)) n := by
  simp only [increment, Method.get_bind, checkedAdd64]
  split <;> rfl

/-- The low half of a 32-bit session id is the id. -/
theorem new_toUInt64 (sid : UInt32) (counter : UInt64) :
    new sid.toUInt64 counter = ⟨counter, sid⟩ := by
  have hmask : (sid.toUInt64 &&& 0xFFFFFFFF).toUInt32 = sid := by
    apply UInt32.toNat_inj.mp
    have hlt := sid.toNat_lt
    rw [UInt64.toNat_toUInt32, UInt64.toNat_and, UInt32.toNat_toUInt64]
    show (sid.toNat &&& (2 ^ 32 - 1)) % 2 ^ 32 = sid.toNat
    rw [Nat.and_two_pow_sub_one_eq_mod]
    omega
  rw [new, hmask]

theorem asBytes_inj {m n : ChaCha20Nonce} (h : m.asBytes = n.asBytes) : m = n := by
  obtain ⟨hc, hs⟩ := List.append_inj h (by simp)
  cases m
  cases n
  simp only [mk.injEq]
  exact ⟨u64_toLE_inj hc, u32_toLE_inj hs⟩

end ChaCha20Nonce

/-! ## The cipher -/

/-- `AeadCipher`: a key and the nonce of the next encryption. -/
structure AeadCipher where
  key : SessionKey
  nonce : ChaCha20Nonce
deriving DecidableEq

namespace AeadCipher

variable (A : ChaCha20Poly1305)

/-- `AeadCipher::new`. -/
def new (key : SessionKey) (sessionId : UInt64) : AeadCipher :=
  ⟨key, ChaCha20Nonce.new sessionId 0⟩

/-- `AeadCipher::encrypt`. -/
def encrypt (plaintext aad : Bytes) : Method AeadCipher LlpError Bytes := do
  let self ← get
  let ciphertext ← Method.okOr (.cryptoError .encryptionError)
    (A.encrypt self.key.bytes self.nonce.asBytes aad plaintext)
  Method.focus (·.nonce) (fun nonce self => { self with nonce := nonce })
    ChaCha20Nonce.increment
  pure ciphertext

/-- `AeadCipher::decrypt`, under the given counter. -/
def decrypt (self : AeadCipher) (ciphertext aad : Bytes) (nonceCounter : UInt64) :
    Fallible LlpError Bytes :=
  let nonce := ChaCha20Nonce.new self.nonce.sessionId.toUInt64 nonceCounter
  match A.decrypt self.key.bytes nonce.asBytes aad ciphertext with
  | some plaintext => .ok plaintext
  | none => .error (.err (.cryptoError .decryptionError))

/-- `nonce_counter`. -/
def nonceCounter (self : AeadCipher) : UInt64 := self.nonce.counter

/-- What one encryption returns, and what it does to the counter. -/
theorem encrypt_apply (plaintext aad : Bytes) (c : AeadCipher) :
    encrypt A plaintext aad c =
      if plaintext.length ≤ A.maxPlaintext then
        if c.nonce.counter.toNat + 1 < 2 ^ 64 then
          .ok (A.ciphertext c.key.bytes c.nonce.asBytes aad plaintext)
            { c with nonce := { c.nonce with counter := c.nonce.counter + 1 } }
        else .error (.err (.cryptoError .nonceOverflow)) c
      else .error (.err (.cryptoError .encryptionError)) c := by
  simp only [encrypt, Method.get_bind, ChaCha20Poly1305.encrypt]
  split
  · rw [Method.okOr_some, pure_bind]
    have hinc := ChaCha20Nonce.increment_apply c.nonce
    split at hinc
    · next h => rw [Method.bind_ok (Method.focus_ok hinc), Method.pure_apply, if_pos h]
    · next h => rw [Method.bind_error (Method.focus_error hinc), if_neg h]
  · rw [Method.okOr_none, Method.fail_bind]

/-- A message within the limit, below the last counter, is encrypted and moves the counter. -/
theorem encrypt_accepted {plaintext : Bytes} (aad : Bytes) (key : SessionKey)
    {counter : UInt64} (sid : UInt32) (hlen : plaintext.length ≤ A.maxPlaintext)
    (hcounter : counter.toNat + 1 < 2 ^ 64) :
    encrypt A plaintext aad ⟨key, ⟨counter, sid⟩⟩ =
      .ok (A.ciphertext key.bytes (ChaCha20Nonce.mk counter sid).asBytes aad plaintext)
        ⟨key, ⟨counter + 1, sid⟩⟩ := by
  rw [encrypt_apply, if_pos hlen, if_pos hcounter]

/-- Any other is not, and leaves the cipher as it is. -/
theorem encrypt_rejected {plaintext : Bytes} (aad : Bytes) (key : SessionKey)
    {counter : UInt64} (sid : UInt32)
    (h : ¬ (plaintext.length ≤ A.maxPlaintext ∧ counter.toNat + 1 < 2 ^ 64)) :
    ∃ e, encrypt A plaintext aad ⟨key, ⟨counter, sid⟩⟩ = .error e ⟨key, ⟨counter, sid⟩⟩ := by
  rw [encrypt_apply]
  by_cases hlen : plaintext.length ≤ A.maxPlaintext
  · rw [if_pos hlen, if_neg fun hcounter => h ⟨hlen, hcounter⟩]
    exact ⟨_, rfl⟩
  · rw [if_neg hlen]
    exact ⟨_, rfl⟩

/-- A decryption gives what the crate opens under the nonce of the counter. -/
theorem decrypt_eq_ok {A : ChaCha20Poly1305} {self : AeadCipher} {ciphertext aad m : Bytes}
    {counter : UInt64} : self.decrypt A ciphertext aad counter = .ok m ↔
      A.decrypt self.key.bytes (ChaCha20Nonce.mk counter self.nonce.sessionId).asBytes aad
        ciphertext = some m := by
  unfold decrypt
  simp only [ChaCha20Nonce.new_toUInt64]
  split
  · next plaintext hopen =>
      rw [hopen, Except.ok.injEq, Option.some.injEq]
  · next hnone =>
      rw [hnone]
      exact iff_of_false (fun h => by cases h) fun h => by cases h

/-- A cipher opens what one of the same key and session id sealed, under its counter. -/
theorem decrypt_ciphertext {A : ChaCha20Poly1305} (hA : A.Inverts) (key : SessionKey)
    (nonce : ChaCha20Nonce) (counter : UInt64) (aad m : Bytes) :
    decrypt A ⟨key, nonce⟩
      (A.ciphertext key.bytes (ChaCha20Nonce.mk counter nonce.sessionId).asBytes aad m) aad
      counter = .ok m :=
  decrypt_eq_ok.mpr (hA _ _ _ _)

end AeadCipher

/-! ## An ideal AEAD -/

/-- One message given to the cipher, with its key, nonce and AAD. -/
structure Sealing where
  key : Arr 32
  nonce : Bytes
  aad : Bytes
  msg : Bytes
deriving DecidableEq

namespace ChaCha20Poly1305

/-- With `log` the messages sealed so far, a ciphertext opens exactly when it is the sealing
    of one of them under the same key, nonce and AAD. -/
def Ideal (A : ChaCha20Poly1305) (log : List Sealing) : Prop :=
  ∀ key nonce aad c m, A.decrypt key nonce aad c = some m ↔
    ⟨key, nonce, aad, m⟩ ∈ log ∧ c = A.ciphertext key nonce aad m

end ChaCha20Poly1305

/-- A cipher whose `decrypt` looks the ciphertext up among the given messages. -/
def tableAead (log : List Sealing) : ChaCha20Poly1305 where
  maxPlaintext := 2 ^ 36
  ciphertext _ _ _ msg := msg ++ List.replicate POLY1305_TAG_SIZE 0
  plaintext? key nonce aad c :=
    (log.find? fun s => s.key = key ∧ s.nonce = nonce ∧ s.aad = aad ∧
      c = s.msg ++ List.replicate POLY1305_TAG_SIZE 0).map (·.msg)

theorem tableAead_ideal (log : List Sealing) : (tableAead log).Ideal log := by
  intro key nonce aad c m
  simp only [ChaCha20Poly1305.decrypt, tableAead, Option.map_eq_some_iff]
  constructor
  · rintro ⟨s, hs, rfl⟩
    have hmem := List.mem_of_find?_eq_some hs
    have hp := List.find?_some hs
    simp only [decide_eq_true_eq] at hp
    obtain ⟨rfl, rfl, rfl, hc⟩ := hp
    exact ⟨hmem, hc⟩
  · rintro ⟨hmem, rfl⟩
    have hsome : (log.find? fun s => s.key = key ∧ s.nonce = nonce ∧ s.aad = aad ∧
        m ++ List.replicate POLY1305_TAG_SIZE 0 =
          s.msg ++ List.replicate POLY1305_TAG_SIZE 0).isSome := by
      rw [List.find?_isSome]
      exact ⟨_, hmem, by simp⟩
    obtain ⟨s, hs⟩ := Option.isSome_iff_exists.mp hsome
    refine ⟨s, hs, ?_⟩
    have hp := List.find?_some hs
    simp only [decide_eq_true_eq] at hp
    exact (List.append_cancel_right hp.2.2.2).symm

theorem tableAead_tagged (log : List Sealing) : (tableAead log).Tagged where
  sealed key nonce aad m := by simp [tableAead]
  opened key nonce aad c m h := by
    rw [((tableAead_ideal log key nonce aad c m).mp h).2]
    simp [tableAead]

/-! ## Primitives that compute -/

/-- A tag that every byte counts in. -/
def sampleTag (key : Arr 32) (nonce aad msg : Bytes) : Bytes :=
  toLE POLY1305_TAG_SIZE
    ((key.toList ++ nonce ++ aad ++ msg).foldl (fun n b => n * 257 + b.toNat) 1)

/-- An AEAD that puts the tag behind the message, and checks it. -/
def sampleAead : ChaCha20Poly1305 where
  maxPlaintext := 2 ^ 36
  ciphertext key nonce aad msg := msg ++ sampleTag key nonce aad msg
  plaintext? key nonce aad c :=
    let msg := c.take (c.length - POLY1305_TAG_SIZE)
    if c = msg ++ sampleTag key nonce aad msg then some msg else none

theorem sampleAead_inverts : sampleAead.Inverts := by
  intro key nonce aad m
  have hlen : (sampleTag key nonce aad m).length = POLY1305_TAG_SIZE := toLE_length _ _
  have htake : (m ++ sampleTag key nonce aad m).take
      ((m ++ sampleTag key nonce aad m).length - POLY1305_TAG_SIZE) = m :=
    List.take_left' (by rw [List.length_append, hlen]; omega)
  simp only [ChaCha20Poly1305.decrypt, sampleAead, htake, if_true]

theorem sampleAead_tagged : sampleAead.Tagged where
  sealed key nonce aad m := by simp [sampleAead, sampleTag]
  opened key nonce aad c m h := by
    simp only [ChaCha20Poly1305.decrypt, sampleAead] at h
    split at h
    · next heq =>
        cases h
        have hlen := congrArg List.length heq
        rwa [List.length_append, sampleTag, toLE_length] at hlen
    · cases h

/-- 32 bytes from the front of a byte string. -/
def fit (bytes : Bytes) : Arr 32 := ⟨(bytes ++ List.replicate 32 0).take 32, by simp⟩

/-- Key agreement by addition, and digests that mix their inputs byte by byte. -/
def samplePrimitives : Primitives where
  publicKey secret := secret
  diffieHellman secret theirPublic :=
    fit (List.zipWith (· + ·) secret.toList theirPublic.toList)
  hkdf salt ikm _ := fit (List.zipWith (· + ·) salt ikm)
  hmac key data := fit (List.zipWith (· + ·) key data)

end Llp
