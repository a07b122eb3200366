/-
  `client-csharp/LLPClient/Crypto/PacketEncryption.cs`: the packets of the C# client.

  A packet is `length:4 || nonce:12 || ciphertext || tag:16`, with the length big-endian and
  the nonce as the host orders it. `decrypt` copies the parts out of the packet by the length
  it states.

  * `encrypt_eq`: what `Encrypt` builds.
  * `decrypt_eq`, `opened`: what `Decrypt` returns, for every array.
  * `decrypt_safe`: it throws on no array, and opens what `Encrypt` builds.
-/
import Llp.Core.Crypto
import Llp.CSharp.Runtime

namespace Llp.CSharp
open ByteCodec

/-- `PacketEncryption`. -/
structure PacketEncryption where
  sessionKey : SessionKey
  sessionId : UInt64
  sendCounter : UInt64
  receiveCounter : UInt64
deriving DecidableEq

namespace PacketEncryption

def CHACHA20_KEY_SIZE : ℕ := 32
def NONCE_SIZE : ℕ := 12
def TAG_SIZE : ℕ := 16

/-- The constructor. -/
def new (sessionKey : Bytes) (sessionId : UInt64) : Fallible Exception PacketEncryption :=
  if h : sessionKey.length = CHACHA20_KEY_SIZE then .ok ⟨⟨⟨sessionKey, h⟩⟩, sessionId, 0, 0⟩
  else .error (.err .argument)

section

variable (A : ChaCha20Poly1305) (isLittleEndian : Bool)

/-- `BuildNonce`. -/
def buildNonce (self : PacketEncryption) (counter : UInt64) : Bytes :=
  getBytes64 isLittleEndian counter ++
    getBytes32 isLittleEndian (self.sessionId &&& 0xFFFFFFFF).toUInt32

/-- The packet of `Encrypt`, with the parts copied into it. -/
def assemble (nonce ciphertext tag : Bytes) : Fallible Exception Bytes := do
  let packet ← newArray (toInt (4 + NONCE_SIZE + ciphertext.length + TAG_SIZE))
  let lengthBytes := reverseIfLittleEndian isLittleEndian (getBytes32 isLittleEndian
    (UInt32.ofNat (NONCE_SIZE + ciphertext.length + TAG_SIZE)))
  let packet ← arrayCopy lengthBytes 0 packet 0 4
  let packet ← arrayCopy nonce 0 packet 4 NONCE_SIZE
  let packet ← arrayCopy ciphertext 0 packet (4 + NONCE_SIZE) ciphertext.length
  arrayCopy tag 0 packet (toInt (4 + NONCE_SIZE + ciphertext.length)) TAG_SIZE

/-- `Encrypt`. The cipher fills the ciphertext and the tag. -/
def encrypt (plaintext : Bytes) : Method PacketEncryption Exception Bytes := do
  let self ← get
  let nonce := self.buildNonce isLittleEndian self.sendCounter
  set { self with sendCounter := self.sendCounter + 1 }
  let encrypted := A.ciphertext self.sessionKey.bytes nonce [] plaintext
  Method.lift (assemble isLittleEndian nonce (encrypted.take plaintext.length)
    (encrypted.drop plaintext.length))

/-- The nonce, ciphertext and tag that `Decrypt` copies out of a packet, if it does not return
    `null` before. `4 + length` is a sum of `uint`s. -/
def parts (packet : Bytes) : Fallible Exception (Option (Bytes × Bytes × Bytes)) :=
  if packet.length < 4 + NONCE_SIZE + TAG_SIZE then .ok none
  else do
    let lengthBytes ← arrayCopy packet 0 (List.replicate 4 0) 0 4
    let length := toUInt32 isLittleEndian (reverseIfLittleEndian isLittleEndian lengthBytes)
    if packet.length < (4 + length).toNat then .ok none
    else do
      let nonce ← arrayCopy packet 4 (List.replicate NONCE_SIZE 0) 0 NONCE_SIZE
      let ciphertextLen := toInt (toInt length.toNat - NONCE_SIZE - TAG_SIZE)
      if ciphertextLen < 0 then .ok none
      else do
        let ciphertext ← newArray ciphertextLen
        let ciphertext ← arrayCopy packet (4 + NONCE_SIZE) ciphertext 0 ciphertextLen
        let tag ← arrayCopy packet (toInt (4 + NONCE_SIZE + ciphertextLen))
          (List.replicate TAG_SIZE 0) 0 TAG_SIZE
        .ok (some (nonce, ciphertext, tag))

/-- `Decrypt`. A `CryptographicException` is caught. -/
def decrypt (packet : Bytes) : Method PacketEncryption Exception (Option Bytes) := do
  match ← Method.lift (parts isLittleEndian packet) with
  | none => pure none
  | some (nonce, ciphertext, tag) =>
      let self ← get
      match A.decrypt self.sessionKey.bytes nonce [] (ciphertext ++ tag) with
      | none => pure none
      | some plaintext =>
          set { self with receiveCounter := self.receiveCounter + 1 }
          pure (some plaintext)

end

section Spec

variable {A : ChaCha20Poly1305} (isLittleEndian : Bool)

theorem buildNonce_length (self : PacketEncryption) (counter : UInt64) :
    (self.buildNonce isLittleEndian counter).length = NONCE_SIZE := by
  simp [buildNonce, NONCE_SIZE]

/-- An assembled packet has room for its length word, nonce, ciphertext and tag. -/
theorem assemble_length {nonce ciphertext tag packet : Bytes}
    (h : assemble isLittleEndian nonce ciphertext tag = .ok packet) :
    packet.length = ciphertext.length + 32 := by
  unfold assemble at h
  obtain ⟨packet₀, h₀, h⟩ := Fallible.bind_eq_ok h
  obtain ⟨packet₁, h₁, h⟩ := Fallible.bind_eq_ok h
  obtain ⟨packet₂, h₂, h⟩ := Fallible.bind_eq_ok h
  obtain ⟨packet₃, h₃, h⟩ := Fallible.bind_eq_ok h
  have hlen₀ := newArray_eq_ok h₀
  have hlen₁ := arrayCopy_eq_ok h₁
  have hlen₂ := arrayCopy_eq_ok h₂
  have hlen₃ := arrayCopy_eq_ok h₃
  have hlen₄ := arrayCopy_eq_ok h
  simp only [NONCE_SIZE, TAG_SIZE, Nat.cast_ofNat] at *
  -- the ciphertext fits in, so the size has not wrapped
  have hsize := toInt_cases (n := 4 + 12 + ciphertext.length + 16) (by omega)
  have hlt := toInt_lt (4 + 12 + ciphertext.length + 16)
  omega

/-- What `Encrypt` makes of the parts of a packet, if its size is an `int`. -/
theorem assemble_eq {nonce ciphertext tag : Bytes} (hnonce : nonce.length = NONCE_SIZE)
    (htag : tag.length = TAG_SIZE) (hlen : ciphertext.length + 32 < 2 ^ 31) :
    assemble isLittleEndian nonce ciphertext tag =
      .ok (toBE 4 (ciphertext.length + 28) ++ nonce ++ ciphertext ++ tag) := by
  simp only [NONCE_SIZE, TAG_SIZE] at hnonce htag
  have hsize : toInt (4 + NONCE_SIZE + ciphertext.length + TAG_SIZE) =
      4 + NONCE_SIZE + ciphertext.length + TAG_SIZE := by
    apply toInt_eq <;> simp only [NONCE_SIZE, TAG_SIZE] <;> omega
  have hoffset : toInt (4 + NONCE_SIZE + ciphertext.length) =
      4 + NONCE_SIZE + ciphertext.length := by
    apply toInt_eq <;> simp only [NONCE_SIZE] <;> omega
  have hword : (UInt32.ofNat (NONCE_SIZE + ciphertext.length + TAG_SIZE)).toNat =
      ciphertext.length + 28 := by
    rw [UInt32.toNat_ofNat', NONCE_SIZE, TAG_SIZE]
    omega
  have htotal : ((4 : ℤ) + NONCE_SIZE + ciphertext.length + TAG_SIZE) =
      (ciphertext.length + 32 : ℕ) := by
    rw [NONCE_SIZE, TAG_SIZE]
    omega
  -- each part goes to the first place that is still empty
  obtain ⟨word, hword'⟩ : ∃ word, word = toBE 4 (ciphertext.length + 28) := ⟨_, rfl⟩
  have hwordLen : word.length = 4 := by rw [hword', toBE_length]
  have h₁ : arrayCopy word 0 (List.replicate (ciphertext.length + 32) 0) 0 4 =
      .ok (word ++ List.replicate (ciphertext.length + 28) 0) :=
    arrayCopy_first _ (by rw [hwordLen]; rfl) (by omega)
  have h₂ : arrayCopy nonce 0 (word ++ List.replicate (ciphertext.length + 28) 0) 4 NONCE_SIZE =
      .ok (word ++ nonce ++ List.replicate (ciphertext.length + 16) 0) :=
    arrayCopy_next _ (by rw [hwordLen]; rfl) (by rw [hnonce]; rfl) (by omega)
  have h₃ : arrayCopy ciphertext 0 (word ++ nonce ++ List.replicate (ciphertext.length + 16) 0)
      (4 + NONCE_SIZE) ciphertext.length =
        .ok (word ++ nonce ++ ciphertext ++ List.replicate 16 0) :=
    arrayCopy_next _ (by rw [List.length_append, hwordLen, hnonce]; rfl) rfl rfl
  have h₄ : arrayCopy tag 0 (word ++ nonce ++ ciphertext ++ List.replicate 16 0)
      (4 + NONCE_SIZE + ciphertext.length) TAG_SIZE =
        .ok (word ++ nonce ++ ciphertext ++ tag ++ List.replicate 0 0) := by
    refine arrayCopy_next _ ?_ (by rw [htag]; rfl) (by rw [htag])
    simp only [List.length_append, hwordLen, hnonce, NONCE_SIZE, Nat.cast_add, Nat.cast_ofNat]
  unfold assemble
  rw [hsize, hoffset, htotal, newArray_natCast, Fallible.bind_ok rfl, reverse_getBytes32, hword,
    ← hword']
  simp only
  rw [Fallible.bind_ok h₁, Fallible.bind_ok h₂, Fallible.bind_ok h₃, h₄, List.replicate_zero,
    List.append_nil]

theorem encrypt_length (hA : A.Tagged) {plaintext packet : Bytes} {self self' : PacketEncryption}
    (h : encrypt A isLittleEndian plaintext self = .ok packet self') :
    packet.length = plaintext.length + 32 := by
  unfold encrypt at h
  simp only [Method.get_bind, Method.set_bind] at h
  have hpacket := assemble_length isLittleEndian (Method.lift_eq_ok h).1
  rwa [List.length_take, hA.sealed, Nat.min_eq_left (Nat.le_add_right _ _)] at hpacket

/-- What `Encrypt` returns for a plaintext that fits into an array with its 32 bytes. -/
theorem encrypt_eq (hA : A.Tagged) {plaintext : Bytes} (hlen : plaintext.length + 32 < 2 ^ 31)
    (self : PacketEncryption) :
    encrypt A isLittleEndian plaintext self =
      .ok (toBE 4 (plaintext.length + 28) ++ self.buildNonce isLittleEndian self.sendCounter ++
          A.ciphertext self.sessionKey.bytes (self.buildNonce isLittleEndian self.sendCounter) []
            plaintext)
        { self with sendCounter := self.sendCounter + 1 } := by
  obtain ⟨nonce, hnonce⟩ : ∃ nonce, nonce = self.buildNonce isLittleEndian self.sendCounter :=
    ⟨_, rfl⟩
  obtain ⟨encrypted, hencrypted⟩ : ∃ encrypted, encrypted =
    A.ciphertext self.sessionKey.bytes nonce [] plaintext := ⟨_, rfl⟩
  have htotal : encrypted.length = plaintext.length + TAG_SIZE := by
    rw [hencrypted, hA.sealed, POLY1305_TAG_SIZE, TAG_SIZE]
  have htake : (encrypted.take plaintext.length).length = plaintext.length := by
    rw [List.length_take, htotal, Nat.min_eq_left (Nat.le_add_right _ _)]
  have hdrop : (encrypted.drop plaintext.length).length = TAG_SIZE := by
    rw [List.length_drop, htotal, Nat.add_sub_cancel_left]
  have hpacket := assemble_eq isLittleEndian (hnonce ▸ buildNonce_length isLittleEndian self _)
    hdrop (htake.symm ▸ hlen)
  rw [htake, List.append_assoc, List.take_append_drop] at hpacket
  unfold encrypt
  simp only [Method.get_bind, Method.set_bind]
  rw [← hnonce, ← hencrypted, hpacket, Method.lift_ok]

/-- The length that a packet states. -/
def statedLength (packet : Bytes) : ℕ := ofBE (packet.take 4)

theorem statedLength_lt (packet : Bytes) : statedLength packet < 2 ^ 32 := by
  have hlt := ofBE_lt (packet.take 4)
  have hpow : 256 ^ (packet.take 4).length ≤ 256 ^ 4 := Nat.pow_le_pow_right (by omega) (by simp)
  unfold statedLength
  omega

/-- The length of the ciphertext comes out negative where the stated length is too small for the
    nonce and the tag, or wraps with the four bytes of the word itself. -/
theorem ciphertextLen_neg {length : ℕ} (hword : length < 2 ^ 32)
    (h : length < NONCE_SIZE + TAG_SIZE ∨ 2 ^ 32 ≤ 4 + length) :
    toInt (toInt length - NONCE_SIZE - TAG_SIZE) < 0 := by
  rw [NONCE_SIZE, TAG_SIZE] at *
  rcases h with hsmall | hwrap
  · rw [toInt_eq (n := length) (by omega) (by omega), toInt_eq (by omega) (by omega)]
    omega
  · rw [toInt_wrap (n := length) (by omega) (by omega), toInt_eq (by omega) (by omega)]
    omega

theorem ciphertextLen_eq {n : ℕ} (hint : NONCE_SIZE + TAG_SIZE + n < 2 ^ 31) :
    toInt (toInt (NONCE_SIZE + TAG_SIZE + n : ℕ) - NONCE_SIZE - TAG_SIZE) = n := by
  rw [toInt_eq (n := (NONCE_SIZE + TAG_SIZE + n : ℕ)) (by omega) (by omega),
    toInt_eq (by omega) (by omega)]
  omega

/-- **What `Decrypt` copies out.** For a packet of a length that is an `int`: nothing if it is too
    short, for itself or for the length it states; else the slices behind the length word. -/
theorem parts_eq {packet : Bytes} (hint : packet.length < 2 ^ 31) :
    parts isLittleEndian packet = .ok
      (if packet.length < 4 + NONCE_SIZE + TAG_SIZE ∨ packet.length < 4 + statedLength packet ∨
          statedLength packet < NONCE_SIZE + TAG_SIZE then none
        else
          let ciphertextLen := statedLength packet - (NONCE_SIZE + TAG_SIZE)
          some ((packet.drop 4).take NONCE_SIZE, (packet.drop (4 + NONCE_SIZE)).take ciphertextLen,
            (packet.drop (4 + NONCE_SIZE + ciphertextLen)).take TAG_SIZE)) := by
  have hnonceSize : NONCE_SIZE = 12 := rfl
  have htagSize : TAG_SIZE = 16 := rfl
  have hword := statedLength_lt packet
  unfold parts
  by_cases hshort : packet.length < 4 + NONCE_SIZE + TAG_SIZE
  · rw [if_pos hshort, if_pos (Or.inl hshort)]
  have hlengthBytes : arrayCopy packet 0 (List.replicate 4 0) 0 4 = .ok (packet.take 4) :=
    arrayCopy_slice (j := 0) (k := 4) rfl rfl (by omega) rfl
  have hstated : (UInt32.ofNat (ofBE (packet.take 4))).toNat = statedLength packet := by
    rw [← statedLength, UInt32.toNat_ofNat', Nat.mod_eq_of_lt hword]
  rw [if_neg hshort, Fallible.bind_ok hlengthBytes]
  simp only [toUInt32_reverse, UInt32.toNat_add, hstated]
  -- the sum of the `uint`s wraps only for lengths that are negative as an `int`
  by_cases hlong : packet.length < (UInt32.toNat 4 + statedLength packet) % 2 ^ 32
  · have hlong' : packet.length < 4 + statedLength packet :=
      Nat.lt_of_lt_of_le hlong (Nat.mod_le _ _)
    rw [if_pos hlong, if_pos (Or.inr (Or.inl hlong'))]
  have hnonce : arrayCopy packet 4 (List.replicate NONCE_SIZE 0) 0 NONCE_SIZE =
      .ok ((packet.drop 4).take NONCE_SIZE) := arrayCopy_slice rfl rfl (by omega) (by simp)
  rw [if_neg hlong, Fallible.bind_ok hnonce]
  by_cases hsmall : statedLength packet < NONCE_SIZE + TAG_SIZE
  · rw [if_pos (ciphertextLen_neg hword (.inl hsmall)), if_pos (Or.inr (Or.inr hsmall))]
  by_cases hwrap : 2 ^ 32 ≤ 4 + statedLength packet
  · rw [if_pos (ciphertextLen_neg hword (.inr hwrap)), if_pos (by omega)]
  have hfits : 4 + statedLength packet ≤ packet.length := by
    have h4 : UInt32.toNat 4 = 4 := rfl
    omega
  obtain ⟨n, hn⟩ : ∃ n, statedLength packet = NONCE_SIZE + TAG_SIZE + n :=
    Nat.exists_eq_add_of_le (Nat.not_lt.mp hsmall)
  have hlen : toInt (toInt (statedLength packet) - NONCE_SIZE - TAG_SIZE) = n := by
    rw [hn, ciphertextLen_eq (by omega)]
  have hoffset : toInt (4 + NONCE_SIZE + (n : ℤ)) = 4 + NONCE_SIZE + (n : ℤ) :=
    toInt_eq (by omega) (by omega)
  have hnew : newArray n = .ok (List.replicate n 0) := rfl
  have hciphertext : arrayCopy packet (4 + NONCE_SIZE) (List.replicate n 0) 0 n =
      .ok ((packet.drop (4 + NONCE_SIZE)).take n) :=
    arrayCopy_slice (by push_cast; rfl) rfl (by omega) (by simp)
  have htag : arrayCopy packet (4 + NONCE_SIZE + (n : ℤ)) (List.replicate TAG_SIZE 0) 0 TAG_SIZE =
      .ok ((packet.drop (4 + NONCE_SIZE + n)).take TAG_SIZE) :=
    arrayCopy_slice (by push_cast; rfl) rfl (by omega) (by simp)
  rw [hlen, if_neg (by omega), Fallible.bind_ok hnew, Fallible.bind_ok hciphertext, hoffset,
    Fallible.bind_ok htag, if_neg (by omega), hn, Nat.add_sub_cancel_left]

/-- The parts that `Decrypt` copies out lie inside the packet, behind the length word. -/
theorem parts_length {packet nonce ciphertext tag : Bytes}
    (h : parts isLittleEndian packet = .ok (some (nonce, ciphertext, tag))) :
    ciphertext.length + 32 ≤ packet.length ∧ tag.length = TAG_SIZE := by
  unfold parts at h
  split at h
  · cases h
  obtain ⟨lengthBytes, -, h⟩ := Fallible.bind_eq_ok h
  simp only at h
  split at h
  · cases h
  obtain ⟨nonce', -, h⟩ := Fallible.bind_eq_ok h
  split at h
  · cases h
  obtain ⟨buffer, hbuffer, h⟩ := Fallible.bind_eq_ok h
  obtain ⟨ciphertext', hciphertext, h⟩ := Fallible.bind_eq_ok h
  obtain ⟨tag', htag, h⟩ := Fallible.bind_eq_ok h
  cases h
  obtain ⟨-, hlen⟩ := newArray_eq_ok hbuffer
  have hlt : (buffer.length : ℤ) < 2 ^ 31 := by
    rw [hlen]
    exact toInt_lt _
  rw [← hlen] at hciphertext htag
  have hcopied := arrayCopy_eq_ok hciphertext
  have hcopied' := arrayCopy_eq_ok htag
  simp only [NONCE_SIZE, TAG_SIZE, List.length_replicate, Nat.cast_ofNat] at *
  -- the tag lies behind the ciphertext, so its offset has not wrapped
  have hoffset := toInt_cases (n := 4 + 12 + buffer.length) (by omega)
  omega

/-- A plaintext that `Decrypt` returns is at least 32 bytes shorter than the packet. -/
theorem decrypt_length (hA : A.Tagged) {packet plaintext : Bytes} {self self' : PacketEncryption}
    (h : decrypt A isLittleEndian packet self = .ok (some plaintext) self') :
    plaintext.length + 32 ≤ packet.length := by
  unfold decrypt at h
  obtain ⟨parts, s, hparts, h⟩ := Method.bind_eq_ok h
  cases parts with
  | none => cases h
  | some parts =>
      obtain ⟨nonce, ciphertext, tag⟩ := parts
      obtain ⟨hlen, htag⟩ := parts_length isLittleEndian (Method.lift_eq_ok hparts).1
      simp only [Method.get_bind] at h
      cases hm : A.decrypt s.sessionKey.bytes nonce [] (ciphertext ++ tag) with
      | none =>
          rw [hm] at h
          cases h
      | some m =>
          rw [hm] at h
          cases h
          have hopened := hA.opened _ _ _ _ _ hm
          rw [List.length_append, htag, TAG_SIZE, POLY1305_TAG_SIZE] at hopened
          omega

variable (A) in
/-- The plaintext that `Decrypt` finds in a packet of a length that is an `int`. -/
def opened (key : SessionKey) (packet : Bytes) : Option Bytes :=
  if packet.length < 4 + NONCE_SIZE + TAG_SIZE ∨ packet.length < 4 + statedLength packet ∨
      statedLength packet < NONCE_SIZE + TAG_SIZE then none
  else
    let ciphertextLen := statedLength packet - (NONCE_SIZE + TAG_SIZE)
    A.decrypt key.bytes ((packet.drop 4).take NONCE_SIZE) []
      ((packet.drop (4 + NONCE_SIZE)).take ciphertextLen ++
        (packet.drop (4 + NONCE_SIZE + ciphertextLen)).take TAG_SIZE)

/-- `Decrypt` returns what it finds, and touches its counter only. -/
theorem decrypt_eq {packet : Bytes} (hint : packet.length < 2 ^ 31) (self : PacketEncryption) :
    ∃ receiveCounter, decrypt A isLittleEndian packet self =
      .ok (opened A self.sessionKey packet) { self with receiveCounter := receiveCounter } := by
  unfold decrypt opened
  rw [parts_eq isLittleEndian hint, Method.bind_ok (Method.lift_ok _ _)]
  split
  · exact ⟨self.receiveCounter, rfl⟩
  · simp only [Method.get_bind]
    generalize A.decrypt self.sessionKey.bytes _ [] _ = plaintext?
    cases plaintext? with
    | none => exact ⟨self.receiveCounter, rfl⟩
    | some plaintext => exact ⟨self.receiveCounter + 1, rfl⟩

variable (A) in
/-- A packet in the client's format, whichever nonce it was sealed under. -/
def sealed (key : SessionKey) (nonce : Arr 12) (plaintext : Bytes) : Bytes :=
  toBE 4 (plaintext.length + 28) ++ nonce.toList ++ A.ciphertext key.bytes nonce.toList [] plaintext

theorem sealed_length (hT : A.Tagged) (key : SessionKey) (nonce : Arr 12) (plaintext : Bytes) :
    (sealed A key nonce plaintext).length = plaintext.length + 32 := by
  simp only [sealed, List.length_append, toBE_length, List.Vector.toList_length, hT.sealed,
    POLY1305_TAG_SIZE]
  omega

/-- With anything behind it, it opens as its ciphertext does. -/
theorem opened_sealed_append (hT : A.Tagged) (key : SessionKey) (nonce : Arr 12)
    {plaintext : Bytes} (hlen : plaintext.length + 32 < 2 ^ 31) (extra : Bytes) :
    opened A key (sealed A key nonce plaintext ++ extra) =
      A.decrypt key.bytes nonce.toList [] (A.ciphertext key.bytes nonce.toList [] plaintext) := by
  have htotal := sealed_length hT key nonce plaintext
  have hnonceLen : nonce.toList.length = NONCE_SIZE := nonce.toList_length
  obtain ⟨c, hc⟩ : ∃ c, c = A.ciphertext key.bytes nonce.toList [] plaintext := ⟨_, rfl⟩
  have hclen : c.length = plaintext.length + 16 := by
    rw [hc, hT.sealed, POLY1305_TAG_SIZE]
  obtain ⟨packet, hpacket⟩ : ∃ packet, packet = sealed A key nonce plaintext ++ extra := ⟨_, rfl⟩
  have hlong : plaintext.length + 32 ≤ packet.length := by
    rw [hpacket, List.length_append, htotal]
    omega
  have hbytes : packet = toBE 4 (plaintext.length + 28) ++ (nonce.toList ++ (c ++ extra)) := by
    rw [hpacket, sealed, hc, List.append_assoc, List.append_assoc]
  have hstated : statedLength packet = plaintext.length + 28 := by
    unfold statedLength
    rw [hbytes, List.take_left' (toBE_length _ _), ofBE_toBE 4 _ (by omega)]
  have hnonce : (packet.drop 4).take NONCE_SIZE = nonce.toList := by
    rw [hbytes, List.drop_left' (toBE_length _ _), List.take_left' hnonceLen]
  have hbody : packet.drop (4 + NONCE_SIZE) = c ++ extra := by
    rw [← List.drop_drop, hbytes, List.drop_left' (toBE_length _ _),
      List.drop_left' hnonceLen]
  have htag : (packet.drop (4 + NONCE_SIZE + plaintext.length)).take TAG_SIZE =
      c.drop plaintext.length := by
    rw [← List.drop_drop, hbody, List.drop_append_of_le_length (by omega)]
    exact List.take_left' (by rw [List.length_drop, hclen, TAG_SIZE]; omega)
  unfold opened
  rw [← hpacket, hstated, if_neg (by simp only [NONCE_SIZE, TAG_SIZE]; omega)]
  simp only [NONCE_SIZE, TAG_SIZE, Nat.add_sub_cancel] at *
  rw [hnonce, hbody, htag, List.take_append_of_le_length (by omega), List.take_append_drop, hc]

/-- It opens to its plaintext. -/
theorem opened_sealed (hA : A.Inverts) (hT : A.Tagged) (key : SessionKey) (nonce : Arr 12)
    {plaintext : Bytes} (hlen : plaintext.length + 32 < 2 ^ 31) :
    opened A key (sealed A key nonce plaintext) = some plaintext := by
  have hopened := opened_sealed_append hT key nonce hlen []
  rwa [List.append_nil, hA] at hopened

/-- A packet of `Encrypt` is sealed under the nonce of its counter. -/
theorem encrypt_sealed (hT : A.Tagged) {plaintext : Bytes} (hlen : plaintext.length + 32 < 2 ^ 31)
    (self : PacketEncryption) :
    encrypt A isLittleEndian plaintext self =
      .ok (sealed A self.sessionKey ⟨self.buildNonce isLittleEndian self.sendCounter,
        buildNonce_length isLittleEndian self _⟩ plaintext)
        { self with sendCounter := self.sendCounter + 1 } :=
  encrypt_eq isLittleEndian hT hlen self

end Spec

/-! ## Any array -/

/-- **`Decrypt` is safe.** On every array, which has a length that is an `int`, it returns `null`
    or a plaintext: no copy leaves its arrays, no length is negative. What `Encrypt` makes of a
    plaintext under the same key, on any host and with any bytes behind it, it opens. -/
theorem decrypt_safe (A : ChaCha20Poly1305) (isLittleEndian isLittleEndian' : Bool) :
    (∀ (packet : Bytes) (self : PacketEncryption), packet.length < 2 ^ 31 →
      ∃ plaintext self', decrypt A isLittleEndian packet self = .ok plaintext self') ∧
    (A.Inverts → A.Tagged → ∀ (plaintext extra : Bytes) (sender receiver : PacketEncryption),
      sender.sessionKey = receiver.sessionKey → plaintext.length + 32 + extra.length < 2 ^ 31 →
      ∃ packet sender' receiver', encrypt A isLittleEndian' plaintext sender = .ok packet sender' ∧
        decrypt A isLittleEndian (packet ++ extra) receiver = .ok (some plaintext) receiver') := by
  refine ⟨fun packet self hint => ?_, fun hA hT plaintext extra sender receiver hkey hlen => ?_⟩
  · obtain ⟨_, hdecrypt⟩ := decrypt_eq isLittleEndian hint self
    exact ⟨_, _, hdecrypt⟩
  · have hplain : plaintext.length + 32 < 2 ^ 31 := by omega
    have hencrypt := encrypt_sealed isLittleEndian' hT hplain sender
    obtain ⟨nonce, hnonce⟩ : ∃ nonce : Arr 12, nonce =
        ⟨sender.buildNonce isLittleEndian' sender.sendCounter,
          buildNonce_length isLittleEndian' sender _⟩ := ⟨_, rfl⟩
    rw [← hnonce] at hencrypt
    have hint : (sealed A sender.sessionKey nonce plaintext ++ extra).length < 2 ^ 31 := by
      rw [List.length_append, sealed_length hT]
      exact hlen
    obtain ⟨receiveCounter, hdecrypt⟩ := decrypt_eq isLittleEndian hint receiver
    rw [← hkey, opened_sealed_append hT _ nonce hplain, hA] at hdecrypt
    exact ⟨_, _, _, hencrypt, hdecrypt⟩

/-- A packet that states a length of `2^31`, and one with three bytes behind it. -/
theorem decrypt_safe_sample :
    (∃ plaintext self', decrypt sampleAead true (0x80 :: List.replicate 40 0)
        ⟨⟨.replicate 32 1⟩, 2, 0, 0⟩ = .ok plaintext self') ∧
      ∃ packet sender' receiver',
        encrypt sampleAead true [0x45, 0x00] ⟨⟨.replicate 32 1⟩, 2, 0, 0⟩ = .ok packet sender' ∧
        decrypt sampleAead true (packet ++ [7, 8, 9]) ⟨⟨.replicate 32 1⟩, 2, 3, 4⟩ =
          .ok (some [0x45, 0x00]) receiver' :=
  ⟨(decrypt_safe sampleAead true true).1 _ _ (by decide),
    (decrypt_safe sampleAead true true).2 sampleAead_inverts sampleAead_tagged _ _ _ _ rfl
      (by decide)⟩

end PacketEncryption

end Llp.CSharp
