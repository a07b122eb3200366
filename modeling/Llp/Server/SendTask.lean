/-
  The send loop of `ClientHandler::run` in `llp-server/client_handler.rs`.

  For each packet taken from its channel the loop makes a new cipher, moves it forward by
  encrypting the empty message `send_counter` times, encrypts the packet and sends
  `nonce || ciphertext || tag` to the peer. A packet that does not encrypt is skipped; a
  datagram that cannot be sent ends the loop.

  * `skipTo_eq`: the cipher that encrypts the packet is at the send counter.
  * `sendPacket_eq`: so the datagram carries the counter of the nonce it was encrypted under.
-/
import Llp.Core.Crypto

namespace Llp.Server
open ByteCodec

/-- The send loop between two packets. -/
structure SendTask where
  sendCounter : UInt64
  running : Bool
deriving DecidableEq

namespace SendTask

variable (A : ChaCha20Poly1305)

/-- The loop at its start. -/
def new : SendTask := ⟨0, true⟩

/-- `for _ in 0..n { let _ = cipher.encrypt(&[], &[]); }` -/
def skipTo : ℕ → AeadCipher → AeadCipher
  | 0, cipher => cipher
  | n + 1, cipher => skipTo n (Method.state (AeadCipher.encrypt A [] [] cipher))

/-- The loop body for one packet, and `sendOk` the outcome of `send_to`. Gives the datagram
    handed to the socket. -/
def sendPacket (sessionKey : SessionKey) (sessionId : UInt64) (sendOk : Bool) (ipPacket : Bytes)
    (self : SendTask) : Option Bytes × SendTask :=
  let encryptCipher := skipTo A self.sendCounter.toNat (AeadCipher.new sessionKey sessionId)
  match AeadCipher.encrypt A ipPacket [] encryptCipher with
  | .error _ _ => (none, self)
  | .ok ciphertextWithTag _ =>
      let nonce := toLE 8 self.sendCounter.toNat ++
        toLE 4 (sessionId &&& 0xFFFFFFFF).toUInt32.toNat
      let udpPacket := nonce ++ ciphertextWithTag
      if sendOk then (some udpPacket, { self with sendCounter := self.sendCounter + 1 })
      else (some udpPacket, { self with running := false })

/-- One encryption of the empty message moves the counter by one. -/
theorem skip_one (key : SessionKey) (sid : UInt32) (counter : UInt64)
    (h : counter.toNat + 1 < 2 ^ 64) :
    Method.state (AeadCipher.encrypt A [] [] ⟨key, ⟨counter, sid⟩⟩) =
      ⟨key, ⟨counter + 1, sid⟩⟩ := by
  rw [AeadCipher.encrypt_accepted A [] key sid (Nat.zero_le _) h, Method.state_ok]

/-- Moving forward `n` times puts the counter at `n`. -/
theorem skipTo_eq (key : SessionKey) (sid : UInt32) (n : ℕ) (counter : UInt64)
    (h : counter.toNat + n < 2 ^ 64) :
    skipTo A n ⟨key, ⟨counter, sid⟩⟩ = ⟨key, ⟨UInt64.ofNat (counter.toNat + n), sid⟩⟩ := by
  induction n generalizing counter with
  | zero => simp [skipTo]
  | succ n ih =>
      have hlt : counter.toNat + 1 < 2 ^ 64 := by omega
      have hone := toNat_succ64 hlt
      have hsum : (counter + 1).toNat + n = counter.toNat + (n + 1) := by
        rw [hone]
        omega
      rw [skipTo, skip_one A key sid counter hlt, ih _ (by omega), hsum]

/-- The datagram of a packet under a counter. -/
def datagram (key : SessionKey) (sid counter : UInt64) (ipPacket : Bytes) : Bytes :=
  (ChaCha20Nonce.new sid counter).asBytes ++
    A.ciphertext key.bytes (ChaCha20Nonce.new sid counter).asBytes [] ipPacket

/-- One iteration: a packet that the cipher takes goes out under the send counter. -/
theorem sendPacket_eq (sessionKey : SessionKey) (sessionId : UInt64) (sendOk : Bool)
    (ipPacket : Bytes) (self : SendTask) :
    self.sendPacket A sessionKey sessionId sendOk ipPacket =
      if ipPacket.length ≤ A.maxPlaintext ∧ self.sendCounter.toNat + 1 < 2 ^ 64 then
        (some (datagram A sessionKey sessionId self.sendCounter ipPacket),
          if sendOk then { self with sendCounter := self.sendCounter + 1 }
          else { self with running := false })
      else (none, self) := by
  have hskip : skipTo A self.sendCounter.toNat (AeadCipher.new sessionKey sessionId) =
      ⟨sessionKey, ChaCha20Nonce.new sessionId self.sendCounter⟩ := by
    have hlt : (0 : UInt64).toNat + self.sendCounter.toNat < 2 ^ 64 := by
      have := self.sendCounter.toNat_lt
      rw [UInt64.toNat_zero]
      omega
    have h := skipTo_eq A sessionKey (sessionId &&& 0xFFFFFFFF).toUInt32
      self.sendCounter.toNat 0 hlt
    rw [UInt64.toNat_zero, Nat.zero_add, UInt64.ofNat_toNat] at h
    exact h
  unfold sendPacket
  simp only [hskip]
  by_cases h : ipPacket.length ≤ A.maxPlaintext ∧ self.sendCounter.toNat + 1 < 2 ^ 64
  · have henc := AeadCipher.encrypt_accepted A [] sessionKey
      (ChaCha20Nonce.new sessionId self.sendCounter).sessionId h.1 h.2
    rw [if_pos h, show ChaCha20Nonce.new sessionId self.sendCounter =
      ⟨self.sendCounter, (ChaCha20Nonce.new sessionId self.sendCounter).sessionId⟩ from rfl, henc]
    cases sendOk <;> rfl
  · obtain ⟨e, henc⟩ := AeadCipher.encrypt_rejected A [] sessionKey
      (ChaCha20Nonce.new sessionId self.sendCounter).sessionId h
    rw [if_neg h, show ChaCha20Nonce.new sessionId self.sendCounter =
      ⟨self.sendCounter, (ChaCha20Nonce.new sessionId self.sendCounter).sessionId⟩ from rfl, henc]

end SendTask

end Llp.Server
