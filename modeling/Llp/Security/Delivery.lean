/-
  Delivery between two sessions: one encrypts, the other decrypts.

  Both sessions are made with the same session id and key. The receiver is given some of the
  sender's payloads, in the order in which they were encrypted, each with its AAD and its
  sequence number.

  * `decrypt_fresh`: a payload above every number seen so far is opened.
  * `lossy_in_order_delivery`: so whichever payloads are lost, the others are opened.
-/
import Llp.Core.Session

namespace Llp.Security
open ByteCodec SlidingWindow Session

/-- A payload that arrives, with the receiver's clock readings. -/
structure Delivery where
  now : Instant
  now' : Instant
  packet : Sent
deriving DecidableEq

/-- The `decrypt_payload` call for it. -/
def Delivery.call (d : Delivery) : DecryptCall :=
  ⟨d.now, d.now', d.packet.ciphertext, d.packet.aad, d.packet.sequenceNumber⟩

section Delivery

variable {A : ChaCha20Poly1305}

/-- A receiver of the session: its cipher, and a window that has accepted numbers below
    `bound` only. -/
def Receives (key : SessionKey) (sid : UInt32) (bound : ℕ) (self : Session) : Prop :=
  self.rxCipher.key = key ∧ self.rxCipher.nonce.sessionId = sid ∧
    ∃ t, ReplayWindow.Represents REPLAY_WINDOW_SIZE self.rxReplayWindow t ∧
      ∀ q ∈ t.acc, q < bound

theorem receives_new (now : Instant) (sessionId : UInt64) (sessionKey : SessionKey)
    (mimicryProfile : MimicryProfile) (bound : ℕ) :
    Receives sessionKey (ChaCha20Nonce.new sessionId 0).sessionId bound
      (Session.new now sessionId sessionKey mimicryProfile) := by
  refine ⟨rfl, rfl, Restarting.init, ReplayWindow.represents_new REPLAY_WINDOW_SIZE, ?_⟩
  intro q hq
  simp [Restarting.init] at hq

/-- A payload of the session above every number seen so far is opened, and then the receiver
    has seen no number above it. -/
theorem decrypt_fresh (hA : A.Inverts) {key : SessionKey} {sid : UInt32} {self : Session}
    {d : Delivery} (h : Receives key sid d.packet.sequenceNumber.toNat self)
    (hd : d.packet.ciphertext = A.ciphertext key.bytes
      (ChaCha20Nonce.mk d.packet.sequenceNumber.toUInt64 sid).asBytes d.packet.aad
      d.packet.plaintext) :
    ((decryptCalls A).step self d.call).1 = .ok d.packet.plaintext ∧
      Receives key sid (d.packet.sequenceNumber.toNat + 1)
        ((decryptCalls A).step self d.call).2 := by
  obtain ⟨hkey, hsid, t, ht, hbound⟩ := h
  have hsim := ReplayWindow.checkAndUpdate_simulates (by decide) ht d.packet.sequenceNumber
  have hadmit := restarting_admits REPLAY_WINDOW_SIZE t _ hbound
  have hopen : self.rxCipher.decrypt A d.packet.ciphertext d.packet.aad
      d.packet.sequenceNumber.toUInt64 = .ok d.packet.plaintext := by
    rw [hd, ← hkey, ← hsid]
    exact AeadCipher.decrypt_ciphertext hA _ _ _ _ _
  have hstep : decryptPayload A d.now d.now' d.packet.ciphertext d.packet.aad
      d.packet.sequenceNumber self = .ok d.packet.plaintext
        { self with
          rxReplayWindow := (self.rxReplayWindow.checkAndUpdate d.packet.sequenceNumber).2
          lastActivity := d.now
          lastKeepalive := d.now' } := by
    rw [decryptPayload_apply, if_pos (hsim.1.trans hadmit), hopen]
  simp only [decryptCalls, Method.machine, Delivery.call, hstep, Method.result_ok,
    Method.state_ok, true_and]
  refine ⟨hkey, hsid, _, hsim.2, fun q hq => ?_⟩
  rw [restarting_acc, hadmit, if_pos rfl] at hq
  rcases Finset.mem_insert.mp hq with rfl | hq
  · exact Nat.lt_succ_self _
  · exact Nat.lt_succ_of_lt (hbound q hq)

/-- Payloads of the session with increasing sequence numbers are all opened. -/
theorem decrypt_increasing (hA : A.Inverts) {key : SessionKey} {sid : UInt32}
    (ds : List Delivery) (self : Session) (bound : ℕ) (h : Receives key sid bound self)
    (hsorted : (ds.map (·.packet)).Pairwise
      fun p q => p.sequenceNumber.toNat < q.sequenceNumber.toNat)
    (hds : ∀ d ∈ ds, bound ≤ d.packet.sequenceNumber.toNat ∧
      d.packet.ciphertext = A.ciphertext key.bytes
        (ChaCha20Nonce.mk d.packet.sequenceNumber.toUInt64 sid).asBytes d.packet.aad
        d.packet.plaintext) :
    (decryptCalls A).outputs self (ds.map Delivery.call) =
      ds.map fun d => .ok d.packet.plaintext := by
  induction ds generalizing self bound with
  | nil => rfl
  | cons d ds ih =>
      obtain ⟨hd, hsorted⟩ := List.pairwise_cons.mp hsorted
      obtain ⟨hbound, hcipher⟩ := hds d List.mem_cons_self
      obtain ⟨hkey, hsid, t, ht, hacc⟩ := h
      have hreceives : Receives key sid d.packet.sequenceNumber.toNat self :=
        ⟨hkey, hsid, t, ht, fun q hq => Nat.lt_of_lt_of_le (hacc q hq) hbound⟩
      obtain ⟨hout, hnext⟩ := decrypt_fresh hA hreceives hcipher
      simp only [List.map_cons, Machine.outputs]
      rw [hout, ih _ _ hnext hsorted fun e he => ?_]
      exact ⟨hd _ (List.mem_map_of_mem he), (hds e (List.mem_cons_of_mem _ he)).2⟩

/-- **Lossy in-order delivery.** A session encrypts a list of messages; with at most `2^32 - 1`
    of them, within the cipher's limit, all are encrypted. Whichever of the payloads reach a
    session of the same id and key, in order, every call returns the original message. -/
theorem lossy_in_order_delivery (hA : A.Inverts) (now now' : Instant) (sessionId : UInt64)
    (sessionKey : SessionKey) (profile profile' : MimicryProfile) (calls : List EncryptCall)
    (ds : List Delivery)
    (hds : (ds.map (·.packet)).Sublist
      (sent A (Session.new now sessionId sessionKey profile) calls)) :
    (decryptCalls A).outputs (Session.new now' sessionId sessionKey profile')
        (ds.map Delivery.call) = ds.map (fun d => .ok d.packet.plaintext) ∧
      (calls.length ≤ 2 ^ 32 - 1 → (∀ call ∈ calls, call.plaintext.length ≤ A.maxPlaintext) →
        (sent A (Session.new now sessionId sessionKey profile) calls).map
            (fun p => (p.plaintext, p.aad)) =
          calls.map fun call => (call.plaintext, call.aad)) := by
  have hstep := inStep_new now sessionId sessionKey profile
  obtain ⟨hsorted, hsent⟩ := sent_inStep A calls hstep
  constructor
  · refine decrypt_increasing hA ds _ 0 (receives_new now' sessionId sessionKey profile' 0)
      (hsorted.sublist hds) fun d hd => ⟨Nat.zero_le _, ?_⟩
    exact (hsent _ (hds.subset (List.mem_map_of_mem hd))).2
  · intro hcalls hlen
    refine sent_all calls hstep ?_ hlen
    show 0 + calls.length < 2 ^ 32
    omega

end Delivery

/-! ## Two messages, and the second arrives -/

section Sample

def deliveryKey : SessionKey := ⟨List.Vector.replicate 32 7⟩

def deliveryCalls : List EncryptCall := [⟨1, [0x45], [9]⟩, ⟨2, [0x60], [8]⟩]

def deliverySecond : Delivery :=
  ⟨5, 6, ⟨[0x60], [8], sampleAead.ciphertext deliveryKey.bytes
    (ChaCha20Nonce.mk 1 9).asBytes [8] [0x60], 1⟩⟩

theorem lossy_in_order_delivery_sample :
    (decryptCalls sampleAead).outputs (Session.new 0 9 deliveryKey .none)
        ([deliverySecond].map Delivery.call) = [.ok [0x60]] ∧
      (deliveryCalls.length ≤ 2 ^ 32 - 1 →
        (∀ call ∈ deliveryCalls, call.plaintext.length ≤ sampleAead.maxPlaintext) →
        (sent sampleAead (Session.new 0 9 deliveryKey .vkVideo) deliveryCalls).map
            (fun p => (p.plaintext, p.aad)) = [([0x45], [9]), ([0x60], [8])]) :=
  lossy_in_order_delivery sampleAead_inverts 0 0 9 deliveryKey .vkVideo .none deliveryCalls
    [deliverySecond] (by decide)

end Sample

end Llp.Security
