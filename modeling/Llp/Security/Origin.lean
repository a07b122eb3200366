/-
  Two endpoints of a session against an attacker on the network.

  Both hold a `Session` of one session id and key. Each records what its `encrypt_payload`
  released: the message with its key, nonce and AAD, the ciphertext and the sequence number.
  The attacker chooses the ciphertext, AAD and sequence number of every `decrypt_payload`;
  `Authentic` says of a call that what opens was released under the same key, nonce and AAD.

  * `plaintext_origin`: in every run, all that `decrypt_payload` returns was released by one of
    the endpoints; and by the peer exactly when no endpoint is given what itself released and
    its peer did not, under a sequence number that its window still admits.
-/
import Llp.Core.Session

namespace Llp.Security
open ByteCodec Session

/-- The two endpoints. -/
inductive Side where
  | a
  | b
deriving DecidableEq

/-- The other endpoint. -/
def Side.peer : Side → Side
  | a => b
  | b => a

/-- What an `encrypt_payload` that returned gave to the AEAD, and what it returned. -/
structure Released where
  sealing : Sealing
  ciphertext : Bytes
  sequenceNumber : UInt32
deriving DecidableEq

/-- An endpoint, and what it has released. -/
structure Endpoint where
  session : Session
  released : List Released

/-- A call at one of the endpoints. -/
inductive EndpointCall where
  | encrypt (side : Side) (call : EncryptCall)
  | decrypt (side : Side) (call : DecryptCall)

namespace Endpoint

variable (A : ChaCha20Poly1305)

/-- An `encrypt_payload` call. -/
def encrypt (call : EncryptCall) (self : Endpoint) : Endpoint :=
  match encryptPayload A call.now call.plaintext call.aad self.session with
  | .ok (ciphertext, sequence) session =>
      ⟨session, ⟨⟨self.session.txCipher.key.bytes, self.session.txCipher.nonce.asBytes, call.aad,
        call.plaintext⟩, ciphertext, sequence⟩ :: self.released⟩
  | .error _ session => ⟨session, self.released⟩

/-- A `decrypt_payload` call. -/
def decrypt (call : DecryptCall) (self : Endpoint) : Fallible LlpError Bytes × Endpoint :=
  let opened := (decryptCalls A).step self.session call
  (opened.1, ⟨opened.2, self.released⟩)

end Endpoint

section Origin

variable (A : ChaCha20Poly1305)

/-- The two endpoints as a machine; an output is what a `decrypt_payload` returned. -/
def endpoints : Machine (Side → Endpoint) EndpointCall (Option (Fallible LlpError Bytes)) where
  step s
    | .encrypt side call => (none, Function.update s side ((s side).encrypt A call))
    | .decrypt side call =>
        (some ((s side).decrypt A call).1, Function.update s side ((s side).decrypt A call).2)

/-- What the AEAD makes of a call. -/
def opened (self : Session) (call : DecryptCall) : Fallible LlpError Bytes :=
  self.rxCipher.decrypt A call.ciphertext call.aad call.sequenceNumber.toUInt64

/-- The call is given what was released. -/
def Released.Matches (r : Released) (call : DecryptCall) : Prop :=
  r.ciphertext = call.ciphertext ∧ r.sealing.aad = call.aad ∧
    r.sequenceNumber = call.sequenceNumber

instance (r : Released) (call : DecryptCall) : Decidable (r.Matches call) :=
  inferInstanceAs (Decidable (_ ∧ _))

/-- What opens was released by one of the endpoints, under the same key, nonce and AAD. -/
def Authentic (s : Side → Endpoint) : EndpointCall → Prop
  | .encrypt _ _ => True
  | .decrypt side call => ∀ m ∈ (opened A (s side).session call).toOption,
      ∃ r ∈ (s .a).released ++ (s .b).released,
        r.sealing = ⟨(s side).session.rxCipher.key.bytes,
          (ChaCha20Nonce.mk call.sequenceNumber.toUInt64
            (s side).session.rxCipher.nonce.sessionId).asBytes, call.aad, m⟩ ∧
        r.ciphertext = call.ciphertext

/-- What the call returns was released by one of the endpoints, as it arrived. -/
def Sourced (s : Side → Endpoint) : EndpointCall → Prop
  | .encrypt _ _ => True
  | .decrypt side call => ∀ m ∈ ((s side).decrypt A call).1.toOption,
      ∃ r ∈ (s .a).released ++ (s .b).released, r.Matches call ∧ r.sealing.msg = m

/-- What the call returns was released by the peer, as it arrived. -/
def Origin (s : Side → Endpoint) : EndpointCall → Prop
  | .encrypt _ _ => True
  | .decrypt side call => ∀ m ∈ ((s side).decrypt A call).1.toOption,
      ∃ r ∈ (s side.peer).released, r.Matches call ∧ r.sealing.msg = m

/-- The call is not given what its own endpoint released and the peer did not, under a number
    that the window admits. -/
def NoReflection (s : Side → Endpoint) : EndpointCall → Prop
  | .encrypt _ _ => True
  | .decrypt side call =>
      ((s side).session.rxReplayWindow.checkAndUpdate call.sequenceNumber).1 = true →
        (∃ r ∈ (s side).released, r.Matches call) → ∃ r ∈ (s side.peer).released, r.Matches call

end Origin

/-! ## What an endpoint has released -/

/-- The endpoint sends and receives under the key and session id, and so did all it has
    released. -/
structure EndpointInv (A : ChaCha20Poly1305) (key : SessionKey) (sid : UInt32)
    (e : Endpoint) : Prop where
  sender : SenderInv key sid e.session
  receiver : e.session.rxCipher.key = key ∧ e.session.rxCipher.nonce.sessionId = sid
  released : ∀ r ∈ e.released, r.sealing.key = key.bytes ∧
    r.sealing.nonce = (ChaCha20Nonce.mk r.sequenceNumber.toUInt64 sid).asBytes ∧
    r.ciphertext = A.ciphertext key.bytes
      (ChaCha20Nonce.mk r.sequenceNumber.toUInt64 sid).asBytes r.sealing.aad r.sealing.msg

section Invariant

variable {A : ChaCha20Poly1305} {key : SessionKey} {sid : UInt32}

theorem EndpointInv.encrypt {self : Endpoint} (h : EndpointInv A key sid self)
    (call : EncryptCall) : EndpointInv A key sid (self.encrypt A call) := by
  unfold Endpoint.encrypt
  rcases encryptPayload_cases A h.sender call.now call.plaintext call.aad with
    ⟨hin, hsender, hok⟩ | ⟨e, session, herr, hsender, hrx⟩
  · rw [hok]
    refine ⟨hsender, h.receiver, fun r hr => ?_⟩
    rcases List.mem_cons.mp hr with rfl | hr
    · rw [hin]
      exact ⟨rfl, rfl, rfl⟩
    · exact h.released r hr
  · rw [herr]
    exact ⟨hsender, hrx ▸ h.receiver, h.released⟩

theorem EndpointInv.decrypt {self : Endpoint} (h : EndpointInv A key sid self)
    (call : DecryptCall) : EndpointInv A key sid (self.decrypt A call).2 := by
  obtain ⟨window, activity, keepalive, hframe⟩ := decryptCalls_frame A self.session call
  unfold Endpoint.decrypt
  simp only [hframe]
  exact ⟨h.sender, h.receiver, h.released⟩

/-- What was released opens again, to the message it was made of. -/
theorem EndpointInv.opened (hA : A.Inverts) {self other : Endpoint} {r : Released}
    {call : DecryptCall} (h : EndpointInv A key sid self) (ho : EndpointInv A key sid other)
    (hr : r ∈ other.released) (hm : r.Matches call) :
    opened A self.session call = .ok r.sealing.msg := by
  obtain ⟨hc, haad, hseq⟩ := hm
  obtain ⟨hkey, hsid⟩ := h.receiver
  obtain ⟨-, -, hcipher⟩ := ho.released r hr
  unfold Security.opened
  rw [← hc, ← haad, ← hseq, hcipher, ← hkey, ← hsid]
  exact AeadCipher.decrypt_ciphertext hA _ _ _ _ _

/-- What was released under the nonce of a call has its sequence number. -/
theorem EndpointInv.sequenceNumber {self : Endpoint} {r : Released} {seq sid' : UInt32}
    (h : EndpointInv A key sid self) (hr : r ∈ self.released)
    (hnonce : r.sealing.nonce = (ChaCha20Nonce.mk seq.toUInt64 sid').asBytes) :
    r.sequenceNumber = seq := by
  rw [(h.released r hr).2.1] at hnonce
  have hcounter := (ChaCha20Nonce.mk.inj (ChaCha20Nonce.asBytes_inj hnonce)).1
  have hnat := congrArg UInt64.toNat hcounter
  rw [UInt32.toNat_toUInt64, UInt32.toNat_toUInt64] at hnat
  exact UInt32.toNat_inj.mp hnat

end Invariant

/-! ## Where a plaintext comes from -/

section Runs

variable {A : ChaCha20Poly1305} {key : SessionKey} {sid : UInt32}

theorem endpoints_step (s : Side → Endpoint) (call : EndpointCall)
    (h : ∀ side, EndpointInv A key sid (s side)) (side : Side) :
    EndpointInv A key sid (((endpoints A).step s call).2 side) := by
  cases call with
  | encrypt at' call =>
      show EndpointInv A key sid (Function.update s at' ((s at').encrypt A call) side)
      rcases eq_or_ne side at' with rfl | hne
      · rw [Function.update_self]
        exact (h side).encrypt call
      · rw [Function.update_of_ne hne]
        exact h side
  | decrypt at' call =>
      show EndpointInv A key sid (Function.update s at' ((s at').decrypt A call).2 side)
      rcases eq_or_ne side at' with rfl | hne
      · rw [Function.update_self]
        exact (h side).decrypt call
      · rw [Function.update_of_ne hne]
        exact h side

/-- A call returns what the AEAD makes of its ciphertext, if the window admits its number. -/
theorem decrypt_result (e : Endpoint) (call : DecryptCall) :
    (e.decrypt A call).1 =
      if (e.session.rxReplayWindow.checkAndUpdate call.sequenceNumber).1 then
        opened A e.session call
      else .error (.err (.sessionError
        (.duplicateSequenceNumber e.session.sessionId call.sequenceNumber))) :=
  decryptCalls_result A e.session call

theorem sourced_step (s : Side → Endpoint) (call : EndpointCall)
    (h : ∀ side, EndpointInv A key sid (s side)) (hideal : Authentic A s call) :
    Sourced A s call := by
  cases call with
  | encrypt side call => trivial
  | decrypt side call =>
      intro m hm
      rw [decrypt_result] at hm
      by_cases hadmit :
          ((s side).session.rxReplayWindow.checkAndUpdate call.sequenceNumber).1 = true
      · rw [if_pos hadmit] at hm
        obtain ⟨r, hr, hsealing, hcipher⟩ := hideal m hm
        have hseq : r.sequenceNumber = call.sequenceNumber := by
          rcases List.mem_append.mp hr with hr | hr
          · exact (h .a).sequenceNumber hr (by rw [hsealing])
          · exact (h .b).sequenceNumber hr (by rw [hsealing])
        exact ⟨r, hr, ⟨hcipher, by rw [hsealing], hseq⟩, by rw [hsealing]⟩
      · rw [if_neg hadmit] at hm
        cases hm

/-- What one endpoint or the other has released, its own or its peer's. -/
theorem mem_released (s : Side → Endpoint) (side : Side) (r : Released) :
    r ∈ (s .a).released ++ (s .b).released ↔
      r ∈ (s side).released ∨ r ∈ (s side.peer).released := by
  cases side with
  | a => exact List.mem_append
  | b => exact List.mem_append.trans Or.comm

/-- One call of an ideal AEAD: what it returns comes from the peer exactly when it is not given
    what only its own endpoint released. -/
theorem origin_step_iff (hA : A.Inverts) (s : Side → Endpoint) (call : EndpointCall)
    (h : ∀ side, EndpointInv A key sid (s side)) (hideal : Authentic A s call) :
    Origin A s call ↔ NoReflection s call := by
  have hsourced := sourced_step s call h hideal
  cases call with
  | encrypt side call => exact Iff.rfl
  | decrypt side call =>
      constructor
      · rintro horigin hadmit ⟨r, hr, hm⟩
        have hok := (h side).opened hA (h side) hr hm
        have hresult : ((s side).decrypt A call).1 = .ok r.sealing.msg := by
          rw [decrypt_result, if_pos hadmit, hok]
        obtain ⟨r', hr', hm', -⟩ := horigin r.sealing.msg (by rw [hresult]; rfl)
        exact ⟨r', hr', hm'⟩
      · intro hfresh m hm
        obtain ⟨r, hr, hmatch, hmsg⟩ := hsourced m hm
        rcases (mem_released s side r).mp hr with hown | hpeer
        · rw [decrypt_result] at hm
          by_cases hadmit :
              ((s side).session.rxReplayWindow.checkAndUpdate call.sequenceNumber).1 = true
          · obtain ⟨r', hr', hm'⟩ := hfresh hadmit ⟨r, hown, hmatch⟩
            -- both open to what the call returned
            rw [if_pos hadmit, (h side).opened hA (h side.peer) hr' hm'] at hm
            exact ⟨r', hr', hm', Option.some.inj hm⟩
          · rw [if_neg hadmit] at hm
            cases hm
        · exact ⟨r, hpeer, hmatch, hmsg⟩

/-- Two endpoints of a session, before the first call. -/
def endpointsStart (now : Side → Instant) (sessionId : UInt64) (sessionKey : SessionKey)
    (profile : Side → MimicryProfile) (side : Side) : Endpoint :=
  ⟨Session.new (now side) sessionId sessionKey (profile side), []⟩

/-- **Origin of a plaintext.** In every run against an attacker that cannot forge, all that the
    endpoints' `decrypt_payload` calls return was released by one of the two endpoints; and all
    of it by the peer exactly when no call is given what only its own endpoint released, under
    a number that the window admits. -/
theorem plaintext_origin (hA : A.Inverts) (now : Side → Instant) (sessionId : UInt64)
    (sessionKey : SessionKey) (profile : Side → MimicryProfile) (calls : List EndpointCall)
    (hideal : (endpoints A).Always (Authentic A)
      (endpointsStart now sessionId sessionKey profile) calls) :
    (endpoints A).Always (Sourced A) (endpointsStart now sessionId sessionKey profile) calls ∧
      ((endpoints A).Always (Origin A) (endpointsStart now sessionId sessionKey profile) calls ↔
        (endpoints A).Always NoReflection
          (endpointsStart now sessionId sessionKey profile) calls) := by
  let I : (Side → Endpoint) → Prop := fun s => ∀ side,
    EndpointInv A sessionKey (ChaCha20Nonce.new sessionId 0).sessionId (s side)
  have hkeep : ∀ s call, I s → Authentic A s call → I ((endpoints A).step s call).2 :=
    fun s call h _ => endpoints_step s call h
  have hstart : I (endpointsStart now sessionId sessionKey profile) := by
    intro side
    exact ⟨Or.inl (inStep_new (now side) sessionId sessionKey (profile side)), ⟨rfl, rfl⟩,
      fun r hr => by cases hr⟩
  constructor
  · refine ((endpoints A).always_congr_of_invariant hkeep (fun s call h hideal => ?_) _ calls
      hstart hideal).mpr ((endpoints A).always_true _ calls)
    exact iff_true_intro (sourced_step s call h hideal)
  · exact (endpoints A).always_congr_of_invariant hkeep (origin_step_iff hA) _ calls hstart hideal

end Runs

/-! ## A payload that goes back to its sender -/

section Sample

instance (A : ChaCha20Poly1305) (s : Side → Endpoint) :
    (call : EndpointCall) → Decidable (Authentic A s call)
  | .encrypt _ _ => inferInstanceAs (Decidable True)
  | .decrypt side call => inferInstanceAs (Decidable (∀ m ∈
      (opened A (s side).session call).toOption, ∃ r ∈ (s .a).released ++ (s .b).released, _ ∧ _))

def originKey : SessionKey := ⟨List.Vector.replicate 32 7⟩

def originStart : Side → Endpoint := endpointsStart (fun _ => 0) 9 originKey fun _ => .none

/-- Endpoint `a` encrypts `[0x45]`, and its payload is delivered. -/
def originCalls (receiver : Side) : List EndpointCall :=
  [.encrypt .a ⟨1, [0x45], [9]⟩,
    .decrypt receiver ⟨2, 3, sampleAead.ciphertext originKey.bytes
      (ChaCha20Nonce.new 9 0).asBytes [9] [0x45], [9], 0⟩]

theorem plaintext_origin_sample :
    (endpoints sampleAead).Always (Sourced sampleAead) originStart (originCalls .b) ∧
      ((endpoints sampleAead).Always (Origin sampleAead) originStart (originCalls .b) ↔
        (endpoints sampleAead).Always NoReflection originStart (originCalls .b)) :=
  plaintext_origin sampleAead_inverts (fun _ => 0) 9 originKey (fun _ => .none)
    (originCalls .b) (by decide)

/-- Delivered back to endpoint `a`, the payload opens, and `b` has released nothing. -/
theorem reflected_payload_opens :
    (endpoints sampleAead).Always (Authentic sampleAead) originStart (originCalls .a) ∧
      (endpoints sampleAead).outputs originStart (originCalls .a) =
        [none, some (.ok [0x45])] ∧
      (((endpoints sampleAead).final originStart (originCalls .a)) .b).released = [] ∧
      ¬ (endpoints sampleAead).Always (Origin sampleAead) originStart (originCalls .a) := by
  have hout : (endpoints sampleAead).outputs originStart (originCalls .a) =
      [none, some (.ok [0x45])] := rfl
  have hnone : (((endpoints sampleAead).final originStart (originCalls .a)) .b).released = [] :=
    rfl
  refine ⟨by decide, hout, hnone, fun horigin => ?_⟩
  obtain ⟨r, hr, -⟩ := horigin.2.1 [0x45] rfl
  cases hr

end Sample

end Llp.Security
