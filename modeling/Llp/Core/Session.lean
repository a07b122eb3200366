/-
  `Session` and `SessionManager` of `llp-core/session.rs`.

  `encryptPayload` and `decryptPayload` are methods: a call that fails keeps what it wrote
  before it failed. The clock is an argument, one reading for each `Instant::now()`.

  * `decrypt_payload_accepts_once`: over any list of calls on a new session, whatever the
    ciphertexts decrypt to, at most one call for each sequence number returns `Ok`.
-/
import Llp.Core.Crypto
import Llp.Core.Packet
import Llp.Core.ReplayWindow
import Llp.Lib.Tables

namespace Llp
open ByteCodec SlidingWindow

/-- Size of the replay window, in packets. -/
def REPLAY_WINDOW_SIZE : ℕ := 256

/-- The number of sessions the manager holds at most. -/
def MAX_SESSIONS : ℕ := 1000

/-- A clock reading, in nanoseconds. -/
abbrev Instant := ℕ

/-- A span of time, in nanoseconds. -/
abbrev Duration := ℕ

/-- `Duration::from_secs`. -/
def fromSecs (secs : ℕ) : Duration := secs * 1000000000

def DEFAULT_SESSION_LIFETIME : Duration := fromSecs (24 * 60 * 60)

/-- How long a session may be idle before it needs a keepalive. -/
def KEEPALIVE_INTERVAL : Duration := fromSecs 30

/-- How long a session may go without a keepalive. -/
def KEEPALIVE_TIMEOUT : Duration := fromSecs 90

/-- How far the clocks of client and server may be apart. -/
def MAX_TIMESTAMP_DRIFT : Duration := fromSecs (5 * 60)

/-- `Duration::as_secs`. -/
def asSecs (duration : Duration) : ℕ := duration / 1000000000

/-- `Session`. -/
structure Session where
  sessionId : UInt64
  sessionKey : SessionKey
  txCipher : AeadCipher
  rxCipher : AeadCipher
  mimicryProfile : MimicryProfile
  createdAt : Instant
  lastActivity : Instant
  lastKeepalive : Instant
  txSequence : UInt32
  rxReplayWindow : ReplayWindow
  rekeyRequired : Bool
deriving DecidableEq

namespace Session

variable (A : ChaCha20Poly1305)

/-- `Session::new`. -/
def new (now : Instant) (sessionId : UInt64) (sessionKey : SessionKey)
    (mimicryProfile : MimicryProfile) : Session where
  sessionId := sessionId
  sessionKey := sessionKey
  txCipher := AeadCipher.new sessionKey sessionId
  rxCipher := AeadCipher.new sessionKey sessionId
  mimicryProfile := mimicryProfile
  createdAt := now
  lastActivity := now
  lastKeepalive := now
  txSequence := 0
  rxReplayWindow := ReplayWindow.new REPLAY_WINDOW_SIZE
  rekeyRequired := false

/-- `encrypt_payload`. The cipher has moved on when the sequence numbers run out. -/
def encryptPayload (now : Instant) (plaintext aad : Bytes) :
    Method Session LlpError (Bytes × UInt32) := do
  let ciphertext ← Method.focus (·.txCipher) (fun cipher self => { self with txCipher := cipher })
    (AeadCipher.encrypt A plaintext aad)
  let self ← get
  let sequence := self.txSequence
  let next ← Method.okOr (.sessionError (.rekeyRequired self.sessionId))
    (checkedAdd32 self.txSequence)
  let rekeyRequired := if next ≥ (1 : UInt32) <<< (31 : UInt32) then true else self.rekeyRequired
  set { self with txSequence := next, rekeyRequired := rekeyRequired, lastActivity := now }
  pure (ciphertext, sequence)

/-- `check_and_update` as a method of the session. -/
def checkReplay (seq : UInt32) : Method Session LlpError Bool := fun self =>
  let checked := self.rxReplayWindow.checkAndUpdate seq
  .ok checked.1 { self with rxReplayWindow := checked.2 }

/-- `decrypt_payload`. The replay window is updated before the ciphertext is opened. -/
def decryptPayload (now now' : Instant) (ciphertext aad : Bytes) (sequenceNumber : UInt32) :
    Method Session LlpError Bytes := do
  let fresh ← checkReplay sequenceNumber
  let self ← get
  Method.failIf (!fresh)
    (.sessionError (.duplicateSequenceNumber self.sessionId sequenceNumber))
  let plaintext ← Method.lift
    (self.rxCipher.decrypt A ciphertext aad sequenceNumber.toUInt64)
  set { self with lastActivity := now, lastKeepalive := now' }
  pure plaintext

/-! ## One call -/

/-- What one `encrypt_payload` returns, and what it does to the session. -/
theorem encryptPayload_apply (now : Instant) (plaintext aad : Bytes) (self : Session) :
    encryptPayload A now plaintext aad self =
      match AeadCipher.encrypt A plaintext aad self.txCipher with
      | .error e c => .error e { self with txCipher := c }
      | .ok ciphertext c =>
          if self.txSequence.toNat + 1 < 2 ^ 32 then
            .ok (ciphertext, self.txSequence)
              { self with
                txCipher := c
                txSequence := self.txSequence + 1
                rekeyRequired :=
                  if self.txSequence + 1 ≥ (1 : UInt32) <<< (31 : UInt32) then true
                  else self.rekeyRequired
                lastActivity := now }
          else .error (.err (.sessionError (.rekeyRequired self.sessionId)))
            { self with txCipher := c } := by
  unfold encryptPayload
  cases h : AeadCipher.encrypt A plaintext aad self.txCipher with
  | error e c => rw [Method.bind_error (Method.focus_error h)]
  | ok ciphertext c =>
      rw [Method.bind_ok (Method.focus_ok h)]
      simp only [Method.get_bind, checkedAdd32]
      split <;> rfl

/-- What it returns is longer than the message by a tag. -/
theorem encryptPayload_length {A : ChaCha20Poly1305} (hA : A.Tagged) {now : Instant}
    {plaintext aad ciphertext : Bytes} {sequence : UInt32} {self self' : Session}
    (h : encryptPayload A now plaintext aad self = .ok (ciphertext, sequence) self') :
    ciphertext.length = plaintext.length + POLY1305_TAG_SIZE := by
  rw [encryptPayload_apply, AeadCipher.encrypt_apply] at h
  by_cases hlen : plaintext.length ≤ A.maxPlaintext
  · rw [if_pos hlen] at h
    by_cases hcounter : self.txCipher.nonce.counter.toNat + 1 < 2 ^ 64
    · rw [if_pos hcounter] at h
      simp only at h
      split at h
      · cases h
        exact hA.sealed _ _ _ _
      · cases h
    · rw [if_neg hcounter] at h
      cases h
  · rw [if_neg hlen] at h
    cases h

/-- What one `decrypt_payload` returns, and what it does to the session. -/
theorem decryptPayload_apply (now now' : Instant) (ciphertext aad : Bytes) (seq : UInt32)
    (self : Session) :
    decryptPayload A now now' ciphertext aad seq self =
      if (self.rxReplayWindow.checkAndUpdate seq).1 then
        match self.rxCipher.decrypt A ciphertext aad seq.toUInt64 with
        | .ok plaintext =>
            .ok plaintext
              { self with
                rxReplayWindow := (self.rxReplayWindow.checkAndUpdate seq).2
                lastActivity := now
                lastKeepalive := now' }
        | .error e =>
            .error e { self with rxReplayWindow := (self.rxReplayWindow.checkAndUpdate seq).2 }
      else
        .error (.err (.sessionError (.duplicateSequenceNumber self.sessionId seq)))
          { self with rxReplayWindow := (self.rxReplayWindow.checkAndUpdate seq).2 } := by
  have hcheck : checkReplay seq self = .ok (self.rxReplayWindow.checkAndUpdate seq).1
      { self with rxReplayWindow := (self.rxReplayWindow.checkAndUpdate seq).2 } := rfl
  unfold decryptPayload
  rw [Method.bind_ok hcheck, Method.get_bind]
  cases hfresh : (self.rxReplayWindow.checkAndUpdate seq).1 with
  | false => exact Method.bind_error (Method.failIf_pos _ rfl _)
  | true =>
      rw [if_pos rfl, Method.bind_ok (Method.failIf_neg _ (by simp) _)]
      cases self.rxCipher.decrypt A ciphertext aad seq.toUInt64 with
      | ok plaintext => rfl
      | error e => rfl

/-- It returns when the window admits the number and the ciphertext opens. -/
theorem decryptPayload_eq_ok {now now' : Instant} {ciphertext aad : Bytes} {seq : UInt32}
    {self : Session} :
    (∃ m t, decryptPayload A now now' ciphertext aad seq self = .ok m t) ↔
      self.rxReplayWindow.Admits seq ∧
        ∃ m, self.rxCipher.decrypt A ciphertext aad seq.toUInt64 = .ok m := by
  rw [decryptPayload_apply, ← ReplayWindow.checkAndUpdate_eq_true]
  by_cases hwindow : (self.rxReplayWindow.checkAndUpdate seq).1 = true
  · rw [if_pos hwindow]
    cases self.rxCipher.decrypt A ciphertext aad seq.toUInt64 with
    | ok m => exact iff_of_true ⟨m, _, rfl⟩ ⟨hwindow, m, rfl⟩
    | error e => exact iff_of_false (fun ⟨_, _, h⟩ => by cases h) fun ⟨_, _, h⟩ => by cases h
  · rw [if_neg hwindow]
    exact iff_of_false (fun ⟨_, _, h⟩ => by cases h) fun h => hwindow h.1

/-! ## Sending -/

/-- The arguments of an `encrypt_payload` call, with its clock reading. -/
structure EncryptCall where
  now : Instant
  plaintext : Bytes
  aad : Bytes
deriving DecidableEq

/-- What a call that returned has sealed, and what it returned. -/
structure Sent where
  plaintext : Bytes
  aad : Bytes
  ciphertext : Bytes
  sequenceNumber : UInt32
deriving DecidableEq

/-- What the calls that return `Ok` have sealed, in order. -/
def sent : Session → List EncryptCall → List Sent
  | _, [] => []
  | self, call :: calls =>
      match encryptPayload A call.now call.plaintext call.aad self with
      | .ok (ciphertext, sequence) self =>
          ⟨call.plaintext, call.aad, ciphertext, sequence⟩ :: sent self calls
      | .error _ self => sent self calls

/-- The nonce counter of the sender is its sequence number. -/
def InStep (key : SessionKey) (sid : UInt32) (self : Session) : Prop :=
  self.txCipher = ⟨key, ⟨self.txSequence.toUInt64, sid⟩⟩

section Sending

variable {A} {key : SessionKey} {sid : UInt32} {self : Session}

/-- The sender in step after a call that returned. -/
def advanced (key : SessionKey) (sid : UInt32) (now : Instant) (self : Session) : Session :=
  { self with
    txCipher := ⟨key, ⟨self.txSequence.toUInt64 + 1, sid⟩⟩
    txSequence := self.txSequence + 1
    rekeyRequired :=
      if self.txSequence + 1 ≥ (1 : UInt32) <<< (31 : UInt32) then true else self.rekeyRequired
    lastActivity := now }

theorem advanced_txSequence (now : Instant) (h : self.txSequence.toNat + 1 < 2 ^ 32) :
    (self.advanced key sid now).txSequence.toNat = self.txSequence.toNat + 1 :=
  toNat_succ32 h

theorem inStep_new (now : Instant) (sessionId : UInt64) (sessionKey : SessionKey)
    (mimicryProfile : MimicryProfile) :
    InStep sessionKey (ChaCha20Nonce.new sessionId 0).sessionId
      (new now sessionId sessionKey mimicryProfile) := rfl

theorem inStep_advanced (now : Instant) (h : self.txSequence.toNat + 1 < 2 ^ 32) :
    InStep key sid (self.advanced key sid now) := by
  have hsucc : (self.txSequence + 1).toUInt64 = self.txSequence.toUInt64 + 1 := by
    apply UInt64.toNat_inj.mp
    have hlt : self.txSequence.toUInt64.toNat + 1 < 2 ^ 64 := by
      rw [UInt32.toNat_toUInt64]
      omega
    rw [toNat_succ64 hlt, UInt32.toNat_toUInt64, UInt32.toNat_toUInt64, toNat_succ32 h]
  simp only [InStep, advanced, hsucc]

/-- One call of a sender in step: what it returns, and what it does to the session. -/
theorem encryptPayload_inStep (h : InStep key sid self) (now : Instant) (plaintext aad : Bytes) :
    encryptPayload A now plaintext aad self =
      if plaintext.length ≤ A.maxPlaintext then
        if self.txSequence.toNat + 1 < 2 ^ 32 then
          .ok (A.ciphertext key.bytes (ChaCha20Nonce.mk self.txSequence.toUInt64 sid).asBytes aad
              plaintext, self.txSequence) (self.advanced key sid now)
        else .error (.err (.sessionError (.rekeyRequired self.sessionId)))
          { self with txCipher := ⟨key, ⟨self.txSequence.toUInt64 + 1, sid⟩⟩ }
      else .error (.err (.cryptoError .encryptionError)) self := by
  have hcounter : self.txSequence.toUInt64.toNat + 1 < 2 ^ 64 := by
    have := self.txSequence.toNat_lt
    rw [UInt32.toNat_toUInt64]
    omega
  rw [encryptPayload_apply, h, AeadCipher.encrypt_apply, if_pos hcounter]
  by_cases hlen : plaintext.length ≤ A.maxPlaintext
  · rw [if_pos hlen, if_pos hlen]
    rfl
  · rw [if_neg hlen, if_neg hlen]
    simp only
    rw [← h]

/-- The sender is in step, or out of sequence numbers. -/
def SenderInv (key : SessionKey) (sid : UInt32) (self : Session) : Prop :=
  InStep key sid self ∨ ¬ self.txSequence.toNat + 1 < 2 ^ 32

/-- A call returns under the sender's next number, or leaves it a sender; either way the
    receiving half of the session stays as it was. -/
theorem encryptPayload_cases (A : ChaCha20Poly1305) (h : SenderInv key sid self) (now : Instant)
    (plaintext aad : Bytes) :
    (InStep key sid self ∧ SenderInv key sid (self.advanced key sid now) ∧
      encryptPayload A now plaintext aad self =
        .ok (A.ciphertext key.bytes (ChaCha20Nonce.mk self.txSequence.toUInt64 sid).asBytes aad
          plaintext, self.txSequence) (self.advanced key sid now)) ∨
      ∃ e self', encryptPayload A now plaintext aad self = .error e self' ∧
        SenderInv key sid self' ∧ self'.rxCipher = self.rxCipher := by
  by_cases hseq : self.txSequence.toNat + 1 < 2 ^ 32
  · have hin : InStep key sid self := h.resolve_right (fun hno => hno hseq)
    rw [encryptPayload_inStep hin, if_pos hseq]
    by_cases hlen : plaintext.length ≤ A.maxPlaintext
    · rw [if_pos hlen]
      exact Or.inl ⟨hin, Or.inl (inStep_advanced now hseq), rfl⟩
    · rw [if_neg hlen]
      exact Or.inr ⟨_, self, rfl, h, rfl⟩
  · right
    rw [encryptPayload_apply]
    cases AeadCipher.encrypt A plaintext aad self.txCipher with
    | error e c => exact ⟨e, _, rfl, Or.inr hseq, rfl⟩
    | ok ciphertext c =>
        simp only [if_neg hseq]
        exact ⟨_, _, rfl, Or.inr hseq, rfl⟩

/-- A sender that is out of sequence numbers sends nothing more. -/
theorem sent_exhausted (A : ChaCha20Poly1305) (calls : List EncryptCall)
    (h : ¬ self.txSequence.toNat + 1 < 2 ^ 32) : sent A self calls = [] := by
  induction calls generalizing self with
  | nil => rfl
  | cons call calls ih =>
      unfold sent
      rw [encryptPayload_apply]
      cases AeadCipher.encrypt A call.plaintext call.aad self.txCipher with
      | error e c => exact ih h
      | ok ciphertext c =>
          simp only [if_neg h]
          exact ih h

/-- What a sender in step sends: each message under its own sequence number, in order. -/
theorem sent_inStep (A : ChaCha20Poly1305) (calls : List EncryptCall) (h : InStep key sid self) :
    (sent A self calls).Pairwise (fun p q => p.sequenceNumber.toNat < q.sequenceNumber.toNat) ∧
      ∀ p ∈ sent A self calls, self.txSequence.toNat ≤ p.sequenceNumber.toNat ∧
        p.ciphertext = A.ciphertext key.bytes
          (ChaCha20Nonce.mk p.sequenceNumber.toUInt64 sid).asBytes p.aad p.plaintext := by
  induction calls generalizing self with
  | nil => simp [sent]
  | cons call calls ih =>
      by_cases hseq : self.txSequence.toNat + 1 < 2 ^ 32
      · unfold sent
        rw [encryptPayload_inStep h, if_pos hseq]
        by_cases hlen : call.plaintext.length ≤ A.maxPlaintext
        · rw [if_pos hlen]
          -- the rest is sent from one number further on
          obtain ⟨hsorted, hrest⟩ := ih (inStep_advanced call.now hseq)
          rw [advanced_txSequence call.now hseq] at hrest
          refine ⟨List.pairwise_cons.mpr ⟨fun q hq => (hrest q hq).1, hsorted⟩, fun p hp => ?_⟩
          rcases List.mem_cons.mp hp with rfl | hp
          · exact ⟨Nat.le_refl _, rfl⟩
          · exact ⟨Nat.le_of_succ_le (hrest p hp).1, (hrest p hp).2⟩
        · rw [if_neg hlen]
          exact ih h
      · rw [sent_exhausted A (call :: calls) hseq]
        simp

/-- A sender with a number left for every call sends all messages within the cipher's limit. -/
theorem sent_all (calls : List EncryptCall) (h : InStep key sid self)
    (hcalls : self.txSequence.toNat + calls.length < 2 ^ 32)
    (hlen : ∀ call ∈ calls, call.plaintext.length ≤ A.maxPlaintext) :
    (sent A self calls).map (fun p => (p.plaintext, p.aad)) =
      calls.map fun call => (call.plaintext, call.aad) := by
  induction calls generalizing self with
  | nil => rfl
  | cons call calls ih =>
      rw [List.length_cons] at hcalls
      have hseq : self.txSequence.toNat + 1 < 2 ^ 32 := by omega
      have hcalls' : (self.advanced key sid call.now).txSequence.toNat + calls.length < 2 ^ 32 := by
        rw [advanced_txSequence call.now hseq]
        omega
      have hrest := ih (inStep_advanced call.now hseq) hcalls'
        fun c hc => hlen c (List.mem_cons_of_mem _ hc)
      unfold sent
      rw [encryptPayload_inStep h, if_pos (hlen call List.mem_cons_self), if_pos hseq]
      simp only [List.map_cons, hrest]

end Sending

/-! ## Replay -/

/-- The arguments of a `decrypt_payload` call, with its clock readings. -/
structure DecryptCall where
  now : Instant
  now' : Instant
  ciphertext : Bytes
  aad : Bytes
  sequenceNumber : UInt32

/-- The `decrypt_payload` calls on a session. -/
def decryptCalls : Machine Session DecryptCall (Fallible LlpError Bytes) :=
  Method.machine fun call =>
    decryptPayload A call.now call.now' call.ciphertext call.aad call.sequenceNumber

/-- A call leaves the replay window as `check_and_update` does, whatever it returns. -/
theorem decryptCalls_window (self : Session) (call : DecryptCall) :
    ((decryptCalls A).step self call).2.rxReplayWindow =
      (self.rxReplayWindow.checkAndUpdate call.sequenceNumber).2 := by
  simp only [decryptCalls, Method.machine, decryptPayload_apply]
  split
  · cases self.rxCipher.decrypt A call.ciphertext call.aad call.sequenceNumber.toUInt64 <;> rfl
  · rfl

/-- A call the window admits returns what the cipher opens. -/
theorem decryptCalls_result (self : Session) (call : DecryptCall) :
    ((decryptCalls A).step self call).1 =
      if (self.rxReplayWindow.checkAndUpdate call.sequenceNumber).1 then
        self.rxCipher.decrypt A call.ciphertext call.aad call.sequenceNumber.toUInt64
      else .error (.err (.sessionError
        (.duplicateSequenceNumber self.sessionId call.sequenceNumber))) := by
  simp only [decryptCalls, Method.machine, decryptPayload_apply]
  split
  · cases self.rxCipher.decrypt A call.ciphertext call.aad call.sequenceNumber.toUInt64 <;> rfl
  · rfl

/-- A call touches the window and the activity times only. -/
theorem decryptCalls_frame (self : Session) (call : DecryptCall) :
    ∃ window activity keepalive, ((decryptCalls A).step self call).2 =
      { self with
        rxReplayWindow := window
        lastActivity := activity
        lastKeepalive := keepalive } := by
  simp only [decryptCalls, Method.machine, decryptPayload_apply]
  split
  · cases self.rxCipher.decrypt A call.ciphertext call.aad call.sequenceNumber.toUInt64 with
    | ok plaintext => exact ⟨_, _, _, rfl⟩
    | error e => exact ⟨_, self.lastActivity, self.lastKeepalive, rfl⟩
  · exact ⟨_, self.lastActivity, self.lastKeepalive, rfl⟩

/-- A call that returns `Ok` was let through by the replay window. -/
theorem decryptCalls_isOk {self : Session} {call : DecryptCall}
    (h : ((decryptCalls A).step self call).1.isOk = true) :
    (self.rxReplayWindow.checkAndUpdate call.sequenceNumber).1 = true := by
  by_contra hno
  rw [decryptCalls_result, if_neg hno] at h
  exact Bool.noConfusion h

/-- **Replay safety.** Of the calls on a new session that return `Ok`, no two have the same
    sequence number. -/
theorem decrypt_payload_accepts_once (now : Instant) (sessionId : UInt64)
    (sessionKey : SessionKey) (mimicryProfile : MimicryProfile) (calls : List DecryptCall) :
    (((decryptCalls A).accepted Except.isOk (new now sessionId sessionKey mimicryProfile)
      calls).map (·.sequenceNumber)).Nodup := by
  -- a window that represents some set of accepted numbers, and the numbers of such a set
  let Sound : Session → Restarting → Prop := fun s t =>
    ReplayWindow.Represents REPLAY_WINDOW_SIZE s.rxReplayWindow t
  have hstep : ∀ s t (call : DecryptCall), Sound s t →
      (s.rxReplayWindow.checkAndUpdate call.sequenceNumber).1 =
          ((restarting REPLAY_WINDOW_SIZE).step t call.sequenceNumber.toNat).1 ∧
        Sound ((decryptCalls A).step s call).2
          ((restarting REPLAY_WINDOW_SIZE).step t call.sequenceNumber.toNat).2 := by
    intro s t call ht
    have hsim := ReplayWindow.checkAndUpdate_simulates (by decide) ht call.sequenceNumber
    exact ⟨hsim.1, by simpa only [Sound, decryptCalls_window] using hsim.2⟩
  refine (decryptCalls A).accepted_nodup Except.isOk (·.sequenceNumber) (fun _ _ => True)
    (fun s => ∃ t, Sound s t) (fun s k => ∃ t, Sound s t ∧ k.toNat ∈ t.acc) ?_ ?_ ?_ ?_ _ calls
    ⟨_, ReplayWindow.represents_new REPLAY_WINDOW_SIZE⟩ (Machine.always_true _ _ _)
  · rintro s call ⟨t, ht⟩ -
    exact ⟨_, (hstep s t call ht).2⟩
  · rintro s call ⟨t, ht⟩ - hok
    obtain ⟨hout, hsound⟩ := hstep s t call ht
    rw [decryptCalls_isOk A hok] at hout
    refine ⟨_, hsound, ?_⟩
    rw [restarting_acc, if_pos hout.symm]
    exact Finset.mem_insert_self _ _
  · rintro s call k - - ⟨t, ht, hk⟩
    exact ⟨_, (hstep s t call ht).2, restarting_keeps _ _ _ _ hk⟩
  · rintro s call - ⟨t, ht, hk⟩
    have hout := (hstep s t call ht).1
    rw [restarting_refuses _ _ _ hk] at hout
    by_contra hok
    rw [decryptCalls_isOk A (by simpa using hok)] at hout
    exact Bool.noConfusion hout

end Session

/-! ## Time -/

namespace Session

/-- `is_expired`. -/
def isExpired (lifetime : Duration) (now : Instant) (self : Session) : Bool :=
  now - self.createdAt > lifetime

/-- `needs_keepalive`. -/
def needsKeepalive (now : Instant) (self : Session) : Bool :=
  now - self.lastActivity > KEEPALIVE_INTERVAL

/-- `is_keepalive_timeout`. -/
def isKeepaliveTimeout (now : Instant) (self : Session) : Bool :=
  now - self.lastKeepalive > KEEPALIVE_TIMEOUT

/-- `validate_timestamp`, at Unix time `unixTime`. -/
def validateTimestamp (unixTime : ℕ) (packetTimestamp : UInt32) (self : Session) :
    Fallible LlpError Unit :=
  let delta : ℤ := ((unixTime : ℤ) - packetTimestamp.toNat).natAbs
  if delta > asSecs MAX_TIMESTAMP_DRIFT then
    .error (.err (.sessionError (.invalidTimestamp self.sessionId delta)))
  else .ok ()

theorem validateTimestamp_eq_ok {unixTime : ℕ} {packetTimestamp : UInt32} {self : Session} :
    self.validateTimestamp unixTime packetTimestamp = .ok () ↔
      unixTime ≤ packetTimestamp.toNat + 300 ∧ packetTimestamp.toNat ≤ unixTime + 300 := by
  have hdrift : asSecs MAX_TIMESTAMP_DRIFT = 300 := rfl
  unfold validateTimestamp
  rw [hdrift]
  dsimp only
  split
  · exact iff_of_false (by intro h; cases h) (by omega)
  · exact iff_of_true rfl (by omega)

section Times

variable {A : ChaCha20Poly1305} {self self' : Session}

/-- What a call that sent does to the times: it is an activity. -/
theorem encryptPayload_times {now : Instant} {plaintext aad : Bytes} {sent : Bytes × UInt32}
    (h : encryptPayload A now plaintext aad self = .ok sent self') :
    self'.createdAt = self.createdAt ∧ self'.lastActivity = now ∧
      self'.lastKeepalive = self.lastKeepalive := by
  rw [encryptPayload_apply] at h
  split at h
  · cases h
  · split at h
    · cases h
      exact ⟨rfl, rfl, rfl⟩
    · cases h

/-- What a call that received does to the times: it is an activity, and stands for a keepalive. -/
theorem decryptPayload_times {now now' : Instant} {ciphertext aad plaintext : Bytes}
    {seq : UInt32} (h : decryptPayload A now now' ciphertext aad seq self = .ok plaintext self') :
    self'.createdAt = self.createdAt ∧ self'.lastActivity = now ∧
      self'.lastKeepalive = now' := by
  rw [decryptPayload_apply] at h
  split at h
  · split at h
    · cases h
      exact ⟨rfl, rfl, rfl⟩
    · cases h
  · cases h

end Times

end Session

/-! ## The session manager -/

/-- `SessionManager`. -/
structure SessionManager where
  sessions : AList fun _ : UInt64 => Session
  sessionLifetime : Duration

namespace SessionManager

/-- `SessionManager::new`. -/
def new : SessionManager := ⟨∅, DEFAULT_SESSION_LIFETIME⟩

/-- `with_lifetime`. -/
def withLifetime (sessionLifetime : Duration) : SessionManager := ⟨∅, sessionLifetime⟩

/-- `add_session`. -/
def addSession (now : Instant) (sessionId : UInt64) (sessionKey : SessionKey)
    (mimicryProfile : MimicryProfile) : Method SessionManager LlpError Unit := do
  let self ← get
  let current := self.sessions.entries.length
  Method.failIf (current ≥ MAX_SESSIONS)
    (.sessionError (.tooManySessions current MAX_SESSIONS))
  Method.failIf (sessionId ∈ self.sessions)
    (.sessionError (.sessionAlreadyExists sessionId))
  set { self with
    sessions := self.sessions.insert sessionId
      (Session.new now sessionId sessionKey mimicryProfile) }

/-- `cleanup_expired`, with the readings of `is_expired` and `is_keepalive_timeout` for each
    session. -/
def cleanupExpired (clock : UInt64 → Instant × Instant) (self : SessionManager) :
    ℕ × SessionManager :=
  let initialCount := self.sessions.entries.length
  let sessions := self.sessions.retain fun sessionId session =>
    !session.isExpired self.sessionLifetime (clock sessionId).1 &&
      !session.isKeepaliveTimeout (clock sessionId).2
  (initialCount - sessions.entries.length, { self with sessions := sessions })

/-- A session is added under a new id while there is room, or nothing changes. -/
theorem addSession_cases (now : Instant) (sessionId : UInt64) (sessionKey : SessionKey)
    (mimicryProfile : MimicryProfile) (self : SessionManager) :
    (self.sessions.entries.length < MAX_SESSIONS ∧ sessionId ∉ self.sessions ∧
      addSession now sessionId sessionKey mimicryProfile self = .ok ()
        { self with
          sessions := self.sessions.insert sessionId
            (Session.new now sessionId sessionKey mimicryProfile) }) ∨
      ∃ e, addSession now sessionId sessionKey mimicryProfile self = .error e self := by
  unfold addSession
  rw [Method.get_bind]
  by_cases hroom : self.sessions.entries.length ≥ MAX_SESSIONS
  · exact Or.inr ⟨_, Method.bind_error (Method.failIf_pos _ hroom _)⟩
  · rw [Method.bind_ok (Method.failIf_neg _ hroom _)]
    by_cases hid : sessionId ∈ self.sessions
    · exact Or.inr ⟨_, Method.bind_error (Method.failIf_pos _ hid _)⟩
    · rw [Method.bind_ok (Method.failIf_neg _ hid _)]
      exact Or.inl ⟨Nat.lt_of_not_le hroom, hid, rfl⟩

/-- While there is room, a new id is taken. -/
theorem addSession_ok {self : SessionManager} {sessionId : UInt64}
    (hroom : self.sessions.entries.length < MAX_SESSIONS) (hid : sessionId ∉ self.sessions)
    (now : Instant) (sessionKey : SessionKey) (mimicryProfile : MimicryProfile) :
    addSession now sessionId sessionKey mimicryProfile self = .ok ()
      { self with
        sessions := self.sessions.insert sessionId
          (Session.new now sessionId sessionKey mimicryProfile) } := by
  unfold addSession
  rw [Method.get_bind, Method.bind_ok (Method.failIf_neg _ (Nat.not_le.mpr hroom) _),
    Method.bind_ok (Method.failIf_neg _ hid _)]
  rfl

end SessionManager

end Llp
