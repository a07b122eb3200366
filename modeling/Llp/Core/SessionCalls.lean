/-
  The calls on a `Session` over runs: the numbers they give out, and what a failed one leaves
  behind.

  A sender gives out one number for each packet it seals, under the nonce of that number. A
  failed `encrypt_payload` leaves the session alone until the sequence numbers run out: then the
  cipher moves on alone. A failed `decrypt_payload` leaves it alone if the window did not admit
  the number; a packet that does not open has its number marked as received.

  * `encrypt_payload_numbers`: the numbers of a run, their nonces, when a rekey is due, and that
    an exhausted sender stays so.
  * `encrypt_payload_atomic_iff`, `decrypt_payload_atomic_iff`: the runs in which failed calls
    change nothing.
-/
import Llp.Core.Session

namespace Llp
open ByteCodec

namespace Session

variable (A : ChaCha20Poly1305)

/-- `needs_rekey`. -/
def needsRekey (self : Session) : Bool := self.rekeyRequired

/-- `mark_keepalive_received`. -/
def markKeepaliveReceived (now now' : Instant) (self : Session) : Session :=
  { self with lastKeepalive := now, lastActivity := now' }

/-! ## The calls -/

/-- The `encrypt_payload` calls on a session. -/
def encryptCalls : Machine Session EncryptCall (Fallible LlpError (Bytes × UInt32)) :=
  Method.machine fun call => encryptPayload A call.now call.plaintext call.aad

theorem encryptCalls_step (self : Session) (call : EncryptCall) :
    (encryptCalls A).step self call =
      (Method.result (encryptPayload A call.now call.plaintext call.aad self),
        Method.state (encryptPayload A call.now call.plaintext call.aad self)) := rfl

/-- A call that changes a session. -/
inductive Call where
  | encryptPayload (call : EncryptCall)
  | decryptPayload (call : DecryptCall)
  | markKeepaliveReceived (now now' : Instant)

/-- What it returns. -/
inductive Returned where
  | encrypted (result : Fallible LlpError (Bytes × UInt32))
  | decrypted (result : Fallible LlpError Bytes)
  | marked

/-- All of them, in any order. -/
def calls : Machine Session Call Returned where
  step self
    | .encryptPayload call =>
        (.encrypted ((encryptCalls A).step self call).1, ((encryptCalls A).step self call).2)
    | .decryptPayload call =>
        (.decrypted ((decryptCalls A).step self call).1, ((decryptCalls A).step self call).2)
    | .markKeepaliveReceived now now' => (.marked, self.markKeepaliveReceived now now')

/-! ## The session id -/

section Id

variable {sessionId : UInt64}

theorem encryptPayload_keeps_id (now : Instant) (plaintext aad : Bytes) :
    Method.Keeps (fun session => session.sessionId = sessionId)
      (encryptPayload A now plaintext aad) := by
  intro session hid
  rw [encryptPayload_apply]
  split
  · exact hid
  · split <;> exact hid

theorem decryptPayload_keeps_id (now now' : Instant) (ciphertext aad : Bytes) (seq : UInt32) :
    Method.Keeps (fun session => session.sessionId = sessionId)
      (decryptPayload A now now' ciphertext aad seq) := by
  intro session hid
  rw [decryptPayload_apply]
  split
  · split <;> exact hid
  · exact hid

/-- A session keeps its id. -/
theorem calls_sessionId (self : Session) (call : Call) :
    ((calls A).step self call).2.sessionId = self.sessionId := by
  cases call with
  | encryptPayload call => exact encryptPayload_keeps_id A _ _ _ self rfl
  | decryptPayload call => exact decryptPayload_keeps_id A _ _ _ _ _ self rfl
  | markKeepaliveReceived now now' => rfl

end Id

/-! ## Numbers -/

section Numbers

variable {A} {key : SessionKey} {sid : UInt32} {n : ℕ} {self : Session}

/-- A sender that has given out `n` numbers. -/
structure Numbered (key : SessionKey) (sid : UInt32) (n : ℕ) (s : Session) : Prop where
  sender : SenderInv key sid s
  next : s.txSequence.toNat = n
  rekey : s.rekeyRequired = decide (2 ^ 31 ≤ n)

theorem numbered_new (now : Instant) (sessionId : UInt64) (sessionKey : SessionKey)
    (mimicryProfile : MimicryProfile) :
    Numbered sessionKey (ChaCha20Nonce.new sessionId 0).sessionId 0
      (new now sessionId sessionKey mimicryProfile) :=
  ⟨Or.inl (inStep_new now sessionId sessionKey mimicryProfile), rfl, rfl⟩

theorem Numbered.advanced (h : Numbered key sid n self) (now : Instant) (hn : n + 1 < 2 ^ 32) :
    Numbered key sid (n + 1) (self.advanced key sid now) := by
  have hseq : self.txSequence.toNat + 1 < 2 ^ 32 := by rwa [h.next]
  have hnext : (self.txSequence + 1).toNat = n + 1 := by rw [toNat_succ32 hseq, h.next]
  refine ⟨Or.inl (inStep_advanced now hseq), hnext, ?_⟩
  have hlimit : (self.txSequence + 1 ≥ (1 : UInt32) <<< (31 : UInt32)) ↔ 2 ^ 31 ≤ n + 1 := by
    rw [ge_iff_le, UInt32.le_iff_toNat_le, hnext]
    rfl
  simp only [Session.advanced, hlimit, h.rekey]
  split
  · next hle => exact (decide_eq_true hle).symm
  · next hlt =>
      rw [decide_eq_false hlt]
      exact decide_eq_false fun hle => hlt (Nat.le_succ_of_le hle)

/-- A call that failed has changed the cipher at most. -/
theorem encryptPayload_error {now : Instant} {plaintext aad : Bytes} {e : Fault LlpError}
    {self' : Session} (h : encryptPayload A now plaintext aad self = .error e self') :
    ∃ c, self' = { self with txCipher := c } := by
  rw [encryptPayload_apply] at h
  split at h
  · cases h
    exact ⟨_, rfl⟩
  · split at h
    · cases h
    · cases h
      exact ⟨_, rfl⟩

/-- One call: the next number, under its nonce, or none. -/
theorem encryptCalls_cases (h : Numbered key sid n self) (call : EncryptCall) :
    (n + 1 < 2 ^ 32 ∧ self.txCipher.nonceCounter = self.txSequence.toUInt64 ∧
      (encryptCalls A).step self call =
        (.ok (A.ciphertext key.bytes (ChaCha20Nonce.mk self.txSequence.toUInt64 sid).asBytes
          call.aad call.plaintext, self.txSequence), self.advanced key sid call.now)) ∨
      ∃ e self', (encryptCalls A).step self call = (.error e, self') ∧
        Numbered key sid n self' := by
  rw [encryptCalls_step]
  rcases encryptPayload_cases A h.sender call.now call.plaintext call.aad with
    ⟨hin, hsender, hok⟩ | ⟨e, self', herr, hsender, -⟩
  · left
    have hseq : self.txSequence.toNat + 1 < 2 ^ 32 := by
      by_contra hno
      rw [encryptPayload_inStep hin, if_neg hno] at hok
      split at hok
      · cases hok
      · cases hok
    refine ⟨h.next ▸ hseq, ?_, by rw [hok]; rfl⟩
    rw [hin]
    rfl
  · right
    refine ⟨e, self', by rw [herr]; rfl, ?_⟩
    obtain ⟨c, rfl⟩ := encryptPayload_error herr
    exact ⟨hsender, h.next, h.rekey⟩

/-- The numbers of a run are the next ones in a row. -/
theorem encryptCalls_run (A : ChaCha20Poly1305) (h : Numbered key sid n self)
    (xs : List EncryptCall) :
    ∃ k, (((encryptCalls A).outputs self xs).filterMap Except.toOption).map (·.2.toNat) =
        List.range' n k ∧
      Numbered key sid (n + k) ((encryptCalls A).final self xs) := by
  induction xs generalizing n self with
  | nil => exact ⟨0, rfl, h⟩
  | cons call xs ih =>
      simp only [Machine.outputs, Machine.final]
      rcases encryptCalls_cases (A := A) h call with ⟨hn, -, hok⟩ | ⟨e, self', herr, h'⟩
      · rw [hok]
        obtain ⟨k, hnumbers, hfinal⟩ := ih (h.advanced call.now hn)
        refine ⟨k + 1, ?_, ?_⟩
        · rw [List.filterMap_cons_some (by rfl), List.map_cons, hnumbers, h.next]
          rfl
        · rwa [Nat.add_assoc, Nat.add_comm 1 k] at hfinal
      · rw [herr]
        obtain ⟨k, hnumbers, hfinal⟩ := ih h'
        exact ⟨k, by rw [List.filterMap_cons_none (by rfl), hnumbers], hfinal⟩

/-- A call that found no number left. -/
theorem exhausted_of_rekeyRequired {now : Instant} {plaintext aad : Bytes}
    (h : Method.result (encryptPayload A now plaintext aad self) =
      .error (.err (.sessionError (.rekeyRequired self.sessionId)))) :
    ¬ self.txSequence.toNat + 1 < 2 ^ 32 := by
  intro hseq
  rw [encryptPayload_apply, AeadCipher.encrypt_apply] at h
  split at h
  · next hcipher =>
      split at hcipher
      · split at hcipher
        · cases hcipher
        · cases hcipher
          cases h
      · cases hcipher
        cases h
  · rw [if_pos hseq] at h
    cases h

/-- A sender without numbers stays so, and its calls fail. -/
theorem exhausted_stays (h : ¬ self.txSequence.toNat + 1 < 2 ^ 32) (call : EncryptCall) :
    ((encryptCalls A).step self call).1.isOk = false ∧
      ¬ ((encryptCalls A).step self call).2.txSequence.toNat + 1 < 2 ^ 32 := by
  rw [encryptCalls_step, encryptPayload_apply]
  cases AeadCipher.encrypt A call.plaintext call.aad self.txCipher with
  | error e c => exact ⟨rfl, h⟩
  | ok ciphertext c =>
      simp only [if_neg h]
      exact ⟨rfl, h⟩

theorem sessionId_final (A : ChaCha20Poly1305) (self : Session) (xs : List EncryptCall) :
    ((encryptCalls A).final self xs).sessionId = self.sessionId := by
  refine (encryptCalls A).final_invariant (P := fun _ _ => True)
    (I := fun s => s.sessionId = self.sessionId) (fun s call hs _ => ?_) self xs rfl
    (Machine.always_true _ _ _)
  exact encryptPayload_keeps_id A _ _ _ s hs

end Numbers

/-- **The numbers of a sender.** Over any calls on a new session, the packets have the numbers
    0, 1, 2, …; each is sealed under the nonce counter of its number; a rekey is due exactly
    when 2^31 packets were sealed; and when a call finds no number left, the later ones fail. -/
theorem encrypt_payload_numbers (now : Instant) (sessionId : UInt64) (sessionKey : SessionKey)
    (mimicryProfile : MimicryProfile) (xs : List EncryptCall) :
    let M := encryptCalls A
    let s := new now sessionId sessionKey mimicryProfile
    let packets := (M.outputs s xs).filterMap Except.toOption
    packets.map (·.2.toNat) = List.range packets.length ∧
      (∀ pre call post ciphertext sequence, xs = pre ++ call :: post →
        (M.step (M.final s pre) call).1 = .ok (ciphertext, sequence) →
        (M.final s pre).txCipher.nonceCounter = sequence.toUInt64 ∧
          ciphertext = A.ciphertext sessionKey.bytes
            (ChaCha20Nonce.new sessionId sequence.toUInt64).asBytes call.aad call.plaintext) ∧
      ((M.final s xs).needsRekey = true ↔ 2 ^ 31 ≤ packets.length) ∧
      ∀ pre call post, xs = pre ++ call :: post →
        (M.step (M.final s pre) call).1 =
          .error (.err (.sessionError (.rekeyRequired sessionId))) →
        ∀ result ∈ M.outputs (M.final s (pre ++ [call])) post, result.isOk = false := by
  intro M s packets
  have hnew := numbered_new now sessionId sessionKey mimicryProfile
  obtain ⟨k, hnumbers, hfinal⟩ := encryptCalls_run A hnew xs
  have hk : packets.length = k := by
    have hlen := congrArg List.length hnumbers
    rwa [List.length_map, List.length_range'] at hlen
  refine ⟨?_, ?_, ?_, ?_⟩
  · rw [hk, List.range_eq_range']
    exact hnumbers
  · rintro pre call post ciphertext sequence - hok
    obtain ⟨j, -, hpre⟩ := encryptCalls_run A hnew pre
    rcases encryptCalls_cases (A := A) hpre call with ⟨-, hcounter, hstep⟩ | ⟨e, self', hstep, -⟩
    · rw [show (M.step (M.final s pre) call).1 = _ from congrArg Prod.fst hstep] at hok
      cases hok
      exact ⟨hcounter, rfl⟩
    · rw [show (M.step (M.final s pre) call).1 = _ from congrArg Prod.fst hstep] at hok
      cases hok
  · rw [hk, needsRekey, hfinal.rekey, Nat.zero_add]
    exact decide_eq_true_iff
  · rintro pre call post - hfail
    have hid : (M.final s pre).sessionId = sessionId := sessionId_final A s pre
    rw [← hid] at hfail
    have hexhausted := exhausted_of_rekeyRequired hfail
    rw [Machine.final_snoc]
    exact M.outputs_invariant (I := fun s => ¬ s.txSequence.toNat + 1 < 2 ^ 32)
      (fun s x hs => (exhausted_stays hs x).2) (fun s x hs => (exhausted_stays hs x).1) _ post
      (exhausted_stays hexhausted call).2

/-! ## Failed calls of the sender -/

/-- What a failed `encrypt_payload` should leave as it is: the sequence number, the nonce counter,
    `rekey_required` and the activity times. -/
def sending (self : Session) : UInt32 × UInt64 × Bool × Instant × Instant :=
  (self.txSequence, self.txCipher.nonceCounter, self.rekeyRequired, self.lastActivity,
    self.lastKeepalive)

/-- If the call is an `encrypt_payload` that fails, it leaves the sender as it is. -/
def EncryptAtomic (self : Session) : Call → Prop
  | .encryptPayload call => ((encryptCalls A).step self call).1.isOk = false →
      ((encryptCalls A).step self call).2.sending = self.sending
  | _ => True

/-- If the call is an `encrypt_payload`, there is a number left for it, or the cipher refuses it:
    the message is too long, or the nonce counter is at its end. -/
def EncryptSafe (self : Session) : Call → Prop
  | .encryptPayload call => self.txSequence.toNat + 1 < 2 ^ 32 ∨
      A.maxPlaintext < call.plaintext.length ∨ ¬ self.txCipher.nonceCounter.toNat + 1 < 2 ^ 64
  | _ => True

theorem counter_succ_ne (counter : UInt64) : counter + 1 ≠ counter := by
  intro h
  have hnat := congrArg UInt64.toNat h
  rw [UInt64.toNat_add] at hnat
  have hlt := counter.toNat_lt
  have hone : (1 : UInt64).toNat = 1 := rfl
  omega

theorem encryptAtomic_iff (self : Session) (call : Call) :
    EncryptAtomic A self call ↔ EncryptSafe A self call := by
  cases call with
  | decryptPayload call => exact Iff.rfl
  | markKeepaliveReceived now now' => exact Iff.rfl
  | encryptPayload call =>
      unfold EncryptAtomic EncryptSafe encryptCalls Method.machine AeadCipher.nonceCounter
      simp only
      rw [encryptPayload_apply, AeadCipher.encrypt_apply]
      by_cases hlen : call.plaintext.length ≤ A.maxPlaintext
      · rw [if_pos hlen]
        by_cases hcounter : self.txCipher.nonce.counter.toNat + 1 < 2 ^ 64
        · rw [if_pos hcounter]
          by_cases hseq : self.txSequence.toNat + 1 < 2 ^ 32
          · simp only [if_pos hseq]
            exact iff_of_true (fun h => by cases h) (Or.inl hseq)
          · -- the cipher has sealed the message, and there is no number for it
            simp only [if_neg hseq]
            refine iff_of_false (fun h => ?_) ?_
            · exact counter_succ_ne _ (Prod.mk.inj (Prod.mk.inj (h rfl)).2).1
            · rintro (h | h | h)
              · exact hseq h
              · exact absurd hlen (Nat.not_le.mpr h)
              · exact h hcounter
        · rw [if_neg hcounter]
          exact iff_of_true (fun _ => rfl) (Or.inr (Or.inr hcounter))
      · rw [if_neg hlen]
        exact iff_of_true (fun _ => rfl) (Or.inr (Or.inl (Nat.lt_of_not_le hlen)))

/-- The calls of a receiver do not touch the sender. -/
theorem inStep_other {key : SessionKey} {sid : UInt32} {self : Session}
    (h : InStep key sid self) : (∀ call, InStep key sid ((decryptCalls A).step self call).2) ∧
      ∀ now now', InStep key sid (self.markKeepaliveReceived now now') := by
  refine ⟨fun call => ?_, fun now now' => h⟩
  obtain ⟨window, activity, keepalive, hstep⟩ := decryptCalls_frame A self call
  rw [hstep]
  exact h

/-- A sender in step stays so by the calls that are safe, and only by these. -/
theorem inStep_call {key : SessionKey} {sid : UInt32} {self : Session} (h : InStep key sid self)
    (call : Call) :
    (EncryptSafe A self call → InStep key sid ((calls A).step self call).2) ∧
      (¬ EncryptSafe A self call → ((calls A).step self call).2.txCipher.nonceCounter ≠
        ((calls A).step self call).2.txSequence.toUInt64) := by
  cases call with
  | decryptPayload call => exact ⟨fun _ => (inStep_other A h).1 call, fun hno => absurd trivial hno⟩
  | markKeepaliveReceived now now' =>
      exact ⟨fun _ => (inStep_other A h).2 now now', fun hno => absurd trivial hno⟩
  | encryptPayload call =>
      have hcounter : self.txCipher.nonceCounter.toNat + 1 < 2 ^ 64 := by
        have hlt := self.txSequence.toNat_lt
        rw [h, AeadCipher.nonceCounter, UInt32.toNat_toUInt64]
        omega
      unfold EncryptSafe calls encryptCalls Method.machine
      simp only
      rw [encryptPayload_inStep h]
      by_cases hlen : call.plaintext.length ≤ A.maxPlaintext
      · rw [if_pos hlen]
        by_cases hseq : self.txSequence.toNat + 1 < 2 ^ 32
        · rw [if_pos hseq]
          exact ⟨fun _ => inStep_advanced call.now hseq, fun hno => absurd (Or.inl hseq) hno⟩
        · rw [if_neg hseq]
          refine ⟨?_, fun _ => counter_succ_ne _⟩
          rintro (hs | hs | hs)
          · exact absurd hs hseq
          · exact absurd hlen (Nat.not_le.mpr hs)
          · exact absurd hcounter hs
      · rw [if_neg hlen]
        exact ⟨fun _ => h, fun hno => absurd (Or.inr (Or.inl (Nat.lt_of_not_le hlen))) hno⟩

/-- **Failed sends.** Over any calls on a new session, every failed `encrypt_payload` leaves the
    sender as it was exactly when each `encrypt_payload` finds a number left or is refused by the
    cipher; in the same runs the nonce counter equals the sequence number all along. -/
theorem encrypt_payload_atomic_iff (now : Instant) (sessionId : UInt64)
    (sessionKey : SessionKey) (mimicryProfile : MimicryProfile) (xs : List Call) :
    let s := new now sessionId sessionKey mimicryProfile
    ((calls A).Always (EncryptAtomic A) s xs ↔ (calls A).Always (EncryptSafe A) s xs) ∧
      ((∀ pre, pre <+: xs → ((calls A).final s pre).txCipher.nonceCounter =
          ((calls A).final s pre).txSequence.toUInt64) ↔
        (calls A).Always (EncryptSafe A) s xs) := by
  intro s
  refine ⟨(calls A).always_congr (encryptAtomic_iff A) s xs, ?_⟩
  exact (calls A).holds_iff_always
    (I := InStep sessionKey (ChaCha20Nonce.new sessionId 0).sessionId)
    (K := fun s => s.txCipher.nonceCounter = s.txSequence.toUInt64)
    (fun s hs => by rw [hs]; rfl) (fun s x hs => (inStep_call A hs x).1)
    (fun s x hs => (inStep_call A hs x).2) s xs
    (inStep_new now sessionId sessionKey mimicryProfile)

/-- A sender in step with room for `n` packets seals as many. -/
theorem send_many {A : ChaCha20Poly1305} {key : SessionKey} {sid : UInt32} {self : Session}
    (h : InStep key sid self) {call : EncryptCall} (hlen : call.plaintext.length ≤ A.maxPlaintext)
    (n : ℕ) (hn : self.txSequence.toNat + n < 2 ^ 32) :
    InStep key sid ((calls A).final self (List.replicate n (.encryptPayload call))) ∧
      ((calls A).final self (List.replicate n (.encryptPayload call))).txSequence.toNat =
        self.txSequence.toNat + n := by
  induction n generalizing self with
  | zero => exact ⟨h, rfl⟩
  | succ n ih =>
      have hseq : self.txSequence.toNat + 1 < 2 ^ 32 := by omega
      have hstep : ((calls A).step self (.encryptPayload call)).2 =
          self.advanced key sid call.now := by
        show ((encryptCalls A).step self call).2 = _
        rw [encryptCalls_step, encryptPayload_inStep h, if_pos hlen, if_pos hseq]
        rfl
      have hnext := @advanced_txSequence key sid self call.now hseq
      rw [List.replicate_succ, Machine.final, hstep]
      obtain ⟨hin, hcount⟩ := ih (inStep_advanced call.now hseq) (by rw [hnext]; omega)
      refine ⟨hin, ?_⟩
      rw [hcount, hnext]
      omega

/-- Without a number left, a call fails and moves the nonce counter. -/
theorem encryptCalls_exhausted {A : ChaCha20Poly1305} {key : SessionKey} {sid : UInt32}
    {self : Session} (h : InStep key sid self) {call : EncryptCall}
    (hlen : call.plaintext.length ≤ A.maxPlaintext) (hfull : ¬ self.txSequence.toNat + 1 < 2 ^ 32) :
    (encryptCalls A).step self call =
      (.error (.err (.sessionError (.rekeyRequired self.sessionId))),
        { self with txCipher := ⟨key, ⟨self.txSequence.toUInt64 + 1, sid⟩⟩ }) := by
  rw [encryptCalls_step, encryptPayload_inStep h, if_pos hlen, if_neg hfull]
  rfl

/-- A new session that has sealed all packets it has numbers for: the next call fails, and the
    nonce counter leaves the sequence number. -/
theorem moves_counter_after {n : ℕ} (hn : n + 1 = 2 ^ 32) (call call' : EncryptCall)
    (hlen : call.plaintext.length ≤ A.maxPlaintext)
    (hlen' : call'.plaintext.length ≤ A.maxPlaintext) (now : Instant) (sessionId : UInt64)
    (sessionKey : SessionKey) (mimicryProfile : MimicryProfile) :
    ∃ s, s = (calls A).final (new now sessionId sessionKey mimicryProfile)
        (List.replicate n (.encryptPayload call)) ∧
      ((encryptCalls A).step s call').1.isOk = false ∧
      ((encryptCalls A).step s call').2.txCipher.nonceCounter = s.txCipher.nonceCounter + 1 ∧
      ((encryptCalls A).step s call').2.txCipher.nonceCounter ≠
        ((encryptCalls A).step s call').2.txSequence.toUInt64 := by
  have hzero : (new now sessionId sessionKey mimicryProfile).txSequence.toNat = 0 := rfl
  obtain ⟨hin, hcount⟩ := send_many (inStep_new now sessionId sessionKey mimicryProfile) hlen n
    (by omega)
  refine ⟨_, rfl, ?_⟩
  rw [hzero, Nat.zero_add] at hcount
  rw [encryptCalls_exhausted hin hlen' (by omega)]
  refine ⟨rfl, ?_, counter_succ_ne _⟩
  rw [hin]
  rfl

/-- So it is after 2^32 - 1 packets. -/
theorem encrypt_payload_moves_counter :
    ∃ s, s = (calls sampleAead).final (new 0 7 ⟨.replicate 32 9⟩ .none)
        (List.replicate (2 ^ 32 - 1) (.encryptPayload ⟨1, [0x45], []⟩)) ∧
      ((encryptCalls sampleAead).step s ⟨2, [0x46], []⟩).1.isOk = false ∧
      ((encryptCalls sampleAead).step s ⟨2, [0x46], []⟩).2.txCipher.nonceCounter =
        s.txCipher.nonceCounter + 1 ∧
      ((encryptCalls sampleAead).step s ⟨2, [0x46], []⟩).2.txCipher.nonceCounter ≠
        ((encryptCalls sampleAead).step s ⟨2, [0x46], []⟩).2.txSequence.toUInt64 :=
  moves_counter_after sampleAead (by decide) ⟨1, [0x45], []⟩ ⟨2, [0x46], []⟩
    (Nat.one_le_two_pow (n := 36)) (Nat.one_le_two_pow (n := 36)) 0 7 ⟨.replicate 32 9⟩ .none

/-! ## Failed calls of the receiver -/

/-- What a failed `decrypt_payload` should leave as it is: the replay window, the activity times
    and the counters. -/
def receiving (self : Session) : ReplayWindow × Instant × Instant × UInt32 × UInt64 × UInt64 :=
  (self.rxReplayWindow, self.lastActivity, self.lastKeepalive, self.txSequence,
    self.txCipher.nonceCounter, self.rxCipher.nonceCounter)

/-- If the call is a `decrypt_payload` that fails, it leaves the receiver as it is. -/
def DecryptAtomic (self : Session) : Call → Prop
  | .decryptPayload call => ((decryptCalls A).step self call).1.isOk = false →
      ((decryptCalls A).step self call).2.receiving = self.receiving
  | _ => True

/-- If the call is a `decrypt_payload`, its number is not new to the window, or the ciphertext
    opens under it. -/
def DecryptSafe (self : Session) : Call → Prop
  | .decryptPayload call => ¬ self.rxReplayWindow.Admits call.sequenceNumber ∨
      (self.rxCipher.decrypt A call.ciphertext call.aad call.sequenceNumber.toUInt64).isOk = true
  | _ => True

/-- A call that returned anything but the failure of a `decrypt_payload`. -/
def Returned.received : Returned → Bool
  | .decrypted result => result.isOk
  | _ => true

/-- A refused number leaves the whole session as it is. -/
theorem decryptCalls_refused {self : Session} {call : DecryptCall}
    (h : ¬ self.rxReplayWindow.Admits call.sequenceNumber) :
    ((decryptCalls A).step self call).1.isOk = false ∧
      ((decryptCalls A).step self call).2 = self := by
  have hsame := (self.rxReplayWindow.checkAndUpdate_cases call.sequenceNumber).resolve_left
    fun hadmits => h hadmits.1
  unfold decryptCalls Method.machine
  simp only
  rw [decryptPayload_apply, hsame.2]
  exact ⟨rfl, rfl⟩

theorem decryptAtomic_iff (self : Session) (call : Call) :
    DecryptAtomic A self call ↔ DecryptSafe A self call := by
  cases call with
  | encryptPayload call => exact Iff.rfl
  | markKeepaliveReceived now now' => exact Iff.rfl
  | decryptPayload call =>
      unfold DecryptAtomic DecryptSafe
      simp only
      rcases self.rxReplayWindow.checkAndUpdate_cases call.sequenceNumber with
        ⟨hadmits, hfresh, hmoved⟩ | ⟨hold, -⟩
      · rw [decryptCalls_result, if_pos hfresh]
        cases hopen : (self.rxCipher.decrypt A call.ciphertext call.aad
          call.sequenceNumber.toUInt64).isOk with
        | true => exact iff_of_true (fun h => by cases h) (Or.inr rfl)
        | false =>
            -- the number was marked before the ciphertext failed to open
            refine iff_of_false (fun h => ?_) ?_
            · have hwindow := (Prod.mk.inj (h rfl)).1
              rw [decryptCalls_window] at hwindow
              exact hmoved hwindow
            · rintro (h | h)
              · exact h hadmits
              · cases h
      · refine iff_of_true (fun _ => ?_) (Or.inl hold)
        rw [(decryptCalls_refused A hold).2]

/-- A failed call that is safe leaves the whole session as it is. -/
theorem decryptCalls_failed {self : Session} {call : DecryptCall}
    (hsafe : DecryptSafe A self (.decryptPayload call))
    (hfail : ((decryptCalls A).step self call).1.isOk = false) :
    ((decryptCalls A).step self call).2 = self := by
  refine (decryptCalls_refused A fun hadmits => ?_).2
  have hfresh := ((self.rxReplayWindow.checkAndUpdate_cases call.sequenceNumber).resolve_right
    fun hold => hold.1 hadmits).2.1
  rw [decryptCalls_result, if_pos hfresh, hsafe.resolve_left (not_not.mpr hadmits)] at hfail
  cases hfail

/-- **Failed receipts.** Over any calls on a new session, every failed `decrypt_payload` leaves
    the receiver as it was exactly when no ciphertext fails to open under a number that is new to
    the window. Then the failed calls can be left out: the others return the same, and the
    session ends the same. -/
theorem decrypt_payload_atomic_iff (now : Instant) (sessionId : UInt64)
    (sessionKey : SessionKey) (mimicryProfile : MimicryProfile) (xs : List Call) :
    let M := calls A
    let s := new now sessionId sessionKey mimicryProfile
    (M.Always (DecryptAtomic A) s xs ↔ M.Always (DecryptSafe A) s xs) ∧
      (M.Always (DecryptSafe A) s xs →
        M.final s (M.accepted Returned.received s xs) = M.final s xs ∧
        M.outputs s (M.accepted Returned.received s xs) =
          (M.outputs s xs).filter Returned.received) := by
  intro M s
  refine ⟨M.always_congr (decryptAtomic_iff A) s xs, fun hsafe => ?_⟩
  refine M.accepted_of_inert Returned.received s xs (M.always_mono (fun t x hx hfail => ?_) s xs
    hsafe)
  cases x with
  | encryptPayload call => cases hfail
  | markKeepaliveReceived now now' => cases hfail
  | decryptPayload call => exact decryptCalls_failed A hx hfail

/-- A forged packet fails to open, and the genuine one of its number is then refused. -/
theorem decrypt_payload_burns_number :
    let M := decryptCalls sampleAead
    let s := new 0 7 ⟨.replicate 32 9⟩ .none
    let forged : DecryptCall := ⟨1, 1, [0xFF], [], 5⟩
    let genuine : DecryptCall := ⟨2, 2, sampleAead.ciphertext (.replicate 32 9)
      (ChaCha20Nonce.new 7 5).asBytes [] [0x45], [], 5⟩
    (M.step s forged).1.isOk = false ∧ (M.step s forged).2.rxReplayWindow ≠ s.rxReplayWindow ∧
      (M.step s genuine).1.isOk = true ∧ (M.step (M.step s forged).2 genuine).1.isOk = false := by
  decide +kernel

/-! ## Failed calls of either kind -/

/-- Whether a call returned `Err`. -/
def Returned.isOk : Returned → Bool
  | .encrypted result => result.isOk
  | .decrypted result => result.isOk
  | .marked => true

/-- A failed send that is safe leaves the whole session as it is. -/
theorem encryptCalls_failed {self : Session} {call : EncryptCall}
    (hsafe : EncryptSafe A self (.encryptPayload call))
    (hfail : ((encryptCalls A).step self call).1.isOk = false) :
    ((encryptCalls A).step self call).2 = self := by
  rw [encryptCalls_step, encryptPayload_apply, AeadCipher.encrypt_apply] at hfail ⊢
  by_cases hlen : call.plaintext.length ≤ A.maxPlaintext
  · rw [if_pos hlen] at hfail ⊢
    by_cases hcounter : self.txCipher.nonce.counter.toNat + 1 < 2 ^ 64
    · have hseq : self.txSequence.toNat + 1 < 2 ^ 32 := by
        rcases hsafe with hseq | hlong | hfull
        · exact hseq
        · exact absurd hlen (Nat.not_le.mpr hlong)
        · exact absurd hcounter hfull
      rw [if_pos hcounter] at hfail
      simp only [if_pos hseq] at hfail
      cases hfail
    · rw [if_neg hcounter]
      rfl
  · rw [if_neg hlen]
    rfl

/-- A call that returns `Err` leaves the session as it is exactly when it is safe. -/
theorem calls_atomic_iff (self : Session) (call : Call) :
    (((calls A).step self call).1.isOk = false → ((calls A).step self call).2 = self) ↔
      EncryptSafe A self call ∧ DecryptSafe A self call := by
  cases call with
  | markKeepaliveReceived now now' => exact iff_of_true (fun h => by cases h) ⟨trivial, trivial⟩
  | encryptPayload call =>
      refine ⟨fun hatomic => ⟨?_, trivial⟩, fun hsafe hfail => encryptCalls_failed A hsafe.1 hfail⟩
      exact (encryptAtomic_iff A self (.encryptPayload call)).mp fun hfail =>
        congrArg sending (hatomic hfail)
  | decryptPayload call =>
      refine ⟨fun hatomic => ⟨trivial, ?_⟩, fun hsafe hfail => decryptCalls_failed A hsafe.2 hfail⟩
      exact (decryptAtomic_iff A self (.decryptPayload call)).mp fun hfail =>
        congrArg receiving (hatomic hfail)

end Session

end Llp
