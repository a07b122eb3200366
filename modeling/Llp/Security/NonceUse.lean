/-
  Which nonces the two ends of a connection use.

  Both ends build their sender from the session key and the session id: the client a
  `Session`, the server a `Session` or the send loop of its client handler. A use is a key
  with the 12 nonce bytes of an `AeadCipher::encrypt` that returned `Ok`; the send loop's
  encryptions of the empty message count as well.

  * `session_uses`: a session uses consecutive counters, so it never uses a nonce twice.
  * `nonces_distinct_iff`: over an interleaving of the two ends no nonce is used twice
    exactly when at most one end is given a message the cipher accepts, and a send loop
    takes no packet after the first one it encrypts.
-/
import Llp.Core.Session
import Llp.Server.SendTask

namespace Llp.Security
open ByteCodec Server

/-- A key with a nonce. -/
abbrev Use := Arr 32 × Bytes

section Uses

variable (A : ChaCha20Poly1305)

/-- The use of one `AeadCipher::encrypt`, if it returns `Ok`. -/
def use (plaintext aad : Bytes) (cipher : AeadCipher) : List Use :=
  if (AeadCipher.encrypt A plaintext aad).eval cipher |>.isOk then
    [(cipher.key.bytes, cipher.nonce.asBytes)]
  else []

/-- The uses of `SendTask.skipTo`. -/
def skipUses : ℕ → AeadCipher → List Use
  | 0, _ => []
  | n + 1, cipher =>
      use A [] [] cipher ++ skipUses n (Method.state (AeadCipher.encrypt A [] [] cipher))

/-! ## Senders -/

/-- The sending part of an endpoint. -/
inductive Sender where
  | session (session : Session)
  | sendTask (sessionKey : SessionKey) (sessionId : UInt64) (task : SendTask)

/-- A message given to an endpoint to encrypt: its AAD (which the send loop leaves empty), the
    clock, and the outcome of sending the datagram. -/
structure Encryption where
  now : Instant
  plaintext : Bytes
  aad : Bytes
  sendOk : Bool

/-- The uses of an endpoint for one message. -/
def Sender.uses : Sender → Encryption → List Use
  | .session s, e => use A e.plaintext e.aad s.txCipher
  | .sendTask sessionKey sessionId task, e =>
      if task.running then
        let cipher := AeadCipher.new sessionKey sessionId
        skipUses A task.sendCounter.toNat cipher ++
          use A e.plaintext [] (SendTask.skipTo A task.sendCounter.toNat cipher)
      else []

/-- The endpoint after one message. -/
def Sender.next : Sender → Encryption → Sender
  | .session s, e =>
      .session (Method.state (Session.encryptPayload A e.now e.plaintext e.aad s))
  | .sendTask sessionKey sessionId task, e =>
      .sendTask sessionKey sessionId
        (if task.running then
          (SendTask.sendPacket A sessionKey sessionId e.sendOk e.plaintext task).2
        else task)

/-- An endpoint as a machine: what it uses for each message. -/
def sender : Machine Sender Encryption (List Use) where
  step s e := (s.uses A e, s.next A e)

/-! ## One encryption -/

/-- The use of counter `n`. -/
def useAt (key : SessionKey) (sid : UInt32) (n : ℕ) : Use :=
  (key.bytes, (⟨UInt64.ofNat n, sid⟩ : ChaCha20Nonce).asBytes)

theorem useAt_inj {key : SessionKey} {sid : UInt32} {m n : ℕ} (hm : m < 2 ^ 64)
    (hn : n < 2 ^ 64) (h : useAt key sid m = useAt key sid n) : m = n := by
  have hnonce := ChaCha20Nonce.asBytes_inj (Prod.mk.inj h).2
  have hcounter := congrArg UInt64.toNat (ChaCha20Nonce.mk.inj hnonce).1
  rwa [UInt64.toNat_ofNat_of_lt' hm, UInt64.toNat_ofNat_of_lt' hn] at hcounter

/-- The cipher accepts the message. -/
def Accepts (e : Encryption) : Prop := e.plaintext.length ≤ A.maxPlaintext

instance (e : Encryption) : Decidable (Accepts A e) := inferInstanceAs (Decidable (_ ≤ _))

theorem use_eq (plaintext aad : Bytes) (key : SessionKey) (counter : UInt64) (sid : UInt32) :
    use A plaintext aad ⟨key, ⟨counter, sid⟩⟩ =
      if plaintext.length ≤ A.maxPlaintext ∧ counter.toNat + 1 < 2 ^ 64 then
        [useAt key sid counter.toNat] else [] := by
  unfold use Method.eval
  split
  · next hok =>
      split
      · rw [useAt, UInt64.ofNat_toNat]
      · next h =>
          obtain ⟨e, he⟩ := AeadCipher.encrypt_rejected A aad key sid h
          rw [he] at hok
          exact Bool.noConfusion hok
  · next hno =>
      rw [if_neg]
      rintro ⟨hlen, hcounter⟩
      rw [AeadCipher.encrypt_accepted A aad key sid hlen hcounter] at hno
      exact hno rfl

/-! ## A session -/

/-- The cipher of a session after one message. -/
theorem session_next (s : Session) (e : Encryption) :
    ∃ s', Sender.next A (.session s) e = .session s' ∧
      s'.txCipher = Method.state (AeadCipher.encrypt A e.plaintext e.aad s.txCipher) := by
  refine ⟨_, rfl, ?_⟩
  rw [Session.encryptPayload_apply]
  cases AeadCipher.encrypt A e.plaintext e.aad s.txCipher with
  | error err c => rfl
  | ok ciphertext c =>
      simp only
      split <;> rfl

/-- A session uses the counters from its own on, one for each message it encrypts. -/
theorem session_uses (key : SessionKey) (sid : UInt32) (es : List Encryption) :
    ∀ (s : Session) (counter : UInt64), s.txCipher = ⟨key, ⟨counter, sid⟩⟩ →
      ∃ k, counter.toNat + k < 2 ^ 64 ∧
        ((sender A).outputs (.session s) es).flatten =
          (List.range' counter.toNat k).map (useAt key sid) ∧
        (counter.toNat + 1 < 2 ^ 64 → (k = 0 ↔ ∀ e ∈ es, ¬ Accepts A e)) := by
  induction es with
  | nil =>
      intro s counter _
      exact ⟨0, counter.toNat_lt, rfl, by simp⟩
  | cons e es ih =>
      intro s counter hs
      obtain ⟨s', hnext, hs'⟩ := session_next A s e
      have huse : Sender.uses A (.session s) e =
          if Accepts A e ∧ counter.toNat + 1 < 2 ^ 64 then [useAt key sid counter.toNat]
          else [] := by
        simp only [Sender.uses, hs]
        exact use_eq A e.plaintext e.aad key counter sid
      rw [hs] at hs'
      simp only [Machine.outputs, List.flatten_cons, sender, huse, hnext]
      by_cases hstep : Accepts A e ∧ counter.toNat + 1 < 2 ^ 64
      · -- the counter is used, and the next message starts one above
        rw [AeadCipher.encrypt_accepted A e.aad key sid hstep.1 hstep.2, Method.state_ok] at hs'
        obtain ⟨k, hk, hflat, -⟩ := ih s' (counter + 1) hs'
        rw [toNat_succ64 hstep.2] at hk hflat
        refine ⟨k + 1, by omega, ?_, fun _ => ?_⟩
        · rw [if_pos hstep, List.range'_succ, List.map_cons, List.singleton_append]
          exact congrArg _ hflat
        · simp [hstep.1]
      · obtain ⟨err, herr⟩ := AeadCipher.encrypt_rejected A e.aad key sid hstep
        rw [herr, Method.state_error] at hs'
        obtain ⟨k, hk, hflat, hzero⟩ := ih s' counter hs'
        refine ⟨k, hk, ?_, fun hcounter => ?_⟩
        · rw [if_neg hstep]
          exact hflat
        · have hlen : ¬ Accepts A e := fun h => hstep ⟨h, hcounter⟩
          simp [hzero hcounter, hlen]

theorem session_uses_nodup {key : SessionKey} {sid : UInt32} {s : Session} {counter : UInt64}
    (hs : s.txCipher = ⟨key, ⟨counter, sid⟩⟩) (es : List Encryption) :
    ((sender A).outputs (.session s) es).flatten.Nodup := by
  obtain ⟨k, hk, hflat, -⟩ := session_uses A key sid es s counter hs
  rw [hflat]
  refine List.Nodup.map_on (fun m hm n hn h => ?_) List.nodup_range'
  rw [List.mem_range'_1] at hm hn
  exact useAt_inj (by omega) (by omega) h

/-! ## A send loop -/

/-- The low half of a session id, as a nonce carries it. -/
def nonceSid (sessionId : UInt64) : UInt32 := (ChaCha20Nonce.new sessionId 0).sessionId

/-- The send loop takes nothing after the first packet it encrypts: that packet is the last
    one, or its datagram could not be sent. -/
def Quiet : List Encryption → Prop
  | [] => True
  | e :: es => if Accepts A e then e.sendOk = false ∨ es = [] else Quiet es

section SendTask

variable (key : SessionKey) (sessionId : UInt64)

/-- The first packet the loop encrypts uses counter 0 and moves the loop on; a packet the
    cipher refuses does neither. -/
theorem sendTask_first (e : Encryption) :
    Sender.uses A (.sendTask key sessionId .new) e =
        (if Accepts A e then [useAt key (nonceSid sessionId) 0] else []) ∧
      Sender.next A (.sendTask key sessionId .new) e =
        .sendTask key sessionId
          (if Accepts A e then if e.sendOk then ⟨1, true⟩ else ⟨0, false⟩ else .new) := by
  have hcipher : SendTask.skipTo A SendTask.new.sendCounter.toNat
      (AeadCipher.new key sessionId) = ⟨key, ⟨0, nonceSid sessionId⟩⟩ := rfl
  have hzero : (0 : UInt64).toNat + 1 < 2 ^ 64 := by decide
  constructor
  · have huse := use_eq A e.plaintext [] key 0 (nonceSid sessionId)
    simp only [hzero, and_true] at huse
    exact huse
  · simp only [Sender.next, SendTask.sendPacket, hcipher]
    by_cases h : Accepts A e
    · rw [AeadCipher.encrypt_accepted A [] key (nonceSid sessionId) h hzero, if_pos h]
      cases e.sendOk <;> rfl
    · have hreject : ¬ (e.plaintext.length ≤ A.maxPlaintext ∧ (0 : UInt64).toNat + 1 < 2 ^ 64) :=
        fun hc => h hc.1
      obtain ⟨err, herr⟩ := AeadCipher.encrypt_rejected A [] key (nonceSid sessionId) hreject
      rw [herr, if_neg h]
      rfl

/-- A loop that ended uses nothing. -/
theorem sendTask_stopped (counter : UInt64) (es : List Encryption) :
    ((sender A).outputs (.sendTask key sessionId ⟨counter, false⟩) es).flatten = [] := by
  induction es with
  | nil => rfl
  | cons e es ih => exact ih

/-- A loop at counter 1 uses counter 0 again for the next packet it takes. -/
theorem sendTask_again (e : Encryption) (es : List Encryption) :
    useAt key (nonceSid sessionId) 0 ∈
      ((sender A).outputs (.sendTask key sessionId ⟨1, true⟩) (e :: es)).flatten := by
  have hzero : (0 : UInt64).toNat + 1 < 2 ^ 64 := by decide
  have huse := use_eq A [] [] key 0 (nonceSid sessionId)
  rw [if_pos ⟨Nat.zero_le _, hzero⟩] at huse
  simp only [Machine.outputs, List.flatten_cons, sender, Sender.uses, if_true]
  refine List.mem_append_left _ (List.mem_append_left _ ?_)
  show _ ∈ use A [] [] ⟨key, ⟨0, nonceSid sessionId⟩⟩ ++ _
  rw [huse]
  exact List.mem_cons_self

end SendTask

/-! ## Both ends -/

/-- How an end builds its sender. -/
inductive SenderKind where
  | session
  | sendTask
deriving DecidableEq

/-- The sender of an end, made from the session key and the session id. -/
def SenderKind.start (now : Instant) (key : SessionKey) (sessionId : UInt64)
    (profile : MimicryProfile) : SenderKind → Sender
  | .session => .session (Session.new now sessionId key profile)
  | .sendTask => .sendTask key sessionId .new

/-- What a sender of the kind asks of its own messages. -/
def SenderKind.Keeps : SenderKind → List Encryption → Prop
  | .session, _ => True
  | .sendTask, es => Quiet A es

/-- A new session uses nothing until the cipher accepts a message, then counter 0, and no nonce
    twice. -/
theorem session_start_uses (now : Instant) (key : SessionKey) (sessionId : UInt64)
    (profile : MimicryProfile) (es : List Encryption) :
    let uses := ((sender A).outputs (.session (Session.new now sessionId key profile)) es).flatten
    ((∀ e ∈ es, ¬ Accepts A e) → uses = []) ∧
      ((∃ e ∈ es, Accepts A e) → useAt key (nonceSid sessionId) 0 ∈ uses) ∧ uses.Nodup := by
  intro uses
  have hcipher : (Session.new now sessionId key profile).txCipher =
      ⟨key, ⟨0, nonceSid sessionId⟩⟩ := rfl
  obtain ⟨k, -, hflat, hzero⟩ := session_uses A key (nonceSid sessionId) es _ 0 hcipher
  have hzero := hzero (by decide)
  refine ⟨fun hno => ?_, fun ⟨e, he, hacc⟩ => ?_, session_uses_nodup A hcipher es⟩
  · show List.flatten _ = []
    rw [hflat, hzero.mpr hno]
    rfl
  · have hk : k ≠ 0 := fun h => hzero.mp h e he hacc
    show _ ∈ List.flatten _
    rw [hflat]
    refine List.mem_map_of_mem (List.mem_range'_1.mpr ?_)
    exact ⟨Nat.le_refl 0, show 0 < 0 + k by omega⟩

/-- So does a new send task, but its second packet has the nonce of the first. -/
theorem sendTask_start_uses (key : SessionKey) (sessionId : UInt64) (es : List Encryption) :
    let uses := ((sender A).outputs (.sendTask key sessionId .new) es).flatten
    ((∀ e ∈ es, ¬ Accepts A e) → uses = []) ∧
      ((∃ e ∈ es, Accepts A e) → useAt key (nonceSid sessionId) 0 ∈ uses) ∧
      (uses.Nodup ↔ Quiet A es) := by
  induction es with
  | nil => simp [Machine.outputs, Quiet]
  | cons e es ih =>
      obtain ⟨huse, hnext⟩ := sendTask_first A key sessionId e
      simp only [Machine.outputs, List.flatten_cons, sender, huse, hnext, Quiet]
      by_cases h : Accepts A e
      · simp only [h, if_true, List.singleton_append]
        refine ⟨fun hno => absurd h (hno e List.mem_cons_self),
          fun _ => List.mem_cons_self, ?_⟩
        cases hsend : e.sendOk with
        | false =>
            have hstop := sendTask_stopped A key sessionId 0 es
            simp only [sender] at hstop
            simp [hstop]
        | true =>
            cases es with
            | nil => simp [Machine.outputs]
            | cons e' es =>
                have hagain := sendTask_again A key sessionId e' es
                simp only [sender] at hagain
                simp [hagain]
      · have hmem : (∀ x ∈ e :: es, ¬ Accepts A x) ↔ ∀ x ∈ es, ¬ Accepts A x := by simp [h]
        have hex : (∃ x ∈ e :: es, Accepts A x) ↔ ∃ x ∈ es, Accepts A x := by simp [h]
        simp only [h, if_false, List.nil_append, hmem, hex]
        exact ih

/-- A new sender uses nothing until the cipher accepts a message, then counter 0; it uses no
    nonce twice exactly when its messages are as its kind asks. -/
theorem start_uses (now : Instant) (key : SessionKey) (sessionId : UInt64)
    (profile : MimicryProfile) (kind : SenderKind) (es : List Encryption) :
    ((∀ e ∈ es, ¬ Accepts A e) →
        ((sender A).outputs (kind.start now key sessionId profile) es).flatten = []) ∧
      ((∃ e ∈ es, Accepts A e) → useAt key (nonceSid sessionId) 0 ∈
        ((sender A).outputs (kind.start now key sessionId profile) es).flatten) ∧
      (((sender A).outputs (kind.start now key sessionId profile) es).flatten.Nodup ↔
        kind.Keeps A es) := by
  cases kind with
  | session =>
      obtain ⟨hquiet, hfirst, hnodup⟩ := session_start_uses A now key sessionId profile es
      exact ⟨hquiet, hfirst, iff_of_true hnodup trivial⟩
  | sendTask => exact sendTask_start_uses A key sessionId es

/-- **Nonce use of a connection.** Over every interleaving of messages at the two ends, no
    key and nonce are used twice exactly when not both ends are given a message the cipher
    accepts, and the server's messages are as its kind of sender asks. -/
theorem nonces_distinct_iff (now now' : Instant) (key : SessionKey) (sessionId : UInt64)
    (profile profile' : MimicryProfile) (server : SenderKind)
    (events : List (Encryption ⊕ Encryption)) :
    (((sender A).interleave (sender A)).outputs
        (SenderKind.session.start now key sessionId profile,
          server.start now' key sessionId profile') events).flatten.Nodup ↔
      ¬ ((∃ e ∈ events.filterMap Sum.getLeft?, Accepts A e) ∧
          ∃ e ∈ events.filterMap Sum.getRight?, Accepts A e) ∧
        server.Keeps A (events.filterMap Sum.getRight?) := by
  obtain ⟨hcnone, hcsome, hcnodup⟩ := start_uses A now key sessionId profile .session
    (events.filterMap Sum.getLeft?)
  obtain ⟨hsnone, hssome, hsnodup⟩ := start_uses A now' key sessionId profile' server
    (events.filterMap Sum.getRight?)
  rw [(Machine.interleave_outputs_perm (sender A) (sender A) _ _ events).flatten.nodup_iff,
    List.flatten_append, List.nodup_append', hcnodup, hsnodup]
  constructor
  · rintro ⟨-, hkeeps, hdisj⟩
    exact ⟨fun ⟨hc, hs⟩ => hdisj (hcsome hc) (hssome hs), hkeeps⟩
  · rintro ⟨hnot, hkeeps⟩
    refine ⟨trivial, hkeeps, ?_⟩
    by_cases hc : ∃ e ∈ events.filterMap Sum.getLeft?, Accepts A e
    · have hs : ∀ e ∈ events.filterMap Sum.getRight?, ¬ Accepts A e :=
        fun e he hacc => hnot ⟨hc, e, he, hacc⟩
      rw [hsnone hs]
      exact List.disjoint_nil_right _
    · have hc' : ∀ e ∈ events.filterMap Sum.getLeft?, ¬ Accepts A e :=
        fun e he hacc => hc ⟨e, he, hacc⟩
      rw [hcnone hc']
      exact List.disjoint_nil_left _

/-- One message at each end: the same key and nonce, whichever sender the server has. -/
theorem nonces_collide :
    ¬ (((sender (tableAead [])).interleave (sender (tableAead []))).outputs
        (SenderKind.session.start 0 ⟨List.Vector.replicate 32 7⟩ 9 .none,
          SenderKind.session.start 0 ⟨List.Vector.replicate 32 7⟩ 9 .none)
        [.inl ⟨0, [0x45], [1], true⟩, .inr ⟨0, [0x60], [], true⟩]).flatten.Nodup ∧
      ¬ (((sender (tableAead [])).interleave (sender (tableAead []))).outputs
        (SenderKind.session.start 0 ⟨List.Vector.replicate 32 7⟩ 9 .none,
          SenderKind.sendTask.start 0 ⟨List.Vector.replicate 32 7⟩ 9 .none)
        [.inl ⟨0, [0x45], [1], true⟩, .inr ⟨0, [0x60], [], true⟩]).flatten.Nodup := by
  constructor
  · decide
  · decide

end Uses

end Llp.Security
