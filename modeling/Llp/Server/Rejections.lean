/-
  Rejected handshake datagrams.

  `handle_handshake_packet` gives a peer its entry before it reads the datagram, and takes the
  handshake of the entry to its end before it sends SERVER_VERIFY and registers the session. What
  fails after the first keeps the new entry, what fails after the second a finished handshake
  that no datagram can complete.

  * `answerClientVerify_verified`: a CLIENT_VERIFY that verifies registers the session, or it
    leaves the finished handshake behind.
  * `rejected_datagram_iff`: the runs in which every rejected datagram leaves the tables alone.
-/
import Llp.Core.HandshakeCodec
import Llp.Server.Listener

namespace Llp.Server
open ByteCodec

namespace LlpListener

variable {P : Primitives}

/-! ## The branch for CLIENT_VERIFY -/

section Verify

variable {s : LlpListener P} {peerAddr : SocketAddr} {h h' : ServerHandshake P}
  {sid sid' : UInt64} {prof prof' : MimicryProfile}

/-- A call of the handshake in the entry of the peer. -/
theorem inEntry_ok {α : Type} {m : Method (ServerHandshake P) LlpError α} {a : α}
    (hw : s.handshakeStates.lookup peerAddr = some (.waitingClientVerify h sid' prof'))
    (hm : m h = .ok a h') (bound : ServerHandshake P) (sid : UInt64) (prof : MimicryProfile) :
    ∃ t, inEntry peerAddr bound sid prof m s = .ok a t ∧
      t.handshakeStates.lookup peerAddr = some (.waitingClientVerify h' sid prof) ∧
      t.sessionManager = s.sessionManager := by
  unfold inEntry
  rw [Method.focus_ok (t := h') (by
    rw [hw]
    exact Method.mapError_ok hm)]
  exact ⟨_, rfl, Finmap.lookup_insert _, rfl⟩

/-- One that fails without effect. -/
theorem inEntry_error {α : Type} {m : Method (ServerHandshake P) LlpError α} {e : Fault LlpError}
    (hw : s.handshakeStates.lookup peerAddr = some (.waitingClientVerify h sid prof))
    (hm : m h = .error e h) (bound : ServerHandshake P) :
    inEntry peerAddr bound sid prof m s = .error (e.map .llp) s := by
  unfold inEntry
  rw [Method.focus_error (t := h) (by
    rw [hw]
    exact Method.mapError_error hm), insert_lookup hw]

theorem sendTo_ok (packet : Bytes) (peerAddr : SocketAddr) (s : LlpListener P) :
    ∃ t, sendTo true packet peerAddr s = .ok () t ∧ t.handshakeStates = s.handshakeStates ∧
      t.sessionManager = s.sessionManager :=
  ⟨_, rfl, rfl, rfl⟩

/-- SERVER_VERIFY can be sent, and the manager takes the session. -/
def Registers (s : LlpListener P) (env : Env) (sid : UInt64) : Prop :=
  env.sendOk = true ∧ s.sessionManager.sessions.entries.length < MAX_SESSIONS ∧
    sid ∉ s.sessionManager.sessions

/-- A CLIENT_VERIFY that does not verify changes nothing. -/
theorem answerClientVerify_refused {e : Fault LlpError}
    (hw : s.handshakeStates.lookup peerAddr = some (.waitingClientVerify h sid prof))
    {packet : Bytes} (hverify : ServerHandshake.processClientVerify packet h = .error e h)
    (env : Env) :
    answerClientVerify env packet peerAddr h sid prof s = .error (e.map .llp) s := by
  unfold answerClientVerify
  rw [Method.bind_error (inEntry_error hw hverify h)]

/-- One that verifies goes through, or leaves the finished handshake in the entry. -/
theorem answerClientVerify_verified
    (hw : s.handshakeStates.lookup peerAddr = some (.waitingClientVerify h sid prof))
    {packet : Bytes} (hverify : ServerHandshake.processClientVerify packet h = .ok () h')
    (env : Env) :
    (Registers s env sid ∧ ∃ s', answerClientVerify env packet peerAddr h sid prof s = .ok () s') ∨
      (¬ Registers s env sid ∧ h.state = .serverHelloSent ∧
        ∃ e s', answerClientVerify env packet peerAddr h sid prof s = .error e s' ∧
          s'.handshakeStates.lookup peerAddr =
            some (.waitingClientVerify { h with state := .completed } sid prof)) := by
  rcases ServerHandshake.processClientVerify_cases packet h with
    ⟨ch, sh, key, v, hstate, hch, hsh, hkey, -, -, hrun⟩ | ⟨e, herr⟩
  case inr =>
    rw [herr] at hverify
    cases hverify
  have hsend := @ServerHandshake.sendServerVerify_run P { h with state := .clientVerifyReceived }
    ch sh key rfl hch hsh hkey
  have hsessionKey : (ServerHandshake.sessionKey? <$> get : Method (ServerHandshake P) LlpError _)
      { h with state := .completed } = .ok (some key) { h with state := .completed } := by
    show EStateM.Result.ok _ _ = _
    rw [ServerHandshake.sessionKey?, if_pos rfl, hkey]
  obtain ⟨t₁, hverified, hentry₁, hmanager₁⟩ := inEntry_ok hw hrun h sid prof
  obtain ⟨t₂, hanswer, hentry₂, hmanager₂⟩ := inEntry_ok hentry₁ hsend h sid prof
  unfold answerClientVerify
  rw [Method.bind_ok hverified, Method.bind_ok hanswer]
  cases hsendOk : env.sendOk with
  | false =>
      refine Or.inr ⟨fun hreg => ?_, hstate, .err .io, t₂,
        Method.bind_error (Method.bind_error (Method.failIf_pos _ rfl _)), hentry₂⟩
      rw [hreg.1] at hsendOk
      cases hsendOk
  | true =>
      obtain ⟨t₃, hsent, hstates₃, hmanager₃⟩ := sendTo_ok _ peerAddr t₂
      obtain ⟨t₄, hread, hentry₄, hmanager₄⟩ :=
        inEntry_ok (hstates₃ ▸ hentry₂) hsessionKey h sid prof
      have hmanager : t₄.sessionManager = s.sessionManager :=
        hmanager₄.trans (hmanager₃.trans (hmanager₂.trans hmanager₁))
      rw [Method.bind_ok hsent, Method.bind_ok hread, Method.okOr_some, pure_bind]
      unfold Registers
      rw [← hmanager]
      by_cases hreg : t₄.sessionManager.sessions.entries.length < MAX_SESSIONS ∧
          sid ∉ t₄.sessionManager.sessions
      · have hadd := SessionManager.addSession_ok hreg.1 hreg.2 env.now key prof
        exact Or.inl ⟨⟨hsendOk, hreg⟩, _,
          Method.bind_ok (Method.focus_ok (Method.mapError_ok hadd))⟩
      · rcases SessionManager.addSession_cases env.now sid key prof t₄.sessionManager with
          ⟨hroom, hid, -⟩ | ⟨e, hfull⟩
        · exact absurd ⟨hroom, hid⟩ hreg
        · exact Or.inr ⟨fun h => hreg h.2, hstate, e.map .llp, t₄,
            Method.bind_error (Method.focus_error (Method.mapError_error hfull)), hentry₄⟩

end Verify

/-! ## Any datagram -/

/-- The tables that a rejected datagram should leave as they are. -/
def tables (s : LlpListener P) :
    Finmap (fun _ : SocketAddr => HandshakeState P) × Finmap (fun _ : SocketAddr => ClientSession) ×
      SessionManager :=
  (s.handshakeStates, s.clientSessions, s.sessionManager)

/-- If the call is `handle_handshake_packet` and fails, it leaves the tables as they are. -/
def RejectedClean (s : LlpListener P) : Event → Prop
  | .packet false env packet peerAddr =>
      ∀ e s', handleHandshakePacket env packet peerAddr s = .error e s' → s'.tables = s.tables
  | _ => True

/-- What it finds is not an entry to make for nothing, nor a handshake to finish for nothing. A
    new peer sends a CLIENT_HELLO that can be answered; where a handshake waits, the datagram
    does not verify, or the session can be registered. -/
def RejectSafe (s : LlpListener P) : Event → Prop
  | .packet false env packet peerAddr =>
      match s.handshakeStates.lookup peerAddr with
      | none => (ClientHello.deserialize packet).isOk = true ∧ env.sendOk = true
      | some .waitingClientHello => True
      | some (.waitingClientVerify serverHandshake sid _) =>
          (Method.result (ServerHandshake.processClientVerify packet serverHandshake)).isOk =
            false ∨ Registers s env sid
  | _ => True

section Reject

variable {s : LlpListener P} {peerAddr : SocketAddr}

theorem not_waiting {state : Option (HandshakeState P)}
    (hw : s.handshakeStates.lookup peerAddr = state)
    (hstate : ∀ h sid prof, state ≠ some (.waitingClientVerify h sid prof)) :
    ¬ Waiting s peerAddr := by
  rintro ⟨h, sid, prof, hl⟩
  exact hstate h sid prof (hw.symm.trans hl)

/-- A new peer keeps its entry, whatever becomes of the datagram. -/
theorem rejected_new (hw : s.handshakeStates.lookup peerAddr = none) (env : Env) (packet : Bytes) :
    RejectedClean s (.packet false env packet peerAddr) ↔
      (ClientHello.deserialize packet).isOk = true ∧ env.sendOk = true := by
  have hidle := not_waiting hw (by simp)
  unfold RejectedClean
  simp only [handleHandshakePacket_idle hidle]
  by_cases hanswer : (ClientHello.deserialize packet).isOk = true ∧ env.sendOk = true
  · refine iff_of_true (fun e s' herr => ?_) hanswer
    cases hdata : ClientHello.deserialize packet with
    | error e =>
        rw [hdata] at hanswer
        cases hanswer.1
    | ok ch =>
        obtain ⟨h, -, hok⟩ := answerClientHello_ok hdata hanswer.2 peerAddr
          { s with handshakeStates := s.handshakeStates.insert peerAddr .waitingClientHello }
        rw [hok] at herr
        cases herr
  · refine iff_of_false (fun hclean => ?_) hanswer
    rcases answerClientHello_cases env packet peerAddr
      { s with handshakeStates := s.handshakeStates.insert peerAddr .waitingClientHello } with
      ⟨ch, hdata, hsend⟩ | ⟨e, herr⟩
    · exact hanswer ⟨by rw [hdata]; rfl, hsend⟩
    · -- the entry was made before the datagram was read
      have hsame : s.handshakeStates.insert peerAddr .waitingClientHello = s.handshakeStates :=
        (Prod.mk.inj (hclean e _ herr)).1
      rw [← hsame, Finmap.lookup_insert] at hw
      cases hw

/-- A peer that waits for its CLIENT_HELLO stays as it is. -/
theorem rejected_again (hw : s.handshakeStates.lookup peerAddr = some .waitingClientHello)
    (env : Env) (packet : Bytes) : RejectedClean s (.packet false env packet peerAddr) := by
  have hidle := not_waiting hw (by simp)
  intro e s' herr
  rw [handleHandshakePacket_idle hidle, insert_lookup hw] at herr
  rcases answerClientHello_cases env packet peerAddr s with ⟨ch, hdata, hsend⟩ | ⟨e', herr'⟩
  · obtain ⟨h, -, hok⟩ := answerClientHello_ok hdata hsend peerAddr s
    rw [hok] at herr
    cases herr
  · rw [herr'] at herr
    cases herr
    rfl

/-- A waiting handshake is finished before the session is registered. -/
theorem rejected_waiting {h : ServerHandshake P} {sid : UInt64} {prof : MimicryProfile}
    (hw : s.handshakeStates.lookup peerAddr = some (.waitingClientVerify h sid prof)) (env : Env)
    (packet : Bytes) :
    RejectedClean s (.packet false env packet peerAddr) ↔
      (Method.result (ServerHandshake.processClientVerify packet h)).isOk = false ∨
        Registers s env sid := by
  unfold RejectedClean
  simp only [handleHandshakePacket_waiting hw]
  cases hverify : ServerHandshake.processClientVerify packet h with
  | error e h' =>
      refine iff_of_true (fun e' s' herr => ?_) (Or.inl rfl)
      have hsame : h' = h := (Method.FailsClean.of_cases fun h =>
        (ServerHandshake.processClientVerify_cases packet h).imp
          (fun ⟨_, _, _, _, _, _, _, _, _, _, hok⟩ => ⟨_, _, hok⟩) id) _ _ _ hverify
      rw [answerClientVerify_refused hw (hsame ▸ hverify)] at herr
      cases herr
      rfl
  | ok u h' =>
      rcases answerClientVerify_verified hw hverify env with
        ⟨hreg, s', hok⟩ | ⟨hreg, hstate, e, s', herr, hentry⟩
      · refine iff_of_true (fun e s'' herr => ?_) (Or.inr hreg)
        rw [hok] at herr
        cases herr
      · refine iff_of_false (fun hclean => ?_) ?_
        · have hsame : s'.handshakeStates = s.handshakeStates :=
            (Prod.mk.inj (hclean e s' herr)).1
          rw [hsame, hw, Option.some.injEq, HandshakeState.waitingClientVerify.injEq] at hentry
          rw [hentry.1] at hstate
          cases hstate
        · rintro (hfail | hreg')
          · cases hfail
          · exact hreg hreg'

theorem rejectedClean_iff (s : LlpListener P) (event : Event) :
    RejectedClean s event ↔ RejectSafe s event := by
  cases event with
  | others sessionManager natGateway clientRegistry channels => exact Iff.rfl
  | packet hasSession env packet peerAddr =>
      cases hasSession with
      | true => exact Iff.rfl
      | false =>
          cases hw : s.handshakeStates.lookup peerAddr with
          | none =>
              simp only [RejectSafe, hw]
              exact rejected_new hw env packet
          | some state =>
              cases state with
              | waitingClientHello =>
                  simp only [RejectSafe, hw]
                  exact iff_of_true (rejected_again hw env packet) trivial
              | waitingClientVerify h sid prof =>
                  simp only [RejectSafe, hw]
                  exact rejected_waiting hw env packet

end Reject

/-- **Rejected datagrams.** Over any calls on a new listener, `handle_handshake_packet` leaves the
    tables as they were whenever it fails, exactly when no failing datagram comes from a new peer,
    and none verifies a handshake whose session then cannot be registered. -/
theorem rejected_datagram_iff (A : ChaCha20Poly1305) (sessionManager : SessionManager)
    (natGateway : Option NatGateway) (clientRegistry : ClientRegistry) (events : List Event) :
    (calls P A).Always RejectedClean (bind P sessionManager natGateway clientRegistry) events ↔
      (calls P A).Always RejectSafe (bind P sessionManager natGateway clientRegistry) events :=
  (calls P A).always_congr rejectedClean_iff _ events

/-- One byte from a peer that the listener has not seen: an error, and an entry. -/
theorem junk_makes_entry :
    (Method.result (handleHandshakePacket sampleEnv [0xFF] samplePeer (sampleAfter []))).isOk =
        false ∧
      samplePeer ∉ (sampleAfter []).handshakeStates ∧
      samplePeer ∈ (Method.state (handleHandshakePacket sampleEnv [0xFF] samplePeer
        (sampleAfter []))).handshakeStates := by
  decide

end LlpListener

end Llp.Server
