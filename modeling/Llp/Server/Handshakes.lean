/-
  One handshake packet, in full.

  `handle_handshake_packet` up to the registration of a session does one of six things. Without
  a handshake that waits, it answers a CLIENT_HELLO, or makes an entry and no more. With one, it
  refuses the datagram; or the CLIENT_VERIFY verifies, the handshake is over, and then
  SERVER_VERIFY is not sent, or the session manager refuses the session, or the session is
  registered.

  * `HandshakeStep`: the six, each with what it leaves behind.
  * `startHandshake_step`: the handler does one of them.
  * `Tasks.step_cases`: with it, all that one step of the listener's tasks can do.
-/
import Llp.Server.Rejections
import Llp.Server.Tasks

namespace Llp
open ByteCodec

/-! ## The end of a handshake -/

namespace ServerHandshake

variable {P : Primitives}

/-- What a CLIENT_VERIFY is answered with, and the session key it ends the handshake with. -/
def finish (packet : Bytes) : Method (ServerHandshake P) LlpError (Bytes × SessionKey) := do
  processClientVerify packet
  let serverVerify ← sendServerVerify
  let self ← get
  let sessionKey ← Method.lift self.sessionKey.unwrap
  pure (serverVerify, sessionKey)

/-- It ends when the tag verifies, and is left as it is otherwise. -/
theorem finish_cases (packet : Bytes) (h : ServerHandshake P) :
    (∃ ch sh key v, h.state = .serverHelloSent ∧ h.clientHello = some ch ∧
      h.serverHello = some sh ∧ h.sessionKey = some key ∧
      ClientVerify.deserialize packet = .ok v ∧
      v.verify P key (ch.serialize ++ sh.serialize) = .ok () ∧
      processClientVerify packet h = .ok () { h with state := .clientVerifyReceived } ∧
      finish packet h = .ok ((ServerVerify.new P key (ch.serialize ++ sh.serialize)).serialize, key)
        { h with state := .completed }) ∨
    ∃ e, processClientVerify packet h = .error e h ∧ finish packet h = .error e h := by
  unfold finish
  rcases processClientVerify_cases packet h with
    ⟨ch, sh, key, v, hstate, hch, hsh, hkey, hv, hverify, hrun⟩ | ⟨e, herr⟩
  · have hsend : sendServerVerify { h with state := .clientVerifyReceived } =
        .ok (ServerVerify.new P key (ch.serialize ++ sh.serialize)).serialize
          { h with state := .completed } := sendServerVerify_run rfl hch hsh hkey
    refine Or.inl ⟨ch, sh, key, v, hstate, hch, hsh, hkey, hv, hverify, hrun, ?_⟩
    rw [Method.bind_ok hrun, Method.bind_ok hsend, Method.get_bind]
    simp only [hkey]
    rfl
  · exact Or.inr ⟨e, herr, Method.bind_error herr⟩

/-- A handshake that is over does not end again. -/
theorem finish_completed (packet : Bytes) {h : ServerHandshake P} (hstate : h.state = .completed) :
    ∃ e, finish packet h = .error e h := by
  rcases finish_cases packet h with ⟨_, _, _, _, hsent, _⟩ | ⟨e, -, herr⟩
  · rw [hstate] at hsent
    cases hsent
  · exact ⟨e, herr⟩

/-- After its end a handshake is over, and has the key it was ended with. -/
theorem finish_eq_ok {packet serverVerify : Bytes} {key : SessionKey} {h h' : ServerHandshake P}
    (hok : finish packet h = .ok (serverVerify, key) h') :
    h.sessionKey = some key ∧ h' = { h with state := .completed } ∧
      ∃ ch sh v, h.clientHello = some ch ∧ h.serverHello = some sh ∧
        ClientVerify.deserialize packet = .ok v ∧
        v.verify P key (ch.serialize ++ sh.serialize) = .ok () ∧
        serverVerify = (ServerVerify.new P key (ch.serialize ++ sh.serialize)).serialize := by
  rcases finish_cases packet h with
    ⟨ch, sh, key', v, -, hch, hsh, hkey, hv, hverify, -, hrun⟩ | ⟨e, -, herr⟩
  · rw [hrun] at hok
    cases hok
    exact ⟨hkey, rfl, ch, sh, v, hch, hsh, hv, hverify, rfl⟩
  · rw [herr] at hok
    cases hok

end ServerHandshake

namespace Server

namespace LlpListener

variable {P : Primitives}

/-! ## The six cases -/

/-- The session key of a CLIENT_HELLO that a call answers. -/
def Env.sessionKey (P : Primitives) (env : Env) (ch : ClientHello) : SessionKey :=
  deriveSessionKey P (P.diffieHellman env.secret ch.clientPublicKey)
    (sessionSalt ch (env.serverHello P)) HKDF_INFO

/-- The handshake of the peer, once the call has answered. -/
def Env.greeted (P : Primitives) (env : Env) (ch : ClientHello) : ServerHandshake P :=
  { ServerHandshake.new P env.secret env.sessionId with
    clientHello := some ch
    serverHello := some (env.serverHello P)
    sessionKey := some (env.sessionKey P ch)
    state := .serverHelloSent }

/-- The session manager takes a session of this id. -/
def Takes (s : LlpListener P) (sessionId : UInt64) : Prop :=
  s.sessionManager.sessions.entries.length < MAX_SESSIONS ∧ sessionId ∉ s.sessionManager.sessions

instance (s : LlpListener P) (sessionId : UInt64) : Decidable (s.Takes sessionId) :=
  inferInstanceAs (Decidable (_ ∧ _))

/-- The entry of a peer written over. -/
def enter (peerAddr : SocketAddr) (state : HandshakeState P) (s : LlpListener P) :
    LlpListener P :=
  { s with handshakeStates := s.handshakeStates.insert peerAddr state }

/-- A datagram handed to the socket. -/
def answer (peerAddr : SocketAddr) (packet : Bytes) (s : LlpListener P) : LlpListener P :=
  { s with sent := s.sent ++ [(peerAddr, packet)] }

/-- `handle_handshake_packet` up to the registration: the client it registers, if any, and the
    listener it leaves behind. -/
inductive HandshakeStep (env : Env) (packet : Bytes) (peerAddr : SocketAddr)
    (s : LlpListener P) : Option ClientHandler → LlpListener P → Prop where
  /-- a CLIENT_HELLO is answered -/
  | greeted (ch : ClientHello) (hidle : ¬ Waiting s peerAddr)
      (hdata : ClientHello.deserialize packet = .ok ch) (hsend : env.sendOk = true) :
      HandshakeStep env packet peerAddr s none
        ((s.answer peerAddr (env.serverHello P).serialize).enter peerAddr
          (.waitingClientVerify (env.greeted P ch) env.sessionId ch.mimicryProfile))
  /-- it is none, or the answer cannot be sent -/
  | unanswered (hidle : ¬ Waiting s peerAddr)
      (hno : ∀ ch, ClientHello.deserialize packet = .ok ch → env.sendOk = false) :
      HandshakeStep env packet peerAddr s none (s.enter peerAddr .waitingClientHello)
  /-- the CLIENT_VERIFY does not verify -/
  | refused (h : ServerHandshake P) (sid : UInt64) (prof : MimicryProfile) (e : Fault LlpError)
      (hw : s.handshakeStates.lookup peerAddr = some (.waitingClientVerify h sid prof))
      (hfinish : ServerHandshake.finish packet h = .error e h) :
      HandshakeStep env packet peerAddr s none s
  /-- it verifies, and SERVER_VERIFY cannot be sent -/
  | unsent (h h' : ServerHandshake P) (sid : UInt64) (prof : MimicryProfile)
      (serverVerify : Bytes) (key : SessionKey)
      (hw : s.handshakeStates.lookup peerAddr = some (.waitingClientVerify h sid prof))
      (hfinish : ServerHandshake.finish packet h = .ok (serverVerify, key) h')
      (hsend : env.sendOk = false) :
      HandshakeStep env packet peerAddr s none
        (s.enter peerAddr (.waitingClientVerify h' sid prof))
  /-- it is sent, and the session manager refuses the session -/
  | untaken (h h' : ServerHandshake P) (sid : UInt64) (prof : MimicryProfile)
      (serverVerify : Bytes) (key : SessionKey)
      (hw : s.handshakeStates.lookup peerAddr = some (.waitingClientVerify h sid prof))
      (hfinish : ServerHandshake.finish packet h = .ok (serverVerify, key) h')
      (hsend : env.sendOk = true) (hfull : ¬ s.Takes sid) :
      HandshakeStep env packet peerAddr s none
        ((s.answer peerAddr serverVerify).enter peerAddr (.waitingClientVerify h' sid prof))
  /-- the session is registered -/
  | registered (h h' : ServerHandshake P) (sid : UInt64) (prof : MimicryProfile)
      (serverVerify : Bytes) (key : SessionKey)
      (hw : s.handshakeStates.lookup peerAddr = some (.waitingClientVerify h sid prof))
      (hfinish : ServerHandshake.finish packet h = .ok (serverVerify, key) h')
      (hsend : env.sendOk = true) (htakes : s.Takes sid) :
      HandshakeStep env packet peerAddr s (some ⟨sid, peerAddr, key⟩)
        { (s.answer peerAddr serverVerify).enter peerAddr (.waitingClientVerify h' sid prof) with
          sessionManager := { s.sessionManager with
            sessions := s.sessionManager.sessions.insert sid
              (Session.new env.now sid key prof) } }

section Outcome

variable {env : Env} {packet : Bytes} {peerAddr : SocketAddr} {s t : LlpListener P}
  {client : Option ClientHandler}

@[simp] theorem lookup_enter (state : HandshakeState P) (s : LlpListener P) :
    (s.enter peerAddr state).handshakeStates.lookup peerAddr = some state :=
  Finmap.lookup_insert _

theorem HandshakeStep.sessions (hstep : HandshakeStep env packet peerAddr s client t) :
    t.clientSessions = s.clientSessions := by
  cases hstep <;> rfl

/-- The other peers' handshakes stay as they are. -/
theorem HandshakeStep.other (hstep : HandshakeStep env packet peerAddr s client t)
    {q : SocketAddr} (hq : q ≠ peerAddr) :
    t.handshakeStates.lookup q = s.handshakeStates.lookup q := by
  cases hstep with
  | refused => rfl
  | _ => exact Finmap.lookup_insert_of_ne _ hq

/-- The peer has an entry afterwards. -/
theorem HandshakeStep.entered (hstep : HandshakeStep env packet peerAddr s client t) :
    peerAddr ∈ t.handshakeStates := by
  cases hstep with
  | refused h sid prof e hw => exact Finmap.mem_of_lookup_eq_some hw
  | _ => exact Finmap.mem_insert.mpr (Or.inl rfl)

/-- A handshake that waits afterwards has just been answered, or it has waited before, with the
    same hellos and key. -/
theorem HandshakeStep.waiting (hstep : HandshakeStep env packet peerAddr s client t)
    {h : ServerHandshake P} {sid : UInt64} {prof : MimicryProfile}
    (hl : t.handshakeStates.lookup peerAddr = some (.waitingClientVerify h sid prof)) :
    (∃ ch, ClientHello.deserialize packet = .ok ch ∧ h = env.greeted P ch ∧ sid = env.sessionId ∧
      t.sent = s.sent ++ [(peerAddr, (env.serverHello P).serialize)]) ∨
      ∃ h₀ state, s.handshakeStates.lookup peerAddr = some (.waitingClientVerify h₀ sid prof) ∧
        h = { h₀ with state := state } := by
  have hfinished : ∀ {h₀ h₁ : ServerHandshake P} {sid₀ : UInt64} {prof₀ : MimicryProfile}
      {sent : Bytes × SessionKey},
      s.handshakeStates.lookup peerAddr = some (.waitingClientVerify h₀ sid₀ prof₀) →
      ServerHandshake.finish packet h₀ = .ok sent h₁ →
      some (HandshakeState.waitingClientVerify h₁ sid₀ prof₀) =
        some (.waitingClientVerify h sid prof) →
      ∃ h₀ state, s.handshakeStates.lookup peerAddr = some (.waitingClientVerify h₀ sid prof) ∧
        h = { h₀ with state := state } := by
    intro h₀ h₁ sid₀ prof₀ sent hw hfinish heq
    cases heq
    exact ⟨h₀, .completed, hw, (ServerHandshake.finish_eq_ok hfinish).2.1⟩
  cases hstep with
  | greeted ch hidle hdata hsend =>
      rw [lookup_enter] at hl
      cases hl
      exact Or.inl ⟨ch, hdata, rfl, rfl, rfl⟩
  | unanswered hidle hno =>
      rw [lookup_enter] at hl
      cases hl
  | refused h₀ sid₀ prof₀ e hw hfinish => exact Or.inr ⟨h, h.state, hl, rfl⟩
  | unsent h₀ h₁ sid₀ prof₀ serverVerify key hw hfinish hsend =>
      exact Or.inr (hfinished hw hfinish ((lookup_enter _ _).symm.trans hl))
  | untaken h₀ h₁ sid₀ prof₀ serverVerify key hw hfinish hsend hfull =>
      exact Or.inr (hfinished hw hfinish ((lookup_enter _ _).symm.trans hl))
  | registered h₀ h₁ sid₀ prof₀ serverVerify key hw hfinish hsend htakes =>
      exact Or.inr (hfinished hw hfinish ((lookup_enter _ _).symm.trans hl))

end Outcome

/-! ## The handler does one of them -/

section Verify

variable {s : LlpListener P} {peerAddr : SocketAddr} {h h' : ServerHandshake P}
  {sid sid' : UInt64} {prof prof' : MimicryProfile}

theorem inEntry_enter {α : Type} {m : Method (ServerHandshake P) LlpError α} {a : α}
    (hw : s.handshakeStates.lookup peerAddr = some (.waitingClientVerify h sid' prof'))
    (hm : m h = .ok a h') (bound : ServerHandshake P) (sid : UInt64) (prof : MimicryProfile) :
    inEntry peerAddr bound sid prof m s =
      .ok a (s.enter peerAddr (.waitingClientVerify h' sid prof)) := by
  unfold inEntry
  rw [Method.focus_ok (t := h') (by
    rw [hw]
    exact Method.mapError_ok hm)]
  rfl

@[simp] theorem enter_enter (state state' : HandshakeState P) (s : LlpListener P) :
    (s.enter peerAddr state).enter peerAddr state' = s.enter peerAddr state' := by
  simp only [enter, Finmap.insert_insert]

theorem answer_enter (state : HandshakeState P) (packet : Bytes) (s : LlpListener P) :
    (s.enter peerAddr state).answer peerAddr packet =
      (s.answer peerAddr packet).enter peerAddr state := rfl

/-- The branch for CLIENT_VERIFY up to the session key is the end of the handshake, and its
    answer. -/
theorem acceptClientVerify_finish
    (hw : s.handshakeStates.lookup peerAddr = some (.waitingClientVerify h sid prof))
    {packet serverVerify : Bytes} {key : SessionKey}
    (hfinish : ServerHandshake.finish packet h = .ok (serverVerify, key) h') (env : Env) :
    acceptClientVerify env packet peerAddr h sid prof s =
      if env.sendOk then
        .ok key ((s.answer peerAddr serverVerify).enter peerAddr (.waitingClientVerify h' sid prof))
      else .error (.err .io) (s.enter peerAddr (.waitingClientVerify h' sid prof)) := by
  rcases ServerHandshake.finish_cases packet h with
    ⟨ch, sh, key', v, -, hch, hsh, hkey, -, -, hverified, hrun⟩ | ⟨e, -, herr⟩
  case inr =>
    rw [herr] at hfinish
    cases hfinish
  rw [hrun] at hfinish
  cases hfinish
  have hsend : ServerHandshake.sendServerVerify { h with state := .clientVerifyReceived } =
      .ok (ServerVerify.new P key (ch.serialize ++ sh.serialize)).serialize
        { h with state := .completed } := ServerHandshake.sendServerVerify_run rfl hch hsh hkey
  have hsessionKey : (ServerHandshake.sessionKey? <$> get : Method (ServerHandshake P) LlpError _)
      { h with state := .completed } = .ok (some key) { h with state := .completed } := by
    show EStateM.Result.ok _ _ = _
    rw [ServerHandshake.sessionKey?, if_pos rfl, hkey]
  unfold acceptClientVerify
  rw [Method.bind_ok (inEntry_enter hw hverified h sid prof),
    Method.bind_ok (inEntry_enter (lookup_enter _ s) hsend h sid prof), enter_enter]
  cases env.sendOk with
  | false => rfl
  | true =>
      have hsent : ∀ t : LlpListener P, sendTo true (ServerVerify.new P key
          (ch.serialize ++ sh.serialize)).serialize peerAddr t =
          .ok () (t.answer peerAddr (ServerVerify.new P key
            (ch.serialize ++ sh.serialize)).serialize) := fun _ => rfl
      rw [Method.bind_ok (hsent _), answer_enter,
        Method.bind_ok (inEntry_enter (lookup_enter _ _) hsessionKey h sid prof), enter_enter]
      rfl

theorem register_takes (htakes : s.Takes sid) (env : Env) (key : SessionKey)
    (prof : MimicryProfile) :
    register env sid key prof s = .ok ()
      { s with
        sessionManager := { s.sessionManager with
          sessions := s.sessionManager.sessions.insert sid (Session.new env.now sid key prof) } } :=
  Method.focus_ok (Method.mapError_ok
    (SessionManager.addSession_ok htakes.1 htakes.2 env.now key prof))

theorem register_full (hfull : ¬ s.Takes sid) (env : Env) (key : SessionKey)
    (prof : MimicryProfile) : ∃ e, register env sid key prof s = .error e s := by
  rcases SessionManager.addSession_cases env.now sid key prof s.sessionManager with
    ⟨hroom, hid, -⟩ | ⟨e, herr⟩
  · exact absurd ⟨hroom, hid⟩ hfull
  · exact ⟨_, Method.focus_error (Method.mapError_error herr)⟩

end Verify

section Hello

variable {packet : Bytes} (env : Env) (peerAddr : SocketAddr) (s : LlpListener P)

theorem processClientHello_greeted {ch : ClientHello}
    (hdata : ClientHello.deserialize packet = .ok ch) (env : Env) :
    ServerHandshake.processClientHello env.serverRandom packet
        (ServerHandshake.new P env.secret env.sessionId) =
      .ok ((env.serverHello P).serialize, ch.mimicryProfile) (env.greeted P ch) :=
  ServerHandshake.processClientHello_run env.serverRandom rfl hdata

theorem answerClientHello_hello {ch : ClientHello}
    (hdata : ClientHello.deserialize packet = .ok ch) :
    answerClientHello env packet peerAddr s =
      if env.sendOk then
        .ok () ((s.answer peerAddr (env.serverHello P).serialize).enter peerAddr
          (.waitingClientVerify (env.greeted P ch) env.sessionId ch.mimicryProfile))
      else .error (.err .io) s := by
  unfold answerClientHello
  rw [Method.bind_ok (Method.onLocal_ok (Method.mapError_ok
    (processClientHello_greeted hdata env)) s)]
  cases hsend : env.sendOk with
  | true => rfl
  | false => rfl

theorem answerClientHello_other (hdata : ¬ ∃ ch, ClientHello.deserialize packet = .ok ch) :
    ∃ e, answerClientHello env packet peerAddr s = .error e s := by
  rcases ServerHandshake.processClientHello_cases env.serverRandom packet
    (ServerHandshake.new P env.secret env.sessionId) with ⟨ch, -, hch, -⟩ | ⟨e, herr⟩
  · exact absurd ⟨ch, hch⟩ hdata
  · exact ⟨_, Method.bind_error (Method.onLocal_error (Method.mapError_error herr) s)⟩

end Hello

/-- The client that the handler has registered. -/
def started : EStateM.Result (Fault BoxError) (LlpListener P) (Option ClientHandler) →
    Option ClientHandler
  | .ok client _ => client
  | .error _ _ => none

theorem startClientVerify_step (env : Env) (packet : Bytes) {peerAddr : SocketAddr}
    {s : LlpListener P} {h : ServerHandshake P} {sid : UInt64} {prof : MimicryProfile}
    (hw : s.handshakeStates.lookup peerAddr = some (.waitingClientVerify h sid prof)) :
    HandshakeStep env packet peerAddr s
      (started (startClientVerify env packet peerAddr h sid prof s))
      (Method.state (startClientVerify env packet peerAddr h sid prof s)) := by
  unfold startClientVerify
  rcases ServerHandshake.finish_cases packet h with
    ⟨ch, sh, key, v, -, -, -, -, -, -, -, hfinish⟩ | ⟨e, hverify, hfinish⟩
  · have haccept := acceptClientVerify_finish hw hfinish env
    cases hsend : env.sendOk with
    | false =>
        rw [hsend, if_neg Bool.false_ne_true] at haccept
        rw [Method.bind_error haccept]
        exact .unsent h _ sid prof _ key hw hfinish hsend
    | true =>
        rw [hsend, if_pos rfl] at haccept
        rw [Method.bind_ok haccept]
        generalize hanswered : (s.answer peerAddr _).enter peerAddr _ = t
        have hmanager : t.sessionManager = s.sessionManager := by rw [← hanswered]; rfl
        by_cases htakes : s.Takes sid
        · have htaken : t.Takes sid := by rwa [Takes, hmanager]
          rw [Method.bind_ok (register_takes htaken env key prof), hmanager, ← hanswered]
          exact .registered h _ sid prof _ key hw hfinish hsend htakes
        · have hfull : ¬ t.Takes sid := by rwa [Takes, hmanager]
          obtain ⟨e, herr⟩ := register_full hfull env key prof
          rw [Method.bind_error herr, ← hanswered]
          exact .untaken h _ sid prof _ key hw hfinish hsend htakes
  · have haccept : acceptClientVerify env packet peerAddr h sid prof s = .error (e.map .llp) s :=
      Method.bind_error (inEntry_error hw hverify h)
    rw [Method.bind_error haccept]
    exact .refused h sid prof e hw hfinish

/-- **A handshake packet** is handled in one of the six ways. -/
theorem startHandshake_step (env : Env) (packet : Bytes) (peerAddr : SocketAddr)
    (s : LlpListener P) :
    HandshakeStep env packet peerAddr s (started (startHandshake env packet peerAddr s))
      (Method.state (startHandshake env packet peerAddr s)) := by
  by_cases hw : Waiting s peerAddr
  · obtain ⟨h, sid, prof, hl⟩ := hw
    have hstart : startHandshake env packet peerAddr s =
        startClientVerify env packet peerAddr h sid prof s := by
      unfold startHandshake setState
      rw [Method.get_bind, hl, Option.getD_some, Method.modify_bind, insert_lookup hl]
    rw [hstart]
    exact startClientVerify_step env packet hl
  · have hstate : (s.handshakeStates.lookup peerAddr).getD .waitingClientHello =
        .waitingClientHello := by
      cases hl : s.handshakeStates.lookup peerAddr with
      | none => rfl
      | some state =>
          cases state with
          | waitingClientHello => rfl
          | waitingClientVerify h sid prof => exact absurd ⟨h, sid, prof, hl⟩ hw
    have hstart : startHandshake env packet peerAddr s =
        (answerClientHello env packet peerAddr >>= fun _ => pure none)
          (s.enter peerAddr .waitingClientHello) := by
      unfold startHandshake setState
      rw [Method.get_bind, hstate, Method.modify_bind]
      rfl
    rw [hstart]
    by_cases hdata : ∃ ch, ClientHello.deserialize packet = .ok ch
    · obtain ⟨ch, hdata⟩ := hdata
      have hanswer := answerClientHello_hello env peerAddr (s.enter peerAddr .waitingClientHello)
        hdata
      cases hsend : env.sendOk with
      | true =>
          rw [hsend, if_pos rfl, answer_enter, enter_enter] at hanswer
          rw [Method.bind_ok hanswer]
          exact .greeted ch hw hdata hsend
      | false =>
          rw [hsend, if_neg Bool.false_ne_true] at hanswer
          rw [Method.bind_error hanswer]
          exact .unanswered hw fun _ _ => hsend
    · obtain ⟨e, herr⟩ := answerClientHello_other env peerAddr
        (s.enter peerAddr .waitingClientHello) hdata
      rw [Method.bind_error herr]
      exact .unanswered hw fun ch hch => absurd ⟨ch, hch⟩ hdata

end LlpListener

/-! ## Steps of the tasks -/

namespace Tasks

variable {P : Primitives}

/-- One step of the tasks: its output, and what it leaves behind. -/
inductive Step (A : ChaCha20Poly1305) (s : Tasks P) :
    Event → Option (SocketAddr × Bytes) → Tasks P → Prop where
  /-- the task is not at that point, or it waits -/
  | idle (e : Event) : Step A s e none s
  | arrive (packet : Bytes) (peerAddr : SocketAddr) (hlen : packet.length ≠ 0) :
      Step A s (.arrive packet peerAddr) none
        { s with tasks := s.tasks ++ [⟨packet, peerAddr, .arrived⟩] }
  | look (i : ℕ) (packet : Bytes) (peerAddr : SocketAddr)
      (hi : s.tasks[i]? = some ⟨packet, peerAddr, .arrived⟩) :
      Step A s (.look i) none { s with
        tasks := s.tasks.set i
          ⟨packet, peerAddr, .looked (peerAddr ∈ s.listener.clientSessions)⟩ }
  | vpn (i : ℕ) (env : LlpListener.Env) (packet : Bytes) (peerAddr : SocketAddr)
      (hi : s.tasks[i]? = some ⟨packet, peerAddr, .looked true⟩) :
      Step A s (.handle i env)
        ((s.listener.forwarded A packet peerAddr).map fun plaintext => (peerAddr, plaintext))
        (s.handleVpn A i env packet peerAddr)
  | handshake (i : ℕ) (env : LlpListener.Env) (packet : Bytes) (peerAddr : SocketAddr)
      (hi : s.tasks[i]? = some ⟨packet, peerAddr, .looked false⟩) (hfree : s.connecting = none)
      (client : Option ClientHandler) (t : LlpListener P)
      (ht : LlpListener.HandshakeStep env packet peerAddr s.listener client t) :
      Step A s (.handle i env) none
        ⟨t, s.tasks.set i ⟨packet, peerAddr, .handled⟩, client.map fun client => ⟨client, false⟩⟩
  | connect (client : ClientHandler) (h : s.connecting = some ⟨client, false⟩) :
      Step A s .connect none { s with
        listener := s.listener.connect client
        connecting := some ⟨client, true⟩ }
  | release (client : ClientHandler) (h : s.connecting = some ⟨client, true⟩) :
      Step A s .release none { s with
        listener := s.listener.forget client.peerAddr
        connecting := none }
  /-- the cleanup timer, and what else shares parts of the listener -/
  | others (e : Event) (sessionManager : SessionManager) (natGateway : Option NatGateway)
      (clientRegistry : ClientRegistry) (channels : Channels) :
      Step A s e none { s with
        listener := { s.listener with sessionManager, natGateway, clientRegistry, channels } }

theorem handleHandshake_eq (i : ℕ) (env : LlpListener.Env) (packet : Bytes)
    (peerAddr : SocketAddr) (s : Tasks P) :
    s.handleHandshake i env packet peerAddr =
      ⟨Method.state (LlpListener.startHandshake env packet peerAddr s.listener),
        s.tasks.set i ⟨packet, peerAddr, .handled⟩,
        (LlpListener.started (LlpListener.startHandshake env packet peerAddr s.listener)).map
          fun client => ⟨client, false⟩⟩ := by
  unfold handleHandshake
  cases LlpListener.startHandshake env packet peerAddr s.listener with
  | error e t => rfl
  | ok client t =>
      cases client with
      | none => rfl
      | some client => rfl

theorem step_cases (A : ChaCha20Poly1305) (s : Tasks P) (e : Event) :
    Step A s e ((machine P A).step s e).1 ((machine P A).step s e).2 := by
  show Step A s e (step A s e).1 (step A s e).2
  cases e with
  | arrive packet peerAddr =>
      unfold step
      simp only
      split
      · exact .idle _
      · next hlen => exact .arrive packet peerAddr hlen
  | look i =>
      unfold step
      simp only
      split
      · next packet peerAddr hi => exact .look i packet peerAddr hi
      · exact .idle _
  | handle i env =>
      unfold step
      simp only
      split
      · next packet peerAddr hi => exact .vpn i env packet peerAddr hi
      · next packet peerAddr hi =>
          split
          · next hfree =>
              rw [handleHandshake_eq]
              exact .handshake i env packet peerAddr hi (Option.isNone_iff_eq_none.mp hfree) _ _
                (LlpListener.startHandshake_step env packet peerAddr s.listener)
          · exact .idle _
      · exact .idle _
  | connect =>
      unfold step
      simp only
      split
      · next client h => exact .connect client h
      · exact .idle _
  | release =>
      unfold step
      simp only
      split
      · next client h => exact .release client h
      · exact .idle _
  | cleanup clock => exact .others _ _ _ _ _
  | others natGateway clientRegistry channels => exact .others _ _ _ _ _

end Tasks

end Server

end Llp
