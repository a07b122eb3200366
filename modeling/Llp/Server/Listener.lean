/-
  `llp-server/listener.rs`: the UDP listener.

  A datagram of a peer with an entry in `client_sessions` is a VPN packet, any other belongs
  to the handshake of the peer, whose state is kept in `handshake_states`. Each datagram has
  a task of its own. The handshake handler holds the lock of `handshake_states` throughout and
  the VPN handler that of `client_sessions`, so a run is a list of such calls, with what other
  tasks do to the shared parts between them; a call may follow a look at `client_sessions`
  that other calls have overtaken.

  * `handleHandshakePacket_hello`: with no handshake waiting, a CLIENT_HELLO is answered.
  * `handleHandshakePacket_refused`: while one waits, it is refused and changes nothing.
  * `client_hello_answered`: the two in every reachable state, and a handshake only waits
    after its SERVER_HELLO was sent.
-/
import Mathlib.Data.Finmap
import Llp.Core.Handshake
import Llp.Core.Session
import Llp.Server.Handlers

namespace Llp.Server
open ByteCodec

/-- The listener's `HandshakeState`, kept for each peer. -/
inductive LlpListener.HandshakeState (P : Primitives) where
  | waitingClientHello
  | waitingClientVerify (serverHandshake : ServerHandshake P) (sessionId : UInt64)
      (mimicryProfile : MimicryProfile)

/-- `ClientSession`. -/
structure ClientSession where
  sessionId : UInt64
  sessionKey : SessionKey
  receiveCounter : UInt64
  vpnIp : IpAddr
deriving DecidableEq

/-- `LlpListener`, with what it shares with other tasks: the session manager, the NAT
    gateway, the client registry and its channels. `sent` holds the datagrams handed to the
    socket, `spawned` the handlers whose `run` was spawned. -/
structure LlpListener (P : Primitives) where
  sessionManager : SessionManager
  natGateway : Option NatGateway
  clientRegistry : ClientRegistry
  channels : Channels
  handshakeStates : Finmap fun _ : SocketAddr => LlpListener.HandshakeState P
  clientSessions : Finmap fun _ : SocketAddr => ClientSession
  sent : List (SocketAddr × Bytes)
  spawned : List ClientHandler

namespace LlpListener

/-- What one call draws and meets: the random secret, random bytes and session id, whether
    the socket and the TUN device take what they are given, and the clock. -/
structure Env where
  secret : Arr 32
  serverRandom : Arr 32
  sessionId : UInt64
  sendOk : Bool
  writeOk : Bool
  now : Instant

variable {P : Primitives}

/-- `bind`: no peer yet. -/
def bind (P : Primitives) (sessionManager : SessionManager) (natGateway : Option NatGateway)
    (clientRegistry : ClientRegistry) : LlpListener P where
  sessionManager := sessionManager
  natGateway := natGateway
  clientRegistry := clientRegistry
  channels := []
  handshakeStates := ∅
  clientSessions := ∅
  sent := []
  spawned := []

/-- `socket.send_to(..).await?` -/
def sendTo (sendOk : Bool) (packet : Bytes) (peerAddr : SocketAddr) :
    Method (LlpListener P) BoxError Unit := do
  Method.failIf (!sendOk) .io
  modify fun self => { self with sent := self.sent ++ [(peerAddr, packet)] }

/-- Write the entry of a peer. -/
def setState (peerAddr : SocketAddr) (state : HandshakeState P) :
    Method (LlpListener P) BoxError Unit :=
  modify fun self => { self with handshakeStates := self.handshakeStates.insert peerAddr state }

/-- Call the `ServerHandshake` in the entry of a peer, which the match bound as
    `serverHandshake`. -/
def inEntry {α : Type} (peerAddr : SocketAddr) (serverHandshake : ServerHandshake P)
    (sessionId : UInt64) (mimicryProfile : MimicryProfile)
    (m : Method (ServerHandshake P) LlpError α) : Method (LlpListener P) BoxError α :=
  Method.focus
    (fun self =>
      match self.handshakeStates.lookup peerAddr with
      | some (.waitingClientVerify serverHandshake _ _) => serverHandshake
      | _ => serverHandshake)
    (fun serverHandshake self => { self with
      handshakeStates := self.handshakeStates.insert peerAddr
        (.waitingClientVerify serverHandshake sessionId mimicryProfile) })
    (Method.mapError .llp m)

/-- The branch of `handle_handshake_packet` for `WaitingClientHello`. -/
def answerClientHello (env : Env) (packet : Bytes) (peerAddr : SocketAddr) :
    Method (LlpListener P) BoxError Unit := do
  let ((serverHello, mimicryProfile), serverHandshake) ←
    Method.onLocal (ServerHandshake.new P env.secret env.sessionId)
      (Method.mapError .llp (ServerHandshake.processClientHello env.serverRandom packet))
  sendTo env.sendOk serverHello peerAddr
  setState peerAddr (.waitingClientVerify serverHandshake env.sessionId mimicryProfile)

/-- Its branch for `WaitingClientVerify`. -/
def answerClientVerify (env : Env) (packet : Bytes) (peerAddr : SocketAddr)
    (serverHandshake : ServerHandshake P) (sessionId : UInt64) (mimicryProfile : MimicryProfile) :
    Method (LlpListener P) BoxError Unit := do
  inEntry peerAddr serverHandshake sessionId mimicryProfile
    (ServerHandshake.processClientVerify packet)
  let serverVerify ← inEntry peerAddr serverHandshake sessionId mimicryProfile
    ServerHandshake.sendServerVerify
  sendTo env.sendOk serverVerify peerAddr
  let sessionKey ← inEntry peerAddr serverHandshake sessionId mimicryProfile
    (ServerHandshake.sessionKey? <$> get)
  let sessionKey ← Method.okOr (.message "Сессионный ключ не получен") sessionKey
  Method.focus (·.sessionManager) (fun manager self => { self with sessionManager := manager })
    (Method.mapError .llp
      (SessionManager.addSession env.now sessionId sessionKey mimicryProfile))
  modify fun self => { self with
    clientSessions := self.clientSessions.insert peerAddr
      ⟨sessionId, sessionKey, 0, vpnIp sessionId⟩
    spawned := self.spawned ++ [⟨sessionId, peerAddr, sessionKey⟩]
    handshakeStates := self.handshakeStates.erase peerAddr }

/-- `handle_handshake_packet`. A peer without an entry gets one. -/
def handleHandshakePacket (env : Env) (packet : Bytes) (peerAddr : SocketAddr) :
    Method (LlpListener P) BoxError Unit := do
  let self ← get
  let state := (self.handshakeStates.lookup peerAddr).getD .waitingClientHello
  setState peerAddr state
  match state with
  | .waitingClientHello => answerClientHello env packet peerAddr
  | .waitingClientVerify serverHandshake sessionId mimicryProfile =>
      answerClientVerify env packet peerAddr serverHandshake sessionId mimicryProfile

/-- `handle_vpn_packet`. -/
def handleVpnPacket (A : ChaCha20Poly1305) (env : Env) (packet : Bytes) (peerAddr : SocketAddr) :
    Method (LlpListener P) BoxError Unit :=
  modify fun self =>
    match self.clientSessions.lookup peerAddr with
    | some session =>
        let decryptCipher := AeadCipher.new session.sessionKey session.sessionId
        let incoming := ClientHandler.handleIncomingPacket A decryptCipher self.clientRegistry
          session.vpnIp env.writeOk packet
          ⟨session.receiveCounter, self.channels, self.natGateway⟩
        { self with
          clientSessions := self.clientSessions.insert peerAddr
            { session with receiveCounter := incoming.receiveCounter }
          channels := incoming.channels
          natGateway := incoming.natGateway }
    | none => self

/-- The second half of `handle_packet`, by what the look at `client_sessions` found. -/
def dispatch (A : ChaCha20Poly1305) (hasSession : Bool) (env : Env) (packet : Bytes)
    (peerAddr : SocketAddr) : Method (LlpListener P) BoxError Unit :=
  if hasSession then handleVpnPacket A env packet peerAddr
  else handleHandshakePacket env packet peerAddr

/-- `handle_packet`. -/
def handlePacket (A : ChaCha20Poly1305) (env : Env) (packet : Bytes) (peerAddr : SocketAddr) :
    Method (LlpListener P) BoxError Unit := do
  let self ← get
  dispatch A (peerAddr ∈ self.clientSessions) env packet peerAddr

/-! ## One datagram -/

/-- The SERVER_HELLO that a call answers a CLIENT_HELLO with. -/
def Env.serverHello (P : Primitives) (env : Env) : ServerHello :=
  ServerHello.new env.serverRandom (X25519Key.generate P env.secret) env.sessionId

/-- Some handshake of the peer waits for its CLIENT_VERIFY. -/
def Waiting (s : LlpListener P) (peerAddr : SocketAddr) : Prop :=
  ∃ h sid prof, s.handshakeStates.lookup peerAddr = some (.waitingClientVerify h sid prof)

/-- Writing back what is there changes nothing. -/
theorem insert_lookup {states : Finmap fun _ : SocketAddr => HandshakeState P}
    {peerAddr : SocketAddr} {state : HandshakeState P} (h : states.lookup peerAddr = some state) :
    states.insert peerAddr state = states := by
  apply Finmap.ext_lookup
  intro p
  by_cases hp : p = peerAddr
  · rw [hp, Finmap.lookup_insert, h]
  · rw [Finmap.lookup_insert_of_ne _ hp]

/-- The handshake of a peer goes to one branch or the other. -/
theorem handleHandshakePacket_waiting {s : LlpListener P} {peerAddr : SocketAddr}
    {h : ServerHandshake P} {sid : UInt64} {prof : MimicryProfile}
    (hw : s.handshakeStates.lookup peerAddr = some (.waitingClientVerify h sid prof)) (env : Env)
    (packet : Bytes) :
    handleHandshakePacket env packet peerAddr s =
      answerClientVerify env packet peerAddr h sid prof s := by
  unfold handleHandshakePacket setState
  rw [Method.get_bind, hw, Option.getD_some, Method.modify_bind, insert_lookup hw]

theorem handleHandshakePacket_idle {s : LlpListener P} {peerAddr : SocketAddr}
    (hw : ¬ Waiting s peerAddr) (env : Env) (packet : Bytes) :
    handleHandshakePacket env packet peerAddr s =
      answerClientHello env packet peerAddr
        { s with
          handshakeStates := s.handshakeStates.insert peerAddr .waitingClientHello } := by
  have hstate : (s.handshakeStates.lookup peerAddr).getD .waitingClientHello =
      .waitingClientHello := by
    cases hl : s.handshakeStates.lookup peerAddr with
    | none => rfl
    | some state =>
        cases state with
        | waitingClientHello => rfl
        | waitingClientVerify h sid prof => exact absurd ⟨h, sid, prof, hl⟩ hw
  unfold handleHandshakePacket setState
  rw [Method.get_bind, hstate, Method.modify_bind]

/-- A CLIENT_HELLO answered: its SERVER_HELLO is sent, and the peer's handshake waits. -/
theorem answerClientHello_ok {packet : Bytes} {ch : ClientHello}
    (hdata : ClientHello.deserialize packet = .ok ch) {env : Env} (hsend : env.sendOk = true)
    (peerAddr : SocketAddr) (s : LlpListener P) :
    ∃ h, h.serverHello = some (env.serverHello P) ∧
      answerClientHello env packet peerAddr s = .ok ()
        { s with
          sent := s.sent ++ [(peerAddr, (env.serverHello P).serialize)]
          handshakeStates := s.handshakeStates.insert peerAddr
            (.waitingClientVerify h env.sessionId ch.mimicryProfile) } := by
  obtain ⟨h, hproc, hsh, -⟩ := ServerHandshake.processClientHello_ok env.serverRandom hdata
    (s := ServerHandshake.new P env.secret env.sessionId) rfl
  refine ⟨h, hsh, ?_⟩
  unfold answerClientHello
  rw [Method.bind_ok (Method.onLocal_ok (Method.mapError_ok hproc) s)]
  unfold sendTo
  rw [hsend]
  rfl

/-- What the branch does otherwise: nothing. -/
theorem answerClientHello_cases (env : Env) (packet : Bytes) (peerAddr : SocketAddr)
    (s : LlpListener P) :
    (∃ ch, ClientHello.deserialize packet = .ok ch ∧ env.sendOk = true) ∨
      ∃ e, answerClientHello env packet peerAddr s = .error e s := by
  rcases ServerHandshake.processClientHello_cases env.serverRandom packet
    (ServerHandshake.new P env.secret env.sessionId) with ⟨ch, -, hdata, hproc⟩ | ⟨e, hproc⟩
  · cases hsend : env.sendOk with
    | true => exact Or.inl ⟨ch, hdata, rfl⟩
    | false =>
        refine Or.inr ⟨.err .io, ?_⟩
        unfold answerClientHello
        rw [Method.bind_ok (Method.onLocal_ok (Method.mapError_ok hproc) s)]
        unfold sendTo
        rw [hsend]
        rfl
  · refine Or.inr ⟨e.map .llp, ?_⟩
    unfold answerClientHello
    rw [Method.bind_error (Method.onLocal_error (Method.mapError_error hproc) s)]

/-- With no handshake waiting, a CLIENT_HELLO is answered. -/
theorem handleHandshakePacket_hello {packet : Bytes} {ch : ClientHello}
    (hdata : ClientHello.deserialize packet = .ok ch) {env : Env} (hsend : env.sendOk = true)
    {peerAddr : SocketAddr} {s : LlpListener P} (hw : ¬ Waiting s peerAddr) :
    ∃ s', handleHandshakePacket env packet peerAddr s = .ok () s' ∧
      s'.sent = s.sent ++ [(peerAddr, (env.serverHello P).serialize)] := by
  obtain ⟨h, -, hok⟩ := answerClientHello_ok hdata hsend peerAddr
    { s with handshakeStates := s.handshakeStates.insert peerAddr .waitingClientHello }
  exact ⟨_, (handleHandshakePacket_idle hw env packet).trans hok, rfl⟩

/-- While a handshake waits for its CLIENT_VERIFY, a CLIENT_HELLO is refused, and the
    listener stays as it is. -/
theorem handleHandshakePacket_refused {packet : Bytes} {ch : ClientHello}
    (hdata : ClientHello.deserialize packet = .ok ch) (env : Env) {peerAddr : SocketAddr}
    {s : LlpListener P} {h : ServerHandshake P} {sid : UInt64} {prof : MimicryProfile}
    (hw : s.handshakeStates.lookup peerAddr = some (.waitingClientVerify h sid prof))
    (hstate : h.state = .serverHelloSent) :
    handleHandshakePacket env packet peerAddr s =
      .error (.err (.llp (.handshakeError
        (.unexpectedMessage "CLIENT_VERIFY" "type 1")))) s := by
  rw [handleHandshakePacket_waiting hw]
  unfold answerClientVerify
  have hentry : inEntry peerAddr h sid prof (ServerHandshake.processClientVerify packet) s =
      .error (.err (.llp (.handshakeError
        (.unexpectedMessage "CLIENT_VERIFY" "type 1")))) s := by
    unfold inEntry
    rw [Method.focus_error (t := h) (by
      rw [hw]
      exact Method.mapError_error (ServerHandshake.processClientVerify_hello hdata hstate)),
      insert_lookup hw]
    rfl
  exact Method.bind_error hentry

/-! ## Runs -/

/-- One call of a datagram's task, after its look at `client_sessions`; or what other tasks
    made of the shared parts. -/
inductive Event where
  | packet (hasSession : Bool) (env : Env) (packet : Bytes) (peerAddr : SocketAddr)
  | others (sessionManager : SessionManager) (natGateway : Option NatGateway)
      (clientRegistry : ClientRegistry) (channels : Channels)

/-- The calls on the listener, in the order they get their locks. -/
def calls (P : Primitives) (A : ChaCha20Poly1305) :
    Machine (LlpListener P) Event (Fallible BoxError Unit) :=
  Method.machine fun
    | .packet hasSession env packet peerAddr => dispatch A hasSession env packet peerAddr
    | .others sessionManager natGateway clientRegistry channels =>
        modify fun self => { self with sessionManager, natGateway, clientRegistry, channels }

/-- The SERVER_HELLO of the handshake was sent to the peer. -/
def Answered (peerAddr : SocketAddr) (h : ServerHandshake P) (s : LlpListener P) : Prop :=
  ∃ sh, h.serverHello = some sh ∧ (peerAddr, sh.serialize) ∈ s.sent

/-- Every handshake that waits for its CLIENT_VERIFY has been answered. -/
def Inv (s : LlpListener P) : Prop :=
  ∀ peerAddr h sid prof, s.handshakeStates.lookup peerAddr =
    some (.waitingClientVerify h sid prof) → Answered peerAddr h s

theorem Inv.insert {s s' : LlpListener P} (hs : Inv s) {peerAddr : SocketAddr}
    {state : HandshakeState P}
    (hstates : s'.handshakeStates = s.handshakeStates.insert peerAddr state)
    (hsent : s.sent ⊆ s'.sent)
    (hstate : ∀ h sid prof, state = .waitingClientVerify h sid prof → Answered peerAddr h s') :
    Inv s' := by
  intro p h sid prof hl
  rw [hstates] at hl
  by_cases hp : p = peerAddr
  · subst hp
    rw [Finmap.lookup_insert] at hl
    exact hstate h sid prof (Option.some.inj hl)
  · rw [Finmap.lookup_insert_of_ne _ hp] at hl
    obtain ⟨sh, hsh, hmem⟩ := hs p h sid prof hl
    exact ⟨sh, hsh, hsent hmem⟩

section Verify

variable (peerAddr : SocketAddr) (serverHandshake : ServerHandshake P)

/-- What the `WaitingClientVerify` branch keeps. -/
def VerifyInv (s : LlpListener P) : Prop := Inv s ∧ Answered peerAddr serverHandshake s

theorem sendTo_keeps (sendOk : Bool) (packet : Bytes) :
    Method.Keeps (VerifyInv peerAddr serverHandshake) (sendTo sendOk packet peerAddr) := by
  refine (Method.Keeps.failIf _ _).bind fun _ => Method.Keeps.modify ?_
  rintro s ⟨hs, sh, hsh, hmem⟩
  refine ⟨?_, sh, hsh, List.mem_append_left _ hmem⟩
  intro p h sid prof hl
  obtain ⟨sh', hsh', hmem'⟩ := hs p h sid prof hl
  exact ⟨sh', hsh', List.mem_append_left _ hmem'⟩

/-- A call of the handshake that does not change its SERVER_HELLO. -/
theorem inEntry_keeps {α : Type} (sid : UInt64) (prof : MimicryProfile)
    {m : Method (ServerHandshake P) LlpError α}
    (hm : ∀ h, (Method.state (m h)).serverHello = h.serverHello) :
    Method.Keeps (VerifyInv peerAddr serverHandshake)
      (inEntry peerAddr serverHandshake sid prof m) := by
  refine Method.Keeps.focus ?_
  rintro s ⟨hs, hanswered⟩
  rw [Method.state_mapError]
  -- the handshake in the entry, or else the one that was bound, was answered
  have hentry : Answered peerAddr
      (match s.handshakeStates.lookup peerAddr with
        | some (.waitingClientVerify serverHandshake _ _) => serverHandshake
        | _ => serverHandshake) s := by
    split
    · next h sid' prof' hl => exact hs peerAddr h sid' prof' hl
    · exact hanswered
  obtain ⟨sh, hsh, hmem⟩ := hentry
  refine ⟨hs.insert rfl (List.Subset.refl _) ?_, hanswered⟩
  rintro h sid' prof' heq
  cases heq
  exact ⟨sh, (hm _).trans hsh, hmem⟩

theorem answerClientVerify_keeps (env : Env) (packet : Bytes) (sid : UInt64)
    (prof : MimicryProfile) :
    Method.Keeps (VerifyInv peerAddr serverHandshake)
      (answerClientVerify env packet peerAddr serverHandshake sid prof) := by
  refine (inEntry_keeps _ _ sid prof
    (ServerHandshake.processClientVerify_serverHello packet)).bind fun _ => ?_
  refine (inEntry_keeps _ _ sid prof ServerHandshake.sendServerVerify_serverHello).bind fun _ => ?_
  refine (sendTo_keeps _ _ env.sendOk _).bind fun _ => ?_
  refine (inEntry_keeps _ _ sid prof fun _ => rfl).bind fun _ => ?_
  refine (Method.Keeps.okOr _ _).bind fun _ => ?_
  refine (Method.Keeps.focus fun _ hs => hs).bind fun _ => Method.Keeps.modify ?_
  rintro s ⟨hs, hanswered⟩
  refine ⟨fun p h sid' prof' hl => hs p h sid' prof' ?_, hanswered⟩
  by_cases hp : p = peerAddr
  · rw [hp, Finmap.lookup_erase] at hl
    cases hl
  · rwa [Finmap.lookup_erase_ne hp] at hl

end Verify

theorem handleHandshakePacket_keeps (env : Env) (packet : Bytes) (peerAddr : SocketAddr) :
    Method.Keeps (Inv (P := P)) (handleHandshakePacket env packet peerAddr) := by
  intro s hs
  by_cases hw : Waiting s peerAddr
  · obtain ⟨h, sid, prof, hl⟩ := hw
    rw [handleHandshakePacket_waiting hl]
    exact (answerClientVerify_keeps peerAddr h env packet sid prof s
      ⟨hs, hs peerAddr h sid prof hl⟩).1
  · rw [handleHandshakePacket_idle hw]
    have hidle : Inv { s with handshakeStates :=
        s.handshakeStates.insert peerAddr .waitingClientHello } :=
      hs.insert rfl (List.Subset.refl _) fun _ _ _ heq => by cases heq
    rcases answerClientHello_cases env packet peerAddr
      { s with handshakeStates := s.handshakeStates.insert peerAddr .waitingClientHello }
      with ⟨ch, hdata, hsend⟩ | ⟨e, herr⟩
    · obtain ⟨h, hsh, hok⟩ := answerClientHello_ok hdata hsend peerAddr
        { s with handshakeStates := s.handshakeStates.insert peerAddr .waitingClientHello }
      rw [hok]
      refine hidle.insert rfl (List.subset_append_left _ _) fun h' sid prof heq => ?_
      cases heq
      exact ⟨_, hsh, List.mem_append_right _ (List.mem_singleton.mpr rfl)⟩
    · rw [herr]
      exact hidle

theorem inv_step (A : ChaCha20Poly1305) (s : LlpListener P) (e : Event) (hs : Inv s) :
    Inv ((calls P A).step s e).2 := by
  cases e with
  | packet hasSession env packet peerAddr =>
      cases hasSession with
      | false => exact handleHandshakePacket_keeps env packet peerAddr s hs
      | true =>
          show Inv (Method.state (handleVpnPacket A env packet peerAddr s))
          unfold handleVpnPacket
          rw [Method.modify_apply, Method.state_ok]
          split
          · exact hs
          · exact hs
  | others sessionManager natGateway clientRegistry channels => exact hs

/-- The listener after a run. -/
def after (P : Primitives) (A : ChaCha20Poly1305) (sessionManager : SessionManager)
    (natGateway : Option NatGateway) (clientRegistry : ClientRegistry) (events : List Event) :
    LlpListener P :=
  (calls P A).final (bind P sessionManager natGateway clientRegistry) events

theorem inv_after (A : ChaCha20Poly1305) (sessionManager : SessionManager)
    (natGateway : Option NatGateway) (clientRegistry : ClientRegistry) (events : List Event) :
    Inv (after P A sessionManager natGateway clientRegistry events) := by
  refine (calls P A).final_invariant (P := fun _ _ => True) (fun s e hs _ => inv_step A s e hs)
    _ events ?_ (Machine.always_true _ _ _)
  intro p h sid prof hl
  simp [bind] at hl

/-- **Starting a handshake.** After any run, for a peer without a session: with no handshake
    of it waiting, a CLIENT_HELLO is answered with a SERVER_HELLO. A handshake waits for its
    CLIENT_VERIFY only after its SERVER_HELLO was sent, and then a CLIENT_HELLO is refused
    and leaves the listener as it is. -/
theorem client_hello_answered (A : ChaCha20Poly1305) (sessionManager : SessionManager)
    (natGateway : Option NatGateway) (clientRegistry : ClientRegistry) (events : List Event)
    {peerAddr : SocketAddr}
    (hno : peerAddr ∉
      (after P A sessionManager natGateway clientRegistry events).clientSessions)
    {packet : Bytes} {ch : ClientHello} (hdata : ClientHello.deserialize packet = .ok ch)
    {env : Env} (hsend : env.sendOk = true) :
    let s := after P A sessionManager natGateway clientRegistry events
    (¬ Waiting s peerAddr → ∃ s', handlePacket A env packet peerAddr s = .ok () s' ∧
      s'.sent = s.sent ++ [(peerAddr, (env.serverHello P).serialize)]) ∧
    ∀ h sid prof,
      s.handshakeStates.lookup peerAddr = some (.waitingClientVerify h sid prof) →
      (∃ sh, h.serverHello = some sh ∧ (peerAddr, sh.serialize) ∈ s.sent) ∧
      (h.state = .serverHelloSent → handlePacket A env packet peerAddr s =
        .error (.err (.llp (.handshakeError
          (.unexpectedMessage "CLIENT_VERIFY" "type 1")))) s) := by
  intro s
  have hhandle : handlePacket A env packet peerAddr s =
      handleHandshakePacket env packet peerAddr s := by
    unfold handlePacket dispatch
    rw [Method.get_bind, if_neg (by simpa using hno)]
  rw [hhandle]
  refine ⟨handleHandshakePacket_hello hdata hsend, fun h sid prof hl => ⟨?_, ?_⟩⟩
  · exact inv_after A sessionManager natGateway clientRegistry events peerAddr h sid prof hl
  · exact handleHandshakePacket_refused hdata env hl

/-! ## A repeated CLIENT_HELLO -/

section Sample

def sampleEnv : Env :=
  ⟨List.Vector.replicate 32 2, List.Vector.replicate 32 5, 77, true, true, 0⟩

def samplePeer : SocketAddr := ⟨.v4 192 0 2 1, 40000⟩

def sampleClientHello : ClientHello :=
  ⟨List.Vector.replicate 32 1, List.Vector.replicate 32 5, .vkVideo⟩

/-- The listener after a run from an empty one. -/
def sampleAfter (events : List Event) : LlpListener samplePrimitives :=
  after samplePrimitives (tableAead []) SessionManager.new none ClientRegistry.new events

/-- The CLIENT_HELLO of `samplePeer`. -/
def sampleHello : Event := .packet false sampleEnv sampleClientHello.serialize samplePeer

/-- The first CLIENT_HELLO is answered, and the second, behind it, refused. -/
theorem client_hello_answered_sample :
    (∃ s', handlePacket (tableAead []) sampleEnv sampleClientHello.serialize samplePeer
        (sampleAfter []) = .ok () s' ∧
      s'.sent = [(samplePeer, (sampleEnv.serverHello samplePrimitives).serialize)]) ∧
    ∃ h sid prof, (sampleAfter [sampleHello]).handshakeStates.lookup samplePeer =
        some (.waitingClientVerify h sid prof) ∧
      (∃ sh, h.serverHello = some sh ∧
        (samplePeer, sh.serialize) ∈ (sampleAfter [sampleHello]).sent) ∧
      handlePacket (tableAead []) sampleEnv sampleClientHello.serialize samplePeer
          (sampleAfter [sampleHello]) = .error (.err (.llp (.handshakeError
            (.unexpectedMessage "CLIENT_VERIFY" "type 1")))) (sampleAfter [sampleHello]) := by
  have hdata : ClientHello.deserialize sampleClientHello.serialize = .ok sampleClientHello := rfl
  have hnone : ¬ Waiting (sampleAfter []) samplePeer := by
    rintro ⟨h, sid, prof, hl⟩
    cases hl
  have hsend : sampleEnv.sendOk = true := rfl
  have hno : samplePeer ∉ (sampleAfter []).clientSessions := by decide
  have hno' : samplePeer ∉ (sampleAfter [sampleHello]).clientSessions := by decide
  have hfirst := client_hello_answered (tableAead []) SessionManager.new none ClientRegistry.new []
    hno hdata hsend
  have hsecond := client_hello_answered (tableAead []) SessionManager.new none ClientRegistry.new
    [sampleHello] hno' hdata hsend
  obtain ⟨hanswered, hrefused⟩ := hsecond.2 _ _ _ rfl
  exact ⟨hfirst.1 hnone, _, _, _, rfl, hanswered, hrefused rfl⟩

/-- The SERVER_HELLO was lost and the peer says hello again: nothing is sent. -/
theorem client_hello_repeated :
    samplePeer ∉ (sampleAfter [sampleHello]).clientSessions ∧
      ClientHello.deserialize sampleClientHello.serialize = .ok sampleClientHello ∧
      (sampleAfter [sampleHello]).sent =
        [(samplePeer, (sampleEnv.serverHello samplePrimitives).serialize)] ∧
      Method.result (handlePacket (tableAead []) sampleEnv sampleClientHello.serialize samplePeer
          (sampleAfter [sampleHello])) = .error (.err (.llp (.handshakeError
            (.unexpectedMessage "CLIENT_VERIFY" "type 1")))) ∧
      (Method.state (handlePacket (tableAead []) sampleEnv sampleClientHello.serialize samplePeer
        (sampleAfter [sampleHello]))).sent = (sampleAfter [sampleHello]).sent := by
  refine ⟨?_, rfl, rfl, rfl, rfl⟩
  decide

end Sample

end LlpListener

end Llp.Server
