/-
  The tasks of `LlpListener::run`: one for each datagram, side by side.

  A task looks at `client_sessions` under a read lock, and then, as a step of its own, runs the
  handler that this look selected. The VPN handler holds the lock of `client_sessions` to its
  end. The handshake handler holds that of `handshake_states`: it runs up to `add_session`,
  touching no other table before that, writes `client_sessions` and spawns the client's `run`,
  and removes its entry of `handshake_states`, with steps of other tasks in between.

  * `handlePacket_of_steps`: a task that nothing interrupts is one call of `handle_packet`.
  * `step_moves`: what one step does to the tables.
  * `never_half_connected_iff`: while no handshake handler runs, no peer is in both
    `handshake_states` and `client_sessions`, all along a run, exactly when no handshake
    handler starts for a peer that is in `client_sessions` by then.
-/
import Llp.Server.Datagrams

namespace Llp.Server
open ByteCodec

/-! ## The handshake handler in steps -/

namespace LlpListener

variable {P : Primitives}

/-- The `WaitingClientVerify` branch up to the session key. -/
def acceptClientVerify (env : Env) (packet : Bytes) (peerAddr : SocketAddr)
    (serverHandshake : ServerHandshake P) (sessionId : UInt64) (mimicryProfile : MimicryProfile) :
    Method (LlpListener P) BoxError SessionKey := do
  inEntry peerAddr serverHandshake sessionId mimicryProfile
    (ServerHandshake.processClientVerify packet)
  let serverVerify ← inEntry peerAddr serverHandshake sessionId mimicryProfile
    ServerHandshake.sendServerVerify
  sendTo env.sendOk serverVerify peerAddr
  let sessionKey ← inEntry peerAddr serverHandshake sessionId mimicryProfile
    (ServerHandshake.sessionKey? <$> get)
  Method.okOr (.message "Сессионный ключ не получен") sessionKey

/-- `manager.add_session(..)?` -/
def register (env : Env) (sessionId : UInt64) (sessionKey : SessionKey)
    (mimicryProfile : MimicryProfile) : Method (LlpListener P) BoxError Unit :=
  Method.focus (·.sessionManager) (fun manager self => { self with sessionManager := manager })
    (Method.mapError .llp
      (SessionManager.addSession env.now sessionId sessionKey mimicryProfile))

/-- The branch up to the registration of the session, with the client it registers. -/
def startClientVerify (env : Env) (packet : Bytes) (peerAddr : SocketAddr)
    (serverHandshake : ServerHandshake P) (sessionId : UInt64) (mimicryProfile : MimicryProfile) :
    Method (LlpListener P) BoxError (Option ClientHandler) := do
  let sessionKey ← acceptClientVerify env packet peerAddr serverHandshake sessionId mimicryProfile
  register env sessionId sessionKey mimicryProfile
  pure (some ⟨sessionId, peerAddr, sessionKey⟩)

/-- `handle_handshake_packet` up to the registration: the client it has registered, if any. -/
def startHandshake (env : Env) (packet : Bytes) (peerAddr : SocketAddr) :
    Method (LlpListener P) BoxError (Option ClientHandler) := do
  let self ← get
  let state := (self.handshakeStates.lookup peerAddr).getD .waitingClientHello
  setState peerAddr state
  match state with
  | .waitingClientHello => do
      answerClientHello env packet peerAddr
      pure none
  | .waitingClientVerify serverHandshake sessionId mimicryProfile =>
      startClientVerify env packet peerAddr serverHandshake sessionId mimicryProfile

/-- The client's entry of `client_sessions`, and its `run`. -/
def connect (client : ClientHandler) (self : LlpListener P) : LlpListener P :=
  { self with
    clientSessions := self.clientSessions.insert client.peerAddr
      ⟨client.sessionId, client.sessionKey, 0, vpnIp client.sessionId⟩
    spawned := self.spawned ++ [client] }

/-- `states.remove(&peer_addr)`. -/
def forget (peerAddr : SocketAddr) (self : LlpListener P) : LlpListener P :=
  { self with handshakeStates := self.handshakeStates.erase peerAddr }

/-- The rest of the handler. -/
def finishHandshake : Option ClientHandler → Method (LlpListener P) BoxError Unit
  | some client => modify fun self => forget client.peerAddr (connect client self)
  | none => pure ()

/-- The steps one after the other are `handle_handshake_packet`. -/
theorem handleHandshakePacket_eq (env : Env) (packet : Bytes) (peerAddr : SocketAddr) :
    (handleHandshakePacket env packet peerAddr : Method (LlpListener P) BoxError Unit) =
      startHandshake env packet peerAddr >>= finishHandshake := by
  funext s
  unfold handleHandshakePacket startHandshake
  simp only [Method.get_bind, bind_assoc]
  cases (s.handshakeStates.lookup peerAddr).getD .waitingClientHello with
  | waitingClientHello => simp only [finishHandshake, bind_assoc, pure_bind, bind_pure_unit]
  | waitingClientVerify serverHandshake sessionId mimicryProfile =>
      simp only [answerClientVerify, startClientVerify, acceptClientVerify, register, bind_assoc,
        pure_bind]
      rfl

/-! ### What the handler does to the tables -/

/-- The peer has an entry of `handshake_states`; the other tables are as in `s`. -/
structure Entered (peerAddr : SocketAddr) (s t : LlpListener P) : Prop where
  states : ∀ q, q ∈ t.handshakeStates ↔ q = peerAddr ∨ q ∈ s.handshakeStates
  sessions : t.clientSessions = s.clientSessions
  manager : t.sessionManager = s.sessionManager

section Entered

variable {s : LlpListener P} {peerAddr : SocketAddr}

theorem Entered.insert {t u : LlpListener P} (h : Entered peerAddr s t)
    {state : HandshakeState P}
    (hstates : u.handshakeStates = t.handshakeStates.insert peerAddr state)
    (hsessions : u.clientSessions = t.clientSessions)
    (hmanager : u.sessionManager = t.sessionManager) : Entered peerAddr s u where
  states q := by
    rw [hstates, Finmap.mem_insert, h.states, ← or_assoc, or_self]
  sessions := hsessions.trans h.sessions
  manager := hmanager.trans h.manager

theorem setState_entered (state : HandshakeState P) :
    Entered peerAddr s { s with handshakeStates := s.handshakeStates.insert peerAddr state } where
  states _ := Finmap.mem_insert
  sessions := rfl
  manager := rfl

theorem sendTo_keeps_entered (sendOk : Bool) (packet : Bytes) :
    Method.Keeps (Entered peerAddr s) (sendTo sendOk packet peerAddr) :=
  (Method.Keeps.failIf _ _).bind fun _ => Method.Keeps.modify fun _ h =>
    ⟨h.states, h.sessions, h.manager⟩

theorem inEntry_keeps_entered {α : Type} (h : ServerHandshake P) (sid : UInt64)
    (prof : MimicryProfile) (m : Method (ServerHandshake P) LlpError α) :
    Method.Keeps (Entered peerAddr s) (inEntry peerAddr h sid prof m) :=
  Method.Keeps.focus fun _ ht => ht.insert rfl rfl rfl

theorem answerClientHello_keeps_entered (env : Env) (packet : Bytes) :
    Method.Keeps (Entered peerAddr s) (answerClientHello env packet peerAddr) := by
  refine (Method.Keeps.onLocal _ _).bind fun _ => ?_
  refine (sendTo_keeps_entered _ _).bind fun _ => ?_
  exact Method.Keeps.modify fun _ h => h.insert rfl rfl rfl

theorem acceptClientVerify_keeps_entered (env : Env) (packet : Bytes) (h : ServerHandshake P)
    (sid : UInt64) (prof : MimicryProfile) :
    Method.Keeps (Entered peerAddr s) (acceptClientVerify env packet peerAddr h sid prof) := by
  refine (inEntry_keeps_entered h sid prof _).bind fun _ => ?_
  refine (inEntry_keeps_entered h sid prof _).bind fun _ => ?_
  refine (sendTo_keeps_entered _ _).bind fun _ => ?_
  exact (inEntry_keeps_entered h sid prof _).bind fun _ => Method.Keeps.okOr _ _

theorem startClientVerify_cases {t : LlpListener P} (ht : Entered peerAddr s t) (env : Env)
    (packet : Bytes) (h : ServerHandshake P) (sid : UInt64) (prof : MimicryProfile) :
    (∃ u key, Entered peerAddr s u ∧ s.sessionManager.sessions.entries.length < MAX_SESSIONS ∧
      sid ∉ s.sessionManager.sessions ∧
      startClientVerify env packet peerAddr h sid prof t = .ok (some ⟨sid, peerAddr, key⟩)
        { u with
          sessionManager := { s.sessionManager with
            sessions := s.sessionManager.sessions.insert sid
              (Session.new env.now sid key prof) } }) ∨
      ∃ u, Entered peerAddr s u ∧
        ∃ e, startClientVerify env packet peerAddr h sid prof t = .error e u := by
  have hkeep := acceptClientVerify_keeps_entered env packet h sid prof t ht
  unfold startClientVerify
  cases hcall : acceptClientVerify env packet peerAddr h sid prof t with
  | error e u =>
      rw [hcall] at hkeep
      exact Or.inr ⟨u, hkeep, e, Method.bind_error hcall⟩
  | ok key u =>
      rw [hcall] at hkeep
      have hu : Entered peerAddr s u := hkeep
      rw [Method.bind_ok hcall]
      rcases SessionManager.addSession_cases env.now sid key prof u.sessionManager with
        ⟨hroom, hid, hadd⟩ | ⟨e, hadd⟩
      · have hregister : register env sid key prof u = .ok ()
            { u with
              sessionManager := { u.sessionManager with
                sessions := u.sessionManager.sessions.insert sid
                  (Session.new env.now sid key prof) } } :=
          Method.focus_ok (Method.mapError_ok hadd)
        rw [Method.bind_ok hregister, ← hu.manager]
        exact Or.inl ⟨u, key, hu, hroom, hid, rfl⟩
      · have hregister : register env sid key prof u = .error (e.map .llp) u :=
          Method.focus_error (Method.mapError_error hadd)
        exact Or.inr ⟨u, hu, _, Method.bind_error hregister⟩

/-- The outcomes of the handler up to the registration: it has registered the session of a
    waiting handshake, or it has ended and the peer has an entry. -/
theorem startHandshake_cases (env : Env) (packet : Bytes) (peerAddr : SocketAddr)
    (s : LlpListener P) :
    (∃ t sid key prof, Waiting s peerAddr ∧ Entered peerAddr s t ∧
      s.sessionManager.sessions.entries.length < MAX_SESSIONS ∧
      sid ∉ s.sessionManager.sessions ∧
      startHandshake env packet peerAddr s = .ok (some ⟨sid, peerAddr, key⟩)
        { t with
          sessionManager := { s.sessionManager with
            sessions := s.sessionManager.sessions.insert sid
              (Session.new env.now sid key prof) } }) ∨
      ∃ t, Entered peerAddr s t ∧ (startHandshake env packet peerAddr s = .ok none t ∨
        ∃ e, startHandshake env packet peerAddr s = .error e t) := by
  have hentered : ∀ state, Entered peerAddr s
      { s with handshakeStates := s.handshakeStates.insert peerAddr state } :=
    fun state => setState_entered state
  unfold startHandshake setState
  rw [Method.get_bind]
  simp only [Method.modify_bind]
  cases hstate : (s.handshakeStates.lookup peerAddr).getD .waitingClientHello with
  | waitingClientHello =>
      have hkeep := answerClientHello_keeps_entered env packet _ (hentered .waitingClientHello)
      cases hcall : answerClientHello env packet peerAddr
          { s with handshakeStates := s.handshakeStates.insert peerAddr .waitingClientHello } with
      | ok u t =>
          rw [hcall] at hkeep
          exact Or.inr ⟨t, hkeep, Or.inl (Method.bind_ok hcall)⟩
      | error e t =>
          rw [hcall] at hkeep
          exact Or.inr ⟨t, hkeep, Or.inr ⟨e, Method.bind_error hcall⟩⟩
  | waitingClientVerify h sid prof =>
      have hwaiting : Waiting s peerAddr := by
        cases hl : s.handshakeStates.lookup peerAddr with
        | none => simp [hl] at hstate
        | some state => exact ⟨h, sid, prof, hl.trans (by simpa [hl] using hstate)⟩
      rcases startClientVerify_cases (hentered _) env packet h sid prof with
        ⟨t, key, ht, hroom, hid, hstart⟩ | ⟨t, ht, herror⟩
      · exact Or.inl ⟨t, sid, key, prof, hwaiting, ht, hroom, hid, hstart⟩
      · exact Or.inr ⟨t, ht, Or.inr herror⟩

end Entered

end LlpListener

/-! ## The tasks -/

/-- How far `handle_packet` of a task has come. -/
inductive TaskStage where
  | arrived
  | looked (hasSession : Bool)
  /-- it has run its VPN handler, or started its handshake handler -/
  | handled
deriving DecidableEq

/-- The task of a datagram. -/
structure DatagramTask where
  packet : Bytes
  peerAddr : SocketAddr
  stage : TaskStage
deriving DecidableEq

/-- A handshake handler that has registered a session: its client, and whether that is in
    `client_sessions` yet. It holds the lock of `handshake_states`. -/
structure Connecting where
  client : ClientHandler
  inserted : Bool
deriving DecidableEq

/-- The listener, its tasks, and the handshake handler that is running. -/
structure Tasks (P : Primitives) where
  listener : LlpListener P
  tasks : List DatagramTask
  connecting : Option Connecting

namespace Tasks

/-- One step of a task, of the cleanup timer, or of what else shares parts of the listener. -/
inductive Event where
  /-- `run` receives a datagram and spawns its task -/
  | arrive (packet : Bytes) (peerAddr : SocketAddr)
  /-- the task looks at `client_sessions` -/
  | look (i : ℕ)
  /-- the task gets the lock of its handler -/
  | handle (i : ℕ) (env : LlpListener.Env)
  /-- the running handshake handler writes `client_sessions` -/
  | connect
  /-- it removes the entry of `handshake_states`, and ends -/
  | release
  /-- the cleanup timer -/
  | cleanup (clock : UInt64 → Instant × Instant)
  /-- the client handlers, the TUN read loop -/
  | others (natGateway : Option NatGateway) (clientRegistry : ClientRegistry)
      (channels : Channels)

variable {P : Primitives}

/-- `bind`: no task yet. -/
def new (P : Primitives) (sessionLifetime : Duration) (natGateway : Option NatGateway)
    (clientRegistry : ClientRegistry) : Tasks P where
  listener := LlpListener.bind P (SessionManager.withLifetime sessionLifetime) natGateway
    clientRegistry
  tasks := []
  connecting := none

/-- The VPN handler of a task. -/
def handleVpn (A : ChaCha20Poly1305) (i : ℕ) (env : LlpListener.Env) (packet : Bytes)
    (peerAddr : SocketAddr) (s : Tasks P) : Tasks P :=
  { s with
    listener := Method.state (LlpListener.handleVpnPacket A env packet peerAddr s.listener)
    tasks := s.tasks.set i ⟨packet, peerAddr, .handled⟩ }

/-- Its handshake handler, up to the registration. When that fails the lock is free again. -/
def handleHandshake (i : ℕ) (env : LlpListener.Env) (packet : Bytes) (peerAddr : SocketAddr)
    (s : Tasks P) : Tasks P where
  listener := Method.state (LlpListener.startHandshake env packet peerAddr s.listener)
  tasks := s.tasks.set i ⟨packet, peerAddr, .handled⟩
  connecting :=
    match LlpListener.startHandshake env packet peerAddr s.listener with
    | .ok (some client) _ => some ⟨client, false⟩
    | _ => none

/-- One step. A task that is not at that point, or waits for a lock, does nothing; empty
    datagrams are skipped. An output is the packet accepted of a peer. -/
def step (A : ChaCha20Poly1305) (s : Tasks P) : Event → Option (SocketAddr × Bytes) × Tasks P
  | .arrive packet peerAddr =>
      if packet.length = 0 then (none, s)
      else (none, { s with tasks := s.tasks ++ [⟨packet, peerAddr, .arrived⟩] })
  | .look i =>
      match s.tasks[i]? with
      | some ⟨packet, peerAddr, .arrived⟩ =>
          (none, { s with
            tasks := s.tasks.set i
              ⟨packet, peerAddr, .looked (peerAddr ∈ s.listener.clientSessions)⟩ })
      | _ => (none, s)
  | .handle i env =>
      match s.tasks[i]? with
      | some ⟨packet, peerAddr, .looked true⟩ =>
          ((s.listener.forwarded A packet peerAddr).map fun plaintext => (peerAddr, plaintext),
            s.handleVpn A i env packet peerAddr)
      | some ⟨packet, peerAddr, .looked false⟩ =>
          if s.connecting.isNone then (none, s.handleHandshake i env packet peerAddr)
          else (none, s)
      | _ => (none, s)
  | .connect =>
      match s.connecting with
      | some ⟨client, false⟩ =>
          (none, { s with
            listener := s.listener.connect client
            connecting := some ⟨client, true⟩ })
      | _ => (none, s)
  | .release =>
      match s.connecting with
      | some ⟨client, true⟩ =>
          (none, { s with
            listener := s.listener.forget client.peerAddr
            connecting := none })
      | _ => (none, s)
  | .cleanup clock =>
      (none, { s with
        listener := { s.listener with
          sessionManager := (s.listener.sessionManager.cleanupExpired clock).2 } })
  | .others natGateway clientRegistry channels =>
      (none, { s with listener := { s.listener with natGateway, clientRegistry, channels } })

/-- The tasks as a machine. -/
def machine (P : Primitives) (A : ChaCha20Poly1305) :
    Machine (Tasks P) Event (Option (SocketAddr × Bytes)) := ⟨step A⟩

/-! ## What a step does to the tables -/

/-- The same peers have the same sessions in `client_sessions`. -/
def SameSessions (s t : LlpListener P) : Prop :=
  ∀ q, (t.clientSessions.lookup q).map (·.sessionId) =
    (s.clientSessions.lookup q).map (·.sessionId)

theorem SameSessions.mem_iff {s t : LlpListener P} (h : SameSessions s t) (q : SocketAddr) :
    q ∈ t.clientSessions ↔ q ∈ s.clientSessions := by
  rw [← Finmap.lookup_isSome, ← Finmap.lookup_isSome,
    ← Option.isSome_map (f := fun session : ClientSession => session.sessionId), h q,
    Option.isSome_map]

/-- A VPN packet moves the receive counter of its peer, and no table. -/
theorem handleVpnPacket_tables (A : ChaCha20Poly1305) (env : LlpListener.Env) (packet : Bytes)
    (peerAddr : SocketAddr) (s : LlpListener P) :
    SameSessions s (Method.state (LlpListener.handleVpnPacket A env packet peerAddr s)) ∧
      (Method.state (LlpListener.handleVpnPacket A env packet peerAddr s)).handshakeStates =
        s.handshakeStates ∧
      (Method.state (LlpListener.handleVpnPacket A env packet peerAddr s)).sessionManager =
        s.sessionManager := by
  unfold LlpListener.handleVpnPacket
  rw [Method.modify_apply, Method.state_ok]
  cases hl : s.clientSessions.lookup peerAddr with
  | none => exact ⟨fun _ => rfl, rfl, rfl⟩
  | some session =>
      refine ⟨fun q => ?_, rfl, rfl⟩
      by_cases hq : q = peerAddr
      · subst hq
        simp only [Finmap.lookup_insert, hl, Option.map_some]
      · simp only [Finmap.lookup_insert_of_ne _ hq]

/-- What a step does. The tables of most steps stay as they are. -/
inductive Moves (s : Tasks P) : Event → Tasks P → Prop where
  | quiet (e : Event) (t : Tasks P) (hsessions : SameSessions s.listener t.listener)
      (hstates : t.listener.handshakeStates = s.listener.handshakeStates)
      (hmanager : t.listener.sessionManager = s.listener.sessionManager)
      (hconnecting : t.connecting = s.connecting) : Moves s e t
  /-- a handshake handler ends without a session -/
  | ended (i : ℕ) (env : LlpListener.Env) (packet : Bytes) (peerAddr : SocketAddr)
      (hi : s.tasks[i]? = some ⟨packet, peerAddr, .looked false⟩) (hfree : s.connecting = none)
      (t : LlpListener P) (ht : LlpListener.Entered peerAddr s.listener t)
      (tasks : List DatagramTask) : Moves s (.handle i env) ⟨t, tasks, none⟩
  /-- a handshake handler registers a session -/
  | registered (i : ℕ) (env : LlpListener.Env) (packet : Bytes) (peerAddr : SocketAddr)
      (hi : s.tasks[i]? = some ⟨packet, peerAddr, .looked false⟩) (hfree : s.connecting = none)
      (hwaiting : s.listener.Waiting peerAddr) (t : LlpListener P)
      (ht : LlpListener.Entered peerAddr s.listener t) (sid : UInt64) (key : SessionKey)
      (prof : MimicryProfile)
      (hroom : s.listener.sessionManager.sessions.entries.length < MAX_SESSIONS)
      (hid : sid ∉ s.listener.sessionManager.sessions) (tasks : List DatagramTask) :
      Moves s (.handle i env)
        ⟨{ t with
            sessionManager := { s.listener.sessionManager with
              sessions := s.listener.sessionManager.sessions.insert sid
                (Session.new env.now sid key prof) } },
          tasks, some ⟨⟨sid, peerAddr, key⟩, false⟩⟩
  | connect (client : ClientHandler) (h : s.connecting = some ⟨client, false⟩) :
      Moves s .connect { s with
        listener := s.listener.connect client
        connecting := some ⟨client, true⟩ }
  | release (client : ClientHandler) (h : s.connecting = some ⟨client, true⟩) :
      Moves s .release { s with
        listener := s.listener.forget client.peerAddr
        connecting := none }
  | cleanup (clock : UInt64 → Instant × Instant) :
      Moves s (.cleanup clock) { s with
        listener := { s.listener with
          sessionManager := (s.listener.sessionManager.cleanupExpired clock).2 } }

theorem Moves.idle (s : Tasks P) (e : Event) : Moves s e s :=
  .quiet e s (fun _ => rfl) rfl rfl rfl

theorem handleHandshake_moves {s : Tasks P} {i : ℕ} {packet : Bytes} {peerAddr : SocketAddr}
    (hi : s.tasks[i]? = some ⟨packet, peerAddr, .looked false⟩) (hfree : s.connecting = none)
    (env : LlpListener.Env) :
    Moves s (.handle i env) (s.handleHandshake i env packet peerAddr) := by
  unfold handleHandshake
  rcases LlpListener.startHandshake_cases env packet peerAddr s.listener with
    ⟨t, sid, key, prof, hwaiting, ht, hroom, hid, hstart⟩ | ⟨t, ht, hstart | ⟨e, hstart⟩⟩
  · rw [hstart]
    exact .registered i env packet peerAddr hi hfree hwaiting t ht sid key prof hroom hid _
  · rw [hstart]
    exact .ended i env packet peerAddr hi hfree t ht _
  · rw [hstart]
    exact .ended i env packet peerAddr hi hfree t ht _

theorem step_moves (A : ChaCha20Poly1305) (s : Tasks P) (e : Event) :
    Moves s e ((machine P A).step s e).2 := by
  show Moves s e (step A s e).2
  cases e with
  | arrive packet peerAddr =>
      unfold step
      simp only
      split
      · exact .idle s _
      · exact .quiet _ _ (fun _ => rfl) rfl rfl rfl
  | look i =>
      unfold step
      simp only
      split
      · exact .quiet _ _ (fun _ => rfl) rfl rfl rfl
      · exact .idle s _
  | handle i env =>
      unfold step
      simp only
      split
      · next packet peerAddr hi =>
          obtain ⟨hsessions, hstates, hmanager⟩ :=
            handleVpnPacket_tables A env packet peerAddr s.listener
          exact .quiet _ _ hsessions hstates hmanager rfl
      · next packet peerAddr hi =>
          split
          · next hfree => exact handleHandshake_moves hi (Option.isNone_iff_eq_none.mp hfree) env
          · exact .idle s _
      · exact .idle s _
  | connect =>
      unfold step
      simp only
      split
      · next client h => exact .connect client h
      · exact .idle s _
  | release =>
      unfold step
      simp only
      split
      · next client h => exact .release client h
      · exact .idle s _
  | cleanup clock => exact .cleanup clock
  | others natGateway clientRegistry channels => exact .quiet _ _ (fun _ => rfl) rfl rfl rfl

/-! ## One task alone -/

/-- A task that nothing interrupts is one call of `handle_packet`. -/
theorem handlePacket_of_steps (A : ChaCha20Poly1305) {s : Tasks P} (hfree : s.connecting = none)
    {i : ℕ} {packet : Bytes} {peerAddr : SocketAddr}
    (hi : s.tasks[i]? = some ⟨packet, peerAddr, .arrived⟩) (env : LlpListener.Env) :
    let t := (machine P A).final s [.look i, .handle i env, .connect, .release]
    t.listener = Method.state (LlpListener.handlePacket A env packet peerAddr s.listener) ∧
      t.connecting = none := by
  have hlt := (List.getElem?_eq_some_iff.mp hi).1
  let looked : Tasks P := { s with
    tasks := s.tasks.set i ⟨packet, peerAddr, .looked (peerAddr ∈ s.listener.clientSessions)⟩ }
  have hlook : step A s (.look i) = (none, looked) := by simp only [step, hi, looked]
  have hlooked : looked.tasks[i]? =
      some ⟨packet, peerAddr, .looked (peerAddr ∈ s.listener.clientSessions)⟩ :=
    List.getElem?_set_self hlt
  simp only [Machine.final, machine, hlook]
  unfold LlpListener.handlePacket LlpListener.dispatch
  rw [Method.get_bind]
  by_cases hmem : peerAddr ∈ s.listener.clientSessions
  · rw [decide_eq_true hmem] at hlooked ⊢
    simp only [step, hlooked, handleVpn, looked, hfree, if_true, and_self]
  · rw [decide_eq_false hmem] at hlooked ⊢
    have hnone : looked.connecting = none := hfree
    rw [if_neg Bool.false_ne_true, LlpListener.handleHandshakePacket_eq]
    simp only [step, hlooked, hnone, Option.isNone_none, if_true, handleHandshake]
    cases hstart : LlpListener.startHandshake env packet peerAddr s.listener with
    | error e t =>
        rw [Method.bind_error hstart]
        exact ⟨rfl, rfl⟩
    | ok client t =>
        rw [Method.bind_ok hstart]
        cases client with
        | none => exact ⟨rfl, rfl⟩
        | some client => exact ⟨rfl, rfl⟩

/-! ## Half-connected peers -/

/-- The peer is in both tables. -/
def HalfConnected (s : Tasks P) (p : SocketAddr) : Prop :=
  p ∈ s.listener.handshakeStates ∧ p ∈ s.listener.clientSessions

instance (s : Tasks P) (p : SocketAddr) : Decidable (s.HalfConnected p) :=
  inferInstanceAs (Decidable (_ ∧ _))

/-- No peer is half-connected while no handshake handler runs. -/
def Settled (s : Tasks P) : Prop := s.connecting = none → ∀ p, ¬ s.HalfConnected p

/-- No handshake handler starts for a peer that is in `client_sessions` by then. -/
def LookHolds (s : Tasks P) : Event → Prop
  | .handle i _ => ∀ packet peerAddr, s.tasks[i]? = some ⟨packet, peerAddr, .looked false⟩ →
      s.connecting = none → peerAddr ∉ s.listener.clientSessions
  | _ => True

/-- A half-connected peer is the one that the running handshake handler is connecting. -/
def Inv (s : Tasks P) : Prop :=
  ∀ p, s.HalfConnected p → ∃ client, s.connecting = some ⟨client, true⟩ ∧ client.peerAddr = p

theorem Inv.settled {s : Tasks P} (h : Inv s) : Settled s := by
  intro hfree p hp
  obtain ⟨client, hconnecting, -⟩ := h p hp
  rw [hfree] at hconnecting
  cases hconnecting

/-- A handshake handler that ends, or registers a session, leaves an entry for its peer. -/
theorem Inv.handshake {s : Tasks P} (hs : Inv s) (hfree : s.connecting = none)
    {peerAddr : SocketAddr} (hno : peerAddr ∉ s.listener.clientSessions) {t : LlpListener P}
    (ht : LlpListener.Entered peerAddr s.listener t) {s' : Tasks P}
    (hstates : s'.listener.handshakeStates = t.handshakeStates)
    (hsessions : s'.listener.clientSessions = t.clientSessions) : Inv s' := by
  rintro p ⟨hstate, hsession⟩
  rw [hstates] at hstate
  rw [hsessions, ht.sessions] at hsession
  rcases (ht.states p).mp hstate with rfl | hstate
  · exact absurd hsession hno
  · exact absurd ⟨hstate, hsession⟩ (hs.settled hfree p)

theorem Inv.connect {s : Tasks P} (hs : Inv s) {client : ClientHandler}
    (h : s.connecting = some ⟨client, false⟩) {s' : Tasks P}
    (hlistener : s'.listener = s.listener.connect client)
    (hconnecting : s'.connecting = some ⟨client, true⟩) : Inv s' := by
  rintro p ⟨hstate, hsession⟩
  rw [hlistener] at hstate hsession
  rcases Finmap.mem_insert.mp hsession with rfl | hsession
  · exact ⟨client, hconnecting, rfl⟩
  · obtain ⟨client', hclient', -⟩ := hs p ⟨hstate, hsession⟩
    rw [h] at hclient'
    cases hclient'

theorem Inv.release {s : Tasks P} (hs : Inv s) {client : ClientHandler}
    (h : s.connecting = some ⟨client, true⟩) {s' : Tasks P}
    (hlistener : s'.listener = s.listener.forget client.peerAddr) : Inv s' := by
  rintro p ⟨hstate, hsession⟩
  rw [hlistener] at hstate hsession
  obtain ⟨hne, hstate⟩ := Finmap.mem_erase.mp hstate
  obtain ⟨client', hclient', hpeer⟩ := hs p ⟨hstate, hsession⟩
  rw [h] at hclient'
  cases hclient'
  exact absurd hpeer.symm hne

theorem inv_step (A : ChaCha20Poly1305) (s : Tasks P) (e : Event) (hs : Inv s)
    (hlook : LookHolds s e) : Inv ((machine P A).step s e).2 := by
  have hmoves := step_moves A s e
  generalize ((machine P A).step s e).2 = s' at hmoves ⊢
  cases hmoves with
  | quiet e t hsessions hstates hmanager hconnecting =>
      rintro p ⟨hstate, hsession⟩
      rw [hconnecting]
      exact hs p ⟨hstates ▸ hstate, (hsessions.mem_iff p).mp hsession⟩
  | ended i env packet peerAddr hi hfree t ht tasks =>
      exact hs.handshake hfree (hlook packet peerAddr hi hfree) ht rfl rfl
  | registered i env packet peerAddr hi hfree hwaiting t ht sid key prof hroom hid tasks =>
      exact hs.handshake hfree (hlook packet peerAddr hi hfree) ht rfl rfl
  | connect client h => exact hs.connect h rfl rfl
  | release client h => exact hs.release h rfl
  | cleanup clock => exact hs

/-- A handshake handler that starts for a connected peer leaves it half-connected: the peer had
    no handshake, so the datagram is taken for a CLIENT_HELLO. -/
theorem not_settled_step (A : ChaCha20Poly1305) (s : Tasks P) (e : Event) (hs : Inv s)
    (hlook : ¬ LookHolds s e) : ¬ Settled ((machine P A).step s e).2 := by
  cases e with
  | handle i env =>
      simp only [LookHolds, not_forall, not_not] at hlook
      obtain ⟨packet, peerAddr, hi, hfree, hmem⟩ := hlook
      have hno : peerAddr ∉ s.listener.handshakeStates := fun hstate =>
        hs.settled hfree peerAddr ⟨hstate, hmem⟩
      have hstep : ((machine P A).step s (.handle i env)).2 =
          s.handleHandshake i env packet peerAddr := by
        simp only [machine, step, hi, hfree, Option.isNone_none, if_true]
      rw [hstep]
      unfold handleHandshake
      rcases LlpListener.startHandshake_cases env packet peerAddr s.listener with
        ⟨_, _, _, _, ⟨h, sid, prof, hl⟩, -⟩ | ⟨t, ht, hstart⟩
      · exact absurd (Finmap.mem_of_lookup_eq_some hl) hno
      · have hhalf : ∀ tasks, ¬ Settled (⟨t, tasks, none⟩ : Tasks P) := fun tasks hsettled =>
          hsettled rfl peerAddr ⟨(ht.states peerAddr).mpr (Or.inl rfl), ht.sessions ▸ hmem⟩
        rcases hstart with hstart | ⟨e, hstart⟩
        · rw [hstart]
          exact hhalf _
        · rw [hstart]
          exact hhalf _
  | _ => exact absurd trivial hlook

/-- **Half-connected peers.** Over any interleaving of the tasks, from the start of the server:
    while no handshake handler runs no peer is in both `handshake_states` and
    `client_sessions`, all along the run, exactly when every handshake handler of the run starts
    for a peer that is not in `client_sessions`. -/
theorem never_half_connected_iff (P : Primitives) (A : ChaCha20Poly1305)
    (sessionLifetime : Duration) (natGateway : Option NatGateway)
    (clientRegistry : ClientRegistry) (events : List Event) :
    (∀ pre, pre <+: events →
      Settled ((machine P A).final (new P sessionLifetime natGateway clientRegistry) pre)) ↔
    (machine P A).Always LookHolds (new P sessionLifetime natGateway clientRegistry) events := by
  refine (machine P A).holds_iff_always (I := Inv) (fun s hs => hs.settled) (inv_step A)
    (not_settled_step A) _ events ?_
  rintro p ⟨hstate, -⟩
  exact absurd hstate Finmap.notMem_empty

section Sample

open LlpListener

/-- The key of the handshake that `samplePeer` begins with `sampleClientHello`. -/
def samplePeerKey : SessionKey :=
  deriveSessionKey samplePrimitives (List.Vector.replicate 32 3)
    (sessionSalt sampleClientHello (sampleEnv.serverHello samplePrimitives)) HKDF_INFO

/-- Its CLIENT_VERIFY. -/
def sampleVerify : Bytes :=
  (ClientVerify.new samplePrimitives samplePeerKey
    (sampleClientHello.serialize ++ (sampleEnv.serverHello samplePrimitives).serialize)).serialize

/-- The tasks after a run from the start of the server. -/
def sampleRun (events : List Event) : Tasks samplePrimitives :=
  (machine samplePrimitives sampleAead).final
    (new samplePrimitives DEFAULT_SESSION_LIFETIME none ClientRegistry.new) events

/-- The peer's CLIENT_HELLO. -/
def sampleHelloEvents : List Event :=
  [.arrive sampleClientHello.serialize samplePeer, .look 0, .handle 0 sampleEnv]

/-- Its CLIENT_VERIFY arrives twice, and both tasks look at `client_sessions` before the first
    of them runs its handler. -/
def sampleVerifyTwice : List Event :=
  sampleHelloEvents ++ [.arrive sampleVerify samplePeer, .arrive sampleVerify samplePeer,
    .look 1, .look 2, .handle 1 sampleEnv, .connect, .release, .handle 2 sampleEnv]

/-- The second handler has left a new entry of `handshake_states` for the connected peer. -/
theorem verify_twice_half_connected :
    (sampleRun sampleVerifyTwice).connecting = none ∧
      (sampleRun sampleVerifyTwice).HalfConnected samplePeer := by
  decide +kernel

end Sample

end Tasks

end Llp.Server
