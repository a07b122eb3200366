/-
  The locks of the running server: the TUN read loop and the start of `main.rs`, and the tasks
  of `listener.rs`, `client_handler.rs` and `nat.rs` with every lock they take.

  A datagram's task reads `client_sessions`, and goes to its handler. The handshake handler
  holds `handshake_states` to its end, and `session_manager` and then `client_sessions` for a
  while within it. The VPN handler holds `client_sessions` to its end, the echo's `clients`
  too, and takes `nat_gateway` and `tun_device` within it. The TUN read loop reads the device
  with `tun_device` held: while nothing arrives from the TUN interface, it keeps the lock.

  * `handlePacket_of_steps`: a datagram's task that nothing interrupts is one call of
    `handle_packet`.
  * `body_ordered`: every task asks for its locks in one order.
  * `never_stalls`: in a run in which no task comes to wait for `tun_device` while the read loop
    sits in an empty read, unprocessed datagrams never stop the server, and none is held up by
    the VPN packet of another peer that waits for TUN input.
  * `stall_lasts`: a VPN packet sent while the TUN interface is silent holds up the datagrams
    of all peers, until something comes from that interface.
-/
import Llp.Lib.Locks
import Llp.Server.Tasks

namespace Llp.Server.Locking
open ByteCodec Locks LlpListener

/-! ## The locks and the tasks -/

inductive Lock where
  | handshakeStates
  | sessionManager
  | clientSessions
  | clients
  | natGateway
  | tunDevice
deriving DecidableEq

/-- The order in which the tasks ask for their locks. -/
def Lock.rank : Lock → ℕ
  | handshakeStates => 0
  | sessionManager => 1
  | clientSessions => 2
  | clients => 3
  | natGateway => 4
  | tunDevice => 5

/-- The spawned tasks. -/
inductive Kind where
  | tunReadLoop
  | datagram (env : Env) (packet : Bytes) (peerAddr : SocketAddr)
  | run (client : ClientHandler)
  /-- a turn of the cleanup loop -/
  | cleanup (clock : UInt64 → Instant × Instant)

/-- The read loop waits for input with `tun_device` held, `run` without a lock. -/
def discipline : Discipline Kind Lock where
  rank := Lock.rank
  inputLock l := l = .tunDevice
  takesInput
    | .tunReadLoop => true
    | .run _ => true
    | _ => false

/-- The input of the TUN read loop is what `read_packet` returns, `none` being an error, that of
    `run` the end of its send task. -/
abbrev Program (P : Primitives) := Prog Kind Lock (LlpListener P) (Option Bytes)

variable {P : Primitives}

/-- A call of a method, with what follows when it returns and when it fails. -/
def call {α : Type} (m : Method (LlpListener P) BoxError α) (ok : α → Program P)
    (error : Program P) : Program P :=
  .act (fun self => Method.state (m self)) fun self =>
    match m self with
    | .ok a _ => ok a
    | .error _ _ => error

/-! ### The VPN handler -/

/-- `route_packet`. -/
def routePacket (env : Env) (plaintext : Bytes) (next : Program P) : Program P :=
  .look fun self =>
    match self.natGateway with
    | some ⟨some _⟩ =>
        .locked .tunDevice .write
          (fun self => { self with
            natGateway := self.natGateway.map fun nat =>
              (nat.routePacket env.writeOk plaintext).2 })
          fun _ => next
    | _ => next

/-- `handle_incoming_packet` of an opened datagram: the echo, under the lock of the registry,
    which is held to the end, and the NAT gateway. -/
def forward (env : Env) (vpnIp : IpAddr) (plaintext : Bytes) (next : Program P) : Program P :=
  .acquire .clients .read <|
  .act (fun self => { self with
    channels := (ClientHandler.echo self.clientRegistry vpnIp plaintext
      ⟨0, self.channels, none⟩).channels }) fun self =>
  match self.natGateway with
  | some _ =>
      .acquire .natGateway .write <|
      routePacket env plaintext <|
      .release .natGateway <|
      .release .clients next
  | none => .release .clients next

/-- `handle_incoming_packet`. -/
def handleIncomingPacket (A : ChaCha20Poly1305) (env : Env) (packet : Bytes)
    (peerAddr : SocketAddr) (session : ClientSession) (next : Program P) : Program P :=
  let decryptCipher := AeadCipher.new session.sessionKey session.sessionId
  let opened := ClientHandler.openIncoming A decryptCipher packet session.receiveCounter
  .act (fun self => { self with
    clientSessions := self.clientSessions.insert peerAddr
      { session with receiveCounter := opened.2 } }) fun _ =>
  match opened.1 with
  | some plaintext => forward env session.vpnIp plaintext next
  | none => next

/-- `handle_vpn_packet`. -/
def handleVpnPacket (A : ChaCha20Poly1305) (env : Env) (packet : Bytes)
    (peerAddr : SocketAddr) : Program P :=
  .acquire .clientSessions .write <|
  .look fun self =>
  match self.clientSessions.lookup peerAddr with
  | some session =>
      handleIncomingPacket A env packet peerAddr session <|
      .release .clientSessions .done
  | none => .release .clientSessions .done

/-! ### The handshake handler -/

/-- The end of the handler: its client is connected. -/
def connectClient (client : ClientHandler) : Program P :=
  .locked .clientSessions .write (connect client) fun _ =>
  .spawn (.run client) <|
  .act (forget client.peerAddr) fun _ =>
  .release .handshakeStates .done

/-- `handle_handshake_packet`. An early return drops the guards in scope. -/
def handleHandshakePacket (env : Env) (packet : Bytes) (peerAddr : SocketAddr) : Program P :=
  let unlock := .release .handshakeStates .done
  .acquire .handshakeStates .write <|
  .look fun self =>
  let state := (self.handshakeStates.lookup peerAddr).getD .waitingClientHello
  call (setState peerAddr state)
    (fun _ =>
      match state with
      | .waitingClientHello =>
          call (answerClientHello env packet peerAddr) (fun _ => unlock) unlock
      | .waitingClientVerify serverHandshake sessionId mimicryProfile =>
          call (acceptClientVerify env packet peerAddr serverHandshake sessionId mimicryProfile)
            (fun sessionKey =>
              .acquire .sessionManager .write <|
              call (register env sessionId sessionKey mimicryProfile)
                (fun _ =>
                  .release .sessionManager <|
                  connectClient ⟨sessionId, peerAddr, sessionKey⟩)
                (.release .sessionManager unlock))
            unlock)
    unlock

/-- `handle_packet`. -/
def handlePacket (A : ChaCha20Poly1305) (env : Env) (packet : Bytes) (peerAddr : SocketAddr) :
    Program P :=
  .locked .clientSessions .read id fun self =>
  if peerAddr ∈ self.clientSessions then handleVpnPacket A env packet peerAddr
  else handleHandshakePacket env packet peerAddr

/-! ### The other tasks -/

/-- `route_to_client`. A packet without a destination address takes no lock. -/
def routeToClient (packet : Bytes) (next : Program P) : Program P :=
  match extractDstIp packet with
  | none => next
  | some _ =>
      .locked .clients .read
        (fun self => { self with
          channels := self.clientRegistry.routeToClient packet self.channels })
        fun _ => next

/-- The loop of `main.rs`. After an error it sleeps before it drops the lock. -/
def tunReadLoop : Program P :=
  .acquire .tunDevice .write <|
  .recv fun
    | some packet =>
        .release .tunDevice <|
        if packet.length > 0 then routeToClient packet .restart else .restart
    -- the sleep, at the end of which the task goes on by itself
    | none => .look fun _ => .release .tunDevice .restart

/-- `ClientHandler::run`, which waits for its send task between the two registrations. -/
def run (client : ClientHandler) : Program P :=
  .act (fun self => { self with channels := self.channels ++ [⟨[], true⟩] }) fun self =>
  let tx := self.channels.length
  .locked .clients .write
    (fun self => { self with
      clientRegistry := self.clientRegistry.registerClient client.vpnIp tx }) fun _ =>
  .recv fun _ =>
  .act (fun self => { self with channels := self.channels.set tx ⟨[], false⟩ }) fun _ =>
  .locked .clients .write
    (fun self => { self with
      clientRegistry := self.clientRegistry.unregisterClient client.vpnIp }) fun _ =>
  .done

def cleanup (clock : UInt64 → Instant × Instant) : Program P :=
  .locked .sessionManager .write
    (fun self => { self with
      sessionManager := (self.sessionManager.cleanupExpired clock).2 }) fun _ =>
  .done

def body (A : ChaCha20Poly1305) : Kind → Program P
  | .tunReadLoop => tunReadLoop
  | .datagram env packet peerAddr => handlePacket A env packet peerAddr
  | .run client => run client
  | .cleanup clock => cleanup clock

/-! ## Runs of the server -/

abbrev ServerPool (P : Primitives) := Pool Kind Lock (LlpListener P) (Option Bytes)

/-- A step of a task, or something from outside. -/
inductive Event where
  | step (i : ℕ)
  /-- `recv_from` returns a datagram, and its task is spawned -/
  | datagram (env : Env) (packet : Bytes) (peerAddr : SocketAddr)
  /-- a packet from the TUN interface, if the task is the read loop; the end of the send task
      of a `run` -/
  | input (i : ℕ) (x : Option Bytes)
  /-- the cleanup timer -/
  | cleanup (clock : UInt64 → Instant × Instant)

/-- The start of `run_server`: the read loop runs if there is a TUN device. -/
def start (P : Primitives) (A : ChaCha20Poly1305) (sessionLifetime : Duration)
    (tunDevice : Option TunDevice) : ServerPool P where
  data := LlpListener.bind P (SessionManager.withLifetime sessionLifetime) (some ⟨tunDevice⟩)
    ClientRegistry.new
  tasks :=
    match tunDevice with
    | some _ => [Task.new (body A) .tunReadLoop]
    | none => []
  queue _ := []

/-- One event. A task that cannot make a step does nothing; empty datagrams are skipped. -/
def step (A : ChaCha20Poly1305) (s : ServerPool P) : Event → ServerPool P
  | .step i => (s.step (body A) i).getD s
  | .datagram env packet peerAddr =>
      if packet.length = 0 then s
      else s.add (Task.new (body A) (.datagram env packet peerAddr))
  | .input i x => s.input i x
  | .cleanup clock => s.add (Task.new (body A) (.cleanup clock))

def machine (P : Primitives) (A : ChaCha20Poly1305) : Machine (ServerPool P) Event Unit where
  step s e := ((), step A s e)

/-! ## The order of the locks -/

section Ordered

variable {kind : Kind} {held : List (Lock × Access)}

theorem call_ordered {α : Type} {m : Method (LlpListener P) BoxError α} {ok : α → Program P}
    {error : Program P} (hok : ∀ a, Prog.Ordered discipline kind held (ok a))
    (herror : Prog.Ordered discipline kind held error) :
    Prog.Ordered discipline kind held (call m ok error) := by
  refine .act fun self => ?_
  split
  · exact hok _
  · exact herror

theorem unlock_ordered (kind : Kind) (l : Lock) (mode : Access) :
    Prog.Ordered discipline kind [(l, mode)] (.release l .done : Program P) := by
  apply Prog.Ordered.release
  simp only [ne_eq, not_true_eq_false, decide_false, List.filter_cons, List.filter_nil]
  exact .done

theorem routePacket_ordered (env : Env) (plaintext : Bytes) {next : Program P}
    (hnext : Prog.Ordered discipline kind held next)
    (hheld : ∀ h ∈ held, discipline.rank h.1 < discipline.rank .tunDevice) :
    Prog.Ordered discipline kind held (routePacket env plaintext next) := by
  refine .act fun self => ?_
  split
  · exact .locked hheld fun _ => hnext
  · exact hnext

theorem handleVpnPacket_ordered (A : ChaCha20Poly1305) (env : Env) (packet : Bytes)
    (peerAddr : SocketAddr) :
    Prog.Ordered discipline kind [] (handleVpnPacket A env packet peerAddr : Program P) := by
  have hunlock := unlock_ordered (P := P) kind .clientSessions .write
  refine .acquire (by simp) (.act fun self => ?_)
  split
  · next session hl =>
      refine .act fun _ => ?_
      split
      · refine .acquire (by decide) (.act fun self => ?_)
        split
        · refine .acquire (by decide) ?_
          exact routePacket_ordered env _ (.release (.release hunlock)) (by decide)
        · exact .release hunlock
      · exact hunlock
  · exact hunlock

theorem handleHandshakePacket_ordered (env : Env) (packet : Bytes) (peerAddr : SocketAddr) :
    Prog.Ordered discipline kind []
      (handleHandshakePacket env packet peerAddr : Program P) := by
  have hunlock := unlock_ordered (P := P) kind .handshakeStates .write
  refine .acquire (by simp) (.act fun self => call_ordered (fun _ => ?_) hunlock)
  split
  · exact call_ordered (fun _ => hunlock) hunlock
  · refine call_ordered (fun sessionKey => ?_) hunlock
    refine .acquire (by decide) (call_ordered (fun _ => .release ?_) (.release hunlock))
    exact .locked (by decide) fun _ => .spawn (.act fun _ => hunlock)

theorem handlePacket_ordered (A : ChaCha20Poly1305) (env : Env) (packet : Bytes)
    (peerAddr : SocketAddr) :
    Prog.Ordered discipline kind [] (handlePacket A env packet peerAddr : Program P) := by
  refine .locked (by simp) fun self => ?_
  split
  · exact handleVpnPacket_ordered A env packet peerAddr
  · exact handleHandshakePacket_ordered env packet peerAddr

theorem tunReadLoop_ordered :
    Prog.Ordered discipline .tunReadLoop [] (tunReadLoop : Program P) := by
  refine .acquireRecv rfl rfl fun x => ?_
  split
  · next packet =>
      refine .release ?_
      split
      · unfold routeToClient
        split
        · exact .restart
        · exact .locked (by simp) fun _ => .restart
      · exact .restart
  · exact .act fun _ => .release .restart

theorem run_ordered (client : ClientHandler) :
    Prog.Ordered discipline (.run client) [] (run client : Program P) := by
  refine .act fun self => .locked (by simp) fun _ => .recv rfl fun _ => .act fun _ => ?_
  exact .locked (by simp) fun _ => .done

/-- Every task asks for its locks in the order of their ranks, and only the read loop waits
    for input with a lock held. -/
theorem body_ordered (A : ChaCha20Poly1305) (kind : Kind) :
    Prog.Ordered discipline kind [] (body A kind : Program P) := by
  cases kind with
  | tunReadLoop => exact tunReadLoop_ordered
  | datagram env packet peerAddr => exact handlePacket_ordered A env packet peerAddr
  | run client => exact run_ordered client
  | cleanup clock => exact .locked (by simp) fun _ => .done

end Ordered

/-! ## One datagram alone -/

theorem alone_call_ok {α : Type} {m : Method (LlpListener P) BoxError α} {a : α}
    {s t : LlpListener P} (h : m s = .ok a t) (ok : α → Program P) (error : Program P) :
    (call m ok error).alone s = (ok a).alone t := by
  simp only [call, Prog.alone, h, Method.state_ok]

theorem alone_call_error {α : Type} {m : Method (LlpListener P) BoxError α} {e : Fault BoxError}
    {s t : LlpListener P} (h : m s = .error e t) (ok : α → Program P) (error : Program P) :
    (call m ok error).alone s = error.alone t := by
  simp only [call, Prog.alone, h, Method.state_error]

theorem handleHandshakePacket_alone (env : Env) (packet : Bytes) (peerAddr : SocketAddr)
    (s : LlpListener P) :
    (handleHandshakePacket env packet peerAddr).alone s =
      Method.state (LlpListener.handleHandshakePacket env packet peerAddr s) := by
  rw [handleHandshakePacket_eq]
  unfold handleHandshakePacket startHandshake
  simp only [Prog.alone, Prog.look, id_eq, Method.get_bind, bind_assoc]
  generalize (s.handshakeStates.lookup peerAddr).getD .waitingClientHello = state
  rw [alone_call_ok (m := setState peerAddr state) (Method.modify_apply _ s)]
  unfold setState
  rw [Method.modify_bind]
  generalize { s with handshakeStates := s.handshakeStates.insert peerAddr state } = t
  cases state with
  | waitingClientHello =>
      simp only [bind_assoc, pure_bind]
      cases hcall : answerClientHello env packet peerAddr t with
      | ok a u =>
          rw [alone_call_ok hcall, Method.bind_ok hcall]
          rfl
      | error e u =>
          rw [alone_call_error hcall, Method.bind_error hcall]
          rfl
  | waitingClientVerify serverHandshake sessionId mimicryProfile =>
      simp only [startClientVerify, bind_assoc, pure_bind]
      cases hcall : acceptClientVerify env packet peerAddr serverHandshake sessionId
          mimicryProfile t with
      | error e u =>
          rw [alone_call_error hcall, Method.bind_error hcall]
          rfl
      | ok sessionKey u =>
          rw [alone_call_ok hcall, Method.bind_ok hcall]
          simp only [Prog.alone]
          cases hregister : register env sessionId sessionKey mimicryProfile u with
          | error e v =>
              rw [alone_call_error hregister, Method.bind_error hregister]
              rfl
          | ok a v =>
              rw [alone_call_ok hregister, Method.bind_ok hregister]
              rfl

theorem routeNat_echo (clientRegistry : ClientRegistry) (vpnIp : IpAddr) (writeOk : Bool)
    (plaintext : Bytes) (incoming : ClientHandler.Incoming) :
    ClientHandler.routeNat writeOk plaintext
        (ClientHandler.echo clientRegistry vpnIp plaintext incoming) =
      { incoming with
        channels := (ClientHandler.echo clientRegistry vpnIp plaintext
          ⟨0, incoming.channels, none⟩).channels
        natGateway := incoming.natGateway.map fun nat =>
          (nat.routePacket writeOk plaintext).2 } := by
  obtain ⟨receiveCounter, channels, natGateway⟩ := incoming
  unfold ClientHandler.echo ClientHandler.routeNat
  cases clientRegistry.clients.lookup vpnIp with
  | none => cases natGateway <;> rfl
  | some tx => cases natGateway <;> rfl

theorem routePacket_alone (env : Env) (plaintext : Bytes) (next : Program P)
    (s : LlpListener P) :
    (routePacket env plaintext next).alone s =
      next.alone { s with
        natGateway := s.natGateway.map fun nat => (nat.routePacket env.writeOk plaintext).2 } := by
  obtain ⟨manager, natGateway, registry, channels, states, sessions, sent, spawned⟩ := s
  rcases natGateway with _ | ⟨_ | tun⟩
  · rfl
  · rfl
  · rfl

theorem forward_alone (env : Env) (vpnIp : IpAddr) (plaintext : Bytes) (next : Program P)
    (s : LlpListener P) :
    (forward env vpnIp plaintext next).alone s =
      next.alone { s with
        channels := (ClientHandler.echo s.clientRegistry vpnIp plaintext
          ⟨0, s.channels, none⟩).channels
        natGateway := s.natGateway.map fun nat => (nat.routePacket env.writeOk plaintext).2 } := by
  obtain ⟨manager, natGateway, registry, channels, states, sessions, sent, spawned⟩ := s
  cases natGateway with
  | none => rfl
  | some nat => exact routePacket_alone env plaintext _ _

theorem handleVpnPacket_alone (A : ChaCha20Poly1305) (env : Env) (packet : Bytes)
    (peerAddr : SocketAddr) (s : LlpListener P) :
    (handleVpnPacket A env packet peerAddr).alone s =
      Method.state (LlpListener.handleVpnPacket A env packet peerAddr s) := by
  unfold handleVpnPacket LlpListener.handleVpnPacket
  simp only [Prog.alone, Prog.look, id_eq, Method.modify_apply, Method.state_ok]
  cases hl : s.clientSessions.lookup peerAddr with
  | none => rfl
  | some session =>
      simp only [handleIncomingPacket, Prog.alone, ClientHandler.handleIncomingPacket]
      generalize ClientHandler.openIncoming A (AeadCipher.new session.sessionKey session.sessionId)
        packet session.receiveCounter = opened
      obtain ⟨_ | plaintext, receiveCounter⟩ := opened
      · rfl
      · simp only [forward_alone, routeNat_echo]
        rfl

theorem handlePacket_alone (A : ChaCha20Poly1305) (env : Env) (packet : Bytes)
    (peerAddr : SocketAddr) (s : LlpListener P) :
    (handlePacket A env packet peerAddr).alone s =
      Method.state (LlpListener.handlePacket A env packet peerAddr s) := by
  unfold handlePacket LlpListener.handlePacket dispatch
  simp only [Prog.alone, Prog.locked, id_eq, Method.get_bind, decide_eq_true_eq]
  split
  · exact handleVpnPacket_alone A env packet peerAddr s
  · exact handleHandshakePacket_alone env packet peerAddr s

/-- A datagram's task that nothing interrupts, and that finds all locks free, is one call of
    `handle_packet`. -/
theorem handlePacket_of_steps (A : ChaCha20Poly1305) {s : ServerPool P} {i : ℕ} {env : Env}
    {packet : Bytes} {peerAddr : SocketAddr} (hidle : s.Idle i)
    (hi : s.tasks[i]? = some (Task.new (body A) (.datagram env packet peerAddr))) :
    ∃ n, (s.steps (body A) i n).data =
      Method.state (LlpListener.handlePacket A env packet peerAddr s.data) := by
  rw [← handlePacket_alone]
  exact Pool.Idle.steps_alone _ s _ hidle hi rfl (handlePacket_ordered A env packet peerAddr)

/-! ## Progress -/

/-- The peer a task's datagram came from. -/
def Kind.peer? : Kind → Option SocketAddr
  | datagram _ _ peerAddr => some peerAddr
  | _ => none

/-- Task `i` is that of a datagram of the peer, and has not ended. -/
def Unprocessed (s : ServerPool P) (i : ℕ) (peerAddr : SocketAddr) : Prop :=
  ∃ t, s.tasks[i]? = some t ∧ t.kind.peer? = some peerAddr ∧ t.prog.isDone = false

instance (s : ServerPool P) (i : ℕ) (peerAddr : SocketAddr) :
    Decidable (Unprocessed s i peerAddr) :=
  decidable_of_iff ((s.tasks[i]?.any fun t =>
    t.kind.peer? = some peerAddr ∧ t.prog.isDone = false) = true)
    (by simp [Unprocessed, Option.any_eq_true])

/-- The read loop sits in `read_packet`, and nothing has come from the TUN interface. -/
def ReadBlocked (s : ServerPool P) : Prop :=
  ∃ t ∈ s.tasks, t.holds .tunDevice = true ∧ t.stuck = true

instance (s : ServerPool P) : Decidable (ReadBlocked s) :=
  inferInstanceAs (Decidable (∃ t ∈ s.tasks, _ ∧ _))

/-- Some task can make a step if a datagram is unprocessed. -/
def Progress (A : ChaCha20Poly1305) (s : ServerPool P) : Prop :=
  (∃ i peerAddr, Unprocessed s i peerAddr) → ∃ j, s.CanStep (body A) j

/-- No datagram waits for a task of another peer's datagram that waits for TUN input. -/
def Unobstructed (s : ServerPool P) : Prop :=
  ∀ i p j q, p ≠ q → Unprocessed s i p → Unprocessed s j q → j ∈ s.queue .tunDevice →
    ReadBlocked s → ¬ Relation.TransGen s.WaitsFor i j

/-- A task asks for `tun_device` only while the read loop is not blocked, and the read loop
    takes it with nothing to read only if no handler is in the queue. -/
def Careful (s : ServerPool P) : Event → Prop
  | .step i => s.careful discipline.inputLock i = true
  | _ => True

instance (s : ServerPool P) : (e : Event) → Decidable (Careful s e)
  | .step _ => inferInstanceAs (Decidable (_ = true))
  | .datagram _ _ _ => isTrue trivial
  | .input _ _ => isTrue trivial
  | .cleanup _ => isTrue trivial

theorem sound_start (A : ChaCha20Poly1305) (sessionLifetime : Duration)
    (tunDevice : Option TunDevice) :
    (start P A sessionLifetime tunDevice).Sound discipline := by
  refine ⟨fun l => List.nodup_nil, fun l i hi => absurd hi List.not_mem_nil, fun i t ht => ?_⟩
  have hmem := List.mem_of_getElem? ht
  cases tunDevice with
  | none => cases hmem
  | some tun =>
      rw [List.mem_singleton.mp hmem]
      exact Or.inl tunReadLoop_ordered

theorem sound_step (A : ChaCha20Poly1305) (s : ServerPool P) (e : Event)
    (hs : s.Sound discipline) : ((machine P A).step s e).2.Sound discipline := by
  show (step A s e).Sound discipline
  cases e with
  | step i =>
      unfold step
      simp only
      cases hstep : s.step (body A) i with
      | none => exact hs
      | some s' => exact hs.step (body_ordered A) hstep
  | datagram env packet peerAddr =>
      unfold step
      simp only
      split
      · exact hs
      · exact hs.add (Or.inl (body_ordered A _))
  | input i x => exact hs.input i x
  | cleanup clock => exact hs.add (Or.inl (body_ordered A _))

/-- What holds of the server in a run whose steps are careful. -/
structure Inv (s : ServerPool P) : Prop where
  sound : Pool.Sound discipline s
  clear : s.Clear

theorem inv_step (A : ChaCha20Poly1305) (s : ServerPool P) (e : Event) (hs : Inv s)
    (hcareful : Careful s e) : Inv ((machine P A).step s e).2 := by
  refine ⟨sound_step A s e hs.sound, ?_⟩
  show (step A s e).Clear
  cases e with
  | step i =>
      unfold step
      simp only
      cases hstep : s.step (body A) i with
      | none => exact hs.clear
      | some s' => exact hs.clear.step (body_ordered A) hs.sound hcareful hstep
  | datagram env packet peerAddr =>
      unfold step
      simp only
      split
      · exact hs.clear
      · exact hs.clear.add rfl
  | input i x => exact hs.clear.input i x
  | cleanup clock => exact hs.clear.add rfl

/-- An unprocessed datagram can be worked on, or waits for a task that can make a step. -/
theorem Inv.progress {s : ServerPool P} (hs : Inv s) (A : ChaCha20Poly1305) {i : ℕ}
    {peerAddr : SocketAddr} (h : Unprocessed s i peerAddr) :
    ∃ j, Relation.ReflTransGen s.WaitsFor i j ∧ s.CanStep (body A) j := by
  obtain ⟨t, ht, hpeer, hdone⟩ := h
  have hkind : discipline.takesInput t.kind = false := by
    cases hk : t.kind with
    | datagram env packet peer => rfl
    | _ =>
        rw [hk] at hpeer
        cases hpeer
  have hrank : ∀ l, discipline.rank l < 6 := fun l => by cases l <;> decide
  exact hs.sound.progress (body A) hs.clear hrank ht hdone hkind

theorem Inv.unobstructed {s : ServerPool P} (hs : Inv s) : Unobstructed s := by
  rintro i p j q - - - hj ⟨t, ht, hholds, hstuck⟩
  obtain ⟨k, hk⟩ := List.mem_iff_getElem?.mp ht
  rw [hs.clear .tunDevice j hj k t hk hholds] at hstuck
  cases hstuck

/-- **No stall.** Over any interleaving of the server's tasks from its start, with any datagrams,
    packets from the TUN interface and timers: if no task comes to wait for `tun_device` while the
    read loop is blocked in it, then in every state reached with an unprocessed datagram some task
    can make a step, and no datagram waits for another peer's VPN packet that waits for TUN
    input. -/
theorem never_stalls (P : Primitives) (A : ChaCha20Poly1305) (sessionLifetime : Duration)
    (tunDevice : Option TunDevice) (events : List Event)
    (h : (machine P A).Always Careful (start P A sessionLifetime tunDevice) events) :
    ∀ pre, pre <+: events →
      Progress A ((machine P A).final (start P A sessionLifetime tunDevice) pre) ∧
        Unobstructed ((machine P A).final (start P A sessionLifetime tunDevice) pre) := by
  rintro pre ⟨post, rfl⟩
  have hstart : Inv (start P A sessionLifetime tunDevice) :=
    ⟨sound_start A sessionLifetime tunDevice, fun l i hi => absurd hi List.not_mem_nil⟩
  have hinv := (machine P A).final_invariant (inv_step A) _ pre hstart
    (((machine P A).always_append _ _ pre post).mp h).1
  refine ⟨?_, hinv.unobstructed⟩
  rintro ⟨i, peerAddr, hi⟩
  obtain ⟨j, -, hstep⟩ := hinv.progress A hi
  exact ⟨j, hstep⟩

/-! ## The stall -/

section Stall

variable (A : ChaCha20Poly1305)

/-- A jam at `tun_device`, and every datagram from task `n` on still has to look at
    `client_sessions`. -/
structure Stalled (r j n : ℕ) (s : ServerPool P) : Prop where
  jam : s.Jam .tunDevice .clientSessions r j
  waiting : ∀ i t, n ≤ i → s.tasks[i]? = some t → t.kind.peer?.isSome = true →
    t.prog = body A t.kind

theorem Stalled.add {A : ChaCha20Poly1305} {r j n : ℕ} {s : ServerPool P}
    (hs : Stalled A r j n s) (kind : Kind) : Stalled A r j n (s.add (Task.new (body A) kind)) := by
  refine ⟨hs.jam.add _, fun i t hi ht hkind => ?_⟩
  rcases List.getElem?_snoc_cases ht with ht | rfl
  · exact hs.waiting i t hi ht hkind
  · rfl

/-- A step of a datagram's task can only be to ask for `client_sessions`. -/
theorem Stalled.waiting_step {A : ChaCha20Poly1305} {r j n i : ℕ} {s s' : ServerPool P}
    (hs : Stalled A r j n s) (hstep : s.step (body A) i = some s') (hi : n ≤ i)
    (t : Task Kind Lock (LlpListener P) (Option Bytes)) (ht : s'.tasks[i]? = some t)
    (hkind : t.kind.peer?.isSome = true) : t.prog = body A t.kind := by
  obtain ⟨u, hu, hmoves⟩ := Pool.step_moves (body A) hstep
  have hsame : t.kind = u.kind := Pool.step_kind hstep hu ht
  rw [hsame] at hkind
  have hprog := hs.waiting i u hi hu hkind
  cases hk : u.kind with
  | datagram env packet peerAddr =>
      rw [hk] at hprog
      change u.prog = .acquire .clientSessions .read _ at hprog
      cases hmoves with
      | ask hp hno =>
          obtain rfl : t = u := Option.some.inj (ht.symm.trans hu)
          rw [hprog, hk]
          rfl
      | grant hp hq hfree =>
          rw [hprog] at hp
          cases hp
          rw [hs.jam.not_free] at hfree
          cases hfree
      | restart hp | release hp | act hp | recv hp hx | spawn hp =>
          rw [hprog] at hp
          cases hp
  | _ =>
      rw [hk] at hkind
      cases hkind

theorem stalled_step (r j n : ℕ) (s : ServerPool P) (e : Event) (hs : Stalled A r j n s)
    (he : ∀ x, e ≠ .input r x) : Stalled A r j n ((machine P A).step s e).2 := by
  show Stalled A r j n (step A s e)
  cases e with
  | step i =>
      unfold step
      simp only
      cases hstep : s.step (body A) i with
      | none => exact hs
      | some s' =>
          refine ⟨hs.jam.step hstep, fun m t hm ht hkind => ?_⟩
          by_cases hmi : m = i
          · subst hmi
            exact hs.waiting_step hstep hm t ht hkind
          · rcases (Pool.step_tasks hstep hmi).2 t ht with ht | ⟨kind, rfl⟩
            · exact hs.waiting m t hm ht hkind
            · rfl
  | datagram env packet peerAddr =>
      unfold step
      simp only
      split
      · exact hs
      · exact hs.add _
  | input i x =>
      have hi : r ≠ i := fun h => he x (h ▸ rfl)
      refine ⟨hs.jam.input hi x, fun m t hm ht hkind => ?_⟩
      simp only [step, Pool.input_tasks] at ht
      obtain ⟨u, hu, rfl⟩ := Option.map_eq_some_iff.mp ht
      have hprog := hs.waiting m u hm hu
      by_cases hmi : m = i
      · rw [if_pos hmi] at hkind ⊢
        exact hprog hkind
      · rw [if_neg hmi] at hkind ⊢
        exact hprog hkind
  | cleanup clock => exact hs.add _

/-- **The stall lasts.** Once the task of a VPN packet has asked for `tun_device` while the read
    loop is blocked, it stays there through anything but input to the read loop, and no datagram
    that arrives is processed. -/
theorem stall_lasts {r j : ℕ} {s : ServerPool P} (hjam : s.Jam .tunDevice .clientSessions r j)
    (events : List Event)
    (h : (machine P A).Always (fun _ e => ∀ x, e ≠ .input r x) s events) :
    ((machine P A).final s events).Jam .tunDevice .clientSessions r j ∧
      ∀ i t, s.tasks.length ≤ i → ((machine P A).final s events).tasks[i]? = some t →
        t.kind.peer?.isSome = true → t.prog = body A t.kind := by
  have hstart : Stalled A r j s.tasks.length s := by
    refine ⟨hjam, fun i t hi ht => ?_⟩
    rw [List.getElem?_eq_none hi] at ht
    cases ht
  have hfinal := (machine P A).final_invariant (stalled_step A r j s.tasks.length) s events
    hstart h
  exact ⟨hfinal.jam, hfinal.waiting⟩

end Stall

section Sample

/-- The server with a TUN device after a run. -/
def sampleRun (events : List Event) : ServerPool samplePrimitives :=
  (machine samplePrimitives sampleAead).final
    (start samplePrimitives sampleAead DEFAULT_SESSION_LIFETIME (some ⟨[]⟩)) events

def sampleSteps (i n : ℕ) : List Event := List.replicate n (.step i)

/-- `samplePeer` connects: its CLIENT_HELLO and CLIENT_VERIFY are tasks 1 and 2, the `run` of
    its client is task 3. -/
def sampleConnect : List Event :=
  .datagram sampleEnv sampleClientHello.serialize samplePeer :: sampleSteps 1 10 ++
    .datagram sampleEnv Tasks.sampleVerify samplePeer :: sampleSteps 2 20 ++ sampleSteps 3 5

/-- A VPN packet of `samplePeer`. -/
def sampleVpnPacket : Bytes :=
  (ChaCha20Nonce.new 77 0).asBytes ++
    sampleAead.ciphertext Tasks.samplePeerKey.bytes (ChaCha20Nonce.new 77 0).asBytes [] [0x45]

/-- Another peer. -/
def sampleOther : SocketAddr := ⟨.v4 192 0 2 2, 40000⟩

/-- The read loop gets `tun_device` before anything has come from the TUN interface, `samplePeer`
    connects and sends a VPN packet, and another peer sends a CLIENT_HELLO. -/
def sampleStall : List Event :=
  sampleSteps 0 2 ++ sampleConnect ++
    .datagram sampleEnv sampleVpnPacket samplePeer :: sampleSteps 4 15 ++
    [.datagram sampleEnv sampleClientHello.serialize sampleOther, .step 5]

/-- No task can make a step, and the other peer's CLIENT_HELLO waits for the VPN packet. -/
theorem stalled_by_vpn_packet :
    ¬ Progress sampleAead (sampleRun sampleStall) ∧ ¬ Unobstructed (sampleRun sampleStall) ∧
      sampleOther ∉ (sampleRun sampleStall).data.clientSessions ∧
      sampleOther ∉ (sampleRun sampleStall).data.handshakeStates := by
  have hother : Unprocessed (sampleRun sampleStall) 5 sampleOther := by decide +kernel
  refine ⟨fun hprogress => ?_, fun hfree => ?_, by decide +kernel, by decide +kernel⟩
  · obtain ⟨j, hj⟩ := hprogress ⟨5, sampleOther, hother⟩
    have hlength : (sampleRun sampleStall).tasks.length = 6 := by decide +kernel
    have hnone : ∀ j < 6, ¬ (sampleRun sampleStall).CanStep (body sampleAead) j := by
      decide +kernel
    exact hnone j (hlength ▸ hj.lt_length) hj
  · have hvpn : Unprocessed (sampleRun sampleStall) 4 samplePeer := by decide +kernel
    have hblocked : ReadBlocked (sampleRun sampleStall) := by decide +kernel
    have hsound : (sampleRun sampleStall).Sound discipline :=
      (machine samplePrimitives sampleAead).final_invariant
        (fun s e hs _ => sound_step sampleAead s e hs) _ sampleStall
        (sound_start sampleAead _ _) ((machine _ _).always_true _ _)
    have hheld : ((sampleRun sampleStall).tasks[4]?.any fun t =>
        (.clientSessions, .write) ∈ t.held) = true := by
      decide +kernel
    obtain ⟨t, ht, hwrite⟩ := (Option.any_eq_true _ _).mp hheld
    refine hfree 5 sampleOther 4 samplePeer (by decide) hother hvpn (by decide +kernel) hblocked
      (.single (hsound.waitsFor_writer (l := .clientSessions) (by decide +kernel) ht ?_))
    exact of_decide_eq_true hwrite

/-- The same, with a packet from the TUN interface before the VPN packet. -/
def sampleCareful : List Event :=
  sampleSteps 0 2 ++ sampleConnect ++ .input 0 (some [0]) :: sampleSteps 0 3 ++
    .datagram sampleEnv sampleVpnPacket samplePeer :: sampleSteps 4 15 ++
    [.datagram sampleEnv sampleClientHello.serialize sampleOther, .step 5]

theorem never_stalls_sample :
    Unprocessed (sampleRun sampleCareful) 4 samplePeer ∧
      Unprocessed (sampleRun sampleCareful) 5 sampleOther ∧
      Progress sampleAead (sampleRun sampleCareful) ∧ Unobstructed (sampleRun sampleCareful) := by
  refine ⟨by decide +kernel, by decide +kernel, ?_⟩
  exact never_stalls samplePrimitives sampleAead DEFAULT_SESSION_LIFETIME (some ⟨[]⟩)
    sampleCareful (by decide +kernel) sampleCareful (List.prefix_refl _)

end Sample

end Llp.Server.Locking
