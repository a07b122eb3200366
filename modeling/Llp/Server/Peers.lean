/-
  The listener, peer by peer.

  What the listener holds of a peer, its handshake, its session and what it was sent, moves by
  the datagrams of that peer alone. Of the rest of the server it depends on one thing: when a
  handshake ends, on whether the session manager takes the session.

  `Peer` is that automaton, stated on its own: a peer without a handshake, one whose handshake
  waits for its CLIENT_VERIFY, one with a session. The handshake calls come from `llp-core`.

  * `listener_peers`: the run of the listener, seen from one peer, is the run of its automaton.
  * `peers_isolated`: so what other peers send changes nothing for it.
  * `verified_registered_or_locked_out`: a peer whose CLIENT_VERIFY verified has its session,
    or it is never answered again.
-/
import Llp.Lib.Views
import Llp.Server.Handshakes

namespace Llp.Server
open ByteCodec ClientHandler

/-! ## The automaton of a peer -/

/-- What the listener holds of a peer, and the datagrams it has sent to it. -/
structure Peer (P : Primitives) where
  handshake : Option (LlpListener.HandshakeState P)
  session : Option ClientSession
  sent : List Bytes

/-- A datagram of the peer: what the look at `client_sessions` found, what the call draws, and
    whether the session manager takes the session if a handshake ends now. -/
structure PeerInput where
  hasSession : Bool
  env : LlpListener.Env
  packet : Bytes
  takes : Bool

namespace Peer

variable {P : Primitives}

/-- A peer that the listener has not seen. -/
def new (P : Primitives) : Peer P := ⟨none, none, []⟩

/-- A datagram that opens a handshake, if it is a CLIENT_HELLO. -/
def hello (input : PeerInput) (peer : Peer P) : Peer P :=
  match ServerHandshake.processClientHello input.env.serverRandom input.packet
      (ServerHandshake.new P input.env.secret input.env.sessionId) with
  | .ok (serverHello, mimicryProfile) serverHandshake =>
      if input.env.sendOk then
        { peer with
          handshake := some
            (.waitingClientVerify serverHandshake input.env.sessionId mimicryProfile)
          sent := peer.sent ++ [serverHello] }
      else { peer with handshake := some .waitingClientHello }
  | .error _ _ => { peer with handshake := some .waitingClientHello }

/-- One that ends the handshake that waits, if it is its CLIENT_VERIFY. The session comes after
    the answer, and only with it and the session manager's consent. -/
def verify (input : PeerInput) (serverHandshake : ServerHandshake P) (sessionId : UInt64)
    (mimicryProfile : MimicryProfile) (peer : Peer P) : Peer P :=
  match ServerHandshake.finish input.packet serverHandshake with
  | .ok (serverVerify, sessionKey) serverHandshake =>
      if input.env.sendOk then
        if input.takes then
          { handshake := none
            session := some ⟨sessionId, sessionKey, 0, vpnIp sessionId⟩
            sent := peer.sent ++ [serverVerify] }
        else
          { peer with
            handshake := some (.waitingClientVerify serverHandshake sessionId mimicryProfile)
            sent := peer.sent ++ [serverVerify] }
      else
        { peer with
          handshake := some (.waitingClientVerify serverHandshake sessionId mimicryProfile) }
  | .error _ _ => peer

/-- A VPN packet; with the plaintext to forward. -/
def vpn (A : ChaCha20Poly1305) (packet : Bytes) (peer : Peer P) : Option Bytes × Peer P :=
  match peer.session with
  | some session =>
      let opened := openIncoming A (AeadCipher.new session.sessionKey session.sessionId) packet
        session.receiveCounter
      (opened.1, { peer with session := some { session with receiveCounter := opened.2 } })
  | none => (none, peer)

/-- A handshake packet. -/
def shake (input : PeerInput) (peer : Peer P) : Peer P :=
  match peer.handshake with
  | some (.waitingClientVerify serverHandshake sessionId mimicryProfile) =>
      peer.verify input serverHandshake sessionId mimicryProfile
  | _ => peer.hello input

/-- The automaton; an output is the plaintext forwarded. -/
def machine (P : Primitives) (A : ChaCha20Poly1305) :
    Machine (Peer P) PeerInput (Option Bytes) where
  step peer input :=
    if input.hasSession then peer.vpn A input.packet else (none, peer.shake input)

/-! ### A peer that is locked out -/

/-- The handshake of the peer is over, and the peer has no session. -/
def LockedOut (peer : Peer P) : Prop :=
  peer.session = none ∧ ∃ h sid prof,
    peer.handshake = some (.waitingClientVerify h sid prof) ∧ h.state = .completed

/-- No datagram changes that. -/
theorem LockedOut.step (A : ChaCha20Poly1305) {peer : Peer P} (h : peer.LockedOut)
    (input : PeerInput) : (machine P A).step peer input = (none, peer) := by
  obtain ⟨hsession, sh, sid, prof, hhandshake, hstate⟩ := h
  obtain ⟨e, hfinish⟩ := ServerHandshake.finish_completed input.packet hstate
  simp only [machine, vpn, hsession, shake, hhandshake, verify, hfinish, ite_self]

theorem LockedOut.run (A : ChaCha20Poly1305) {peer : Peer P} (h : peer.LockedOut)
    (inputs : List PeerInput) : (machine P A).final peer inputs = peer ∧
      ∀ o ∈ (machine P A).outputs peer inputs, o = none := by
  induction inputs with
  | nil => exact ⟨rfl, nofun⟩
  | cons input inputs ih =>
      simp only [Machine.final, Machine.outputs, h.step A input, List.forall_mem_cons, true_and]
      exact ih

/-! ### The datagrams of a session -/

section Data

variable {A : ChaCha20Poly1305} {sessionKey : SessionKey} {sessionId : UInt64}

/-- The datagrams of a session, each with the packet it was sealed of, in the order in which
    they were sealed. -/
structure InOrder (A : ChaCha20Poly1305) (sessionKey : SessionKey) (sessionId : UInt64)
    (data : List (PeerInput × Bytes)) : Prop where
  looked : ∀ d ∈ data, d.1.hasSession = true
  sealed : ∀ d ∈ data, Sealed A sessionKey sessionId d.1.packet d.2
  sorted : data.Pairwise fun d e => nonceCounter d.1.packet < nonceCounter e.1.packet

/-- They are all forwarded. -/
theorem InOrder.run (hA : A.Inverts) (hT : A.Tagged) {data : List (PeerInput × Bytes)}
    (h : InOrder A sessionKey sessionId data) (peer : Peer P) {rc : UInt64} {ip : IpAddr}
    (hsession : peer.session = some ⟨sessionId, sessionKey, rc, ip⟩)
    (hnew : ∀ d ∈ data, rc ≤ nonceCounter d.1.packet) :
    (∃ rc', (machine P A).final peer (data.map Prod.fst) =
      { peer with session := some ⟨sessionId, sessionKey, rc', ip⟩ }) ∧
    (machine P A).outputs peer (data.map Prod.fst) = data.map fun d => some d.2 := by
  induction data generalizing peer rc with
  | nil => exact ⟨⟨rc, by rw [← hsession]; rfl⟩, rfl⟩
  | cons d data ih =>
      obtain ⟨hlooked, hothers⟩ := List.forall_mem_cons.mp h.looked
      obtain ⟨hsealed, hsealeds⟩ := List.forall_mem_cons.mp h.sealed
      obtain ⟨hfirst, hsorted⟩ := List.pairwise_cons.mp h.sorted
      have hopen := openIncoming_sealed hA hT hsealed rc
      rw [if_neg (UInt64.not_lt.mpr (hnew d List.mem_cons_self))] at hopen
      let next : Peer P := { peer with
        session := some ⟨sessionId, sessionKey, nonceCounter d.1.packet + 1, ip⟩ }
      have hstep : (machine P A).step peer d.1 = (some d.2, next) := by
        simp only [machine, hlooked, if_true, vpn, hsession, hopen, next]
      have hrest : ∀ e ∈ data, nonceCounter d.1.packet + 1 ≤ nonceCounter e.1.packet := by
        intro e he
        have hlt := UInt64.lt_iff_toNat_lt.mp (hfirst e he)
        rw [UInt64.le_iff_toNat_le, toNat_succ64 hsealed.1]
        omega
      obtain ⟨⟨rc', hfinal⟩, houtputs⟩ :=
        ih ⟨hothers, hsealeds, hsorted⟩ next rfl hrest
      simp only [List.map_cons, Machine.final, Machine.outputs, hstep, houtputs]
      exact ⟨⟨rc', hfinal⟩, trivial⟩

end Data

end Peer

/-! ## The listener, seen from one peer -/

namespace LlpListener

variable {P : Primitives}

/-- What the listener holds of the peer. -/
def peer (s : LlpListener P) (peerAddr : SocketAddr) : Peer P where
  handshake := s.handshakeStates.lookup peerAddr
  session := s.clientSessions.lookup peerAddr
  sent := (s.sent.filter fun datagram => datagram.1 = peerAddr).map Prod.snd

/-- The session manager takes the session of the peer whose handshake waits. -/
def takes (s : LlpListener P) (peerAddr : SocketAddr) : Bool :=
  match s.handshakeStates.lookup peerAddr with
  | some (.waitingClientVerify _ sessionId _) => s.Takes sessionId
  | _ => false

/-- The datagrams of the peer, as its automaton reads them. -/
def ofPeer (peerAddr : SocketAddr) (s : LlpListener P) : Event → Option PeerInput
  | .packet hasSession env packet sender =>
      if sender = peerAddr then some ⟨hasSession, env, packet, s.takes peerAddr⟩ else none
  | .others _ _ _ _ => none

/-- The calls on the listener, with the plaintext that each forwards. -/
def service (P : Primitives) (A : ChaCha20Poly1305) :
    Machine (LlpListener P) Event (Option Bytes) where
  step s event :=
    (match event with
      | .packet true _ packet peerAddr => s.forwarded A packet peerAddr
      | _ => none,
      ((calls P A).step s event).2)

/-! ### What a call leaves alone -/

section Frame

variable {s : LlpListener P} {peerAddr sender : SocketAddr}

theorem peer_sent (hne : sender ≠ peerAddr) (packet : Bytes) (s : LlpListener P) :
    peer { s with sent := s.sent ++ [(sender, packet)] } peerAddr = s.peer peerAddr := by
  simp [peer, hne]

theorem peer_insert (hne : sender ≠ peerAddr) (state : HandshakeState P) (s : LlpListener P) :
    peer { s with handshakeStates := s.handshakeStates.insert sender state } peerAddr =
      s.peer peerAddr := by
  simp only [peer, Finmap.lookup_insert_of_ne _ hne.symm]

theorem setState_keeps_peer (hne : sender ≠ peerAddr) (view : Peer P)
    (state : HandshakeState P) :
    Method.Keeps (fun t => t.peer peerAddr = view) (setState sender state) :=
  Method.Keeps.modify fun t ht => (peer_insert hne state t).trans ht

theorem sendTo_keeps_peer (hne : sender ≠ peerAddr) (view : Peer P) (sendOk : Bool)
    (packet : Bytes) :
    Method.Keeps (fun t => t.peer peerAddr = view) (sendTo sendOk packet sender) :=
  (Method.Keeps.failIf _ _).bind fun _ =>
    Method.Keeps.modify fun t ht => (peer_sent hne packet t).trans ht

theorem inEntry_keeps_peer {α : Type} (hne : sender ≠ peerAddr) (view : Peer P)
    (h : ServerHandshake P) (sid : UInt64) (prof : MimicryProfile)
    (m : Method (ServerHandshake P) LlpError α) :
    Method.Keeps (fun t => t.peer peerAddr = view) (inEntry sender h sid prof m) :=
  Method.Keeps.focus fun t ht => (peer_insert hne _ t).trans ht

theorem answerClientHello_keeps_peer (hne : sender ≠ peerAddr) (view : Peer P) (env : Env)
    (packet : Bytes) :
    Method.Keeps (fun t => t.peer peerAddr = view) (answerClientHello env packet sender) := by
  refine (Method.Keeps.onLocal _ _).bind fun _ => ?_
  refine (sendTo_keeps_peer hne view _ _).bind fun _ => ?_
  exact setState_keeps_peer hne view _

theorem answerClientVerify_keeps_peer (hne : sender ≠ peerAddr) (view : Peer P) (env : Env)
    (packet : Bytes) (h : ServerHandshake P) (sid : UInt64) (prof : MimicryProfile) :
    Method.Keeps (fun t => t.peer peerAddr = view)
      (answerClientVerify env packet sender h sid prof) := by
  refine (inEntry_keeps_peer hne view h sid prof _).bind fun _ => ?_
  refine (inEntry_keeps_peer hne view h sid prof _).bind fun _ => ?_
  refine (sendTo_keeps_peer hne view _ _).bind fun _ => ?_
  refine (inEntry_keeps_peer hne view h sid prof _).bind fun _ => ?_
  refine (Method.Keeps.okOr _ _).bind fun _ => ?_
  refine (Method.Keeps.focus fun _ ht => ht).bind fun _ => Method.Keeps.modify fun t ht => ?_
  rw [← ht]
  simp only [peer, Finmap.lookup_erase_ne hne.symm, Finmap.lookup_insert_of_ne _ hne.symm]

/-- A handshake packet of one peer changes nothing for another. -/
theorem handleHandshakePacket_other (hne : sender ≠ peerAddr) (env : Env) (packet : Bytes)
    (s : LlpListener P) :
    (Method.state (handleHandshakePacket env packet sender s)).peer peerAddr = s.peer peerAddr := by
  have hkeeps : Method.Keeps (fun t : LlpListener P => t.peer peerAddr = s.peer peerAddr)
      (handleHandshakePacket env packet sender) := by
    refine Method.Keeps.get.bind fun self => ?_
    refine (setState_keeps_peer hne _ _).bind fun _ => ?_
    split
    · exact answerClientHello_keeps_peer hne _ env packet
    · exact answerClientVerify_keeps_peer hne _ env packet _ _ _
  exact hkeeps s rfl

/-- Nor does a VPN packet. -/
theorem handleVpnPacket_other (A : ChaCha20Poly1305) (hne : sender ≠ peerAddr) (env : Env)
    (packet : Bytes) (s : LlpListener P) :
    (Method.state (handleVpnPacket A env packet sender s)).peer peerAddr = s.peer peerAddr := by
  unfold handleVpnPacket
  rw [Method.modify_apply, Method.state_ok]
  split
  · simp only [peer, Finmap.lookup_insert_of_ne _ hne.symm]
  · rfl

end Frame

/-! ### What a call of the peer does -/

/-- The rest of the handshake handler, once the registration is over. -/
def settle (client : Option ClientHandler) (s : LlpListener P) : LlpListener P :=
  match client with
  | some client => forget client.peerAddr (connect client s)
  | none => s

theorem handleHandshakePacket_state (env : Env) (packet : Bytes) (peerAddr : SocketAddr)
    (s : LlpListener P) :
    Method.state (handleHandshakePacket env packet peerAddr s) =
      settle (started (startHandshake env packet peerAddr s))
        (Method.state (startHandshake env packet peerAddr s)) := by
  rw [handleHandshakePacket_eq]
  cases hstart : startHandshake env packet peerAddr s with
  | error e t => rw [Method.bind_error hstart]; rfl
  | ok client t =>
      rw [Method.bind_ok hstart]
      cases client with
      | none => rfl
      | some client => rfl

theorem shake_idle {peer : Peer P} {input : PeerInput}
    (h : ∀ sh sid prof, peer.handshake ≠ some (.waitingClientVerify sh sid prof)) :
    peer.shake input = peer.hello input := by
  unfold Peer.shake
  split
  · next sh sid prof heq => exact absurd heq (h sh sid prof)
  · rfl

theorem shake_waiting {peer : Peer P} {input : PeerInput} {h : ServerHandshake P} {sid : UInt64}
    {prof : MimicryProfile} (hw : peer.handshake = some (.waitingClientVerify h sid prof)) :
    peer.shake input = peer.verify input h sid prof := by
  unfold Peer.shake
  rw [hw]

/-- Seen from the peer, each of the six cases is a step of its automaton. -/
theorem HandshakeStep.peer {env : Env} {packet : Bytes} {peerAddr : SocketAddr}
    {s t : LlpListener P} {client : Option ClientHandler}
    (hstep : HandshakeStep env packet peerAddr s client t) :
    (settle client t).peer peerAddr =
      (s.peer peerAddr).shake ⟨false, env, packet, s.takes peerAddr⟩ := by
  have hidle : ¬ Waiting s peerAddr → ∀ h sid prof,
      (s.peer peerAddr).handshake ≠ some (.waitingClientVerify h sid prof) :=
    fun hno h sid prof heq => hno ⟨h, sid, prof, heq⟩
  cases hstep with
  | greeted ch hno hdata hsend =>
      rw [shake_idle (hidle hno), Peer.hello]
      simp [processClientHello_greeted hdata, hsend, settle, LlpListener.peer, enter, answer]
  | unanswered hno hnone =>
      rw [shake_idle (hidle hno), Peer.hello]
      rcases ServerHandshake.processClientHello_cases env.serverRandom packet
        (ServerHandshake.new P env.secret env.sessionId) with ⟨ch, -, hdata, hproc⟩ | ⟨e, hproc⟩
      · simp [hproc, hnone ch hdata, settle, LlpListener.peer, enter]
      · simp [hproc, settle, LlpListener.peer, enter]
  | refused h sid prof e hw hfinish =>
      rw [shake_waiting hw, Peer.verify]
      simp only [hfinish, settle]
  | unsent h h' sid prof serverVerify key hw hfinish hsend =>
      rw [shake_waiting hw, Peer.verify]
      simp [hfinish, hsend, settle, LlpListener.peer, enter]
  | untaken h h' sid prof serverVerify key hw hfinish hsend hfull =>
      have htakes : s.takes peerAddr = false := by simp [takes, hw, hfull]
      rw [shake_waiting hw, Peer.verify]
      simp [hfinish, hsend, htakes, settle, LlpListener.peer, enter, answer]
  | registered h h' sid prof serverVerify key hw hfinish hsend htake =>
      have htakes : s.takes peerAddr = true := by simp [takes, hw, htake]
      rw [shake_waiting hw, Peer.verify]
      simp [hfinish, hsend, htakes, settle, connect, forget, LlpListener.peer, enter, answer]

theorem handleVpnPacket_peer (A : ChaCha20Poly1305) (env : Env) (packet : Bytes)
    (peerAddr : SocketAddr) (s : LlpListener P) :
    (s.peer peerAddr).vpn A packet = (s.forwarded A packet peerAddr,
      (Method.state (handleVpnPacket A env packet peerAddr s)).peer peerAddr) := by
  unfold Peer.vpn forwarded handleVpnPacket
  rw [Method.modify_apply, Method.state_ok]
  cases hl : s.clientSessions.lookup peerAddr with
  | none => simp [LlpListener.peer, hl]
  | some session => simp [LlpListener.peer, hl, handleIncomingPacket_receiveCounter]

/-! ## Runs -/

section Run

variable (A : ChaCha20Poly1305) (peerAddr : SocketAddr)

theorem service_shown (s : LlpListener P) (event : Event) (input : PeerInput)
    (h : ofPeer peerAddr s event = some input) :
    (Peer.machine P A).step (s.peer peerAddr) input =
      (((service P A).step s event).1, ((service P A).step s event).2.peer peerAddr) := by
  cases event with
  | others sessionManager natGateway clientRegistry channels => cases h
  | packet hasSession env packet sender =>
      unfold ofPeer at h
      simp only at h
      split at h
      · next hsender =>
          subst hsender
          cases h
          cases hasSession with
          | true => exact handleVpnPacket_peer A env packet sender s
          | false =>
              have hstep := (startHandshake_step env packet sender s).peer
              rw [← handleHandshakePacket_state] at hstep
              exact congrArg (Prod.mk none) hstep.symm
      · cases h

theorem service_hidden (s : LlpListener P) (event : Event)
    (h : ofPeer peerAddr s event = none) :
    ((service P A).step s event).2.peer peerAddr = s.peer peerAddr := by
  cases event with
  | others sessionManager natGateway clientRegistry channels => rfl
  | packet hasSession env packet sender =>
      have hne : sender ≠ peerAddr := by
        intro hsender
        simp [ofPeer, hsender] at h
      cases hasSession with
      | true => exact handleVpnPacket_other A hne env packet s
      | false => exact handleHandshakePacket_other hne env packet s

/-- **The listener, peer by peer.** Seen from any one peer, a run of the listener is a run of the
    peer's automaton on its own datagrams: it ends with the same handshake, session and
    datagrams sent, and forwards the same plaintexts. -/
theorem listener_peers (s : LlpListener P) (events : List Event) :
    (Peer.machine P A).final (s.peer peerAddr)
        ((service P A).shownInputs (ofPeer peerAddr) s events) =
      ((service P A).final s events).peer peerAddr ∧
    (Peer.machine P A).outputs (s.peer peerAddr)
        ((service P A).shownInputs (ofPeer peerAddr) s events) =
      (service P A).shownOutputs (ofPeer peerAddr) s events :=
  Machine.view_run (service_shown A peerAddr) (service_hidden A peerAddr) s events

/-- **Peers are isolated.** Two runs in which a peer starts out alike, sends the same datagrams,
    and has its sessions taken or refused alike, leave it alike: with the same handshake and
    session, sent the same datagrams, and with the same plaintexts forwarded, whatever the other
    peers send and the rest of the server does. -/
theorem peers_isolated {s t : LlpListener P} (hpeer : s.peer peerAddr = t.peer peerAddr)
    {events events' : List Event}
    (hinputs : (service P A).shownInputs (ofPeer peerAddr) s events =
      (service P A).shownInputs (ofPeer peerAddr) t events') :
    ((service P A).final s events).peer peerAddr =
        ((service P A).final t events').peer peerAddr ∧
      (service P A).shownOutputs (ofPeer peerAddr) s events =
        (service P A).shownOutputs (ofPeer peerAddr) t events' :=
  Machine.view_isolated (service_shown A peerAddr) (service_hidden A peerAddr) hpeer hinputs

end Run

section Sample

/-- A second peer says hello between two datagrams of the first. -/
def otherPeer : SocketAddr := ⟨.v4 198 51 100 7, 50000⟩

/-- What `samplePeer` sends is shown alike with the other peer and without it. -/
theorem peers_isolated_sample :
    let alone := [sampleHello, sampleHello]
    let among := [sampleHello, .packet false sampleEnv sampleClientHello.serialize otherPeer,
      sampleHello]
    ((service samplePrimitives (tableAead [])).final (sampleAfter []) among).peer samplePeer =
        ((service samplePrimitives (tableAead [])).final (sampleAfter []) alone).peer samplePeer ∧
      (service samplePrimitives (tableAead [])).shownOutputs (ofPeer samplePeer) (sampleAfter [])
          among =
        (service samplePrimitives (tableAead [])).shownOutputs (ofPeer samplePeer) (sampleAfter [])
          alone :=
  peers_isolated (tableAead []) samplePeer rfl rfl

end Sample

/-! ## After the CLIENT_VERIFY -/

section Verified

variable (A : ChaCha20Poly1305) {s : LlpListener P} {peerAddr : SocketAddr}
  {h h' : ServerHandshake P} {sid : UInt64} {prof : MimicryProfile} {packet serverVerify : Bytes}
  {key : SessionKey}

/-- What becomes of the peer in the call. -/
theorem verified_peer
    (hw : s.handshakeStates.lookup peerAddr = some (.waitingClientVerify h sid prof)) (env : Env)
    (packet : Bytes) :
    ((service P A).step s (.packet false env packet peerAddr)).2.peer peerAddr =
      (s.peer peerAddr).verify ⟨false, env, packet, s.Takes sid⟩ h sid prof := by
  have hshown : ofPeer peerAddr s (.packet false env packet peerAddr) =
      some ⟨false, env, packet, s.Takes sid⟩ := by
    simp [ofPeer, takes, hw]
  have hstep := congrArg Prod.snd (service_shown A peerAddr s _ _ hshown)
  exact hstep.symm.trans (shake_waiting hw)

/-- **Registered or locked out.** When the CLIENT_VERIFY of a peer without a session verifies,
    the peer has its session if SERVER_VERIFY can be sent and the session manager takes the
    session. Otherwise, whatever is sent to the listener later, by this peer or by others, the
    peer is never answered again, gets no session, and nothing of it is forwarded. -/
theorem verified_registered_or_locked_out
    (hw : s.handshakeStates.lookup peerAddr = some (.waitingClientVerify h sid prof))
    (hfinish : ServerHandshake.finish packet h = .ok (serverVerify, key) h')
    (hno : peerAddr ∉ s.clientSessions) (env : Env) :
    let s' := ((service P A).step s (.packet false env packet peerAddr)).2
    (Registers s env sid → s'.peer peerAddr =
      ⟨none, some ⟨sid, key, 0, vpnIp sid⟩, (s.peer peerAddr).sent ++ [serverVerify]⟩) ∧
    (¬ Registers s env sid → ∀ later : List Event,
      ((service P A).final s' later).peer peerAddr = s'.peer peerAddr ∧
      peerAddr ∉ ((service P A).final s' later).clientSessions ∧
      ∀ o ∈ (service P A).shownOutputs (ofPeer peerAddr) s' later, o = none) := by
  intro s'
  have hpeer : s'.peer peerAddr = (s.peer peerAddr).verify ⟨false, env, packet, s.Takes sid⟩ h sid
      prof := verified_peer A hw env packet
  have hsession : (s.peer peerAddr).session = none :=
    Finmap.lookup_eq_none.mpr hno
  unfold Peer.verify at hpeer
  rw [hfinish] at hpeer
  refine ⟨fun hreg => ?_, fun hreg later => ?_⟩
  · have htakes : s.Takes sid := hreg.2
    simpa [hreg.1, htakes] using hpeer
  · have hlocked : (s'.peer peerAddr).LockedOut := by
      obtain ⟨-, hh', -⟩ := ServerHandshake.finish_eq_ok hfinish
      rw [hpeer]
      cases hsend : env.sendOk with
      | false => exact ⟨hsession, h', sid, prof, rfl, by rw [hh']⟩
      | true =>
          have hfull : ¬ s.Takes sid := fun htakes => hreg ⟨hsend, htakes⟩
          simp only [hfull, decide_false, if_true, Bool.false_eq_true, if_false]
          exact ⟨hsession, h', sid, prof, rfl, by rw [hh']⟩
    obtain ⟨hfinal, houtputs⟩ := listener_peers A peerAddr s' later
    obtain ⟨hstay, hsilent⟩ := hlocked.run A ((service P A).shownInputs (ofPeer peerAddr) s' later)
    rw [hstay] at hfinal
    refine ⟨hfinal.symm, ?_, ?_⟩
    · apply Finmap.lookup_eq_none.mp
      exact (congrArg Peer.session hfinal).symm.trans hlocked.1
    · rw [← houtputs]
      exact hsilent

end Verified

section Sample

/-- The handshake of `samplePeer` waits, and its CLIENT_VERIFY cannot be answered. -/
theorem verified_registered_or_locked_out_sample :
    let s := sampleAfter [sampleHello]
    let s' := ((service samplePrimitives (tableAead [])).step s
      (.packet false { sampleEnv with sendOk := false } Tasks.sampleVerify samplePeer)).2
    ∀ later : List Event,
      ((service samplePrimitives (tableAead [])).final s' later).peer samplePeer =
        s'.peer samplePeer ∧
      samplePeer ∉ ((service samplePrimitives (tableAead [])).final s' later).clientSessions ∧
      ∀ o ∈ (service samplePrimitives (tableAead [])).shownOutputs (ofPeer samplePeer) s' later,
        o = none :=
  have hfinish : ServerHandshake.finish Tasks.sampleVerify
      (sampleEnv.greeted samplePrimitives sampleClientHello) = .ok (_, Tasks.samplePeerKey)
        { sampleEnv.greeted samplePrimitives sampleClientHello with state := .completed } := rfl
  (verified_registered_or_locked_out (tableAead []) (s := sampleAfter [sampleHello]) rfl hfinish
    (by decide) { sampleEnv with sendOk := false }).2 fun hreg => by cases hreg.1

end Sample

end LlpListener

end Llp.Server
