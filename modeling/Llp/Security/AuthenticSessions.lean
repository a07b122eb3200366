/-
  Where the sessions of the listener come from.

  The tasks of the listener run side by side, and each datagram is handled in several steps.
  What is in `client_sessions` is traced back to the datagrams: the invariant ties the tables to
  the steps so far.

  * `Answers`: the task of a datagram runs its handshake handler, and the peer is sent an answer.
  * `Greeted`, `Established`: a CLIENT_HELLO of a peer has been answered with a SERVER_HELLO, and
    later a CLIENT_VERIFY of it with a SERVER_VERIFY.
  * `sessions_authentic`: each session of a run is established, and so is the one under which
    any plaintext is forwarded.
-/
import Llp.Core.HandshakeCodec
import Llp.Lib.Views
import Llp.Server.Handshakes

namespace Llp.Security
open ByteCodec Server Server.LlpListener Server.ClientHandler

variable {P : Primitives} (A : ChaCha20Poly1305) (start : Tasks P)

/-! ## Histories -/

/-- After `past`, the task `i` has a datagram of the peer, which came before and found no session.
    When it runs its handshake handler next, the socket takes the answer for this peer, and
    nothing else. -/
def Answers (past : List Tasks.Event) (i : ℕ) (env : Env) (packet : Bytes) (peerAddr : SocketAddr)
    (answer : Bytes) : Prop :=
  let s := (Tasks.machine P A).final start past
  Tasks.Event.arrive packet peerAddr ∈ past ∧
    s.tasks[i]? = some ⟨packet, peerAddr, .looked false⟩ ∧
    ((Tasks.machine P A).step s (.handle i env)).2.listener.sent =
      s.listener.sent ++ [(peerAddr, answer)]

/-- A task has answered a CLIENT_HELLO of the peer with the SERVER_HELLO that it drew. -/
def Greeted (past : List Tasks.Event) (peerAddr : SocketAddr) (ch : ClientHello) (env : Env) :
    Prop :=
  ∃ pre i post hello, past = pre ++ Tasks.Event.handle i env :: post ∧
    Answers A start pre i env hello peerAddr (env.serverHello P).serialize ∧
    ClientHello.deserialize hello = .ok ch

/-- A session of the peer is established: its CLIENT_HELLO was answered under the session id and
    the key; and after that a task answered a CLIENT_VERIFY of the peer, which carries the HMAC
    of the two hellos under this key, with the SERVER_VERIFY for them. -/
def Established (past : List Tasks.Event) (peerAddr : SocketAddr) (sessionId : UInt64)
    (sessionKey : SessionKey) : Prop :=
  ∃ ch env, sessionId = env.sessionId ∧ sessionKey = env.sessionKey P ch ∧
    ∃ pre i env' post verify, past = pre ++ Tasks.Event.handle i env' :: post ∧
      Greeted A start pre peerAddr ch env ∧
      Answers A start pre i env' verify peerAddr (ServerVerify.new P sessionKey
        (ch.serialize ++ (env.serverHello P).serialize)).serialize ∧
      ClientVerify.deserialize verify =
        .ok (ClientVerify.new P sessionKey (ch.serialize ++ (env.serverHello P).serialize))

section Histories

variable {A} {start} {past : List Tasks.Event} {peerAddr : SocketAddr}

theorem Greeted.snoc {ch : ClientHello} {env : Env} (h : Greeted A start past peerAddr ch env)
    (e : Tasks.Event) : Greeted A start (past ++ [e]) peerAddr ch env := by
  obtain ⟨pre, i, post, hello, rfl, hanswered⟩ := h
  exact ⟨pre, i, post ++ [e], hello, by simp, hanswered⟩

theorem Established.append {sid : UInt64} {key : SessionKey}
    (h : Established A start past peerAddr sid key) (later : List Tasks.Event) :
    Established A start (past ++ later) peerAddr sid key := by
  obtain ⟨ch, env, hsid, hkey, pre, i, env', post, verify, rfl, hgreeted⟩ := h
  exact ⟨ch, env, hsid, hkey, pre, i, env', post ++ later, verify, by simp, hgreeted⟩

end Histories

/-- What the handshake of a peer holds after its CLIENT_HELLO. -/
structure Hellos (h : ServerHandshake P) (sid : UInt64) (ch : ClientHello) (env : Env) : Prop where
  clientHello : h.clientHello = some ch
  serverHello : h.serverHello = some (env.serverHello P)
  sessionKey : h.sessionKey = some (env.sessionKey P ch)
  sessionId : sid = env.sessionId

/-! ## The invariant -/

/-- The listener and its tasks against the steps so far. -/
structure History (past : List Tasks.Event) (s : Tasks P) : Prop where
  state : s = (Tasks.machine P A).final start past
  arrived : ∀ task ∈ s.tasks, Tasks.Event.arrive task.packet task.peerAddr ∈ past
  waiting : ∀ p h sid prof,
    s.listener.handshakeStates.lookup p = some (.waitingClientVerify h sid prof) →
    ∃ ch env, Greeted A start past p ch env ∧ Hellos h sid ch env
  sessions : ∀ p session, s.listener.clientSessions.lookup p = some session →
    Established A start past p session.sessionId session.sessionKey
  connecting : ∀ c, s.connecting = some c →
    Established A start past c.client.peerAddr c.client.sessionId c.client.sessionKey

section Kept

variable {A} {start} {past : List Tasks.Event} {s : Tasks P}

/-- Steps that leave the tables and the running handler alone. -/
theorem History.frame (h : History A start past s) (e : Tasks.Event) {s' : Tasks P}
    (hstate : s' = (Tasks.machine P A).final start (past ++ [e]))
    (htasks : ∀ task ∈ s'.tasks, Tasks.Event.arrive task.packet task.peerAddr ∈ past ++ [e])
    (hstates : s'.listener.handshakeStates = s.listener.handshakeStates)
    (hsessions : ∀ p session, s'.listener.clientSessions.lookup p = some session →
      Established A start (past ++ [e]) p session.sessionId session.sessionKey)
    (hconnecting : ∀ c', s'.connecting = some c' →
      ∃ c, s.connecting = some c ∧ c'.client = c.client) :
    History A start (past ++ [e]) s' where
  state := hstate
  arrived := htasks
  waiting p sh sid prof hl := by
    obtain ⟨ch, env, hgreeted, hhellos⟩ := h.waiting p sh sid prof (hstates ▸ hl)
    exact ⟨ch, env, hgreeted.snoc e, hhellos⟩
  sessions := hsessions
  connecting c' hc' := by
    obtain ⟨c, hc, hclient⟩ := hconnecting c' hc'
    rw [hclient]
    exact (h.connecting c hc).append [e]

theorem History.tasks (h : History A start past s) (e : Tasks.Event) :
    ∀ task ∈ s.tasks, Tasks.Event.arrive task.packet task.peerAddr ∈ past ++ [e] :=
  fun task hmem => List.mem_append_left _ (h.arrived task hmem)

theorem History.established (h : History A start past s) (e : Tasks.Event) :
    ∀ p session, s.listener.clientSessions.lookup p = some session →
      Established A start (past ++ [e]) p session.sessionId session.sessionKey :=
  fun p session hl => (h.sessions p session hl).append [e]

/-- A task that moves on keeps its datagram. -/
theorem History.set (h : History A start past s) (e : Tasks.Event) {i : ℕ} {packet : Bytes}
    {peerAddr : SocketAddr} {stage : TaskStage} (hi : s.tasks[i]? = some ⟨packet, peerAddr, stage⟩)
    (stage' : TaskStage) :
    ∀ task ∈ s.tasks.set i ⟨packet, peerAddr, stage'⟩,
      Tasks.Event.arrive task.packet task.peerAddr ∈ past ++ [e] := by
  intro task hmem
  rcases List.mem_or_eq_of_mem_set hmem with hmem | rfl
  · exact h.tasks e task hmem
  · exact h.tasks e ⟨packet, peerAddr, stage⟩ (List.mem_of_getElem? hi)

/-- A VPN packet leaves the sessions' ids and keys as they are. -/
theorem handleVpnPacket_lookup (A : ChaCha20Poly1305) (env : Env) (packet : Bytes)
    (peerAddr : SocketAddr) (s : LlpListener P) {p : SocketAddr} {session' : ClientSession}
    (hl : (Method.state (handleVpnPacket A env packet peerAddr s)).clientSessions.lookup p =
      some session') :
    ∃ session, s.clientSessions.lookup p = some session ∧
      session'.sessionId = session.sessionId ∧ session'.sessionKey = session.sessionKey := by
  unfold handleVpnPacket at hl
  rw [Method.modify_apply, Method.state_ok] at hl
  cases hsession : s.clientSessions.lookup peerAddr with
  | none =>
      simp only [hsession] at hl
      exact ⟨session', hl, rfl, rfl⟩
  | some session =>
      simp only [hsession] at hl
      by_cases hp : p = peerAddr
      · subst hp
        rw [Finmap.lookup_insert] at hl
        cases hl
        exact ⟨session, hsession, rfl, rfl⟩
      · rw [Finmap.lookup_insert_of_ne _ hp] at hl
        exact ⟨session', hl, rfl, rfl⟩

/-- A task runs its handshake handler, and the socket takes one datagram. -/
theorem History.answers (h : History A start past s) {i : ℕ} {packet : Bytes}
    {peerAddr : SocketAddr} (hi : s.tasks[i]? = some ⟨packet, peerAddr, .looked false⟩) {env : Env}
    {t : LlpListener P} (ht : ((Tasks.machine P A).step s (.handle i env)).2.listener = t)
    {answer : Bytes} (hsent : t.sent = s.listener.sent ++ [(peerAddr, answer)]) :
    Answers A start past i env packet peerAddr answer := by
  have harrived := h.arrived _ (List.mem_of_getElem? hi)
  rw [← ht, h.state] at hsent
  rw [h.state] at hi
  exact ⟨harrived, hi, hsent⟩

/-- What a handshake packet of the peer leaves waiting has been greeted, by now or before. -/
theorem History.greeted (h : History A start past s) {i : ℕ} {env : Env} {packet : Bytes}
    {peerAddr : SocketAddr} (hi : s.tasks[i]? = some ⟨packet, peerAddr, .looked false⟩)
    {client : Option ClientHandler} {t : LlpListener P}
    (hnext : ((Tasks.machine P A).step s (.handle i env)).2.listener = t)
    (ht : HandshakeStep env packet peerAddr s.listener client t) {p : SocketAddr}
    {sh : ServerHandshake P} {sid : UInt64} {prof : MimicryProfile}
    (hl : t.handshakeStates.lookup p = some (.waitingClientVerify sh sid prof)) :
    ∃ ch env', Greeted A start (past ++ [.handle i env]) p ch env' ∧ Hellos sh sid ch env' := by
  by_cases hp : p = peerAddr
  · subst hp
    rcases ht.waiting hl with ⟨ch, hdata, rfl, rfl, hsent⟩ | ⟨h₀, state, hl₀, rfl⟩
    · exact ⟨ch, env, ⟨past, i, [], packet, rfl, h.answers hi hnext hsent, hdata⟩,
        rfl, rfl, rfl, rfl⟩
    · obtain ⟨ch, env', hgreeted, hch, hsh, hkey, hsid⟩ := h.waiting p h₀ sid prof hl₀
      exact ⟨ch, env', hgreeted.snoc _, hch, hsh, hkey, hsid⟩
  · rw [ht.other hp] at hl
    obtain ⟨ch, env', hgreeted, hhellos⟩ := h.waiting p sh sid prof hl
    exact ⟨ch, env', hgreeted.snoc _, hhellos⟩

/-- A session that the handler registers is established. -/
theorem History.registered (h : History A start past s) {i : ℕ} {env : Env} {packet : Bytes}
    {peerAddr : SocketAddr} (hi : s.tasks[i]? = some ⟨packet, peerAddr, .looked false⟩)
    {client : ClientHandler} {t : LlpListener P}
    (hnext : ((Tasks.machine P A).step s (.handle i env)).2.listener = t)
    (ht : HandshakeStep env packet peerAddr s.listener (some client) t) :
    Established A start (past ++ [.handle i env]) client.peerAddr client.sessionId
      client.sessionKey := by
  cases ht with
  | registered sh sh' sid prof serverVerify key hw hfinish hsend htakes =>
      obtain ⟨ch, env', hgreeted, hhellos⟩ := h.waiting peerAddr sh sid prof hw
      obtain ⟨hkey, -, ch', sh', v, hch, hsh, hv, hverify, hanswer⟩ :=
        ServerHandshake.finish_eq_ok hfinish
      cases hhellos.clientHello.symm.trans hch
      cases hhellos.serverHello.symm.trans hsh
      cases hhellos.sessionKey.symm.trans hkey
      have htag : v = ClientVerify.new P (env'.sessionKey P ch)
          (ch.serialize ++ (env'.serverHello P).serialize) := by
        cases v
        exact congrArg ClientVerify.mk (verifyTag_ok hverify)
      rw [htag] at hv
      have hanswers := h.answers hi hnext (congrArg (fun answer =>
        s.listener.sent ++ [(peerAddr, answer)]) hanswer)
      exact ⟨ch, env', hhellos.sessionId, rfl, past, i, env, [], packet, rfl, hgreeted, hanswers,
        hv⟩

/-- Every step of the tasks keeps the invariant. -/
theorem History.step (h : History A start past s) (e : Tasks.Event) :
    History A start (past ++ [e]) ((Tasks.machine P A).step s e).2 := by
  have hstep := Tasks.step_cases A s e
  have hstate : ((Tasks.machine P A).step s e).2 =
      (Tasks.machine P A).final start (past ++ [e]) := by
    rw [Machine.final_snoc, ← h.state]
  generalize ((Tasks.machine P A).step s e).1 = o at hstep
  generalize hnext : ((Tasks.machine P A).step s e).2 = s' at hstep hstate ⊢
  have hsame : ∀ c', s.connecting = some c' → ∃ c, s.connecting = some c ∧ c'.client = c.client :=
    fun c' hc' => ⟨c', hc', rfl⟩
  cases hstep with
  | idle => exact h.frame e hstate (h.tasks e) rfl (h.established e) hsame
  | arrive packet peerAddr hlen =>
      refine h.frame _ hstate ?_ rfl (h.established _) hsame
      intro task hmem
      rcases List.mem_append.mp hmem with hmem | hmem
      · exact h.tasks _ task hmem
      · rw [List.mem_singleton.mp hmem]
        exact List.mem_append_right _ (List.mem_singleton.mpr rfl)
  | look i packet peerAddr hi =>
      exact h.frame _ hstate (h.set _ hi _) rfl (h.established _) hsame
  | vpn i env packet peerAddr hi =>
      have hstates := (Tasks.handleVpnPacket_tables A env packet peerAddr s.listener).2.1
      refine h.frame _ hstate (h.set _ hi .handled) hstates ?_ hsame
      intro p session' hl
      obtain ⟨session, hsession, hid, hkey⟩ :=
        handleVpnPacket_lookup A env packet peerAddr s.listener hl
      rw [hid, hkey]
      exact h.established _ p session hsession
  | handshake i env packet peerAddr hi hfree client t ht =>
      have ht' := congrArg Tasks.listener hnext
      refine ⟨hstate, h.set _ hi .handled, fun p sh sid prof hl => h.greeted hi ht' ht hl, ?_, ?_⟩
      · intro p session hl
        rw [ht.sessions] at hl
        exact h.established _ p session hl
      · intro c hc
        obtain ⟨client, hclient, rfl⟩ := Option.map_eq_some_iff.mp hc
        subst hclient
        exact h.registered hi ht' ht
  | connect client hc =>
      have hclient : Established A start (past ++ [Tasks.Event.connect]) client.peerAddr
          client.sessionId client.sessionKey := (h.connecting _ hc).append _
      refine h.frame _ hstate (h.tasks _) rfl ?_ ?_
      · intro p session hl
        by_cases hp : p = client.peerAddr
        · subst hp
          rw [LlpListener.connect, Finmap.lookup_insert] at hl
          cases hl
          exact hclient
        · rw [LlpListener.connect, Finmap.lookup_insert_of_ne _ hp] at hl
          exact h.established _ p session hl
      · intro c' hc'
        cases hc'
        exact ⟨_, hc, rfl⟩
  | release client hc =>
      refine ⟨hstate, h.tasks _, fun p sh sid prof hl => ?_, h.established _, nofun⟩
      have hl' : s.listener.handshakeStates.lookup p = some (.waitingClientVerify sh sid prof) := by
        by_cases hp : p = client.peerAddr
        · rw [LlpListener.forget, hp, Finmap.lookup_erase] at hl
          cases hl
        · rwa [LlpListener.forget, Finmap.lookup_erase_ne hp] at hl
      obtain ⟨ch, env, hgreeted, hhellos⟩ := h.waiting p sh sid prof hl'
      exact ⟨ch, env, hgreeted.snoc _, hhellos⟩
  | others e sessionManager natGateway clientRegistry channels =>
      exact h.frame e hstate (h.tasks e) rfl (h.established e) hsame

end Kept

/-! ## Runs -/

theorem history_final (P : Primitives) (A : ChaCha20Poly1305) (sessionLifetime : Duration)
    (natGateway : Option NatGateway) (clientRegistry : ClientRegistry)
    (events : List Tasks.Event) :
    let start := Tasks.new P sessionLifetime natGateway clientRegistry
    History A start events ((Tasks.machine P A).final start events) := by
  intro start
  refine (Tasks.machine P A).final_history (I := History A start) (fun past s e h => h.step e) _
    events ?_
  refine ⟨rfl, nofun, fun p h sid prof hl => ?_, fun p session hl => ?_, nofun⟩
  · simp [start, Tasks.new, LlpListener.bind] at hl
  · simp [start, Tasks.new, LlpListener.bind] at hl

/-- A plaintext that a step forwards was opened under the session of its peer. -/
theorem forwarded_step (A : ChaCha20Poly1305) {s : Tasks P} {e : Tasks.Event}
    {peerAddr : SocketAddr} {plaintext : Bytes}
    (h : ((Tasks.machine P A).step s e).1 = some (peerAddr, plaintext)) :
    ∃ packet session, (∃ i : ℕ, s.tasks[i]? = some ⟨packet, peerAddr, .looked true⟩) ∧
      s.listener.clientSessions.lookup peerAddr = some session ∧
      (AeadCipher.new session.sessionKey session.sessionId).decrypt A (ciphertextWithTag packet) []
        (nonceCounter packet) = .ok plaintext := by
  have hstep := Tasks.step_cases A s e
  rw [h] at hstep
  generalize ((Tasks.machine P A).step s e).2 = s' at hstep
  generalize ho : some (peerAddr, plaintext) = o at hstep
  cases hstep with
  | vpn i env packet q hi =>
      obtain ⟨plaintext', hforwarded, heq⟩ := Option.map_eq_some_iff.mp ho.symm
      cases heq
      unfold forwarded at hforwarded
      cases hsession : s.listener.clientSessions.lookup peerAddr with
      | none =>
          rw [hsession] at hforwarded
          cases hforwarded
      | some session =>
          simp only [hsession] at hforwarded
          exact ⟨packet, session, ⟨i, hi⟩, rfl, (openIncoming_eq_some hforwarded).2⟩
  | _ => cases ho

/-- **Sessions are authentic.** Over any interleaving of the tasks, from the start of the server:
    each session in `client_sessions` comes from a CLIENT_HELLO of that peer, whose task sent the
    peer a SERVER_HELLO with the session's id, and from which its key is derived; and from a
    CLIENT_VERIFY of the same peer, with the HMAC of both hellos under that key, whose task ran
    after that and sent the peer the SERVER_VERIFY. Any plaintext that is forwarded for a peer was
    sealed in a datagram of that peer, under the key and id of such a session. -/
theorem sessions_authentic (P : Primitives) (A : ChaCha20Poly1305) (sessionLifetime : Duration)
    (natGateway : Option NatGateway) (clientRegistry : ClientRegistry)
    (events : List Tasks.Event) :
    let start := Tasks.new P sessionLifetime natGateway clientRegistry
    (∀ p session,
      ((Tasks.machine P A).final start events).listener.clientSessions.lookup p = some session →
      Established A start events p session.sessionId session.sessionKey) ∧
    ∀ p plaintext, some (p, plaintext) ∈ (Tasks.machine P A).outputs start events →
      ∃ sid key packet, Established A start events p sid key ∧
        Tasks.Event.arrive packet p ∈ events ∧
        (AeadCipher.new key sid).decrypt A (ciphertextWithTag packet) [] (nonceCounter packet) =
          .ok plaintext := by
  intro start
  refine ⟨(history_final P A sessionLifetime natGateway clientRegistry events).sessions, ?_⟩
  intro p plaintext hmem
  obtain ⟨pre, e, post, rfl, ho⟩ := Machine.mem_outputs.mp hmem
  have hhistory := history_final P A sessionLifetime natGateway clientRegistry pre
  obtain ⟨packet, session, ⟨i, hi⟩, hl, hopen⟩ := forwarded_step A ho.symm
  refine ⟨session.sessionId, session.sessionKey, packet, ?_, ?_, hopen⟩
  · exact (hhistory.sessions p session hl).append (e :: post)
  · exact List.mem_append_left _ (hhistory.arrived _ (List.mem_of_getElem? hi))

end Llp.Security
