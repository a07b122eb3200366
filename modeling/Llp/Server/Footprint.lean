/-
  What peers cost the listener, and each other.

  * `peers_never_forgotten`: a peer has an entry in one of the two tables exactly when one of its datagrams
    has been handled, whatever that datagram was. Nothing ever takes the last entry of a peer
    away.
  * `answers_bounded`: what the listener answers a peer is bounded by what it has received from
    it, so it cannot be made to send an address more than a constant share of what came from
    there.
-/
import Mathlib.Algebra.BigOperators.Ring.List
import Mathlib.Algebra.Order.BigOperators.Group.List
import Llp.Core.HandshakeCodec
import Llp.Lib.Views
import Llp.Server.Peers

namespace Llp.Server
open ByteCodec

namespace Tasks

variable {P : Primitives}

/-! ## Entries -/

/-- The peer has an entry in one of the two tables. -/
def Known (s : Tasks P) (p : SocketAddr) : Prop :=
  p ∈ s.listener.handshakeStates ∨ p ∈ s.listener.clientSessions

/-- One of its datagrams has been handled. -/
def Handled (s : Tasks P) (p : SocketAddr) : Prop :=
  ∃ (j : ℕ) (packet : Bytes), s.tasks[j]? = some ⟨packet, p, .handled⟩

/-- The known peers are those of whom a datagram has been handled. A task that has found its
    peer in `client_sessions`, and a handler past its registration, leave it there. -/
structure KnowsHandled (s : Tasks P) : Prop where
  known : ∀ p, s.Known p ↔ s.Handled p
  looked : ∀ (j : ℕ) packet p, s.tasks[j]? = some ⟨packet, p, .looked true⟩ →
    p ∈ s.listener.clientSessions
  starting : ∀ c, s.connecting = some c → s.Known c.client.peerAddr
  inserted : ∀ client, s.connecting = some ⟨client, true⟩ →
    client.peerAddr ∈ s.listener.clientSessions

section Handled

variable {s : Tasks P} {i : ℕ} {packet : Bytes} {peerAddr : SocketAddr} {stage stage' : TaskStage}

/-- Who has been handled after a task moves on. -/
theorem handled_set {s' : Tasks P} (hi : s.tasks[i]? = some ⟨packet, peerAddr, stage⟩)
    (hstage : stage ≠ .handled) (htasks : s'.tasks = s.tasks.set i ⟨packet, peerAddr, stage'⟩)
    (p : SocketAddr) :
    s'.Handled p ↔ (p = peerAddr ∧ stage' = .handled) ∨ s.Handled p := by
  unfold Handled
  rw [htasks]
  constructor
  · rintro ⟨j, packet', hj⟩
    rcases List.getElem?_set_cases hj with ⟨rfl, heq⟩ | ⟨-, hj⟩
    · cases heq
      exact Or.inl ⟨rfl, rfl⟩
    · exact Or.inr ⟨j, packet', hj⟩
  · rintro (⟨rfl, rfl⟩ | ⟨j, packet', hj⟩)
    · exact ⟨i, packet, List.getElem?_set_self (List.getElem?_eq_some_iff.mp hi).1⟩
    · have hne : i ≠ j := by
        rintro rfl
        rw [hi] at hj
        cases hj
        exact hstage rfl
      exact ⟨j, packet', by rwa [List.getElem?_set_ne hne]⟩

end Handled

section Kept

variable {s : Tasks P}

theorem KnowsHandled.looked_set (h : KnowsHandled s) {i : ℕ} {packet : Bytes}
    {peerAddr : SocketAddr} {stage : TaskStage} {s' : Tasks P}
    (htasks : s'.tasks = s.tasks.set i ⟨packet, peerAddr, stage⟩)
    (hstage : stage = .looked true → peerAddr ∈ s'.listener.clientSessions)
    (hsessions : ∀ p, p ∈ s.listener.clientSessions → p ∈ s'.listener.clientSessions) :
    ∀ (j : ℕ) packet p, s'.tasks[j]? = some ⟨packet, p, .looked true⟩ →
      p ∈ s'.listener.clientSessions := by
  intro j packet' p hj
  rw [htasks] at hj
  rcases List.getElem?_set_cases hj with ⟨-, heq⟩ | ⟨-, hj⟩
  · cases heq
    exact hstage rfl
  · exact hsessions p (h.looked j packet' p hj)

theorem KnowsHandled.handshake (h : KnowsHandled s) {i : ℕ} {env : LlpListener.Env}
    {packet : Bytes} {peerAddr : SocketAddr}
    (hi : s.tasks[i]? = some ⟨packet, peerAddr, .looked false⟩) {client : Option ClientHandler}
    {t : LlpListener P} (ht : LlpListener.HandshakeStep env packet peerAddr s.listener client t) :
    KnowsHandled ⟨t, s.tasks.set i ⟨packet, peerAddr, .handled⟩,
      client.map fun client => ⟨client, false⟩⟩ := by
  have hmem : ∀ p, p ∈ t.handshakeStates ↔ p = peerAddr ∨ p ∈ s.listener.handshakeStates := by
    intro p
    by_cases hp : p = peerAddr
    · exact iff_of_true (hp ▸ ht.entered) (Or.inl hp)
    · rw [← Finmap.lookup_isSome, ht.other hp, Finmap.lookup_isSome, or_iff_right hp]
  refine ⟨fun p => ?_, ?_, fun c hc => ?_, fun client' hc => ?_⟩
  · rw [handled_set hi (by simp) rfl p, ← h.known p]
    unfold Known
    simp only [hmem, ht.sessions, and_true, or_assoc]
  · exact h.looked_set rfl (fun hstage => by cases hstage) fun p hp => ht.sessions ▸ hp
  · obtain ⟨client', hclient, rfl⟩ := Option.map_eq_some_iff.mp hc
    subst hclient
    cases ht with
    | registered => exact Or.inl (Finmap.mem_insert.mpr (Or.inl rfl))
  · obtain ⟨client'', -, heq⟩ := Option.map_eq_some_iff.mp hc
    cases heq

/-- Every step keeps it. -/
theorem KnowsHandled.step (A : ChaCha20Poly1305) (h : KnowsHandled s) (e : Event) :
    KnowsHandled ((machine P A).step s e).2 := by
  have hstep := step_cases A s e
  generalize ((machine P A).step s e).1 = o at hstep
  generalize ((machine P A).step s e).2 = s' at hstep ⊢
  cases hstep with
  | idle => exact h
  | arrive packet peerAddr hlen =>
      refine ⟨fun p => (h.known p).trans ?_, fun j packet' p hj => ?_, h.starting, h.inserted⟩
      · constructor
        · rintro ⟨j, packet', hj⟩
          exact ⟨j, packet', List.getElem?_append_some hj _⟩
        · rintro ⟨j, packet', hj⟩
          rcases List.getElem?_snoc_cases hj with hj | hnew
          · exact ⟨j, packet', hj⟩
          · cases hnew
      · rcases List.getElem?_snoc_cases hj with hj | hnew
        · exact h.looked j packet' p hj
        · cases hnew
  | look i packet peerAddr hi =>
      refine ⟨fun p => ?_, ?_, h.starting, h.inserted⟩
      · rw [handled_set hi (by simp) rfl p, or_iff_right (by simp)]
        exact h.known p
      · refine h.looked_set rfl (fun hstage => ?_) fun p hp => hp
        simpa using hstage
  | vpn i env packet peerAddr hi =>
      obtain ⟨hsessions, hstates, -⟩ := handleVpnPacket_tables A env packet peerAddr s.listener
      have hknown : ∀ p, (s.handleVpn A i env packet peerAddr).Known p ↔ s.Known p := fun p =>
        or_congr (by rw [handleVpn, hstates]) (hsessions.mem_iff p)
      refine ⟨fun p => ?_, ?_, fun c hc => (hknown _).mpr (h.starting c hc),
        fun client hc => (hsessions.mem_iff _).mpr (h.inserted client hc)⟩
      · rw [hknown, handled_set hi (by simp) rfl p, h.known p, or_iff_right_of_imp]
        rintro ⟨rfl, -⟩
        exact (h.known p).mp (Or.inr (h.looked i packet p hi))
      · refine h.looked_set rfl (fun hstage => ?_) fun p hp => (hsessions.mem_iff p).mpr hp
        cases hstage
  | handshake i env packet peerAddr hi hfree client t ht => exact h.handshake hi ht
  | connect client hc =>
      have hclient := (h.known client.peerAddr).mp (h.starting _ hc)
      refine ⟨fun p => ?_, fun j packet p hj => Finmap.mem_insert.mpr (Or.inr (h.looked j packet p hj)),
        fun c hc' => ?_, fun client' hc' => ?_⟩
      · refine Iff.trans ?_ (h.known p)
        unfold Known LlpListener.connect
        rw [Finmap.mem_insert]
        constructor
        · rintro (hp | rfl | hp)
          · exact Or.inl hp
          · exact (h.known _).mpr hclient
          · exact Or.inr hp
        · rintro (hp | hp)
          · exact Or.inl hp
          · exact Or.inr (Or.inr hp)
      · cases hc'
        exact Or.inr (Finmap.mem_insert.mpr (Or.inl rfl))
      · cases hc'
        exact Finmap.mem_insert.mpr (Or.inl rfl)
  | release client hc =>
      refine ⟨fun p => Iff.trans ?_ (h.known p), h.looked, fun c hc => ?_, fun client' hc => ?_⟩
      · unfold Known LlpListener.forget
        rw [Finmap.mem_erase]
        constructor
        · rintro (⟨-, hp⟩ | hp)
          · exact Or.inl hp
          · exact Or.inr hp
        · rintro (hp | hp)
          · by_cases hpeer : p = client.peerAddr
            · exact Or.inr (hpeer ▸ h.inserted client hc)
            · exact Or.inl ⟨hpeer, hp⟩
          · exact Or.inr hp
      · cases hc
      · cases hc
  | others => exact ⟨h.known, h.looked, h.starting, h.inserted⟩

end Kept

theorem knowsHandled_final (A : ChaCha20Poly1305) (sessionLifetime : Duration)
    (natGateway : Option NatGateway) (clientRegistry : ClientRegistry) (events : List Event) :
    KnowsHandled ((machine P A).final (new P sessionLifetime natGateway clientRegistry) events) := by
  refine (machine P A).final_invariant (P := fun _ _ => True) (I := KnowsHandled)
    (fun s e h _ => h.step A e) _ events ?_ (Machine.always_true _ _ _)
  refine ⟨fun p => ?_, nofun, nofun, nofun⟩
  have hnone : ¬ ∃ (j : ℕ) (packet : Bytes),
      ([] : List DatagramTask)[j]? = some ⟨packet, p, .handled⟩ := by simp
  exact iff_of_false (not_or.mpr ⟨Finmap.notMem_empty, Finmap.notMem_empty⟩) hnone

/-- A task that has been handled stays so. -/
theorem handled_mono (A : ChaCha20Poly1305) (s : Tasks P) (e : Event) {p : SocketAddr}
    (h : s.Handled p) : ((machine P A).step s e).2.Handled p := by
  have hstep := step_cases A s e
  generalize ((machine P A).step s e).1 = o at hstep
  generalize ((machine P A).step s e).2 = s' at hstep ⊢
  cases hstep with
  | arrive packet peerAddr hlen =>
      obtain ⟨j, packet', hj⟩ := h
      exact ⟨j, packet', List.getElem?_append_some hj _⟩
  | look i packet peerAddr hi => exact (handled_set hi (by simp) rfl p).mpr (Or.inr h)
  | vpn i env packet peerAddr hi => exact (handled_set hi (by simp) rfl p).mpr (Or.inr h)
  | handshake i env packet peerAddr hi hfree client t ht =>
      exact (handled_set hi (by simp) rfl p).mpr (Or.inr h)
  | _ => exact h

/-- **Peers are never forgotten.** Over any interleaving of the tasks, from the start of the
    server, a peer is in `handshake_states` or in `client_sessions` exactly when one of its
    datagrams has been handled, whatever became of that datagram; and once it is, it stays so
    for the rest of the run. -/
theorem peers_never_forgotten (P : Primitives) (A : ChaCha20Poly1305)
    (sessionLifetime : Duration) (natGateway : Option NatGateway)
    (clientRegistry : ClientRegistry) (events later : List Event) (p : SocketAddr) :
    let s := (machine P A).final (new P sessionLifetime natGateway clientRegistry) events
    (s.Known p ↔ s.Handled p) ∧ (s.Known p → ((machine P A).final s later).Known p) := by
  intro s
  have hknown := (knowsHandled_final (P := P) A sessionLifetime natGateway clientRegistry events).known
  refine ⟨hknown p, fun hp => ?_⟩
  have hlater := (knowsHandled_final (P := P) A sessionLifetime natGateway clientRegistry
    (events ++ later)).known
  rw [Machine.final_append] at hlater
  refine (hlater p).mpr ((machine P A).final_invariant (P := fun _ _ => True)
    (I := fun s => s.Handled p) (fun s e h _ => handled_mono A s e h) s later
    ((hknown p).mp hp) (Machine.always_true _ _ _))

/-! ## Answers -/

section Answers

variable (p : SocketAddr)

/-- The sum of the prices of the datagrams that have arrived from the peer. -/
def received (price : Bytes → ℕ) (events : List Event) : ℕ :=
  (events.map fun
    | .arrive packet sender => if sender = p then price packet else 0
    | _ => 0).sum

/-- The sum of the costs of the datagrams that the listener has answered it with. -/
def answered (cost : Bytes → ℕ) (s : Tasks P) : ℕ := ((s.listener.peer p).sent.map cost).sum

/-- The price of a datagram that has arrived. -/
def paid (price : Bytes → ℕ) (task : DatagramTask) : ℕ :=
  if task.peerAddr = p then price task.packet else 0

/-- The price of one that has been handled. -/
def spent (price : Bytes → ℕ) (task : DatagramTask) : ℕ :=
  if task.peerAddr = p ∧ task.stage = .handled then price task.packet else 0

/-- A CLIENT_HELLO is 67 bytes or more, a CLIENT_VERIFY 33; the answers are 73 and 33 bytes. -/
theorem answer_length {env : LlpListener.Env} {packet : Bytes} {peerAddr : SocketAddr}
    {s t : LlpListener P} {client : Option ClientHandler}
    (ht : LlpListener.HandshakeStep env packet peerAddr s client t) :
    t.sent = s.sent ∨ ∃ message : Bytes, t.sent = s.sent ++ [(peerAddr, message)] ∧
      67 * message.length ≤ 73 * packet.length := by
  have hverify : ∀ {h h' : ServerHandshake P} {serverVerify : Bytes} {key : SessionKey},
      ServerHandshake.finish packet h = .ok (serverVerify, key) h' →
      67 * serverVerify.length ≤ 73 * packet.length := by
    intro h h' serverVerify key hfinish
    obtain ⟨-, -, ch, sh, v, -, -, hv, -, rfl⟩ := ServerHandshake.finish_eq_ok hfinish
    have hle := ((ClientVerify.deserialize_iff packet v).mp hv).length_le
    have hmessage : (ServerVerify.new P key (ch.serialize ++ sh.serialize)).serialize.length = 33 :=
      serializeVerify_length _ _
    have hpacket : v.serialize.length = 33 := serializeVerify_length _ _
    omega
  cases ht with
  | greeted ch hidle hdata hsend =>
      have hle := ((ClientHello.deserialize_iff packet ch).mp hdata).length_le
      rw [ClientHello.serialize_length] at hle
      refine Or.inr ⟨_, rfl, ?_⟩
      rw [ServerHello.serialize_length]
      omega
  | unanswered => exact Or.inl rfl
  | refused => exact Or.inl rfl
  | unsent => exact Or.inl rfl
  | untaken h h' sid prof serverVerify key hw hfinish =>
      exact Or.inr ⟨serverVerify, rfl, hverify hfinish⟩
  | registered h h' sid prof serverVerify key hw hfinish =>
      exact Or.inr ⟨serverVerify, rfl, hverify hfinish⟩

/-- The listener has answered the peer within what its handled datagrams pay for, and those have
    arrived. -/
def Balanced (price cost : Bytes → ℕ) (past : List Event) (s : Tasks P) : Prop :=
  answered p cost s ≤ (s.tasks.map (spent p price)).sum ∧
    (s.tasks.map (paid p price)).sum ≤ received p price past

theorem received_snoc (price : Bytes → ℕ) (past : List Event) (e : Event) :
    received p price (past ++ [e]) = received p price past + received p price [e] := by
  simp only [received, List.map_append, List.sum_append]

theorem answered_sent (cost : Bytes → ℕ) {s s' : Tasks P}
    (hsent : s'.listener.sent = s.listener.sent) : answered p cost s' = answered p cost s := by
  simp only [answered, LlpListener.peer, hsent]

theorem answered_append (cost : Bytes → ℕ) {s s' : Tasks P} {peerAddr : SocketAddr}
    {message : Bytes} (hsent : s'.listener.sent = s.listener.sent ++ [(peerAddr, message)]) :
    answered p cost s' = answered p cost s + if peerAddr = p then cost message else 0 := by
  simp only [answered, LlpListener.peer, hsent, List.filter_append, List.map_append,
    List.sum_append]
  by_cases hp : peerAddr = p
  · simp [hp]
  · simp [hp]

variable {p} {price cost : Bytes → ℕ} {past : List Event} {s : Tasks P}

/-- A task that moves on, and is not handled yet. -/
theorem Balanced.set (h : Balanced p price cost past s) (e : Event) {i : ℕ} {packet : Bytes}
    {peerAddr : SocketAddr} {stage : TaskStage}
    (hi : s.tasks[i]? = some ⟨packet, peerAddr, stage⟩) (hstage : stage ≠ .handled)
    (stage' : TaskStage) {s' : Tasks P} (htasks : s'.tasks = s.tasks.set i ⟨packet, peerAddr, stage'⟩)
    (hanswered : answered p cost s' ≤ answered p cost s +
      if peerAddr = p ∧ stage' = .handled then price packet else 0) :
    Balanced p price cost (past ++ [e]) s' := by
  obtain ⟨hsent, harrived⟩ := h
  have hspent := List.sum_map_set (spent p price) hi ⟨packet, peerAddr, stage'⟩
  have hpaid := List.sum_map_set (paid p price) hi ⟨packet, peerAddr, stage'⟩
  have hold : spent p price ⟨packet, peerAddr, stage⟩ = 0 := by
    unfold spent
    exact if_neg fun h => hstage h.2
  have hsame : paid p price ⟨packet, peerAddr, stage'⟩ = paid p price ⟨packet, peerAddr, stage⟩ :=
    rfl
  have hnew : spent p price ⟨packet, peerAddr, stage'⟩ =
      if peerAddr = p ∧ stage' = .handled then price packet else 0 := rfl
  rw [Balanced, htasks, received_snoc]
  omega

theorem Balanced.frame (h : Balanced p price cost past s) (e : Event) {s' : Tasks P}
    (hsent : s'.listener.sent = s.listener.sent) (htasks : s'.tasks = s.tasks) :
    Balanced p price cost (past ++ [e]) s' := by
  obtain ⟨hanswered, harrived⟩ := h
  rw [Balanced, answered_sent p cost hsent, htasks, received_snoc]
  omega

theorem Balanced.step (A : ChaCha20Poly1305)
    (hcost : ∀ packet message : Bytes, 67 * message.length ≤ 73 * packet.length →
      cost message ≤ price packet)
    (h : Balanced p price cost past s) (e : Event) :
    Balanced p price cost (past ++ [e]) ((machine P A).step s e).2 := by
  have hstep := step_cases A s e
  generalize ((machine P A).step s e).1 = o at hstep
  generalize ((machine P A).step s e).2 = s' at hstep ⊢
  cases hstep with
  | arrive packet peerAddr hlen =>
      obtain ⟨hanswered, harrived⟩ := h
      have hnew : received p price [.arrive packet peerAddr] =
          paid p price ⟨packet, peerAddr, .arrived⟩ := by
        simp [received, paid]
      have hspent : spent p price ⟨packet, peerAddr, .arrived⟩ = 0 := by simp [spent]
      rw [Balanced, received_snoc, hnew]
      simp only [List.map_append, List.sum_append, List.map_singleton, List.sum_singleton, hspent]
      have hsame : answered p cost
          { s with tasks := s.tasks ++ [⟨packet, peerAddr, .arrived⟩] } = answered p cost s :=
        answered_sent p cost rfl
      omega
  | look i packet peerAddr hi =>
      exact h.set _ hi (by simp) _ rfl (Nat.le_add_right _ _)
  | vpn i env packet peerAddr hi =>
      refine h.set _ hi (by simp) .handled rfl ?_
      have hsent : (s.handleVpn A i env packet peerAddr).listener.sent = s.listener.sent := by
        unfold handleVpn LlpListener.handleVpnPacket
        rw [Method.modify_apply, Method.state_ok]
        simp only
        split <;> rfl
      rw [answered_sent p cost hsent]
      exact Nat.le_add_right _ _
  | handshake i env packet peerAddr hi hfree client t ht =>
      refine h.set _ hi (by simp) .handled rfl ?_
      rcases answer_length ht with hsent | ⟨message, hsent, hlen⟩
      · rw [answered_sent (s := s) p cost hsent]
        exact Nat.le_add_right _ _
      · rw [answered_append (s := s) p cost hsent]
        have hle := hcost packet message hlen
        by_cases hp : peerAddr = p
        · simp only [hp, and_self, if_true]
          omega
        · simp only [hp, false_and, if_false, le_refl]
  | _ => exact h.frame _ rfl rfl

end Answers

theorem balanced_final (A : ChaCha20Poly1305) (sessionLifetime : Duration)
    (natGateway : Option NatGateway) (clientRegistry : ClientRegistry) (events : List Event)
    (p : SocketAddr) (price cost : Bytes → ℕ)
    (hcost : ∀ packet message : Bytes, 67 * message.length ≤ 73 * packet.length →
      cost message ≤ price packet) :
    answered p cost ((machine P A).final (new P sessionLifetime natGateway clientRegistry) events) ≤
      received p price events := by
  have hbalanced : Balanced p price cost events
      ((machine P A).final (new P sessionLifetime natGateway clientRegistry) events) := by
    refine (machine P A).final_history (I := Balanced p price cost)
      (fun past s e h => h.step A hcost e) _ events ?_
    exact ⟨Nat.le_refl _, Nat.le_refl _⟩
  obtain ⟨hanswered, harrived⟩ := hbalanced
  have hspent : ∀ tasks : List DatagramTask,
      (tasks.map (spent p price)).sum ≤ (tasks.map (paid p price)).sum := by
    intro tasks
    apply List.sum_le_sum
    intro task _
    unfold spent paid
    split
    · next hp => rw [if_pos hp.1]
    · exact Nat.zero_le _
  exact (hanswered.trans (hspent _)).trans harrived

theorem received_mul (p : SocketAddr) (k : ℕ) (price : Bytes → ℕ) (events : List Event) :
    received p (fun packet => k * price packet) events = k * received p price events := by
  unfold received
  rw [← List.sum_map_mul_left]
  congr 2
  funext e
  cases e with
  | arrive packet sender =>
      by_cases hp : sender = p
      · simp [hp]
      · simp [hp]
  | _ => rfl

/-- **Answers are bounded.** Over any interleaving of the tasks, from the start of the server, the
    listener has answered no address with more datagrams than arrived from it, nor with more than
    73 bytes for each 67 that did. -/
theorem answers_bounded (P : Primitives) (A : ChaCha20Poly1305) (sessionLifetime : Duration)
    (natGateway : Option NatGateway) (clientRegistry : ClientRegistry) (events : List Event)
    (p : SocketAddr) :
    let s := (machine P A).final (new P sessionLifetime natGateway clientRegistry) events
    (s.listener.peer p).sent.length ≤ received p (fun _ => 1) events ∧
      67 * ((s.listener.peer p).sent.map List.length).sum ≤
        73 * received p List.length events := by
  intro s
  have hcount := balanced_final (P := P) A sessionLifetime natGateway clientRegistry events p
    (fun _ => 1) (fun _ => 1) fun _ _ _ => Nat.le_refl 1
  have hbytes := balanced_final (P := P) A sessionLifetime natGateway clientRegistry events p
    (fun packet => 73 * packet.length) (fun message => 67 * message.length) fun _ _ h => h
  rw [received_mul] at hbytes
  simp only [answered, List.sum_map_mul_left] at hbytes
  refine ⟨?_, hbytes⟩
  simpa [answered] using hcount

end Tasks

end Llp.Server
