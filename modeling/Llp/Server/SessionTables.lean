/-
  The two session tables of the server: `client_sessions` of the listener, by peer, and
  `sessions` of the `SessionManager`, by session id.

  The handshake handler writes both. The data path touches `client_sessions` only, and the
  cleanup timer removes from the manager only, by times that nothing writes after the session
  was made.

  * `tablesInv_step`: what each step in time keeps.
  * `tables_agree_iff`: the tables agree all along a run (and then no packet of a removed
    session is accepted, and no active peer is removed by timeout) exactly when no cleanup runs
    later after the registration of a connected peer's session than its lifetime and
    `KEEPALIVE_TIMEOUT`, and none removes a session before its peer is in `client_sessions`.
-/
import Llp.Server.Tasks

namespace Llp.Server
open ByteCodec

namespace Tasks

variable {P : Primitives}

/-! ## The tables -/

/-- Every connected peer has a live session, and there are at most `MAX_SESSIONS` of them. -/
structure Agree (s : Tasks P) : Prop where
  live : ∀ p session, s.listener.clientSessions.lookup p = some session →
    session.sessionId ∈ s.listener.sessionManager.sessions
  count : s.listener.clientSessions.keys.card ≤ MAX_SESSIONS

/-- A cleanup runs at most the lifetime, and at most `KEEPALIVE_TIMEOUT`, after the registration
    of each session of a connected peer; and a session is still live when its peer gets into
    `client_sessions`. -/
def InTime (s : Tasks P) : Event → Prop
  | .cleanup clock => ∀ p session live, s.listener.clientSessions.lookup p = some session →
      s.listener.sessionManager.sessions.lookup session.sessionId = some live →
      (clock session.sessionId).1 - live.createdAt ≤ s.listener.sessionManager.sessionLifetime ∧
        (clock session.sessionId).2 - live.createdAt ≤ KEEPALIVE_TIMEOUT
  | .connect => ∀ client, s.connecting = some ⟨client, false⟩ →
      client.sessionId ∈ s.listener.sessionManager.sessions
  | _ => True

/-- What the tables keep. -/
structure TablesInv (s : Tasks P) : Prop where
  live : ∀ p session, s.listener.clientSessions.lookup p = some session →
    session.sessionId ∈ s.listener.sessionManager.sessions
  distinct : ∀ p q session session', s.listener.clientSessions.lookup p = some session →
    s.listener.clientSessions.lookup q = some session' →
    session.sessionId = session'.sessionId → p = q
  /-- the session that is being connected is no peer's yet -/
  pending : ∀ client, s.connecting = some ⟨client, false⟩ → ∀ p session,
    s.listener.clientSessions.lookup p = some session → session.sessionId ≠ client.sessionId
  room : s.listener.sessionManager.sessions.entries.length ≤ MAX_SESSIONS
  /-- nothing has written the time of the last keepalive -/
  untouched : ∀ sid session, s.listener.sessionManager.sessions.lookup sid = some session →
    session.lastKeepalive = session.createdAt

theorem TablesInv.agree {s : Tasks P} (h : TablesInv s) : Agree s where
  live := h.live
  count := (Finmap.card_keys_le (·.sessionId) h.live h.distinct).trans h.room

/-- A cleanup keeps a session that is in time. -/
theorem mem_cleanupExpired {manager : SessionManager} {sid : UInt64}
    {clock : UInt64 → Instant × Instant} {session : Session}
    (hl : manager.sessions.lookup sid = some session)
    (huntouched : session.lastKeepalive = session.createdAt) :
    sid ∈ (manager.cleanupExpired clock).2.sessions ↔
      (clock sid).1 - session.createdAt ≤ manager.sessionLifetime ∧
        (clock sid).2 - session.createdAt ≤ KEEPALIVE_TIMEOUT := by
  unfold SessionManager.cleanupExpired
  simp only [AList.mem_retain, hl, Option.some.injEq, exists_eq_left', Session.isExpired,
    Session.isKeepaliveTimeout, huntouched, Bool.and_eq_true, Bool.not_eq_true',
    decide_eq_false_iff_not, Nat.not_lt, gt_iff_lt]

theorem SameSessions.lookup {s t : LlpListener P} (h : SameSessions s t) {p : SocketAddr}
    {session : ClientSession} (hl : t.clientSessions.lookup p = some session) :
    ∃ old, s.clientSessions.lookup p = some old ∧ old.sessionId = session.sessionId := by
  have hids := h p
  rw [hl, Option.map_some] at hids
  exact Option.map_eq_some_iff.mp hids.symm

/-- The tables stay as they are. -/
theorem TablesInv.frame {s t : Tasks P} (h : TablesInv s)
    (hsessions : SameSessions s.listener t.listener)
    (hmanager : t.listener.sessionManager = s.listener.sessionManager)
    (hpending : ∀ client, t.connecting = some ⟨client, false⟩ →
      s.connecting = some ⟨client, false⟩) : TablesInv t where
  live p session hl := by
    obtain ⟨old, hold, hid⟩ := hsessions.lookup hl
    rw [hmanager, ← hid]
    exact h.live p old hold
  distinct p q session session' hl hl' hid := by
    obtain ⟨old, hold, hold_id⟩ := hsessions.lookup hl
    obtain ⟨old', hold', hold_id'⟩ := hsessions.lookup hl'
    exact h.distinct p q old old' hold hold' (by rw [hold_id, hold_id', hid])
  pending client hconnecting p session hl := by
    obtain ⟨old, hold, hid⟩ := hsessions.lookup hl
    rw [← hid]
    exact h.pending client (hpending client hconnecting) p old hold
  room := by
    rw [hmanager]
    exact h.room
  untouched sid session hl := by
    rw [hmanager] at hl
    exact h.untouched sid session hl

/-- A session is registered under a new id. -/
theorem TablesInv.registered {s : Tasks P} (h : TablesInv s) {sid : UInt64} {session : Session}
    (hroom : s.listener.sessionManager.sessions.entries.length < MAX_SESSIONS)
    (hid : sid ∉ s.listener.sessionManager.sessions)
    (huntouched : session.lastKeepalive = session.createdAt) {t : Tasks P}
    (hsessions : t.listener.clientSessions = s.listener.clientSessions)
    (hmanager : t.listener.sessionManager.sessions =
      s.listener.sessionManager.sessions.insert sid session)
    (hpending : ∀ client, t.connecting = some ⟨client, false⟩ → client.sessionId = sid) :
    TablesInv t where
  live p old hl := by
    rw [hsessions] at hl
    rw [hmanager]
    exact (AList.mem_insert _).mpr (Or.inr (h.live p old hl))
  distinct := by
    rw [hsessions]
    exact h.distinct
  pending client hconnecting p old hl heq := by
    rw [hsessions] at hl
    exact hid (hpending client hconnecting ▸ heq ▸ h.live p old hl)
  room := by
    rw [hmanager, AList.length_insert_of_notMem hid]
    exact hroom
  untouched sid' session' hl := by
    rw [hmanager] at hl
    by_cases heq : sid' = sid
    · subst heq
      rw [AList.lookup_insert] at hl
      cases hl
      exact huntouched
    · rw [AList.lookup_insert_ne heq] at hl
      exact h.untouched sid' session' hl

/-- The client that is being connected gets into `client_sessions`. -/
theorem TablesInv.connect {s : Tasks P} (h : TablesInv s) {client : ClientHandler}
    (hconnecting : s.connecting = some ⟨client, false⟩)
    (hlive : client.sessionId ∈ s.listener.sessionManager.sessions) {t : Tasks P}
    (hlistener : t.listener = s.listener.connect client)
    (hdone : t.connecting = some ⟨client, true⟩) : TablesInv t := by
  have hlookup : ∀ {p session}, t.listener.clientSessions.lookup p = some session →
      (p = client.peerAddr ∧ session.sessionId = client.sessionId) ∨
        s.listener.clientSessions.lookup p = some session := by
    intro p session hl
    rw [hlistener] at hl
    by_cases hp : p = client.peerAddr
    · subst hp
      refine Or.inl ⟨rfl, ?_⟩
      have hnew := (Finmap.lookup_insert _).symm.trans hl
      cases hnew
      rfl
    · exact Or.inr ((Finmap.lookup_insert_of_ne _ hp).symm.trans hl)
  have hmanager : t.listener.sessionManager = s.listener.sessionManager := by
    rw [hlistener]
    rfl
  constructor
  · intro p session hl
    rw [hmanager]
    rcases hlookup hl with ⟨-, hid⟩ | hl
    · rwa [hid]
    · exact h.live p session hl
  · intro p q session session' hl hl' hid
    rcases hlookup hl with ⟨rfl, hnew⟩ | hl
    · rcases hlookup hl' with ⟨rfl, -⟩ | hl'
      · rfl
      · exact absurd (hid.symm.trans hnew) (h.pending client hconnecting q session' hl')
    · rcases hlookup hl' with ⟨rfl, hnew⟩ | hl'
      · exact absurd (hid.trans hnew) (h.pending client hconnecting p session hl)
      · exact h.distinct p q session session' hl hl' hid
  · intro client' hclient'
    rw [hdone] at hclient'
    cases hclient'
  · rw [hmanager]
    exact h.room
  · rw [hmanager]
    exact h.untouched

/-- A cleanup in time removes no peer's session. -/
theorem TablesInv.cleanup {s : Tasks P} (h : TablesInv s) {clock : UInt64 → Instant × Instant}
    (hin : InTime s (.cleanup clock)) {t : Tasks P}
    (hsessions : t.listener.clientSessions = s.listener.clientSessions)
    (hmanager : t.listener.sessionManager = (s.listener.sessionManager.cleanupExpired clock).2)
    (hconnecting : t.connecting = s.connecting) : TablesInv t where
  live p session hl := by
    rw [hsessions] at hl
    rw [hmanager]
    obtain ⟨live, hlive⟩ := Option.isSome_iff_exists.mp
      (AList.lookup_isSome.mpr (h.live p session hl))
    exact (mem_cleanupExpired hlive (h.untouched _ live hlive)).mpr (hin p session live hl hlive)
  distinct := by
    rw [hsessions]
    exact h.distinct
  pending := by
    rw [hsessions, hconnecting]
    exact h.pending
  room := by
    rw [hmanager]
    exact (AList.length_retain_le _ _).trans h.room
  untouched sid session hl := by
    rw [hmanager] at hl
    exact h.untouched sid session (AList.lookup_retain.mp hl).1

theorem tablesInv_step (A : ChaCha20Poly1305) (s : Tasks P) (e : Event) (hs : TablesInv s)
    (hin : InTime s e) : TablesInv ((machine P A).step s e).2 := by
  have hmoves := step_moves A s e
  generalize ((machine P A).step s e).2 = s' at hmoves ⊢
  cases hmoves with
  | quiet e t hsessions hstates hmanager hconnecting =>
      exact hs.frame hsessions hmanager fun client hclient => hconnecting ▸ hclient
  | ended i env packet peerAddr hi hfree t ht tasks =>
      have hsame : SameSessions s.listener t := fun q => by rw [ht.sessions]
      exact hs.frame hsame ht.manager nofun
  | registered i env packet peerAddr hi hfree hwaiting t ht sid key prof hroom hid tasks =>
      refine hs.registered hroom hid rfl ht.sessions rfl fun client hclient => ?_
      cases hclient
      rfl
  | connect client h => exact hs.connect h (hin client h) rfl rfl
  | release client h => exact hs.frame (fun _ => rfl) rfl nofun
  | cleanup clock => exact hs.cleanup hin rfl rfl rfl

/-- A late cleanup leaves a connected peer without a session, and so does a client whose
    session is gone by the time it gets into `client_sessions`. -/
theorem not_agree_step (A : ChaCha20Poly1305) (s : Tasks P) (e : Event) (hs : TablesInv s)
    (hin : ¬ InTime s e) : ¬ Agree ((machine P A).step s e).2 := by
  intro hagree
  cases e with
  | cleanup clock =>
      refine hin fun p session live hl hlive => ?_
      exact (mem_cleanupExpired hlive (hs.untouched _ live hlive)).mp (hagree.live p session hl)
  | connect =>
      refine hin fun client hclient => ?_
      have hstep : ((machine P A).step s .connect).2.listener = s.listener.connect client := by
        simp only [machine, step, hclient]
      have hmem := hagree.live client.peerAddr
        ⟨client.sessionId, client.sessionKey, 0, vpnIp client.sessionId⟩
      rw [hstep] at hmem
      exact hmem (Finmap.lookup_insert _)
  | _ => exact hin trivial

/-! ## What happens to the peers -/

/-- The tasks, with the clock readings of each peer's activity (its registration and its
    accepted packets, the newest first), and the peers whose session a cleanup has removed. -/
structure Watched (P : Primitives) where
  tasks : Tasks P
  active : SocketAddr → List Instant
  removed : SocketAddr → Bool

/-- The session of the peer is one that the cleanup removes. -/
def cleanedUp (clock : UInt64 → Instant × Instant) (s : Tasks P) (p : SocketAddr) : Bool :=
  match s.listener.clientSessions.lookup p with
  | some session => session.sessionId ∈ s.listener.sessionManager.sessions ∧
      session.sessionId ∉ (s.listener.sessionManager.cleanupExpired clock).2.sessions
  | none => false

namespace Watched

/-- The activity that a step to `t` adds. -/
def activity (w : Watched P) (t : Tasks P) (accepted : Option (SocketAddr × Bytes)) :
    Event → SocketAddr → List Instant
  | .handle _ env =>
      match accepted, w.tasks.connecting, t.connecting with
      | some (peerAddr, _), _, _ =>
          Function.update w.active peerAddr (env.now :: w.active peerAddr)
      | none, none, some registered =>
          Function.update w.active registered.client.peerAddr [env.now]
      | _, _, _ => w.active
  | _ => w.active

/-- The removals after a step. A peer that connects has a session of its own again, unless that
    is gone already. -/
def removals (w : Watched P) : Event → SocketAddr → Bool
  | .cleanup clock => fun p => w.removed p || w.tasks.cleanedUp clock p
  | .connect =>
      match w.tasks.connecting with
      | some ⟨client, false⟩ => Function.update w.removed client.peerAddr
          (client.sessionId ∉ w.tasks.listener.sessionManager.sessions)
      | _ => w.removed
  | _ => w.removed

/-- The server at its start. -/
def new (P : Primitives) (sessionLifetime : Duration) (natGateway : Option NatGateway)
    (clientRegistry : ClientRegistry) : Watched P where
  tasks := Tasks.new P sessionLifetime natGateway clientRegistry
  active _ := []
  removed _ := false

/-- The tasks as a machine that keeps these records. -/
def machine (P : Primitives) (A : ChaCha20Poly1305) :
    Machine (Watched P) Event (Option (SocketAddr × Bytes)) where
  step w e :=
    let (accepted, tasks) := (Tasks.machine P A).step w.tasks e
    (accepted, ⟨tasks, w.activity tasks accepted e, w.removals e⟩)

/-- The records change nothing of a run. -/
theorem machine_tasks (A : ChaCha20Poly1305) (w : Watched P) (events : List Event) :
    ((machine P A).final w events).tasks = (Tasks.machine P A).final w.tasks events := by
  induction events generalizing w with
  | nil => rfl
  | cons e events ih => exact ih _

/-- The step accepts no packet of a peer whose session a cleanup has removed. -/
def RemovedRefused (A : ChaCha20Poly1305) (w : Watched P) (e : Event) : Prop :=
  ∀ peerAddr plaintext, ((machine P A).step w e).1 = some (peerAddr, plaintext) →
    w.removed peerAddr = false

/-- The readings follow each other at intervals below `KEEPALIVE_TIMEOUT`, up to `now`. -/
def KeepsUp (now : Instant) (readings : List Instant) : Prop :=
  (now :: readings).IsChain fun later earlier => later - earlier < KEEPALIVE_TIMEOUT

instance (now : Instant) (readings : List Instant) : Decidable (KeepsUp now readings) :=
  inferInstanceAs (Decidable (List.IsChain _ _))

/-- A cleanup removes no peer by timeout whose packets keep being accepted. -/
def ActiveKept (w : Watched P) : Event → Prop
  | .cleanup clock => ∀ p session live,
      w.tasks.listener.clientSessions.lookup p = some session →
      w.tasks.listener.sessionManager.sessions.lookup session.sessionId = some live →
      live.isExpired w.tasks.listener.sessionManager.sessionLifetime
        (clock session.sessionId).1 = false →
      KeepsUp (clock session.sessionId).2 (w.active p) →
      live.isKeepaliveTimeout (clock session.sessionId).2 = false
  | _ => True

/-- The tables are in order, and no session of a peer has been removed. -/
structure Inv (w : Watched P) : Prop where
  tables : TablesInv w.tasks
  kept : ∀ p, w.removed p = false

theorem removals_false {w : Watched P} (h : Inv w) {e : Event} (hin : InTime w.tasks e)
    (p : SocketAddr) : w.removals e p = false := by
  cases e with
  | cleanup clock =>
      show (w.removed p || w.tasks.cleanedUp clock p) = false
      rw [h.kept p, Bool.false_or]
      unfold cleanedUp
      cases hl : w.tasks.listener.clientSessions.lookup p with
      | none => rfl
      | some session =>
          obtain ⟨live, hlive⟩ := Option.isSome_iff_exists.mp
            (AList.lookup_isSome.mpr (h.tables.live p session hl))
          have hkept := (mem_cleanupExpired hlive (h.tables.untouched _ live hlive)).mpr
            (hin p session live hl hlive)
          exact decide_eq_false fun hgone => hgone.2 hkept
  | connect =>
      unfold removals
      rcases hconnecting : w.tasks.connecting with _ | ⟨client, _ | _⟩
      · exact h.kept p
      · simp only
        by_cases hp : p = client.peerAddr
        · subst hp
          rw [Function.update_self]
          exact decide_eq_false fun hgone => hgone (hin client hconnecting)
        · rw [Function.update_of_ne hp]
          exact h.kept p
      · exact h.kept p
  | _ => exact h.kept p

theorem inv_step (A : ChaCha20Poly1305) (w : Watched P) (e : Event) (h : Inv w)
    (hin : InTime w.tasks e) : Inv ((machine P A).step w e).2 where
  tables := tablesInv_step A w.tasks e h.tables hin
  kept := removals_false h hin

theorem activeKept_of_inTime {w : Watched P} (h : Inv w) {e : Event} (hin : InTime w.tasks e) :
    ActiveKept w e := by
  cases e with
  | cleanup clock =>
      intro p session live hl hlive _ _
      have htime := (hin p session live hl hlive).2
      rw [← h.tables.untouched _ live hlive] at htime
      exact decide_eq_false (Nat.not_lt.mpr htime)
  | _ => trivial

/-- **The session tables.** Over any interleaving of handshakes, VPN packets and cleanups, from
    the start of the server: the tables agree all along the run, no packet of a peer is
    accepted whose session a cleanup has removed, and no peer whose packets keep being accepted
    is removed by timeout, exactly when every cleanup of the run comes in time for every
    connected peer. -/
theorem tables_agree_iff (P : Primitives) (A : ChaCha20Poly1305) (sessionLifetime : Duration)
    (natGateway : Option NatGateway) (clientRegistry : ClientRegistry) (events : List Event) :
    let start := new P sessionLifetime natGateway clientRegistry
    ((∀ pre, pre <+: events → Agree ((machine P A).final start pre).tasks) ∧
      (machine P A).Always (RemovedRefused A) start events ∧
      (machine P A).Always ActiveKept start events) ↔
    (machine P A).Always (fun w e => InTime w.tasks e) start events := by
  intro start
  have hstart : Inv start := by
    refine ⟨⟨?_, ?_, ?_, Nat.zero_le _, ?_⟩, fun _ => rfl⟩
    · intro p session hl
      exact absurd hl (by simp [start, new, Tasks.new, LlpListener.bind])
    · intro p q session session' hl
      exact absurd hl (by simp [start, new, Tasks.new, LlpListener.bind])
    · intro client hclient
      cases hclient
    · intro sid session hl
      exact absurd hl (by
        simp [start, new, Tasks.new, LlpListener.bind, SessionManager.withLifetime])
  have hagree := (machine P A).holds_iff_always (I := Inv) (K := fun w => Agree w.tasks)
    (fun w h => h.tables.agree) (inv_step A)
    (fun w e h hin => not_agree_step A w.tasks e h.tables hin) start events hstart
  refine ⟨fun h => hagree.mp h.1, fun hin => ⟨hagree.mpr hin, ?_, ?_⟩⟩
  · exact ((machine P A).always_congr_of_invariant (inv_step A)
      (fun w e h _ => iff_of_true trivial fun peerAddr _ _ => h.kept peerAddr) start events hstart
      hin).mp ((machine P A).always_true start events)
  · exact ((machine P A).always_congr_of_invariant (inv_step A)
      (fun w e h hin => iff_of_true trivial (activeKept_of_inTime h hin)) start events hstart
      hin).mp ((machine P A).always_true start events)

section Sample

open LlpListener

/-- The server at its start, with the default lifetime. -/
def sampleStart : Watched samplePrimitives :=
  new samplePrimitives DEFAULT_SESSION_LIFETIME none ClientRegistry.new

/-- The server after a run. -/
def sampleWatched (events : List Event) : Watched samplePrimitives :=
  (machine samplePrimitives sampleAead).final sampleStart events

/-- `samplePeer` connects, at reading 0. -/
def sampleConnect : List Event :=
  sampleHelloEvents ++ [.arrive sampleVerify samplePeer, .look 1, .handle 1 sampleEnv, .connect,
    .release]

/-- A VPN packet of the peer. -/
def samplePacket (i : ℕ) (counter : UInt64) (now : Instant) : List Event :=
  [.arrive (SendTask.datagram sampleAead samplePeerKey 77 counter [0x45]) samplePeer, .look i,
    .handle i { sampleEnv with now := now }]

/-- The peer sends a packet after 60 and after 100 seconds. -/
def sampleTraffic : List Event :=
  sampleConnect ++ samplePacket 2 0 (fromSecs 60) ++ samplePacket 3 1 (fromSecs 100)

/-- Its entry of `client_sessions` by then. -/
def sampleSession : ClientSession := ⟨77, samplePeerKey, 2, vpnIp 77⟩

/-- After 120 seconds the cleanup runs, and another packet comes. -/
def sampleCleanup : Event := .cleanup fun _ => (fromSecs 120, fromSecs 120)

theorem active_peer_cleaned_up :
    let run := sampleTraffic ++ sampleCleanup :: samplePacket 4 2 (fromSecs 121)
    (¬ ∀ pre, pre <+: run → Agree (sampleWatched pre).tasks) ∧
      ¬ (machine samplePrimitives sampleAead).Always (RemovedRefused sampleAead) sampleStart run ∧
      ¬ (machine samplePrimitives sampleAead).Always ActiveKept sampleStart run := by
  intro run
  refine ⟨fun hagree => ?_, fun hrefused => ?_, fun hkept => ?_⟩
  · have hpre : sampleTraffic ++ [sampleCleanup] <+: run :=
      (List.prefix_append_right_inj _).mpr (List.prefix_append [sampleCleanup] _)
    have hlive := (hagree _ hpre).live samplePeer sampleSession
    have hgone : sampleSession.sessionId ∉ (sampleWatched
        (sampleTraffic ++ [sampleCleanup])).tasks.listener.sessionManager.sessions := by
      decide +kernel
    exact hgone (hlive (by decide +kernel))
  · have hlast := ((Machine.always_append _ _ _ (sampleTraffic ++ sampleCleanup ::
      (samplePacket 4 2 (fromSecs 121)).take 2) [_]).mp hrefused).2.1
    have hremoved := hlast samplePeer [0x45] (by decide +kernel)
    exact absurd hremoved (by decide +kernel)
  · have hcleanup : ActiveKept (sampleWatched sampleTraffic) sampleCleanup :=
      ((Machine.always_append _ _ _ sampleTraffic _).mp hkept).2.1
    have hsession : (sampleWatched sampleTraffic).tasks.listener.clientSessions.lookup samplePeer =
        some sampleSession := by
      decide +kernel
    have hlookup : (sampleWatched sampleTraffic).tasks.listener.sessionManager.sessions.lookup
        sampleSession.sessionId = some (Session.new 0 77 samplePeerKey .vkVideo) := by
      decide +kernel
    have hkeepsUp : KeepsUp (fromSecs 120) ((sampleWatched sampleTraffic).active samplePeer) := by
      decide +kernel
    have htimeout := hcleanup samplePeer sampleSession _ hsession hlookup (by decide +kernel)
      hkeepsUp
    exact absurd htimeout (by decide +kernel)

end Sample

end Watched

end Tasks

end Llp.Server
