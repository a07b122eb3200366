/-
  The store of `SessionManager` (`llp-core/session.rs`), over runs of its calls.

  `getSessionMut` returns the session and what the manager is once the caller has written to it.
  Maps are compared entry by entry, since a `HashMap` has no order. The clock that
  `cleanup_expired` reads is arbitrary, for every session and every call.

  * `store_invariant_iff`: over any run on a new manager, the store keeps its bound and its ids,
    a call touches one session only, and `cleanup_expired` removes what is expired; a call that
    returns `Err` changes nothing exactly when the calls on the sessions are safe.
-/
import Llp.Core.SessionCalls

namespace Llp
open ByteCodec

namespace SessionManager

/-- `get_session_mut`. -/
def getSessionMut (sessionId : UInt64) (self : SessionManager) :
    Fallible LlpError (Session × (Session → SessionManager)) :=
  match self.sessions.lookup sessionId with
  | none => .error (.err (.sessionError (.sessionNotFound sessionId)))
  | some session => .ok (session, fun session =>
      { self with sessions := self.sessions.insert sessionId session })

/-- `remove_session`. -/
def removeSession (sessionId : UInt64) : Method SessionManager LlpError Unit := do
  let self ← get
  set { self with sessions := self.sessions.erase sessionId }
  let _ ← Method.okOr (.sessionError (.sessionNotFound sessionId))
    (self.sessions.lookup sessionId)
  pure ()

/-- A call that changes the manager, the last one on a session that `get_session_mut` returns. -/
inductive Call where
  | addSession (now : Instant) (sessionId : UInt64) (sessionKey : SessionKey)
    (mimicryProfile : MimicryProfile)
  | removeSession (sessionId : UInt64)
  | cleanupExpired (clock : UInt64 → Instant × Instant)
  | onSession (sessionId : UInt64) (call : Session.Call)

/-- What it returns. -/
inductive Returned where
  | done (result : Fallible LlpError Unit)
  | cleaned (removed : ℕ)
  | onSession (result : Fallible LlpError Session.Returned)

/-- The manager returned `Err`. -/
def Returned.refused : Returned → Bool
  | .done result => !result.isOk
  | .cleaned _ => false
  | .onSession result => !result.isOk

/-- The call returned `Err`, be it the manager or the session. -/
def Returned.isErr : Returned → Bool
  | .onSession (.ok returned) => !returned.isOk
  | returned => returned.refused

section Calls

variable (A : ChaCha20Poly1305)

/-- All of them, in any order. -/
def calls : Machine SessionManager Call Returned where
  step self
    | .addSession now sessionId sessionKey mimicryProfile =>
        let result := addSession now sessionId sessionKey mimicryProfile self
        (.done (Method.result result), Method.state result)
    | .removeSession sessionId =>
        let result := removeSession sessionId self
        (.done (Method.result result), Method.state result)
    | .cleanupExpired clock =>
        let (removed, self) := self.cleanupExpired clock
        (.cleaned removed, self)
    | .onSession sessionId call =>
        match self.getSessionMut sessionId with
        | .error e => (.onSession (.error e), self)
        | .ok (session, write) =>
            (.onSession (.ok ((Session.calls A).step session call).1),
              write ((Session.calls A).step session call).2)

/-- The session that a call is about: none for `cleanup_expired`. -/
def Call.target : Call → Option UInt64
  | .addSession _ sessionId _ _ => some sessionId
  | .removeSession sessionId => some sessionId
  | .cleanupExpired _ => none
  | .onSession sessionId _ => some sessionId

/-! ## The laws of the store -/

/-- There is room for what is stored, and each session is under its own id. -/
structure WellStored (manager : SessionManager) : Prop where
  bounded : manager.sessions.entries.length ≤ MAX_SESSIONS
  ownId : ∀ sessionId session, manager.sessions.lookup sessionId = some session →
    session.sessionId = sessionId

/-- The same sessions under the same ids. -/
def Unchanged (self self' : SessionManager) : Prop :=
  ∀ sessionId, self'.sessions.lookup sessionId = self.sessions.lookup sessionId

/-- A session that `cleanup_expired` should remove. -/
def Stale (self : SessionManager) (clock : UInt64 → Instant × Instant) (sessionId : UInt64)
    (session : Session) : Bool :=
  session.isExpired self.sessionLifetime (clock sessionId).1 ||
    session.isKeepaliveTimeout (clock sessionId).2

/-- What a call may do to the store. -/
structure Lawful (manager : SessionManager) (call : Call) : Prop where
  refused : ((calls A).step manager call).1.refused = true →
    Unchanged manager ((calls A).step manager call).2
  frame : ∀ target, call.target = some target → ∀ sessionId, sessionId ≠ target →
    ((calls A).step manager call).2.sessions.lookup sessionId = manager.sessions.lookup sessionId
  cleaned : ∀ clock, call = .cleanupExpired clock →
    (∀ sessionId session,
      ((calls A).step manager call).2.sessions.lookup sessionId = some session ↔
        manager.sessions.lookup sessionId = some session ∧
          Stale manager clock sessionId session = false) ∧
    ((calls A).step manager call).1 =
      .cleaned (manager.sessions.entries.countP fun entry => Stale manager clock entry.1 entry.2)

/-- If the call returns `Err`, it leaves the map unchanged. -/
def Atomic (self : SessionManager) (call : Call) : Prop :=
  ((calls A).step self call).1.isErr = true → Unchanged self ((calls A).step self call).2

/-- If the call is one on a session, it is safe there. -/
def Safe (self : SessionManager) : Call → Prop
  | .onSession sessionId call => ∀ session, self.sessions.lookup sessionId = some session →
      Session.EncryptSafe A session call ∧ Session.DecryptSafe A session call
  | _ => True

/-! ## Call by call -/

variable {A} {self : SessionManager} {sessionId : UInt64}

theorem removeSession_apply :
    removeSession sessionId self =
      match self.sessions.lookup sessionId with
      | some _ => .ok () { self with sessions := self.sessions.erase sessionId }
      | none => .error (.err (.sessionError (.sessionNotFound sessionId)))
          { self with sessions := self.sessions.erase sessionId } := by
  unfold removeSession
  rw [Method.get_bind, Method.set_bind]
  cases self.sessions.lookup sessionId with
  | none => rfl
  | some session => rfl

/-- A call on a session that is there. -/
theorem onSession_step {session : Session} (h : self.sessions.lookup sessionId = some session)
    (call : Session.Call) :
    (calls A).step self (.onSession sessionId call) =
      (.onSession (.ok ((Session.calls A).step session call).1),
        { self with
          sessions :=
            self.sessions.insert sessionId ((Session.calls A).step session call).2 }) := by
  simp only [calls, getSessionMut, h]

/-- A call on a session that is not there. -/
theorem onSession_notFound (h : self.sessions.lookup sessionId = none) (call : Session.Call) :
    (calls A).step self (.onSession sessionId call) =
      (.onSession (.error (.err (.sessionError (.sessionNotFound sessionId)))), self) := by
  simp only [calls, getSessionMut, h]

theorem cleanupExpired_apply (clock : UInt64 → Instant × Instant) :
    self.cleanupExpired clock =
      (self.sessions.entries.countP fun entry => Stale self clock entry.1 entry.2,
        { self with
          sessions := self.sessions.retain fun sessionId session =>
            !(Stale self clock sessionId session) }) := by
  have hkeep : (fun sessionId (session : Session) =>
      !session.isExpired self.sessionLifetime (clock sessionId).1 &&
        !session.isKeepaliveTimeout (clock sessionId).2) =
      fun sessionId session => !(Stale self clock sessionId session) := by
    funext sessionId session
    exact (Bool.not_or _ _).symm
  unfold cleanupExpired
  rw [hkeep]
  simp only [AList.length_sub_retain, Bool.not_not]

/-! ### The bound and the ids -/

theorem wellStored_addSession (h : WellStored self) (now : Instant) (sessionKey : SessionKey)
    (mimicryProfile : MimicryProfile) :
    WellStored (Method.state (addSession now sessionId sessionKey mimicryProfile self)) := by
  rcases addSession_cases now sessionId sessionKey mimicryProfile self with
    ⟨hroom, hnew, hok⟩ | ⟨e, herr⟩
  · rw [hok]
    refine ⟨?_, fun sid session hsession => ?_⟩
    · exact (AList.length_insert_of_notMem hnew _).trans_le hroom
    · by_cases hsid : sid = sessionId
      · rw [hsid, Method.state_ok, AList.lookup_insert] at hsession
        cases hsession
        exact hsid.symm
      · rw [Method.state_ok, AList.lookup_insert_ne hsid] at hsession
        exact h.ownId sid session hsession
  · rw [herr]
    exact h

theorem wellStored_erase (h : WellStored self) (sessionId : UInt64) :
    WellStored { self with sessions := self.sessions.erase sessionId } := by
  refine ⟨(AList.length_erase_le _ _).trans h.bounded, fun sid session hsession => ?_⟩
  by_cases hsid : sid = sessionId
  · rw [hsid, AList.lookup_erase] at hsession
    cases hsession
  · rw [AList.lookup_erase_ne hsid] at hsession
    exact h.ownId sid session hsession

theorem wellStored_retain (h : WellStored self) (keep : UInt64 → Session → Bool) :
    WellStored { self with sessions := self.sessions.retain keep } :=
  ⟨(AList.length_retain_le _ _).trans h.bounded, fun sid session hsession =>
    h.ownId sid session (AList.lookup_retain.mp hsession).1⟩

/-- Writing to a session keeps the store, since the session keeps its id. -/
theorem wellStored_write {session session' : Session} (h : WellStored self)
    (hsession : self.sessions.lookup sessionId = some session)
    (hid : session'.sessionId = session.sessionId) :
    WellStored { self with sessions := self.sessions.insert sessionId session' } := by
  have hmem : sessionId ∈ self.sessions :=
    AList.lookup_isSome.mp (Option.isSome_of_eq_some hsession)
  refine ⟨(AList.length_insert_of_mem hmem _).trans_le h.bounded, fun sid other hother => ?_⟩
  by_cases hsid : sid = sessionId
  · rw [hsid, AList.lookup_insert] at hother
    cases hother
    rw [hid, h.ownId sessionId session hsession, hsid]
  · rw [AList.lookup_insert_ne hsid] at hother
    exact h.ownId sid other hother

theorem calls_wellStored (h : WellStored self) (call : Call) :
    WellStored ((calls A).step self call).2 := by
  cases call with
  | addSession now sessionId sessionKey mimicryProfile =>
      exact wellStored_addSession h now sessionKey mimicryProfile
  | removeSession sessionId =>
      show WellStored (Method.state (removeSession sessionId self))
      rw [removeSession_apply]
      cases self.sessions.lookup sessionId with
      | none => exact wellStored_erase h sessionId
      | some session => exact wellStored_erase h sessionId
  | cleanupExpired clock =>
      show WellStored (self.cleanupExpired clock).2
      rw [cleanupExpired_apply]
      exact wellStored_retain h _
  | onSession sessionId call =>
      cases hsession : self.sessions.lookup sessionId with
      | none =>
          rw [onSession_notFound hsession]
          exact h
      | some session =>
          rw [onSession_step hsession]
          exact wellStored_write h hsession (Session.calls_sessionId A session call)

/-! ### The laws -/

/-- Removing what is not there changes nothing. -/
theorem erase_unchanged (h : self.sessions.lookup sessionId = none) :
    Unchanged self { self with sessions := self.sessions.erase sessionId } := by
  intro sid
  by_cases hsid : sid = sessionId
  · rw [hsid, AList.lookup_erase, h]
  · exact AList.lookup_erase_ne hsid

section Laws

variable {call : Call} {returned : Returned} {self' : SessionManager}

/-- A call other than `cleanup_expired` that changes nothing is lawful. -/
theorem lawful_of_unchanged (hstep : (calls A).step self call = (returned, self'))
    (hsame : Unchanged self self') (hother : ∀ clock, call ≠ .cleanupExpired clock) :
    Lawful A self call := by
  refine ⟨fun _ => ?_, fun target _ sid _ => ?_, fun clock hclock => absurd hclock (hother clock)⟩
  · rw [hstep]
    exact hsame
  · rw [hstep]
    exact hsame sid

/-- So is one that the manager takes and that changes one session. -/
theorem lawful_of_frame (hstep : (calls A).step self call = (returned, self'))
    (htaken : returned.refused = false) (htarget : call.target = some sessionId)
    (hframe : ∀ sid, sid ≠ sessionId → self'.sessions.lookup sid = self.sessions.lookup sid)
    (hother : ∀ clock, call ≠ .cleanupExpired clock) : Lawful A self call := by
  refine ⟨fun h => ?_, fun target h sid hsid => ?_, fun clock h => absurd h (hother clock)⟩
  · rw [hstep, htaken] at h
    cases h
  · rw [htarget] at h
    cases h
    rw [hstep]
    exact hframe sid hsid

end Laws

theorem addSession_lawful (now : Instant) (sessionKey : SessionKey)
    (mimicryProfile : MimicryProfile) :
    Lawful A self (.addSession now sessionId sessionKey mimicryProfile) := by
  have hstep : (calls A).step self (.addSession now sessionId sessionKey mimicryProfile) =
      (.done (Method.result (addSession now sessionId sessionKey mimicryProfile self)),
        Method.state (addSession now sessionId sessionKey mimicryProfile self)) := rfl
  rcases addSession_cases now sessionId sessionKey mimicryProfile self with
    ⟨-, -, hok⟩ | ⟨e, herr⟩
  · rw [hok] at hstep
    exact lawful_of_frame hstep rfl rfl (fun sid hsid => AList.lookup_insert_ne hsid) nofun
  · rw [herr] at hstep
    exact lawful_of_unchanged hstep (fun _ => rfl) nofun

theorem removeSession_lawful : Lawful A self (.removeSession sessionId) := by
  have hstep : (calls A).step self (.removeSession sessionId) =
      (.done (Method.result (removeSession sessionId self)),
        Method.state (removeSession sessionId self)) := rfl
  rw [removeSession_apply] at hstep
  cases hsession : self.sessions.lookup sessionId with
  | some session =>
      simp only [hsession] at hstep
      exact lawful_of_frame hstep rfl rfl (fun sid hsid => AList.lookup_erase_ne hsid) nofun
  | none =>
      simp only [hsession] at hstep
      exact lawful_of_unchanged hstep (erase_unchanged hsession) nofun

theorem cleanupExpired_lawful (clock : UInt64 → Instant × Instant) :
    Lawful A self (.cleanupExpired clock) := by
  have hstep : (calls A).step self (.cleanupExpired clock) =
      (.cleaned (self.cleanupExpired clock).1, (self.cleanupExpired clock).2) := rfl
  rw [cleanupExpired_apply] at hstep
  refine ⟨fun h => ?_, nofun, fun clock' hclock => ?_⟩
  · rw [hstep] at h
    cases h
  · cases hclock
    rw [hstep]
    refine ⟨fun sid session => ?_, rfl⟩
    rw [AList.lookup_retain, Bool.not_eq_true']

theorem onSession_lawful (call : Session.Call) : Lawful A self (.onSession sessionId call) := by
  cases hsession : self.sessions.lookup sessionId with
  | none => exact lawful_of_unchanged (onSession_notFound hsession call) (fun _ => rfl) nofun
  | some session =>
      exact lawful_of_frame (onSession_step hsession call) rfl rfl
        (fun sid hsid => AList.lookup_insert_ne hsid) nofun

theorem calls_lawful (A : ChaCha20Poly1305) (self : SessionManager) (call : Call) :
    Lawful A self call := by
  cases call with
  | addSession now sessionId sessionKey mimicryProfile =>
      exact addSession_lawful now sessionKey mimicryProfile
  | removeSession sessionId => exact removeSession_lawful
  | cleanupExpired clock => exact cleanupExpired_lawful clock
  | onSession sessionId call => exact onSession_lawful call

/-! ### Calls that return `Err` -/

/-- The manager's own `Err`. -/
theorem atomic_manager {call : Call}
    (h : ((calls A).step self call).1.isErr = ((calls A).step self call).1.refused) :
    Atomic A self call := by
  intro herr
  rw [h] at herr
  exact (calls_lawful A self call).refused herr

theorem atomic_iff (A : ChaCha20Poly1305) (self : SessionManager) (call : Call) :
    Atomic A self call ↔ Safe A self call := by
  cases call with
  | addSession now sessionId sessionKey mimicryProfile =>
      exact iff_of_true (atomic_manager rfl) trivial
  | removeSession sessionId => exact iff_of_true (atomic_manager rfl) trivial
  | cleanupExpired clock => exact iff_of_true (atomic_manager rfl) trivial
  | onSession sessionId call =>
      cases hsession : self.sessions.lookup sessionId with
      | none =>
          refine iff_of_true (fun _ => ?_) fun session h => ?_
          · rw [onSession_notFound hsession]
            exact fun _ => rfl
          · rw [hsession] at h
            cases h
      | some session =>
          have hsafe : Safe A self (.onSession sessionId call) ↔
              Session.EncryptSafe A session call ∧ Session.DecryptSafe A session call :=
            ⟨fun h => h session hsession, fun h session' h' => by
              rw [hsession] at h'
              cases h'
              exact h⟩
          have hatomic : Atomic A self (.onSession sessionId call) ↔
              (((Session.calls A).step session call).1.isOk = false →
                ((Session.calls A).step session call).2 = session) := by
            unfold Atomic Unchanged
            rw [onSession_step hsession]
            refine imp_congr ?_ (AList.insert_unchanged_iff hsession)
            exact Iff.of_eq (Bool.not_eq_true' _)
          rw [hatomic, hsafe]
          exact Session.calls_atomic_iff A session call

/-- **The store of sessions.** Over any run of calls on a new manager: it never holds more than
    `MAX_SESSIONS`, each under its own id; a call that the manager refuses changes nothing, a call
    about one session leaves the others as they are, and `cleanup_expired` removes exactly what is
    expired or timed out, and counts it. All calls that return `Err` change nothing exactly when
    each call on a session finds a number left or is refused by the cipher, and opens what its
    window admits. -/
theorem store_invariant_iff (A : ChaCha20Poly1305) (sessionLifetime : Duration)
    (xs : List Call) :
    let M := calls A
    let s := withLifetime sessionLifetime
    (∀ pre, pre <+: xs → WellStored (M.final s pre)) ∧ M.Always (Lawful A) s xs ∧
      (M.Always (Atomic A) s xs ↔ M.Always (Safe A) s xs) := by
  intro M s
  refine ⟨fun pre _ => ?_, ?_, M.always_congr (atomic_iff A) s xs⟩
  · refine M.final_invariant (P := fun _ _ => True) (I := WellStored)
      (fun self call h _ => calls_wellStored h call) s pre ?_ (M.always_true s pre)
    exact ⟨Nat.zero_le _, nofun⟩
  · exact M.always_mono (fun self call _ => calls_lawful A self call) s xs (M.always_true s xs)

example : new = withLifetime DEFAULT_SESSION_LIFETIME := rfl

end Calls

/-! ### A forged packet -/

/-- A forged packet of a stored session: the call returns `Err`, and the session is another one
    after it, so that a genuine packet of that number is refused. -/
theorem forged_packet_changes_store :
    let s := (calls sampleAead).final new [.addSession 0 7 ⟨.replicate 32 9⟩ .none]
    let forged : Call := .onSession 7 (.decryptPayload ⟨1, 1, [0xFF], [], 5⟩)
    ((calls sampleAead).step s forged).1.isErr = true ∧
      ((calls sampleAead).step s forged).2.sessions.lookup 7 ≠ s.sessions.lookup 7 ∧
      ¬ Atomic sampleAead s forged := by
  intro s forged
  have hforged : ((calls sampleAead).step s forged).1.isErr = true ∧
      ((calls sampleAead).step s forged).2.sessions.lookup 7 ≠ s.sessions.lookup 7 := by
    decide +kernel
  exact ⟨hforged.1, hforged.2, fun h => hforged.2 (h hforged.1 7)⟩

end SessionManager

end Llp
