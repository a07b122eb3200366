/-
  What `SessionManager` reports of its sessions (`llp-core/session.rs`), against the history of
  its calls.

  A ledger is kept from the calls and what they returned, and from nothing else: who was added and
  who left, the times of each session and how many packets it sealed. The manager is a refinement
  of it.

  * `Session.calls_records`, `calls_kept`: one call keeps the ledger true.
  * `reports_history`: after any run, every report of the manager can be read off the ledger.
-/
import Llp.Core.SessionStore

namespace Llp
open ByteCodec

namespace Session

/-- `idle_time`. -/
def idleTime (now : Instant) (self : Session) : Duration := now - self.lastActivity

/-- `current_tx_sequence`. -/
def currentTxSequence (self : Session) : UInt32 := self.txSequence

end Session

namespace SessionManager

/-- `get_session`. -/
def getSession (sessionId : UInt64) (self : SessionManager) : Fallible LlpError Session :=
  match self.sessions.lookup sessionId with
  | none => .error (.err (.sessionError (.sessionNotFound sessionId)))
  | some session => .ok session

/-- `sessions_needing_keepalive`, with the reading of `needs_keepalive` for each session. -/
def sessionsNeedingKeepalive (clock : UInt64 → Instant) (self : SessionManager) : List UInt64 :=
  (self.sessions.entries.filter fun entry => entry.2.needsKeepalive (clock entry.1)).map (·.1)

/-- `sessions_needing_rekey`. -/
def sessionsNeedingRekey (self : SessionManager) : List UInt64 :=
  (self.sessions.entries.filter fun entry => entry.2.needsRekey).map (·.1)

/-- `session_count`. -/
def sessionCount (self : SessionManager) : ℕ := self.sessions.entries.length

/-- `has_session`. -/
def hasSession (sessionId : UInt64) (self : SessionManager) : Bool :=
  sessionId ∈ self.sessions

end SessionManager

/-! ## The ledger -/

/-- What is known of a session from the calls on it. -/
structure Record where
  mimicryProfile : MimicryProfile
  createdAt : Instant
  lastActivity : Instant
  lastKeepalive : Instant
  packets : ℕ
deriving DecidableEq

namespace Record

/-- A session just added. -/
def opened (now : Instant) (mimicryProfile : MimicryProfile) : Record :=
  ⟨mimicryProfile, now, now, now, 0⟩

/-- A call that failed is nothing. -/
def after (record : Record) : Session.Call → Session.Returned → Record
  | .encryptPayload call, .encrypted (.ok _) =>
      { record with lastActivity := call.now, packets := record.packets + 1 }
  | .decryptPayload call, .decrypted (.ok _) =>
      { record with lastActivity := call.now, lastKeepalive := call.now' }
  | .markKeepaliveReceived now now', .marked =>
      { record with lastActivity := now', lastKeepalive := now }
  | _, _ => record

/-- Too old, or silent for too long. -/
def isOver (sessionLifetime : Duration) (clock : Instant × Instant) (record : Record) : Bool :=
  record.createdAt + sessionLifetime < clock.1 ||
    record.lastKeepalive + KEEPALIVE_TIMEOUT < clock.2

end Record

/-- Who is there, and how many came and left. -/
structure Ledger where
  records : UInt64 → Option Record
  added : ℕ
  removed : ℕ

namespace Ledger

def empty : Ledger := ⟨fun _ => none, 0, 0⟩

open SessionManager (Call Returned)

/-- One call and what it returned. -/
def after (sessionLifetime : Duration) (ledger : Ledger) : Call × Returned → Ledger
  | (.addSession now sessionId _ mimicryProfile, .done (.ok ())) =>
      { ledger with
        records := Function.update ledger.records sessionId (some (.opened now mimicryProfile))
        added := ledger.added + 1 }
  | (.removeSession sessionId, .done (.ok ())) =>
      { ledger with
        records := Function.update ledger.records sessionId none
        removed := ledger.removed + 1 }
  | (.cleanupExpired clock, .cleaned count) =>
      { ledger with
        records := fun sessionId => (ledger.records sessionId).filter fun record =>
          !record.isOver sessionLifetime (clock sessionId)
        removed := ledger.removed + count }
  | (.onSession sessionId call, .onSession (.ok returned)) =>
      { ledger with
        records := Function.update ledger.records sessionId
          ((ledger.records sessionId).map fun record => record.after call returned) }
  | _ => ledger

end Ledger

/-! ## One session -/

namespace Session

/-- A session that is as its record says. -/
structure Records (sessionId : UInt64) (record : Record) (session : Session) : Prop where
  sessionId : session.sessionId = sessionId
  mimicryProfile : session.mimicryProfile = record.mimicryProfile
  createdAt : session.createdAt = record.createdAt
  lastActivity : session.lastActivity = record.lastActivity
  lastKeepalive : session.lastKeepalive = record.lastKeepalive
  packets : session.txSequence.toNat = record.packets
  rekey : session.rekeyRequired = decide (2 ^ 31 ≤ record.packets)

theorem records_new (now : Instant) (sessionId : UInt64) (sessionKey : SessionKey)
    (mimicryProfile : MimicryProfile) :
    Records sessionId (.opened now mimicryProfile)
      (new now sessionId sessionKey mimicryProfile) :=
  ⟨rfl, rfl, rfl, rfl, rfl, rfl, rfl⟩

section Records

variable (A : ChaCha20Poly1305) {sessionId : UInt64} {record : Record} {self : Session}

/-- Once set, the rekey flag stays; it is set by the packet that makes it 2^31. -/
theorem rekey_succ {next : UInt32} {n : ℕ} (hnext : next.toNat = n + 1) {rekey : Bool}
    (h : rekey = decide (2 ^ 31 ≤ n)) :
    (if next ≥ (1 : UInt32) <<< (31 : UInt32) then true else rekey) =
      decide (2 ^ 31 ≤ n + 1) := by
  have hlimit : next ≥ (1 : UInt32) <<< (31 : UInt32) ↔ 2 ^ 31 ≤ n + 1 := by
    rw [ge_iff_le, UInt32.le_iff_toNat_le, hnext]
    rfl
  by_cases hle : 2 ^ 31 ≤ n + 1
  · rw [if_pos (hlimit.mpr hle), decide_eq_true hle]
  · have hn : ¬ 2 ^ 31 ≤ n := fun hn => hle (Nat.le_succ_of_le hn)
    rw [if_neg (fun hge => hle (hlimit.mp hge)), h, decide_eq_false hle, decide_eq_false hn]

theorem encryptPayload_records (h : Records sessionId record self) (call : EncryptCall) :
    Records sessionId
      (record.after (.encryptPayload call) (.encrypted ((encryptCalls A).step self call).1))
      ((encryptCalls A).step self call).2 := by
  rw [encryptCalls_step, encryptPayload_apply]
  cases AeadCipher.encrypt A call.plaintext call.aad self.txCipher with
  | error e c => exact ⟨h.1, h.2, h.3, h.4, h.5, h.6, h.7⟩
  | ok ciphertext c =>
      by_cases hseq : self.txSequence.toNat + 1 < 2 ^ 32
      · have hnext : (self.txSequence + 1).toNat = record.packets + 1 := by
          rw [toNat_succ32 hseq, h.packets]
        simp only [if_pos hseq]
        exact ⟨h.1, h.2, h.3, rfl, h.5, hnext, rekey_succ hnext h.rekey⟩
      · -- there is no number left
        simp only [if_neg hseq]
        exact ⟨h.1, h.2, h.3, h.4, h.5, h.6, h.7⟩

theorem decryptPayload_records (h : Records sessionId record self) (call : DecryptCall) :
    Records sessionId
      (record.after (.decryptPayload call) (.decrypted ((decryptCalls A).step self call).1))
      ((decryptCalls A).step self call).2 := by
  have hstep : (decryptCalls A).step self call =
      (Method.result (decryptPayload A call.now call.now' call.ciphertext call.aad
          call.sequenceNumber self),
        Method.state (decryptPayload A call.now call.now' call.ciphertext call.aad
          call.sequenceNumber self)) := rfl
  rw [hstep, decryptPayload_apply]
  split
  · split
    · exact ⟨h.1, h.2, h.3, rfl, rfl, h.6, h.7⟩
    · exact ⟨h.1, h.2, h.3, h.4, h.5, h.6, h.7⟩
  · exact ⟨h.1, h.2, h.3, h.4, h.5, h.6, h.7⟩

/-- A call on the session, and its line in the record. -/
theorem calls_records (h : Records sessionId record self) (call : Call) :
    Records sessionId (record.after call ((calls A).step self call).1)
      ((calls A).step self call).2 := by
  cases call with
  | encryptPayload call => exact encryptPayload_records A h call
  | decryptPayload call => exact decryptPayload_records A h call
  | markKeepaliveReceived now now' => exact ⟨h.1, h.2, h.3, rfl, rfl, h.6, h.7⟩

/-- The record knows when the session is over. -/
theorem Records.isOver (h : Records sessionId record self) (sessionLifetime : Duration)
    (clock : Instant × Instant) :
    (self.isExpired sessionLifetime clock.1 || self.isKeepaliveTimeout clock.2) =
      record.isOver sessionLifetime clock := by
  have hexpired : clock.1 - record.createdAt > sessionLifetime ↔
      record.createdAt + sessionLifetime < clock.1 := lt_tsub_iff_left
  have htimeout : clock.2 - record.lastKeepalive > KEEPALIVE_TIMEOUT ↔
      record.lastKeepalive + KEEPALIVE_TIMEOUT < clock.2 := lt_tsub_iff_left
  rw [isExpired, isKeepaliveTimeout, h.createdAt, h.lastKeepalive, Record.isOver,
    decide_eq_decide.mpr hexpired, decide_eq_decide.mpr htimeout]

theorem Records.needsKeepalive (h : Records sessionId record self) (now : Instant) :
    self.needsKeepalive now = true ↔ record.lastActivity + KEEPALIVE_INTERVAL < now := by
  rw [Session.needsKeepalive, h.lastActivity, decide_eq_true_iff]
  exact lt_tsub_iff_left

theorem Records.needsRekey (h : Records sessionId record self) :
    self.needsRekey = true ↔ 2 ^ 31 ≤ record.packets := by
  rw [Session.needsRekey, h.rekey, decide_eq_true_iff]

end Records

end Session
/-! ## The manager -/

namespace SessionManager

open Session (Records calls_records)

variable (A : ChaCha20Poly1305) {sessionLifetime : Duration} {ledger : Ledger}
  {manager : SessionManager} {sessionId : UInt64}

/-- A manager that is as its ledger says. -/
structure Kept (sessionLifetime : Duration) (ledger : Ledger) (manager : SessionManager) :
    Prop where
  lifetime : manager.sessionLifetime = sessionLifetime
  records : ∀ sessionId, Option.Rel (Records sessionId) (ledger.records sessionId)
    (manager.sessions.lookup sessionId)
  balance : manager.sessionCount + ledger.removed = ledger.added

theorem kept_new (sessionLifetime : Duration) :
    Kept sessionLifetime .empty (withLifetime sessionLifetime) :=
  ⟨rfl, fun _ => .none, rfl⟩

/-- What the ledger knows of a session that is there. -/
theorem Kept.record (h : Kept sessionLifetime ledger manager) {session : Session}
    (hsession : manager.sessions.lookup sessionId = some session) :
    ∃ record, ledger.records sessionId = some record ∧ Records sessionId record session := by
  have hrel := h.records sessionId
  rw [hsession] at hrel
  exact hrel.of_some_right

/-- A session the ledger knows is there. -/
theorem Kept.session (h : Kept sessionLifetime ledger manager) {record : Record}
    (hrecord : ledger.records sessionId = some record) :
    ∃ session, manager.sessions.lookup sessionId = some session ∧
      Records sessionId record session := by
  have hrel := h.records sessionId
  rw [hrecord] at hrel
  exact hrel.of_some_left

theorem Kept.isSome (h : Kept sessionLifetime ledger manager) (sessionId : UInt64) :
    (ledger.records sessionId).isSome = (manager.sessions.lookup sessionId).isSome :=
  (h.records sessionId).isSome_eq

/-! ### Call by call -/

theorem kept_addSession (h : Kept sessionLifetime ledger manager) (now : Instant)
    (sessionKey : SessionKey) (mimicryProfile : MimicryProfile) :
    let call : Call := .addSession now sessionId sessionKey mimicryProfile
    Kept sessionLifetime (ledger.after sessionLifetime (call, ((calls A).step manager call).1))
      ((calls A).step manager call).2 := by
  intro call
  have hstep : (calls A).step manager call =
      (.done (Method.result (addSession now sessionId sessionKey mimicryProfile manager)),
        Method.state (addSession now sessionId sessionKey mimicryProfile manager)) := rfl
  rw [hstep]
  rcases addSession_cases now sessionId sessionKey mimicryProfile manager with
    ⟨-, hnew, hok⟩ | ⟨e, herr⟩
  · let session := Session.new now sessionId sessionKey mimicryProfile
    have hlen := AList.length_insert_of_notMem hnew session
    have hbalance : manager.sessions.entries.length + ledger.removed = ledger.added := h.balance
    rw [hok]
    refine ⟨h.lifetime, ?_, ?_⟩
    · exact AList.Matches.insert h.records
        (Session.records_new now sessionId sessionKey mimicryProfile)
    · show (manager.sessions.insert sessionId session).entries.length + ledger.removed =
        ledger.added + 1
      omega
  · rw [herr]
    exact h

theorem kept_removeSession (h : Kept sessionLifetime ledger manager) :
    let call : Call := .removeSession sessionId
    Kept sessionLifetime (ledger.after sessionLifetime (call, ((calls A).step manager call).1))
      ((calls A).step manager call).2 := by
  intro call
  have hstep : (calls A).step manager call =
      (.done (Method.result (removeSession sessionId manager)),
        Method.state (removeSession sessionId manager)) := rfl
  rw [hstep, removeSession_apply]
  cases hsession : manager.sessions.lookup sessionId with
  | some session =>
      have hmem : sessionId ∈ manager.sessions :=
        AList.lookup_isSome.mp (Option.isSome_of_eq_some hsession)
      have hlen := AList.length_erase_add_one hmem
      have hbalance : manager.sessions.entries.length + ledger.removed = ledger.added := h.balance
      refine ⟨h.lifetime, AList.Matches.erase h.records sessionId, ?_⟩
      show (manager.sessions.erase sessionId).entries.length + (ledger.removed + 1) = ledger.added
      omega
  | none =>
      simp only [AList.erase_of_notMem (AList.lookup_eq_none.mp hsession)]
      exact h

theorem kept_cleanupExpired (h : Kept sessionLifetime ledger manager)
    (clock : UInt64 → Instant × Instant) :
    let call : Call := .cleanupExpired clock
    Kept sessionLifetime (ledger.after sessionLifetime (call, ((calls A).step manager call).1))
      ((calls A).step manager call).2 := by
  intro call
  have hstep : (calls A).step manager call =
      (.cleaned (manager.cleanupExpired clock).1, (manager.cleanupExpired clock).2) := rfl
  rw [hstep, cleanupExpired_apply]
  refine ⟨h.lifetime, ?_, ?_⟩
  · refine AList.Matches.retain h.records fun id record session hrecord => ?_
    rw [Stale, h.lifetime, hrecord.isOver]
  · have hlen := AList.length_sub_retain (fun id session => !(Stale manager clock id session))
      manager.sessions
    have hle := AList.length_retain_le (fun id session => !(Stale manager clock id session))
      manager.sessions
    have hbalance : manager.sessions.entries.length + ledger.removed = ledger.added := h.balance
    simp only [Bool.not_not] at hlen
    show (manager.sessions.retain _).entries.length + (ledger.removed + _) = ledger.added
    omega

theorem kept_onSession (h : Kept sessionLifetime ledger manager) (call : Session.Call) :
    let onSession : Call := .onSession sessionId call
    Kept sessionLifetime
      (ledger.after sessionLifetime (onSession, ((calls A).step manager onSession).1))
      ((calls A).step manager onSession).2 := by
  intro onSession
  cases hsession : manager.sessions.lookup sessionId with
  | none =>
      rw [onSession_notFound hsession]
      exact h
  | some session =>
      obtain ⟨record, hrecord, hrecords⟩ := h.record hsession
      have hmem : sessionId ∈ manager.sessions :=
        AList.lookup_isSome.mp (Option.isSome_of_eq_some hsession)
      let session' := ((Session.calls A).step session call).2
      have hlen := AList.length_insert_of_mem hmem session'
      have hbalance : manager.sessions.entries.length + ledger.removed = ledger.added := h.balance
      rw [onSession_step hsession]
      refine ⟨h.lifetime, ?_, ?_⟩
      · have hentry : some (record.after call ((Session.calls A).step session call).1) =
            (ledger.records sessionId).map fun record =>
              record.after call ((Session.calls A).step session call).1 := by
          rw [hrecord, Option.map_some]
        have hupdate := AList.Matches.insert h.records (calls_records A hrecords call)
        rwa [hentry] at hupdate
      · show (manager.sessions.insert sessionId session').entries.length + ledger.removed =
          ledger.added
        omega

/-- A call on the manager, and its line in the ledger. -/
theorem calls_kept (h : Kept sessionLifetime ledger manager) (call : Call) :
    Kept sessionLifetime (ledger.after sessionLifetime (call, ((calls A).step manager call).1))
      ((calls A).step manager call).2 := by
  cases call with
  | addSession now sessionId sessionKey mimicryProfile =>
      exact kept_addSession A h now sessionKey mimicryProfile
  | removeSession sessionId => exact kept_removeSession A h
  | cleanupExpired clock => exact kept_cleanupExpired A h clock
  | onSession sessionId call => exact kept_onSession A h call

/-! ### The reports -/

theorem mem_listed {p : UInt64 → Session → Bool} (manager : SessionManager) :
    sessionId ∈ (manager.sessions.entries.filter fun entry => p entry.1 entry.2).map (·.1) ↔
      ∃ session, manager.sessions.lookup sessionId = some session ∧ p sessionId session = true := by
  have hlookup : ∀ session, manager.sessions.lookup sessionId = some session ↔
      (⟨sessionId, session⟩ : (_ : UInt64) × Session) ∈ manager.sessions.entries := fun session =>
    AList.mem_lookup_iff
  rw [List.mem_map]
  constructor
  · rintro ⟨⟨id, session⟩, hmem, rfl⟩
    obtain ⟨hentry, hp⟩ := List.mem_filter.mp hmem
    exact ⟨session, (hlookup session).mpr hentry, hp⟩
  · rintro ⟨session, hsession, hp⟩
    exact ⟨⟨sessionId, session⟩, List.mem_filter.mpr ⟨(hlookup session).mp hsession, hp⟩, rfl⟩

/-- No session is listed twice. -/
theorem nodup_listed (p : (_ : UInt64) × Session → Bool) (manager : SessionManager) :
    ((manager.sessions.entries.filter p).map (·.1)).Nodup :=
  manager.sessions.keys_nodup.sublist (List.filter_sublist.map _)

theorem Kept.getSession (h : Kept sessionLifetime ledger manager) {record : Record}
    (hrecord : ledger.records sessionId = some record) :
    ∃ session, manager.getSession sessionId = .ok session ∧
      Records sessionId record session := by
  obtain ⟨session, hsession, hrecords⟩ := h.session hrecord
  refine ⟨session, ?_, hrecords⟩
  unfold SessionManager.getSession
  rw [hsession]

/-- What is listed, in terms of the ledger. -/
theorem Kept.listed (h : Kept sessionLifetime ledger manager) {p : UInt64 → Session → Bool}
    {q : Record → Prop}
    (hpq : ∀ record session, Records sessionId record session → (p sessionId session ↔ q record)) :
    sessionId ∈ (manager.sessions.entries.filter fun entry => p entry.1 entry.2).map (·.1) ↔
      ∃ record, ledger.records sessionId = some record ∧ q record := by
  rw [mem_listed]
  constructor
  · rintro ⟨session, hsession, hp⟩
    obtain ⟨record, hrecord, hrecords⟩ := h.record hsession
    exact ⟨record, hrecord, (hpq record session hrecords).mp hp⟩
  · rintro ⟨record, hrecord, hq⟩
    obtain ⟨session, hsession, hrecords⟩ := h.session hrecord
    exact ⟨session, hsession, (hpq record session hrecords).mpr hq⟩

/-- A session is taken while there is room and its id is free. -/
theorem Kept.addSession_ok (h : Kept sessionLifetime ledger manager) (now : Instant)
    (sessionKey : SessionKey) (mimicryProfile : MimicryProfile) :
    Method.result (addSession now sessionId sessionKey mimicryProfile manager) = .ok () ↔
      ledger.records sessionId = none ∧ ledger.added < ledger.removed + MAX_SESSIONS := by
  have hbalance : manager.sessions.entries.length + ledger.removed = ledger.added := h.balance
  have hfree : ledger.records sessionId = none ↔ sessionId ∉ manager.sessions := by
    rw [← Option.not_isSome_iff_eq_none, h.isSome, AList.lookup_isSome]
  constructor
  · intro hresult
    rcases addSession_cases now sessionId sessionKey mimicryProfile manager with
      ⟨hroom, hnew, -⟩ | ⟨e, herr⟩
    · exact ⟨hfree.mpr hnew, by omega⟩
    · rw [herr] at hresult
      cases hresult
  · rintro ⟨hnone, hroom⟩
    have hlen : manager.sessions.entries.length < MAX_SESSIONS := by omega
    rw [SessionManager.addSession_ok hlen (hfree.mp hnone)]
    rfl

/-- The ledger of a run on a new manager. -/
def ledgerOf (sessionLifetime : Duration) (xs : List Call) : Ledger :=
  (xs.zip ((calls A).outputs (withLifetime sessionLifetime) xs)).foldl
    (Ledger.after sessionLifetime) .empty

/-- **The reports of the manager.** After any run of calls on a new manager, with the ledger kept
    from these calls and what they returned: the sessions that are there, their times and how
    many packets each has sealed are those of the ledger; a keepalive is due for the ones idle for
    more than 30 seconds, a rekey for the ones that have sealed 2^31 packets, and each is listed
    once; the sessions there are those added less those that were removed or cleaned up; and the
    next session is taken exactly when its id is free and there is room. -/
theorem reports_history (sessionLifetime : Duration) (xs : List Call) :
    let manager := (calls A).final (withLifetime sessionLifetime) xs
    let ledger := ledgerOf A sessionLifetime xs
    (∀ sessionId, manager.hasSession sessionId = (ledger.records sessionId).isSome) ∧
      (∀ sessionId record, ledger.records sessionId = some record →
        ∃ session, manager.getSession sessionId = .ok session ∧
          session.sessionId = sessionId ∧ session.mimicryProfile = record.mimicryProfile ∧
          session.currentTxSequence.toNat = record.packets ∧
          ∀ now, session.idleTime now = now - record.lastActivity) ∧
      (∀ sessionId, sessionId ∈ manager.sessionsNeedingRekey ↔
        ∃ record, ledger.records sessionId = some record ∧ 2 ^ 31 ≤ record.packets) ∧
      (∀ clock sessionId, sessionId ∈ manager.sessionsNeedingKeepalive clock ↔
        ∃ record, ledger.records sessionId = some record ∧
          record.lastActivity + KEEPALIVE_INTERVAL < clock sessionId) ∧
      (manager.sessionsNeedingRekey.Nodup ∧
        ∀ clock, (manager.sessionsNeedingKeepalive clock).Nodup) ∧
      manager.sessionCount + ledger.removed = ledger.added ∧
      ∀ now sessionId sessionKey mimicryProfile,
        Method.result (addSession now sessionId sessionKey mimicryProfile manager) = .ok () ↔
          ledger.records sessionId = none ∧ ledger.added < ledger.removed + MAX_SESSIONS := by
  intro manager ledger
  have hkept : Kept sessionLifetime ledger manager :=
    (calls A).foldl_related (R := Kept sessionLifetime) (P := fun _ => True)
      (fun ledger manager call h _ => calls_kept A h call) _ _ xs (kept_new sessionLifetime)
      fun _ _ => trivial
  refine ⟨fun id => ?_, fun id record hrecord => ?_, fun id => ?_, fun clock id => ?_,
    ⟨nodup_listed _ manager, fun clock => nodup_listed _ manager⟩, hkept.balance,
    fun now id key profile => hkept.addSession_ok now key profile⟩
  · rw [hkept.isSome, hasSession, Bool.eq_iff_iff, decide_eq_true_iff, AList.lookup_isSome]
  · obtain ⟨session, hsession, hrecords⟩ := hkept.getSession hrecord
    refine ⟨session, hsession, hrecords.sessionId, hrecords.mimicryProfile, hrecords.packets, ?_⟩
    intro now
    rw [Session.idleTime, hrecords.lastActivity]
  · exact hkept.listed (p := fun _ session => session.needsRekey)
      fun record session hrecords => hrecords.needsRekey
  · exact hkept.listed (p := fun id session => session.needsKeepalive (clock id))
      fun record session hrecords => hrecords.needsKeepalive (clock id)

end SessionManager

end Llp
