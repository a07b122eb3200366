/-
  Keepalives between the two sessions of a link.

  Every packet is delivered at once: `encryptPayload` at one end and `decryptPayload` at the
  other, at the same instant. A schedule lets time pass and has either end send; `Prompt` is the
  rule that an end which needs a keepalive sends at that instant. `silence` reads off a schedule
  how long an end has sent nothing.

  `last_activity` is refreshed by sending and by receiving, `last_keepalive` by receiving only. An
  end that receives never needs a keepalive, so it never sends one, and the other end times out.

  * `lastKeepalive_add_silence`: what an end has not received is what the other has not sent.
  * `alive_iff_both_send`: no end times out, nor is removed for it, exactly when neither end is
    ever silent for more than `KEEPALIVE_TIMEOUT`.
-/
import Mathlib.Data.Fintype.Basic
import Llp.Core.Session
import Llp.Lib.Machine

namespace Llp
open ByteCodec

/-! ## The link -/

/-- The two ends. -/
inductive Endpoint where
  | a
  | b
deriving DecidableEq

instance : Fintype Endpoint := ⟨{.a, .b}, fun e => by cases e <;> decide⟩

/-- The other end. -/
def Endpoint.peer : Endpoint → Endpoint
  | a => b
  | b => a

@[simp] theorem Endpoint.peer_peer (e : Endpoint) : e.peer.peer = e := by
  cases e <;> rfl

/-- The two sessions, and the time. -/
structure Link where
  now : Instant
  session : Endpoint → Session

/-- What happens on the link: time passes, or an end sends a packet. -/
inductive LinkEvent where
  | wait (time : Duration)
  | send (sender : Endpoint) (plaintext aad : Bytes)

namespace Link

/-- Two new sessions with one key, from the time when both are there. -/
def new (created : Endpoint → Instant) (sessionId : UInt64) (sessionKey : SessionKey)
    (mimicryProfile : MimicryProfile) : Link where
  now := max (created .a) (created .b)
  session e := Session.new (created e) sessionId sessionKey mimicryProfile

/-- The link with one session replaced. -/
def put (e : Endpoint) (session : Session) (s : Link) : Link :=
  { s with session := fun e' => if e' = e then session else s.session e' }

/-- One event. A packet is accepted if both calls return `Ok`. -/
def step (A : ChaCha20Poly1305) (s : Link) : LinkEvent → Bool × Link
  | .wait time => (true, { s with now := s.now + time })
  | .send sender plaintext aad =>
      match Session.encryptPayload A s.now plaintext aad (s.session sender) with
      | .error _ session => (false, s.put sender session)
      | .ok (ciphertext, sequenceNumber) session =>
          match Session.decryptPayload A s.now s.now ciphertext aad sequenceNumber
            (s.session sender.peer) with
          | .error _ peer => (false, (s.put sender session).put sender.peer peer)
          | .ok _ peer => (true, (s.put sender session).put sender.peer peer)

/-- The link as a machine. -/
def machine (A : ChaCha20Poly1305) : Machine Link LinkEvent Bool where
  step := step A

/-- Every packet is accepted by the other end. -/
def Accepted (A : ChaCha20Poly1305) (s : Link) (event : LinkEvent) : Prop :=
  (step A s event).1 = true

/-- Time does not pass while an end needs a keepalive: it sends first. -/
def Prompt (s : Link) : LinkEvent → Prop
  | .wait time => 0 < time → ∀ e, (s.session e).needsKeepalive (s.now + (time - 1)) = false
  | .send _ _ _ => True

instance (A : ChaCha20Poly1305) (s : Link) (event : LinkEvent) :
    Decidable (Accepted A s event) :=
  inferInstanceAs (Decidable (_ = true))

instance (s : Link) : (event : LinkEvent) → Decidable (Prompt s event)
  | .wait time => inferInstanceAs (Decidable (0 < time → ∀ _, _ = false))
  | .send _ _ _ => inferInstanceAs (Decidable True)

/-- An end has not timed out, and `cleanup_expired` removes its session for its age only. -/
def Alive (s : Link) (e : Endpoint) : Prop :=
  (s.session e).isKeepaliveTimeout s.now = false ∧
    ∀ (manager : SessionManager) (sid : UInt64),
      manager.sessions.lookup sid = some (s.session e) →
      (s.session e).isExpired manager.sessionLifetime s.now = false →
      (manager.cleanupExpired fun _ => (s.now, s.now)).2.sessions.lookup sid = some (s.session e)

end Link

/-- How long an end has sent nothing, over a schedule from a silence of `t`. -/
def silence (e : Endpoint) : Duration → List LinkEvent → Duration
  | t, [] => t
  | t, .wait time :: events => silence e (t + time) events
  | t, .send sender _ _ :: events => silence e (if sender = e then 0 else t) events

namespace Link

variable {A : ChaCha20Poly1305}

/-! ## One event -/

theorem put_session (e e' : Endpoint) (session : Session) (s : Link) :
    (s.put e session).session e' = if e' = e then session else s.session e' := rfl

@[simp] theorem put_now (e : Endpoint) (session : Session) (s : Link) :
    (s.put e session).now = s.now := rfl

/-- `cleanup_expired` looks at the age and at the last keepalive. -/
theorem alive_iff (s : Link) (e : Endpoint) :
    Alive s e ↔ s.now ≤ (s.session e).lastKeepalive + KEEPALIVE_TIMEOUT := by
  have htimeout : (s.session e).isKeepaliveTimeout s.now = false ↔
      s.now ≤ (s.session e).lastKeepalive + KEEPALIVE_TIMEOUT := by
    rw [Session.isKeepaliveTimeout, decide_eq_false_iff_not]
    exact Nat.not_lt.trans Nat.sub_le_iff_le_add'
  rw [← htimeout]
  refine ⟨And.left, fun h => ⟨h, fun manager sid hlookup hfresh => ?_⟩⟩
  refine AList.lookup_retain.mpr ⟨hlookup, ?_⟩
  rw [hfresh, h]
  rfl

/-- An accepted packet is a keepalive for its receiver, at the time of the link, and none for its
    sender. -/
theorem step_send {s : Link} {sender : Endpoint} {plaintext aad : Bytes}
    (h : Accepted A s (.send sender plaintext aad)) :
    (step A s (.send sender plaintext aad)).2.now = s.now ∧
      ((step A s (.send sender plaintext aad)).2.session sender.peer).lastKeepalive = s.now ∧
      ((step A s (.send sender plaintext aad)).2.session sender).lastKeepalive =
        (s.session sender).lastKeepalive := by
  have hne : sender ≠ sender.peer := by cases sender <;> decide
  cases hencrypt : Session.encryptPayload A s.now plaintext aad (s.session sender) with
  | error e session => simp [Accepted, step, hencrypt] at h
  | ok sent session =>
      cases hdecrypt : Session.decryptPayload A s.now s.now sent.1 aad sent.2
          (s.session sender.peer) with
      | error e peer => simp [Accepted, step, hencrypt, hdecrypt] at h
      | ok plaintext' peer =>
          simp only [step, hencrypt, hdecrypt, put_session, put_now, if_neg hne, if_true]
          exact ⟨trivial, (Session.decryptPayload_times hdecrypt).2.2,
            (Session.encryptPayload_times hencrypt).2.2⟩

/-! ## Schedules -/

/-- **The two timers.** What an end has not received is what the other has not sent: an end's
    last keepalive lies as far back as the other end is silent. -/
theorem lastKeepalive_add_silence {s : Link} {quiet : Endpoint → Duration}
    (hquiet : ∀ e, (s.session e).lastKeepalive + quiet e.peer = s.now) (events : List LinkEvent)
    (hacc : (machine A).Always (Accepted A) s events) (e : Endpoint) :
    (((machine A).final s events).session e).lastKeepalive +
      silence e.peer (quiet e.peer) events = ((machine A).final s events).now := by
  induction events generalizing s quiet with
  | nil => exact hquiet e
  | cons event events ih =>
      obtain ⟨hfirst, hrest⟩ := hacc
      cases event with
      | wait time =>
          have hquiet' : ∀ e, (s.session e).lastKeepalive + (quiet e.peer + time) =
              s.now + time := fun e => by rw [← hquiet e, Nat.add_assoc]
          exact @ih _ (fun e => quiet e + time) hquiet' hrest
      | send sender plaintext aad =>
          obtain ⟨hnow, hreceived, hkept⟩ := step_send hfirst
          refine @ih _ (fun e => if sender = e then 0 else quiet e) (fun e => ?_) hrest
          by_cases he : e = sender
          · have hne : sender ≠ sender.peer := by cases sender <;> decide
            subst he
            rw [if_neg hne]
            exact (congrArg (· + quiet e.peer) hkept).trans ((hquiet e).trans hnow.symm)
          · have hpeer : e = sender.peer := by
              cases e <;> cases sender <;> first | rfl | exact absurd rfl he
            subst hpeer
            rw [Endpoint.peer_peer, if_pos rfl]
            exact hreceived.trans hnow.symm

/-- How long an end has sent nothing when both sessions are there. -/
def startSilence (created : Endpoint → Instant) (e : Endpoint) : Duration :=
  max (created .a) (created .b) - created e.peer

/-- **Who must send.** In a schedule whose packets are all accepted, both ends stay alive all
    along, and `cleanup_expired` keeps their sessions, exactly when neither end is ever silent for
    more than `KEEPALIVE_TIMEOUT`. -/
theorem alive_iff_both_send (created : Endpoint → Instant) (sessionId : UInt64)
    (sessionKey : SessionKey) (mimicryProfile : MimicryProfile) (events : List LinkEvent)
    (hacc : (machine A).Always (Accepted A) (new created sessionId sessionKey mimicryProfile)
      events) :
    (∀ pre, pre <+: events → ∀ e,
        Alive ((machine A).final (new created sessionId sessionKey mimicryProfile) pre) e) ↔
      ∀ pre, pre <+: events → ∀ e, silence e (startSilence created e) pre ≤ KEEPALIVE_TIMEOUT := by
  have hquiet : ∀ e, ((new created sessionId sessionKey mimicryProfile).session e).lastKeepalive +
      startSilence created e.peer = (new created sessionId sessionKey mimicryProfile).now := by
    intro e
    simp only [new, Session.new, startSilence, Endpoint.peer_peer]
    cases e with
    | a => exact Nat.add_sub_of_le (Nat.le_max_left _ _)
    | b => exact Nat.add_sub_of_le (Nat.le_max_right _ _)
  have hpre : ∀ pre, pre <+: events → ∀ e,
      (Alive ((machine A).final (new created sessionId sessionKey mimicryProfile) pre) e ↔
        silence e.peer (startSilence created e.peer) pre ≤ KEEPALIVE_TIMEOUT) := by
    rintro pre ⟨post, rfl⟩ e
    have hrun := lastKeepalive_add_silence hquiet pre
      (((machine A).always_append _ _ pre post).mp hacc).1 e
    rw [alive_iff, ← hrun]
    exact Nat.add_le_add_iff_left
  constructor
  · intro h pre hp e
    have halive := (hpre pre hp e.peer).mp (h pre hp e.peer)
    rwa [Endpoint.peer_peer] at halive
  · intro h pre hp e
    exact (hpre pre hp e).mpr (h pre hp e.peer)

/-! ## One end sends -/

section Sample

/-- Session 9, created at both ends at once. -/
def oneWayLink : Link := new (fun _ => 0) 9 ⟨List.Vector.replicate 32 7⟩ .none

/-- A packet of one end every 20 seconds, for 100 seconds. -/
def oneWay : List LinkEvent :=
  [.wait (fromSecs 20), .send .a [0x45] [], .wait (fromSecs 20), .send .a [0x45] [],
    .wait (fromSecs 20), .send .a [0x45] [], .wait (fromSecs 20), .send .a [0x45] [],
    .wait (fromSecs 20)]

/-- A manager of one session. -/
def oneWayManager (session : Session) : SessionManager :=
  ⟨SessionManager.new.sessions.insert 9 session, DEFAULT_SESSION_LIFETIME⟩

theorem alive_iff_eighty_seconds :
    (∀ pre, pre <+: oneWay.take 7 → ∀ e, Alive ((machine sampleAead).final
      (new (fun _ => 0) 9 ⟨List.Vector.replicate 32 7⟩ .none) pre) e) ↔
      ∀ pre, pre <+: oneWay.take 7 → ∀ e,
        silence e (startSilence (fun _ => 0) e) pre ≤ KEEPALIVE_TIMEOUT :=
  alive_iff_both_send (fun _ => 0) 9 ⟨List.Vector.replicate 32 7⟩ .none (oneWay.take 7)
    (by decide +kernel)

/-- The other end never needs a keepalive, and the sender is removed. -/
theorem one_way_times_out :
    (machine sampleAead).Always Prompt oneWayLink oneWay ∧
    (machine sampleAead).Always (Accepted sampleAead) oneWayLink oneWay ∧
    (((machine sampleAead).final oneWayLink oneWay).session .a).isKeepaliveTimeout
      ((machine sampleAead).final oneWayLink oneWay).now = true ∧
    (SessionManager.cleanupExpired (fun _ => (fromSecs 100, fromSecs 100))
      (oneWayManager (((machine sampleAead).final oneWayLink oneWay).session .a))).1 = 1 := by
  decide +kernel

end Sample

end Link

end Llp
