/-
  Which channel a VPN IP leads to, over any run of the handlers.

  A handler that registers its VPN IP takes the address over from whoever has it, and a handler
  that ends takes the address out of the registry, whoever has it by then.

  * `step_moves`: what one event does.
  * `route_kept_iff`: in a run, the latest handler to register an address is the one it leads
    to until it ends, exactly when no other handler of that address ends before it.
  * `replies_routed_iff`: while a client is served, the replies to a packet that it sent come
    to it exactly when the packet has the client's VPN IP as its source, and no handler has
    registered or unregistered that address since.
-/
import Llp.Server.Handlers

namespace Llp.Server
open ByteCodec

namespace Handlers

/-! ## One event -/

/-- What an event does. A step of a handler that is not at that point of `run`, and a packet
    for no registered address, do nothing. -/
inductive Moves (s : Handlers) : Event → Handlers → Prop where
  | spawn (handler : ClientHandler) :
      Moves s (.spawn handler) { s with tasks := s.tasks ++ [⟨handler, .spawned⟩] }
  | start (i : ℕ) (handler : ClientHandler) (h : s.tasks[i]? = some ⟨handler, .spawned⟩) :
      Moves s (.start i) (s.start i handler)
  | serve (i : ℕ) (sendOk : Bool) (handler : ClientHandler) (rx : Sender)
      (sendTask sendTask' : SendTask) (channel channel' : Channel)
      (h : s.tasks[i]? = some ⟨handler, .serving rx sendTask⟩)
      (hchannel : s.channels[rx]? = some channel)
      (hreceiving : channel'.receiving = channel.receiving) :
      Moves s (.recv i sendOk) { s with
        channels := s.channels.set rx channel'
        tasks := s.tasks.set i ⟨handler, .serving rx sendTask'⟩ }
  | close (i : ℕ) (sendOk : Bool) (handler : ClientHandler) (rx : Sender) (sendTask : SendTask)
      (h : s.tasks[i]? = some ⟨handler, .serving rx sendTask⟩) :
      Moves s (.recv i sendOk) (s.close i handler rx)
  | unregister (i : ℕ) (handler : ClientHandler)
      (h : s.tasks[i]? = some ⟨handler, .unregistering⟩) :
      Moves s (.unregister i) (s.unregister i handler)
  | put (e : Event) (tx : Sender) (packet : Bytes) :
      Moves s e { s with channels := (tx.send packet s.channels).2 }
  | idle (e : Event) : Moves s e s

theorem recv_moves (A : ChaCha20Poly1305) {s : Handlers} {i : ℕ} {handler : ClientHandler}
    {rx : Sender} {sendTask : SendTask} (h : s.tasks[i]? = some ⟨handler, .serving rx sendTask⟩)
    (sendOk : Bool) :
    Moves s (.recv i sendOk) (s.recv A i handler rx sendTask sendOk).2 := by
  unfold recv
  split
  · next packet queue receiving hqueue =>
      simp only
      split
      · exact .serve i sendOk handler rx sendTask _ _ _ h hqueue rfl
      · exact .close i sendOk handler rx sendTask h
  · split
    · exact .idle _
    · exact .close i sendOk handler rx sendTask h

theorem step_moves (A : ChaCha20Poly1305) (s : Handlers) (e : Event) :
    Moves s e ((machine A).step s e).2 := by
  show Moves s e (step A s e).2
  cases e with
  | spawn handler => exact .spawn handler
  | start i =>
      unfold step
      simp only
      split
      · next handler h => exact .start i handler h
      · exact .idle _
  | recv i sendOk =>
      unfold step
      simp only
      split
      · next handler rx sendTask h => exact recv_moves A h sendOk
      · exact .idle _
  | unregister i =>
      unfold step
      simp only
      split
      · next handler h => exact .unregister i handler h
      · exact .idle _
  | tun packet =>
      unfold step ClientRegistry.routeToClient
      simp only
      split
      · exact .idle _
      · split
        · next tx _ => exact .put _ tx packet
        · exact .idle _
  | echo vpnIp plaintext =>
      unfold step
      simp only
      split
      · next tx _ => exact .put _ tx plaintext
      · exact .idle _

/-- A task moves to a stage that was not `spawned` before, or no task does. -/
theorem Moves.stage {s s' : Handlers} {e : Event} (h : Moves s e s') {i : ℕ} {t : HandlerTask}
    (ht : s.tasks[i]? = some t) (hspawned : t.stage ≠ .spawned) :
    ∃ t', s'.tasks[i]? = some t' ∧ t'.stage ≠ .spawned ∧
      (t'.stage.registered = true → t.stage.registered = true) ∧
      ∀ rx, t'.stage.rx? = some rx → t.stage.rx? = some rx := by
  have hset : ∀ {j : ℕ} {old new : HandlerTask}, s.tasks[j]? = some old →
      s'.tasks = s.tasks.set j new → (old = t → new.stage ≠ .spawned ∧
        (new.stage.registered = true → t.stage.registered = true) ∧
        ∀ rx, new.stage.rx? = some rx → t.stage.rx? = some rx) →
      ∃ t', s'.tasks[i]? = some t' ∧ t'.stage ≠ .spawned ∧
        (t'.stage.registered = true → t.stage.registered = true) ∧
        ∀ rx, t'.stage.rx? = some rx → t.stage.rx? = some rx := by
    intro j old new hold htasks hnew
    by_cases hij : j = i
    · subst hij
      have hlt := (List.getElem?_eq_some_iff.mp ht).1
      refine ⟨new, by rw [htasks, List.getElem?_set_self hlt], hnew ?_⟩
      rw [hold] at ht
      exact Option.some.inj ht
    · exact ⟨t, by rw [htasks, List.getElem?_set_ne hij, ht], hspawned, id, fun _ => id⟩
  cases h with
  | spawn handler =>
      have hlt := (List.getElem?_eq_some_iff.mp ht).1
      exact ⟨t, (List.getElem?_append_left hlt).trans ht, hspawned, id, fun _ => id⟩
  | start j handler hj => exact hset hj rfl fun heq => absurd (by rw [← heq]) hspawned
  | serve j sendOk handler rx sendTask sendTask' channel channel' hj _ _ =>
      refine hset hj rfl fun heq => ?_
      subst heq
      exact ⟨nofun, id, fun _ => id⟩
  | close j sendOk handler rx sendTask hj =>
      refine hset hj rfl fun heq => ?_
      subst heq
      exact ⟨nofun, id, nofun⟩
  | unregister j handler hj =>
      refine hset hj rfl fun heq => ?_
      subst heq
      exact ⟨nofun, nofun, nofun⟩
  | put e tx packet => exact ⟨t, ht, hspawned, id, fun _ => id⟩
  | idle e => exact ⟨t, ht, hspawned, id, fun _ => id⟩

/-! ## The latest registration of an address -/

/-- A registration: the handler, its VPN IP and its channel. -/
structure Registration where
  task : ℕ
  vpnIp : IpAddr
  channel : Sender
deriving DecidableEq

/-- The registration that an event makes, if any. -/
def registration (s : Handlers) : Event → List Registration
  | .start i =>
      match s.tasks[i]? with
      | some ⟨handler, .spawned⟩ => [⟨i, handler.vpnIp, s.channels.length⟩]
      | _ => []
  | _ => []

section Step

variable (A : ChaCha20Poly1305)

theorem step_start {s : Handlers} {i : ℕ} {handler : ClientHandler}
    (h : s.tasks[i]? = some ⟨handler, .spawned⟩) :
    (machine A).step s (.start i) = (none, s.start i handler) ∧
      registration s (.start i) = [⟨i, handler.vpnIp, s.channels.length⟩] := by
  simp only [machine, step, registration, h, and_self]

theorem step_start_idle {s : Handlers} {i : ℕ}
    (h : ∀ handler, s.tasks[i]? ≠ some ⟨handler, .spawned⟩) :
    (machine A).step s (.start i) = (none, s) ∧ registration s (.start i) = [] := by
  -- the guarded equations of the two matches apply by `h`
  simp only [machine, step, registration, and_self]

theorem step_unregister {s : Handlers} {i : ℕ} {handler : ClientHandler}
    (h : s.tasks[i]? = some ⟨handler, .unregistering⟩) :
    (machine A).step s (.unregister i) = (none, s.unregister i handler) := by
  simp only [machine, step, h]

theorem step_unregister_idle {s : Handlers} {i : ℕ}
    (h : ∀ handler, s.tasks[i]? ≠ some ⟨handler, .unregistering⟩) :
    (machine A).step s (.unregister i) = (none, s) := by
  simp only [machine, step]

theorem lookup_moves {s s' : Handlers} {e : Event} (h : Moves s e s') (ip : IpAddr) :
    s'.clientRegistry.clients.lookup ip = s.clientRegistry.clients.lookup ip ∨
    (∃ i handler, e = .start i ∧ s.tasks[i]? = some ⟨handler, .spawned⟩ ∧ handler.vpnIp = ip ∧
      s'.clientRegistry.clients.lookup ip = some s.channels.length) ∨
    ∃ i handler, e = .unregister i ∧ s.tasks[i]? = some ⟨handler, .unregistering⟩ ∧
      handler.vpnIp = ip ∧ s'.clientRegistry.clients.lookup ip = none := by
  cases h with
  | start i handler hi =>
      by_cases hip : handler.vpnIp = ip
      · refine Or.inr (Or.inl ⟨i, handler, rfl, hi, hip, ?_⟩)
        subst hip
        exact AList.lookup_insert _
      · exact Or.inl (AList.lookup_insert_ne (Ne.symm hip))
  | unregister i handler hi =>
      by_cases hip : handler.vpnIp = ip
      · refine Or.inr (Or.inr ⟨i, handler, rfl, hi, hip, ?_⟩)
        subst hip
        exact AList.lookup_erase _ _
      · exact Or.inl (AList.lookup_erase_ne (Ne.symm hip))
  | _ => exact Or.inl rfl

end Step

/-- The handlers, with their registrations so far, the newest first. -/
structure Logged where
  handlers : Handlers
  registrations : List Registration

namespace Logged

/-- Nothing yet. -/
def new : Logged := ⟨Handlers.new, []⟩

/-- The handlers as a machine that records the registrations. -/
def machine (A : ChaCha20Poly1305) : Machine Logged Event (Option (SocketAddr × Bytes)) where
  step l e := (((Handlers.machine A).step l.handlers e).1,
    ⟨((Handlers.machine A).step l.handlers e).2,
      registration l.handlers e ++ l.registrations⟩)

/-- The records change nothing of a run. -/
theorem machine_handlers (A : ChaCha20Poly1305) (l : Logged) (events : List Event) :
    ((machine A).final l events).handlers = (Handlers.machine A).final l.handlers events := by
  induction events generalizing l with
  | nil => rfl
  | cons e events ih => exact ih _

theorem handlers_step (A : ChaCha20Poly1305) (l : Logged) (e : Event) :
    ((machine A).step l e).2.handlers = ((Handlers.machine A).step l.handlers e).2 := rfl

/-- The latest registration of an address. -/
def latest (l : Logged) (ip : IpAddr) : Option Registration :=
  l.registrations.find? fun r => r.vpnIp = ip

/-- The handler has not ended. -/
def Running (l : Logged) (i : ℕ) : Prop :=
  ∃ t ∈ l.handlers.tasks[i]?, t.stage.registered = true

instance (l : Logged) (i : ℕ) : Decidable (l.Running i) :=
  inferInstanceAs (Decidable (∃ t ∈ l.handlers.tasks[i]?, _))

/-- Every address leads to the channel of the handler that was the latest to register it, until
    that handler has ended. -/
def RouteKept (l : Logged) : Prop :=
  ∀ ip r, l.latest ip = some r → l.Running r.task →
    l.handlers.clientRegistry.clients.lookup ip = some r.channel

/-- No handler unregisters its VPN IP while another one, the latest to register that address,
    has not ended. -/
def Sole (l : Logged) : Event → Prop
  | .unregister i => ∀ t ∈ l.handlers.tasks[i]?, t.stage = .unregistering →
      ∀ r ∈ l.latest t.handler.vpnIp, r.task ≠ i → ¬ l.Running r.task
  | _ => True

/-- A registered handler is past its start, and serves the channel that it registered. -/
def Tracked (l : Logged) : Prop :=
  ∀ r ∈ l.registrations, ∃ t, l.handlers.tasks[r.task]? = some t ∧ t.stage ≠ .spawned ∧
    ∀ rx, t.stage.rx? = some rx → rx = r.channel

section Step

variable (A : ChaCha20Poly1305)

/-- A handler that was registered, and has not ended after an event, had not ended before it. -/
theorem running_of_step {l : Logged} (hl : Tracked l) (e : Event) {r : Registration}
    (hr : r ∈ l.registrations) (h : ((machine A).step l e).2.Running r.task) :
    l.Running r.task := by
  obtain ⟨t, ht, hspawned, -⟩ := hl r hr
  obtain ⟨t', ht', -, hreg, -⟩ := (step_moves A l.handlers e).stage ht hspawned
  obtain ⟨u, hu, hureg⟩ := h
  have heq : u = t' := Option.some.inj (hu.symm.trans ht')
  exact ⟨t, ht, hreg (heq ▸ hureg)⟩

theorem tracked_step {l : Logged} (hl : Tracked l) (e : Event) :
    Tracked ((machine A).step l e).2 := by
  intro r hr
  rcases List.mem_append.mp hr with hr | hr
  · cases e with
    | start i =>
        by_cases h : ∃ handler, l.handlers.tasks[i]? = some ⟨handler, .spawned⟩
        · obtain ⟨handler, h⟩ := h
          obtain ⟨hstep, hreg⟩ := step_start A h
          rw [hreg, List.mem_singleton] at hr
          subst hr
          have hlt := (List.getElem?_eq_some_iff.mp h).1
          refine ⟨⟨handler, .serving l.handlers.channels.length SendTask.new⟩, ?_, nofun, ?_⟩
          · rw [handlers_step, hstep]
            exact List.getElem?_set_self hlt
          · intro rx hrx
            exact (Option.some.inj hrx).symm
        · rw [(step_start_idle A (not_exists.mp h)).2] at hr
          cases hr
    | spawn _ | recv _ _ | unregister _ | tun _ | echo _ _ => cases hr
  · obtain ⟨t, ht, hspawned, hrx⟩ := hl r hr
    obtain ⟨t', ht', hspawned', -, hrx'⟩ := (step_moves A l.handlers e).stage ht hspawned
    exact ⟨t', ht', hspawned', fun rx h => hrx rx (hrx' rx h)⟩

/-- An event that registers nothing keeps the routes of the addresses that it leaves alone. -/
theorem RouteKept.frame {l : Logged} (h : RouteKept l) (hl : Tracked l) {e : Event}
    (hnone : registration l.handlers e = [])
    (hlookup : ∀ ip r, l.latest ip = some r → ((machine A).step l e).2.Running r.task →
      ((machine A).step l e).2.handlers.clientRegistry.clients.lookup ip =
        l.handlers.clientRegistry.clients.lookup ip) :
    RouteKept ((machine A).step l e).2 := by
  intro ip r hr hrunning
  have hold : l.latest ip = some r := by
    have hregs : ((machine A).step l e).2.registrations = l.registrations := by
      show registration l.handlers e ++ l.registrations = _
      rw [hnone, List.nil_append]
    rw [← hr, latest, latest, hregs]
  rw [hlookup ip r hold hrunning]
  exact h ip r hold (running_of_step A hl e (List.mem_of_find?_eq_some hold) hrunning)

end Step

section Kept

variable (A : ChaCha20Poly1305)

theorem lookup_step {s : Handlers} {e : Event} (hstart : ∀ i, e ≠ .start i)
    (hunregister : ∀ i, e ≠ .unregister i) (ip : IpAddr) :
    ((Handlers.machine A).step s e).2.clientRegistry.clients.lookup ip =
      s.clientRegistry.clients.lookup ip := by
  rcases lookup_moves (step_moves A s e) ip with h | ⟨i, _, he, -⟩ | ⟨i, _, he, -⟩
  · exact h
  · exact absurd he (hstart i)
  · exact absurd he (hunregister i)

/-- A registration takes its address over, and no other. -/
theorem RouteKept.start {l : Logged} (h : RouteKept l) (hl : Tracked l) {i : ℕ}
    {handler : ClientHandler} (ht : l.handlers.tasks[i]? = some ⟨handler, .spawned⟩) :
    RouteKept ((machine A).step l (.start i)).2 := by
  obtain ⟨hstep, hreg⟩ := step_start A ht
  intro ip r hr hrunning
  have hregs : ((machine A).step l (.start i)).2.registrations =
      ⟨i, handler.vpnIp, l.handlers.channels.length⟩ :: l.registrations := by
    show registration l.handlers (.start i) ++ l.registrations = _
    rw [hreg]
    rfl
  have hclients : ((machine A).step l (.start i)).2.handlers.clientRegistry.clients =
      l.handlers.clientRegistry.clients.insert handler.vpnIp l.handlers.channels.length := by
    rw [handlers_step, hstep]
    rfl
  rw [latest, hregs, List.find?_cons] at hr
  rw [hclients]
  by_cases hip : handler.vpnIp = ip
  · simp only [hip, decide_true] at hr
    cases hr
    rw [hip, AList.lookup_insert]
  · simp only [hip, decide_false] at hr
    rw [AList.lookup_insert_ne (Ne.symm hip)]
    exact h ip r hr (running_of_step A hl _ (List.mem_of_find?_eq_some hr) hrunning)

theorem RouteKept.unregister {l : Logged} (h : RouteKept l) (hl : Tracked l) {i : ℕ}
    {handler : ClientHandler} (ht : l.handlers.tasks[i]? = some ⟨handler, .unregistering⟩)
    (hsole : Sole l (.unregister i)) : RouteKept ((machine A).step l (.unregister i)).2 := by
  have hstep := step_unregister A ht
  have hclients : ((machine A).step l (.unregister i)).2.handlers.clientRegistry.clients =
      l.handlers.clientRegistry.clients.erase handler.vpnIp := by
    rw [handlers_step, hstep]
    rfl
  refine h.frame A hl rfl fun ip r hr hrunning => ?_
  rw [hclients]
  by_cases hip : ip = handler.vpnIp
  · exfalso
    subst hip
    have hold := running_of_step A hl _ (List.mem_of_find?_eq_some hr) hrunning
    by_cases hself : r.task = i
    · -- the handler itself has ended
      obtain ⟨u, hu, hureg⟩ := hrunning
      have hlt := (List.getElem?_eq_some_iff.mp ht).1
      have hended : ((machine A).step l (.unregister i)).2.handlers.tasks[i]? =
          some ⟨handler, .finished⟩ := by
        rw [handlers_step, hstep]
        exact List.getElem?_set_self hlt
      rw [hself, hended] at hu
      cases hu
      cases hureg
    · exact hsole _ ht rfl r hr hself hold
  · exact AList.lookup_erase_ne hip

/-- An event that is not such an unregistration keeps the routes. -/
theorem routeKept_step (l : Logged) (e : Event) (h : Tracked l ∧ RouteKept l) (hsole : Sole l e) :
    Tracked ((machine A).step l e).2 ∧ RouteKept ((machine A).step l e).2 := by
  obtain ⟨hl, h⟩ := h
  refine ⟨tracked_step A hl e, ?_⟩
  cases e with
  | start i =>
      by_cases ht : ∃ handler, l.handlers.tasks[i]? = some ⟨handler, .spawned⟩
      · obtain ⟨handler, ht⟩ := ht
        exact h.start A hl ht
      · obtain ⟨hstep, hnone⟩ := step_start_idle A (not_exists.mp ht)
        exact h.frame A hl hnone fun ip r _ _ => by
          rw [handlers_step, hstep]
  | unregister i =>
      by_cases ht : ∃ handler, l.handlers.tasks[i]? = some ⟨handler, .unregistering⟩
      · obtain ⟨handler, ht⟩ := ht
        exact h.unregister A hl ht hsole
      · refine h.frame A hl rfl fun ip r _ _ => ?_
        rw [handlers_step, step_unregister_idle A (not_exists.mp ht)]
  | spawn _ | recv _ _ | tun _ | echo _ _ =>
      exact h.frame A hl rfl fun ip r _ _ =>
        lookup_step A (fun _ h => by cases h) (fun _ h => by cases h) ip

/-- What it leads to is the channel that the handler serves. -/
theorem serving_routed {l : Logged} (h : Tracked l ∧ RouteKept l) {ip : IpAddr}
    {r : Registration} (hr : l.latest ip = some r) {t : HandlerTask}
    (ht : l.handlers.tasks[r.task]? = some t) {rx : Sender} (hrx : t.stage.rx? = some rx) :
    l.handlers.clientRegistry.clients.lookup ip = some rx := by
  obtain ⟨t', ht', -, hchannel⟩ := h.1 r (List.mem_of_find?_eq_some hr)
  have heq : t = t' := Option.some.inj (ht.symm.trans ht')
  rw [h.2 ip r hr ⟨t, ht, registered_of_rx hrx⟩, hchannel rx (heq ▸ hrx)]

/-- One that is takes the route of a handler that has not ended. -/
theorem route_lost (l : Logged) (e : Event) (hsole : ¬ Sole l e) :
    ¬ RouteKept ((machine A).step l e).2 := by
  intro hkept
  apply hsole
  cases e with
  | unregister i =>
      intro t ht hstage r hr hother hrunning
      obtain ⟨handler, stage⟩ := t
      cases hstage
      have hstep := step_unregister A ht
      have hlatest : ((machine A).step l (.unregister i)).2.latest handler.vpnIp = some r := hr
      have hstill : ((machine A).step l (.unregister i)).2.Running r.task := by
        obtain ⟨u, hu, hureg⟩ := hrunning
        refine ⟨u, ?_, hureg⟩
        rw [handlers_step, hstep]
        exact (List.getElem?_set_ne (Ne.symm hother)).trans hu
      have hlookup := hkept _ r hlatest hstill
      have hnone : ((machine A).step l (.unregister i)).2.handlers.clientRegistry.clients.lookup
          handler.vpnIp = none := by
        rw [handlers_step, hstep]
        exact AList.lookup_erase _ _
      rw [hnone] at hlookup
      cases hlookup
  | spawn _ | start _ | recv _ _ | tun _ | echo _ _ => trivial

/-- **Routes and their handlers.** All along a run, every address leads to the channel of the
    handler that was the latest to register it, until that handler has ended, exactly when no
    handler unregisters its VPN IP while another one, the latest to register it, has not
    ended. -/
theorem route_kept_iff (events : List Event) :
    (∀ pre, pre <+: events → RouteKept ((machine A).final new pre)) ↔
      (machine A).Always Sole new events := by
  have hstart : Tracked new ∧ RouteKept new :=
    ⟨fun r hr => (List.not_mem_nil hr).elim, fun ip r hr => by cases hr⟩
  exact (machine A).holds_iff_always (fun _ h => h.2) (routeKept_step A)
    (fun l e _ => route_lost A l e) new events hstart

end Kept

section Sample

/-- The session ids 0 and 253 share `10.8.0.2`: the handler of the first is replaced in the
    registry, ends, and takes the route of the second with it. -/
theorem finished_handler_takes_route :
    let l := (machine (tableAead [])).final new
      (sampleEvents 0 253 ++ [.recv 0 true, .unregister 0])
    l.handlers.tasks =
        [⟨sampleHandler 0, .finished⟩, ⟨sampleHandler 253, .serving 1 SendTask.new⟩] ∧
      l.latest (sampleHandler 253).vpnIp = some ⟨1, (sampleHandler 253).vpnIp, 1⟩ ∧
      l.handlers.clientRegistry.clients.lookup (sampleHandler 253).vpnIp = none ∧
      ¬ RouteKept l := by
  intro l
  have hlatest : l.latest (sampleHandler 253).vpnIp = some ⟨1, (sampleHandler 253).vpnIp, 1⟩ := by
    decide
  have hnone : l.handlers.clientRegistry.clients.lookup (sampleHandler 253).vpnIp = none := by
    decide
  refine ⟨by decide, hlatest, hnone, fun hkept => ?_⟩
  have hlookup := hkept _ _ hlatest (by decide)
  rw [hnone] at hlookup
  cases hlookup

end Sample

end Logged

/-! ## The replies to a client -/

/-- The handler serves the channel. -/
def Serves (s : Handlers) (i : ℕ) (rx : Sender) : Prop :=
  ∃ t, s.tasks[i]? = some t ∧ t.stage.rx? = some rx

theorem Serves.of_set {s s' : Handlers} {i j : ℕ} {t' : HandlerTask} {rx : Sender}
    (htasks : s'.tasks = s.tasks.set i t') (h : Serves s' j rx) :
    (j = i ∧ t'.stage.rx? = some rx) ∨ (j ≠ i ∧ Serves s j rx) := by
  obtain ⟨t, ht, hrx⟩ := h
  rw [htasks] at ht
  rcases List.getElem?_set_cases ht with ⟨hji, rfl⟩ | ⟨hji, hold⟩
  · exact Or.inl ⟨hji, hrx⟩
  · exact Or.inr ⟨hji, t, hold, hrx⟩

/-- The channel has its receiver. -/
def Receiving (s : Handlers) (rx : Sender) : Prop :=
  ∃ channel, s.channels[rx]? = some channel ∧ channel.receiving = true

theorem Receiving.lt {s : Handlers} {rx : Sender} (h : Receiving s rx) :
    rx < s.channels.length := by
  obtain ⟨channel, hchannel, -⟩ := h
  exact (List.getElem?_eq_some_iff.mp hchannel).1

/-- Every serving handler has its receiver, and no other serving handler has it; the registry
    holds senders of existing channels. -/
structure Connected (s : Handlers) : Prop where
  receivers : ∀ i rx, Serves s i rx → Receiving s rx
  distinct : ∀ i j rx, Serves s i rx → Serves s j rx → i = j
  senders : ∀ ip tx, s.clientRegistry.clients.lookup ip = some tx → tx < s.channels.length

/-- No handler gets a channel: the invariant stays if the channels of those that serve keep
    their receivers. -/
theorem Connected.frame {s s' : Handlers} (h : Connected s)
    (hserves : ∀ i rx, Serves s' i rx → Serves s i rx)
    (hreceiving : ∀ i rx, Serves s' i rx → Receiving s rx → Receiving s' rx)
    (hlength : s.channels.length ≤ s'.channels.length)
    (hlookup : ∀ ip tx, s'.clientRegistry.clients.lookup ip = some tx →
      s.clientRegistry.clients.lookup ip = some tx) : Connected s' where
  receivers i rx hi := hreceiving i rx hi (h.receivers i rx (hserves i rx hi))
  distinct i j rx hi hj := h.distinct i j rx (hserves i rx hi) (hserves j rx hj)
  senders ip tx hl := Nat.lt_of_lt_of_le (h.senders ip tx (hlookup ip tx hl)) hlength

theorem Connected.start {s : Handlers} (h : Connected s) {i : ℕ} {handler : ClientHandler} :
    Connected (s.start i handler) := by
  have hlt : ∀ {j rx}, Serves s j rx → rx < s.channels.length := fun hj => (h.receivers _ _ hj).lt
  have hlength : (s.start i handler).channels.length = s.channels.length + 1 := by
    simp [Handlers.start]
  constructor
  · intro j rx hj
    rcases hj.of_set rfl with ⟨-, hrx⟩ | ⟨-, hj⟩
    · cases hrx
      exact ⟨⟨[], true⟩, List.getElem?_concat_length, rfl⟩
    · obtain ⟨channel, hchannel, hreceiving⟩ := h.receivers j rx hj
      exact ⟨channel, (List.getElem?_append_left (hlt hj)).trans hchannel, hreceiving⟩
  · intro j k rx hj hk
    rcases hj.of_set rfl with ⟨hji, hrx⟩ | ⟨-, hold⟩
    · rcases hk.of_set rfl with ⟨hki, -⟩ | ⟨-, hold⟩
      · rw [hji, hki]
      · cases hrx
        exact absurd (hlt hold) (lt_irrefl _)
    · rcases hk.of_set rfl with ⟨-, hrx⟩ | ⟨-, hold'⟩
      · cases hrx
        exact absurd (hlt hold) (lt_irrefl _)
      · exact h.distinct j k rx hold hold'
  · intro ip tx hl
    rw [hlength]
    by_cases hip : ip = handler.vpnIp
    · subst hip
      have hnew : (s.start i handler).clientRegistry.clients.lookup handler.vpnIp =
          some s.channels.length := AList.lookup_insert _
      rw [hnew] at hl
      cases hl
      exact Nat.lt_succ_self _
    · have hold : (s.start i handler).clientRegistry.clients.lookup ip =
          s.clientRegistry.clients.lookup ip := AList.lookup_insert_ne hip
      exact Nat.lt_succ_of_lt (h.senders ip tx (hold.symm.trans hl))

theorem Receiving.set {s s' : Handlers} {rx rx' : Sender} {channel' : Channel}
    (h : Receiving s rx) (hchannels : s'.channels = s.channels.set rx' channel')
    (hsame : rx = rx' → channel'.receiving = true) : Receiving s' rx := by
  obtain ⟨channel, hchannel, hreceiving⟩ := h
  unfold Receiving
  rw [hchannels]
  by_cases hrx : rx = rx'
  · subst hrx
    exact ⟨channel', List.getElem?_set_self (List.getElem?_eq_some_iff.mp hchannel).1,
      hsame rfl⟩
  · exact ⟨channel, (List.getElem?_set_ne (Ne.symm hrx)).trans hchannel, hreceiving⟩

theorem Receiving.send {s : Handlers} {rx : Sender} (h : Receiving s rx) (tx : Sender)
    (packet : Bytes) : Receiving { s with channels := (tx.send packet s.channels).2 } rx := by
  obtain ⟨channel, hchannel, hreceiving⟩ := h
  by_cases htx : rx = tx
  · subst htx
    exact ⟨_, send_receiving hchannel hreceiving packet, hreceiving⟩
  · exact ⟨channel, (send_other htx packet s.channels).trans hchannel, hreceiving⟩

/-- Every event keeps the invariant. -/
theorem Connected.moves {s s' : Handlers} {e : Event} (h : Connected s) (hmoves : Moves s e s') :
    Connected s' := by
  cases hmoves with
  | spawn handler =>
      refine h.frame ?_ (fun _ _ _ hr => hr) (Nat.le_refl _) fun _ _ hl => hl
      rintro i rx ⟨t, ht, hrx⟩
      rcases List.getElem?_snoc_cases ht with ht | rfl
      · exact ⟨t, ht, hrx⟩
      · cases hrx
  | start i handler hi => exact h.start
  | serve i sendOk handler rx sendTask sendTask' channel channel' hi hchannel hreceiving =>
      refine h.frame ?_ ?_ (by rw [List.length_set]) fun _ _ hl => hl
      · intro j rx' hj
        rcases hj.of_set rfl with ⟨rfl, hrx⟩ | ⟨-, hj⟩
        · exact ⟨_, hi, hrx⟩
        · exact hj
      · intro j rx' _ hr
        refine hr.set rfl fun heq => ?_
        obtain ⟨channel₀, hchannel₀, hreceiving₀⟩ := hr
        subst heq
        rw [hchannel] at hchannel₀
        cases hchannel₀
        rw [hreceiving, hreceiving₀]
  | close i sendOk handler rx sendTask hi =>
      have hserves : ∀ j rx', Serves (s.close i handler rx) j rx' → j ≠ i ∧ Serves s j rx' := by
        intro j rx' hj
        rcases hj.of_set rfl with ⟨-, hrx⟩ | hj
        · cases hrx
        · exact hj
      refine h.frame (fun j rx' hj => (hserves j rx' hj).2) ?_
        (by simp [Handlers.close]) fun _ _ hl => hl
      intro j rx' hj hr
      obtain ⟨hne, hold⟩ := hserves j rx' hj
      refine hr.set rfl fun heq => ?_
      subst heq
      exact absurd (h.distinct j i _ hold ⟨_, hi, rfl⟩) hne
  | unregister i handler hi =>
      refine h.frame ?_ (fun _ _ _ hr => hr) (Nat.le_refl _) ?_
      · intro j rx hj
        rcases hj.of_set rfl with ⟨-, hrx⟩ | ⟨-, hold⟩
        · cases hrx
        · exact hold
      · intro ip tx hl
        by_cases hip : ip = handler.vpnIp
        · subst hip
          have hnone : (s.unregister i handler).clientRegistry.clients.lookup handler.vpnIp =
              none := AList.lookup_erase _ _
          rw [hnone] at hl
          cases hl
        · have hsame : (s.unregister i handler).clientRegistry.clients.lookup ip =
              s.clientRegistry.clients.lookup ip := AList.lookup_erase_ne hip
          exact hsame.symm.trans hl
  | put e tx packet =>
      refine h.frame (fun _ _ hj => hj) (fun _ _ _ hr => hr.send tx packet) ?_ fun _ _ hl => hl
      exact Nat.le_of_eq (send_length tx packet s.channels).symm
  | idle e => exact h

theorem connected_new : Connected new where
  receivers i rx hi := by
    obtain ⟨t, ht, -⟩ := hi
    simp [new] at ht
  distinct i j rx hi := by
    obtain ⟨t, ht, -⟩ := hi
    simp [new] at ht
  senders ip tx hl := by cases hl

/-- The packet is put on the channel, and on no other. -/
def Delivered (s : Handlers) (packet : Bytes) (rx : Sender) : Prop :=
  (∃ channel, s.channels[rx]? = some channel ∧
    (s.clientRegistry.routeToClient packet s.channels)[rx]? =
      some { channel with queue := channel.queue ++ [packet] }) ∧
  ∀ c, c ≠ rx → (s.clientRegistry.routeToClient packet s.channels)[c]? = s.channels[c]?

/-- The packets for an address are put on the channel of a serving handler exactly when the
    address leads to it. -/
theorem delivered_iff {s : Handlers} (h : Connected s) {i : ℕ} {rx : Sender}
    (hi : Serves s i rx) (a b c d : UInt8) :
    (∀ packet, extractDstIp packet = some (.v4 a b c d) → Delivered s packet rx) ↔
      s.clientRegistry.clients.lookup (.v4 a b c d) = some rx := by
  obtain ⟨channel, hchannel, hreceiving⟩ := h.receivers i rx hi
  constructor
  · intro hall
    obtain ⟨⟨channel', hchannel', hput⟩, -⟩ := hall _ (extractDstIp_ipv4To a b c d)
    by_contra hno
    have hsame : (s.clientRegistry.routeToClient (ipv4To a b c d) s.channels)[rx]? =
        s.channels[rx]? := by
      cases hl : s.clientRegistry.clients.lookup (.v4 a b c d) with
      | none => simp only [ClientRegistry.routeToClient, extractDstIp_ipv4To, hl]
      | some tx =>
          refine ClientRegistry.routeToClient_other (extractDstIp_ipv4To a b c d) hl fun heq => ?_
          exact hno (heq ▸ hl)
    rw [hput, hchannel'] at hsame
    have hqueue := congrArg Channel.queue (Option.some.inj hsame)
    exact List.cons_ne_nil _ _ (List.append_right_eq_self.mp hqueue)
  · intro hl packet hdst
    exact ⟨⟨channel, hchannel, ClientRegistry.routeToClient_registered hdst hl hchannel hreceiving⟩,
      fun c hc => ClientRegistry.routeToClient_other hdst hl hc⟩

/-! ## A client from its registration on -/

/-- The event registers or unregisters the address. -/
def Touches (ip : IpAddr) (s : Handlers) : Event → Prop
  | .start i => ∃ handler, s.tasks[i]? = some ⟨handler, .spawned⟩ ∧ handler.vpnIp = ip
  | .unregister i => ∃ handler, s.tasks[i]? = some ⟨handler, .unregistering⟩ ∧ handler.vpnIp = ip
  | _ => False

/-- Handler `i` has registered the channel `rx` under the address, and under no other. -/
structure Owned (i : ℕ) (ip : IpAddr) (rx : Sender) (s : Handlers) : Prop where
  connected : Connected s
  created : rx < s.channels.length
  other : ∀ a, a ≠ ip → s.clientRegistry.clients.lookup a ≠ some rx
  task : ∃ t, s.tasks[i]? = some t ∧ t.stage ≠ .spawned ∧ ∀ rx', t.stage.rx? = some rx' → rx' = rx

theorem Moves.channels_length {s s' : Handlers} {e : Event} (h : Moves s e s') :
    s.channels.length ≤ s'.channels.length := by
  cases h with
  | spawn _ | unregister _ _ _ | idle _ => exact Nat.le_refl _
  | start i handler hi => simp [Handlers.start]
  | serve _ _ _ _ _ _ _ _ _ _ _ => simp
  | close _ _ _ _ _ _ => simp [Handlers.close]
  | put e tx packet => exact Nat.le_of_eq (send_length tx packet s.channels).symm

/-- A channel that an address does not lead to is not registered under it later. -/
theorem Moves.lookup_ne {s s' : Handlers} {e : Event} (h : Moves s e s') {rx : Sender}
    (hrx : rx < s.channels.length) {a : IpAddr}
    (hne : s.clientRegistry.clients.lookup a ≠ some rx) :
    s'.clientRegistry.clients.lookup a ≠ some rx := by
  rcases lookup_moves h a with hsame | ⟨i, handler, -, -, -, hnew⟩ | ⟨i, handler, -, -, -, hnone⟩
  · rwa [hsame]
  · rw [hnew]
    intro heq
    exact absurd (Option.some.inj heq) (Nat.ne_of_gt hrx)
  · rw [hnone]
    exact nofun

theorem Owned.moves {i : ℕ} {ip : IpAddr} {rx : Sender} {s s' : Handlers} {e : Event}
    (h : Owned i ip rx s) (hmoves : Moves s e s') : Owned i ip rx s' where
  connected := h.connected.moves hmoves
  created := Nat.lt_of_lt_of_le h.created hmoves.channels_length
  other a ha := hmoves.lookup_ne h.created (h.other a ha)
  task := by
    obtain ⟨t, ht, hspawned, hrx⟩ := h.task
    obtain ⟨t', ht', hspawned', -, hrx'⟩ := hmoves.stage ht hspawned
    exact ⟨t', ht', hspawned', fun rx' h' => hrx rx' (hrx' rx' h')⟩

theorem Owned.start {s : Handlers} (h : Connected s) {i : ℕ} {handler : ClientHandler}
    (hi : s.tasks[i]? = some ⟨handler, .spawned⟩) :
    Owned i handler.vpnIp s.channels.length (s.start i handler) where
  connected := h.start
  created := by simp [Handlers.start]
  other a ha hl := by
    have hold : (s.start i handler).clientRegistry.clients.lookup a =
        s.clientRegistry.clients.lookup a := AList.lookup_insert_ne ha
    exact absurd (h.senders a _ (hold.symm.trans hl)) (lt_irrefl _)
  task := by
    have hlt := (List.getElem?_eq_some_iff.mp hi).1
    refine ⟨_, List.getElem?_set_self hlt, nofun, fun rx' hrx' => ?_⟩
    exact (Option.some.inj hrx').symm

/-- A handler that serves after an event served before it, or has just registered a new channel. -/
theorem Moves.serves {s s' : Handlers} {e : Event} (h : Moves s e s') {i : ℕ} {t : HandlerTask}
    {rx : Sender} (ht : s'.tasks[i]? = some t) (hrx : t.stage.rx? = some rx) :
    (∃ t₀, s.tasks[i]? = some t₀ ∧ t₀.handler = t.handler ∧ t₀.stage.rx? = some rx) ∨
      (e = .start i ∧ s.tasks[i]? = some ⟨t.handler, .spawned⟩ ∧ rx = s.channels.length) := by
  have hset : ∀ {j : ℕ} {old new : HandlerTask}, s.tasks[j]? = some old →
      s'.tasks = s.tasks.set j new → (j = i ∧ t = new ∧ s.tasks[i]? = some old) ∨
        (∃ t₀, s.tasks[i]? = some t₀ ∧ t₀.handler = t.handler ∧ t₀.stage.rx? = some rx) := by
    intro j old new hold htasks
    rw [htasks] at ht
    rcases List.getElem?_set_cases ht with ⟨rfl, rfl⟩ | ⟨-, hkept⟩
    · exact Or.inl ⟨rfl, rfl, hold⟩
    · exact Or.inr ⟨t, hkept, rfl, hrx⟩
  cases h with
  | spawn handler =>
      rcases List.getElem?_snoc_cases ht with ht | rfl
      · exact Or.inl ⟨t, ht, rfl, hrx⟩
      · cases hrx
  | start j handler hj =>
      rcases hset hj rfl with ⟨rfl, rfl, hold⟩ | hold
      · exact Or.inr ⟨rfl, hold, (Option.some.inj hrx).symm⟩
      · exact Or.inl hold
  | serve j sendOk handler rx' sendTask sendTask' channel channel' hj _ _ =>
      rcases hset hj rfl with ⟨rfl, rfl, hold⟩ | hold
      · exact Or.inl ⟨_, hold, rfl, hrx⟩
      · exact Or.inl hold
  | close j sendOk handler rx' sendTask hj =>
      rcases hset hj rfl with ⟨rfl, rfl, -⟩ | hold
      · cases hrx
      · exact Or.inl hold
  | unregister j handler hj =>
      rcases hset hj rfl with ⟨rfl, rfl, -⟩ | hold
      · cases hrx
      · exact Or.inl hold
  | put e tx packet => exact Or.inl ⟨t, ht, rfl, hrx⟩
  | idle e => exact Or.inl ⟨t, ht, rfl, hrx⟩

section Replies

variable (A : ChaCha20Poly1305)

/-- The address leads to the channel after a run exactly when no event of it registers or
    unregisters the address. -/
theorem owned_lookup_iff {i : ℕ} {ip : IpAddr} {rx : Sender} {s : Handlers} (h : Owned i ip rx s)
    (hl : s.clientRegistry.clients.lookup ip = some rx) (events : List Event) :
    ((machine A).final s events).clientRegistry.clients.lookup ip = some rx ↔
      (machine A).Always (fun s e => ¬ Touches ip s e) s events := by
  refine (machine A).final_iff_always
    (I := Owned i ip rx) (K := fun s => s.clientRegistry.clients.lookup ip = some rx)
    (fun s e h => h.moves (step_moves A s e)) ?_ ?_
    (fun s e h => (step_moves A s e).lookup_ne h.created) s events h hl
  · intro s e _ hquiet hl
    rcases lookup_moves (step_moves A s e) ip with hsame | ⟨j, handler, rfl, hj, hip, -⟩ |
      ⟨j, handler, rfl, hj, hip, -⟩
    · rw [hsame, hl]
    · exact absurd ⟨handler, hj, hip⟩ hquiet
    · exact absurd ⟨handler, hj, hip⟩ hquiet
  · intro s e h hloud hl
    refine hloud fun htouch => ?_
    cases e with
    | start j =>
        obtain ⟨handler, hj, hip⟩ := htouch
        have hnew : ((machine A).step s (.start j)).2.clientRegistry.clients.lookup ip =
            some s.channels.length := by
          rw [(step_start A hj).1, ← hip]
          exact AList.lookup_insert _
        exact absurd (Option.some.inj (hnew.symm.trans hl)) (Nat.ne_of_gt h.created)
    | unregister j =>
        obtain ⟨handler, hj, hip⟩ := htouch
        have hnone : ((machine A).step s (.unregister j)).2.clientRegistry.clients.lookup ip =
            none := by
          rw [step_unregister A hj, ← hip]
          exact AList.lookup_erase _ _
        cases hnone.symm.trans hl
    | spawn _ | recv _ _ | tun _ | echo _ _ => exact htouch

theorem connected_final (s : Handlers) (events : List Event) (h : Connected s) :
    Connected ((machine A).final s events) :=
  (machine A).final_invariant (P := fun _ _ => True)
    (fun s e h _ => h.moves (step_moves A s e)) s events h ((machine A).always_true s events)

/-- A serving handler has registered at some point of the run. -/
theorem exists_start (events : List Event) {i : ℕ} {t : HandlerTask} {rx : Sender}
    (ht : ((machine A).final new events).tasks[i]? = some t) (hrx : t.stage.rx? = some rx) :
    ∃ before after, events = before ++ .start i :: after ∧
      ((machine A).final new before).tasks[i]? = some ⟨t.handler, .spawned⟩ := by
  induction events using List.reverseRecOn generalizing t with
  | nil => simp [Machine.final, new] at ht
  | append_singleton events e ih =>
      rw [Machine.final_snoc] at ht
      rcases (step_moves A _ e).serves ht hrx with
        ⟨t₀, ht₀, hhandler, hrx₀⟩ | ⟨rfl, hspawned, -⟩
      · obtain ⟨before, after, rfl, hspawned⟩ := ih ht₀ hrx₀
        exact ⟨before, after ++ [e], by simp, hhandler ▸ hspawned⟩
      · exact ⟨events, [], rfl, hspawned⟩

/-- **Replies.** A client is served at the end of a run, on the channel that it registered in
    the run. The replies to a packet that it sent are put on that channel, and on no other,
    exactly when the packet has the client's VPN IP as its source, and no event since the
    registration has registered or unregistered that address. -/
theorem replies_routed_iff (before after : List Event) {i : ℕ} {handler : ClientHandler}
    {rx : Sender} {sendTask : SendTask}
    (hspawned : ((machine A).final new before).tasks[i]? = some ⟨handler, .spawned⟩)
    (hserving : ((machine A).final new (before ++ .start i :: after)).tasks[i]? =
      some ⟨handler, .serving rx sendTask⟩)
    {packet : Bytes} {src : IpAddr} (hsrc : extractSrcIp packet = some src) :
    (∀ reply, extractDstIp reply = some src →
        Delivered ((machine A).final new (before ++ .start i :: after)) reply rx) ↔
      src = handler.vpnIp ∧ (machine A).Always (fun s e => ¬ Touches handler.vpnIp s e)
        ((machine A).final new (before ++ [.start i])) after := by
  have hfirst : (machine A).final new (before ++ [.start i]) =
      ((machine A).final new before).start i handler := by
    rw [Machine.final_snoc, (step_start A hspawned).1]
  have hlast : (machine A).final new (before ++ .start i :: after) =
      (machine A).final (((machine A).final new before).start i handler) after := by
    rw [← hfirst, ← Machine.final_append, List.append_assoc]
    rfl
  have hstart := Owned.start (connected_final A new before connected_new) hspawned
  have howned := (machine A).final_invariant (P := fun _ _ => True)
    (fun s e h _ => Owned.moves h (step_moves A s e)) _ after hstart
    ((machine A).always_true _ after)
  -- the channel is the one of the registration
  have hrx : rx = ((machine A).final new before).channels.length := by
    obtain ⟨t, ht, -, hchannel⟩ := howned.task
    rw [hlast] at hserving
    rw [hserving] at ht
    cases ht
    exact hchannel rx rfl
  have hlookup := owned_lookup_iff A hstart (AList.lookup_insert _) after
  have hserves : Serves ((machine A).final new (before ++ .start i :: after)) i rx :=
    ⟨_, hserving, rfl⟩
  obtain ⟨a, b, c, d, rfl⟩ := extractSrcIp_v4 hsrc
  rw [hfirst, ← hlookup]
  rw [delivered_iff (hlast ▸ howned.connected) hserves, hlast, hrx]
  constructor
  · intro hl
    have hip : IpAddr.v4 a b c d = handler.vpnIp := by
      by_contra hne
      exact howned.other _ hne hl
    exact ⟨hip, hip ▸ hl⟩
  · rintro ⟨hip, hl⟩
    rw [hip, hl]

end Replies

section Sample

/-- A packet of the client that was told to use `10.8.0.2`. -/
def samplePacket : Bytes := 0x45 :: List.replicate 11 0 ++ [10, 8, 0, 2, 1, 1, 1, 1]

/-- The client of session 5 is served, at `10.8.0.7`. -/
theorem replies_routed_iff_sample :
    (∀ reply, extractDstIp reply = some (.v4 10 8 0 2) →
        Delivered ((machine (tableAead [])).final new
          ([.spawn (sampleHandler 5)] ++ .start 0 :: [])) reply 0) ↔
      .v4 10 8 0 2 = (sampleHandler 5).vpnIp ∧
        (machine (tableAead [])).Always (fun s e => ¬ Touches (sampleHandler 5).vpnIp s e)
          ((machine (tableAead [])).final new ([.spawn (sampleHandler 5)] ++ [.start 0])) [] :=
  have hserving : ((machine (tableAead [])).final new
      ([.spawn (sampleHandler 5)] ++ .start 0 :: [])).tasks[0]? =
        some ⟨sampleHandler 5, .serving 0 SendTask.new⟩ := rfl
  have hsrc : extractSrcIp samplePacket = some (.v4 10 8 0 2) := by decide
  replies_routed_iff (tableAead []) [.spawn (sampleHandler 5)] [] rfl hserving hsrc

/-- The server opens the packet of that client and writes it to the TUN device, and does not
    put the reply on the client's channel. -/
theorem reply_not_routed :
    let s := (machine sampleAead).final new [.spawn (sampleHandler 5), .start 0]
    (ClientHandler.handleIncomingPacket sampleAead
        (AeadCipher.new (sampleHandler 5).sessionKey 5) s.clientRegistry (sampleHandler 5).vpnIp
        true (SendTask.datagram sampleAead (sampleHandler 5).sessionKey 5 0 samplePacket)
        ⟨0, s.channels, some ⟨some ⟨[]⟩⟩⟩).natGateway = some ⟨some ⟨[samplePacket]⟩⟩ ∧
      s.tasks = [⟨sampleHandler 5, .serving 0 SendTask.new⟩] ∧
      extractSrcIp samplePacket = some (.v4 10 8 0 2) ∧
      extractDstIp (ipv4To 10 8 0 2) = some (.v4 10 8 0 2) ∧
      s.clientRegistry.routeToClient (ipv4To 10 8 0 2) s.channels = s.channels := by
  refine ⟨?_, rfl, ?_, ?_, rfl⟩
  · decide +kernel
  · decide
  · decide

end Sample

end Handlers

end Llp.Server
