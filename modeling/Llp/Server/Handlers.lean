/-
  The running client handlers: `ClientHandler::run` in `llp-server/client_handler.rs` beside
  the TUN read loop of `main.rs`.

  `run` makes a channel, registers its sender under the VPN IP of the session, sends what
  arrives on the channel to the peer until a datagram cannot be sent or every sender is gone,
  and unregisters the VPN IP. The handlers of all clients run side by side: an event is one
  step of one of them, a packet from the TUN device, or an echo of the incoming path.

  * `inv_step`: in every step that registers no address another handler still holds, each
    serving handler stays the one its VPN IP routes to.
  * `tun_packets_isolated`: so in every such run the packets for a client's VPN IP go on the
    channel of that client, and on no other.
  * `start_breaks_isolation`: and a handler that registers the address of a serving one takes
    its packets at once.
-/
import Llp.Lib.Tables
import Llp.Server.ClientHandler
import Llp.Server.SendTask

namespace Llp.Server
open ByteCodec

/-! ## The handlers -/

/-- `ClientHandler`: what `run` reads of it. -/
structure ClientHandler where
  sessionId : UInt64
  peerAddr : SocketAddr
  sessionKey : SessionKey
deriving DecidableEq

/-- The VPN IP that `new_udp` gives the handler. -/
def ClientHandler.vpnIp (self : ClientHandler) : IpAddr := Server.vpnIp self.sessionId

/-- Two sessions have one VPN IP exactly when their ids agree modulo 253. -/
theorem vpnIp_eq_iff (a b : UInt64) : vpnIp a = vpnIp b ↔ a % 253 = b % 253 := by
  refine ⟨fun h => ?_, fun h => by rw [vpnIp, vpnIp, h]⟩
  have hbyte : (2 + a % 253).toUInt8 = (2 + b % 253).toUInt8 := (IpAddr.v4.inj h).2.2.2
  have ha : (a % 253).toNat < 253 := by
    rw [UInt64.toNat_mod]
    exact Nat.mod_lt _ (by decide)
  have hb : (b % 253).toNat < 253 := by
    rw [UInt64.toNat_mod]
    exact Nat.mod_lt _ (by decide)
  have hnat := congrArg UInt8.toNat hbyte
  simp only [UInt64.toNat_toUInt8, UInt64.toNat_add, UInt64.reduceToNat] at hnat
  exact UInt64.toNat_inj.mp (by omega)

/-- How far `run` of a handler has come. -/
inductive Stage where
  | spawned
  | serving (rx : Sender) (sendTask : SendTask)
  | unregistering
  | finished
deriving DecidableEq

/-- The channel the handler receives from. -/
def Stage.rx? : Stage → Option Sender
  | serving rx _ => some rx
  | _ => none

/-- The handler has registered its VPN IP, and not yet unregistered it. -/
def Stage.registered : Stage → Bool
  | serving _ _ => true
  | unregistering => true
  | _ => false

/-- A spawned `run`. -/
structure HandlerTask where
  handler : ClientHandler
  stage : Stage
deriving DecidableEq

/-- The registry, the channels and the handlers. -/
structure Handlers where
  clientRegistry : ClientRegistry
  channels : Channels
  tasks : List HandlerTask

/-- One step of a handler, of the TUN read loop or of the incoming path. -/
inductive Event where
  /-- the listener spawns `run` of a new handler -/
  | spawn (handler : ClientHandler)
  /-- `run` makes its channel and registers -/
  | start (i : ℕ)
  /-- the send loop takes a packet, and `sendOk` is the outcome of `send_to` -/
  | recv (i : ℕ) (sendOk : Bool)
  /-- `run` unregisters and returns -/
  | unregister (i : ℕ)
  /-- the TUN read loop routes a packet -/
  | tun (packet : Bytes)
  /-- the incoming path echoes a plaintext to a VPN IP -/
  | echo (vpnIp : IpAddr) (plaintext : Bytes)

namespace Handlers

/-- No client yet. -/
def new : Handlers := ⟨ClientRegistry.new, [], []⟩

/-- The channel and the registration. -/
def start (i : ℕ) (handler : ClientHandler) (s : Handlers) : Handlers where
  clientRegistry := s.clientRegistry.registerClient handler.vpnIp s.channels.length
  channels := s.channels ++ [⟨[], true⟩]
  tasks := s.tasks.set i ⟨handler, .serving s.channels.length SendTask.new⟩

/-- The send loop ends, and its receiver is dropped. -/
def close (i : ℕ) (handler : ClientHandler) (rx : Sender) (s : Handlers) : Handlers :=
  { s with
    channels := s.channels.set rx ⟨[], false⟩
    tasks := s.tasks.set i ⟨handler, .unregistering⟩ }

/-- Some sender of the channel is left, all of them being in the registry. -/
def hasSender (rx : Sender) (s : Handlers) : Bool :=
  s.clientRegistry.clients.entries.any fun entry => entry.2 = rx

section

variable (A : ChaCha20Poly1305)

/-- `rx.recv()` and the loop body. With nothing to receive the loop waits, or ends when no
    sender is left. -/
def recv (i : ℕ) (handler : ClientHandler) (rx : Sender) (sendTask : SendTask) (sendOk : Bool)
    (s : Handlers) : Option (SocketAddr × Bytes) × Handlers :=
  match s.channels[rx]? with
  | some ⟨packet :: queue, receiving⟩ =>
      let sent := sendTask.sendPacket A handler.sessionKey handler.sessionId sendOk packet
      let datagram := sent.1.map fun udpPacket => (handler.peerAddr, udpPacket)
      if sent.2.running then
        (datagram, { s with
          channels := s.channels.set rx ⟨queue, receiving⟩
          tasks := s.tasks.set i ⟨handler, .serving rx sent.2⟩ })
      else (datagram, s.close i handler rx)
  | _ => if s.hasSender rx then (none, s) else (none, s.close i handler rx)

/-- `unregister_client` at the end of `run`. -/
def unregister (i : ℕ) (handler : ClientHandler) (s : Handlers) : Handlers :=
  { s with
    clientRegistry := s.clientRegistry.unregisterClient handler.vpnIp
    tasks := s.tasks.set i ⟨handler, .finished⟩ }

/-- One event. A step of a handler that is not at that point of `run` does nothing. -/
def step (s : Handlers) : Event → Option (SocketAddr × Bytes) × Handlers
  | .spawn handler => (none, { s with tasks := s.tasks ++ [⟨handler, .spawned⟩] })
  | .start i =>
      match s.tasks[i]? with
      | some ⟨handler, .spawned⟩ => (none, s.start i handler)
      | _ => (none, s)
  | .recv i sendOk =>
      match s.tasks[i]? with
      | some ⟨handler, .serving rx sendTask⟩ => s.recv A i handler rx sendTask sendOk
      | _ => (none, s)
  | .unregister i =>
      match s.tasks[i]? with
      | some ⟨handler, .unregistering⟩ => (none, s.unregister i handler)
      | _ => (none, s)
  | .tun packet => (none, { s with channels := s.clientRegistry.routeToClient packet s.channels })
  | .echo vpnIp plaintext =>
      match s.clientRegistry.clients.lookup vpnIp with
      | some tx => (none, { s with channels := (tx.send plaintext s.channels).2 })
      | none => (none, s)

/-- The handlers as a machine; an output is the datagram handed to the socket. -/
def machine : Machine Handlers Event (Option (SocketAddr × Bytes)) := ⟨step A⟩

end

/-! ## Whose channel a packet goes on -/

/-- Packets for the address go on the channel, and it has its receiver. -/
def Routed (s : Handlers) (ip : IpAddr) (rx : Sender) : Prop :=
  s.clientRegistry.clients.lookup ip = some rx ∧
    ∃ channel, s.channels[rx]? = some channel ∧ channel.receiving = true

/-- Every serving handler is the one its VPN IP routes to; no two registered handlers share
    a VPN IP, and no two serving ones a channel. -/
structure Inv (s : Handlers) : Prop where
  routed : ∀ (i : ℕ) (t : HandlerTask) (rx : Sender), s.tasks[i]? = some t →
    t.stage.rx? = some rx → Routed s t.handler.vpnIp rx
  addresses : ∀ (i j : ℕ) (t u : HandlerTask), i ≠ j → s.tasks[i]? = some t →
    s.tasks[j]? = some u → t.stage.registered = true → u.stage.registered = true →
    t.handler.vpnIp ≠ u.handler.vpnIp
  receivers : ∀ (i j : ℕ) (t u : HandlerTask) (rx : Sender), i ≠ j → s.tasks[i]? = some t →
    s.tasks[j]? = some u → t.stage.rx? = some rx → u.stage.rx? ≠ some rx

theorem registered_of_rx {stage : Stage} {rx : Sender} (h : stage.rx? = some rx) :
    stage.registered = true := by
  cases stage with
  | serving _ _ => rfl
  | _ => cases h

/-- One handler moves: the invariant holds after it if the others are routed as before, and
    the moved handler is routed, under an address and a channel of its own. -/
theorem Inv.update {s s' : Handlers} (h : Inv s) {i : ℕ} {t' : HandlerTask}
    (htasks : s'.tasks = s.tasks.set i t')
    (hothers : ∀ (j : ℕ) (u : HandlerTask) (rx : Sender), j ≠ i → s.tasks[j]? = some u →
      u.stage.rx? = some rx → Routed s u.handler.vpnIp rx → Routed s' u.handler.vpnIp rx)
    (hrouted : ∀ rx, t'.stage.rx? = some rx → Routed s' t'.handler.vpnIp rx)
    (haddress : ∀ (j : ℕ) (u : HandlerTask), j ≠ i → s.tasks[j]? = some u →
      t'.stage.registered = true → u.stage.registered = true →
      t'.handler.vpnIp ≠ u.handler.vpnIp)
    (hreceiver : ∀ (j : ℕ) (u : HandlerTask) (rx : Sender), j ≠ i → s.tasks[j]? = some u →
      t'.stage.rx? = some rx → u.stage.rx? ≠ some rx) : Inv s' := by
  have hget : ∀ {j : ℕ} {u : HandlerTask}, s'.tasks[j]? = some u →
      (j = i ∧ u = t') ∨ (j ≠ i ∧ s.tasks[j]? = some u) := by
    intro j u hu
    rw [htasks] at hu
    exact List.getElem?_set_cases hu
  have routed : ∀ (j : ℕ) (u : HandlerTask) (rx : Sender), s'.tasks[j]? = some u →
      u.stage.rx? = some rx → Routed s' u.handler.vpnIp rx := by
    intro j u rx hu hrx
    rcases hget hu with ⟨-, rfl⟩ | ⟨hj, hu⟩
    · exact hrouted rx hrx
    · exact hothers j u rx hj hu hrx (h.routed j u rx hu hrx)
  have addresses : ∀ (j k : ℕ) (u v : HandlerTask), j ≠ k → s'.tasks[j]? = some u →
      s'.tasks[k]? = some v → u.stage.registered = true → v.stage.registered = true →
      u.handler.vpnIp ≠ v.handler.vpnIp := by
    intro j k u v hjk hu hv hur hvr
    rcases hget hu with ⟨rfl, rfl⟩ | ⟨hj, hu⟩
    · rcases hget hv with ⟨rfl, -⟩ | ⟨hk, hv⟩
      · exact absurd rfl hjk
      · exact haddress k v hk hv hur hvr
    · rcases hget hv with ⟨rfl, rfl⟩ | ⟨hk, hv⟩
      · exact (haddress j u hj hu hvr hur).symm
      · exact h.addresses j k u v hjk hu hv hur hvr
  have receivers : ∀ (j k : ℕ) (u v : HandlerTask) (rx : Sender), j ≠ k →
      s'.tasks[j]? = some u → s'.tasks[k]? = some v → u.stage.rx? = some rx →
      v.stage.rx? ≠ some rx := by
    intro j k u v rx hjk hu hv hurx
    rcases hget hu with ⟨rfl, rfl⟩ | ⟨hj, hu⟩
    · rcases hget hv with ⟨rfl, -⟩ | ⟨hk, hv⟩
      · exact absurd rfl hjk
      · exact hreceiver k v rx hk hv hurx
    · rcases hget hv with ⟨rfl, rfl⟩ | ⟨hk, hv⟩
      · exact fun hvrx => hreceiver j u rx hj hu hvrx hurx
      · exact h.receivers j k u v rx hjk hu hv hurx
  exact ⟨routed, addresses, receivers⟩

/-- Nothing but queues changes: the invariant stays. -/
theorem Inv.frame {s s' : Handlers} (h : Inv s) (htasks : s'.tasks = s.tasks)
    (hrouted : ∀ ip rx, Routed s ip rx → Routed s' ip rx) : Inv s' where
  routed i t rx ht hrx := hrouted _ _ (h.routed i t rx (htasks ▸ ht) hrx)
  addresses i j t u hij ht hu := h.addresses i j t u hij (htasks ▸ ht) (htasks ▸ hu)
  receivers i j t u rx hij ht hu := h.receivers i j t u rx hij (htasks ▸ ht) (htasks ▸ hu)

/-- A packet put on some channel leaves every address routed as it was. -/
theorem Routed.send {s : Handlers} {ip : IpAddr} {rx : Sender} (h : Routed s ip rx) (tx : Sender)
    (packet : Bytes) : Routed { s with channels := (tx.send packet s.channels).2 } ip rx := by
  obtain ⟨hlookup, channel, hchannel, hreceiving⟩ := h
  refine ⟨hlookup, ?_⟩
  by_cases htx : rx = tx
  · subst htx
    exact ⟨_, send_receiving hchannel hreceiving packet, hreceiving⟩
  · exact ⟨channel, (send_other htx packet s.channels).trans hchannel, hreceiving⟩

theorem Inv.start {s : Handlers} (h : Inv s) {i : ℕ} {handler : ClientHandler}
    (hfresh : ∀ u ∈ s.tasks, u.stage.registered = true → handler.vpnIp ≠ u.handler.vpnIp) :
    Inv (s.start i handler) := by
  have hlt : ∀ {ip rx}, Routed s ip rx → rx < s.channels.length := by
    rintro ip rx ⟨-, channel, hchannel, -⟩
    exact (List.getElem?_eq_some_iff.mp hchannel).1
  -- the other addresses keep their senders, and the other channels stay where they are
  have hothers : ∀ (j : ℕ) (u : HandlerTask) (rx : Sender), j ≠ i → s.tasks[j]? = some u →
      u.stage.rx? = some rx → Routed s u.handler.vpnIp rx →
      Routed (s.start i handler) u.handler.vpnIp rx := by
    intro j u rx _ hu hrx hrouted
    have hne : u.handler.vpnIp ≠ handler.vpnIp :=
      (hfresh u (List.mem_of_getElem? hu) (registered_of_rx hrx)).symm
    have hrxlt := hlt hrouted
    obtain ⟨hlookup, channel, hchannel, hreceiving⟩ := hrouted
    have hlookup' : (s.start i handler).clientRegistry.clients.lookup u.handler.vpnIp = some rx :=
      (AList.lookup_insert_ne hne).trans hlookup
    have hchannel' : (s.start i handler).channels[rx]? = some channel :=
      (List.getElem?_append_left hrxlt).trans hchannel
    exact ⟨hlookup', channel, hchannel', hreceiving⟩
  have hnew : Routed (s.start i handler) handler.vpnIp s.channels.length :=
    ⟨AList.lookup_insert _, ⟨[], true⟩, List.getElem?_concat_length, rfl⟩
  refine h.update rfl hothers ?_ ?_ ?_
  · intro rx hrx
    cases hrx
    exact hnew
  · intro j u _ hu _ hur
    exact hfresh u (List.mem_of_getElem? hu) hur
  · intro j u rx _ hu hrx hurx
    cases hrx
    exact absurd (hlt (h.routed j u _ hu hurx)) (lt_irrefl _)

/-- The handler at `i` has channel `rx`, and moves on without touching other channels. -/
theorem Inv.receive {s s' : Handlers} (h : Inv s) {i : ℕ} {t t' : HandlerTask} {rx : Sender}
    {channel' : Channel} (ht : s.tasks[i]? = some t) (hrx : t.stage.rx? = some rx)
    (htasks : s'.tasks = s.tasks.set i t') (hhandler : t'.handler = t.handler)
    (hregistry : s'.clientRegistry = s.clientRegistry)
    (hchannels : s'.channels = s.channels.set rx channel')
    (hstage : ∀ rx', t'.stage.rx? = some rx' → rx' = rx ∧ channel'.receiving = true) :
    Inv s' := by
  have hothers : ∀ (j : ℕ) (u : HandlerTask) (rx' : Sender), j ≠ i → s.tasks[j]? = some u →
      u.stage.rx? = some rx' → Routed s u.handler.vpnIp rx' →
      Routed s' u.handler.vpnIp rx' := by
    intro j u rx' hj hu hurx hrouted
    obtain ⟨hlookup, channel, hchannel, hreceiving⟩ := hrouted
    have hne : rx ≠ rx' := fun he => h.receivers i j t u rx hj.symm ht hu hrx (he ▸ hurx)
    have hchannel' : s'.channels[rx']? = some channel := by
      rw [hchannels, List.getElem?_set_ne hne, hchannel]
    exact ⟨hregistry ▸ hlookup, channel, hchannel', hreceiving⟩
  have hown : ∀ rx', t'.stage.rx? = some rx' → Routed s' t'.handler.vpnIp rx' := by
    intro rx' hrx'
    obtain ⟨rfl, hreceiving⟩ := hstage rx' hrx'
    obtain ⟨hlookup, channel, hchannel, -⟩ := h.routed i t rx' ht hrx
    have hlookup' : s'.clientRegistry.clients.lookup t'.handler.vpnIp = some rx' := by
      rw [hregistry, hhandler, hlookup]
    have hchannel' : s'.channels[rx']? = some channel' := by
      rw [hchannels, List.getElem?_set_self (List.getElem?_eq_some_iff.mp hchannel).1]
    exact ⟨hlookup', channel', hchannel', hreceiving⟩
  refine h.update htasks hothers hown ?_ ?_
  · intro j u hj hu _ hur
    exact hhandler ▸ h.addresses i j t u hj.symm ht hu (registered_of_rx hrx) hur
  · intro j u rx' hj hu hrx'
    obtain ⟨rfl, -⟩ := hstage rx' hrx'
    exact h.receivers i j t u rx' hj.symm ht hu hrx

theorem Inv.recv (A : ChaCha20Poly1305) {s : Handlers} (h : Inv s) {i : ℕ}
    {handler : ClientHandler} {rx : Sender} {sendTask : SendTask} (sendOk : Bool)
    (ht : s.tasks[i]? = some ⟨handler, .serving rx sendTask⟩) :
    Inv (s.recv A i handler rx sendTask sendOk).2 := by
  have hclose : Inv (s.close i handler rx) :=
    h.receive ht rfl rfl rfl rfl rfl fun _ hrx => by cases hrx
  obtain ⟨-, channel, hchannel, hreceiving⟩ := h.routed i _ rx ht rfl
  unfold Handlers.recv
  split
  · next packet queue receiving hqueue =>
      simp only
      split
      · refine h.receive ht rfl rfl rfl rfl rfl fun rx' hrx' => ⟨?_, ?_⟩
        · exact (Option.some.inj hrx').symm
        · rw [hqueue] at hchannel
          cases hchannel
          exact hreceiving
      · exact hclose
  · split
    · exact h
    · exact hclose

theorem Inv.unregister {s : Handlers} (h : Inv s) {i : ℕ} {handler : ClientHandler}
    (ht : s.tasks[i]? = some ⟨handler, .unregistering⟩) : Inv (s.unregister i handler) := by
  have hothers : ∀ (j : ℕ) (u : HandlerTask) (rx : Sender), j ≠ i → s.tasks[j]? = some u →
      u.stage.rx? = some rx → Routed s u.handler.vpnIp rx →
      Routed (s.unregister i handler) u.handler.vpnIp rx := by
    intro j u rx hj hu hrx hrouted
    have hne := h.addresses j i u _ hj hu ht (registered_of_rx hrx) rfl
    obtain ⟨hlookup, hchannel⟩ := hrouted
    exact ⟨(AList.lookup_erase_ne hne).trans hlookup, hchannel⟩
  refine h.update rfl hothers ?_ ?_ ?_
  · intro rx hrx
    cases hrx
  · intro j u _ _ hreg
    cases hreg
  · intro j u rx _ _ hrx
    cases hrx

theorem Inv.spawn {s : Handlers} (h : Inv s) (handler : ClientHandler) :
    Inv { s with tasks := s.tasks ++ [⟨handler, .spawned⟩] } := by
  -- a spawned handler has no channel and is not registered
  have hget : ∀ {j : ℕ} {u : HandlerTask}, (s.tasks ++ [⟨handler, .spawned⟩])[j]? = some u →
      u.stage.registered = true → s.tasks[j]? = some u := by
    intro j u hu hur
    rcases List.getElem?_snoc_cases hu with hu | rfl
    · exact hu
    · cases hur
  constructor
  · intro j u rx hu hrx
    exact h.routed j u rx (hget hu (registered_of_rx hrx)) hrx
  · intro j k u v hjk hu hv hur hvr
    exact h.addresses j k u v hjk (hget hu hur) (hget hv hvr) hur hvr
  · intro j k u v rx hjk hu hv hurx hvrx
    exact h.receivers j k u v rx hjk (hget hu (registered_of_rx hurx))
      (hget hv (registered_of_rx hvrx)) hurx hvrx

/-- No handler registers while another handler whose session id agrees with its own modulo
    253 has registered, and not yet unregistered. -/
def Fresh (s : Handlers) : Event → Prop
  | .start i => ∀ t ∈ s.tasks[i]?, t.stage = .spawned → ∀ u ∈ s.tasks,
      u.stage.registered = true → t.handler.sessionId % 253 ≠ u.handler.sessionId % 253
  | _ => True

instance (s : Handlers) : (e : Event) → Decidable (Fresh s e)
  | .start i => inferInstanceAs (Decidable (∀ t ∈ s.tasks[i]?, t.stage = .spawned →
      ∀ u ∈ s.tasks, u.stage.registered = true →
        t.handler.sessionId % 253 ≠ u.handler.sessionId % 253))
  | .spawn _ | .recv _ _ | .unregister _ | .tun _ | .echo _ _ => inferInstanceAs (Decidable True)

/-- Every such step keeps the invariant. -/
theorem inv_step (A : ChaCha20Poly1305) (s : Handlers) (e : Event) (h : Inv s)
    (hfresh : Fresh s e) : Inv ((machine A).step s e).2 := by
  show Inv (step A s e).2
  cases e with
  | spawn handler => exact h.spawn handler
  | start i =>
      unfold step
      simp only
      split
      · next handler ht =>
          refine h.start fun u hu hur heq => ?_
          exact hfresh _ ht rfl u hu hur ((vpnIp_eq_iff _ _).mp heq)
      · exact h
  | recv i sendOk =>
      unfold step
      simp only
      split
      · next handler rx sendTask ht => exact h.recv A sendOk ht
      · exact h
  | unregister i =>
      unfold step
      simp only
      split
      · next handler ht => exact h.unregister ht
      · exact h
  | tun packet =>
      refine h.frame rfl fun ip rx hrouted => ?_
      show Routed { s with channels := s.clientRegistry.routeToClient packet s.channels } ip rx
      unfold ClientRegistry.routeToClient
      split
      · exact hrouted
      · split
        · exact hrouted.send _ packet
        · exact hrouted
  | echo vpnIp plaintext =>
      unfold step
      simp only
      split
      · next tx _ => exact h.frame rfl fun ip rx hrouted => hrouted.send tx plaintext
      · exact h

/-- Every packet for the VPN IP of a serving handler is put on the channel of that handler,
    which is no other handler's, and on no other channel. -/
def Isolated (s : Handlers) : Prop :=
  ∀ (i : ℕ) (t : HandlerTask) (rx : Sender), s.tasks[i]? = some t → t.stage.rx? = some rx →
    (∀ (j : ℕ) (u : HandlerTask), i ≠ j → s.tasks[j]? = some u → u.stage.rx? ≠ some rx) ∧
    ∀ packet, extractDstIp packet = some t.handler.vpnIp →
      (∃ channel, s.channels[rx]? = some channel ∧
        (s.clientRegistry.routeToClient packet s.channels)[rx]? =
          some { channel with queue := channel.queue ++ [packet] }) ∧
      ∀ c, c ≠ rx →
        (s.clientRegistry.routeToClient packet s.channels)[c]? = s.channels[c]?

theorem Inv.isolated {s : Handlers} (h : Inv s) : Isolated s := by
  intro i t rx ht hrx
  obtain ⟨hlookup, channel, hchannel, hreceiving⟩ := h.routed i t rx ht hrx
  refine ⟨fun j u hij hu => h.receivers i j t u rx hij ht hu hrx, fun packet hdst => ⟨?_, ?_⟩⟩
  · exact ⟨channel, hchannel,
      ClientRegistry.routeToClient_registered hdst hlookup hchannel hreceiving⟩
  · exact fun c hc => ClientRegistry.routeToClient_other hdst hlookup hc

theorem inv_new : Inv new where
  routed i t rx ht := by simp [new] at ht
  addresses i j t u _ ht := by simp [new] at ht
  receivers i j t u rx _ ht := by simp [new] at ht

/-- **Traffic isolation.** In every run in which no handler registers beside one of the same
    id modulo 253, the packets for a client go on the channel of that client only. -/
theorem tun_packets_isolated (A : ChaCha20Poly1305) (events : List Event)
    (h : (machine A).Always Fresh new events) : Isolated ((machine A).final new events) :=
  ((machine A).final_invariant (inv_step A) new events inv_new h).isolated

/-- An IPv4 packet with the given destination. -/
def ipv4To (a b c d : UInt8) : Bytes := 0x45 :: List.replicate 15 0 ++ [a, b, c, d]

theorem extractDstIp_ipv4To (a b c d : UInt8) :
    extractDstIp (ipv4To a b c d) = some (.v4 a b c d) := by
  have hversion : ((0x45 : UInt8) >>> 4) &&& 0x0F = 4 := by decide
  simp [extractDstIp, ipv4To, hversion]

/-- A handler that registers the address of a serving one breaks the isolation at once. -/
theorem start_breaks_isolation {s : Handlers} {i j : ℕ} {handler other : ClientHandler}
    {rx : Sender} {sendTask : SendTask} (hij : j ≠ i)
    (hj : s.tasks[j]? = some ⟨other, .serving rx sendTask⟩) (hrx : rx < s.channels.length)
    (hid : handler.sessionId % 253 = other.sessionId % 253) : ¬ Isolated (s.start i handler) := by
  intro h
  have hj' : (s.start i handler).tasks[j]? = some ⟨other, .serving rx sendTask⟩ :=
    (List.getElem?_set_ne hij.symm).trans hj
  have hip : handler.vpnIp = other.vpnIp := (vpnIp_eq_iff _ _).mpr hid
  have hlookup : (s.start i handler).clientRegistry.clients.lookup other.vpnIp =
      some s.channels.length := hip ▸ AList.lookup_insert _
  have hdst : extractDstIp (ipv4To 10 8 0 (2 + other.sessionId % 253).toUInt8) =
      some other.vpnIp := extractDstIp_ipv4To _ _ _ _
  have hnew : (s.start i handler).channels[s.channels.length]? = some ⟨[], true⟩ :=
    List.getElem?_concat_length
  -- the packet goes on the new channel, which was empty
  have hput := ClientRegistry.routeToClient_registered hdst hlookup hnew rfl
  have hkept := ((h j _ rx hj' rfl).2 _ hdst).2 _ (Nat.ne_of_gt hrx)
  rw [hput, hnew] at hkept
  exact List.cons_ne_nil _ _ (congrArg Channel.queue (Option.some.inj hkept))

/-! ## Two clients -/

/-- A handler of the session `sessionId`. -/
def sampleHandler (sessionId : UInt64) : ClientHandler :=
  ⟨sessionId, ⟨.v4 192 0 2 1, 40000⟩, ⟨List.Vector.replicate 32 7⟩⟩

/-- Two clients connect. -/
def sampleEvents (first second : UInt64) : List Event :=
  [.spawn (sampleHandler first), .start 0, .spawn (sampleHandler second), .start 1]

theorem tun_packets_isolated_sample :
    Isolated ((machine (tableAead [])).final new (sampleEvents 5 6)) :=
  tun_packets_isolated (tableAead []) (sampleEvents 5 6) (by decide)

/-- The session ids 0 and 253 share `10.8.0.2`: a packet for the first client, which is
    still served, goes on the channel of the second. -/
theorem tun_packets_collide :
    ((machine (tableAead [])).final new (sampleEvents 0 253)).tasks =
        [⟨sampleHandler 0, .serving 0 SendTask.new⟩, ⟨sampleHandler 253, .serving 1 SendTask.new⟩] ∧
      extractDstIp (ipv4To 10 8 0 2) = some (sampleHandler 0).vpnIp ∧
      ((machine (tableAead [])).final new
          (sampleEvents 0 253 ++ [.tun (ipv4To 10 8 0 2)])).channels =
        [⟨[], true⟩, ⟨[ipv4To 10 8 0 2], true⟩] := by
  decide

end Handlers

end Llp.Server
