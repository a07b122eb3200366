/-
  What the peer of a handler is sent, over any run of the handlers.

  A packet is for the VPN IP that the TUN read loop finds in it, or that the incoming path echoes
  it to. The send loop of a handler takes the packets of its channel one after the other, and puts
  those that encrypt in datagrams under the counters from 0 on.

  * `tables_moves`: a handler's channel is registered under its VPN IP or not at all.
  * `downstream`: the datagrams for a peer carry packets for the VPN IP of its handler, in order,
    and each once at most; while no other handler takes the address over, none is passed over.
-/
import Llp.Lib.Views
import Llp.Server.Routes

namespace Llp.Server
open ByteCodec

/-- The address that a packet is for, and the packet. -/
def Event.offer : Event → Option (IpAddr × Bytes)
  | .tun packet => (extractDstIp packet).map fun ip => (ip, packet)
  | .echo vpnIp plaintext => some (vpnIp, plaintext)
  | _ => none

/-- The send loop of the handler takes a packet. -/
def Event.recvBy (i : ℕ) : Event → Bool
  | .recv j _ => j = i
  | _ => false

namespace Handlers

/-! ## Channels and addresses -/

/-- The handlers are connected, and a channel is registered under the VPN IP of its handler or not
    at all. -/
structure Tables (s : Handlers) : Prop extends Connected s where
  address : ∀ (i : ℕ) (t : HandlerTask) (rx : Sender) (ip : IpAddr), s.tasks[i]? = some t →
    t.stage.rx? = some rx → s.clientRegistry.clients.lookup ip = some rx → ip = t.handler.vpnIp

theorem tables_new : Tables new where
  toConnected := connected_new
  address i t rx ip ht := by simp [new] at ht

/-- Every event keeps the tables. -/
theorem tables_moves {s s' : Handlers} {e : Event} (h : Tables s) (hm : Moves s e s') :
    Tables s' where
  toConnected := h.toConnected.moves hm
  address i t rx ip ht hrx hip := by
    rcases hm.serves ht hrx with ⟨old, hold, hhandler, hrx⟩ | ⟨rfl, hspawned, rfl⟩
    · have hlt : rx < s.channels.length := (h.receivers i rx ⟨old, hold, hrx⟩).lt
      rcases lookup_moves hm ip with hsame | ⟨-, -, -, -, -, hnew⟩ | ⟨-, -, -, -, -, hnone⟩
      · exact hhandler ▸ h.address i old rx ip hold hrx (hsame.symm.trans hip)
      · exact absurd (Option.some.inj (hip.symm.trans hnew)) (Nat.ne_of_lt hlt)
      · cases hip.symm.trans hnone
    · rcases lookup_moves hm ip with hsame | ⟨j, handler, he, hj, hip', -⟩ | ⟨j, -, he, -⟩
      · exact absurd (h.senders ip _ (hsame.symm.trans hip)) (Nat.lt_irrefl _)
      · -- the entry is the one that this start has made
        cases he
        cases hspawned.symm.trans hj
        exact hip'.symm
      · cases he

/-! ## What is offered, taken and sent -/

/-- The packets of a run for an address, in order. -/
def offered (ip : IpAddr) (events : List Event) : List Bytes :=
  ((events.filterMap Event.offer).filter fun offer => offer.1 = ip).map Prod.snd

theorem offered_append (ip : IpAddr) (xs ys : List Event) :
    offered ip (xs ++ ys) = offered ip xs ++ offered ip ys := by
  rw [offered, List.filterMap_append, List.filter_append, List.map_append]
  rfl

theorem offered_none {e : Event} (h : e.offer = none) (ip : IpAddr) : offered ip [e] = [] := by
  rw [offered, List.filterMap_cons_none h]
  rfl

theorem offered_some {e : Event} {ip : IpAddr} {packet : Bytes} (h : e.offer = some (ip, packet))
    (vpnIp : IpAddr) : offered vpnIp [e] = if ip = vpnIp then [packet] else [] := by
  rw [offered, List.filterMap_cons_some h]
  by_cases hip : ip = vpnIp
  · simp [hip]
  · simp [hip]

/-- The packet goes on the channel that its address leads to. -/
def put (ip : IpAddr) (packet : Bytes) (s : Handlers) : Handlers :=
  match s.clientRegistry.clients.lookup ip with
  | some tx => { s with channels := (tx.send packet s.channels).2 }
  | none => s

theorem put_some {s : Handlers} {ip : IpAddr} {tx : Sender}
    (h : s.clientRegistry.clients.lookup ip = some tx) (packet : Bytes) :
    s.put ip packet = { s with channels := (tx.send packet s.channels).2 } := by
  unfold put
  rw [h]

theorem put_none {s : Handlers} {ip : IpAddr} (h : s.clientRegistry.clients.lookup ip = none)
    (packet : Bytes) : s.put ip packet = s := by
  unfold put
  rw [h]

theorem step_offer (A : ChaCha20Poly1305) (s : Handlers) {e : Event} {ip : IpAddr}
    {packet : Bytes} (h : e.offer = some (ip, packet)) :
    (machine A).step s e = (none, s.put ip packet) := by
  cases e with
  | tun p =>
      obtain ⟨dstIp, hdst, hpair⟩ := Option.map_eq_some_iff.mp h
      cases hpair
      show (none, { s with channels := s.clientRegistry.routeToClient packet s.channels }) = _
      unfold ClientRegistry.routeToClient
      rw [hdst]
      simp only
      split
      · next tx htx => rw [put_some htx]
      · next hnone => rw [put_none hnone]
  | echo vpnIp plaintext =>
      cases h
      show step A s (.echo ip packet) = _
      unfold step
      simp only
      split
      · next tx htx => rw [put_some htx]
      · next hnone => rw [put_none hnone]
  | _ => cases h

/-- What waits on the channel of a handler. -/
def waiting (s : Handlers) (stage : Stage) : List Bytes :=
  match stage.rx? with
  | some rx => (s.channels[rx]?.map Channel.queue).getD []
  | none => []

theorem waiting_none (s : Handlers) {stage : Stage} (h : stage.rx? = none) :
    s.waiting stage = [] := by
  rw [waiting, h]

theorem waiting_some {s : Handlers} {stage : Stage} {rx : Sender} {channel : Channel}
    (h : stage.rx? = some rx) (hchannel : s.channels[rx]? = some channel) :
    s.waiting stage = channel.queue := by
  rw [waiting, h]
  simp only [hchannel, Option.map_some, Option.getD_some]

theorem waiting_congr {s s' : Handlers} {stage : Stage}
    (h : ∀ rx, stage.rx? = some rx → s'.channels[rx]? = s.channels[rx]?) :
    s'.waiting stage = s.waiting stage := by
  unfold waiting
  split
  · next rx hrx => rw [h rx hrx]
  · rfl

/-- The datagrams that a handler has handed to the socket. -/
def sentBy (A : ChaCha20Poly1305) (i : ℕ) (events : List Event) : List (SocketAddr × Bytes) :=
  ((machine A).outputsAt (Event.recvBy i) new events).filterMap id

theorem sentBy_snoc (A : ChaCha20Poly1305) (i : ℕ) (past : List Event) (e : Event) :
    sentBy A i (past ++ [e]) = sentBy A i past ++
      if e.recvBy i then ((machine A).step ((machine A).final new past) e).1.toList else [] := by
  unfold sentBy
  rw [Machine.outputsAt_append, List.filterMap_append]
  congr 1
  simp only [Machine.outputsAt]
  split
  · cases ((machine A).step ((machine A).final new past) e).1 with
    | none => rfl
    | some datagram => rfl
  · rfl

theorem sentBy_other (A : ChaCha20Poly1305) {i : ℕ} (past : List Event) {e : Event}
    (h : e.recvBy i = false) : sentBy A i (past ++ [e]) = sentBy A i past := by
  rw [sentBy_snoc, h, if_neg Bool.false_ne_true, List.append_nil]

/-- The packets that the send loop can encrypt: not too long, and as long as it has counters. -/
def accepted (A : ChaCha20Poly1305) (taken : List Bytes) : List Bytes :=
  (taken.filter fun packet => packet.length ≤ A.maxPlaintext).take (2 ^ 64 - 1)

theorem accepted_snoc (A : ChaCha20Poly1305) (taken : List Bytes) (packet : Bytes) :
    accepted A (taken ++ [packet]) =
      if packet.length ≤ A.maxPlaintext ∧ (accepted A taken).length + 1 < 2 ^ 64 then
        accepted A taken ++ [packet]
      else accepted A taken := by
  unfold accepted
  rw [List.filter_append, List.take_append, List.length_take]
  generalize hall : taken.filter (fun packet => packet.length ≤ A.maxPlaintext) = all
  by_cases hsize : packet.length ≤ A.maxPlaintext
  · have hone : [packet].filter (fun packet => packet.length ≤ A.maxPlaintext) = [packet] := by
      rw [List.filter_cons_of_pos (by rwa [decide_eq_true_iff]), List.filter_nil]
    rw [hone]
    by_cases hroom : all.length < 2 ^ 64 - 1
    · rw [if_pos ⟨hsize, by omega⟩, List.take_of_length_le (l := [packet]) (by simp; omega)]
    · rw [if_neg (fun h => by omega), Nat.sub_eq_zero_of_le (Nat.not_lt.mp hroom), List.take_zero,
        List.append_nil]
  · have hnone : [packet].filter (fun packet => packet.length ≤ A.maxPlaintext) = [] := by
      rw [List.filter_cons_of_neg (by rwa [decide_eq_true_iff]), List.filter_nil]
    rw [hnone, if_neg fun h => hsize h.1, List.take_nil, List.append_nil]

/-- The datagrams that carry the packets, under the counters from 0 on. -/
def numbered (A : ChaCha20Poly1305) (handler : ClientHandler) (packets : List Bytes) :
    List (SocketAddr × Bytes) :=
  packets.mapIdx fun k packet => (handler.peerAddr,
    SendTask.datagram A handler.sessionKey handler.sessionId (UInt64.ofNat k) packet)

theorem numbered_snoc (A : ChaCha20Poly1305) (handler : ClientHandler) (packets : List Bytes)
    (packet : Bytes) : numbered A handler (packets ++ [packet]) = numbered A handler packets ++
      [(handler.peerAddr, SendTask.datagram A handler.sessionKey handler.sessionId
        (UInt64.ofNat packets.length) packet)] :=
  List.mapIdx_concat

/-- No two of them are under one nonce. -/
theorem numbered_nonces (A : ChaCha20Poly1305) (handler : ClientHandler) {packets : List Bytes}
    (h : packets.length < 2 ^ 64) :
    ((numbered A handler packets).map fun datagram =>
      datagram.2.take CHACHA20_NONCE_SIZE).Nodup := by
  have htake : ∀ (counter : UInt64) (packet : Bytes),
      (SendTask.datagram A handler.sessionKey handler.sessionId counter packet).take
        CHACHA20_NONCE_SIZE = (ChaCha20Nonce.new handler.sessionId counter).asBytes := by
    intro counter packet
    exact List.take_left' (by simp [ChaCha20Nonce.asBytes, CHACHA20_NONCE_SIZE])
  refine List.pairwise_iff_getElem.mpr fun j k hj hk hjk heq => ?_
  simp only [numbered, List.length_map, List.length_mapIdx] at hj hk
  simp only [numbered, List.getElem_map, List.getElem_mapIdx, htake] at heq
  have hcounter : UInt64.ofNat j = UInt64.ofNat k :=
    (ChaCha20Nonce.mk.inj (ChaCha20Nonce.asBytes_inj heq)).1
  have hnat := congrArg UInt64.toNat hcounter
  rw [UInt64.toNat_ofNat', UInt64.toNat_ofNat'] at hnat
  omega

/-! ## A handler and its channel -/

/-- A handler that was started: it has taken packets for its VPN IP in order, put those it could
    encrypt in datagrams, and the next ones wait; all of them, if it holds its address. -/
structure Downlink (A : ChaCha20Poly1305) (past : List Event) (s : Handlers) (i : ℕ)
    (t : HandlerTask) (pre post : List Event) (taken : List Bytes) : Prop where
  started : past = pre ++ .start i :: post
  spawned : ((machine A).final new pre).tasks[i]? = some ⟨t.handler, .spawned⟩
  sent : sentBy A i past = numbered A t.handler (accepted A taken)
  inOrder : (taken ++ s.waiting t.stage).Sublist (offered t.handler.vpnIp post)
  loop : ∀ rx sendTask, t.stage = .serving rx sendTask →
    sendTask.running = true ∧ sendTask.sendCounter.toNat = (accepted A taken).length
  whole : t.stage.rx?.isSome → (machine A).Always Fresh new past →
    offered t.handler.vpnIp post = taken ++ s.waiting t.stage

/-- The events so far, and what the handlers have made of them. -/
structure Log (A : ChaCha20Poly1305) (past : List Event) (s : Handlers) : Prop where
  state : s = (machine A).final new past
  tables : Tables s
  silent : ∀ i, (∀ t, s.tasks[i]? = some t → t.stage = .spawned) → sentBy A i past = []
  links : ∀ i t, s.tasks[i]? = some t → t.stage ≠ .spawned →
    ∃ pre post taken, Downlink A past s i t pre post taken

section Step

variable {A : ChaCha20Poly1305} {past : List Event} {s s' : Handlers} {e : Event} {i : ℕ}
variable {t t' : HandlerTask} {pre post : List Event} {taken taken' : List Bytes}

/-- An event that takes nothing from the channel but what goes to the end of `taken`. -/
theorem Downlink.advance (h : Downlink A past s i t pre post taken)
    (hhandler : t'.handler = t.handler)
    (hsent : sentBy A i (past ++ [e]) = numbered A t.handler (accepted A taken'))
    (hinOrder : (taken' ++ s'.waiting t'.stage).Sublist
      (taken ++ s.waiting t.stage ++ offered t.handler.vpnIp [e]))
    (hloop : ∀ rx sendTask, t'.stage = .serving rx sendTask →
      sendTask.running = true ∧ sendTask.sendCounter.toNat = (accepted A taken').length)
    (hrx : t'.stage.rx?.isSome → t.stage.rx?.isSome)
    (hwhole : t'.stage.rx?.isSome → (machine A).Always Fresh new past →
      taken' ++ s'.waiting t'.stage = taken ++ s.waiting t.stage ++ offered t.handler.vpnIp [e]) :
    Downlink A (past ++ [e]) s' i t' pre (post ++ [e]) taken' := by
  have hoffered : offered t'.handler.vpnIp (post ++ [e]) =
      offered t.handler.vpnIp post ++ offered t.handler.vpnIp [e] := by
    rw [hhandler, offered_append]
  refine ⟨?_, hhandler ▸ h.spawned, hhandler ▸ hsent, ?_, hloop, fun hserving hfresh => ?_⟩
  · rw [h.started, List.append_assoc]
    rfl
  · rw [hoffered]
    exact hinOrder.trans (h.inOrder.append_right _)
  · have hpast := (((machine A).always_append Fresh new past [e]).mp hfresh).1
    rw [hoffered, hwhole hserving hpast, h.whole (hrx hserving) hpast]

/-- The other handlers: their channels get what is offered, or nothing. -/
theorem Downlink.wait (h : Downlink A past s i t pre post taken)
    (hsent : sentBy A i (past ++ [e]) = sentBy A i past) {put : List Bytes}
    (hwaiting : s'.waiting t.stage = s.waiting t.stage ++ put)
    (hput : put.Sublist (offered t.handler.vpnIp [e]))
    (hwhole : t.stage.rx?.isSome → (machine A).Always Fresh new past →
      put = offered t.handler.vpnIp [e]) :
    Downlink A (past ++ [e]) s' i t pre (post ++ [e]) taken := by
  refine h.advance rfl (hsent.trans h.sent) ?_ h.loop id fun hserving hfresh => ?_
  · rw [hwaiting, ← List.append_assoc]
    exact hput.append_left _
  · rw [hwaiting, hwhole hserving hfresh, List.append_assoc]

/-- What a packet adds to a channel: itself, if the channel is that of its address. -/
theorem put_waiting (h : Tables s) (ht : s.tasks[i]? = some t) (ip : IpAddr) (packet : Bytes) :
    ∃ put, (s.put ip packet).waiting t.stage = s.waiting t.stage ++ put ∧
      put.Sublist (if ip = t.handler.vpnIp then [packet] else []) ∧
      (t.stage.rx?.isSome → Inv s → put = if ip = t.handler.vpnIp then [packet] else []) := by
  have hnone : ∀ {rx}, t.stage.rx? = some rx → (s.put ip packet).channels[rx]? = s.channels[rx]? →
      (Inv s → ip ≠ t.handler.vpnIp) →
      ∃ put, (s.put ip packet).waiting t.stage = s.waiting t.stage ++ put ∧
        put.Sublist (if ip = t.handler.vpnIp then [packet] else []) ∧
        (t.stage.rx?.isSome → Inv s → put = if ip = t.handler.vpnIp then [packet] else []) := by
    intro rx hrx hsame hother
    refine ⟨[], ?_, List.nil_sublist _, fun _ hinv => (if_neg (hother hinv)).symm⟩
    rw [List.append_nil]
    refine waiting_congr fun rx' hrx' => ?_
    rw [hrx] at hrx'
    cases hrx'
    exact hsame
  cases hrx : t.stage.rx? with
  | none =>
      refine ⟨[], ?_, List.nil_sublist _, nofun⟩
      rw [waiting_none _ hrx, waiting_none _ hrx, List.append_nil]
  | some rx =>
      rw [← hrx]
      have hrouted : Inv s → Routed s t.handler.vpnIp rx := fun hinv => hinv.routed i t rx ht hrx
      cases hip : s.clientRegistry.clients.lookup ip with
      | none =>
          refine hnone hrx (by rw [put_none hip]) fun hinv hsame => ?_
          rw [hsame, (hrouted hinv).1] at hip
          cases hip
      | some tx =>
          rw [put_some hip] at hnone ⊢
          by_cases htx : rx = tx
          · subst htx
            have hsame := h.address i t rx ip ht hrx hip
            obtain ⟨channel, hchannel, hreceiving⟩ := h.receivers i rx ⟨t, ht, hrx⟩
            refine ⟨[packet], ?_, ?_, fun _ _ => (if_pos hsame).symm⟩
            · rw [waiting_some hrx (send_receiving hchannel hreceiving packet),
                waiting_some hrx hchannel]
            · rw [if_pos hsame]
          · refine hnone hrx (send_other htx packet s.channels) fun hinv hsame => ?_
            rw [hsame, (hrouted hinv).1] at hip
            exact htx (Option.some.inj hip)

/-! ## Event by event -/

/-- The tasks are as they were, and each channel gets what is offered, or nothing. -/
theorem Log.keep (h : Log A past s) (hstep : (machine A).step s e = (none, s'))
    (htasks : s'.tasks = s.tasks)
    (hwaiting : ∀ (i : ℕ) (t : HandlerTask), s.tasks[i]? = some t → ∃ put,
      s'.waiting t.stage = s.waiting t.stage ++ put ∧
        put.Sublist (offered t.handler.vpnIp [e]) ∧
        (t.stage.rx?.isSome → Inv s → put = offered t.handler.vpnIp [e])) :
    Log A (past ++ [e]) s' := by
  have hsent : ∀ i, sentBy A i (past ++ [e]) = sentBy A i past := by
    intro i
    rw [sentBy_snoc, ← h.state, hstep, Option.toList_none, ite_self, List.append_nil]
  refine ⟨?_, ?_, fun i hspawned => ?_, fun i t ht hstarted => ?_⟩
  · rw [Machine.final_snoc, ← h.state, hstep]
  · have hmoves := step_moves A s e
    rw [hstep] at hmoves
    exact tables_moves h.tables hmoves
  · rw [htasks] at hspawned
    rw [hsent, h.silent i hspawned]
  · rw [htasks] at ht
    obtain ⟨pre, post, taken, hlink⟩ := h.links i t ht hstarted
    obtain ⟨put, hwaiting, hput, hwhole⟩ := hwaiting i t ht
    refine ⟨pre, post ++ [e], taken, hlink.wait (hsent i) hwaiting hput fun hserving hfresh => ?_⟩
    refine hwhole hserving ?_
    rw [h.state]
    exact (machine A).final_invariant (inv_step A) new past inv_new hfresh

/-- A packet that is offered. -/
theorem Log.offer (h : Log A past s) {ip : IpAddr} {packet : Bytes}
    (hoffer : e.offer = some (ip, packet)) : Log A (past ++ [e]) (s.put ip packet) := by
  have htasks : (s.put ip packet).tasks = s.tasks := by
    unfold put
    split <;> rfl
  refine h.keep (step_offer A s hoffer) htasks fun i t ht => ?_
  rw [offered_some hoffer]
  exact put_waiting h.tables ht ip packet

/-- An event that does nothing. -/
theorem Log.idle (h : Log A past s) (hoffer : e.offer = none)
    (hstep : (machine A).step s e = (none, s)) : Log A (past ++ [e]) s := by
  refine h.keep hstep rfl fun i t _ => ?_
  rw [offered_none hoffer]
  exact ⟨[], (List.append_nil _).symm, List.Sublist.refl _, fun _ _ => rfl⟩

/-- A handler that moves: the others are as they were, and nothing is offered. -/
theorem Log.move (h : Log A past s) {output : Option (SocketAddr × Bytes)}
    (hoffer : e.offer = none) (hstep : (machine A).step s e = (output, s'))
    (ht : s.tasks[i]? = some t) (htasks : s'.tasks = s.tasks.set i t')
    (hothers : ∀ j, j ≠ i → e.recvBy j = false)
    (hwaiting : ∀ j u, j ≠ i → s.tasks[j]? = some u → s'.waiting u.stage = s.waiting u.stage)
    (hstage : t'.stage ≠ .spawned)
    (hlink : ∃ pre post taken, Downlink A (past ++ [e]) s' i t' pre post taken) :
    Log A (past ++ [e]) s' := by
  have hsent : ∀ j, j ≠ i → sentBy A j (past ++ [e]) = sentBy A j past := fun j hj =>
    sentBy_other A past (hothers j hj)
  refine ⟨?_, ?_, fun j hspawned => ?_, fun j u hu hstarted => ?_⟩
  · rw [Machine.final_snoc, ← h.state, hstep]
  · have hmoves := step_moves A s e
    rw [hstep] at hmoves
    exact tables_moves h.tables hmoves
  · by_cases hj : j = i
    · subst hj
      have hlt := (List.getElem?_eq_some_iff.mp ht).1
      exact absurd (hspawned t' (by rw [htasks, List.getElem?_set_self hlt])) hstage
    · rw [hsent j hj]
      refine h.silent j fun u hu => hspawned u ?_
      rw [htasks, List.getElem?_set_ne (Ne.symm hj), hu]
  · rw [htasks] at hu
    rcases List.getElem?_set_cases hu with ⟨rfl, rfl⟩ | ⟨hj, hu⟩
    · exact hlink
    · obtain ⟨pre, post, taken, hold⟩ := h.links j u hu hstarted
      have hnothing := offered_none hoffer u.handler.vpnIp
      have hsame := (hwaiting j u hj hu).trans (List.append_nil _).symm
      refine ⟨pre, post ++ [e], taken, hold.wait (hsent j hj) hsame (List.nil_sublist _) ?_⟩
      exact fun _ _ => hnothing.symm

theorem Log.spawn (h : Log A past s) (handler : ClientHandler) :
    Log A (past ++ [.spawn handler]) { s with tasks := s.tasks ++ [⟨handler, .spawned⟩] } := by
  have hsent : ∀ i, sentBy A i (past ++ [.spawn handler]) = sentBy A i past := fun i =>
    sentBy_other A past rfl
  refine ⟨?_, ?_, fun i hspawned => ?_, fun i t ht hstarted => ?_⟩
  · rw [Machine.final_snoc, ← h.state]
    rfl
  · exact tables_moves h.tables (step_moves A s (.spawn handler))
  · rw [hsent]
    refine h.silent i fun t ht => hspawned t ?_
    exact List.getElem?_append_some ht _
  · have ht : s.tasks[i]? = some t := by
      rcases List.getElem?_snoc_cases ht with ht | rfl
      · exact ht
      · exact absurd rfl hstarted
    obtain ⟨pre, post, taken, hlink⟩ := h.links i t ht hstarted
    have hsame : waiting { s with tasks := s.tasks ++ [⟨handler, .spawned⟩] } t.stage =
        s.waiting t.stage ++ [] := (List.append_nil _).symm
    exact ⟨pre, post ++ [.spawn handler], taken,
      hlink.wait (hsent i) hsame (List.nil_sublist _) fun _ _ => rfl⟩

theorem Log.start (h : Log A past s) {handler : ClientHandler}
    (ht : s.tasks[i]? = some ⟨handler, .spawned⟩) :
    Log A (past ++ [.start i]) (s.start i handler) := by
  have hstep := (step_start A ht).1
  have hwaiting : ∀ j u, j ≠ i → s.tasks[j]? = some u →
      (s.start i handler).waiting u.stage = s.waiting u.stage := fun j u _ hu =>
    waiting_congr fun rx hrx => List.getElem?_append_left (h.tables.receivers j rx ⟨u, hu, hrx⟩).lt
  have hnew : (s.start i handler).channels[s.channels.length]? = some ⟨[], true⟩ :=
    List.getElem?_concat_length
  have hempty : (s.start i handler).waiting (.serving s.channels.length SendTask.new) = [] :=
    waiting_some rfl hnew
  have hserving : Stage.serving s.channels.length SendTask.new ≠ .spawned := fun h => by cases h
  refine h.move rfl hstep ht rfl (fun _ _ => rfl) hwaiting hserving
    ⟨past, [], [], rfl, h.state ▸ ht, ?_, ?_, ?_, ?_⟩
  · rw [sentBy_other A past rfl]
    refine h.silent i fun t hi => ?_
    rw [ht] at hi
    rw [← Option.some.inj hi]
  · rw [hempty]
    exact List.nil_sublist _
  · intro rx sendTask hstage
    cases hstage
    exact ⟨rfl, rfl⟩
  · intro _ _
    rw [hempty]
    rfl

theorem Log.unregister (h : Log A past s) {handler : ClientHandler}
    (ht : s.tasks[i]? = some ⟨handler, .unregistering⟩) :
    Log A (past ++ [.unregister i]) (s.unregister i handler) := by
  have hstep := step_unregister A ht
  have hending : Stage.unregistering ≠ .spawned := fun h => by cases h
  have hended : Stage.finished ≠ .spawned := fun h => by cases h
  obtain ⟨pre, post, taken, hlink⟩ := h.links i _ ht hending
  have hmoved : Downlink A (past ++ [.unregister i]) (s.unregister i handler) i
      ⟨handler, .finished⟩ pre (post ++ [.unregister i]) taken := by
    refine hlink.advance rfl ((sentBy_other A past rfl).trans hlink.sent)
      (List.sublist_append_left _ _) (fun _ _ hstage => by cases hstage)
      (fun hrx => by cases hrx) fun hrx => by cases hrx
  exact h.move rfl hstep ht rfl (fun _ _ => rfl) (fun _ _ _ _ => rfl) hended
    ⟨pre, post ++ [.unregister i], taken, hmoved⟩

/-- What the send loop makes of the next packet on its channel. -/
theorem recv_packet {handler : ClientHandler} {rx : Sender} {sendTask : SendTask}
    {packet : Bytes} {queue : List Bytes} {receiving : Bool}
    (hchannel : s.channels[rx]? = some ⟨packet :: queue, receiving⟩)
    (hrunning : sendTask.running = true) (sendOk : Bool) :
    s.recv A i handler rx sendTask sendOk =
      if packet.length ≤ A.maxPlaintext ∧ sendTask.sendCounter.toNat + 1 < 2 ^ 64 then
        (some (handler.peerAddr, SendTask.datagram A handler.sessionKey handler.sessionId
            sendTask.sendCounter packet),
          if sendOk then
            { s with
              channels := s.channels.set rx ⟨queue, receiving⟩
              tasks := s.tasks.set i ⟨handler, .serving rx
                { sendTask with sendCounter := sendTask.sendCounter + 1 }⟩ }
          else s.close i handler rx)
      else
        (none, { s with
          channels := s.channels.set rx ⟨queue, receiving⟩
          tasks := s.tasks.set i ⟨handler, .serving rx sendTask⟩ }) := by
  unfold recv
  rw [hchannel]
  simp only [SendTask.sendPacket_eq]
  split
  · cases sendOk with
    | true => simp only [if_true, hrunning, Option.map_some]
    | false => simp only [Bool.false_eq_true, if_false, Option.map_some]
  · rfl

/-- With nothing on its channel it waits, or ends when no sender is left. -/
theorem recv_nothing {handler : ClientHandler} {rx : Sender} {sendTask : SendTask}
    {receiving : Bool} (hchannel : s.channels[rx]? = some ⟨[], receiving⟩) (sendOk : Bool) :
    s.recv A i handler rx sendTask sendOk =
      if s.hasSender rx then (none, s) else (none, s.close i handler rx) := by
  unfold recv
  rw [hchannel]

/-! ### A packet taken from a channel -/

section Recv

variable {handler : ClientHandler} {rx : Sender} {sendTask sendTask' : SendTask} {sendOk : Bool}
variable {output : Option (SocketAddr × Bytes)} {packet : Bytes} {queue : List Bytes}
variable {receiving : Bool} {channel : Channel}

theorem step_recv (ht : s.tasks[i]? = some ⟨handler, .serving rx sendTask⟩) :
    (machine A).step s (.recv i sendOk) = s.recv A i handler rx sendTask sendOk := by
  simp only [machine, step, ht]

/-- The others have other channels. -/
theorem Log.received (h : Log A past s) (ht : s.tasks[i]? = some ⟨handler, .serving rx sendTask⟩)
    (hrecv : s.recv A i handler rx sendTask sendOk = (output, s'))
    (htasks : s'.tasks = s.tasks.set i t') (hchannels : s'.channels = s.channels.set rx channel)
    (hstage : t'.stage ≠ .spawned)
    (hmoved : sentBy A i (past ++ [.recv i sendOk]) = sentBy A i past ++ output.toList →
      ∃ pre post taken, Downlink A (past ++ [.recv i sendOk]) s' i t' pre post taken) :
    Log A (past ++ [.recv i sendOk]) s' := by
  have hstep : (machine A).step s (.recv i sendOk) = (output, s') := (step_recv ht).trans hrecv
  have hsent : sentBy A i (past ++ [.recv i sendOk]) = sentBy A i past ++ output.toList := by
    rw [sentBy_snoc, ← h.state, hstep, Event.recvBy, if_pos (decide_eq_true rfl)]
  refine h.move rfl hstep ht htasks (fun j hj => decide_eq_false hj.symm) (fun j u hj hu => ?_)
    hstage (hmoved hsent)
  refine waiting_congr fun rx' hrx' => ?_
  have hne : rx ≠ rx' := fun hsame =>
    hj (h.tables.distinct j i rx ⟨u, hu, hsame ▸ hrx'⟩ ⟨_, ht, rfl⟩)
  rw [hchannels, List.getElem?_set_ne hne]

/-- The handler goes on, with one packet less on its channel. -/
theorem Downlink.serve
    (h : Downlink A past s i ⟨handler, .serving rx sendTask⟩ pre post taken)
    (hchannel : s.channels[rx]? = some ⟨packet :: queue, receiving⟩)
    (hchannels : s'.channels = s.channels.set rx ⟨queue, receiving⟩)
    (hsent : sentBy A i (past ++ [.recv i sendOk]) =
      numbered A handler (accepted A (taken ++ [packet])))
    (hrunning : sendTask'.running = true)
    (hcounter : sendTask'.sendCounter.toNat = (accepted A (taken ++ [packet])).length) :
    Downlink A (past ++ [.recv i sendOk]) s' i ⟨handler, .serving rx sendTask'⟩ pre
      (post ++ [.recv i sendOk]) (taken ++ [packet]) := by
  have hbefore : s.waiting (.serving rx sendTask) = packet :: queue := waiting_some rfl hchannel
  have hlt := (List.getElem?_eq_some_iff.mp hchannel).1
  have hchannel' : s'.channels[rx]? = some ⟨queue, receiving⟩ := by
    rw [hchannels, List.getElem?_set_self hlt]
  have hafter : s'.waiting (.serving rx sendTask') = queue := waiting_some rfl hchannel'
  have hsame : taken ++ [packet] ++ s'.waiting (.serving rx sendTask') =
      taken ++ s.waiting (.serving rx sendTask) ++ offered handler.vpnIp [.recv i sendOk] := by
    rw [hbefore, hafter, List.append_assoc]
    exact (List.append_nil _).symm
  refine h.advance rfl hsent ?_ ?_ (fun _ => rfl) fun _ _ => hsame
  · rw [hsame]
  · intro rx' sendTask'' hstage
    cases hstage
    exact ⟨hrunning, hcounter⟩

/-- The handler ends, and drops what waits. -/
theorem Downlink.close
    (h : Downlink A past s i ⟨handler, .serving rx sendTask⟩ pre post taken)
    (hsent : sentBy A i (past ++ [.recv i sendOk]) = numbered A handler (accepted A taken'))
    (htaken : taken'.Sublist (taken ++ s.waiting (.serving rx sendTask))) :
    Downlink A (past ++ [.recv i sendOk]) (s.close i handler rx) i ⟨handler, .unregistering⟩ pre
      (post ++ [.recv i sendOk]) taken' := by
  refine h.advance rfl hsent ?_ nofun nofun nofun
  rw [waiting_none _ rfl, List.append_nil]
  exact htaken.trans (List.sublist_append_left _ _)

theorem Log.recv (h : Log A past s) (ht : s.tasks[i]? = some ⟨handler, .serving rx sendTask⟩)
    (sendOk : Bool) :
    Log A (past ++ [.recv i sendOk]) (s.recv A i handler rx sendTask sendOk).2 := by
  obtain ⟨pre, post, taken, hlink⟩ := h.links i _ ht nofun
  obtain ⟨hrunning, hcounter⟩ := hlink.loop rx sendTask rfl
  obtain ⟨⟨queue, receiving⟩, hchannel, -⟩ := h.tables.receivers i rx ⟨_, ht, rfl⟩
  have hwaits : s.waiting (.serving rx sendTask) = queue := waiting_some rfl hchannel
  cases queue with
  | nil =>
      have hrecv : s.recv A i handler rx sendTask sendOk = _ := recv_nothing hchannel sendOk
      cases hsender : s.hasSender rx with
      | true =>
          rw [hsender, if_pos rfl] at hrecv
          rw [hrecv]
          exact h.idle rfl ((step_recv ht).trans hrecv)
      | false =>
          rw [hsender, if_neg nofun] at hrecv
          rw [hrecv]
          refine h.received ht hrecv rfl rfl nofun fun hsent => ⟨pre, _, _,
            hlink.close (hsent.trans ?_) (List.sublist_append_left _ _)⟩
          rw [Option.toList_none, List.append_nil, hlink.sent]
  | cons packet queue =>
      have hrecv : s.recv A i handler rx sendTask sendOk = _ := recv_packet hchannel hrunning sendOk
      have haccepted := accepted_snoc A taken packet
      rw [← hcounter] at haccepted
      by_cases hfits : packet.length ≤ A.maxPlaintext ∧ sendTask.sendCounter.toNat + 1 < 2 ^ 64
      · rw [if_pos hfits] at hrecv haccepted
        have hnumbered := numbered_snoc A handler (accepted A taken) packet
        rw [← haccepted, ← hcounter, UInt64.ofNat_toNat, ← hlink.sent] at hnumbered
        cases sendOk with
        | true =>
            rw [if_pos rfl] at hrecv
            rw [hrecv]
            refine h.received ht hrecv rfl rfl nofun fun hsent => ⟨pre, _, _,
              hlink.serve hchannel rfl (hsent.trans hnumbered.symm) hrunning ?_⟩
            rw [toNat_succ64 hfits.2, haccepted, List.length_append, hcounter]
            rfl
        | false =>
            rw [if_neg nofun] at hrecv
            rw [hrecv]
            refine h.received ht hrecv rfl rfl nofun fun hsent => ⟨pre, _, _,
              hlink.close (hsent.trans hnumbered.symm) ?_⟩
            rw [hwaits]
            exact (List.singleton_sublist.mpr List.mem_cons_self).append_left taken
      · rw [if_neg hfits] at hrecv haccepted
        rw [hrecv]
        refine h.received ht hrecv rfl rfl nofun fun hsent => ⟨pre, _, _,
          hlink.serve hchannel rfl ?_ hrunning ?_⟩
        · rw [hsent, Option.toList_none, List.append_nil, hlink.sent, haccepted]
        · rw [haccepted, hcounter]

end Recv

/-! ## Runs -/

/-- An event, and what the handlers make of it. -/
theorem log_step (h : Log A past s) (e : Event) :
    Log A (past ++ [e]) ((machine A).step s e).2 := by
  cases e with
  | spawn handler => exact h.spawn handler
  | start i =>
      by_cases hspawned : ∃ handler, s.tasks[i]? = some ⟨handler, .spawned⟩
      · obtain ⟨handler, ht⟩ := hspawned
        rw [(step_start A ht).1]
        exact h.start ht
      · have hstep := (step_start_idle A (not_exists.mp hspawned)).1
        rw [hstep]
        exact h.idle rfl hstep
  | recv i sendOk =>
      by_cases hserving : ∃ handler rx sendTask,
          s.tasks[i]? = some ⟨handler, .serving rx sendTask⟩
      · obtain ⟨handler, rx, sendTask, ht⟩ := hserving
        rw [step_recv ht]
        exact h.recv ht sendOk
      · have hidle : ∀ handler rx sendTask,
            s.tasks[i]? ≠ some ⟨handler, .serving rx sendTask⟩ := fun handler rx sendTask ht =>
          hserving ⟨handler, rx, sendTask, ht⟩
        have hstep : (machine A).step s (.recv i sendOk) = (none, s) := by
          simp only [machine, step]
        rw [hstep]
        exact h.idle rfl hstep
  | unregister i =>
      by_cases hending : ∃ handler, s.tasks[i]? = some ⟨handler, .unregistering⟩
      · obtain ⟨handler, ht⟩ := hending
        rw [step_unregister A ht]
        exact h.unregister ht
      · have hstep := step_unregister_idle A (not_exists.mp hending)
        rw [hstep]
        exact h.idle rfl hstep
  | tun packet =>
      cases hdst : extractDstIp packet with
      | none =>
          have hoffer : (Event.tun packet).offer = none := Option.map_eq_none_iff.mpr hdst
          have hstep : (machine A).step s (.tun packet) = (none, s) := by
            simp only [machine, step, ClientRegistry.routeToClient, hdst]
          rw [hstep]
          exact h.idle hoffer hstep
      | some ip =>
          have hoffer : (Event.tun packet).offer = some (ip, packet) :=
            Option.map_eq_some_iff.mpr ⟨ip, hdst, rfl⟩
          rw [step_offer A s hoffer]
          exact h.offer hoffer
  | echo vpnIp plaintext =>
      have hoffer : (Event.echo vpnIp plaintext).offer = some (vpnIp, plaintext) := rfl
      rw [step_offer A s hoffer]
      exact h.offer hoffer

end Step

/-- **What a peer is sent.** In any run of the handlers, with the packets of the TUN device and
    the echoes in between, and sends that fail: a handler that was started, at a `.start` that met
    it spawned, has sent its peer, and no one else, packets for its VPN IP that arrived since, in
    order and each once at most, sealed under the session's key and the counters from 0 on, so
    that no nonce is used twice. If no handler registers beside one of the same id modulo 253,
    then of the packets that arrived since a handler started none is passed over while it serves:
    those it took come first, in their order, and the others wait on its channel. -/
theorem downstream (A : ChaCha20Poly1305) (events : List Event) {i : ℕ} {t : HandlerTask}
    (ht : ((machine A).final new events).tasks[i]? = some t) :
    let s := (machine A).final new events
    (t.stage = .spawned ∧ sentBy A i events = []) ∨
      ∃ pre post taken, events = pre ++ .start i :: post ∧
        ((machine A).final new pre).tasks[i]? = some ⟨t.handler, .spawned⟩ ∧
        sentBy A i events = numbered A t.handler (accepted A taken) ∧
        ((sentBy A i events).map fun datagram => datagram.2.take CHACHA20_NONCE_SIZE).Nodup ∧
        (taken ++ s.waiting t.stage).Sublist (offered t.handler.vpnIp post) ∧
        (t.stage.rx?.isSome → (machine A).Always Fresh new events →
          offered t.handler.vpnIp post = taken ++ s.waiting t.stage) := by
  intro s
  have hnone : Log A [] new :=
    ⟨rfl, tables_new, fun _ _ => rfl, fun i t ht => by simp [new] at ht⟩
  have h : Log A events s :=
    (machine A).final_history (I := Log A) (fun _ _ e h => log_step h e) new events hnone
  by_cases hspawned : t.stage = .spawned
  · refine .inl ⟨hspawned, h.silent i fun u hu => ?_⟩
    rw [ht] at hu
    rw [← Option.some.inj hu, hspawned]
  · obtain ⟨pre, post, taken, hlink⟩ := h.links i t ht hspawned
    refine .inr ⟨pre, post, taken, hlink.started, hlink.spawned, hlink.sent, ?_, hlink.inOrder,
      hlink.whole⟩
    rw [hlink.sent]
    refine numbered_nonces A t.handler ?_
    rw [accepted, List.length_take]
    omega

section Sample

/-- Two clients; three packets for the first, of which it is sent two. -/
def downstreamEvents : List Event :=
  sampleEvents 5 6 ++ [.tun (ipv4To 10 8 0 7), .tun (ipv4To 10 8 0 8), .recv 0 true,
    .tun (ipv4To 10 8 0 7), .recv 0 true, .echo (vpnIp 5) [0x45]]

theorem downstream_sample :
    ∃ pre post taken, downstreamEvents = pre ++ .start 0 :: post ∧
      ((machine (tableAead [])).final new pre).tasks[0]? = some ⟨sampleHandler 5, .spawned⟩ ∧
      sentBy (tableAead []) 0 downstreamEvents =
        numbered (tableAead []) (sampleHandler 5) (accepted (tableAead []) taken) ∧
      offered (vpnIp 5) post = taken ++ [[0x45]] := by
  have ht : ((machine (tableAead [])).final new downstreamEvents).tasks[0]? =
      some ⟨sampleHandler 5, .serving 0 ⟨2, true⟩⟩ := by decide
  rcases downstream (tableAead []) downstreamEvents ht with
    ⟨hspawned, -⟩ | ⟨pre, post, taken, hevents, hstart, hsent, -, -, hwhole⟩
  · cases hspawned
  · refine ⟨pre, post, taken, hevents, hstart, hsent, (hwhole rfl (by decide)).trans ?_⟩
    exact congrArg (taken ++ ·) (by decide)

end Sample

end Handlers

end Llp.Server
