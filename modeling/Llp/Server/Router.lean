/-
  `llp-server/router.rs`: the router and the streams of its clients.

  Any task puts commands on the router's channel; `run` takes them off one after the other. With
  every registration goes a task that asks for the removal of the client an hour later. The
  session manager is shared with other tasks, which call it in between. A stream that was dropped
  has the bytes that were written to it.

  `Switchboard` is kept from the events and the results of the commands alone.

  * `send_cases`: what is written for one packet.
  * `step_kept`: an event, and its line on the switchboard.
  * `router_history`: after any run, the registered clients and what is read of their streams.
-/
import Llp.Client.SendStream
import Llp.Core.SessionStore
import Llp.Server.Routing

namespace Llp.Server
open ByteCodec Mimicry
open Client (TcpStream)
open Client.ServerConnection (focus_writeMessage writeMessage_apply)

/-! ## The clients -/

/-- `RouterCommand`. -/
inductive RouterCommand where
  | registerClient (sessionId : UInt64) (stream : TcpStream) (profile : MimicryProfile)
  | sendToClient (sessionId : UInt64) (data : Bytes)
  | removeClient (sessionId : UInt64)

/-- A packet is not empty and no larger than the protocol has them. -/
def RouterCommand.Sound : RouterCommand → Prop
  | .sendToClient _ data => 0 < data.length ∧ data.length ≤ MAX_PACKET_SIZE
  | _ => True

/-- `ClientInfo`. -/
structure ClientInfo where
  sessionId : UInt64
  stream : TcpStream
  wrapper : PacketWrapper
  vpnIp : Option IpAddr

namespace ClientInfo

section Parts

variable {α : Type}

/-- Call the wrapper. -/
def onWrapper (m : Method PacketWrapper MimicryError α) : Method ClientInfo BoxError α :=
  Method.focus wrapper (fun wrapper self => { self with wrapper := wrapper })
    (Method.mapError .mimicry m)

/-- Call the stream. -/
def onStream (m : Method TcpStream BoxError α) : Method ClientInfo BoxError α :=
  Method.focus stream (fun stream self => { self with stream := stream }) m

end Parts

/-- What `send_to_client` does with the client that it found. -/
def send (draws : PacketWrapper.Draws) (data : Bytes) : Method ClientInfo BoxError Unit := do
  let wrapped ← onWrapper (PacketWrapper.wrap draws data)
  onStream (TcpStream.writeU32 (UInt32.ofNat wrapped.length))
  onStream (TcpStream.writeAll wrapped)

/-- What a client's stream carries for a packet. -/
def wrapped (draws : PacketWrapper.Draws) (data : Bytes) (profile : MimicryProfile) : Bytes :=
  (PacketWrapper.response draws data profile).getD data

/-- A packet is written whole, or as far as the socket takes it. -/
theorem send_cases (draws : PacketWrapper.Draws) (data : Bytes) (self : ClientInfo) :
    ∃ wrapper' : PacketWrapper, wrapper'.profile = self.wrapper.profile ∧
      let body := frame (wrapped draws data self.wrapper.profile)
      (body.length ≤ self.stream.room ∧
        send draws data self = .ok () { self with
          wrapper := wrapper'
          stream := { self.stream with
            output := self.stream.output ++ body
            room := self.stream.room - body.length } } ∨
      self.stream.room < body.length ∧
        send draws data self = .error (.err .io) { self with
          wrapper := wrapper'
          stream := { self.stream with
            output := self.stream.output ++ body.take self.stream.room
            room := 0 } }) := by
  obtain ⟨wrapper', hprofile, hwrap⟩ := PacketWrapper.wrap_apply draws data self.wrapper
  refine ⟨wrapper', hprofile, ?_⟩
  intro body
  have hwrapped : onWrapper (PacketWrapper.wrap draws data) self =
      .ok (wrapped draws data self.wrapper.profile) { self with wrapper := wrapper' } :=
    Method.focus_ok (Method.mapError_ok hwrap)
  unfold send onStream
  rw [Method.bind_ok hwrapped, focus_writeMessage]
  · have hwrite := writeMessage_apply (wrapped draws data self.wrapper.profile) self.stream
    by_cases hfits : body.length ≤ self.stream.room
    · rw [if_pos hfits] at hwrite
      exact .inl ⟨hfits, Method.focus_ok hwrite⟩
    · rw [if_neg hfits] at hwrite
      exact .inr ⟨Nat.lt_of_not_le hfits, Method.focus_error hwrite⟩
  · exact fun _ _ => rfl
  · exact fun _ _ _ => rfl

end ClientInfo

/-! ## The router -/

/-- `Router`: beside its maps, the commands on its channel, the tasks that `register_client` has
    started and that sleep, and the clients that were dropped. -/
structure Router where
  sessionManager : SessionManager
  clients : AList fun _ : UInt64 => ClientInfo
  ipToSession : AList fun _ : IpAddr => UInt64
  rx : List RouterCommand
  readLoops : List UInt64
  dropped : List ClientInfo

namespace Router

/-- `Router::new`. -/
def new (sessionManager : SessionManager) : Router := ⟨sessionManager, ∅, ∅, [], [], []⟩

/-- A call of a `RouterHandle`: the receiver is `run`'s as long as it runs, so the send is taken. -/
def handle (command : RouterCommand) (self : Router) : Router :=
  { self with rx := self.rx ++ [command] }

/-- `register_client`: a client registered before under the id is dropped, with its stream. -/
def registerClient (sessionId : UInt64) (stream : TcpStream) (profile : MimicryProfile) :
    Method Router BoxError Unit := do
  let self ← get
  let wrapper := PacketWrapper.new profile
  let clientInfo : ClientInfo := ⟨sessionId, stream, wrapper, none⟩
  set { self with
    clients := self.clients.insert sessionId clientInfo
    dropped := self.dropped ++ (self.clients.lookup sessionId).toList
    readLoops := self.readLoops ++ [sessionId] }

/-- `send_to_client`. -/
def sendToClient (draws : PacketWrapper.Draws) (sessionId : UInt64) (data : Bytes) :
    Method Router BoxError Unit := do
  let self ← get
  let client ← Method.okOr (.message "Клиент не найден") (self.clients.lookup sessionId)
  Method.focus (fun self => (self.clients.lookup sessionId).getD client)
    (fun client self => { self with clients := self.clients.insert sessionId client })
    (ClientInfo.send draws data)

/-- `remove_client`: what `remove_session` returns is ignored. -/
def removeClient (sessionId : UInt64) (self : Router) : Router :=
  match self.clients.lookup sessionId with
  | none => self
  | some client =>
      { self with
        clients := self.clients.erase sessionId
        dropped := self.dropped ++ [client]
        ipToSession := match client.vpnIp with
          | some ip => self.ipToSession.erase ip
          | none => self.ipToSession
        sessionManager :=
          Method.state (SessionManager.removeSession sessionId self.sessionManager) }

/-- What `run` does with a command; an error is logged only. -/
def run (draws : PacketWrapper.Draws) : RouterCommand → Method Router BoxError Unit
  | .registerClient sessionId stream profile => registerClient sessionId stream profile
  | .sendToClient sessionId data => sendToClient draws sessionId data
  | .removeClient sessionId => modify (removeClient sessionId)

/-- The hour of a `client_read_loop` is over: it asks for the removal of its client. -/
def wake (i : ℕ) (self : Router) : Router :=
  match self.readLoops[i]? with
  | none => self
  | some sessionId =>
      handle (.removeClient sessionId) { self with readLoops := self.readLoops.eraseIdx i }

/-- What can happen next: a call of a handle, the end of a read loop's sleep, `run` takes a
    command, another task calls the session manager. -/
inductive Event where
  | handle (command : RouterCommand)
  | wake (i : ℕ)
  | recv (draws : PacketWrapper.Draws)
  | manager (call : SessionManager.Call)

/-- The router among the other tasks; the output is the command that was handled. -/
def machine (A : ChaCha20Poly1305) :
    Machine Router Event (Option (RouterCommand × Fallible BoxError Unit)) where
  step self
    | .handle command => (none, self.handle command)
    | .wake i => (none, self.wake i)
    | .recv draws =>
        match self.rx with
        | [] => (none, self)
        | command :: rx =>
            let result := run draws command { self with rx := rx }
            (some (command, Method.result result), Method.state result)
    | .manager call =>
        (none, { self with
          sessionManager := ((SessionManager.calls A).step self.sessionManager call).2 })

/-! ## The switchboard -/

/-- A client that was registered: what had been written to its stream before, and the packets
    sent to it since. -/
structure Line where
  start : Bytes
  profile : MimicryProfile
  sent : List Bytes

/-- What is known from outside: the commands, those that were handled, the tasks that sleep, the
    lines that are open and those that were, and the calls on the session manager. -/
structure Switchboard where
  asked : List RouterCommand
  handled : List RouterCommand
  sleeping : List UInt64
  lines : UInt64 → Option Line
  ended : List Line
  calls : List SessionManager.Call

namespace Switchboard

def empty : Switchboard := ⟨[], [], [], fun _ => none, [], []⟩

/-- A command that was handled. -/
def answer (board : Switchboard) (result : Fallible BoxError Unit) : RouterCommand → Switchboard
  | .registerClient sessionId stream profile =>
      { board with
        lines := Function.update board.lines sessionId (some ⟨stream.output, profile, []⟩)
        ended := board.ended ++ (board.lines sessionId).toList
        sleeping := board.sleeping ++ [sessionId] }
  | .sendToClient sessionId data =>
      { board with
        lines := if result.isOk then
            Function.update board.lines sessionId
              ((board.lines sessionId).map fun line => { line with sent := line.sent ++ [data] })
          else board.lines }
  | .removeClient sessionId =>
      { board with
        lines := Function.update board.lines sessionId none
        ended := board.ended ++ (board.lines sessionId).toList
        calls := board.calls ++
          (board.lines sessionId).toList.map fun _ => .removeSession sessionId }

/-- A task that slept asks for the removal of its client. -/
def wake (board : Switchboard) (i : ℕ) : Switchboard :=
  match board.sleeping[i]? with
  | none => board
  | some sessionId =>
      { board with
        sleeping := board.sleeping.eraseIdx i
        asked := board.asked ++ [.removeClient sessionId] }

/-- An event and what came of it. -/
def after (board : Switchboard) :
    Event × Option (RouterCommand × Fallible BoxError Unit) → Switchboard
  | (.handle command, _) => { board with asked := board.asked ++ [command] }
  | (.wake i, _) => board.wake i
  | (.recv _, none) => board
  | (.recv _, some (command, result)) =>
      { board.answer result command with handled := board.handled ++ [command] }
  | (.manager call, _) => { board with calls := board.calls ++ [call] }

end Switchboard

/-! ## The lines -/

/-- What was written to the stream since the line was opened is read as what was sent over it,
    however it is cut. -/
def Line.ReadFrom (http : HttParse) (line : Line) (stream : TcpStream) : Prop :=
  ∃ written, stream.output = line.start ++ written ∧
    ∀ pieces, pieces.flatten = written →
      (frames.reader.outputs [] pieces).flatten.map
        ((PacketWrapper.new line.profile).unwrap http) = line.sent.map .ok

/-- A body from which the packet is taken, and whose length its frame can tell. -/
def Holds (http : HttParse) (profile : MimicryProfile) (data body : Bytes) : Prop :=
  body.length < 2 ^ 32 ∧ (PacketWrapper.new profile).unwrap http body = .ok data

/-- A client and its line: behind the start stand the frames of what was sent, and the beginning of
    one more only if the socket takes nothing after it. -/
structure Line.Carried (http : HttParse) (line : Line) (client : ClientInfo) : Prop where
  profile : client.wrapper.profile = line.profile
  written : ∃ (sent : List (Bytes × Bytes)) (front : Bytes), sent.map Prod.fst = line.sent ∧
    (∀ s ∈ sent, Holds http line.profile s.1 s.2) ∧
    client.stream.output = line.start ++ ((sent.map fun s => frame s.2).flatten ++ front) ∧
    frames.next front = none ∧ (front = [] ∨ client.stream.room = 0)

section Lines

variable {http : HttParse} {line : Line} {client : ClientInfo}

theorem carried_opened (sessionId : UInt64) (stream : TcpStream) (profile : MimicryProfile) :
    Line.Carried http ⟨stream.output, profile, []⟩
      ⟨sessionId, stream, PacketWrapper.new profile, none⟩ :=
  ⟨rfl, [], [], rfl, nofun, (List.append_nil _).symm, frames.next_nil, .inl rfl⟩

theorem Line.Carried.readFrom (h : line.Carried http client) :
    line.ReadFrom http client.stream := by
  obtain ⟨sent, front, hsent, hholds, houtput, hfront, -⟩ := h.written
  refine ⟨_, houtput, fun pieces hpieces => ?_⟩
  have hwrites : List.Forall₂ frames.Writes (sent.map Prod.snd)
      (sent.map fun s => frame s.2) := by
    rw [List.forall₂_map_left_iff, List.forall₂_map_right_iff, List.forall₂_same]
    exact fun s hs => frame_writes (hholds s hs).1
  have hread := (frames.outputs_reader [] pieces (frames.drain_none frames.next_nil)).1
  rw [List.nil_append, hpieces, Delimiter.drain_writes hwrites hfront] at hread
  rw [hread, ← hsent, List.map_map, List.map_map]
  exact List.map_congr_left fun s hs => (hholds s hs).2

/-- What the router wraps can be unwrapped. -/
theorem holds_wrapped (hhttp : http.EndsHeads) {draws : PacketWrapper.Draws}
    (hdated : draws.Dated) {data : Bytes} (hpos : 0 < data.length)
    (hmax : data.length ≤ MAX_PACKET_SIZE) (profile : MimicryProfile) :
    Holds http profile data (ClientInfo.wrapped draws data profile) := by
  refine ⟨PacketWrapper.response_length_lt hdated hpos hmax profile, ?_⟩
  obtain ⟨front, hfront, hresponse, -⟩ := PacketWrapper.response_eq hdated data profile
  rw [ClientInfo.wrapped, hresponse]
  exact PacketWrapper.unwrap_front hhttp Iff.rfl hfront (List.length_pos_iff.mp hpos)

/-- A packet that is sent is read after those before it, or there is nothing of it to read. -/
theorem Line.Carried.send (hhttp : http.EndsHeads) (h : line.Carried http client)
    {draws : PacketWrapper.Draws} (hdated : draws.Dated) {data : Bytes} (hpos : 0 < data.length)
    (hmax : data.length ≤ MAX_PACKET_SIZE) :
    (∃ client', ClientInfo.send draws data client = .ok () client' ∧
      client'.sessionId = client.sessionId ∧
      { line with sent := line.sent ++ [data] }.Carried http client') ∨
    ∃ e client', ClientInfo.send draws data client = .error e client' ∧
      client'.sessionId = client.sessionId ∧ line.Carried http client' := by
  obtain ⟨sent, front, hsent, hall, houtput, hfront, hlast⟩ := h.written
  obtain ⟨wrapper', hprofile, hsend⟩ := client.send_cases draws data
  have hholds := holds_wrapped hhttp hdated hpos hmax client.wrapper.profile
  rcases hsend with ⟨hfits, hok⟩ | ⟨hfull, herror⟩
  · -- there was room, so nothing is cut yet
    have hwhole : front = [] := by
      rcases hlast with hwhole | hroom
      · exact hwhole
      · rw [length_frame] at hfits
        omega
    refine .inl ⟨_, hok, rfl, hprofile.trans h.profile,
      sent ++ [(data, ClientInfo.wrapped draws data client.wrapper.profile)], [], ?_, ?_, ?_,
      frames.next_nil, .inl rfl⟩
    · rw [List.map_append, hsent]
      rfl
    · rw [h.profile] at hholds ⊢
      exact List.forall_mem_append.mpr ⟨hall, List.forall_mem_singleton.mpr hholds⟩
    · simp only [houtput, hwhole, List.map_append, List.flatten_append, List.map_cons,
        List.map_nil, List.flatten_cons, List.flatten_nil, List.append_nil, List.append_assoc]
  · refine .inr ⟨_, _, herror, rfl, hprofile.trans h.profile, sent, front ++
      (frame (ClientInfo.wrapped draws data client.wrapper.profile)).take client.stream.room,
      hsent, hall, ?_, ?_, .inr rfl⟩
    · simp only [houtput, List.append_assoc]
    · rcases hlast with rfl | hroom
      · refine (frame_writes hholds.1).cut (List.take_prefix _ _) fun hwhole => ?_
        have hlength := congrArg List.length hwhole
        rw [List.nil_append, List.length_take] at hlength
        omega
      · rw [hroom, List.take_zero, List.append_nil]
        exact hfront

end Lines

/-! ## Event by event -/

/-- What is sent is a packet, and the dates that are drawn are what `chrono` prints. -/
def Event.Sound : Event → Prop
  | .handle command => command.Sound
  | .recv draws => draws.Dated
  | _ => True

/-- The switchboard of a run, and the router after it. -/
structure Kept (A : ChaCha20Poly1305) (http : HttParse) (manager : SessionManager)
    (board : Switchboard) (router : Router) : Prop where
  queue : board.handled ++ router.rx = board.asked
  sound : ∀ command ∈ router.rx, command.Sound
  lines : AList.Matches (fun sessionId line client =>
    client.sessionId = sessionId ∧ Line.Carried http line client) board.lines router.clients
  ended : List.Forall₂ (Line.Carried http) board.ended router.dropped
  sleeping : board.sleeping = router.readLoops
  manager : router.sessionManager = (SessionManager.calls A).final manager board.calls
  leaving : ∀ sessionId, (board.lines sessionId).isSome →
    sessionId ∈ router.readLoops ∨ .removeClient sessionId ∈ router.rx

section Kept

variable {A : ChaCha20Poly1305} {http : HttParse} {manager : SessionManager}
variable {board : Switchboard} {router : Router} {sessionId : UInt64}

theorem kept_new (A : ChaCha20Poly1305) (http : HttParse) (manager : SessionManager) :
    Kept A http manager .empty (Router.new manager) :=
  ⟨rfl, nofun, .empty, .nil, rfl, rfl, nofun⟩

theorem kept_handle (h : Kept A http manager board router) {command : RouterCommand}
    (hsound : command.Sound) :
    Kept A http manager { board with asked := board.asked ++ [command] }
      (router.handle command) := by
  refine { h with queue := ?_, sound := ?_, leaving := ?_ }
  · show board.handled ++ (router.rx ++ [command]) = board.asked ++ [command]
    rw [← h.queue, List.append_assoc]
  · exact List.forall_mem_append.mpr ⟨h.sound, List.forall_mem_singleton.mpr hsound⟩
  · intro id hid
    rcases h.leaving id hid with hsleeps | hcoming
    · exact .inl hsleeps
    · exact .inr (List.mem_append_left _ hcoming)

theorem kept_wake (h : Kept A http manager board router) (i : ℕ) :
    Kept A http manager (board.wake i) (router.wake i) := by
  unfold Switchboard.wake wake
  rw [h.sleeping]
  cases hloop : router.readLoops[i]? with
  | none => exact h
  | some sessionId =>
      refine { h with queue := ?_, sound := ?_, sleeping := rfl, leaving := ?_ }
      · show board.handled ++ (router.rx ++ [.removeClient sessionId]) =
          board.asked ++ [.removeClient sessionId]
        rw [← h.queue, List.append_assoc]
      · exact List.forall_mem_append.mpr ⟨h.sound, List.forall_mem_singleton.mpr trivial⟩
      · intro id hid
        by_cases hsame : id = sessionId
        · subst hsame
          exact .inr (List.mem_append_right _ List.mem_cons_self)
        · rcases h.leaving id hid with hsleeps | hcoming
          · refine .inl (List.mem_eraseIdx_iff_getElem?.mpr ?_)
            obtain ⟨j, hj⟩ := List.getElem?_of_mem hsleeps
            refine ⟨j, fun hij => ?_, hj⟩
            subst hij
            exact hsame (Option.some.inj (hj.symm.trans hloop))
          · exact .inr (List.mem_append_left _ hcoming)

theorem kept_manager (h : Kept A http manager board router) (call : SessionManager.Call) :
    Kept A http manager { board with calls := board.calls ++ [call] }
      { router with
        sessionManager := ((SessionManager.calls A).step router.sessionManager call).2 } := by
  refine { h with manager := ?_ }
  show _ = (SessionManager.calls A).final manager (board.calls ++ [call])
  rw [Machine.final_snoc, ← h.manager]

/-! ### Command by command -/

/-- The router has taken the command at the front of its channel. -/
structure Next (A : ChaCha20Poly1305) (http : HttParse) (manager : SessionManager)
    (board : Switchboard) (router : Router) (command : RouterCommand) : Prop where
  kept : Kept A http manager board { router with rx := command :: router.rx }

/-- And has handled it. -/
def Handled (A : ChaCha20Poly1305) (http : HttParse) (manager : SessionManager)
    (draws : PacketWrapper.Draws) (board : Switchboard) (router : Router)
    (command : RouterCommand) : Prop :=
  Kept A http manager
    { board.answer (Method.result (run draws command router)) command with
      handled := board.handled ++ [command] }
    (Method.state (run draws command router))

section Next

variable {command : RouterCommand}

theorem Next.queue (h : Next A http manager board router command) :
    board.handled ++ [command] ++ router.rx = board.asked := by
  rw [List.append_assoc]
  exact h.kept.queue

theorem Next.sound (h : Next A http manager board router command) :
    ∀ command ∈ router.rx, command.Sound := fun c hc =>
  h.kept.sound c (List.mem_cons_of_mem _ hc)

theorem Next.leaving (h : Next A http manager board router command)
    (hopen : (board.lines sessionId).isSome) (hother : command ≠ .removeClient sessionId) :
    sessionId ∈ router.readLoops ∨ .removeClient sessionId ∈ router.rx := by
  rcases h.kept.leaving sessionId hopen with hsleeps | hcoming
  · exact .inl hsleeps
  · exact .inr (List.mem_of_ne_of_mem hother.symm hcoming)

/-- The line and the client of an id end together. -/
theorem Next.ended (h : Next A http manager board router command) (sessionId : UInt64) :
    List.Forall₂ (Line.Carried http) (board.ended ++ (board.lines sessionId).toList)
      (router.dropped ++ (router.clients.lookup sessionId).toList) :=
  List.rel_append h.kept.ended ((h.kept.lines sessionId).toList.imp fun _ _ hline => hline.2)

end Next

theorem handled_register {stream : TcpStream} {profile : MimicryProfile}
    (h : Next A http manager board router (.registerClient sessionId stream profile))
    (draws : PacketWrapper.Draws) :
    Handled A http manager draws board router (.registerClient sessionId stream profile) := by
  refine ⟨h.queue, h.sound, h.kept.lines.insert ⟨rfl, carried_opened _ stream profile⟩,
    h.ended sessionId, ?_, h.kept.manager, fun id hid => ?_⟩
  · show board.sleeping ++ [sessionId] = router.readLoops ++ [sessionId]
    rw [h.kept.sleeping]
  · by_cases hsame : id = sessionId
    · subst hsame
      exact .inl (List.mem_append_right _ List.mem_cons_self)
    · have hopen : (board.lines id).isSome := by
        rwa [← Function.update_of_ne hsame (some ⟨stream.output, profile, []⟩) board.lines]
      rcases h.leaving hopen (by nofun) with hsleeps | hcoming
      · exact .inl (List.mem_append_left _ hsleeps)
      · exact .inr hcoming

theorem handled_remove (h : Next A http manager board router (.removeClient sessionId))
    (draws : PacketWrapper.Draws) :
    Handled A http manager draws board router (.removeClient sessionId) := by
  have hleaving : ∀ id, ((Function.update board.lines sessionId none) id).isSome →
      id ∈ router.readLoops ∨ .removeClient id ∈ router.rx := by
    intro id hid
    have hother : id ≠ sessionId := by
      rintro rfl
      rw [Function.update_self] at hid
      cases hid
    rw [Function.update_of_ne hother] at hid
    exact h.leaving hid fun hsame => hother (RouterCommand.removeClient.inj hsame).symm
  have hrun : run draws (.removeClient sessionId) router =
      .ok () (router.removeClient sessionId) := rfl
  have hlines := h.kept.lines.erase sessionId
  have hended := h.ended sessionId
  have hrel := h.kept.lines sessionId
  unfold Handled removeClient at *
  rw [hrun]
  cases hclient : router.clients.lookup sessionId with
  | none =>
      rw [hclient] at hrel hended
      have hline : board.lines sessionId = none := by
        rw [← Option.not_isSome_iff_eq_none, hrel.isSome_eq]
        nofun
      have hcalls : (board.lines sessionId).toList.map (fun _ =>
          SessionManager.Call.removeSession sessionId) = [] := by
        rw [hline]
        rfl
      refine ⟨h.queue, h.sound, ?_, ?_, h.kept.sleeping, ?_, hleaving⟩
      · rwa [AList.erase_of_notMem (AList.lookup_eq_none.mp hclient)] at hlines
      · rwa [Option.toList_none, List.append_nil] at hended
      · show router.sessionManager = (SessionManager.calls A).final manager (board.calls ++ _)
        rw [hcalls, List.append_nil]
        exact h.kept.manager
  | some client =>
      rw [hclient] at hrel hended
      obtain ⟨line, hline, -⟩ := hrel.of_some_right
      have hcalls : (board.lines sessionId).toList.map (fun _ =>
          SessionManager.Call.removeSession sessionId) = [.removeSession sessionId] := by
        rw [hline]
        rfl
      refine ⟨h.queue, h.sound, hlines, hended, h.kept.sleeping, ?_, hleaving⟩
      show _ = (SessionManager.calls A).final manager (board.calls ++ _)
      rw [hcalls, Machine.final_snoc, ← h.kept.manager]
      rfl

/-- A packet for nobody. -/
theorem sendToClient_none (hclient : router.clients.lookup sessionId = none)
    (draws : PacketWrapper.Draws) (data : Bytes) : sendToClient draws sessionId data router =
      .error (.err (.message "Клиент не найден")) router := by
  unfold sendToClient
  rw [Method.get_bind, hclient]
  rfl

/-- A packet for a client is sent over its stream. -/
theorem sendToClient_some {client : ClientInfo}
    (hclient : router.clients.lookup sessionId = some client) (draws : PacketWrapper.Draws)
    (data : Bytes) : sendToClient draws sessionId data router =
      Method.focus (fun _ => client)
        (fun client self => { self with clients := self.clients.insert sessionId client })
        (ClientInfo.send draws data) router := by
  unfold sendToClient
  rw [Method.get_bind, hclient, Method.okOr_some, pure_bind]
  simp only [Method.focus, hclient, Option.getD_some]

theorem sendToClient_notFound {draws : PacketWrapper.Draws} {data : Bytes} :
    Method.result (sendToClient draws sessionId data router) =
      .error (.err (.message "Клиент не найден")) ↔ router.clients.lookup sessionId = none := by
  cases hclient : router.clients.lookup sessionId with
  | none => exact iff_of_true (by rw [sendToClient_none hclient]; rfl) rfl
  | some client =>
      refine iff_of_false (fun hresult => ?_) nofun
      rw [sendToClient_some hclient] at hresult
      -- the only error of a send is that of the socket
      obtain ⟨wrapper', -, ⟨-, hsend⟩ | ⟨-, hsend⟩⟩ := client.send_cases draws data
      · rw [Method.focus_ok hsend] at hresult
        cases hresult
      · rw [Method.focus_error hsend] at hresult
        cases hresult

theorem handled_send (hhttp : http.EndsHeads) {data : Bytes}
    (h : Next A http manager board router (.sendToClient sessionId data))
    {draws : PacketWrapper.Draws} (hdated : draws.Dated) :
    Handled A http manager draws board router (.sendToClient sessionId data) := by
  have hsound : 0 < data.length ∧ data.length ≤ MAX_PACKET_SIZE :=
    h.kept.sound _ List.mem_cons_self
  have hrun : run draws (.sendToClient sessionId data) router =
      sendToClient draws sessionId data router := rfl
  have hleaving : ∀ id, (board.lines id).isSome →
      id ∈ router.readLoops ∨ .removeClient id ∈ router.rx := fun id hid => h.leaving hid nofun
  have hrel := h.kept.lines sessionId
  unfold Handled
  rw [hrun]
  cases hclient : router.clients.lookup sessionId with
  | none =>
      rw [sendToClient_none hclient]
      exact ⟨h.queue, h.sound, h.kept.lines, h.kept.ended, h.kept.sleeping, h.kept.manager,
        hleaving⟩
  | some client =>
      rw [hclient] at hrel
      obtain ⟨line, hline, hid, hcarried⟩ := hrel.of_some_right
      rw [sendToClient_some hclient]
      rcases hcarried.send hhttp hdated hsound.1 hsound.2 with
        ⟨client', hsend, hid', hcarried'⟩ | ⟨e, client', hsend, hid', hcarried'⟩
      · rw [Method.focus_ok hsend]
        have hentry : (board.lines sessionId).map (fun line =>
            { line with sent := line.sent ++ [data] }) =
              some { line with sent := line.sent ++ [data] } := by
          rw [hline]
          rfl
        refine ⟨h.queue, h.sound, ?_, h.kept.ended, h.kept.sleeping, h.kept.manager, ?_⟩
        · show AList.Matches _ (Function.update board.lines sessionId _) _
          rw [hentry]
          exact h.kept.lines.insert ⟨hid'.trans hid, hcarried'⟩
        · intro id hopen
          refine hleaving id ?_
          by_cases hsame : id = sessionId
          · rw [hsame, hline]
            rfl
          · rwa [← Function.update_of_ne hsame _ board.lines]
      · rw [Method.focus_error hsend]
        refine ⟨h.queue, h.sound, ?_, h.kept.ended, h.kept.sleeping, h.kept.manager, hleaving⟩
        have hsame := h.kept.lines.insert (k := sessionId) ⟨hid'.trans hid, hcarried'⟩
        rwa [← hline, Function.update_eq_self] at hsame

/-! ## Runs -/

/-- An event, and its line on the switchboard. -/
theorem step_kept (hhttp : http.EndsHeads) (h : Kept A http manager board router) {event : Event}
    (hsound : event.Sound) :
    Kept A http manager (board.after (event, ((machine A).step router event).1))
      ((machine A).step router event).2 := by
  cases event with
  | handle command => exact kept_handle h hsound
  | wake i => exact kept_wake h i
  | manager call => exact kept_manager h call
  | recv draws =>
      obtain ⟨sessionManager, clients, ipToSession, rx, readLoops, dropped⟩ := router
      cases rx with
      | nil => exact h
      | cons command rx =>
          have hnext : Next A http manager board
              ⟨sessionManager, clients, ipToSession, rx, readLoops, dropped⟩ command := ⟨h⟩
          cases command with
          | registerClient sessionId stream profile => exact handled_register hnext draws
          | sendToClient sessionId data => exact handled_send hhttp hnext hsound
          | removeClient sessionId => exact handled_remove hnext draws

end Kept

/-- The switchboard of a run of a new router. -/
def board (A : ChaCha20Poly1305) (manager : SessionManager) (events : List Event) : Switchboard :=
  (events.zip ((machine A).outputs (new manager) events)).foldl Switchboard.after .empty

/-- **The streams of the router.** After any run of a new router, with commands from any task, the
    read loops' hours over in any order and the session manager called in between: the commands
    were handled in the order in which they were sent, and the others wait. The clients are those
    registered and not removed since; what was written to the stream of each, and of those that
    are gone, is read as the packets whose sending returned `Ok`, in order and no others. Every
    client has a removal to come, and the session manager was called for those that were removed
    only. A packet is refused for want of a client exactly when its line is not open. -/
theorem router_history {http : HttParse} (hhttp : http.EndsHeads) (A : ChaCha20Poly1305)
    (manager : SessionManager) {events : List Event} (hsound : ∀ event ∈ events, event.Sound) :
    let router := (machine A).final (new manager) events
    let board := board A manager events
    board.handled ++ router.rx = board.asked ∧
      (∀ sessionId, Option.Rel
        (fun line client => client.sessionId = sessionId ∧ Line.ReadFrom http line client.stream)
        (board.lines sessionId) (router.clients.lookup sessionId)) ∧
      List.Forall₂ (fun line client => Line.ReadFrom http line client.stream)
        board.ended router.dropped ∧
      (∀ sessionId ∈ router.clients,
        sessionId ∈ router.readLoops ∨ .removeClient sessionId ∈ router.rx) ∧
      router.sessionManager = (SessionManager.calls A).final manager board.calls ∧
      ∀ draws sessionId data,
        Method.result (sendToClient draws sessionId data router) =
          .error (.err (.message "Клиент не найден")) ↔ board.lines sessionId = none := by
  intro router board
  have h : Kept A http manager board router :=
    (machine A).foldl_related (R := Kept A http manager) (P := Event.Sound)
      (fun _ _ _ h hevent => step_kept hhttp h hevent) _ _ events (kept_new A http manager) hsound
  refine ⟨h.queue, fun id => ?_, h.ended.imp fun _ _ hline => hline.readFrom, fun id hid => ?_,
    h.manager, fun draws id data => ?_⟩
  · exact (h.lines id).imp fun _ _ hline => ⟨hline.1, hline.2.readFrom⟩
  · refine h.leaving id ?_
    rw [(h.lines id).isSome_eq]
    exact AList.lookup_isSome.mpr hid
  · rw [sendToClient_notFound, ← Option.not_isSome_iff_eq_none, ← Option.not_isSome_iff_eq_none,
      (h.lines id).isSome_eq]

section Sample

/-- A client over a socket that takes one packet and a part of a second; its hour is over. -/
def sampleEvents : List Event :=
  [.handle (.registerClient 9 ⟨[], [1, 2], 600⟩ .ruTube), .recv PacketWrapper.sampleDraws,
    .handle (.sendToClient 9 [0x45]), .handle (.sendToClient 9 [0x46]), .manager (.removeSession 8),
    .recv PacketWrapper.sampleDraws, .wake 0, .recv PacketWrapper.sampleDraws,
    .recv PacketWrapper.sampleDraws]

theorem router_history_sample :
    let router := (machine (tableAead [])).final (new .new) sampleEvents
    let board := board (tableAead []) .new sampleEvents
    board.handled ++ router.rx = board.asked ∧
      (∀ sessionId, Option.Rel (fun line client =>
          client.sessionId = sessionId ∧ Line.ReadFrom HttParse.scan line client.stream)
        (board.lines sessionId) (router.clients.lookup sessionId)) ∧
      List.Forall₂ (fun line client => Line.ReadFrom HttParse.scan line client.stream)
        board.ended router.dropped := by
  have hsound : ∀ event ∈ sampleEvents, event.Sound := by
    have hdraws : Event.Sound (.recv PacketWrapper.sampleDraws) := PacketWrapper.sampleDraws_dated
    have hdata : ∀ byte, Event.Sound (.handle (.sendToClient 9 [byte])) := fun _ =>
      show 0 < 1 ∧ 1 ≤ MAX_PACKET_SIZE by decide
    intro event hevent
    simp only [sampleEvents, List.mem_cons, List.not_mem_nil, or_false] at hevent
    rcases hevent with rfl | rfl | rfl | rfl | rfl | rfl | rfl | rfl | rfl
    · trivial
    · exact hdraws
    · exact hdata 0x45
    · exact hdata 0x46
    · trivial
    · exact hdraws
    · trivial
    · exact hdraws
    · exact hdraws
  obtain ⟨hqueue, hlines, hended, -⟩ :=
    router_history HttParse.scan_endsHeads (tableAead []) .new hsound
  exact ⟨hqueue, hlines, hended⟩

end Sample

end Router

end Llp.Server
