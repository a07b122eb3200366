/-
  The receive side of `VpnClient::run`: the `select!` over packets from TUN and frames from the
  server.

  A round of the loop polls a fresh `receive_packet` until it is ready, or drops it when a packet
  from TUN is ready first, and what it has taken from the stream with it. An event is an arrival
  of bytes, a poll, or a packet from TUN; a run is about one connection, which an error ends.

  * `receivePacket_frame`: with the whole frame arrived, one poll is one call.
  * `frames_in_order`: as long as no packet from TUN is sent while part of a frame is taken, the
    frames handed on are the first ones that the server sent.
-/
import Llp.Client.Connection
import Llp.Lib.Frames

namespace Llp.Client
open ByteCodec Mimicry

/-! ## One call -/

namespace ServerConnection

/-- `receive_packet` from the frame on. -/
def openFrame (A : ChaCha20Poly1305) (http : HttParse) (now now' : Instant) (session : Session)
    (wrapper : PacketWrapper) (buf : Bytes) : Method ServerConnection BoxError Bytes := do
  let unwrapped ← Method.mapError .mimicry (Method.lift (wrapper.unwrap http buf))
  let llpPacket ← Method.mapError .llp (Method.lift (LlpPacket.deserialize unwrapped))
  let aad := llpPacket.header.serialize
  onSession session
    (Session.decryptPayload A now now' llpPacket.encryptedPayload aad
      llpPacket.header.sequenceNumber)

/-- With the whole frame arrived, `receive_packet` opens what a new reader reads. -/
theorem receivePacket_frame (A : ChaCha20Poly1305) (http : HttParse) (now now' : Instant)
    {session : Session} {wrapper : PacketWrapper} {stream : TcpStream} {buf rest : Bytes}
    (h : FrameReader.new.resume 65536 stream.input = .frame buf rest) :
    receivePacket A http now now' ⟨some stream, some wrapper, some session⟩ =
      openFrame A http now now' session wrapper buf
        ⟨some { stream with input := rest }, some wrapper, some session⟩ := by
  obtain ⟨hword, hlimit, hbody, rfl, rfl⟩ := FrameReader.resume_new_eq_frame h
  have hlen : (UInt32.ofNat (ofBE (stream.input.take 4))).toNat = ofBE (stream.input.take 4) := by
    refine Nat.mod_eq_of_lt (lt_of_lt_of_le (ofBE_lt _) ?_)
    exact Nat.pow_le_pow_right (by decide) (List.length_take_le 4 _)
  have hreadWord : TcpStream.readU32 stream =
      .ok (UInt32.ofNat (ofBE (stream.input.take 4)))
        { stream with input := stream.input.drop 4 } := by
    unfold TcpStream.readU32
    rw [Method.bind_ok (TcpStream.readExact_ok hword), Method.pure_apply]
  have hstream : ∀ {α : Type} {m : Method TcpStream BoxError α} {t u : TcpStream} {a : α},
      m t = .ok a u → onStream stream m ⟨some t, some wrapper, some session⟩ =
        .ok a ⟨some u, some wrapper, some session⟩ :=
    fun hm => Method.focus_ok hm
  unfold receivePacket
  rw [Method.get_bind]
  simp only [Method.okOr_some, pure_bind]
  rw [Method.bind_ok (hstream hreadWord), Method.bind_ok (Method.failIf_neg _ (by rwa [hlen]) _),
    hlen, Method.bind_ok (hstream (TcpStream.readExact_ok hbody))]
  rfl

/-! ### What is left to read -/

/-- The connection has the given bytes to read. -/
def HasInput (input : Bytes) (c : ServerConnection) : Prop :=
  ∃ stream, c.stream = some stream ∧ stream.input = input

section HasInput

variable {input : Bytes} {α : Type}

theorem onSession_keeps (session : Session) (m : Method Session LlpError α) :
    Method.Keeps (HasInput input) (onSession session m) :=
  Method.Keeps.focus fun _ h => h

theorem onWrapper_keeps (wrapper : PacketWrapper) (m : Method PacketWrapper MimicryError α) :
    Method.Keeps (HasInput input) (onWrapper wrapper m) :=
  Method.Keeps.focus fun _ h => h

/-- A write leaves what there is to read. -/
theorem writeAll_keeps (stream : TcpStream) (bytes : Bytes) :
    Method.Keeps (HasInput input) (onStream stream (TcpStream.writeAll bytes)) := by
  refine Method.Keeps.focus ?_
  rintro c ⟨t, ht, hinput⟩
  have hwrite : Method.Keeps (fun t => t.input = input) (TcpStream.writeAll bytes) := by
    intro t ht
    unfold TcpStream.writeAll
    rw [Method.get_bind, Method.set_bind]
    exact Method.Keeps.failIf (I := fun t : TcpStream => t.input = input)
      (t.room < bytes.length) BoxError.io _ ht
  refine ⟨_, rfl, hwrite _ ?_⟩
  show (c.stream.getD stream).input = input
  rw [ht, Option.getD_some, hinput]

theorem sendPacket_keeps (A : ChaCha20Poly1305) (call : SendCall) :
    Method.Keeps (HasInput input) (sendPacket A call) := by
  refine Method.Keeps.get.bind fun _ => ?_
  refine (Method.Keeps.okOr _ _).bind fun _ => ?_
  refine (Method.Keeps.okOr _ _).bind fun _ => ?_
  refine (Method.Keeps.okOr _ _).bind fun _ => ?_
  refine (onSession_keeps _ _).bind fun _ => ?_
  refine (Method.Keeps.lift _).mapError.bind fun _ => ?_
  refine (Method.Keeps.lift _).mapError.bind fun _ => ?_
  refine (onWrapper_keeps _ _).bind fun _ => ?_
  exact (writeAll_keeps _ _).bind fun _ => writeAll_keeps _ _

/-- A packet is only sent over an open connection. -/
theorem sendPacket_connected {A : ChaCha20Poly1305} {call : SendCall} {c c' : ServerConnection}
    (h : sendPacket A call c = .ok () c') : ∃ stream, c.stream = some stream := by
  unfold sendPacket at h
  rw [Method.get_bind] at h
  obtain ⟨_, _, -, h₁⟩ := Method.bind_eq_ok h
  obtain ⟨_, _, -, h₂⟩ := Method.bind_eq_ok h₁
  obtain ⟨stream, _, hstream, -⟩ := Method.bind_eq_ok h₂
  exact ⟨stream, (Method.okOr_eq_ok hstream).1⟩

theorem openFrame_keeps (A : ChaCha20Poly1305) (http : HttParse) (now now' : Instant)
    (session : Session) (wrapper : PacketWrapper) (buf : Bytes) :
    Method.Keeps (HasInput input) (openFrame A http now now' session wrapper buf) := by
  refine (Method.Keeps.lift _).mapError.bind fun _ => ?_
  refine (Method.Keeps.lift _).mapError.bind fun _ => ?_
  exact onSession_keeps _ _

end HasInput

end ServerConnection

/-! ## The loop -/

/-- The connection, with the bytes that have arrived in its stream; how far the pending
    `receive_packet` has come; and the bytes that are still to come. -/
structure ReceiveLoop where
  connection : ServerConnection
  reader : FrameReader
  wire : Bytes

namespace ReceiveLoop

open ServerConnection

/-- What may happen next. -/
inductive Event where
  /-- the next bytes of the wire arrive -/
  | arrive (count : ℕ)
  /-- `select!` polls `receive_packet`, with its two clock readings -/
  | poll (now now' : Instant)
  /-- a packet from TUN is ready first, and is sent -/
  | tun (call : SendCall)
  /-- the stream or TUN fails -/
  | broken

/-- The loop after `connect`, with what the server is going to write. -/
def start (now : Instant) (sessionId : UInt64) (sessionKey : SessionKey)
    (mimicryProfile : MimicryProfile) (room : ℕ) (frames : List Frame) : ReceiveLoop where
  connection := connected ⟨[], [], room⟩ now sessionId sessionKey mimicryProfile
  reader := .new
  wire := encodeFrames frames

/-- The start of `reconnect`, which closes the connection; the next one is another run. -/
def reconnect (s : ReceiveLoop) : ReceiveLoop :=
  { s with connection := ⟨none, none, none⟩, reader := .new }

section Steps

variable (A : ChaCha20Poly1305) (http : HttParse)

/-- A poll: the frame that it hands on, if it comes to the end of one. -/
def poll (now now' : Instant) (s : ReceiveLoop) : Option Bytes × ReceiveLoop :=
  match s.connection with
  | ⟨some stream, some wrapper, some session⟩ =>
      match s.reader.resume 65536 stream.input with
      | .pending reader rest =>
          (none, { s with
            connection := ⟨some { stream with input := rest }, some wrapper, some session⟩
            reader := reader })
      | .tooLong _ => (none, s.reconnect)
      | .frame buf rest =>
          match openFrame A http now now' session wrapper buf
              ⟨some { stream with input := rest }, some wrapper, some session⟩ with
          | .ok _ connection => (some buf, { s with connection := connection, reader := .new })
          | .error _ _ => (some buf, s.reconnect)
  | _ => (none, s.reconnect)

/-- One event. A packet from TUN drops the pending `receive_packet`. -/
def step (s : ReceiveLoop) : Event → Option Bytes × ReceiveLoop
  | .arrive count =>
      match s.connection.stream with
      | some stream =>
          (none, { s with
            connection := { s.connection with
              stream := some { stream with input := stream.input ++ s.wire.take count } }
            wire := s.wire.drop count })
      | none => (none, s)
  | .poll now now' => s.poll A http now now'
  | .tun call =>
      match sendPacket A call s.connection with
      | .ok _ connection => (none, { s with connection := connection, reader := .new })
      | .error _ _ => (none, s.reconnect)
  | .broken => (none, s.reconnect)

/-- The loop as a machine; an output is the frame handed on. -/
def machine : Machine ReceiveLoop Event (Option Bytes) := ⟨step A http⟩

end Steps

/-! ## Keeping in step -/

/-- What the pending call has taken, what has arrived and what is to come are the frames; or the
    connection is closed. -/
def InStep (s : ReceiveLoop) (frames : List Frame) : Prop :=
  ∀ stream, s.connection.stream = some stream →
    s.reader.Valid ∧ s.reader.taken ++ stream.input ++ s.wire = encodeFrames frames

/-- No packet from TUN is sent while the pending `receive_packet` has taken part of a frame. -/
def Uncut (A : ChaCha20Poly1305) (s : ReceiveLoop) : Event → Prop
  | .tun call => ∀ connection, sendPacket A call s.connection = .ok () connection →
      s.reader.taken = []
  | _ => True

theorem inStep_reconnect (s : ReceiveLoop) (frames : List Frame) :
    s.reconnect.InStep frames := nofun

/-- A call that ends between two frames leaves the loop in step. -/
theorem inStep_of_hasInput {s : ReceiveLoop} {input : Bytes} {frames : List Frame}
    (hreader : s.reader = .new) (hinput : HasInput input s.connection)
    (h : input ++ s.wire = encodeFrames frames) : s.InStep frames := by
  intro stream hstream
  obtain ⟨t, ht, rfl⟩ := hinput
  obtain rfl : t = stream := Option.some.inj (ht.symm.trans hstream)
  rw [hreader]
  exact ⟨FrameReader.new_valid, h⟩

section Steps

variable (A : ChaCha20Poly1305) (http : HttParse)

/-- A poll hands on the next frame, or none. -/
theorem poll_inStep {s : ReceiveLoop} {frames : List Frame} (hs : s.InStep frames)
    (now now' : Instant) :
    ∃ rest, (s.poll A http now now').2.InStep rest ∧
      frames.map (·.body) = (s.poll A http now now').1.toList ++ rest.map (·.body) := by
  unfold poll
  split
  · next stream wrapper session hconnection =>
      have hstream : s.connection.stream = some stream := by rw [hconnection]
      obtain ⟨hvalid, hwire⟩ := hs stream hstream
      have hsound := FrameReader.resume_sound 65536 hvalid hwire
      split
      · next reader left hresume =>
          rw [hresume] at hsound
          refine ⟨frames, fun t ht => ?_, rfl⟩
          cases ht
          exact hsound
      · exact ⟨frames, inStep_reconnect s _, rfl⟩
      · next buf left hresume =>
          rw [hresume] at hsound
          obtain ⟨f, fs, rfl, rfl, hrest⟩ := hsound
          have hkeep := openFrame_keeps A http now now' session wrapper f.body
            ⟨some { stream with input := left }, some wrapper, some session⟩ ⟨_, rfl, rfl⟩
          split
          · next connection hopen =>
              rw [hopen] at hkeep
              exact ⟨fs, inStep_of_hasInput rfl hkeep hrest, rfl⟩
          · exact ⟨fs, inStep_reconnect s _, rfl⟩
  · exact ⟨frames, inStep_reconnect s _, rfl⟩

theorem step_inStep {s : ReceiveLoop} {frames : List Frame} (hs : s.InStep frames) (e : Event)
    (huncut : Uncut A s e) :
    ∃ rest, ((machine A http).step s e).2.InStep rest ∧
      frames.map (·.body) = ((machine A http).step s e).1.toList ++ rest.map (·.body) := by
  show ∃ rest, (step A http s e).2.InStep rest ∧
    frames.map (·.body) = (step A http s e).1.toList ++ rest.map (·.body)
  cases e with
  | arrive count =>
      unfold step
      simp only
      split
      · next stream hstream =>
          obtain ⟨hvalid, hwire⟩ := hs stream hstream
          refine ⟨frames, fun t ht => ?_, rfl⟩
          cases ht
          refine ⟨hvalid, ?_⟩
          show s.reader.taken ++ (stream.input ++ s.wire.take count) ++ s.wire.drop count = _
          rw [← hwire, ← List.append_assoc, List.append_assoc, List.take_append_drop]
      · exact ⟨frames, hs, rfl⟩
  | poll now now' => exact poll_inStep A http hs now now'
  | tun call =>
      unfold step
      simp only
      split
      · next connection hsend =>
          obtain ⟨stream, hstream⟩ := sendPacket_connected hsend
          have hinput := sendPacket_keeps A call s.connection ⟨stream, hstream, rfl⟩
          rw [hsend] at hinput
          obtain ⟨-, hwire⟩ := hs stream hstream
          rw [huncut connection hsend, List.nil_append] at hwire
          exact ⟨frames, inStep_of_hasInput rfl hinput hwire, rfl⟩
      · exact ⟨frames, inStep_reconnect s _, rfl⟩
  | broken => exact ⟨frames, inStep_reconnect s _, rfl⟩

/-- **The receive loop.** For every list of frames, every way in which their bytes arrive and
    every interleaving with packets from TUN that leaves no frame partly taken: the frames that
    `receive_packet` hands on are the first ones that the server sent. -/
theorem frames_in_order (now : Instant) (sessionId : UInt64) (sessionKey : SessionKey)
    (mimicryProfile : MimicryProfile) (room : ℕ) (frames : List Frame) (events : List Event)
    (huncut : (machine A http).Always (Uncut A)
      (start now sessionId sessionKey mimicryProfile room frames) events) :
    ((machine A http).outputs (start now sessionId sessionKey mimicryProfile room frames)
      events).reduceOption <+: frames.map (·.body) := by
  have hstart : (start now sessionId sessionKey mimicryProfile room frames).InStep frames :=
    inStep_of_hasInput rfl ⟨_, rfl, rfl⟩ rfl
  generalize start now sessionId sessionKey mimicryProfile room frames = s at hstart huncut
  induction events generalizing s frames with
  | nil => exact List.nil_prefix
  | cons e events ih =>
      obtain ⟨rest, hrest, hframes⟩ := step_inStep A http hstart e huncut.1
      have hlater := ih rest _ hrest huncut.2
      rw [Machine.outputs, hframes]
      cases ((machine A http).step s e).1 with
      | none => exact hlater
      | some buf => exact List.cons_prefix_cons.mpr ⟨rfl, hlater⟩

end Steps

section Sample

def sampleKey : SessionKey := ⟨List.Vector.replicate 32 7⟩

/-- An IP packet of one byte from TUN. -/
def sampleCall : SendCall where
  ipPacket := [0x45]
  unixTime := 1700000000
  now := 1
  draws :=
    { vkVideo := ⟨"Thu, 01 Jan 1970 00:00:00 GMT", List.Vector.replicate 16 0, ⟨1, by decide⟩⟩
      yandexMusic :=
        ⟨"Thu, 01 Jan 1970 00:00:00 GMT", List.Vector.replicate 20 0, ⟨1, by decide⟩, 0, 0, 0, 0, 0⟩
      ruTube :=
        ⟨"Thu, 01 Jan 1970 00:00:00 GMT", List.Vector.replicate 12 0, ⟨1, by decide⟩,
          ⟨1, by decide⟩⟩ }

/-- No HTTP response at all. -/
def sampleHttp : HttParse := ⟨fun _ _ => .ok .incomplete⟩

/-- A frame of five bytes. -/
def sampleFrame : Frame := ⟨[0, 0, 0, 1, 7], by decide⟩

/-- A connected client without mimicry, and a server that sends this frame. -/
def sampleStart : ReceiveLoop := start 0 9 sampleKey .none 4096 [sampleFrame]

/-- A packet from TUN is sent before the frame comes. -/
theorem frames_in_order_sample :
    ((machine sampleAead sampleHttp).outputs sampleStart
      [.tun sampleCall, .arrive 4, .poll 1 1, .arrive 5, .poll 2 2]).reduceOption <+:
        [[0, 0, 0, 1, 7]] :=
  frames_in_order sampleAead sampleHttp 0 9 sampleKey .none 4096 [sampleFrame]
    [.tun sampleCall, .arrive 4, .poll 1 1, .arrive 5, .poll 2 2]
    ⟨fun _ _ => rfl, trivial, trivial, trivial, trivial, trivial⟩

/-- It is sent after the length word was read: the first bytes of the frame are taken for a
    length word, and the last one is handed on as a frame. -/
theorem tun_packet_cuts_frame :
    ((machine sampleAead sampleHttp).outputs sampleStart
        [.arrive 4, .poll 1 1, .tun sampleCall, .arrive 5, .poll 2 2]).reduceOption = [[7]] ∧
      ¬ [[7]] <+: [sampleFrame].map (·.body) := by
  decide +kernel

end Sample

end ReceiveLoop

end Llp.Client
