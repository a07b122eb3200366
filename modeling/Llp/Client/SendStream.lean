/-
  `llp-client/connection.rs`: what a run of `send_packet` calls leaves on the stream.

  A call writes the whole frame of its packet and returns, or it fails. One that fails before the
  writes leaves the stream alone; one that fails in them leaves the beginning of its frame, and
  the socket takes nothing more. Calls of `receive_packet` may come in between.

  * `sendPacket_apply`: what one call does.
  * `sent_stream_read`: the frames that can be read from the stream are those of the calls that
    returned, in order, each sealed under a sequence number above those before.
-/
import Llp.Client.Reconnect

namespace Llp.Client
open ByteCodec Mimicry

namespace ServerConnection
open Connection (writeMessage writeMessage_iff)

/-! ## One call -/

/-- A message behind its length is written whole, or as far as there is room. -/
theorem writeMessage_apply (message : Bytes) (stream : TcpStream) :
    writeMessage message stream =
      if (frame message).length ≤ stream.room then
        .ok () { stream with
          output := stream.output ++ frame message
          room := stream.room - (frame message).length }
      else .error (.err .io) { stream with
        output := stream.output ++ (frame message).take stream.room
        room := 0 } := by
  have hword : (toBE 4 (UInt32.ofNat message.length).toNat).length = 4 := toBE_length 4 _
  by_cases hfits : (frame message).length ≤ stream.room
  · rw [if_pos hfits]
    exact writeMessage_iff.mpr ⟨hfits, rfl⟩
  · rw [if_neg hfits]
    rw [length_frame] at hfits
    unfold writeMessage TcpStream.writeU32
    by_cases hroom : 4 ≤ stream.room
    · have htake : (frame message).take stream.room =
          toBE 4 (UInt32.ofNat message.length).toNat ++ message.take (stream.room - 4) := by
        rw [frame, List.take_append, List.take_of_length_le (by rw [hword]; exact hroom), hword]
      rw [Method.bind_ok (TcpStream.writeAll_iff.mpr ⟨by omega, rfl⟩), htake]
      unfold TcpStream.writeAll
      rw [Method.get_bind, Method.set_bind, Method.failIf_pos _ (by simp only; omega)]
      have hfull : stream.room - 4 - message.length = 0 := by omega
      simp only [hword, List.append_assoc, hfull]
    · have hfail : TcpStream.writeAll (toBE 4 (UInt32.ofNat message.length).toNat) stream =
          .error (.err .io) { stream with
            output := stream.output ++ (frame message).take stream.room
            room := 0 } := by
        unfold TcpStream.writeAll
        rw [Method.get_bind, Method.set_bind, Method.failIf_pos _ (by omega), frame,
          List.take_append_of_le_length (by omega), hword, Nat.sub_eq_zero_of_le (by omega)]
      rw [Method.bind_error hfail]

/-- The two writes of a call, on the stream of any object, are one message. -/
theorem focus_writeMessage {σ : Type} {get : σ → TcpStream} {put : TcpStream → σ → σ}
    (hget : ∀ stream s, get (put stream s) = stream)
    (hput : ∀ stream stream' s, put stream' (put stream s) = put stream' s) (message : Bytes) :
    (do
      Method.focus get put (TcpStream.writeU32 (UInt32.ofNat message.length))
      Method.focus get put (TcpStream.writeAll message)) =
      (Method.focus get put (writeMessage message) : Method σ BoxError Unit) :=
  Method.focus_bind hget hput _ _

/-- What `send_packet` makes of a ciphertext. -/
def sealedPacket (header : PacketHeader) (encryptedPayload : Bytes) : LlpPacket where
  header := header
  encryptedPayload := encryptedPayload
  padding := []
  authTag := List.Vector.replicate 16 0

/-- The packet on the wire. -/
def dataPacket (header : PacketHeader) (encryptedPayload : Bytes) : LlpPacket :=
  (sealedPacket header encryptedPayload).withLengths

section Sealed

variable {header : PacketHeader} {encryptedPayload : Bytes}

theorem sealedPacket_new (h : encryptedPayload.length ≤ MAX_PAYLOAD_SIZE) :
    LlpPacket.new header encryptedPayload [] (List.Vector.replicate 16 0) =
      .ok (sealedPacket header encryptedPayload) :=
  LlpPacket.new_eq_ok.mpr ⟨h, Nat.zero_le MAX_PADDING_SIZE, rfl⟩

theorem sealedPacket_serialize (h : encryptedPayload.length ≤ MAX_PAYLOAD_SIZE) :
    (sealedPacket header encryptedPayload).serialize =
      .ok (dataPacket header encryptedPayload).bytes := by
  have htotal := (sealedPacket header encryptedPayload).totalSize_le h
    (Nat.zero_le MAX_PADDING_SIZE)
  rw [LlpPacket.serialize_eq, if_neg (Nat.not_lt.mpr htotal)]
  rfl

theorem dataPacket_wellFormed (hversion : header.version = PROTOCOL_VERSION)
    (h : encryptedPayload.length ≤ MAX_PAYLOAD_SIZE) :
    (dataPacket header encryptedPayload).WellFormed :=
  (sealedPacket header encryptedPayload).withLengths_wellFormed hversion h
    (Nat.zero_le MAX_PADDING_SIZE)

end Sealed

/-- The packet as the profile puts it on the stream. -/
def wrapPacket (draws : PacketWrapper.Draws) (profile : MimicryProfile) (packet : LlpPacket) :
    Bytes :=
  (PacketWrapper.response draws packet.bytes profile).getD packet.bytes

/-- One call on a connection: it seals the packet, and writes the frame of what it sealed unless
    that is too large. -/
theorem sendPacket_apply (A : ChaCha20Poly1305) (call : SendCall) (stream : TcpStream)
    (wrapper : PacketWrapper) (session : Session) : ∃ wrapper' : PacketWrapper,
      wrapper'.profile = wrapper.profile ∧
      sendPacket A call ⟨some stream, some wrapper, some session⟩ =
        let header := dataHeader call.unixTime session
        match Session.encryptPayload A call.now call.ipPacket header.serialize session with
        | .error e session' =>
            .error (e.map .llp) ⟨some stream, some wrapper, some session'⟩
        | .ok (encryptedPayload, _) session' =>
            if MAX_PAYLOAD_SIZE < encryptedPayload.length then
              .error (.err (.llp (.packetError
                (.packetTooLarge encryptedPayload.length MAX_PAYLOAD_SIZE))))
                ⟨some stream, some wrapper, some session'⟩
            else
              match writeMessage (wrapPacket call.draws wrapper.profile
                (dataPacket header encryptedPayload)) stream with
              | .ok _ stream' => .ok () ⟨some stream', some wrapper', some session'⟩
              | .error e stream' => .error e ⟨some stream', some wrapper', some session'⟩ := by
  unfold sendPacket
  rw [Method.get_bind]
  simp only [Method.okOr_some, pure_bind]
  have hsession : ∀ {m : Method Session LlpError (Bytes × UInt32)} {out session'},
      m session = .ok out session' → onSession session m ⟨some stream, some wrapper, some session⟩ =
        .ok out ⟨some stream, some wrapper, some session'⟩ := fun h =>
    Method.focus_ok (Method.mapError_ok h)
  cases hseal : Session.encryptPayload A call.now call.ipPacket
      (dataHeader call.unixTime session).serialize session with
  | error e session' =>
      have herror : onSession session (Session.encryptPayload A call.now call.ipPacket
          (dataHeader call.unixTime session).serialize) ⟨some stream, some wrapper, some session⟩ =
            .error (e.map .llp) ⟨some stream, some wrapper, some session'⟩ :=
        Method.focus_error (Method.mapError_error hseal)
      exact ⟨wrapper, rfl, Method.bind_error herror⟩
  | ok out session' =>
      obtain ⟨encryptedPayload, sequence⟩ := out
      simp only
      rw [Method.bind_ok (hsession hseal)]
      by_cases hsize : MAX_PAYLOAD_SIZE < encryptedPayload.length
      · have hnew : LlpPacket.new (dataHeader call.unixTime session) encryptedPayload []
            (List.Vector.replicate 16 0) = .error (.err (.packetError
              (.packetTooLarge encryptedPayload.length MAX_PAYLOAD_SIZE))) := by
          rw [LlpPacket.new, if_pos hsize]
        refine ⟨wrapper, rfl, ?_⟩
        rw [if_pos hsize, hnew]
        rfl
      · have hle := Nat.not_lt.mp hsize
        obtain ⟨wrapper', hprofile, hwrap⟩ := PacketWrapper.wrap_apply call.draws
          (dataPacket (dataHeader call.unixTime session) encryptedPayload).bytes wrapper
        have hwrapped : onWrapper wrapper (PacketWrapper.wrap call.draws
            (dataPacket (dataHeader call.unixTime session) encryptedPayload).bytes)
              ⟨some stream, some wrapper, some session'⟩ =
            .ok (wrapPacket call.draws wrapper.profile
              (dataPacket (dataHeader call.unixTime session) encryptedPayload))
              ⟨some stream, some wrapper', some session'⟩ :=
          Method.focus_ok (Method.mapError_ok hwrap)
        refine ⟨wrapper', hprofile, ?_⟩
        rw [if_neg hsize, sealedPacket_new hle,
          Method.bind_ok (Method.mapError_ok (Method.lift_ok _ _)), sealedPacket_serialize hle,
          Method.bind_ok (Method.mapError_ok (Method.lift_ok _ _)),
          Method.bind_ok hwrapped]
        unfold onStream
        rw [focus_writeMessage]
        · simp only [Method.focus, Option.getD_some]
          cases writeMessage (wrapPacket call.draws wrapper.profile
            (dataPacket (dataHeader call.unixTime session) encryptedPayload)) stream with
          | ok _ stream' => rfl
          | error e stream' => rfl
        · exact fun _ _ => rfl
        · exact fun _ _ _ => rfl

/-! ## The sending half -/

/-- The packet that carries an IP packet under a sequence number. -/
def carriedPacket (A : ChaCha20Poly1305) (key : SessionKey) (sessionId : UInt64)
    (profile : MimicryProfile) (call : SendCall) (n : UInt32) : LlpPacket :=
  let header := PacketHeader.new call.unixTime PacketFlags.DATA sessionId n profile
  let nonce : ChaCha20Nonce := ⟨n.toUInt64, (ChaCha20Nonce.new sessionId 0).sessionId⟩
  dataPacket header (A.ciphertext key.bytes nonce.asBytes header.serialize call.ipPacket)

/-- The bytes that carry it. -/
def carriedBytes (A : ChaCha20Poly1305) (key : SessionKey) (sessionId : UInt64)
    (profile : MimicryProfile) (call : SendCall) (n : UInt32) : Bytes :=
  wrapPacket call.draws profile (carriedPacket A key sessionId profile call n)

/-- What sending uses of a connection: what is written, how much more the socket takes, and the
    sequence number that comes next. -/
structure Sending (key : SessionKey) (sessionId : UInt64) (profile : MimicryProfile)
    (output : Bytes) (room : ℕ) (n : UInt32) (stream : TcpStream) (wrapper : PacketWrapper)
    (session : Session) : Prop where
  output : stream.output = output
  room : stream.room = room
  wrapper : wrapper.profile = profile
  sender : session.SenderInv key (ChaCha20Nonce.new sessionId 0).sessionId
  sessionId : session.sessionId = sessionId
  profile : session.mimicryProfile = profile
  number : session.txSequence = n

/-- A connection on which everything is there, with the given sending half. -/
def Sends (key : SessionKey) (sessionId : UInt64) (profile : MimicryProfile) (output : Bytes)
    (room : ℕ) (n : UInt32) (c : ServerConnection) : Prop :=
  ∃ stream wrapper session, c = ⟨some stream, some wrapper, some session⟩ ∧
    Sending key sessionId profile output room n stream wrapper session

section Sends

variable {A : ChaCha20Poly1305} {key : SessionKey} {sessionId : UInt64} {profile : MimicryProfile}
variable {output : Bytes} {room : ℕ} {n : UInt32} {c : ServerConnection}

theorem sends_connected (input : Bytes) (room : ℕ) (now : Instant) (sessionId : UInt64)
    (key : SessionKey) (profile : MimicryProfile) : Sends key sessionId profile [] room 0
      (connected ⟨input, [], room⟩ now sessionId key profile) :=
  ⟨_, _, _, rfl, rfl, rfl, rfl, .inl (Session.inStep_new ..), rfl, rfl, rfl⟩

theorem readExact_keeps_output (k : ℕ) :
    Method.Keeps (fun stream => stream.output = output ∧ stream.room = room)
      (TcpStream.readExact k) := by
  intro stream h
  unfold TcpStream.readExact
  rw [Method.get_bind, Method.set_bind]
  have hcheck : Method.Keeps (fun stream : TcpStream => stream.output = output ∧ stream.room = room)
      (Method.failIf (stream.input.length < k) BoxError.io) := Method.Keeps.failIf _ _
  exact hcheck.bind (fun _ => Method.Keeps.pure (stream.input.take k))
    { stream with input := stream.input.drop k } h

/-- What is read of the stream leaves the sending half alone. -/
theorem onStream_keeps_sends {α : Type} (stream : TcpStream) {m : Method TcpStream BoxError α}
    (hm : Method.Keeps (fun stream => stream.output = output ∧ stream.room = room) m) :
    Method.Keeps (Sends key sessionId profile output room n) (onStream stream m) := by
  refine Method.Keeps.focus ?_
  rintro c ⟨t, wrapper, session, rfl, h⟩
  have hstate := hm t ⟨h.output, h.room⟩
  exact ⟨_, wrapper, session, rfl, { h with output := hstate.1, room := hstate.2 }⟩

/-- So does a packet that is opened. -/
theorem onSession_keeps_sends (session : Session) (now now' : Instant) (ciphertext aad : Bytes)
    (seq : UInt32) : Method.Keeps (Sends key sessionId profile output room n)
      (onSession session (Session.decryptPayload A now now' ciphertext aad seq)) := by
  refine Method.Keeps.focus ?_
  rintro c ⟨stream, wrapper, s, rfl, h⟩
  refine ⟨stream, wrapper, _, rfl, ?_⟩
  rw [Method.state_mapError, Option.getD_some, Session.decryptPayload_apply]
  split
  · split
    · exact { h with }
    · exact { h with }
  · exact { h with }

theorem receivePacket_keeps_sends (A : ChaCha20Poly1305) (http : HttParse) (now now' : Instant) :
    Method.Keeps (Sends key sessionId profile output room n) (receivePacket A http now now') := by
  refine Method.Keeps.get.bind fun self => ?_
  refine (Method.Keeps.okOr _ _).bind fun session => ?_
  refine (Method.Keeps.okOr _ _).bind fun wrapper => ?_
  refine (Method.Keeps.okOr _ _).bind fun stream => ?_
  have hword : Method.Keeps (fun stream => stream.output = output ∧ stream.room = room)
      TcpStream.readU32 :=
    (readExact_keeps_output 4).bind fun bytes => Method.Keeps.pure (UInt32.ofNat (ofBE bytes))
  refine (onStream_keeps_sends stream hword).bind fun len => ?_
  refine (Method.Keeps.failIf _ _).bind fun _ => ?_
  refine (onStream_keeps_sends stream (readExact_keeps_output _)).bind fun buf => ?_
  refine (Method.Keeps.lift _).mapError.bind fun unwrapped => ?_
  refine (Method.Keeps.lift _).mapError.bind fun llpPacket => ?_
  exact onSession_keeps_sends session now now' _ _ _

/-- A wrapped packet has a length that its frame can tell. -/
theorem carriedBytes_length {call : SendCall} (hdated : call.draws.Dated)
    (h : (carriedPacket A key sessionId profile call n).encryptedPayload.length ≤
      MAX_PAYLOAD_SIZE) : (carriedBytes A key sessionId profile call n).length < 2 ^ 32 := by
  have hsize := LlpPacket.totalSize_le (carriedPacket A key sessionId profile call n) h
    (Nat.zero_le MAX_PADDING_SIZE)
  rw [← LlpPacket.bytes_length] at hsize
  refine PacketWrapper.response_length_lt hdated ?_ hsize profile
  rw [LlpPacket.bytes_length, LlpPacket.totalSize, HEADER_SIZE]
  omega

/-- A packet that is sealed has a sequence number that is not the last. -/
theorem encryptPayload_number {now : Instant} {plaintext aad : Bytes} {out : Bytes × UInt32}
    {session session' : Session}
    (h : Session.encryptPayload A now plaintext aad session = .ok out session') :
    session.txSequence.toNat + 1 < 2 ^ 32 := by
  by_contra hlast
  rw [Session.encryptPayload_apply] at h
  split at h
  · cases h
  · rw [if_neg hlast] at h
    cases h

/-- What one `send_packet` does to the sending half: it returns with the frame of the packet
    written, or fails with nothing written, or fails with the beginning of the frame written and
    no room left. -/
theorem sendPacket_sends {call : SendCall} (hdated : call.draws.Dated)
    (h : Sends key sessionId profile output room n c) :
    let bytes := carriedBytes A key sessionId profile call n
    (∃ c', sendPacket A call c = .ok () c' ∧ n.toNat + 1 < 2 ^ 32 ∧
      (frame bytes).length ≤ room ∧ bytes.length < 2 ^ 32 ∧
      (carriedPacket A key sessionId profile call n).WellFormed ∧
      Sends key sessionId profile (output ++ frame bytes) (room - (frame bytes).length) (n + 1) c') ∨
    ∃ e c' n', sendPacket A call c = .error e c' ∧ n ≤ n' ∧
      (Sends key sessionId profile output room n' c' ∨
        room < (frame bytes).length ∧ bytes.length < 2 ^ 32 ∧
        Sends key sessionId profile (output ++ (frame bytes).take room) 0 n' c') := by
  obtain ⟨stream, wrapper, session, rfl, h⟩ := h
  obtain ⟨wrapper', hprofile, hsend⟩ := sendPacket_apply A call stream wrapper session
  have hheader : dataHeader call.unixTime session =
      PacketHeader.new call.unixTime PacketFlags.DATA sessionId n profile := by
    rw [dataHeader, h.sessionId, h.number, h.profile]
  rw [hheader] at hsend
  simp only at hsend
  rcases Session.encryptPayload_cases A h.sender call.now call.ipPacket
      (PacketHeader.new call.unixTime PacketFlags.DATA sessionId n profile).serialize with
    ⟨hin, hnext, hseal⟩ | ⟨e, session', hseal, hinv, -⟩
  · have hseq := encryptPayload_number hseal
    rw [h.number] at hseq
    have hle : n ≤ n + 1 := by
      rw [UInt32.le_iff_toNat_le, toNat_succ32 hseq]
      exact Nat.le_succ _
    rw [hseal] at hsend
    simp only [h.number, h.wrapper] at hsend
    have hadvanced : ∀ {output room stream'}, stream'.output = output → stream'.room = room →
        ∀ {w : PacketWrapper}, w.profile = profile → Sends key sessionId profile output room (n + 1)
          ⟨some stream', some w, some (session.advanced key
            (ChaCha20Nonce.new sessionId 0).sessionId call.now)⟩ := by
      intro output room stream' hout hroom w hw
      refine ⟨_, _, _, rfl, hout, hroom, hw, hnext, h.sessionId, h.profile, ?_⟩
      rw [← h.number]
      rfl
    generalize hnow : session.advanced key (ChaCha20Nonce.new sessionId 0).sessionId call.now =
      session' at hsend hadvanced
    have hcarried : sendPacket A call ⟨some stream, some wrapper, some session⟩ =
        if MAX_PAYLOAD_SIZE <
            (carriedPacket A key sessionId profile call n).encryptedPayload.length then
          .error (.err (.llp (.packetError (.packetTooLarge
            (carriedPacket A key sessionId profile call n).encryptedPayload.length
            MAX_PAYLOAD_SIZE)))) ⟨some stream, some wrapper, some session'⟩
        else
          match writeMessage (carriedBytes A key sessionId profile call n) stream with
          | .ok _ stream' => .ok () ⟨some stream', some wrapper', some session'⟩
          | .error e stream' => .error e ⟨some stream', some wrapper', some session'⟩ := hsend
    by_cases hsize : MAX_PAYLOAD_SIZE <
        (carriedPacket A key sessionId profile call n).encryptedPayload.length
    · rw [if_pos hsize] at hcarried
      exact .inr ⟨_, _, n + 1, hcarried, hle, .inl (hadvanced h.output h.room h.wrapper)⟩
    · have hpayload := Nat.not_lt.mp hsize
      have hlength : (carriedBytes A key sessionId profile call n).length < 2 ^ 32 :=
        carriedBytes_length hdated hpayload
      have hwrite := writeMessage_apply (carriedBytes A key sessionId profile call n) stream
      rw [h.room, h.output] at hwrite
      rw [if_neg hsize] at hcarried
      by_cases hfits : (frame (carriedBytes A key sessionId profile call n)).length ≤ room
      · rw [if_pos hfits] at hwrite
        rw [hwrite] at hcarried
        exact .inl ⟨_, hcarried, hseq, hfits, hlength, dataPacket_wellFormed rfl hpayload,
          hadvanced rfl rfl (hprofile.trans h.wrapper)⟩
      · rw [if_neg hfits] at hwrite
        rw [hwrite] at hcarried
        exact .inr ⟨_, _, n + 1, hcarried, hle, .inr ⟨Nat.lt_of_not_le hfits, hlength,
          hadvanced rfl rfl (hprofile.trans h.wrapper)⟩⟩
  · obtain ⟨cipher, rfl⟩ := Session.encryptPayload_error hseal
    rw [hseal] at hsend
    exact .inr ⟨_, _, n, hsend, UInt32.le_refl _, .inl ⟨_, _, _, rfl, h.output, h.room, h.wrapper,
      hinv, h.sessionId, h.profile, h.number⟩⟩

end Sends

/-! ## Runs -/

/-- A packet call, with what it draws and reads of the clocks. -/
inductive PacketCall where
  | send (call : SendCall)
  | receive (now now' : Instant)

/-- The call of `send_packet`. -/
def PacketCall.sending : PacketCall → Option SendCall
  | .send call => some call
  | .receive _ _ => none

/-- The dates that are drawn are what `chrono` prints. -/
def PacketCall.Dated : PacketCall → Prop
  | .send call => call.draws.Dated
  | .receive _ _ => True

section Runs

variable (A : ChaCha20Poly1305) (http : HttParse)

def packetCall : PacketCall → Method ServerConnection BoxError Unit
  | .send call => sendPacket A call
  | .receive now now' => do
      let _ ← receivePacket A http now now'
      pure ()

/-- The calls as a machine. -/
def packetCalls : Machine ServerConnection PacketCall (Fallible BoxError Unit) :=
  Method.machine (packetCall A http)

/-- The `send_packet` calls of a run that returned. -/
def returned (c : ServerConnection) (calls : List PacketCall) : List SendCall :=
  ((packetCalls A http).accepted Except.isOk c calls).filterMap PacketCall.sending

variable {A http} {key : SessionKey} {sessionId : UInt64} {profile : MimicryProfile}
variable {output : Bytes} {room : ℕ} {n : UInt32} {c : ServerConnection}

theorem returned_receive (c : ServerConnection) (now now' : Instant) (calls : List PacketCall) :
    returned A http c (.receive now now' :: calls) =
      returned A http ((packetCalls A http).step c (.receive now now')).2 calls := by
  rw [returned, Machine.accepted]
  split
  · exact List.filterMap_cons_none rfl
  · rfl

theorem returned_ok {call : SendCall} {c c' : ServerConnection} (h : sendPacket A call c = .ok () c')
    (calls : List PacketCall) :
    returned A http c (.send call :: calls) = call :: returned A http c' calls := by
  have hstep : (packetCalls A http).step c (.send call) = (.ok (), c') := by
    show (Method.result (sendPacket A call c), Method.state (sendPacket A call c)) = _
    rw [h]
    rfl
  rw [returned, Machine.accepted, hstep]
  exact List.filterMap_cons_some rfl

theorem returned_error {call : SendCall} {c c' : ServerConnection} {e : Fault BoxError}
    (h : sendPacket A call c = .error e c') (calls : List PacketCall) :
    returned A http c (.send call :: calls) = returned A http c' calls := by
  have hstep : (packetCalls A http).step c (.send call) = (.error e, c') := by
    show (Method.result (sendPacket A call c), Method.state (sendPacket A call c)) = _
    rw [h]
    rfl
  rw [returned, Machine.accepted, hstep]
  rfl

theorem final_send {call : SendCall} {c : ServerConnection} (calls : List PacketCall) :
    (packetCalls A http).final c (.send call :: calls) =
      (packetCalls A http).final (Method.state (sendPacket A call c)) calls := rfl

theorem receive_sends (h : Sends key sessionId profile output room n c) (now now' : Instant) :
    Sends key sessionId profile output room n
      ((packetCalls A http).step c (.receive now now')).2 :=
  (receivePacket_keeps_sends A http now now').bind (fun _ => Method.Keeps.pure ()) c h

variable (A http) in
/-- Where the socket takes nothing more, no call returns and nothing is written. -/
theorem stuck_run {calls : List PacketCall} (hdated : ∀ x ∈ calls, x.Dated)
    (h : Sends key sessionId profile output 0 n c) : returned A http c calls = [] ∧
      ∃ n', Sends key sessionId profile output 0 n' ((packetCalls A http).final c calls) := by
  induction calls generalizing c n with
  | nil => exact ⟨rfl, n, h⟩
  | cons x calls ih =>
      have hrest := fun y hy => hdated y (List.mem_cons_of_mem x hy)
      cases x with
      | receive now now' =>
          rw [returned_receive]
          exact ih hrest (receive_sends h now now')
      | send call =>
          rcases sendPacket_sends (hdated _ List.mem_cons_self) h with
            ⟨c', hsend, -, hfits, -⟩ | ⟨e, c', n', hsend, -, hstay⟩
          · rw [length_frame] at hfits
            omega
          · have hsends : Sends key sessionId profile output 0 n' c' := by
              rcases hstay with hstay | ⟨-, -, hstay⟩
              · exact hstay
              · rwa [List.take_zero, List.append_nil] at hstay
            rw [returned_error hsend, final_send, hsend]
            exact ih hrest hsends

/-- The frames of what was sent. -/
def sentFrames (A : ChaCha20Poly1305) (key : SessionKey) (sessionId : UInt64)
    (profile : MimicryProfile) (sent : List (SendCall × UInt32)) : List Bytes :=
  sent.map fun s => frame (carriedBytes A key sessionId profile s.1 s.2)

/-- What a run has written: the frames of the calls that returned, each under a sequence number
    above those before, and the beginning of one frame at most. -/
structure Written (A : ChaCha20Poly1305) (key : SessionKey) (sessionId : UInt64)
    (profile : MimicryProfile) (n : UInt32) (sent : List (SendCall × UInt32)) (front : Bytes) :
    Prop where
  increasing : (sent.map Prod.snd).Pairwise (· < ·)
  start : ∀ s ∈ sent, n ≤ s.2
  wellFormed : ∀ s ∈ sent, (carriedPacket A key sessionId profile s.1 s.2).WellFormed
  short : ∀ s ∈ sent, (carriedBytes A key sessionId profile s.1 s.2).length < 2 ^ 32
  dated : ∀ s ∈ sent, s.1.draws.Dated
  unread : frames.next front = none

/-- What is read of the bytes that carry a packet. -/
theorem unpack_carried {http : HttParse} (hhttp : http.EndsHeads) {call : SendCall}
    (hdated : call.draws.Dated) (hwf : (carriedPacket A key sessionId profile call n).WellFormed) :
    unpack http (PacketWrapper.new profile) (carriedBytes A key sessionId profile call n) =
      .ok (carriedPacket A key sessionId profile call n) := by
  obtain ⟨front, hfront, hresponse, -⟩ := PacketWrapper.response_eq hdated
    (carriedPacket A key sessionId profile call n).bytes profile
  have hbytes : (carriedPacket A key sessionId profile call n).bytes ≠ [] := by
    rw [← List.length_pos_iff, LlpPacket.bytes_length, LlpPacket.totalSize, HEADER_SIZE]
    omega
  rw [carriedBytes, wrapPacket, hresponse, unpack_front hhttp Iff.rfl hfront hbytes,
    LlpPacket.deserialize_bytes hwf]
  rfl

variable (A http) in
/-- What the calls of a run write: the frames of those that return, in order, and the beginning
    of one more at most. -/
theorem sends_run {calls : List PacketCall} (hdated : ∀ x ∈ calls, x.Dated)
    (h : Sends key sessionId profile output room n c) : ∃ sent front,
      sent.map Prod.fst = returned A http c calls ∧
      Written A key sessionId profile n sent front ∧
      ∃ room' n', Sends key sessionId profile
        (output ++ (sentFrames A key sessionId profile sent).flatten ++ front) room' n'
        ((packetCalls A http).final c calls) := by
  have hnone : ∀ n, Written A key sessionId profile n [] [] := fun n =>
    ⟨.nil, nofun, nofun, nofun, nofun, rfl⟩
  induction calls generalizing c output room n with
  | nil =>
      refine ⟨[], [], rfl, hnone n, room, n, ?_⟩
      rw [sentFrames, List.map_nil, List.flatten_nil, List.append_nil, List.append_nil]
      exact h
  | cons x calls ih =>
      have hrest := fun y hy => hdated y (List.mem_cons_of_mem x hy)
      cases x with
      | receive now now' =>
          rw [returned_receive]
          exact ih hrest (receive_sends h now now')
      | send call =>
          rcases sendPacket_sends (hdated _ List.mem_cons_self) h with
            ⟨c', hsend, hseq, -, hshort, hwf, hsends⟩ | ⟨e, c', n', hsend, hle, hsends | hcut⟩
          · obtain ⟨sent, front, hsent, hwritten, room', n', hfinal⟩ := ih hrest hsends
            have hlater : ∀ s ∈ sent, n < s.2 := by
              intro s hs
              have hstart := UInt32.le_iff_toNat_le.mp (hwritten.start s hs)
              rw [toNat_succ32 hseq] at hstart
              rw [UInt32.lt_iff_toNat_lt]
              omega
            rw [returned_ok hsend, final_send, hsend]
            refine ⟨(call, n) :: sent, front, by rw [List.map_cons, hsent],
              ⟨?_, ?_, ?_, ?_, ?_, hwritten.unread⟩, room', n', ?_⟩
            · refine List.Pairwise.cons ?_ hwritten.increasing
              intro m hm
              obtain ⟨s, hs, rfl⟩ := List.mem_map.mp hm
              exact hlater s hs
            · exact List.forall_mem_cons.mpr
                ⟨UInt32.le_refl _, fun s hs => UInt32.le_of_lt (hlater s hs)⟩
            · exact List.forall_mem_cons.mpr ⟨hwf, hwritten.wellFormed⟩
            · exact List.forall_mem_cons.mpr ⟨hshort, hwritten.short⟩
            · exact List.forall_mem_cons.mpr ⟨hdated _ List.mem_cons_self, hwritten.dated⟩
            · rw [sentFrames, List.map_cons, List.flatten_cons, ← List.append_assoc]
              exact hfinal
          · obtain ⟨sent, front, hsent, hwritten, hfinal⟩ := ih hrest hsends
            rw [returned_error hsend, final_send, hsend]
            exact ⟨sent, front, hsent, { hwritten with
              start := fun s hs => UInt32.le_trans hle (hwritten.start s hs) }, hfinal⟩
          · obtain ⟨hroom, hshort, hstuck⟩ := hcut
            obtain ⟨hnothing, n'', hfinal⟩ := stuck_run A http hrest hstuck
            rw [returned_error hsend, final_send, hsend]
            refine ⟨[], (frame (carriedBytes A key sessionId profile call n)).take room,
              hnothing.symm, { hnone n with unread := ?_ }, 0, n'', ?_⟩
            · refine (frame_writes hshort).cut (List.take_prefix _ _) fun hwhole => ?_
              have hlength := congrArg List.length hwhole
              rw [List.length_take] at hlength
              omega
            · rw [sentFrames, List.map_nil, List.flatten_nil, List.append_nil]
              exact hfinal

/-- **The stream of sent packets.** Over any run of `send_packet` and `receive_packet` calls on a
    new connection, however much the socket takes: a reader of the stream, however it is cut,
    reads the frames of the calls that returned and of no others, in order. In each of them is the
    packet of its call, sealed under a sequence number above those of the frames before. -/
theorem sent_stream_read {http : HttParse} (hhttp : http.EndsHeads) (A : ChaCha20Poly1305)
    (input : Bytes) (room : ℕ) (now : Instant) (sessionId : UInt64) (key : SessionKey)
    (profile : MimicryProfile) {calls : List PacketCall} (hdated : ∀ x ∈ calls, x.Dated) :
    let c := connected ⟨input, [], room⟩ now sessionId key profile
    ∃ sent : List (SendCall × UInt32),
      sent.map Prod.fst = returned A http c calls ∧ (sent.map Prod.snd).Pairwise (· < ·) ∧
      ∀ pieces, ((packetCalls A http).final c calls).stream.map TcpStream.output =
          some pieces.flatten →
        ((frames.reader.outputs [] pieces).flatten.map (unpack http (PacketWrapper.new profile))) =
          sent.map fun s => .ok (carriedPacket A key sessionId profile s.1 s.2) := by
  obtain ⟨sent, front, hsent, hwritten, room', n', stream, wrapper, session, hfinal, hsending⟩ :=
    sends_run A http hdated (sends_connected input room now sessionId key profile)
  refine ⟨sent, hsent, hwritten.increasing, fun pieces hpieces => ?_⟩
  have hstream : pieces.flatten = (sentFrames A key sessionId profile sent).flatten ++ front := by
    rw [hfinal] at hpieces
    exact (Option.some.inj hpieces).symm.trans hsending.output
  have hwrites : List.Forall₂ frames.Writes
      (sent.map fun s => carriedBytes A key sessionId profile s.1 s.2)
      (sentFrames A key sessionId profile sent) := by
    rw [sentFrames, List.forall₂_map_left_iff, List.forall₂_map_right_iff, List.forall₂_same]
    exact fun s hs => frame_writes (hwritten.short s hs)
  have hread := (frames.outputs_reader [] pieces (frames.drain_none frames.next_nil)).1
  rw [List.nil_append, hstream, Delimiter.drain_writes hwrites hwritten.unread] at hread
  rw [hread, List.map_map]
  exact List.map_congr_left fun s hs =>
    unpack_carried hhttp (hwritten.dated s hs) (hwritten.wellFormed s hs)

end Runs

section Sample

/-- An IP packet of one byte, in a RuTube response. -/
def streamCall : SendCall := ⟨[0x45], 1700000000, 1, PacketWrapper.sampleDraws⟩

/-- Two packets over a socket that takes the first of them and a part of the second. -/
theorem sent_stream_read_sample :
    ∃ sent : List (SendCall × UInt32),
      sent.map Prod.fst = returned (tableAead []) HttParse.scan
        (connected ⟨[], [], 600⟩ 0 9 ⟨List.Vector.replicate 32 7⟩ .ruTube)
        [.send streamCall, .receive 2 3, .send streamCall] ∧
      (sent.map Prod.snd).Pairwise (· < ·) ∧
      ∀ pieces, ((packetCalls (tableAead []) HttParse.scan).final
          (connected ⟨[], [], 600⟩ 0 9 ⟨List.Vector.replicate 32 7⟩ .ruTube)
          [.send streamCall, .receive 2 3, .send streamCall]).stream.map TcpStream.output =
            some pieces.flatten →
        ((frames.reader.outputs [] pieces).flatten.map
            (unpack HttParse.scan (PacketWrapper.new .ruTube))) =
          sent.map fun s => .ok (carriedPacket (tableAead []) ⟨List.Vector.replicate 32 7⟩ 9 .ruTube
            s.1 s.2) := by
  have hdated : ∀ x ∈ [PacketCall.send streamCall, .receive 2 3, .send streamCall], x.Dated := by
    intro x hx
    simp only [List.mem_cons, List.not_mem_nil, or_false] at hx
    rcases hx with rfl | rfl | rfl
    · exact PacketWrapper.sampleDraws_dated
    · trivial
    · exact PacketWrapper.sampleDraws_dated
  exact sent_stream_read HttParse.scan_endsHeads (tableAead []) [] 600 0 9 _ .ruTube hdated

end Sample

end ServerConnection

end Llp.Client
