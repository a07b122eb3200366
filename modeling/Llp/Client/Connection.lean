/-
  `llp-client/connection.rs`: packets over a connected stream.

  `sendPacket` seals an IP packet under the bytes of a fresh header, puts it in an LLP packet,
  wraps the packet and writes it after its length. `receivePacket` undoes the steps, with the
  bytes of the header it parsed as AAD. The fresh header states a payload length of zero; the
  header on the wire states the actual one.

  * `receivePacket_ok`: what a call that returned has opened.
-/
import Llp.Core.Session
import Llp.Mimicry.Wrapper

namespace Llp.Client
open ByteCodec Mimicry

/-! ## The stream -/

/-- `TcpStream`: the bytes not read yet, those written, and how many more the socket takes
    before it fails. -/
structure TcpStream where
  input : Bytes
  output : Bytes
  room : ℕ
deriving DecidableEq

namespace TcpStream

/-- `read_exact`: fails at the end of the stream. -/
def readExact (k : ℕ) : Method TcpStream BoxError Bytes := do
  let self ← get
  set { self with input := self.input.drop k }
  Method.failIf (self.input.length < k) .io
  pure (self.input.take k)

/-- `read_u32`. -/
def readU32 : Method TcpStream BoxError UInt32 := do
  let bytes ← readExact 4
  pure (UInt32.ofNat (ofBE bytes))

theorem readExact_ok {k : ℕ} {self : TcpStream} (h : ¬ self.input.length < k) :
    readExact k self = .ok (self.input.take k) { self with input := self.input.drop k } := by
  unfold readExact
  rw [Method.get_bind, Method.set_bind, Method.bind_ok (Method.failIf_neg _ h _),
    Method.pure_apply]

theorem readExact_iff {k : ℕ} {bytes : Bytes} {self self' : TcpStream} :
    readExact k self = .ok bytes self' ↔
      k ≤ self.input.length ∧ bytes = self.input.take k ∧
        self' = { self with input := self.input.drop k } := by
  constructor
  · intro h
    by_cases hshort : self.input.length < k
    · unfold readExact at h
      rw [Method.get_bind, Method.set_bind, Method.bind_error (Method.failIf_pos _ hshort _)] at h
      cases h
    · rw [readExact_ok hshort] at h
      cases h
      exact ⟨Nat.le_of_not_lt hshort, rfl, rfl⟩
  · rintro ⟨hlong, rfl, rfl⟩
    exact readExact_ok (Nat.not_lt.mpr hlong)

/-- `write_all`. -/
def writeAll (bytes : Bytes) : Method TcpStream BoxError Unit := do
  let self ← get
  set { self with output := self.output ++ bytes.take self.room, room := self.room - bytes.length }
  Method.failIf (self.room < bytes.length) .io

theorem writeAll_iff {bytes : Bytes} {self self' : TcpStream} :
    writeAll bytes self = .ok () self' ↔
      bytes.length ≤ self.room ∧
        self' = { self with
          output := self.output ++ bytes
          room := self.room - bytes.length } := by
  unfold writeAll
  rw [Method.get_bind, Method.set_bind, Method.failIf_iff, Nat.not_lt]
  refine and_congr_right fun hle => ?_
  rw [List.take_of_length_le hle]

theorem writeAll_eq_ok {bytes : Bytes} {self self' : TcpStream}
    (h : writeAll bytes self = .ok () self') : self'.output = self.output ++ bytes := by
  obtain ⟨-, rfl⟩ := writeAll_iff.mp h
  rfl

/-- `write_u32`. -/
def writeU32 (value : UInt32) : Method TcpStream BoxError Unit := writeAll (toBE 4 value.toNat)

end TcpStream

/-! ## The connection -/

/-- `ServerConnection`: what the packet calls use of it. -/
structure ServerConnection where
  stream : Option TcpStream
  wrapper : Option PacketWrapper
  session : Option Session
deriving DecidableEq

namespace ServerConnection

/-- What `connect` leaves after its handshake. -/
def connected (stream : TcpStream) (now : Instant) (sessionId : UInt64) (sessionKey : SessionKey)
    (mimicryProfile : MimicryProfile) : ServerConnection where
  stream := some stream
  wrapper := some (PacketWrapper.new mimicryProfile)
  session := some (Session.new now sessionId sessionKey mimicryProfile)

section Parts

variable {α : Type}

/-- Call the session, bound as `session` before. -/
def onSession (session : Session) (m : Method Session LlpError α) :
    Method ServerConnection BoxError α :=
  Method.focus (fun self => self.session.getD session)
    (fun session self => { self with session := some session }) (Method.mapError .llp m)

/-- Call the wrapper. -/
def onWrapper (wrapper : PacketWrapper) (m : Method PacketWrapper MimicryError α) :
    Method ServerConnection BoxError α :=
  Method.focus (fun self => self.wrapper.getD wrapper)
    (fun wrapper self => { self with wrapper := some wrapper }) (Method.mapError .mimicry m)

/-- Call the stream. -/
def onStream (stream : TcpStream) (m : Method TcpStream BoxError α) :
    Method ServerConnection BoxError α :=
  Method.focus (fun self => self.stream.getD stream)
    (fun stream self => { self with stream := some stream }) m

end Parts

/-- The arguments of a `send_packet`: the packet, and what it draws and reads of the clocks. -/
structure SendCall where
  ipPacket : Bytes
  unixTime : ℕ
  now : Instant
  draws : PacketWrapper.Draws

/-- The header that `send_packet` makes. -/
def dataHeader (unixTime : ℕ) (session : Session) : PacketHeader :=
  PacketHeader.new unixTime PacketFlags.DATA session.sessionId session.txSequence
    session.mimicryProfile

/-- `send_packet`. -/
def sendPacket (A : ChaCha20Poly1305) (call : SendCall) :
    Method ServerConnection BoxError Unit := do
  let self ← get
  let session ← Method.okOr (.message "Нет активной сессии") self.session
  let wrapper ← Method.okOr (.message "Нет wrapper") self.wrapper
  let stream ← Method.okOr (.message "Нет подключения") self.stream
  let header := dataHeader call.unixTime session
  let aad := header.serialize
  let (encryptedPayload, _) ←
    onSession session (Session.encryptPayload A call.now call.ipPacket aad)
  let llpPacket ← Method.mapError .llp
    (Method.lift (LlpPacket.new header encryptedPayload [] (List.Vector.replicate 16 0)))
  let serialized ← Method.mapError .llp (Method.lift llpPacket.serialize)
  let wrapped ← onWrapper wrapper (PacketWrapper.wrap call.draws serialized)
  onStream stream (TcpStream.writeU32 (UInt32.ofNat wrapped.length))
  onStream stream (TcpStream.writeAll wrapped)

/-- `receive_packet`, with its two clock readings. -/
def receivePacket (A : ChaCha20Poly1305) (http : HttParse) (now now' : Instant) :
    Method ServerConnection BoxError Bytes := do
  let self ← get
  let session ← Method.okOr (.message "Нет активной сессии") self.session
  let wrapper ← Method.okOr (.message "Нет wrapper") self.wrapper
  let stream ← Method.okOr (.message "Нет подключения") self.stream
  let len ← onStream stream TcpStream.readU32
  Method.failIf (len.toNat > 65536) (.message "Пакет слишком большой")
  let buf ← onStream stream (TcpStream.readExact len.toNat)
  let unwrapped ← Method.mapError .mimicry (Method.lift (wrapper.unwrap http buf))
  let llpPacket ← Method.mapError .llp (Method.lift (LlpPacket.deserialize unwrapped))
  let aad := llpPacket.header.serialize
  onSession session
    (Session.decryptPayload A now now' llpPacket.encryptedPayload aad
      llpPacket.header.sequenceNumber)

/-- What a call that returned has opened: the payload of a parsed packet, under the bytes of
    the packet's own header. -/
theorem receivePacket_ok {A : ChaCha20Poly1305} {http : HttParse} {now now' : Instant}
    {c c' : ServerConnection} {ipPacket : Bytes}
    (h : receivePacket A http now now' c = .ok ipPacket c') :
    ∃ (llpPacket : LlpPacket) (key : Arr 32) (nonce : Bytes),
      llpPacket.encryptedPayload.length = llpPacket.header.payloadLength.toNat ∧
      A.decrypt key nonce llpPacket.header.serialize llpPacket.encryptedPayload =
        some ipPacket := by
  unfold receivePacket at h
  rw [Method.get_bind] at h
  obtain ⟨session, _, -, h⟩ := Method.bind_eq_ok h
  obtain ⟨wrapper, _, -, h⟩ := Method.bind_eq_ok h
  obtain ⟨stream, _, -, h⟩ := Method.bind_eq_ok h
  obtain ⟨len, _, -, h⟩ := Method.bind_eq_ok h
  obtain ⟨_, _, -, h⟩ := Method.bind_eq_ok h
  obtain ⟨buf, _, -, h⟩ := Method.bind_eq_ok h
  obtain ⟨unwrapped, _, -, h⟩ := Method.bind_eq_ok h
  obtain ⟨llpPacket, s, hparse, h⟩ := Method.bind_eq_ok h
  have hpayload := LlpPacket.deserialize_payload
    (Method.lift_eq_ok (Method.mapError_eq_ok hparse)).1
  obtain ⟨t, hdecrypt, -⟩ := Method.focus_eq_ok h
  have hopen := Method.mapError_eq_ok hdecrypt
  rw [Session.decryptPayload_apply] at hopen
  split at hopen
  · split at hopen
    · next plaintext hplain =>
        cases hopen
        exact ⟨llpPacket, _, _, hpayload, AeadCipher.decrypt_eq_ok.mp hplain⟩
    · cases hopen
  · cases hopen

/-- What a call that returned has written: a length word and a wrapped packet, which is longer
    than the IP packet by a header and two tags at least. -/
theorem sendPacket_ok {A : ChaCha20Poly1305} (hA : A.Tagged) {call : SendCall}
    {c c' : ServerConnection} (h : sendPacket A call c = .ok () c') :
    ∃ stream stream' wrapped, c.stream = some stream ∧ c'.stream = some stream' ∧
      stream'.output = stream.output ++ toBE 4 (UInt32.ofNat wrapped.length).toNat ++ wrapped ∧
      call.ipPacket.length + POLY1305_TAG_SIZE + MIN_PACKET_SIZE ≤ wrapped.length := by
  unfold sendPacket at h
  rw [Method.get_bind] at h
  obtain ⟨session, _, hsession, h₁⟩ := Method.bind_eq_ok h
  obtain ⟨wrapper, _, hwrapper, h₂⟩ := Method.bind_eq_ok h₁
  obtain ⟨stream, _, hstream, h₃⟩ := Method.bind_eq_ok h₂
  obtain ⟨⟨encryptedPayload, _⟩, _, hencrypt, h₄⟩ := Method.bind_eq_ok h₃
  obtain ⟨llpPacket, _, hnew, h₅⟩ := Method.bind_eq_ok h₄
  obtain ⟨serialized, _, hserialize, h₆⟩ := Method.bind_eq_ok h₅
  obtain ⟨wrapped, _, hwrap, h₇⟩ := Method.bind_eq_ok h₆
  obtain ⟨_, _, hword, hbody⟩ := Method.bind_eq_ok h₇
  obtain ⟨-, rfl⟩ := Method.okOr_eq_ok hsession
  obtain ⟨-, rfl⟩ := Method.okOr_eq_ok hwrapper
  obtain ⟨hconnected, rfl⟩ := Method.okOr_eq_ok hstream
  obtain ⟨_, hsealed, rfl⟩ := Method.focus_eq_ok hencrypt
  obtain ⟨hpacket, rfl⟩ := Method.lift_eq_ok (Method.mapError_eq_ok hnew)
  obtain ⟨hserialized, rfl⟩ := Method.lift_eq_ok (Method.mapError_eq_ok hserialize)
  obtain ⟨_, hwrapped, rfl⟩ := Method.focus_eq_ok hwrap
  obtain ⟨_, hwordOut, rfl⟩ := Method.focus_eq_ok hword
  obtain ⟨stream', hbodyOut, rfl⟩ := Method.focus_eq_ok hbody
  -- the session and the wrapper leave the stream alone
  have hout := TcpStream.writeAll_eq_ok hwordOut
  have hout' := TcpStream.writeAll_eq_ok hbodyOut
  simp only [hconnected, Option.getD_some] at hout hout'
  refine ⟨stream, stream', wrapped, hconnected, rfl, by rw [hout', hout], ?_⟩
  have hlen := Session.encryptPayload_length hA (Method.mapError_eq_ok hsealed)
  have htotal := LlpPacket.serialize_length hserialized
  have hsuffix := (PacketWrapper.wrap_suffix (Method.mapError_eq_ok hwrapped)).length_le
  rw [LlpPacket.totalSize, LlpPacket.new_payload hpacket, hlen] at htotal
  rw [MIN_PACKET_SIZE]
  omega

end ServerConnection

end Llp.Client
