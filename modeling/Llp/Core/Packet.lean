/-
  `llp-core/packet.rs`: the packet header and the packet codec.

  Layout: a 24-byte big-endian header, the encrypted payload, the padding, a 16-byte tag.
  `LlpPacket.serialize` writes the actual lengths into a copy of the header;
  `LlpPacket.deserialize` checks the total length against the lengths it read.

  * `serialize_length`, `serialize_payloadLength`: the header takes 24 bytes, and they
    determine the payload length.
  * `deserialize_payload`: a parsed packet's payload has the length its header states.
-/
import Llp.Lib.Cursor
import Llp.Core.Error

namespace Llp
open ByteCodec

def PROTOCOL_VERSION : UInt8 := 1

/-- Size of the header, without payload and tag. -/
def HEADER_SIZE : ℕ := 24

def AUTH_TAG_SIZE : ℕ := 16

def MIN_PACKET_SIZE : ℕ := HEADER_SIZE + AUTH_TAG_SIZE

def MAX_PACKET_SIZE : ℕ := 65536

def MAX_PAYLOAD_SIZE : ℕ := MAX_PACKET_SIZE - MIN_PACKET_SIZE - 1024

def MAX_PADDING_SIZE : ℕ := 1024

/-! ## Flags and profiles -/

/-- Packet flags: eight named bits. -/
structure PacketFlags where
  bits : UInt8
deriving DecidableEq, Repr

namespace PacketFlags

def DATA : PacketFlags := ⟨0b00000001⟩
def CONTROL : PacketFlags := ⟨0b00000010⟩
def FRAGMENT : PacketFlags := ⟨0b00000100⟩
def LAST_FRAG : PacketFlags := ⟨0b00001000⟩
def ACK : PacketFlags := ⟨0b00010000⟩
def KEEPALIVE : PacketFlags := ⟨0b00100000⟩
def REKEY : PacketFlags := ⟨0b01000000⟩
def RESERVED : PacketFlags := ⟨0b10000000⟩

/-- All named bits. -/
def all : UInt8 :=
  DATA.bits ||| CONTROL.bits ||| FRAGMENT.bits ||| LAST_FRAG.bits ||| ACK.bits |||
    KEEPALIVE.bits ||| REKEY.bits ||| RESERVED.bits

/-- `from_bits`: `None` when a bit without a name is set. -/
def fromBits (bits : UInt8) : Option PacketFlags :=
  if bits &&& all = bits then some ⟨bits⟩ else none

/-- `contains`. -/
def contains (self other : PacketFlags) : Bool := self.bits &&& other.bits = other.bits

end PacketFlags

/-- The mimicry profile of a session. -/
inductive MimicryProfile where
  | none
  | vkVideo
  | yandexMusic
  | ruTube
deriving DecidableEq, Repr

namespace MimicryProfile

/-- `from_u16`. -/
def fromU16 (value : UInt16) : Option MimicryProfile :=
  if value = 0 then some none
  else if value = 1 then some vkVideo
  else if value = 2 then some yandexMusic
  else if value = 3 then some ruTube
  else Option.none

/-- `to_u16`. -/
def toU16 : MimicryProfile → UInt16
  | none => 0
  | vkVideo => 1
  | yandexMusic => 2
  | ruTube => 3

@[simp] theorem fromU16_toU16 (p : MimicryProfile) : fromU16 p.toU16 = some p := by
  cases p <;> rfl

theorem fromU16_eq_some {value : UInt16} {p : MimicryProfile} (h : fromU16 value = some p) :
    value = p.toU16 := by
  unfold fromU16 at h
  split_ifs at h <;> cases h <;> assumption

theorem toU16_inj {p q : MimicryProfile} (h : p.toU16 = q.toU16) : p = q := by
  have := congrArg fromU16 h
  simpa using this

end MimicryProfile

/-! ## The header -/

/-- `PacketHeader`. -/
structure PacketHeader where
  version : UInt8
  flags : PacketFlags
  payloadLength : UInt16
  sessionId : UInt64
  sequenceNumber : UInt32
  timestamp : UInt32
  mimicryProfile : MimicryProfile
  paddingLength : UInt16
deriving DecidableEq, Repr

namespace PacketHeader

/-- `PacketHeader::new`, at Unix time `unixTime`; the lengths start at zero. -/
def new (unixTime : ℕ) (flags : PacketFlags) (sessionId : UInt64) (sequenceNumber : UInt32)
    (mimicryProfile : MimicryProfile) : PacketHeader where
  version := PROTOCOL_VERSION
  flags := flags
  payloadLength := 0
  sessionId := sessionId
  sequenceNumber := sequenceNumber
  timestamp := UInt32.ofNat unixTime
  mimicryProfile := mimicryProfile
  paddingLength := 0

/-- `PacketHeader::serialize`. -/
def serialize (self : PacketHeader) : Bytes :=
  toBE 1 self.version.toNat ++ toBE 1 self.flags.bits.toNat ++ toBE 2 self.payloadLength.toNat ++
    toBE 8 self.sessionId.toNat ++ toBE 4 self.sequenceNumber.toNat ++
    toBE 4 self.timestamp.toNat ++ toBE 2 self.mimicryProfile.toU16.toNat ++
    toBE 2 self.paddingLength.toNat

open Cursor in
/-- `PacketHeader::deserialize`. -/
def deserialize : Method Bytes LlpError PacketHeader := do
  let available ← remaining
  Method.failIf (available < HEADER_SIZE)
    (.packetError (.insufficientData HEADER_SIZE available))
  let version ← getU8
  Method.failIf (version ≠ PROTOCOL_VERSION) (.packetError (.unsupportedVersion version))
  let flagsBits ← getU8
  let flags ← Method.okOr (.packetError (.invalidFlags flagsBits))
    (PacketFlags.fromBits flagsBits)
  let payloadLength ← getU16
  let sessionId ← getU64
  let sequenceNumber ← getU32
  let timestamp ← getU32
  let mimicryProfileId ← getU16
  let mimicryProfile ← Method.okOr
    (.handshakeError (.unsupportedMimicryProfile mimicryProfileId))
    (MimicryProfile.fromU16 mimicryProfileId)
  let paddingLength ← getU16
  Method.failIf (paddingLength.toNat > MAX_PADDING_SIZE)
    (.packetError (.invalidPaddingSize paddingLength.toNat MAX_PADDING_SIZE))
  pure { version, flags, payloadLength, sessionId, sequenceNumber, timestamp, mimicryProfile,
         paddingLength }

@[simp] theorem serialize_length (h : PacketHeader) : h.serialize.length = HEADER_SIZE := by
  simp [serialize, HEADER_SIZE]

/-- The bytes of a header determine its payload length. -/
theorem serialize_payloadLength {g h : PacketHeader} (heq : g.serialize = h.serialize) :
    g.payloadLength = h.payloadLength := by
  have hlen : ∀ k : PacketHeader, (k.serialize.drop 2).take 2 = toBE 2 k.payloadLength.toNat := by
    intro k
    simp [serialize, List.drop_append, List.take_append]
  apply u16_toBE_inj
  rw [← hlen g, ← hlen h, heq]

end PacketHeader

/-! ## The packet -/

/-- `LlpPacket`. -/
structure LlpPacket where
  header : PacketHeader
  encryptedPayload : Bytes
  padding : Bytes
  authTag : Arr 16
deriving DecidableEq

namespace LlpPacket

/-- `LlpPacket::new`. -/
def new (header : PacketHeader) (encryptedPayload padding : Bytes) (authTag : Arr 16) :
    Fallible LlpError LlpPacket :=
  if encryptedPayload.length > MAX_PAYLOAD_SIZE then
    .error (.err (.packetError (.packetTooLarge encryptedPayload.length MAX_PAYLOAD_SIZE)))
  else if padding.length > MAX_PADDING_SIZE then
    .error (.err (.packetError (.invalidPaddingSize padding.length MAX_PADDING_SIZE)))
  else .ok { header, encryptedPayload, padding, authTag }

theorem new_payload {header : PacketHeader} {encryptedPayload padding : Bytes} {authTag : Arr 16}
    {self : LlpPacket} (h : new header encryptedPayload padding authTag = .ok self) :
    self.encryptedPayload = encryptedPayload := by
  unfold new at h
  split at h
  · cases h
  split at h
  · cases h
  cases h
  rfl

/-- `is_data`. -/
def isData (self : LlpPacket) : Bool := self.header.flags.contains .DATA

/-- `is_control`. -/
def isControl (self : LlpPacket) : Bool := self.header.flags.contains .CONTROL

/-- `is_keepalive`. -/
def isKeepalive (self : LlpPacket) : Bool := self.header.flags.contains .KEEPALIVE

/-- `is_rekey`. -/
def isRekey (self : LlpPacket) : Bool := self.header.flags.contains .REKEY

/-- `total_size`. -/
def totalSize (self : LlpPacket) : ℕ :=
  HEADER_SIZE + self.encryptedPayload.length + self.padding.length + AUTH_TAG_SIZE

/-- `LlpPacket::serialize`: the header goes out with the actual lengths. -/
def serialize (self : LlpPacket) : Fallible LlpError Bytes :=
  if self.totalSize > MAX_PACKET_SIZE then
    .error (.err (.packetError (.packetTooLarge self.totalSize MAX_PACKET_SIZE)))
  else
    let header := { self.header with
      payloadLength := UInt16.ofNat self.encryptedPayload.length
      paddingLength := UInt16.ofNat self.padding.length }
    .ok (header.serialize ++ self.encryptedPayload ++ self.padding ++ self.authTag.toList)

theorem serialize_length {self : LlpPacket} {bytes : Bytes} (h : self.serialize = .ok bytes) :
    bytes.length = self.totalSize := by
  unfold serialize at h
  split at h
  · cases h
  · cases h
    simp [totalSize, AUTH_TAG_SIZE, PacketHeader.serialize_length]
    omega

/-- `split_to`: cut `k` bytes off the front; panics when there are fewer. -/
def splitTo (k : ℕ) : Method Bytes LlpError Bytes := do
  let bytes ← Cursor.take k
  pure bytes.toList

/-- `LlpPacket::deserialize`. The header is read from a clone of the buffer, which is then
    advanced past it. -/
def deserialize (data : Bytes) : Fallible LlpError LlpPacket :=
  if data.length < MIN_PACKET_SIZE then
    .error (.err (.packetError (.invalidPacketSize MIN_PACKET_SIZE data.length)))
  else
    match PacketHeader.deserialize data with
    | .error e _ => .error e
    | .ok header _ =>
        let expectedSize :=
          HEADER_SIZE + header.payloadLength.toNat + header.paddingLength.toNat + AUTH_TAG_SIZE
        if data.length ≠ expectedSize then
          .error (.err (.packetError (.invalidPacketSize expectedSize data.length)))
        else
          Method.eval (body header) data
where
  body (header : PacketHeader) : Method Bytes LlpError LlpPacket := do
    let _ ← splitTo HEADER_SIZE
    let encryptedPayload ← splitTo header.payloadLength.toNat
    let padding ← splitTo header.paddingLength.toNat
    let available ← Cursor.remaining
    Method.failIf (available ≠ AUTH_TAG_SIZE)
      (.packetError (.insufficientData AUTH_TAG_SIZE available))
    let authTag ← Cursor.take 16
    pure { header, encryptedPayload, padding, authTag }

theorem splitTo_length {k : ℕ} {s t a : Bytes} (h : splitTo k s = .ok a t) : a.length = k := by
  obtain ⟨v, u, -, hv⟩ := Method.bind_eq_ok h
  cases hv
  exact v.toList_length

/-- A parsed packet's payload has the length its header states. -/
theorem deserialize_payload {data : Bytes} {p : LlpPacket} (h : deserialize data = .ok p) :
    p.encryptedPayload.length = p.header.payloadLength.toNat := by
  unfold deserialize at h
  split at h
  · cases h
  split at h
  · cases h
  next header _ _ =>
  simp only at h
  split at h
  · cases h
  obtain ⟨t, h⟩ := Method.eval_eq_ok h
  obtain ⟨_, _, -, h⟩ := Method.bind_eq_ok h
  obtain ⟨payload, _, hpayload, h⟩ := Method.bind_eq_ok h
  obtain ⟨_, _, -, h⟩ := Method.bind_eq_ok h
  obtain ⟨_, _, -, h⟩ := Method.bind_eq_ok h
  obtain ⟨_, _, -, h⟩ := Method.bind_eq_ok h
  obtain ⟨_, _, -, h⟩ := Method.bind_eq_ok h
  cases h
  exact splitTo_length hpayload

end LlpPacket

end Llp
