/-
  What `receive_packet` checks of a packet before it hands it on.

  `Valid` says of a packet what a client may expect of one: it is of this session, on time and a
  DATA packet. The call asks the replay window and the cipher only (`receivePacket_eq_ok`).

  * `returned_packet_valid_iff`: a returned packet is valid exactly when the sender made it so.
-/
import Llp.Client.Framing

namespace Llp.Client
open ByteCodec Mimicry

namespace ServerConnection

/-- A DATA packet of the session, on time at `unixTime`. -/
structure Valid (unixTime : ℕ) (session : Session) (p : LlpPacket) : Prop where
  sessionId : p.header.sessionId = session.sessionId
  timestamp : session.validateTimestamp unixTime p.header.timestamp = .ok ()
  data : p.isData = true
  notControl : p.isControl = false
  notKeepalive : p.isKeepalive = false
  notRekey : p.isRekey = false

/-- The window admits the packet, and its payload opens under its header. -/
def Opens (A : ChaCha20Poly1305) (session : Session) (p : LlpPacket) : Prop :=
  session.rxReplayWindow.Admits p.header.sequenceNumber ∧
    ∃ m, session.rxCipher.decrypt A p.encryptedPayload p.header.serialize
      p.header.sequenceNumber.toUInt64 = .ok m

/-- What a call that returned had to read. -/
theorem receivePacket_eq_ok {A : ChaCha20Poly1305} {http : HttParse} {now now' : Instant}
    {stream : TcpStream} {wrapper : PacketWrapper} {session : Session} :
    (∃ ipPacket c, receivePacket A http now now' ⟨some stream, some wrapper, some session⟩ =
        .ok ipPacket c) ↔
      ∃ p stream', readPacket http wrapper stream = .ok p stream' ∧ Opens A session p := by
  unfold Opens
  cases hread : readPacket http wrapper stream with
  | error e stream' =>
      rw [receivePacket_error hread]
      exact iff_of_false (fun ⟨_, _, h⟩ => by cases h) fun ⟨_, _, h, _⟩ => by cases h
  | ok p stream' =>
      have hstream : onStream stream (readPacket http wrapper)
          ⟨some stream, some wrapper, some session⟩ =
            .ok p ⟨some stream', some wrapper, some session⟩ := Method.focus_ok hread
      rw [receivePacket_eq, Method.bind_ok hstream]
      constructor
      · rintro ⟨ipPacket, c, h⟩
        obtain ⟨t, hdecrypt, -⟩ := Method.focus_eq_ok h
        exact ⟨p, stream', rfl,
          (Session.decryptPayload_eq_ok A).mp ⟨_, _, Method.mapError_eq_ok hdecrypt⟩⟩
      · rintro ⟨q, _, hq, hopens⟩
        cases hq
        obtain ⟨m, t, hdecrypt⟩ := (Session.decryptPayload_eq_ok A).mpr hopens
        exact ⟨m, _, Method.focus_ok (Method.mapError_ok hdecrypt)⟩

/-- Of the flags DATA, CONTROL, KEEPALIVE and REKEY, exactly the first is set. -/
theorem contains_data_only (flags : PacketFlags) :
    (flags.contains .DATA = true ∧ flags.contains .CONTROL = false ∧
        flags.contains .KEEPALIVE = false ∧ flags.contains .REKEY = false) ↔
      flags.bits &&& 0b01100011 = 0b00000001 := by
  have hbytes : ∀ bits : Fin 256,
      (PacketFlags.contains ⟨UInt8.ofFin bits⟩ .DATA = true ∧
          PacketFlags.contains ⟨UInt8.ofFin bits⟩ .CONTROL = false ∧
          PacketFlags.contains ⟨UInt8.ofFin bits⟩ .KEEPALIVE = false ∧
          PacketFlags.contains ⟨UInt8.ofFin bits⟩ .REKEY = false) ↔
        UInt8.ofFin bits &&& 0b01100011 = 0b00000001 := by
    decide +kernel
  exact hbytes flags.bits.toFin

/-- A valid packet, by the fields of its header. -/
theorem valid_iff {unixTime : ℕ} {session : Session} {p : LlpPacket} :
    Valid unixTime session p ↔
      p.header.sessionId = session.sessionId ∧
        (unixTime ≤ p.header.timestamp.toNat + 300 ∧ p.header.timestamp.toNat ≤ unixTime + 300) ∧
        p.header.flags.bits &&& 0b01100011 = 0b00000001 := by
  have htimestamp : session.validateTimestamp unixTime p.header.timestamp = .ok () ↔ _ :=
    Session.validateTimestamp_eq_ok
  rw [← contains_data_only, ← htimestamp]
  exact ⟨fun h => ⟨h.sessionId, h.timestamp, h.data, h.notControl, h.notKeepalive, h.notRekey⟩,
    fun ⟨hid, htime, hdata, hcontrol, hkeepalive, hrekey⟩ =>
      ⟨hid, htime, hdata, hcontrol, hkeepalive, hrekey⟩⟩

/-- **What is handed on.** For every session, clock reading and frame: the packet that a returning
    call has read is valid exactly when the frame holds no packet that opens although its header
    names another session, is more than five minutes off, or has not DATA alone of the four
    type flags. -/
theorem returned_packet_valid_iff (A : ChaCha20Poly1305) (http : HttParse) (now now' : Instant)
    (unixTime : ℕ) (stream : TcpStream) (wrapper : PacketWrapper) (session : Session) :
    (∀ ipPacket c, receivePacket A http now now' ⟨some stream, some wrapper, some session⟩ =
        .ok ipPacket c →
      ∃ p stream', readPacket http wrapper stream = .ok p stream' ∧ Valid unixTime session p) ↔
    ∀ p stream', readPacket http wrapper stream = .ok p stream' →
      p.header.sessionId ≠ session.sessionId ∨ p.header.timestamp.toNat + 300 < unixTime ∨
        unixTime + 300 < p.header.timestamp.toNat ∨
        p.header.flags.bits &&& 0b01100011 ≠ 0b00000001 →
      ¬ Opens A session p := by
  constructor
  · rintro h p stream' hread hbad hopens
    obtain ⟨ipPacket, c, hok⟩ := receivePacket_eq_ok.mpr ⟨p, stream', hread, hopens⟩
    obtain ⟨q, _, hq, hvalid⟩ := h ipPacket c hok
    rw [hread] at hq
    cases hq
    obtain ⟨hid, ⟨hearly, hlate⟩, hflags⟩ := valid_iff.mp hvalid
    rcases hbad with hbad | hbad | hbad | hbad
    · exact hbad hid
    · omega
    · omega
    · exact hbad hflags
  · intro h ipPacket c hok
    obtain ⟨p, stream', hread, hopens⟩ := receivePacket_eq_ok.mp ⟨ipPacket, c, hok⟩
    refine ⟨p, stream', hread, valid_iff.mpr ?_⟩
    by_contra hno
    refine h p stream' hread ?_ hopens
    by_contra hgood
    simp only [not_or, not_not, not_lt] at hgood
    exact hno ⟨hgood.1, ⟨hgood.2.1, hgood.2.2.1⟩, hgood.2.2.2⟩

/-! ## A packet that is none of this -/

section Sample

def acceptanceKey : SessionKey := ⟨List.Vector.replicate 32 7⟩

/-- A KEEPALIVE packet of session 10, of the year 1970, under the nonce of session 9. -/
def strayHeader : PacketHeader :=
  { PacketHeader.new 0 .KEEPALIVE 10 0 .none with payloadLength := 17 }

def strayPacket : LlpPacket where
  header := strayHeader
  encryptedPayload := 0x45 :: List.replicate 16 0
  padding := []
  authTag := List.Vector.replicate 16 0

/-- What the holder of the key has sealed. -/
def straySealed : List Sealing :=
  [⟨acceptanceKey.bytes, (ChaCha20Nonce.new 9 0).asBytes, strayHeader.serialize, [0x45]⟩]

/-- The connection of session 9, with the frame of that packet to read. -/
def strayConnection : ServerConnection :=
  connected ⟨frame strayPacket.bytes, [], 0⟩ 0 9 acceptanceKey .none

/-- In the year 2023 it is handed on as an IP packet. -/
theorem stray_packet_returned :
    (tableAead straySealed).Ideal straySealed ∧
      (∃ c, receivePacket (tableAead straySealed) HttParse.scan 1 2 strayConnection =
        .ok [0x45] c) ∧
      ∃ stream', readPacket HttParse.scan (.new .none) ⟨frame strayPacket.bytes, [], 0⟩ =
          .ok strayPacket stream' ∧
        ∀ session, strayConnection.session = some session →
          ¬ Valid 1700000000 session strayPacket := by
  refine ⟨tableAead_ideal straySealed, ⟨_, rfl⟩, _, rfl, ?_⟩
  rintro session hsession hvalid
  cases hsession
  exact absurd hvalid.sessionId (by decide)

end Sample

end ServerConnection

end Llp.Client
