/-
  The packet codec: what is written is read back, and what is read was written.

  `WellFormed` is what the decoder checks of a packet: the version, the padding, and that the two
  length fields are the actual lengths. `bytes` is a packet on the wire with its header as it
  stands; `withLengths` puts the actual lengths into the header, as `serialize` does.

  * `deserialize_iff`: the decoder accepts the bytes of the well-formed packets, and no others.
  * `deserialize_cut`: a packet that is cut short or run on is refused, with an error.
  * `packet_round_trip`: what `LlpPacket::new` accepts goes over the wire as it is.
  * `reencodes_iff_payload_fits`: an accepted packet is one the encoder can write exactly when
    its payload is within `MAX_PAYLOAD_SIZE`, which the decoder does not check.
-/
import Llp.Core.Packet

namespace Llp
open ByteCodec

/-! ## The header -/

namespace PacketFlags

/-- Every bit has a name. -/
theorem fromBits_eq (bits : UInt8) : fromBits bits = some ⟨bits⟩ := by
  have hall : bits &&& all = bits := by
    apply UInt8.toNat_inj.mp
    show bits.toNat &&& (2 ^ 8 - 1) = bits.toNat
    rw [Nat.and_two_pow_sub_one_eq_mod, Nat.mod_eq_of_lt bits.toNat_lt]
  rw [fromBits, if_pos hall]

end PacketFlags

namespace PacketHeader

open Cursor in
/-- The decoder of headers reads those of this version with a padding within the limit. -/
theorem deserialize_reads : Reads deserialize serialize fun h =>
    h.version = PROTOCOL_VERSION ∧ h.paddingLength.toNat ≤ MAX_PADDING_SIZE where
  back h rest hvalid := by
    obtain ⟨hversion, hpadding⟩ := hvalid
    have hlen : ¬ (h.serialize ++ rest).length < HEADER_SIZE := by
      rw [List.length_append, serialize_length]
      omega
    have hremaining : (remaining : Method Bytes LlpError ℕ) (h.serialize ++ rest) =
        .ok (h.serialize ++ rest).length (h.serialize ++ rest) := rfl
    unfold deserialize
    rw [Method.bind_ok hremaining, Method.bind_ok (Method.failIf_neg _ hlen _)]
    simp only [serialize, List.append_assoc]
    rw [getU8_reads.bind_ok trivial, Method.bind_ok (Method.failIf_neg _ (not_not.mpr hversion) _),
      getU8_reads.bind_ok trivial, PacketFlags.fromBits_eq, Method.okOr_some, pure_bind,
      getU16_reads.bind_ok trivial, getU64_reads.bind_ok trivial, getU32_reads.bind_ok trivial,
      getU32_reads.bind_ok trivial, getU16_reads.bind_ok trivial, MimicryProfile.fromU16_toU16,
      Method.okOr_some, pure_bind, getU16_reads.bind_ok trivial,
      Method.bind_ok (Method.failIf_neg _ (Nat.not_lt.mpr hpadding) _), Method.pure_apply]
  sound s h rest hok := by
    unfold deserialize at hok
    obtain ⟨_, _, hremaining, h₀⟩ := Method.bind_eq_ok hok
    cases hremaining
    obtain ⟨-, h₁⟩ := Method.failIf_bind_eq_ok h₀
    obtain ⟨version, s₁, -, rfl, h₂⟩ := getU8_reads.bind_eq_ok h₁
    obtain ⟨hversion, h₃⟩ := Method.failIf_bind_eq_ok h₂
    obtain ⟨flagsBits, s₂, -, rfl, h₄⟩ := getU8_reads.bind_eq_ok h₃
    obtain ⟨flags, hflags, h₅⟩ := Method.okOr_bind_eq_ok h₄
    obtain ⟨payloadLength, s₃, -, rfl, h₆⟩ := getU16_reads.bind_eq_ok h₅
    obtain ⟨sessionId, s₄, -, rfl, h₇⟩ := getU64_reads.bind_eq_ok h₆
    obtain ⟨sequenceNumber, s₅, -, rfl, h₈⟩ := getU32_reads.bind_eq_ok h₇
    obtain ⟨timestamp, s₆, -, rfl, h₉⟩ := getU32_reads.bind_eq_ok h₈
    obtain ⟨profileId, s₇, -, rfl, h₁₀⟩ := getU16_reads.bind_eq_ok h₉
    obtain ⟨profile, hprofile, h₁₁⟩ := Method.okOr_bind_eq_ok h₁₀
    obtain ⟨paddingLength, s₈, -, rfl, h₁₂⟩ := getU16_reads.bind_eq_ok h₁₁
    obtain ⟨hpadding, h₁₃⟩ := Method.failIf_bind_eq_ok h₁₂
    cases h₁₃
    rw [PacketFlags.fromBits_eq] at hflags
    cases hflags
    refine ⟨⟨not_not.mp hversion, Nat.not_lt.mp hpadding⟩, ?_⟩
    rw [MimicryProfile.fromU16_eq_some hprofile]
    simp only [serialize, List.append_assoc]

/-- The bytes of headers that the decoder reads determine them. -/
theorem serialize_inj {g h : PacketHeader} (hg : g.version = PROTOCOL_VERSION)
    (hgp : g.paddingLength.toNat ≤ MAX_PADDING_SIZE) (hh : h.version = PROTOCOL_VERSION)
    (hhp : h.paddingLength.toNat ≤ MAX_PADDING_SIZE) (heq : g.serialize = h.serialize) :
    g = h := by
  have hread := deserialize_reads.back g [] ⟨hg, hgp⟩
  rw [heq, deserialize_reads.back h [] ⟨hh, hhp⟩] at hread
  exact (EStateM.Result.ok.inj hread).1.symm

open Cursor in
/-- It reads the 24 bytes of a header. -/
theorem deserialize_safe : Safe HEADER_SIZE deserialize := by
  refine Safe.cast ?_ (show 0 + (0 + (1 + (0 + (1 + (0 + (2 + (8 + (4 + (4 + (2 + (0 +
    (2 + (0 + 0))))))))))))) = HEADER_SIZE from rfl)
  exact Safe.remaining.bind fun _ => (Safe.failIf _ _).bind fun _ => Safe.getU8.bind fun _ =>
    (Safe.failIf _ _).bind fun _ => Safe.getU8.bind fun _ => (Safe.okOr _ _).bind fun _ =>
    Safe.getU16.bind fun _ => Safe.getU64.bind fun _ => Safe.getU32.bind fun _ =>
    Safe.getU32.bind fun _ => Safe.getU16.bind fun _ => (Safe.okOr _ _).bind fun _ =>
    Safe.getU16.bind fun _ => (Safe.failIf _ _).bind fun _ => Safe.pure _

end PacketHeader

/-! ## The packet -/

namespace LlpPacket

/-- The packet on the wire, with its header as it stands. -/
def bytes (self : LlpPacket) : Bytes :=
  self.header.serialize ++ self.encryptedPayload ++ self.padding ++ self.authTag.toList

/-- The packet with the actual lengths in its header. -/
def withLengths (self : LlpPacket) : LlpPacket :=
  { self with header := { self.header with
      payloadLength := UInt16.ofNat self.encryptedPayload.length
      paddingLength := UInt16.ofNat self.padding.length } }

/-- What the decoder checks. -/
structure WellFormed (p : LlpPacket) : Prop where
  version : p.header.version = PROTOCOL_VERSION
  padding : p.padding.length ≤ MAX_PADDING_SIZE
  payloadLength : p.header.payloadLength.toNat = p.encryptedPayload.length
  paddingLength : p.header.paddingLength.toNat = p.padding.length

theorem bytes_length (self : LlpPacket) : self.bytes.length = self.totalSize := by
  simp only [bytes, totalSize, List.length_append, PacketHeader.serialize_length,
    List.Vector.toList_length, AUTH_TAG_SIZE]

theorem serialize_eq (self : LlpPacket) :
    self.serialize = if self.totalSize > MAX_PACKET_SIZE then
      .error (.err (.packetError (.packetTooLarge self.totalSize MAX_PACKET_SIZE)))
    else .ok self.withLengths.bytes := rfl

theorem withLengths_bytes_length (self : LlpPacket) :
    self.withLengths.bytes.length = self.totalSize := bytes_length self.withLengths

theorem splitTo_reads (k : ℕ) :
    Cursor.Reads (splitTo k) (fun bytes => bytes) fun bytes => bytes.length = k where
  back bytes rest hlen := by
    have htake : (Cursor.take k : Method Bytes LlpError (Arr k)) (bytes ++ rest) =
        .ok ⟨bytes, hlen⟩ rest := Cursor.take_append ⟨bytes, hlen⟩ rest
    exact Method.bind_ok htake
  sound s bytes rest h := by
    obtain ⟨a, t, -, hs, hpure⟩ := (Cursor.take_reads k).bind_eq_ok h
    cases hpure
    exact ⟨a.toList_length, hs⟩

/-- On the bytes of a well-formed packet, what follows the length check returns the packet. -/
theorem body_bytes {self : LlpPacket} (h : self.WellFormed) :
    deserialize.body self.header self.bytes = .ok self [] := by
  have htag : (Cursor.remaining : Method Bytes LlpError ℕ) self.authTag.toList =
      .ok AUTH_TAG_SIZE self.authTag.toList := by
    rw [Cursor.remaining, self.authTag.toList_length, AUTH_TAG_SIZE]
  unfold deserialize.body bytes
  rw [List.append_assoc, List.append_assoc,
    (splitTo_reads HEADER_SIZE).bind_ok self.header.serialize_length,
    (splitTo_reads _).bind_ok h.payloadLength.symm,
    (splitTo_reads _).bind_ok h.paddingLength.symm, Method.bind_ok htag,
    Method.bind_ok (Method.failIf_neg _ (not_not.mpr rfl) _),
    ← List.append_nil self.authTag.toList, (Cursor.take_reads 16).bind_ok trivial,
    Method.pure_apply]

/-- The decoder accepts the bytes of a well-formed packet. -/
theorem deserialize_bytes {self : LlpPacket} (h : self.WellFormed) :
    deserialize self.bytes = .ok self := by
  have hlen := bytes_length self
  have htotal : HEADER_SIZE + self.header.payloadLength.toNat +
      self.header.paddingLength.toNat + AUTH_TAG_SIZE = self.totalSize := by
    rw [h.payloadLength, h.paddingLength, totalSize]
  have hshort : ¬ self.bytes.length < MIN_PACKET_SIZE := by
    rw [hlen, totalSize, MIN_PACKET_SIZE]
    omega
  have hheader : PacketHeader.deserialize self.bytes =
      .ok self.header (self.encryptedPayload ++ (self.padding ++ self.authTag.toList)) := by
    rw [bytes, List.append_assoc, List.append_assoc]
    exact PacketHeader.deserialize_reads.back _ _ ⟨h.version, h.paddingLength ▸ h.padding⟩
  unfold deserialize
  rw [if_neg hshort, hheader]
  simp only
  rw [htotal, if_neg (not_not.mpr hlen), Method.eval, body_bytes h, Method.result_ok]

/-- What it accepts is the bytes of the packet it returns. -/
theorem deserialize_sound {data : Bytes} {self : LlpPacket} (h : deserialize data = .ok self) :
    self.WellFormed ∧ data = self.bytes := by
  unfold deserialize at h
  split at h
  · cases h
  · split at h
    · cases h
    · next header rest hheader =>
        obtain ⟨⟨hversion, hpadding⟩, hdata⟩ :=
          PacketHeader.deserialize_reads.sound _ _ _ hheader
        simp only at h
        split at h
        · cases h
        · obtain ⟨t, h₀⟩ := Method.eval_eq_ok h
          obtain ⟨front, s₁, hfront, hfrontData, h₁⟩ := (splitTo_reads _).bind_eq_ok h₀
          obtain ⟨payload, s₂, hpayload, rfl, h₂⟩ := (splitTo_reads _).bind_eq_ok h₁
          obtain ⟨padding, s₃, hpaddingLen, rfl, h₃⟩ := (splitTo_reads _).bind_eq_ok h₂
          obtain ⟨_, _, hremaining, h₄⟩ := Method.bind_eq_ok h₃
          cases hremaining
          obtain ⟨htagLen, h₅⟩ := Method.failIf_bind_eq_ok h₄
          obtain ⟨tag, s₄, -, rfl, h₆⟩ := (Cursor.take_reads 16).bind_eq_ok h₅
          cases h₆
          -- the clone and the buffer give the same header
          have hsame := List.append_inj (hdata.symm.trans hfrontData)
            (header.serialize_length.trans hfront.symm)
          have hrest : t = [] := by
            rw [not_not, List.length_append, tag.toList_length, AUTH_TAG_SIZE] at htagLen
            exact List.length_eq_zero_iff.mp (by omega)
          subst hrest
          refine ⟨⟨hversion, hpaddingLen ▸ hpadding, hpayload.symm, hpaddingLen.symm⟩, ?_⟩
          rw [hdata, hsame.2]
          simp only [bytes, List.append_assoc, List.append_nil]

/-- **The wire format.** The decoder accepts the bytes of the well-formed packets, and nothing
    else. -/
theorem deserialize_iff {data : Bytes} {self : LlpPacket} :
    deserialize data = .ok self ↔ self.WellFormed ∧ data = self.bytes :=
  ⟨deserialize_sound, fun h => h.2 ▸ deserialize_bytes h.1⟩

theorem splitTo_safe (k : ℕ) : Cursor.Safe k (splitTo k) :=
  (Cursor.Safe.take k).bind fun _ => Cursor.Safe.pure _

open Cursor in
theorem body_safe (header : PacketHeader) :
    Safe (HEADER_SIZE + header.payloadLength.toNat + header.paddingLength.toNat + AUTH_TAG_SIZE)
      (deserialize.body header) := by
  refine Safe.cast ?_ (show HEADER_SIZE + (header.payloadLength.toNat +
    (header.paddingLength.toNat + (0 + (0 + (16 + 0))))) = _ by rw [AUTH_TAG_SIZE]; omega)
  exact (splitTo_safe _).bind fun _ => (splitTo_safe _).bind fun _ => (splitTo_safe _).bind fun _ =>
    Safe.remaining.bind fun _ => (Safe.failIf _ _).bind fun _ => (Safe.take 16).bind fun _ =>
    Safe.pure _

/-- The decoder never reads out of range. -/
theorem deserialize_noPanic (data : Bytes) : deserialize data ≠ .error .panic := by
  unfold deserialize
  split
  · intro h
    cases h
  · next hlen =>
      have hheader : HEADER_SIZE ≤ data.length :=
        Nat.le_trans (Nat.le_add_right _ _) (Nat.not_lt.mp hlen)
      split
      · next e rest herror =>
          intro h
          cases h
          exact PacketHeader.deserialize_safe.noPanic data rest hheader herror
      · next header rest _ =>
          simp only
          split
          · intro h
            cases h
          · next hsize => exact (body_safe header).eval (Nat.le_of_eq (not_not.mp hsize).symm)

/-- What it does not accept it refuses with an error. -/
theorem deserialize_error {data : Bytes} (h : ∀ p, deserialize data ≠ .ok p) :
    ∃ e, deserialize data = .error (.err e) := by
  cases hd : deserialize data with
  | ok p => exact absurd hd (h p)
  | error fault =>
      cases fault with
      | err e => exact ⟨e, rfl⟩
      | panic => exact absurd hd (deserialize_noPanic data)

/-- The bytes of a packet are no proper prefix of those of another: they begin with the same
    header, which states the length of both. -/
theorem bytes_prefix_eq {p q : LlpPacket} (hp : p.WellFormed) (hq : q.WellFormed)
    (h : p.bytes <+: q.bytes) : p.bytes = q.bytes := by
  have htake : ∀ r : LlpPacket, r.bytes.take HEADER_SIZE = r.header.serialize := by
    intro r
    rw [bytes, List.append_assoc, List.append_assoc]
    exact List.take_left' r.header.serialize_length
  have hlong : HEADER_SIZE ≤ p.bytes.length := by
    rw [bytes_length, totalSize]
    omega
  have hheader : p.header = q.header := by
    obtain ⟨rest, hrest⟩ := h
    have hfront := htake q
    rw [← hrest, List.take_append_of_le_length hlong, htake] at hfront
    exact PacketHeader.serialize_inj hp.version (hp.paddingLength ▸ hp.padding) hq.version
      (hq.paddingLength ▸ hq.padding) hfront
  refine h.eq_of_length ?_
  rw [bytes_length, bytes_length, totalSize, totalSize, ← hp.payloadLength, ← hp.paddingLength,
    ← hq.payloadLength, ← hq.paddingLength, hheader]

/-- **Cuts.** Of the byte strings that a packet begins with, or that begin with it, the decoder
    accepts none but the packet's own. -/
theorem deserialize_cut {p : LlpPacket} (hp : p.WellFormed) {data : Bytes}
    (hcut : data <+: p.bytes ∨ p.bytes <+: data) (hne : data ≠ p.bytes) :
    ∃ e, deserialize data = .error (.err e) := by
  refine deserialize_error fun q hq => hne ?_
  obtain ⟨hwf, rfl⟩ := deserialize_sound hq
  rcases hcut with hcut | hcut
  · exact bytes_prefix_eq hwf hp hcut
  · exact (bytes_prefix_eq hp hwf hcut).symm

/-! ## Writing and reading -/

theorem new_eq_ok {header : PacketHeader} {encryptedPayload padding : Bytes} {authTag : Arr 16}
    {packet : LlpPacket} :
    new header encryptedPayload padding authTag = .ok packet ↔
      encryptedPayload.length ≤ MAX_PAYLOAD_SIZE ∧ padding.length ≤ MAX_PADDING_SIZE ∧
        packet = ⟨header, encryptedPayload, padding, authTag⟩ := by
  unfold new
  by_cases hpayload : encryptedPayload.length > MAX_PAYLOAD_SIZE
  · rw [if_pos hpayload]
    exact iff_of_false (by intro h; cases h) fun h => absurd h.1 (Nat.not_le.mpr hpayload)
  · by_cases hpadding : padding.length > MAX_PADDING_SIZE
    · rw [if_neg hpayload, if_pos hpadding]
      exact iff_of_false (by intro h; cases h) fun h => absurd h.2.1 (Nat.not_le.mpr hpadding)
    · rw [if_neg hpayload, if_neg hpadding, Except.ok.injEq]
      exact ⟨fun h => ⟨Nat.not_lt.mp hpayload, Nat.not_lt.mp hpadding, h.symm⟩,
        fun h => h.2.2.symm⟩

/-- The sum of the maxima is the packet maximum. -/
theorem totalSize_le (self : LlpPacket)
    (hpayload : self.encryptedPayload.length ≤ MAX_PAYLOAD_SIZE)
    (hpadding : self.padding.length ≤ MAX_PADDING_SIZE) : self.totalSize ≤ MAX_PACKET_SIZE := by
  have hsum : HEADER_SIZE + MAX_PAYLOAD_SIZE + MAX_PADDING_SIZE + AUTH_TAG_SIZE =
      MAX_PACKET_SIZE := rfl
  unfold totalSize
  omega

/-- The lengths of a packet within the maxima fit into the header. -/
theorem withLengths_wellFormed (self : LlpPacket) (hversion : self.header.version =
    PROTOCOL_VERSION) (hpayload : self.encryptedPayload.length ≤ MAX_PAYLOAD_SIZE)
    (hpadding : self.padding.length ≤ MAX_PADDING_SIZE) : self.withLengths.WellFormed where
  version := hversion
  padding := hpadding
  payloadLength := by
    have hmax : MAX_PAYLOAD_SIZE < UInt16.size := by decide
    exact UInt16.toNat_ofNat_of_lt (Nat.lt_of_le_of_lt hpayload hmax)
  paddingLength := by
    have hmax : MAX_PADDING_SIZE < UInt16.size := by decide
    exact UInt16.toNat_ofNat_of_lt (Nat.lt_of_le_of_lt hpadding hmax)

/-- **Round trip.** What `LlpPacket::new` accepts is written and read back as it is, with the
    actual lengths in the header. -/
theorem packet_round_trip {header : PacketHeader} (hversion : header.version = PROTOCOL_VERSION)
    {encryptedPayload padding : Bytes} {authTag : Arr 16} {packet : LlpPacket}
    (h : new header encryptedPayload padding authTag = .ok packet) :
    ∃ data, packet.serialize = .ok data ∧
      deserialize data = .ok
        { header := { header with
            payloadLength := UInt16.ofNat encryptedPayload.length
            paddingLength := UInt16.ofNat padding.length }
          encryptedPayload := encryptedPayload
          padding := padding
          authTag := authTag } ∧
      (UInt16.ofNat encryptedPayload.length).toNat = encryptedPayload.length ∧
      (UInt16.ofNat padding.length).toNat = padding.length := by
  obtain ⟨hpayload, hpadding, rfl⟩ := new_eq_ok.mp h
  have hwf := withLengths_wellFormed ⟨header, encryptedPayload, padding, authTag⟩ hversion hpayload
    hpadding
  have hsize := totalSize_le ⟨header, encryptedPayload, padding, authTag⟩ hpayload hpadding
  refine ⟨_, ?_, deserialize_bytes hwf, hwf.payloadLength, hwf.paddingLength⟩
  rw [serialize_eq, if_neg (Nat.not_lt.mpr hsize)]
  rfl

/-- The payload length that a header states, in its bytes 2 and 3. -/
def statedPayloadLength (data : Bytes) : ℕ := ofBE ((data.drop 2).take 2)

theorem statedPayloadLength_bytes (self : LlpPacket) :
    statedPayloadLength self.bytes = self.header.payloadLength.toNat := by
  have hfield : (self.bytes.drop 2).take 2 = toBE 2 self.header.payloadLength.toNat := by
    simp [bytes, PacketHeader.serialize, List.drop_append, List.take_append]
  rw [statedPayloadLength, hfield, ofBE_toBE 2 _ (u16_lt _)]

/-- **What the encoder can produce.** An accepted byte string is one that the encoder writes for
    the packet read from it, exactly when the payload length it states is within the maximum. -/
theorem reencodes_iff_payload_fits {data : Bytes} {packet : LlpPacket}
    (h : deserialize data = .ok packet) :
    (new packet.header packet.encryptedPayload packet.padding packet.authTag = .ok packet ∧
        packet.serialize = .ok data) ↔
      statedPayloadLength data ≤ MAX_PAYLOAD_SIZE := by
  obtain ⟨hwf, rfl⟩ := deserialize_sound h
  rw [statedPayloadLength_bytes, hwf.payloadLength]
  constructor
  · intro hnew
    exact (new_eq_ok.mp hnew.1).1
  · intro hpayload
    have hsame : packet.withLengths = packet := by
      unfold withLengths
      rw [← hwf.payloadLength, ← hwf.paddingLength, UInt16.ofNat_toNat, UInt16.ofNat_toNat]
    refine ⟨new_eq_ok.mpr ⟨hpayload, hwf.padding, rfl⟩, ?_⟩
    rw [serialize_eq, if_neg (Nat.not_lt.mpr (totalSize_le _ hpayload hwf.padding)), hsame]

/-! ## A payload of the largest stated length -/

section Sample

def codecHeader : PacketHeader := PacketHeader.new 1700000000 PacketFlags.DATA 9 3 .vkVideo

theorem packet_round_trip_sample :
    ∃ data,
      (⟨codecHeader, [0xAA, 0xBB], [0x00], List.Vector.replicate 16 1⟩ : LlpPacket).serialize =
        .ok data ∧
      deserialize data = .ok
        { header := { codecHeader with
            payloadLength := UInt16.ofNat [0xAA, 0xBB].length
            paddingLength := UInt16.ofNat [0x00].length }
          encryptedPayload := [0xAA, 0xBB]
          padding := [0x00]
          authTag := List.Vector.replicate 16 1 } ∧
      (UInt16.ofNat [0xAA, 0xBB].length).toNat = [0xAA, 0xBB].length ∧
      (UInt16.ofNat [0x00].length).toNat = [0x00].length := by
  have hnew : new codecHeader [0xAA, 0xBB] [0x00] (List.Vector.replicate 16 1) =
      .ok ⟨codecHeader, [0xAA, 0xBB], [0x00], List.Vector.replicate 16 1⟩ := rfl
  exact packet_round_trip rfl hnew

/-- A packet whose payload is as long as the header can state. -/
def oversized : LlpPacket where
  header := { codecHeader with payloadLength := 65535 }
  encryptedPayload := List.replicate 65535 0
  padding := []
  authTag := List.Vector.replicate 16 1

theorem oversized_wellFormed : oversized.WellFormed where
  version := rfl
  padding := Nat.zero_le _
  payloadLength := by rw [oversized, List.length_replicate]; rfl
  paddingLength := rfl

theorem reencodes_iff_sample :
    (new oversized.header oversized.encryptedPayload oversized.padding oversized.authTag =
        .ok oversized ∧ oversized.serialize = .ok oversized.bytes) ↔
      statedPayloadLength oversized.bytes ≤ MAX_PAYLOAD_SIZE :=
  reencodes_iff_payload_fits (deserialize_bytes oversized_wellFormed)

/-- It is accepted; `LlpPacket::new` and `serialize` refuse it. -/
theorem oversized_accepted :
    deserialize oversized.bytes = .ok oversized ∧
      new oversized.header oversized.encryptedPayload oversized.padding oversized.authTag =
        .error (.err (.packetError (.packetTooLarge 65535 64472))) ∧
      oversized.serialize = .error (.err (.packetError (.packetTooLarge 65575 65536))) := by
  have hlen : oversized.encryptedPayload.length = 65535 := List.length_replicate
  have htotal : oversized.totalSize = 65575 := by
    rw [totalSize, hlen]
    rfl
  refine ⟨deserialize_bytes oversized_wellFormed, ?_, ?_⟩
  · rw [new, hlen]
    rfl
  · rw [serialize_eq, htotal]
    rfl

end Sample

end LlpPacket

end Llp
