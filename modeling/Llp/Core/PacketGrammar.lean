/-
  The grammar of packets, by offsets into the byte string.

  `field offset size data` is the big-endian number in the given bytes. `Grammar` is stated on the
  bytes alone; `headerAt` is the header that they spell.

  * `deserialize_grammar`: the decoder accepts the byte strings of the grammar, and no others; it
    returns their slices, and it neither reads out of range nor finds too few bytes for the tag.
-/
import Llp.Core.PacketCodec

namespace Llp
open ByteCodec

/-- The big-endian number in the `size` bytes at `offset`. -/
def field (offset size : ℕ) (data : Bytes) : ℕ := ofBE ((data.drop offset).take size)

theorem field_toBE {size value : ℕ} (back : Bytes) (hvalue : value < 256 ^ size) :
    field 0 size (toBE size value ++ back) = value := by
  rw [field, List.drop_zero, List.take_left' (toBE_length size value), ofBE_toBE size value hvalue]

/-- A field behind the number in front. -/
theorem field_skip {offset k value : ℕ} (size : ℕ) (back : Bytes) (h : k ≤ offset) :
    field offset size (toBE k value ++ back) = field (offset - k) size back := by
  rw [field, field, List.drop_append, List.drop_eq_nil_of_le (by rwa [toBE_length]),
    List.nil_append, toBE_length]

theorem field_lt (offset size : ℕ) (data : Bytes) : field offset size data < 256 ^ size :=
  Nat.lt_of_lt_of_le (ofBE_lt _)
    (Nat.pow_le_pow_right (by decide) (List.length_take_le size (data.drop offset)))

/-- The bytes of a field are the big-endian form of its number. -/
theorem toBE_field {offset size : ℕ} {data : Bytes} (h : offset + size ≤ data.length) :
    toBE size (field offset size data) = (data.drop offset).take size := by
  have hlen : ((data.drop offset).take size).length = size := by
    rw [List.length_take_of_le]
    rw [List.length_drop]
    omega
  have hbytes := toBE_ofBE ((data.drop offset).take size)
  rwa [hlen] at hbytes

namespace PacketHeader

/-- The header that the first 24 bytes spell, for a profile. -/
def headerAt (data : Bytes) (mimicryProfile : MimicryProfile) : PacketHeader where
  version := UInt8.ofNat (field 0 1 data)
  flags := ⟨UInt8.ofNat (field 1 1 data)⟩
  payloadLength := UInt16.ofNat (field 2 2 data)
  sessionId := UInt64.ofNat (field 4 8 data)
  sequenceNumber := UInt32.ofNat (field 12 4 data)
  timestamp := UInt32.ofNat (field 16 4 data)
  mimicryProfile := mimicryProfile
  paddingLength := UInt16.ofNat (field 22 2 data)

/-- It is written as these bytes. -/
theorem headerAt_serialize {data : Bytes} {mimicryProfile : MimicryProfile}
    (hlen : 24 ≤ data.length) (hprofile : field 20 2 data = mimicryProfile.toU16.toNat) :
    (headerAt data mimicryProfile).serialize = data.take 24 := by
  have hsplit : data.take 24 = data.take 1 ++ (data.drop 1).take 1 ++ (data.drop 2).take 2 ++
      (data.drop 4).take 8 ++ (data.drop 12).take 4 ++ (data.drop 16).take 4 ++
      (data.drop 20).take 2 ++ (data.drop 22).take 2 := by
    simp only [← List.take_add]
  have hbyte : ∀ offset, (UInt8.ofNat (field offset 1 data)).toNat = field offset 1 data :=
    fun offset => UInt8.toNat_ofNat_of_lt (field_lt offset 1 data)
  have hword : ∀ offset, (UInt16.ofNat (field offset 2 data)).toNat = field offset 2 data :=
    fun offset => UInt16.toNat_ofNat_of_lt (field_lt offset 2 data)
  have hlong : ∀ offset, (UInt32.ofNat (field offset 4 data)).toNat = field offset 4 data :=
    fun offset => UInt32.toNat_ofNat_of_lt (field_lt offset 4 data)
  have hid : (UInt64.ofNat (field 4 8 data)).toNat = field 4 8 data :=
    UInt64.toNat_ofNat_of_lt (field_lt 4 8 data)
  unfold serialize headerAt
  simp only [hbyte, hword, hlong, hid]
  rw [← hprofile, hsplit, toBE_field (by omega), toBE_field (by omega), toBE_field (by omega),
    toBE_field (by omega), toBE_field (by omega), toBE_field (by omega), toBE_field (by omega),
    toBE_field (by omega), List.drop_zero]

end PacketHeader

namespace LlpPacket

/-- What the decoder asks of a byte string. -/
structure Grammar (data : Bytes) : Prop where
  long : 40 ≤ data.length
  version : data[0]? = some PROTOCOL_VERSION
  profile : ∃ p : MimicryProfile, field 20 2 data = p.toU16.toNat
  padding : field 22 2 data ≤ 1024
  size : data.length = 24 + field 2 2 data + field 22 2 data + 16

/-- The fields of a packet on the wire that the decoder looks at, and its sequence number. -/
theorem field_bytes (p : LlpPacket) :
    field 2 2 p.bytes = p.header.payloadLength.toNat ∧
      field 12 4 p.bytes = p.header.sequenceNumber.toNat ∧
      field 20 2 p.bytes = p.header.mimicryProfile.toU16.toNat ∧
      field 22 2 p.bytes = p.header.paddingLength.toNat := by
  unfold bytes PacketHeader.serialize
  simp (disch := decide) only [List.append_assoc, field_skip, Nat.reduceSub]
  exact ⟨field_toBE _ (u16_lt _), field_toBE _ (u32_lt _), field_toBE _ (u16_lt _),
    field_toBE _ (u16_lt _)⟩

theorem grammar_bytes {p : LlpPacket} (h : p.WellFormed) : Grammar p.bytes := by
  obtain ⟨hpayload, -, hprofile, hpadding⟩ := p.field_bytes
  have hlen := p.bytes_length
  rw [totalSize, HEADER_SIZE, AUTH_TAG_SIZE, ← h.payloadLength, ← h.paddingLength] at hlen
  refine ⟨by omega, ?_, ⟨_, hprofile⟩, ?_, by omega⟩
  · have hversion : toBE 1 p.header.version.toNat = [PROTOCOL_VERSION] := by rw [h.version]; rfl
    simp only [bytes, PacketHeader.serialize, hversion, List.append_assoc, List.cons_append,
      List.getElem?_cons_zero]
  · rw [hpadding, h.paddingLength]
    exact h.padding

/-- A header in front of as many bytes as it states is that of a packet, made of slices. -/
theorem exists_packet {data : Bytes} {header : PacketHeader} (hheader : header.serialize =
    data.take 24) (hversion : header.version = PROTOCOL_VERSION)
    (hlimit : header.paddingLength.toNat ≤ 1024)
    (hsize : data.length = 24 + header.payloadLength.toNat + header.paddingLength.toNat + 16) :
    ∃ p : LlpPacket, p.header = header ∧ p.WellFormed ∧ data = p.bytes ∧
      p.encryptedPayload = (data.drop 24).take header.payloadLength.toNat ∧
      p.padding =
        (data.drop (24 + header.payloadLength.toNat)).take header.paddingLength.toNat ∧
      p.authTag.toList = (data.drop
        (24 + header.payloadLength.toNat + header.paddingLength.toNat)).take 16 := by
  have hslice : ∀ offset k, offset + k ≤ data.length →
      ((data.drop offset).take k).length = k := by
    intro offset k h
    rw [List.length_take_of_le]
    rw [List.length_drop]
    omega
  have hpayload := hslice 24 header.payloadLength.toNat (by omega)
  have hpadding := hslice (24 + header.payloadLength.toNat) header.paddingLength.toNat (by omega)
  have htag := hslice (24 + header.payloadLength.toNat + header.paddingLength.toNat) 16 hsize.ge
  have htotal : data.take (24 + header.payloadLength.toNat + header.paddingLength.toNat + 16) =
      data := List.take_of_length_le hsize.le
  rw [List.take_add, List.take_add, List.take_add, ← hheader] at htotal
  exact ⟨⟨header, _, _, ⟨_, htag⟩⟩, rfl, ⟨hversion, hpadding.trans_le hlimit, hpayload.symm,
    hpadding.symm⟩, htotal.symm, rfl, rfl, rfl⟩

/-- What follows the length check always returns. -/
theorem body_ok {data rest : Bytes} {header : PacketHeader}
    (hheader : PacketHeader.deserialize data = .ok header rest)
    (hsize : data.length = 24 + header.payloadLength.toNat + header.paddingLength.toNat + 16) :
    ∃ p, deserialize.body header data = .ok p [] := by
  obtain ⟨⟨hversion, hlimit⟩, hdata⟩ := PacketHeader.deserialize_reads.sound _ _ _ hheader
  have hfront : header.serialize = data.take 24 := by
    rw [hdata]
    exact (List.take_left' header.serialize_length).symm
  obtain ⟨p, rfl, hwf, rfl, -⟩ := exists_packet hfront hversion hlimit hsize
  exact ⟨p, body_bytes hwf⟩

/-- What the grammar accepts, `deserialize` does. -/
theorem deserialize_of_grammar {data : Bytes} (h : Grammar data) :
    ∃ p, deserialize data = .ok p := by
  obtain ⟨profile, hprofile⟩ := h.profile
  have hlong := h.long
  have hpayload : (UInt16.ofNat (field 2 2 data)).toNat = field 2 2 data :=
    UInt16.toNat_ofNat_of_lt (field_lt 2 2 data)
  have hpadding : (UInt16.ofNat (field 22 2 data)).toNat = field 22 2 data :=
    UInt16.toNat_ofNat_of_lt (field_lt 22 2 data)
  have hversion : (PacketHeader.headerAt data profile).version = PROTOCOL_VERSION := by
    cases data with
    | nil => cases h.version
    | cons b bs =>
        obtain rfl : b = PROTOCOL_VERSION := Option.some.inj h.version
        rfl
  have hsize : data.length = 24 + (PacketHeader.headerAt data profile).payloadLength.toNat +
      (PacketHeader.headerAt data profile).paddingLength.toNat + 16 := by
    simp only [PacketHeader.headerAt, hpayload, hpadding]
    exact h.size
  obtain ⟨p, -, hwf, rfl, -⟩ := exists_packet
    (PacketHeader.headerAt_serialize (by omega) hprofile) hversion (hpadding.trans_le h.padding)
    hsize
  exact ⟨p, deserialize_bytes hwf⟩

/-- The parts of an accepted packet are consecutive slices. -/
theorem deserialize_slices {data : Bytes} {p : LlpPacket} (hp : deserialize data = .ok p) :
    p.encryptedPayload = (data.drop 24).take (field 2 2 data) ∧
      p.padding = (data.drop (24 + field 2 2 data)).take (field 22 2 data) ∧
      p.authTag.toList = (data.drop (24 + field 2 2 data + field 22 2 data)).take 16 := by
  obtain ⟨hwf, rfl⟩ := deserialize_sound hp
  obtain ⟨hpayload, -, -, hpadding⟩ := p.field_bytes
  have hfront : p.header.serialize = p.bytes.take 24 := by
    rw [bytes, List.append_assoc, List.append_assoc]
    exact (List.take_left' p.header.serialize_length).symm
  have hsize : p.bytes.length =
      24 + p.header.payloadLength.toNat + p.header.paddingLength.toNat + 16 := by
    rw [bytes_length, totalSize, HEADER_SIZE, AUTH_TAG_SIZE, hwf.payloadLength,
      hwf.paddingLength]
  obtain ⟨q, -, hq, hsame, hslices⟩ := exists_packet hfront hwf.version
    (hwf.paddingLength ▸ hwf.padding) hsize
  have hpq := (deserialize_bytes hq).symm.trans (hsame ▸ hp)
  cases hpq
  rwa [hpayload, hpadding]

/-- **The grammar.** The decoder accepts exactly the byte strings of the grammar, and takes them
    apart at the lengths that they state. It never reads out of range, and where it comes to the
    second length check it passes it. -/
theorem deserialize_grammar (data : Bytes) :
    ((∃ p, deserialize data = .ok p) ↔ Grammar data) ∧
    (∀ p, deserialize data = .ok p →
      p.encryptedPayload = (data.drop 24).take (field 2 2 data) ∧
      p.padding = (data.drop (24 + field 2 2 data)).take (field 22 2 data) ∧
      p.authTag.toList = (data.drop (24 + field 2 2 data + field 22 2 data)).take 16) ∧
    deserialize data ≠ .error .panic ∧
    ∀ header rest, PacketHeader.deserialize data = .ok header rest →
      data.length = 24 + header.payloadLength.toNat + header.paddingLength.toNat + 16 →
      ∃ p, deserialize.body header data = .ok p [] := by
  refine ⟨⟨?_, deserialize_of_grammar⟩, fun p => deserialize_slices, deserialize_noPanic data,
    fun header rest => body_ok⟩
  rintro ⟨p, hp⟩
  obtain ⟨hwf, rfl⟩ := deserialize_sound hp
  exact grammar_bytes hwf

end LlpPacket

end Llp
