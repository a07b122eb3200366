/-
  What of an accepted LLP packet is authenticated.

  `openPacket` is the receive path from the bytes of a packet on: parse them, and decrypt under the
  bytes of the parsed header. The AEAD covers the header and the payload; nothing looks at the
  padding and at the tag field behind it.

  * `altered_packet_rejected_iff`: of the byte strings with the sequence number of an accepted one,
    those are rejected in the same state that have another length, header or payload.
-/
import Llp.Core.PacketGrammar
import Llp.Client.ReceiveLoop

namespace Llp.Security
open ByteCodec

variable {A : ChaCha20Poly1305} {log : List Sealing}

/-- `receive_packet` from the bytes of the packet on. -/
def openPacket (A : ChaCha20Poly1305) (now now' : Instant) (data : Bytes) :
    Method Session LlpError Bytes := do
  let llpPacket ← Method.lift (LlpPacket.deserialize data)
  let aad := llpPacket.header.serialize
  Session.decryptPayload A now now' llpPacket.encryptedPayload aad llpPacket.header.sequenceNumber

/-- It is what `receive_packet` does with the bytes that it unwraps from a frame. -/
theorem openFrame_eq (A : ChaCha20Poly1305) {http : Mimicry.HttParse} (now now' : Instant)
    {session : Session} {wrapper : Mimicry.PacketWrapper} {buf data : Bytes}
    {c : Client.ServerConnection} (hsession : c.session = some session)
    (hdata : wrapper.unwrap http buf = .ok data) :
    Client.ServerConnection.openFrame A http now now' session wrapper buf c =
      Client.ServerConnection.onSession session (openPacket A now now' data) c := by
  obtain ⟨stream, _, _⟩ := c
  cases hsession
  unfold Client.ServerConnection.openFrame openPacket
  rw [hdata, Method.bind_ok (Method.mapError_ok (Method.lift_ok _ _))]
  cases LlpPacket.deserialize data with
  | error e => rfl
  | ok p => rfl

/-- The session accepts the bytes. -/
def AcceptsPacket (A : ChaCha20Poly1305) (now now' : Instant) (session : Session)
    (data : Bytes) : Prop :=
  (Method.result (openPacket A now now' data session)).isOk = true

/-- No two messages of the log share a key and a nonce. -/
def OncePerNonce (log : List Sealing) : Prop :=
  ∀ s ∈ log, ∀ t ∈ log, s.key = t.key → s.nonce = t.nonce → s = t

/-- What is accepted: the bytes of a packet that the window admits and the cipher opens. -/
theorem acceptsPacket_iff {now now' : Instant} {session : Session} {data : Bytes} :
    AcceptsPacket A now now' session data ↔
      ∃ p m, LlpPacket.deserialize data = .ok p ∧
        session.rxReplayWindow.Admits p.header.sequenceNumber ∧
        session.rxCipher.decrypt A p.encryptedPayload p.header.serialize
          p.header.sequenceNumber.toUInt64 = .ok m := by
  unfold AcceptsPacket openPacket
  cases LlpPacket.deserialize data with
  | error e => exact iff_of_false Bool.false_ne_true fun ⟨_, _, h, _⟩ => by cases h
  | ok p =>
      rw [Method.bind_ok (Method.lift_ok _ _), Method.isOk_result, Session.decryptPayload_eq_ok]
      constructor
      · rintro ⟨hwindow, m, hopen⟩
        exact ⟨p, m, rfl, hwindow, hopen⟩
      · rintro ⟨q, m, hq, hwindow, hopen⟩
        cases hq
        exact ⟨hwindow, m, hopen⟩

/-- What opens under an ideal AEAD is in the log, under the nonce of the sequence number. -/
theorem decrypt_sealed (hideal : A.Ideal log) {cipher : AeadCipher} {c aad m : Bytes}
    {counter : UInt64} (h : cipher.decrypt A c aad counter = .ok m) :
    ∃ s ∈ log, s.key = cipher.key.bytes ∧
      s.nonce = (ChaCha20Nonce.new cipher.nonce.sessionId.toUInt64 counter).asBytes ∧
      s.aad = aad ∧ c = A.ciphertext s.key s.nonce s.aad s.msg := by
  obtain ⟨hmem, hc⟩ := (hideal _ _ _ _ _).mp (AeadCipher.decrypt_eq_ok.mp h)
  refine ⟨_, hmem, rfl, ?_, rfl, hc⟩
  rw [ChaCha20Nonce.new_toUInt64]

/-- The part of a packet on the wire that the AEAD covers. -/
theorem take_bytes (p : LlpPacket) :
    p.bytes.take (24 + p.encryptedPayload.length) = p.header.serialize ++ p.encryptedPayload := by
  rw [LlpPacket.bytes, List.append_assoc (p.header.serialize ++ p.encryptedPayload)]
  refine List.take_left' ?_
  rw [List.length_append, PacketHeader.serialize_length, HEADER_SIZE]

/-- Bytes of the length of a packet that begin as it does, up to the end of the payload, are those
    of a packet with its header and payload. -/
theorem exists_same_front {p : LlpPacket} (hp : p.WellFormed) {data : Bytes}
    (hlen : data.length = p.bytes.length) (htake : data.take (24 + p.header.payloadLength.toNat) =
      p.header.serialize ++ p.encryptedPayload) :
    ∃ q : LlpPacket, q.WellFormed ∧ data = q.bytes ∧ q.header = p.header ∧
      q.encryptedPayload = p.encryptedPayload := by
  have hheader : p.header.serialize = data.take 24 := by
    have hfront := congrArg (List.take 24) htake
    rw [List.take_take, Nat.min_eq_left (Nat.le_add_right _ _)] at hfront
    rw [hfront]
    exact (List.take_left' p.header.serialize_length).symm
  have hsize : data.length = 24 + p.header.payloadLength.toNat + p.header.paddingLength.toNat +
      16 := by
    rw [hlen, LlpPacket.bytes_length, LlpPacket.totalSize, HEADER_SIZE, AUTH_TAG_SIZE,
      hp.payloadLength, hp.paddingLength]
  obtain ⟨q, hqp, hq, hdata, hpayload, -⟩ := LlpPacket.exists_packet hheader hp.version
    (hp.paddingLength ▸ hp.padding) hsize
  refine ⟨q, hq, hdata, hqp, ?_⟩
  rw [hpayload, List.take_drop, htake]
  exact List.drop_left' p.header.serialize_length

/-- Two packets that open under one sequence number have the same header and payload: both were
    sealed under the nonce of that number. -/
theorem opened_packets_agree (hideal : A.Ideal log) (honce : OncePerNonce log)
    {cipher : AeadCipher} {p q : LlpPacket} {m m' : Bytes} (hp : p.WellFormed) (hq : q.WellFormed)
    (hseq : q.header.sequenceNumber = p.header.sequenceNumber)
    (hopen : cipher.decrypt A p.encryptedPayload p.header.serialize
      p.header.sequenceNumber.toUInt64 = .ok m)
    (hopen' : cipher.decrypt A q.encryptedPayload q.header.serialize
      q.header.sequenceNumber.toUInt64 = .ok m') :
    q.header = p.header ∧ q.encryptedPayload = p.encryptedPayload := by
  obtain ⟨s, hs, hkey, hnonce, haad, hc⟩ := decrypt_sealed hideal hopen
  obtain ⟨t, ht, hkey', hnonce', haad', hc'⟩ := decrypt_sealed hideal hopen'
  rw [hseq] at hnonce'
  obtain rfl := honce s hs t ht (hkey.trans hkey'.symm) (hnonce.trans hnonce'.symm)
  refine ⟨?_, hc'.trans hc.symm⟩
  exact PacketHeader.serialize_inj hq.version (hq.paddingLength ▸ hq.padding) hp.version
    (hp.paddingLength ▸ hp.padding) (haad'.symm.trans haad)

/-- **What is authenticated.** With an ideal AEAD and one message to a nonce: of the byte strings
    that carry the sequence number of an accepted packet, exactly those are rejected in the same
    state that differ from it in length, in the header or in the payload. -/
theorem altered_packet_rejected_iff (hideal : A.Ideal log) (honce : OncePerNonce log)
    {now now' : Instant} {session : Session} {w w' : Bytes}
    (hw : AcceptsPacket A now now' session w)
    (hseq : field 12 4 w' = field 12 4 w) :
    ¬ AcceptsPacket A now now' session w' ↔
      ¬ (w'.length = w.length ∧
        w'.take (24 + field 2 2 w) = w.take (24 + field 2 2 w)) := by
  refine not_congr ?_
  obtain ⟨p, m, hp, hwindow, hopen⟩ := acceptsPacket_iff.mp hw
  obtain ⟨hwf, rfl⟩ := LlpPacket.deserialize_sound hp
  obtain ⟨hpayload, hnumber, -, -⟩ := p.field_bytes
  rw [hpayload]
  constructor
  · intro hw'
    obtain ⟨q, m', hq, hwindow', hopen'⟩ := acceptsPacket_iff.mp hw'
    obtain ⟨hwf', rfl⟩ := LlpPacket.deserialize_sound hq
    have hsame : q.header.sequenceNumber = p.header.sequenceNumber := by
      rw [q.field_bytes.2.1, hnumber] at hseq
      exact UInt32.toNat_inj.mp hseq
    obtain ⟨hheader, hcipher⟩ := opened_packets_agree hideal honce hwf hwf' hsame hopen hopen'
    refine ⟨?_, ?_⟩
    · rw [LlpPacket.bytes_length, LlpPacket.bytes_length, LlpPacket.totalSize, LlpPacket.totalSize,
        hcipher, ← hwf'.paddingLength, ← hwf.paddingLength, hheader]
    · rw [hwf.payloadLength, take_bytes, ← hcipher, take_bytes, hheader]
  · rintro ⟨hlen, htake⟩
    rw [hwf.payloadLength, take_bytes, ← hwf.payloadLength] at htake
    obtain ⟨q, hwf', rfl, hheader, hcipher⟩ := exists_same_front hwf hlen htake
    refine acceptsPacket_iff.mpr ⟨q, m, LlpPacket.deserialize_bytes hwf', ?_, ?_⟩
    · rw [hheader]
      exact hwindow
    · rw [hheader, hcipher]
      exact hopen

/-! ## A tag field that is overwritten -/

section Sample

def authenticationKey : SessionKey := ⟨List.Vector.replicate 32 7⟩

/-- The header that a key holder sends and seals under: a payload of a byte and its tag. -/
def sealedHeader : PacketHeader :=
  { PacketHeader.new 1700000000 .DATA 9 0 .none with payloadLength := 17 }

/-- The packet with the given bytes in its tag field. -/
def taggedPacket (authTag : UInt8) : LlpPacket where
  header := sealedHeader
  encryptedPayload := 0x45 :: List.replicate 16 0
  padding := []
  authTag := List.Vector.replicate 16 authTag

def sealedOnce : List Sealing :=
  [⟨authenticationKey.bytes, (ChaCha20Nonce.new 9 0).asBytes, sealedHeader.serialize, [0x45]⟩]

def receiver : Session := Session.new 0 9 authenticationKey .none

theorem sealedOnce_oncePerNonce : OncePerNonce sealedOnce := by
  intro s hs t ht _ _
  rw [List.mem_singleton.mp hs, List.mem_singleton.mp ht]

theorem altered_packet_rejected_sample :
    ¬ AcceptsPacket (tableAead sealedOnce) 1 2 receiver ((taggedPacket 0).bytes ++ [0]) ↔
      ¬ (((taggedPacket 0).bytes ++ [0]).length = (taggedPacket 0).bytes.length ∧
        ((taggedPacket 0).bytes ++ [0]).take (24 + field 2 2 (taggedPacket 0).bytes) =
          (taggedPacket 0).bytes.take (24 + field 2 2 (taggedPacket 0).bytes)) :=
  altered_packet_rejected_iff (tableAead_ideal sealedOnce) sealedOnce_oncePerNonce rfl rfl

/-- Another tag field, and the packet is accepted all the same. -/
theorem tag_field_ignored :
    (tableAead sealedOnce).Ideal sealedOnce ∧ OncePerNonce sealedOnce ∧
      AcceptsPacket (tableAead sealedOnce) 1 2 receiver (taggedPacket 0).bytes ∧
      AcceptsPacket (tableAead sealedOnce) 1 2 receiver (taggedPacket 1).bytes ∧
      field 12 4 (taggedPacket 1).bytes = field 12 4 (taggedPacket 0).bytes ∧
      (taggedPacket 1).bytes ≠ (taggedPacket 0).bytes :=
  ⟨tableAead_ideal sealedOnce, sealedOnce_oncePerNonce, rfl, rfl, rfl, by decide⟩

end Sample

end Llp.Security
