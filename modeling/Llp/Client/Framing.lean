/-
  Packets in frames: what `receive_packet` reads before it decrypts.

  `readPacket` is that part of the call: the length word, the frame behind it, and in the frame
  the wrapping and the packet. `unpack` is what it makes of a frame.

  * `readPacket_iff_fits`: the packet of a frame is read exactly when the packet, with the head
    that the sender's profile puts in front of it, is within the limit of the reader.
  * `unpack_cut`: a frame that is cut short or run on is refused, with an error.
-/
import Llp.Client.Connection
import Llp.Core.PacketCodec
import Llp.Lib.Frames
import Llp.Mimicry.Responses

namespace Llp.Client
open ByteCodec Mimicry

namespace ServerConnection

/-- The packet in a frame. -/
def unpack (http : HttParse) (wrapper : PacketWrapper) (buf : Bytes) :
    Fallible BoxError LlpPacket :=
  match wrapper.unwrap http buf with
  | .error e => .error (e.map .mimicry)
  | .ok unwrapped => (LlpPacket.deserialize unwrapped).mapError (Fault.map .llp)

/-- `receive_packet` up to the packet. -/
def readPacket (http : HttParse) (wrapper : PacketWrapper) :
    Method TcpStream BoxError LlpPacket := do
  let len ← TcpStream.readU32
  Method.failIf (len.toNat > 65536) (.message "Пакет слишком большой")
  let buf ← TcpStream.readExact len.toNat
  Method.lift (unpack http wrapper buf)

/-- The call reads a packet and decrypts it. -/
theorem receivePacket_eq (A : ChaCha20Poly1305) (http : HttParse) (now now' : Instant)
    (stream : TcpStream) (wrapper : PacketWrapper) (session : Session) :
    receivePacket A http now now' ⟨some stream, some wrapper, some session⟩ =
      (do
        let llpPacket ← onStream stream (readPacket http wrapper)
        onSession session
          (Session.decryptPayload A now now' llpPacket.encryptedPayload llpPacket.header.serialize
            llpPacket.header.sequenceNumber)) ⟨some stream, some wrapper, some session⟩ := by
  unfold receivePacket readPacket
  rw [Method.get_bind]
  simp only [Method.okOr_some, pure_bind]
  simp only [Method.bind_apply, onStream, Method.focus, Option.getD_some]
  cases TcpStream.readU32 stream with
  | error e t => rfl
  | ok len t =>
      by_cases hlarge : len.toNat > 65536
      · simp only [Method.failIf_pos _ hlarge]
      · simp only [Method.failIf_neg _ hlarge, Option.getD_some]
        cases TcpStream.readExact len.toNat t with
        | error e u => rfl
        | ok buf u =>
            simp only [unpack]
            cases wrapper.unwrap http buf with
            | error e => rfl
            | ok unwrapped =>
                simp only [Method.mapError_ok (Method.lift_ok _ _)]
                cases LlpPacket.deserialize unwrapped with
                | error e => rfl
                | ok llpPacket => rfl

/-- What ends the read ends the call. -/
theorem receivePacket_error {A : ChaCha20Poly1305} {http : HttParse} {now now' : Instant}
    {stream stream' : TcpStream} {wrapper : PacketWrapper} {session : Session}
    {e : Fault BoxError} (h : readPacket http wrapper stream = .error e stream') :
    receivePacket A http now now' ⟨some stream, some wrapper, some session⟩ =
      .error e ⟨some stream', some wrapper, some session⟩ := by
  have hread : onStream stream (readPacket http wrapper)
      ⟨some stream, some wrapper, some session⟩ =
        .error e ⟨some stream', some wrapper, some session⟩ := Method.focus_error h
  rw [receivePacket_eq, Method.bind_error hread]

/-! ## Frames -/

theorem readU32_frame {wrapped rest : Bytes} {stream : TcpStream}
    (hinput : stream.input = frame wrapped ++ rest) :
    TcpStream.readU32 stream =
      .ok (UInt32.ofNat wrapped.length) { stream with input := wrapped ++ rest } := by
  have hword : (toBE 4 (UInt32.ofNat wrapped.length).toNat).length = 4 := toBE_length 4 _
  have hlong : ¬ stream.input.length < 4 := by
    rw [hinput, frame, List.append_assoc, List.length_append, hword]
    omega
  have hread := TcpStream.readExact_ok hlong
  rw [hinput, frame, List.append_assoc, List.take_left' hword, List.drop_left' hword] at hread
  unfold TcpStream.readU32
  rw [Method.bind_ok hread, Method.pure_apply, ofBE_toBE 4 _ (u32_lt _), UInt32.ofNat_toNat]

/-- A frame within the limit is read whole. -/
theorem readPacket_frame {http : HttParse} {wrapper : PacketWrapper} {wrapped : Bytes}
    (hlen : wrapped.length ≤ 65536) {rest : Bytes} {stream : TcpStream}
    (hinput : stream.input = frame wrapped ++ rest) :
    readPacket http wrapper stream =
      Method.lift (unpack http wrapper wrapped) { stream with input := rest } := by
  have hsize : (UInt32.ofNat wrapped.length).toNat = wrapped.length :=
    UInt32.toNat_ofNat_of_lt (show wrapped.length < 2 ^ 32 by omega)
  have hlong : ¬ ({ stream with input := wrapped ++ rest } : TcpStream).input.length <
      wrapped.length := by
    rw [List.length_append]
    omega
  have hread := TcpStream.readExact_ok hlong
  simp only [List.take_left, List.drop_left] at hread
  unfold readPacket
  rw [Method.bind_ok (readU32_frame hinput),
    Method.bind_ok (Method.failIf_neg _ (by rw [hsize]; omega) _), hsize, Method.bind_ok hread]

/-- A frame above it is refused. -/
theorem readPacket_tooLarge {http : HttParse} {wrapper : PacketWrapper} {wrapped : Bytes}
    (hlen : 65536 < wrapped.length) (hword : wrapped.length < 2 ^ 32) {rest : Bytes}
    {stream : TcpStream} (hinput : stream.input = frame wrapped ++ rest) :
    readPacket http wrapper stream =
      .error (.err (.message "Пакет слишком большой"))
        { stream with input := wrapped ++ rest } := by
  have hsize : (UInt32.ofNat wrapped.length).toNat = wrapped.length :=
    UInt32.toNat_ofNat_of_lt hword
  unfold readPacket
  rw [Method.bind_ok (readU32_frame hinput),
    Method.bind_error (Method.failIf_pos _ (by rw [hsize]; exact hlen) _)]

/-- Behind the head that a wrapper may put there, the packet is what the decoder makes of it. -/
theorem unpack_front {http : HttParse} (hhttp : http.EndsHeads) {wrapper : PacketWrapper}
    {profile : MimicryProfile} (hsame : wrapper.profile = .none ↔ profile = .none) {front : Bytes}
    (hfront : PacketWrapper.Front 32 profile front) {data : Bytes} (hdata : data ≠ []) :
    unpack http wrapper (front ++ data) =
      (LlpPacket.deserialize data).mapError (Fault.map .llp) := by
  rw [unpack, PacketWrapper.unwrap_front hhttp hsame hfront hdata]

theorem unpack_eq_ok {data : Bytes} {llpPacket : LlpPacket}
    (h : (LlpPacket.deserialize data).mapError (Fault.map BoxError.llp) = .ok llpPacket) :
    LlpPacket.deserialize data = .ok llpPacket := by
  cases hd : LlpPacket.deserialize data with
  | ok p =>
      rw [hd] at h
      cases h
      rfl
  | error e =>
      rw [hd] at h
      cases h

/-- What `wrap` makes of a packet: a head or nothing, and the bytes of the packet. -/
theorem wrap_packet {draws : PacketWrapper.Draws} (hdated : draws.Dated) {packet : LlpPacket}
    {data : Bytes} (hserialize : packet.serialize = .ok data) (self : PacketWrapper) :
    ∃ front self', PacketWrapper.Front 32 self.profile front ∧
      PacketWrapper.wrap draws data self = .ok (front ++ packet.withLengths.bytes) self' ∧
      front.length = PacketWrapper.headSize draws packet.totalSize self.profile := by
  rw [LlpPacket.serialize_eq] at hserialize
  split at hserialize
  · cases hserialize
  · next hsize =>
      cases hserialize
      obtain ⟨self', -, hwrap⟩ := PacketWrapper.wrap_apply draws packet.withLengths.bytes self
      obtain ⟨front, hfront, hresponse, hlen⟩ :=
        PacketWrapper.response_eq hdated packet.withLengths.bytes self.profile
      rw [hresponse] at hwrap
      rw [LlpPacket.withLengths_bytes_length] at hlen
      have hpos : 0 < packet.totalSize := by
        rw [LlpPacket.totalSize, HEADER_SIZE]
        omega
      exact ⟨front, self', hfront, hwrap, hlen hpos (Nat.not_lt.mp hsize)⟩

/-- **The limit of the reader.** The packet of a frame is read exactly when it is of this version
    and, with the head that the profile puts in front of it, within the limit. -/
theorem readPacket_iff_fits {http : HttParse} (hhttp : http.EndsHeads)
    {draws : PacketWrapper.Draws} (hdated : draws.Dated) {header : PacketHeader}
    {encryptedPayload padding : Bytes} {authTag : Arr 16} {packet : LlpPacket}
    (hnew : LlpPacket.new header encryptedPayload padding authTag = .ok packet) {data : Bytes}
    (hserialize : packet.serialize = .ok data) (self wrapper : PacketWrapper)
    (hsame : wrapper.profile = .none ↔ self.profile = .none) (stream : TcpStream) (rest : Bytes) :
    ∃ wrapped self', PacketWrapper.wrap draws data self = .ok wrapped self' ∧
      ((wrapped.length ≤ 65536 ∧
          readPacket http wrapper { stream with input := frame wrapped ++ rest } =
            .ok packet.withLengths { stream with input := rest }) ↔
        header.version = PROTOCOL_VERSION ∧
          packet.totalSize + PacketWrapper.headSize draws packet.totalSize self.profile ≤
            65536) := by
  obtain ⟨front, self', hfront, hwrap, hlen⟩ := wrap_packet hdated hserialize self
  refine ⟨_, self', hwrap, ?_⟩
  have hlength : (front ++ packet.withLengths.bytes).length =
      packet.totalSize + PacketWrapper.headSize draws packet.totalSize self.profile := by
    rw [List.length_append, LlpPacket.withLengths_bytes_length, hlen, Nat.add_comm]
  have hbytes : packet.withLengths.bytes ≠ [] := by
    rw [← List.length_pos_iff, LlpPacket.withLengths_bytes_length, LlpPacket.totalSize, HEADER_SIZE]
    omega
  have hunpack := unpack_front hhttp hsame hfront hbytes
  obtain ⟨hpayload, hpadding, rfl⟩ := LlpPacket.new_eq_ok.mp hnew
  rw [← hlength]
  constructor
  · rintro ⟨hfits, hread⟩
    rw [readPacket_frame hfits rfl, hunpack] at hread
    have hpacket := unpack_eq_ok (Method.lift_eq_ok hread).1
    exact ⟨(LlpPacket.deserialize_sound hpacket).1.version, hfits⟩
  · rintro ⟨hversion, hfits⟩
    have hpacket := LlpPacket.deserialize_bytes
      (LlpPacket.withLengths_wellFormed ⟨header, encryptedPayload, padding, authTag⟩ hversion
        hpayload hpadding)
    refine ⟨hfits, ?_⟩
    rw [readPacket_frame hfits rfl, hunpack, hpacket]
    rfl

/-- What differs from `front ++ l` by a cut, and is not cut inside `front`, begins with it. -/
theorem exists_part {front l cut : Bytes} (hcut : cut <+: front ++ l ∨ front ++ l <+: cut)
    (hlong : ¬ cut <+: front) : ∃ part, part ≠ [] ∧ cut = front ++ part := by
  have hside : cut <+: front ∨ front <+: cut := by
    rcases hcut with hcut | hcut
    · exact List.prefix_or_prefix_of_prefix hcut (List.prefix_append _ _)
    · exact .inr ((List.prefix_append _ _).trans hcut)
  obtain ⟨part, rfl⟩ := hside.resolve_left hlong
  refine ⟨part, ?_, rfl⟩
  rintro rfl
  rw [List.append_nil] at hlong
  exact hlong (List.prefix_refl front)

/-- **Cuts.** A frame that is cut short anywhere, or run on, is refused with an error. -/
theorem unpack_cut {http : HttParse} (hends : http.EndsHeads) (hawaits : http.AwaitsHeads)
    {draws : PacketWrapper.Draws} (hdated : draws.Dated) {header : PacketHeader}
    (hversion : header.version = PROTOCOL_VERSION) {encryptedPayload padding : Bytes}
    {authTag : Arr 16} {packet : LlpPacket}
    (hnew : LlpPacket.new header encryptedPayload padding authTag = .ok packet)
    (self wrapper : PacketWrapper) (hsame : wrapper.profile = .none ↔ self.profile = .none) :
    ∃ data wrapped self', packet.serialize = .ok data ∧
      PacketWrapper.wrap draws data self = .ok wrapped self' ∧
      ∀ cut, (cut <+: wrapped ∨ wrapped <+: cut) → cut ≠ wrapped →
        ∃ e, unpack http wrapper cut = .error (.err e) := by
  obtain ⟨data, hserialize, -⟩ := LlpPacket.packet_round_trip hversion hnew
  obtain ⟨front, self', hfront, hwrap, -⟩ := wrap_packet hdated hserialize self
  refine ⟨data, _, self', hserialize, hwrap, fun cut hcut hne => ?_⟩
  obtain ⟨hpayload, hpadding, rfl⟩ := LlpPacket.new_eq_ok.mp hnew
  have hwf := LlpPacket.withLengths_wellFormed ⟨header, encryptedPayload, padding, authTag⟩ hversion
    hpayload hpadding
  have hpacket : ∀ part, cut = front ++ part → ∃ e,
      (LlpPacket.deserialize part).mapError (Fault.map BoxError.llp) = .error (.err e) := by
    rintro part rfl
    rw [List.prefix_append_right_inj, List.prefix_append_right_inj] at hcut
    obtain ⟨e, he⟩ := LlpPacket.deserialize_cut hwf hcut fun h => hne (by rw [h])
    exact ⟨.llp e, by rw [he]; rfl⟩
  generalize self.profile = profile at hfront hsame
  cases hfront with
  | bare =>
      obtain ⟨e, he⟩ := hpacket cut rfl
      refine ⟨e, ?_⟩
      rw [unpack, PacketWrapper.unwrap_none (hsame.mpr rfl)]
      exact he
  | head hprofile head hheaders =>
      have hwrapper : wrapper.profile ≠ .none := fun h => hprofile (hsame.mp h)
      by_cases hshort : cut <+: head.bytes
      · obtain ⟨e, he⟩ := PacketWrapper.extract_cut hends hawaits hheaders hshort
        refine ⟨.mimicry e, ?_⟩
        rw [unpack, PacketWrapper.unwrap_some hwrapper, he]
        rfl
      · obtain ⟨part, hpart, rfl⟩ := exists_part hcut hshort
        obtain ⟨e, he⟩ := hpacket part rfl
        refine ⟨e, ?_⟩
        rw [unpack_front hends hsame (.head hprofile head hheaders) hpart, he]

/-! ## A packet of the largest size -/

section Sample

/-- A packet with the given payload and padding. -/
def packetOf (encryptedPayload padding : Bytes) : LlpPacket where
  header := PacketHeader.new 1700000000 PacketFlags.DATA 9 3 .vkVideo
  encryptedPayload := encryptedPayload
  padding := padding
  authTag := List.Vector.replicate 16 1

def sampleStream (input : Bytes) : TcpStream := ⟨input, [], 0⟩

theorem readPacket_iff_sample :
    ∃ wrapped self', PacketWrapper.wrap PacketWrapper.sampleDraws
        (packetOf [0xAA] []).withLengths.bytes (.new .ruTube) = .ok wrapped self' ∧
      ((wrapped.length ≤ 65536 ∧
          readPacket HttParse.scan (.new .vkVideo)
              { sampleStream [] with input := frame wrapped ++ [7] } =
            .ok (packetOf [0xAA] []).withLengths { sampleStream [] with input := [7] }) ↔
        (packetOf [0xAA] []).header.version = PROTOCOL_VERSION ∧
          (packetOf [0xAA] []).totalSize + PacketWrapper.headSize PacketWrapper.sampleDraws
            (packetOf [0xAA] []).totalSize (PacketWrapper.new .ruTube).profile ≤ 65536) :=
  readPacket_iff_fits HttParse.scan_endsHeads PacketWrapper.sampleDraws_dated
    (LlpPacket.new_eq_ok.mpr ⟨by decide, by decide, rfl⟩) rfl _ _ (by decide) _ _

theorem unpack_cut_sample :
    ∃ data wrapped self', (packetOf [0xAA] [0]).serialize = .ok data ∧
      PacketWrapper.wrap PacketWrapper.sampleDraws data (.new .yandexMusic) = .ok wrapped self' ∧
      ∀ cut, (cut <+: wrapped ∨ wrapped <+: cut) → cut ≠ wrapped →
        ∃ e, unpack HttParse.scan (.new .yandexMusic) cut = .error (.err e) :=
  unpack_cut HttParse.scan_endsHeads HttParse.scan_awaitsHeads PacketWrapper.sampleDraws_dated rfl
    (LlpPacket.new_eq_ok.mpr ⟨by decide, by decide, rfl⟩) _ _ Iff.rfl

def maximal : LlpPacket := packetOf (List.replicate 64472 0) (List.replicate 1024 0)

/-- It is as long as the limit of the reader, and has no room for a head. -/
theorem maximal_refused :
    LlpPacket.new maximal.header maximal.encryptedPayload maximal.padding maximal.authTag =
        .ok maximal ∧
      ∃ data wrapped self', maximal.serialize = .ok data ∧
        PacketWrapper.wrap PacketWrapper.sampleDraws data (.new .vkVideo) = .ok wrapped self' ∧
        wrapped.length = 65919 ∧
        Method.result (receivePacket sampleAead HttParse.scan 0 0
            (connected (sampleStream (frame wrapped)) 0 9 ⟨List.Vector.replicate 32 0⟩ .vkVideo)) =
          .error (.err (.message "Пакет слишком большой")) := by
  have hpayload : maximal.encryptedPayload.length = 64472 := List.length_replicate
  have hpadding : maximal.padding.length = 1024 := List.length_replicate
  have htotal : maximal.totalSize = 65536 := by rw [LlpPacket.totalSize, hpayload, hpadding]; rfl
  have hserialize : maximal.serialize = .ok maximal.withLengths.bytes := by
    rw [LlpPacket.serialize_eq, htotal, if_neg (by decide)]
  obtain ⟨front, self', hfront, hwrap, hlen⟩ := wrap_packet PacketWrapper.sampleDraws_dated
    hserialize (.new .vkVideo)
  have hlength : (front ++ maximal.withLengths.bytes).length = 65919 := by
    rw [List.length_append, LlpPacket.withLengths_bytes_length, hlen, htotal]
    decide
  have hread := @readPacket_tooLarge HttParse.scan (.new .vkVideo)
    (front ++ maximal.withLengths.bytes) (by rw [hlength]; decide) (by rw [hlength]; decide) []
    (sampleStream (frame (front ++ maximal.withLengths.bytes))) (List.append_nil _).symm
  refine ⟨LlpPacket.new_eq_ok.mpr ⟨by rw [hpayload]; decide, by rw [hpadding]; decide, rfl⟩,
    _, _, self', hserialize, hwrap, hlength, ?_⟩
  rw [connected, receivePacket_error hread]
  rfl

end Sample

end ServerConnection

end Llp.Client
