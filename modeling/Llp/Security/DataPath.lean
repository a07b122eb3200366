/-
  The data path: `send_packet` at one end, `receive_packet` at the other.

  The AAD of a sealed packet is a header that states a payload length of zero. The AAD of a
  received one is the header it was parsed from, which states the length of its ciphertext;
  the ciphertext has at least the 16 bytes of its tag. So the two are never the same, and
  with an ideal AEAD no packet is ever opened.

  * `receivePacket_fails`: no call returns, whatever is on its stream.
  * `data_path_returns_nothing`: so none does on what the other end wrote.
-/
import Llp.Client.Connection

namespace Llp.Security
open ByteCodec Mimicry Client ServerConnection

section Path

variable (A : ChaCha20Poly1305)

/-- What a `send_packet` on a connected end has the cipher seal, if it takes the message. -/
def sealing (c : ServerConnection) (call : SendCall) : List Sealing :=
  match c.session with
  | some session =>
      let cipher := session.txCipher
      let aad := (dataHeader call.unixTime session).serialize
      if (AeadCipher.encrypt A call.ipPacket aad).eval cipher |>.isOk then
        [⟨cipher.key.bytes, cipher.nonce.asBytes, aad, call.ipPacket⟩]
      else []
  | none => []

/-- The `send_packet` calls at one end; an output is what was sealed. -/
def sends : Machine ServerConnection SendCall (List Sealing) where
  step c call := (sealing A c call, Method.state (sendPacket A call c))

/-- The `receive_packet` calls at the other end, each with its clock readings. -/
def receives (http : HttParse) :
    Machine ServerConnection (Instant × Instant) (Fallible BoxError Bytes) :=
  Method.machine fun now => receivePacket A http now.1 now.2

/-- The bytes that an end has written. -/
def written (c : ServerConnection) : Bytes :=
  match c.stream with
  | some stream => stream.output
  | none => []

/-- Everything in the log was sealed under a header that states no payload. -/
def HeaderSealed (log : List Sealing) : Prop :=
  ∀ s ∈ log, ∃ header : PacketHeader, header.payloadLength = 0 ∧ s.aad = header.serialize

theorem sends_headerSealed (c : ServerConnection) (calls : List SendCall) :
    HeaderSealed ((sends A).outputs c calls).flatten := by
  induction calls generalizing c with
  | nil => simp [HeaderSealed, Machine.outputs]
  | cons call calls ih =>
      intro s hs
      simp only [Machine.outputs, List.flatten_cons, List.mem_append] at hs
      rcases hs with hs | hs
      · simp only [sends, sealing] at hs
        split at hs
        · next session _ =>
            split at hs
            · rw [List.mem_singleton] at hs
              exact ⟨dataHeader call.unixTime session, rfl, by rw [hs]⟩
            · cases hs
        · cases hs
      · exact ih _ s hs

/-- With an ideal AEAD no call returns, whatever is on its stream. -/
theorem receivePacket_fails {A : ChaCha20Poly1305} {log : List Sealing}
    (htag : ∀ key nonce aad m, (A.ciphertext key nonce aad m).length =
      m.length + POLY1305_TAG_SIZE)
    (hideal : A.Ideal log) (hlog : HeaderSealed log) (http : HttParse) (now now' : Instant)
    (c : ServerConnection) : (Method.result (receivePacket A http now now' c)).isOk = false := by
  cases h : receivePacket A http now now' c with
  | error e c' => rfl
  | ok ipPacket c' =>
      exfalso
      obtain ⟨llpPacket, key, nonce, hlen, hopen⟩ := receivePacket_ok h
      obtain ⟨hmem, hcipher⟩ := (hideal _ _ _ _ _).mp hopen
      obtain ⟨header, hzero, haad⟩ := hlog _ hmem
      have hpayload := PacketHeader.serialize_payloadLength haad
      rw [hpayload, hzero, hcipher, htag] at hlen
      simp [POLY1305_TAG_SIZE] at hlen

/-- **The data path.** One end sends any packets, the other receives from what the first end
    wrote, with a session and a wrapper made alike: no call returns a packet. -/
theorem data_path_returns_nothing (http : HttParse) (now now' : Instant) (sessionId : UInt64)
    (sessionKey : SessionKey) (mimicryProfile : MimicryProfile) (stream : TcpStream)
    (calls : List SendCall) (clocks : List (Instant × Instant)) (room : ℕ)
    (htag : ∀ key nonce aad m, (A.ciphertext key nonce aad m).length =
      m.length + POLY1305_TAG_SIZE)
    (hideal : A.Ideal ((sends A).outputs
      (connected stream now sessionId sessionKey mimicryProfile) calls).flatten) :
    ∀ r ∈ (receives A http).outputs
      (connected ⟨written ((sends A).final
          (connected stream now sessionId sessionKey mimicryProfile) calls), [], room⟩
        now' sessionId sessionKey mimicryProfile) clocks,
      r.isOk = false := by
  generalize connected _ now' sessionId sessionKey mimicryProfile = receiver
  have hlog := sends_headerSealed A (connected stream now sessionId sessionKey mimicryProfile) calls
  induction clocks generalizing receiver with
  | nil => simp [Machine.outputs]
  | cons clock clocks ih =>
      intro r hr
      rcases List.mem_cons.mp hr with rfl | hr
      · exact receivePacket_fails htag hideal hlog http clock.1 clock.2 receiver
      · exact ih _ r hr

end Path

/-! ## One packet -/

section Sample

def pathKey : SessionKey := ⟨List.Vector.replicate 32 7⟩

/-- An end of session 9, without mimicry, that has the given bytes to read. -/
def pathEnd (input : Bytes) : ServerConnection := connected ⟨input, [], 4096⟩ 0 9 pathKey .none

/-- An IP packet of one byte. -/
def pathCall : SendCall where
  ipPacket := [0x45]
  unixTime := 1700000000
  now := 1
  draws :=
    { vkVideo := ⟨"Thu, 01 Jan 1970 00:00:00 GMT", List.Vector.replicate 16 0, 0⟩
      yandexMusic :=
        ⟨"Thu, 01 Jan 1970 00:00:00 GMT", List.Vector.replicate 20 0, ⟨0, by decide⟩, 0, 0, 0, 0, 0⟩
      ruTube :=
        ⟨"Thu, 01 Jan 1970 00:00:00 GMT", List.Vector.replicate 12 0, ⟨0, by decide⟩, 0⟩ }

/-- The AEAD that opens what the packet was sealed to, under the header it was sealed under. -/
def pathAead : ChaCha20Poly1305 :=
  tableAead [⟨pathKey.bytes, (ChaCha20Nonce.new 9 0).asBytes,
    (PacketHeader.new 1700000000 .DATA 9 0 .none).serialize, [0x45]⟩]

/-- No HTTP response at all. -/
def noHttp : HttParse := ⟨fun _ _ => .ok .incomplete⟩

theorem data_path_returns_nothing_sample :
    ((sends pathAead).outputs (pathEnd []) [pathCall]).flatten.length = 1 ∧
      ∀ r ∈ (receives pathAead noHttp).outputs
        (pathEnd (written ((sends pathAead).final (pathEnd []) [pathCall]))) [(2, 3)],
        r.isOk = false :=
  ⟨rfl, data_path_returns_nothing pathAead noHttp 0 0 9 pathKey .none ⟨[], [], 4096⟩ [pathCall]
    [(2, 3)] 4096 (fun _ _ _ m => by simp [pathAead, tableAead]) (tableAead_ideal _)⟩

/-- The packet is sealed and written, and the other end cannot open it. -/
theorem data_path_rejects_packet :
    pathCall.ipPacket.length + POLY1305_TAG_SIZE ≤ MAX_PAYLOAD_SIZE ∧
      pathAead.Ideal ((sends pathAead).outputs (pathEnd []) [pathCall]).flatten ∧
      (Method.result (sendPacket pathAead pathCall (pathEnd []))).isOk = true ∧
      (receives pathAead noHttp).outputs
          (pathEnd (written ((sends pathAead).final (pathEnd []) [pathCall]))) [(2, 3)] =
        [.error (.err (.llp (.cryptoError .decryptionError)))] := by
  refine ⟨by decide, tableAead_ideal _, rfl, rfl⟩

end Sample

end Llp.Security
