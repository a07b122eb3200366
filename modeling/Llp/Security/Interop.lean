/-
  The packet formats of the two clients and of the server.

  The server's datagram is `nonce:12 || ciphertext || tag`. The C# client puts a length word in
  front, and expects one; the Rust client sends an LLP packet with a header and a second tag.
  Each side takes the other's bytes for its own parts, and so for a plaintext of another
  length than the IP packet has.

  * `formats_disagree`: no packet of a client is opened by the server as the IP packet it was
    made of, and no datagram of the server by the C# client.
  * `encrypt_drop_opens`: behind its length word, a packet of the C# client is a datagram.
-/
import Llp.CSharp.PacketEncryption
import Llp.Security.DataPath
import Llp.Server.Datagrams

namespace Llp.Security
open ByteCodec CSharp Client Server ClientHandler

section Formats

variable {A : ChaCha20Poly1305}

/-- What `send_packet` has put on the stream behind the length word. -/
def frame (c c' : ServerConnection) : Bytes := (written c').drop ((written c).length + 4)

theorem frame_length (hA : A.Tagged) {call : ServerConnection.SendCall} {c c' : ServerConnection}
    (h : ServerConnection.sendPacket A call c = .ok () c') :
    call.ipPacket.length + POLY1305_TAG_SIZE + MIN_PACKET_SIZE ≤ (frame c c').length := by
  obtain ⟨stream, stream', wrapped, hstream, hstream', hout, hlen⟩ :=
    ServerConnection.sendPacket_ok hA h
  have hframe : frame c c' = wrapped := by
    unfold frame written
    rw [hstream, hstream']
    simp only [hout]
    exact List.drop_left' (by simp)
  rwa [hframe]

/-- The server's datagram for a packet is 28 bytes longer. -/
theorem sendPacket_length (hA : A.Tagged) {sessionKey : SessionKey} {sessionId : UInt64}
    {sendOk : Bool} {ipPacket udpPacket : Bytes} {task task' : SendTask}
    (h : task.sendPacket A sessionKey sessionId sendOk ipPacket = (some udpPacket, task')) :
    udpPacket.length = ipPacket.length + (CHACHA20_NONCE_SIZE + POLY1305_TAG_SIZE) := by
  rw [SendTask.sendPacket_eq] at h
  split at h
  · cases h
    simp [SendTask.datagram, ChaCha20Nonce.asBytes, hA.sealed, CHACHA20_NONCE_SIZE]
    omega
  · cases h

/-- **The formats disagree.** Whatever the keys, ids, counters and states: the server never
    opens what a client made of an IP packet as that packet, and the C# client never decrypts
    the server's datagram of an IP packet to it. -/
theorem formats_disagree (hA : A.Tagged) (sessionKey : SessionKey) (sessionId : UInt64)
    (ipPacket : Bytes) :
    (∀ isLittleEndian (client client' : PacketEncryption) packet,
      PacketEncryption.encrypt A isLittleEndian ipPacket client = .ok packet client' →
      ∀ receiveCounter, (openIncoming A (AeadCipher.new sessionKey sessionId) packet
        receiveCounter).1 ≠ some ipPacket) ∧
    (∀ (call : ServerConnection.SendCall) (c c' : ServerConnection), call.ipPacket = ipPacket →
      ServerConnection.sendPacket A call c = .ok () c' →
      ∀ receiveCounter, (openIncoming A (AeadCipher.new sessionKey sessionId) (frame c c')
        receiveCounter).1 ≠ some ipPacket) ∧
    ∀ sendOk (task task' : SendTask) udpPacket,
      task.sendPacket A sessionKey sessionId sendOk ipPacket = (some udpPacket, task') →
      ∀ isLittleEndian (client client' : PacketEncryption),
        PacketEncryption.decrypt A isLittleEndian udpPacket client ≠
          .ok (some ipPacket) client' := by
  refine ⟨?_, ?_, ?_⟩
  · intro isLittleEndian client client' packet hpacket receiveCounter hopen
    have hlen := PacketEncryption.encrypt_length isLittleEndian hA hpacket
    have hopened := openIncoming_length hA hopen
    rw [CHACHA20_NONCE_SIZE, POLY1305_TAG_SIZE] at hopened
    omega
  · rintro call c c' rfl hsend receiveCounter hopen
    have hlen := frame_length hA hsend
    have hopened := openIncoming_length hA hopen
    rw [CHACHA20_NONCE_SIZE, POLY1305_TAG_SIZE] at hopened
    rw [POLY1305_TAG_SIZE, MIN_PACKET_SIZE, HEADER_SIZE, AUTH_TAG_SIZE] at hlen
    omega
  · intro sendOk task task' udpPacket hsend isLittleEndian client client' hdecrypt
    have hlen := sendPacket_length hA hsend
    have hopened := PacketEncryption.decrypt_length isLittleEndian hA hdecrypt
    rw [CHACHA20_NONCE_SIZE, POLY1305_TAG_SIZE] at hlen
    omega

/-- On a little-endian host, what stands behind the length word is the datagram that the
    server's end of the session opens. -/
theorem encrypt_drop_opens (hA : A.Inverts) (hT : A.Tagged) {ipPacket : Bytes}
    (hlen : ipPacket.length + 32 < 2 ^ 31) (client : PacketEncryption)
    (hcounter : client.sendCounter.toNat + 1 < 2 ^ 64) {rc : UInt64}
    (hrc : rc ≤ client.sendCounter) :
    ∃ packet client', PacketEncryption.encrypt A true ipPacket client = .ok packet client' ∧
      openIncoming A (AeadCipher.new client.sessionKey client.sessionId) (packet.drop 4) rc =
        (some ipPacket, client.sendCounter + 1) := by
  refine ⟨_, _, PacketEncryption.encrypt_eq true hT hlen client, ?_⟩
  have hdrop : (toBE 4 (ipPacket.length + 28) ++ client.buildNonce true client.sendCounter ++
      A.ciphertext client.sessionKey.bytes (client.buildNonce true client.sendCounter) []
        ipPacket).drop 4 =
      SendTask.datagram A client.sessionKey client.sessionId client.sendCounter ipPacket := by
    rw [List.append_assoc, List.drop_left' (toBE_length _ _)]
    rfl
  have hnonce : nonceCounter (SendTask.datagram A client.sessionKey client.sessionId
      client.sendCounter ipPacket) = client.sendCounter := nonceCounter_asBytes _ _
  have hsealed : Sealed A client.sessionKey client.sessionId (SendTask.datagram A
      client.sessionKey client.sessionId client.sendCounter ipPacket) ipPacket := by
    unfold Sealed
    rw [hnonce]
    exact ⟨hcounter, rfl⟩
  rw [hdrop, openIncoming_sealed hA hT hsealed, hnonce, if_neg (UInt64.not_lt.mpr hrc)]

end Formats

/-! ## One packet -/

section Sample

/-- The C# client of session 9. -/
def interopClient : PacketEncryption := ⟨pathKey, 9, 0, 0⟩

theorem formats_disagree_sample :
    (∀ isLittleEndian (client client' : PacketEncryption) packet,
      PacketEncryption.encrypt sampleAead isLittleEndian [0x45] client = .ok packet client' →
      ∀ receiveCounter, (openIncoming sampleAead (AeadCipher.new pathKey 9) packet
        receiveCounter).1 ≠ some [0x45]) ∧
    (∀ (call : ServerConnection.SendCall) (c c' : ServerConnection), call.ipPacket = [0x45] →
      ServerConnection.sendPacket sampleAead call c = .ok () c' →
      ∀ receiveCounter, (openIncoming sampleAead (AeadCipher.new pathKey 9) (frame c c')
        receiveCounter).1 ≠ some [0x45]) ∧
    ∀ sendOk (task task' : SendTask) udpPacket,
      task.sendPacket sampleAead pathKey 9 sendOk [0x45] = (some udpPacket, task') →
      ∀ isLittleEndian (client client' : PacketEncryption),
        PacketEncryption.decrypt sampleAead isLittleEndian udpPacket client ≠
          .ok (some [0x45]) client' :=
  formats_disagree sampleAead_tagged pathKey 9 [0x45]

/-- The packet `[0x45]`: sealed by each side, and opened by none of the others. -/
theorem formats_reject_packet :
    (∃ packet, Method.result (PacketEncryption.encrypt sampleAead true [0x45] interopClient) =
        .ok packet ∧
      (openIncoming sampleAead (AeadCipher.new pathKey 9) packet 0).1 = none) ∧
    (Method.result (ServerConnection.sendPacket sampleAead pathCall (pathEnd []))).isOk = true ∧
    (openIncoming sampleAead (AeadCipher.new pathKey 9)
      (frame (pathEnd []) (Method.state (ServerConnection.sendPacket sampleAead pathCall
        (pathEnd [])))) 0).1 = none ∧
    ∃ udpPacket, (SendTask.new.sendPacket sampleAead pathKey 9 true [0x45]).1 = some udpPacket ∧
      Method.result (PacketEncryption.decrypt sampleAead true udpPacket interopClient) =
        .ok none := by
  have hencrypt := PacketEncryption.encrypt_eq true sampleAead_tagged
    (show [0x45].length + 32 < 2 ^ 31 by decide) interopClient
  refine ⟨⟨_, congrArg Method.result hencrypt, ?_⟩, rfl, ?_, _, rfl, ?_⟩
  · rfl
  · rfl
  · rfl

end Sample

end Llp.Security
