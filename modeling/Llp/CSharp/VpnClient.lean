/-
  `serverToTunTask` of `client-csharp/LLPClient/VpnClient.cs`: from the server to the TUN device.

  The task calls `ReadAsync` on a TCP stream, decrypts what one call gave as one packet, and
  writes the IP packet. A read ends where TCP happens to cut the stream; what is left of it
  behind the first packet, and of a packet behind the read, is dropped.

  * `receive_apply`: one pass of the loop.
  * `written_iff_one_packet_per_read`: of a stream of sealed packets, the task writes the IP
    packets, in order, exactly when each read gives one of the packets and none is empty.
-/
import Llp.CSharp.PacketEncryption
import Llp.Lib.Frames

namespace Llp.CSharp
open ByteCodec

/-- The size of the task's buffer. -/
def RECEIVE_BUFFER_SIZE : ℕ := 65536

/-- What one `ReadAsync` put into the buffer; nothing at the end of the stream. -/
structure Read where
  bytes : Bytes
  fits : bytes.length ≤ RECEIVE_BUFFER_SIZE

theorem Read.length_lt (read : Read) : read.bytes.length < 2 ^ 31 := by
  have hfits := read.fits
  rw [RECEIVE_BUFFER_SIZE] at hfits
  omega

/-- `VpnClient`: what the task uses of it, its two counters, and the packets given to the TUN
    device's `WriteAsync`. -/
structure VpnClient where
  encryption : Option PacketEncryption
  tunDevice : List Bytes
  bytesReceived : ℤ
  packetsReceived : ℤ
deriving DecidableEq

namespace VpnClient

section Task

variable (A : ChaCha20Poly1305) (isLittleEndian : Bool)

/-- `_tunDevice.WriteAsync`, and the counters behind it. -/
def writePacket (ipPacket : Bytes) : Method VpnClient Exception Unit :=
  modify fun self =>
    { self with
      tunDevice := self.tunDevice ++ [ipPacket]
      bytesReceived := toLong (self.bytesReceived + ipPacket.length)
      packetsReceived := toInt (self.packetsReceived + 1) }

/-- One pass of the loop, on what `ReadAsync` gave. -/
def receive (read : Read) : Method VpnClient Exception Unit := do
  let self ← get
  if read.bytes.length > 0 then
    match self.encryption with
    | none => pure ()
    | some encryption =>
        let decryptedPacket ← Method.focus (fun self => self.encryption.getD encryption)
          (fun encryption self => { self with encryption := some encryption })
          (PacketEncryption.decrypt A isLittleEndian read.bytes)
        match decryptedPacket with
        | none => pure ()
        | some ipPacket => if ipPacket.length > 0 then writePacket ipPacket else pure ()
  else Method.fail (.other "Server closed connection")

/-- The loop. An exception is caught, and ends it. -/
def serverToTunTask : VpnClient → List Read → VpnClient
  | self, [] => self
  | self, read :: reads =>
      match receive A isLittleEndian read self with
      | .ok _ self => serverToTunTask self reads
      | .error _ self => self

end Task

section Spec

variable {A : ChaCha20Poly1305} (isLittleEndian : Bool)

variable (A) in
/-- The IP packet that the task writes for a read. -/
def written (key : SessionKey) (bytes : Bytes) : Option Bytes :=
  (PacketEncryption.opened A key bytes).filter fun ipPacket => ipPacket.length > 0

/-- One pass writes the packet it finds, if any, and goes on. -/
theorem receive_apply {read : Read} (hread : read.bytes ≠ []) {self : VpnClient}
    {encryption : PacketEncryption} (henc : self.encryption = some encryption) :
    ∃ self' encryption', receive A isLittleEndian read self = .ok () self' ∧
      self'.encryption = some encryption' ∧ encryption'.sessionKey = encryption.sessionKey ∧
      self'.tunDevice =
        self.tunDevice ++ (written A encryption.sessionKey read.bytes).toList := by
  obtain ⟨receiveCounter, hdecrypt⟩ :=
    PacketEncryption.decrypt_eq (A := A) isLittleEndian read.length_lt encryption
  have hfocus : Method.focus (fun self : VpnClient => self.encryption.getD encryption)
      (fun encryption self => { self with encryption := some encryption })
      (PacketEncryption.decrypt A isLittleEndian read.bytes) self =
      .ok (PacketEncryption.opened A encryption.sessionKey read.bytes)
        { self with encryption := some { encryption with receiveCounter := receiveCounter } } := by
    simp only [Method.focus, henc, Option.getD_some, hdecrypt]
  unfold receive
  rw [Method.get_bind, if_pos (List.length_pos_iff.mpr hread), henc]
  simp only
  rw [Method.bind_ok hfocus, written]
  cases PacketEncryption.opened A encryption.sessionKey read.bytes with
  | none => exact ⟨_, _, rfl, rfl, rfl, (List.append_nil _).symm⟩
  | some ipPacket =>
      by_cases hpos : ipPacket.length > 0
      · simp only [if_pos hpos, Option.filter_some, decide_eq_true hpos]
        exact ⟨_, _, rfl, rfl, rfl, rfl⟩
      · simp only [if_neg hpos, Option.filter_some, decide_eq_false hpos]
        exact ⟨_, _, rfl, rfl, rfl, (List.append_nil _).symm⟩

/-- What the task writes: the packet of each read, as if the reads had nothing to do with each
    other. -/
theorem serverToTunTask_written (reads : List Read) (hreads : ∀ read ∈ reads, read.bytes ≠ [])
    {self : VpnClient} {encryption : PacketEncryption} (henc : self.encryption = some encryption) :
    (serverToTunTask A isLittleEndian self reads).tunDevice =
      self.tunDevice ++ (reads.map (·.bytes)).filterMap (written A encryption.sessionKey) := by
  induction reads generalizing self encryption with
  | nil => exact (List.append_nil _).symm
  | cons read reads ih =>
      obtain ⟨self', encryption', hok, henc', hkey, hout⟩ :=
        receive_apply (A := A) isLittleEndian (hreads read List.mem_cons_self) henc
      have hrest := ih (fun r hr => hreads r (List.mem_cons_of_mem read hr)) henc'
      rw [serverToTunTask, hok]
      simp only
      rw [hrest, hout, hkey, List.map_cons, List.append_assoc]
      congr 1
      cases hw : written A encryption.sessionKey read.bytes with
      | none => rw [List.filterMap_cons_none hw, Option.toList_none, List.nil_append]
      | some ipPacket => rw [List.filterMap_cons_some hw, Option.toList_some, List.singleton_append]

/-- A packet on the stream: the IP packet, and the nonce it was sealed under. -/
structure SealedPacket where
  nonce : Arr 12
  ipPacket : Bytes

variable (A) in
/-- Its bytes. -/
def SealedPacket.bytes (key : SessionKey) (packet : SealedPacket) : Bytes :=
  PacketEncryption.sealed A key packet.nonce packet.ipPacket

theorem written_length (hT : A.Tagged) {key : SessionKey} {bytes ipPacket : Bytes}
    (hint : bytes.length < 2 ^ 31) (h : written A key bytes = some ipPacket) :
    ipPacket.length + 32 ≤ bytes.length := by
  obtain ⟨hopened, -⟩ := Option.filter_eq_some_iff.mp h
  obtain ⟨_, hdecrypt⟩ := PacketEncryption.decrypt_eq (A := A) true hint ⟨key, 0, 0, 0⟩
  rw [hopened] at hdecrypt
  exact PacketEncryption.decrypt_length true hT hdecrypt

/-- A read that is one packet gives its IP packet, if that is not empty. -/
theorem written_sealed (hA : A.Inverts) (hT : A.Tagged) {key : SessionKey} {packet : SealedPacket}
    (hint : (packet.bytes A key).length < 2 ^ 31) (hne : packet.ipPacket ≠ []) :
    written A key (packet.bytes A key) = some packet.ipPacket := by
  rw [SealedPacket.bytes, PacketEncryption.sealed_length hT] at hint
  rw [written, SealedPacket.bytes, PacketEncryption.opened_sealed hA hT _ _ hint,
    Option.filter_some]
  exact if_pos (decide_eq_true (List.length_pos_iff.mpr hne))

/-- **One packet per read.** Whatever the IP packets and their nonces, and however their stream
    is cut into reads: the task writes the packets, all of them and in order, exactly when each
    read is one sealed packet and no IP packet is empty. -/
theorem written_iff_one_packet_per_read (hA : A.Inverts) (hT : A.Tagged) {client : VpnClient}
    {encryption : PacketEncryption} (henc : client.encryption = some encryption)
    (packets : List SealedPacket) (reads : List Read)
    (hreads : ∀ read ∈ reads, read.bytes ≠ [])
    (hstream : (reads.map (·.bytes)).flatten =
      (packets.map (SealedPacket.bytes A encryption.sessionKey)).flatten) :
    (serverToTunTask A isLittleEndian client reads).tunDevice =
        client.tunDevice ++ packets.map (·.ipPacket) ↔
      reads.map (·.bytes) = packets.map (SealedPacket.bytes A encryption.sessionKey) ∧
        ∀ packet ∈ packets, packet.ipPacket ≠ [] := by
  have hint : ∀ bytes ∈ reads.map (·.bytes), bytes.length < 2 ^ 31 := by
    intro bytes hbytes
    obtain ⟨read, -, rfl⟩ := List.mem_map.mp hbytes
    exact read.length_lt
  rw [serverToTunTask_written isLittleEndian reads hreads henc, List.append_cancel_left_eq]
  constructor
  · intro h
    refine ⟨?_, fun packet hpacket => ?_⟩
    · have hsize : ∀ packet ∈ packets, (packet.bytes A encryption.sessionKey).length =
          packet.ipPacket.length + 32 := fun packet _ => PacketEncryption.sealed_length hT _ _ _
      refine pieces_eq_of_filterMap SealedPacket.ipPacket (fun ipPacket => ipPacket.length + 32)
        (fun bytes hbytes ipPacket hw => written_length hT (hint bytes hbytes) hw)
        hsize ?_ hstream h
      intro bytes hbytes
      obtain ⟨read, hread, rfl⟩ := List.mem_map.mp hbytes
      exact hreads read hread
    · have hmem : packet.ipPacket ∈ packets.map (·.ipPacket) := List.mem_map_of_mem hpacket
      rw [← h] at hmem
      obtain ⟨bytes, -, hw⟩ := List.mem_filterMap.mp hmem
      have hpos := (Option.filter_eq_some_iff.mp hw).2
      exact List.length_pos_iff.mp (of_decide_eq_true hpos)
  · rintro ⟨hone, hne⟩
    have hopen : ∀ packet ∈ packets,
        written A encryption.sessionKey (packet.bytes A encryption.sessionKey) =
          some packet.ipPacket := by
      intro packet hpacket
      have hmem : packet.bytes A encryption.sessionKey ∈ reads.map (·.bytes) := by
        rw [hone]
        exact List.mem_map_of_mem hpacket
      exact written_sealed hA hT (hint _ hmem) (hne packet hpacket)
    rw [hone, List.filterMap_map]
    exact (List.filterMap_congr hopen).trans (congrFun List.filterMap_eq_map' packets)

end Spec

/-! ## Two packets -/

section Sample

def tunKey : SessionKey := ⟨List.Vector.replicate 32 7⟩

def tunClient : VpnClient := ⟨some ⟨tunKey, 9, 0, 0⟩, [], 0, 0⟩

/-- Two IP packets, each under its own nonce. -/
def tunPackets : List SealedPacket :=
  [⟨List.Vector.replicate 12 1, [0x45, 0x00]⟩, ⟨List.Vector.replicate 12 2, [0x45, 0x01]⟩]

/-- What stands on the stream, from byte `i` on for `n` bytes, in one read. -/
def tunRead (i n : ℕ) : Read :=
  ⟨(((tunPackets.map (SealedPacket.bytes sampleAead tunKey)).flatten.drop i).take n).take
    RECEIVE_BUFFER_SIZE, List.length_take_le _ _⟩

theorem one_packet_per_read_sample :
    (serverToTunTask sampleAead true tunClient [tunRead 0 34, tunRead 34 34]).tunDevice =
        tunClient.tunDevice ++ tunPackets.map (·.ipPacket) ↔
      [tunRead 0 34, tunRead 34 34].map (·.bytes) =
        tunPackets.map (SealedPacket.bytes sampleAead tunKey) ∧
        ∀ packet ∈ tunPackets, packet.ipPacket ≠ [] := by
  have henc : tunClient.encryption = some ⟨tunKey, 9, 0, 0⟩ := rfl
  exact written_iff_one_packet_per_read true sampleAead_inverts sampleAead_tagged henc tunPackets
    [tunRead 0 34, tunRead 34 34] (by decide +kernel) (by decide +kernel)

/-- Both packets in one read, and the same stream cut inside the second: the second is lost. -/
theorem second_packet_lost :
    (tunRead 0 68).bytes = (tunPackets.map (SealedPacket.bytes sampleAead tunKey)).flatten ∧
    (serverToTunTask sampleAead true tunClient [tunRead 0 68]).tunDevice = [[0x45, 0x00]] ∧
    (tunRead 0 40).bytes ++ (tunRead 40 28).bytes =
      (tunPackets.map (SealedPacket.bytes sampleAead tunKey)).flatten ∧
    (serverToTunTask sampleAead true tunClient [tunRead 0 40, tunRead 40 28]).tunDevice =
      [[0x45, 0x00]] ∧
    tunPackets.map (·.ipPacket) = [[0x45, 0x00], [0x45, 0x01]] := by
  decide +kernel

end Sample

end VpnClient

end Llp.CSharp
