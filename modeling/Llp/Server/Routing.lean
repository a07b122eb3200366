/-
  `llp-server`: channels, `client_registry.rs` and `nat.rs`.

  A channel is an unbounded `mpsc` queue with one receiver; a sender is the channel's index.
  The registry maps a VPN IP to a sender; `routeToClient` puts a packet on the channel of its
  destination address. The NAT gateway writes packets to the TUN device.

  * `routeToClient_registered`: a packet for a registered address goes to that channel.
  * `routeToClient_other`: and to no other channel.
-/
import Mathlib.Data.List.AList
import Llp.Lib.Bytes

namespace Llp.Server
open ByteCodec

/-! ## Channels -/

/-- An unbounded channel: packets not received yet, and whether the receiver still exists. -/
structure Channel where
  queue : List Bytes
  receiving : Bool
deriving DecidableEq

/-- A sender: the index of its channel. -/
abbrev Sender := ℕ

/-- All channels, in the order of their creation. -/
abbrev Channels := List Channel

/-- `UnboundedSender::send`: fails when the receiver was dropped. -/
def Sender.send (tx : Sender) (packet : Bytes) (channels : Channels) : Bool × Channels :=
  match channels[tx]? with
  | some channel =>
      if channel.receiving then
        (true, channels.set tx { channel with queue := channel.queue ++ [packet] })
      else (false, channels)
  | none => (false, channels)

/-- `send` touches its own channel only. -/
theorem send_other {tx c : Sender} (h : c ≠ tx) (packet : Bytes) (channels : Channels) :
    (Sender.send tx packet channels).2[c]? = channels[c]? := by
  unfold Sender.send
  split
  · split
    · exact List.getElem?_set_ne (Ne.symm h)
    · rfl
  · rfl

theorem send_length (tx : Sender) (packet : Bytes) (channels : Channels) :
    (Sender.send tx packet channels).2.length = channels.length := by
  unfold Sender.send
  split
  · split
    · exact List.length_set
    · rfl
  · rfl

/-- `send` to a live receiver appends the packet. -/
theorem send_receiving {tx : Sender} {channel : Channel} {channels : Channels}
    (h : channels[tx]? = some channel) (hr : channel.receiving = true) (packet : Bytes) :
    (Sender.send tx packet channels).2[tx]? =
      some { channel with queue := channel.queue ++ [packet] } := by
  have hlt : tx < channels.length := (List.getElem?_eq_some_iff.mp h).1
  unfold Sender.send
  rw [h]
  simp only [hr, if_true]
  exact List.getElem?_set_self hlt

/-! ## Addresses -/

/-- `IpAddr`. -/
inductive IpAddr where
  | v4 (a b c d : UInt8)
  | v6 (octets : Arr 16)
deriving DecidableEq

/-- `SocketAddr`. -/
structure SocketAddr where
  ip : IpAddr
  port : UInt16
deriving DecidableEq

/-- `extract_dst_ip`: the destination address of an IPv4 or IPv6 packet. -/
def extractDstIp (packet : Bytes) : Option IpAddr :=
  if h : packet.length < 20 then none
  else
    let version := (packet.get ⟨0, by omega⟩ >>> 4) &&& 0x0F
    if version = 4 then
      some (.v4 (packet.get ⟨16, by omega⟩) (packet.get ⟨17, by omega⟩)
        (packet.get ⟨18, by omega⟩) (packet.get ⟨19, by omega⟩))
    else if version = 6 then
      if h' : packet.length < 40 then none
      else
        some (.v6 ⟨(packet.drop 24).take 16, by simp; omega⟩)
    else none

/-- `extract_src_ip` of `nat.rs`: bytes 12 to 15 of a packet. -/
def extractSrcIp (packet : Bytes) : Option IpAddr :=
  if h : packet.length < 20 then none
  else
    some (.v4 (packet.get ⟨12, by omega⟩) (packet.get ⟨13, by omega⟩)
      (packet.get ⟨14, by omega⟩) (packet.get ⟨15, by omega⟩))

theorem extractSrcIp_v4 {packet : Bytes} {src : IpAddr} (h : extractSrcIp packet = some src) :
    ∃ a b c d, src = .v4 a b c d := by
  unfold extractSrcIp at h
  split at h
  · cases h
  · cases h
    exact ⟨_, _, _, _, rfl⟩

/-! ## The registry -/

/-- `ClientRegistry`. -/
structure ClientRegistry where
  clients : AList fun _ : IpAddr => Sender

namespace ClientRegistry

/-- `ClientRegistry::new`. -/
def new : ClientRegistry := ⟨∅⟩

/-- `register_client`: a sender registered before under the address is dropped. -/
def registerClient (self : ClientRegistry) (vpnIp : IpAddr) (tx : Sender) : ClientRegistry :=
  ⟨self.clients.insert vpnIp tx⟩

/-- `unregister_client`. -/
def unregisterClient (self : ClientRegistry) (vpnIp : IpAddr) : ClientRegistry :=
  ⟨self.clients.erase vpnIp⟩

/-- `route_to_client`. -/
def routeToClient (self : ClientRegistry) (packet : Bytes) (channels : Channels) : Channels :=
  match extractDstIp packet with
  | none => channels
  | some dstIp =>
      match self.clients.lookup dstIp with
      | some tx => (tx.send packet channels).2
      | none => channels

/-- A packet for a registered address is put on that channel. -/
theorem routeToClient_registered {self : ClientRegistry} {packet : Bytes} {ip : IpAddr}
    {tx : Sender} {channel : Channel} {channels : Channels}
    (hdst : extractDstIp packet = some ip) (htx : self.clients.lookup ip = some tx)
    (hch : channels[tx]? = some channel) (hr : channel.receiving = true) :
    (self.routeToClient packet channels)[tx]? =
      some { channel with queue := channel.queue ++ [packet] } := by
  simp only [routeToClient, hdst, htx]
  exact send_receiving hch hr packet

/-- It is put on no other channel. -/
theorem routeToClient_other {self : ClientRegistry} {packet : Bytes} {ip : IpAddr}
    {tx c : Sender} {channels : Channels} (hdst : extractDstIp packet = some ip)
    (htx : self.clients.lookup ip = some tx) (hc : c ≠ tx) :
    (self.routeToClient packet channels)[c]? = channels[c]? := by
  simp only [routeToClient, hdst, htx]
  exact send_other hc packet channels

end ClientRegistry

/-! ## The NAT gateway -/

/-- The TUN device: the packets written to it. -/
structure TunDevice where
  written : List Bytes
deriving DecidableEq

/-- `NatGateway`. -/
structure NatGateway where
  tunDevice : Option TunDevice
deriving DecidableEq

/-- `route_packet`; `writeOk` is the outcome of the write to the device. The errors are
    those of the source, the text of the device's own error aside. -/
def NatGateway.routePacket (self : NatGateway) (writeOk : Bool) (packet : Bytes) :
    Except String Unit × NatGateway :=
  match self.tunDevice with
  | some tun =>
      if writeOk then (.ok (), ⟨some ⟨tun.written ++ [packet]⟩⟩)
      else (.error "Ошибка записи в TUN", self)
  | none => (.error "TUN device не настроен", self)

end Llp.Server
