/-
  `tunToServerTask` of `client-csharp/LLPClient/VpnClient.cs`: from the TUN device to the server.

  A pass of the loop takes a packet from the device, seals it and writes it to the stream. An
  exception is caught and the loop goes on, unless it is a cancellation. Before the write the
  counter of the nonces has moved on already.

  * `send_packet`: one pass on a packet.
  * `sendLoop_run`: the stream holds the first packets, and the beginning of one more at most.
  * `tun_stream_read`: a reader of the stream reads these packets, each under a nonce of its own.
-/
import Llp.CSharp.HandshakeStream
import Llp.Lib.Frames

namespace Llp.CSharp
open ByteCodec

/-- What `WintunReceivePacket` gives one pass: a packet, or nothing. The delay behind nothing may be
    cancelled. -/
inductive Received where
  | packet (ipPacket : Bytes)
  | nothing
  | canceled
deriving DecidableEq

/-- One pass of the loop: what it receives, and after how many bytes its write is cancelled. -/
structure Pass where
  received : Received
  canceledAt : Option ℕ
deriving DecidableEq

/-- What the loop catches: an `OperationCanceledException`, or another exception. -/
inductive TaskException where
  | operationCanceled
  | other (e : StreamException)
deriving DecidableEq

/-- `ReadAsync` of the TUN device, into a buffer of the given length. With a size that is negative
    as an `int` the copy throws, and nothing is read. -/
def TunDevice.readAsync (bufferLength : ℕ) : Received → Fallible TaskException Bytes
  | .packet ipPacket => .ok (ipPacket.take (min (toInt ipPacket.length) bufferLength).toNat)
  | .nothing => .ok []
  | .canceled => .error (.err .operationCanceled)

/-- `WriteAsync`. A write that is cancelled has not been written to its end. -/
def NetworkStream.writeOrCancel (bytes : Bytes) :
    Option ℕ → Method NetworkStream TaskException Unit
  | none => Method.mapError .other (writeAsync bytes)
  | some n => do
      let written := bytes.dropLast.take n
      modify fun self =>
        { self with
          output := self.output ++ written.take self.room
          room := self.room - written.length }
      Method.fail .operationCanceled

/-- `VpnClient`: what the task uses of it, and its two counters. -/
structure TunToServer where
  encryption : Option PacketEncryption
  stream : NetworkStream
  bytesSent : ℤ
  packetsSent : ℤ

namespace TunToServer

section Task

variable (A : ChaCha20Poly1305) (isLittleEndian : Bool)

/-- One pass of the loop. -/
def send (bufferLength : ℕ) (pass : Pass) : Method TunToServer TaskException Unit := do
  let ipPacket ← Method.lift (TunDevice.readAsync bufferLength pass.received)
  let self ← get
  if ipPacket.length > 0 then
    match self.encryption with
    | none => pure ()
    | some encryption =>
        let encryptedPacket ← Method.mapError (fun e => .other (.thrown e))
          (Method.focus (fun self => self.encryption.getD encryption)
            (fun encryption self => { self with encryption := some encryption })
            (PacketEncryption.encrypt A isLittleEndian ipPacket))
        Method.focus (fun self => self.stream) (fun stream self => { self with stream := stream })
          (NetworkStream.writeOrCancel encryptedPacket pass.canceledAt)
        modify fun self =>
          { self with
            bytesSent := toLong (self.bytesSent + encryptedPacket.length)
            packetsSent := toInt (self.packetsSent + 1) }
  else pure ()

/-- The loop, until it is cancelled. -/
def sendLoop (bufferLength : ℕ) : TunToServer → List Pass → TunToServer
  | self, [] => self
  | self, pass :: passes =>
      match send A isLittleEndian bufferLength pass self with
      | .ok _ self => sendLoop bufferLength self passes
      | .error e self =>
          if e = .err .operationCanceled then self else sendLoop bufferLength self passes

/-- `tunToServerTask`. Without a buffer there is no loop. -/
def tunToServerTask (mtu : ℤ) (self : TunToServer) (passes : List Pass) : TunToServer :=
  match newArray (toInt (mtu + 100)) with
  | .ok buffer => sendLoop A isLittleEndian buffer.length self passes
  | .error _ => self

end Task

/-! ## The packets -/

/-- The packet that a pass takes from the device, cut to the buffer. -/
def packetOf (bufferLength : ℕ) (pass : Pass) : Option Bytes :=
  (TunDevice.readAsync bufferLength pass.received).toOption.filter fun ipPacket =>
    ipPacket.length > 0

section Spec

variable (A : ChaCha20Poly1305) (isLittleEndian : Bool)

/-- The nonce that comes next. -/
def nextNonce (encryption : PacketEncryption) : Arr 12 :=
  ⟨encryption.buildNonce isLittleEndian encryption.sendCounter,
    PacketEncryption.buildNonce_length isLittleEndian encryption encryption.sendCounter⟩

/-- The counter has moved on. -/
def advance (encryption : PacketEncryption) : PacketEncryption :=
  { encryption with sendCounter := encryption.sendCounter + 1 }

/-- What a packet becomes when it is sealed next: the nonce, the ciphertext and the tag. -/
def sealNext (encryption : PacketEncryption) (ipPacket : Bytes) : Bytes :=
  (nextNonce isLittleEndian encryption).toList ++ A.ciphertext encryption.sessionKey.bytes
    (nextNonce isLittleEndian encryption).toList [] ipPacket

/-- The packet as it is written, behind its length. -/
def packetNext (encryption : PacketEncryption) (ipPacket : Bytes) : Bytes :=
  PacketEncryption.sealed A encryption.sessionKey (nextNonce isLittleEndian encryption) ipPacket

/-- Packets with the state in which each is sealed. -/
def inTurn : PacketEncryption → List Bytes → List (PacketEncryption × Bytes)
  | _, [] => []
  | encryption, ipPacket :: ipPackets =>
      (encryption, ipPacket) :: inTurn (advance encryption) ipPackets

/-- The bytes of packets written one after another. -/
def writtenAll (encryption : PacketEncryption) (ipPackets : List Bytes) : List Bytes :=
  (inTurn encryption ipPackets).map fun turn => packetNext A isLittleEndian turn.1 turn.2

@[simp] theorem writtenAll_nil (encryption : PacketEncryption) :
    writtenAll A isLittleEndian encryption [] = [] := rfl

@[simp] theorem writtenAll_cons (encryption : PacketEncryption) (ipPacket : Bytes)
    (ipPackets : List Bytes) : writtenAll A isLittleEndian encryption (ipPacket :: ipPackets) =
      packetNext A isLittleEndian encryption ipPacket ::
        writtenAll A isLittleEndian (advance encryption) ipPackets := rfl

variable {A} {bufferLength : ℕ} {pass : Pass} {self : TunToServer} {encryption : PacketEncryption}
  {ipPacket : Bytes}

theorem packetOf_eq_some : packetOf bufferLength pass = some ipPacket ↔
    TunDevice.readAsync bufferLength pass.received = .ok ipPacket ∧ 0 < ipPacket.length := by
  unfold packetOf
  rw [Option.filter_eq_some_iff, decide_eq_true_iff]
  cases TunDevice.readAsync bufferLength pass.received with
  | ok bytes => simp [Except.toOption]
  | error e => simp [Except.toOption]

theorem packetOf_length (h : packetOf bufferLength pass = some ipPacket) :
    0 < ipPacket.length ∧ ipPacket.length ≤ bufferLength := by
  obtain ⟨hread, hpos⟩ := packetOf_eq_some.mp h
  refine ⟨hpos, ?_⟩
  unfold TunDevice.readAsync at hread
  split at hread
  · obtain rfl := Except.ok.inj hread
    exact (List.length_take_le _ _).trans (Int.toNat_le.mpr (min_le_right _ _))
  · cases hread
    exact Nat.zero_le _
  · cases hread

/-! ### One pass -/

/-- A pass without a packet does nothing, or is cancelled. -/
theorem send_idle (h : packetOf bufferLength pass = none) :
    send A isLittleEndian bufferLength pass self = .ok () self ∨
      pass.received = .canceled ∧ send A isLittleEndian bufferLength pass self =
        .error (.err .operationCanceled) self := by
  cases hread : TunDevice.readAsync bufferLength pass.received with
  | ok ipPacket =>
      have hempty : ¬ ipPacket.length > 0 := by
        intro hpos
        rw [packetOf_eq_some.mpr ⟨hread, hpos⟩] at h
        cases h
      refine .inl ?_
      unfold send
      rw [hread, Method.bind_ok (Method.lift_ok _ _), Method.get_bind, if_neg hempty]
      rfl
  | error e =>
      cases hreceived : pass.received with
      | packet ipPacket =>
          rw [hreceived] at hread
          cases hread
      | nothing =>
          rw [hreceived] at hread
          cases hread
      | canceled =>
          refine .inr ⟨rfl, ?_⟩
          unfold send
          rw [hreceived]
          rfl

/-- The task with a packet sealed and the stream written to. -/
def written (encryption : PacketEncryption) (self : TunToServer) (stream : NetworkStream) :
    TunToServer :=
  { self with encryption := some (advance encryption), stream := stream }

theorem packetNext_length (hT : A.Tagged) (encryption : PacketEncryption) (ipPacket : Bytes) :
    (packetNext A isLittleEndian encryption ipPacket).length = ipPacket.length + 32 :=
  PacketEncryption.sealed_length hT _ _ _

theorem packetNext_ne_nil (hT : A.Tagged) (encryption : PacketEncryption) (ipPacket : Bytes) :
    packetNext A isLittleEndian encryption ipPacket ≠ [] := by
  have hlength := packetNext_length isLittleEndian hT encryption ipPacket
  exact List.length_pos_iff.mp (by omega)

/-- The write of a packet decides how its pass ends. -/
theorem send_packet (hT : A.Tagged) (hbuffer : bufferLength + 32 < 2 ^ 31)
    (hpacket : packetOf bufferLength pass = some ipPacket)
    (henc : self.encryption = some encryption) :
    send A isLittleEndian bufferLength pass self =
      match NetworkStream.writeOrCancel (packetNext A isLittleEndian encryption ipPacket)
        pass.canceledAt self.stream with
      | .ok _ stream => .ok ()
          { written encryption self stream with
            bytesSent := toLong (self.bytesSent + (ipPacket.length + 32 : ℕ))
            packetsSent := toInt (self.packetsSent + 1) }
      | .error e stream => .error e (written encryption self stream) := by
  obtain ⟨hread, hpos⟩ := packetOf_eq_some.mp hpacket
  have hle := (packetOf_length hpacket).2
  have hlength := packetNext_length isLittleEndian hT encryption ipPacket
  have hencrypt : PacketEncryption.encrypt A isLittleEndian ipPacket encryption =
      .ok (packetNext A isLittleEndian encryption ipPacket) (advance encryption) :=
    PacketEncryption.encrypt_sealed isLittleEndian hT (by omega) encryption
  have hfocus : Method.mapError (fun e => TaskException.other (.thrown e))
      (Method.focus (fun self : TunToServer => self.encryption.getD encryption)
        (fun encryption self => { self with encryption := some encryption })
        (PacketEncryption.encrypt A isLittleEndian ipPacket)) self =
      .ok (packetNext A isLittleEndian encryption ipPacket) (written encryption self self.stream) := by
    have hget : self.encryption.getD encryption = encryption := by
      rw [henc, Option.getD_some]
    exact Method.mapError_ok (Method.focus_ok ((congrArg _ hget).trans hencrypt))
  unfold send
  rw [hread, Method.bind_ok (Method.lift_ok _ _), Method.get_bind, if_pos hpos, henc]
  dsimp only
  rw [Method.bind_ok hfocus]
  generalize packetNext A isLittleEndian encryption ipPacket = bytes at hlength ⊢
  cases hwrite : NetworkStream.writeOrCancel bytes pass.canceledAt self.stream with
  | ok _ stream =>
      have hstream : Method.focus (fun self : TunToServer => self.stream)
          (fun stream self => { self with stream := stream })
          (NetworkStream.writeOrCancel bytes pass.canceledAt) (written encryption self self.stream) =
            .ok () (written encryption self stream) := Method.focus_ok hwrite
      rw [Method.bind_ok hstream, hlength, Method.modify_apply]
      rfl
  | error e stream =>
      have hstream : Method.focus (fun self : TunToServer => self.stream)
          (fun stream self => { self with stream := stream })
          (NetworkStream.writeOrCancel bytes pass.canceledAt) (written encryption self self.stream) =
            .error e (written encryption self stream) := Method.focus_error hwrite
      rw [Method.bind_error hstream]

/-! ### The loop -/

/-- A write succeeds where there is room and nothing cancels it. Else it leaves the beginning of
    its bytes, and the loop ends or the socket takes nothing more. -/
theorem writeOrCancel_cases {bytes : Bytes} (hne : bytes ≠ []) (canceledAt : Option ℕ)
    (stream : NetworkStream) :
    (bytes.length ≤ stream.room ∧ NetworkStream.writeOrCancel bytes canceledAt stream = .ok ()
      { stream with output := stream.output ++ bytes, room := stream.room - bytes.length }) ∨
    ∃ e front stream', NetworkStream.writeOrCancel bytes canceledAt stream = .error e stream' ∧
      stream'.output = stream.output ++ front ∧ front <+: bytes ∧ front ≠ bytes ∧
      front.length ≤ stream.room ∧ (e = .err .operationCanceled ∨ stream'.room = 0) ∧
      (canceledAt = none → stream.room < bytes.length) := by
  have hpos := List.length_pos_iff.mpr hne
  cases canceledAt with
  | none =>
      by_cases hroom : bytes.length ≤ stream.room
      · exact .inl ⟨hroom, Method.mapError_ok (NetworkStream.writeAsync_iff.mpr ⟨hroom, rfl⟩)⟩
      · have hshort : stream.room < bytes.length := Nat.lt_of_not_le hroom
        have hwrite : NetworkStream.writeAsync bytes stream = .error (.err .io)
            { stream with
              output := stream.output ++ bytes.take stream.room
              room := stream.room - bytes.length } := by
          unfold NetworkStream.writeAsync
          rw [Method.get_bind, Method.set_bind, Method.failIf_pos _ hshort]
        refine .inr ⟨_, bytes.take stream.room, _, Method.mapError_error hwrite, rfl,
          List.take_prefix _ _, fun hwhole => ?_, List.length_take_le _ _, .inr ?_, fun _ => hshort⟩
        · have hlength := congrArg List.length hwhole
          rw [List.length_take] at hlength
          omega
        · exact Nat.sub_eq_zero_of_le (Nat.le_of_lt hshort)
  | some n =>
      have hprefix : (bytes.dropLast.take n).take stream.room <+: bytes :=
        ((List.take_prefix _ _).trans (List.take_prefix _ _)).trans (List.dropLast_prefix bytes)
      refine .inr ⟨_, (bytes.dropLast.take n).take stream.room, _, rfl, rfl, hprefix,
        fun hwhole => ?_, List.length_take_le _ _, .inl rfl, nofun⟩
      have hlength := congrArg List.length hwhole
      simp only [List.length_take, List.length_dropLast] at hlength
      omega

/-- What a run leaves of its packets: the first `n` on the stream and in the counters, and the
    beginning of the next one. -/
structure Sent (A : ChaCha20Poly1305) (isLittleEndian : Bool) (encryption : PacketEncryption)
    (ipPackets : List Bytes) (before after : TunToServer) (n : ℕ) (front : Bytes) : Prop where
  le : n ≤ ipPackets.length
  output : after.stream.output = before.stream.output ++
    (writtenAll A isLittleEndian encryption (ipPackets.take n)).flatten ++ front
  front : front = [] ∨ ∃ next, (writtenAll A isLittleEndian encryption ipPackets)[n]? = some next ∧
    front <+: next ∧ front ≠ next
  packetsSent : ∀ m, before.packetsSent = toInt m → after.packetsSent = toInt (m + n)
  bytesSent : ∀ m, before.bytesSent = toLong m → after.bytesSent = toLong
    (m + (writtenAll A isLittleEndian encryption (ipPackets.take n)).flatten.length)

theorem toInt_add (m n : ℤ) : toInt (toInt m + n) = toInt (m + n) := Int.bmod_add_bmod

theorem toLong_add (m n : ℤ) : toLong (toLong m + n) = toLong (m + n) := Int.bmod_add_bmod

/-- A run in which no packet is written. -/
theorem Sent.none {after : TunToServer} {front : Bytes} {ipPackets : List Bytes}
    (houtput : after.stream.output = self.stream.output ++ front)
    (hfront : front = [] ∨ ∃ next, (writtenAll A isLittleEndian encryption ipPackets)[0]? = some next ∧
      front <+: next ∧ front ≠ next)
    (hpackets : after.packetsSent = self.packetsSent) (hbytes : after.bytesSent = self.bytesSent) :
    Sent A isLittleEndian encryption ipPackets self after 0 front where
  le := Nat.zero_le _
  output := by rw [List.take_zero, writtenAll_nil, List.flatten_nil, List.append_nil, houtput]
  front := hfront
  packetsSent m h := by rw [hpackets, h, Nat.cast_zero, add_zero]
  bytesSent m h := by
    rw [hbytes, h, List.take_zero, writtenAll_nil, List.flatten_nil, List.length_nil, Nat.cast_zero,
      add_zero]

/-- A run that changes nothing. -/
theorem Sent.refl (ipPackets : List Bytes) (self : TunToServer) :
    Sent A isLittleEndian encryption ipPackets self self 0 [] :=
  Sent.none isLittleEndian (List.append_nil _).symm (.inl rfl) rfl rfl

/-- A packet that is written, before the others. -/
theorem Sent.cons {sent after : TunToServer} {ipPackets : List Bytes} {n : ℕ} {front : Bytes}
    (hT : A.Tagged) (h : Sent A isLittleEndian (advance encryption) ipPackets sent after n front)
    (houtput : sent.stream.output =
      self.stream.output ++ packetNext A isLittleEndian encryption ipPacket)
    (hpackets : sent.packetsSent = toInt (self.packetsSent + 1))
    (hbytes : sent.bytesSent = toLong (self.bytesSent + (ipPacket.length + 32 : ℕ))) :
    Sent A isLittleEndian encryption (ipPacket :: ipPackets) self after (n + 1) front where
  le := Nat.succ_le_succ h.le
  output := by
    rw [h.output, houtput, List.take_succ_cons, writtenAll_cons, List.flatten_cons]
    simp only [List.append_assoc]
  front := h.front
  packetsSent m hm := by
    have hnext := h.packetsSent (m + 1) (by rw [hpackets, hm, toInt_add])
    rw [hnext, Nat.cast_succ, add_assoc, add_comm (1 : ℤ)]
  bytesSent m hm := by
    have hnext := h.bytesSent (m + (ipPacket.length + 32 : ℕ)) (by rw [hbytes, hm, toLong_add])
    rw [hnext, List.take_succ_cons, writtenAll_cons, List.flatten_cons, List.length_append,
      packetNext_length isLittleEndian hT, Nat.cast_add (ipPacket.length + 32), add_assoc]

/-- Where the socket takes nothing more, nothing changes that the server or the user sees. -/
theorem sendLoop_stuck (hT : A.Tagged) (hbuffer : bufferLength + 32 < 2 ^ 31) (passes : List Pass)
    (henc : self.encryption = some encryption) (hroom : self.stream.room = 0) :
    let after := sendLoop A isLittleEndian bufferLength self passes
    after.stream.output = self.stream.output ∧ after.packetsSent = self.packetsSent ∧
      after.bytesSent = self.bytesSent := by
  induction passes generalizing self encryption with
  | nil => exact ⟨rfl, rfl, rfl⟩
  | cons pass passes ih =>
      unfold sendLoop
      cases hpacket : packetOf bufferLength pass with
      | none =>
          rcases send_idle isLittleEndian hpacket with hidle | ⟨-, hcanceled⟩
          · rw [hidle]
            exact ih henc hroom
          · rw [hcanceled]
            exact ⟨rfl, rfl, rfl⟩
      | some ipPacket =>
          have hne := packetNext_ne_nil isLittleEndian hT encryption ipPacket
          rw [send_packet isLittleEndian hT hbuffer hpacket henc]
          rcases writeOrCancel_cases hne pass.canceledAt self.stream with
            ⟨hfits, -⟩ | ⟨e, front, stream, herror, houtput, -, -, hshort, hend, -⟩
          · have hlength := packetNext_length isLittleEndian hT encryption ipPacket
            omega
          · rw [hroom, Nat.le_zero, List.length_eq_zero_iff] at hshort
            rw [hshort, List.append_nil] at houtput
            rw [herror]
            dsimp only
            by_cases hcanceled : e = .err .operationCanceled
            · rw [if_pos hcanceled]
              exact ⟨houtput, rfl, rfl⟩
            · have hnext : (written encryption self stream).encryption =
                  some (advance encryption) := rfl
              have hrest := ih hnext (hend.resolve_left hcanceled)
              rw [if_neg hcanceled]
              exact ⟨hrest.1.trans houtput, hrest.2⟩

/-- **What the loop sends.** Of the packets it takes from the device, the first ones are on the
    stream: all of them if there is room and nothing is cancelled. -/
theorem sendLoop_run (hT : A.Tagged) (hbuffer : bufferLength + 32 < 2 ^ 31) (passes : List Pass)
    (henc : self.encryption = some encryption) :
    let ipPackets := passes.filterMap (packetOf bufferLength)
    ∃ n front, Sent A isLittleEndian encryption ipPackets self
        (sendLoop A isLittleEndian bufferLength self passes) n front ∧
      ((∀ pass ∈ passes, pass.received ≠ .canceled ∧ pass.canceledAt = none) →
        (writtenAll A isLittleEndian encryption ipPackets).flatten.length ≤ self.stream.room →
        n = ipPackets.length) := by
  induction passes generalizing self encryption with
  | nil => exact ⟨0, [], Sent.refl isLittleEndian [] self, fun _ _ => rfl⟩
  | cons pass passes ih =>
      intro ipPackets
      unfold sendLoop
      cases hpacket : packetOf bufferLength pass with
      | none =>
          have hpackets : ipPackets = passes.filterMap (packetOf bufferLength) :=
            List.filterMap_cons_none hpacket
          rw [hpackets]
          rcases send_idle isLittleEndian hpacket with hidle | ⟨hreceived, hcanceled⟩
          · rw [hidle]
            obtain ⟨n, front, hsent, hall⟩ := ih henc
            exact ⟨n, front, hsent, fun hnever =>
              hall fun other hother => hnever other (List.mem_cons_of_mem pass hother)⟩
          · rw [hcanceled]
            refine ⟨0, [], Sent.refl isLittleEndian _ self, fun hnever => ?_⟩
            exact absurd hreceived (hnever pass List.mem_cons_self).1
      | some ipPacket =>
          have hpackets : ipPackets = ipPacket :: passes.filterMap (packetOf bufferLength) :=
            List.filterMap_cons_some hpacket
          have hne := packetNext_ne_nil isLittleEndian hT encryption ipPacket
          rw [hpackets, send_packet isLittleEndian hT hbuffer hpacket henc]
          rcases writeOrCancel_cases hne pass.canceledAt self.stream with
            ⟨hfits, hok⟩ | ⟨e, front, stream, herror, houtput, hfront, hpart, -, hend, hshort⟩
          · rw [hok]
            let sent : TunToServer := { written encryption self
                { self.stream with
                  output := self.stream.output ++ packetNext A isLittleEndian encryption ipPacket
                  room := self.stream.room -
                    (packetNext A isLittleEndian encryption ipPacket).length } with
              bytesSent := toLong (self.bytesSent + (ipPacket.length + 32 : ℕ))
              packetsSent := toInt (self.packetsSent + 1) }
            have hnext : sent.encryption = some (advance encryption) := rfl
            obtain ⟨n, front, hsent, hall⟩ := ih hnext
            refine ⟨n + 1, front, hsent.cons isLittleEndian hT rfl rfl rfl, fun hnever hroom => ?_⟩
            rw [writtenAll_cons, List.flatten_cons, List.length_append] at hroom
            exact congrArg Nat.succ (hall
              (fun other hother => hnever other (List.mem_cons_of_mem pass hother))
              (Nat.le_sub_of_add_le' hroom))
          · have hnone : ∀ after : TunToServer, after.stream.output = stream.output →
                after.packetsSent = self.packetsSent → after.bytesSent = self.bytesSent →
                Sent A isLittleEndian encryption
                  (ipPacket :: passes.filterMap (packetOf bufferLength)) self after 0 front :=
              fun after hout hpackets hbytes => Sent.none isLittleEndian (hout.trans houtput)
                (.inr ⟨_, rfl, hfront, hpart⟩) hpackets hbytes
            have hlost : (∀ other ∈ pass :: passes,
                other.received ≠ .canceled ∧ other.canceledAt = none) →
                ¬ (writtenAll A isLittleEndian encryption
                  (ipPacket :: passes.filterMap (packetOf bufferLength))).flatten.length ≤
                    self.stream.room := by
              intro hnever hroom
              have hfull := hshort (hnever pass List.mem_cons_self).2
              rw [writtenAll_cons, List.flatten_cons, List.length_append] at hroom
              omega
            rw [herror]
            dsimp only
            by_cases hcanceled : e = .err .operationCanceled
            · rw [if_pos hcanceled]
              exact ⟨0, front, hnone _ rfl rfl rfl, fun hnever hroom =>
                absurd hroom (hlost hnever)⟩
            · have hnext : (written encryption self stream).encryption =
                  some (advance encryption) := rfl
              obtain ⟨hout, hpackets, hbytes⟩ := sendLoop_stuck isLittleEndian hT hbuffer passes
                hnext (hend.resolve_left hcanceled)
              rw [if_neg hcanceled]
              exact ⟨0, front, hnone _ hout hpackets hbytes, fun hnever hroom =>
                absurd hroom (hlost hnever)⟩

/-! ### What is read of the stream -/

theorem sealNext_length (hT : A.Tagged) (encryption : PacketEncryption) (ipPacket : Bytes) :
    (sealNext A isLittleEndian encryption ipPacket).length = ipPacket.length + 28 := by
  rw [sealNext, List.length_append, List.Vector.toList_length, hT.sealed, POLY1305_TAG_SIZE]
  omega

theorem packetNext_eq (hT : A.Tagged) (encryption : PacketEncryption) (ipPacket : Bytes) :
    packetNext A isLittleEndian encryption ipPacket =
      toBE 4 (sealNext A isLittleEndian encryption ipPacket).length ++
        sealNext A isLittleEndian encryption ipPacket := by
  rw [sealNext_length isLittleEndian hT, packetNext, PacketEncryption.sealed, sealNext,
    List.append_assoc]

/-- A written packet is a frame. -/
theorem packetNext_writes (hT : A.Tagged) (encryption : PacketEncryption)
    (hlen : ipPacket.length + 32 < 2 ^ 31) :
    frames.Writes (sealNext A isLittleEndian encryption ipPacket)
      (packetNext A isLittleEndian encryption ipPacket) := by
  have hlength := sealNext_length isLittleEndian hT encryption ipPacket
  rw [packetNext_eq isLittleEndian hT]
  exact frames_writes ⟨sealNext A isLittleEndian encryption ipPacket, by omega⟩

variable (A) in
/-- The messages in packets written one after another. -/
def sealedAll (encryption : PacketEncryption) (ipPackets : List Bytes) : List Bytes :=
  (inTurn encryption ipPackets).map fun turn => sealNext A isLittleEndian turn.1 turn.2

@[simp] theorem sealedAll_cons (encryption : PacketEncryption) (ipPacket : Bytes)
    (ipPackets : List Bytes) : sealedAll A isLittleEndian encryption (ipPacket :: ipPackets) =
      sealNext A isLittleEndian encryption ipPacket ::
        sealedAll A isLittleEndian (advance encryption) ipPackets := rfl

theorem inTurn_take (encryption : PacketEncryption) (ipPackets : List Bytes) (n : ℕ) :
    inTurn encryption (ipPackets.take n) = (inTurn encryption ipPackets).take n := by
  induction ipPackets generalizing encryption n with
  | nil => rw [List.take_nil, inTurn, List.take_nil]
  | cons ipPacket ipPackets ih =>
      cases n with
      | zero => rfl
      | succ n => rw [List.take_succ_cons, inTurn, inTurn, List.take_succ_cons, ih]

theorem sealedAll_writes (hT : A.Tagged) (encryption : PacketEncryption) {ipPackets : List Bytes}
    (hlen : ∀ ipPacket ∈ ipPackets, ipPacket.length + 32 < 2 ^ 31) :
    List.Forall₂ frames.Writes (sealedAll A isLittleEndian encryption ipPackets)
      (writtenAll A isLittleEndian encryption ipPackets) := by
  induction ipPackets generalizing encryption with
  | nil => exact .nil
  | cons ipPacket ipPackets ih =>
      exact .cons (packetNext_writes isLittleEndian hT encryption (hlen _ List.mem_cons_self))
        (ih (advance encryption) fun p hp => hlen p (List.mem_cons_of_mem ipPacket hp))

/-- A message opens to its packet. -/
theorem sealedAll_opened (hA : A.Inverts) (hT : A.Tagged) (encryption : PacketEncryption)
    {ipPackets : List Bytes} (hlen : ∀ ipPacket ∈ ipPackets, ipPacket.length + 32 < 2 ^ 31) :
    (sealedAll A isLittleEndian encryption ipPackets).map (fun message =>
      PacketEncryption.opened A encryption.sessionKey (toBE 4 message.length ++ message)) =
        ipPackets.map some := by
  induction ipPackets generalizing encryption with
  | nil => rfl
  | cons ipPacket ipPackets ih =>
      have hrest := ih (advance encryption) fun p hp => hlen p (List.mem_cons_of_mem ipPacket hp)
      rw [sealedAll_cons, List.map_cons, List.map_cons, ← packetNext_eq isLittleEndian hT,
        packetNext, PacketEncryption.opened_sealed hA hT _ _ (hlen _ List.mem_cons_self)]
      exact congrArg _ hrest

/-- The nonces are those of the counters in a row. -/
theorem sealedAll_nonces (encryption : PacketEncryption) (ipPackets : List Bytes) :
    (sealedAll A isLittleEndian encryption ipPackets).map (·.take PacketEncryption.NONCE_SIZE) =
      (List.range ipPackets.length).map fun i =>
        encryption.buildNonce isLittleEndian (encryption.sendCounter + UInt64.ofNat i) := by
  induction ipPackets generalizing encryption with
  | nil => rfl
  | cons ipPacket ipPackets ih =>
      have hnonce : (nextNonce isLittleEndian encryption).toList.length =
        PacketEncryption.NONCE_SIZE := List.Vector.toList_length _
      rw [sealedAll_cons, List.map_cons, ih, List.length_cons, List.range_succ_eq_map,
        List.map_cons, List.map_map, sealNext, List.take_left' hnonce]
      refine congrArg₂ List.cons ?_ (List.map_congr_left fun i _ => ?_)
      · show encryption.buildNonce isLittleEndian encryption.sendCounter = _
        rw [show UInt64.ofNat 0 = 0 from rfl, UInt64.add_zero]
      · show encryption.buildNonce isLittleEndian (encryption.sendCounter + 1 + UInt64.ofNat i) = _
        rw [Function.comp_apply, Nat.succ_eq_one_add, UInt64.ofNat_add, UInt64.add_assoc]
        rfl

/-- How many bytes packets take up on the stream. -/
def wireSize (ipPackets : List Bytes) : ℕ :=
  (ipPackets.map fun ipPacket => ipPacket.length + 32).sum

theorem length_writtenAll (hT : A.Tagged) (encryption : PacketEncryption)
    (ipPackets : List Bytes) :
    (writtenAll A isLittleEndian encryption ipPackets).flatten.length = wireSize ipPackets := by
  induction ipPackets generalizing encryption with
  | nil => rfl
  | cons ipPacket ipPackets ih =>
      rw [writtenAll_cons, List.flatten_cons, List.length_append, ih,
        packetNext_length isLittleEndian hT, wireSize, wireSize, List.map_cons, List.sum_cons]

theorem buildNonce_inj {encryption : PacketEncryption} {counter counter' : UInt64}
    (h : encryption.buildNonce isLittleEndian counter =
      encryption.buildNonce isLittleEndian counter') : counter = counter' := by
  unfold PacketEncryption.buildNonce at h
  have hcounter := (List.append_inj h
    ((getBytes64_length isLittleEndian _).trans (getBytes64_length isLittleEndian _).symm)).1
  cases isLittleEndian with
  | true => exact u64_toLE_inj hcounter
  | false => exact u64_toBE_inj hcounter

/-- Within the period of the counter no nonce comes twice. -/
theorem sealedAll_nonces_nodup (encryption : PacketEncryption) {ipPackets : List Bytes}
    (hlen : ipPackets.length ≤ 2 ^ 64) :
    ((sealedAll A isLittleEndian encryption ipPackets).map
      (·.take PacketEncryption.NONCE_SIZE)).Nodup := by
  rw [sealedAll_nonces]
  refine List.nodup_range.map_on fun i hi j hj hnonce => ?_
  have hcounter := (UInt64.add_right_inj _).mp (buildNonce_inj isLittleEndian hnonce)
  rw [List.mem_range] at hi hj
  have hnat := congrArg UInt64.toNat hcounter
  rwa [UInt64.toNat_ofNat', UInt64.toNat_ofNat', Nat.mod_eq_of_lt (by omega),
    Nat.mod_eq_of_lt (by omega)] at hnat

/-- What a reader reads of the stream of a run. -/
theorem Sent.read (hT : A.Tagged) {after : TunToServer} {ipPackets : List Bytes} {n : ℕ}
    {front : Bytes} (h : Sent A isLittleEndian encryption ipPackets self after n front)
    (hlen : ∀ ipPacket ∈ ipPackets, ipPacket.length + 32 < 2 ^ 31) {pieces : List Bytes}
    (hpieces : after.stream.output = self.stream.output ++ pieces.flatten) :
    (frames.reader.outputs [] pieces).flatten =
      sealedAll A isLittleEndian encryption (ipPackets.take n) := by
  have htake : writtenAll A isLittleEndian encryption (ipPackets.take n) =
      (writtenAll A isLittleEndian encryption ipPackets).take n := by
    rw [writtenAll, inTurn_take, List.map_take, writtenAll]
  have hstream : pieces.flatten =
      (writtenAll A isLittleEndian encryption (ipPackets.take n)).flatten ++ front := by
    rw [h.output, List.append_assoc] at hpieces
    exact (List.append_cancel_left hpieces).symm
  rcases h.front with rfl | ⟨next, hnext, hfront, hpart⟩
  · rw [List.append_nil] at hstream
    exact (Delimiter.read_whole (sealedAll_writes isLittleEndian hT encryption fun p hp =>
      hlen p (List.mem_of_mem_take hp)) hstream).1
  · -- the stream ends inside of the next packet
    obtain ⟨hlt, rfl⟩ := List.getElem?_eq_some_iff.mp hnext
    have hwrites := sealedAll_writes isLittleEndian hT encryption hlen
    rw [← List.take_append_drop n (writtenAll A isLittleEndian encryption ipPackets),
      List.drop_eq_getElem_cons hlt] at hwrites
    rw [htake] at hstream
    rw [(Delimiter.read_cut hwrites hfront hpart hstream).1,
      List.length_take_of_le (Nat.le_of_lt hlt)]
    unfold sealedAll
    rw [inTurn_take, List.map_take]

end Spec

/-- Nothing is cancelled. -/
def Undisturbed (passes : List Pass) : Prop :=
  ∀ pass ∈ passes, pass.received ≠ .canceled ∧ pass.canceledAt = none

/-- **The stream of sent packets.** Over any run of the task, whatever it takes from the device,
    however many bytes the socket takes and wherever a write is cancelled: a reader of the stream,
    however it is cut, reads the first packets that the task took, as many as it has counted, each
    opening to its packet and, up to 2^64 of them, under a nonce of its own. If nothing is cancelled
    and there is room, these are all of them. -/
theorem tun_stream_read {A : ChaCha20Poly1305} (hA : A.Inverts) (hT : A.Tagged)
    (isLittleEndian : Bool) {mtu : ℤ} (hmin : -2 ^ 31 ≤ mtu) (hmtu : mtu + 132 < 2 ^ 31)
    (encryption : PacketEncryption) (stream : NetworkStream) (passes : List Pass) :
    let after := tunToServerTask A isLittleEndian mtu ⟨some encryption, stream, 0, 0⟩ passes
    let ipPackets := passes.filterMap (packetOf (mtu + 100).toNat)
    ∃ n ≤ ipPackets.length,
      (∀ pieces, after.stream.output = stream.output ++ pieces.flatten →
        let messages := (frames.reader.outputs [] pieces).flatten
        messages.map (fun message =>
            PacketEncryption.opened A encryption.sessionKey (toBE 4 message.length ++ message)) =
          (ipPackets.take n).map some ∧
        (n ≤ 2 ^ 64 → (messages.map (·.take PacketEncryption.NONCE_SIZE)).Nodup)) ∧
      after.packetsSent = toInt n ∧
      after.bytesSent = toLong (wireSize (ipPackets.take n)) ∧
      (Undisturbed passes → wireSize ipPackets ≤ stream.room → n = ipPackets.length) := by
  intro after ipPackets
  have hint : toInt (mtu + 100) = mtu + 100 := toInt_eq (by omega) (by omega)
  have hbuffer : (mtu + 100).toNat + 32 < 2 ^ 31 := by omega
  have hlen : ∀ ipPacket ∈ ipPackets, ipPacket.length + 32 < 2 ^ 31 := by
    intro ipPacket hmem
    obtain ⟨pass, -, hpacket⟩ := List.mem_filterMap.mp hmem
    have hle := (packetOf_length hpacket).2
    omega
  have hrun : ∃ n front, Sent A isLittleEndian encryption ipPackets
      ⟨some encryption, stream, 0, 0⟩ after n front ∧ (Undisturbed passes →
        (writtenAll A isLittleEndian encryption ipPackets).flatten.length ≤ stream.room →
          n = ipPackets.length) := by
    by_cases hneg : mtu + 100 < 0
    · -- the buffer cannot be made, and there is no packet that would fit in
      have hafter : after = ⟨some encryption, stream, 0, 0⟩ := by
        show tunToServerTask _ _ _ _ _ = _
        rw [tunToServerTask, hint, newArray, if_pos hneg]
      have hnone : ipPackets = [] := by
        refine List.filterMap_eq_nil_iff.mpr fun pass _ => ?_
        cases hpacket : packetOf (mtu + 100).toNat pass with
        | none => rfl
        | some ipPacket =>
            obtain ⟨hpos, hle⟩ := packetOf_length hpacket
            omega
      rw [hafter, hnone]
      exact ⟨0, [], Sent.refl isLittleEndian [] _, fun _ _ => rfl⟩
    · have hafter : after = sendLoop A isLittleEndian (mtu + 100).toNat
          ⟨some encryption, stream, 0, 0⟩ passes := by
        show tunToServerTask _ _ _ _ _ = _
        rw [tunToServerTask, hint, newArray, if_neg hneg]
        dsimp only
        rw [List.length_replicate]
      rw [hafter]
      exact sendLoop_run isLittleEndian hT hbuffer passes rfl
  obtain ⟨n, front, hsent, hall⟩ := hrun
  have hzero : (0 : ℤ) = toInt 0 := rfl
  have hzero' : (0 : ℤ) = toLong 0 := rfl
  refine ⟨n, hsent.le, fun pieces hpieces => ?_, ?_, ?_, ?_⟩
  · intro messages
    have hmessages : messages = sealedAll A isLittleEndian encryption (ipPackets.take n) :=
      hsent.read isLittleEndian hT hlen hpieces
    rw [hmessages]
    refine ⟨sealedAll_opened isLittleEndian hA hT encryption fun p hp =>
      hlen p (List.mem_of_mem_take hp), fun hn => sealedAll_nonces_nodup isLittleEndian _ ?_⟩
    exact (List.length_take_le n ipPackets).trans hn
  · have hpackets := hsent.packetsSent 0 hzero
    rwa [zero_add] at hpackets
  · have hbytes := hsent.bytesSent 0 hzero'
    rwa [zero_add, length_writtenAll isLittleEndian hT] at hbytes
  · rwa [length_writtenAll isLittleEndian hT] at hall

/-! ## A full socket -/

section Sample

def senderState : PacketEncryption := ⟨⟨List.Vector.replicate 32 7⟩, 9, 0, 0⟩

/-- A stream whose socket takes one packet and a part of the next. -/
def shortStream : NetworkStream := ⟨[], by simp, false, [], 50⟩

/-- Two packets, and a pass between them that finds nothing. -/
def twoPackets : List Pass :=
  [⟨.packet [0x45, 0x00], none⟩, ⟨.nothing, none⟩, ⟨.packet [0x45, 0x01], none⟩]

def shortRun : TunToServer :=
  tunToServerTask sampleAead true 1420 ⟨some senderState, shortStream, 0, 0⟩ twoPackets

/-- The second packet is not counted and not read. -/
theorem tun_stream_read_sample :
    shortRun.packetsSent = 1 ∧ shortRun.stream.output.length = 50 ∧
      (frames.reader.outputs [] [shortRun.stream.output]).flatten.map (fun message =>
        PacketEncryption.opened sampleAead senderState.sessionKey
          (toBE 4 message.length ++ message)) = [some [0x45, 0x00]] := by
  have hcounted : shortRun.packetsSent = 1 ∧ shortRun.stream.output.length = 50 := by
    decide +kernel
  have htaken : twoPackets.filterMap (packetOf ((1420 : ℤ) + 100).toNat) =
      [[0x45, 0x00], [0x45, 0x01]] := by decide +kernel
  obtain ⟨n, hn, hread, hpackets, -, -⟩ := tun_stream_read sampleAead_inverts sampleAead_tagged true
    (by decide : -2 ^ 31 ≤ (1420 : ℤ)) (by decide) senderState shortStream twoPackets
  rw [htaken] at hn hread
  rw [← shortRun] at hread hpackets
  have hone : n = 1 := by
    have htwo : n ≤ 2 := hn
    rw [toInt_eq (by omega) (by omega)] at hpackets
    have hboth := hcounted.1.symm.trans hpackets
    omega
  subst hone
  refine ⟨hcounted.1, hcounted.2, (hread [shortRun.stream.output] ?_).1⟩
  rw [List.flatten_singleton]
  exact (List.nil_append _).symm

end Sample

end TunToServer

end Llp.CSharp
