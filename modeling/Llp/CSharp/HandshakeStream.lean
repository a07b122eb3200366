/-
  `PerformHandshakeAsync` of `client-csharp/LLPClient/VpnClient.cs`: the handshake on a stream.

  A `ReadAsync` gives what has arrived, up to the size of the buffer; `ReadExactAsync` calls it
  until its buffer is full or the stream ends. The length word is taken from the buffer whether
  it was filled or not.

  * `readExactAsync_cases`: what is read depends on the bytes, not on how they arrive.
  * `receiveMessage_eq_ok`, `receiveMessage_frame`: a message comes from its frame, of the exact
    length.
  * `exchange_keyed`: while the messages are exchanged, the keys stay as they were.
-/
import Llp.CSharp.Handshake
import Llp.CSharp.PacketEncryption
import Llp.Lib.Frames

namespace Llp.CSharp
open ByteCodec

/-- What the connection throws: an exception of the socket, or one of the client's code. -/
inductive StreamException where
  | io
  | thrown (e : Exception)
deriving DecidableEq

/-! ## The stream -/

/-- `NetworkStream`: the segments still to arrive, whether the end behind them is a reset of the
    connection, the bytes written, and how many more the socket takes. -/
structure NetworkStream where
  arrivals : List Bytes
  nonempty : ∀ segment ∈ arrivals, segment ≠ []
  reset : Bool
  output : Bytes
  room : ℕ

namespace NetworkStream

/-- What is left of the segments after a read. -/
def leave (size : ℕ) : List Bytes → List Bytes
  | [] => []
  | segment :: segments =>
      if segment.length ≤ size then segments else segment.drop size :: segments

theorem leave_nonempty (size : ℕ) {arrivals : List Bytes} (h : ∀ segment ∈ arrivals, segment ≠ []) :
    ∀ segment ∈ leave size arrivals, segment ≠ [] := by
  cases arrivals with
  | nil => exact h
  | cons segment segments =>
      have hrest : ∀ s ∈ segments, s ≠ [] := fun s hs => h s (List.mem_cons_of_mem segment hs)
      by_cases hshort : segment.length ≤ size
      · rw [leave, if_pos hshort]
        exact hrest
      · rw [leave, if_neg hshort]
        refine List.forall_mem_cons.mpr ⟨?_, hrest⟩
        intro hempty
        exact hshort (List.drop_eq_nil_iff.mp hempty)

/-- `ReadAsync`, into `size` bytes of a buffer. At the end of the stream it gives nothing. -/
def readAsync (size : ℕ) : Method NetworkStream StreamException Bytes := do
  let self ← get
  set { self with
    arrivals := leave size self.arrivals
    nonempty := leave_nonempty size self.nonempty }
  Method.failIf (self.arrivals = [] ∧ self.reset = true) .io
  pure ((self.arrivals.headD []).take size)

/-- The loop of `ReadExactAsync`. A read that is not the last gives a byte at least, so there are
    at most as many as there is room in the buffer. -/
def readExactLoop (size : ℕ) : ℕ → Bytes → Method NetworkStream StreamException Bytes
  | 0, read => pure read
  | passes + 1, read =>
      if read.length < size then do
        let bytes ← readAsync (size - read.length)
        if bytes.length = 0 then pure read else readExactLoop size passes (read ++ bytes)
      else pure read

/-- `ReadExactAsync`, into a new buffer: the buffer, and how much of it was read. -/
def readExactAsync (size : ℕ) : Method NetworkStream StreamException (Bytes × ℕ) := do
  let read ← readExactLoop size size []
  pure (read ++ List.replicate (size - read.length) 0, read.length)

/-- `WriteAsync`. -/
def writeAsync (bytes : Bytes) : Method NetworkStream StreamException Unit := do
  let self ← get
  set { self with output := self.output ++ bytes.take self.room, room := self.room - bytes.length }
  Method.failIf (self.room < bytes.length) .io

section Messages

variable (isLittleEndian : Bool)

/-- A message behind its length. -/
def sendMessage (message : Bytes) : Method NetworkStream StreamException Unit := do
  let lengthBytes := reverseIfLittleEndian isLittleEndian
    (getBytes32 isLittleEndian (UInt32.ofNat message.length))
  writeAsync lengthBytes
  writeAsync message

/-- A message of the given size. What `ReadExactAsync` returns for the length is not looked at. -/
def receiveMessage (name : String) (size : ℕ) : Method NetworkStream StreamException Bytes := do
  let (lengthBuf, _) ← readExactAsync 4
  let messageLength := toUInt32 isLittleEndian (reverseIfLittleEndian isLittleEndian lengthBuf)
  Method.failIf (messageLength.toNat ≠ size)
    (.thrown (.other s!"Unexpected {name} length: {messageLength} != {size}"))
  let (buffer, bytesRead) ← readExactAsync size
  Method.failIf (bytesRead < size)
    (.thrown (.other s!"Incomplete {name}: {bytesRead} < {size}"))
  pure buffer

end Messages

/-! ### What is read -/

/-- The bytes still to be read. -/
def unread (self : NetworkStream) : Bytes := self.arrivals.flatten

/-- A stream after reads that have left `rest`. -/
structure ReadTo (before : NetworkStream) (rest : Bytes) (after : NetworkStream) : Prop where
  unread : after.unread = rest
  reset : after.reset = before.reset
  output : after.output = before.output
  room : after.room = before.room

theorem ReadTo.trans {s t u : NetworkStream} {rest rest' : Bytes} (h : ReadTo s rest t)
    (h' : ReadTo t rest' u) : ReadTo s rest' u :=
  ⟨h'.unread, h'.reset.trans h.reset, h'.output.trans h.output, h'.room.trans h.room⟩

/-- A read takes some bytes off the front, or finds the end. -/
theorem readAsync_cases {size : ℕ} (hsize : 0 < size) (self : NetworkStream) :
    (∃ bytes rest self', readAsync size self = .ok bytes self' ∧ bytes ≠ [] ∧
      bytes.length ≤ size ∧ self.unread = bytes ++ rest ∧ ReadTo self rest self') ∨
    self.unread = [] ∧
      (readAsync size self = .ok [] self ∨ ∃ self', readAsync size self = .error (.err .io) self') := by
  obtain ⟨arrivals, hnonempty, reset, output, room⟩ := self
  unfold readAsync
  rw [Method.get_bind, Method.set_bind]
  cases arrivals with
  | nil =>
      refine .inr ⟨rfl, ?_⟩
      cases reset with
      | true => exact .inr ⟨_, rfl⟩
      | false =>
          refine .inl ?_
          rw [Method.bind_ok (Method.failIf_neg _ (fun h => Bool.false_ne_true h.2) _)]
          exact congrArg (EStateM.Result.ok · _) List.take_nil
  | cons segment segments =>
      have hsegment : segment ≠ [] := hnonempty segment List.mem_cons_self
      let left : NetworkStream := ⟨leave size (segment :: segments),
        leave_nonempty size hnonempty, reset, output, room⟩
      refine .inl ⟨segment.take size, left.unread, left, ?_, ?_, List.length_take_le _ _, ?_,
        ⟨rfl, rfl, rfl, rfl⟩⟩
      · rw [Method.bind_ok (Method.failIf_neg _ (fun h => List.cons_ne_nil _ _ h.1) _)]
        rfl
      · intro hempty
        rcases List.take_eq_nil_iff.mp hempty with hzero | hnil
        · omega
        · exact hsegment hnil
      · show segment ++ segments.flatten =
          segment.take size ++ (leave size (segment :: segments)).flatten
        by_cases hshort : segment.length ≤ size
        · rw [leave, if_pos hshort, List.take_of_length_le hshort]
        · rw [leave, if_neg hshort, List.flatten_cons, ← List.append_assoc, List.take_append_drop]

/-- The loop fills the buffer, or comes to the end of the stream before that. -/
theorem readExactLoop_cases {size : ℕ} (passes : ℕ) (read : Bytes) (self : NetworkStream)
    (hread : read.length ≤ size) (hpasses : size ≤ read.length + passes) :
    (∃ bytes rest self', readExactLoop size passes read self = .ok (read ++ bytes) self' ∧
      self.unread = bytes ++ rest ∧ ReadTo self rest self' ∧
      ((read ++ bytes).length = size ∨ (read ++ bytes).length < size ∧ rest = [])) ∨
    (∃ self', readExactLoop size passes read self = .error (.err .io) self') ∧
      (read ++ self.unread).length < size := by
  induction passes generalizing read self with
  | zero =>
      refine .inl ⟨[], self.unread, self, ?_, rfl, ⟨rfl, rfl, rfl, rfl⟩, .inl ?_⟩
      · rw [List.append_nil]
        rfl
      · rw [List.append_nil]
        omega
  | succ passes ih =>
      unfold readExactLoop
      by_cases hfull : read.length < size
      · rw [if_pos hfull]
        rcases readAsync_cases (by omega : 0 < size - read.length) self with
          ⟨bytes, rest, self', hok, hne, hle, hunread, hto⟩ | ⟨hend, hok | ⟨self', herror⟩⟩
        · have hpos : 0 < bytes.length := List.length_pos_iff.mpr hne
          have hsome : ¬ bytes.length = 0 := by omega
          rw [Method.bind_ok hok, if_neg hsome]
          have hlength : (read ++ bytes).length = read.length + bytes.length :=
            List.length_append
          rcases ih (read ++ bytes) self' (by omega) (by omega) with
            ⟨bytes', rest', self'', hok', hunread', hto', hlen⟩ | ⟨herror, hshort⟩
          · rw [hto.unread] at hunread'
            refine .inl ⟨bytes ++ bytes', rest', self'', ?_, ?_, hto.trans hto', ?_⟩
            · rw [hok', List.append_assoc]
            · rw [hunread, hunread', List.append_assoc]
            · rwa [← List.append_assoc]
          · rw [hto.unread, List.append_assoc, ← hunread] at hshort
            exact .inr ⟨herror, hshort⟩
        · refine .inl ⟨[], [], self, ?_, hend, ⟨hend, rfl, rfl, rfl⟩, .inr ⟨?_, rfl⟩⟩
          · rw [Method.bind_ok hok, List.append_nil]
            rfl
          · rwa [List.append_nil]
        · refine .inr ⟨⟨self', Method.bind_error herror⟩, ?_⟩
          rwa [hend, List.append_nil]
      · rw [if_neg hfull]
        refine .inl ⟨[], self.unread, self, ?_, rfl, ⟨rfl, rfl, rfl, rfl⟩, .inl ?_⟩
        · rw [List.append_nil]
          rfl
        · rw [List.append_nil]
          omega

theorem readExactAsync_cases (size : ℕ) (self : NetworkStream) :
    (∃ bytes rest self', readExactAsync size self =
        .ok (bytes ++ List.replicate (size - bytes.length) 0, bytes.length) self' ∧
      self.unread = bytes ++ rest ∧ ReadTo self rest self' ∧
      (bytes.length = size ∨ bytes.length < size ∧ rest = [])) ∨
    (∃ self', readExactAsync size self = .error (.err .io) self') ∧ self.unread.length < size := by
  unfold readExactAsync
  rcases readExactLoop_cases size [] self (Nat.zero_le size) (by simp) with
    ⟨bytes, rest, self', hok, hunread, hto, hlen⟩ | ⟨⟨self', herror⟩, hshort⟩
  · rw [List.nil_append] at hok hlen
    refine .inl ⟨bytes, rest, self', ?_, hunread, hto, hlen⟩
    rw [Method.bind_ok hok, Method.pure_apply]
  · exact .inr ⟨⟨self', Method.bind_error herror⟩, hshort⟩

/-- Where there is enough to read, the buffer is filled. -/
theorem readExactAsync_ok {size : ℕ} {bytes rest : Bytes} {self : NetworkStream}
    (hunread : self.unread = bytes ++ rest) (hlen : bytes.length = size) :
    ∃ self', readExactAsync size self = .ok (bytes, size) self' ∧ ReadTo self rest self' := by
  have hlong : size ≤ self.unread.length := by
    rw [hunread, List.length_append]
    omega
  rcases readExactAsync_cases size self with
    ⟨bytes', rest', self', hok, hunread', hto, hfull | ⟨hshort, hrest⟩⟩ | ⟨-, hshort⟩
  · obtain ⟨rfl, rfl⟩ := List.append_inj (hunread'.symm.trans hunread) (hfull.trans hlen.symm)
    rw [hlen, Nat.sub_self, List.replicate_zero, List.append_nil] at hok
    exact ⟨self', hok, hto⟩
  · rw [hunread', hrest, List.append_nil] at hlong
    omega
  · omega

/-! ### Messages -/

theorem writeAsync_iff {bytes : Bytes} {self self' : NetworkStream} :
    writeAsync bytes self = .ok () self' ↔
      bytes.length ≤ self.room ∧
        self' = { self with output := self.output ++ bytes, room := self.room - bytes.length } := by
  unfold writeAsync
  rw [Method.get_bind, Method.set_bind, Method.failIf_iff, Nat.not_lt]
  refine and_congr_right fun hle => ?_
  rw [List.take_of_length_le hle]

section Frames

variable (isLittleEndian : Bool)

/-- A message is sent where there is room for it and its length. -/
theorem sendMessage_iff {message : Bytes} {self self' : NetworkStream} :
    sendMessage isLittleEndian message self = .ok () self' ↔
      (frame message).length ≤ self.room ∧
        self' = { self with
          output := self.output ++ frame message
          room := self.room - (frame message).length } := by
  have hlen : (frame message).length =
      (toBE 4 (UInt32.ofNat message.length).toNat).length + message.length := List.length_append
  unfold sendMessage
  rw [reverse_getBytes32]
  constructor
  · intro h
    obtain ⟨_, t, hword, hbody⟩ := Method.bind_eq_ok h
    obtain ⟨hroom, rfl⟩ := writeAsync_iff.mp hword
    obtain ⟨hroom', rfl⟩ := writeAsync_iff.mp hbody
    simp only at hroom'
    refine ⟨by omega, ?_⟩
    rw [frame, List.append_assoc, List.length_append, Nat.sub_sub]
  · rintro ⟨hroom, rfl⟩
    refine (Method.bind_ok (writeAsync_iff.mpr ⟨by omega, rfl⟩)).trans ?_
    refine writeAsync_iff.mpr ⟨by simp only; omega, ?_⟩
    rw [frame, List.append_assoc, List.length_append, Nat.sub_sub]

variable {name : String} {size : ℕ} {message rest : Bytes} {self self' : NetworkStream}

/-- A message of the size is read from its frame. -/
theorem receiveMessage_frame (hsize : message.length = size) (hword : size < 2 ^ 32)
    (hunread : self.unread = frame message ++ rest) : ∃ self',
      receiveMessage isLittleEndian name size self = .ok message self' ∧
        ReadTo self rest self' := by
  rw [frame, List.append_assoc] at hunread
  obtain ⟨t, hlength, hto⟩ := readExactAsync_ok hunread (toBE_length 4 _)
  obtain ⟨u, hmessage, hto'⟩ := readExactAsync_ok hto.unread hsize
  have hlengthWord : toUInt32 isLittleEndian (reverseIfLittleEndian isLittleEndian
      (toBE 4 (UInt32.ofNat message.length).toNat)) = UInt32.ofNat message.length := by
    rw [toUInt32_reverse, ofBE_toBE 4 _ (u32_lt _), UInt32.ofNat_toNat]
  have hstated : (UInt32.ofNat message.length).toNat = size :=
    (UInt32.toNat_ofNat_of_lt (hsize.trans_lt hword)).trans hsize
  refine ⟨u, ?_, hto.trans hto'⟩
  unfold receiveMessage
  rw [Method.bind_ok hlength]
  dsimp only
  rw [hlengthWord, Method.bind_ok (Method.failIf_neg _ (not_not.mpr hstated) _),
    Method.bind_ok hmessage]
  dsimp only
  rw [Method.bind_ok (Method.failIf_neg _ (Nat.lt_irrefl size) _), Method.pure_apply]

/-- Nothing else is taken for a message. -/
theorem receiveMessage_eq_ok (hpos : 0 < size)
    (h : receiveMessage isLittleEndian name size self = .ok message self') :
    message.length = size ∧ ∃ rest, self.unread = frame message ++ rest ∧
      ReadTo self rest self' := by
  unfold receiveMessage at h
  obtain ⟨⟨lengthBuf, _⟩, t, hlength, hafter⟩ := Method.bind_eq_ok h
  obtain ⟨hstated, hmessage⟩ := Method.failIf_bind_eq_ok hafter
  obtain ⟨⟨buffer, bytesRead⟩, u, hbody, hcheck⟩ := Method.bind_eq_ok hmessage
  obtain ⟨hwhole, hpure⟩ := Method.failIf_bind_eq_ok hcheck
  cases hpure
  have hbodyRead : message.length = size ∧ ∃ rest, t.unread = message ++ rest ∧
      ReadTo t rest self' := by
    rcases readExactAsync_cases size t with
      ⟨bytes, rest, u, hok, hunread, hto, hfull | ⟨hshort, -⟩⟩ | ⟨⟨u, herror⟩, -⟩
    · obtain ⟨hout, rfl⟩ := EStateM.Result.ok.inj (hok.symm.trans hbody)
      obtain ⟨rfl, -⟩ := Prod.mk.inj hout
      rw [hfull, Nat.sub_self, List.replicate_zero, List.append_nil]
      exact ⟨hfull, rest, hunread, hto⟩
    · obtain ⟨hout, rfl⟩ := EStateM.Result.ok.inj (hok.symm.trans hbody)
      obtain ⟨-, rfl⟩ := Prod.mk.inj hout
      exact absurd hshort hwhole
    · rw [herror] at hbody
      cases hbody
  obtain ⟨hfull, rest, hunread, hto⟩ := hbodyRead
  rcases readExactAsync_cases 4 self with
    ⟨word, rest', t', hok, hunread', hto', hfour | ⟨-, hrest⟩⟩ | ⟨⟨t', herror⟩, -⟩
  · obtain ⟨hout, rfl⟩ := EStateM.Result.ok.inj (hok.symm.trans hlength)
    obtain ⟨rfl, -⟩ := Prod.mk.inj hout
    refine ⟨hfull, rest, ?_, hto'.trans hto⟩
    rw [hfour, Nat.sub_self, List.replicate_zero, List.append_nil] at hstated
    simp only [toUInt32_reverse, not_not] at hstated
    have hword := toBE_ofBE word
    have hlt := ofBE_lt word
    rw [hfour] at hword hlt
    have hvalue : (UInt32.ofNat (ofBE word)).toNat = ofBE word := UInt32.toNat_ofNat_of_lt hlt
    rw [hvalue] at hstated
    rw [hunread', ← hto'.unread, hunread, frame, hfull, ← hstated, hvalue, hword,
      List.append_assoc]
  · -- behind a length that is cut short there is no message
    obtain ⟨-, rfl⟩ := EStateM.Result.ok.inj (hok.symm.trans hlength)
    rw [hto'.unread, hrest] at hunread
    have hnil := (List.append_eq_nil_iff.mp hunread.symm).1
    rw [hnil, List.length_nil] at hfull
    omega
  · rw [herror] at hlength
    cases hlength

end Frames

end NetworkStream

/-! ## The client -/

/-- `VpnClient`: what the handshake uses of it. -/
structure ConnectingClient where
  mimicryProfile : String
  stream : Option NetworkStream
  sessionKey : Option Bytes
  sessionId : Option UInt64
  encryption : Option PacketEncryption

namespace ConnectingClient

/-- The profile of the configuration. -/
def profileOf (name : String) : MimicryProfile :=
  match name with
  | "vk_video" => .vkVideo
  | "yandex_music" => .yandexMusic
  | "rutube" => .ruTube
  | "none" => .none
  | _ => .vkVideo

section Parts

variable {α : Type}

/-- Call the stream. -/
def onStream (stream : NetworkStream) (m : Method NetworkStream StreamException α) :
    Method ConnectingClient StreamException α :=
  Method.focus (fun self => self.stream.getD stream)
    (fun stream self => { self with stream := some stream }) m

/-- Call the handshake, a local of the method. -/
def onHandshake (handshake : ClientHandshake) (m : Method ClientHandshake Exception α) :
    Method ConnectingClient StreamException (α × ClientHandshake) :=
  Method.mapError .thrown (Method.onLocal handshake m)

variable {stream stream' t : NetworkStream} {handshake handshake' : ClientHandshake}
  {client client' : ConnectingClient} {a : α}

theorem onStream_ok {m : Method NetworkStream StreamException α} (h : m t = .ok a stream')
    (hstream : client.stream = some t) :
    onStream stream m client = .ok a { client with stream := some stream' } := by
  refine Method.focus_ok ?_
  rw [hstream]
  exact h

theorem onStream_eq_ok {m : Method NetworkStream StreamException α}
    (h : onStream stream m client = .ok a client') (hstream : client.stream = some t) :
    ∃ stream', m t = .ok a stream' ∧ client' = { client with stream := some stream' } := by
  have hfocus := Method.focus_eq_ok h
  rwa [hstream] at hfocus

theorem onHandshake_ok {m : Method ClientHandshake Exception α}
    (h : m handshake = .ok a handshake') (client : ConnectingClient) :
    onHandshake handshake m client = .ok (a, handshake') client :=
  Method.mapError_ok (Method.onLocal_ok h client)

theorem onHandshake_eq_ok {m : Method ClientHandshake Exception α}
    (h : onHandshake handshake m client = .ok (a, handshake') client') :
    m handshake = .ok a handshake' ∧ client = client' :=
  Method.onLocal_eq_ok (Method.mapError_eq_ok h)

end Parts

section Calls

variable (P : Primitives) (B : BouncyCastle) (isLittleEndian : Bool) (toLower : String → String)

/-- The four messages of `PerformHandshakeAsync`. `ToLower` goes by the culture of the client. -/
def exchange (privateKey clientRandom : Arr 32) :
    Method ConnectingClient StreamException ClientHandshake := do
  let self ← get
  let stream ← Method.okOr (.thrown (.invalidOperation "Not connected")) self.stream
  let handshake := ClientHandshake.new P privateKey (profileOf (toLower self.mimicryProfile))
  let (clientHello, handshake) ← onHandshake handshake
    (ClientHandshake.start isLittleEndian clientRandom)
  onStream stream (NetworkStream.sendMessage isLittleEndian clientHello)
  let serverHello ← onStream stream
    (NetworkStream.receiveMessage isLittleEndian "SERVER_HELLO" ServerHello.MESSAGE_SIZE)
  let (sessionId, handshake) ← onHandshake handshake
    (ClientHandshake.processServerHello P B isLittleEndian serverHello)
  modify fun self => { self with sessionId := some sessionId }
  let (clientVerify, handshake) ← onHandshake handshake
    (ClientHandshake.sendClientVerify P isLittleEndian)
  onStream stream (NetworkStream.sendMessage isLittleEndian clientVerify)
  let serverVerify ← onStream stream
    (NetworkStream.receiveMessage isLittleEndian "SERVER_VERIFY" ServerVerify.MESSAGE_SIZE)
  let (_, handshake) ← onHandshake handshake
    (ClientHandshake.processServerVerify P isLittleEndian serverVerify)
  pure handshake

/-- `PerformHandshakeAsync`: the messages, and the keys behind them. -/
def performHandshake (privateKey clientRandom : Arr 32) :
    Method ConnectingClient StreamException Unit := do
  let handshake ← exchange P B isLittleEndian toLower privateKey clientRandom
  modify fun self => { self with sessionKey := handshake.sessionKey }
  let self ← get
  match self.sessionKey, self.sessionId with
  | some sessionKey, some sessionId =>
      let encryption ← Method.mapError .thrown
        (Method.lift (PacketEncryption.new sessionKey sessionId))
      modify fun self => { self with encryption := some encryption }
  | _, _ => pure ()

end Calls

section Keys

variable {key : Option Bytes} {encryption : Option PacketEncryption}

/-- The keys are as given. -/
def Keyed (key : Option Bytes) (encryption : Option PacketEncryption) (self : ConnectingClient) :
    Prop :=
  self.sessionKey = key ∧ self.encryption = encryption

theorem onStream_keyed {α : Type} (stream : NetworkStream)
    (m : Method NetworkStream StreamException α) :
    Method.Keeps (Keyed key encryption) (onStream stream m) :=
  Method.Keeps.focus fun _ h => h

theorem onHandshake_keyed {α : Type} (handshake : ClientHandshake)
    (m : Method ClientHandshake Exception α) :
    Method.Keeps (Keyed key encryption) (onHandshake handshake m) :=
  (Method.Keeps.onLocal _ _).mapError

/-- The messages leave the keys alone. -/
theorem exchange_keyed (P : Primitives) (B : BouncyCastle) (isLittleEndian : Bool)
    (toLower : String → String) (privateKey clientRandom : Arr 32) :
    Method.Keeps (Keyed key encryption)
      (exchange P B isLittleEndian toLower privateKey clientRandom) := by
  have hstore : ∀ sessionId, Method.Keeps (Keyed key encryption)
      (modify fun self => { self with sessionId := some sessionId } :
        Method ConnectingClient StreamException Unit) := fun _ => Method.Keeps.modify fun _ h => h
  refine Method.Keeps.get.bind fun self => ?_
  refine (Method.Keeps.okOr _ _).bind fun stream => ?_
  refine (onHandshake_keyed _ _).bind fun hello => ?_
  refine (onStream_keyed stream _).bind fun _ => ?_
  refine (onStream_keyed stream _).bind fun serverHello => ?_
  refine (onHandshake_keyed _ _).bind fun greeted => ?_
  refine (hstore greeted.1).bind fun _ => ?_
  refine (onHandshake_keyed _ _).bind fun verify => ?_
  refine (onStream_keyed stream _).bind fun _ => ?_
  refine (onStream_keyed stream _).bind fun serverVerify => ?_
  exact (onHandshake_keyed _ _).bind fun _ => Method.Keeps.pure _

end Keys

end ConnectingClient

end Llp.CSharp
