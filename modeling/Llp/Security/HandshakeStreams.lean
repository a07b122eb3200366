/-
  The handshakes of the C# client and of the Rust client on the same stream.

  The two read the frames of the server by their own rules: the Rust client takes a message of any
  length up to a limit, the C# client one of the exact length. The C# client refuses the all-zero
  secret.

  * `exchange_served`, `exchange_eq_ok`: when the C# client completes.
  * `handshake_streams_agree`: where it does, the Rust client on the same bytes ends with the same
    session id, key, bytes written and bytes left, in whatever segments the bytes arrive.
-/
import Llp.Client.Reconnect
import Llp.CSharp.HandshakeStream
import Llp.Security.HandshakeSimulation

namespace Llp.Security
open ByteCodec
open Client (Attempt ClientConfig TcpStream)
open Client.Connection (expectedVerify llpStep_ok readMessage readMessage_iff writeMessage
  writeMessage_iff)
open CSharp (BouncyCastle ConnectingClient NetworkStream StreamException)

/-! ## The Rust client -/

section Rust

variable {P : Primitives} {config : ClientConfig} {attempt : Attempt} {p : MimicryProfile}

/-- The CLIENT_HELLO of an attempt. -/
def attemptHello (P : Primitives) (attempt : Attempt) (p : MimicryProfile) : ClientHello :=
  ClientHello.new attempt.clientRandom (X25519Key.generate P attempt.secret) p

/-- The key of an attempt with the given SERVER_HELLO. -/
def attemptKey (P : Primitives) (attempt : Attempt) (p : MimicryProfile) (sh : ServerHello) :
    SessionKey :=
  deriveSessionKey P (P.diffieHellman attempt.secret sh.serverPublicKey)
    (sessionSalt (attemptHello P attempt p) sh) HKDF_INFO

/-- What the client writes. -/
def attemptOutput (P : Primitives) (attempt : Attempt) (p : MimicryProfile) (sh : ServerHello) :
    Bytes :=
  let ch := attemptHello P attempt p
  frame ch.serialize ++ frame
    (ClientVerify.new P (attemptKey P attempt p sh) (ch.serialize ++ sh.serialize)).serialize

/-- The server's messages in frames of their own lengths. -/
def serverFrames (P : Primitives) (attempt : Attempt) (p : MimicryProfile) (sh : ServerHello) :
    Bytes :=
  frame sh.serialize ++
    frame (expectedVerify P attempt p sh).serialize

theorem helloFrame_length :
    (frame (attemptHello P attempt p).serialize).length = 71 := by
  rw [length_frame, ClientHello.serialize_length]

theorem verifyFrame_length (m : ClientVerify) :
    (frame m.serialize).length = 37 := by
  rw [length_frame, ClientVerify.serialize, serializeVerify_length]

theorem writeMessage_frame {message output input : Bytes} {room k : ℕ}
    (hlen : (frame message).length = k) (hroom : k ≤ room) :
    writeMessage message ⟨input, output, room⟩ =
      .ok () ⟨input, output ++ frame message, room - k⟩ := by
  subst hlen
  exact writeMessage_iff.mpr ⟨hroom, rfl⟩

theorem readMessage_frame {limit : ℕ} (hlimit : limit < 2 ^ 32) (tooLarge : String)
    {message rest : Bytes} (hlen : message.length ≤ limit) (output : Bytes) (room : ℕ) :
    readMessage limit tooLarge ⟨frame message ++ rest, output, room⟩ =
      .ok message ⟨rest, output, room⟩ :=
  (readMessage_iff hlimit).mpr ⟨rest, rfl, hlen, rfl⟩

/-- The Rust client with a server that answers in such frames. -/
theorem handshake_frames (hconfig : config.parseMimicryProfile = .ok p) {sh : ServerHello}
    {rest output : Bytes} {room : ℕ} (hroom : 108 ≤ room) :
    Client.Connection.handshake P config attempt
        ⟨serverFrames P attempt p sh ++ rest, output, room⟩ =
      .ok (sh.sessionId, p, attemptKey P attempt p sh)
        ⟨rest, output ++ attemptOutput P attempt p sh, room - 108⟩ := by
  have hshOk := (ServerHello.deserialize_iff sh.serialize sh).mpr (List.prefix_refl _)
  have hvOk := (ServerVerify.deserialize_iff (expectedVerify P attempt p sh).serialize _).mpr
    (List.prefix_refl _)
  have hshLen : sh.serialize.length ≤ 4096 := by
    rw [sh.serialize_length]
    omega
  have hvLen : (expectedVerify P attempt p sh).serialize.length ≤ 1024 := by
    rw [ServerVerify.serialize, serializeVerify_length]
    omega
  have hparse : ∀ stream : TcpStream,
      (Method.lift config.parseMimicryProfile : Method TcpStream BoxError _) stream =
        .ok p stream := fun stream => by rw [hconfig, Method.lift_ok]
  have hsum : room - 71 - 37 = room - 108 := by omega
  rw [serverFrames, attemptOutput, List.append_assoc, ← List.append_assoc output, ← hsum]
  unfold Client.Connection.handshake
  rw [Method.bind_ok (hparse _)]
  dsimp only
  -- CLIENT_HELLO and SERVER_HELLO
  rw [Method.bind_ok (llpStep_ok (ClientHandshake.start_run attempt.clientRandom rfl) _)]
  dsimp only
  refine (Method.bind_ok (writeMessage_frame helloFrame_length (by omega))).trans ?_
  rw [Method.bind_ok (readMessage_frame (by decide) _ hshLen _ _)]
  rw [Method.bind_ok (llpStep_ok (ClientHandshake.processServerHello_run rfl rfl hshOk) _)]
  dsimp only
  -- CLIENT_VERIFY and SERVER_VERIFY
  rw [Method.bind_ok (llpStep_ok (ClientHandshake.sendClientVerify_run rfl rfl rfl rfl) _)]
  dsimp only
  refine (Method.bind_ok (writeMessage_frame (verifyFrame_length _) (by omega))).trans ?_
  rw [Method.bind_ok (readMessage_frame (by decide) _ hvLen _ _)]
  rw [Method.bind_ok (llpStep_ok (ClientHandshake.processServerVerify_run rfl rfl rfl rfl hvOk) _)]
  rfl

end Rust

/-! ## The C# client -/

section CSharp

variable {P : Primitives} {B : BouncyCastle} (isLittleEndian : Bool) {attempt : Attempt}
  {p : MimicryProfile} {profile : CSharp.MimicryProfile} {sh : ServerHello} {data : Bytes}

/-- The C# client once it has sent the CLIENT_HELLO of an attempt. -/
def attemptGreeted (P : Primitives) (attempt : Attempt) (p : MimicryProfile)
    (profile : CSharp.MimicryProfile) : CSharp.ClientHandshake :=
  csharpGreeted P attempt.secret profile (attemptHello P attempt p)

/-- The C# client once it has read a SERVER_HELLO. -/
def attemptAt (P : Primitives) (attempt : Attempt) (p : MimicryProfile)
    (profile : CSharp.MimicryProfile) (sh : ServerHello) : CSharp.ClientHandshake :=
  csharpAt P attempt.secret profile (attemptHello P attempt p) sh (attemptKey P attempt p sh)

theorem processServerHello_attempt (hcastle : B.Implements P)
    (hshared : P.diffieHellman attempt.secret sh.serverPublicKey ≠ List.Vector.replicate 32 0) :
    CSharp.ClientHandshake.processServerHello P B isLittleEndian sh.serialize
        (attemptGreeted P attempt p profile) =
      .ok sh.sessionId (attemptAt P attempt p profile sh) := by
  have hdata := csharpServerHello_deserialize isLittleEndian sh []
  rw [List.append_nil] at hdata
  have hagreement : P.diffieHellman (attemptGreeted P attempt p profile).privateKey
      sh.serverPublicKey ≠ List.Vector.replicate 32 0 := hshared
  exact CSharp.ClientHandshake.processServerHello_run isLittleEndian hcastle rfl
    (attemptHello P attempt p).clientRandom.toList_length hdata sh.serverRandom.toList_length rfl
    hagreement

/-- It takes a SERVER_HELLO with which the secret is not all zero. -/
theorem processServerHello_attempt_eq_ok (hcastle : B.Implements P) {sessionId : UInt64}
    {c : CSharp.ClientHandshake}
    (hlen : data.length = 73)
    (h : CSharp.ClientHandshake.processServerHello P B isLittleEndian data
      (attemptGreeted P attempt p profile) = .ok sessionId c) :
    ∃ sh : ServerHello, data = sh.serialize ∧
      P.diffieHellman attempt.secret sh.serverPublicKey ≠ List.Vector.replicate 32 0 := by
  rcases serverHello_read isLittleEndian data with ⟨sh, hrust, hcsharp⟩ | ⟨-, e, herror⟩
  · have hread : sh.serialize <+: data := (ServerHello.deserialize_iff data sh).mp hrust
    have hwhole : sh.serialize = data :=
      hread.eq_of_length (by rw [hlen, sh.serialize_length])
    refine ⟨sh, hwhole.symm, fun hzero => ?_⟩
    have hagreement : P.diffieHellman (attemptGreeted P attempt p profile).privateKey
        sh.serverPublicKey = List.Vector.replicate 32 0 := hzero
    obtain ⟨e, hthrows⟩ := CSharp.ClientHandshake.processServerHello_zero isLittleEndian hcastle rfl
      hcsharp rfl hagreement
    rw [hthrows] at h
    cases h
  · have hthrows : ∃ e', CSharp.ClientHandshake.processServerHello P B isLittleEndian data
        (attemptGreeted P attempt p profile) = .error e' (attemptGreeted P attempt p profile) :=
      CSharp.ClientHandshake.processServerHello_refuses isLittleEndian (Or.inr ⟨e, herror⟩)
    obtain ⟨e', he'⟩ := hthrows
    rw [he'] at h
    cases h

/-- It takes the SERVER_VERIFY of its key and of the hellos it has. -/
theorem processServerVerify_attempt_eq_ok {c : CSharp.ClientHandshake}
    (hprofile : p.toU16 = profile.value) (hlen : data.length = 33)
    (h : CSharp.ClientHandshake.processServerVerify P isLittleEndian data
      (attemptAt P attempt p profile sh) = .ok () c) :
    data = (expectedVerify P attempt p sh).serialize := by
  rcases CSharp.ClientHandshake.processServerVerify_cases (P := P) isLittleEndian data
    (attemptAt P attempt p profile sh) with
    ⟨key, transcript, m, hkey, htranscript, hm, htag, -⟩ | ⟨e, hthrows⟩
  · obtain ⟨v, hv, rfl⟩ := serverVerify_read hm
    have hread : v.serialize <+: data := (ServerVerify.deserialize_iff data v).mp hv
    have hprofile' : (attemptHello P attempt p).mimicryProfile.toU16 = profile.value := hprofile
    have hbuilt := csharp_buildTranscript isLittleEndian hprofile' sh
    obtain rfl := Option.some.inj hkey
    obtain rfl := Except.ok.inj (hbuilt.symm.trans htranscript)
    have hsame : v = expectedVerify P attempt p sh :=
      congrArg ServerVerify.mk (Subtype.ext htag).symm
    rw [← hsame]
    refine (hread.eq_of_length ?_).symm
    rw [hlen, ServerVerify.serialize, serializeVerify_length]
  · rw [hthrows] at h
    cases h

/-- The stream as the Rust client would have it. -/
def tcp (stream : NetworkStream) : TcpStream := ⟨stream.unread, stream.output, stream.room⟩

/-- A server that the C# client completes with: the socket takes both messages of the client, the
    server answers in frames of the exact lengths, and the secret is not all zero. -/
structure ServedExactly (P : Primitives) (attempt : Attempt) (p : MimicryProfile)
    (stream : NetworkStream) (sh : ServerHello) (rest : Bytes) : Prop where
  room : 108 ≤ stream.room
  unread : stream.unread = serverFrames P attempt p sh ++ rest
  secret : P.diffieHellman attempt.secret sh.serverPublicKey ≠ List.Vector.replicate 32 0

variable {toLower : String → String} {client client' : ConnectingClient}
  {stream : NetworkStream} {rest : Bytes}

theorem sendMessage_tcp {message input output : Bytes} {k room : ℕ}
    (hlen : (frame message).length = k) (hroom : k ≤ room)
    (htcp : tcp stream = ⟨input, output, room⟩) : ∃ stream',
      NetworkStream.sendMessage isLittleEndian message stream = .ok () stream' ∧
        tcp stream' = ⟨input, output ++ frame message, room - k⟩ := by
  obtain ⟨rfl, rfl, rfl⟩ := TcpStream.mk.inj htcp
  subst hlen
  exact ⟨_, (NetworkStream.sendMessage_iff isLittleEndian).mpr ⟨hroom, rfl⟩, rfl⟩

theorem receiveMessage_tcp (name : String) {message output : Bytes} {size room : ℕ}
    (hsize : message.length = size) (hword : size < 2 ^ 32)
    (htcp : tcp stream = ⟨frame message ++ rest, output, room⟩) : ∃ stream',
      NetworkStream.receiveMessage isLittleEndian name size stream = .ok message stream' ∧
        tcp stream' = ⟨rest, output, room⟩ := by
  obtain ⟨hunread, houtput, hroom⟩ := TcpStream.mk.inj htcp
  obtain ⟨stream', hok, hto⟩ :=
    NetworkStream.receiveMessage_frame isLittleEndian hsize hword hunread
  refine ⟨stream', hok, ?_⟩
  rw [tcp, hto.unread, hto.output, hto.room, houtput, hroom]

/-- The four messages with such a server. -/
theorem exchange_served (hcastle : B.Implements P) (hstream : client.stream = some stream)
    (hprofile : p.toU16 = (ConnectingClient.profileOf (toLower client.mimicryProfile)).value)
    (h : ServedExactly P attempt p stream sh rest) : ∃ stream',
      ConnectingClient.exchange P B isLittleEndian toLower attempt.secret attempt.clientRandom
          client =
        .ok (attemptAt P attempt p (ConnectingClient.profileOf (toLower client.mimicryProfile)) sh)
          { client with stream := some stream', sessionId := some sh.sessionId } ∧
      tcp stream' = ⟨rest, stream.output ++ attemptOutput P attempt p sh, stream.room - 108⟩ := by
  have hroom := h.room
  have hsum : stream.room - 71 - 37 = stream.room - 108 := by omega
  have hvLen : (expectedVerify P attempt p sh).serialize.length = 33 := by
    rw [ServerVerify.serialize, serializeVerify_length]
  have hhello : (frame (attemptHello P attempt p).serialize).length = 71 := helloFrame_length
  have htcp : tcp stream = ⟨frame sh.serialize ++
      (frame (expectedVerify P attempt p sh).serialize ++ rest), stream.output, stream.room⟩ := by
    rw [tcp, h.unread, serverFrames, List.append_assoc]
  -- the messages on the stream
  obtain ⟨s₁, hs₁, h₁⟩ := sendMessage_tcp isLittleEndian hhello (by omega) htcp
  obtain ⟨s₂, hs₂, h₂⟩ :=
    receiveMessage_tcp isLittleEndian "SERVER_HELLO" sh.serialize_length (by decide) h₁
  obtain ⟨s₃, hs₃, h₃⟩ := sendMessage_tcp isLittleEndian (verifyFrame_length (ClientVerify.new P
    (attemptKey P attempt p sh) ((attemptHello P attempt p).serialize ++ sh.serialize)))
    (by omega) h₂
  obtain ⟨s₄, hs₄, h₄⟩ :=
    receiveMessage_tcp isLittleEndian "SERVER_VERIFY" hvLen (by decide) h₃
  rw [hsum, List.append_assoc] at h₄
  refine ⟨s₄, ?_, h₄⟩
  unfold ConnectingClient.exchange
  rw [Method.get_bind, hstream, Method.okOr_some, pure_bind]
  dsimp only
  rw [Method.bind_ok (ConnectingClient.onHandshake_ok
    (start_csharp (P := P) isLittleEndian hprofile attempt.secret attempt.clientRandom) _)]
  dsimp only
  refine (Method.bind_ok (ConnectingClient.onStream_ok hs₁ hstream)).trans ?_
  refine (Method.bind_ok (ConnectingClient.onStream_ok hs₂ rfl)).trans ?_
  refine (Method.bind_ok (ConnectingClient.onHandshake_ok
    (processServerHello_attempt isLittleEndian hcastle h.secret) _)).trans ?_
  dsimp only
  rw [Method.modify_bind]
  refine (Method.bind_ok (ConnectingClient.onHandshake_ok
    (sendClientVerify_csharp isLittleEndian hprofile) _)).trans ?_
  dsimp only
  refine (Method.bind_ok (ConnectingClient.onStream_ok hs₃ rfl)).trans ?_
  refine (Method.bind_ok (ConnectingClient.onStream_ok hs₄ rfl)).trans ?_
  refine (Method.bind_ok (ConnectingClient.onHandshake_ok
    (processServerVerify_csharp isLittleEndian hprofile) _)).trans ?_
  rfl

/-- The messages go through with no other server. -/
theorem exchange_eq_ok (hcastle : B.Implements P) (hstream : client.stream = some stream)
    (hprofile : p.toU16 = (ConnectingClient.profileOf (toLower client.mimicryProfile)).value)
    {handshake : CSharp.ClientHandshake}
    (h : ConnectingClient.exchange P B isLittleEndian toLower attempt.secret attempt.clientRandom
      client = .ok handshake client') : ∃ sh rest, ServedExactly P attempt p stream sh rest := by
  unfold ConnectingClient.exchange at h
  rw [Method.get_bind, hstream, Method.okOr_some, pure_bind] at h
  dsimp only at h
  rw [Method.bind_ok (ConnectingClient.onHandshake_ok
    (start_csharp (P := P) isLittleEndian hprofile attempt.secret attempt.clientRandom) _)] at h
  -- CLIENT_HELLO and SERVER_HELLO
  obtain ⟨_, _, hsend, hafterSend⟩ := Method.bind_eq_ok h
  obtain ⟨s₁, hs₁, rfl⟩ := ConnectingClient.onStream_eq_ok hsend hstream
  obtain ⟨hroom, rfl⟩ := (NetworkStream.sendMessage_iff isLittleEndian).mp hs₁
  obtain ⟨serverHello, _, hread, hafterRead⟩ := Method.bind_eq_ok hafterSend
  obtain ⟨s₂, hs₂, rfl⟩ := ConnectingClient.onStream_eq_ok hread rfl
  obtain ⟨hsize, rest, hunread, hto⟩ :=
    NetworkStream.receiveMessage_eq_ok isLittleEndian (by decide) hs₂
  obtain ⟨⟨sessionId, c⟩, _, hprocess, hafterHello⟩ := Method.bind_eq_ok hafterRead
  obtain ⟨hprocessRun, rfl⟩ := ConnectingClient.onHandshake_eq_ok hprocess
  obtain ⟨sh, rfl, hsecret⟩ :=
    processServerHello_attempt_eq_ok isLittleEndian hcastle hsize hprocessRun
  obtain ⟨rfl, rfl⟩ := EStateM.Result.ok.inj
    ((processServerHello_attempt isLittleEndian hcastle hsecret).symm.trans hprocessRun)
  dsimp only at hafterHello
  rw [Method.modify_bind] at hafterHello
  -- CLIENT_VERIFY and SERVER_VERIFY
  obtain ⟨⟨clientVerify, c⟩, _, hverify, hafterVerify⟩ := Method.bind_eq_ok hafterHello
  obtain ⟨hverifyRun, rfl⟩ := ConnectingClient.onHandshake_eq_ok hverify
  obtain ⟨rfl, rfl⟩ := EStateM.Result.ok.inj
    ((sendClientVerify_csharp isLittleEndian hprofile).symm.trans hverifyRun)
  obtain ⟨_, _, hsend', hafterSend'⟩ := Method.bind_eq_ok hafterVerify
  obtain ⟨s₃, hs₃, rfl⟩ := ConnectingClient.onStream_eq_ok hsend' rfl
  obtain ⟨hroom', rfl⟩ := (NetworkStream.sendMessage_iff isLittleEndian).mp hs₃
  obtain ⟨serverVerify, _, hread', hafterRead'⟩ := Method.bind_eq_ok hafterSend'
  obtain ⟨s₄, hs₄, rfl⟩ := ConnectingClient.onStream_eq_ok hread' rfl
  obtain ⟨hsize', rest', hunread', -⟩ :=
    NetworkStream.receiveMessage_eq_ok isLittleEndian (by decide) hs₄
  obtain ⟨⟨_, c⟩, _, hcheck, -⟩ := Method.bind_eq_ok hafterRead'
  obtain ⟨hcheckRun, -⟩ := ConnectingClient.onHandshake_eq_ok hcheck
  obtain rfl := processServerVerify_attempt_eq_ok isLittleEndian hprofile hsize' hcheckRun
  have hhello : (frame (attemptHello P attempt p).serialize).length = 71 := helloFrame_length
  have hverifyLen : (frame (ClientVerify.new P (attemptKey P attempt p sh)
      ((attemptHello P attempt p).serialize ++ sh.serialize)).serialize).length = 37 :=
    verifyFrame_length _
  have hfirst : 71 ≤ stream.room := hhello ▸ hroom
  have hleft : s₂.room = stream.room - 71 := hto.room.trans (congrArg (stream.room - ·) hhello)
  have hsecond : 37 ≤ s₂.room := hverifyLen ▸ hroom'
  have hlater : rest = frame (expectedVerify P attempt p sh).serialize ++ rest' :=
    hto.unread.symm.trans hunread'
  refine ⟨sh, rest', by omega, ?_, hsecret⟩
  rw [serverFrames, List.append_assoc, ← hlater]
  exact hunread

/-- The client with the keys of a handshake. -/
def keyed (P : Primitives) (attempt : Attempt) (p : MimicryProfile) (sh : ServerHello)
    (client : ConnectingClient) (stream : NetworkStream) : ConnectingClient :=
  { client with
    stream := some stream
    sessionKey := some (attemptKey P attempt p sh).bytes.toList
    sessionId := some sh.sessionId
    encryption := some ⟨attemptKey P attempt p sh, sh.sessionId, 0, 0⟩ }

theorem performHandshake_served (hcastle : B.Implements P) (hstream : client.stream = some stream)
    (hprofile : p.toU16 = (ConnectingClient.profileOf (toLower client.mimicryProfile)).value)
    (h : ServedExactly P attempt p stream sh rest) : ∃ stream',
      ConnectingClient.performHandshake P B isLittleEndian toLower attempt.secret
        attempt.clientRandom client = .ok () (keyed P attempt p sh client stream') ∧
      tcp stream' = ⟨rest, stream.output ++ attemptOutput P attempt p sh, stream.room - 108⟩ := by
  obtain ⟨stream', hexchange, htcp⟩ := exchange_served isLittleEndian hcastle hstream hprofile h
  have hnew : CSharp.PacketEncryption.new (attemptKey P attempt p sh).bytes.toList sh.sessionId =
      .ok ⟨attemptKey P attempt p sh, sh.sessionId, 0, 0⟩ :=
    dif_pos (attemptKey P attempt p sh).bytes.toList_length
  refine ⟨stream', ?_, htcp⟩
  unfold ConnectingClient.performHandshake
  rw [Method.bind_ok hexchange, Method.modify_bind, Method.get_bind]
  dsimp only [attemptAt, csharpAt]
  rw [hnew, Method.bind_ok (Method.mapError_ok (Method.lift_ok _ _))]
  rfl

variable (P attempt) in
/-- **The two clients on one stream.** Whatever the server sends, in whatever segments it arrives:
    the C# client completes exactly when the server answers its hello in frames of the exact
    lengths, with the HMAC of both hellos, under a secret that is not all zero. Then the Rust
    client completes on the same bytes, with the same session id, profile and key; both have
    written the same bytes, and have the same bytes left to read. If the C# client throws, it has
    no new keys. -/
theorem handshake_streams_agree (hcastle : B.Implements P) (hstream : client.stream = some stream)
    {config : ClientConfig} (hconfig : config.parseMimicryProfile = .ok p)
    (hprofile : p.toU16 = (ConnectingClient.profileOf (toLower client.mimicryProfile)).value) :
    let run := ConnectingClient.performHandshake P B isLittleEndian toLower attempt.secret
      attempt.clientRandom client
    (∀ client', run = .ok () client' →
      ∃ sh rest stream', ServedExactly P attempt p stream sh rest ∧
        client' = keyed P attempt p sh client stream' ∧
        Client.Connection.handshake P config attempt (tcp stream) =
          .ok (sh.sessionId, p, attemptKey P attempt p sh) (tcp stream')) ∧
    ∀ e client', run = .error e client' →
      (∀ sh rest, ¬ ServedExactly P attempt p stream sh rest) ∧
        client'.sessionKey = client.sessionKey ∧ client'.encryption = client.encryption := by
  intro run
  have hserved : ∀ sh rest, ServedExactly P attempt p stream sh rest → ∃ stream',
      ConnectingClient.performHandshake P B isLittleEndian toLower attempt.secret
        attempt.clientRandom client = .ok () (keyed P attempt p sh client stream') ∧
      Client.Connection.handshake P config attempt (tcp stream) =
        .ok (sh.sessionId, p, attemptKey P attempt p sh) (tcp stream') := by
    intro sh rest h
    obtain ⟨stream', hok, htcp⟩ := performHandshake_served isLittleEndian hcastle hstream hprofile h
    refine ⟨stream', hok, ?_⟩
    rw [htcp, tcp, h.unread]
    exact handshake_frames hconfig h.room
  cases hexchange : ConnectingClient.exchange P B isLittleEndian toLower attempt.secret
    attempt.clientRandom client with
  | ok handshake t =>
      obtain ⟨sh, rest, h⟩ := exchange_eq_ok isLittleEndian hcastle hstream hprofile hexchange
      obtain ⟨stream', hok, hrust⟩ := hserved sh rest h
      have hrun : run = .ok () (keyed P attempt p sh client stream') := hok
      rw [hrun]
      refine ⟨fun client' hclient' => ?_, fun e client' hclient' => ?_⟩
      · cases hclient'
        exact ⟨sh, rest, stream', h, rfl, hrust⟩
      · cases hclient'
  | error e t =>
      have hrun : run = .error e t := Method.bind_error hexchange
      have hkeys := ConnectingClient.exchange_keyed P B isLittleEndian toLower attempt.secret
        attempt.clientRandom client ⟨rfl, rfl⟩
      rw [hexchange] at hkeys
      refine ⟨fun client' hclient' => ?_, fun e' client' hclient' => ⟨fun sh rest h => ?_, ?_⟩⟩
      · rw [hrun] at hclient'
        cases hclient'
      · obtain ⟨stream', hok, -⟩ := hserved sh rest h
        rw [show run = _ from hok] at hclient'
        cases hclient'
      · rw [hrun] at hclient'
        cases hclient'
        exact hkeys

end CSharp

section Sample

def streamAttempt : Attempt where
  tcp := none
  secret := List.Vector.replicate 32 1
  clientRandom := List.Vector.replicate 32 5
  now := 0

def streamHello : ServerHello :=
  ⟨List.Vector.replicate 32 2, List.Vector.replicate 32 6, 77⟩

/-- The server's answers and one byte more; the first segment ends inside the first length. -/
def answeredStream : NetworkStream where
  arrivals := [[0, 0, 0], 73 :: streamHello.serialize,
    frame (expectedVerify samplePrimitives streamAttempt .ruTube streamHello).serialize ++ [9]]
  nonempty := by simp
  reset := false
  output := []
  room := 108

def streamClient : ConnectingClient := ⟨"rutube", some answeredStream, none, none, none⟩

theorem handshake_streams_agree_sample : ∃ sh rest stream',
    ServedExactly samplePrimitives streamAttempt .ruTube answeredStream sh rest ∧
    Client.Connection.handshake samplePrimitives ⟨"rutube", 3⟩ streamAttempt (tcp answeredStream) =
      .ok (sh.sessionId, .ruTube, attemptKey samplePrimitives streamAttempt .ruTube sh)
        (tcp stream') := by
  have hstream : streamClient.stream = some answeredStream := rfl
  have hconfig : ClientConfig.parseMimicryProfile ⟨"rutube", 3⟩ = .ok .ruTube := rfl
  have hprofile : MimicryProfile.ruTube.toU16 =
      (ConnectingClient.profileOf (id streamClient.mimicryProfile)).value := rfl
  have hserved : ServedExactly samplePrimitives streamAttempt .ruTube answeredStream streamHello
      [9] := by
    refine ⟨Nat.le_refl 108, ?_, by decide⟩
    rw [serverFrames, frame, streamHello.serialize_length, List.append_assoc, List.append_assoc]
    show [0, 0, 0] ++ (73 :: streamHello.serialize ++ (_ ++ [])) = _
    rw [List.append_nil]
    rfl
  have hcastle := BouncyCastle.copying_implements samplePrimitives
  obtain ⟨stream', hok, -⟩ := performHandshake_served true hcastle hstream hprofile hserved
  obtain ⟨sh, rest, stream'', h, -, hrust⟩ := (handshake_streams_agree samplePrimitives true
    streamAttempt hcastle hstream hconfig hprofile).1 _ hok
  exact ⟨sh, rest, stream'', h, hrust⟩

end Sample

end Llp.Security
