/-
  `llp-client/connection.rs`: connecting and reconnecting.

  A `Connection` is a `ServerConnection` with its configuration and its `ConnectionInfo`. What a
  call of `connect` meets (the TCP stream, random bytes, the clock) is its `Attempt`; the stream
  holds the bytes that the server will send. The TCP connections are numbered as they open:
  `opened`, `streamFrom` and `sessionFrom` are kept beside the fields of the source, and nothing
  reads them.

  * `completes_iff`: what a server has to send for an attempt to complete.
  * `connection_consistent_iff`: over any run of calls, the connection is `Consistent` throughout
    exactly when no `connect` on a connected object fails, and no `reconnect` on one finds the
    budget used up.
-/
import Llp.Core.SessionCalls
import Llp.Core.HandshakeCodec
import Llp.Client.Framing

namespace Llp.Client
open ByteCodec Mimicry

/-! ## The connection and its info -/

/-- `ConnectionState`. -/
inductive ConnectionState where
  | disconnected
  | connecting
  | handshaking
  | connected
  | reconnecting
deriving DecidableEq, Repr

/-- `ConnectionInfo`. -/
structure ConnectionInfo where
  state : ConnectionState
  sessionId : Option UInt64
  mimicryProfile : MimicryProfile
  reconnectAttempts : UInt32
deriving DecidableEq

/-- `ClientConfig`: what the connection reads of it. -/
structure ClientConfig where
  mimicryProfile : String
  reconnectAttempts : UInt32
deriving DecidableEq

/-- `parse_mimicry_profile`. -/
def ClientConfig.parseMimicryProfile (self : ClientConfig) : Fallible BoxError MimicryProfile :=
  match self.mimicryProfile with
  | "none" => .ok .none
  | "vk_video" => .ok .vkVideo
  | "yandex_music" => .ok .yandexMusic
  | "rutube" => .ok .ruTube
  | unknown => .error (.err (.message s!"Неизвестный профиль мимикрии: {unknown}"))

/-- `ServerConnection`, whole. -/
structure Connection where
  config : ClientConfig
  info : ConnectionInfo
  link : ServerConnection
  opened : ℕ
  streamFrom : ℕ
  sessionFrom : ℕ
deriving DecidableEq

/-- What a call of `connect` meets: the stream of the TCP connection, if there is one in time, the
    random bytes of the handshake, and the clock. -/
structure Attempt where
  tcp : Option TcpStream
  secret : Arr 32
  clientRandom : Arr 32
  now : Instant

namespace Connection

/-- `ServerConnection::new`. -/
def new (config : ClientConfig) : Connection where
  config := config
  info :=
    { state := .disconnected
      sessionId := none
      mimicryProfile := match config.parseMimicryProfile with
        | .ok profile => profile
        | .error _ => .none
      reconnectAttempts := 0 }
  link := ⟨none, none, none⟩
  opened := 0
  streamFrom := 0
  sessionFrom := 0

/-- `set_state`. -/
def setState (state : ConnectionState) : Method Connection BoxError Unit :=
  modify fun self => { self with info := { self.info with state := state } }

/-- Call the part that carries packets. -/
def onLink {α : Type} (m : Method ServerConnection BoxError α) : Method Connection BoxError α :=
  Method.focus Connection.link (fun link self => { self with link := link }) m

/-- A message behind its length. -/
def writeMessage (message : Bytes) : Method TcpStream BoxError Unit := do
  TcpStream.writeU32 (UInt32.ofNat message.length)
  TcpStream.writeAll message

/-- A message of at most `limit` bytes. -/
def readMessage (limit : ℕ) (tooLarge : String) : Method TcpStream BoxError Bytes := do
  let len ← TcpStream.readU32
  Method.failIf (len.toNat > limit) (.message tooLarge)
  TcpStream.readExact len.toNat

/-- `perform_handshake`, on the stream that it borrows. -/
def handshake (P : Primitives) (config : ClientConfig) (attempt : Attempt) :
    Method TcpStream BoxError (UInt64 × MimicryProfile × SessionKey) := do
  let mimicryProfile ← Method.lift config.parseMimicryProfile
  let client := ClientHandshake.new P attempt.secret mimicryProfile
  let (clientHello, client) ← Method.mapError .llp
    (Method.onLocal client (ClientHandshake.start attempt.clientRandom))
  writeMessage clientHello
  let serverHello ← readMessage 4096 "SERVER_HELLO слишком большой"
  let (sessionId, client) ← Method.mapError .llp
    (Method.onLocal client (ClientHandshake.processServerHello serverHello))
  let (clientVerify, client) ← Method.mapError .llp
    (Method.onLocal client ClientHandshake.sendClientVerify)
  writeMessage clientVerify
  let serverVerify ← readMessage 1024 "SERVER_VERIFY слишком большой"
  let (_, client) ← Method.mapError .llp
    (Method.onLocal client (ClientHandshake.processServerVerify serverVerify))
  let sessionKey ← Method.okOr (.message "Не получен сессионный ключ") client.sessionKey?
  pure (sessionId, mimicryProfile, sessionKey)

/-- `perform_handshake`. -/
def performHandshake (P : Primitives) (attempt : Attempt) :
    Method Connection BoxError (UInt64 × MimicryProfile × SessionKey) := do
  let self ← get
  let stream ← Method.okOr (.message "Нет подключения") self.link.stream
  onLink (ServerConnection.onStream stream (handshake P self.config attempt))

/-- `connect`. -/
def connect (P : Primitives) (attempt : Attempt) : Method Connection BoxError Unit := do
  setState .connecting
  let stream ← Method.okOr .io attempt.tcp
  modify fun self => { self with
    link := { self.link with stream := some stream }
    opened := self.opened + 1
    streamFrom := self.opened + 1 }
  setState .handshaking
  let (sessionId, mimicryProfile, sessionKey) ← performHandshake P attempt
  modify fun self => { self with
    link := { self.link with
      session := some (Session.new attempt.now sessionId sessionKey mimicryProfile)
      wrapper := some (PacketWrapper.new mimicryProfile) }
    sessionFrom := self.streamFrom
    info := { self.info with
      sessionId := some sessionId
      mimicryProfile := mimicryProfile
      reconnectAttempts := 0 } }
  setState .connected

/-- `reconnect`. -/
def reconnect (P : Primitives) (attempt : Attempt) : Method Connection BoxError Unit := do
  -- the `u32` wraps, as in a release build
  modify fun self => { self with
    info := { self.info with reconnectAttempts := self.info.reconnectAttempts + 1 } }
  setState .reconnecting
  let self ← get
  Method.failIf (self.info.reconnectAttempts > self.config.reconnectAttempts)
    (.message "Превышено количество попыток переподключения")
  modify fun self => { self with link := ⟨none, none, none⟩ }
  connect P attempt

/-! ### What the calls do -/

section Calls

theorem setState_bind {α : Type} (state : ConnectionState) (f : Unit → Method Connection BoxError α)
    (c : Connection) :
    (setState state >>= f) c = f () { c with info := { c.info with state := state } } := rfl

variable {P : Primitives} {attempt : Attempt} {c : Connection}

/-- The handshake on the stream that is there: the stream moves, and nothing else does. -/
theorem performHandshake_apply (attempt : Attempt) {stream : TcpStream}
    (hstream : c.link.stream = some stream) :
    performHandshake P attempt c =
      match handshake P c.config attempt stream with
      | .ok a stream' => .ok a { c with link := { c.link with stream := some stream' } }
      | .error e stream' => .error e { c with link := { c.link with stream := some stream' } } := by
  unfold performHandshake
  rw [Method.get_bind, hstream, Method.okOr_some, pure_bind]
  have hget : (c.link.stream.getD stream) = stream := by rw [hstream, Option.getD_some]
  cases hrun : handshake P c.config attempt stream with
  | ok a stream' =>
      exact Method.focus_ok (Method.focus_ok (by rw [hget]; exact hrun))
  | error e stream' =>
      exact Method.focus_error (Method.focus_error (by rw [hget]; exact hrun))

/-- The TCP connection opens, and the handshake on it completes. -/
def Completes (P : Primitives) (config : ClientConfig) (attempt : Attempt) : Bool :=
  match attempt.tcp with
  | none => false
  | some stream => (Method.result (handshake P config attempt stream)).isOk

/-- `connect` fails before there is a stream. -/
theorem connect_unreached (h : attempt.tcp = none) :
    connect P attempt c =
      .error (.err .io) { c with info := { c.info with state := .connecting } } := by
  unfold connect
  rw [h]
  rfl

/-- `connect` on a stream: the new stream is stored before the handshake. -/
theorem connect_reached {stream : TcpStream} (h : attempt.tcp = some stream) :
    connect P attempt c =
      match handshake P c.config attempt stream with
      | .error e stream' =>
          .error e { c with
            info := { c.info with state := .handshaking }
            link := { c.link with stream := some stream' }
            opened := c.opened + 1
            streamFrom := c.opened + 1 }
      | .ok (sessionId, mimicryProfile, sessionKey) stream' =>
          .ok () { c with
            info :=
              { state := .connected
                sessionId := some sessionId
                mimicryProfile := mimicryProfile
                reconnectAttempts := 0 }
            link := ServerConnection.connected stream' attempt.now sessionId sessionKey
              mimicryProfile
            opened := c.opened + 1
            streamFrom := c.opened + 1
            sessionFrom := c.opened + 1 } := by
  have hshake := performHandshake_apply (P := P) attempt (c := { c with
    info := { c.info with state := .handshaking }
    link := { c.link with stream := some stream }
    opened := c.opened + 1
    streamFrom := c.opened + 1 }) rfl
  unfold connect
  rw [setState_bind, h, Method.okOr_some, pure_bind, Method.modify_bind, setState_bind]
  cases hrun : handshake P c.config attempt stream with
  | error e stream' =>
      simp only [hrun] at hshake
      exact Method.bind_error hshake
  | ok a stream' =>
      simp only [hrun] at hshake
      exact Method.bind_ok hshake

/-- `reconnect` when the budget is used up: the connection stays as it was. -/
theorem reconnect_refused (h : c.info.reconnectAttempts + 1 > c.config.reconnectAttempts) :
    reconnect P attempt c =
      .error (.err (.message "Превышено количество попыток переподключения"))
        { c with
          info := { c.info with
            state := .reconnecting
            reconnectAttempts := c.info.reconnectAttempts + 1 } } := by
  unfold reconnect
  rw [Method.modify_bind, setState_bind, Method.get_bind]
  exact Method.bind_error (Method.failIf_pos _ h _)

/-- `reconnect` within the budget: `connect`, with the old connection closed. -/
theorem reconnect_allowed (h : c.info.reconnectAttempts + 1 ≤ c.config.reconnectAttempts) :
    reconnect P attempt c =
      connect P attempt { c with
        info := { c.info with
          state := .reconnecting
          reconnectAttempts := c.info.reconnectAttempts + 1 }
        link := ⟨none, none, none⟩ } := by
  unfold reconnect
  rw [Method.modify_bind, setState_bind, Method.get_bind]
  exact Method.bind_ok (Method.failIf_neg _ (UInt32.not_lt.mpr h) _)

end Calls

/-! ### When an attempt completes -/

section Completes

open ServerConnection (readU32_frame)
open Method (exists_bind_ok)

/-- A message is written where there is room for it and its length. -/
theorem writeMessage_iff {message : Bytes} {stream stream' : TcpStream} :
    writeMessage message stream = .ok () stream' ↔
      (frame message).length ≤ stream.room ∧
        stream' = { stream with
          output := stream.output ++ frame message
          room := stream.room - (frame message).length } := by
  have hlen : (frame message).length =
      (toBE 4 (UInt32.ofNat message.length).toNat).length + message.length := List.length_append
  constructor
  · intro h
    obtain ⟨_, t, hword, hbody⟩ := Method.bind_eq_ok h
    obtain ⟨hroom, rfl⟩ := TcpStream.writeAll_iff.mp hword
    obtain ⟨hroom', rfl⟩ := TcpStream.writeAll_iff.mp hbody
    simp only at hroom'
    refine ⟨by omega, ?_⟩
    rw [frame, List.append_assoc, List.length_append, Nat.sub_sub]
  · rintro ⟨hroom, rfl⟩
    refine (Method.bind_ok (TcpStream.writeAll_iff.mpr ⟨by omega, rfl⟩)).trans ?_
    refine TcpStream.writeAll_iff.mpr ⟨by simp only; omega, ?_⟩
    rw [frame, List.append_assoc, List.length_append, Nat.sub_sub]

/-- A message is read from its frame. -/
theorem readMessage_iff {limit : ℕ} (hlimit : limit < 2 ^ 32) {tooLarge : String} {message : Bytes}
    {stream stream' : TcpStream} :
    readMessage limit tooLarge stream = .ok message stream' ↔
      ∃ rest, stream.input = frame message ++ rest ∧ message.length ≤ limit ∧
        stream' = { stream with input := rest } := by
  constructor
  · intro h
    obtain ⟨len, t, hword, hbody⟩ := Method.bind_eq_ok h
    obtain ⟨hlarge, hexact⟩ := Method.failIf_bind_eq_ok hbody
    obtain ⟨word, u, hread, hlen⟩ := Method.bind_eq_ok hword
    obtain ⟨hfour, rfl, rfl⟩ := TcpStream.readExact_iff.mp hread
    cases hlen
    obtain ⟨hlong, rfl, rfl⟩ := TcpStream.readExact_iff.mp hexact
    have hsize : (stream.input.take 4).length = 4 := List.length_take_of_le hfour
    have hword : (UInt32.ofNat (ofBE (stream.input.take 4))).toNat =
        ofBE (stream.input.take 4) := by
      refine UInt32.toNat_ofNat_of_lt ?_
      have hlt := ofBE_lt (stream.input.take 4)
      rw [hsize] at hlt
      exact hlt
    simp only [hword] at hlong hlarge ⊢
    have hbody : ((stream.input.drop 4).take (ofBE (stream.input.take 4))).length =
        ofBE (stream.input.take 4) := List.length_take_of_le hlong
    refine ⟨(stream.input.drop 4).drop (ofBE (stream.input.take 4)), ?_, by omega, rfl⟩
    have hfront : toBE 4 (ofBE (stream.input.take 4)) = stream.input.take 4 := by
      have hback := toBE_ofBE (stream.input.take 4)
      rwa [hsize] at hback
    rw [frame, hbody, hword, hfront, List.append_assoc, List.take_append_drop,
      List.take_append_drop]
  · rintro ⟨rest, hinput, hsize, rfl⟩
    have hword : (UInt32.ofNat message.length).toNat = message.length :=
      UInt32.toNat_ofNat_of_lt (hsize.trans_lt hlimit)
    unfold readMessage
    rw [Method.bind_ok (readU32_frame hinput),
      Method.bind_ok (Method.failIf_neg _ (by rw [hword]; omega) _), hword]
    refine TcpStream.readExact_iff.mpr ⟨?_, ?_, ?_⟩
    · simp
    · exact List.take_left.symm
    · simp only [List.drop_left]

/-- The verify message that the client expects after a SERVER_HELLO. -/
def expectedVerify (P : Primitives) (attempt : Attempt) (profile : MimicryProfile)
    (sh : ServerHello) : ServerVerify :=
  let clientKey := X25519Key.generate P attempt.secret
  let ch := ClientHello.new attempt.clientRandom clientKey profile
  let sessionKey := deriveSessionKey P (clientKey.diffieHellman P sh.serverPublicKey)
    (sessionSalt ch sh) HKDF_INFO
  ServerVerify.new P sessionKey (ch.serialize ++ sh.serialize)

/-- The server's side of a handshake that completes: the socket takes both messages of the client,
    and the server sends a hello and the verify message for it, in frames within the limits. -/
def Served (P : Primitives) (config : ClientConfig) (attempt : Attempt) (stream : TcpStream)
    (sh : ServerHello) : Prop :=
  ∃ profile serverHello serverVerify rest, config.parseMimicryProfile = .ok profile ∧
    (4 + 67) + (4 + 33) ≤ stream.room ∧
    stream.input = frame serverHello ++ (frame serverVerify ++ rest) ∧
    serverHello.length ≤ 4096 ∧ sh.serialize <+: serverHello ∧
    serverVerify.length ≤ 1024 ∧ (expectedVerify P attempt profile sh).serialize <+: serverVerify

variable {P : Primitives} {config : ClientConfig} {attempt : Attempt} {stream : TcpStream}

/-- A call of the client's handshake leaves the stream alone. -/
theorem llpStep_ok {σ α : Type} {client client' : σ} {m : Method σ LlpError α} {a : α}
    (h : m client = .ok a client') (stream : TcpStream) :
    (Method.mapError .llp (Method.onLocal client m) : Method TcpStream BoxError _) stream =
      .ok (a, client') stream :=
  Method.mapError_ok (Method.onLocal_ok h stream)

theorem llpStep_eq_ok {σ α : Type} {client client' : σ} {m : Method σ LlpError α} {a : α}
    {stream stream' : TcpStream}
    (h : (Method.mapError .llp (Method.onLocal client m) : Method TcpStream BoxError _) stream =
      .ok (a, client') stream') : m client = .ok a client' ∧ stream = stream' :=
  Method.onLocal_eq_ok (Method.mapError_eq_ok h)

/-- A handshake with such a server completes. -/
theorem handshake_served {sh : ServerHello} (h : Served P config attempt stream sh) :
    ∃ out stream', handshake P config attempt stream = .ok out stream' := by
  obtain ⟨profile, serverHello, serverVerify, rest, hprofile, hroom, hinput, hhello, hsh, hverify,
    hv⟩ := h
  have hparse : Method.lift config.parseMimicryProfile stream = .ok profile stream := by
    rw [hprofile, Method.lift_ok]
  have hshOk := (ServerHello.deserialize_iff serverHello sh).mpr hsh
  have hvOk := (ServerVerify.deserialize_iff serverVerify _).mpr hv
  have hwrite : ∀ {message : Bytes} (s : TcpStream), (frame message).length ≤ s.room →
      writeMessage message s = .ok () { s with
        output := s.output ++ frame message
        room := s.room - (frame message).length } := fun s hroom =>
    writeMessage_iff.mpr ⟨hroom, rfl⟩
  have hclientHello := ClientHandshake.start_run (c := ClientHandshake.new P attempt.secret profile)
    attempt.clientRandom rfl
  -- CLIENT_HELLO and SERVER_HELLO
  refine exists_bind_ok hparse ?_
  refine exists_bind_ok (llpStep_ok hclientHello stream) ?_
  refine exists_bind_ok (hwrite stream ?_) ?_
  · rw [length_frame, ClientHello.serialize_length]
    omega
  refine exists_bind_ok ((readMessage_iff (by decide)).mpr ⟨_, hinput, hhello, rfl⟩) ?_
  refine exists_bind_ok (llpStep_ok (ClientHandshake.processServerHello_run rfl rfl hshOk) _) ?_
  -- CLIENT_VERIFY and SERVER_VERIFY
  refine exists_bind_ok (llpStep_ok (ClientHandshake.sendClientVerify_run rfl rfl rfl rfl) _) ?_
  refine exists_bind_ok (hwrite _ ?_) ?_
  · rw [length_frame, length_frame, ClientHello.serialize_length, ClientVerify.serialize,
      serializeVerify_length]
    show 4 + 33 ≤ stream.room - (4 + 67)
    omega
  refine exists_bind_ok ((readMessage_iff (by decide)).mpr ⟨_, rfl, hverify, rfl⟩) ?_
  refine exists_bind_ok
    (llpStep_ok (ClientHandshake.processServerVerify_run rfl rfl rfl rfl hvOk) _) ?_
  exact ⟨_, _, rfl⟩

/-- A handshake completes with no other server. -/
theorem handshake_eq_ok {out : UInt64 × MimicryProfile × SessionKey} {stream' : TcpStream}
    (h : handshake P config attempt stream = .ok out stream') :
    ∃ sh, Served P config attempt stream sh := by
  unfold handshake at h
  obtain ⟨profile, _, hparse, hafter⟩ := Method.bind_eq_ok h
  obtain ⟨hprofile, hstream⟩ := Method.lift_eq_ok hparse
  rw [hstream] at hafter
  -- CLIENT_HELLO and SERVER_HELLO
  obtain ⟨⟨clientHello, c₁⟩, _, hstart, hafterStart⟩ := Method.bind_eq_ok hafter
  obtain ⟨hstartRun, rfl⟩ := llpStep_eq_ok hstart
  rw [ClientHandshake.start_run attempt.clientRandom rfl] at hstartRun
  obtain ⟨rfl, rfl⟩ := EStateM.Result.ok.inj hstartRun
  obtain ⟨_, _, hwrite, hafterWrite⟩ := Method.bind_eq_ok hafterStart
  obtain ⟨hroom, rfl⟩ := writeMessage_iff.mp hwrite
  obtain ⟨serverHello, _, hread, hafterRead⟩ := Method.bind_eq_ok hafterWrite
  obtain ⟨rest, hinput, hhello, rfl⟩ := (readMessage_iff (by decide)).mp hread
  obtain ⟨⟨sessionId, c₂⟩, _, hprocess, hafterHello⟩ := Method.bind_eq_ok hafterRead
  obtain ⟨hprocessRun, rfl⟩ := llpStep_eq_ok hprocess
  rcases ClientHandshake.processServerHello_cases serverHello _ with
    ⟨ch, sh, -, hsh, hch, hrun⟩ | ⟨e, herr⟩
  case inr =>
    rw [herr] at hprocessRun
    cases hprocessRun
  obtain rfl := Option.some.inj hch
  obtain ⟨rfl, rfl⟩ := EStateM.Result.ok.inj (hrun.symm.trans hprocessRun)
  -- CLIENT_VERIFY and SERVER_VERIFY
  obtain ⟨⟨clientVerify, c₃⟩, _, hsend, hafterSend⟩ := Method.bind_eq_ok hafterHello
  obtain ⟨hsendRun, rfl⟩ := llpStep_eq_ok hsend
  rw [ClientHandshake.sendClientVerify_run rfl rfl rfl rfl] at hsendRun
  obtain ⟨rfl, rfl⟩ := EStateM.Result.ok.inj hsendRun
  obtain ⟨_, _, hwrite', hafterWrite'⟩ := Method.bind_eq_ok hafterSend
  obtain ⟨hroom', rfl⟩ := writeMessage_iff.mp hwrite'
  obtain ⟨serverVerify, _, hread', hafterRead'⟩ := Method.bind_eq_ok hafterWrite'
  obtain ⟨rest', hinput', hverify, rfl⟩ := (readMessage_iff (by decide)).mp hread'
  obtain ⟨⟨_, c₄⟩, _, hcheck, -⟩ := Method.bind_eq_ok hafterRead'
  obtain ⟨hcheckRun, rfl⟩ := llpStep_eq_ok hcheck
  rcases ClientHandshake.processServerVerify_cases serverVerify _ with
    ⟨ch', sh', key, v, -, hch', hsh', hkey, hv, htag, -⟩ | ⟨e, herr⟩
  case inr =>
    rw [herr] at hcheckRun
    cases hcheckRun
  obtain rfl := Option.some.inj hch'
  obtain rfl := Option.some.inj hsh'
  obtain rfl := Option.some.inj hkey
  obtain rfl : v = expectedVerify P attempt profile sh :=
    congrArg ServerVerify.mk (verifyTag_ok htag)
  rw [length_frame, ClientHello.serialize_length] at hroom
  rw [length_frame, length_frame, ClientHello.serialize_length] at hroom'
  refine ⟨sh, profile, serverHello, serverVerify, rest', hprofile, ?_, ?_, hhello,
    (ServerHello.deserialize_iff _ _).mp hsh, hverify, (ServerVerify.deserialize_iff _ _).mp hv⟩
  · rw [ClientVerify.serialize, serializeVerify_length] at hroom'
    have hleft : 4 + 33 ≤ stream.room - (4 + 67) := hroom'
    omega
  · rw [hinput, ← hinput']

/-- An attempt completes exactly when there is such a server. -/
theorem completes_iff : Completes P config attempt = true ↔
    ∃ stream sh, attempt.tcp = some stream ∧ Served P config attempt stream sh := by
  unfold Completes
  cases htcp : attempt.tcp with
  | none => exact iff_of_false Bool.false_ne_true fun ⟨_, _, h, _⟩ => by cases h
  | some stream =>
      rw [Method.isOk_result]
      constructor
      · rintro ⟨out, stream', hrun⟩
        obtain ⟨sh, hserved⟩ := handshake_eq_ok hrun
        exact ⟨stream, sh, rfl, hserved⟩
      · rintro ⟨_, sh, hstream, hserved⟩
        obtain rfl := Option.some.inj hstream
        exact handshake_served hserved

end Completes

end Connection

/-! ## What the packet calls leave in place -/

namespace ServerConnection

/-- Everything is there, and the session is that of the given id. -/
structure Present (sessionId : UInt64) (c : ServerConnection) : Prop where
  stream : c.stream.isSome
  wrapper : c.wrapper.isSome
  session : c.session.map Session.sessionId = some sessionId

section Present

variable {sessionId : UInt64} {α : Type}

theorem keeps_onSession (session : Session) {m : Method Session LlpError α}
    (hm : Method.Keeps (fun session => session.sessionId = sessionId) m) :
    Method.Keeps (Present sessionId) (onSession session m) := by
  refine Method.Keeps.focus fun c hc => ?_
  obtain ⟨s, hs, hid⟩ := Option.map_eq_some_iff.mp hc.session
  refine ⟨hc.stream, hc.wrapper, congrArg some ?_⟩
  rw [hs, Option.getD_some]
  exact (Method.Keeps.mapError hm) s hid

theorem keeps_onWrapper (wrapper : PacketWrapper) (m : Method PacketWrapper MimicryError α) :
    Method.Keeps (Present sessionId) (onWrapper wrapper m) :=
  Method.Keeps.focus fun _ hc => ⟨hc.stream, rfl, hc.session⟩

theorem keeps_onStream (stream : TcpStream) (m : Method TcpStream BoxError α) :
    Method.Keeps (Present sessionId) (onStream stream m) :=
  Method.Keeps.focus fun _ hc => ⟨rfl, hc.wrapper, hc.session⟩

theorem sendPacket_keeps_present (A : ChaCha20Poly1305) (call : SendCall) :
    Method.Keeps (Present sessionId) (sendPacket A call) := by
  refine Method.Keeps.get.bind fun self => ?_
  refine (Method.Keeps.okOr _ _).bind fun session => ?_
  refine (Method.Keeps.okOr _ _).bind fun wrapper => ?_
  refine (Method.Keeps.okOr _ _).bind fun stream => ?_
  refine (keeps_onSession session (Session.encryptPayload_keeps_id A _ _ _)).bind
    fun encrypted => ?_
  refine (Method.Keeps.mapError (Method.Keeps.lift _)).bind fun llpPacket => ?_
  refine (Method.Keeps.mapError (Method.Keeps.lift _)).bind fun serialized => ?_
  refine (keeps_onWrapper wrapper _).bind fun wrapped => ?_
  exact (keeps_onStream stream _).bind fun _ => keeps_onStream stream _

theorem receivePacket_keeps_present (A : ChaCha20Poly1305) (http : HttParse) (now now' : Instant) :
    Method.Keeps (Present sessionId) (receivePacket A http now now') := by
  refine Method.Keeps.get.bind fun self => ?_
  refine (Method.Keeps.okOr _ _).bind fun session => ?_
  refine (Method.Keeps.okOr _ _).bind fun wrapper => ?_
  refine (Method.Keeps.okOr _ _).bind fun stream => ?_
  refine (keeps_onStream stream _).bind fun len => ?_
  refine (Method.Keeps.failIf _ _).bind fun _ => ?_
  refine (keeps_onStream stream _).bind fun buf => ?_
  refine (Method.Keeps.mapError (Method.Keeps.lift _)).bind fun unwrapped => ?_
  refine (Method.Keeps.mapError (Method.Keeps.lift _)).bind fun llpPacket => ?_
  exact keeps_onSession session (Session.decryptPayload_keeps_id A _ _ _ _ _)

/-- Without a session neither call does anything. -/
theorem sendPacket_noSession {c : ServerConnection} (A : ChaCha20Poly1305) (call : SendCall)
    (h : c.session = none) :
    sendPacket A call c = .error (.err (.message "Нет активной сессии")) c := by
  unfold sendPacket
  rw [Method.get_bind, h]
  rfl

theorem receivePacket_noSession {c : ServerConnection} (A : ChaCha20Poly1305) (http : HttParse)
    (now now' : Instant) (h : c.session = none) :
    receivePacket A http now now' c = .error (.err (.message "Нет активной сессии")) c := by
  unfold receivePacket
  rw [Method.get_bind, h]
  rfl

end Present

end ServerConnection

/-! ## Runs -/

namespace Connection

/-- A call of the connection. -/
inductive Call where
  | connect (attempt : Attempt)
  | reconnect (attempt : Attempt)
  | sendPacket (call : ServerConnection.SendCall)
  | receivePacket (now now' : Instant)

section Runs

variable (P : Primitives) (A : ChaCha20Poly1305) (http : HttParse)

/-- The call, without what it returns. -/
def call : Call → Method Connection BoxError Unit
  | .connect attempt => connect P attempt
  | .reconnect attempt => reconnect P attempt
  | .sendPacket call => onLink (ServerConnection.sendPacket A call)
  | .receivePacket now now' => do
      let _ ← onLink (ServerConnection.receivePacket A http now now')
      pure ()

/-- The object never mixes two connections, and `info` tells what it holds. -/
structure Consistent (c : Connection) : Prop where
  oneHandshake : c.link.stream.isSome → c.link.session.isSome → c.streamFrom = c.sessionFrom
  connected : c.info.state = .connected ↔
    c.link.stream.isSome ∧ c.link.session.isSome ∧ c.link.wrapper.isSome
  sessionId : c.info.state = .connected → ∀ session, c.link.session = some session →
    c.info.sessionId = some session.sessionId

/-- The step does not break the connection: a `connect` on a connected object opens a TCP connection
    and completes the handshake, and a `reconnect` on one is within the budget. -/
def Sound (c : Connection) : Call → Prop
  | .connect attempt => c.link.session.isSome → Completes P c.config attempt = true
  | .reconnect _ => c.link.session.isSome →
      c.info.reconnectAttempts + 1 ≤ c.config.reconnectAttempts
  | .sendPacket _ | .receivePacket _ _ => True

/-- Up: connected, all parts from one handshake. Down: no session and no wrapper. -/
inductive UpOrDown (c : Connection) : Prop where
  | up (sessionId : UInt64) (hstate : c.info.state = .connected)
      (hpresent : c.link.Present sessionId) (horigin : c.streamFrom = c.sessionFrom)
      (hid : c.info.sessionId = some sessionId)
  | down (hstate : c.info.state ≠ .connected) (hsession : c.link.session = none)
      (hwrapper : c.link.wrapper = none)

variable {c : Connection}

theorem UpOrDown.consistent (h : UpOrDown c) : Consistent c := by
  cases h with
  | up sessionId hstate hpresent horigin hid =>
      have hsession : c.link.session.isSome := by
        rw [← Option.isSome_map, hpresent.session]
        rfl
      refine ⟨fun _ _ => horigin, iff_of_true hstate ⟨hpresent.stream, hsession,
        hpresent.wrapper⟩, fun _ session hsome => ?_⟩
      have := hpresent.session
      rw [hsome] at this
      rw [hid, ← this]
      rfl
  | down hstate hsession hwrapper =>
      refine ⟨fun _ h => ?_, iff_of_false hstate fun h => ?_, fun h => absurd h hstate⟩
      · rw [hsession] at h
        cases h
      · rw [hsession] at h
        cases h.2.1

/-- A `connect` that completes brings everything up, from whatever state. -/
theorem connect_completes {attempt : Attempt} (h : Completes P c.config attempt = true) :
    UpOrDown (Method.state (connect P attempt c)) := by
  unfold Completes at h
  cases htcp : attempt.tcp with
  | none =>
      rw [htcp] at h
      cases h
  | some stream =>
      rw [htcp] at h
      obtain ⟨⟨sessionId, profile, key⟩, stream', hrun⟩ := Method.isOk_result.mp h
      rw [connect_reached htcp, hrun]
      exact .up sessionId rfl ⟨rfl, rfl, rfl⟩ rfl rfl

/-- One that fails leaves the session and the wrapper as they were, and is not connected. -/
theorem connect_fails {attempt : Attempt} (h : Completes P c.config attempt = false) :
    (Method.state (connect P attempt c)).info.state ≠ .connected ∧
      (Method.state (connect P attempt c)).link.session = c.link.session ∧
      (Method.state (connect P attempt c)).link.wrapper = c.link.wrapper ∧
      (c.link.stream.isSome → (Method.state (connect P attempt c)).link.stream.isSome) := by
  unfold Completes at h
  cases htcp : attempt.tcp with
  | none =>
      rw [connect_unreached htcp]
      exact ⟨by simp, rfl, rfl, id⟩
  | some stream =>
      rw [htcp] at h
      rw [connect_reached htcp]
      cases hrun : handshake P c.config attempt stream with
      | error e stream' => exact ⟨by simp, rfl, rfl, fun _ => rfl⟩
      | ok a stream' =>
          simp only [hrun] at h
          cases h

theorem connect_upOrDown {attempt : Attempt} (hsession : c.link.session = none)
    (hwrapper : c.link.wrapper = none) : UpOrDown (Method.state (connect P attempt c)) := by
  cases h : Completes P c.config attempt with
  | true => exact connect_completes P h
  | false =>
      obtain ⟨hstate, hsession', hwrapper', -⟩ := connect_fails P h
      exact .down hstate (hsession'.trans hsession) (hwrapper'.trans hwrapper)

/-- Not connected, with everything there. -/
theorem not_consistent (hstate : c.info.state ≠ .connected) (hstream : c.link.stream.isSome)
    (hsession : c.link.session.isSome) (hwrapper : c.link.wrapper.isSome) : ¬ Consistent c :=
  fun h => hstate (h.connected.mpr ⟨hstream, hsession, hwrapper⟩)

theorem onLink_keeps {α : Type} {m : Method ServerConnection BoxError α}
    (hkeeps : ∀ sessionId, Method.Keeps (ServerConnection.Present sessionId) m)
    (hnone : c.link.session = none → Method.state (m c.link) = c.link) (h : UpOrDown c) :
    UpOrDown (Method.state (onLink m c)) := by
  have hstate : Method.state (onLink m c) = { c with link := Method.state (m c.link) } := by
    unfold onLink
    cases hm : m c.link with
    | ok a link => rw [Method.focus_ok hm, Method.state_ok, Method.state_ok]
    | error e link => rw [Method.focus_error hm, Method.state_error, Method.state_error]
  rw [hstate]
  cases h with
  | up sessionId hstate hpresent horigin hid =>
      exact .up sessionId hstate (hkeeps sessionId c.link hpresent) horigin hid
  | down hstate hsession hwrapper =>
      rw [hnone hsession]
      exact .down hstate hsession hwrapper

theorem call_keeps (x : Call) (h : UpOrDown c) (hsound : Sound P c x) :
    UpOrDown (Method.state (call P A http x c)) := by
  cases x with
  | connect attempt =>
      cases h with
      | up sessionId hstate hpresent horigin hid =>
          refine connect_completes P (hsound ?_)
          rw [← Option.isSome_map, hpresent.session]
          rfl
      | down hstate hsession hwrapper => exact connect_upOrDown P hsession hwrapper
  | reconnect attempt =>
      by_cases hbudget : c.info.reconnectAttempts + 1 ≤ c.config.reconnectAttempts
      · rw [call, reconnect_allowed hbudget]
        exact connect_upOrDown P rfl rfl
      · rw [call, reconnect_refused (UInt32.not_le.mp hbudget)]
        cases h with
        | up sessionId hstate hpresent horigin hid =>
            refine absurd (hsound ?_) hbudget
            rw [← Option.isSome_map, hpresent.session]
            rfl
        | down hstate hsession hwrapper => exact .down (by simp) hsession hwrapper
  | sendPacket send =>
      refine onLink_keeps (fun _ => ServerConnection.sendPacket_keeps_present A send)
        (fun hsession => ?_) h
      rw [ServerConnection.sendPacket_noSession A send hsession, Method.state_error]
  | receivePacket now now' =>
      rw [call, Method.state_bind_pure]
      refine onLink_keeps (fun _ => ServerConnection.receivePacket_keeps_present A http now now')
        (fun hsession => ?_) h
      rw [ServerConnection.receivePacket_noSession A http now now' hsession, Method.state_error]

/-- On a connected object, a call that is not `Sound` leaves everything there, not connected. -/
theorem call_breaks (x : Call) (h : UpOrDown c) (hsound : ¬ Sound P c x) :
    ¬ Consistent (Method.state (call P A http x c)) := by
  cases x with
  | connect attempt =>
      obtain ⟨hsession, hfails⟩ := Classical.not_imp.mp hsound
      cases h with
      | down hstate hnone hwrapper =>
          rw [hnone] at hsession
          cases hsession
      | up sessionId hstate hpresent horigin hid =>
          obtain ⟨hstate', hsession', hwrapper', hstream'⟩ :=
            connect_fails P (Bool.not_eq_true _ ▸ hfails)
          refine not_consistent hstate' (hstream' hpresent.stream) ?_ ?_
          · rw [call, hsession']
            exact hsession
          · rw [call, hwrapper']
            exact hpresent.wrapper
  | reconnect attempt =>
      obtain ⟨hsession, hbudget⟩ := Classical.not_imp.mp hsound
      cases h with
      | down hstate hnone hwrapper =>
          rw [hnone] at hsession
          cases hsession
      | up sessionId hstate hpresent horigin hid =>
          rw [call, reconnect_refused (UInt32.not_le.mp hbudget)]
          exact not_consistent (by simp) hpresent.stream hsession hpresent.wrapper
  | sendPacket send => exact absurd trivial hsound
  | receivePacket now now' => exact absurd trivial hsound

/-- **A connection never mixes two connections, unless it is connected over an old one.** Over any
    run of calls on a new connection, every state on the way is `Consistent` exactly when every
    `connect` on a connected object completes and every `reconnect` on one is within the
    budget. -/
theorem connection_consistent_iff (config : ClientConfig) (calls : List Call) :
    (∀ pre, pre <+: calls →
        Consistent ((Method.machine (call P A http)).final (new config) pre)) ↔
      (Method.machine (call P A http)).Always (Sound P) (new config) calls :=
  Machine.holds_iff_always _ (I := UpOrDown) (fun _ => UpOrDown.consistent)
    (fun _ x => call_keeps P A http x) (fun _ x => call_breaks P A http x) (new config) calls
    (.down (by simp [new]) rfl rfl)

end Runs

/-! ### A connect over an old connection -/

section Sample

/-- A server that answers the client of `sampleAttempt`: the bytes of its two messages. -/
def sampleServer : Bytes :=
  let clientHello := ClientHello.new (.replicate 32 3)
    (X25519Key.generate samplePrimitives (.replicate 32 1)) .none
  let serverHello := ServerHello.mk (.replicate 32 2) (.replicate 32 4) 9
  let sessionKey := deriveSessionKey samplePrimitives (.replicate 32 3)
    (sessionSalt clientHello serverHello) HKDF_INFO
  let serverVerify := ServerVerify.new samplePrimitives sessionKey
    (clientHello.serialize ++ serverHello.serialize)
  toBE 4 73 ++ serverHello.serialize ++ toBE 4 33 ++ serverVerify.serialize

/-- A server that takes the TCP connection, and sends `input`. -/
def sampleAttempt (input : Bytes) : Attempt where
  tcp := some ⟨input, [], 1000⟩
  secret := .replicate 32 1
  clientRandom := .replicate 32 3
  now := 0

/-- The connection after a run of calls. -/
def sampleRun (reconnectAttempts : UInt32) (calls : List Call) : Connection :=
  (Method.machine (call samplePrimitives sampleAead ⟨fun _ _ => .ok .incomplete⟩)).final
    (new ⟨"none", reconnectAttempts⟩) calls

/-- A second `connect`, whose server closes the connection before its SERVER_HELLO: the stream
    is that of the second connection, the session that of the first, and the state is
    `Handshaking` although everything is there. -/
theorem connect_mixes_connections :
    let c := sampleRun 5
      [.connect (sampleAttempt sampleServer), .connect (sampleAttempt [])]
    c.link.stream.isSome ∧ c.link.session.isSome ∧ c.link.wrapper.isSome ∧
      c.streamFrom = 2 ∧ c.sessionFrom = 1 ∧ c.info.state = .handshaking ∧ ¬ Consistent c := by
  intro c
  have hheld : c.link.stream.isSome ∧ c.link.session.isSome ∧ c.link.wrapper.isSome ∧
      c.streamFrom = 2 ∧ c.sessionFrom = 1 ∧ c.info.state = .handshaking := by
    decide +kernel
  obtain ⟨hstream, hsession, hwrapper, hstreamFrom, hsessionFrom, hstate⟩ := hheld
  refine ⟨hstream, hsession, hwrapper, hstreamFrom, hsessionFrom, hstate, fun h => ?_⟩
  have := h.oneHandshake hstream hsession
  omega

end Sample

end Connection

end Llp.Client
