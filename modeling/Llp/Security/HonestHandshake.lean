/-
  The handshake between honest parties.

  `exchange` is the handshake over a network that carries the four messages as they are.

  * `exchange_completes`: every call returns; both parties complete with one session key, the
    client has the server's session id and the server the client's profile.
-/
import Llp.Core.HandshakeCodec

namespace Llp.Security
open ByteCodec

/-- X25519: both sides compute the same shared secret. -/
def Commutes (P : Primitives) : Prop :=
  ∀ a b, P.diffieHellman a (P.publicKey b) = P.diffieHellman b (P.publicKey a)

section Exchange

variable {P : Primitives} {α : Type}

/-- A call of the client. -/
def onClient (m : Method (ClientHandshake P) LlpError α) :
    Method (ClientHandshake P × ServerHandshake P) LlpError α :=
  Method.focus Prod.fst (fun client parties => (client, parties.2)) m

/-- A call of the server. -/
def onServer (m : Method (ServerHandshake P) LlpError α) :
    Method (ClientHandshake P × ServerHandshake P) LlpError α :=
  Method.focus Prod.snd (fun server parties => (parties.1, server)) m

theorem onClient_ok {m : Method (ClientHandshake P) LlpError α} {c c' : ClientHandshake P} {a : α}
    (h : m c = .ok a c') (s : ServerHandshake P) : onClient m (c, s) = .ok a (c', s) :=
  Method.focus_ok h

theorem onServer_ok {m : Method (ServerHandshake P) LlpError α} {s s' : ServerHandshake P} {a : α}
    (h : m s = .ok a s') (c : ClientHandshake P) : onServer m (c, s) = .ok a (c, s') :=
  Method.focus_ok h

/-- The four messages, in order. It returns the session id that the client was told, and the
    profile that the server was. -/
def exchange (clientRandom serverRandom : Arr 32) :
    Method (ClientHandshake P × ServerHandshake P) LlpError (UInt64 × MimicryProfile) := do
  let clientHello ← onClient (ClientHandshake.start clientRandom)
  let (serverHello, profile) ←
    onServer (ServerHandshake.processClientHello serverRandom clientHello)
  let sessionId ← onClient (ClientHandshake.processServerHello serverHello)
  let clientVerify ← onClient ClientHandshake.sendClientVerify
  onServer (ServerHandshake.processClientVerify clientVerify)
  let serverVerify ← onServer ServerHandshake.sendServerVerify
  onClient (ClientHandshake.processServerVerify serverVerify)
  pure (sessionId, profile)

/-- The key of two secrets, as the client computes it. -/
def sharedKey (P : Primitives) (clientSecret serverSecret : Arr 32) (ch : ClientHello)
    (sh : ServerHello) : SessionKey :=
  deriveSessionKey P (P.diffieHellman clientSecret (P.publicKey serverSecret)) (sessionSalt ch sh)
    HKDF_INFO

/-- The client, once it has sent its hello. -/
def clientGreeted (P : Primitives) (secret : Arr 32) (profile : MimicryProfile)
    (ch : ClientHello) : ClientHandshake P :=
  { ClientHandshake.new P secret profile with
    clientHello := some ch
    state := .clientHelloSent }

/-- The client in a state after the hellos. -/
def clientAt (P : Primitives) (secret : Arr 32) (profile : MimicryProfile) (ch : ClientHello)
    (sh : ServerHello) (key : SessionKey) (state : HandshakeState) : ClientHandshake P :=
  { ClientHandshake.new P secret profile with
    clientHello := some ch
    serverHello := some sh
    sessionKey := some key
    state := state }

/-- The server in a state after the hellos. -/
def serverAt (P : Primitives) (secret : Arr 32) (sessionId : UInt64) (ch : ClientHello)
    (sh : ServerHello) (key : SessionKey) (state : HandshakeState) : ServerHandshake P :=
  { ServerHandshake.new P secret sessionId with
    clientHello := some ch
    serverHello := some sh
    sessionKey := some key
    state := state }

/-- The server answers a CLIENT_HELLO with the client's key. -/
theorem processClientHello_shared (hdh : Commutes P) (clientSecret serverSecret : Arr 32)
    (clientRandom serverRandom : Arr 32) (profile : MimicryProfile) (sessionId : UInt64) :
    let ch := ClientHello.new clientRandom (X25519Key.generate P clientSecret) profile
    let sh := ServerHello.new serverRandom (X25519Key.generate P serverSecret) sessionId
    ServerHandshake.processClientHello serverRandom ch.serialize
        (ServerHandshake.new P serverSecret sessionId) =
      .ok (sh.serialize, profile) (serverAt P serverSecret sessionId ch sh
        (sharedKey P clientSecret serverSecret ch sh) .serverHelloSent) := by
  intro ch sh
  have hkey : deriveSessionKey P (P.diffieHellman serverSecret (P.publicKey clientSecret))
      (sessionSalt ch sh) HKDF_INFO = sharedKey P clientSecret serverSecret ch sh := by
    rw [hdh, sharedKey]
  rw [← hkey]
  exact ServerHandshake.processClientHello_run serverRandom rfl
    (ClientHello.deserialize_serialize ch)

section Calls

variable {clientSecret serverSecret : Arr 32} {profile : MimicryProfile} {sessionId : UInt64}
  {ch : ClientHello} {sh : ServerHello} {key : SessionKey}

theorem start_shared (clientSecret clientRandom : Arr 32) (profile : MimicryProfile) :
    let ch := ClientHello.new clientRandom (X25519Key.generate P clientSecret) profile
    ClientHandshake.start clientRandom (ClientHandshake.new P clientSecret profile) =
      .ok ch.serialize (clientGreeted P clientSecret profile ch) :=
  ClientHandshake.start_run clientRandom rfl

theorem processServerHello_shared (clientSecret serverSecret serverRandom : Arr 32)
    (profile : MimicryProfile) (sessionId : UInt64) (ch : ClientHello) :
    let sh := ServerHello.new serverRandom (X25519Key.generate P serverSecret) sessionId
    ClientHandshake.processServerHello sh.serialize (clientGreeted P clientSecret profile ch) =
      .ok sessionId (clientAt P clientSecret profile ch sh
        (sharedKey P clientSecret serverSecret ch sh) .serverHelloReceived) :=
  ClientHandshake.processServerHello_run rfl rfl (ServerHello.deserialize_serialize _)

theorem sendClientVerify_shared :
    ClientHandshake.sendClientVerify
        (clientAt P clientSecret profile ch sh key .serverHelloReceived) =
      .ok (ClientVerify.new P key (ch.serialize ++ sh.serialize)).serialize
        (clientAt P clientSecret profile ch sh key .clientVerifySent) :=
  ClientHandshake.sendClientVerify_run rfl rfl rfl rfl

theorem processClientVerify_shared :
    ServerHandshake.processClientVerify
        (ClientVerify.new P key (ch.serialize ++ sh.serialize)).serialize
        (serverAt P serverSecret sessionId ch sh key .serverHelloSent) =
      .ok () (serverAt P serverSecret sessionId ch sh key .clientVerifyReceived) :=
  ServerHandshake.processClientVerify_run rfl rfl rfl rfl (ClientVerify.deserialize_serialize _)

theorem sendServerVerify_shared :
    ServerHandshake.sendServerVerify
        (serverAt P serverSecret sessionId ch sh key .clientVerifyReceived) =
      .ok (ServerVerify.new P key (ch.serialize ++ sh.serialize)).serialize
        (serverAt P serverSecret sessionId ch sh key .completed) :=
  ServerHandshake.sendServerVerify_run rfl rfl rfl rfl

theorem processServerVerify_shared :
    ClientHandshake.processServerVerify
        (ServerVerify.new P key (ch.serialize ++ sh.serialize)).serialize
        (clientAt P clientSecret profile ch sh key .clientVerifySent) =
      .ok () (clientAt P clientSecret profile ch sh key .completed) :=
  ClientHandshake.processServerVerify_run rfl rfl rfl rfl (ServerVerify.deserialize_serialize _)

end Calls

/-- **Honest handshakes complete and agree.** -/
theorem exchange_completes (hdh : Commutes P) (clientSecret serverSecret : Arr 32)
    (clientRandom serverRandom : Arr 32) (profile : MimicryProfile) (sessionId : UInt64) :
    ∃ c s, exchange clientRandom serverRandom (ClientHandshake.new P clientSecret profile,
        ServerHandshake.new P serverSecret sessionId) = .ok (sessionId, profile) (c, s) ∧
      c.state = .completed ∧ s.state = .completed ∧
      ∃ key, c.sessionKey? = some key ∧ s.sessionKey? = some key := by
  let ch := ClientHello.new clientRandom (X25519Key.generate P clientSecret) profile
  let sh := ServerHello.new serverRandom (X25519Key.generate P serverSecret) sessionId
  let key := sharedKey P clientSecret serverSecret ch sh
  refine ⟨clientAt P clientSecret profile ch sh key .completed,
    serverAt P serverSecret sessionId ch sh key .completed, ?_, rfl, rfl, key, rfl, rfl⟩
  unfold exchange
  rw [Method.bind_ok (onClient_ok (start_shared clientSecret clientRandom profile) _),
    Method.bind_ok (onServer_ok (processClientHello_shared hdh clientSecret serverSecret
      clientRandom serverRandom profile sessionId) _)]
  dsimp only
  rw [Method.bind_ok (onClient_ok (processServerHello_shared clientSecret serverSecret serverRandom
      profile sessionId ch) _),
    Method.bind_ok (onClient_ok sendClientVerify_shared _),
    Method.bind_ok (onServer_ok processClientVerify_shared _),
    Method.bind_ok (onServer_ok sendServerVerify_shared _),
    Method.bind_ok (onClient_ok processServerVerify_shared _), Method.pure_apply]

end Exchange

section Sample

theorem samplePrimitives_commutes : Commutes samplePrimitives := by
  intro a b
  show fit (List.zipWith (· + ·) a.toList b.toList) = fit (List.zipWith (· + ·) b.toList a.toList)
  rw [List.zipWith_comm]
  simp only [UInt8.add_comm]

theorem exchange_completes_sample :
    ∃ c s, exchange (List.Vector.replicate 32 3) (List.Vector.replicate 32 4)
        (ClientHandshake.new samplePrimitives (List.Vector.replicate 32 1) .ruTube,
          ServerHandshake.new samplePrimitives (List.Vector.replicate 32 2) 12345) =
        .ok (12345, .ruTube) (c, s) ∧
      c.state = .completed ∧ s.state = .completed ∧
      ∃ key, c.sessionKey? = some key ∧ s.sessionKey? = some key :=
  exchange_completes samplePrimitives_commutes _ _ _ _ _ _

end Sample

end Llp.Security
