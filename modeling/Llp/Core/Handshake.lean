/-
  `llp-core/handshake.rs`: the handshake messages and the two state machines.

  CLIENT_HELLO, SERVER_HELLO, CLIENT_VERIFY, SERVER_VERIFY. Both sides derive the session key
  from X25519 and HKDF; the transcript that the two HMACs cover is the two hellos, serialized
  again from the stored messages. `unwrap` of a missing hello or key panics.

  * `ClientHello.serialize_inj`, `ServerHello.serialize_inj`, `transcript_inj`: the bytes of
    the hellos, and of a transcript, determine the messages.
  * one `_cases` theorem for each call: it goes through, and what it then returns and writes,
    or it fails and changes nothing.
-/
import Llp.Core.Crypto
import Llp.Core.Packet

namespace Llp
open ByteCodec

def X25519_KEY_SIZE : ℕ := 32

def RANDOM_SIZE : ℕ := 32

def HMAC_TAG_SIZE : ℕ := 32

/-- `b"llp-session-key-v1"`. -/
def HKDF_INFO : Bytes := "llp-session-key-v1".toUTF8.toList

/-! ## Messages -/

/-- `HandshakeMessageType`. -/
inductive HandshakeMessageType where
  | clientHello
  | serverHello
  | clientVerify
  | serverVerify
deriving DecidableEq, Repr

namespace HandshakeMessageType

/-- `as u8`. -/
def toU8 : HandshakeMessageType → UInt8
  | clientHello => 1
  | serverHello => 2
  | clientVerify => 3
  | serverVerify => 4

/-- `from_u8`. -/
def fromU8 (value : UInt8) : Option HandshakeMessageType :=
  if value = 1 then some clientHello
  else if value = 2 then some serverHello
  else if value = 3 then some clientVerify
  else if value = 4 then some serverVerify
  else none

/-- The name of the type in `UnexpectedMessage`. -/
def name : HandshakeMessageType → String
  | clientHello => "CLIENT_HELLO"
  | serverHello => "SERVER_HELLO"
  | clientVerify => "CLIENT_VERIFY"
  | serverVerify => "SERVER_VERIFY"

theorem fromU8_eq_some {value : UInt8} {t : HandshakeMessageType} (h : fromU8 value = some t) :
    value = t.toU8 := by
  unfold fromU8 at h
  split at h
  · next hv =>
      cases h
      exact hv
  · split at h
    · next hv =>
        cases h
        exact hv
    · split at h
      · next hv =>
          cases h
          exact hv
      · split at h
        · next hv =>
            cases h
            exact hv
        · cases h

end HandshakeMessageType

/-- Read the type byte; the four `deserialize` functions begin so. -/
def readType (expected : HandshakeMessageType) : Method Bytes LlpError Unit := do
  let msgType ← Cursor.getU8
  Method.failIf (HandshakeMessageType.fromU8 msgType ≠ some expected)
    (.handshakeError (.unexpectedMessage expected.name s!"type {msgType}"))

theorem readType_cons (expected : HandshakeMessageType) (msgType : UInt8) (rest : Bytes) :
    readType expected (msgType :: rest) =
      if HandshakeMessageType.fromU8 msgType = some expected then .ok () rest
      else .error (.err (.handshakeError
        (.unexpectedMessage expected.name s!"type {msgType}"))) rest := by
  unfold readType
  rw [Method.bind_ok (Cursor.getU8_cons msgType rest)]
  split
  · next h => exact Method.failIf_neg _ (not_not.mpr h) _
  · next h => exact Method.failIf_pos _ h _

/-- `ClientHello`. -/
structure ClientHello where
  clientPublicKey : Arr 32
  clientRandom : Arr 32
  mimicryProfile : MimicryProfile
deriving DecidableEq

namespace ClientHello

/-- `ClientHello::new`, with 32 random bytes. -/
def new {P : Primitives} (clientRandom : Arr 32) (clientKey : X25519Key P)
    (mimicryProfile : MimicryProfile) : ClientHello :=
  ⟨clientKey.publicKey, clientRandom, mimicryProfile⟩

/-- `ClientHello::serialize`. -/
def serialize (self : ClientHello) : Bytes :=
  HandshakeMessageType.clientHello.toU8 :: (self.clientPublicKey.toList ++
    (self.clientRandom.toList ++ toBE 2 self.mimicryProfile.toU16.toNat))

/-- `ClientHello::deserialize`. -/
def deserialize (data : Bytes) : Fallible LlpError ClientHello :=
  if data.length < 1 + X25519_KEY_SIZE + RANDOM_SIZE + 2 then
    .error (.err (.handshakeError .invalidMessageFormat))
  else Method.eval (do
    readType .clientHello
    let clientPublicKey ← Cursor.take X25519_KEY_SIZE
    let clientRandom ← Cursor.take RANDOM_SIZE
    let profileId ← Cursor.getU16
    let mimicryProfile ← Method.okOr (.handshakeError (.unsupportedMimicryProfile profileId))
      (MimicryProfile.fromU16 profileId)
    pure { clientPublicKey, clientRandom, mimicryProfile }) data

/-- What parses as a CLIENT_HELLO has its type byte and at least its length. -/
theorem deserialize_ok {data : Bytes} {m : ClientHello} (h : deserialize data = .ok m) :
    ∃ rest, data = HandshakeMessageType.clientHello.toU8 :: rest ∧ 66 ≤ rest.length := by
  unfold deserialize at h
  split at h
  · cases h
  · next hlen =>
      simp only [X25519_KEY_SIZE, RANDOM_SIZE, Nat.not_lt] at hlen
      obtain ⟨t, ht⟩ := Method.eval_eq_ok h
      obtain ⟨u, v, hread, -⟩ := Method.bind_eq_ok ht
      cases data with
      | nil => simp at hlen
      | cons msgType rest =>
          rw [readType_cons] at hread
          split at hread
          · next htype =>
              refine ⟨rest, ?_, by simpa using hlen⟩
              rw [HandshakeMessageType.fromU8_eq_some htype]
          · cases hread

@[simp] theorem serialize_length (m : ClientHello) : m.serialize.length = 67 := by
  simp [serialize]

theorem serialize_inj {m n : ClientHello} (h : m.serialize = n.serialize) : m = n := by
  obtain ⟨hkey, h⟩ := List.append_inj (List.cons.inj h).2 (by simp)
  obtain ⟨hrandom, hprofile⟩ := List.append_inj h (by simp)
  cases m
  cases n
  simp only [mk.injEq]
  exact ⟨Subtype.ext hkey, Subtype.ext hrandom,
    MimicryProfile.toU16_inj (u16_toBE_inj hprofile)⟩

end ClientHello

/-- `ServerHello`. -/
structure ServerHello where
  serverPublicKey : Arr 32
  serverRandom : Arr 32
  sessionId : UInt64
deriving DecidableEq

namespace ServerHello

/-- `ServerHello::new`, with 32 random bytes. -/
def new {P : Primitives} (serverRandom : Arr 32) (serverKey : X25519Key P)
    (sessionId : UInt64) : ServerHello :=
  ⟨serverKey.publicKey, serverRandom, sessionId⟩

/-- `ServerHello::serialize`. -/
def serialize (self : ServerHello) : Bytes :=
  HandshakeMessageType.serverHello.toU8 :: (self.serverPublicKey.toList ++
    (self.serverRandom.toList ++ toBE 8 self.sessionId.toNat))

/-- `ServerHello::deserialize`. -/
def deserialize (data : Bytes) : Fallible LlpError ServerHello :=
  if data.length < 1 + X25519_KEY_SIZE + RANDOM_SIZE + 8 then
    .error (.err (.handshakeError .invalidMessageFormat))
  else Method.eval (do
    readType .serverHello
    let serverPublicKey ← Cursor.take X25519_KEY_SIZE
    let serverRandom ← Cursor.take RANDOM_SIZE
    let sessionId ← Cursor.getU64
    pure { serverPublicKey, serverRandom, sessionId }) data

@[simp] theorem serialize_length (m : ServerHello) : m.serialize.length = 73 := by
  simp [serialize]

theorem serialize_inj {m n : ServerHello} (h : m.serialize = n.serialize) : m = n := by
  obtain ⟨hkey, h⟩ := List.append_inj (List.cons.inj h).2 (by simp)
  obtain ⟨hrandom, hid⟩ := List.append_inj h (by simp)
  cases m
  cases n
  simp only [mk.injEq]
  exact ⟨Subtype.ext hkey, Subtype.ext hrandom, u64_toBE_inj hid⟩

end ServerHello

/-- The bytes of the two hellos in a row determine both. -/
theorem transcript_inj {c c' : ClientHello} {s s' : ServerHello}
    (h : c.serialize ++ s.serialize = c'.serialize ++ s'.serialize) : c = c' ∧ s = s' := by
  obtain ⟨hc, hs⟩ := List.append_inj h (by simp)
  exact ⟨ClientHello.serialize_inj hc, ServerHello.serialize_inj hs⟩

/-- A verify message: the type byte and an HMAC tag. -/
def serializeVerify (msgType : HandshakeMessageType) (hmacTag : Arr 32) : Bytes :=
  msgType.toU8 :: hmacTag.toList

/-- The tag of a verify message of the given type. -/
def deserializeVerify (msgType : HandshakeMessageType) (data : Bytes) :
    Fallible LlpError (Arr 32) :=
  if data.length < 1 + HMAC_TAG_SIZE then .error (.err (.handshakeError .invalidMessageFormat))
  else Method.eval (do
    readType msgType
    Cursor.take HMAC_TAG_SIZE) data

/-- Compare a tag with the HMAC of the transcript. -/
def verifyTag (P : Primitives) (hmacTag : Arr 32) (sessionKey : SessionKey) (transcript : Bytes) :
    Fallible LlpError Unit :=
  if !verifyHmacSha256 P sessionKey.bytes.toList transcript hmacTag.toList then
    .error (.err (.handshakeError .verificationFailed))
  else .ok ()

theorem verifyTag_ok {P : Primitives} {hmacTag : Arr 32} {sessionKey : SessionKey}
    {transcript : Bytes} (h : verifyTag P hmacTag sessionKey transcript = .ok ()) :
    hmacTag = hmacSha256 P sessionKey.bytes.toList transcript := by
  unfold verifyTag at h
  split at h
  · cases h
  · next hno =>
      simp only [verifyHmacSha256, Bool.not_eq_true', decide_eq_false_iff_not, not_not] at hno
      exact Subtype.ext hno.symm

/-- `ClientVerify`. -/
structure ClientVerify where
  hmacTag : Arr 32
deriving DecidableEq

namespace ClientVerify

/-- `ClientVerify::new`. -/
def new (P : Primitives) (sessionKey : SessionKey) (transcript : Bytes) : ClientVerify :=
  ⟨hmacSha256 P sessionKey.bytes.toList transcript⟩

/-- `ClientVerify::serialize`. -/
def serialize (self : ClientVerify) : Bytes := serializeVerify .clientVerify self.hmacTag

/-- `ClientVerify::deserialize`. -/
def deserialize (data : Bytes) : Fallible LlpError ClientVerify :=
  ClientVerify.mk <$> deserializeVerify .clientVerify data

/-- `ClientVerify::verify`. -/
def verify (P : Primitives) (self : ClientVerify) (sessionKey : SessionKey) (transcript : Bytes) :
    Fallible LlpError Unit :=
  verifyTag P self.hmacTag sessionKey transcript

end ClientVerify

/-- `ServerVerify`. -/
structure ServerVerify where
  hmacTag : Arr 32
deriving DecidableEq

namespace ServerVerify

/-- `ServerVerify::new`. -/
def new (P : Primitives) (sessionKey : SessionKey) (transcript : Bytes) : ServerVerify :=
  ⟨hmacSha256 P sessionKey.bytes.toList transcript⟩

/-- `ServerVerify::serialize`. -/
def serialize (self : ServerVerify) : Bytes := serializeVerify .serverVerify self.hmacTag

/-- `ServerVerify::deserialize`. -/
def deserialize (data : Bytes) : Fallible LlpError ServerVerify :=
  ServerVerify.mk <$> deserializeVerify .serverVerify data

/-- `ServerVerify::verify`. -/
def verify (P : Primitives) (self : ServerVerify) (sessionKey : SessionKey) (transcript : Bytes) :
    Fallible LlpError Unit :=
  verifyTag P self.hmacTag sessionKey transcript

end ServerVerify

/-! ## States -/

/-- `HandshakeState`. -/
inductive HandshakeState where
  | initial
  | clientHelloSent
  | serverHelloReceived
  | clientVerifySent
  | completed
  | clientHelloReceived
  | serverHelloSent
  | clientVerifyReceived
deriving DecidableEq, Repr

/-- The state as `{:?}` prints it. -/
def HandshakeState.debug : HandshakeState → String
  | initial => "Initial"
  | clientHelloSent => "ClientHelloSent"
  | serverHelloReceived => "ServerHelloReceived"
  | clientVerifySent => "ClientVerifySent"
  | completed => "Completed"
  | clientHelloReceived => "ClientHelloReceived"
  | serverHelloSent => "ServerHelloSent"
  | clientVerifyReceived => "ClientVerifyReceived"

/-- The error of a call in the wrong state. -/
def invalidState (expected got : HandshakeState) : LlpError :=
  .handshakeError (.invalidState s!"Expected {expected.debug}, got {got.debug}")

/-- The salt of the session key. -/
def sessionSalt (clientHello : ClientHello) (serverHello : ServerHello) : Bytes :=
  clientHello.clientRandom.toList ++ serverHello.serverRandom.toList

/-- `build_transcript`, on the stored hellos. -/
def buildTranscript (clientHello : Option ClientHello) (serverHello : Option ServerHello) :
    Fallible LlpError Bytes := do
  let clientHello ← clientHello.unwrap
  let serverHello ← serverHello.unwrap
  pure (clientHello.serialize ++ serverHello.serialize)

/-! ### What the verify calls share -/

section Verify

variable {σ ν : Type} (clientHello : Option ClientHello) (serverHello : Option ServerHello)
  (sessionKey : Option SessionKey)

/-- A call that outputs an HMAC of the stored transcript goes through with the hellos and the
    key there, and panics without. -/
theorem sendVerify_cases (message : SessionKey → Bytes → Bytes) (s s' : σ) :
    let call : Method σ LlpError Bytes := do
      let transcript ← Method.lift (buildTranscript clientHello serverHello)
      let sessionKey ← Method.lift sessionKey.unwrap
      let message := message sessionKey transcript
      set s'
      pure message
    (∃ ch sh key, clientHello = some ch ∧ serverHello = some sh ∧ sessionKey = some key ∧
      call s = .ok (message key (ch.serialize ++ sh.serialize)) s') ∨
    ∃ e, call s = .error e s := by
  cases clientHello with
  | none => exact Or.inr ⟨.panic, rfl⟩
  | some ch =>
      cases serverHello with
      | none => exact Or.inr ⟨.panic, rfl⟩
      | some sh =>
          cases sessionKey with
          | none => exact Or.inr ⟨.panic, rfl⟩
          | some key => exact Or.inl ⟨ch, sh, key, rfl, rfl, rfl, rfl⟩

/-- A call that checks a received tag, on a message whose tag verifies. -/
theorem processVerify_run {ch : ClientHello} {sh : ServerHello} {key : SessionKey} {v : ν}
    {verify : ν → SessionKey → Bytes → Fallible LlpError Unit}
    (hverify : verify v key (ch.serialize ++ sh.serialize) = .ok ()) (s s' : σ) :
    let call : Method σ LlpError Unit := do
      let received ← Method.lift (.ok v)
      let transcript ← Method.lift (buildTranscript (some ch) (some sh))
      let sessionKey ← Method.lift (some key).unwrap
      Method.lift (verify received sessionKey transcript)
      set s'
    call s = .ok () s' := by
  -- what is left of the call is the check and the write
  let rest : Method σ LlpError Unit :=
    Method.lift (verify v key (ch.serialize ++ sh.serialize)) >>= fun _ => set s'
  have hrun : rest s = .ok () s' := by
    simp only [rest, hverify]
    rfl
  exact hrun

/-- A call that checks a received tag against the stored transcript goes through when the
    message parses and its tag verifies. -/
theorem processVerify_cases (received : Fallible LlpError ν)
    (verify : ν → SessionKey → Bytes → Fallible LlpError Unit) (s s' : σ) :
    let call : Method σ LlpError Unit := do
      let received ← Method.lift received
      let transcript ← Method.lift (buildTranscript clientHello serverHello)
      let sessionKey ← Method.lift sessionKey.unwrap
      Method.lift (verify received sessionKey transcript)
      set s'
    (∃ ch sh key v, clientHello = some ch ∧ serverHello = some sh ∧ sessionKey = some key ∧
      received = .ok v ∧ verify v key (ch.serialize ++ sh.serialize) = .ok () ∧
      call s = .ok () s') ∨
    ∃ e, call s = .error e s := by
  cases received with
  | error e => exact Or.inr ⟨e, rfl⟩
  | ok v =>
      cases clientHello with
      | none => exact Or.inr ⟨.panic, rfl⟩
      | some ch =>
          cases serverHello with
          | none => exact Or.inr ⟨.panic, rfl⟩
          | some sh =>
              cases sessionKey with
              | none => exact Or.inr ⟨.panic, rfl⟩
              | some key =>
                  let rest : Method σ LlpError Unit :=
                    Method.lift (verify v key (ch.serialize ++ sh.serialize)) >>= fun _ => set s'
                  cases hok : verify v key (ch.serialize ++ sh.serialize) with
                  | error e =>
                      have herr : rest s = .error e s := by
                        simp only [rest, hok]
                        rfl
                      exact Or.inr ⟨e, herr⟩
                  | ok u =>
                      exact Or.inl ⟨ch, sh, key, v, rfl, rfl, rfl, rfl, hok,
                        processVerify_run hok s s'⟩

end Verify

/-! ## The client -/

/-- `ClientHandshake`. -/
structure ClientHandshake (P : Primitives) where
  state : HandshakeState
  clientKey : X25519Key P
  mimicryProfile : MimicryProfile
  clientHello : Option ClientHello
  serverHello : Option ServerHello
  sessionKey : Option SessionKey

namespace ClientHandshake

variable {P : Primitives}

/-- `ClientHandshake::new`, with a random X25519 secret. -/
def new (P : Primitives) (secret : Arr 32) (mimicryProfile : MimicryProfile) :
    ClientHandshake P where
  state := .initial
  clientKey := X25519Key.generate P secret
  mimicryProfile := mimicryProfile
  clientHello := none
  serverHello := none
  sessionKey := none

/-- `start`, with 32 random bytes. -/
def start (clientRandom : Arr 32) : Method (ClientHandshake P) LlpError Bytes := do
  let self ← get
  Method.failIf (self.state ≠ .initial) (invalidState .initial self.state)
  let clientHello := ClientHello.new clientRandom self.clientKey self.mimicryProfile
  let message := clientHello.serialize
  set { self with clientHello := some clientHello, state := .clientHelloSent }
  pure message

/-- `process_server_hello`. -/
def processServerHello (data : Bytes) : Method (ClientHandshake P) LlpError UInt64 := do
  let self ← get
  Method.failIf (self.state ≠ .clientHelloSent) (invalidState .clientHelloSent self.state)
  let serverHello ← Method.lift (ServerHello.deserialize data)
  let sharedSecret := self.clientKey.diffieHellman P serverHello.serverPublicKey
  let clientHello ← Method.lift self.clientHello.unwrap
  let sessionKey := deriveSessionKey P sharedSecret (sessionSalt clientHello serverHello) HKDF_INFO
  set { self with
    serverHello := some serverHello
    sessionKey := some sessionKey
    state := .serverHelloReceived }
  pure serverHello.sessionId

/-- `send_client_verify`. -/
def sendClientVerify : Method (ClientHandshake P) LlpError Bytes := do
  let self ← get
  Method.failIf (self.state ≠ .serverHelloReceived)
    (invalidState .serverHelloReceived self.state)
  let transcript ← Method.lift (buildTranscript self.clientHello self.serverHello)
  let sessionKey ← Method.lift self.sessionKey.unwrap
  let message := (ClientVerify.new P sessionKey transcript).serialize
  set { self with state := .clientVerifySent }
  pure message

/-- `process_server_verify`. -/
def processServerVerify (data : Bytes) : Method (ClientHandshake P) LlpError Unit := do
  let self ← get
  Method.failIf (self.state ≠ .clientVerifySent) (invalidState .clientVerifySent self.state)
  let serverVerify ← Method.lift (ServerVerify.deserialize data)
  let transcript ← Method.lift (buildTranscript self.clientHello self.serverHello)
  let sessionKey ← Method.lift self.sessionKey.unwrap
  Method.lift (serverVerify.verify P sessionKey transcript)
  set { self with state := .completed }

/-- `session_key()`: the key, once the handshake is complete. -/
def sessionKey? (self : ClientHandshake P) : Option SessionKey :=
  if self.state = .completed then self.sessionKey else none

/-- `is_completed`. -/
def isCompleted (self : ClientHandshake P) : Bool := self.state = .completed

/-! ### One call: it goes through, or it fails and changes nothing -/

theorem start_cases (clientRandom : Arr 32) (c : ClientHandshake P) :
    (c.state = .initial ∧
      start clientRandom c =
        .ok (ClientHello.new clientRandom c.clientKey c.mimicryProfile).serialize
          { c with
            clientHello := some (ClientHello.new clientRandom c.clientKey c.mimicryProfile)
            state := .clientHelloSent }) ∨
    ∃ e, start clientRandom c = .error e c := by
  unfold start
  rw [Method.get_bind]
  by_cases hstate : c.state = .initial
  · rw [Method.bind_ok (Method.failIf_neg _ (not_not.mpr hstate) _)]
    exact Or.inl ⟨hstate, rfl⟩
  · exact Or.inr ⟨_, Method.bind_error (Method.failIf_pos _ hstate _)⟩

theorem processServerHello_cases (data : Bytes) (c : ClientHandshake P) :
    (∃ ch sh, c.state = .clientHelloSent ∧ ServerHello.deserialize data = .ok sh ∧
      c.clientHello = some ch ∧
      processServerHello data c = .ok sh.sessionId
        { c with
          serverHello := some sh
          sessionKey := some (deriveSessionKey P
            (c.clientKey.diffieHellman P sh.serverPublicKey) (sessionSalt ch sh) HKDF_INFO)
          state := .serverHelloReceived }) ∨
    ∃ e, processServerHello data c = .error e c := by
  unfold processServerHello
  rw [Method.get_bind]
  by_cases hstate : c.state = .clientHelloSent
  · rw [Method.bind_ok (Method.failIf_neg _ (not_not.mpr hstate) _)]
    cases hsh : ServerHello.deserialize data with
    | error e => exact Or.inr ⟨e, rfl⟩
    | ok sh =>
        cases hch : c.clientHello with
        | none => exact Or.inr ⟨.panic, rfl⟩
        | some ch => exact Or.inl ⟨ch, sh, hstate, rfl, rfl, rfl⟩
  · exact Or.inr ⟨_, Method.bind_error (Method.failIf_pos _ hstate _)⟩

theorem sendClientVerify_cases (c : ClientHandshake P) :
    (∃ ch sh key, c.state = .serverHelloReceived ∧ c.clientHello = some ch ∧
      c.serverHello = some sh ∧ c.sessionKey = some key ∧
      sendClientVerify c =
        .ok (ClientVerify.new P key (ch.serialize ++ sh.serialize)).serialize
          { c with state := .clientVerifySent }) ∨
    ∃ e, sendClientVerify c = .error e c := by
  unfold sendClientVerify
  rw [Method.get_bind]
  by_cases hstate : c.state = .serverHelloReceived
  · rw [Method.bind_ok (Method.failIf_neg _ (not_not.mpr hstate) _)]
    rcases sendVerify_cases c.clientHello c.serverHello c.sessionKey
      (fun key transcript => (ClientVerify.new P key transcript).serialize) c
      { c with state := .clientVerifySent } with ⟨ch, sh, key, hch, hsh, hkey, hrun⟩ | ⟨e, herr⟩
    · exact Or.inl ⟨ch, sh, key, hstate, hch, hsh, hkey, hrun⟩
    · exact Or.inr ⟨e, herr⟩
  · exact Or.inr ⟨_, Method.bind_error (Method.failIf_pos _ hstate _)⟩

theorem processServerVerify_cases (data : Bytes) (c : ClientHandshake P) :
    (∃ ch sh key v, c.state = .clientVerifySent ∧ c.clientHello = some ch ∧
      c.serverHello = some sh ∧ c.sessionKey = some key ∧
      ServerVerify.deserialize data = .ok v ∧
      v.verify P key (ch.serialize ++ sh.serialize) = .ok () ∧
      processServerVerify data c = .ok () { c with state := .completed }) ∨
    ∃ e, processServerVerify data c = .error e c := by
  unfold processServerVerify
  rw [Method.get_bind]
  by_cases hstate : c.state = .clientVerifySent
  · rw [Method.bind_ok (Method.failIf_neg _ (not_not.mpr hstate) _)]
    rcases processVerify_cases c.clientHello c.serverHello c.sessionKey
      (ServerVerify.deserialize data) (fun v => v.verify P) c { c with state := .completed } with
      ⟨ch, sh, key, v, hch, hsh, hkey, hv, hok, hrun⟩ | ⟨e, herr⟩
    · exact Or.inl ⟨ch, sh, key, v, hstate, hch, hsh, hkey, hv, hok, hrun⟩
    · exact Or.inr ⟨e, herr⟩
  · exact Or.inr ⟨_, Method.bind_error (Method.failIf_pos _ hstate _)⟩

end ClientHandshake

/-! ## The server -/

/-- `ServerHandshake`. -/
structure ServerHandshake (P : Primitives) where
  state : HandshakeState
  serverKey : X25519Key P
  sessionId : UInt64
  clientHello : Option ClientHello
  serverHello : Option ServerHello
  sessionKey : Option SessionKey

namespace ServerHandshake

variable {P : Primitives}

/-- `ServerHandshake::new`, with a random X25519 secret. -/
def new (P : Primitives) (secret : Arr 32) (sessionId : UInt64) : ServerHandshake P where
  state := .initial
  serverKey := X25519Key.generate P secret
  sessionId := sessionId
  clientHello := none
  serverHello := none
  sessionKey := none

/-- `process_client_hello`, with 32 random bytes. -/
def processClientHello (serverRandom : Arr 32) (data : Bytes) :
    Method (ServerHandshake P) LlpError (Bytes × MimicryProfile) := do
  let self ← get
  Method.failIf (self.state ≠ .initial) (invalidState .initial self.state)
  let clientHello ← Method.lift (ClientHello.deserialize data)
  let sharedSecret := self.serverKey.diffieHellman P clientHello.clientPublicKey
  let serverHello := ServerHello.new serverRandom self.serverKey self.sessionId
  let sessionKey := deriveSessionKey P sharedSecret (sessionSalt clientHello serverHello) HKDF_INFO
  let message := serverHello.serialize
  set { self with
    clientHello := some clientHello
    serverHello := some serverHello
    sessionKey := some sessionKey
    state := .serverHelloSent }
  pure (message, clientHello.mimicryProfile)

/-- `process_client_verify`. -/
def processClientVerify (data : Bytes) : Method (ServerHandshake P) LlpError Unit := do
  let self ← get
  Method.failIf (self.state ≠ .serverHelloSent) (invalidState .serverHelloSent self.state)
  let clientVerify ← Method.lift (ClientVerify.deserialize data)
  let transcript ← Method.lift (buildTranscript self.clientHello self.serverHello)
  let sessionKey ← Method.lift self.sessionKey.unwrap
  Method.lift (clientVerify.verify P sessionKey transcript)
  set { self with state := .clientVerifyReceived }

/-- `send_server_verify`. -/
def sendServerVerify : Method (ServerHandshake P) LlpError Bytes := do
  let self ← get
  Method.failIf (self.state ≠ .clientVerifyReceived)
    (invalidState .clientVerifyReceived self.state)
  let transcript ← Method.lift (buildTranscript self.clientHello self.serverHello)
  let sessionKey ← Method.lift self.sessionKey.unwrap
  let message := (ServerVerify.new P sessionKey transcript).serialize
  set { self with state := .completed }
  pure message

/-- `session_key()`: the key, once the handshake is complete. -/
def sessionKey? (self : ServerHandshake P) : Option SessionKey :=
  if self.state = .completed then self.sessionKey else none

/-- `is_completed`. -/
def isCompleted (self : ServerHandshake P) : Bool := self.state = .completed

/-! ### One call: it goes through, or it fails and changes nothing -/

theorem processClientHello_cases (serverRandom : Arr 32) (data : Bytes) (s : ServerHandshake P) :
    (∃ ch, s.state = .initial ∧ ClientHello.deserialize data = .ok ch ∧
      processClientHello serverRandom data s =
        .ok ((ServerHello.new serverRandom s.serverKey s.sessionId).serialize, ch.mimicryProfile)
          { s with
            clientHello := some ch
            serverHello := some (ServerHello.new serverRandom s.serverKey s.sessionId)
            sessionKey := some (deriveSessionKey P
              (s.serverKey.diffieHellman P ch.clientPublicKey)
              (sessionSalt ch (ServerHello.new serverRandom s.serverKey s.sessionId)) HKDF_INFO)
            state := .serverHelloSent }) ∨
    ∃ e, processClientHello serverRandom data s = .error e s := by
  unfold processClientHello
  rw [Method.get_bind]
  by_cases hstate : s.state = .initial
  · rw [Method.bind_ok (Method.failIf_neg _ (not_not.mpr hstate) _)]
    cases hch : ClientHello.deserialize data with
    | error e => exact Or.inr ⟨e, rfl⟩
    | ok ch => exact Or.inl ⟨ch, hstate, rfl, rfl⟩
  · exact Or.inr ⟨_, Method.bind_error (Method.failIf_pos _ hstate _)⟩

theorem processClientVerify_cases (data : Bytes) (s : ServerHandshake P) :
    (∃ ch sh key v, s.state = .serverHelloSent ∧ s.clientHello = some ch ∧
      s.serverHello = some sh ∧ s.sessionKey = some key ∧
      ClientVerify.deserialize data = .ok v ∧
      v.verify P key (ch.serialize ++ sh.serialize) = .ok () ∧
      processClientVerify data s = .ok () { s with state := .clientVerifyReceived }) ∨
    ∃ e, processClientVerify data s = .error e s := by
  unfold processClientVerify
  rw [Method.get_bind]
  by_cases hstate : s.state = .serverHelloSent
  · rw [Method.bind_ok (Method.failIf_neg _ (not_not.mpr hstate) _)]
    rcases processVerify_cases s.clientHello s.serverHello s.sessionKey
      (ClientVerify.deserialize data) (fun v => v.verify P) s
      { s with state := .clientVerifyReceived } with
      ⟨ch, sh, key, v, hch, hsh, hkey, hv, hok, hrun⟩ | ⟨e, herr⟩
    · exact Or.inl ⟨ch, sh, key, v, hstate, hch, hsh, hkey, hv, hok, hrun⟩
    · exact Or.inr ⟨e, herr⟩
  · exact Or.inr ⟨_, Method.bind_error (Method.failIf_pos _ hstate _)⟩

/-- A CLIENT_HELLO that opens the handshake. -/
theorem processClientHello_ok (serverRandom : Arr 32) {data : Bytes} {ch : ClientHello}
    (hdata : ClientHello.deserialize data = .ok ch) {s : ServerHandshake P}
    (hstate : s.state = .initial) :
    ∃ t, processClientHello serverRandom data s =
        .ok ((ServerHello.new serverRandom s.serverKey s.sessionId).serialize,
          ch.mimicryProfile) t ∧
      t.serverHello = some (ServerHello.new serverRandom s.serverKey s.sessionId) ∧
      t.state = .serverHelloSent := by
  unfold processClientHello
  rw [Method.get_bind, Method.bind_ok (Method.failIf_neg _ (not_not.mpr hstate) _), hdata]
  exact ⟨_, rfl, rfl, rfl⟩

/-- A CLIENT_HELLO in place of the CLIENT_VERIFY. -/
theorem processClientVerify_hello {data : Bytes} {ch : ClientHello}
    (hdata : ClientHello.deserialize data = .ok ch) {s : ServerHandshake P}
    (hstate : s.state = .serverHelloSent) :
    processClientVerify data s =
      .error (.err (.handshakeError (.unexpectedMessage "CLIENT_VERIFY" "type 1"))) s := by
  obtain ⟨rest, rfl, hlen⟩ := ClientHello.deserialize_ok hdata
  have htag : deserializeVerify .clientVerify (HandshakeMessageType.clientHello.toU8 :: rest) =
      .error (.err (.handshakeError (.unexpectedMessage "CLIENT_VERIFY" "type 1"))) := by
    have hlong : ¬ (HandshakeMessageType.clientHello.toU8 :: rest).length < 1 + HMAC_TAG_SIZE := by
      simp only [HMAC_TAG_SIZE, List.length_cons]
      omega
    have hread := readType_cons .clientVerify HandshakeMessageType.clientHello.toU8 rest
    rw [if_neg (by decide)] at hread
    unfold deserializeVerify
    rw [if_neg hlong]
    exact congrArg Method.result (Method.bind_error hread)
  unfold processClientVerify
  rw [Method.get_bind, Method.bind_ok (Method.failIf_neg _ (not_not.mpr hstate) _),
    ClientVerify.deserialize, htag]
  rfl

theorem sendServerVerify_cases (s : ServerHandshake P) :
    (∃ ch sh key, s.state = .clientVerifyReceived ∧ s.clientHello = some ch ∧
      s.serverHello = some sh ∧ s.sessionKey = some key ∧
      sendServerVerify s =
        .ok (ServerVerify.new P key (ch.serialize ++ sh.serialize)).serialize
          { s with state := .completed }) ∨
    ∃ e, sendServerVerify s = .error e s := by
  unfold sendServerVerify
  rw [Method.get_bind]
  by_cases hstate : s.state = .clientVerifyReceived
  · rw [Method.bind_ok (Method.failIf_neg _ (not_not.mpr hstate) _)]
    rcases sendVerify_cases s.clientHello s.serverHello s.sessionKey
      (fun key transcript => (ServerVerify.new P key transcript).serialize) s
      { s with state := .completed } with ⟨ch, sh, key, hch, hsh, hkey, hrun⟩ | ⟨e, herr⟩
    · exact Or.inl ⟨ch, sh, key, hstate, hch, hsh, hkey, hrun⟩
    · exact Or.inr ⟨e, herr⟩
  · exact Or.inr ⟨_, Method.bind_error (Method.failIf_pos _ hstate _)⟩

/-- After the hellos no call changes the SERVER_HELLO. -/
theorem processClientVerify_serverHello (data : Bytes) (s : ServerHandshake P) :
    (Method.state (processClientVerify data s)).serverHello = s.serverHello := by
  rcases processClientVerify_cases data s with ⟨_, _, _, _, _, _, _, _, _, _, h⟩ | ⟨e, h⟩
  · rw [h, Method.state_ok]
  · rw [h, Method.state_error]

theorem sendServerVerify_serverHello (s : ServerHandshake P) :
    (Method.state (sendServerVerify s)).serverHello = s.serverHello := by
  rcases sendServerVerify_cases s with ⟨_, _, _, _, _, _, _, h⟩ | ⟨e, h⟩
  · rw [h, Method.state_ok]
  · rw [h, Method.state_error]

end ServerHandshake

end Llp
