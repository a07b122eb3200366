/-
  `client-csharp/LLPClient/Crypto/Handshake.cs`: the handshake of the C# client.

  The messages are byte arrays that the client fills and reads at offsets; words are turned
  around on a little-endian host. The transcript is put together from the fields of the
  SERVER_HELLO. X25519, HKDF and HMAC are parameters. So is `BouncyCastle`, which holds the keys:
  `BouncyCastle.Implements` is what the client relies on, and `copying` an instance of it.

  * `ClientHello.serialize_eq`, `ClientVerify.serialize_eq`, `buildTranscript_eq`: the bytes.
  * `ServerHello.deserialize_eq`, `ServerVerify.deserialize_eq`: what is read from any bytes.
  * one `_run` theorem for each call of the handshake, in the state that it is meant for.
  * `processServerVerify_iff`: a SERVER_VERIFY goes through with the right tag, and no other.
-/
import Llp.Core.Crypto
import Llp.CSharp.Runtime

namespace Llp.CSharp
open ByteCodec

/-- `HandshakeMessageType`. -/
inductive HandshakeMessageType where
  | clientHello
  | serverHello
  | clientVerify
  | serverVerify
deriving DecidableEq, Repr

/-- `(byte)`. -/
def HandshakeMessageType.value : HandshakeMessageType → UInt8
  | clientHello => 1
  | serverHello => 2
  | clientVerify => 3
  | serverVerify => 4

/-- `MimicryProfile`. -/
inductive MimicryProfile where
  | none
  | vkVideo
  | yandexMusic
  | ruTube
deriving DecidableEq, Repr

/-- `(ushort)`. -/
def MimicryProfile.value : MimicryProfile → UInt16
  | none => 0
  | vkVideo => 1
  | yandexMusic => 2
  | ruTube => 3

/-! ## Messages -/

section Messages

variable (P : Primitives) (isLittleEndian : Bool)

/-- `ClientHello`. -/
structure ClientHello where
  clientPublicKey : Bytes
  clientRandom : Bytes
  mimicryProfile : MimicryProfile
deriving DecidableEq

namespace ClientHello

def X25519_KEY_SIZE : ℕ := 32
def RANDOM_SIZE : ℕ := 32
def MESSAGE_SIZE : ℕ := 1 + X25519_KEY_SIZE + RANDOM_SIZE + 2

/-- The constructor; it draws the random bytes. -/
def new (clientRandom : Arr 32) (clientPublicKey : Bytes) (profile : MimicryProfile) :
    ClientHello :=
  ⟨clientPublicKey, clientRandom.toList, profile⟩

/-- `Serialize`. -/
def serialize (self : ClientHello) : Fallible Exception Bytes := do
  let buffer ← newArray MESSAGE_SIZE
  let buffer ← arraySet buffer 0 HandshakeMessageType.clientHello.value
  let buffer ← arrayCopy self.clientPublicKey 0 buffer 1 X25519_KEY_SIZE
  let buffer ← arrayCopy self.clientRandom 0 buffer (1 + X25519_KEY_SIZE) RANDOM_SIZE
  let profileBytes := reverseIfLittleEndian isLittleEndian
    (getBytes16 isLittleEndian self.mimicryProfile.value)
  let high ← arrayGet profileBytes 0
  let buffer ← arraySet buffer (1 + X25519_KEY_SIZE + RANDOM_SIZE) high
  let low ← arrayGet profileBytes 1
  arraySet buffer (1 + X25519_KEY_SIZE + RANDOM_SIZE + 1) low

end ClientHello

/-- `ServerHello`. -/
structure ServerHello where
  serverPublicKey : Bytes
  serverRandom : Bytes
  sessionId : UInt64
deriving DecidableEq

namespace ServerHello

def MESSAGE_SIZE : ℕ := 1 + 32 + 32 + 8

/-- `Deserialize`. -/
def deserialize (data : Bytes) : Fallible Exception ServerHello :=
  if data.length < MESSAGE_SIZE then
    .error (.err (.invalidData s!"SERVER_HELLO too short: {data.length} < {MESSAGE_SIZE}"))
  else do
    let msgType ← arrayGet data 0
    if msgType ≠ HandshakeMessageType.serverHello.value then
      .error (.err (.invalidData s!"Expected SERVER_HELLO (2), got {msgType}"))
    else do
      let serverPublicKey ← arrayCopy data 1 (List.replicate 32 0) 0 32
      let serverRandom ← arrayCopy data (1 + 32) (List.replicate 32 0) 0 32
      let sessionIdBytes ← arrayCopy data (1 + 32 + 32) (List.replicate 8 0) 0 8
      let sessionId := toUInt64 isLittleEndian (reverseIfLittleEndian isLittleEndian sessionIdBytes)
      .ok { serverPublicKey, serverRandom, sessionId }

end ServerHello

/-- `HMACSHA256.ComputeHash`. -/
def computeHash (key data : Bytes) : Bytes := (P.hmac key data).toList

def HMAC_TAG_SIZE : ℕ := 32

/-- `ClientVerify`. -/
structure ClientVerify where
  hmacTag : Bytes
deriving DecidableEq

namespace ClientVerify

def MESSAGE_SIZE : ℕ := 1 + HMAC_TAG_SIZE

/-- The constructor. -/
def new (sessionKey transcript : Bytes) : ClientVerify := ⟨computeHash P sessionKey transcript⟩

/-- `Serialize`. -/
def serialize (self : ClientVerify) : Fallible Exception Bytes := do
  let buffer ← newArray MESSAGE_SIZE
  let buffer ← arraySet buffer 0 HandshakeMessageType.clientVerify.value
  arrayCopy self.hmacTag 0 buffer 1 HMAC_TAG_SIZE

end ClientVerify

/-- `ServerVerify`. -/
structure ServerVerify where
  hmacTag : Bytes
deriving DecidableEq

namespace ServerVerify

def MESSAGE_SIZE : ℕ := 1 + HMAC_TAG_SIZE

/-- `Deserialize`. -/
def deserialize (data : Bytes) : Fallible Exception ServerVerify :=
  if data.length < MESSAGE_SIZE then
    .error (.err (.invalidData s!"SERVER_VERIFY too short: {data.length} < {MESSAGE_SIZE}"))
  else do
    let msgType ← arrayGet data 0
    if msgType ≠ HandshakeMessageType.serverVerify.value then
      .error (.err (.invalidData s!"Expected SERVER_VERIFY (4), got {msgType}"))
    else do
      let hmacTag ← arrayCopy data 1 (List.replicate HMAC_TAG_SIZE 0) 0 HMAC_TAG_SIZE
      .ok { hmacTag }

/-- `Verify`. -/
def verify (self : ServerVerify) (sessionKey transcript : Bytes) : Bool :=
  computeHash P sessionKey transcript = self.hmacTag

end ServerVerify

end Messages

/-! ## BouncyCastle -/

/-- What the client calls of BouncyCastle: `new X25519PublicKeyParameters(buf, 0)`, and
    `X25519Agreement.CalculateAgreement` after `Init`. -/
structure BouncyCastle where
  publicKeyParameters : Bytes → Fallible Exception (Arr 32)
  calculateAgreement : Arr 32 → Arr 32 → Fallible Exception (Arr 32)

namespace BouncyCastle

/-- It computes X25519: a key is its 32 bytes, and only the all-zero secret is no agreement. -/
structure Implements (B : BouncyCastle) (P : Primitives) : Prop where
  publicKey : ∀ publicKey : Arr 32, B.publicKeyParameters publicKey.toList = .ok publicKey
  agrees : ∀ privateKey publicKey : Arr 32,
    P.diffieHellman privateKey publicKey ≠ List.Vector.replicate 32 0 →
      B.calculateAgreement privateKey publicKey = .ok (P.diffieHellman privateKey publicKey)
  throws : ∀ privateKey publicKey : Arr 32,
    P.diffieHellman privateKey publicKey = List.Vector.replicate 32 0 →
      ∃ e, B.calculateAgreement privateKey publicKey = .error e

/-- A key is copied from the buffer; an agreement compares the secret. -/
def copying (P : Primitives) : BouncyCastle where
  publicKeyParameters buf :=
    if h : 32 ≤ buf.length then .ok ⟨buf.take 32, List.length_take_of_le h⟩
    else .error (.err .argument)
  calculateAgreement privateKey publicKey :=
    let sharedSecret := P.diffieHellman privateKey publicKey
    if sharedSecret = List.Vector.replicate 32 0 then
      .error (.err (.invalidOperation "X25519 agreement failed"))
    else .ok sharedSecret

theorem copying_implements (P : Primitives) : (copying P).Implements P where
  publicKey publicKey := by
    have hlen : 32 ≤ publicKey.toList.length := publicKey.toList_length.ge
    have htake : publicKey.toList.take 32 = publicKey.toList :=
      List.take_of_length_le publicKey.toList_length.le
    simp only [copying]
    rw [dif_pos hlen]
    exact congrArg Except.ok (Subtype.ext htake)
  agrees _ _ hshared := if_neg hshared
  throws _ _ hshared := ⟨_, if_pos hshared⟩

end BouncyCastle

/-! ## The client -/

/-- `ClientHandshake`. -/
structure ClientHandshake where
  privateKey : Arr 32
  publicKey : Arr 32
  mimicryProfile : MimicryProfile
  clientHello : Option ClientHello
  serverHello : Option ServerHello
  sessionKey : Option Bytes
  sessionId : Option UInt64
deriving DecidableEq

namespace ClientHandshake

variable (P : Primitives) (B : BouncyCastle) (isLittleEndian : Bool)

def HKDF_INFO : String := "llp-session-key-v1"

/-- The constructor, with the private key that the generator drew. -/
def new (privateKey : Arr 32) (profile : MimicryProfile) : ClientHandshake where
  privateKey := privateKey
  publicKey := P.publicKey privateKey
  mimicryProfile := profile
  clientHello := none
  serverHello := none
  sessionKey := none
  sessionId := none

/-- `Start`, with the 32 random bytes of the hello. -/
def start (clientRandom : Arr 32) : Method ClientHandshake Exception Bytes := do
  let self ← get
  let clientHello := ClientHello.new clientRandom self.publicKey.toList self.mimicryProfile
  set { self with clientHello := some clientHello }
  Method.lift (clientHello.serialize isLittleEndian)

/-- `DeriveSessionKey`. -/
def deriveSessionKey (sharedSecret salt : Bytes) (info : String) : Bytes :=
  (P.hkdf salt sharedSecret info.toUTF8.toList).toList

/-- The salt, from the randoms of the hellos. -/
def salt (clientRandom serverRandom : Bytes) : Fallible Exception Bytes := do
  let salt ← newArray 64
  let salt ← arrayCopy clientRandom 0 salt 0 32
  arrayCopy serverRandom 0 salt 32 32

/-- `ProcessServerHello`. The SERVER_HELLO and the session id are stored before the agreement. -/
def processServerHello (data : Bytes) : Method ClientHandshake Exception UInt64 := do
  let self ← get
  let clientHello ← Method.okOr (.invalidOperation "Must call Start() first") self.clientHello
  let serverHello ← Method.lift (ServerHello.deserialize isLittleEndian data)
  set { self with serverHello := some serverHello, sessionId := some serverHello.sessionId }
  let serverPublicKey ← Method.lift (B.publicKeyParameters serverHello.serverPublicKey)
  let sharedSecret ← Method.lift (B.calculateAgreement self.privateKey serverPublicKey)
  let salt ← Method.lift (salt clientHello.clientRandom serverHello.serverRandom)
  let sessionKey := deriveSessionKey P sharedSecret.toList salt HKDF_INFO
  modify fun self => { self with sessionKey := some sessionKey }
  pure serverHello.sessionId

/-- `BuildTranscript`. -/
def buildTranscript (clientHello : Option ClientHello) (serverHello : Option ServerHello) :
    Fallible Exception Bytes :=
  match clientHello, serverHello with
  | some clientHello, some serverHello => do
      let clientHelloBytes ← clientHello.serialize isLittleEndian
      let transcript ← newArray (ClientHello.MESSAGE_SIZE + ServerHello.MESSAGE_SIZE)
      let transcript ← arrayCopy clientHelloBytes 0 transcript 0 ClientHello.MESSAGE_SIZE
      let offset := ClientHello.MESSAGE_SIZE
      let transcript ← arraySet transcript offset HandshakeMessageType.serverHello.value
      let transcript ← arrayCopy serverHello.serverPublicKey 0 transcript (offset + 1) 32
      let transcript ← arrayCopy serverHello.serverRandom 0 transcript (offset + 1 + 32) 32
      let sessionIdBytes := reverseIfLittleEndian isLittleEndian
        (getBytes64 isLittleEndian serverHello.sessionId)
      arrayCopy sessionIdBytes 0 transcript (offset + 1 + 32 + 32) 8
  | _, _ => .error (.err (.invalidOperation "Handshake messages not initialized"))

/-- `SendClientVerify`. -/
def sendClientVerify : Method ClientHandshake Exception Bytes := do
  let self ← get
  let sessionKey ← Method.okOr (.invalidOperation "Must call ProcessServerHello() first")
    self.sessionKey
  let transcript ← Method.lift (buildTranscript isLittleEndian self.clientHello self.serverHello)
  Method.lift (ClientVerify.new P sessionKey transcript).serialize

/-- `ProcessServerVerify`. -/
def processServerVerify (data : Bytes) : Method ClientHandshake Exception Unit := do
  let self ← get
  let sessionKey ← Method.okOr (.invalidOperation "Handshake not initialized") self.sessionKey
  let serverVerify ← Method.lift (ServerVerify.deserialize data)
  let transcript ← Method.lift (buildTranscript isLittleEndian self.clientHello self.serverHello)
  Method.failIf (!serverVerify.verify P sessionKey transcript)
    (.cryptographic "SERVER_VERIFY HMAC verification failed")

/-- The data are a SERVER_VERIFY with the HMAC, under the client's key, of the hellos it holds. -/
def RightTag (self : ClientHandshake) (data : Bytes) : Prop :=
  ∃ key transcript serverVerify, self.sessionKey = some key ∧
    buildTranscript isLittleEndian self.clientHello self.serverHello = .ok transcript ∧
    ServerVerify.deserialize data = .ok serverVerify ∧
    serverVerify.hmacTag = (P.hmac key transcript).toList

end ClientHandshake

/-! ### Bytes -/

section Bytes

variable (isLittleEndian : Bool)

theorem MimicryProfile.value_bytes (profile : MimicryProfile) :
    ∃ high low, toBE 2 profile.value.toNat = [high, low] := ⟨_, _, rfl⟩

/-- CLIENT_HELLO: the type, the key, the random bytes, and the profile in big-endian form. -/
theorem ClientHello.serialize_eq {m : ClientHello} (hkey : m.clientPublicKey.length = 32)
    (hrandom : m.clientRandom.length = 32) :
    m.serialize isLittleEndian =
      .ok ([1] ++ m.clientPublicKey ++ m.clientRandom ++ toBE 2 m.mimicryProfile.value.toNat) := by
  obtain ⟨high, low, hprofile⟩ := m.mimicryProfile.value_bytes
  have hnew : newArray MESSAGE_SIZE = .ok (List.replicate 67 0) := rfl
  have htype : arraySet (List.replicate 67 0) 0 HandshakeMessageType.clientHello.value =
      .ok ([1] ++ List.replicate 66 0) := arraySet_first 66 1
  have hkey' : arrayCopy m.clientPublicKey 0 ([1] ++ List.replicate 66 0) 1 X25519_KEY_SIZE =
      .ok ([1] ++ m.clientPublicKey ++ List.replicate 34 0) :=
    arrayCopy_next 34 rfl (by rw [hkey]; rfl) (by rw [hkey])
  have hrandom' : arrayCopy m.clientRandom 0 ([1] ++ m.clientPublicKey ++ List.replicate 34 0)
      (1 + X25519_KEY_SIZE) RANDOM_SIZE =
        .ok ([1] ++ m.clientPublicKey ++ m.clientRandom ++ List.replicate 2 0) :=
    arrayCopy_next 2 (by simp [hkey, X25519_KEY_SIZE]) (by rw [hrandom]; rfl) (by rw [hrandom])
  have hhigh : arraySet ([1] ++ m.clientPublicKey ++ m.clientRandom ++ List.replicate 2 0)
      (1 + X25519_KEY_SIZE + RANDOM_SIZE) high =
        .ok ([1] ++ m.clientPublicKey ++ m.clientRandom ++ [high] ++ List.replicate 1 0) :=
    arraySet_next 1 (by simp [hkey, hrandom, X25519_KEY_SIZE, RANDOM_SIZE]) high
  have hlow : arraySet
      ([1] ++ m.clientPublicKey ++ m.clientRandom ++ [high] ++ List.replicate 1 0)
      (1 + X25519_KEY_SIZE + RANDOM_SIZE + 1) low =
        .ok ([1] ++ m.clientPublicKey ++ m.clientRandom ++ [high] ++ [low] ++
          List.replicate 0 0) :=
    arraySet_next 0 (by simp [hkey, hrandom, X25519_KEY_SIZE, RANDOM_SIZE]) low
  unfold serialize
  rw [Fallible.bind_ok hnew, Fallible.bind_ok htype, Fallible.bind_ok hkey',
    Fallible.bind_ok hrandom', reverse_getBytes16, hprofile]
  dsimp only
  rw [Fallible.bind_ok (rfl : arrayGet [high, low] 0 = .ok high), Fallible.bind_ok hhigh,
    Fallible.bind_ok (rfl : arrayGet [high, low] 1 = .ok low), hlow, List.replicate_zero,
    List.append_nil, List.append_assoc _ [high] [low]]
  rfl

/-- A verify message: the type and the tag. -/
theorem ClientVerify.serialize_eq {m : ClientVerify} (htag : m.hmacTag.length = 32) :
    m.serialize = .ok ([3] ++ m.hmacTag) := by
  have hnew : newArray MESSAGE_SIZE = .ok (List.replicate 33 0) := rfl
  have htype : arraySet (List.replicate 33 0) 0 HandshakeMessageType.clientVerify.value =
      .ok ([3] ++ List.replicate 32 0) := arraySet_first 32 3
  have htag' : arrayCopy m.hmacTag 0 ([3] ++ List.replicate 32 0) 1 HMAC_TAG_SIZE =
      .ok ([3] ++ m.hmacTag ++ List.replicate 0 0) :=
    arrayCopy_next 0 rfl (by rw [htag]; rfl) (by rw [htag])
  unfold serialize
  rw [Fallible.bind_ok hnew, Fallible.bind_ok htype, htag', List.replicate_zero, List.append_nil]

/-- What is read of any bytes of the type and of the length of a SERVER_HELLO. -/
theorem ServerHello.deserialize_eq {data : Bytes} (hlen : 73 ≤ data.length)
    (htype : data[0]? = some 2) :
    deserialize isLittleEndian data =
      .ok ⟨(data.drop 1).take 32, (data.drop 33).take 32,
        UInt64.ofNat (ofBE ((data.drop 65).take 8))⟩ := by
  have hget : arrayGet data 0 = .ok 2 := by rw [arrayGet, htype]
  have hkey : arrayCopy data 1 (List.replicate 32 0) 0 32 = .ok ((data.drop 1).take 32) :=
    arrayCopy_slice rfl rfl (by omega) rfl
  have hrandom : arrayCopy data (1 + 32) (List.replicate 32 0) 0 32 =
      .ok ((data.drop 33).take 32) := arrayCopy_slice rfl rfl (by omega) rfl
  have hid : arrayCopy data (1 + 32 + 32) (List.replicate 8 0) 0 8 = .ok ((data.drop 65).take 8) :=
    arrayCopy_slice rfl rfl (by omega) rfl
  have hlong : ¬ data.length < MESSAGE_SIZE := Nat.not_lt.mpr hlen
  have htype' : ¬ 2 ≠ HandshakeMessageType.serverHello.value := not_not.mpr rfl
  unfold deserialize
  rw [if_neg hlong, Fallible.bind_ok hget, if_neg htype', Fallible.bind_ok hkey,
    Fallible.bind_ok hrandom, Fallible.bind_ok hid]
  simp only [toUInt64_reverse]

theorem ServerVerify.deserialize_eq {data : Bytes} (hlen : 33 ≤ data.length)
    (htype : data[0]? = some 4) : deserialize data = .ok ⟨(data.drop 1).take 32⟩ := by
  have hget : arrayGet data 0 = .ok 4 := by rw [arrayGet, htype]
  have htag : arrayCopy data 1 (List.replicate HMAC_TAG_SIZE 0) 0 HMAC_TAG_SIZE =
      .ok ((data.drop 1).take 32) := arrayCopy_slice rfl rfl (by omega) rfl
  have hlong : ¬ data.length < MESSAGE_SIZE := Nat.not_lt.mpr hlen
  have htype' : ¬ 4 ≠ HandshakeMessageType.serverVerify.value := not_not.mpr rfl
  unfold deserialize
  rw [if_neg hlong, Fallible.bind_ok hget, if_neg htype', Fallible.bind_ok htag]

/-- What is read has the length and the type of the message. -/
theorem ServerHello.deserialize_eq_ok {data : Bytes} {m : ServerHello}
    (h : deserialize isLittleEndian data = .ok m) :
    73 ≤ data.length ∧ data[0]? = some 2 := by
  unfold deserialize at h
  split at h
  · cases h
  · next hlen =>
      obtain ⟨msgType, hget, hrest⟩ := Fallible.bind_eq_ok h
      split at hrest
      · cases hrest
      · next htype =>
          refine ⟨Nat.not_lt.mp hlen, ?_⟩
          rw [arrayGet_eq_ok hget]
          exact congrArg some (not_not.mp htype)

theorem ServerVerify.deserialize_eq_ok {data : Bytes} {m : ServerVerify}
    (h : deserialize data = .ok m) : 33 ≤ data.length ∧ data[0]? = some 4 := by
  unfold deserialize at h
  split at h
  · cases h
  · next hlen =>
      obtain ⟨msgType, hget, hrest⟩ := Fallible.bind_eq_ok h
      split at hrest
      · cases hrest
      · next htype =>
          refine ⟨Nat.not_lt.mp hlen, ?_⟩
          rw [arrayGet_eq_ok hget]
          exact congrArg some (not_not.mp htype)

/-- The transcript: the bytes of the CLIENT_HELLO, and the SERVER_HELLO as it is on the wire. -/
theorem ClientHandshake.buildTranscript_eq {ch : ClientHello} {sh : ServerHello}
    {clientHelloBytes : Bytes} (hbytes : ch.serialize isLittleEndian = .ok clientHelloBytes)
    (hlen : clientHelloBytes.length = 67) (hkey : sh.serverPublicKey.length = 32)
    (hrandom : sh.serverRandom.length = 32) :
    buildTranscript isLittleEndian (some ch) (some sh) =
      .ok (clientHelloBytes ++ [2] ++ sh.serverPublicKey ++ sh.serverRandom ++
        toBE 8 sh.sessionId.toNat) := by
  have hnew : newArray (ClientHello.MESSAGE_SIZE + ServerHello.MESSAGE_SIZE) =
      .ok (List.replicate 140 0) := by
    have hsize : ClientHello.MESSAGE_SIZE + ServerHello.MESSAGE_SIZE = 140 := rfl
    rw [← Nat.cast_add, newArray_natCast, hsize]
  have hch : arrayCopy clientHelloBytes 0 (List.replicate 140 0) 0 ClientHello.MESSAGE_SIZE =
      .ok (clientHelloBytes ++ List.replicate 73 0) :=
    arrayCopy_first 73 (by rw [hlen]; rfl) (by rw [hlen])
  have htype : arraySet (clientHelloBytes ++ List.replicate 73 0) ClientHello.MESSAGE_SIZE
      HandshakeMessageType.serverHello.value =
        .ok (clientHelloBytes ++ [2] ++ List.replicate 72 0) :=
    arraySet_next 72 (by rw [hlen]; rfl) 2
  have hkey' : arrayCopy sh.serverPublicKey 0 (clientHelloBytes ++ [2] ++ List.replicate 72 0)
      (ClientHello.MESSAGE_SIZE + 1) 32 =
        .ok (clientHelloBytes ++ [2] ++ sh.serverPublicKey ++ List.replicate 40 0) :=
    arrayCopy_next 40 (by rw [List.length_append, hlen]; rfl) (by rw [hkey]; rfl) (by rw [hkey])
  have hrandom' : arrayCopy sh.serverRandom 0
      (clientHelloBytes ++ [2] ++ sh.serverPublicKey ++ List.replicate 40 0)
      (ClientHello.MESSAGE_SIZE + 1 + 32) 32 =
        .ok (clientHelloBytes ++ [2] ++ sh.serverPublicKey ++ sh.serverRandom ++
          List.replicate 8 0) :=
    arrayCopy_next 8 (by simp only [List.length_append, hlen, hkey]; rfl) (by rw [hrandom]; rfl)
      (by rw [hrandom])
  have hid : arrayCopy (toBE 8 sh.sessionId.toNat) 0
      (clientHelloBytes ++ [2] ++ sh.serverPublicKey ++ sh.serverRandom ++ List.replicate 8 0)
      (ClientHello.MESSAGE_SIZE + 1 + 32 + 32) 8 =
        .ok (clientHelloBytes ++ [2] ++ sh.serverPublicKey ++ sh.serverRandom ++
          toBE 8 sh.sessionId.toNat ++ List.replicate 0 0) :=
    arrayCopy_next 0 (by simp only [List.length_append, hlen, hkey, hrandom]; rfl)
      (by rw [toBE_length]; rfl) (by rw [toBE_length])
  unfold buildTranscript
  simp only
  rw [Fallible.bind_ok hbytes, Fallible.bind_ok hnew, Fallible.bind_ok hch, Fallible.bind_ok htype,
    Fallible.bind_ok hkey', Fallible.bind_ok hrandom', reverse_getBytes64, hid,
    List.replicate_zero, List.append_nil]

/-- The salt: the two randoms. -/
theorem ClientHandshake.salt_eq {clientRandom serverRandom : Bytes}
    (hclient : clientRandom.length = 32) (hserver : serverRandom.length = 32) :
    salt clientRandom serverRandom = .ok (clientRandom ++ serverRandom) := by
  have hnew : newArray 64 = .ok (List.replicate 64 0) := rfl
  have hclient' : arrayCopy clientRandom 0 (List.replicate 64 0) 0 32 =
      .ok (clientRandom ++ List.replicate 32 0) :=
    arrayCopy_first 32 (by rw [hclient]; rfl) (by rw [hclient])
  have hserver' : arrayCopy serverRandom 0 (clientRandom ++ List.replicate 32 0) 32 32 =
      .ok (clientRandom ++ serverRandom ++ List.replicate 0 0) :=
    arrayCopy_next 0 (by rw [hclient]; rfl) (by rw [hserver]; rfl) (by rw [hserver])
  unfold salt
  rw [Fallible.bind_ok hnew, Fallible.bind_ok hclient', hserver', List.replicate_zero,
    List.append_nil]

end Bytes

/-! ### Calls that go through -/

namespace ClientHandshake

variable {P : Primitives} {B : BouncyCastle} (isLittleEndian : Bool) {self : ClientHandshake}
  {ch : ClientHello} {sh : ServerHello} {key transcript data : Bytes}

theorem start_run (clientRandom : Arr 32) (self : ClientHandshake) :
    start isLittleEndian clientRandom self =
      .ok ([1] ++ self.publicKey.toList ++ clientRandom.toList ++
          toBE 2 self.mimicryProfile.value.toNat)
        { self with
          clientHello :=
            some (ClientHello.new clientRandom self.publicKey.toList self.mimicryProfile) } := by
  have hbytes := ClientHello.serialize_eq isLittleEndian
    (m := ClientHello.new clientRandom self.publicKey.toList self.mimicryProfile)
    self.publicKey.toList_length clientRandom.toList_length
  unfold start
  rw [Method.get_bind, Method.set_bind, hbytes, Method.lift_ok]
  rfl

theorem processServerHello_run (hcastle : B.Implements P) {serverPublicKey : Arr 32}
    (hch : self.clientHello = some ch) (hclient : ch.clientRandom.length = 32)
    (hdata : ServerHello.deserialize isLittleEndian data = .ok sh)
    (hserver : sh.serverRandom.length = 32) (hkey : sh.serverPublicKey = serverPublicKey.toList)
    (hshared : P.diffieHellman self.privateKey serverPublicKey ≠ List.Vector.replicate 32 0) :
    processServerHello P B isLittleEndian data self = .ok sh.sessionId
      { self with
        serverHello := some sh
        sessionId := some sh.sessionId
        sessionKey := some (deriveSessionKey P
          (P.diffieHellman self.privateKey serverPublicKey).toList
          (ch.clientRandom ++ sh.serverRandom) HKDF_INFO) } := by
  have hagreement := hcastle.agrees self.privateKey serverPublicKey hshared
  unfold processServerHello
  rw [Method.get_bind, hch, Method.okOr_some, pure_bind, hdata, Method.bind_ok (Method.lift_ok _ _),
    Method.set_bind, hkey, hcastle.publicKey, Method.bind_ok (Method.lift_ok _ _),
    hagreement, Method.bind_ok (Method.lift_ok _ _), salt_eq hclient hserver,
    Method.bind_ok (Method.lift_ok _ _)]
  rfl

/-- An agreement that fails leaves the SERVER_HELLO and its session id behind. -/
theorem processServerHello_zero (hcastle : B.Implements P) {serverPublicKey : Arr 32}
    (hch : self.clientHello = some ch)
    (hdata : ServerHello.deserialize isLittleEndian data = .ok sh)
    (hkey : sh.serverPublicKey = serverPublicKey.toList)
    (hshared : P.diffieHellman self.privateKey serverPublicKey = List.Vector.replicate 32 0) :
    ∃ e, processServerHello P B isLittleEndian data self =
      .error e { self with serverHello := some sh, sessionId := some sh.sessionId } := by
  obtain ⟨e, hagreement⟩ := hcastle.throws self.privateKey serverPublicKey hshared
  refine ⟨e, ?_⟩
  unfold processServerHello
  rw [Method.get_bind, hch, Method.okOr_some, pure_bind, hdata, Method.bind_ok (Method.lift_ok _ _),
    Method.set_bind, hkey, hcastle.publicKey, Method.bind_ok (Method.lift_ok _ _),
    hagreement, Method.bind_error (Method.lift_error _ _)]

theorem sendClientVerify_run (hkey : self.sessionKey = some key)
    (htranscript : buildTranscript isLittleEndian self.clientHello self.serverHello =
      .ok transcript) :
    sendClientVerify P isLittleEndian self = .ok ([3] ++ computeHash P key transcript) self := by
  have hbytes : (ClientVerify.new P key transcript).serialize =
      .ok ([3] ++ computeHash P key transcript) :=
    ClientVerify.serialize_eq (P.hmac key transcript).toList_length
  unfold sendClientVerify
  rw [Method.get_bind, hkey, Method.okOr_some, pure_bind, htranscript,
    Method.bind_ok (Method.lift_ok _ _), hbytes, Method.lift_ok]

/-- Nothing is stored from a message that cannot be read, or before `Start`. -/
theorem processServerHello_refuses
    (h : self.clientHello = none ∨ ∃ e, ServerHello.deserialize isLittleEndian data = .error e) :
    ∃ e, processServerHello P B isLittleEndian data self = .error e self := by
  unfold processServerHello
  rw [Method.get_bind]
  rcases h with hch | ⟨e, hdata⟩
  · rw [hch]
    exact ⟨_, rfl⟩
  · cases hch : self.clientHello with
    | none => exact ⟨_, rfl⟩
    | some ch =>
        rw [Method.okOr_some, pure_bind, hdata, Method.bind_error (Method.lift_error _ _)]
        exact ⟨e, rfl⟩

theorem sendClientVerify_refuses (hkey : self.sessionKey = none) :
    ∃ e, sendClientVerify P isLittleEndian self = .error e self := by
  unfold sendClientVerify
  rw [Method.get_bind, hkey]
  exact ⟨_, rfl⟩

/-- A SERVER_VERIFY is accepted with the key there, and with the tag of the stored hellos. -/
theorem processServerVerify_cases (data : Bytes) (self : ClientHandshake) :
    (∃ key transcript v, self.sessionKey = some key ∧
      buildTranscript isLittleEndian self.clientHello self.serverHello = .ok transcript ∧
      ServerVerify.deserialize data = .ok v ∧ computeHash P key transcript = v.hmacTag ∧
      processServerVerify P isLittleEndian data self = .ok () self) ∨
    ∃ e, processServerVerify P isLittleEndian data self = .error e self := by
  unfold processServerVerify
  rw [Method.get_bind]
  cases hkey : self.sessionKey with
  | none => exact Or.inr ⟨_, rfl⟩
  | some key =>
      rw [Method.okOr_some, pure_bind]
      cases hdata : ServerVerify.deserialize data with
      | error e => exact Or.inr ⟨e, rfl⟩
      | ok v =>
          rw [Method.bind_ok (Method.lift_ok _ _)]
          cases htranscript :
              buildTranscript isLittleEndian self.clientHello self.serverHello with
          | error e => exact Or.inr ⟨e, rfl⟩
          | ok transcript =>
              rw [Method.bind_ok (Method.lift_ok _ _)]
              by_cases htag : computeHash P key transcript = v.hmacTag
              · refine Or.inl ⟨key, transcript, v, rfl, rfl, rfl, htag, ?_⟩
                exact Method.failIf_neg _ (by simp [ServerVerify.verify, htag]) _
              · exact Or.inr ⟨_, Method.failIf_pos _ (by simp [ServerVerify.verify, htag]) _⟩

theorem processServerVerify_run (hkey : self.sessionKey = some key)
    (htranscript : buildTranscript isLittleEndian self.clientHello self.serverHello =
      .ok transcript)
    (hdata : ServerVerify.deserialize data = .ok ⟨computeHash P key transcript⟩) :
    processServerVerify P isLittleEndian data self = .ok () self := by
  have hverify : ¬ (!(ServerVerify.mk (computeHash P key transcript)).verify P key
      transcript) = true := by simp [ServerVerify.verify]
  unfold processServerVerify
  rw [Method.get_bind, hkey, Method.okOr_some, pure_bind, hdata,
    Method.bind_ok (Method.lift_ok _ _), htranscript, Method.bind_ok (Method.lift_ok _ _),
    Method.failIf_neg _ hverify]

/-- The right tag goes through, and no other. -/
theorem processServerVerify_iff :
    (Method.result (processServerVerify P isLittleEndian data self)).isOk = true ↔
      self.RightTag P isLittleEndian data := by
  constructor
  · intro hok
    rcases processServerVerify_cases (P := P) isLittleEndian data self with
      ⟨key, transcript, v, hkey, htranscript, hdata, htag, -⟩ | ⟨e, herr⟩
    · exact ⟨key, transcript, v, hkey, htranscript, hdata, htag.symm⟩
    · rw [herr] at hok
      cases hok
  · rintro ⟨key, transcript, ⟨hmacTag⟩, hkey, htranscript, hdata, rfl⟩
    rw [processServerVerify_run isLittleEndian hkey htranscript hdata]
    rfl

end ClientHandshake

end Llp.CSharp
