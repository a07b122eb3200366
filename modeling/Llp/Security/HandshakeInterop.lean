/-
  The handshake of the C# client with the Rust server.

  Each side reads and writes the layouts by itself; here their bytes are shown to be the same, on
  a host of either byte order. Both call the same X25519, HKDF and HMAC, the client its X25519
  through BouncyCastle.

  * `crossExchange_completes`: if the shared secret is not all zero, the four messages are accepted,
    and the two sides have one session id, profile, key and transcript.
-/
import Llp.CSharp.Handshake
import Llp.Security.HonestHandshake

namespace Llp.Security
open ByteCodec

/-! ## The layouts -/

section Layouts

variable (isLittleEndian : Bool)

/-- The profiles of the client are those of the server, under the same numbers. -/
theorem exists_toU16 (profile : CSharp.MimicryProfile) :
    ∃ p : MimicryProfile, p.toU16 = profile.value := by
  cases profile with
  | none => exact ⟨.none, rfl⟩
  | vkVideo => exact ⟨.vkVideo, rfl⟩
  | yandexMusic => exact ⟨.yandexMusic, rfl⟩
  | ruTube => exact ⟨.ruTube, rfl⟩

/-- A CLIENT_HELLO as the C# client holds it. -/
def csharpClientHello (profile : CSharp.MimicryProfile) (ch : ClientHello) : CSharp.ClientHello :=
  ⟨ch.clientPublicKey.toList, ch.clientRandom.toList, profile⟩

/-- A SERVER_HELLO as the C# client holds it. -/
def csharpServerHello (sh : ServerHello) : CSharp.ServerHello :=
  ⟨sh.serverPublicKey.toList, sh.serverRandom.toList, sh.sessionId⟩

theorem clientHello_bytes {profile : CSharp.MimicryProfile} {ch : ClientHello}
    (hprofile : ch.mimicryProfile.toU16 = profile.value) :
    [1] ++ ch.clientPublicKey.toList ++ ch.clientRandom.toList ++ toBE 2 profile.value.toNat =
      ch.serialize := by
  rw [← hprofile, List.append_assoc, List.append_assoc]
  rfl

theorem csharpClientHello_serialize {profile : CSharp.MimicryProfile} {ch : ClientHello}
    (hprofile : ch.mimicryProfile.toU16 = profile.value) :
    (csharpClientHello profile ch).serialize isLittleEndian = .ok ch.serialize := by
  rw [← clientHello_bytes hprofile]
  exact CSharp.ClientHello.serialize_eq isLittleEndian ch.clientPublicKey.toList_length
    ch.clientRandom.toList_length

theorem csharpServerHello_deserialize (sh : ServerHello) (rest : Bytes) :
    CSharp.ServerHello.deserialize isLittleEndian (sh.serialize ++ rest) =
      .ok (csharpServerHello sh) := by
  have hkeyLen := sh.serverPublicKey.toList_length
  have hrandomLen := sh.serverRandom.toList_length
  have hlen : 73 ≤ (sh.serialize ++ rest).length := by
    rw [List.length_append, sh.serialize_length]
    omega
  have hbytes : sh.serialize ++ rest =
      2 :: (sh.serverPublicKey.toList ++
        (sh.serverRandom.toList ++ (toBE 8 sh.sessionId.toNat ++ rest))) := by
    simp [ServerHello.serialize, HandshakeMessageType.toU8]
  have hkey : ((sh.serialize ++ rest).drop 1).take 32 = sh.serverPublicKey.toList := by
    rw [hbytes]
    exact List.take_left' hkeyLen
  have hrandom : (sh.serialize ++ rest).drop 33 =
      sh.serverRandom.toList ++ (toBE 8 sh.sessionId.toNat ++ rest) := by
    rw [hbytes]
    exact @List.drop_left' _ (2 :: sh.serverPublicKey.toList) _ 33
      (by rw [List.length_cons, hkeyLen])
  have hid : (sh.serialize ++ rest).drop 65 = toBE 8 sh.sessionId.toNat ++ rest := by
    rw [← List.drop_drop (i := 32) (j := 33), hrandom]
    exact List.drop_left' hrandomLen
  rw [CSharp.ServerHello.deserialize_eq isLittleEndian hlen (by rw [hbytes]; rfl), hkey, hrandom,
    hid, List.take_left' hrandomLen, List.take_left' (toBE_length 8 _), ofBE_toBE 8 _ (u64_lt _),
    UInt64.ofNat_toNat]
  rfl

/-- The client puts the same transcript together as the server. -/
theorem csharp_buildTranscript {profile : CSharp.MimicryProfile} {ch : ClientHello}
    (hprofile : ch.mimicryProfile.toU16 = profile.value) (sh : ServerHello) :
    CSharp.ClientHandshake.buildTranscript isLittleEndian (some (csharpClientHello profile ch))
        (some (csharpServerHello sh)) = .ok (ch.serialize ++ sh.serialize) := by
  rw [CSharp.ClientHandshake.buildTranscript_eq isLittleEndian
    (csharpClientHello_serialize isLittleEndian hprofile) ch.serialize_length
    sh.serverPublicKey.toList_length sh.serverRandom.toList_length]
  simp only [List.append_assoc]
  rfl

theorem csharp_deserializeVerify (hmacTag : Arr 32) (rest : Bytes) :
    CSharp.ServerVerify.deserialize ((ServerVerify.mk hmacTag).serialize ++ rest) =
      .ok ⟨hmacTag.toList⟩ := by
  have htagLen := hmacTag.toList_length
  have hbytes : (ServerVerify.mk hmacTag).serialize ++ rest = 4 :: (hmacTag.toList ++ rest) := rfl
  have hlen : 33 ≤ (4 :: (hmacTag.toList ++ rest)).length := by
    rw [List.length_cons, List.length_append]
    omega
  have htag : ((4 :: (hmacTag.toList ++ rest)).drop 1).take 32 = hmacTag.toList :=
    List.take_left' htagLen
  rw [hbytes, CSharp.ServerVerify.deserialize_eq hlen rfl, htag]

end Layouts

/-! ## The exchange -/

section Exchange

variable {P : Primitives} {B : CSharp.BouncyCastle} {α : Type}

/-- A call of the C# client. -/
def onCSharp (m : Method CSharp.ClientHandshake CSharp.Exception α) :
    Method (CSharp.ClientHandshake × ServerHandshake P) (CSharp.Exception ⊕ LlpError) α :=
  Method.mapError Sum.inl (Method.focus Prod.fst (fun client parties => (client, parties.2)) m)

/-- A call of the Rust server. -/
def onRust (m : Method (ServerHandshake P) LlpError α) :
    Method (CSharp.ClientHandshake × ServerHandshake P) (CSharp.Exception ⊕ LlpError) α :=
  Method.mapError Sum.inr (Method.focus Prod.snd (fun server parties => (parties.1, server)) m)

theorem onCSharp_ok {m : Method CSharp.ClientHandshake CSharp.Exception α}
    {c c' : CSharp.ClientHandshake} {a : α} (h : m c = .ok a c') (s : ServerHandshake P) :
    onCSharp m (c, s) = .ok a (c', s) :=
  Method.mapError_ok (Method.focus_ok h)

theorem onRust_ok {m : Method (ServerHandshake P) LlpError α} {s s' : ServerHandshake P} {a : α}
    (h : m s = .ok a s') (c : CSharp.ClientHandshake) : onRust m (c, s) = .ok a (c, s') :=
  Method.mapError_ok (Method.focus_ok h)

/-- The four messages, in order. It returns the session id that the client was told, and the
    profile that the server was. -/
def crossExchange (P : Primitives) (B : CSharp.BouncyCastle) (isLittleEndian : Bool)
    (clientRandom serverRandom : Arr 32) :
    Method (CSharp.ClientHandshake × ServerHandshake P) (CSharp.Exception ⊕ LlpError)
      (UInt64 × MimicryProfile) := do
  let clientHello ← onCSharp (CSharp.ClientHandshake.start isLittleEndian clientRandom)
  let (serverHello, profile) ← onRust (ServerHandshake.processClientHello serverRandom clientHello)
  let sessionId ← onCSharp
    (CSharp.ClientHandshake.processServerHello P B isLittleEndian serverHello)
  let clientVerify ← onCSharp (CSharp.ClientHandshake.sendClientVerify P isLittleEndian)
  onRust (ServerHandshake.processClientVerify clientVerify)
  let serverVerify ← onRust ServerHandshake.sendServerVerify
  onCSharp (CSharp.ClientHandshake.processServerVerify P isLittleEndian serverVerify)
  pure (sessionId, profile)

/-- The C# client, once it has sent its hello. -/
def csharpGreeted (P : Primitives) (secret : Arr 32) (profile : CSharp.MimicryProfile)
    (ch : ClientHello) : CSharp.ClientHandshake :=
  { CSharp.ClientHandshake.new P secret profile with
    clientHello := some (csharpClientHello profile ch) }

/-- The C# client after the hellos. -/
def csharpAt (P : Primitives) (secret : Arr 32) (profile : CSharp.MimicryProfile)
    (ch : ClientHello) (sh : ServerHello) (key : SessionKey) : CSharp.ClientHandshake :=
  { CSharp.ClientHandshake.new P secret profile with
    clientHello := some (csharpClientHello profile ch)
    serverHello := some (csharpServerHello sh)
    sessionKey := some key.bytes.toList
    sessionId := some sh.sessionId }

section Calls

variable (isLittleEndian : Bool) {clientSecret serverSecret : Arr 32}
  {profile : CSharp.MimicryProfile} {p : MimicryProfile} {ch : ClientHello} {sh : ServerHello}
  {key : SessionKey}

theorem start_csharp (hprofile : p.toU16 = profile.value) (clientSecret clientRandom : Arr 32) :
    let ch := ClientHello.new clientRandom (X25519Key.generate P clientSecret) p
    CSharp.ClientHandshake.start isLittleEndian clientRandom
        (CSharp.ClientHandshake.new P clientSecret profile) =
      .ok ch.serialize (csharpGreeted P clientSecret profile ch) := by
  intro ch
  have hprofile' : ch.mimicryProfile.toU16 = profile.value := hprofile
  rw [← clientHello_bytes hprofile']
  exact CSharp.ClientHandshake.start_run isLittleEndian clientRandom _

theorem processServerHello_csharp (hcastle : B.Implements P)
    (hshared : P.diffieHellman clientSecret (P.publicKey serverSecret) ≠ List.Vector.replicate 32 0)
    (serverRandom : Arr 32) (sessionId : UInt64) (ch : ClientHello) :
    let sh := ServerHello.new serverRandom (X25519Key.generate P serverSecret) sessionId
    CSharp.ClientHandshake.processServerHello P B isLittleEndian sh.serialize
        (csharpGreeted P clientSecret profile ch) =
      .ok sessionId (csharpAt P clientSecret profile ch sh
        (sharedKey P clientSecret serverSecret ch sh)) := by
  intro sh
  have hagreement : P.diffieHellman (csharpGreeted P clientSecret profile ch).privateKey
      sh.serverPublicKey ≠ List.Vector.replicate 32 0 := hshared
  have hdata := csharpServerHello_deserialize isLittleEndian sh []
  rw [List.append_nil] at hdata
  exact CSharp.ClientHandshake.processServerHello_run isLittleEndian hcastle rfl
    ch.clientRandom.toList_length hdata
    sh.serverRandom.toList_length rfl hagreement

theorem sendClientVerify_csharp (hprofile : ch.mimicryProfile.toU16 = profile.value) :
    CSharp.ClientHandshake.sendClientVerify P isLittleEndian
        (csharpAt P clientSecret profile ch sh key) =
      .ok (ClientVerify.new P key (ch.serialize ++ sh.serialize)).serialize
        (csharpAt P clientSecret profile ch sh key) :=
  CSharp.ClientHandshake.sendClientVerify_run isLittleEndian rfl
    (csharp_buildTranscript isLittleEndian hprofile sh)

theorem processServerVerify_csharp (hprofile : ch.mimicryProfile.toU16 = profile.value) :
    CSharp.ClientHandshake.processServerVerify P isLittleEndian
        (ServerVerify.new P key (ch.serialize ++ sh.serialize)).serialize
        (csharpAt P clientSecret profile ch sh key) =
      .ok () (csharpAt P clientSecret profile ch sh key) := by
  have hdata := csharp_deserializeVerify
    (ServerVerify.new P key (ch.serialize ++ sh.serialize)).hmacTag []
  rw [List.append_nil] at hdata
  exact CSharp.ClientHandshake.processServerVerify_run isLittleEndian rfl
    (csharp_buildTranscript isLittleEndian hprofile sh) hdata

end Calls

/-- **The C# client and the Rust server agree.** -/
theorem crossExchange_completes (isLittleEndian : Bool) (hdh : Commutes P)
    (hcastle : B.Implements P) (clientSecret serverSecret clientRandom serverRandom : Arr 32)
    (hshared : P.diffieHellman clientSecret (P.publicKey serverSecret) ≠ List.Vector.replicate 32 0)
    (profile : CSharp.MimicryProfile) (sessionId : UInt64) :
    ∃ p c s key transcript, p.toU16 = profile.value ∧
      crossExchange P B isLittleEndian clientRandom serverRandom
        (CSharp.ClientHandshake.new P clientSecret profile,
          ServerHandshake.new P serverSecret sessionId) = .ok (sessionId, p) (c, s) ∧
      s.state = .completed ∧ c.sessionId = some sessionId ∧
      c.sessionKey = some key.bytes.toList ∧ s.sessionKey? = some key ∧
      CSharp.ClientHandshake.buildTranscript isLittleEndian c.clientHello c.serverHello =
        .ok transcript ∧
      buildTranscript s.clientHello s.serverHello = .ok transcript := by
  obtain ⟨p, hprofile⟩ := exists_toU16 profile
  let ch := ClientHello.new clientRandom (X25519Key.generate P clientSecret) p
  let sh := ServerHello.new serverRandom (X25519Key.generate P serverSecret) sessionId
  let key := sharedKey P clientSecret serverSecret ch sh
  refine ⟨p, csharpAt P clientSecret profile ch sh key,
    serverAt P serverSecret sessionId ch sh key .completed, key, ch.serialize ++ sh.serialize,
    hprofile, ?_, rfl, rfl, rfl, rfl, csharp_buildTranscript isLittleEndian hprofile sh, rfl⟩
  unfold crossExchange
  rw [Method.bind_ok (onCSharp_ok (start_csharp isLittleEndian hprofile clientSecret clientRandom)
      _),
    Method.bind_ok (onRust_ok (processClientHello_shared hdh clientSecret serverSecret
      clientRandom serverRandom p sessionId) _)]
  dsimp only
  rw [Method.bind_ok (onCSharp_ok (processServerHello_csharp isLittleEndian hcastle hshared
      serverRandom sessionId ch) _),
    Method.bind_ok (onCSharp_ok (sendClientVerify_csharp isLittleEndian hprofile) _),
    Method.bind_ok (onRust_ok processClientVerify_shared _),
    Method.bind_ok (onRust_ok sendServerVerify_shared _),
    Method.bind_ok (onCSharp_ok (processServerVerify_csharp isLittleEndian hprofile) _),
    Method.pure_apply]

end Exchange

/-- A big-endian host. -/
theorem crossExchange_completes_sample :
    ∃ p c s key transcript, p.toU16 = CSharp.MimicryProfile.ruTube.value ∧
      crossExchange samplePrimitives (.copying samplePrimitives) false
          (List.Vector.replicate 32 3) (List.Vector.replicate 32 4)
        (CSharp.ClientHandshake.new samplePrimitives (List.Vector.replicate 32 1) .ruTube,
          ServerHandshake.new samplePrimitives (List.Vector.replicate 32 2) 12345) =
        .ok (12345, p) (c, s) ∧
      s.state = .completed ∧ c.sessionId = some 12345 ∧
      c.sessionKey = some key.bytes.toList ∧ s.sessionKey? = some key ∧
      CSharp.ClientHandshake.buildTranscript false c.clientHello c.serverHello = .ok transcript ∧
      buildTranscript s.clientHello s.serverHello = .ok transcript :=
  crossExchange_completes false samplePrimitives_commutes (CSharp.BouncyCastle.copying_implements _)
    _ _ _ _ (by decide) _ _

end Llp.Security
