/-
  The handshake codecs: a message is read back as it was written, and no input panics a reader.

  * `handshake_wire_form`: what a reader accepts begins with the bytes of what it returns, and
    the transcript of two hellos is the bytes that they begin with.
  * `handshake_messages_exact_iff`: the data on which a reader accepts nothing but the bytes of
    a message.

  A call in its state, given a message that the other side wrote, goes through: one `_run` theorem
  for each call says what it returns and writes.
-/
import Llp.Core.Handshake

namespace Llp
open ByteCodec Cursor

theorem HandshakeMessageType.fromU8_toU8 (t : HandshakeMessageType) : fromU8 t.toU8 = some t := by
  cases t <;> rfl

theorem readType_reads (expected : HandshakeMessageType) :
    Reads (readType expected) (fun _ => [expected.toU8]) fun _ => True where
  back _ rest _ := by
    rw [List.singleton_append, readType_cons, if_pos expected.fromU8_toU8]
  sound s _ rest h := by
    obtain ⟨msgType, t, hread, hcheck⟩ := Method.bind_eq_ok h
    obtain ⟨-, rfl⟩ := getU8_reads.sound _ _ _ hread
    obtain ⟨htype, rfl⟩ := Method.failIf_eq_ok hcheck
    rw [HandshakeMessageType.fromU8_eq_some (not_not.mp htype)]
    exact ⟨trivial, congrArg (· ++ _) (toBE_ofBE [expected.toU8])⟩

theorem readType_safe (expected : HandshakeMessageType) : Safe 1 (readType expected) :=
  Safe.getU8.bind fun _ => Safe.failIf _ _

/-! ## The hellos -/

namespace ClientHello

/-- What it accepts begins with a CLIENT_HELLO, and that is what it returns. -/
theorem deserialize_iff (data : Bytes) (m : ClientHello) :
    deserialize data = .ok m ↔ m.serialize <+: data := by
  unfold deserialize X25519_KEY_SIZE RANDOM_SIZE
  refine (@Reads.guarded_eq_ok _ _ _ serialize (fun _ => True) ⟨fun m rest _ => ?_,
    fun s m rest h₀ => ?_⟩ _ (fun m _ => m.serialize_length.ge) _ data m).trans
    (and_iff_right trivial)
  · have hbytes : m.serialize ++ rest = [HandshakeMessageType.clientHello.toU8] ++
        (m.clientPublicKey.toList ++
          (m.clientRandom.toList ++ (toBE 2 m.mimicryProfile.toU16.toNat ++ rest))) := by
      simp [serialize]
    rw [hbytes, (readType_reads _).bind_ok (a := ()) trivial, (take_reads 32).bind_ok trivial,
      (take_reads 32).bind_ok trivial, getU16_reads.bind_ok trivial, MimicryProfile.fromU16_toU16]
    rfl
  · obtain ⟨_, s₁, -, rfl, h₁⟩ := (readType_reads _).bind_eq_ok h₀
    obtain ⟨clientPublicKey, s₂, -, rfl, h₂⟩ := (take_reads 32).bind_eq_ok h₁
    obtain ⟨clientRandom, s₃, -, rfl, h₃⟩ := (take_reads 32).bind_eq_ok h₂
    obtain ⟨profileId, s₄, -, rfl, h₄⟩ := getU16_reads.bind_eq_ok h₃
    obtain ⟨profile, hprofile, h₅⟩ := Method.okOr_bind_eq_ok h₄
    cases h₅
    rw [MimicryProfile.fromU16_eq_some hprofile]
    simp [serialize]

theorem deserialize_serialize (m : ClientHello) : deserialize m.serialize = .ok m :=
  (deserialize_iff _ m).mpr (List.prefix_refl _)

/-- It reads 67 bytes, which are there. -/
theorem deserialize_noPanic (data : Bytes) : deserialize data ≠ .error .panic := by
  refine Safe.guarded (Safe.cast ?_ (show 1 + (32 + (32 + (2 + (0 + 0)))) = 67 from rfl)) _ data
  exact (readType_safe _).bind fun _ => (Safe.take _).bind fun _ => (Safe.take _).bind fun _ =>
    Safe.getU16.bind fun _ => (Safe.okOr _ _).bind fun _ => Safe.pure _

end ClientHello

namespace ServerHello

/-- What it accepts begins with a SERVER_HELLO, and that is what it returns. -/
theorem deserialize_iff (data : Bytes) (m : ServerHello) :
    deserialize data = .ok m ↔ m.serialize <+: data := by
  unfold deserialize X25519_KEY_SIZE RANDOM_SIZE
  refine (@Reads.guarded_eq_ok _ _ _ serialize (fun _ => True) ⟨fun m rest _ => ?_,
    fun s m rest h₀ => ?_⟩ _ (fun m _ => m.serialize_length.ge) _ data m).trans
    (and_iff_right trivial)
  · have hbytes : m.serialize ++ rest = [HandshakeMessageType.serverHello.toU8] ++
        (m.serverPublicKey.toList ++
          (m.serverRandom.toList ++ (toBE 8 m.sessionId.toNat ++ rest))) := by
      simp [serialize]
    rw [hbytes, (readType_reads _).bind_ok (a := ()) trivial, (take_reads 32).bind_ok trivial,
      (take_reads 32).bind_ok trivial, getU64_reads.bind_ok trivial]
    rfl
  · obtain ⟨_, s₁, -, rfl, h₁⟩ := (readType_reads _).bind_eq_ok h₀
    obtain ⟨serverPublicKey, s₂, -, rfl, h₂⟩ := (take_reads 32).bind_eq_ok h₁
    obtain ⟨serverRandom, s₃, -, rfl, h₃⟩ := (take_reads 32).bind_eq_ok h₂
    obtain ⟨sessionId, s₄, -, rfl, h₄⟩ := getU64_reads.bind_eq_ok h₃
    cases h₄
    simp [serialize]

theorem deserialize_serialize (m : ServerHello) : deserialize m.serialize = .ok m :=
  (deserialize_iff _ m).mpr (List.prefix_refl _)

/-- It reads 73 bytes, which are there. -/
theorem deserialize_noPanic (data : Bytes) : deserialize data ≠ .error .panic := by
  refine Safe.guarded (Safe.cast ?_ (show 1 + (32 + (32 + (8 + 0))) = 73 from rfl)) _ data
  exact (readType_safe _).bind fun _ => (Safe.take _).bind fun _ => (Safe.take _).bind fun _ =>
    Safe.getU64.bind fun _ => Safe.pure _

end ServerHello

/-! ## The verify messages -/

theorem serializeVerify_length (msgType : HandshakeMessageType) (hmacTag : Arr 32) :
    (serializeVerify msgType hmacTag).length = 33 := by
  simp [serializeVerify]

theorem deserializeVerify_iff (msgType : HandshakeMessageType) (data : Bytes) (hmacTag : Arr 32) :
    deserializeVerify msgType data = .ok hmacTag ↔ serializeVerify msgType hmacTag <+: data := by
  unfold deserializeVerify HMAC_TAG_SIZE
  refine (@Reads.guarded_eq_ok _ _ _ (serializeVerify msgType) (fun _ => True)
    ⟨fun tag rest _ => ?_, fun s tag rest h₀ => ?_⟩ _ (fun tag _ => ?_) _ data hmacTag).trans
    (and_iff_right trivial)
  · have hbytes : serializeVerify msgType tag ++ rest =
        [msgType.toU8] ++ (tag.toList ++ rest) := rfl
    rw [hbytes, (readType_reads _).bind_ok (a := ()) trivial, (take_reads 32).back _ _ trivial]
  · obtain ⟨_, s₁, -, rfl, h₁⟩ := (readType_reads _).bind_eq_ok h₀
    obtain ⟨-, rfl⟩ := (take_reads 32).sound _ _ _ h₁
    exact ⟨trivial, rfl⟩
  · exact (serializeVerify_length msgType tag).ge

theorem deserializeVerify_noPanic (msgType : HandshakeMessageType) (data : Bytes) :
    deserializeVerify msgType data ≠ .error .panic :=
  ((readType_safe _).bind fun _ => Safe.take _).guarded _ data

theorem ClientVerify.deserialize_iff (data : Bytes) (m : ClientVerify) :
    deserialize data = .ok m ↔ m.serialize <+: data := by
  unfold deserialize serialize
  rw [← deserializeVerify_iff]
  exact Fallible.map_eq_ok_iff (fun _ _ => mk.inj) _ _

theorem ServerVerify.deserialize_iff (data : Bytes) (m : ServerVerify) :
    deserialize data = .ok m ↔ m.serialize <+: data := by
  unfold deserialize serialize
  rw [← deserializeVerify_iff]
  exact Fallible.map_eq_ok_iff (fun _ _ => mk.inj) _ _

theorem ClientVerify.deserialize_serialize (m : ClientVerify) :
    deserialize m.serialize = .ok m :=
  (deserialize_iff _ m).mpr (List.prefix_refl _)

theorem ServerVerify.deserialize_serialize (m : ServerVerify) :
    deserialize m.serialize = .ok m :=
  (deserialize_iff _ m).mpr (List.prefix_refl _)

theorem ClientVerify.deserialize_noPanic (data : Bytes) : deserialize data ≠ .error .panic :=
  Fallible.map_noPanic _ (deserializeVerify_noPanic _ data)

theorem ServerVerify.deserialize_noPanic (data : Bytes) : deserialize data ≠ .error .panic :=
  Fallible.map_noPanic _ (deserializeVerify_noPanic _ data)

/-- The tag that a side computes is the one it accepts. -/
theorem verifyTag_hmac (P : Primitives) (sessionKey : SessionKey) (transcript : Bytes) :
    verifyTag P (hmacSha256 P sessionKey.bytes.toList transcript) sessionKey transcript =
      .ok () := by
  unfold verifyTag verifyHmacSha256 hmacSha256
  rw [if_neg (by simp)]

theorem verifyTag_noPanic (P : Primitives) (hmacTag : Arr 32) (sessionKey : SessionKey)
    (transcript : Bytes) : verifyTag P hmacTag sessionKey transcript ≠ .error .panic := by
  unfold verifyTag
  split
  · intro h
    cases h
  · intro h
    cases h

/-! ## The wire and the transcript -/

theorem buildTranscript_some (ch : ClientHello) (sh : ServerHello) :
    buildTranscript (some ch) (some sh) = .ok (ch.serialize ++ sh.serialize) := rfl

/-- Each of the four readers returns `m` exactly on the data that begin with
    the bytes of `m`: what follows them is ignored, and everything before is in the message.
    So the transcript of two hellos that were read is their first 67 and 73 bytes. -/
theorem handshake_wire_form :
    (∀ data : Bytes,
      (∀ m, ClientHello.deserialize data = .ok m ↔ m.serialize <+: data) ∧
      (∀ m, ServerHello.deserialize data = .ok m ↔ m.serialize <+: data) ∧
      (∀ m, ClientVerify.deserialize data = .ok m ↔ m.serialize <+: data) ∧
      ∀ m, ServerVerify.deserialize data = .ok m ↔ m.serialize <+: data) ∧
    ∀ (clientData serverData : Bytes) (ch : ClientHello) (sh : ServerHello),
      ClientHello.deserialize clientData = .ok ch → ServerHello.deserialize serverData = .ok sh →
      buildTranscript (some ch) (some sh) = .ok (clientData.take 67 ++ serverData.take 73) := by
  refine ⟨fun data => ⟨ClientHello.deserialize_iff data, ServerHello.deserialize_iff data,
    ClientVerify.deserialize_iff data, ServerVerify.deserialize_iff data⟩, ?_⟩
  intro clientData serverData ch sh hch hsh
  have hclient := List.prefix_iff_eq_take.mp ((ClientHello.deserialize_iff _ _).mp hch)
  have hserver := List.prefix_iff_eq_take.mp ((ServerHello.deserialize_iff _ _).mp hsh)
  rw [ClientHello.serialize_length] at hclient
  rw [ServerHello.serialize_length] at hserver
  rw [buildTranscript_some, ← hclient, ← hserver]

/-- A reader of messages of one size, on the data that begin with them: it is exact on what is
    not longer than a message, and on what it refuses. -/
theorem exact_iff {μ : Type} {deserialize : Bytes → Fallible LlpError μ} {serialize : μ → Bytes}
    {size : ℕ} (hread : ∀ data m, deserialize data = .ok m ↔ serialize m <+: data)
    (hsize : ∀ m, (serialize m).length = size) (data : Bytes) :
    (∀ m, deserialize data = .ok m ↔ data = serialize m) ↔
      data.length ≤ size ∨ ∀ m, ¬ serialize m <+: data := by
  constructor
  · intro hexact
    by_contra hno
    obtain ⟨hlong, hsome⟩ := not_or.mp hno
    simp only [not_forall, not_not] at hsome
    obtain ⟨m, hm⟩ := hsome
    apply hlong
    rw [(hexact m).mp ((hread data m).mpr hm), hsize m]
  · rintro hcond m
    rw [hread]
    constructor
    · intro hm
      have hshort : data.length ≤ size := hcond.resolve_right fun hnone => hnone m hm
      exact (hm.eq_of_length_le (by rwa [hsize m])).symm
    · rintro rfl
      exact List.prefix_refl _

/-- **One wire form.** For each message and all data: the reader returns exactly the message of
    which the data are the bytes, if and only if the data are no longer than such a message, or
    no message stands at their front. -/
theorem handshake_messages_exact_iff (data : Bytes) :
    ((∀ m, ClientHello.deserialize data = .ok m ↔ data = m.serialize) ↔
      data.length ≤ 67 ∨ ∀ m : ClientHello, ¬ m.serialize <+: data) ∧
    ((∀ m, ServerHello.deserialize data = .ok m ↔ data = m.serialize) ↔
      data.length ≤ 73 ∨ ∀ m : ServerHello, ¬ m.serialize <+: data) ∧
    ((∀ m, ClientVerify.deserialize data = .ok m ↔ data = m.serialize) ↔
      data.length ≤ 33 ∨ ∀ m : ClientVerify, ¬ m.serialize <+: data) ∧
    ((∀ m, ServerVerify.deserialize data = .ok m ↔ data = m.serialize) ↔
      data.length ≤ 33 ∨ ∀ m : ServerVerify, ¬ m.serialize <+: data) :=
  ⟨exact_iff ClientHello.deserialize_iff ClientHello.serialize_length data,
    exact_iff ServerHello.deserialize_iff ServerHello.serialize_length data,
    exact_iff ClientVerify.deserialize_iff (fun m => serializeVerify_length _ m.hmacTag) data,
    exact_iff ServerVerify.deserialize_iff (fun m => serializeVerify_length _ m.hmacTag) data⟩

/-- A byte behind a CLIENT_HELLO changes nothing that the reader returns. -/
theorem clientHello_extended_accepted :
    let m : ClientHello := ⟨.replicate 32 1, .replicate 32 2, .vkVideo⟩
    ClientHello.deserialize (m.serialize ++ [6]) = .ok m ∧ m.serialize ++ [6] ≠ m.serialize := by
  decide +kernel

/-! ## Calls that go through -/

namespace ClientHandshake

variable {P : Primitives} {c : ClientHandshake P} {ch : ClientHello} {sh : ServerHello}
  {key : SessionKey}

theorem start_run (clientRandom : Arr 32) (hstate : c.state = .initial) :
    start clientRandom c =
      .ok (ClientHello.new clientRandom c.clientKey c.mimicryProfile).serialize
        { c with
          clientHello := some (ClientHello.new clientRandom c.clientKey c.mimicryProfile)
          state := .clientHelloSent } := by
  unfold start
  rw [Method.get_bind, Method.bind_ok (Method.failIf_neg _ (not_not.mpr hstate) _)]
  rfl

theorem processServerHello_run {data : Bytes} (hstate : c.state = .clientHelloSent)
    (hch : c.clientHello = some ch) (hdata : ServerHello.deserialize data = .ok sh) :
    processServerHello data c = .ok sh.sessionId
      { c with
        serverHello := some sh
        sessionKey := some (deriveSessionKey P (c.clientKey.diffieHellman P sh.serverPublicKey)
          (sessionSalt ch sh) HKDF_INFO)
        state := .serverHelloReceived } := by
  unfold processServerHello
  rw [Method.get_bind, Method.bind_ok (Method.failIf_neg _ (not_not.mpr hstate) _), hdata, hch]
  rfl

theorem sendClientVerify_run (hstate : c.state = .serverHelloReceived)
    (hch : c.clientHello = some ch) (hsh : c.serverHello = some sh)
    (hkey : c.sessionKey = some key) :
    sendClientVerify c = .ok (ClientVerify.new P key (ch.serialize ++ sh.serialize)).serialize
      { c with state := .clientVerifySent } := by
  unfold sendClientVerify
  rw [Method.get_bind, Method.bind_ok (Method.failIf_neg _ (not_not.mpr hstate) _), hch, hsh, hkey]
  rfl

theorem processServerVerify_run {data : Bytes} (hstate : c.state = .clientVerifySent)
    (hch : c.clientHello = some ch) (hsh : c.serverHello = some sh)
    (hkey : c.sessionKey = some key)
    (hdata : ServerVerify.deserialize data =
      .ok (ServerVerify.new P key (ch.serialize ++ sh.serialize))) :
    processServerVerify data c = .ok () { c with state := .completed } := by
  unfold processServerVerify
  rw [Method.get_bind, Method.bind_ok (Method.failIf_neg _ (not_not.mpr hstate) _), hdata, hch, hsh,
    hkey]
  exact processVerify_run (verifyTag_hmac P key _) _ _

end ClientHandshake

namespace ServerHandshake

variable {P : Primitives} {s : ServerHandshake P} {ch : ClientHello} {sh : ServerHello}
  {key : SessionKey} {data : Bytes}

theorem processClientHello_run (serverRandom : Arr 32) (hstate : s.state = .initial)
    (hdata : ClientHello.deserialize data = .ok ch) :
    processClientHello serverRandom data s =
      .ok ((ServerHello.new serverRandom s.serverKey s.sessionId).serialize, ch.mimicryProfile)
        { s with
          clientHello := some ch
          serverHello := some (ServerHello.new serverRandom s.serverKey s.sessionId)
          sessionKey := some (deriveSessionKey P (s.serverKey.diffieHellman P ch.clientPublicKey)
            (sessionSalt ch (ServerHello.new serverRandom s.serverKey s.sessionId)) HKDF_INFO)
          state := .serverHelloSent } := by
  unfold processClientHello
  rw [Method.get_bind, Method.bind_ok (Method.failIf_neg _ (not_not.mpr hstate) _), hdata]
  rfl

theorem processClientVerify_run (hstate : s.state = .serverHelloSent)
    (hch : s.clientHello = some ch) (hsh : s.serverHello = some sh)
    (hkey : s.sessionKey = some key)
    (hdata : ClientVerify.deserialize data =
      .ok (ClientVerify.new P key (ch.serialize ++ sh.serialize))) :
    processClientVerify data s = .ok () { s with state := .clientVerifyReceived } := by
  unfold processClientVerify
  rw [Method.get_bind, Method.bind_ok (Method.failIf_neg _ (not_not.mpr hstate) _), hdata, hch, hsh,
    hkey]
  exact processVerify_run (verifyTag_hmac P key _) _ _

theorem sendServerVerify_run (hstate : s.state = .clientVerifyReceived)
    (hch : s.clientHello = some ch) (hsh : s.serverHello = some sh)
    (hkey : s.sessionKey = some key) :
    sendServerVerify s = .ok (ServerVerify.new P key (ch.serialize ++ sh.serialize)).serialize
      { s with state := .completed } := by
  unfold sendServerVerify
  rw [Method.get_bind, Method.bind_ok (Method.failIf_neg _ (not_not.mpr hstate) _), hch, hsh, hkey]
  rfl

end ServerHandshake

end Llp
