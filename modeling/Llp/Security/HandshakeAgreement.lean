/-
  The handshake against an attacker on the network.

  One `ClientHandshake` and one `ServerHandshake` take steps in any order; the attacker chooses
  every byte they receive. `clientMacs` and `serverMacs` record what `ClientVerify::new` and
  `ServerVerify::new` were called on. For a session key `K` the attacker does not know,
  `Unforged K` says of a step that a tag which verifies under `K` was output before;
  `CollisionFree` says that the HMACs of the run do not collide.

  * `transcript_agreement`: when the server accepts a CLIENT_VERIFY under `K`, the client holds
    `K` too, and both hold the same two hellos.
  * `key_confirmation`: when the client completes with `K`, the server has completed with the
    same key and transcript, in every run where the attacker never gives the client its own
    CLIENT_VERIFY tag back as a SERVER_VERIFY (before the server has output that tag).
-/
import Llp.Core.Handshake
import Llp.Lib.Machine

namespace Llp.Security
open ByteCodec

/-- What an HMAC is computed on: a key and a transcript. -/
abbrev MacInput := SessionKey × Bytes

/-- The two parties, and the HMACs they have output. -/
structure Network (P : Primitives) where
  client : ClientHandshake P
  server : ServerHandshake P
  clientMacs : List MacInput
  serverMacs : List MacInput

/-- A call of one party, with the bytes it receives or draws. -/
inductive HandshakeCall where
  | start (clientRandom : Arr 32)
  | processServerHello (data : Bytes)
  | sendClientVerify
  | processServerVerify (data : Bytes)
  | processClientHello (serverRandom : Arr 32) (data : Bytes)
  | processClientVerify (data : Bytes)
  | sendServerVerify

variable {P : Primitives}

/-- The tag of an HMAC. -/
def tag (P : Primitives) (m : MacInput) : Arr 32 := hmacSha256 P m.1.bytes.toList m.2

/-- The key and the transcript a party would compute an HMAC on now. -/
def macInput (ch : Option ClientHello) (sh : Option ServerHello) (key : Option SessionKey) :
    Option MacInput :=
  match ch, sh, key with
  | some ch, some sh, some key => some (key, ch.serialize ++ sh.serialize)
  | _, _, _ => none

namespace Network

/-- What the client's HMACs are computed on. -/
def clientInput (n : Network P) : Option MacInput :=
  macInput n.client.clientHello n.client.serverHello n.client.sessionKey

/-- What the server's HMACs are computed on. -/
def serverInput (n : Network P) : Option MacInput :=
  macInput n.server.clientHello n.server.serverHello n.server.sessionKey

/-- Both parties before the handshake. -/
def init (P : Primitives) (clientSecret serverSecret : Arr 32) (profile : MimicryProfile)
    (sessionId : UInt64) : Network P where
  client := ClientHandshake.new P clientSecret profile
  server := ServerHandshake.new P serverSecret sessionId
  clientMacs := []
  serverMacs := []

/-- One call. Only the calls that send a verify message output an HMAC. -/
def step (n : Network P) : HandshakeCall → Network P
  | .start clientRandom =>
      { n with client := Method.state (ClientHandshake.start clientRandom n.client) }
  | .processServerHello data =>
      { n with client := Method.state (ClientHandshake.processServerHello data n.client) }
  | .sendClientVerify =>
      match ClientHandshake.sendClientVerify n.client with
      | .ok _ c => { n with client := c, clientMacs := n.clientInput.toList ++ n.clientMacs }
      | .error _ c => { n with client := c }
  | .processServerVerify data =>
      { n with client := Method.state (ClientHandshake.processServerVerify data n.client) }
  | .processClientHello serverRandom data =>
      { n with
        server := Method.state (ServerHandshake.processClientHello serverRandom data n.server) }
  | .processClientVerify data =>
      { n with server := Method.state (ServerHandshake.processClientVerify data n.server) }
  | .sendServerVerify =>
      match ServerHandshake.sendServerVerify n.server with
      | .ok _ s => { n with server := s, serverMacs := n.serverInput.toList ++ n.serverMacs }
      | .error _ s => { n with server := s }

/-- The parties as a machine. -/
def calls (P : Primitives) : Machine (Network P) HandshakeCall Unit where
  step n call := ((), n.step call)

/-- The network after a run of calls from the start. -/
def after (P : Primitives) (clientSecret serverSecret : Arr 32) (profile : MimicryProfile)
    (sessionId : UInt64) (run : List HandshakeCall) : Network P :=
  (calls P).final (init P clientSecret serverSecret profile sessionId) run

/-- The tags the parties have output. -/
def tags (n : Network P) : List (Arr 32) := (n.clientMacs ++ n.serverMacs).map (tag P)

/-- The HMACs of the run: those output, and those the parties check against. -/
def macs (n : Network P) : List MacInput :=
  n.clientMacs ++ n.serverMacs ++ n.clientInput.toList ++ n.serverInput.toList

end Network

/-- Two of the HMACs are equal only when they are of the same key and transcript. -/
def CollisionFree (P : Primitives) (macs : List MacInput) : Prop :=
  ∀ m ∈ macs, ∀ m' ∈ macs, tag P m = tag P m' → m = m'

/-- A received tag that verifies under `K` was output before. -/
def Unforged (K : SessionKey) (n : Network P) : HandshakeCall → Prop
  | .processServerVerify data =>
      ∀ v ∈ (ServerVerify.deserialize data).toOption, ∀ m ∈ n.clientInput,
        m.1 = K → v.hmacTag = tag P m → v.hmacTag ∈ n.tags
  | .processClientVerify data =>
      ∀ v ∈ (ClientVerify.deserialize data).toOption, ∀ m ∈ n.serverInput,
        m.1 = K → v.hmacTag = tag P m → v.hmacTag ∈ n.tags
  | _ => True

/-- A SERVER_VERIFY the client receives does not carry a tag that only the client output. -/
def Unreflected (n : Network P) : HandshakeCall → Prop
  | .processServerVerify data =>
      ∀ v ∈ (ServerVerify.deserialize data).toOption,
        v.hmacTag ∈ n.clientMacs.map (tag P) → v.hmacTag ∈ n.serverMacs.map (tag P)
  | _ => True

instance (macs : List MacInput) : Decidable (CollisionFree P macs) :=
  inferInstanceAs (Decidable (∀ m ∈ macs, ∀ m' ∈ macs, _))

instance (K : SessionKey) (n : Network P) : (call : HandshakeCall) → Decidable (Unforged K n call)
  | .processServerVerify data =>
      inferInstanceAs (Decidable (∀ v ∈ (ServerVerify.deserialize data).toOption, _))
  | .processClientVerify data =>
      inferInstanceAs (Decidable (∀ v ∈ (ClientVerify.deserialize data).toOption, _))
  | .start _ | .processServerHello _ | .sendClientVerify | .processClientHello _ _
  | .sendServerVerify => inferInstanceAs (Decidable True)

instance (n : Network P) : (call : HandshakeCall) → Decidable (Unreflected n call)
  | .processServerVerify data =>
      inferInstanceAs (Decidable (∀ v ∈ (ServerVerify.deserialize data).toOption, _))
  | .start _ | .processServerHello _ | .sendClientVerify | .processClientVerify _
  | .processClientHello _ _ | .sendServerVerify => inferInstanceAs (Decidable True)

/-! ## One call -/

theorem macInput_eq {ch : ClientHello} {sh : ServerHello} {key : SessionKey}
    {c? : Option ClientHello} {s? : Option ServerHello} {k? : Option SessionKey}
    (hc : c? = some ch) (hs : s? = some sh) (hk : k? = some key) :
    macInput c? s? k? = some (key, ch.serialize ++ sh.serialize) := by
  rw [hc, hs, hk]
  rfl

/-- What a call can do to the network: nothing, or the one thing it is for. -/
inductive Moves (n : Network P) : HandshakeCall → Network P → Prop where
  | stay (call : HandshakeCall) : Moves n call n
  | start (clientRandom : Arr 32) (hstate : n.client.state = .initial) :
      Moves n (.start clientRandom)
        { n with client := { n.client with
          clientHello :=
            some (ClientHello.new clientRandom n.client.clientKey n.client.mimicryProfile)
          state := .clientHelloSent } }
  | processServerHello {data : Bytes} {sh : ServerHello} (key : SessionKey)
      (hstate : n.client.state = .clientHelloSent)
      (hdata : ServerHello.deserialize data = .ok sh) :
      Moves n (.processServerHello data)
        { n with client := { n.client with
          serverHello := some sh
          sessionKey := some key
          state := .serverHelloReceived } }
  | sendClientVerify {m : MacInput} (hstate : n.client.state = .serverHelloReceived)
      (hinput : n.clientInput = some m) :
      Moves n .sendClientVerify
        { n with
          client := { n.client with state := .clientVerifySent }
          clientMacs := m :: n.clientMacs }
  | processServerVerify {data : Bytes} {v : ServerVerify} {m : MacInput}
      (hstate : n.client.state = .clientVerifySent) (hinput : n.clientInput = some m)
      (hdata : ServerVerify.deserialize data = .ok v) (htag : v.hmacTag = tag P m) :
      Moves n (.processServerVerify data)
        { n with client := { n.client with state := .completed } }
  | processClientHello (serverRandom : Arr 32) {data : Bytes} {ch : ClientHello}
      (key : SessionKey) (hstate : n.server.state = .initial)
      (hdata : ClientHello.deserialize data = .ok ch) :
      Moves n (.processClientHello serverRandom data)
        { n with server := { n.server with
          clientHello := some ch
          serverHello :=
            some (ServerHello.new serverRandom n.server.serverKey n.server.sessionId)
          sessionKey := some key
          state := .serverHelloSent } }
  | processClientVerify {data : Bytes} {v : ClientVerify} {m : MacInput}
      (hstate : n.server.state = .serverHelloSent) (hinput : n.serverInput = some m)
      (hdata : ClientVerify.deserialize data = .ok v) (htag : v.hmacTag = tag P m) :
      Moves n (.processClientVerify data)
        { n with server := { n.server with state := .clientVerifyReceived } }
  | sendServerVerify {m : MacInput} (hstate : n.server.state = .clientVerifyReceived)
      (hinput : n.serverInput = some m) :
      Moves n .sendServerVerify
        { n with
          server := { n.server with state := .completed }
          serverMacs := m :: n.serverMacs }

theorem step_moves (n : Network P) (call : HandshakeCall) : Moves n call (n.step call) := by
  cases call with
  | start clientRandom =>
      simp only [Network.step]
      rcases ClientHandshake.start_cases clientRandom n.client with ⟨hstate, hok⟩ | ⟨e, herr⟩
      · rw [hok]
        exact .start clientRandom hstate
      · rw [herr]
        exact .stay _
  | processServerHello data =>
      simp only [Network.step]
      rcases ClientHandshake.processServerHello_cases data n.client with
        ⟨ch, sh, hstate, hdata, -, hok⟩ | ⟨e, herr⟩
      · rw [hok]
        exact .processServerHello _ hstate hdata
      · rw [herr]
        exact .stay _
  | sendClientVerify =>
      simp only [Network.step]
      rcases ClientHandshake.sendClientVerify_cases n.client with
        ⟨ch, sh, key, hstate, hch, hsh, hkey, hok⟩ | ⟨e, herr⟩
      · have hinput : n.clientInput = some (key, ch.serialize ++ sh.serialize) :=
          macInput_eq hch hsh hkey
        rw [hok, hinput]
        exact .sendClientVerify hstate hinput
      · rw [herr]
        exact .stay _
  | processServerVerify data =>
      simp only [Network.step]
      rcases ClientHandshake.processServerVerify_cases data n.client with
        ⟨ch, sh, key, v, hstate, hch, hsh, hkey, hdata, hverify, hok⟩ | ⟨e, herr⟩
      · rw [hok]
        exact .processServerVerify hstate (macInput_eq hch hsh hkey) hdata (verifyTag_ok hverify)
      · rw [herr]
        exact .stay _
  | processClientHello serverRandom data =>
      simp only [Network.step]
      rcases ServerHandshake.processClientHello_cases serverRandom data n.server with
        ⟨ch, hstate, hdata, hok⟩ | ⟨e, herr⟩
      · rw [hok]
        exact .processClientHello serverRandom _ hstate hdata
      · rw [herr]
        exact .stay _
  | processClientVerify data =>
      simp only [Network.step]
      rcases ServerHandshake.processClientVerify_cases data n.server with
        ⟨ch, sh, key, v, hstate, hch, hsh, hkey, hdata, hverify, hok⟩ | ⟨e, herr⟩
      · rw [hok]
        exact .processClientVerify hstate (macInput_eq hch hsh hkey) hdata (verifyTag_ok hverify)
      · rw [herr]
        exact .stay _
  | sendServerVerify =>
      simp only [Network.step]
      rcases ServerHandshake.sendServerVerify_cases n.server with
        ⟨ch, sh, key, hstate, hch, hsh, hkey, hok⟩ | ⟨e, herr⟩
      · have hinput : n.serverInput = some (key, ch.serialize ++ sh.serialize) :=
          macInput_eq hch hsh hkey
        rw [hok, hinput]
        exact .sendServerVerify hstate hinput
      · rw [herr]
        exact .stay _

/-! ## What each party keeps -/

/-- The client's hello names its own key and profile; it has output an HMAC, of its own
    transcript, once it has sent CLIENT_VERIFY. -/
structure ClientInv (n : Network P) : Prop where
  own : ∀ ch ∈ n.client.clientHello,
    ch.clientPublicKey = n.client.clientKey.publicKey ∧
      ch.mimicryProfile = n.client.mimicryProfile
  early : n.client.state ≠ .clientVerifySent → n.client.state ≠ .completed → n.clientMacs = []
  late : n.client.state = .clientVerifySent ∨ n.client.state = .completed →
    ∃ m, n.clientInput = some m ∧ n.clientMacs = [m]

/-- The server's hello names its own key and session id; it has output an HMAC, of its own
    transcript, once it has completed. -/
structure ServerInv (n : Network P) : Prop where
  own : ∀ sh ∈ n.server.serverHello,
    sh.serverPublicKey = n.server.serverKey.publicKey ∧ sh.sessionId = n.server.sessionId
  early : n.server.state ≠ .completed → n.serverMacs = []
  late : n.server.state = .completed → ∃ m, n.serverInput = some m ∧ n.serverMacs = [m]

theorem clientInv_step (n : Network P) (call : HandshakeCall) (h : ClientInv n) :
    ClientInv (n.step call) := by
  have hmove := step_moves n call
  generalize n.step call = n' at hmove ⊢
  cases hmove with
  | stay => exact h
  | start clientRandom hstate =>
      have hmacs := h.early (by simp [hstate]) (by simp [hstate])
      exact ⟨fun ch hch => by cases hch; exact ⟨rfl, rfl⟩, fun _ _ => hmacs, by simp⟩
  | processServerHello key hstate hdata =>
      have hmacs := h.early (by simp [hstate]) (by simp [hstate])
      exact ⟨h.own, fun _ _ => hmacs, by simp⟩
  | sendClientVerify hstate hinput =>
      have hmacs := h.early (by simp [hstate]) (by simp [hstate])
      exact ⟨h.own, by simp, fun _ => ⟨_, hinput, by simp only [hmacs]⟩⟩
  | processServerVerify hstate _ _ _ => exact ⟨h.own, by simp, fun _ => h.late (Or.inl hstate)⟩
  | processClientHello _ _ _ _ => exact ⟨h.own, h.early, h.late⟩
  | processClientVerify _ _ _ _ => exact ⟨h.own, h.early, h.late⟩
  | sendServerVerify _ _ => exact ⟨h.own, h.early, h.late⟩

theorem serverInv_step (n : Network P) (call : HandshakeCall) (h : ServerInv n) :
    ServerInv (n.step call) := by
  have hmove := step_moves n call
  generalize n.step call = n' at hmove ⊢
  cases hmove with
  | stay => exact h
  | start _ _ => exact ⟨h.own, h.early, h.late⟩
  | processServerHello _ _ _ => exact ⟨h.own, h.early, h.late⟩
  | sendClientVerify _ _ => exact ⟨h.own, h.early, h.late⟩
  | processServerVerify _ _ _ _ => exact ⟨h.own, h.early, h.late⟩
  | processClientHello serverRandom key hstate hdata =>
      have hmacs := h.early (by simp [hstate])
      exact ⟨fun sh hsh => by cases hsh; exact ⟨rfl, rfl⟩, fun _ => hmacs, by simp⟩
  | processClientVerify hstate _ _ _ =>
      have hmacs := h.early (by simp [hstate])
      exact ⟨h.own, fun _ => hmacs, by simp⟩
  | sendServerVerify hstate hinput =>
      have hmacs := h.early (by simp [hstate])
      exact ⟨h.own, by simp, fun _ => ⟨_, hinput, by simp only [hmacs]⟩⟩

/-! ## What an accepted tag says -/

/-- A server that accepted CLIENT_VERIFY under `K` accepted a tag the client had output. -/
def AcceptedFromClient (K : SessionKey) (n : Network P) : Prop :=
  n.server.state = .clientVerifyReceived ∨ n.server.state = .completed →
    ∀ m ∈ n.serverInput, m.1 = K → tag P m ∈ n.clientMacs.map (tag P)

/-- A client that completed with `K` accepted a tag the server had output. -/
def ConfirmedByServer (K : SessionKey) (n : Network P) : Prop :=
  n.client.state = .completed →
    ∀ m ∈ n.clientInput, m.1 = K → tag P m ∈ n.serverMacs.map (tag P)

theorem acceptedFromClient_step {K : SessionKey} (n : Network P) (call : HandshakeCall)
    (hs : ServerInv n) (hu : Unforged K n call) (h : AcceptedFromClient K n) :
    AcceptedFromClient K (n.step call) := by
  have hmove := step_moves n call
  generalize n.step call = n' at hmove ⊢
  cases hmove with
  | stay => exact h
  | start _ _ => exact h
  | processServerHello _ _ _ => exact h
  | sendClientVerify _ _ => exact fun hst m hm hk => List.mem_cons_of_mem _ (h hst m hm hk)
  | processServerVerify _ _ _ _ => exact h
  | processClientHello _ _ _ _ =>
      intro hst
      simp at hst
  | @processClientVerify data v m' hstate hinput hdata htag =>
      intro _ m hm hk
      have hm : m ∈ n.serverInput := hm
      obtain rfl : m' = m := Option.some.inj (hinput.symm.trans hm)
      -- the tag was output, and the server has output none yet
      have hout := hu v (by rw [hdata]; rfl) m' hm hk htag
      rw [Network.tags, hs.early (by simp [hstate]), List.append_nil, htag] at hout
      exact hout
  | sendServerVerify hstate _ => exact fun _ => h (Or.inl hstate)

theorem confirmedByServer_step {K : SessionKey} (n : Network P) (call : HandshakeCall)
    (hu : Unforged K n call) (hr : Unreflected n call) (h : ConfirmedByServer K n) :
    ConfirmedByServer K (n.step call) := by
  have hmove := step_moves n call
  generalize n.step call = n' at hmove ⊢
  cases hmove with
  | stay => exact h
  | start _ _ =>
      intro hst
      simp at hst
  | processServerHello _ _ _ =>
      intro hst
      simp at hst
  | sendClientVerify _ _ =>
      intro hst
      simp at hst
  | @processServerVerify data v m' hstate hinput hdata htag =>
      intro _ m hm hk
      have hm : m ∈ n.clientInput := hm
      obtain rfl : m' = m := Option.some.inj (hinput.symm.trans hm)
      have hmem : v ∈ (ServerVerify.deserialize data).toOption := by rw [hdata]; rfl
      -- the tag was output, and not by the client only
      have hout := hu v hmem m' hm hk htag
      rw [Network.tags, List.map_append, List.mem_append] at hout
      rw [← htag]
      exact hout.elim (hr v hmem) id
  | processClientHello _ _ _ _ => exact h
  | processClientVerify _ _ _ _ => exact h
  | sendServerVerify _ _ => exact fun hst m hm hk => List.mem_cons_of_mem _ (h hst m hm hk)

/-! ## Agreement -/

theorem macInput_some {c? : Option ClientHello} {s? : Option ServerHello}
    {k? : Option SessionKey} {m : MacInput} (h : macInput c? s? k? = some m) :
    ∃ ch sh, c? = some ch ∧ s? = some sh ∧ k? = some m.1 ∧
      m.2 = ch.serialize ++ sh.serialize := by
  unfold macInput at h
  split at h
  · cases h
    exact ⟨_, _, rfl, rfl, rfl, rfl⟩
  · cases h

/-- The parties hold the key `K`, the same two hellos, and these name the parties' own public
    keys, profile and session id. -/
def Agree (K : SessionKey) (ch : ClientHello) (sh : ServerHello) (n : Network P) : Prop :=
  n.client.sessionKey = some K ∧ n.server.sessionKey = some K ∧
    n.client.clientHello = some ch ∧ n.server.clientHello = some ch ∧
    n.client.serverHello = some sh ∧ n.server.serverHello = some sh ∧
    ch.clientPublicKey = n.client.clientKey.publicKey ∧
    ch.mimicryProfile = n.client.mimicryProfile ∧
    sh.serverPublicKey = n.server.serverKey.publicKey ∧ sh.sessionId = n.server.sessionId

/-- Parties whose HMACs are of the same key and transcript agree. -/
theorem agree_of_input {n : Network P} {m : MacInput} (hc : ClientInv n) (hs : ServerInv n)
    (hci : n.clientInput = some m) (hsi : n.serverInput = some m) :
    ∃ ch sh, Agree m.1 ch sh n ∧ m.2 = ch.serialize ++ sh.serialize := by
  obtain ⟨ch, sh, hch, hsh, hck, hct⟩ := macInput_some hci
  obtain ⟨ch', sh', hch', hsh', hsk, hst⟩ := macInput_some hsi
  obtain ⟨rfl, rfl⟩ := transcript_inj (hct.symm.trans hst)
  obtain ⟨hpub, hprofile⟩ := hc.own ch hch
  obtain ⟨hspub, hid⟩ := hs.own sh hsh'
  exact ⟨ch, sh, ⟨hck, hsk, hch, hch', hsh, hsh', hpub, hprofile, hspub, hid⟩, hct⟩

section Runs

variable {clientSecret serverSecret : Arr 32} {profile : MimicryProfile} {sessionId : UInt64}

theorem clientInv_init :
    ClientInv (Network.init P clientSecret serverSecret profile sessionId) where
  own ch hch := by cases hch
  early _ _ := rfl
  late h := by simp [Network.init, ClientHandshake.new] at h

theorem serverInv_init :
    ServerInv (Network.init P clientSecret serverSecret profile sessionId) where
  own sh hsh := by cases hsh
  early _ := rfl
  late h := by simp [Network.init, ServerHandshake.new] at h

/-- **Transcript agreement.** In a run where no tag under `K` is forged, if the server accepts a
    CLIENT_VERIFY under `K`, then the client has processed a SERVER_HELLO, holds the key `K`, and
    the two parties hold the same hellos. -/
theorem transcript_agreement {K : SessionKey} {run : List HandshakeCall} {data : Bytes}
    {n : Network P} {s' : ServerHandshake P}
    (hn : n = Network.after P clientSecret serverSecret profile sessionId run)
    (hrun : (Network.calls P).Always (Unforged K)
      (Network.init P clientSecret serverSecret profile sessionId)
      (run ++ [.processClientVerify data]))
    (hfree : CollisionFree P n.macs)
    (hkey : n.server.sessionKey = some K)
    (haccept : ServerHandshake.processClientVerify data n.server = .ok () s') :
    ∃ ch sh, Agree K ch sh n := by
  rw [Machine.always_append] at hrun
  obtain ⟨hrun, hlast, -⟩ := hrun
  obtain ⟨hc, hs, ha⟩ := Machine.final_invariant _
    (I := fun n => ClientInv n ∧ ServerInv n ∧ AcceptedFromClient K n)
    (fun n call h hu => ⟨clientInv_step n call h.1, serverInv_step n call h.2.1,
      acceptedFromClient_step n call h.2.1 hu h.2.2⟩)
    _ run ⟨clientInv_init, serverInv_init, fun h => by
      simp [Network.init, ServerHandshake.new] at h⟩ hrun
  rw [Network.after] at hn
  rw [← hn] at hc hs ha hlast
  -- the accepted tag was output, so the client has output one
  have ha' := acceptedFromClient_step n (.processClientVerify data) hs hlast ha
  rcases ServerHandshake.processClientVerify_cases data n.server with
    ⟨ch, sh, key, v, -, hch, hsh, hk, -, -, hok⟩ | ⟨e, herr⟩
  · have hinput := macInput_eq hch hsh hk
    obtain rfl : key = K := Option.some.inj (hk.symm.trans hkey)
    have htag : tag P (key, ch.serialize ++ sh.serialize) ∈ n.clientMacs.map (tag P) := by
      simp only [Network.step, hok] at ha'
      exact ha' (Or.inl rfl) _ hinput rfl
    obtain ⟨m, hm, hmtag⟩ := List.mem_map.mp htag
    have hlate : n.client.state = .clientVerifySent ∨ n.client.state = .completed := by
      by_contra hno
      obtain ⟨h₁, h₂⟩ := not_or.mp hno
      simp [hc.early h₁ h₂] at hm
    obtain ⟨m', hci, hmacs⟩ := hc.late hlate
    obtain rfl : m = m' := by simpa [hmacs] using hm
    have hsame : m = (key, ch.serialize ++ sh.serialize) :=
      hfree m (by simp [Network.macs, hmacs]) _
        (by simp [Network.macs, Network.serverInput, hinput]) hmtag
    obtain ⟨ch', sh', hagree, -⟩ := agree_of_input hc hs hci (hsame ▸ hinput)
    exact ⟨ch', sh', by rw [hsame] at hagree; exact hagree⟩
  · rw [herr] at haccept
    cases haccept

/-- **Key confirmation to the client.** In a run where no tag under `K` is forged and the client
    gets no tag of its own back, if the client has completed with `K`, then the server has
    completed with `K`, on the same hellos, and has output SERVER_VERIFY for them. -/
theorem key_confirmation {K : SessionKey} {run : List HandshakeCall} {n : Network P}
    (hn : n = Network.after P clientSecret serverSecret profile sessionId run)
    (hrun : (Network.calls P).Always (fun n call => Unforged K n call ∧ Unreflected n call)
      (Network.init P clientSecret serverSecret profile sessionId) run)
    (hfree : CollisionFree P n.macs)
    (hdone : n.client.isCompleted = true) (hkey : n.client.sessionKey = some K) :
    ∃ ch sh, Agree K ch sh n ∧ n.server.isCompleted = true ∧
      n.serverMacs = [(K, ch.serialize ++ sh.serialize)] := by
  obtain ⟨hc, hs, hb⟩ := Machine.final_invariant _
    (I := fun n => ClientInv n ∧ ServerInv n ∧ ConfirmedByServer K n)
    (fun n call h hu => ⟨clientInv_step n call h.1, serverInv_step n call h.2.1,
      confirmedByServer_step n call hu.1 hu.2 h.2.2⟩)
    _ run ⟨clientInv_init, serverInv_init, fun h => by
      simp [Network.init, ClientHandshake.new] at h⟩ hrun
  rw [Network.after] at hn
  rw [← hn] at hc hs hb
  have hdone : n.client.state = .completed := by simpa [ClientHandshake.isCompleted] using hdone
  obtain ⟨m, hci, hcmacs⟩ := hc.late (Or.inr hdone)
  have hmk : m.1 = K := by
    obtain ⟨-, -, -, -, hk, -⟩ := macInput_some hci
    exact Option.some.inj (hk.symm.trans hkey)
  obtain ⟨m', hm', htag⟩ := List.mem_map.mp (hb hdone m hci hmk)
  have hcompleted : n.server.state = .completed := by
    by_contra hno
    simp [hs.early hno] at hm'
  obtain ⟨m'', hsi, hsmacs⟩ := hs.late hcompleted
  obtain rfl : m' = m'' := by simpa [hsmacs] using hm'
  obtain rfl : m' = m :=
    hfree m' (by simp [Network.macs, hsmacs]) m (by simp [Network.macs, hcmacs]) htag
  obtain ⟨ch, sh, hagree, ht⟩ := agree_of_input hc hs hci hsi
  rw [hmk] at hagree
  refine ⟨ch, sh, hagree, by simpa [ServerHandshake.isCompleted] using hcompleted, ?_⟩
  rw [hsmacs, ← hmk, ← ht]

end Runs

/-! ## Two runs -/

section Sample

def sampleRandom : Arr 32 := List.Vector.replicate 32 5

/-- A client with secret 1, a server with secret 2 and session id 77. -/
def sampleAfter (run : List HandshakeCall) : Network samplePrimitives :=
  Network.after samplePrimitives (List.Vector.replicate 32 1) (List.Vector.replicate 32 2)
    .vkVideo 77 run

def sampleClientHello : ClientHello := ⟨List.Vector.replicate 32 1, sampleRandom, .vkVideo⟩

def sampleServerHello : ServerHello := ⟨List.Vector.replicate 32 2, sampleRandom, 77⟩

def sampleSessionKey : SessionKey :=
  deriveSessionKey samplePrimitives (List.Vector.replicate 32 3)
    (sessionSalt sampleClientHello sampleServerHello) HKDF_INFO

/-- The tag both parties compute. -/
def sampleTag : Arr 32 :=
  tag samplePrimitives
    (sampleSessionKey, sampleClientHello.serialize ++ sampleServerHello.serialize)

/-- The hellos are exchanged and the client sends CLIENT_VERIFY. -/
def sampleHellos : List HandshakeCall :=
  [.start sampleRandom, .processClientHello sampleRandom sampleClientHello.serialize,
    .processServerHello sampleServerHello.serialize, .sendClientVerify]

/-- The server accepts it. -/
theorem transcript_agreement_sample :
    ∃ ch sh, Agree sampleSessionKey ch sh (sampleAfter sampleHellos) :=
  have haccept : ServerHandshake.processClientVerify (serializeVerify .clientVerify sampleTag)
      (sampleAfter sampleHellos).server = .ok () (sampleAfter (sampleHellos ++
        [.processClientVerify (serializeVerify .clientVerify sampleTag)])).server := rfl
  transcript_agreement rfl (by decide +kernel) (by decide +kernel) (by decide +kernel) haccept

/-- The rest of the handshake. -/
def sampleVerifies : List HandshakeCall :=
  [.processClientVerify (serializeVerify .clientVerify sampleTag), .sendServerVerify,
    .processServerVerify (serializeVerify .serverVerify sampleTag)]

theorem key_confirmation_sample :
    ∃ ch sh, Agree sampleSessionKey ch sh (sampleAfter (sampleHellos ++ sampleVerifies)) ∧
      (sampleAfter (sampleHellos ++ sampleVerifies)).server.isCompleted = true ∧
      (sampleAfter (sampleHellos ++ sampleVerifies)).serverMacs =
        [(sampleSessionKey, ch.serialize ++ sh.serialize)] :=
  key_confirmation rfl (by decide +kernel) (by decide +kernel) (by decide +kernel)
    (by decide +kernel)

/-- The client's own tag comes back to it as a SERVER_VERIFY. -/
def sampleReflection : List HandshakeCall :=
  sampleHellos ++ [.processServerVerify (serializeVerify .serverVerify sampleTag)]

/-- No tag is forged, the client completes with the server's key, and the server has accepted
    nothing. -/
theorem client_completes_on_reflection :
    (Network.calls samplePrimitives).Always (Unforged sampleSessionKey)
        (Network.init samplePrimitives (List.Vector.replicate 32 1) (List.Vector.replicate 32 2)
          .vkVideo 77) sampleReflection ∧
      CollisionFree samplePrimitives (sampleAfter sampleReflection).macs ∧
      (sampleAfter sampleReflection).client.sessionKey? = some sampleSessionKey ∧
      (sampleAfter sampleReflection).server.sessionKey = some sampleSessionKey ∧
      (sampleAfter sampleReflection).server.state = .serverHelloSent ∧
      (sampleAfter sampleReflection).serverMacs = [] := by
  decide +kernel

end Sample

end Llp.Security
