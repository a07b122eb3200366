/-
  The handshake objects under any use.

  `ClientCall` and `ServerCall` are the calls of the two objects, with whatever bytes they receive;
  a run is any list of them, in any order. `Filled` says which options a state has filled in. Each
  object has one inversion, `ClientHandshake.Move` and `ServerHandshake.Move`: what a call can do.

  * `handshakes_safe`: no call panics, the state moves along the protocol only, the key is out
    exactly when the handshake is complete, and that is so only after a verify message of the peer
    whose HMAC over the transcript verified under the key.
-/
import Llp.Core.HandshakeCodec
import Llp.Lib.Machine

namespace Llp
open ByteCodec

/-! ## A party of the handshake -/

/-- A state stays, or becomes the next one of the protocol. -/
def Forward (protocol : List HandshakeState) (s s' : HandshakeState) : Prop :=
  s' = s ∨ (s, s') ∈ protocol.zip protocol.tail

instance (protocol : List HandshakeState) (s s' : HandshakeState) :
    Decidable (Forward protocol s s') :=
  inferInstanceAs (Decidable (_ ∨ _))

/-- What any run of calls keeps to, for a party with the given states in the order of its protocol.
    `Verifies s call key` says that on `s` the call verified an HMAC under `key`. -/
structure SafeUnderCalls {σ ι : Type} (M : Machine σ ι (Fallible LlpError Unit)) (init : σ)
    (state : σ → HandshakeState) (protocol : List HandshakeState)
    (sessionKey? : σ → Option SessionKey) (isCompleted : σ → Bool)
    (Verifies : σ → ι → SessionKey → Prop) : Prop where
  noPanic : ∀ calls, ∀ outcome ∈ M.outputs init calls, outcome ≠ .error .panic
  inProtocol : ∀ calls, state (M.final init calls) ∈ protocol
  forward : ∀ calls call,
    Forward protocol (state (M.final init calls)) (state (M.final init (calls ++ [call])))
  key : ∀ calls, (sessionKey? (M.final init calls)).isSome = isCompleted (M.final init calls)
  verified : ∀ calls key, sessionKey? (M.final init calls) = some key →
    ∃ pre call post, calls = pre ++ call :: post ∧ Verifies (M.final init pre) call key

section Party

variable {σ ι : Type} {m : ι → Method σ LlpError Unit} {init : σ}
  {state : σ → HandshakeState} {protocol : List HandshakeState}
  {sessionKey? : σ → Option SessionKey} {isCompleted : σ → Bool}
  {Verifies : σ → ι → SessionKey → Prop} {I : σ → Prop} {H : SessionKey → σ → Prop}

/-- It is enough to look at one call, under an invariant; `H key` is what a state holds once
    an HMAC under `key` has verified. -/
theorem SafeUnderCalls.of_call (hinit : I init) (hkeep : ∀ call, Method.Keeps I (m call))
    (hnoPanic : ∀ call s, I s → Method.NoPanic (m call) s) (hstate : ∀ s, I s → state s ∈ protocol)
    (hforward : ∀ call s, I s → Forward protocol (state s) (state (Method.state (m call s))))
    (hkey : ∀ s, I s → (sessionKey? s).isSome = isCompleted s)
    (hholds : ∀ s key, sessionKey? s = some key → H key s) (hempty : ∀ key, ¬ H key init)
    (hverifies : ∀ call s key, I s → ¬ H key s → H key (Method.state (m call s)) →
      Verifies s call key) :
    SafeUnderCalls (Method.machine m) init state protocol sessionKey? isCompleted Verifies := by
  have hinv : ∀ calls, I ((Method.machine m).final init calls) := fun calls =>
    Machine.final_invariant _ (P := fun _ _ => True) (fun s call hs _ => hkeep call s hs) init calls
      hinit (Machine.always_true _ _ _)
  exact {
    noPanic := fun calls => Machine.outputs_invariant _ (fun s call hs => hkeep call s hs)
      (fun s call hs => (hnoPanic call s hs).result) init calls hinit
    inProtocol := fun calls => hstate _ (hinv calls)
    forward := fun calls call => by
      rw [Machine.final_snoc]
      exact hforward call _ (hinv calls)
    key := fun calls => hkey _ (hinv calls)
    verified := fun calls key hfinal => by
      obtain ⟨pre, call, post, hsplit, hI, hbefore, hafter⟩ := Machine.exists_step_of_final _
        (fun s call hs => hkeep call s hs) init calls hinit (hempty key) (hholds _ key hfinal)
      exact ⟨pre, call, post, hsplit, hverifies call _ key hI hbefore hafter⟩ }

end Party

theorem buildTranscript_noPanic {clientHello : Option ClientHello}
    {serverHello : Option ServerHello} (hch : clientHello.isSome) (hsh : serverHello.isSome) :
    buildTranscript clientHello serverHello ≠ .error .panic := by
  obtain ⟨ch, rfl⟩ := Option.isSome_iff_exists.mp hch
  obtain ⟨sh, rfl⟩ := Option.isSome_iff_exists.mp hsh
  rw [buildTranscript_some]
  intro h
  cases h

/-! ### What the verify calls share -/

section Verify

variable {σ ν : Type} {clientHello : Option ClientHello} {serverHello : Option ServerHello}
  {sessionKey : Option SessionKey}

/-- With the hellos and the key there, a verify message is sent. -/
theorem sendVerify_noPanic (hch : clientHello.isSome) (hsh : serverHello.isSome)
    (hkey : sessionKey.isSome) (message : SessionKey → Bytes → Bytes) (s s' : σ) :
    let call : Method σ LlpError Bytes := do
      let transcript ← Method.lift (buildTranscript clientHello serverHello)
      let sessionKey ← Method.lift sessionKey.unwrap
      let message := message sessionKey transcript
      set s'
      pure message
    Method.NoPanic call s := by
  refine .lift_bind (buildTranscript_noPanic hch hsh) fun transcript _ => ?_
  refine .lift_bind (Option.unwrap_noPanic hkey) fun key _ => ?_
  exact .bind (.set _ _) fun _ _ _ => .pure _ _

/-- A received one is checked, when reading and checking do not panic. -/
theorem processVerify_noPanic (hch : clientHello.isSome) (hsh : serverHello.isSome)
    (hkey : sessionKey.isSome) {received : Fallible LlpError ν}
    (hreceived : received ≠ .error .panic)
    {verify : ν → SessionKey → Bytes → Fallible LlpError Unit}
    (hverify : ∀ v key transcript, verify v key transcript ≠ .error .panic) (s s' : σ) :
    let call : Method σ LlpError Unit := do
      let received ← Method.lift received
      let transcript ← Method.lift (buildTranscript clientHello serverHello)
      let sessionKey ← Method.lift sessionKey.unwrap
      Method.lift (verify received sessionKey transcript)
      set s'
    Method.NoPanic call s := by
  refine .lift_bind hreceived fun v _ => ?_
  refine .lift_bind (buildTranscript_noPanic hch hsh) fun transcript _ => ?_
  refine .lift_bind (Option.unwrap_noPanic hkey) fun key _ => ?_
  exact .lift_bind (hverify v key transcript) fun _ _ => .set _ _

end Verify

/-! ## The client -/

/-- A call of the client, with what it draws or receives. -/
inductive ClientCall where
  | start (clientRandom : Arr 32)
  | processServerHello (data : Bytes)
  | sendClientVerify
  | processServerVerify (data : Bytes)

namespace ClientHandshake

variable {P : Primitives}

/-- The call, without what it returns. -/
def call : ClientCall → Method (ClientHandshake P) LlpError Unit
  | .start clientRandom => do
      let _ ← start clientRandom
      pure ()
  | .processServerHello data => do
      let _ ← processServerHello data
      pure ()
  | .sendClientVerify => do
      let _ ← sendClientVerify
      pure ()
  | .processServerVerify data => processServerVerify data

/-- The states of the client, in order. -/
def protocol : List HandshakeState :=
  [.initial, .clientHelloSent, .serverHelloReceived, .clientVerifySent, .completed]

/-- What is filled in, by the state. -/
def Filled (c : ClientHandshake P) : Prop :=
  match c.state with
  | .initial => True
  | .clientHelloSent => c.clientHello.isSome
  | .serverHelloReceived | .clientVerifySent | .completed =>
      c.clientHello.isSome ∧ c.serverHello.isSome ∧ c.sessionKey.isSome
  | _ => False

/-- The call is given a SERVER_VERIFY whose HMAC over the transcript verifies. -/
def Verifies (c : ClientHandshake P) (call : ClientCall) (key : SessionKey) : Prop :=
  ∃ data ch sh v, call = .processServerVerify data ∧ c.clientHello = some ch ∧
    c.serverHello = some sh ∧ c.sessionKey = some key ∧ ServerVerify.deserialize data = .ok v ∧
    v.hmacTag = hmacSha256 P key.bytes.toList (ch.serialize ++ sh.serialize)

/-- What a call can do. -/
inductive Move (c : ClientHandshake P) : ClientCall → ClientHandshake P → Prop where
  | stay (call : ClientCall) : Move c call c
  | start (clientRandom : Arr 32) (ch : ClientHello) (hstate : c.state = .initial) :
      Move c (.start clientRandom) { c with clientHello := some ch, state := .clientHelloSent }
  | processServerHello (data : Bytes) (sh : ServerHello) (key : SessionKey)
      (hstate : c.state = .clientHelloSent) (hch : c.clientHello.isSome) :
      Move c (.processServerHello data)
        { c with serverHello := some sh, sessionKey := some key, state := .serverHelloReceived }
  | sendClientVerify (hstate : c.state = .serverHelloReceived) :
      Move c .sendClientVerify { c with state := .clientVerifySent }
  | processServerVerify (data : Bytes) (key : SessionKey) (hstate : c.state = .clientVerifySent)
      (hkey : c.sessionKey = some key) (hverify : Verifies c (.processServerVerify data) key) :
      Move c (.processServerVerify data) { c with state := .completed }

theorem call_move (x : ClientCall) (c : ClientHandshake P) :
    Move c x (Method.state (call x c)) := by
  cases x with
  | start clientRandom =>
      rw [call, Method.state_bind_pure]
      rcases start_cases clientRandom c with ⟨hstate, hok⟩ | ⟨e, herr⟩
      · rw [hok]
        exact .start clientRandom _ hstate
      · rw [herr]
        exact .stay _
  | processServerHello data =>
      rw [call, Method.state_bind_pure]
      rcases processServerHello_cases data c with ⟨ch, sh, hstate, -, hch, hok⟩ | ⟨e, herr⟩
      · rw [hok]
        exact .processServerHello data sh _ hstate (by rw [hch]; rfl)
      · rw [herr]
        exact .stay _
  | sendClientVerify =>
      rw [call, Method.state_bind_pure]
      rcases sendClientVerify_cases c with ⟨ch, sh, key, hstate, -, -, -, hok⟩ | ⟨e, herr⟩
      · rw [hok]
        exact .sendClientVerify hstate
      · rw [herr]
        exact .stay _
  | processServerVerify data =>
      rw [call]
      rcases processServerVerify_cases data c with
        ⟨ch, sh, key, v, hstate, hch, hsh, hkey, hdata, hverify, hok⟩ | ⟨e, herr⟩
      · rw [hok]
        exact .processServerVerify data key hstate hkey
          ⟨data, ch, sh, v, rfl, hch, hsh, hkey, hdata, verifyTag_ok hverify⟩
      · rw [herr]
        exact .stay _

theorem Move.filled {c c' : ClientHandshake P} {x : ClientCall} (h : Move c x c')
    (hc : c.Filled) : c'.Filled := by
  cases h with
  | stay => exact hc
  | start clientRandom ch hstate => rfl
  | processServerHello data sh key hstate hch => exact ⟨hch, rfl, rfl⟩
  | sendClientVerify hstate =>
      rw [Filled, hstate] at hc
      exact hc
  | processServerVerify data key hstate hkey hverify =>
      rw [Filled, hstate] at hc
      exact hc

theorem Filled.mem_protocol {c : ClientHandshake P} (h : c.Filled) : c.state ∈ protocol := by
  unfold Filled at h
  cases hstate : c.state with
  | initial => decide
  | clientHelloSent => decide
  | serverHelloReceived => decide
  | clientVerifySent => decide
  | completed => decide
  | _ =>
      rw [hstate] at h
      exact h.elim

theorem Move.forward {c c' : ClientHandshake P} {x : ClientCall} (h : Move c x c') :
    Forward protocol c.state c'.state := by
  cases h with
  | stay => exact .inl rfl
  | start clientRandom ch hstate =>
      rw [hstate]
      exact (by decide : Forward protocol .initial .clientHelloSent)
  | processServerHello data sh key hstate hch =>
      rw [hstate]
      exact (by decide : Forward protocol .clientHelloSent .serverHelloReceived)
  | sendClientVerify hstate =>
      rw [hstate]
      exact (by decide : Forward protocol .serverHelloReceived .clientVerifySent)
  | processServerVerify data key hstate hkey hverify =>
      rw [hstate]
      exact (by decide : Forward protocol .clientVerifySent .completed)

/-- A call in a state finds what the state has filled in. -/
theorem Filled.noPanic {c : ClientHandshake P} (h : c.Filled) (x : ClientCall) :
    Method.NoPanic (call x) c := by
  cases x with
  | start clientRandom =>
      refine .bind (.get_bind (.failIf_bind fun _ => ?_)) fun _ _ _ => .pure _ _
      exact .bind (.set _ _) fun _ _ _ => .pure _ _
  | processServerHello data =>
      refine .bind (.get_bind (.failIf_bind fun hstate => ?_)) fun _ _ _ => .pure _ _
      rw [Filled, not_not.mp hstate] at h
      refine .lift_bind (ServerHello.deserialize_noPanic data) fun sh _ => ?_
      refine .lift_bind (Option.unwrap_noPanic h) fun ch _ => ?_
      exact .bind (.set _ _) fun _ _ _ => .pure _ _
  | sendClientVerify =>
      refine .bind (.get_bind (.failIf_bind fun hstate => ?_)) fun _ _ _ => .pure _ _
      rw [Filled, not_not.mp hstate] at h
      exact sendVerify_noPanic h.1 h.2.1 h.2.2 _ _ _
  | processServerVerify data =>
      refine .get_bind (.failIf_bind fun hstate => ?_)
      rw [Filled, not_not.mp hstate] at h
      exact processVerify_noPanic h.1 h.2.1 h.2.2 (ServerVerify.deserialize_noPanic data)
        (fun v => verifyTag_noPanic P v.hmacTag) _ _

theorem Filled.sessionKey {c : ClientHandshake P} (h : c.Filled) :
    c.sessionKey?.isSome = c.isCompleted := by
  unfold sessionKey? isCompleted
  by_cases hstate : c.state = .completed
  · rw [Filled, hstate] at h
    rw [if_pos hstate, h.2.2, decide_eq_true hstate]
  · rw [if_neg hstate, decide_eq_false hstate]
    rfl

/-- Only a verified HMAC completes the handshake. -/
theorem Move.verifies {c c' : ClientHandshake P} {x : ClientCall} (h : Move c x c')
    {key : SessionKey} (hbefore : c.sessionKey? ≠ some key) (hafter : c'.sessionKey? = some key) :
    Verifies c x key := by
  unfold sessionKey? at hbefore hafter
  cases h with
  | stay => exact absurd hafter hbefore
  | start clientRandom ch hstate => cases hafter
  | processServerHello data sh key' hstate hch => cases hafter
  | sendClientVerify hstate => cases hafter
  | processServerVerify data key' hstate hkey hverify =>
      rw [if_pos rfl] at hafter
      cases hkey.symm.trans hafter
      exact hverify

/-- The client under any use. -/
theorem safe (P : Primitives) (secret : Arr 32) (profile : MimicryProfile) :
    SafeUnderCalls (Method.machine call) (new P secret profile) ClientHandshake.state protocol
      sessionKey? isCompleted Verifies :=
  SafeUnderCalls.of_call (I := Filled) (H := fun key c => c.sessionKey? = some key) trivial
    (fun x c hc => (call_move x c).filled hc) (fun x _ hc => hc.noPanic x)
    (fun _ hc => hc.mem_protocol) (fun x c _ => (call_move x c).forward)
    (fun _ hc => hc.sessionKey) (fun _ _ h => h) (fun _ h => by cases h)
    (fun x c _ _ hbefore hafter => (call_move x c).verifies hbefore hafter)

end ClientHandshake

/-! ## The server -/

/-- A call of the server, with what it draws or receives. -/
inductive ServerCall where
  | processClientHello (serverRandom : Arr 32) (data : Bytes)
  | processClientVerify (data : Bytes)
  | sendServerVerify

namespace ServerHandshake

variable {P : Primitives}

/-- The call, without what it returns. -/
def call : ServerCall → Method (ServerHandshake P) LlpError Unit
  | .processClientHello serverRandom data => do
      let _ ← processClientHello serverRandom data
      pure ()
  | .processClientVerify data => processClientVerify data
  | .sendServerVerify => do
      let _ ← sendServerVerify
      pure ()

/-- The states of the server, in order. -/
def protocol : List HandshakeState :=
  [.initial, .serverHelloSent, .clientVerifyReceived, .completed]

/-- What is filled in, by the state. -/
def Filled (s : ServerHandshake P) : Prop :=
  match s.state with
  | .initial => True
  | .serverHelloSent | .clientVerifyReceived | .completed =>
      s.clientHello.isSome ∧ s.serverHello.isSome ∧ s.sessionKey.isSome
  | _ => False

/-- The call is given a CLIENT_VERIFY whose HMAC over the transcript verifies. -/
def Verifies (s : ServerHandshake P) (call : ServerCall) (key : SessionKey) : Prop :=
  ∃ data ch sh v, call = .processClientVerify data ∧ s.clientHello = some ch ∧
    s.serverHello = some sh ∧ s.sessionKey = some key ∧ ClientVerify.deserialize data = .ok v ∧
    v.hmacTag = hmacSha256 P key.bytes.toList (ch.serialize ++ sh.serialize)

/-- An HMAC under the key has verified. -/
def Verified (key : SessionKey) (s : ServerHandshake P) : Prop :=
  (s.state = .clientVerifyReceived ∨ s.state = .completed) ∧ s.sessionKey = some key

/-- What a call can do. -/
inductive Move (s : ServerHandshake P) : ServerCall → ServerHandshake P → Prop where
  | stay (call : ServerCall) : Move s call s
  | processClientHello (serverRandom : Arr 32) (data : Bytes) (ch : ClientHello) (sh : ServerHello)
      (key : SessionKey) (hstate : s.state = .initial) :
      Move s (.processClientHello serverRandom data)
        { s with
          clientHello := some ch
          serverHello := some sh
          sessionKey := some key
          state := .serverHelloSent }
  | processClientVerify (data : Bytes) (key : SessionKey) (hstate : s.state = .serverHelloSent)
      (hkey : s.sessionKey = some key) (hverify : Verifies s (.processClientVerify data) key) :
      Move s (.processClientVerify data) { s with state := .clientVerifyReceived }
  | sendServerVerify (hstate : s.state = .clientVerifyReceived) :
      Move s .sendServerVerify { s with state := .completed }

theorem call_move (x : ServerCall) (s : ServerHandshake P) :
    Move s x (Method.state (call x s)) := by
  cases x with
  | processClientHello serverRandom data =>
      rw [call, Method.state_bind_pure]
      rcases processClientHello_cases serverRandom data s with ⟨ch, hstate, -, hok⟩ | ⟨e, herr⟩
      · rw [hok]
        exact .processClientHello serverRandom data ch _ _ hstate
      · rw [herr]
        exact .stay _
  | processClientVerify data =>
      rw [call]
      rcases processClientVerify_cases data s with
        ⟨ch, sh, key, v, hstate, hch, hsh, hkey, hdata, hverify, hok⟩ | ⟨e, herr⟩
      · rw [hok]
        exact .processClientVerify data key hstate hkey
          ⟨data, ch, sh, v, rfl, hch, hsh, hkey, hdata, verifyTag_ok hverify⟩
      · rw [herr]
        exact .stay _
  | sendServerVerify =>
      rw [call, Method.state_bind_pure]
      rcases sendServerVerify_cases s with ⟨ch, sh, key, hstate, -, -, -, hok⟩ | ⟨e, herr⟩
      · rw [hok]
        exact .sendServerVerify hstate
      · rw [herr]
        exact .stay _

theorem Move.filled {s s' : ServerHandshake P} {x : ServerCall} (h : Move s x s')
    (hs : s.Filled) : s'.Filled := by
  cases h with
  | stay => exact hs
  | processClientHello serverRandom data ch sh key hstate => exact ⟨rfl, rfl, rfl⟩
  | processClientVerify data key hstate hkey hverify =>
      rw [Filled, hstate] at hs
      exact hs
  | sendServerVerify hstate =>
      rw [Filled, hstate] at hs
      exact hs

theorem Filled.mem_protocol {s : ServerHandshake P} (h : s.Filled) : s.state ∈ protocol := by
  unfold Filled at h
  cases hstate : s.state with
  | initial => decide
  | serverHelloSent => decide
  | clientVerifyReceived => decide
  | completed => decide
  | _ =>
      rw [hstate] at h
      exact h.elim

theorem Move.forward {s s' : ServerHandshake P} {x : ServerCall} (h : Move s x s') :
    Forward protocol s.state s'.state := by
  cases h with
  | stay => exact .inl rfl
  | processClientHello serverRandom data ch sh key hstate =>
      rw [hstate]
      exact (by decide : Forward protocol .initial .serverHelloSent)
  | processClientVerify data key hstate hkey hverify =>
      rw [hstate]
      exact (by decide : Forward protocol .serverHelloSent .clientVerifyReceived)
  | sendServerVerify hstate =>
      rw [hstate]
      exact (by decide : Forward protocol .clientVerifyReceived .completed)

/-- A call in a state finds what the state has filled in. -/
theorem Filled.noPanic {s : ServerHandshake P} (h : s.Filled) (x : ServerCall) :
    Method.NoPanic (call x) s := by
  cases x with
  | processClientHello serverRandom data =>
      refine .bind (.get_bind (.failIf_bind fun _ => ?_)) fun _ _ _ => .pure _ _
      refine .lift_bind (ClientHello.deserialize_noPanic data) fun ch _ => ?_
      exact .bind (.set _ _) fun _ _ _ => .pure _ _
  | processClientVerify data =>
      refine .get_bind (.failIf_bind fun hstate => ?_)
      rw [Filled, not_not.mp hstate] at h
      exact processVerify_noPanic h.1 h.2.1 h.2.2 (ClientVerify.deserialize_noPanic data)
        (fun v => verifyTag_noPanic P v.hmacTag) _ _
  | sendServerVerify =>
      refine .bind (.get_bind (.failIf_bind fun hstate => ?_)) fun _ _ _ => .pure _ _
      rw [Filled, not_not.mp hstate] at h
      exact sendVerify_noPanic h.1 h.2.1 h.2.2 _ _ _

theorem Filled.sessionKey {s : ServerHandshake P} (h : s.Filled) :
    s.sessionKey?.isSome = s.isCompleted := by
  unfold sessionKey? isCompleted
  by_cases hstate : s.state = .completed
  · rw [Filled, hstate] at h
    rw [if_pos hstate, h.2.2, decide_eq_true hstate]
  · rw [if_neg hstate, decide_eq_false hstate]
    rfl

theorem verified_of_sessionKey {s : ServerHandshake P} {key : SessionKey}
    (h : s.sessionKey? = some key) : s.Verified key := by
  unfold sessionKey? at h
  split at h
  · next hstate => exact ⟨.inr hstate, h⟩
  · cases h

/-- Only a verified HMAC leads on from the SERVER_HELLO. -/
theorem Move.verifies {s s' : ServerHandshake P} {x : ServerCall} (h : Move s x s')
    {key : SessionKey} (hbefore : ¬ Verified key s) (hafter : Verified key s') :
    Verifies s x key := by
  cases h with
  | stay => exact absurd hafter hbefore
  | processClientHello serverRandom data ch sh key' hstate =>
      rcases hafter.1 with h | h
      · cases h
      · cases h
  | processClientVerify data key' hstate hkey hverify =>
      cases hkey.symm.trans hafter.2
      exact hverify
  | sendServerVerify hstate => exact absurd ⟨.inl hstate, hafter.2⟩ hbefore

/-- The server under any use. -/
theorem safe (P : Primitives) (secret : Arr 32) (sessionId : UInt64) :
    SafeUnderCalls (Method.machine call) (new P secret sessionId) ServerHandshake.state protocol
      sessionKey? isCompleted Verifies :=
  SafeUnderCalls.of_call (I := Filled) (H := Verified) trivial
    (fun x s hs => (call_move x s).filled hs) (fun x _ hs => hs.noPanic x)
    (fun _ hs => hs.mem_protocol) (fun x s _ => (call_move x s).forward)
    (fun _ hs => hs.sessionKey) (fun _ _ h => verified_of_sessionKey h)
    (fun _ h => by cases h.2)
    (fun x s _ _ hbefore hafter => (call_move x s).verifies hbefore hafter)

end ServerHandshake

/-- **The handshake objects are safe under any use.** -/
theorem handshakes_safe (P : Primitives) (secret : Arr 32) (profile : MimicryProfile)
    (sessionId : UInt64) :
    SafeUnderCalls (Method.machine ClientHandshake.call) (ClientHandshake.new P secret profile)
        ClientHandshake.state ClientHandshake.protocol ClientHandshake.sessionKey?
        ClientHandshake.isCompleted ClientHandshake.Verifies ∧
      SafeUnderCalls (Method.machine ServerHandshake.call) (ServerHandshake.new P secret sessionId)
        ServerHandshake.state ServerHandshake.protocol ServerHandshake.sessionKey?
        ServerHandshake.isCompleted ServerHandshake.Verifies :=
  ⟨ClientHandshake.safe P secret profile, ServerHandshake.safe P secret sessionId⟩

end Llp
