/-
  The client's side of the handshake, in Rust and in C#, under the same calls.

  The Rust object goes by its state. The C# object goes by what it holds: `ProcessServerHello`
  wants a CLIENT_HELLO, the verify calls want a session key, and `Start` wants nothing. `Linked` is
  what ties the two objects in any run, `Same` what they share while the C# object has taken no
  hello that the Rust object refused.

  * `csharpAccepts_serverVerify`: the C# object takes a SERVER_VERIFY for its tag alone.
  * `csharp_handshake_simulates`: over any run of calls, what the Rust object accepts is what the
    C# object accepts in the state that the call is meant for, and the C# object has a session key
    exactly when the Rust object has processed a SERVER_HELLO.
-/
import Llp.Core.HandshakeSafety
import Llp.Security.HandshakeInterop

namespace Llp
open ByteCodec

/-! ## Calls -/

/-- A call of the C# object, without what it returns. -/
def CSharp.ClientHandshake.call (P : Primitives) (B : CSharp.BouncyCastle)
    (isLittleEndian : Bool) : ClientCall → Method CSharp.ClientHandshake CSharp.Exception Unit
  | .start clientRandom => do
      let _ ← CSharp.ClientHandshake.start isLittleEndian clientRandom
      pure ()
  | .processServerHello data => do
      let _ ← CSharp.ClientHandshake.processServerHello P B isLittleEndian data
      pure ()
  | .sendClientVerify => do
      let _ ← CSharp.ClientHandshake.sendClientVerify P isLittleEndian
      pure ()
  | .processServerVerify data => CSharp.ClientHandshake.processServerVerify P isLittleEndian data

/-- The Rust client has processed a SERVER_HELLO. -/
def HandshakeState.Keyed (state : HandshakeState) : Prop :=
  state = .serverHelloReceived ∨ state = .clientVerifySent ∨ state = .completed

instance (state : HandshakeState) : Decidable state.Keyed := inferInstanceAs (Decidable (_ ∨ _))

namespace ClientCall

/-- The state that the Rust object wants for a call. -/
def due : ClientCall → HandshakeState
  | start _ => .initial
  | processServerHello _ => .clientHelloSent
  | sendClientVerify => .serverHelloReceived
  | processServerVerify _ => .clientVerifySent

/-- The call stores a hello. -/
def StoresHello : ClientCall → Prop
  | start _ | processServerHello _ => True
  | sendClientVerify | processServerVerify _ => False

/-- The call checks a SERVER_VERIFY. -/
def ChecksVerify : ClientCall → Prop
  | processServerVerify _ => True
  | _ => False

/-- The guards of the C# object, by the state of the Rust one. -/
def Open (state : HandshakeState) : ClientCall → Prop
  | start _ => True
  | processServerHello data => state ≠ .initial ∧ ∃ sh, ServerHello.deserialize data = .ok sh
  | sendClientVerify => state.Keyed
  | processServerVerify data => state.Keyed ∧ ∃ v, ServerVerify.deserialize data = .ok v

/-- If the call brings a SERVER_HELLO, its public key does not agree on the all-zero secret. -/
def Strong (P : Primitives) (secret : Arr 32) : ClientCall → Prop
  | processServerHello data => ∀ sh, ServerHello.deserialize data = .ok sh →
      P.diffieHellman secret sh.serverPublicKey ≠ List.Vector.replicate 32 0
  | _ => True

end ClientCall

namespace Security

/-! ## Received messages -/

section Received

variable {data : Bytes}

/-- Eight bytes are those of a word. -/
theorem exists_u64 {bytes : Bytes} (hlen : bytes.length = 8) :
    ∃ n : UInt64, toBE 8 n.toNat = bytes := by
  have hlt := ofBE_lt bytes
  rw [hlen] at hlt
  refine ⟨UInt64.ofNat (ofBE bytes), ?_⟩
  rw [UInt64.toNat_ofNat_of_lt' hlt, ← hlen]
  exact toBE_ofBE bytes

/-- Data of the length and the type of a SERVER_HELLO begin with one. -/
theorem exists_serverHello (hlen : 73 ≤ data.length) (htype : data[0]? = some 2) :
    ∃ sh : ServerHello, sh.serialize <+: data := by
  cases data with
  | nil => cases htype
  | cons msgType rest =>
      obtain rfl : msgType = 2 := Option.some.inj htype
      rw [List.length_cons] at hlen
      have hlen8 : ((rest.drop 64).take 8).length = 8 :=
        List.length_take_of_le (by rw [List.length_drop]; omega)
      obtain ⟨sessionId, hid⟩ := exists_u64 hlen8
      refine ⟨⟨⟨rest.take 32, List.length_take_of_le (by omega)⟩,
        ⟨(rest.drop 32).take 32, List.length_take_of_le (by rw [List.length_drop]; omega)⟩,
        sessionId⟩, rest.drop 72, ?_⟩
      have hsplit : rest = rest.take 32 ++ ((rest.drop 32).take 32 ++
          ((rest.drop 64).take 8 ++ rest.drop 72)) := by
        rw [← List.drop_drop (i := 8) (j := 64), List.take_append_drop,
          ← List.drop_drop (i := 32) (j := 32), List.take_append_drop, List.take_append_drop]
      show 2 :: (rest.take 32 ++ ((rest.drop 32).take 32 ++ toBE 8 sessionId.toNat)) ++
        rest.drop 72 = 2 :: rest
      rw [hid, List.cons_append, List.append_assoc, List.append_assoc, ← hsplit]

theorem exists_serverVerify (hlen : 33 ≤ data.length) (htype : data[0]? = some 4) :
    ∃ v : ServerVerify, v.serialize <+: data := by
  cases data with
  | nil => cases htype
  | cons msgType rest =>
      obtain rfl : msgType = 4 := Option.some.inj htype
      rw [List.length_cons] at hlen
      refine ⟨⟨⟨rest.take 32, List.length_take_of_le (by omega)⟩⟩, rest.drop 32, ?_⟩
      show 4 :: rest.take 32 ++ rest.drop 32 = 4 :: rest
      rw [List.cons_append, List.take_append_drop]

/-- Both objects read the same SERVER_HELLO, or none. -/
theorem serverHello_read (isLittleEndian : Bool) (data : Bytes) :
    (∃ sh, ServerHello.deserialize data = .ok sh ∧
      CSharp.ServerHello.deserialize isLittleEndian data = .ok (csharpServerHello sh)) ∨
    (∃ e, ServerHello.deserialize data = .error e) ∧
      ∃ e, CSharp.ServerHello.deserialize isLittleEndian data = .error e := by
  cases hrust : ServerHello.deserialize data with
  | ok sh =>
      obtain ⟨rest, rfl⟩ := (ServerHello.deserialize_iff data sh).mp hrust
      exact Or.inl ⟨sh, rfl, csharpServerHello_deserialize isLittleEndian sh rest⟩
  | error e =>
      cases hcsharp : CSharp.ServerHello.deserialize isLittleEndian data with
      | error e' => exact Or.inr ⟨⟨e, rfl⟩, e', rfl⟩
      | ok m =>
          obtain ⟨hlen, htype⟩ := CSharp.ServerHello.deserialize_eq_ok isLittleEndian hcsharp
          obtain ⟨sh, hsh⟩ := exists_serverHello hlen htype
          rw [(ServerHello.deserialize_iff data sh).mpr hsh] at hrust
          cases hrust

/-- What the C# object reads as a SERVER_VERIFY, the Rust object reads too. -/
theorem serverVerify_read {m : CSharp.ServerVerify}
    (h : CSharp.ServerVerify.deserialize data = .ok m) :
    ∃ v, ServerVerify.deserialize data = .ok v ∧ m = ⟨v.hmacTag.toList⟩ := by
  obtain ⟨hlen, htype⟩ := CSharp.ServerVerify.deserialize_eq_ok h
  obtain ⟨v, hv⟩ := exists_serverVerify hlen htype
  refine ⟨v, (ServerVerify.deserialize_iff data v).mpr hv, ?_⟩
  obtain ⟨rest, rfl⟩ := hv
  rw [csharp_deserializeVerify v.hmacTag rest] at h
  cases h
  rfl

end Received

/-! ## The two objects -/

section Objects

variable {P : Primitives} {B : CSharp.BouncyCastle} {secret : Arr 32}
  {c : CSharp.ClientHandshake} {r : ClientHandshake P}

/-- What ties the two objects in any run. -/
structure Linked (secret : Arr 32) (c : CSharp.ClientHandshake) (r : ClientHandshake P) :
    Prop where
  csharpSecret : c.privateKey = secret
  rustSecret : r.clientKey.secret = secret
  publicKey : c.publicKey = r.clientKey.publicKey
  profile : r.mimicryProfile.toU16 = c.mimicryProfile.value
  filled : r.Filled
  hello : c.clientHello.isSome ↔ r.state ≠ .initial
  key : c.sessionKey.isSome ↔ r.state.Keyed
  clientHello : ∀ m, c.clientHello = some m → ∃ ch : ClientHello,
    ch.mimicryProfile.toU16 = c.mimicryProfile.value ∧ m = csharpClientHello c.mimicryProfile ch
  serverHello : ∀ m, c.serverHello = some m → ∃ sh, m = csharpServerHello sh
  rustHello : ∀ ch, r.clientHello = some ch → ch.mimicryProfile = r.mimicryProfile
  held : c.sessionKey.isSome → c.serverHello.isSome

/-- The two objects hold the same messages and the same key. -/
structure Same (c : CSharp.ClientHandshake) (r : ClientHandshake P) : Prop where
  clientHello : c.clientHello = r.clientHello.map (csharpClientHello c.mimicryProfile)
  serverHello : c.serverHello = r.serverHello.map csharpServerHello
  key : c.sessionKey = r.sessionKey.map fun key => key.bytes.toList

/-- The call of each object goes through. -/
def csharpAccepts (P : Primitives) (B : CSharp.BouncyCastle) (isLittleEndian : Bool)
    (c : CSharp.ClientHandshake) (x : ClientCall) : Bool :=
  (Method.result (CSharp.ClientHandshake.call P B isLittleEndian x c)).isOk

def rustAccepts (r : ClientHandshake P) (x : ClientCall) : Bool :=
  (Method.result (ClientHandshake.call x r)).isOk

theorem csharpAccepts_serverVerify {isLittleEndian : Bool} {data : Bytes} :
    csharpAccepts P B isLittleEndian c (.processServerVerify data) = true ↔
      c.RightTag P isLittleEndian data :=
  CSharp.ClientHandshake.processServerVerify_iff isLittleEndian

/-- What one call does on both sides. -/
structure Lockstep (B : CSharp.BouncyCastle) (secret : Arr 32) (isLittleEndian : Bool)
    (c : CSharp.ClientHandshake) (r : ClientHandshake P) (x : ClientCall) : Prop where
  linked : Linked secret (Method.state (CSharp.ClientHandshake.call P B isLittleEndian x c))
    (Method.state (ClientHandshake.call x r))
  inside : csharpAccepts P B isLittleEndian c x = true → x.Open r.state
  taken : ¬ x.ChecksVerify → x.Open r.state → csharpAccepts P B isLittleEndian c x = true
  agree : Same c r ∨ ¬ x.ChecksVerify →
    (rustAccepts r x = true ↔ csharpAccepts P B isLittleEndian c x = true ∧ r.state = x.due)
  same : Same c r →
    (x.StoresHello → csharpAccepts P B isLittleEndian c x = true → rustAccepts r x = true) →
    Same (Method.state (CSharp.ClientHandshake.call P B isLittleEndian x c))
      (Method.state (ClientHandshake.call x r))

/-- A C# object with a key can put the transcript together. -/
theorem Linked.transcript (h : Linked secret c r) (isLittleEndian : Bool)
    (hkey : c.sessionKey.isSome) : ∃ transcript,
      CSharp.ClientHandshake.buildTranscript isLittleEndian c.clientHello c.serverHello =
        .ok transcript := by
  have hstate : r.state ≠ .initial := by
    rcases h.key.mp hkey with hstate | hstate | hstate <;> rw [hstate] <;> decide
  obtain ⟨m, hm⟩ := Option.isSome_iff_exists.mp (h.hello.mpr hstate)
  obtain ⟨n, hn⟩ := Option.isSome_iff_exists.mp (h.held hkey)
  obtain ⟨ch, hprofile, rfl⟩ := h.clientHello m hm
  obtain ⟨sh, rfl⟩ := h.serverHello n hn
  rw [hm, hn]
  exact ⟨_, csharp_buildTranscript isLittleEndian hprofile sh⟩

/-- After a verified SERVER_VERIFY. -/
theorem Linked.completed (h : Linked secret c r) (hstate : r.state = .clientVerifySent) :
    Linked secret c { r with state := .completed } := by
  have hfilled := h.filled
  rw [ClientHandshake.Filled, hstate] at hfilled
  exact { h with
    filled := hfilled
    hello := iff_of_true (h.hello.mpr (by rw [hstate]; decide)) (by simp)
    key := iff_of_true (h.key.mpr (Or.inr (Or.inl hstate))) (Or.inr (Or.inr rfl)) }

/-- Past the hellos, objects that hold the same have one key and one transcript. -/
theorem Same.messages (hsame : Same c r) (isLittleEndian : Bool) (h : Linked secret c r)
    (hkeyed : r.state.Keyed) :
    ∃ ch sh key, r.clientHello = some ch ∧ r.serverHello = some sh ∧ r.sessionKey = some key ∧
      c.sessionKey = some key.bytes.toList ∧
      CSharp.ClientHandshake.buildTranscript isLittleEndian c.clientHello c.serverHello =
        .ok (ch.serialize ++ sh.serialize) := by
  have hfilled : r.clientHello.isSome ∧ r.serverHello.isSome ∧ r.sessionKey.isSome := by
    have hfilled := h.filled
    rcases hkeyed with hstate | hstate | hstate <;>
      · rw [ClientHandshake.Filled, hstate] at hfilled
        exact hfilled
  obtain ⟨ch, hch⟩ := Option.isSome_iff_exists.mp hfilled.1
  obtain ⟨sh, hsh⟩ := Option.isSome_iff_exists.mp hfilled.2.1
  obtain ⟨key, hkey⟩ := Option.isSome_iff_exists.mp hfilled.2.2
  have hprofile : ch.mimicryProfile.toU16 = c.mimicryProfile.value := by
    rw [h.rustHello ch hch]
    exact h.profile
  refine ⟨ch, sh, key, hch, hsh, hkey, ?_, ?_⟩
  · rw [hsame.key, hkey]
    rfl
  · rw [hsame.clientHello, hsame.serverHello, hch, hsh]
    exact csharp_buildTranscript isLittleEndian hprofile sh

theorem linked_new (P : Primitives) (secret : Arr 32) {profile : CSharp.MimicryProfile}
    {p : MimicryProfile} (hprofile : p.toU16 = profile.value) :
    Linked secret (CSharp.ClientHandshake.new P secret profile)
      (ClientHandshake.new P secret p) where
  csharpSecret := rfl
  rustSecret := rfl
  publicKey := rfl
  profile := hprofile
  filled := trivial
  hello := by simp [CSharp.ClientHandshake.new, ClientHandshake.new]
  key := by simp [CSharp.ClientHandshake.new, ClientHandshake.new, HandshakeState.Keyed]
  clientHello _ h := by cases h
  serverHello _ h := by cases h
  rustHello _ h := by cases h
  held h := by cases h

theorem same_new (P : Primitives) (secret : Arr 32) (profile : CSharp.MimicryProfile)
    (p : MimicryProfile) :
    Same (CSharp.ClientHandshake.new P secret profile) (ClientHandshake.new P secret p) :=
  ⟨rfl, rfl, rfl⟩

/-! ### The four ways a call can end -/

section Ends

variable {isLittleEndian : Bool} {c' : CSharp.ClientHandshake} {r' : ClientHandshake P}
  {x : ClientCall} {e : Fault CSharp.Exception} {e' : Fault LlpError}

theorem Lockstep.of_both
    (hcsharp : CSharp.ClientHandshake.call P B isLittleEndian x c = .ok () c')
    (hrust : ClientHandshake.call x r = .ok () r') (hdue : r.state = x.due)
    (hlinked : Linked secret c' r') (hopen : x.Open r.state) (hsame : Same c r → Same c' r') :
    Lockstep B secret isLittleEndian c r x := by
  refine ⟨?_, fun _ => hopen, fun _ _ => ?_, fun _ => ?_, fun h _ => ?_⟩
  · rw [hcsharp, hrust]
    exact hlinked
  · rw [csharpAccepts, hcsharp]
    rfl
  · rw [csharpAccepts, rustAccepts, hcsharp, hrust]
    exact iff_of_true rfl ⟨rfl, hdue⟩
  · rw [hcsharp, hrust]
    exact hsame h

theorem Lockstep.of_neither
    (hcsharp : CSharp.ClientHandshake.call P B isLittleEndian x c = .error e c)
    (hrust : ClientHandshake.call x r = .error e' r) (hlinked : Linked secret c r)
    (hclosed : ¬ x.ChecksVerify → ¬ x.Open r.state) : Lockstep B secret isLittleEndian c r x := by
  refine ⟨?_, fun h => ?_, fun hx h => absurd h (hclosed hx), fun _ => ?_, fun h _ => ?_⟩
  · rw [hcsharp, hrust]
    exact hlinked
  · rw [csharpAccepts, hcsharp] at h
    exact absurd h Bool.false_ne_true
  · rw [csharpAccepts, rustAccepts, hcsharp, hrust]
    exact iff_of_false Bool.false_ne_true fun h => Bool.false_ne_true h.1
  · rw [hcsharp, hrust]
    exact h

/-- The C# object alone: the Rust object waits for another call. -/
theorem Lockstep.of_csharp
    (hcsharp : CSharp.ClientHandshake.call P B isLittleEndian x c = .ok () c')
    (hrust : ClientHandshake.call x r = .error e' r)
    (hdue : Same c r ∨ ¬ x.ChecksVerify → r.state ≠ x.due) (hlinked : Linked secret c' r)
    (hopen : x.Open r.state) (hstay : ¬ x.StoresHello → c' = c) :
    Lockstep B secret isLittleEndian c r x := by
  refine ⟨?_, fun _ => hopen, fun _ _ => ?_, fun h => ?_, fun h hstored => ?_⟩
  · rw [hcsharp, hrust]
    exact hlinked
  · rw [csharpAccepts, hcsharp]
    rfl
  · rw [csharpAccepts, rustAccepts, hcsharp, hrust]
    exact iff_of_false Bool.false_ne_true fun hboth => hdue h hboth.2
  · rw [csharpAccepts, rustAccepts, hcsharp, hrust] at hstored
    rw [hcsharp, hrust, hstay fun hx => Bool.false_ne_true (hstored hx rfl)]
    exact h

/-- The Rust object alone: a verify message for hellos that the C# object does not hold. -/
theorem Lockstep.of_rust
    (hcsharp : CSharp.ClientHandshake.call P B isLittleEndian x c = .error e c)
    (hrust : ClientHandshake.call x r = .ok () r') (hverify : x.ChecksVerify)
    (hother : ¬ Same c r) (hlinked : Linked secret c r') :
    Lockstep B secret isLittleEndian c r x := by
  refine ⟨?_, fun h => ?_, fun hx => absurd hverify hx, fun h => ?_, fun h => absurd h hother⟩
  · rw [hcsharp, hrust]
    exact hlinked
  · rw [csharpAccepts, hcsharp] at h
    exact absurd h Bool.false_ne_true
  · exact absurd h (by simp [hother, hverify])

end Ends

/-! ### One call -/

/-- The Rust object refuses a call that it does not wait for. -/
theorem rust_refuses {x : ClientCall} (h : r.state ≠ x.due) :
    ∃ e, ClientHandshake.call x r = .error e r := by
  cases x with
  | start clientRandom =>
      rcases ClientHandshake.start_cases clientRandom r with ⟨hstate, -⟩ | ⟨e, herr⟩
      · exact absurd hstate h
      · exact ⟨e, Method.bind_error herr⟩
  | processServerHello data =>
      rcases ClientHandshake.processServerHello_cases data r with ⟨_, _, hstate, -⟩ | ⟨e, herr⟩
      · exact absurd hstate h
      · exact ⟨e, Method.bind_error herr⟩
  | sendClientVerify =>
      rcases ClientHandshake.sendClientVerify_cases r with ⟨_, _, _, hstate, -⟩ | ⟨e, herr⟩
      · exact absurd hstate h
      · exact ⟨e, Method.bind_error herr⟩
  | processServerVerify data =>
      rcases ClientHandshake.processServerVerify_cases data r with
        ⟨_, _, _, _, hstate, -⟩ | ⟨e, herr⟩
      · exact absurd hstate h
      · exact ⟨e, herr⟩

/-- Past the hellos the Rust object has processed a SERVER_HELLO. -/
theorem keyed_of_filled (h : r.Filled) (hinit : r.state ≠ .initial)
    (hsent : r.state ≠ .clientHelloSent) : r.state.Keyed := by
  have hmem := h.mem_protocol
  simp only [ClientHandshake.protocol, List.mem_cons, List.not_mem_nil, or_false] at hmem
  exact (hmem.resolve_left hinit).resolve_left hsent

variable (isLittleEndian : Bool)

/-- `Start`: the C# object takes it at any time. -/
theorem lockstep_start (clientRandom : Arr 32) (h : Linked secret c r) :
    Lockstep B secret isLittleEndian c r (.start clientRandom) := by
  let ch := ClientHello.new clientRandom r.clientKey r.mimicryProfile
  have hcsharp : CSharp.ClientHandshake.call P B isLittleEndian (.start clientRandom) c =
      .ok () { c with clientHello := some (csharpClientHello c.mimicryProfile ch) } := by
    rw [CSharp.ClientHandshake.call,
      Method.bind_ok (CSharp.ClientHandshake.start_run isLittleEndian clientRandom c),
      h.publicKey]
    rfl
  have hstored : ∀ m, some (csharpClientHello c.mimicryProfile ch) = some m → ∃ ch : ClientHello,
      ch.mimicryProfile.toU16 = c.mimicryProfile.value ∧
        m = csharpClientHello c.mimicryProfile ch := by
    rintro m hm
    cases hm
    exact ⟨ch, h.profile, rfl⟩
  by_cases hstate : r.state = .initial
  · have hrust : ClientHandshake.call (.start clientRandom) r =
        .ok () { r with clientHello := some ch, state := .clientHelloSent } := by
      rw [ClientHandshake.call, Method.bind_ok (ClientHandshake.start_run clientRandom hstate)]
      rfl
    have hkey : ¬ r.state.Keyed := by
      rw [hstate]
      decide
    refine .of_both hcsharp hrust hstate ?_ trivial fun hsame =>
      ⟨rfl, hsame.serverHello, hsame.key⟩
    exact { h with
      filled := rfl
      hello := iff_of_true rfl (by simp)
      key := iff_of_false (mt h.key.mp hkey) (by simp [HandshakeState.Keyed])
      clientHello := hstored
      rustHello := fun ch' hch' => by
        cases hch'
        rfl }
  · obtain ⟨e, hrust⟩ := rust_refuses (x := .start clientRandom) hstate
    refine .of_csharp hcsharp hrust (fun _ => hstate) ?_ trivial fun hx => absurd trivial hx
    exact { h with hello := iff_of_true rfl hstate, clientHello := hstored }

/-- Data that are no SERVER_HELLO: neither object takes them. -/
theorem lockstep_serverHello_unread {data : Bytes} {e : Fault LlpError}
    {e' : Fault CSharp.Exception} (h : Linked secret c r)
    (hrust : ServerHello.deserialize data = .error e)
    (hcsharp : CSharp.ServerHello.deserialize isLittleEndian data = .error e') :
    Lockstep B secret isLittleEndian c r (.processServerHello data) := by
  have hunread : c.clientHello = none ∨
      ∃ e, CSharp.ServerHello.deserialize isLittleEndian data = .error e := Or.inr ⟨e', hcsharp⟩
  obtain ⟨_, hcsharpRun⟩ := CSharp.ClientHandshake.processServerHello_refuses (P := P)
    isLittleEndian hunread
  rcases ClientHandshake.processServerHello_cases data r with ⟨_, _, _, hok, _⟩ | ⟨_, hrustRun⟩
  · rw [hrust] at hok
    cases hok
  · refine .of_neither (Method.bind_error hcsharpRun) (Method.bind_error hrustRun) h
      fun _ hopen => ?_
    obtain ⟨-, sh, hsh⟩ := hopen
    rw [hrust] at hsh
    cases hsh

/-- Before `Start`, neither object takes a SERVER_HELLO. -/
theorem lockstep_serverHello_early {data : Bytes} (h : Linked secret c r)
    (hch : c.clientHello = none) :
    Lockstep B secret isLittleEndian c r (.processServerHello data) := by
  have hinit : r.state = .initial := by
    by_contra hstate
    have hsome := h.hello.mpr hstate
    rw [hch] at hsome
    cases hsome
  have hdue : r.state ≠ (ClientCall.processServerHello data).due := by
    rw [hinit]
    exact fun hdue => by cases hdue
  have hnoHello : c.clientHello = none ∨
      ∃ e, CSharp.ServerHello.deserialize isLittleEndian data = .error e := Or.inl hch
  obtain ⟨_, hcsharp⟩ := CSharp.ClientHandshake.processServerHello_refuses (P := P)
    isLittleEndian hnoHello
  obtain ⟨_, hrust⟩ := rust_refuses hdue
  exact .of_neither (Method.bind_error hcsharp) hrust h fun _ hopen => hopen.1 hinit

/-- `ProcessServerHello`: the C# object takes it at any time after `Start`. -/
theorem lockstep_processServerHello (hcastle : B.Implements P) {data : Bytes}
    (h : Linked secret c r)
    (hstrong : (ClientCall.processServerHello data).Strong P secret) :
    Lockstep B secret isLittleEndian c r (.processServerHello data) := by
  rcases serverHello_read isLittleEndian data with ⟨sh, hread, hdata⟩ | ⟨⟨e, hrust⟩, e', hcsharp⟩
  · cases hch : c.clientHello with
    | none => exact lockstep_serverHello_early isLittleEndian h hch
    | some m =>
        obtain ⟨ch, hprofile, rfl⟩ := h.clientHello m hch
        have hagreement := hstrong sh hread
        rw [← h.csharpSecret] at hagreement
        have hrun := CSharp.ClientHandshake.processServerHello_run isLittleEndian hcastle hch
          ch.clientRandom.toList_length hdata sh.serverRandom.toList_length rfl hagreement
        have hcsharp := Method.bind_ok (f := fun _ => pure ()) hrun
        have hinit : r.state ≠ .initial := h.hello.mp (by rw [hch]; rfl)
        have hstored : ∀ m, some (csharpServerHello sh) = some m → ∃ sh, m = csharpServerHello sh :=
          fun m hm => ⟨sh, (Option.some.inj hm).symm⟩
        by_cases hstate : r.state = .clientHelloSent
        · have hfilled := h.filled
          rw [ClientHandshake.Filled, hstate] at hfilled
          obtain ⟨rch, hrch⟩ := Option.isSome_iff_exists.mp hfilled
          have hrust := Method.bind_ok (f := fun _ => pure ())
            (ClientHandshake.processServerHello_run hstate hrch hread)
          refine .of_both hcsharp hrust hstate ?_ ⟨hinit, sh, hread⟩ fun hsame => ?_
          · exact { h with
              filled := ⟨hfilled, rfl, rfl⟩
              hello := iff_of_true (by rw [hch]; rfl) (by simp)
              key := iff_of_true rfl (by simp [HandshakeState.Keyed])
              serverHello := hstored
              held := fun _ => rfl }
          · have hsameHello := hsame.clientHello
            rw [hch, hrch] at hsameHello
            have hrandom : ch.clientRandom.toList = rch.clientRandom.toList :=
              congrArg CSharp.ClientHello.clientRandom (Option.some.inj hsameHello)
            refine ⟨hsame.clientHello, rfl, ?_⟩
            show some (P.hkdf (ch.clientRandom.toList ++ sh.serverRandom.toList)
              (P.diffieHellman c.privateKey sh.serverPublicKey).toList _).toList = _
            rw [h.csharpSecret, ← h.rustSecret, hrandom]
            rfl
        · obtain ⟨e', hrust⟩ := rust_refuses (x := .processServerHello data) hstate
          refine .of_csharp hcsharp hrust (fun _ => hstate) ?_ ⟨hinit, sh, hread⟩ fun hx =>
            absurd trivial hx
          exact { h with
            key := iff_of_true rfl (keyed_of_filled h.filled hinit hstate)
            serverHello := hstored
            held := fun _ => rfl }
  · exact lockstep_serverHello_unread isLittleEndian h hrust hcsharp

/-- `SendClientVerify`: the C# object takes it as soon as it holds a key. -/
theorem lockstep_sendClientVerify (h : Linked secret c r) :
    Lockstep B secret isLittleEndian c r .sendClientVerify := by
  cases hkey : c.sessionKey with
  | none =>
      have hkeyed : ¬ r.state.Keyed := fun hkeyed => by
        have := h.key.mpr hkeyed
        rw [hkey] at this
        cases this
      have hdue : r.state ≠ ClientCall.sendClientVerify.due := fun hstate => hkeyed (Or.inl hstate)
      obtain ⟨e, hcsharp⟩ := CSharp.ClientHandshake.sendClientVerify_refuses (P := P)
        isLittleEndian hkey
      obtain ⟨e', hrust⟩ := rust_refuses hdue
      exact .of_neither (Method.bind_error hcsharp) hrust h fun _ hopen => hkeyed hopen
  | some key =>
      obtain ⟨transcript, htranscript⟩ := h.transcript isLittleEndian (by rw [hkey]; rfl)
      have hkeyed : r.state.Keyed := h.key.mp (by rw [hkey]; rfl)
      have hcsharp := Method.bind_ok (f := fun _ => pure ())
        (CSharp.ClientHandshake.sendClientVerify_run (P := P) isLittleEndian hkey htranscript)
      by_cases hstate : r.state = .serverHelloReceived
      · have hfilled := h.filled
        rw [ClientHandshake.Filled, hstate] at hfilled
        obtain ⟨ch, hch⟩ := Option.isSome_iff_exists.mp hfilled.1
        obtain ⟨sh, hsh⟩ := Option.isSome_iff_exists.mp hfilled.2.1
        obtain ⟨rkey, hrkey⟩ := Option.isSome_iff_exists.mp hfilled.2.2
        have hrust := Method.bind_ok (f := fun _ => pure ())
          (ClientHandshake.sendClientVerify_run hstate hch hsh hrkey)
        refine .of_both hcsharp hrust hstate ?_ hkeyed fun hsame =>
          ⟨hsame.clientHello, hsame.serverHello, hsame.key⟩
        exact { h with
          filled := hfilled
          hello := iff_of_true (h.hello.mpr (by rw [hstate]; decide)) (by simp)
          key := iff_of_true (by rw [hkey]; rfl) (by simp [HandshakeState.Keyed]) }
      · obtain ⟨e', hrust⟩ := rust_refuses (x := .sendClientVerify) hstate
        exact .of_csharp hcsharp hrust (fun _ => hstate) h hkeyed fun _ => rfl

/-- `ProcessServerVerify`: with the same messages and key, both check the same tag. -/
theorem lockstep_processServerVerify (data : Bytes) (h : Linked secret c r) :
    Lockstep B secret isLittleEndian c r (.processServerVerify data) := by
  rcases CSharp.ClientHandshake.processServerVerify_cases (P := P) isLittleEndian data c with
    ⟨key, transcript, m, hkey, htranscript, hm, htag, hcsharp⟩ | ⟨e, hcsharp⟩
  · obtain ⟨v, hv, rfl⟩ := serverVerify_read hm
    have hopen : (ClientCall.processServerVerify data).Open r.state :=
      ⟨h.key.mp (by rw [hkey]; rfl), v, hv⟩
    rcases ClientHandshake.processServerVerify_cases data r with
      ⟨_, _, _, _, hstate, -, -, -, -, -, hrust⟩ | ⟨e', hrust⟩
    · exact .of_both hcsharp hrust hstate (h.completed hstate) hopen fun hsame =>
        ⟨hsame.clientHello, hsame.serverHello, hsame.key⟩
    · refine .of_csharp hcsharp hrust (fun hsame hstate => ?_) h hopen fun _ => rfl
      have hsame : Same c r := hsame.resolve_right fun hno => hno trivial
      obtain ⟨ch, sh, rkey, hch, hsh, hrkey, hckey, hbuild⟩ :=
        hsame.messages isLittleEndian h (Or.inr (Or.inl hstate))
      obtain rfl : key = rkey.bytes.toList := Option.some.inj (hkey.symm.trans hckey)
      obtain rfl : transcript = ch.serialize ++ sh.serialize :=
        Except.ok.inj (htranscript.symm.trans hbuild)
      obtain rfl : v = ServerVerify.new P rkey (ch.serialize ++ sh.serialize) :=
        congrArg ServerVerify.mk (Subtype.ext htag.symm)
      rw [ClientHandshake.processServerVerify_run hstate hch hsh hrkey hv] at hrust
      cases hrust
  · rcases ClientHandshake.processServerVerify_cases data r with
      ⟨ch, sh, rkey, v, hstate, hch, hsh, hrkey, hv, hverify, hrust⟩ | ⟨e', hrust⟩
    · refine .of_rust hcsharp hrust trivial (fun hsame => ?_) (h.completed hstate)
      obtain ⟨ch', sh', rkey', hch', hsh', hrkey', hckey, hbuild⟩ :=
        hsame.messages isLittleEndian h (Or.inr (Or.inl hstate))
      cases hch.symm.trans hch'
      cases hsh.symm.trans hsh'
      cases hrkey.symm.trans hrkey'
      obtain rfl : v = ServerVerify.new P rkey (ch.serialize ++ sh.serialize) :=
        congrArg ServerVerify.mk (verifyTag_ok hverify)
      obtain ⟨rest, rfl⟩ := (ServerVerify.deserialize_iff data _).mp hv
      have hread := csharp_deserializeVerify (ServerVerify.new P rkey
        (ch.serialize ++ sh.serialize)).hmacTag rest
      have hrun : CSharp.ClientHandshake.call P B isLittleEndian (.processServerVerify _) c =
        .ok () c := CSharp.ClientHandshake.processServerVerify_run isLittleEndian hckey hbuild hread
      rw [CSharp.ClientHandshake.call] at hrun
      cases hcsharp.symm.trans hrun
    · exact .of_neither hcsharp hrust h fun hx => absurd trivial hx

theorem lockstep (hcastle : B.Implements P) (x : ClientCall) (h : Linked secret c r)
    (hstrong : x.Strong P secret) : Lockstep B secret isLittleEndian c r x := by
  cases x with
  | start clientRandom => exact lockstep_start isLittleEndian clientRandom h
  | processServerHello data => exact lockstep_processServerHello isLittleEndian hcastle h hstrong
  | sendClientVerify => exact lockstep_sendClientVerify isLittleEndian h
  | processServerVerify data => exact lockstep_processServerVerify isLittleEndian data h

end Objects

/-! ## Runs -/

section Runs

variable (P : Primitives) (B : CSharp.BouncyCastle) (isLittleEndian : Bool) (secret : Arr 32)
  (profile : CSharp.MimicryProfile) (p : MimicryProfile)

/-- The C# object after a run of calls. -/
def csharpAfter (calls : List ClientCall) : CSharp.ClientHandshake :=
  (Method.machine (CSharp.ClientHandshake.call P B isLittleEndian)).final
    (CSharp.ClientHandshake.new P secret profile) calls

/-- The Rust object after a run of calls. -/
def rustAfter (calls : List ClientCall) : ClientHandshake P :=
  (Method.machine ClientHandshake.call).final (ClientHandshake.new P secret p) calls

/-- The C# object took no `Start` and no `ProcessServerHello` that the Rust object refused. -/
def InOrder (calls : List ClientCall) : Prop :=
  ∀ pre x post, calls = pre ++ x :: post → x.StoresHello →
    csharpAccepts P B isLittleEndian (csharpAfter P B isLittleEndian secret profile pre) x = true →
      rustAccepts (rustAfter P secret p pre) x = true

variable {P B profile p}

theorem linked_after (hcastle : B.Implements P) (hprofile : p.toU16 = profile.value)
    (calls : List ClientCall) (hstrong : ∀ x ∈ calls, x.Strong P secret) :
    Linked secret (csharpAfter P B isLittleEndian secret profile calls)
      (rustAfter P secret p calls) := by
  induction calls using List.reverseRecOn with
  | nil => exact linked_new P secret hprofile
  | append_singleton calls x ih =>
      have hlinked := ih fun y hy => hstrong y (List.mem_append_left [x] hy)
      rw [csharpAfter, rustAfter, Machine.final_snoc, Machine.final_snoc]
      exact (lockstep isLittleEndian hcastle x hlinked (hstrong x (by simp))).linked

theorem same_after (hcastle : B.Implements P) (hprofile : p.toU16 = profile.value)
    (calls : List ClientCall) (hstrong : ∀ x ∈ calls, x.Strong P secret)
    (horder : InOrder P B isLittleEndian secret profile p calls) :
    Same (csharpAfter P B isLittleEndian secret profile calls) (rustAfter P secret p calls) := by
  induction calls using List.reverseRecOn with
  | nil => exact same_new P secret profile p
  | append_singleton calls x ih =>
      have hstrong' : ∀ y ∈ calls, y.Strong P secret := fun y hy =>
        hstrong y (List.mem_append_left [x] hy)
      have hsame := ih hstrong' fun pre y post hcalls =>
        horder pre y (post ++ [x]) (by rw [hcalls]; simp)
      have hstep := lockstep isLittleEndian hcastle x (linked_after isLittleEndian secret hcastle
        hprofile calls hstrong') (hstrong x (by simp))
      rw [csharpAfter, rustAfter, Machine.final_snoc, Machine.final_snoc]
      exact hstep.same hsame (horder calls x [] rfl)

/-- **The C# object under the calls of the Rust object.** After every run of calls, with any
    data, in which no SERVER_HELLO agrees on the all-zero secret:

    the Rust object accepts the next call exactly when the C# object does and the Rust state is the
    one that the call is for (for `ProcessServerVerify`: if the C# object took no hello that
    the Rust object refused);

    the C# object accepts what its guards let through, but of a SERVER_VERIFY also wants the right
    tag: the HMAC, under the key that the object holds, of the hellos that it holds;

    it has a CLIENT_HELLO exactly when the Rust object has started, and a session key exactly when
    the Rust object has processed a SERVER_HELLO; so it has one whenever `session_key()` is some
    key, and then it is that key if no hello was taken out of order. -/
theorem csharp_handshake_simulates (hcastle : B.Implements P) (hprofile : p.toU16 = profile.value)
    (calls : List ClientCall) (hstrong : ∀ x ∈ calls, x.Strong P secret) :
    let c := csharpAfter P B isLittleEndian secret profile calls
    let r := rustAfter P secret p calls
    (∀ x : ClientCall, x.Strong P secret →
      (InOrder P B isLittleEndian secret profile p calls ∨ ¬ x.ChecksVerify →
        (rustAccepts r x = true ↔ csharpAccepts P B isLittleEndian c x = true ∧ r.state = x.due)) ∧
      (csharpAccepts P B isLittleEndian c x = true → x.Open r.state) ∧
      (¬ x.ChecksVerify → x.Open r.state → csharpAccepts P B isLittleEndian c x = true)) ∧
    (∀ data, csharpAccepts P B isLittleEndian c (.processServerVerify data) = true ↔
      (ClientCall.processServerVerify data).Open r.state ∧ c.RightTag P isLittleEndian data) ∧
    (c.clientHello.isSome ↔ r.state ≠ .initial) ∧ (c.sessionKey.isSome ↔ r.state.Keyed) ∧
    ∀ key, r.sessionKey? = some key → c.sessionKey.isSome ∧
      (InOrder P B isLittleEndian secret profile p calls →
        c.sessionKey = some key.bytes.toList) := by
  intro c r
  have hlinked := linked_after isLittleEndian secret hcastle hprofile calls hstrong
  have hsame := same_after isLittleEndian secret hcastle hprofile calls hstrong
  refine ⟨fun x hx => ?_, fun data => ?_, hlinked.hello, hlinked.key, fun key hkey => ?_⟩
  · have hstep := lockstep isLittleEndian hcastle x hlinked hx
    exact ⟨fun horder => hstep.agree (horder.imp_left hsame), hstep.inside, hstep.taken⟩
  · have hstep := lockstep isLittleEndian hcastle (.processServerVerify data) hlinked trivial
    rw [← csharpAccepts_serverVerify]
    exact ⟨fun haccepts => ⟨hstep.inside haccepts, haccepts⟩, And.right⟩
  · have hcompleted : r.state = .completed ∧ r.sessionKey = some key := by
      unfold ClientHandshake.sessionKey? at hkey
      split at hkey
      · next hstate => exact ⟨hstate, hkey⟩
      · cases hkey
    refine ⟨hlinked.key.mpr (Or.inr (Or.inr hcompleted.1)), fun horder => ?_⟩
    rw [(hsame horder).key]
    exact congrArg (Option.map fun key => key.bytes.toList) hcompleted.2

end Runs

/-! ### On sample primitives -/

section Sample

/-- A SERVER_HELLO with 32 bytes `b` for its public key. -/
def sampleHelloFrom (b : UInt8) : ClientCall :=
  .processServerHello (ServerHello.mk (.replicate 32 b) (.replicate 32 4) 12345).serialize

/-- The C# object, with the secret 1 … 1. -/
def sampleCsharp (calls : List ClientCall) : CSharp.ClientHandshake :=
  csharpAfter samplePrimitives (.copying samplePrimitives) true (.replicate 32 1) .ruTube calls

/-- What a C# object accepts of them. -/
def sampleAccepts (c : CSharp.ClientHandshake) (x : ClientCall) : Bool :=
  csharpAccepts samplePrimitives (.copying samplePrimitives) true c x

/-- The Rust object, with the same. -/
def sampleRust (calls : List ClientCall) : ClientHandshake samplePrimitives :=
  rustAfter samplePrimitives (.replicate 32 1) .ruTube calls

theorem sampleHelloFrom_strong :
    (sampleHelloFrom 2).Strong samplePrimitives (.replicate 32 1) := by
  intro sh hsh
  rw [ServerHello.deserialize_serialize] at hsh
  cases hsh
  decide

/-- After both hellos. -/
theorem csharp_handshake_simulates_sample :
    let calls := [.start (.replicate 32 3), sampleHelloFrom 2]
    let c := csharpAfter samplePrimitives (.copying samplePrimitives) true (.replicate 32 1) .ruTube
      calls
    let r := rustAfter samplePrimitives (.replicate 32 1) .ruTube calls
    (∀ x : ClientCall, x.Strong samplePrimitives (.replicate 32 1) →
      (InOrder samplePrimitives (.copying samplePrimitives) true (.replicate 32 1) .ruTube .ruTube
          calls ∨ ¬ x.ChecksVerify →
        (rustAccepts r x = true ↔
          csharpAccepts samplePrimitives (.copying samplePrimitives) true c x = true ∧
            r.state = x.due)) ∧
      (csharpAccepts samplePrimitives (.copying samplePrimitives) true c x = true →
        x.Open r.state) ∧
      (¬ x.ChecksVerify → x.Open r.state →
        csharpAccepts samplePrimitives (.copying samplePrimitives) true c x = true)) ∧
    (∀ data, csharpAccepts samplePrimitives (.copying samplePrimitives) true c
        (.processServerVerify data) = true ↔
      (ClientCall.processServerVerify data).Open r.state ∧
        c.RightTag samplePrimitives true data) ∧
    (c.clientHello.isSome ↔ r.state ≠ .initial) ∧ (c.sessionKey.isSome ↔ r.state.Keyed) ∧
    ∀ key, r.sessionKey? = some key → c.sessionKey.isSome ∧
      (InOrder samplePrimitives (.copying samplePrimitives) true (.replicate 32 1) .ruTube .ruTube
          calls → c.sessionKey = some key.bytes.toList) :=
  csharp_handshake_simulates true (.replicate 32 1) (CSharp.BouncyCastle.copying_implements _) rfl
    [.start (.replicate 32 3), sampleHelloFrom 2] (by
      intro x hx
      simp only [List.mem_cons, List.not_mem_nil, or_false] at hx
      rcases hx with rfl | rfl
      · trivial
      · exact sampleHelloFrom_strong)

/-- What only one of the two objects does: the C# object starts again; it has a key before the
    SERVER_VERIFY; it does not take a SERVER_HELLO that agrees on the all-zero secret; and once it
    has taken another SERVER_HELLO, it refuses the SERVER_VERIFY for the first one. -/
theorem csharp_handshake_differs :
    let start := ClientCall.start (.replicate 32 3)
    let hello := ClientHello.new (.replicate 32 3)
      (X25519Key.generate samplePrimitives (.replicate 32 1)) .ruTube
    let key := deriveSessionKey samplePrimitives (.replicate 32 3)
      (hello.clientRandom.toList ++ List.replicate 32 4) HKDF_INFO
    let verify := ClientCall.processServerVerify (ServerVerify.new samplePrimitives key
      (hello.serialize ++
        (ServerHello.mk (.replicate 32 2) (.replicate 32 4) 12345).serialize)).serialize
    (sampleAccepts (sampleCsharp [start]) start = true ∧
        rustAccepts (sampleRust [start]) start = false) ∧
      ((sampleCsharp [start, sampleHelloFrom 2]).sessionKey.isSome ∧
        (sampleRust [start, sampleHelloFrom 2]).sessionKey? = none) ∧
      (sampleAccepts (sampleCsharp [start]) (sampleHelloFrom 255) = false ∧
        rustAccepts (sampleRust [start]) (sampleHelloFrom 255) = true) ∧
      sampleAccepts (sampleCsharp
          [start, sampleHelloFrom 2, .sendClientVerify, sampleHelloFrom 5]) verify = false ∧
        rustAccepts (sampleRust
          [start, sampleHelloFrom 2, .sendClientVerify, sampleHelloFrom 5]) verify = true := by
  decide +kernel

end Sample

end Security

end Llp
