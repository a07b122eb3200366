/-
  `llp-server/client_handler.rs`: incoming VPN datagrams.

  A datagram is `nonce:12 || ciphertext || tag`. `handleIncomingPacket` compares the counter
  of the nonce with the receive counter, moves the receive counter past it, opens the
  ciphertext under that counter, echoes the plaintext to the client's own channel and hands
  it to the NAT gateway. The counter is moved before the ciphertext is opened, by a wrapping
  addition.

  * `incoming_replay_safe_iff`: in a run, the receive counter never goes down and no counter
    below `u64::MAX` is forwarded twice exactly when no datagram with counter `u64::MAX`
    arrives while the receive counter is not zero.
  * `forged_datagrams_inert_iff`: leaving the datagrams that do not authenticate out of a
    run changes neither what is forwarded nor the receive counter, at every point of the
    run, exactly when each of them is too short or too old when it arrives (or changes
    nothing because the counter wraps to the zero it already is).
  * `altered_datagram`: what becomes of a datagram that carries the counter of another one.
-/
import Llp.Core.Crypto
import Llp.Server.Routing

namespace Llp.Server
open ByteCodec

/-- `10.8.0.(2 + session_id % 253)`, as `new_udp` and the listener compute it. -/
def vpnIp (sessionId : UInt64) : IpAddr := .v4 10 8 0 (2 + sessionId % 253).toUInt8

namespace ClientHandler

/-- What a datagram changes: the receive counter of the session, the channels and the NAT
    gateway. -/
structure Incoming where
  receiveCounter : UInt64
  channels : Channels
  natGateway : Option NatGateway

/-- The counter in the first 8 bytes of a datagram. -/
def nonceCounter (packet : Bytes) : UInt64 := UInt64.ofNat (ofLE (packet.take 8))

/-- The bytes after the nonce. -/
def ciphertextWithTag (packet : Bytes) : Bytes := packet.drop CHACHA20_NONCE_SIZE

section

variable (A : ChaCha20Poly1305) (decryptCipher : AeadCipher)

/-- The first half of `handle_incoming_packet`: the checks, the counter and the decryption.
    Gives the plaintext to forward, if any, and the receive counter. -/
def openIncoming (packet : Bytes) (receiveCounter : UInt64) : Option Bytes × UInt64 :=
  if packet.length < CHACHA20_NONCE_SIZE + POLY1305_TAG_SIZE then (none, receiveCounter)
  else
    let nonceCounter := nonceCounter packet
    if nonceCounter < receiveCounter then (none, receiveCounter)
    else
      let receiveCounter := nonceCounter + 1
      match decryptCipher.decrypt A (ciphertextWithTag packet) [] nonceCounter with
      | .ok plaintext => (some plaintext, receiveCounter)
      | .error _ => (none, receiveCounter)

/-- What was opened is what the cipher opens behind the nonce field, under the counter in it. -/
theorem openIncoming_eq_some {A : ChaCha20Poly1305} {decryptCipher : AeadCipher}
    {packet plaintext : Bytes} {receiveCounter : UInt64}
    (h : (openIncoming A decryptCipher packet receiveCounter).1 = some plaintext) :
    CHACHA20_NONCE_SIZE + POLY1305_TAG_SIZE ≤ packet.length ∧
      decryptCipher.decrypt A (ciphertextWithTag packet) [] (nonceCounter packet) =
        .ok plaintext := by
  unfold openIncoming at h
  split at h
  · cases h
  next hlen =>
  simp only at h
  split at h
  · cases h
  split at h
  · next hopen =>
      cases h
      exact ⟨Nat.not_lt.mp hlen, hopen⟩
  · cases h

/-- It is 28 bytes shorter than its datagram. -/
theorem openIncoming_length {A : ChaCha20Poly1305} (hA : A.Tagged) {decryptCipher : AeadCipher}
    {packet plaintext : Bytes} {receiveCounter : UInt64}
    (h : (openIncoming A decryptCipher packet receiveCounter).1 = some plaintext) :
    packet.length = plaintext.length + (CHACHA20_NONCE_SIZE + POLY1305_TAG_SIZE) := by
  obtain ⟨hlen, hopen⟩ := openIncoming_eq_some h
  have hopened := hA.opened _ _ _ _ _ (AeadCipher.decrypt_eq_ok.mp hopen)
  rw [ciphertextWithTag, List.length_drop] at hopened
  omega

/-- The echo through the registry, to the channel under the client's own address. -/
def echo (clientRegistry : ClientRegistry) (vpnIp : IpAddr) (plaintext : Bytes) (s : Incoming) :
    Incoming :=
  match clientRegistry.clients.lookup vpnIp with
  | some tx => { s with channels := (tx.send plaintext s.channels).2 }
  | none => s

/-- The NAT gateway; its errors are logged and dropped. -/
def routeNat (writeOk : Bool) (plaintext : Bytes) (s : Incoming) : Incoming :=
  match s.natGateway with
  | some nat => { s with natGateway := some (nat.routePacket writeOk plaintext).2 }
  | none => s

/-- `handle_incoming_packet`. -/
def handleIncomingPacket (clientRegistry : ClientRegistry) (vpnIp : IpAddr) (writeOk : Bool)
    (packet : Bytes) (s : Incoming) : Incoming :=
  let opened := openIncoming A decryptCipher packet s.receiveCounter
  let s := { s with receiveCounter := opened.2 }
  match opened.1 with
  | some plaintext => routeNat writeOk plaintext (echo clientRegistry vpnIp plaintext s)
  | none => s

end

@[simp] theorem echo_receiveCounter (clientRegistry : ClientRegistry) (vpnIp : IpAddr)
    (plaintext : Bytes) (s : Incoming) :
    (echo clientRegistry vpnIp plaintext s).receiveCounter = s.receiveCounter := by
  unfold echo
  split <;> rfl

@[simp] theorem routeNat_receiveCounter (writeOk : Bool) (plaintext : Bytes) (s : Incoming) :
    (routeNat writeOk plaintext s).receiveCounter = s.receiveCounter := by
  unfold routeNat
  split <;> rfl

theorem handleIncomingPacket_receiveCounter (A : ChaCha20Poly1305) (decryptCipher : AeadCipher)
    (clientRegistry : ClientRegistry) (vpnIp : IpAddr) (writeOk : Bool) (packet : Bytes)
    (s : Incoming) :
    (handleIncomingPacket A decryptCipher clientRegistry vpnIp writeOk packet s).receiveCounter =
      (openIncoming A decryptCipher packet s.receiveCounter).2 := by
  unfold handleIncomingPacket
  simp only
  split <;> simp

/-! ## A session's datagrams -/

/-- One datagram given to `handle_incoming_packet`, with the registry, channels and NAT
    gateway it finds, and the outcome of a write to the TUN device. -/
structure Datagram where
  packet : Bytes
  clientRegistry : ClientRegistry
  channels : Channels
  natGateway : Option NatGateway
  writeOk : Bool

section Run

variable (A : ChaCha20Poly1305) (sessionKey : SessionKey) (sessionId : UInt64)

/-- The datagrams of a session, in the order `handle_vpn_packet` gives them to
    `handle_incoming_packet`. The state is the session's receive counter, an output is the
    plaintext that was forwarded. -/
def incoming : Machine UInt64 Datagram (Option Bytes) where
  step receiveCounter d :=
    ((openIncoming A (AeadCipher.new sessionKey sessionId) d.packet receiveCounter).1,
      (handleIncomingPacket A (AeadCipher.new sessionKey sessionId) d.clientRegistry
        (vpnIp sessionId) d.writeOk d.packet
        ⟨receiveCounter, d.channels, d.natGateway⟩).receiveCounter)

/-- The datagram opens under its own counter. -/
def authentic (d : Datagram) : Bool :=
  CHACHA20_NONCE_SIZE + POLY1305_TAG_SIZE ≤ d.packet.length &&
    ((AeadCipher.new sessionKey sessionId).decrypt A (ciphertextWithTag d.packet) []
      (nonceCounter d.packet)).isOk

/-- What one datagram does: too short or too old, it does nothing; else the counter moves
    past its own, and it is forwarded if it is authentic. -/
theorem incoming_step (rc : UInt64) (d : Datagram) :
    ((incoming A sessionKey sessionId).step rc d).2 =
        (if d.packet.length < CHACHA20_NONCE_SIZE + POLY1305_TAG_SIZE ∨
            nonceCounter d.packet < rc then rc else nonceCounter d.packet + 1) ∧
      (((incoming A sessionKey sessionId).step rc d).1.isSome = true ↔
        authentic A sessionKey sessionId d = true ∧ rc ≤ nonceCounter d.packet) := by
  simp only [incoming, handleIncomingPacket_receiveCounter, openIncoming, authentic]
  by_cases hlen : d.packet.length < CHACHA20_NONCE_SIZE + POLY1305_TAG_SIZE
  · simp [hlen]
  · by_cases hold : nonceCounter d.packet < rc
    · simp [hlen, hold]
    · have hle := UInt64.not_lt.mp hold
      cases (AeadCipher.new sessionKey sessionId).decrypt A (ciphertextWithTag d.packet) []
          (nonceCounter d.packet) with
      | ok plaintext => simp [hlen, hold, hle, Nat.not_lt.mp hlen, Except.isOk, Except.toBool]
      | error e => simp [hlen, hold, Except.isOk, Except.toBool]

/-- `u64::MAX`. -/
def u64Max : UInt64 := 0xFFFFFFFFFFFFFFFF

/-- The datagram moves the receive counter from above zero to zero: its counter is
    `u64::MAX`, and the addition wraps. -/
def Wraps (rc : UInt64) (packet : Bytes) : Prop :=
  CHACHA20_NONCE_SIZE + POLY1305_TAG_SIZE ≤ packet.length ∧ nonceCounter packet = u64Max ∧
    rc ≠ 0

instance (rc : UInt64) (packet : Bytes) : Decidable (Wraps rc packet) :=
  inferInstanceAs (Decidable (_ ∧ _))

/-- A datagram of the session: a nonce and what the cipher returned under it. -/
def Genuine (g : Bytes) : Prop :=
  ∃ counter plaintext ciphertext cipher,
    AeadCipher.encrypt A plaintext [] ⟨sessionKey, ChaCha20Nonce.new sessionId counter⟩ =
        .ok ciphertext cipher ∧
      g = (ChaCha20Nonce.new sessionId counter).asBytes ++ ciphertext

theorem nonceCounter_asBytes (n : ChaCha20Nonce) (ciphertext : Bytes) :
    nonceCounter (n.asBytes ++ ciphertext) = n.counter := by
  have htake : (n.asBytes ++ ciphertext).take 8 = toLE 8 n.counter.toNat := by
    rw [ChaCha20Nonce.asBytes, List.append_assoc]
    exact List.take_left' (toLE_length _ _)
  rw [nonceCounter, htake, ofLE_toLE _ _ (u64_lt _), UInt64.ofNat_toNat]

/-- `encrypt` refuses the last counter, so no datagram of the session carries it. -/
theorem genuine_counter {g : Bytes} (h : Genuine A sessionKey sessionId g) :
    (nonceCounter g).toNat + 1 < 2 ^ 64 := by
  obtain ⟨counter, plaintext, ciphertext, cipher, henc, rfl⟩ := h
  rw [nonceCounter_asBytes]
  rw [AeadCipher.encrypt_apply] at henc
  split at henc
  · split at henc
    · next hlt => exact hlt
    · cases henc
  · cases henc

theorem u64Max_add_one : u64Max + 1 = 0 := by decide

theorem toNat_lt_max {c : UInt64} (h : c ≠ u64Max) : c.toNat + 1 < 2 ^ 64 := by
  have hne : c.toNat ≠ u64Max.toNat := fun he => h (UInt64.toNat_inj.mp he)
  have hmax : u64Max.toNat = 2 ^ 64 - 1 := by decide
  have := c.toNat_lt
  omega

/-- The receive counter goes down exactly when the addition wraps above zero. -/
theorem incoming_mono_iff (rc : UInt64) (d : Datagram) :
    rc ≤ ((incoming A sessionKey sessionId).step rc d).2 ↔ ¬ Wraps rc d.packet := by
  rw [(incoming_step A sessionKey sessionId rc d).1, Wraps]
  split
  · next h =>
      simp only [UInt64.le_refl, true_iff, not_and]
      intro hlen hmax
      rcases h with hshort | hold
      · omega
      · rw [hmax] at hold
        have hrc := rc.toNat_lt
        have hlt := UInt64.lt_iff_toNat_lt.mp hold
        have hval : u64Max.toNat = 2 ^ 64 - 1 := by decide
        omega
  · next h =>
      obtain ⟨hlen, hnew⟩ := not_or.mp h
      by_cases hmax : nonceCounter d.packet = u64Max
      · rw [hmax, u64Max_add_one]
        simp only [UInt64.le_iff_toNat_le, ← UInt64.toNat_inj, ne_eq, not_and, not_not]
        simp
        omega
      · simp only [hmax, false_and, and_false, not_false_eq_true, iff_true]
        rw [UInt64.le_iff_toNat_le, toNat_succ64 (toNat_lt_max hmax)]
        have := UInt64.le_iff_toNat_le.mp (UInt64.not_lt.mp hnew)
        omega

/-- **Replay safety of the incoming path.** In a run from a new session, the receive counter
    never goes down and the counter of no genuine datagram is forwarded twice, exactly when
    no datagram wraps the receive counter. -/
theorem incoming_replay_safe_iff (ds : List Datagram) :
    ((incoming A sessionKey sessionId).Always
        (fun rc d => rc ≤ ((incoming A sessionKey sessionId).step rc d).2) 0 ds ∧
      ∀ g, Genuine A sessionKey sessionId g →
        (((incoming A sessionKey sessionId).accepted Option.isSome 0 ds).map
          fun d => nonceCounter d.packet).count (nonceCounter g) ≤ 1) ↔
    (incoming A sessionKey sessionId).Always (fun rc d => ¬ Wraps rc d.packet) 0 ds := by
  rw [Machine.always_congr _ (incoming_mono_iff A sessionKey sessionId)]
  refine ⟨And.left, fun hP => ⟨hP, fun g hg => ?_⟩⟩
  have hk := genuine_counter A sessionKey sessionId hg
  -- below the receive counter, a counter is refused and stays below
  refine (incoming A sessionKey sessionId).accepted_count_le_one Option.isSome
    (fun d => nonceCounter d.packet) (fun rc d => ¬ Wraps rc d.packet) (fun _ => True)
    (fun rc k => k.toNat < rc.toNat) (fun _ _ _ _ => trivial) ?_ ?_ ?_ 0 ds trivial hP
  · intro rc d _ _ hkey hok
    obtain ⟨hauth, hle⟩ := (incoming_step A sessionKey sessionId rc d).2.mp hok
    have hlen : ¬ d.packet.length < CHACHA20_NONCE_SIZE + POLY1305_TAG_SIZE := by
      simp only [authentic, Bool.and_eq_true, decide_eq_true_eq] at hauth
      omega
    rw [(incoming_step A sessionKey sessionId rc d).1,
      if_neg (not_or.mpr ⟨hlen, UInt64.not_lt.mpr hle⟩), hkey, toNat_succ64 hk]
    omega
  · intro rc d _ hw hlt
    have := UInt64.le_iff_toNat_le.mp ((incoming_mono_iff A sessionKey sessionId rc d).mpr hw)
    omega
  · intro rc d _ hkey hlt
    by_contra hok
    rw [Bool.not_eq_false] at hok
    have hle := ((incoming_step A sessionKey sessionId rc d).2.mp hok).2
    rw [hkey, UInt64.le_iff_toNat_le] at hle
    omega

/-- The datagram leaves the receive counter as it is: it is too short, too old, or its
    counter wraps to the zero that is there. -/
def Inert (rc : UInt64) (packet : Bytes) : Prop :=
  packet.length < CHACHA20_NONCE_SIZE + POLY1305_TAG_SIZE ∨ nonceCounter packet < rc ∨
    (nonceCounter packet = u64Max ∧ rc = 0)

theorem incoming_inert_iff (rc : UInt64) (d : Datagram) :
    ((incoming A sessionKey sessionId).step rc d).2 = rc ↔ Inert rc d.packet := by
  rw [(incoming_step A sessionKey sessionId rc d).1, Inert, ← or_assoc]
  split
  · next h => simp [h]
  · next h =>
      obtain ⟨hlen, hnew⟩ := not_or.mp h
      have hle := UInt64.le_iff_toNat_le.mp (UInt64.not_lt.mp hnew)
      simp only [h, false_or]
      constructor
      · intro heq
        by_cases hmax : nonceCounter d.packet = u64Max
        · exact ⟨hmax, by rw [← heq, hmax, u64Max_add_one]⟩
        · have := toNat_succ64 (toNat_lt_max hmax)
          rw [heq] at this
          omega
      · rintro ⟨hmax, hzero⟩
        rw [hmax, hzero, u64Max_add_one]

/-- **Forged datagrams and genuine ones.** At every point of a run from a new session,
    leaving out the datagrams that do not authenticate changes neither the receive counter
    nor what is forwarded of the others, exactly when each of them is inert on arrival. -/
theorem forged_datagrams_inert_iff (ds : List Datagram) :
    (∀ pre, pre <+: ds →
      (incoming A sessionKey sessionId).final 0
            (pre.filter (authentic A sessionKey sessionId)) =
          (incoming A sessionKey sessionId).final 0 pre ∧
        (incoming A sessionKey sessionId).outputs 0
            (pre.filter (authentic A sessionKey sessionId)) =
          (incoming A sessionKey sessionId).outputsAt (authentic A sessionKey sessionId) 0 pre) ↔
    (incoming A sessionKey sessionId).Always
      (fun rc d => authentic A sessionKey sessionId d = false → Inert rc d.packet) 0 ds := by
  rw [Machine.filter_iff_inert]
  exact Machine.always_congr _
    (fun rc d => imp_congr_right fun _ => incoming_inert_iff A sessionKey sessionId rc d) 0 ds

end Run

/-! ## Altered datagrams -/

section Altered

variable {A : ChaCha20Poly1305} {log : List Sealing} {sessionKey : SessionKey}
  {sessionId : UInt64} {g g' : Bytes}

/-- Of a datagram only the counter and what follows the nonce are read. -/
theorem openIncoming_congr (decryptCipher : AeadCipher) (receiveCounter : UInt64)
    (hlen : CHACHA20_NONCE_SIZE + POLY1305_TAG_SIZE ≤ g.length)
    (hlen' : CHACHA20_NONCE_SIZE + POLY1305_TAG_SIZE ≤ g'.length)
    (hcounter : g'.take 8 = g.take 8)
    (hrest : g'.drop CHACHA20_NONCE_SIZE = g.drop CHACHA20_NONCE_SIZE) :
    openIncoming A decryptCipher g' receiveCounter =
      openIncoming A decryptCipher g receiveCounter := by
  unfold openIncoming nonceCounter ciphertextWithTag
  rw [if_neg (Nat.not_lt.mpr hlen), if_neg (Nat.not_lt.mpr hlen'), hcounter, hrest]

/-- A datagram that is opened was sealed under its counter. -/
theorem opened_sealed (hI : A.Ideal log) {receiveCounter : UInt64} {plaintext : Bytes}
    (h : (openIncoming A (AeadCipher.new sessionKey sessionId) g receiveCounter).1 =
      some plaintext) :
    CHACHA20_NONCE_SIZE + POLY1305_TAG_SIZE ≤ g.length ∧
      ⟨sessionKey.bytes, (ChaCha20Nonce.new sessionId (nonceCounter g)).asBytes, [], plaintext⟩ ∈
        log ∧
      g.drop CHACHA20_NONCE_SIZE = A.ciphertext sessionKey.bytes
        (ChaCha20Nonce.new sessionId (nonceCounter g)).asBytes [] plaintext := by
  obtain ⟨hlen, hopen⟩ := openIncoming_eq_some h
  exact ⟨hlen, (hI _ _ _ _ _).mp (AeadCipher.decrypt_eq_ok.mp hopen)⟩

/-- A datagram that is not opened changes neither the channels nor the NAT gateway. -/
theorem handleIncomingPacket_dropped {decryptCipher : AeadCipher} {s : Incoming}
    (h : (openIncoming A decryptCipher g s.receiveCounter).1 = none)
    (clientRegistry : ClientRegistry) (vpnIp : IpAddr) (writeOk : Bool) :
    (handleIncomingPacket A decryptCipher clientRegistry vpnIp writeOk g s).channels =
        s.channels ∧
      (handleIncomingPacket A decryptCipher clientRegistry vpnIp writeOk g s).natGateway =
        s.natGateway := by
  unfold handleIncomingPacket
  simp only
  rw [h]
  exact ⟨rfl, rfl⟩

/-- **Altered datagrams.** The cipher is ideal, with one message for a key, nonce and AAD. In a
    state that accepts the datagram `g`, one that carries its counter has the effect of `g` if it
    has the same bytes behind the nonce field, and else it is dropped: the last four bytes of the
    nonce field are not looked at, and any other change is refused. -/
theorem altered_datagram (hI : A.Ideal log)
    (honce : ∀ p ∈ log, ∀ q ∈ log, p.key = q.key → p.nonce = q.nonce → p.aad = q.aad → p = q)
    (clientRegistry : ClientRegistry) (vpnIp : IpAddr) (writeOk : Bool) (s : Incoming)
    (haccept : (openIncoming A (AeadCipher.new sessionKey sessionId) g
      s.receiveCounter).1.isSome = true)
    (hcounter : g'.take 8 = g.take 8) :
    let handle := handleIncomingPacket A (AeadCipher.new sessionKey sessionId) clientRegistry
      vpnIp writeOk
    (g'.drop CHACHA20_NONCE_SIZE = g.drop CHACHA20_NONCE_SIZE → handle g' s = handle g s) ∧
      (g'.drop CHACHA20_NONCE_SIZE ≠ g.drop CHACHA20_NONCE_SIZE →
        (openIncoming A (AeadCipher.new sessionKey sessionId) g' s.receiveCounter).1 = none ∧
        (handle g' s).channels = s.channels ∧ (handle g' s).natGateway = s.natGateway) := by
  intro handle
  obtain ⟨plaintext, hopen⟩ := Option.isSome_iff_exists.mp haccept
  obtain ⟨hlen, hmem, hsealed⟩ := opened_sealed hI hopen
  refine ⟨fun hrest => ?_, fun hrest => ?_⟩
  · have hlen' : CHACHA20_NONCE_SIZE + POLY1305_TAG_SIZE ≤ g'.length := by
      have hdrop := congrArg List.length hrest
      rw [List.length_drop, List.length_drop] at hdrop
      simp only [CHACHA20_NONCE_SIZE, POLY1305_TAG_SIZE] at *
      omega
    simp only [handle, handleIncomingPacket]
    rw [openIncoming_congr _ _ hlen hlen' hcounter hrest]
  · have hnone : (openIncoming A (AeadCipher.new sessionKey sessionId) g'
        s.receiveCounter).1 = none := by
      cases hopen' : (openIncoming A (AeadCipher.new sessionKey sessionId) g'
          s.receiveCounter).1 with
      | none => rfl
      | some plaintext' =>
          -- it would be the one ciphertext of that nonce
          obtain ⟨-, hmem', hsealed'⟩ := opened_sealed hI hopen'
          have hnonce : nonceCounter g' = nonceCounter g := by
            rw [nonceCounter, nonceCounter, hcounter]
          rw [hnonce] at hmem' hsealed'
          have hsame := honce _ hmem' _ hmem rfl rfl rfl
          rw [Sealing.mk.injEq] at hsame
          exact absurd (by rw [hsealed', hsealed, hsame.2.2.2]) hrest
    exact ⟨hnone, handleIncomingPacket_dropped hnone clientRegistry vpnIp writeOk⟩

end Altered

/-! ## Two datagrams and a forged one -/

section Forged

/-- A session key and the packet `[0x45]` sealed under counter 0. -/
def sampleKey : SessionKey := ⟨List.Vector.replicate 32 7⟩

def sampleAead : ChaCha20Poly1305 :=
  tableAead [⟨sampleKey.bytes, (ChaCha20Nonce.new 9 0).asBytes, [], [0x45]⟩]

/-- A datagram found by an idle server. -/
def sampleDatagram (packet : Bytes) : Datagram := ⟨packet, .new, [], none, true⟩

/-- The datagram of that packet. -/
def sampleGenuine : Datagram :=
  sampleDatagram ((ChaCha20Nonce.new 9 0).asBytes ++ 0x45 :: List.replicate 16 0)

/-- A forged datagram: a counter, then zeros. -/
def sampleForged (counter : UInt64) : Datagram :=
  sampleDatagram ((ChaCha20Nonce.new 9 counter).asBytes ++ List.replicate 16 0)

/-- The same datagram is forwarded twice, with one of counter `u64::MAX` in between. -/
theorem incoming_forwards_replay :
    Genuine sampleAead sampleKey 9 sampleGenuine.packet ∧
    (incoming sampleAead sampleKey 9).outputs 0
        [sampleGenuine, sampleForged u64Max, sampleGenuine] = [some [0x45], none, some [0x45]] ∧
      (incoming sampleAead sampleKey 9).final 0 [sampleGenuine] = 1 ∧
      (incoming sampleAead sampleKey 9).final 0 [sampleGenuine, sampleForged u64Max] = 0 := by
  refine ⟨⟨0, [0x45], 0x45 :: List.replicate 16 0, ⟨sampleKey, ⟨1, 9⟩⟩, ?_, rfl⟩, ?_, ?_, ?_⟩
  · rfl
  · decide
  · decide
  · decide

/-- A forged datagram of counter 5 comes first: the genuine one is not forwarded. -/
theorem forged_datagram_suppresses_genuine :
    (incoming sampleAead sampleKey 9).outputs 0 [sampleGenuine] = [some [0x45]] ∧
      authentic sampleAead sampleKey 9 (sampleForged 5) = false ∧
      (incoming sampleAead sampleKey 9).outputs 0 [sampleForged 5, sampleGenuine] =
        [none, none] := by
  decide

/-- The genuine datagram with another byte in place of byte 8 of its nonce field. -/
def sampleAltered : Bytes := sampleGenuine.packet.set 8 0xFF

/-- Cut by a byte, it is dropped; with byte 8 changed, it has the effect of the genuine one. -/
theorem altered_datagram_sample :
    (openIncoming sampleAead (AeadCipher.new sampleKey 9) sampleGenuine.packet.dropLast 0).1 =
        none ∧
      handleIncomingPacket sampleAead (AeadCipher.new sampleKey 9) .new (vpnIp 9) true
          sampleAltered ⟨0, [], none⟩ =
        handleIncomingPacket sampleAead (AeadCipher.new sampleKey 9) .new (vpnIp 9) true
          sampleGenuine.packet ⟨0, [], none⟩ :=
  ⟨((altered_datagram (g := sampleGenuine.packet) (tableAead_ideal _) (by decide) .new (vpnIp 9)
      true ⟨0, [], none⟩ (by decide) (by decide)).2 (by decide)).1,
    (altered_datagram (tableAead_ideal _) (by decide) .new (vpnIp 9) true ⟨0, [], none⟩
      (by decide) (by decide)).1 (by decide)⟩

/-- The altered datagram differs from the genuine one in byte 8, and is forwarded as it. -/
theorem altered_datagram_forwarded :
    sampleAltered ≠ sampleGenuine.packet ∧
      sampleAltered.take 8 = sampleGenuine.packet.take 8 ∧
      (openIncoming sampleAead (AeadCipher.new sampleKey 9) sampleGenuine.packet 0).1 =
        some [0x45] ∧
      (openIncoming sampleAead (AeadCipher.new sampleKey 9) sampleAltered 0).1 = some [0x45] := by
  decide

end Forged

end ClientHandler

end Llp.Server
