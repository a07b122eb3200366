/-
  Replays at the C# client.

  `Decrypt` compares the nonce of a packet with nothing that the object keeps: with an ideal
  cipher it opens every array that begins with a genuine packet, as often as it is given one.

  * `delivered_eq`: how often a genuine packet is delivered.
  * `delivered_once_iff`: no genuine packet is delivered twice exactly when none stands at the
    front of two of the arrays.
-/
import Llp.CSharp.PacketEncryption

namespace Llp.CSharp.PacketEncryption
open ByteCodec

variable (A : ChaCha20Poly1305) (isLittleEndian : Bool)

/-- The `Decrypt` calls on an object. -/
def decryptCalls : Machine PacketEncryption Bytes (Fallible Exception (Option Bytes)) :=
  Method.machine (decrypt A isLittleEndian)

/-- The nonce that a packet carries. -/
def nonceField (packet : Bytes) : Bytes := (packet.drop 4).take NONCE_SIZE

/-- `Decrypt` returned the plaintext. -/
def returns (plaintext : Bytes) : Fallible Exception (Option Bytes) → Bool
  | .ok (some returned) => returned = plaintext
  | _ => false

/-- How many of the calls return the plaintext for an array that carries the nonce. -/
def delivered (self : PacketEncryption) (packets : List Bytes) (nonce : Arr 12)
    (plaintext : Bytes) : ℕ :=
  (packets.zip ((decryptCalls A isLittleEndian).outputs self packets)).countP fun call =>
    decide (nonceField call.1 = nonce.toList) && returns plaintext call.2

/-- A message was sealed under the nonce, and its packet is an array. -/
def Genuine (log : List Sealing) (key : SessionKey) (nonce : Arr 12) (plaintext : Bytes) : Prop :=
  ⟨key.bytes, nonce.toList, [], plaintext⟩ ∈ log ∧ plaintext.length + 32 < 2 ^ 31

section Ideal

variable {A} {log : List Sealing} {key : SessionKey} {nonce : Arr 12} {packet plaintext : Bytes}

/-- A packet that opens begins with the sealing of what it opens to. -/
theorem sealed_prefix (hI : A.Ideal log) (hT : A.Tagged)
    (hopen : opened A key packet = some plaintext) (hnonce : nonceField packet = nonce.toList) :
    sealed A key nonce plaintext <+: packet := by
  unfold opened at hopen
  split at hopen
  · cases hopen
  next hfits =>
  simp only [not_or, not_lt] at hfits
  obtain ⟨-, hstated, hsmall⟩ := hfits
  obtain ⟨n, hn⟩ : ∃ n, statedLength packet = NONCE_SIZE + TAG_SIZE + n :=
    Nat.exists_eq_add_of_le hsmall
  simp only [hn, Nat.add_sub_cancel_left] at hopen hstated
  obtain ⟨-, hciphertext⟩ := (hI _ _ _ _ _).mp hopen
  rw [← nonceField, hnonce] at hciphertext
  simp only [NONCE_SIZE, TAG_SIZE] at *
  -- the length word states the length of the plaintext
  have hplain : n = plaintext.length := by
    have hlen := congrArg List.length hciphertext
    rw [hT.sealed, POLY1305_TAG_SIZE] at hlen
    simp only [List.length_append, List.length_take, List.length_drop] at hlen
    omega
  have hword : toBE 4 (plaintext.length + 28) = packet.take 4 := by
    have hfour : (packet.take 4).length = 4 := List.length_take_of_le (by omega)
    have hback := toBE_ofBE (packet.take 4)
    rwa [hfour, ← statedLength, hn, hplain, Nat.add_comm] at hback
  have htake : sealed A key nonce plaintext = packet.take (4 + 12 + n + 16) := by
    rw [sealed, ← hciphertext, hword, ← hnonce, List.take_add, List.take_add, List.take_add,
      nonceField, NONCE_SIZE, List.append_assoc]
    simp only [List.append_assoc]
  rw [htake]
  exact List.take_prefix _ _

/-- An array with a genuine packet at the front opens to its plaintext. -/
theorem opened_genuine (hI : A.Ideal log) (hT : A.Tagged) (hg : Genuine log key nonce plaintext)
    (hfront : sealed A key nonce plaintext <+: packet) :
    opened A key packet = some plaintext ∧ nonceField packet = nonce.toList := by
  obtain ⟨extra, rfl⟩ := hfront
  refine ⟨?_, ?_⟩
  · rw [opened_sealed_append hT key nonce hg.2]
    exact (hI _ _ _ _ _).mpr ⟨hg.1, rfl⟩
  · rw [nonceField, sealed, List.append_assoc, List.append_assoc,
      List.drop_left' (toBE_length _ _)]
    exact List.take_left' nonce.toList_length

/-- Each call returns what it finds. -/
theorem outputs_eq (self : PacketEncryption) (packets : List Bytes)
    (hint : ∀ packet ∈ packets, packet.length < 2 ^ 31) :
    (decryptCalls A isLittleEndian).outputs self packets =
      packets.map fun packet => .ok (opened A self.sessionKey packet) := by
  induction packets generalizing self with
  | nil => rfl
  | cons packet packets ih =>
      obtain ⟨receiveCounter, hdecrypt⟩ := decrypt_eq (A := A) isLittleEndian
        (hint packet List.mem_cons_self) self
      have hstep : (decryptCalls A isLittleEndian).step self packet =
          (.ok (opened A self.sessionKey packet),
            { self with receiveCounter := receiveCounter }) := by
        unfold decryptCalls Method.machine
        simp only [hdecrypt]
        rfl
      rw [Machine.outputs, hstep, List.map_cons,
        ih _ fun p hp => hint p (List.mem_cons_of_mem _ hp)]

/-- A genuine packet is delivered once for each array that begins with it. -/
theorem delivered_eq (hI : A.Ideal log) (hT : A.Tagged) {self : PacketEncryption}
    (hg : Genuine log self.sessionKey nonce plaintext) (packets : List Bytes)
    (hint : ∀ packet ∈ packets, packet.length < 2 ^ 31) :
    delivered A isLittleEndian self packets nonce plaintext =
      packets.countP (sealed A self.sessionKey nonce plaintext).isPrefixOf := by
  unfold delivered
  rw [outputs_eq isLittleEndian self packets hint]
  clear hint
  induction packets with
  | nil => rfl
  | cons packet packets ih =>
      rw [List.map_cons, List.zip_cons_cons, List.countP_cons, List.countP_cons, ih]
      congr 1
      have hiff : (decide (nonceField packet = nonce.toList) &&
          returns plaintext (.ok (opened A self.sessionKey packet))) = true ↔
            (sealed A self.sessionKey nonce plaintext).isPrefixOf packet = true := by
        rw [List.isPrefixOf_iff_prefix, Bool.and_eq_true, decide_eq_true_iff]
        constructor
        · rintro ⟨hnonce, hreturned⟩
          cases hopen : opened A self.sessionKey packet with
          | none =>
              rw [hopen] at hreturned
              cases hreturned
          | some returned =>
              rw [hopen] at hreturned
              exact sealed_prefix hI hT (hopen.trans (congrArg some (of_decide_eq_true hreturned)))
                hnonce
        · intro hfront
          obtain ⟨hopen, hnonce⟩ := opened_genuine hI hT hg hfront
          refine ⟨hnonce, ?_⟩
          rw [hopen]
          exact decide_eq_true rfl
      exact if_congr hiff rfl rfl

end Ideal

/-- **Replays.** With an ideal cipher, for every object and arrays: no genuine packet is delivered
    more than once exactly when no genuine packet stands at the front of two of the arrays. -/
theorem delivered_once_iff {A : ChaCha20Poly1305} {log : List Sealing} (hI : A.Ideal log)
    (hT : A.Tagged) (self : PacketEncryption) (packets : List Bytes)
    (hint : ∀ packet ∈ packets, packet.length < 2 ^ 31) :
    (∀ nonce plaintext, Genuine log self.sessionKey nonce plaintext →
        delivered A isLittleEndian self packets nonce plaintext ≤ 1) ↔
      ∀ nonce plaintext, Genuine log self.sessionKey nonce plaintext →
        packets.countP (sealed A self.sessionKey nonce plaintext).isPrefixOf ≤ 1 := by
  refine forall_congr' fun nonce => forall_congr' fun plaintext => forall_congr' fun hg => ?_
  rw [delivered_eq isLittleEndian hI hT hg packets hint]

/-- One sealed message. -/
def sampleLog : List Sealing := [⟨.replicate 32 1, List.replicate 12 2, [], [0x45]⟩]

/-- An object with the key of that message, and its packet. -/
def sampleObject : PacketEncryption := ⟨⟨.replicate 32 1⟩, 2, 0, 0⟩

def samplePacket : Bytes := sealed (tableAead sampleLog) ⟨.replicate 32 1⟩ (.replicate 12 2) [0x45]

/-- Given once, and once cut short. -/
theorem delivered_once_sample :
    (∀ nonce plaintext, Genuine sampleLog sampleObject.sessionKey nonce plaintext →
        delivered (tableAead sampleLog) true sampleObject [samplePacket, samplePacket.dropLast]
          nonce plaintext ≤ 1) ↔
      ∀ nonce plaintext, Genuine sampleLog sampleObject.sessionKey nonce plaintext →
        [samplePacket, samplePacket.dropLast].countP
          (sealed (tableAead sampleLog) sampleObject.sessionKey nonce plaintext).isPrefixOf ≤ 1 :=
  delivered_once_iff true (tableAead_ideal _) (tableAead_tagged _) sampleObject
    [samplePacket, samplePacket.dropLast] (by
      intro packet hpacket
      have hlen : packet.length ≤ 33 := by
        rcases List.mem_pair.mp hpacket with rfl | rfl <;> decide
      omega)

/-- The packet given twice is delivered twice. -/
theorem replay_delivered_twice :
    Genuine sampleLog sampleObject.sessionKey (.replicate 12 2) [0x45] ∧
      delivered (tableAead sampleLog) true sampleObject [samplePacket, samplePacket]
        (.replicate 12 2) [0x45] = 2 :=
  ⟨⟨List.mem_singleton.mpr rfl, by decide⟩, by decide +kernel⟩

end Llp.CSharp.PacketEncryption
