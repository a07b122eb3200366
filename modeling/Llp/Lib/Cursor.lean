/-
  Reading a byte string from the front.

  The state of a reader is the list of the bytes not read yet. A read of more bytes than are
  left panics, so a reader that returns never ran off the end. `take_append` and
  `getU8_cons` read back what was written in front of the rest.

  `Reads m encode P` says that `m` is the reader of a format: it reads back what `encode` writes,
  and whatever it reads was written so, by a value that meets `P`. The machine words are formats
  of their sizes. `Safe k m` says that `m` reads `k` bytes, and does not panic on as many; its
  rules follow the text of `m`.
-/
import Mathlib.Data.List.TakeDrop
import Llp.Lib.Bytes
import Llp.Lib.Method

namespace ByteCodec.Cursor

variable {ε : Type}

/-- Read exactly `k` bytes. -/
def take (k : ℕ) : Method Bytes ε (Arr k) := fun s =>
  if h : (s.take k).length = k then .ok ⟨s.take k, h⟩ (s.drop k) else .error .panic s

/-- The number of bytes left. -/
def remaining : Method Bytes ε ℕ := fun s => .ok s.length s

def getU8 : Method Bytes ε UInt8 := do
  let bytes ← take 1
  pure (UInt8.ofNat (ofBE bytes.toList))

def getU16 : Method Bytes ε UInt16 := do
  let bytes ← take 2
  pure (UInt16.ofNat (ofBE bytes.toList))

def getU32 : Method Bytes ε UInt32 := do
  let bytes ← take 4
  pure (UInt32.ofNat (ofBE bytes.toList))

def getU64 : Method Bytes ε UInt64 := do
  let bytes ← take 8
  pure (UInt64.ofNat (ofBE bytes.toList))

theorem take_append {k : ℕ} (a : Arr k) (rest : Bytes) :
    (take k : Method Bytes ε (Arr k)) (a.toList ++ rest) = .ok a rest := by
  have hlen : a.toList.length = k := a.toList_length
  have htake : (a.toList ++ rest).take k = a.toList := List.take_left' hlen
  have hdrop : (a.toList ++ rest).drop k = rest := List.drop_left' hlen
  have h : ((a.toList ++ rest).take k).length = k := by rw [htake, hlen]
  simp only [take, dif_pos h, hdrop]
  congr 1
  exact Subtype.ext htake

theorem getU8_cons (b : UInt8) (rest : Bytes) :
    (getU8 : Method Bytes ε UInt8) (b :: rest) = .ok b rest := by
  have htake : (take 1 : Method Bytes ε (Arr 1)) (b :: rest) = .ok ⟨[b], rfl⟩ rest :=
    take_append ⟨[b], rfl⟩ rest
  have hbyte : UInt8.ofNat (ofBE [b]) = b := by simp [ofBE, ofLE]
  unfold getU8
  rw [Method.bind_ok htake, Method.pure_apply]
  congr 1

/-! ## Formats -/

section Formats

variable {α : Type}

/-- `m` reads what `encode` writes of the values that meet `P`, and nothing else. -/
structure Reads (m : Method Bytes ε α) (encode : α → Bytes) (P : α → Prop) : Prop where
  back : ∀ a rest, P a → m (encode a ++ rest) = .ok a rest
  sound : ∀ s a rest, m s = .ok a rest → P a ∧ s = encode a ++ rest

namespace Reads

variable {β : Type} {m : Method Bytes ε α} {encode : α → Bytes} {P : α → Prop}
  {f : α → Method Bytes ε β}

/-- Reading goes on behind what was written. -/
theorem bind_ok (hm : Reads m encode P) {a : α} (ha : P a) (rest : Bytes) :
    (m >>= f) (encode a ++ rest) = f a rest :=
  Method.bind_ok (hm.back a rest ha)

/-- A reader that returned began with what was written. -/
theorem bind_eq_ok (hm : Reads m encode P) {s u : Bytes} {b : β}
    (h : (m >>= f) s = .ok b u) : ∃ a t, P a ∧ s = encode a ++ t ∧ f a t = .ok b u := by
  obtain ⟨a, t, hread, hrest⟩ := Method.bind_eq_ok h
  obtain ⟨ha, hs⟩ := hm.sound s a t hread
  exact ⟨a, t, ha, hs, hrest⟩

/-- Run on a buffer, it returns the value whose bytes stand at the front. -/
theorem eval_eq_ok (hm : Reads m encode P) (s : Bytes) (a : α) :
    m.eval s = .ok a ↔ P a ∧ encode a <+: s := by
  constructor
  · intro h
    obtain ⟨rest, hread⟩ := Method.eval_eq_ok h
    obtain ⟨ha, rfl⟩ := hm.sound s a rest hread
    exact ⟨ha, List.prefix_append _ _⟩
  · rintro ⟨ha, rest, rfl⟩
    rw [Method.eval, hm.back a rest ha]
    rfl

/-- The same behind a check of the length, which no encoding fails. -/
theorem guarded_eq_ok (hm : Reads m encode P) {k : ℕ} (hk : ∀ a, P a → k ≤ (encode a).length)
    (e : ε) (s : Bytes) (a : α) :
    (if s.length < k then .error (.err e) else m.eval s) = (.ok a : Fallible ε α) ↔
      P a ∧ encode a <+: s := by
  split
  · next hshort =>
      refine iff_of_false (fun h => by cases h) ?_
      rintro ⟨ha, hprefix⟩
      have henc := hk a ha
      have hle := hprefix.length_le
      omega
  · exact hm.eval_eq_ok s a

end Reads

theorem take_reads (k : ℕ) :
    Reads (take k : Method Bytes ε (Arr k)) List.Vector.toList fun _ => True where
  back a rest _ := take_append a rest
  sound s a rest h := by
    unfold take at h
    split at h
    · cases h
      exact ⟨trivial, (List.take_append_drop k s).symm⟩
    · cases h

/-- A machine word of `k` bytes. -/
theorem word_reads {k : ℕ} {ofNat : ℕ → α} {toNat : α → ℕ} (hto : ∀ n, n < 256 ^ k →
    toNat (ofNat n) = n) (hof : ∀ a, ofNat (toNat a) = a) (hlt : ∀ a, toNat a < 256 ^ k) :
    Reads (do let bytes ← take k; pure (ofNat (ofBE bytes.toList)) : Method Bytes ε α)
      (fun a => toBE k (toNat a)) fun _ => True where
  back a rest _ := by
    have htake : (take k : Method Bytes ε (Arr k)) (toBE k (toNat a) ++ rest) =
        .ok ⟨toBE k (toNat a), toBE_length _ _⟩ rest := take_append ⟨_, toBE_length _ _⟩ rest
    rw [Method.bind_ok htake, Method.pure_apply]
    exact congrArg (EStateM.Result.ok · rest) ((congrArg ofNat (ofBE_toBE k _ (hlt a))).trans
      (hof a))
  sound s a rest h := by
    obtain ⟨bytes, t, htake, hpure⟩ := Method.bind_eq_ok h
    obtain ⟨-, rfl⟩ := (take_reads k).sound s bytes t htake
    cases hpure
    have hlen : bytes.toList.length = k := bytes.toList_length
    have hsmall : ofBE bytes.toList < 256 ^ k := by
      have hbound := ofBE_lt bytes.toList
      rwa [hlen] at hbound
    refine ⟨trivial, ?_⟩
    have hword := toBE_ofBE bytes.toList
    rw [hlen] at hword
    rw [hto _ hsmall, hword]

theorem getU8_reads :
    Reads (getU8 : Method Bytes ε UInt8) (fun v => toBE 1 v.toNat) fun _ => True :=
  word_reads (fun _ h => UInt8.toNat_ofNat_of_lt h) (fun _ => UInt8.ofNat_toNat)
    fun v => v.toNat_lt

theorem getU16_reads :
    Reads (getU16 : Method Bytes ε UInt16) (fun v => toBE 2 v.toNat) fun _ => True :=
  word_reads (fun _ h => UInt16.toNat_ofNat_of_lt h) (fun _ => UInt16.ofNat_toNat) u16_lt

theorem getU32_reads :
    Reads (getU32 : Method Bytes ε UInt32) (fun v => toBE 4 v.toNat) fun _ => True :=
  word_reads (fun _ h => UInt32.toNat_ofNat_of_lt h) (fun _ => UInt32.ofNat_toNat) u32_lt

theorem getU64_reads :
    Reads (getU64 : Method Bytes ε UInt64) (fun v => toBE 8 v.toNat) fun _ => True :=
  word_reads (fun _ h => UInt64.toNat_ofNat_of_lt h) (fun _ => UInt64.ofNat_toNat) u64_lt

end Formats

/-! ## Readers that do not run off the end -/

section Safety

variable {α β : Type}

/-- On `k` bytes or more `m` does not panic, and when it returns it has read `k` of them. -/
structure Safe (k : ℕ) (m : Method Bytes ε α) : Prop where
  noPanic : ∀ s t, k ≤ s.length → m s ≠ .error .panic t
  reads : ∀ s a t, m s = .ok a t → s.length = k + t.length

namespace Safe

theorem cast {j k : ℕ} {m : Method Bytes ε α} (hm : Safe j m) (h : j = k) : Safe k m := h ▸ hm

theorem bind {j k : ℕ} {m : Method Bytes ε α} {f : α → Method Bytes ε β} (hm : Safe j m)
    (hf : ∀ a, Safe k (f a)) : Safe (j + k) (m >>= f) where
  noPanic s t hlen h := by
    cases hfirst : m s with
    | ok a u =>
        have hread := hm.reads s a u hfirst
        rw [Method.bind_ok hfirst] at h
        exact (hf a).noPanic u t (by omega) h
    | error e u =>
        rw [Method.bind_error hfirst] at h
        cases h
        exact hm.noPanic s t (by omega) hfirst
  reads s b t h := by
    obtain ⟨a, u, hfirst, hrest⟩ := Method.bind_eq_ok h
    have hread := hm.reads s a u hfirst
    have hread' := (hf a).reads u b t hrest
    omega

theorem pure (a : α) : Safe 0 (Pure.pure a : Method Bytes ε α) where
  noPanic s t _ h := by cases h
  reads s b t h := by
    cases h
    exact (Nat.zero_add _).symm

theorem fail (e : ε) : Safe 0 (Method.fail e : Method Bytes ε α) where
  noPanic s t _ h := by cases h
  reads s b t h := by cases h

theorem failIf (c : Prop) [Decidable c] (e : ε) : Safe 0 (Method.failIf c e) := by
  unfold Method.failIf
  split
  · exact fail e
  · exact pure ()

theorem okOr (e : ε) (o : Option α) : Safe 0 (Method.okOr e o) := by
  cases o with
  | none => exact fail e
  | some a => exact pure a

theorem take (k : ℕ) : Safe k (Cursor.take k : Method Bytes ε (Arr k)) where
  noPanic s t hlen h := by
    rw [Cursor.take, dif_pos (List.length_take_of_le hlen)] at h
    cases h
  reads s a t h := by
    obtain ⟨-, rfl⟩ := (take_reads k).sound s a t h
    rw [List.length_append, a.toList_length]

theorem remaining : Safe 0 (Cursor.remaining : Method Bytes ε ℕ) where
  noPanic s t _ h := by cases h
  reads s b t h := by
    cases h
    exact (Nat.zero_add _).symm

theorem getU8 : Safe 1 (Cursor.getU8 : Method Bytes ε UInt8) := (take 1).bind fun _ => pure _

theorem getU16 : Safe 2 (Cursor.getU16 : Method Bytes ε UInt16) := (take 2).bind fun _ => pure _

theorem getU32 : Safe 4 (Cursor.getU32 : Method Bytes ε UInt32) := (take 4).bind fun _ => pure _

theorem getU64 : Safe 8 (Cursor.getU64 : Method Bytes ε UInt64) := (take 8).bind fun _ => pure _

/-- Run on a local buffer of its size, such a reader does not panic. -/
theorem eval {k : ℕ} {m : Method Bytes ε α} (hm : Safe k m) {s : Bytes} (h : k ≤ s.length) :
    m.eval s ≠ .error .panic := by
  intro hpanic
  cases hs : m s with
  | ok a t =>
      rw [Method.eval, hs] at hpanic
      cases hpanic
  | error e t =>
      rw [Method.eval, hs] at hpanic
      cases hpanic
      exact hm.noPanic s t h hs

/-- Behind a check of the length, it never panics. -/
theorem guarded {k : ℕ} {m : Method Bytes ε α} (hm : Safe k m) (e : ε) (s : Bytes) :
    (if s.length < k then .error (.err e) else m.eval s) ≠ (.error .panic : Fallible ε α) := by
  split
  · intro h
    cases h
  · next hlen => exact hm.eval (Nat.not_lt.mp hlen)

end Safe

end Safety

end ByteCodec.Cursor
