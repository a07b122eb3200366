/-
  Byte strings: fixed-width little- and big-endian encodings of natural numbers, and
  machine words.

  `toLE k n` is the `k`-byte little-endian form of `n` (reduced mod `256^k`), `toBE k n`
  the big-endian one; `ofLE`, `ofBE` read any byte string. The two directions are inverse
  on `n < 256^k` and on byte strings of length `k`.

  `checkedAdd32`, `checkedAdd64` are the additions of machine words that report overflow.
-/
import Mathlib.Data.List.Basic
import Mathlib.Data.Vector.Basic
import Mathlib.Tactic.Ring

namespace ByteCodec

/-- A byte string. -/
abbrev Bytes := List UInt8

/-- A byte array of a fixed size. -/
abbrev Arr (n : ℕ) := List.Vector UInt8 n

/-! ## Little endian -/

/-- The `k` little-endian bytes of `n`. -/
def toLE : ℕ → ℕ → Bytes
  | 0, _ => []
  | k + 1, n => UInt8.ofNat n :: toLE k (n / 256)

/-- The number a byte string stands for, least significant byte first. -/
def ofLE : Bytes → ℕ
  | [] => 0
  | b :: bs => b.toNat + 256 * ofLE bs

@[simp] theorem toLE_length (k n : ℕ) : (toLE k n).length = k := by
  induction k generalizing n with
  | zero => rfl
  | succ k ih => simp [toLE, ih]

theorem ofLE_toLE (k n : ℕ) (h : n < 256 ^ k) : ofLE (toLE k n) = n := by
  induction k generalizing n with
  | zero =>
      have : n = 0 := by simpa using h
      simp [toLE, ofLE, this]
  | succ k ih =>
      have hdiv : n / 256 < 256 ^ k := by
        apply Nat.div_lt_of_lt_mul
        rw [pow_succ] at h
        omega
      have hbyte : (UInt8.ofNat n).toNat = n % 256 := rfl
      simp only [toLE, ofLE]
      rw [ih _ hdiv, hbyte]
      omega

theorem ofLE_lt (bs : Bytes) : ofLE bs < 256 ^ bs.length := by
  induction bs with
  | nil => decide
  | cons b bs ih =>
      have hb := b.toNat_lt
      simp only [ofLE, List.length_cons, pow_succ]
      omega

theorem toLE_ofLE (bs : Bytes) : toLE bs.length (ofLE bs) = bs := by
  induction bs with
  | nil => rfl
  | cons b bs ih =>
      have hb := b.toNat_lt
      have hdiv : (b.toNat + 256 * ofLE bs) / 256 = ofLE bs := by omega
      have hbyte : UInt8.ofNat (b.toNat + 256 * ofLE bs) = b := by
        apply UInt8.toNat_inj.mp
        rw [UInt8.toNat_ofNat']
        omega
      rw [List.length_cons, toLE, ofLE, hdiv, hbyte, ih]

/-- Fixed-width little-endian forms determine the number. -/
theorem toLE_inj {k m n : ℕ} (hm : m < 256 ^ k) (hn : n < 256 ^ k)
    (h : toLE k m = toLE k n) : m = n := by
  rw [← ofLE_toLE k m hm, ← ofLE_toLE k n hn, h]

/-! ## Big endian -/

/-- The `k` big-endian bytes of `n`. -/
def toBE (k n : ℕ) : Bytes := (toLE k n).reverse

/-- The number a byte string stands for, most significant byte first. -/
def ofBE (bs : Bytes) : ℕ := ofLE bs.reverse

@[simp] theorem toBE_length (k n : ℕ) : (toBE k n).length = k := by
  simp [toBE]

theorem ofBE_toBE (k n : ℕ) (h : n < 256 ^ k) : ofBE (toBE k n) = n := by
  rw [ofBE, toBE, List.reverse_reverse, ofLE_toLE k n h]

theorem toBE_ofBE (bs : Bytes) : toBE bs.length (ofBE bs) = bs := by
  have h := toLE_ofLE bs.reverse
  rw [List.length_reverse] at h
  rw [toBE, ofBE, h, List.reverse_reverse]

theorem ofBE_lt (bs : Bytes) : ofBE bs < 256 ^ bs.length := by
  have h := ofLE_lt bs.reverse
  rwa [List.length_reverse] at h

theorem toBE_inj {k m n : ℕ} (hm : m < 256 ^ k) (hn : n < 256 ^ k)
    (h : toBE k m = toBE k n) : m = n := by
  rw [← ofBE_toBE k m hm, ← ofBE_toBE k n hn, h]

/-! ## Machine words -/

theorem u16_lt (v : UInt16) : v.toNat < 256 ^ 2 := v.toNat_lt

theorem u32_lt (v : UInt32) : v.toNat < 256 ^ 4 := v.toNat_lt

theorem u64_lt (v : UInt64) : v.toNat < 256 ^ 8 := v.toNat_lt

theorem u64_toLE_inj {a b : UInt64} (h : toLE 8 a.toNat = toLE 8 b.toNat) : a = b :=
  UInt64.toNat_inj.mp (toLE_inj (u64_lt a) (u64_lt b) h)

theorem u16_toBE_inj {a b : UInt16} (h : toBE 2 a.toNat = toBE 2 b.toNat) : a = b :=
  UInt16.toNat_inj.mp (toBE_inj (u16_lt a) (u16_lt b) h)

theorem u64_toBE_inj {a b : UInt64} (h : toBE 8 a.toNat = toBE 8 b.toNat) : a = b :=
  UInt64.toNat_inj.mp (toBE_inj (u64_lt a) (u64_lt b) h)

theorem u32_toLE_inj {a b : UInt32} (h : toLE 4 a.toNat = toLE 4 b.toNat) : a = b :=
  UInt32.toNat_inj.mp (toLE_inj (u32_lt a) (u32_lt b) h)

/-- `u32::checked_add(1)`. -/
def checkedAdd32 (a : UInt32) : Option UInt32 :=
  if a.toNat + 1 < 2 ^ 32 then some (a + 1) else none

/-- `u64::checked_add(1)`. -/
def checkedAdd64 (a : UInt64) : Option UInt64 :=
  if a.toNat + 1 < 2 ^ 64 then some (a + 1) else none

theorem toNat_succ32 {a : UInt32} (h : a.toNat + 1 < 2 ^ 32) : (a + 1).toNat = a.toNat + 1 := by
  rw [UInt32.toNat_add]
  exact Nat.mod_eq_of_lt h

theorem toNat_succ64 {a : UInt64} (h : a.toNat + 1 < 2 ^ 64) : (a + 1).toNat = a.toNat + 1 := by
  rw [UInt64.toNat_add]
  exact Nat.mod_eq_of_lt h

end ByteCodec
