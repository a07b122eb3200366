/-
  What the C# client uses of its runtime: `int` arithmetic, byte arrays and `BitConverter`.

  Arithmetic is unchecked: an `int` wraps modulo `2^32`. `newArray`, `arrayCopy`, `arrayGet` and
  `arraySet` throw as the runtime does, on a negative length and outside of an array.
  `BitConverter` follows the byte order of the host, a parameter.

  `arrayCopy_next`, `arraySet_next` are the rules for filling a new array from its front.
-/
import Mathlib.Algebra.Order.Ring.Int
import Llp.Lib.Bytes
import Llp.Lib.Method

namespace Llp.CSharp
open ByteCodec

/-- The exceptions that the client's code raises; its own come with their texts. -/
inductive Exception where
  | argument
  | indexOutOfRange
  | overflow
  | invalidData (message : String)
  | invalidOperation (message : String)
  | cryptographic (message : String)
  | other (message : String)
deriving DecidableEq

/-- An `int` result in an unchecked context. -/
def toInt (n : ℤ) : ℤ := n.bmod (2 ^ 32)

/-- A `long` result in an unchecked context. -/
def toLong (n : ℤ) : ℤ := n.bmod (2 ^ 64)

/-- An `int` in range is itself. -/
theorem toInt_eq {n : ℤ} (h : -2 ^ 31 ≤ n) (h' : n < 2 ^ 31) : toInt n = n := by
  unfold toInt
  rw [Int.bmod_eq_of_le] <;> omega

theorem toInt_lt (n : ℤ) : toInt n < 2 ^ 31 := by
  have hlt : n.bmod (2 ^ 32) < (2 ^ 32 + 1) / 2 := Int.bmod_lt (by decide)
  unfold toInt
  omega

/-- From `2^31` on it wraps. -/
theorem toInt_wrap {n : ℤ} (h : 2 ^ 31 ≤ n) (h' : n < 2 ^ 32) : toInt n = n - 2 ^ 32 := by
  have hmod : n % 4294967296 = n := Int.emod_eq_of_lt (by omega) (by omega)
  unfold toInt
  rw [Int.bmod_def]
  norm_num
  rw [hmod, if_neg (by omega)]

/-- A natural number out of range comes out lower by `2^32` at least. -/
theorem toInt_cases {n : ℤ} (h : 0 ≤ n) : toInt n = n ∨ toInt n ≤ n - 2 ^ 32 := by
  have hmod : n % 4294967296 = n ∨ n % 4294967296 ≤ n - 4294967296 := by omega
  unfold toInt
  rw [Int.bmod_def]
  norm_num
  split <;> omega

/-! ## Arrays -/

/-- `new byte[length]`. -/
def newArray (length : ℤ) : Fallible Exception Bytes :=
  if length < 0 then .error (.err .overflow) else .ok (List.replicate length.toNat 0)

/-- `Array.Copy`. -/
def arrayCopy (source : Bytes) (sourceIndex : ℤ) (destination : Bytes)
    (destinationIndex length : ℤ) : Fallible Exception Bytes :=
  if sourceIndex < 0 ∨ destinationIndex < 0 ∨ length < 0 ∨
      source.length < sourceIndex + length ∨ destination.length < destinationIndex + length then
    .error (.err .argument)
  else
    .ok (destination.take destinationIndex.toNat ++
      (source.drop sourceIndex.toNat).take length.toNat ++
      destination.drop (destinationIndex + length).toNat)

/-- `array[index]`. -/
def arrayGet (array : Bytes) (index : ℕ) : Fallible Exception UInt8 :=
  match array[index]? with
  | some value => .ok value
  | none => .error (.err .indexOutOfRange)

/-- `array[index] = value`. -/
def arraySet (array : Bytes) (index : ℕ) (value : UInt8) : Fallible Exception Bytes :=
  if index < array.length then .ok (array.set index value) else .error (.err .indexOutOfRange)

theorem arrayGet_eq_ok {array : Bytes} {index : ℕ} {value : UInt8}
    (h : arrayGet array index = .ok value) : array[index]? = some value := by
  unfold arrayGet at h
  split at h
  · next hget =>
      cases h
      exact hget
  · cases h

theorem newArray_natCast (n : ℕ) : newArray n = .ok (List.replicate n 0) := rfl

theorem newArray_eq_ok {length : ℤ} {array : Bytes} (h : newArray length = .ok array) :
    0 ≤ length ∧ array.length = length := by
  unfold newArray at h
  split at h
  · cases h
  · next hlen =>
      cases h
      rw [List.length_replicate]
      omega

/-- A copy that returned stayed inside both arrays, and kept the length of its destination. -/
theorem arrayCopy_eq_ok {source destination array : Bytes} {i j length : ℤ}
    (h : arrayCopy source i destination j length = .ok array) :
    0 ≤ i ∧ 0 ≤ j ∧ 0 ≤ length ∧ i + length ≤ source.length ∧
      j + length ≤ destination.length ∧ array.length = destination.length := by
  unfold arrayCopy at h
  split at h
  · cases h
  · next hrange =>
      cases h
      simp only [not_or, not_lt] at hrange
      obtain ⟨hi, hj, hlen, hsource, hdestination⟩ := hrange
      refine ⟨hi, hj, hlen, hsource, hdestination, ?_⟩
      simp only [List.length_append, List.length_take, List.length_drop]
      omega

/-- A copy of a whole array behind `front`, to the place that `old` takes up. -/
theorem arrayCopy_whole {source front old back : Bytes} {i length : ℤ} (hi : i = front.length)
    (hlength : length = source.length) (hold : source.length = old.length) :
    arrayCopy source 0 (front ++ old ++ back) i length = .ok (front ++ source ++ back) := by
  subst hi hlength
  have hrange : ¬ ((0 : ℤ) < 0 ∨ (front.length : ℤ) < 0 ∨ (source.length : ℤ) < 0 ∨
      (source.length : ℤ) < 0 + source.length ∨
      ((front ++ old ++ back).length : ℤ) < front.length + source.length) := by
    simp only [List.length_append]
    omega
  have hfront : (front ++ old ++ back).take front.length = front := by simp
  have hback : (front ++ old ++ back).drop (front.length + source.length) = back :=
    List.drop_left' (by simp [hold])
  have hend : ((front.length : ℤ) + source.length).toNat = front.length + source.length := by
    omega
  unfold arrayCopy
  rw [if_neg hrange, hend, Int.toNat_natCast, Int.toNat_natCast, hfront, hback, Int.toNat_zero,
    List.drop_zero, List.take_length]

/-- A copy out of an array, into one of the copy's size. -/
theorem arrayCopy_slice {source old : Bytes} {i length : ℤ} {j k : ℕ} (hi : i = j)
    (hlength : length = k) (hrange : j + k ≤ source.length) (hold : old.length = k) :
    arrayCopy source i old 0 length = .ok ((source.drop j).take k) := by
  subst hi hlength
  have hin : ¬ ((j : ℤ) < 0 ∨ (0 : ℤ) < 0 ∨ (k : ℤ) < 0 ∨ (source.length : ℤ) < j + k ∨
      (old.length : ℤ) < 0 + k) := by omega
  unfold arrayCopy
  rw [if_neg hin, zero_add, Int.toNat_natCast, Int.toNat_natCast, Int.toNat_zero,
    List.take_zero, List.nil_append, ← hold, List.drop_length, List.append_nil]

/-- Copy a whole array to the first place of a new one that is not written yet. -/
theorem arrayCopy_next {written source : Bytes} {i length : ℤ} {k : ℕ} (n : ℕ)
    (hi : i = written.length) (hlength : length = source.length) (hk : k = source.length + n) :
    arrayCopy source 0 (written ++ List.replicate k 0) i length =
      .ok (written ++ source ++ List.replicate n 0) := by
  rw [hk, List.replicate_add, ← List.append_assoc]
  exact arrayCopy_whole hi hlength List.length_replicate.symm

/-- Copy a whole array to the front of a new one. -/
theorem arrayCopy_first {source : Bytes} {length : ℤ} {k : ℕ} (n : ℕ)
    (hlength : length = source.length) (hk : k = source.length + n) :
    arrayCopy source 0 (List.replicate k 0) 0 length = .ok (source ++ List.replicate n 0) :=
  @arrayCopy_next [] source 0 length k n rfl hlength hk

/-- Set the first place that is not written yet. -/
theorem arraySet_next {written : Bytes} {i : ℕ} (n : ℕ) (hi : i = written.length) (value : UInt8) :
    arraySet (written ++ List.replicate (n + 1) 0) i value =
      .ok (written ++ [value] ++ List.replicate n 0) := by
  have hin : i < (written ++ List.replicate (n + 1) (0 : UInt8)).length := by
    rw [List.length_append, List.length_replicate]
    omega
  rw [arraySet, if_pos hin, hi, List.set_append_right _ _ (Nat.le_refl _), Nat.sub_self,
    List.replicate_succ, List.set_cons_zero, List.append_assoc]
  rfl

theorem arraySet_first (n : ℕ) (value : UInt8) :
    arraySet (List.replicate (n + 1) 0) 0 value = .ok ([value] ++ List.replicate n 0) :=
  @arraySet_next [] 0 n rfl value

/-! ## `BitConverter` -/

section BitConverter

variable (isLittleEndian : Bool)

/-- `BitConverter.GetBytes` of a `ushort`. -/
def getBytes16 (value : UInt16) : Bytes :=
  if isLittleEndian then toLE 2 value.toNat else toBE 2 value.toNat

/-- `BitConverter.GetBytes` of a `uint`. -/
def getBytes32 (value : UInt32) : Bytes :=
  if isLittleEndian then toLE 4 value.toNat else toBE 4 value.toNat

/-- `BitConverter.GetBytes` of a `ulong`. -/
def getBytes64 (value : UInt64) : Bytes :=
  if isLittleEndian then toLE 8 value.toNat else toBE 8 value.toNat

/-- `BitConverter.ToUInt32`. -/
def toUInt32 (bytes : Bytes) : UInt32 :=
  UInt32.ofNat (if isLittleEndian then ofLE bytes else ofBE bytes)

/-- `BitConverter.ToUInt64`. -/
def toUInt64 (bytes : Bytes) : UInt64 :=
  UInt64.ofNat (if isLittleEndian then ofLE bytes else ofBE bytes)

/-- `if (BitConverter.IsLittleEndian) Array.Reverse(bytes);` -/
def reverseIfLittleEndian (bytes : Bytes) : Bytes :=
  if isLittleEndian then bytes.reverse else bytes

@[simp] theorem getBytes32_length (value : UInt32) :
    (getBytes32 isLittleEndian value).length = 4 := by
  unfold getBytes32
  split <;> simp

@[simp] theorem getBytes64_length (value : UInt64) :
    (getBytes64 isLittleEndian value).length = 8 := by
  unfold getBytes64
  split <;> simp

/-- On every host the reversal gives the big-endian form. -/
theorem reverse_getBytes32 (value : UInt32) :
    reverseIfLittleEndian isLittleEndian (getBytes32 isLittleEndian value) =
      toBE 4 value.toNat := by
  cases isLittleEndian <;> rfl

theorem reverse_getBytes16 (value : UInt16) :
    reverseIfLittleEndian isLittleEndian (getBytes16 isLittleEndian value) =
      toBE 2 value.toNat := by
  cases isLittleEndian <;> rfl

theorem reverse_getBytes64 (value : UInt64) :
    reverseIfLittleEndian isLittleEndian (getBytes64 isLittleEndian value) =
      toBE 8 value.toNat := by
  cases isLittleEndian <;> rfl

/-- On every host a word is read as big-endian after the reversal. -/
theorem toUInt32_reverse (bytes : Bytes) :
    toUInt32 isLittleEndian (reverseIfLittleEndian isLittleEndian bytes) =
      UInt32.ofNat (ofBE bytes) := by
  cases isLittleEndian <;> rfl

theorem toUInt64_reverse (bytes : Bytes) :
    toUInt64 isLittleEndian (reverseIfLittleEndian isLittleEndian bytes) =
      UInt64.ofNat (ofBE bytes) := by
  cases isLittleEndian <;> rfl

end BitConverter

end Llp.CSharp
