/-
  `ReplayWindow` of `llp-core/session.rs`.

  The window is a deque of bits, newest at the back, at most `windowSize` long; it starts
  empty, grows with the sequence numbers and is cleared by a jump of `windowSize` or more.

  `Represents` ties the bits to a set of accepted numbers: after the first number, the bits
  from the back are the numbers from the highest one down to the last restart, at most
  `windowSize` of them, each set when the number was accepted. Under it `check_and_update`
  is a step of the restarting window (`checkAndUpdate_simulates`), hence:

  * `check_and_update_eq_reference_iff`: over a list of sequence numbers the answers are those
    of the fixed-width window exactly when no number falls in the gap below a restart.
-/
import Llp.Lib.Bytes
import Llp.Lib.SlidingWindow

namespace Llp
open SlidingWindow

/-- `ReplayWindow`: highest sequence number, bits (front first), window size. -/
structure ReplayWindow where
  highestSeq : UInt32
  window : List Bool
  windowSize : ℕ
deriving DecidableEq, Repr

namespace ReplayWindow

/-- `ReplayWindow::new`. -/
def new (windowSize : ℕ) : ReplayWindow := ⟨0, [], windowSize⟩

/-- `push_back`, then `pop_front` when the window is longer than its size. -/
def push (windowSize : ℕ) (window : List Bool) (bit : Bool) : List Bool :=
  let window := window ++ [bit]
  if window.length > windowSize then window.tail else window

/-- The loop over the skipped packets: `n` bits that are not set. -/
def skip (windowSize : ℕ) : ℕ → List Bool → List Bool
  | 0, window => window
  | n + 1, window => skip windowSize n (push windowSize window false)

/-- `check_and_update`: is the packet new? -/
def checkAndUpdate (self : ReplayWindow) (seq : UInt32) : Bool × ReplayWindow :=
  if self.window.isEmpty then
    (true, { self with highestSeq := seq, window := self.window ++ [true] })
  else if seq > self.highestSeq then
    let diff := (seq - self.highestSeq).toNat
    let window :=
      if diff ≥ self.windowSize then [true]
      else push self.windowSize (skip self.windowSize (diff - 1) self.window) true
    (true, { self with highestSeq := seq, window := window })
  else
    let diff := (self.highestSeq - seq).toNat
    if h : diff ≥ self.window.length then (false, self)
    else
      -- the guard is what keeps the index in range
      let index : Fin self.window.length := ⟨self.window.length - 1 - diff, by omega⟩
      if self.window.get index then (false, self)
      else (true, { self with window := self.window.set index true })

/-- The number is new to the window: there has been none, it is above the highest one, or its
    bit, counted from the back, is there and not set. -/
def Admits (self : ReplayWindow) (seq : UInt32) : Prop :=
  self.window = [] ∨ self.highestSeq < seq ∨
    self.window.reverse[(self.highestSeq - seq).toNat]? = some false

instance (self : ReplayWindow) (seq : UInt32) : Decidable (self.Admits seq) :=
  inferInstanceAs (Decidable (_ ∨ _))

/-- The window as a machine over sequence numbers. -/
def machine : Machine ReplayWindow UInt32 Bool := ⟨checkAndUpdate⟩

/-- It lets a number through exactly when the number is new to it. Then it is another window;
    otherwise it stays the same. -/
theorem checkAndUpdate_cases (self : ReplayWindow) (seq : UInt32) :
    (self.Admits seq ∧ (self.checkAndUpdate seq).1 = true ∧
      (self.checkAndUpdate seq).2 ≠ self) ∨
      (¬ self.Admits seq ∧ self.checkAndUpdate seq = (false, self)) := by
  unfold checkAndUpdate Admits
  by_cases hempty : self.window = []
  · rw [if_pos (List.isEmpty_iff.mpr hempty)]
    refine Or.inl ⟨Or.inl hempty, rfl, fun h => ?_⟩
    have hwindow := congrArg (·.window.length) h
    simp at hwindow
  · rw [if_neg (mt List.isEmpty_iff.mp hempty)]
    by_cases hahead : self.highestSeq < seq
    · rw [if_pos hahead]
      refine Or.inl ⟨Or.inr (Or.inl hahead), rfl, fun h => ?_⟩
      have hseq : seq = self.highestSeq := congrArg ReplayWindow.highestSeq h
      exact UInt32.lt_irrefl _ (hseq ▸ hahead)
    · rw [if_neg hahead]
      simp only
      by_cases hold : (self.highestSeq - seq).toNat ≥ self.window.length
      · rw [dif_pos hold, List.getElem?_eq_none (by simpa using hold)]
        exact Or.inr ⟨by simp [hempty, hahead], rfl⟩
      · rw [dif_neg hold, List.getElem?_reverse (Nat.lt_of_not_le hold)]
        have hlt : self.window.length - 1 - (self.highestSeq - seq).toNat < self.window.length := by
          omega
        rw [List.getElem?_eq_getElem hlt]
        cases hbit : self.window[self.window.length - 1 - (self.highestSeq - seq).toNat] with
        | true =>
            refine Or.inr ⟨by simp [hempty, hahead], ?_⟩
            rw [if_pos (by simpa using hbit)]
        | false =>
            refine Or.inl ⟨Or.inr (Or.inr rfl), ?_⟩
            rw [if_neg (by simp [hbit])]
            refine ⟨rfl, fun h => ?_⟩
            have hset := congrArg (·.window[self.window.length - 1 -
              (self.highestSeq - seq).toNat]?) h
            simp [hlt, hbit] at hset

theorem checkAndUpdate_eq_true {self : ReplayWindow} {seq : UInt32} :
    (self.checkAndUpdate seq).1 = true ↔ self.Admits seq := by
  rcases self.checkAndUpdate_cases seq with ⟨hadmits, htrue, -⟩ | ⟨hno, hsame⟩
  · exact iff_of_true htrue hadmits
  · rw [hsame]
    exact iff_of_false Bool.false_ne_true hno

/-! ## Pushing bits, seen from the back -/

theorem take_append_take {m n : ℕ} (a b : List Bool) (h : m ≤ n) :
    (a ++ b.take n).take m = (a ++ b).take m := by
  rw [List.take_append, List.take_append, List.take_take, Nat.min_eq_left (by omega)]

theorem push_reverse (w : ℕ) (window : List Bool) (bit : Bool) (h : window.length ≤ w)
    (hw : 1 ≤ w) : (push w window bit).reverse = (bit :: window.reverse).take w := by
  unfold push
  simp only [List.length_append, List.length_singleton]
  split
  · next hlong =>
      have hlen : window.length = w := by omega
      cases window with
      | nil => simp at hlen; omega
      | cons b bs =>
          have hbs : bs.length + 1 = w := by simpa using hlen
          have : (bit :: (bs.reverse ++ [b])).take w = bit :: bs.reverse := by
            rw [← List.cons_append]
            exact List.take_left' (by simp [hbs])
          simp [this]
  · next hshort =>
      rw [List.take_of_length_le (by simp; omega)]
      simp

theorem push_length (w : ℕ) (window : List Bool) (bit : Bool) (h : window.length ≤ w)
    (hw : 1 ≤ w) : (push w window bit).length ≤ w := by
  have := congrArg List.length (push_reverse w window bit h hw)
  simp only [List.length_reverse, List.length_take] at this
  omega

theorem skip_reverse (w n : ℕ) (window : List Bool) (h : window.length ≤ w) (hw : 1 ≤ w) :
    (skip w n window).reverse = (List.replicate n false ++ window.reverse).take w ∧
      (skip w n window).length ≤ w := by
  induction n generalizing window with
  | zero =>
      simp only [skip, List.replicate_zero, List.nil_append]
      exact ⟨(List.take_of_length_le (by simpa using h)).symm, h⟩
  | succ n ih =>
      obtain ⟨hrev, hlen⟩ := ih (push w window false) (push_length w window false h hw)
      refine ⟨?_, hlen⟩
      rw [skip, hrev, push_reverse w window false h hw, List.replicate_succ', List.append_assoc,
        List.singleton_append, take_append_take _ _ (Nat.le_refl w)]

/-! ## The bits and the accepted numbers -/

/-- The numbers from `top` down to `base`, as bits: which of them are in the set. -/
def bits (base top : ℕ) (acc : Finset ℕ) : List Bool :=
  (List.range (top + 1 - base)).map fun k => decide (top - k ∈ acc)

@[simp] theorem bits_length (base top : ℕ) (acc : Finset ℕ) :
    (bits base top acc).length = top + 1 - base := by
  simp [bits]

theorem bits_getElem (base top : ℕ) (acc : Finset ℕ) (k : ℕ)
    (h : k < (bits base top acc).length) : (bits base top acc)[k] = decide (top - k ∈ acc) := by
  simp [bits]

/-- A new highest number `q` puts a set bit in front, after one unset bit for each number
    between. -/
theorem bits_ahead {base q : ℕ} {acc : Finset ℕ} (hb : base ≤ top acc) (hq : top acc < q) :
    bits base q (insert q acc) =
      true :: (List.replicate (q - top acc - 1) false ++ bits base (top acc) acc) := by
  apply List.ext_getElem
  · simp
    omega
  · intro k hk hk'
    rw [bits_getElem]
    rcases Nat.eq_zero_or_pos k with rfl | hpos
    · simp
    · obtain ⟨j, rfl⟩ : ∃ j, k = j + 1 := ⟨k - 1, by omega⟩
      have hne : q - (j + 1) ≠ q := by omega
      simp only [List.getElem_cons_succ, List.getElem_append, List.length_replicate,
        List.getElem_replicate, Finset.mem_insert, hne, false_or]
      split
      · next hj =>
          have : q - (j + 1) ∉ acc := notMem_of_top_lt (by omega)
          simp [this]
      · next hj =>
          rw [bits_getElem]
          have : top acc - (j - (q - top acc - 1)) = q - (j + 1) := by
            simp at hk
            omega
          rw [this]

/-- A number between the base and the highest one sets its bit. -/
theorem bits_set {base q : ℕ} {acc : Finset ℕ} (hb : base ≤ q) (hq : q ≤ top acc) :
    bits base (top acc) (insert q acc) = (bits base (top acc) acc).set (top acc - q) true := by
  apply List.ext_getElem
  · simp
  · intro k hk hk'
    rw [List.getElem_set, bits_getElem, bits_getElem]
    have hkt : k < top acc + 1 - base := by simpa using hk
    split
    · next heq =>
        have : top acc - k = q := by omega
        simp [this]
    · next hne =>
        have : top acc - k ≠ q := by omega
        simp [this]

/-- The window holds the accepted numbers of `s`. -/
structure Represents (w : ℕ) (r : ReplayWindow) (s : Restarting) : Prop where
  size : r.windowSize = w
  empty : r.window = [] ↔ s.acc = ∅
  highest : s.acc ≠ ∅ → r.highestSeq.toNat = top s.acc
  base : s.acc ≠ ∅ → s.base ≤ top s.acc
  window : s.acc ≠ ∅ → r.window.reverse = (bits s.base (top s.acc) s.acc).take w

theorem represents_new (w : ℕ) : Represents w (new w) Restarting.init where
  size := rfl
  empty := by simp [new, Restarting.init]
  highest h := absurd rfl h
  base h := absurd rfl h
  window h := absurd rfl h

section Step

variable {w : ℕ} {r : ReplayWindow} {s : Restarting}

theorem window_length (h : Represents w r s) (hne : s.acc ≠ ∅) :
    r.window.length = min w (top s.acc + 1 - s.base) := by
  have := congrArg List.length (h.window hne)
  simpa using this

/-- The bit `diff` from the back tells whether that number was accepted. -/
theorem window_get (h : Represents w r s) (hne : s.acc ≠ ∅) {diff : ℕ}
    (hd : diff < r.window.length) (hi : r.window.length - 1 - diff < r.window.length) :
    r.window.get ⟨r.window.length - 1 - diff, hi⟩ = decide (top s.acc - diff ∈ s.acc) := by
  have hrev : r.window.reverse[diff]? = some (decide (top s.acc - diff ∈ s.acc)) := by
    have hlen := window_length h hne
    rw [h.window hne, List.getElem?_take, if_pos (by omega),
      List.getElem?_eq_getElem (by rw [bits_length]; omega), bits_getElem]
  rw [List.getElem?_reverse hd, List.getElem?_eq_getElem hi] at hrev
  simpa using hrev

/-- A number that is accepted below the highest one sets its bit. -/
theorem window_set (h : Represents w r s) (hne : s.acc ≠ ∅) {q : ℕ} (hb : s.base ≤ q)
    (hq : q ≤ top s.acc) (hd : top s.acc - q < r.window.length) :
    (r.window.set (r.window.length - 1 - (top s.acc - q)) true).reverse =
      (bits s.base (top s.acc) (insert q s.acc)).take w := by
  rw [bits_set hb hq, List.take_set, ← h.window hne]
  apply List.ext_getElem
  · simp
  · intro k hk hk'
    simp only [List.length_reverse, List.length_set] at hk
    simp only [List.getElem_reverse, List.getElem_set, List.length_set]
    congr 1
    simp only [eq_iff_iff]
    omega

/-- One call answers as one step of the restarting window, and leaves a window that holds
    the numbers accepted after it. -/
def Simulates (w : ℕ) (r : ReplayWindow) (s : Restarting) (seq : UInt32) : Prop :=
  (r.checkAndUpdate seq).1 = ((restarting w).step s seq.toNat).1 ∧
    Represents w (r.checkAndUpdate seq).2 ((restarting w).step s seq.toNat).2

/-- The first number. -/
theorem simulates_first (hw : 1 ≤ w) (h : Represents w r s) (he : s.acc = ∅) (seq : UInt32) :
    Simulates w r s seq := by
  obtain ⟨v, rfl⟩ : ∃ v, w = v + 1 := ⟨w - 1, by omega⟩
  have hnil := h.empty.mpr he
  unfold Simulates
  rw [step_first he]
  simp only [checkAndUpdate, hnil, List.isEmpty_nil, if_true]
  refine ⟨trivial, h.size, by simp, fun _ => by simp, fun _ => by simp, fun _ => ?_⟩
  simp [bits]

/-- A number ahead of the highest one: a full or a partial shift. -/
theorem simulates_ahead (hw : 1 ≤ w) (h : Represents w r s) (hne : s.acc ≠ ∅) {seq : UInt32}
    (hgt : seq > r.highestSeq) : Simulates w r s seq := by
  obtain ⟨v, rfl⟩ : ∃ v, w = v + 1 := ⟨w - 1, by omega⟩
  have hempty : r.window.isEmpty = false := by
    simpa using fun hn => hne (h.empty.mp hn)
  have hhigh := h.highest hne
  have hbase := h.base hne
  have hlen := window_length h hne
  have hlt : top s.acc < seq.toNat := by
    rw [← hhigh]
    exact UInt32.lt_iff_toNat_lt.mp hgt
  have hdiff : (seq - r.highestSeq).toNat = seq.toNat - top s.acc := by
    rw [UInt32.toNat_sub_of_le _ _ (UInt32.le_of_lt hgt), hhigh]
  have htop : top (insert seq.toNat s.acc) = seq.toNat := by
    rw [top_insert]
    omega
  -- the bits after a partial shift: the skipped numbers, then the new one
  obtain ⟨hrev, hle⟩ := skip_reverse (v + 1) (seq.toNat - top s.acc - 1) r.window (by omega) hw
  have hpush := push_reverse (v + 1) _ true hle hw
  unfold Simulates
  simp only [checkAndUpdate, hempty, Bool.false_eq_true, if_false]
  rw [step_ahead hne hlt, if_pos hgt, hdiff, h.size]
  refine ⟨rfl, rfl, ?_, fun _ => htop.symm, fun _ => ?_, fun _ => ?_⟩
  · simp only [Finset.insert_ne_empty, iff_false]
    split
    · simp
    · intro hn
      have := congrArg List.reverse hn
      rw [hpush] at this
      simp at this
  · simp only [htop]
    split <;> omega
  · simp only [htop]
    split
    · simp [bits]
    · rw [hpush, hrev, h.window hne, bits_ahead hbase hlt, List.take_succ_cons,
        List.take_succ_cons, List.take_take, Nat.min_eq_left (by omega),
        take_append_take _ _ (by omega)]

/-- A number at or below the highest one: its bit is looked up. -/
theorem simulates_recent (h : Represents w r s) (hne : s.acc ≠ ∅) {seq : UInt32}
    (hgt : ¬ seq > r.highestSeq) : Simulates w r s seq := by
  have hnil : r.window ≠ [] := fun hn => hne (h.empty.mp hn)
  have hempty : r.window.isEmpty = false := by simpa using hnil
  have hhigh := h.highest hne
  have hbase := h.base hne
  have hlen := window_length h hne
  have hle : seq.toNat ≤ top s.acc := by
    rw [← hhigh]
    exact UInt32.le_iff_toNat_le.mp (UInt32.not_lt.mp hgt)
  have hdiff : (r.highestSeq - seq).toNat = top s.acc - seq.toNat := by
    rw [UInt32.toNat_sub_of_le _ _ (UInt32.not_lt.mp hgt), hhigh]
  unfold Simulates
  simp only [checkAndUpdate, hempty, Bool.false_eq_true, if_false, if_neg hgt, hdiff]
  split
  · next hold =>
      rw [step_refused hne hle (by omega)]
      exact ⟨rfl, h⟩
  · next hin =>
      have hbit := window_get h hne (show top s.acc - seq.toNat < r.window.length by omega)
        (by omega)
      have hback : top s.acc - (top s.acc - seq.toNat) = seq.toNat := by omega
      rw [hback] at hbit
      simp only [hbit, decide_eq_true_eq]
      split
      · next hdup =>
          rw [step_refused hne hle (fun hr => hr.1 hdup)]
          exact ⟨rfl, h⟩
      · next hfresh =>
          have hmax : max seq.toNat (top s.acc) = top s.acc := by omega
          rw [step_recent hne hle ⟨hfresh, by omega, by omega⟩]
          refine ⟨rfl, h.size, ?_, fun _ => ?_, fun _ => ?_, fun _ => ?_⟩
          · simpa using hnil
          · rw [top_insert, hmax, hhigh]
          · simp only [top_insert, hmax, hbase]
          · rw [top_insert, hmax]
            exact window_set h hne (by omega) hle (by omega)

theorem checkAndUpdate_simulates (hw : 1 ≤ w) (h : Represents w r s) (seq : UInt32) :
    Simulates w r s seq := by
  by_cases he : s.acc = ∅
  · exact simulates_first hw h he seq
  · by_cases hgt : seq > r.highestSeq
    · exact simulates_ahead hw h he hgt
    · exact simulates_recent h he hgt

end Step

/-- Over a run, a window answers as the restarting window that it represents, and goes on
    representing it. -/
theorem run_simulates {w : ℕ} (hw : 1 ≤ w) {r : ReplayWindow} {s : Restarting}
    (h : Represents w r s) (xs : List UInt32) :
    machine.outputs r xs = (restarting w).outputs s (xs.map UInt32.toNat) ∧
      Represents w (machine.final r xs) ((restarting w).final s (xs.map UInt32.toNat)) := by
  rw [← Machine.outputs_comap, ← Machine.final_comap]
  exact Machine.outputs_eq_of_sim machine ((restarting w).comap UInt32.toNat) (Represents w)
    (fun _ _ => True) (fun _ _ seq hR _ => checkAndUpdate_simulates hw hR seq) _ _ xs h
    (Machine.always_true _ _ _)

theorem machine_outputs {w : ℕ} (hw : 1 ≤ w) (xs : List UInt32) :
    machine.outputs (new w) xs =
      (restarting w).outputs Restarting.init (xs.map UInt32.toNat) :=
  (run_simulates hw (represents_new w) xs).1

/-! ## Against the fixed-width window -/

/-- **The window answers as the fixed-width window does exactly off the gap.** Over a list of
    sequence numbers, the answers of a fresh window of size `w` are those of the reference
    window exactly when no number is new, below the last restart (the first number, or the
    last jump of `w` or more) and yet less than `w` below the highest number. -/
theorem check_and_update_eq_reference_iff {w : ℕ} (hw : 1 ≤ w) (xs : List UInt32) :
    machine.outputs (new w) xs = (reference w).outputs ∅ (xs.map UInt32.toNat) ↔
      ∀ pre q post, xs = pre ++ q :: post → ¬ InGap w (pre.map UInt32.toNat) q.toNat := by
  rw [machine_outputs hw, restarting_eq_reference_iff]
  exact forall_split_map

/-- At the real size, on numbers that arrive swapped behind the first one. -/
theorem check_and_update_eq_reference_iff_256 :
    machine.outputs (new 256) [7, 9, 8] =
        (reference 256).outputs ∅ (([7, 9, 8] : List UInt32).map UInt32.toNat) ↔
      ∀ pre q post, ([7, 9, 8] : List UInt32) = pre ++ q :: post →
        ¬ InGap 256 (pre.map UInt32.toNat) q.toNat :=
  check_and_update_eq_reference_iff (by decide) [7, 9, 8]

/-- Packet 3 after packet 5: two below the highest number, never accepted, and refused. -/
theorem check_and_update_refuses_reordered :
    machine.outputs (new 256) [5, 3] = [true, false] ∧
      (reference 256).outputs ∅ (([5, 3] : List UInt32).map UInt32.toNat) = [true, true] := by
  decide

end ReplayWindow

end Llp
