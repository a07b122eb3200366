/-
  `ReplayWindow` over runs of `check_and_update`.

  `Holds w r acc` is what the deque says about the accepted numbers `acc`: between one and `w`
  bits, none of them for a number below 0, and each bit, counted from the back, telling whether
  that number below the highest one was accepted.

  * `window_invariant`: after every non-empty run the deque holds the accepted numbers, no
    subtraction or index of the next call goes wrong, its lower edge does not go down, and
    what it refuses it refuses for good.
  * `full_shift_eq_partial_iff`: after a jump of `w` or more, the cleared deque and the deque
    that was shifted bit by bit answer alike exactly as long as no number below the jump
    arrives within `w` of the highest one.
-/
import Llp.Core.ReplayWindow

namespace Llp
open SlidingWindow

namespace ReplayWindow

/-! ## Checked arithmetic -/

/-- A `u32` subtraction that must not underflow. -/
def sub32 (a b : UInt32) : Option UInt32 := if b ≤ a then some (a - b) else none

/-- A `usize` subtraction that must not underflow. -/
def subUsize (a b : ℕ) : Option ℕ := if b ≤ a then some (a - b) else none

/-- `check_and_update` with every subtraction and every index checked; `none` where the code
    would panic. -/
def checkAndUpdateChecked (self : ReplayWindow) (seq : UInt32) :
    Option (Bool × ReplayWindow) := do
  if self.window.isEmpty then
    return (true, { self with highestSeq := seq, window := self.window ++ [true] })
  else if seq > self.highestSeq then
    let diff := (← sub32 seq self.highestSeq).toNat
    if diff ≥ self.windowSize then
      return (true, { self with highestSeq := seq, window := [true] })
    else
      let skipped ← subUsize diff 1
      let window := push self.windowSize (skip self.windowSize skipped self.window) true
      return (true, { self with highestSeq := seq, window := window })
  else
    let diff := (← sub32 self.highestSeq seq).toNat
    if diff ≥ self.window.length then
      return (false, self)
    else
      let index ← subUsize (← subUsize self.window.length 1) diff
      if ← self.window[index]? then
        return (false, self)
      else
        return (true, { self with window := self.window.set index true })

/-- No call panics, in whatever state. -/
theorem checkAndUpdateChecked_eq (self : ReplayWindow) (seq : UInt32) :
    self.checkAndUpdateChecked seq = some (self.checkAndUpdate seq) := by
  unfold checkAndUpdateChecked checkAndUpdate
  split
  · rfl
  · split
    · next hgt =>
        have hsub : sub32 seq self.highestSeq = some (seq - self.highestSeq) :=
          if_pos (UInt32.le_of_lt hgt)
        have hpos : 1 ≤ (seq - self.highestSeq).toNat := by
          rw [UInt32.toNat_sub_of_le _ _ (UInt32.le_of_lt hgt)]
          have := UInt32.lt_iff_toNat_lt.mp hgt
          omega
        have hone : subUsize (seq - self.highestSeq).toNat 1 =
          some ((seq - self.highestSeq).toNat - 1) := if_pos hpos
        simp only [hsub, hone, Option.bind_eq_bind, Option.bind_some]
        split <;> rfl
    · next hle =>
        have hsub : sub32 self.highestSeq seq = some (self.highestSeq - seq) :=
          if_pos (UInt32.not_lt.mp hle)
        simp only [hsub, Option.bind_eq_bind, Option.bind_some]
        split
        · rfl
        · next hin =>
            have hlast : subUsize self.window.length 1 = some (self.window.length - 1) :=
              if_pos (by omega)
            have hindex : subUsize (self.window.length - 1) (self.highestSeq - seq).toNat =
              some (self.window.length - 1 - (self.highestSeq - seq).toNat) := if_pos (by omega)
            have hlt : self.window.length - 1 - (self.highestSeq - seq).toNat <
              self.window.length := by omega
            simp only [hlast, hindex, Option.bind_some, List.getElem?_eq_getElem hlt,
              List.get_eq_getElem]
            split <;> rfl

/-! ## What the deque holds -/

/-- The deque of `r` describes the accepted numbers. -/
structure Describes (w : ℕ) (r : ReplayWindow) (accepted : List UInt32) : Prop where
  started : 1 ≤ r.window.length
  size : r.window.length ≤ w
  edge : r.window.length ≤ r.highestSeq.toNat + 1
  highest : r.highestSeq ∈ accepted ∧ ∀ q ∈ accepted, q ≤ r.highestSeq
  bits : ∀ k < r.window.length, r.window[r.window.length - 1 - k]? =
    some (decide (r.highestSeq.toNat - k ∈ accepted.map UInt32.toNat))

/-- `highest_seq - window.len()`, over the integers: the first number below the deque. -/
def lowerEdge (r : ReplayWindow) : ℤ := (r.highestSeq.toNat : ℤ) - r.window.length

section Represented

variable {w : ℕ} {r : ReplayWindow} {s : Restarting}

theorem describes_of_represents (hw : 1 ≤ w) (h : Represents w r s) (hne : s.acc ≠ ∅)
    {accepted : List UInt32} (hacc : ∀ k, k ∈ s.acc ↔ k ∈ accepted.map UInt32.toNat) :
    Describes w r accepted := by
  have hlen := window_length h hne
  have hhigh := h.highest hne
  have hbase := h.base hne
  refine ⟨by omega, by omega, by omega, ⟨?_, fun q hq => ?_⟩, fun k hk => ?_⟩
  · obtain ⟨q, hq, hqtop⟩ := List.mem_map.mp ((hacc _).mp (top_mem hne))
    have : q = r.highestSeq := UInt32.toNat_inj.mp (hqtop.trans hhigh.symm)
    rw [← this]
    exact hq
  · rw [UInt32.le_iff_toNat_le, hhigh]
    exact le_top ((hacc _).mpr (List.mem_map_of_mem hq))
  · have hlt : r.window.length - 1 - k < r.window.length := by omega
    have hget := window_get h hne hk hlt
    rw [List.get_eq_getElem] at hget
    rw [List.getElem?_eq_getElem hlt, hget, hhigh]
    simp only [hacc]

/-- The lower edge is the higher one of two numbers that never go down: the one below the base
    and the one `w` below the highest number. -/
theorem lowerEdge_eq (h : Represents w r s) (hne : s.acc ≠ ∅) :
    lowerEdge r = max ((s.base : ℤ) - 1) ((top s.acc : ℤ) - w) := by
  have hlen := window_length h hne
  have hbase := h.base hne
  rw [lowerEdge, h.highest hne, hlen]
  omega

theorem lowerEdge_mono (hw : 1 ≤ w) (h : Represents w r s) (hne : s.acc ≠ ∅) (seq : UInt32) :
    lowerEdge r ≤ lowerEdge (r.checkAndUpdate seq).2 := by
  have hbase := (restarting_base w s seq.toNat hne (h.base hne)).1
  have htop := restarting_top w s seq.toNat
  have hne' : ((restarting w).step s seq.toNat).2.acc ≠ ∅ := by
    obtain ⟨k, hk⟩ := Finset.nonempty_iff_ne_empty.mpr hne
    exact Finset.ne_empty_of_mem (restarting_keeps w s seq.toNat k hk)
  rw [lowerEdge_eq h hne, lowerEdge_eq (checkAndUpdate_simulates hw h seq).2 hne']
  omega

/-- A number that a window refuses is refused after every later run. -/
theorem refused_forever (hw : 1 ≤ w) (h : Represents w r s) {q : UInt32}
    (hno : (r.checkAndUpdate q).1 = false) (ys : List UInt32) :
    ((machine.final r ys).checkAndUpdate q).1 = false := by
  rw [(checkAndUpdate_simulates hw h q).1] at hno
  have hrefused := (refused_of_step h.base hno).final (ys.map UInt32.toNat)
  rw [(checkAndUpdate_simulates hw (run_simulates hw h ys).2 q).1, hrefused.step_eq]

end Represented

theorem acc_ne_empty (w : ℕ) (xs : List UInt32) (hxs : xs ≠ []) :
    ((restarting w).final Restarting.init (xs.map UInt32.toNat)).acc ≠ ∅ :=
  fun he => hxs (List.map_eq_nil_iff.mp ((holds_final w _).empty he))

/-- The numbers of the restarting window are those that the run accepted. -/
theorem mem_acc_iff_accepted {w : ℕ} (hw : 1 ≤ w) (xs : List UInt32) (k : ℕ) :
    k ∈ ((restarting w).final Restarting.init (xs.map UInt32.toNat)).acc ↔
      k ∈ (machine.accepted id (new w) xs).map UInt32.toNat := by
  have hout : machine.outputs (new w) xs =
      ((restarting w).comap UInt32.toNat).outputs Restarting.init xs := by
    rw [machine_outputs hw, Machine.outputs_comap]
  rw [mem_acc_final, machine.accepted_eq_of_outputs _ id _ _ xs hout, Machine.accepted_comap]
  simp [Restarting.init]

theorem describes_final {w : ℕ} (hw : 1 ≤ w) (xs : List UInt32) (hxs : xs ≠ []) :
    Describes w (machine.final (new w) xs) (machine.accepted id (new w) xs) :=
  describes_of_represents hw (run_simulates hw (represents_new w) xs).2 (acc_ne_empty w xs hxs)
    (mem_acc_iff_accepted hw xs)

/-- **The deque holds the accepted numbers.** After every non-empty run on a fresh window of
    size `w`, the deque describes the numbers the run accepted; the next call does not
    panic and does not move the lower edge down; and a number the run refused is refused
    again. -/
theorem window_invariant {w : ℕ} (hw : 1 ≤ w) (xs : List UInt32) (hxs : xs ≠ []) :
    Describes w (machine.final (new w) xs) (machine.accepted id (new w) xs) ∧
      (∀ seq, (machine.final (new w) xs).checkAndUpdateChecked seq =
          some ((machine.final (new w) xs).checkAndUpdate seq) ∧
        lowerEdge (machine.final (new w) xs) ≤
          lowerEdge ((machine.final (new w) xs).checkAndUpdate seq).2) ∧
      ∀ pre q post, xs = pre ++ q :: post →
        ((machine.final (new w) pre).checkAndUpdate q).1 = false →
          ((machine.final (new w) xs).checkAndUpdate q).1 = false := by
  have hR := (run_simulates hw (represents_new w) xs).2
  refine ⟨describes_final hw xs hxs, fun seq => ⟨?_, ?_⟩, ?_⟩
  · exact checkAndUpdateChecked_eq _ seq
  · exact lowerEdge_mono hw hR (acc_ne_empty w xs hxs) seq
  · rintro pre q post rfl hno
    rw [Machine.final_append]
    exact refused_forever hw (run_simulates hw (represents_new w) pre).2 hno (q :: post)

/-- At the real size, with a number that arrives late and one that arrives twice. -/
theorem window_invariant_sample :
    Describes 256 (machine.final (new 256) [7, 9, 8, 9])
        (machine.accepted id (new 256) [7, 9, 8, 9]) ∧
      (∀ seq, (machine.final (new 256) [7, 9, 8, 9]).checkAndUpdateChecked seq =
          some ((machine.final (new 256) [7, 9, 8, 9]).checkAndUpdate seq) ∧
        lowerEdge (machine.final (new 256) [7, 9, 8, 9]) ≤
          lowerEdge ((machine.final (new 256) [7, 9, 8, 9]).checkAndUpdate seq).2) ∧
      ∀ pre q post, [7, 9, 8, 9] = pre ++ q :: post →
        ((machine.final (new 256) pre).checkAndUpdate q).1 = false →
          ((machine.final (new 256) [7, 9, 8, 9]).checkAndUpdate q).1 = false :=
  window_invariant (by decide) [7, 9, 8, 9] (by decide)

/-! ## The two ways to shift -/

/-- The clear-and-push branch. -/
def fullShift (self : ReplayWindow) (seq : UInt32) : ReplayWindow :=
  { self with highestSeq := seq, window := [true] }

/-- The loop of the other branch: an unset bit for each number between, and a set one. -/
def partialShift (self : ReplayWindow) (seq : UInt32) : ReplayWindow :=
  { self with
    highestSeq := seq
    window := push self.windowSize
      (skip self.windowSize ((seq - self.highestSeq).toNat - 1) self.window) true }

/-- The code takes the full shift from a jump of the window size on, the other one before. -/
theorem checkAndUpdate_ahead (self : ReplayWindow) (seq : UInt32) (hne : self.window ≠ [])
    (hgt : self.highestSeq < seq) :
    self.checkAndUpdate seq =
      (true, if self.windowSize ≤ (seq - self.highestSeq).toNat then self.fullShift seq
        else self.partialShift seq) := by
  unfold checkAndUpdate fullShift partialShift
  rw [if_neg (mt List.isEmpty_iff.mp hne), if_pos hgt]
  simp only
  split <;> rfl

/-- The size of a window does not change, and its deque is never longer. -/
structure Sized (w : ℕ) (r : ReplayWindow) : Prop where
  size : r.windowSize = w
  length : r.window.length ≤ w

theorem sized_final {w : ℕ} (hw : 1 ≤ w) (xs : List UInt32) :
    Sized w (machine.final (new w) xs) := by
  have hR := (run_simulates hw (represents_new w) xs).2
  refine ⟨hR.size, ?_⟩
  by_cases hne : ((restarting w).final Restarting.init (xs.map UInt32.toNat)).acc = ∅
  · rw [hR.empty.mpr hne]
    exact Nat.zero_le w
  · rw [window_length hR hne]
    exact Nat.min_le_left _ _

/-- The bits of one number, down to `n` below it. -/
theorem bits_singleton {n q : ℕ} (h : n ≤ q) :
    bits (q - n) q {q} = true :: List.replicate n false := by
  apply List.ext_getElem
  · simp
    omega
  · intro k hk hk'
    rw [bits_getElem]
    cases k with
    | zero => simp
    | succ j =>
        have hne : q - (j + 1) ≠ q := by
          simp at hk
          omega
        simp [hne]

section Jump

variable {w : ℕ} {r : ReplayWindow} {seq : UInt32}

/-- After a jump of `w` or more, both deques hold the new number alone. The cleared one starts
    there; the shifted one goes `w` numbers down. -/
theorem represents_fullShift (hw : 1 ≤ w) (h : Sized w r) :
    Represents w (r.fullShift seq) ⟨seq.toNat, {seq.toNat}⟩ := by
  obtain ⟨v, rfl⟩ : ∃ v, w = v + 1 := ⟨w - 1, by omega⟩
  refine ⟨h.size, by simp [fullShift], fun _ => by simp [fullShift], fun _ => by simp,
    fun _ => ?_⟩
  simp [fullShift, bits]

theorem represents_partialShift (hw : 1 ≤ w) (h : Sized w r)
    (hjump : r.highestSeq.toNat + w ≤ seq.toNat) :
    Represents w (r.partialShift seq) ⟨seq.toNat + 1 - w, {seq.toNat}⟩ := by
  obtain ⟨v, rfl⟩ : ∃ v, w = v + 1 := ⟨w - 1, by omega⟩
  have hdiff : (seq - r.highestSeq).toNat = seq.toNat - r.highestSeq.toNat :=
    UInt32.toNat_sub_of_le _ _ (UInt32.le_iff_toNat_le.mpr (by omega))
  obtain ⟨hrev, hle⟩ :=
    skip_reverse (v + 1) ((seq - r.highestSeq).toNat - 1) r.window h.length hw
  -- the skipped numbers fill all of the deque behind the new one
  have hwindow : (r.partialShift seq).window.reverse = true :: List.replicate v false := by
    simp only [partialShift, h.size]
    rw [push_reverse (v + 1) _ true hle hw, hrev, List.take_succ_cons, List.take_take,
      Nat.min_eq_left (by omega), List.take_append_of_le_length (by simp; omega),
      List.take_replicate, Nat.min_eq_left (by omega)]
  refine ⟨h.size, ?_, fun _ => by simp [partialShift], fun _ => ?_, fun _ => ?_⟩
  · refine iff_of_false (fun hnil => ?_) (by simp)
    rw [hnil] at hwindow
    cases hwindow
  · show seq.toNat + 1 - (v + 1) ≤ top {seq.toNat}
    rw [top_singleton]
    omega
  · show _ = (bits (seq.toNat + 1 - (v + 1)) (top {seq.toNat}) {seq.toNat}).take (v + 1)
    rw [hwindow, top_singleton, Nat.add_sub_add_right, bits_singleton (by omega),
      List.take_of_length_le (by simp)]

/-- The code takes the full shift. -/
theorem checkAndUpdate_jump (h : Sized w r) (hne : r.window ≠ []) (hw : 1 ≤ w)
    (hjump : r.highestSeq.toNat + w ≤ seq.toNat) :
    r.checkAndUpdate seq = (true, r.fullShift seq) := by
  have hlt : r.highestSeq < seq := UInt32.lt_iff_toNat_lt.mpr (by omega)
  have hdiff : r.windowSize ≤ (seq - r.highestSeq).toNat := by
    rw [UInt32.toNat_sub_of_le _ _ (UInt32.le_of_lt hlt), h.size]
    omega
  rw [checkAndUpdate_ahead r seq hne hlt, if_pos hdiff]

/-- The two deques give the same answers exactly when no number below the jump arrives within
    the window. -/
theorem shifts_agree_iff (hw : 1 ≤ w) (h : Sized w r)
    (hjump : r.highestSeq.toNat + w ≤ seq.toNat) (ys : List UInt32) :
    machine.outputs (r.fullShift seq) ys = machine.outputs (r.partialShift seq) ys ↔
      ∀ pre q post, ys = pre ++ q :: post → q < seq →
        w ≤ (pre.map UInt32.toNat).foldl max seq.toNat - q.toNat := by
  have hbases : TwoBases w seq.toNat (seq.toNat + 1 - w) {seq.toNat} := by
    refine ⟨Finset.singleton_ne_empty _, by omega, by simp, ?_, by simp⟩
    rw [top_singleton]
    omega
  rw [(run_simulates hw (represents_fullShift hw h) ys).1,
    (run_simulates hw (represents_partialShift hw h hjump) ys).1,
    restarting_outputs_eq_iff hbases, top_singleton, forall_split_map]
  simp only [UInt32.lt_iff_toNat_lt]

end Jump

/-- **The two shifts agree exactly while nothing arrives in between.** After every run on a
    fresh window of size `w`, and for every jump of `w` or more to `seq`: the code clears
    the deque (unless it is still empty); the cleared deque and the shifted one give the same
    answers to a list of later numbers exactly when no number below `seq` arrives less than
    `w` below the highest number so far; and they do so for all lists exactly when `w` is 1. -/
theorem full_shift_eq_partial_iff {w : ℕ} (hw : 1 ≤ w) (xs : List UInt32) (seq : UInt32)
    (hjump : (machine.final (new w) xs).highestSeq.toNat + w ≤ seq.toNat) :
    (xs ≠ [] → (machine.final (new w) xs).checkAndUpdate seq =
        (true, (machine.final (new w) xs).fullShift seq)) ∧
      (∀ ys : List UInt32, machine.outputs ((machine.final (new w) xs).fullShift seq) ys =
          machine.outputs ((machine.final (new w) xs).partialShift seq) ys ↔
        ∀ pre q post, ys = pre ++ q :: post → q < seq →
          w ≤ (pre.map UInt32.toNat).foldl max seq.toNat - q.toNat) ∧
      ((∀ ys : List UInt32, machine.outputs ((machine.final (new w) xs).fullShift seq) ys =
          machine.outputs ((machine.final (new w) xs).partialShift seq) ys) ↔ w = 1) := by
  have hsized := sized_final hw xs
  refine ⟨fun hxs => ?_, shifts_agree_iff hw hsized hjump, fun hall => ?_, ?_⟩
  · have hstarted := (describes_final hw xs hxs).started
    exact checkAndUpdate_jump hsized (List.ne_nil_of_length_pos hstarted) hw hjump
  · -- the number just below the jump tells the two apart in a wider window
    have hpred : (seq - 1).toNat = seq.toNat - 1 :=
      UInt32.toNat_sub_of_le _ _ (UInt32.le_iff_toNat_le.mpr (by simp; omega))
    have hlt : seq - 1 < seq := by
      rw [UInt32.lt_iff_toNat_lt, hpred]
      omega
    have := (shifts_agree_iff hw hsized hjump [seq - 1]).mp (hall _) [] (seq - 1) [] rfl hlt
    simp only [List.map_nil, List.foldl_nil, hpred] at this
    omega
  · rintro rfl ys
    refine (shifts_agree_iff hw hsized hjump ys).mpr fun pre q post _ hq => ?_
    have hmax := le_foldl_max seq.toNat (pre.map UInt32.toNat)
    have := UInt32.lt_iff_toNat_lt.mp hq
    omega

/-- At the real size: 0, then the jump to 300. -/
theorem full_shift_eq_partial_iff_256 :
    ([0] ≠ ([] : List UInt32) → (machine.final (new 256) [0]).checkAndUpdate 300 =
        (true, (machine.final (new 256) [0]).fullShift 300)) ∧
      (∀ ys : List UInt32, machine.outputs ((machine.final (new 256) [0]).fullShift 300) ys =
          machine.outputs ((machine.final (new 256) [0]).partialShift 300) ys ↔
        ∀ pre q post, ys = pre ++ q :: post → q < 300 →
          256 ≤ (pre.map UInt32.toNat).foldl max (300 : UInt32).toNat - q.toNat) ∧
      ((∀ ys : List UInt32, machine.outputs ((machine.final (new 256) [0]).fullShift 300) ys =
          machine.outputs ((machine.final (new 256) [0]).partialShift 300) ys) ↔ 256 = 1) :=
  full_shift_eq_partial_iff (by decide) [0] 300 (by decide)

/-- Packet 299 behind the jump from 0 to 300: the cleared deque refuses it, the shifted one lets
    it through. -/
theorem full_shift_forgets :
    (machine.final (new 256) [0]).checkAndUpdate 300 =
        (true, (machine.final (new 256) [0]).fullShift 300) ∧
      machine.outputs ((machine.final (new 256) [0]).fullShift 300) [299] = [false] ∧
      machine.outputs ((machine.final (new 256) [0]).partialShift 300) [299] = [true] := by
  decide +kernel

end ReplayWindow

end Llp
