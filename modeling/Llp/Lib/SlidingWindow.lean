/-
  Sliding windows over sequence numbers, as sets of accepted numbers.

  `reference w` is the fixed-width window: a number is admitted when it is fresh and nothing
  has been accepted yet, or it is above the highest accepted number, or less than `w` below
  it.

  `restarting w` is the window of a bitmap that grows as numbers arrive: it also keeps a
  `base`, the first number or the last one that jumped `w` or more ahead, and refuses
  whatever is below it.

  * `Refused.final`: what the restarting window refuses once, it refuses for good.
  * `restarting_outputs_eq_iff`: when a lower base changes an answer.
  * `restarting_eq_reference_iff`: on a list of numbers the two windows answer alike exactly
    when no number of the list is `InGap`: new, below the last restart, and less than `w`
    below the highest number so far. `InGap` is about the numbers alone.
-/
import Mathlib.Data.Finset.Lattice.Fold
import Mathlib.Order.Lattice.Nat
import Mathlib.Data.List.Induction
import Llp.Lib.Machine

namespace SlidingWindow

/-- The highest accepted number (0 when there is none). -/
def top (acc : Finset ℕ) : ℕ := acc.sup id

theorem le_top {acc : Finset ℕ} {q : ℕ} (h : q ∈ acc) : q ≤ top acc :=
  Finset.le_sup (f := id) h

theorem notMem_of_top_lt {acc : Finset ℕ} {q : ℕ} (h : top acc < q) : q ∉ acc :=
  fun hq => absurd (le_top hq) (by omega)

theorem top_insert (acc : Finset ℕ) (q : ℕ) : top (insert q acc) = max q (top acc) := by
  simp [top]

@[simp] theorem top_singleton (q : ℕ) : top {q} = q := by simp [top]

theorem top_mem {acc : Finset ℕ} (h : acc ≠ ∅) : top acc ∈ acc := by
  obtain ⟨q, hq, htop⟩ := Finset.exists_mem_eq_sup acc (Finset.nonempty_iff_ne_empty.mpr h) id
  rw [top, htop]
  exact hq

/-! ## The reference window -/

/-- The numbers a window of width `w` takes next. -/
def Admits (w : ℕ) (acc : Finset ℕ) (q : ℕ) : Prop :=
  q ∉ acc ∧ (acc = ∅ ∨ top acc < q ∨ top acc - q < w)

instance (w : ℕ) (acc : Finset ℕ) (q : ℕ) : Decidable (Admits w acc q) :=
  inferInstanceAs (Decidable (_ ∧ _))

/-- The fixed-width window. -/
def reference (w : ℕ) : Machine (Finset ℕ) ℕ Bool where
  step acc q := if Admits w acc q then (true, insert q acc) else (false, acc)

theorem reference_fst (w : ℕ) (acc : Finset ℕ) (q : ℕ) :
    ((reference w).step acc q).1 = decide (Admits w acc q) := by
  simp only [reference]
  split <;> simp_all

theorem reference_snd (w : ℕ) (acc : Finset ℕ) (q : ℕ) :
    ((reference w).step acc q).2 =
      if ((reference w).step acc q).1 then insert q acc else acc := by
  simp only [reference]
  split <;> simp

/-- Every number seen so far and less than `w` below the highest one is in the set. -/
theorem reference_recent (w : ℕ) (pre : List ℕ) :
    ∀ q ∈ pre, top ((reference w).final ∅ pre) - q < w → q ∈ (reference w).final ∅ pre := by
  induction pre using List.reverseRecOn with
  | nil => simp
  | append_singleton pre x ih =>
      rw [Machine.final_snoc]
      set acc := (reference w).final ∅ pre
      intro q hq hlt
      by_cases h : Admits w acc x
      · have hstep : ((reference w).step acc x).2 = insert x acc := by
          simp only [reference, if_pos h]
        rw [hstep, top_insert] at hlt
        rw [hstep]
        rcases List.mem_append.mp hq with hq | hq
        · exact Finset.mem_insert_of_mem (ih q hq (by omega))
        · obtain rfl : q = x := List.mem_singleton.mp hq
          exact Finset.mem_insert_self q acc
      · have hstep : ((reference w).step acc x).2 = acc := by
          simp only [reference, if_neg h]
        rw [hstep] at hlt ⊢
        rcases List.mem_append.mp hq with hq | hq
        · exact ih q hq hlt
        · obtain rfl : q = x := List.mem_singleton.mp hq
          by_contra hfresh
          exact h ⟨hfresh, Or.inr (Or.inr hlt)⟩

/-! ## The restarting window -/

/-- The numbers accepted so far and the number the window last restarted at. -/
structure Restarting where
  base : ℕ
  acc : Finset ℕ

/-- The window before the first number. -/
def Restarting.init : Restarting := ⟨0, ∅⟩

/-- The window that restarts at a jump of `w` or more. -/
def restarting (w : ℕ) : Machine Restarting ℕ Bool where
  step s q :=
    if s.acc = ∅ then (true, ⟨q, {q}⟩)
    else if top s.acc < q then
      (true, ⟨if w ≤ q - top s.acc then q else s.base, insert q s.acc⟩)
    else if q ∉ s.acc ∧ s.base ≤ q ∧ top s.acc - q < w then (true, ⟨s.base, insert q s.acc⟩)
    else (false, s)

section Branches

variable {w : ℕ} {s : Restarting} {q : ℕ}

theorem step_first (h : s.acc = ∅) : (restarting w).step s q = (true, ⟨q, {q}⟩) := by
  simp only [restarting]
  rw [if_pos h]

theorem step_ahead (hne : s.acc ≠ ∅) (hlt : top s.acc < q) :
    (restarting w).step s q =
      (true, ⟨if w ≤ q - top s.acc then q else s.base, insert q s.acc⟩) := by
  simp only [restarting]
  rw [if_neg hne, if_pos hlt]

theorem step_recent (hne : s.acc ≠ ∅) (hle : q ≤ top s.acc)
    (h : q ∉ s.acc ∧ s.base ≤ q ∧ top s.acc - q < w) :
    (restarting w).step s q = (true, ⟨s.base, insert q s.acc⟩) := by
  simp only [restarting]
  rw [if_neg hne, if_neg (by omega), if_pos h]

theorem step_refused (hne : s.acc ≠ ∅) (hle : q ≤ top s.acc)
    (h : ¬ (q ∉ s.acc ∧ s.base ≤ q ∧ top s.acc - q < w)) :
    (restarting w).step s q = (false, s) := by
  simp only [restarting]
  rw [if_neg hne, if_neg (by omega), if_neg h]

end Branches

theorem restarting_acc (w : ℕ) (s : Restarting) (q : ℕ) :
    ((restarting w).step s q).2.acc =
      if ((restarting w).step s q).1 then insert q s.acc else s.acc := by
  by_cases hne : s.acc = ∅
  · simp [step_first hne, hne]
  · rcases Nat.lt_or_ge (top s.acc) q with hlt | hle
    · simp [step_ahead hne hlt]
    · by_cases h : q ∉ s.acc ∧ s.base ≤ q ∧ top s.acc - q < w
      · simp [step_recent hne hle h]
      · simp [step_refused hne hle h]

/-- A number of the set stays in it, and is refused. -/
theorem restarting_keeps (w : ℕ) (s : Restarting) (q k : ℕ) (hk : k ∈ s.acc) :
    k ∈ ((restarting w).step s q).2.acc := by
  rw [restarting_acc]
  split
  · exact Finset.mem_insert_of_mem hk
  · exact hk

theorem restarting_refuses (w : ℕ) (s : Restarting) (q : ℕ) (hq : q ∈ s.acc) :
    ((restarting w).step s q).1 = false := by
  have hne : s.acc ≠ ∅ := fun h => by simp [h] at hq
  rw [step_refused hne (le_top hq) (fun h => h.1 hq)]

/-- A number above all of the set is admitted. -/
theorem restarting_admits (w : ℕ) (s : Restarting) (q : ℕ) (hq : ∀ r ∈ s.acc, r < q) :
    ((restarting w).step s q).1 = true := by
  by_cases hne : s.acc = ∅
  · rw [step_first hne]
  · obtain ⟨r, hr⟩ := Finset.nonempty_iff_ne_empty.mpr hne
    have hlt : top s.acc < q := by
      refine (Finset.sup_lt_iff ?_).mpr hq
      exact Nat.lt_of_le_of_lt (Nat.zero_le r) (hq r hr)
    rw [step_ahead hne hlt]

/-- The base never goes down, and never passes the highest accepted number. -/
theorem restarting_base (w : ℕ) (s : Restarting) (q : ℕ) (hne : s.acc ≠ ∅)
    (hb : s.base ≤ top s.acc) :
    s.base ≤ ((restarting w).step s q).2.base ∧
      ((restarting w).step s q).2.base ≤ top ((restarting w).step s q).2.acc := by
  rcases Nat.lt_or_ge (top s.acc) q with hlt | hle
  · rw [step_ahead hne hlt]
    simp only [top_insert]
    split <;> omega
  · by_cases h : q ∉ s.acc ∧ s.base ≤ q ∧ top s.acc - q < w
    · rw [step_recent hne hle h]
      simp only [top_insert]
      omega
    · rw [step_refused hne hle h]
      exact ⟨Nat.le_refl _, hb⟩

/-- The set holds what it held at the start of a run and what the run accepted. -/
theorem mem_acc_final (w : ℕ) (s : Restarting) (xs : List ℕ) (k : ℕ) :
    k ∈ ((restarting w).final s xs).acc ↔ k ∈ s.acc ∨ k ∈ (restarting w).accepted id s xs := by
  induction xs generalizing s with
  | nil => simp [Machine.final, Machine.accepted]
  | cons x xs ih =>
      simp only [Machine.final, Machine.accepted, id_eq]
      rw [ih, restarting_acc]
      split
      · simp only [Finset.mem_insert, List.mem_cons]
        tauto
      · exact Iff.rfl

/-- The highest number never goes down. -/
theorem restarting_top (w : ℕ) (s : Restarting) (q : ℕ) :
    top s.acc ≤ top ((restarting w).step s q).2.acc := by
  rw [restarting_acc]
  split
  · rw [top_insert]
    omega
  · exact Nat.le_refl _

/-! ## Refusals are for good -/

/-- The window refuses `q`: it was accepted, or it is below the base, or `w` or more below the
    highest number. -/
structure Refused (w : ℕ) (s : Restarting) (q : ℕ) : Prop where
  started : s.acc ≠ ∅
  base : s.base ≤ top s.acc
  below : q ≤ top s.acc
  old : q ∈ s.acc ∨ q < s.base ∨ w ≤ top s.acc - q

theorem Refused.step_eq {w : ℕ} {s : Restarting} {q : ℕ} (h : Refused w s q) :
    (restarting w).step s q = (false, s) := by
  refine step_refused h.started h.below fun hnew => ?_
  rcases h.old with hmem | hlow
  · exact hnew.1 hmem
  · omega

theorem refused_of_step {w : ℕ} {s : Restarting} {q : ℕ} (hb : s.acc ≠ ∅ → s.base ≤ top s.acc)
    (h : ((restarting w).step s q).1 = false) : Refused w s q := by
  by_cases hne : s.acc = ∅
  · rw [step_first hne] at h
    cases h
  · rcases Nat.lt_or_ge (top s.acc) q with hlt | hle
    · rw [step_ahead hne hlt] at h
      cases h
    · by_cases hr : q ∉ s.acc ∧ s.base ≤ q ∧ top s.acc - q < w
      · rw [step_recent hne hle hr] at h
        cases h
      · refine ⟨hne, hb hne, hle, ?_⟩
        by_contra hno
        push Not at hno
        exact hr hno

/-- Whatever arrives, a refused number stays refused: the base and the highest number only go
    up. -/
theorem Refused.step {w : ℕ} {s : Restarting} {q : ℕ} (h : Refused w s q) (x : ℕ) :
    Refused w ((restarting w).step s x).2 q := by
  obtain ⟨hbase, hbase'⟩ := restarting_base w s x h.started h.base
  have htop := restarting_top w s x
  have hbelow := h.below
  refine ⟨fun he => ?_, hbase', by omega, ?_⟩
  · obtain ⟨k, hk⟩ := Finset.nonempty_iff_ne_empty.mpr h.started
    have := restarting_keeps w s x k hk
    simp [he] at this
  · rcases h.old with hmem | hlow | hfar
    · exact Or.inl (restarting_keeps w s x q hmem)
    · exact Or.inr (Or.inl (by omega))
    · exact Or.inr (Or.inr (by omega))

theorem Refused.final {w : ℕ} {s : Restarting} {q : ℕ} (h : Refused w s q) (xs : List ℕ) :
    Refused w ((restarting w).final s xs) q :=
  (restarting w).final_invariant (P := fun _ _ => True) (I := fun s => Refused w s q)
    (fun _ x h _ => h.step x) s xs h ((restarting w).always_true s xs)

/-! ## Two bases -/

/-- What holds at every place of a list, at its first place and at the later ones. -/
theorem forall_split_cons {α : Type} {P : List α → α → Prop} {y : α} {ys : List α} :
    (∀ pre q post, y :: ys = pre ++ q :: post → P pre q) ↔
      P [] y ∧ ∀ pre q post, ys = pre ++ q :: post → P (y :: pre) q := by
  constructor
  · intro h
    exact ⟨h [] y ys rfl, fun pre q post hys => h (y :: pre) q post (by rw [hys]; rfl)⟩
  · rintro ⟨hy, hys⟩ pre q post hsplit
    cases pre with
    | nil =>
        obtain ⟨rfl, rfl⟩ := List.cons.inj hsplit
        exact hy
    | cons z pre =>
        obtain ⟨rfl, hrest⟩ := List.cons.inj hsplit
        exact hys pre q post hrest

theorem forall_split_map {α β : Type} {f : α → β} {P : List β → β → Prop} {xs : List α} :
    (∀ pre q post, xs.map f = pre ++ q :: post → P pre q) ↔
      ∀ pre q post, xs = pre ++ q :: post → P (pre.map f) (f q) := by
  constructor
  · intro h pre q post hxs
    exact h _ _ (post.map f) (by rw [hxs, List.map_append, List.map_cons])
  · intro h pre q post hxs
    obtain ⟨pre', rest, rfl, rfl, hrest⟩ := List.map_eq_append_iff.mp hxs
    obtain ⟨q', post', rfl, rfl, -⟩ := List.map_eq_cons_iff.mp hrest
    exact h pre' q' post' rfl

theorem le_foldl_max (t : ℕ) (pre : List ℕ) : t ≤ pre.foldl max t := by
  induction pre generalizing t with
  | nil => exact Nat.le_refl t
  | cons x pre ih => exact (Nat.le_max_left t x).trans (ih _)

/-- Two windows with the same numbers accepted, all from `b` on, one of them with a lower base
    `b'` that reaches down to the edge of the window. -/
structure TwoBases (w b b' : ℕ) (acc : Finset ℕ) : Prop where
  started : acc ≠ ∅
  lower : b' ≤ b
  base : b ≤ top acc
  reach : b' + w ≤ top acc + 1
  from_base : ∀ q ∈ acc, b ≤ q

namespace TwoBases

variable {w b b' y : ℕ} {acc : Finset ℕ}

theorem insert_above (h : TwoBases w b b' acc) (hy : b ≤ y) : TwoBases w b b' (insert y acc) := by
  have htop : top acc ≤ top (insert y acc) := by
    rw [top_insert]
    exact Nat.le_max_right y (top acc)
  refine ⟨Finset.insert_ne_empty y acc, h.lower, h.base.trans htop, ?_, fun q hq => ?_⟩
  · have := h.reach
    omega
  · rcases Finset.mem_insert.mp hq with rfl | hq
    · exact hy
    · exact h.from_base q hq

/-- From `b` on, both windows do the same. -/
theorem step_above (h : TwoBases w b b' acc) (hy : b ≤ y) :
    (∃ base, (restarting w).step ⟨b, acc⟩ y = (true, ⟨base, insert y acc⟩) ∧
        (restarting w).step ⟨b', acc⟩ y = (true, ⟨base, insert y acc⟩) ∧
        top acc + w ≤ y) ∨
      (∃ o acc', (restarting w).step ⟨b, acc⟩ y = (o, ⟨b, acc'⟩) ∧
        (restarting w).step ⟨b', acc⟩ y = (o, ⟨b', acc'⟩) ∧ TwoBases w b b' acc' ∧
        top acc' = max (top acc) y) := by
  rcases Nat.lt_or_ge (top acc) y with hlt | hle
  · rw [step_ahead h.started hlt, step_ahead h.started hlt]
    by_cases hjump : w ≤ y - top acc
    · rw [if_pos hjump, if_pos hjump]
      exact Or.inl ⟨y, rfl, rfl, by omega⟩
    · rw [if_neg hjump, if_neg hjump]
      refine Or.inr ⟨true, insert y acc, rfl, rfl, h.insert_above hy, ?_⟩
      rw [top_insert, Nat.max_comm]
  · by_cases hnew : y ∉ acc ∧ top acc - y < w
    · refine Or.inr ⟨true, insert y acc, ?_, ?_, h.insert_above hy, ?_⟩
      · exact step_recent h.started hle ⟨hnew.1, hy, hnew.2⟩
      · exact step_recent h.started hle ⟨hnew.1, h.lower.trans hy, hnew.2⟩
      · rw [top_insert, Nat.max_comm]
    · refine Or.inr ⟨false, acc, ?_, ?_, h, (Nat.max_eq_left hle).symm⟩
      · exact step_refused h.started hle fun hno => hnew ⟨hno.1, hno.2.2⟩
      · exact step_refused h.started hle fun hno => hnew ⟨hno.1, hno.2.2⟩

end TwoBases

/-- A lower base changes an answer exactly when a number below `b` arrives that is less than `w`
    below the highest number. -/
theorem restarting_outputs_eq_iff {w b b' : ℕ} {acc : Finset ℕ} (h : TwoBases w b b' acc)
    (ys : List ℕ) :
    (restarting w).outputs ⟨b, acc⟩ ys = (restarting w).outputs ⟨b', acc⟩ ys ↔
      ∀ pre q post, ys = pre ++ q :: post → q < b → w ≤ pre.foldl max (top acc) - q := by
  induction ys generalizing acc with
  | nil => simp [Machine.outputs]
  | cons y ys ih =>
      rw [forall_split_cons]
      simp only [Machine.outputs, List.cons.injEq, List.foldl_nil, List.foldl_cons]
      by_cases hby : b ≤ y
      · rw [and_iff_right fun hy => absurd hby (Nat.not_le.mpr hy)]
        rcases h.step_above hby with
          ⟨base, hhigh, hlow, hjump⟩ | ⟨o, acc', hhigh, hlow, hbases, htop⟩
        · -- both windows restart at `y`, and all below `b` is out of reach
          rw [hhigh, hlow]
          refine iff_of_true ⟨rfl, rfl⟩ fun pre q post _ hq => ?_
          have hmax := le_foldl_max (max (top acc) y) pre
          have hbase := h.base
          omega
        · rw [hhigh, hlow, ← htop]
          exact (and_iff_right rfl).trans (ih hbases)
      · -- `y` is new, and only the window with the higher base is sure to refuse it
        have hbase := h.base
        have hle : y ≤ top acc := by omega
        have hmax : max (top acc) y = top acc := Nat.max_eq_left hle
        rw [step_refused h.started hle fun hno => hby hno.2.1, hmax]
        by_cases hold : w ≤ top acc - y
        · rw [step_refused h.started hle fun hno => absurd hold (Nat.not_le.mpr hno.2.2)]
          exact and_congr (iff_of_true rfl fun _ => hold) (ih h)
        · have hfresh : y ∉ acc := fun hy => hby (h.from_base y hy)
          have hreach : b' ≤ y := by
            have := h.reach
            omega
          rw [step_recent h.started hle ⟨hfresh, hreach, Nat.lt_of_not_le hold⟩]
          refine iff_of_false (fun hsame => ?_) fun hall => hold (hall.1 (Nat.lt_of_not_le hby))
          cases hsame.1

/-! ## The last restart, from the numbers alone -/

/-- Add a number to the last restart and the highest number. -/
def extend (w : ℕ) : Option (ℕ × ℕ) → ℕ → Option (ℕ × ℕ)
  | none, q => some (q, q)
  | some (b, t), q => if t < q then some (if w ≤ q - t then q else b, q) else some (b, t)

/-- Where a window of width `w` last restarted, and the highest number, after the given
    numbers. -/
def span (w : ℕ) (xs : List ℕ) : Option (ℕ × ℕ) := xs.foldl (extend w) none

theorem span_snoc (w : ℕ) (xs : List ℕ) (q : ℕ) :
    span w (xs ++ [q]) = extend w (span w xs) q := by
  simp [span]

/-- After `pre`, the number `q` is new, below the last restart, and less than `w` below the
    highest number. -/
def InGap (w : ℕ) (pre : List ℕ) (q : ℕ) : Prop :=
  ∃ p ∈ span w pre, q ∉ pre ∧ q < p.1 ∧ p.2 - q < w

instance (w : ℕ) (pre : List ℕ) (q : ℕ) : Decidable (InGap w pre q) :=
  inferInstanceAs (Decidable (∃ p ∈ span w pre, _))

/-- What the restarting window holds after `pre`. -/
structure Holds (w : ℕ) (pre : List ℕ) (s : Restarting) : Prop where
  empty : s.acc = ∅ → pre = []
  spans : s.acc ≠ ∅ → span w pre = some (s.base, top s.acc)
  sub : ∀ q ∈ s.acc, q ∈ pre
  base : s.acc ≠ ∅ → s.base ≤ top s.acc

theorem holds_init (w : ℕ) : Holds w [] Restarting.init where
  empty _ := rfl
  spans h := absurd rfl h
  sub := by simp [Restarting.init]
  base h := absurd rfl h

theorem holds_step (w : ℕ) (pre : List ℕ) (s : Restarting) (q : ℕ) (h : Holds w pre s) :
    Holds w (pre ++ [q]) ((restarting w).step s q).2 := by
  have hmem : ∀ r ∈ ((restarting w).step s q).2.acc, r ∈ pre ++ [q] := by
    intro r hr
    rw [restarting_acc] at hr
    split at hr
    · rcases Finset.mem_insert.mp hr with rfl | hr
      · simp
      · simp [h.sub r hr]
    · simp [h.sub r hr]
  by_cases hne : s.acc = ∅
  · rw [step_first hne] at hmem ⊢
    refine ⟨fun h' => by simp at h', fun _ => ?_, hmem, fun _ => by simp⟩
    rw [span_snoc, h.empty hne]
    simp [span, extend]
  · have hspan := h.spans hne
    have hbase := (restarting_base w s q hne (h.base hne)).2
    rcases Nat.lt_or_ge (top s.acc) q with hlt | hle
    · rw [step_ahead hne hlt] at hmem hbase ⊢
      refine ⟨fun h' => by simp at h', fun _ => ?_, hmem, fun _ => hbase⟩
      have hmax : max q (top s.acc) = q := by omega
      rw [span_snoc, hspan, extend, if_pos hlt, top_insert, hmax]
    · have hext : span w (pre ++ [q]) = some (s.base, top s.acc) := by
        rw [span_snoc, hspan, extend, if_neg (by omega)]
      by_cases hr : q ∉ s.acc ∧ s.base ≤ q ∧ top s.acc - q < w
      · rw [step_recent hne hle hr] at hmem hbase ⊢
        refine ⟨fun h' => by simp at h', fun _ => ?_, hmem, fun _ => hbase⟩
        have hmax : max q (top s.acc) = top s.acc := by omega
        rw [hext, top_insert, hmax]
      · rw [step_refused hne hle hr] at hmem ⊢
        exact ⟨fun h' => absurd h' hne, fun _ => hext, hmem, fun _ => h.base hne⟩

theorem holds_final (w : ℕ) (pre : List ℕ) :
    Holds w pre ((restarting w).final Restarting.init pre) := by
  induction pre using List.reverseRecOn with
  | nil => exact holds_init w
  | append_singleton pre x ih =>
      rw [Machine.final_snoc]
      exact holds_step w pre _ x ih

/-! ## When the two windows agree -/

/-- With the same numbers accepted, the next answers differ exactly in the gap. -/
theorem step_eq_iff (w : ℕ) (pre : List ℕ) (q : ℕ) (s : Restarting) (h : Holds w pre s)
    (hrec : ∀ r ∈ pre, top s.acc - r < w → r ∈ s.acc) :
    ((restarting w).step s q).1 = ((reference w).step s.acc q).1 ↔ ¬ InGap w pre q := by
  rw [reference_fst]
  by_cases hne : s.acc = ∅
  · rw [step_first hne, h.empty hne]
    simp [InGap, span, Admits, hne]
  · have hbase := h.base hne
    simp only [InGap, h.spans hne, Option.mem_def, Option.some.injEq, exists_eq_left']
    rcases Nat.lt_or_ge (top s.acc) q with hlt | hle
    · have hfresh := notMem_of_top_lt hlt
      rw [step_ahead hne hlt]
      simp only [Admits, hfresh, hlt, not_false_eq_true, true_and, true_or, or_true,
        decide_true, true_iff]
      omega
    · have hadm : Admits w s.acc q ↔ q ∉ s.acc ∧ top s.acc - q < w := by
        simp only [Admits, hne, false_or]
        have : ¬ top s.acc < q := by omega
        simp [this]
      -- at most the highest number: freshness among inputs and in the set agree
      have hnew : top s.acc - q < w → (q ∉ pre ↔ q ∉ s.acc) :=
        fun hr => ⟨fun hq hq' => hq (h.sub q hq'), fun hq hq' => hq (hrec q hq' hr)⟩
      by_cases hr : q ∉ s.acc ∧ s.base ≤ q ∧ top s.acc - q < w
      · rw [step_recent hne hle hr]
        have : Admits w s.acc q := hadm.mpr ⟨hr.1, hr.2.2⟩
        simp only [this, decide_true, true_iff]
        omega
      · rw [step_refused hne hle hr]
        constructor
        · intro hout hgap
          have : Admits w s.acc q := hadm.mpr ⟨(hnew hgap.2.2).mp hgap.1, hgap.2.2⟩
          simp [this] at hout
        · intro hgap
          have : ¬ Admits w s.acc q := by
            rw [hadm]
            rintro ⟨hq, hw⟩
            have hb : q < s.base := by
              by_contra hb
              exact hr ⟨hq, by omega, hw⟩
            exact hgap ⟨(hnew hw).mpr hq, hb, hw⟩
          simp [this]

/-- Equal answers leave equal sets. -/
theorem acc_eq_of_outputs (w : ℕ) (xs : List ℕ) (s : Restarting) (acc : Finset ℕ)
    (hacc : s.acc = acc)
    (hout : (restarting w).outputs s xs = (reference w).outputs acc xs) :
    ((restarting w).final s xs).acc = (reference w).final acc xs := by
  induction xs generalizing s acc with
  | nil => exact hacc
  | cons x xs ih =>
      simp only [Machine.outputs, List.cons.injEq] at hout
      refine ih _ _ ?_ hout.2
      rw [restarting_acc, reference_snd, hout.1, hacc]

/-- **The two windows agree exactly off the gap.** -/
theorem restarting_eq_reference_iff (w : ℕ) (xs : List ℕ) :
    (restarting w).outputs Restarting.init xs = (reference w).outputs ∅ xs ↔
      ∀ pre q post, xs = pre ++ q :: post → ¬ InGap w pre q := by
  induction xs using List.reverseRecOn with
  | nil => simp [Machine.outputs]
  | append_singleton xs x ih =>
      have hlast : (restarting w).outputs Restarting.init xs = (reference w).outputs ∅ xs →
          (((restarting w).step ((restarting w).final Restarting.init xs) x).1 =
            ((reference w).step ((reference w).final ∅ xs) x).1 ↔ ¬ InGap w xs x) := by
        intro hout
        have hacc := acc_eq_of_outputs w xs Restarting.init ∅ rfl hout
        have hrec := reference_recent w xs
        rw [← hacc] at hrec ⊢
        exact step_eq_iff w xs x _ (holds_final w xs) hrec
      rw [Machine.outputs_snoc, Machine.outputs_snoc]
      constructor
      · intro hout pre q post hsplit
        obtain ⟨hxs, hx⟩ := List.append_inj' hout rfl
        have hx' : ¬ InGap w xs x := (hlast hxs).mp (by simpa using hx)
        rcases List.eq_nil_or_concat post with rfl | ⟨post', y, rfl⟩
        · obtain ⟨rfl, hq⟩ := List.append_inj' hsplit rfl
          obtain rfl : x = q := by simpa using hq
          exact hx'
        · have hsplit' : xs ++ [x] = (pre ++ q :: post') ++ [y] := by simpa using hsplit
          exact ih.mp hxs pre q post' (List.append_inj' hsplit' rfl).1
      · intro hgap
        have hxs := ih.mpr fun pre q post h => hgap pre q (post ++ [x]) (by rw [h]; simp)
        rw [hxs, (hlast hxs).mpr (hgap xs x [] rfl)]

end SlidingWindow
