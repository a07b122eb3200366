/-
  Views of a machine.

  Of the inputs of a run some are shown, each as an input of a smaller machine. If the smaller
  machine answers a shown input as the machine does, and the others leave the view of the
  state alone, then the run, seen through the view, is the run of the smaller machine.

  * `view_run`: the view of a run.
  * `view_isolated`: two runs that look alike from the start, and show the same inputs, look
    alike at the end and give the same outputs.
  * `final_history`: an invariant that ties the state to the inputs so far.
  * `mem_outputs`: an output of a run is the output of one of its steps.
-/
import Llp.Lib.Machine

namespace Machine

variable {σ τ ι ο κ : Type}

/-! ## What is shown -/

/-- The shown inputs of a run, as they are shown. -/
def shownInputs (M : Machine σ ι ο) (shown : σ → ι → Option κ) : σ → List ι → List κ
  | _, [] => []
  | s, x :: xs =>
      match shown s x with
      | some y => y :: M.shownInputs shown (M.step s x).2 xs
      | none => M.shownInputs shown (M.step s x).2 xs

/-- The outputs at the shown inputs. -/
def shownOutputs (M : Machine σ ι ο) (shown : σ → ι → Option κ) : σ → List ι → List ο
  | _, [] => []
  | s, x :: xs =>
      match shown s x with
      | some _ => (M.step s x).1 :: M.shownOutputs shown (M.step s x).2 xs
      | none => M.shownOutputs shown (M.step s x).2 xs

section View

variable {M : Machine σ ι ο} {shown : σ → ι → Option κ} {N : Machine τ κ ο} {view : σ → τ}

/-- **The view of a run** is the run of the smaller machine on what is shown. -/
theorem view_run
    (hshown : ∀ s x y, shown s x = some y →
      N.step (view s) y = ((M.step s x).1, view (M.step s x).2))
    (hhidden : ∀ s x, shown s x = none → view (M.step s x).2 = view s) (s : σ) (xs : List ι) :
    N.final (view s) (M.shownInputs shown s xs) = view (M.final s xs) ∧
      N.outputs (view s) (M.shownInputs shown s xs) = M.shownOutputs shown s xs := by
  induction xs generalizing s with
  | nil => exact ⟨rfl, rfl⟩
  | cons x xs ih =>
      obtain ⟨hfinal, houtputs⟩ := ih (M.step s x).2
      cases hx : shown s x with
      | none =>
          rw [hhidden s x hx] at hfinal houtputs
          simp only [shownInputs, shownOutputs, hx]
          exact ⟨hfinal, houtputs⟩
      | some y =>
          have hstep := hshown s x y hx
          simp only [shownInputs, shownOutputs, hx, final, outputs, hstep]
          exact ⟨hfinal, by rw [houtputs]⟩

/-- Two runs that look alike from the start, and show the same, look alike at the end. -/
theorem view_isolated
    (hshown : ∀ s x y, shown s x = some y →
      N.step (view s) y = ((M.step s x).1, view (M.step s x).2))
    (hhidden : ∀ s x, shown s x = none → view (M.step s x).2 = view s) {s t : σ}
    {xs ys : List ι} (hview : view s = view t)
    (hinputs : M.shownInputs shown s xs = M.shownInputs shown t ys) :
    view (M.final s xs) = view (M.final t ys) ∧
      M.shownOutputs shown s xs = M.shownOutputs shown t ys := by
  obtain ⟨hfinal, houtputs⟩ := view_run hshown hhidden s xs
  obtain ⟨hfinal', houtputs'⟩ := view_run hshown hhidden t ys
  rw [← hfinal, ← houtputs, ← hfinal', ← houtputs', hview, hinputs]
  exact ⟨rfl, rfl⟩

end View

/-! ## Histories -/

/-- What ties the state to the inputs so far, and is kept by each step, holds after a run. -/
theorem final_history (M : Machine σ ι ο) {I : List ι → σ → Prop}
    (hstep : ∀ past s x, I past s → I (past ++ [x]) (M.step s x).2) (s : σ) (xs : List ι)
    (h : I [] s) : I xs (M.final s xs) := by
  induction xs using List.reverseRecOn with
  | nil => exact h
  | append_singleton xs x ih =>
      rw [final_snoc]
      exact hstep xs _ x ih

/-- An output of a run is that of one of its steps. -/
theorem mem_outputs {M : Machine σ ι ο} {s : σ} {xs : List ι} {o : ο} :
    o ∈ M.outputs s xs ↔ ∃ pre x post, xs = pre ++ x :: post ∧ o = (M.step (M.final s pre) x).1 := by
  constructor
  · induction xs generalizing s with
    | nil => exact nofun
    | cons x xs ih =>
        intro ho
        rcases List.mem_cons.mp ho with rfl | ho
        · exact ⟨[], x, xs, rfl, rfl⟩
        · obtain ⟨pre, y, post, rfl, rfl⟩ := ih ho
          exact ⟨x :: pre, y, post, rfl, rfl⟩
  · rintro ⟨pre, x, post, rfl, rfl⟩
    rw [outputs_append]
    exact List.mem_append_right _ List.mem_cons_self

end Machine
