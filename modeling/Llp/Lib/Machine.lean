/-
  Deterministic machines: a state, inputs, and one output per input.

  `final`, `outputs` run a machine over a list of inputs. `Always P` says that `P` holds of
  every step of a run, at the state in which the step is taken.

  * `final_invariant`: what each step keeps, a run keeps.
  * `holds_iff_always`: a property holds all along a run exactly when every step meets a
    condition, if under an invariant such steps keep it and other steps break the property.
  * `final_iff_always`: a property that, once lost, stays lost holds after a run exactly when
    every step meets the condition that keeps it.
  * `accepted_count_le_one`, `accepted_nodup`: the gate rule. If, under an invariant, an
    accepted input blocks its key, a blocked key stays blocked, and a blocked key is not
    accepted, then over a run the key is accepted at most once.
  * `outputs_eq_of_sim`: two machines related by a simulation give the same outputs.
  * `foldl_related`: a ledger kept from the inputs and outputs of a run stays related to the state.
  * `interleave_outputs_perm`: two machines that take turns give the outputs of both.
  * `accepted_of_inert`: refused inputs that leave the state alone can be left out of a run.
  * `filter_iff_inert`: leaving inputs out of a run changes nothing else exactly when each of
    them leaves the state alone.
-/
import Mathlib.Data.List.Basic
import Mathlib.Data.List.Induction
import Mathlib.Data.List.Nodup

/-- A deterministic machine: an input yields an output and moves the state. -/
structure Machine (σ ι ο : Type) where
  step : σ → ι → ο × σ

namespace Machine

variable {σ τ ι ο κ : Type}

/-! ## Runs -/

/-- The state after a run. -/
def final (M : Machine σ ι ο) : σ → List ι → σ
  | s, [] => s
  | s, x :: xs => M.final (M.step s x).2 xs

/-- The outputs of a run, one for each input. -/
def outputs (M : Machine σ ι ο) : σ → List ι → List ο
  | _, [] => []
  | s, x :: xs => (M.step s x).1 :: M.outputs (M.step s x).2 xs

/-- Every step of the run is taken in a state where `P` holds of its input. -/
def Always (M : Machine σ ι ο) (P : σ → ι → Prop) : σ → List ι → Prop
  | _, [] => True
  | s, x :: xs => P s x ∧ M.Always P (M.step s x).2 xs

/-- The machine that reads its inputs through `f`. -/
def comap {ι' : Type} (f : ι' → ι) (M : Machine σ ι ο) : Machine σ ι' ο where
  step s x := M.step s (f x)

theorem outputs_comap {ι' : Type} (f : ι' → ι) (M : Machine σ ι ο) (s : σ) (xs : List ι') :
    (M.comap f).outputs s xs = M.outputs s (xs.map f) := by
  induction xs generalizing s with
  | nil => rfl
  | cons x xs ih =>
      simp only [outputs, List.map_cons]
      rw [← ih]
      rfl

theorem final_comap {ι' : Type} (f : ι' → ι) (M : Machine σ ι ο) (s : σ) (xs : List ι') :
    (M.comap f).final s xs = M.final s (xs.map f) := by
  induction xs generalizing s with
  | nil => rfl
  | cons x xs ih => exact ih _

theorem final_append (M : Machine σ ι ο) (s : σ) (xs ys : List ι) :
    M.final s (xs ++ ys) = M.final (M.final s xs) ys := by
  induction xs generalizing s with
  | nil => rfl
  | cons x xs ih => exact ih _

theorem final_snoc (M : Machine σ ι ο) (s : σ) (xs : List ι) (x : ι) :
    M.final s (xs ++ [x]) = (M.step (M.final s xs) x).2 := by
  rw [final_append]; rfl

theorem outputs_append (M : Machine σ ι ο) (s : σ) (xs ys : List ι) :
    M.outputs s (xs ++ ys) = M.outputs s xs ++ M.outputs (M.final s xs) ys := by
  induction xs generalizing s with
  | nil => rfl
  | cons x xs ih => simp [outputs, final, ih]

theorem outputs_snoc (M : Machine σ ι ο) (s : σ) (xs : List ι) (x : ι) :
    M.outputs s (xs ++ [x]) = M.outputs s xs ++ [(M.step (M.final s xs) x).1] := by
  rw [outputs_append]; rfl

theorem always_append (M : Machine σ ι ο) (P : σ → ι → Prop) (s : σ) (xs ys : List ι) :
    M.Always P s (xs ++ ys) ↔ M.Always P s xs ∧ M.Always P (M.final s xs) ys := by
  induction xs generalizing s with
  | nil => simp [Always, final]
  | cons x xs ih => simp [Always, final, ih, and_assoc]

theorem always_congr (M : Machine σ ι ο) {P Q : σ → ι → Prop} (h : ∀ s x, P s x ↔ Q s x)
    (s : σ) (xs : List ι) : M.Always P s xs ↔ M.Always Q s xs := by
  induction xs generalizing s with
  | nil => exact Iff.rfl
  | cons x xs ih => exact and_congr (h s x) (ih _)

theorem always_mono (M : Machine σ ι ο) {P Q : σ → ι → Prop} (h : ∀ s x, P s x → Q s x)
    (s : σ) (xs : List ι) (hP : M.Always P s xs) : M.Always Q s xs := by
  induction xs generalizing s with
  | nil => trivial
  | cons x xs ih => exact ⟨h s x hP.1, ih _ hP.2⟩

theorem always_true (M : Machine σ ι ο) (s : σ) (xs : List ι) :
    M.Always (fun _ _ => True) s xs := by
  induction xs generalizing s with
  | nil => trivial
  | cons x xs ih => exact ⟨trivial, ih _⟩

/-- What every step of a run keeps, the run keeps. -/
theorem final_invariant (M : Machine σ ι ο) {P : σ → ι → Prop} {I : σ → Prop}
    (hstep : ∀ s x, I s → P s x → I (M.step s x).2) (s : σ) (xs : List ι) (h : I s)
    (hP : M.Always P s xs) : I (M.final s xs) := by
  induction xs generalizing s with
  | nil => exact h
  | cons x xs ih => exact ih _ (hstep s x h hP.1) hP.2

/-- Under an invariant, what every step outputs is what a run outputs. -/
theorem outputs_invariant (M : Machine σ ι ο) {I : σ → Prop} {P : ο → Prop}
    (hstep : ∀ s x, I s → I (M.step s x).2) (hout : ∀ s x, I s → P (M.step s x).1) (s : σ)
    (xs : List ι) (h : I s) : ∀ o ∈ M.outputs s xs, P o := by
  induction xs generalizing s with
  | nil =>
      intro o ho
      cases ho
  | cons x xs ih =>
      intro o ho
      rcases List.mem_cons.mp ho with rfl | hmem
      · exact hout s x h
      · exact ih _ (hstep s x h) o hmem

/-- What does not hold at the start and holds at the end came to hold in one of the steps. -/
theorem exists_step_of_final (M : Machine σ ι ο) {I Q : σ → Prop}
    (hstep : ∀ s x, I s → I (M.step s x).2) (s : σ) (xs : List ι) (hI : I s) (h : ¬ Q s)
    (hfinal : Q (M.final s xs)) : ∃ pre x post, xs = pre ++ x :: post ∧
      I (M.final s pre) ∧ ¬ Q (M.final s pre) ∧ Q (M.step (M.final s pre) x).2 := by
  induction xs generalizing s with
  | nil => exact absurd hfinal h
  | cons x xs ih =>
      by_cases hQ : Q (M.step s x).2
      · exact ⟨[], x, xs, rfl, hI, h, hQ⟩
      · obtain ⟨pre, y, post, rfl, hfound⟩ := ih _ (hstep s x hI) hQ hfinal
        exact ⟨x :: pre, y, post, rfl, hfound⟩

/-- Conditions that agree on every step under an invariant agree over a run. -/
theorem always_congr_of_invariant (M : Machine σ ι ο) {I : σ → Prop} {P C D : σ → ι → Prop}
    (hkeep : ∀ s x, I s → P s x → I (M.step s x).2)
    (hiff : ∀ s x, I s → P s x → (C s x ↔ D s x)) (s : σ) (xs : List ι) (h : I s)
    (hP : M.Always P s xs) : M.Always C s xs ↔ M.Always D s xs := by
  induction xs generalizing s with
  | nil => exact Iff.rfl
  | cons x xs ih =>
      exact and_congr (hiff s x h hP.1) (ih _ (hkeep s x h hP.1) hP.2)

/-- **Where a property fails.** If, under an invariant, `K` holds of a state, a step that meets
    `C` keeps the invariant, and one that does not breaks `K`, then `K` holds all along a run
    exactly when every step of the run meets `C`. -/
theorem holds_iff_always (M : Machine σ ι ο) {I K : σ → Prop} {C : σ → ι → Prop}
    (hK : ∀ s, I s → K s) (hkeep : ∀ s x, I s → C s x → I (M.step s x).2)
    (hbreak : ∀ s x, I s → ¬ C s x → ¬ K (M.step s x).2) (s : σ) (xs : List ι) (h : I s) :
    (∀ pre, pre <+: xs → K (M.final s pre)) ↔ M.Always C s xs := by
  constructor
  · intro hall
    induction xs generalizing s with
    | nil => trivial
    | cons x xs ih =>
        have hC : C s x := by
          by_contra hno
          exact hbreak s x h hno (hall [x] (List.prefix_append [x] xs))
        refine ⟨hC, ih _ (hkeep s x h hC) fun pre hpre => ?_⟩
        exact hall (x :: pre) ((List.prefix_cons_inj x).mpr hpre)
  · rintro hC pre ⟨post, rfl⟩
    exact hK _ (M.final_invariant hkeep s pre h ((M.always_append C s pre post).mp hC).1)

/-- **Where a property is lost.** If, under an invariant, a step that meets `C` keeps `K`, one
    that does not loses it, and `K` once lost stays lost, then `K` holds after a run exactly
    when every step of the run meets `C`. -/
theorem final_iff_always (M : Machine σ ι ο) {I K : σ → Prop} {C : σ → ι → Prop}
    (hinv : ∀ s x, I s → I (M.step s x).2) (hkeep : ∀ s x, I s → C s x → K s → K (M.step s x).2)
    (hbreak : ∀ s x, I s → ¬ C s x → ¬ K (M.step s x).2)
    (hlost : ∀ s x, I s → ¬ K s → ¬ K (M.step s x).2) (s : σ) (xs : List ι) (hI : I s)
    (hK : K s) : K (M.final s xs) ↔ M.Always C s xs := by
  induction xs generalizing s with
  | nil => exact iff_of_true hK trivial
  | cons x xs ih =>
      by_cases hC : C s x
      · exact (ih _ (hinv s x hI) (hkeep s x hI hC hK)).trans (and_iff_right hC).symm
      · refine iff_of_false (fun hfinal => ?_) fun hall => hC hall.1
        have hstay : ∀ t x, (I t ∧ ¬ K t) → True → I (M.step t x).2 ∧ ¬ K (M.step t x).2 :=
          fun t x ht _ => ⟨hinv t x ht.1, hlost t x ht.1 ht.2⟩
        exact (M.final_invariant hstay _ xs ⟨hinv s x hI, hbreak s x hI hC⟩
          (M.always_true _ xs)).2 hfinal

instance decidableAlways (M : Machine σ ι ο) (P : σ → ι → Prop) [∀ s x, Decidable (P s x)] :
    (s : σ) → (xs : List ι) → Decidable (M.Always P s xs)
  | _, [] => inferInstanceAs (Decidable True)
  | s, x :: xs =>
      @instDecidableAnd _ _ (inferInstanceAs (Decidable (P s x))) (decidableAlways M P _ xs)

/-! ## Gates -/

/-- The inputs of a run whose output passes `ok`, in order. -/
def accepted (M : Machine σ ι ο) (ok : ο → Bool) : σ → List ι → List ι
  | _, [] => []
  | s, x :: xs =>
      if ok (M.step s x).1 then x :: M.accepted ok (M.step s x).2 xs
      else M.accepted ok (M.step s x).2 xs

theorem mem_accepted_of_cons {M : Machine σ ι ο} {ok : ο → Bool} {s : σ} {x y : ι}
    {xs : List ι} (h : y ∈ M.accepted ok s (x :: xs)) :
    (y = x ∧ ok (M.step s x).1 = true) ∨ y ∈ M.accepted ok (M.step s x).2 xs := by
  unfold accepted at h
  split at h
  · next hok =>
      rcases List.mem_cons.mp h with h | h
      · exact Or.inl ⟨h, hok⟩
      · exact Or.inr h
  · exact Or.inr h

/-- Equal answers accept the same inputs. -/
theorem accepted_eq_of_outputs (M : Machine σ ι ο) (N : Machine τ ι ο) (ok : ο → Bool) (s : σ)
    (t : τ) (xs : List ι) (h : M.outputs s xs = N.outputs t xs) :
    M.accepted ok s xs = N.accepted ok t xs := by
  induction xs generalizing s t with
  | nil => rfl
  | cons x xs ih =>
      simp only [outputs, List.cons.injEq] at h
      simp only [accepted, h.1, ih _ _ h.2]

theorem accepted_comap {ι' : Type} (f : ι' → ι) (M : Machine σ ι ο) (ok : ο → Bool) (s : σ)
    (xs : List ι') :
    ((M.comap f).accepted ok s xs).map f = M.accepted ok s (xs.map f) := by
  induction xs generalizing s with
  | nil => rfl
  | cons x xs ih =>
      simp only [accepted, List.map_cons]
      rw [← ih]
      show List.map f (if ok (M.step s (f x)).1 then _ else _) = _
      split <;> rfl

section Gate

variable (M : Machine σ ι ο) (ok : ο → Bool) (key : ι → κ)
  (P : σ → ι → Prop) (I : σ → Prop) (Blocked : σ → κ → Prop)

/-- A key blocked at the start of a run is not accepted in it. -/
theorem not_accepted_of_blocked {k : κ}
    (hinv : ∀ s x, I s → P s x → I (M.step s x).2)
    (hstay : ∀ s x, I s → P s x → Blocked s k → Blocked (M.step s x).2 k)
    (hno : ∀ s x, I s → key x = k → Blocked s k → ok (M.step s x).1 = false)
    (s : σ) (xs : List ι) (hs : I s) (hP : M.Always P s xs) (hk : Blocked s k) :
    k ∉ (M.accepted ok s xs).map key := by
  induction xs generalizing s with
  | nil => simp [accepted]
  | cons x xs ih =>
      intro hmem
      obtain ⟨y, hy, hyk⟩ := List.mem_map.mp hmem
      rcases mem_accepted_of_cons hy with ⟨rfl, hok⟩ | hy
      · rw [hno s y hs hyk hk] at hok
        exact Bool.noConfusion hok
      · exact ih _ (hinv s x hs hP.1) hP.2 (hstay s x hs hP.1 hk)
          (List.mem_map.mpr ⟨y, hy, hyk⟩)

/-- **The gate rule.** If an accepted input blocks its key `k`, a blocked key stays blocked,
    and a blocked key is not accepted, then `k` is accepted at most once in a run. -/
theorem accepted_count_le_one [DecidableEq κ] {k : κ}
    (hinv : ∀ s x, I s → P s x → I (M.step s x).2)
    (hblock : ∀ s x, I s → P s x → key x = k → ok (M.step s x).1 = true →
      Blocked (M.step s x).2 k)
    (hstay : ∀ s x, I s → P s x → Blocked s k → Blocked (M.step s x).2 k)
    (hno : ∀ s x, I s → key x = k → Blocked s k → ok (M.step s x).1 = false)
    (s : σ) (xs : List ι) (hs : I s) (hP : M.Always P s xs) :
    ((M.accepted ok s xs).map key).count k ≤ 1 := by
  induction xs generalizing s with
  | nil => simp [accepted]
  | cons x xs ih =>
      have hs' := hinv s x hs hP.1
      have ih' := ih _ hs' hP.2
      unfold accepted
      split
      · next hok =>
          rw [List.map_cons, List.count_cons]
          split
          · next hkey =>
              have hb := hblock s x hs hP.1 (by simpa using hkey) hok
              have hnone := List.count_eq_zero.mpr
                (M.not_accepted_of_blocked ok key P I Blocked hinv hstay hno _ xs hs' hP.2 hb)
              omega
          · exact ih'
      · exact ih'

/-- The gate rule for every key: no key is accepted twice in a run. -/
theorem accepted_nodup
    (hinv : ∀ s x, I s → P s x → I (M.step s x).2)
    (hblock : ∀ s x, I s → P s x → ok (M.step s x).1 = true → Blocked (M.step s x).2 (key x))
    (hstay : ∀ s x k, I s → P s x → Blocked s k → Blocked (M.step s x).2 k)
    (hno : ∀ s x, I s → Blocked s (key x) → ok (M.step s x).1 = false)
    (s : σ) (xs : List ι) (hs : I s) (hP : M.Always P s xs) :
    ((M.accepted ok s xs).map key).Nodup := by
  classical
  rw [List.nodup_iff_count_le_one]
  intro k
  exact M.accepted_count_le_one ok key P I Blocked hinv
    (fun s x hs hp hk hok => hk ▸ hblock s x hs hp hok) (fun s x => hstay s x k)
    (fun s x hs hk hb => hno s x hs (hk ▸ hb)) s xs hs hP

end Gate

/-! ## Simulation -/

/-- Related states give equal outputs, as long as each step keeps them related. -/
theorem outputs_eq_of_sim (M : Machine σ ι ο) (N : Machine τ ι ο) (R : σ → τ → Prop)
    (P : σ → ι → Prop)
    (hsim : ∀ s t x, R s t → P s x →
      (M.step s x).1 = (N.step t x).1 ∧ R (M.step s x).2 (N.step t x).2)
    (s : σ) (t : τ) (xs : List ι) (hR : R s t) (hP : M.Always P s xs) :
    M.outputs s xs = N.outputs t xs ∧ R (M.final s xs) (N.final t xs) := by
  induction xs generalizing s t with
  | nil => exact ⟨rfl, hR⟩
  | cons x xs ih =>
      obtain ⟨hout, hR'⟩ := hsim s t x hR hP.1
      obtain ⟨houts, hfin⟩ := ih _ _ hR' hP.2
      exact ⟨by simp only [outputs]; rw [hout, houts], hfin⟩

/-- What is folded over the inputs and outputs of a run is related to the final state, if each
    step keeps the two related. -/
theorem foldl_related (M : Machine σ ι ο) {γ : Type} {R : γ → σ → Prop} {P : ι → Prop}
    {f : γ → ι × ο → γ}
    (hstep : ∀ g s x, R g s → P x → R (f g (x, (M.step s x).1)) (M.step s x).2) (g : γ) (s : σ)
    (xs : List ι) (h : R g s) (hP : ∀ x ∈ xs, P x) :
    R ((xs.zip (M.outputs s xs)).foldl f g) (M.final s xs) := by
  induction xs generalizing g s with
  | nil => exact h
  | cons x xs ih =>
      rw [outputs, List.zip_cons_cons, List.foldl_cons]
      exact ih _ _ (hstep g s x h (hP x List.mem_cons_self))
        fun y hy => hP y (List.mem_cons_of_mem x hy)

/-! ## Two machines side by side -/

/-- Two machines that take turns, in the order the inputs give. -/
def interleave (M : Machine σ ι ο) (N : Machine τ κ ο) : Machine (σ × τ) (ι ⊕ κ) ο where
  step st x :=
    match x with
    | .inl a => ((M.step st.1 a).1, (M.step st.1 a).2, st.2)
    | .inr b => ((N.step st.2 b).1, st.1, (N.step st.2 b).2)

/-- The outputs of an interleaving are those of the two runs, in some order. -/
theorem interleave_outputs_perm (M : Machine σ ι ο) (N : Machine τ κ ο) (s : σ) (t : τ)
    (xs : List (ι ⊕ κ)) :
    ((M.interleave N).outputs (s, t) xs).Perm
      (M.outputs s (xs.filterMap Sum.getLeft?) ++ N.outputs t (xs.filterMap Sum.getRight?)) := by
  induction xs generalizing s t with
  | nil => exact List.Perm.refl _
  | cons x xs ih =>
      cases x with
      | inl a => exact (ih (M.step s a).2 t).cons (M.step s a).1
      | inr b =>
          exact ((ih s (N.step t b).2).cons (N.step t b).1).trans List.perm_middle.symm

/-! ## Leaving steps out -/

/-- The outputs of a run at the inputs that pass `keep`. -/
def outputsAt (M : Machine σ ι ο) (keep : ι → Bool) : σ → List ι → List ο
  | _, [] => []
  | s, x :: xs =>
      if keep x then (M.step s x).1 :: M.outputsAt keep (M.step s x).2 xs
      else M.outputsAt keep (M.step s x).2 xs

theorem outputsAt_append (M : Machine σ ι ο) (keep : ι → Bool) (s : σ) (xs ys : List ι) :
    M.outputsAt keep s (xs ++ ys) =
      M.outputsAt keep s xs ++ M.outputsAt keep (M.final s xs) ys := by
  induction xs generalizing s with
  | nil => rfl
  | cons x xs ih =>
      rw [List.cons_append]
      cases hk : keep x with
      | true => simp only [outputsAt, final, hk, if_true, ih, List.cons_append]
      | false => simp only [outputsAt, final, hk, Bool.false_eq_true, if_false, ih]

/-- Inputs that are not accepted and leave the state alone can be left out: the accepted ones
    end in the same state, and give the same outputs. -/
theorem accepted_of_inert (M : Machine σ ι ο) (ok : ο → Bool) (s : σ) (xs : List ι)
    (h : M.Always (fun s x => ok (M.step s x).1 = false → (M.step s x).2 = s) s xs) :
    M.final s (M.accepted ok s xs) = M.final s xs ∧
      M.outputs s (M.accepted ok s xs) = (M.outputs s xs).filter ok := by
  induction xs generalizing s with
  | nil => exact ⟨rfl, rfl⟩
  | cons x xs ih =>
      obtain ⟨hfin, hout⟩ := ih _ h.2
      cases hok : ok (M.step s x).1 with
      | true =>
          simp only [accepted, final, outputs, hok, if_true, List.filter_cons_of_pos]
          exact ⟨hfin, by rw [hout]⟩
      | false =>
          have hstay := h.1 hok
          rw [hstay] at hfin hout
          simp only [accepted, final, outputs, hok, List.filter_cons, Bool.false_eq_true, if_false]
          rw [hstay]
          exact ⟨hfin, hout⟩

/-- Steps that leave the state alone can be left out: the run ends in the same state, and
    the other inputs give the same outputs. -/
theorem filter_of_inert (M : Machine σ ι ο) (keep : ι → Bool) (s : σ) (xs : List ι)
    (h : M.Always (fun s x => keep x = false → (M.step s x).2 = s) s xs) :
    M.final s (xs.filter keep) = M.final s xs ∧
      M.outputs s (xs.filter keep) = M.outputsAt keep s xs := by
  induction xs generalizing s with
  | nil => exact ⟨rfl, rfl⟩
  | cons x xs ih =>
      obtain ⟨hfin, hout⟩ := ih _ h.2
      cases hk : keep x with
      | true =>
          rw [List.filter_cons_of_pos hk]
          simp only [final, outputs, outputsAt, hk, if_true]
          exact ⟨hfin, by rw [hout]⟩
      | false =>
          have hs : (M.step s x).2 = s := h.1 hk
          rw [List.filter_cons_of_neg (by simp [hk])]
          simp only [final, outputsAt, hk, Bool.false_eq_true, if_false]
          rw [hs] at hfin hout ⊢
          exact ⟨hfin, hout⟩

/-- Leaving the inputs out that do not pass `keep` changes nothing, at any point of the run,
    exactly when each of them leaves the state alone. -/
theorem filter_iff_inert (M : Machine σ ι ο) (keep : ι → Bool) (s : σ) (xs : List ι) :
    (∀ pre, pre <+: xs → M.final s (pre.filter keep) = M.final s pre ∧
        M.outputs s (pre.filter keep) = M.outputsAt keep s pre) ↔
      M.Always (fun s x => keep x = false → (M.step s x).2 = s) s xs := by
  constructor
  · intro h
    induction xs using List.reverseRecOn with
    | nil => trivial
    | append_singleton xs x ih =>
        rw [always_append]
        refine ⟨ih fun pre hpre => h pre (hpre.trans (List.prefix_append xs [x])), ?_, trivial⟩
        intro hk
        have hxs := (h xs (List.prefix_append xs [x])).1
        have hxsx := (h (xs ++ [x]) (List.prefix_refl _)).1
        rw [List.filter_append, List.filter_cons_of_neg (by simp [hk]), List.filter_nil,
          List.append_nil, final_snoc, hxs] at hxsx
        exact hxsx.symm
  · rintro h pre ⟨post, rfl⟩
    exact M.filter_of_inert keep s pre ((M.always_append _ s pre post).mp h).1

end Machine
