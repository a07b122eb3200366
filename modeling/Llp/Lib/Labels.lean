/-
  Lists cut into pieces at a separator.

  * `splitOn_isSuffix_iff`: the pieces of `ys` are the last pieces of `xs` exactly when `xs` is
    `ys`, or ends in a separator and `ys`.
-/
import Mathlib.Data.List.Infix

namespace List

variable {α : Type}

theorem intercalate_append {sep : List α} {ls ms : List (List α)} (hl : ls ≠ [])
    (hm : ms ≠ []) :
    sep.intercalate (ls ++ ms) = sep.intercalate ls ++ sep ++ sep.intercalate ms := by
  induction ls with
  | nil => exact absurd rfl hl
  | cons l ls ih =>
      by_cases hls : ls = []
      · subst hls
        rw [List.singleton_append, intercalate_cons_of_ne_nil hm, intercalate_singleton]
      · rw [List.cons_append, intercalate_cons_of_ne_nil (by simp [hls]), ih hls,
          intercalate_cons_of_ne_nil hls]
        simp

section Pieces

variable [DecidableEq α]

/-- The pieces determine the list. -/
theorem splitOn_injective (a : α) : Function.Injective (splitOn a) := by
  intro xs ys h
  calc
    xs = [a].intercalate (splitOn a xs) := (intercalate_splitOn a).symm
    _ = [a].intercalate (splitOn a ys) := by rw [h]
    _ = ys := intercalate_splitOn a

theorem splitOn_isSuffix_iff (a : α) (xs ys : List α) :
    splitOn a ys <:+ splitOn a xs ↔ xs = ys ∨ ∃ pre, xs = pre ++ a :: ys := by
  constructor
  · rintro ⟨ls, hls⟩
    by_cases hnil : ls = []
    · rw [hnil, List.nil_append] at hls
      exact Or.inl (splitOn_injective a hls).symm
    · refine Or.inr ⟨[a].intercalate ls, ?_⟩
      calc xs = [a].intercalate (splitOn a xs) := (intercalate_splitOn a).symm
        _ = [a].intercalate (ls ++ splitOn a ys) := by rw [hls]
        _ = [a].intercalate ls ++ [a] ++ [a].intercalate (splitOn a ys) :=
          intercalate_append hnil (splitOn_ne_nil a ys)
        _ = [a].intercalate ls ++ a :: ys := by rw [intercalate_splitOn]; simp
  · rintro (rfl | ⟨pre, rfl⟩)
    · exact List.suffix_refl _
    · rw [splitOn_append_cons_self]
      exact List.suffix_append _ _

end Pieces

end List
