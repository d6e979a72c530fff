import Mathlib.Data.List.Basic

/-!
# Records of runs

A run makes moves one after the other, each in the state that those before it have left
(`List.foldl`). What is noted of the moves on the way makes up the record of the run.
-/

namespace Rollout

variable {σ μ α : Type} (step : σ → μ → σ) (note : σ → μ → List α)

/-- All that is noted in a run, in order. What is noted of a move depends on the state that it is
made in. -/
def recordFrom (s : σ) : List μ → List α
  | [] => []
  | m :: moves => note s m ++ recordFrom (step s m) moves

theorem recordFrom_append (s : σ) (before after : List μ) :
    recordFrom step note s (before ++ after) =
      recordFrom step note s before ++ recordFrom step note (before.foldl step s) after := by
  induction before generalizing s with
  | nil => rfl
  | cons m before ih =>
    rw [List.cons_append, recordFrom, recordFrom, ih, List.append_assoc]
    rfl

theorem recordFrom_concat (s : σ) (moves : List μ) (m : μ) :
    recordFrom step note s (moves ++ [m]) =
      recordFrom step note s moves ++ note (moves.foldl step s) m := by
  rw [recordFrom_append, recordFrom, recordFrom, List.append_nil]

theorem filterMap_concat {β : Type} (f : α → Option β) (l : List α) (a : α) :
    (l ++ [a]).filterMap f = l.filterMap f ++ (f a).toList := by
  rw [List.filterMap_append]
  cases h : f a <;> simp [h]

end Rollout
