import Mathlib.Data.List.Basic

/-! # Runs, one action after another

What each step preserves under a condition on it, a run whose steps all meet the condition
preserves.
-/

namespace Runs

variable {σ α : Type} {step : σ → α → σ} {P : σ → α → Prop} {I : σ → Prop} {s : σ}
  {actions : List α}

/-- Every step of the run meets the condition. -/
def Throughout (step : σ → α → σ) (P : σ → α → Prop) : σ → List α → Prop
  | _, [] => True
  | s, action :: actions => P s action ∧ Throughout step P (step s action) actions

theorem Throughout.keeps (keeps : ∀ s action, P s action → I s → I (step s action))
    (ok : Throughout step P s actions) (init : I s) : I (actions.foldl step s) := by
  induction actions generalizing s with
  | nil => exact init
  | cons action actions ih => exact ih ok.2 (keeps s action ok.1 init)

end Runs
