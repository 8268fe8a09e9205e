import Idenplane.Lib.Pool

/-! # Programs on a part of the state

A program that knows only a part of the state runs on the whole of it.
-/

namespace Atomic

variable {σ τ ε α : Type}

structure Part (τ σ : Type) where
  get : τ → σ
  put : σ → τ → τ
  get_put : ∀ s t, get (put s t) = s

namespace Prog

def onPart (part : Part τ σ) : Prog σ ε α → Prog τ ε α
  | .done a => .done a
  | .fail e => .fail e
  | .step update next =>
    .step (fun t => part.put (update (part.get t)) t) fun t => (next (part.get t)).onPart part

variable {part : Part τ σ} {p : Prog σ ε α}

theorem onPart_run_fst (part : Part τ σ) (p : Prog σ ε α) (t : τ) : ((p.onPart part).run t).1 = (p.run (part.get t)).1 := by
  induction p generalizing t with
  | done a => rfl
  | fail e => rfl
  | step update next ih =>
    have rest := ih (part.get t) (part.put (update (part.get t)) t)
    rwa [part.get_put] at rest

theorem onPart_run_get (part : Part τ σ) (p : Prog σ ε α) (t : τ) : part.get ((p.onPart part).run t).2 = (p.run (part.get t)).2 := by
  induction p generalizing t with
  | done a => rfl
  | fail e => rfl
  | step update next ih =>
    have rest := ih (part.get t) (part.put (update (part.get t)) t)
    rwa [part.get_put] at rest

/-- The rest of the state is moved by the replacements alone. -/
theorem onPart_keeps {K : τ → τ → Prop} (replaced : ∀ s t, K t (part.put s t)) :
    (p.onPart part).Keeps K := by
  induction p with
  | done a => trivial
  | fail e => trivial
  | step update next ih => exact ⟨fun t => replaced _ t, fun t => ih (part.get t)⟩

/-- Among others, such a program keeps the protocol when each replacement does. -/
theorem Sat.onPart {ι : Type} {P : Protocol ι τ} {allowed : τ → τ → Prop} {i : ι}
    {post : Except ε α → τ → Prop}
    (replaced : ∀ s t, P.inv t → P.inv (part.put s t) ∧ ∀ k, k ≠ i → P.rely k t (part.put s t))
    (h : ∀ r t, P.inv t → post r t) (s : τ) : (p.onPart part).Sat P allowed i post s := by
  induction p generalizing s with
  | done a => exact fun t _ inv => h _ t inv
  | fail e => exact fun t _ inv => h _ t inv
  | step update next ih =>
    intro t _ inv _
    obtain ⟨kept, os⟩ := replaced (update (part.get t)) t inv
    exact ⟨kept, os, ih _ _⟩

end Prog

end Atomic
