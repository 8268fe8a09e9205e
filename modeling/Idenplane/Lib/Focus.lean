import Idenplane.Lib.Sequential

/-! # Programs on a part of the state

A program that knows one part of the state runs on the whole of it: every step reads the part and
puts what it makes of it back in its place.
-/

namespace Atomic.Prog

variable {σ τ ε α : Type} (get : τ → σ) (put : σ → τ → τ)

def focus : Prog σ ε α → Prog τ ε α
  | .done a => .done a
  | .fail e => .fail e
  | .step update next =>
    .step (fun whole => put (update (get whole)) whole) fun whole => (next (get whole)).focus

/-- What the program keeps of the part, the focused program keeps of the whole. -/
theorem Keeps.focus {K : σ → σ → Prop} {L : τ → τ → Prop}
    (whole : ∀ t part, K (get t) part → L t (put part t)) {p : Prog σ ε α} (keeps : p.Keeps K) :
    (p.focus get put).Keeps L := by
  induction p with
  | done a => trivial
  | fail e => trivial
  | step update next ih =>
    exact ⟨fun t => whole t _ (keeps.1 (get t)), fun t => ih (get t) (keeps.2 (get t))⟩

/-- What the program ensures of the part, the focused program ensures of the whole. -/
theorem Ensures.focus {thrown : τ → Prop} {post : α → τ → Prop}
    (get_put : ∀ part whole, get (put part whole) = part)
    (put_put : ∀ part part' whole, put part' (put part whole) = put part' whole)
    (put_get : ∀ whole, put (get whole) whole = whole) {p : Prog σ ε α} {whole : τ}
    (h : p.Ensures (fun part => thrown (put part whole)) (fun a part => post a (put part whole))
      (get whole)) : (p.focus get put).Ensures thrown post whole := by
  have from_ (p : Prog σ ε α) (part : σ) (h : p.Ensures (fun part => thrown (put part whole))
      (fun a part => post a (put part whole)) part) :
      (p.focus get put).Ensures thrown post (put part whole) := by
    induction p generalizing part with
    | done a => exact h
    | fail e => exact h
    | step update next ih =>
      show ((next (get (put part whole))).focus get put).Ensures thrown post
        (put (update (get (put part whole))) (put part whole))
      rw [get_put, put_put]
      exact ih part (update part) h
  rw [← put_get whole]
  exact from_ p (get whole) h

end Atomic.Prog
