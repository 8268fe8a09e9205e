import Idenplane.Lib.Pool

/-! # Programs with a common step relation

Often one relation says what any atomic step of any program may do, and when: a step may need
something that earlier steps have left behind.  `Takes` says that the steps of a program are such
steps, whatever the other programs do in between.  A pool of such programs moves the state by
such steps alone, so that an invariant is proved once for each kind of step.
-/

namespace Atomic

open Relation (ReflTransGen)

variable {ι σ ε α β : Type}

namespace Prog

def Takes (Step : σ → σ → Prop) (post : α → σ → Prop) : Prog σ ε α → σ → Prop
  | .done a, s => post a s
  | .fail _, _ => True
  | .step update next, s => ∀ t, ReflTransGen Step s t →
      Step t (update t) ∧ (next t).Takes Step post (update t)

namespace Takes

variable {Step : σ → σ → Prop} {post : α → σ → Prop} {s : σ} {p : Prog σ ε α}

theorem mono {post' : α → σ → Prop} (weaker : ∀ a t, post a t → post' a t)
    (h : p.Takes Step post s) : p.Takes Step post' s := by
  induction p generalizing s with
  | done a => exact weaker _ _ h
  | fail e => trivial
  | step update next ih =>
    intro t moved
    obtain ⟨step, rest⟩ := h t moved
    exact ⟨step, ih t rest⟩

variable {f : α → Prog σ ε β}

theorem bind {post : β → σ → Prop}
    (h : p.Takes Step (fun a t => (f a).Takes Step post t) s) : (p >>= f).Takes Step post s := by
  induction p generalizing s with
  | done a => exact h
  | fail e => trivial
  | step update next ih =>
    intro t moved
    obtain ⟨step, rest⟩ := h t moved
    exact ⟨step, ih t rest⟩

theorem andThen {post : β → σ → Prop}
    (first : p.Takes Step (fun _ _ => True) s) (rest : ∀ a t, (f a).Takes Step post t) :
    (p >>= f).Takes Step post s :=
  bind (first.mono fun a t _ => rest a t)

theorem read_bind (refl : ∀ s, Step s s) {post : β → σ → Prop} {g : σ → α} (h : ∀ t, ReflTransGen Step s t → (f (g t)).Takes Step post t) :
    (Prog.read g >>= f).Takes Step post s :=
  fun t moved => ⟨refl t, h t moved⟩

section

variable {post : β → σ → Prop}

theorem atomic_bind {g : σ → α × σ}
    (h : ∀ t, ReflTransGen Step s t → Step t (g t).2 ∧ (f (g t).1).Takes Step post (g t).2) :
    (atomic g >>= f).Takes Step post s := h

theorem modify_bind {g : σ → σ} {f : Unit → Prog σ ε β}
    (h : ∀ t, ReflTransGen Step s t → Step t (g t) ∧ (f ()).Takes Step post (g t)) :
    (Prog.modify g >>= f).Takes Step post s := h

theorem require_bind {check : Bool} {e : ε} {f : Unit → Prog σ ε β}
    (h : check = true → (f ()).Takes Step post s) :
    (require check e >>= f).Takes Step post s := by
  cases check with
  | true => exact h rfl
  | false => trivial

theorem orFail_bind {v : Option α} {e : ε} (h : ∀ a, v = some a → (f a).Takes Step post s) :
    (orFail v e >>= f).Takes Step post s := by
  cases v with
  | some a => exact h a rfl
  | none => trivial

end

/-- A program all of whose steps are possible at any time. -/
theorem of_keeps (keeps : p.Keeps Step) : p.Takes Step (fun _ _ => True) s := by
  induction p generalizing s with
  | done a => trivial
  | fail e => trivial
  | step update next ih => exact fun t _ => ⟨keeps.1 t, ih t (keeps.2 t)⟩

/-- What the others do in between takes nothing away. -/
theorem later {t : σ} (h : p.Takes Step (fun _ _ => True) s)
    (moved : ReflTransGen Step s t) : p.Takes Step (fun _ _ => True) t := by
  cases p with
  | done a => trivial
  | fail e => trivial
  | step update next => exact fun u more => h u (moved.trans more)

end Takes

end Prog

variable [DecidableEq ι]

/-- A pool of such programs moves the state by such steps. -/
theorem Pool.takes {Step env allowed : σ → σ → Prop} {c c' : Pool ι σ ε α}
    (environment : ∀ s s', env s s' → Step s s')
    (programs : ∀ i, (c.procs i).Takes Step (fun _ _ => True) c.state)
    (reached : Pool.Reaches env allowed c c') : ReflTransGen Step c.state c'.state ∧
      ∀ i, (c'.procs i).Takes Step (fun _ _ => True) c'.state := by
  induction reached with
  | refl => exact ⟨.refl, programs⟩
  | tail _ step ih =>
    obtain ⟨moved, takes⟩ := ih
    cases step with
    | env next =>
      have here := environment _ _ next
      exact ⟨moved.tail here, fun i => (takes i).later (.single here)⟩
    | @proc i update next running ok =>
      have own := takes i
      rw [running] at own
      obtain ⟨here, rest⟩ := own _ .refl
      refine ⟨moved.tail here, fun j => ?_⟩
      by_cases same : j = i
      · subst same
        simpa using rest
      · simpa [Function.update_of_ne same] using (takes j).later (.single here)

end Atomic
