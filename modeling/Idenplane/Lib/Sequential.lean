import Idenplane.Lib.Atomic

/-! # Uninterrupted programs

Pre- and postconditions of a program that nobody interrupts.  `Ensures thrown post` is the
weakest condition under which its run ends in a value with `post`, or in an exception and a
state with `thrown`.
-/

namespace Atomic.Prog

variable {σ ε α β : Type} {thrown : σ → Prop}

def Ensures (thrown : σ → Prop) (post : α → σ → Prop) : Prog σ ε α → σ → Prop
  | .done a, s => post a s
  | .fail _, s => thrown s
  | .step update next, s => (next s).Ensures thrown post (update s)

namespace Ensures

variable {p : Prog σ ε α} {s : σ}

/-- What is ensured of values and exceptions alike holds after the run. -/
theorem run {inv : σ → Prop} (h : p.Ensures inv (fun _ => inv) s) : inv (p.run s).2 := by
  induction p generalizing s with
  | done a => exact h
  | fail e => exact h
  | step update next ih => exact ih s h

variable {post : α → σ → Prop}

theorem of_run {s s' : σ} {a : α}
    (h : p.Ensures thrown post s) (ran : p.run s = (.ok a, s')) : post a s' := by
  induction p generalizing s with
  | done b =>
    cases ran
    exact h
  | fail e => cases ran
  | step update next ih => exact ih s h ran

variable {e : ε}

theorem of_error {s s' : σ}
    (h : p.Ensures thrown post s) (ran : p.run s = (.error e, s')) : thrown s' := by
  induction p generalizing s with
  | done a => cases ran
  | fail e =>
    cases ran
    exact h
  | step update next ih => exact ih s h ran

theorem of_ok {s s' : σ} {a : α}
    (ran : p.run s = (.ok a, s')) (h : post a s') : p.Ensures thrown post s := by
  induction p generalizing s with
  | done b =>
    cases ran
    exact h
  | fail e => cases ran
  | step update next ih => exact ih s ran

theorem of_failed {s s' : σ}
    (ran : p.run s = (.error e, s')) (h : thrown s') : p.Ensures thrown post s := by
  induction p generalizing s with
  | done a => cases ran
  | fail e =>
    cases ran
    exact h
  | step update next ih => exact ih s ran

theorem mono {post post' : α → σ → Prop} (h : p.Ensures thrown post s)
    (weaker : ∀ a t, post a t → post' a t) : p.Ensures thrown post' s := by
  induction p generalizing s with
  | done a => exact weaker a s h
  | fail e => exact h
  | step update next ih => exact ih s h

theorem weaken {thrown' : σ → Prop} {post post' : α → σ → Prop}
    (h : p.Ensures thrown post s) (refused : ∀ t, thrown t → thrown' t)
    (weaker : ∀ a t, post a t → post' a t) : p.Ensures thrown' post' s := by
  induction p generalizing s with
  | done a => exact weaker a s h
  | fail e => exact refused s h
  | step update next ih => exact ih s h

variable {f : α → Prog σ ε β}

theorem bind {post : β → σ → Prop}
    (h : p.Ensures thrown (fun a t => (f a).Ensures thrown post t) s) :
    (p >>= f).Ensures thrown post s := by
  induction p generalizing s with
  | done a => exact h
  | fail e => exact h
  | step update next ih => exact ih s h

/-- What a part of the program does may be irrelevant. -/
theorem bind_any {post : β → σ → Prop} (h : ∀ a t, (f a).Ensures (fun _ => True) post t) :
    (p >>= f).Ensures (fun _ => True) post s := by
  induction p generalizing s with
  | done a => exact h a s
  | fail e => trivial
  | step update next ih => exact ih s

theorem read_bind {g : σ → α} {post : β → σ → Prop}
    (h : (f (g s)).Ensures thrown post s) : (Prog.read g >>= f).Ensures thrown post s := h

theorem modify_bind {g : σ → σ} {f : Unit → Prog σ ε β} {post : β → σ → Prop}
    (h : (f ()).Ensures thrown post (g s)) : (Prog.modify g >>= f).Ensures thrown post s := h

theorem atomic_bind {g : σ → α × σ} {post : β → σ → Prop}
    (h : (f (g s).1).Ensures thrown post (g s).2) : (atomic g >>= f).Ensures thrown post s := h

theorem require_bind {check : Bool} {f : Unit → Prog σ ε β} {post : β → σ → Prop}
    (refused : thrown s) (h : check = true → (f ()).Ensures thrown post s) :
    (require check e >>= f).Ensures thrown post s := by
  cases check with
  | false => exact refused
  | true => exact h rfl

theorem require {check : Bool} {post : Unit → σ → Prop} (refused : thrown s)
    (h : check = true → post () s) : (require check e : Prog σ ε Unit).Ensures thrown post s := by
  cases check with
  | false => exact refused
  | true => exact h rfl

theorem orFail_bind {v : Option α} {post : β → σ → Prop}
    (refused : thrown s) (h : ∀ a, v = some a → (f a).Ensures thrown post s) :
    (orFail v e >>= f).Ensures thrown post s := by
  cases v with
  | none => exact refused
  | some a => exact h a rfl

theorem orFail {v : Option α} (refused : thrown s)
    (h : ∀ a, v = some a → post a s) : (orFail v e : Prog σ ε α).Ensures thrown post s := by
  cases v with
  | none => exact refused
  | some a => exact h a rfl

/-- A program whose steps all keep a relation ends wherever the relation leads. -/
theorem of_keeps {K : σ → σ → Prop} (refl : ∀ s, K s s) (trans : ∀ {a b c}, K a b → K b c → K a c) (keeps : p.Keeps K)
    (refused : ∀ t, K s t → thrown t) (h : ∀ a t, p.run s = (.ok a, t) → K s t → post a t) :
    p.Ensures thrown post s := by
  induction p generalizing s with
  | done a => exact h a s rfl (refl s)
  | fail e => exact refused s (refl s)
  | step update next ih =>
    have first := keeps.1 s
    exact ih s (keeps.2 s) (fun t move => refused t (trans first move))
      fun a t ran move => h a t ran (trans first move)

/-- A program that only reads ends where it began. -/
theorem of_reads (reads : p.Keeps Eq)
    (refused : thrown s) (h : ∀ a, p.run s = (.ok a, s) → post a s) : p.Ensures thrown post s :=
  of_keeps (fun _ => rfl) Eq.trans reads (fun _ same => same ▸ refused) fun a t ran same => by
      cases same
      exact h a ran

end Ensures

end Atomic.Prog

namespace Atomic

export Prog (Ensures.bind Ensures.require_bind Ensures.orFail_bind Ensures.atomic_bind
  Ensures.read_bind Ensures.run Ensures.of_keeps)

end Atomic
