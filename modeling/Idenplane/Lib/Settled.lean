import Idenplane.Lib.Loops
import Idenplane.Lib.Pool

/-! # Programs that run side by side within a program

`Promise.allSettled` starts its programs together and waits for all of them.  Their steps
interleave in an order that nobody chooses, so the order is an argument and results hold for all.
-/

namespace Atomic.Prog

open Prog List

variable {σ ε ε' α : Type}

def settleRest : List (Prog σ ε α) → Prog σ ε' Unit
  | [] => .done ()
  | p :: rest => p.attempt >>= fun _ => settleRest rest

/-- The programs take steps in this order, and then end one after the other. -/
def allSettled : List Nat → List (Prog σ ε α) → Prog σ ε' Unit
  | [], programs => settleRest programs
  | turn :: order, programs =>
    match programs[turn]? with
    | some (.step update next) =>
      .step update fun s => allSettled order (programs.set turn (next s))
    | _ => allSettled order programs

variable {programs : List (Prog σ ε α)} {p : Prog σ ε α}

/-- The program whose turn it is takes a step, and the others keep theirs. -/
theorem forall_set {Q : Prog σ ε α → Prop}
    (all : ∀ q ∈ programs, Q q) (holds : Q p) (turn : Nat) : ∀ q ∈ programs.set turn p, Q q := by
  intro q mem
  rcases mem_or_eq_of_mem_set mem with old | rfl
  · exact all q old
  · exact holds

/-- Every step from a state with `inv` leads to such a state. -/
def Maintains (inv : σ → Prop) : Prog σ ε α → Prop
  | .done _ => True
  | .fail _ => True
  | .step update next => ∀ s, inv s → inv (update s) ∧ (next s).Maintains inv

namespace Maintains

variable {β : Type} {inv : σ → Prop}

theorem run (h : p.Maintains inv) {s : σ} (holds : inv s) : inv (p.run s).2 := by
  induction p generalizing s with
  | done a => exact holds
  | fail e => exact holds
  | step update next ih => exact ih s (h s holds).2 (h s holds).1

variable {f : α → Prog σ ε β}

theorem bind (first : p.Maintains inv)
    (rest : ∀ a, (f a).Maintains inv) : (p >>= f).Maintains inv := by
  induction p with
  | done a => exact rest a
  | fail e => trivial
  | step update next ih => exact fun s holds => ⟨(first s holds).1, ih s (first s holds).2⟩

theorem attempt (h : p.Maintains inv) : (p.attempt : Prog σ ε' (Except ε α)).Maintains inv := by
  induction p with
  | done a => trivial
  | fail e => trivial
  | step update next ih => exact fun s holds => ⟨(h s holds).1, ih s (h s holds).2⟩

theorem read_bind {g : σ → α} (rest : ∀ s, inv s → (f (g s)).Maintains inv) :
    (read g >>= f).Maintains inv := fun s holds => ⟨holds, rest s holds⟩

theorem atomic_bind {g : σ → α × σ} (step : ∀ s, inv s → inv (g s).2 ∧ (f (g s).1).Maintains inv) :
    (atomic g >>= f).Maintains inv := step

theorem modify {g : σ → σ} (step : ∀ s, inv s → inv (g s)) :
    (modify g : Prog σ ε Unit).Maintains inv := fun s holds => ⟨step s holds, trivial⟩

theorem orFail (v : Option α) (e : ε) : (orFail v e : Prog σ ε α).Maintains inv := by
  cases v <;> trivial

theorem forEach {γ : Type} {body : Nat → α → γ → Prog σ ε γ}
    (turn : ∀ n item res, (body n item res).Maintains inv) (start : Nat) (xs : List α)
    (res : γ) : (forEach body start xs res).Maintains inv := by
  induction xs generalizing start res with
  | nil => trivial
  | cons item xs ih => exact (turn start item res).bind fun res => ih _ res

theorem settleRest (all : ∀ p ∈ programs, p.Maintains inv) :
    (settleRest programs : Prog σ ε' Unit).Maintains inv := by
  induction programs with
  | nil => trivial
  | cons p rest ih =>
    have first : p.Maintains inv := all p mem_cons_self
    exact first.attempt.bind fun _ => ih fun q mem => all q (.tail _ mem)

theorem allSettled (all : ∀ p ∈ programs, p.Maintains inv)
    (order : List Nat) : (allSettled order programs : Prog σ ε' Unit).Maintains inv := by
  induction order generalizing programs with
  | nil => exact settleRest all
  | cons turn order ih =>
    unfold allSettled
    cases hit : programs[turn]? with
    | none => exact ih all
    | some p =>
      have here : p.Maintains inv := all p (mem_of_getElem? hit)
      cases p with
      | done a => exact ih all
      | fail e => exact ih all
      | step update next =>
        exact fun s holds => ⟨(here s holds).1, ih (forall_set all (here s holds).2 turn)⟩

end Maintains

namespace Sat

variable {ι : Type} {P : Protocol ι σ} {allowed : σ → σ → Prop} {i : ι}

section Common

variable [Nontrivial ι] (common : ∀ i j s s', P.rely i s s' → P.rely j s s')

include common

theorem moves {post : Except ε α → σ → Prop} {s₀ s : σ}
    (sat : p.Sat P allowed i post s) (since : P.rely i s₀ s) :
    p.Sat P allowed i (fun res t => post res t ∧ P.rely i s₀ t) s := by
  induction p generalizing s with
  | done a => exact fun t moved inv => ⟨sat t moved inv, P.trans i since moved⟩
  | fail e => exact fun t moved inv => ⟨sat t moved inv, P.trans i since moved⟩
  | step update next ih =>
    intro t moved inv ok
    obtain ⟨kept, os, rest⟩ := sat t moved inv ok
    obtain ⟨j, other⟩ := exists_ne i
    have own : P.rely i t (update t) := common j i _ _ (os j other)
    exact ⟨kept, os, ih t rest (P.trans i (P.trans i since moved) own)⟩

theorem settleRest {s : σ} (all : ∀ p ∈ programs, p.Sat P allowed i (fun _ _ => True) s) :
    (settleRest programs : Prog σ ε' Unit).Sat P allowed i (fun _ _ => True) s := by
  induction programs generalizing s with
  | nil => exact fun _ _ _ => trivial
  | cons p rest ih =>
    have first : (p.attempt : Prog σ ε' (Except ε α)).Sat P allowed i (fun _ _ => True) s :=
      (all p mem_cons_self).attempt
    refine bind ((moves common first (P.refl i s)).mono fun res t ended => ?_)
    cases res with
    | error e => trivial
    | ok out =>
      refine ih fun q mem => ?_
      exact (all q (.tail _ mem)).stable ended.2

theorem allSettled {s : σ}
    (all : ∀ p ∈ programs, p.Sat P allowed i (fun _ _ => True) s) (order : List Nat) :
    (allSettled order programs : Prog σ ε' Unit).Sat P allowed i (fun _ _ => True) s := by
  induction order generalizing programs s with
  | nil => exact settleRest common all
  | cons turn order ih =>
    unfold allSettled
    cases hit : programs[turn]? with
    | none => exact ih all
    | some p =>
      have here := all p (mem_of_getElem? hit)
      cases p with
      | done a => exact ih all
      | fail e => exact ih all
      | step update next =>
        intro t moved inv ok
        obtain ⟨kept, os, rest⟩ := here t moved inv ok
        obtain ⟨j, other⟩ := exists_ne i
        have own : P.rely i t (update t) := common j i _ _ (os j other)
        refine ⟨kept, os, ih (forall_set (fun q mem => ?_) rest turn)⟩
        exact (all q mem).stable (P.trans i moved own)

end Common

end Sat

end Atomic.Prog

namespace Atomic

export Prog (Maintains.bind Maintains.read_bind Maintains.atomic_bind)

end Atomic
