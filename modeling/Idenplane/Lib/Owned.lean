import Idenplane.Lib.Pool

/-! # Critical sections

A program may own a part of the state for a while: the others leave it alone, and each of its own
steps keeps it.  `Owned` says so of a program that begins and ends as the owner, whatever it
returns, so that such programs compose.
-/

namespace Atomic.Prog

variable {ι σ ε ε' α β : Type}

/-- The others leave alone what program `i` owns. -/
def Stable (P : Protocol ι σ) (i : ι) (own : σ → Prop) : Prop :=
  ∀ s s', own s → P.rely i s s' → P.inv s' → own s'

def OwnStep (P : Protocol ι σ) (i : ι) (own : σ → Prop) (s s' : σ) : Prop :=
  P.inv s' ∧ own s' ∧ ∀ j, j ≠ i → P.rely j s s'

def Owned (P : Protocol ι σ) (allowed : σ → σ → Prop) (i : ι) (own : σ → Prop)
    (p : Prog σ ε α) : Prop :=
  ∀ s, own s → p.Sat P allowed i (fun _ => own) s

namespace Owned

variable {P : Protocol ι σ} {allowed : σ → σ → Prop} {i : ι} {own : σ → Prop}

theorem done (stable : Stable P i own) (a : α) : (Prog.done a : Prog σ ε α).Owned P allowed i own :=
  fun s owns s' moved inv => stable s s' owns moved inv

theorem fail (stable : Stable P i own) (e : ε) : (Prog.fail e : Prog σ ε α).Owned P allowed i own :=
  fun s owns s' moved inv => stable s s' owns moved inv

theorem bind {p : Prog σ ε α} {f : α → Prog σ ε β} (first : p.Owned P allowed i own)
    (rest : ∀ a, (f a).Owned P allowed i own) : (p >>= f).Owned P allowed i own := by
  intro s owns
  apply Sat.bind
  apply (first s owns).mono
  intro res t owned
  cases res with
  | ok a => exact rest a t owned
  | error e => exact owned

theorem attempt {p : Prog σ ε α} (h : p.Owned P allowed i own) :
    (p.attempt : Prog σ ε' (Except ε α)).Owned P allowed i own := by
  intro s owns
  have sat := h s owns
  clear owns h
  induction p generalizing s with
  | done a => exact sat
  | fail e => exact sat
  | step update next ih =>
    intro t moved inv ok
    obtain ⟨kept, os, rest⟩ := sat t moved inv ok
    exact ⟨kept, os, ih t (update t) rest⟩

section

variable (stable : Stable P i own)

include stable

theorem atomic {g : σ → α × σ} (step : ∀ s, P.inv s → own s → OwnStep P i own s (g s).2) :
    (atomic g : Prog σ ε α).Owned P allowed i own := by
  intro s owns t moved inv _
  obtain ⟨kept, owned, os⟩ := step t inv (stable s t owns moved inv)
  exact ⟨kept, os, fun s' moved inv => stable _ s' owned moved inv⟩

theorem modify {g : σ → σ} (step : ∀ s, P.inv s → own s → OwnStep P i own s (g s)) :
    (Prog.modify g : Prog σ ε Unit).Owned P allowed i own :=
  atomic stable (g := fun s => ((), g s)) step

theorem read (g : σ → α) : (Prog.read g : Prog σ ε α).Owned P allowed i own :=
  atomic stable (g := fun s => (g s, s)) fun s inv owns => ⟨inv, owns, fun j _ => P.refl j s⟩

theorem require (check : Bool) (e : ε) :
    (require check e : Prog σ ε Unit).Owned P allowed i own := by
  cases check with
  | true => exact done stable ()
  | false => exact fail stable e

end

end Owned

end Atomic.Prog

namespace Atomic

export Prog (Owned.bind)

end Atomic
