import Mathlib.Logic.Function.Basic
import Mathlib.Logic.Relation

/-! # Programs over shared state, one atomic step at a time

A request handler is a sequence of calls on a shared store, each of which is
atomic, with pure computation in between.  `Prog` is that shape: a finished
program, a failed one, or one atomic step followed by the rest, which may depend
on the state the step saw.

The same program is read in two ways.  `Prog.run` executes it without
interruption.  `Pool` executes any number of programs side by side: between two
steps of one program every other program, and the environment, may act.  The
rule `Pool.sound` is the rely/guarantee rule for such pools.
-/

namespace Atomic

/-- A program on states `σ` that ends with a value `α` or an error `ε`. -/
inductive Prog (σ ε α : Type) where
  | done (value : α)
  | fail (error : ε)
  /-- One atomic step: `update` is its effect, `next` what follows the state it saw. -/
  | step (update : σ → σ) (next : σ → Prog σ ε α)

namespace Prog

variable {σ ε α β : Type}

def bind : Prog σ ε α → (α → Prog σ ε β) → Prog σ ε β
  | .done a, f => f a
  | .fail e, _ => .fail e
  | .step update next, f => .step update fun s => (next s).bind f

instance : Monad (Prog σ ε) where
  pure := .done
  bind := .bind

@[simp] theorem pure_def (a : α) : (pure a : Prog σ ε α) = .done a := rfl

open Prog

@[simp] theorem done_bind (a : α) (f : α → Prog σ ε β) : (done a >>= f) = f a := rfl

@[simp] theorem fail_bind (e : ε) (f : α → Prog σ ε β) :
    ((fail e : Prog σ ε α) >>= f) = .fail e := rfl

@[simp] theorem step_bind (update : σ → σ) (next : σ → Prog σ ε α) (f : α → Prog σ ε β) :
    (step update next >>= f) = .step update fun s => next s >>= f := rfl

variable {p : Prog σ ε α} {f : α → Prog σ ε β} {b : β}

theorem bind_eq_done (fin : (p >>= f) = .done b) : ∃ a, p = .done a ∧ f a = .done b := by
  cases p with
  | done a => exact ⟨a, rfl, fin⟩
  | fail e => cases fin
  | step update next => cases fin

theorem bind_assoc {γ : Type} (p : Prog σ ε α) (f : α → Prog σ ε β) (g : β → Prog σ ε γ) :
    ((p >>= f) >>= g) = p >>= fun a => f a >>= g := by
  induction p with
  | done a => rfl
  | fail e => rfl
  | step update next ih =>
    simp only [step_bind]
    congr 1
    funext s
    exact ih s

def atomic (f : σ → α × σ) : Prog σ ε α :=
  .step (fun s => (f s).2) fun s => .done (f s).1

def read (f : σ → α) : Prog σ ε α :=
  .step id fun s => .done (f s)

def modify (f : σ → σ) : Prog σ ε Unit :=
  .step f fun _ => .done ()

/-- Refuse with `e` unless the check passes. -/
def require (check : Bool) (e : ε) : Prog σ ε Unit :=
  if check then .done () else .fail e

/-- The value of an optional result, or the error `e`. -/
def orFail (value : Option α) (e : ε) : Prog σ ε α :=
  match value with
  | some a => .done a
  | none => .fail e

theorem require_true (e : ε) : (require true e : Prog σ ε Unit) = .done () := rfl

theorem require_false (e : ε) : (require false e : Prog σ ε Unit) = .fail e := rfl

theorem orFail_some (a : α) (e : ε) : (orFail (some a) e : Prog σ ε α) = .done a := rfl

theorem orFail_none (e : ε) : (orFail none e : Prog σ ε α) = .fail e := rfl

/-- A program that returns early: what it refuses with is its value. -/
def attempt {ε' : Type} : Prog σ ε α → Prog σ ε' (Except ε α)
  | .done a => .done (.ok a)
  | .fail e => .done (.error e)
  | .step update next => .step update fun s => (next s).attempt

/-- Uninterrupted execution.  The state survives an error: what a handler wrote
before it failed stays written. -/
def run : Prog σ ε α → σ → Except ε α × σ
  | .done a, s => (.ok a, s)
  | .fail e, s => (.error e, s)
  | .step update next, s => (next s).run (update s)

@[simp] theorem run_done (a : α) (s : σ) : (done a : Prog σ ε α).run s = (.ok a, s) := rfl

@[simp] theorem run_fail (e : ε) (s : σ) : (fail e : Prog σ ε α).run s = (.error e, s) := rfl

@[simp] theorem run_step (update : σ → σ) (next : σ → Prog σ ε α) (s : σ) :
    (step update next).run s = (next s).run (update s) := rfl

theorem run_bind (p : Prog σ ε α) (f : α → Prog σ ε β) (s : σ) :
    (p >>= f).run s = match p.run s with
      | (.ok a, s') => (f a).run s'
      | (.error e, s') => (.error e, s') := by
  induction p generalizing s with
  | done a => rfl
  | fail e => rfl
  | step update next ih => exact ih s (update s)

/-- A composition succeeds exactly when both halves do, one after the other. -/
theorem run_bind_ok {s s'' : σ} : (p >>= f).run s = (.ok b, s'') ↔
      ∃ a s', p.run s = (.ok a, s') ∧ (f a).run s' = (.ok b, s'') := by
  rw [run_bind]
  rcases h : p.run s with ⟨r, s'⟩
  cases r with
  | ok a =>
    constructor
    · exact fun rest => ⟨a, s', rfl, rest⟩
    · rintro ⟨_, _, same, rest⟩
      cases same
      exact rest
  | error e => simp

@[simp] theorem run_atomic (f : σ → α × σ) (s : σ) :
    (atomic f : Prog σ ε α).run s = (.ok (f s).1, (f s).2) := rfl

@[simp] theorem run_read (f : σ → α) (s : σ) : (read f : Prog σ ε α).run s = (.ok (f s), s) := rfl

@[simp] theorem run_modify (f : σ → σ) (s : σ) :
    (modify f : Prog σ ε Unit).run s = (.ok (), f s) := rfl

variable {e : ε} {s s' : σ}

theorem run_require_ok {check : Bool} {u : Unit} :
    (require check e : Prog σ ε Unit).run s = (.ok u, s') ↔ check = true ∧ s' = s := by
  cases check <;> simp [require, eq_comm]

variable {v : Option α}

theorem run_orFail_ok {a : α} :
    (orFail v e : Prog σ ε α).run s = (.ok a, s') ↔ v = some a ∧ s' = s := by
  cases v <;> simp [orFail, eq_comm]

@[simp] theorem run_read_bind (g : σ → α) (f : α → Prog σ ε β) (s : σ) :
    (read g >>= f).run s = (f (g s)).run s := rfl

@[simp] theorem run_atomic_bind (g : σ → α × σ) (f : α → Prog σ ε β) (s : σ) :
    (atomic g >>= f).run s = (f (g s).1).run (g s).2 := rfl

@[simp] theorem run_modify_bind (g : σ → σ) (f : Unit → Prog σ ε β) (s : σ) :
    (modify g >>= f).run s = (f ()).run (g s) := rfl

theorem run_require_bind_ok {check : Bool} {f : Unit → Prog σ ε β} :
    (require check e >>= f).run s = (.ok b, s') ↔ check = true ∧ (f ()).run s = (.ok b, s') := by
  cases check <;> simp [require]

theorem run_orFail_bind_ok :
    (orFail v e >>= f).run s = (.ok b, s') ↔ ∃ a, v = some a ∧ (f a).run s = (.ok b, s') := by
  cases v <;> simp [orFail]

variable {ε' : Type}

@[simp] theorem run_attempt (p : Prog σ ε α) (s : σ) :
    (p.attempt : Prog σ ε' (Except ε α)).run s = (.ok (p.run s).1, (p.run s).2) := by
  induction p generalizing s with
  | done a => rfl
  | fail e => rfl
  | step update next ih => exact ih s (update s)

theorem run_attempt_bind (p : Prog σ ε α) (f : Except ε α → Prog σ ε' β) (s : σ) :
    (p.attempt >>= f).run s = (f (p.run s).1).run (p.run s).2 := by
  rw [run_bind, run_attempt]

theorem run_require_snd (check : Bool) (e : ε) (s : σ) :
    ((require check e : Prog σ ε Unit).run s).2 = s := by
  cases check <;> rfl

theorem run_require_bind_snd (check : Bool) (e : ε) (f : Unit → Prog σ ε β) (s : σ) :
    ((require check e >>= f).run s).2 = if check then ((f ()).run s).2 else s := by
  cases check <;> rfl

/-- Every step the program can take relates the state before it to the state
after it by `K`. -/
def Keeps (K : σ → σ → Prop) : Prog σ ε α → Prop
  | .done _ => True
  | .fail _ => True
  | .step update next => (∀ s, K s (update s)) ∧ ∀ s, (next s).Keeps K

namespace Keeps

variable {K : σ → σ → Prop}

theorem bind (first : p.Keeps K) (rest : ∀ a, (f a).Keeps K) : (p >>= f).Keeps K := by
  induction p with
  | done a => exact rest a
  | fail e => trivial
  | step update next ih => exact ⟨first.1, fun s => ih s (first.2 s)⟩

theorem read (refl : ∀ s, K s s) (f : σ → α) : (read f : Prog σ ε α).Keeps K :=
  ⟨refl, fun _ => trivial⟩

theorem modify {f : σ → σ} (h : ∀ s, K s (f s)) : (modify f : Prog σ ε Unit).Keeps K :=
  ⟨h, fun _ => trivial⟩

theorem atomic {f : σ → α × σ} (h : ∀ s, K s (f s).2) : (atomic f : Prog σ ε α).Keeps K :=
  ⟨h, fun _ => trivial⟩

theorem require (check : Bool) (e : ε) : (require check e : Prog σ ε Unit).Keeps K := by
  cases check <;> trivial

theorem orFail (v : Option α) (e : ε) : (orFail v e : Prog σ ε α).Keeps K := by
  cases v <;> trivial

theorem attempt (h : p.Keeps K) : (p.attempt : Prog σ ε' (Except ε α)).Keeps K := by
  induction p with
  | done a => trivial
  | fail e => trivial
  | step update next ih => exact ⟨h.1, fun s => ih s (h.2 s)⟩

theorem mono {L : σ → σ → Prop} (weaker : ∀ s s', K s s' → L s s') {p : Prog σ ε α}
    (h : p.Keeps K) : p.Keeps L := by
  induction p with
  | done a => trivial
  | fail e => trivial
  | step update next ih => exact ⟨fun s => weaker _ _ (h.1 s), fun s => ih s (h.2 s)⟩

theorem run (refl : ∀ s, K s s) (trans : ∀ {a b c}, K a b → K b c → K a c) (h : p.Keeps K) (s : σ) : K s (p.run s).2 := by
  induction p generalizing s with
  | done a => exact refl s
  | fail e => exact refl s
  | step update next ih => exact trans (h.1 s) (ih s (h.2 s) (update s))

end Keeps

/-- The run of the program from `s`, whether it fails or not, ends in a state that `K`
relates to `s`.  Its single steps need not. -/
def Moves (K : σ → σ → Prop) (p : Prog σ ε α) (s : σ) : Prop := K s (p.run s).2

section

variable {K : σ → σ → Prop}

theorem Moves.bind (trans : ∀ {a b c}, K a b → K b c → K a c) {s : σ} (first : p.Moves K s)
    (rest : ∀ a s', p.run s = (.ok a, s') → (f a).Moves K s') : (p >>= f).Moves K s := by
  unfold Moves at first ⊢
  rw [run_bind]
  rcases ran : p.run s with ⟨res, s'⟩
  rw [ran] at first
  cases res with
  | ok a => exact trans first (rest a s' ran)
  | error e => exact first

theorem Moves.read_bind {g : σ → α} {s : σ}
    (rest : (f (g s)).Moves K s) : (read g >>= f).Moves K s := rest

theorem Moves.orFail_bind {s : σ} (same : K s s) (rest : ∀ a, v = some a → (f a).Moves K s) :
    (orFail v e >>= f).Moves K s := by
  cases v with
  | none => exact same
  | some a => exact rest a rfl

end

def Fails (K : σ → σ → Prop) (p : Prog σ ε α) : Prop :=
  ∀ s s' e, p.run s = (.error e, s') → K s s'

theorem Fails.after {K : σ → σ → Prop} (refl : ∀ s, K s s)
    (trans : ∀ {a b c}, K a b → K b c → K a c)
    (first : p.Keeps K) (rest : ∀ a, (f a).Fails K) : (p >>= f).Fails K := by
  intro s s' e failed
  have moved := first.run refl trans s
  rw [run_bind] at failed
  rcases ran : p.run s with ⟨res, t⟩
  rw [ran] at failed moved
  cases res with
  | ok a => exact trans moved (rest a t s' e failed)
  | error e' =>
    cases failed
    exact moved

/-- Every value the program can return satisfies `Q`. -/
def Returns (Q : α → Prop) : Prog σ ε α → Prop
  | .done a => Q a
  | .fail _ => True
  | .step _ next => ∀ s, (next s).Returns Q

namespace Returns

variable {R : α → Prop} {Q : β → Prop}

theorem bind (first : p.Returns R) (rest : ∀ a, R a → (f a).Returns Q) : (p >>= f).Returns Q := by
  induction p with
  | done a => exact rest a first
  | fail e => trivial
  | step update next ih => exact fun s => ih s (first s)

theorem any (p : Prog σ ε α) : p.Returns fun _ => True := by
  induction p with
  | done a => trivial
  | fail e => trivial
  | step update next ih => exact ih

theorem read {f : σ → α} (h : ∀ s, R (f s)) : (read f : Prog σ ε α).Returns R := h

theorem require (check : Bool) (e : ε) :
    (require check e : Prog σ ε Unit).Returns fun _ => check = true := by
  cases check <;> trivial

theorem orFail (v : Option α) (e : ε) :
    (orFail v e : Prog σ ε α).Returns fun a => v = some a := by
  cases v with
  | none => trivial
  | some a => exact rfl

theorem of_run (returns : p.Returns R) {a : α} (h : p.run s = (.ok a, s')) : R a := by
  induction p generalizing s with
  | done b =>
    cases h
    exact returns
  | fail e => cases h
  | step update next ih => exact ih s (returns s) h

end Returns

end Prog

export Prog (require orFail atomic run_read_bind run_bind run_atomic_bind run_bind_ok
  run_orFail_bind_ok done_bind run_require_bind_ok run_done orFail_some run_attempt_bind
  require_true run_require_bind_snd run_modify run_modify_bind require_false run_require_snd
  Keeps.bind Keeps.atomic Keeps.modify Keeps.run Keeps.read Keeps.require)

end Atomic
