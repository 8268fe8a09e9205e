import Idenplane.Lib.Atomic

/-! # Interleaved programs

A pool runs a program for every index `i : ι` on one shared state.  A step of
the pool is one atomic step of one program, or one step of the environment.
Steps may be restricted to the transitions `allowed` admits: a result about a
pool then reads "in every run all of whose steps are allowed".

`Sat` is the thread-local proof obligation of a program.  It is evaluated along
the program: at each point the other programs may have moved the state by
`rely i`, an invariant holds, and the program's own step has to restore the
invariant and stay within what every other program relies on.
-/

namespace Atomic

variable {ι σ ε α β : Type}

/-- A log to which only such entries are added, twice. -/
theorem grown_trans {γ : Type} {P : γ → Prop} {a b c : List γ}
    (ab : ∃ new, b = new ++ a ∧ ∀ entry ∈ new, P entry)
    (bc : ∃ new, c = new ++ b ∧ ∀ entry ∈ new, P entry) :
    ∃ new, c = new ++ a ∧ ∀ entry ∈ new, P entry := by
  obtain ⟨first, rfl, pre⟩ := ab
  obtain ⟨snd, rfl, after⟩ := bc
  refine ⟨snd ++ first, (List.append_assoc ..).symm, fun entry mem => ?_⟩
  exact (List.mem_append.mp mem).elim (after entry) (pre entry)

/-- A shared state and one program for every index. -/
structure Pool (ι σ ε α : Type) where
  state : σ
  procs : ι → Prog σ ε α

variable {c c' : Pool ι σ ε α} {e : ε}

section Semantics

variable [DecidableEq ι] {env allowed : σ → σ → Prop}

/-- One step of one program, or of the environment. -/
inductive Pool.Step (env allowed : σ → σ → Prop) : Pool ι σ ε α → Pool ι σ ε α → Prop where
  | proc {c : Pool ι σ ε α} (i : ι) {update : σ → σ} {next : σ → Prog σ ε α} :
      c.procs i = .step update next → allowed c.state (update c.state) →
      Pool.Step env allowed c ⟨update c.state, Function.update c.procs i (next c.state)⟩
  | env {c : Pool ι σ ε α} {s : σ} : env c.state s → Pool.Step env allowed c ⟨s, c.procs⟩

/-- Any number of steps in any order. -/
def Pool.Reaches (env allowed : σ → σ → Prop) : Pool ι σ ε α → Pool ι σ ε α → Prop :=
  Relation.ReflTransGen (Pool.Step env allowed)

def Prog.ofResult : Except ε α → Prog σ ε α
  | .ok a => .done a
  | .error e => .fail e

def Pool.runOne (c : Pool ι σ ε α) (i : ι) : Pool ι σ ε α :=
  ⟨((c.procs i).run c.state).2, Function.update c.procs i (.ofResult ((c.procs i).run c.state).1)⟩

open Pool Prog

theorem Pool.reaches_runOne (free : ∀ s s', allowed s s')
    (c : Pool ι σ ε α) (i : ι) : Pool.Reaches env allowed c (c.runOne i) := by
  obtain ⟨s, procs⟩ := c
  unfold runOne
  induction h : procs i generalizing s procs with
  | done a =>
    simp only [h, run_done, ofResult]
    rw [← h, Function.update_eq_self]
    exact .refl
  | fail e =>
    simp only [h, run_fail, ofResult]
    rw [← h, Function.update_eq_self]
    exact .refl
  | step update next ih =>
    have first : Pool.Step env allowed ⟨s, procs⟩
        ⟨update s, Function.update procs i (next s)⟩ := .proc i h (free _ _)
    have rest := ih s (update s) (Function.update procs i (next s)) (by simp)
    simp only [Function.update_self, Function.update_idem] at rest
    simp only [h, run_step]
    exact .head first rest

/-- One step of the program `i`, if it has one. -/
def Pool.advance (c : Pool ι σ ε α) (i : ι) : Pool ι σ ε α :=
  match c.procs i with
  | .step update next => ⟨update c.state, Function.update c.procs i (next c.state)⟩
  | _ => c

theorem Pool.reaches_advance (free : ∀ s s', allowed s s')
    (c : Pool ι σ ε α) (i : ι) : Pool.Reaches env allowed c (c.advance i) := by
  unfold advance
  cases running : c.procs i with
  | done a => exact .refl
  | fail e => exact .refl
  | step update next => exact .single (.proc i running (free _ _))

theorem Pool.reaches_turn {c d : Pool ι σ ε α} {i : ι}
    (reached : Pool.Reaches env allowed c d) (ok : allowed d.state (d.advance i).state) :
    Pool.Reaches env allowed c (d.advance i) := by
  unfold advance at ok ⊢
  cases running : d.procs i with
  | done a => exact reached
  | fail e => exact reached
  | step update next =>
    rw [running] at ok
    exact reached.tail (.proc i running ok)

theorem Pool.Reaches.mono {env allowed allowed' : σ → σ → Prop}
    (weaker : ∀ s s', allowed s s' → allowed' s s') (reached : Pool.Reaches env allowed c c') :
    Pool.Reaches env allowed' c c' := by
  refine Relation.ReflTransGen.mono (fun d d' step => ?_) _ _ reached
  cases step with
  | proc i running ok => exact .proc i running (weaker _ _ ok)
  | env passes => exact .env passes

theorem Pool.failed_stays {i : ι}
    (failed : c.procs i = .fail e) (reached : Pool.Reaches env allowed c c') :
    c'.procs i = .fail e := by
  induction reached with
  | refl => exact failed
  | tail _ step ih =>
    cases step with
    | env => exact ih
    | @proc k update next running _ =>
      have other : i ≠ k := by
        rintro rfl
        rw [ih] at running
        cases running
      simpa [Function.update_of_ne other] using ih

theorem Pool.keeps {K : ι → σ → σ → Prop}
    (threads : ∀ i, (c.procs i).Keeps (K i)) (reached : Pool.Reaches env allowed c c') (i : ι) :
    (c'.procs i).Keeps (K i) := by
  induction reached with
  | refl => exact threads i
  | tail _ step ih =>
    cases step with
    | env => exact ih
    | @proc k update next running _ =>
      by_cases own : i = k
      · subst own
        rw [running] at ih
        simpa using ih.2 _
      · simpa [Function.update_of_ne own] using ih

def Pool.schedule (c : Pool ι σ ε α) : List ι → Pool ι σ ε α
  | [] => c
  | i :: rest => (c.advance i).schedule rest

def Pool.admits (allowed : σ → σ → Prop) [DecidableRel allowed] (c : Pool ι σ ε α) : List ι → Bool
  | [] => true
  | i :: rest =>
    (match c.procs i with
      | .step update _ => decide (allowed c.state (update c.state))
      | _ => true) && (c.advance i).admits allowed rest

theorem Pool.reaches_schedule [DecidableRel allowed]
    {c : Pool ι σ ε α} {turns : List ι} (ok : c.admits allowed turns = true) :
    Pool.Reaches env allowed c (c.schedule turns) := by
  induction turns generalizing c with
  | nil => exact .refl
  | cons i rest ih =>
    simp only [admits, Bool.and_eq_true] at ok
    obtain ⟨here, ok⟩ := ok
    have later := ih ok
    cases h : c.procs i with
    | done a =>
      rw [schedule]
      simpa [advance, h] using later
    | fail e =>
      rw [schedule]
      simpa [advance, h] using later
    | step update next =>
      rw [h] at here
      have first : Pool.Step env allowed c (c.advance i) := by
        rw [advance, h]
        exact .proc i h (by simpa using here)
      exact .head first later

end Semantics

/-- What a family of programs agrees on: an invariant of the shared state and,
for each program, how the others may move the state under it. -/
structure Protocol (ι σ : Type) where
  inv : σ → Prop
  rely : ι → σ → σ → Prop
  refl : ∀ i s, rely i s s
  trans : ∀ i {a b c}, rely i a b → rely i b c → rely i a c

namespace Prog

variable (P : Protocol ι σ) (allowed : σ → σ → Prop) (i : ι)

/-- The program keeps its side of the protocol from state `s` on, and ends in a
state with `post`, whatever the others do in between. -/
def Sat (post : Except ε α → σ → Prop) : Prog σ ε α → σ → Prop
  | .done a, s => ∀ s', P.rely i s s' → P.inv s' → post (.ok a) s'
  | .fail e, s => ∀ s', P.rely i s s' → P.inv s' → post (.error e) s'
  | .step update next, s => ∀ s', P.rely i s s' → P.inv s' → allowed s' (update s') →
      P.inv (update s') ∧ (∀ j, j ≠ i → P.rely j s' (update s')) ∧ (next s').Sat post (update s')

def onOk (post : α → σ → Prop) : Except ε α → σ → Prop
  | .ok a, s => post a s
  | .error _, _ => True

namespace Sat

variable {P allowed i} {post : Except ε α → σ → Prop} {p : Prog σ ε α}

theorem stable {s s' : σ} (h : p.Sat P allowed i post s)
    (moved : P.rely i s s') : p.Sat P allowed i post s' := by
  cases p with
  | done a => exact fun t move inv => h t (P.trans i moved move) inv
  | fail e => exact fun t move inv => h t (P.trans i moved move) inv
  | step update next => exact fun t move inv ok => h t (P.trans i moved move) inv ok

variable {s : σ}

/-- To start a program it is enough to meet its obligation wherever the others
leave the state. -/
theorem ofRely (h : ∀ s', P.rely i s s' → P.inv s' → p.Sat P allowed i post s') :
    p.Sat P allowed i post s := by
  cases p with
  | done a => exact fun t move inv => h t move inv t (P.refl i t) inv
  | fail e => exact fun t move inv => h t move inv t (P.refl i t) inv
  | step update next => exact fun t move inv ok => h t move inv t (P.refl i t) inv ok

variable {post' : Except ε α → σ → Prop}

theorem mono (weaker : ∀ r s, post r s → post' r s) (h : p.Sat P allowed i post s) : p.Sat P allowed i post' s := by
  induction p generalizing s with
  | done a => exact fun t move inv => weaker _ _ (h t move inv)
  | fail e => exact fun t move inv => weaker _ _ (h t move inv)
  | step update next ih =>
    intro t move inv ok
    obtain ⟨kept, os, rest⟩ := h t move inv ok
    exact ⟨kept, os, ih t rest⟩

protected theorem and (h : p.Sat P allowed i post s) (h' : p.Sat P allowed i post' s) :
    p.Sat P allowed i (fun r t => post r t ∧ post' r t) s := by
  induction p generalizing s with
  | done a => exact fun t move inv => ⟨h t move inv, h' t move inv⟩
  | fail e => exact fun t move inv => ⟨h t move inv, h' t move inv⟩
  | step update next ih =>
    intro t move inv ok
    obtain ⟨kept, os, rest⟩ := h t move inv ok
    exact ⟨kept, os, ih t rest (h' t move inv ok).2.2⟩

theorem done {a : α} (h : ∀ s', P.rely i s s' → P.inv s' → post (.ok a) s') :
    (done a : Prog σ ε α).Sat P allowed i post s := h

theorem fail (h : ∀ s', P.rely i s s' → P.inv s' → post (.error e) s') :
    (fail e : Prog σ ε α).Sat P allowed i post s := h

variable {f : α → Prog σ ε β}

/-- A composition meets its obligation when the first half ends in a state from
which the second half does. -/
theorem bind {post : Except ε β → σ → Prop} (h : p.Sat P allowed i (fun r t => match r with
      | .ok a => (f a).Sat P allowed i post t
      | .error e => post (.error e) t) s) :
    (p >>= f).Sat P allowed i post s := by
  induction p generalizing s with
  | done a => exact ofRely fun t move inv => h t move inv
  | fail e => exact fun t move inv => h t move inv
  | step update next ih =>
    intro t move inv ok
    obtain ⟨kept, os, rest⟩ := h t move inv ok
    exact ⟨kept, os, ih t rest⟩

/-- Sequencing, when nothing is promised about errors of the first half. -/
theorem ok_bind {post : Except ε β → σ → Prop} {Q : α → σ → Prop} (first : p.Sat P allowed i (onOk Q) s)
    (rest : ∀ a t, Q a t → (f a).Sat P allowed i post t) (failed : ∀ e t, post (.error e) t) :
    (p >>= f).Sat P allowed i post s := by
  refine bind (first.mono fun res t reached => ?_)
  cases res with
  | ok a => exact rest a t reached
  | error e => exact failed e t

theorem read_bind {post : Except ε β → σ → Prop} {g : σ → α}
    (h : ∀ t, P.rely i s t → P.inv t → (f (g t)).Sat P allowed i post t) :
    (read g >>= f).Sat P allowed i post s :=
  fun t move inv _ => ⟨inv, fun j _ => P.refl j t, h t move inv⟩

theorem atomic_bind {post : Except ε β → σ → Prop} {g : σ → α × σ}
    (h : ∀ t, P.rely i s t → P.inv t → allowed t (g t).2 →
      P.inv (g t).2 ∧ (∀ j, j ≠ i → P.rely j t (g t).2) ∧
        (f (g t).1).Sat P allowed i post (g t).2) :
    (atomic g >>= f).Sat P allowed i post s := h

theorem atomic {g : σ → α × σ} (h : ∀ t, P.rely i s t → P.inv t → allowed t (g t).2 →
      P.inv (g t).2 ∧ (∀ j, j ≠ i → P.rely j t (g t).2) ∧
        ∀ u, P.rely i (g t).2 u → P.inv u → post (.ok (g t).1) u) :
    (atomic g : Prog σ ε α).Sat P allowed i post s := h

theorem modify_bind {post : Except ε β → σ → Prop} {g : σ → σ} {f : Unit → Prog σ ε β}
    (h : ∀ t, P.rely i s t → P.inv t → allowed t (g t) →
      P.inv (g t) ∧ (∀ j, j ≠ i → P.rely j t (g t)) ∧ (f ()).Sat P allowed i post (g t)) :
    (modify g >>= f).Sat P allowed i post s := h

theorem require_bind {post : Except ε β → σ → Prop} {check : Bool}
    {f : Unit → Prog σ ε β} (passed : check = true → (f ()).Sat P allowed i post s)
    (refused : check = false → ∀ t, P.rely i s t → P.inv t → post (.error e) t) :
    (require check e >>= f).Sat P allowed i post s := by
  cases check with
  | true => exact passed rfl
  | false => exact refused rfl

theorem orFail_bind {post : Except ε β → σ → Prop} {v : Option α} (hit : ∀ a, v = some a → (f a).Sat P allowed i post s)
    (missing : v = none → ∀ t, P.rely i s t → P.inv t → post (.error e) t) :
    (orFail v e >>= f).Sat P allowed i post s := by
  cases v with
  | some a => exact hit a rfl
  | none => exact missing rfl

theorem attempt {ε' : Type} {post : Except ε' (Except ε α) → σ → Prop}
    (h : p.Sat P allowed i (fun r t => post (.ok r) t) s) :
    (p.attempt : Prog σ ε' (Except ε α)).Sat P allowed i post s := by
  induction p generalizing s with
  | done a => exact h
  | fail e => exact h
  | step update next ih =>
    intro t move inv ok
    obtain ⟨kept, os, rest⟩ := h t move inv ok
    exact ⟨kept, os, ih t rest⟩

variable {K : σ → σ → Prop}

/-- A program all of whose steps keep a relation that respects the protocol, as far as steps are
allowed, may run anywhere; nothing is learnt about its result. -/
theorem ofAllowed (keeps : p.Keeps K)
    (respects : ∀ t t', P.inv t → K t t' → allowed t t' → P.inv t' ∧ ∀ j, P.rely j t t')
    (h : ∀ r t, P.rely i s t → P.inv t → post r t) : p.Sat P allowed i post s := by
  induction p generalizing s with
  | done a => exact fun t move inv => h _ t move inv
  | fail e => exact fun t move inv => h _ t move inv
  | step update next ih =>
    intro t move inv ok
    obtain ⟨kept, relies⟩ := respects t (update t) inv (keeps.1 t) ok
    have moved := P.trans i move (relies i)
    exact ⟨kept, fun j _ => relies j,
      ih t (keeps.2 t) fun r u later inv' => h r u (P.trans i moved later) inv'⟩

theorem ofKeeps (keeps : p.Keeps K)
    (respects : ∀ t t', P.inv t → K t t' → P.inv t' ∧ ∀ j, P.rely j t t')
    (h : ∀ r t, P.rely i s t → P.inv t → post r t) : p.Sat P allowed i post s :=
  ofAllowed keeps (fun t t' inv kept _ => respects t t' inv kept) h

/-- Calling such a program: what follows knows what it can return. -/
theorem call_allowed {post : Except ε β → σ → Prop} {Q : α → Prop} (keeps : p.Keeps K) (returns : p.Returns Q)
    (respects : ∀ t t', P.inv t → K t t' → allowed t t' → P.inv t' ∧ ∀ j, P.rely j t t')
    (rest : ∀ a t, Q a → P.rely i s t → P.inv t → (f a).Sat P allowed i post t)
    (failed : ∀ e t, P.rely i s t → P.inv t → post (.error e) t) :
    (p >>= f).Sat P allowed i post s := by
  induction p generalizing s with
  | done a => exact ofRely fun t move inv => rest a t returns move inv
  | fail e => exact fun t move inv => failed e t move inv
  | step update next ih =>
    intro t move inv ok
    obtain ⟨kept, relies⟩ := respects t (update t) inv (keeps.1 t) ok
    have moved := P.trans i move (relies i)
    refine ⟨kept, fun j _ => relies j, ih t (keeps.2 t) (returns t) ?_ ?_⟩
    · intro a u isQ later inv'
      exact rest a u isQ (P.trans i moved later) inv'
    · intro e u later inv'
      exact failed e u (P.trans i moved later) inv'

theorem call_bind {post : Except ε β → σ → Prop} {Q : α → Prop} (keeps : p.Keeps K) (returns : p.Returns Q)
    (respects : ∀ t t', P.inv t → K t t' → P.inv t' ∧ ∀ j, P.rely j t t')
    (rest : ∀ a t, Q a → P.rely i s t → P.inv t → (f a).Sat P allowed i post t)
    (failed : ∀ e t, P.rely i s t → P.inv t → post (.error e) t) :
    (p >>= f).Sat P allowed i post s :=
  call_allowed keeps returns (fun t t' inv kept _ => respects t t' inv kept) rest failed

theorem keeps_bind {post : Except ε β → σ → Prop} (keeps : p.Keeps K)
    (respects : ∀ t t', P.inv t → K t t' → P.inv t' ∧ ∀ j, P.rely j t t')
    (rest : ∀ a t, P.rely i s t → P.inv t → (f a).Sat P allowed i post t)
    (failed : ∀ e t, P.rely i s t → P.inv t → post (.error e) t) :
    (p >>= f).Sat P allowed i post s :=
  call_bind keeps (.any p) respects (fun a t _ => rest a t) failed

end Sat

end Prog

export Prog (onOk Sat.bind Sat.atomic_bind Sat.read_bind Sat.require_bind Sat.modify_bind
  Sat.orFail_bind Sat.done Sat.ofKeeps)

section Soundness

variable [DecidableEq ι] {P : Protocol ι σ} {env allowed : σ → σ → Prop}
  {post : ι → Except ε α → σ → Prop}

/-- The rely/guarantee rule: when every program meets its obligation in the
initial state and the environment respects the protocol, every reachable pool
satisfies the invariant and every program still meets its obligation there. -/
theorem Pool.sound (init : P.inv c.state)
    (threads : ∀ i, (c.procs i).Sat P allowed i (post i) c.state)
    (environment : ∀ s s', P.inv s → env s s' → P.inv s' ∧ ∀ i, P.rely i s s')
    (reached : Pool.Reaches env allowed c c') :
    P.inv c'.state ∧ ∀ i, (c'.procs i).Sat P allowed i (post i) c'.state := by
  induction reached with
  | refl => exact ⟨init, threads⟩
  | tail _ step ih =>
    obtain ⟨inv, sats⟩ := ih
    cases step with
    | env moved =>
      obtain ⟨inv', relies⟩ := environment _ _ inv moved
      exact ⟨inv', fun i => (sats i).stable (relies i)⟩
    | @proc i update next running ok =>
      have here := sats i
      rw [running] at here
      obtain ⟨inv', os, rest⟩ := here _ (P.refl i _) inv ok
      refine ⟨inv', fun j => ?_⟩
      by_cases same : j = i
      · subst same
        simpa using rest
      · simpa [Function.update_of_ne same] using (sats j).stable (os j same)

/-- A finished program of a reachable pool has delivered its postcondition. -/
theorem Pool.sound_done (init : P.inv c.state)
    (threads : ∀ i, (c.procs i).Sat P allowed i (post i) c.state)
    (environment : ∀ s s', P.inv s → env s s' → P.inv s' ∧ ∀ i, P.rely i s s')
    (reached : Pool.Reaches env allowed c c') {i : ι} {a : α}
    (fin : c'.procs i = .done a) : post i (.ok a) c'.state := by
  obtain ⟨inv, sats⟩ := sound init threads environment reached
  have here := sats i
  rw [fin] at here
  exact here _ (P.refl i _) inv

theorem Pool.advance_other {c : Pool ι σ ε α} {i j : ι} (other : j ≠ i) :
    (c.advance i).procs j = c.procs j := by
  unfold advance
  cases c.procs i with
  | done a => rfl
  | fail e => rfl
  | step update next => exact Function.update_of_ne other _ _

/-- What the others see of a step. -/
theorem Pool.advance_moves {c : Pool ι σ ε α} {i j : ι} {goal : Except ε α → σ → Prop}
    (free : ∀ s s', allowed s s') (inv : P.inv c.state)
    (sat : (c.procs i).Sat P allowed i goal c.state) (other : j ≠ i) :
    P.rely j c.state (c.advance i).state := by
  unfold advance
  cases running : c.procs i with
  | done a => exact P.refl j _
  | fail e => exact P.refl j _
  | step update next =>
    rw [running] at sat
    exact (sat _ (P.refl i _) inv (free _ _)).2.1 j other

/-- When all programs rely on the same, the whole run moves the state by that much. -/
theorem Pool.sound_moves [Nontrivial ι]
    (common : ∀ i j s s', P.rely i s s' → P.rely j s s') (init : P.inv c.state)
    (threads : ∀ i, (c.procs i).Sat P allowed i (post i) c.state)
    (environment : ∀ s s', P.inv s → env s s' → P.inv s' ∧ ∀ i, P.rely i s s')
    (reached : Pool.Reaches env allowed c c') (i : ι) : P.rely i c.state c'.state := by
  induction reached with
  | refl => exact P.refl i _
  | tail pre step ih =>
    obtain ⟨inv, sats⟩ := sound init threads environment pre
    refine P.trans i ih ?_
    cases step with
    | env moved => exact (environment _ _ inv moved).2 i
    | @proc k update next running ok =>
      have here := sats k
      rw [running] at here
      obtain ⟨j, other⟩ := exists_ne k
      exact common j i _ _ ((here _ (P.refl k _) inv ok).2.1 j other)

/-- A program that begins with `p` is still in `p`, or the run passes through the pool in which
it is about to take its first step after `p`.  What `p` guarantees at its end holds there. -/
theorem Pool.phase {i : ι} {p : Prog σ ε β} {f : β → Prog σ ε α}
    {Q : Except ε β → σ → Prop} (init : P.inv c.state)
    (threads : ∀ j, (c.procs j).Sat P allowed j (post j) c.state)
    (environment : ∀ s s', P.inv s → env s s' → P.inv s' ∧ ∀ j, P.rely j s s')
    (begins : c.procs i = p >>= f) (first : p.Sat P allowed i Q c.state)
    (reached : Pool.Reaches env allowed c c') :
    (∃ q, c'.procs i = q >>= f ∧ q.Sat P allowed i Q c'.state) ∨
      ∃ c₁ a, Pool.Reaches env allowed c c₁ ∧ c₁.procs i = f a ∧ Q (.ok a) c₁.state ∧
        Pool.Reaches env allowed (c₁.advance i) c' := by
  induction reached with
  | refl => exact .inl ⟨p, begins, first⟩
  | @tail b d pre step ih =>
    obtain ⟨inv, sats⟩ := sound init threads environment pre
    rcases ih with ⟨q, here, satisfied⟩ | ⟨c₁, a, passes, isRest, holds, rest⟩
    · cases step with
      | env moved => exact .inl ⟨q, here, satisfied.stable ((environment _ _ inv moved).2 i)⟩
      | @proc k update next running ok =>
        by_cases same : k = i
        · subst same
          cases q with
          | done a =>
            have leaves : (b.advance k) =
                ⟨update b.state, Function.update b.procs k (next b.state)⟩ := by
              rw [advance, running]
            exact .inr ⟨b, a, pre, here, satisfied _ (P.refl k _) inv, leaves ▸ .refl⟩
          | fail e =>
            rw [here] at running
            cases running
          | step update' next' =>
            rw [here] at running
            cases running
            exact .inl ⟨next' b.state, Function.update_self .., (satisfied _ (P.refl k _) inv ok).2.2⟩
        · have other := sats k
          rw [running] at other
          have moved := (other _ (P.refl k _) inv ok).2.1 i (Ne.symm same)
          exact .inl ⟨q, by simpa [Function.update_of_ne (Ne.symm same)] using here,
            satisfied.stable moved⟩
    · exact .inr ⟨c₁, a, passes, isRest, holds, rest.tail step⟩

end Soundness

end Atomic
