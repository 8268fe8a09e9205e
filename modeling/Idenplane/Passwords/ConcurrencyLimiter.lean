import Idenplane.Names
import Mathlib.Data.List.Perm.Subperm

/-! # The concurrency limiter

`createConcurrencyLimiter` bounds how many Argon2 computations run at once.  Calls are numbered
as they come.  When the promise of a task settles, the caller's promise follows and then, in a
job of its own, the slot is given back.
-/

namespace Idenplane.Passwords

open List

open Relation (ReflTransGen)

structure Limiter (ο : Type) where
  active : Nat := 0
  queue : List Nat := []
  calls : Nat := 0
  started : List Nat := []
  /-- The promises that the tasks returned, and those of the callers. -/
  (settled answered : Nat → Option ο := fun _ => none)
  /-- The tasks whose `finally` has run. -/
  released : List Nat := []

variable {ο : Type} {concurrency : Nat} {w w' : Limiter ο}

/-- Starts the oldest task in the queue, if there is a slot. -/
def next (concurrency : Nat) (w : Limiter ο) : Limiter ο :=
  match w.queue with
  | [] => w
  | run :: queue =>
    if w.active ≥ concurrency then w
    else { w with active := w.active + 1, queue := queue, started := w.started ++ [run] }

inductive Step (concurrency : Nat) : Limiter ο → Limiter ο → Prop where
  | limit (w : Limiter ο) :
    Step concurrency w (next concurrency { w with calls := w.calls + 1, queue := w.queue ++ [w.calls] })
  | settle {w : Limiter ο} {n : Nat} (outcome : ο) (running : n ∈ w.started)
      (pending : w.settled n = none) :
    Step concurrency w { w with settled := update w.settled n (some outcome) }
  | answer {w : Limiter ο} {n : Nat} {outcome : ο} (settled : w.settled n = some outcome)
      (waiting : w.answered n = none) :
    Step concurrency w { w with answered := update w.answered n (some outcome) }
  | release {w : Limiter ο} {n : Nat} (answered : (w.answered n).isSome) (holds : n ∉ w.released) :
    Step concurrency w
      (next concurrency { w with active := w.active - 1, released := n :: w.released })

def Limiter.running (w : Limiter ο) : List Nat := w.started.filter fun n => (w.settled n).isNone

/-- No job is left to run. -/
def Limiter.Idle (w : Limiter ο) : Prop := ∀ n, (w.settled n).isSome → n ∈ w.released

structure Accounts (w : Limiter ο) : Prop where
  order : w.started ++ w.queue = range w.calls
  settled : ∀ n, (w.settled n).isSome → n ∈ w.started
  answered : ∀ n outcome, w.answered n = some outcome → w.settled n = some outcome
  released : w.released.Nodup ∧ ∀ n ∈ w.released, (w.answered n).isSome

structure Inv (concurrency : Nat) (w : Limiter ο) : Prop where
  accounts : Accounts w
  counted : w.active + w.released.length = w.started.length
  within : w.active ≤ concurrency
  busy : w.queue ≠ [] → w.active = concurrency

theorem next_accounts (accounts : Accounts w) : Accounts (next concurrency w) := by
  unfold next
  split
  case h_1 => exact accounts
  case h_2 run queue waiting =>
    split
    · exact accounts
    · obtain ⟨order, settled, answered, released⟩ := accounts
      constructor
      · rw [← order, waiting]
        simp
      · exact fun n some_ => mem_append_left _ (settled n some_)
      · exact answered
      · exact released

/-- A slot is free for the next task when one was given back or the queue was empty. -/
theorem next_inv (accounts : Accounts w)
    (cnt : w.active + w.released.length = w.started.length) (within : w.active ≤ concurrency)
    (slack : w.queue.length ≤ 1 ∨ concurrency ≤ w.active + 1) :
    Inv concurrency (next concurrency w) := by
  have kept : Accounts (next concurrency w) := next_accounts accounts
  unfold next at kept ⊢
  split at kept
  case h_1 empty => exact ⟨kept, cnt, within, fun some_ => absurd empty some_⟩
  case h_2 run queue waiting =>
    split at kept
    case isTrue full =>
      rw [if_pos full]
      exact ⟨kept, cnt, within, fun _ => Nat.le_antisymm within full⟩
    case isFalse free =>
      rw [if_neg free]
      refine ⟨kept, ?_, by simp only; omega, fun some_ => ?_⟩
      · simp only [length_append, length_singleton]
        omega
      · have longer : 1 < w.queue.length := by
          rw [waiting, length_cons]
          exact Nat.succ_lt_succ (length_pos_iff.mpr some_)
        simp only
        omega

theorem released_lt (inv : Inv concurrency w) {n : Nat} (answered : (w.answered n).isSome)
    (holds : n ∉ w.released) : w.released.length < w.started.length := by
  have accounts := inv.accounts
  have begun {m : Nat} (some_ : (w.answered m).isSome) : m ∈ w.started := by
    obtain ⟨out, same⟩ := isSome_iff_exists.mp some_
    exact accounts.settled m (by rw [accounts.answered m out same]; rfl)
  have distinct : (n :: w.released).Nodup := nodup_cons.mpr ⟨holds, accounts.released.1⟩
  apply (subperm_of_subset distinct ?_).length_le
  intro m mem
  rcases mem_cons.mp mem with rfl | mem
  · exact begun answered
  · exact begun (accounts.released.2 m mem)

theorem Step.inv (step : Step concurrency w w') (inv : Inv concurrency w) : Inv concurrency w' := by
  obtain ⟨accounts, cnt, within, busy⟩ := inv
  cases step with
  | limit =>
    apply next_inv
    · refine ⟨?_, accounts.settled, accounts.answered, accounts.released⟩
      rw [range_succ, ← accounts.order, append_assoc]
    · exact cnt
    · exact within
    · by_cases empty : w.queue = []
      · exact .inl (by simp [empty])
      · exact .inr (Nat.le_succ_of_le (Nat.le_of_eq (busy empty).symm))
  | @settle n out running pend =>
    refine ⟨⟨accounts.order, fun m some_ => ?_, fun m out' same => ?_, accounts.released⟩, cnt,
      within, busy⟩
    · by_cases here : m = n
      · exact here ▸ running
      · exact accounts.settled m (by simpa [here] using some_)
    · have other : m ≠ n := by
        rintro rfl
        simp [accounts.answered m out' same] at pend
      simpa [other] using accounts.answered m out' same
  | @answer n out settled waiting =>
    refine ⟨⟨accounts.order, accounts.settled, fun m out' same => ?_, accounts.released.1,
      fun m mem => ?_⟩, cnt, within, busy⟩
    · by_cases here : m = n
      · subst here
        simpa [settled] using same
      · exact accounts.answered m out' (by simpa [here] using same)
    · by_cases here : m = n
      · simp [here]
      · simpa [here] using accounts.released.2 m mem
  | @release n answered holds =>
    have fewer := released_lt ⟨accounts, cnt, within, busy⟩ answered holds
    apply next_inv
    · refine ⟨accounts.order, accounts.settled, accounts.answered,
        nodup_cons.mpr ⟨holds, accounts.released.1⟩, fun m mem => ?_⟩
      rcases mem_cons.mp mem with rfl | mem
      · exact answered
      · exact accounts.released.2 m mem
    · simp only [length_cons]
      omega
    · simp only
      omega
    · by_cases empty : w.queue = []
      · exact .inl (by simp [empty])
      · have := busy empty
        exact .inr (by simp only; omega)

theorem reached_inv (reached : ReflTransGen (Step concurrency) {} w) : Inv concurrency w := by
  induction reached with
  | refl =>
    exact ⟨⟨rfl, fun _ => nofun, fun _ _ => nofun, nodup_nil, fun _ => nofun⟩, rfl, Nat.zero_le _,
      fun some_ => absurd rfl some_⟩
  | tail _ step ih => exact step.inv ih

theorem running_length (w : Limiter ο) :
    w.running.length + (w.started.filter fun n => (w.settled n).isSome).length = w.started.length := by
  have split := length_eq_length_filter_add (fun n => (w.settled n).isNone) (l := w.started)
  simpa [Limiter.running] using split.symm

theorem running_le (inv : Inv concurrency w) : w.running.length ≤ w.active := by
  have accounts := inv.accounts
  have within : w.released.length ≤ (w.started.filter fun n => (w.settled n).isSome).length := by
    apply (subperm_of_subset accounts.released.1 ?_).length_le
    intro n mem
    obtain ⟨out, same⟩ := isSome_iff_exists.mp (accounts.released.2 n mem)
    have settled : (w.settled n).isSome := by rw [accounts.answered n out same]; rfl
    exact mem_filter.mpr ⟨accounts.settled n settled, settled⟩
  have := running_length w
  have := inv.counted
  omega

theorem running_eq (inv : Inv concurrency w) (idle : w.Idle) : w.active = w.running.length := by
  have distinct : w.started.Nodup := by
    have all : (w.started ++ w.queue).Nodup := inv.accounts.order ▸ nodup_range
    exact (nodup_append.mp all).1
  have within : (w.started.filter fun n => (w.settled n).isSome).length ≤ w.released.length :=
    (subperm_of_subset (distinct.filter _) fun n mem =>
      idle n (mem_filter.mp mem).2).length_le
  have := running_length w
  have := running_le inv
  have := inv.counted
  omega

/-- Tasks start in the order of the calls, each once, never more than `concurrency` run at a time,
every caller gets the outcome of its own task, and nothing waits while a slot is free. -/
theorem limiter_is_safe (atLeast : 1 ≤ concurrency) (reached : ReflTransGen (Step concurrency) {} w) :
    w.running.length ≤ concurrency ∧ w.started ++ w.queue = range w.calls ∧
      (∀ n out, w.answered n = some out → w.settled n = some out) ∧
      (w.queue ≠ [] → w.active = concurrency) ∧
      (w.Idle → w.active = w.running.length ∧ w.answered = w.settled ∧
        (w.running = [] → w.started = range w.calls)) := by
  have inv := reached_inv reached
  have accounts := inv.accounts
  refine ⟨Nat.le_trans (running_le inv) inv.within, accounts.order, accounts.answered, inv.busy,
    fun idle => ⟨running_eq inv idle, ?_, fun none_ => ?_⟩⟩
  · funext n
    cases settled : w.settled n with
    | none =>
      cases answered : w.answered n with
      | none => rfl
      | some out => rw [← settled, accounts.answered n out answered]
    | some out =>
      obtain ⟨other, answered⟩ :=
        isSome_iff_exists.mp (accounts.released.2 n (idle n (by simp [settled])))
      rw [answered, ← settled, accounts.answered n other answered]
  · have empty : w.queue = [] := by
      by_contra some_
      have := inv.busy some_
      have := running_eq inv idle
      rw [none_, length_nil] at this
      omega
    rw [← accounts.order, empty, append_nil]

def called (w : Limiter String) : Limiter String :=
  next 2 { w with calls := w.calls + 1, queue := w.queue ++ [w.calls] }

/-- Three calls, of which two run, and the first has its hash. -/
def oneSettled : Limiter String :=
  { called (called (called {})) with settled := update (fun _ => none) 0 (some "hash") }

def oneAnswered : Limiter String :=
  { oneSettled with answered := update oneSettled.answered 0 (some "hash") }

def oneReleased : Limiter String :=
  next 2
    { oneAnswered with active := oneAnswered.active - 1, released := 0 :: oneAnswered.released }

theorem third_call_waits : oneSettled.queue = [2] ∧ oneReleased.started = [0, 1, 2] ∧
    ∀ w ∈ [oneSettled, oneReleased], w.running.length ≤ 2 ∧
      w.started ++ w.queue = range w.calls ∧
      (∀ n out, w.answered n = some out → w.settled n = some out) ∧
      (w.queue ≠ [] → w.active = 2) ∧
      (w.Idle → w.active = w.running.length ∧ w.answered = w.settled ∧
        (w.running = [] → w.started = range w.calls)) := by
  have thrice : ReflTransGen (Step 2) {} (called (called (called {}))) :=
    ((ReflTransGen.single (.limit _)).tail (.limit _)).tail (.limit _)
  have settled : ReflTransGen (Step 2) {} oneSettled :=
    thrice.tail (.settle "hash" (by decide) rfl)
  have answered : ReflTransGen (Step 2) {} oneAnswered := settled.tail (.answer rfl rfl)
  have released : ReflTransGen (Step 2) {} oneReleased := answered.tail (.release rfl (by decide))
  refine ⟨rfl, rfl, fun w mem => ?_⟩
  simp only [mem_cons, not_mem_nil, or_false] at mem
  rcases mem with rfl | rfl
  · exact limiter_is_safe (by decide) settled
  · exact limiter_is_safe (by decide) released

end Idenplane.Passwords
