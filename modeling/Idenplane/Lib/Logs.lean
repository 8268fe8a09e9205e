import Mathlib.Data.List.Basic
import Mathlib.Order.Lattice

/-! # Logs that forget

A log of times, newest first, that drops old entries now and then still counts right in
every window that starts after what it dropped.
-/

namespace Logs

variable {τ : Type} [LinearOrder τ]

/-- How many entries are not before `start`. -/
def since (start : τ) (times : List τ) : Nat := times.countP (start ≤ ·)

@[simp] theorem since_nil (start : τ) : since start [] = 0 := rfl

theorem since_cons (start time : τ) (times : List τ) :
    since start (time :: times) = since start times + if start ≤ time then 1 else 0 := by
  simp [since, List.countP_cons]

/-- Drop what is before `cutoff`. -/
def prune (cutoff : τ) (times : List τ) : List τ := times.filter (cutoff ≤ ·)

theorem since_prune {cutoff start : τ} (le : cutoff ≤ start) (times : List τ) :
    since start (prune cutoff times) = since start times := by
  rw [since, since, prune, List.countP_filter]
  congr 1
  funext time
  by_cases inside : start ≤ time
  · simp [inside, le.trans inside]
  · simp [inside]

theorem since_prune_le (cutoff start : τ) (times : List τ) :
    since start (prune cutoff times) ≤ since start times :=
  List.filter_sublist.countP_le

/-- From `horizon` on, the log counts as the full one does. -/
def Tracks (horizon : τ) (times full : List τ) : Prop :=
  ∀ start, horizon ≤ start → since start times = since start full

variable {horizon : τ} {times full : List τ}

theorem Tracks.refl (horizon : τ) (times : List τ) : Tracks horizon times times :=
  fun _ _ => rfl

section

variable (tracks : Tracks horizon times full)

include tracks

theorem Tracks.later {now : τ} (le : horizon ≤ now) :
    Tracks now times full :=
  fun start inside => tracks start (le.trans inside)

theorem Tracks.cons (time : τ) : Tracks horizon (time :: times) (time :: full) := by
  intro start inside
  rw [since_cons, since_cons, tracks start inside]

theorem Tracks.prune : Tracks horizon (prune horizon times) full := by
  intro start inside
  rw [since_prune inside, tracks start inside]

end

end Logs
