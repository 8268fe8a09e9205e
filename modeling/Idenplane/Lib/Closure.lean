import Mathlib.Logic.Relation
import Mathlib.Data.List.Basic

/-! # Reachability in a finite graph

The set reachable along the edges of a finite list of nodes, computed round by round, and
what one more edge does to the cycles of a relation.
-/

namespace Closure

open Relation List

variable {α : Type} [DecidableEq α]

/-- The nodes one edge away from `seen` that it does not have yet. -/
def frontier (edge : α → α → Bool) (nodes seen : List α) : List α :=
  nodes.filter fun node => !seen.contains node && seen.any (edge · node)

/-- `seen` and what is reached from it in at most `rounds` rounds. -/
def close (edge : α → α → Bool) (nodes : List α) : Nat → List α → List α
  | 0, seen => seen
  | rounds + 1, seen => close edge nodes rounds (seen ++ frontier edge nodes seen)

variable {edge : α → α → Bool} {nodes seen : List α} {x : α}

theorem mem_frontier :
    x ∈ frontier edge nodes seen ↔ x ∈ nodes ∧ x ∉ seen ∧ ∃ y ∈ seen, edge y x = true := by
  simp [frontier]

def Closed (edge : α → α → Bool) (seen : List α) : Prop :=
  ∀ x ∈ seen, ∀ y, edge x y = true → y ∈ seen

omit [DecidableEq α] in
theorem Closed.reach (closed : Closed edge seen) {x y : α} (isX : x ∈ seen)
    (path : ReflTransGen (edge · · = true) x y) : y ∈ seen := by
  induction path with
  | refl => exact isX
  | tail _ step ih => exact closed _ ih _ step

theorem subset_close (rounds : Nat) (isX : x ∈ seen) : x ∈ close edge nodes rounds seen := by
  induction rounds generalizing seen with
  | zero => exact isX
  | succ rounds ih => exact ih (mem_append_left _ isX)

theorem reach_of_mem_close (rounds : Nat) (isX : x ∈ close edge nodes rounds seen) :
    ∃ y ∈ seen, ReflTransGen (edge · · = true) y x := by
  induction rounds generalizing seen with
  | zero => exact ⟨x, isX, .refl⟩
  | succ rounds ih =>
    obtain ⟨y, isY, path⟩ := ih isX
    rcases mem_append.mp isY with old | new
    · exact ⟨y, old, path⟩
    · obtain ⟨-, -, z, isZ, step⟩ := mem_frontier.mp new
      exact ⟨z, isZ, path.head step⟩

/-- Nothing new in a round: there is nothing left to reach. -/
theorem closed_of_frontier_nil (targets : ∀ x y, edge x y = true → y ∈ nodes)
    (none : frontier edge nodes seen = []) : Closed edge seen := by
  intro x isX y step
  by_contra unseen
  have new : y ∈ frontier edge nodes seen :=
    mem_frontier.mpr ⟨targets x y step, unseen, x, isX, step⟩
  rw [none] at new
  cases new

def unseen (nodes seen : List α) : List α := nodes.filter (!seen.contains ·)

theorem unseen_append (more : List α) :
    unseen nodes (seen ++ more) = (unseen nodes seen).filter (!more.contains ·) := by
  simp [unseen, filter_filter, Bool.and_comm]

/-- A round that finds something leaves less to find. -/
theorem unseen_lt (isX : x ∈ frontier edge nodes seen) :
    (unseen nodes (seen ++ frontier edge nodes seen)).length < (unseen nodes seen).length := by
  have isUnseen : x ∈ unseen nodes seen := by
    obtain ⟨isNode, fresh, -⟩ := mem_frontier.mp isX
    simp [unseen, isNode, fresh]
  rw [unseen_append, length_filter_lt_length_iff_exists]
  exact ⟨x, isUnseen, by simp [isX]⟩

theorem close_closed (targets : ∀ x y, edge x y = true → y ∈ nodes) (rounds : Nat)
    (enough : (unseen nodes seen).length ≤ rounds ∨ Closed edge seen) :
    Closed edge (close edge nodes rounds seen) := by
  induction rounds generalizing seen with
  | zero =>
    rcases enough with few | closed
    · apply closed_of_frontier_nil targets
      rw [eq_nil_iff_forall_not_mem]
      intro x isX
      have less := unseen_lt isX
      rw [close] at less
      omega
    · exact closed
  | succ rounds ih =>
    apply ih
    cases hit : frontier edge nodes seen with
    | nil =>
      rw [append_nil]
      exact .inr (closed_of_frontier_nil targets hit)
    | cons x rest =>
      have new : x ∈ frontier edge nodes seen := by
        rw [hit]
        exact .head _
      have less := unseen_lt new
      rw [hit] at less
      rcases enough with few | closed
      · left
        omega
      · obtain ⟨-, fresh, y, isY, step⟩ := mem_frontier.mp new
        exact absurd (closed y isY x step) fresh

theorem mem_close_iff (targets : ∀ x y, edge x y = true → y ∈ nodes) :
    x ∈ close edge nodes nodes.length seen ↔ ∃ y ∈ seen, ReflTransGen (edge · · = true) y x := by
  constructor
  · exact reach_of_mem_close _
  · rintro ⟨y, isY, path⟩
    have few : (unseen nodes seen).length ≤ nodes.length := length_filter_le _ _
    exact (close_closed targets _ (.inl few)).reach (subset_close _ isY) path

section Edge

omit [DecidableEq α]

variable {r r' : α → α → Prop} {p g : α}

/-- A path of a graph with one more edge either does without it, or goes to its source, over
it, and on without it. -/
theorem transGen_of_edge (edges : ∀ a b, r' a b → r a b ∨ a = p ∧ b = g) {a b : α}
    (path : TransGen r' a b) : TransGen r a b ∨ ReflTransGen r a p ∧ ReflTransGen r g b := by
  induction path with
  | single step =>
    rcases edges _ _ step with old | ⟨rfl, rfl⟩
    · exact .inl (.single old)
    · exact .inr ⟨.refl, .refl⟩
  | tail _ step ih =>
    rcases edges _ _ step with old | ⟨rfl, rfl⟩
    · rcases ih with without | ⟨pre, after⟩
      · exact .inl (without.tail old)
      · exact .inr ⟨pre, after.tail old⟩
    · rcases ih with without | ⟨pre, -⟩
      · exact .inr ⟨without.to_reflTransGen, .refl⟩
      · exact .inr ⟨pre, .refl⟩

def Acyclic (r : α → α → Prop) : Prop := ∀ x, ¬TransGen r x x

theorem Acyclic.mono (acyclic : Acyclic r) (fewer : ∀ a b, r' a b → r a b) : Acyclic r' :=
  fun x cycle => acyclic x (.mono fewer _ _ cycle)

theorem Acyclic.of_edge (acyclic : Acyclic r) (edges : ∀ a b, r' a b → r a b ∨ a = p ∧ b = g)
    (back : ¬ReflTransGen r g p) : Acyclic r' := by
  intro x cycle
  rcases transGen_of_edge edges cycle with old | ⟨pre, after⟩
  · exact acyclic x old
  · exact back (after.trans pre)

/-- Edges into `g` are on no path out of `g`. -/
theorem Acyclic.path_avoids (acyclic : Acyclic r) {b : α} (path : ReflTransGen r g b) :
    ReflTransGen (fun x y => y ≠ g ∧ r x y) g b := by
  induction path with
  | refl => exact .refl
  | tail path step ih =>
    refine ih.tail ⟨?_, step⟩
    rintro rfl
    exact acyclic _ (.tail' path step)

end Edge

end Closure
