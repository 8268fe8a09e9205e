import Mathlib.Data.Finset.Max
import Mathlib.Data.List.Perm.Subperm
import Mathlib.Data.Finset.Dedup

/-! # Reserve first, count afterwards

Rows are reserved under growing identifiers.  A row is used only after a count of the rows of
its key, from a window before it on, that included the row itself and stayed within a limit.
Whatever came later: of the used rows of one key, no more than the limit lie within a window.
-/

namespace Reservations

open List

variable {ρ : Type} (id : ρ → Nat) (time : ρ → Int)

def upTo (n : Nat) (test : ρ → Bool) (rows : List ρ) : Nat :=
  rows.countP fun row => id row ≤ n && test row

/-- The rows of the key up to this one, from a window before it on, are within the limit. -/
def Counted (key : ρ → Bool) (window limit : Int) (rows : List ρ) (row : ρ) : Prop :=
  upTo id (id row) (fun r => key r && time row - window ≤ time r) rows ≤ limit

variable {id time} {newer rows : List ρ}

theorem upTo_append_of_lt {n : Nat} {test : ρ → Bool}
    (later : ∀ row ∈ newer, n < id row) : upTo id n test (newer ++ rows) = upTo id n test rows := by
  have none_ : newer.countP (fun row => id row ≤ n && test row) = 0 := by
    rw [countP_eq_zero]
    intro row mem
    have := later row mem
    simp only [Bool.and_eq_true, decide_eq_true_eq, not_and]
    omega
  rw [upTo, upTo, countP_append, none_, Nat.zero_add]

theorem Counted.append {key : ρ → Bool} {window limit : Int} {row : ρ}
    (h : Counted id time key window limit rows row) (later : ∀ r ∈ newer, id row < id r) :
    Counted id time key window limit (newer ++ rows) row := by
  unfold Counted at *
  rwa [upTo_append_of_lt later]

theorem upTo_le_countP {n : Nat} {test wider : ρ → Bool} {rows : List ρ}
    (implies : ∀ row, test row = true → wider row = true) :
    upTo id n test rows ≤ rows.countP wider := by
  apply countP_mono_left
  intro row _ passes
  rw [Bool.and_eq_true] at passes
  exact implies row passes.2

/-- The row with the greatest identifier was counted together with all the others. -/
theorem length_le_of_counted {rows : List ρ} {chosen : List Nat} (nodup : chosen.Nodup)
    {key : ρ → Bool} {window limit a b : Int} (positive : 0 ≤ limit) (span : b ≤ a + window)
    (each : ∀ n ∈ chosen, ∃ row ∈ rows, id row = n ∧ key row = true ∧ a ≤ time row ∧ time row ≤ b ∧
      Counted id time key window limit rows row) : chosen.length ≤ limit := by
  by_cases empty : chosen = []
  · simpa [empty] using positive
  · obtain ⟨greatest, isChosen, atMost⟩ :=
      Finset.exists_max_image chosen.toFinset (fun n => n) (by simpa using empty)
    obtain ⟨last, -, isLast, -, -, pre, cnt⟩ := each greatest (mem_toFinset.mp isChosen)
    let window' := rows.filter fun r =>
      id r ≤ id last && (key r && decide (time last - window ≤ time r))
    have covered : chosen ⊆ window'.map id := by
      intro n mem
      obtain ⟨row, isRow, rfl, isKey, after, -, -⟩ := each n mem
      have order := atMost _ (mem_toFinset.mpr mem)
      refine mem_map.mpr ⟨row, mem_filter.mpr ⟨isRow, ?_⟩, rfl⟩
      simp only [isKey, Bool.true_and, Bool.and_eq_true, decide_eq_true_eq]
      constructor <;> omega
    have fewer := (Nodup.subperm nodup covered).length_le
    rw [length_map, ← countP_eq_length_filter] at fewer
    calc (chosen.length : Int) ≤ upTo id (id last) (fun r => key r && time last - window ≤ time r) rows :=
          Int.ofNat_le.mpr fewer
      _ ≤ limit := cnt

end Reservations
