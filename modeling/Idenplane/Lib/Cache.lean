import Mathlib.Logic.Function.Basic

/-! # Caches

A cache holds answers of a lookup under the keys that were asked.  It is coherent when each of
them is what the lookup answers now.
-/

namespace Cache

open Function

variable {κ α : Type} [DecidableEq κ]

abbrev Entries (κ α : Type) := κ → Option α

def empty : Entries κ α := fun _ => none

def put (entries : Entries κ α) (key : κ) (value : α) : Entries κ α :=
  update entries key (some value)

def drop (entries : Entries κ α) (key : κ) : Entries κ α := update entries key none

/-- Every entry is what the lookup finds. -/
def Coherent (entries : Entries κ α) (lookup : κ → Option α) : Prop :=
  ∀ key value, entries key = some value → lookup key = some value

variable {es : Entries κ α} {lookup lookup' : κ → Option α} {key other : κ} {v : α}

omit [DecidableEq κ] in
theorem coherent_empty (lookup : κ → Option α) : Coherent empty lookup :=
  fun _ _ hit => nomatch hit

theorem drop_eq_some (kept : drop es key other = some v) : es other = some v ∧ other ≠ key := by
  by_cases same : other = key
  · rw [same, drop, update_self] at kept
    cases kept
  · rw [drop, update_of_ne same] at kept
    exact ⟨kept, same⟩

namespace Coherent

theorem put (coherent : Coherent es lookup) (hit : lookup key = some v) :
    Coherent (put es key v) lookup := by
  intro other ans kept
  by_cases same : other = key
  · rw [same, Cache.put, update_self] at kept
    rw [same, hit, kept]
  · rw [Cache.put, update_of_ne same] at kept
    exact coherent other ans kept

theorem drop (coherent : Coherent es lookup) (key : κ) : Coherent (drop es key) lookup :=
  fun _ _ kept => coherent _ _ (drop_eq_some kept).1

omit [DecidableEq κ] in
/-- The lookup may change its mind about what nobody holds. -/
theorem change (coherent : Coherent es lookup)
    (same : ∀ key v, es key = some v → lookup key = some v →
      lookup' key = some v) : Coherent es lookup' :=
  fun key v kept => same key v kept (coherent key v kept)

end Coherent

end Cache
