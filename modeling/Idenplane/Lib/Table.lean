import Mathlib.Data.List.Nodup

/-! # Tables of keyed rows

Facts about lists of rows in which a column is unique.
-/

namespace Table

open List

variable {α κ : Type} [DecidableEq κ]

/-- Put `new` in the place of the row with the same key. -/
def replace (key : α → κ) (new : α) (rows : List α) : List α :=
  rows.map fun row => if key row = key new then new else row

variable {key : α → κ} {new row : α} {rows : List α}

theorem mem_replace (h : row ∈ replace key new rows) :
    row = new ∨ row ∈ rows ∧ key row ≠ key new := by
  obtain ⟨old, mem, rfl⟩ := mem_map.mp h
  by_cases same : key old = key new
  · simp [same]
  · simp [same, mem]

theorem mem_replace_iff {old : α} (mem : old ∈ rows) (same : key old = key new) :
    row ∈ replace key new rows ↔ row = new ∨ row ∈ rows ∧ key row ≠ key new := by
  constructor
  · exact mem_replace
  · rintro (rfl | ⟨isRow, other⟩)
    · exact mem_map.mpr ⟨old, mem, by simp [same]⟩
    · exact mem_map.mpr ⟨row, isRow, by simp [other]⟩

/-- No two rows share a key. -/
def Unique (key : α → κ) (rows : List α) : Prop :=
  ∀ a ∈ rows, ∀ b ∈ rows, key a = key b → a = b

omit [DecidableEq κ] in
theorem Unique.cons (unique : Unique key rows) (fresh : ∀ row ∈ rows, key row ≠ key new) :
    Unique key (new :: rows) := by
  intro a isA b isB same
  rcases mem_cons.mp isA with rfl | oldA
  · rcases mem_cons.mp isB with rfl | oldB
    · rfl
    · exact absurd same.symm (fresh b oldB)
  · rcases mem_cons.mp isB with rfl | oldB
    · exact absurd same (fresh a oldA)
    · exact unique a oldA b oldB same

omit [DecidableEq κ] in
theorem Unique.map (unique : Unique key rows) {chg : α → α}
    (keeps : ∀ row, key (chg row) = key row) : Unique key (rows.map chg) := by
  intro a' isA b' isB same
  obtain ⟨a, oldA, rfl⟩ := mem_map.mp isA
  obtain ⟨b, oldB, rfl⟩ := mem_map.mp isB
  rw [keeps, keeps] at same
  rw [unique a oldA b oldB same]

omit [DecidableEq κ] in
theorem Unique.subset (unique : Unique key rows) {fewer : List α}
    (subset : ∀ row ∈ fewer, row ∈ rows) : Unique key fewer :=
  fun a isA b isB => unique a (subset a isA) b (subset b isB)

theorem Unique.find?_eq (unique : Unique key rows) (mem : row ∈ rows) :
    rows.find? (fun other => key other = key row) = some row := by
  cases hit : rows.find? (fun other => key other = key row) with
  | none =>
    have missing := find?_eq_none.mp hit row mem
    simp at missing
  | some other =>
    have same : key other = key row := by simpa using find?_some hit
    rw [unique other (mem_of_find?_eq_some hit) row mem same]

theorem find?_of_mem (unique : (rows.map key).Nodup) (mem : row ∈ rows) :
    rows.find? (key · = key row) = some row := by
  cases hit : rows.find? (key · = key row) with
  | none =>
    have missing := find?_eq_none.mp hit row mem
    simp at missing
  | some other =>
    have same : key other = key row := by simpa using find?_some hit
    rw [inj_on_of_nodup_map unique (mem_of_find?_eq_some hit) mem same]

theorem filter_drop (unique : (rows.map key).Nodup) (n : Nat) :
    (rows.filter fun row => !((rows.drop n).any (key · = key row))) = rows.take n := by
  have halves : (((rows.take n).map key) ++ ((rows.drop n).map key)).Nodup := by
    rw [← map_append, take_append_drop]
    exact unique
  have disjoint := disjoint_of_nodup_append halves
  have split (p : α → Bool) : rows.filter p = (rows.take n).filter p ++ (rows.drop n).filter p := by
    rw [← filter_append, take_append_drop]
  have kept : ((rows.take n).filter fun row => !((rows.drop n).any (key · = key row))) =
      rows.take n := by
    apply filter_eq_self.mpr
    intro row mem
    simp only [Bool.not_eq_true', any_eq_false, decide_eq_true_eq]
    intro other beyond same
    exact disjoint (mem_map.mpr ⟨row, mem, rfl⟩) (mem_map.mpr ⟨other, beyond, same⟩)
  have gone : ((rows.drop n).filter fun row => !((rows.drop n).any (key · = key row))) = [] := by
    apply filter_eq_nil_iff.mpr
    intro row mem
    simp only [Bool.not_eq_true', any_eq_false, decide_eq_true_eq]
    exact fun none => none row mem rfl
  rw [split, kept, gone, append_nil]

/-- A column the new row does not change keeps its values. -/
theorem map_replace {β : Type} {column : α → β} {old : α} (mem : old ∈ rows)
    (unique : (rows.map key).Nodup) (sameKey : key new = key old)
    (sameColumn : column new = column old) :
    (replace key new rows).map column = rows.map column := by
  rw [replace, map_map]
  apply map_congr_left
  intro row isRow
  by_cases same : key row = key new
  · have isOld : row = old := inj_on_of_nodup_map unique isRow mem (same.trans sameKey)
    simp [isOld, sameKey, sameColumn]
  · simp [same]

/-- With a unique key, changing the rows that satisfy a test changes one row. -/
theorem map_ite_eq_replace {test : α → Bool} {chg : α → α} {old : α} (mem : old ∈ rows)
    (unique : (rows.map key).Nodup) (passes : test old = true)
    (onlyOld : ∀ row ∈ rows, test row = true → key row = key old)
    (sameKey : key (chg old) = key old) :
    rows.map (fun row => if test row then chg row else row) = replace key (chg old) rows := by
  apply map_congr_left
  intro row isRow
  by_cases same : key row = key old
  · have isOld : row = old := inj_on_of_nodup_map unique isRow mem same
    simp [isOld, passes, sameKey]
  · have fails : test row = false := by
      by_contra passed
      exact same (onlyOld row isRow (by simpa using passed))
    simp [fails, sameKey, same]

/-- All rows but one, counted. -/
theorem countP_except (unique : (rows.map key).Nodup) (mem : row ∈ rows) (p : α → Bool) :
    rows.countP (fun other => p other && !decide (key other = key row)) + (if p row then 1 else 0) =
      rows.countP p := by
  induction rows with
  | nil => cases mem
  | cons head rest ih =>
    obtain ⟨apart, unique⟩ := nodup_cons.mp unique
    simp only [countP_cons]
    rcases mem_cons.mp mem with rfl | later
    · have others : rest.countP (fun other => p other && !decide (key other = key row)) =
          rest.countP p := by
        apply countP_congr
        intro other listed
        have distinct : key other ≠ key row := fun same =>
          apart (mem_map.mpr ⟨other, listed, same⟩)
        simp [distinct]
      simp [others]
    · have distinct : key head ≠ key row := fun same =>
        apart (mem_map.mpr ⟨row, later, same.symm⟩)
      have tail := ih unique later
      simp only [distinct, decide_false, Bool.not_false, Bool.and_true]
      omega

theorem countP_or_le (p q : α → Bool) (rows : List α) :
    rows.countP (fun row => p row || q row) ≤ rows.countP p + rows.countP q := by
  induction rows with
  | nil => simp
  | cons row rest ih =>
    simp only [countP_cons]
    cases p row <;> cases q row <;> simp <;> omega

/-- When the first of the rows that count go, the others still count, and no other row goes. -/
theorem evict (unique : (rows.map key).Nodup) {counts : α → Bool} {active left : List α}
    (listed : active.Perm (rows.filter counts)) (n : Nat)
    (isLeft : left = rows.filter fun row => !((active.take n).map key).contains (key row)) :
    (left.filter counts).Perm (active.drop n) ∧ ∀ row ∈ rows, row ∉ left → row ∈ active.take n := by
  constructor
  · have distinct : (active.map key).Nodup :=
      (listed.map key).nodup_iff.mpr (unique.sublist (filter_sublist.map key))
    rw [← take_append_drop n active, map_append] at distinct
    have apart := disjoint_of_nodup_append distinct
    rw [isLeft, filter_comm]
    apply (listed.symm.filter _).trans
    conv_lhs => rw [← take_append_drop n active, filter_append]
    rw [take_append_drop, filter_eq_nil_iff.mpr, filter_eq_self.mpr, nil_append]
    · intro row isRow
      rw [Bool.not_eq_true', ← Bool.not_eq_true, contains_iff_mem]
      exact fun first => apart first (mem_map_of_mem isRow)
    · intro row isRow
      simpa using mem_map_of_mem (f := key) isRow
  · intro row isRow gone
    have isFirst : key row ∈ (active.take n).map key := by simpa [isLeft, isRow] using gone
    obtain ⟨first, mem, same⟩ := mem_map.mp isFirst
    have old := (mem_filter.mp (listed.subset (mem_of_mem_take mem))).1
    exact inj_on_of_nodup_map unique old isRow same ▸ mem

end Table
