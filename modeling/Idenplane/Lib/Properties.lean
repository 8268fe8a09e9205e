import Mathlib.Data.List.Basic

/-! # Objects as lists of properties

The properties of an object in the order in which they were set.  Setting a property that is
there keeps its place.
-/

namespace Properties

open List Prod

variable {κ α : Type} [DecidableEq κ]

abbrev Object (κ α : Type) := List (κ × α)

def get : Object κ α → κ → Option α
  | [], _ => none
  | entry :: object, key => if entry.1 = key then some entry.2 else get object key

def set : Object κ α → κ → α → Object κ α
  | [], key, value => [(key, value)]
  | entry :: object, key, value =>
    if entry.1 = key then (key, value) :: object else entry :: set object key value

def delete (object : Object κ α) (key : κ) : Object κ α := object.filter (·.1 ≠ key)

variable {object : Object κ α} {key other : κ} {value : α}

@[simp] theorem get_set_self (object : Object κ α) (key : κ) (value : α) :
    get (set object key value) key = some value := by
  induction object with
  | nil => simp [set, get]
  | cons e object ih =>
    by_cases same : e.1 = key <;> simp [set, get, same, ih]

theorem get_set_of_ne (ne : other ≠ key) : get (set object key value) other = get object other := by
  induction object with
  | nil => simp [set, get, Ne.symm ne]
  | cons e object ih =>
    by_cases same : e.1 = key
    · simp [set, get, same, Ne.symm ne]
    · simp [set, get, same, ih]

@[simp] theorem get_delete_self (object : Object κ α) (key : κ) :
    get (delete object key) key = none := by
  induction object with
  | nil => rfl
  | cons e object ih =>
    by_cases same : e.1 = key
    · simpa [delete, same] using ih
    · simpa [delete, get, same] using ih

theorem get_delete_of_ne (ne : other ≠ key) : get (delete object key) other = get object other := by
  induction object with
  | nil => rfl
  | cons e object ih =>
    by_cases same : e.1 = key
    · simpa [delete, get, same, Ne.symm ne] using ih
    · have kept : delete (e :: object) key = e :: delete object key := by
        simp [delete, same]
      rw [kept, get, get, ih]

@[simp] theorem set_set (object : Object κ α) (key : κ) (first second : α) :
    set (set object key first) key second = set object key second := by
  induction object with
  | nil => simp [set]
  | cons e object ih =>
    by_cases same : e.1 = key <;> simp [set, same, ih]

/-- A property that is there keeps its place, so that it does not matter which of the two is
written first. -/
theorem set_comm {first snd : α} (ne : other ≠ key) (present : (get object other).isSome) :
    set (set object key first) other snd = set (set object other snd) key first := by
  induction object with
  | nil => cases present
  | cons e object ih =>
    by_cases isKey : e.1 = key
    · have isNot : e.1 ≠ other := fun same => ne (same.symm.trans isKey)
      have alone : key ≠ other := Ne.symm ne
      simp [set, isKey, alone]
    · by_cases isOther : e.1 = other
      · simp [set, isOther, ne]
      · rw [get, if_neg isOther] at present
        simp [set, isKey, isOther, ih present]

def Distinct (object : Object κ α) : Prop := (object.map fst).Nodup

theorem get_eq_none (absent : key ∉ object.map fst) : get object key = none := by
  induction object with
  | nil => rfl
  | cons e object ih =>
    rw [map_cons, mem_cons, not_or] at absent
    rw [get, if_neg (Ne.symm absent.1), ih absent.2]

theorem mem_set {name : κ} (mem : name ∈ (set object key value).map fst) :
    name = key ∨ name ∈ object.map fst := by
  induction object with
  | nil => simpa [set] using mem
  | cons e object ih =>
    by_cases same : e.1 = key
    · rw [set, if_pos same, map_cons, mem_cons] at mem
      cases mem with
      | inl isKey => exact .inl isKey
      | inr later => exact .inr (.tail _ later)
    · rw [set, if_neg same, map_cons, mem_cons] at mem
      rw [map_cons, mem_cons]
      cases mem with
      | inl isFirst => exact .inr (.inl isFirst)
      | inr later => exact (ih later).imp_right .inr

theorem Distinct.set (distinct : Distinct object) (key : κ) (value : α) :
    Distinct (set object key value) := by
  induction object with
  | nil => simp [Distinct, Properties.set]
  | cons e object ih =>
    rw [Distinct, map_cons, nodup_cons] at distinct
    by_cases same : e.1 = key
    · rw [Properties.set, if_pos same, Distinct, map_cons, nodup_cons]
      exact ⟨same ▸ distinct.1, distinct.2⟩
    · rw [Properties.set, if_neg same, Distinct, map_cons, nodup_cons]
      constructor
      · intro mem
        cases mem_set mem with
        | inl isKey => exact same isKey
        | inr later => exact distinct.1 later
      · exact ih distinct.2

/-- Properties written one after the other count before those that were there. -/
theorem get_foldl_set {patch : Object κ α} (distinct : Distinct patch) (object : Object κ α) :
    get (patch.foldl (fun object e => set object e.1 e.2) object) key =
      (get patch key).or (get object key) := by
  induction patch generalizing object with
  | nil => rfl
  | cons e rest ih =>
    rw [Distinct, map_cons, nodup_cons] at distinct
    rw [foldl_cons, ih distinct.2]
    by_cases same : e.1 = key
    · subst same
      rw [get_eq_none distinct.1, get_set_self, get, if_pos rfl]
      rfl
    · rw [get_set_of_ne (Ne.symm same), get, if_neg same]

section Folds

variable {β : Type} {step : Object κ α → β → Object κ α} {own : β → κ} {xs : List β} {item : β}

section

variable (frame : ∀ object item other, other ≠ own item → get (step object item) other = get object other)

include frame

/-- Every item has a property of its own and leaves the others alone. -/
theorem get_foldl_of_notMem
    (absent : key ∉ xs.map own) : get (xs.foldl step object) key = get object key := by
  induction xs generalizing object with
  | nil => rfl
  | cons first rest ih =>
    rw [map_cons, mem_cons, not_or] at absent
    rw [foldl_cons, ih absent.2, frame object first key absent.1]

theorem get_foldl {becomes : β → Option α → Option α → Prop} (within : ∀ object item,
      becomes item (get object (own item)) (get (step object item) (own item)))
    (nodup : (xs.map own).Nodup) (mem : item ∈ xs) :
    becomes item (get object (own item)) (get (xs.foldl step object) (own item)) := by
  induction xs generalizing object with
  | nil => cases mem
  | cons first rest ih =>
    rw [map_cons, nodup_cons] at nodup
    rcases mem_cons.mp mem with rfl | later
    · rw [foldl_cons, get_foldl_of_notMem frame nodup.1]
      exact within object item
    · have ne : own item ≠ own first := fun same =>
        nodup.1 (same ▸ mem_map_of_mem later)
      rw [foldl_cons, ← frame object first _ ne]
      exact ih nodup.2 later

/-- The items wipe out what was written to the property of one of them. -/
theorem foldl_set {pre : α} (absorbs : ∀ object, get object (own item) = some pre →
      step (set object (own item) value) item = step object item)
    (commutes : ∀ object other, own other ≠ own item →
      step (set object (own item) value) other = set (step object other) (own item) value)
    (nodup : (xs.map own).Nodup) (mem : item ∈ xs)
    (hit : get object (own item) = some pre) :
    xs.foldl step (set object (own item) value) = xs.foldl step object := by
  induction xs generalizing object with
  | nil => cases mem
  | cons first rest ih =>
    rw [map_cons, nodup_cons] at nodup
    rw [foldl_cons, foldl_cons]
    rcases mem_cons.mp mem with rfl | later
    · rw [absorbs object hit]
    · have ne : own item ≠ own first := fun same =>
        nodup.1 (same ▸ mem_map_of_mem later)
      rw [commutes object first (Ne.symm ne)]
      exact ih nodup.2 later (by rwa [frame object first _ ne])

end

end Folds

end Properties
