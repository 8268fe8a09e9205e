import Mathlib.Data.Set.Card
import Mathlib.Data.List.Nodup

/-! # Counters that hand out tickets

A counter is incremented in one step, and the value it reaches is the ticket of the one who
incremented it.  Who drops out decrements it again.  Tickets up to a limit are then never
held by more than the limit allows, however the steps of the holders interleave: the holder
who came last has seen all the others.
-/

namespace Tickets

variable {κ ι : Type} [DecidableEq κ] [DecidableEq ι]

/-- An increment that has not been undone. -/
structure Ticket (κ ι : Type) where
  key : κ
  owner : ι
  number : Int

def Ticket.isFor (key : κ) (t : Ticket κ ι) : Bool := t.key = key

def Ticket.within (key : κ) (limit : Nat) (t : Ticket κ ι) : Bool :=
  t.key = key && t.number ≤ (limit : Int)

/-- One counter for each key, with the tickets it has given out. -/
structure Counter (κ ι : Type) where
  value : κ → Int
  held : List (Ticket κ ι)

namespace Counter

def zero : Counter κ ι := ⟨fun _ => 0, []⟩

open Function

def incr (c : Counter κ ι) (key : κ) (owner : ι) : Int × Counter κ ι :=
  (c.value key + 1,
    { value := update c.value key (c.value key + 1)
      held := ⟨key, owner, c.value key + 1⟩ :: c.held })

def decr (c : Counter κ ι) (key : κ) (owner : ι) : Counter κ ι :=
  { value := update c.value key (c.value key - 1)
    held := c.held.filter (·.owner ≠ owner) }

def expire (c : Counter κ ι) (key : κ) : Counter κ ι :=
  { c with value := update c.value key 0 }

open Ticket List

/-- Nobody holds two tickets, counters that are live count their tickets, and no more tickets
up to the limit are held than the limit allows. -/
structure Ok (limit : Nat) (live : κ → Prop) (c : Counter κ ι) : Prop where
  unique : (c.held.map (·.owner)).Nodup
  value_eq : ∀ key, live key → c.value key = c.held.countP (isFor key)
  bounded : ∀ key, c.held.countP (within key limit) ≤ limit

def Free (c : Counter κ ι) (owner : ι) : Prop := ∀ t ∈ c.held, t.owner ≠ owner

variable {limit : Nat} {live : κ → Prop} {c : Counter κ ι} {key : κ} {owner : ι}

omit [DecidableEq ι] in
theorem Ok.zero : (zero : Counter κ ι).Ok limit live where
  unique := nodup_nil
  value_eq _ _ := rfl
  bounded _ := Nat.zero_le _

omit [DecidableEq ι] in
theorem Ok.incr (ok : c.Ok limit live) (isLive : live key) (free : c.Free owner) :
    (c.incr key owner).2.Ok limit live where
  unique := by
    simp only [Counter.incr, map_cons, nodup_cons, mem_map, not_exists, not_and]
    exact ⟨fun t held => free t held, ok.unique⟩
  value_eq other otherLive := by
    have before := ok.value_eq other otherLive
    by_cases same : key = other
    · subst same
      simp [Counter.incr, isFor, before]
    · simp [Counter.incr, isFor, before, same, update_of_ne (Ne.symm same)]
  bounded other := by
    have before := ok.bounded other
    simp only [Counter.incr, countP_cons]
    split
    · rename_i counts
      obtain ⟨rfl, small⟩ : key = other ∧ c.value key + 1 ≤ limit := by
        simpa [within] using counts
      -- the new ticket is above all tickets of its key
      have all := ok.value_eq key isLive
      have fewer : c.held.countP (within key limit) ≤ c.held.countP (isFor key) := by
        apply countP_mono_left
        intro t _ both
        exact (Bool.and_eq_true_iff.mp both).1
      omega
    · simpa using before

omit [DecidableEq κ] in
theorem countP_filter_owner {held : List (Ticket κ ι)} (unique : (held.map (·.owner)).Nodup)
    {t : Ticket κ ι} (m : t ∈ held) (test : Ticket κ ι → Bool) :
    held.countP test = (held.filter (·.owner ≠ t.owner)).countP test + if test t then 1 else 0 := by
  induction held with
  | nil => cases m
  | cons first rest ih =>
    rw [map_cons, nodup_cons] at unique
    rcases mem_cons.mp m with rfl | m
    · have os : rest.filter (·.owner ≠ t.owner) = rest := by
        rw [filter_eq_self]
        intro other isOther
        have differs : other.owner ≠ t.owner := fun same =>
          unique.1 (mem_map.mpr ⟨other, isOther, same⟩)
        simpa using differs
      rw [filter_cons_of_neg (by simp), os, countP_cons]
    · have differs : first.owner ≠ t.owner := fun same =>
        unique.1 (mem_map.mpr ⟨t, m, same.symm⟩)
      rw [filter_cons_of_pos (by simpa using differs), countP_cons, countP_cons,
        ih unique.2 m]
      omega

theorem Ok.decr (ok : c.Ok limit live) {n : Int} (holds : ⟨key, owner, n⟩ ∈ c.held) :
    (c.decr key owner).Ok limit live where
  unique := ok.unique.sublist (filter_sublist.map _)
  value_eq other otherLive := by
    have before := ok.value_eq other otherLive
    have one := countP_filter_owner ok.unique holds (isFor other)
    by_cases same : key = other
    · subst same
      simp only [Counter.decr, update_self]
      simp only [isFor, decide_true, if_true] at one
      omega
    · simp only [Counter.decr, update_of_ne (Ne.symm same)]
      simp only [isFor, same, decide_false, Bool.false_eq_true, if_false] at one
      omega
  bounded other :=
    filter_sublist.countP_le.trans (ok.bounded other)

omit [DecidableEq ι] in
theorem Ok.mono (ok : c.Ok limit live) {still : κ → Prop} (fewer : ∀ k, still k → live k) :
    c.Ok limit still where
  unique := ok.unique
  value_eq key isLive := ok.value_eq key (fewer key isLive)
  bounded := ok.bounded

omit [DecidableEq ι] in
/-- A counter that is no longer live may do anything. -/
theorem Ok.expire (ok : c.Ok limit live) {still : κ → Prop} (fewer : ∀ k, still k → live k)
    (gone : ¬still key) : (c.expire key).Ok limit still where
  unique := ok.unique
  value_eq other otherLive := by
    have differs : other ≠ key := fun same => gone (same ▸ otherLive)
    simp only [Counter.expire, update_of_ne differs]
    exact ok.value_eq other (fewer other otherLive)
  bounded := ok.bounded

def Same (owner : ι) (c c' : Counter κ ι) : Prop :=
  ∀ t : Ticket κ ι, t.owner = owner → (t ∈ c'.held ↔ t ∈ c.held)

def Own (c : Counter κ ι) (owner : ι) (ticket : Option (κ × Int)) : Prop :=
  ∀ t : Ticket κ ι, t.owner = owner → (t ∈ c.held ↔ ticket = some (t.key, t.number))

omit [DecidableEq κ] [DecidableEq ι] in
theorem Same.trans {c' c'' : Counter κ ι} (first : c.Same owner c') (snd : c'.Same owner c'') :
    c.Same owner c'' :=
  fun t own => (snd t own).trans (first t own)

omit [DecidableEq κ] [DecidableEq ι] in
theorem Own.stable {c' : Counter κ ι} {ticket : Option (κ × Int)} (owns : c.Own owner ticket)
    (same : c.Same owner c') : c'.Own owner ticket :=
  fun t own => (same t own).trans (owns t own)

omit [DecidableEq κ] [DecidableEq ι] in
theorem Own.free (owns : c.Own owner none) : c.Free owner := by
  intro t held own
  simpa using (owns t own).mp held

omit [DecidableEq κ] [DecidableEq ι] in
theorem Free.own (free : c.Free owner) : c.Own owner none := by
  intro t own
  simpa using fun held => free t held own

omit [DecidableEq κ] [DecidableEq ι] in
theorem Own.mem {n : Int} (owns : c.Own owner (some (key, n))) : ⟨key, owner, n⟩ ∈ c.held :=
  (owns _ rfl).mpr rfl

omit [DecidableEq ι] in
theorem incr_same {other : ι} (differs : other ≠ owner) : c.Same other (c.incr key owner).2 := by
  intro t own
  simp only [Counter.incr, mem_cons, or_iff_right_iff_imp]
  rintro rfl
  exact absurd own.symm differs

theorem decr_same {other : ι} (differs : other ≠ owner) : c.Same other (c.decr key owner) := by
  rintro t rfl
  simp [Counter.decr, differs]

omit [DecidableEq ι] in
theorem Own.incr (owns : c.Own owner none) (key : κ) :
    (c.incr key owner).2.Own owner (some (key, (c.incr key owner).1)) := by
  rintro ⟨key', owner', n⟩ rfl
  have free : ⟨key', owner', n⟩ ∉ c.held := by simpa using owns ⟨key', owner', n⟩ rfl
  simp only [Counter.incr, mem_cons, free, or_false, Option.some.injEq, Prod.mk.injEq,
    Ticket.mk.injEq, true_and]
  exact ⟨fun same => ⟨same.1.symm, same.2.symm⟩, fun same => ⟨same.1.symm, same.2.symm⟩⟩

theorem decr_own : (c.decr key owner).Own owner none := by
  rintro t rfl
  simp [Counter.decr]

def owners (c : Counter κ ι) (key : κ) : Set ι :=
  { owner | ∃ number, ⟨key, owner, number⟩ ∈ c.held }

omit [DecidableEq κ] [DecidableEq ι] in
theorem encard_of_tickets {test : Ticket κ ι → Bool} (unique : (c.held.map (·.owner)).Nodup) :
    ({ owner | ∃ t ∈ c.held, test t = true ∧ t.owner = owner } : Set ι).encard =
      c.held.countP test := by
  classical
  have same : { owner | ∃ t ∈ c.held, test t = true ∧ t.owner = owner } =
      (((c.held.filter test).map (·.owner)).toFinset : Set ι) := by
    ext owner
    simp [and_assoc]
  rw [same, Set.encard_coe_eq_coe_finsetCard, toFinset_card_of_nodup, length_map,
    countP_eq_length_filter]
  exact unique.sublist (filter_sublist.map _)

omit [DecidableEq ι] in
/-- A live counter counts its owners. -/
theorem Ok.encard_owners (ok : c.Ok limit live) (isLive : live key) :
    ∃ n : Nat, (c.owners key).encard = n ∧ c.value key = n := by
  refine ⟨c.held.countP (isFor key), ?_, ok.value_eq key isLive⟩
  rw [← encard_of_tickets ok.unique]
  congr 1
  ext owner
  constructor
  · rintro ⟨number, held⟩
    exact ⟨_, held, by simp [isFor], rfl⟩
  · rintro ⟨⟨key', owner', number⟩, held, isKey, rfl⟩
    obtain rfl : key' = key := by simpa [isFor] using isKey
    exact ⟨number, held⟩

omit [DecidableEq ι] in
/-- Not more than the limit hold a ticket that the limit allows. -/
theorem Ok.encard_le (ok : c.Ok limit live) (key : κ) {holders : Set ι}
    (hold : ∀ owner ∈ holders, ∃ n ≤ (limit : Int), ⟨key, owner, n⟩ ∈ c.held) :
    holders.encard ≤ limit := by
  have included : holders ⊆
      { owner | ∃ t ∈ c.held, t.within key limit = true ∧ t.owner = owner } := by
    intro owner isHolder
    obtain ⟨n, small, held⟩ := hold owner isHolder
    exact ⟨_, held, by simp [within, small], rfl⟩
  calc holders.encard ≤ _ := Set.encard_le_encard included
    _ = c.held.countP (within key limit) := encard_of_tickets ok.unique
    _ ≤ limit := by exact_mod_cast ok.bounded key

end Counter

end Tickets
