import Idenplane.Lib.Tickets

/-! # Windows that are opened again

A cell counts arrivals in a window of fixed length.  Whoever arrives after its end opens a new
window in the same cell, with a count of one.  Arrivals hold tickets of the window they were
counted in, so the windows of the past keep their bound.
-/

namespace Windows

open Tickets Counter List

variable {ι : Type}

structure Cell where
  count : Int
  start : Int
  deriving DecidableEq

/-- The tickets of all windows, and when these have started. -/
structure Ledger (ι : Type) where
  counter : Counter Int ι
  starts : List Int

namespace Ledger

def empty : Ledger ι := ⟨.zero, []⟩

def start (l : Ledger ι) (now : Int) (owner : ι) : Ledger ι :=
  ⟨(l.counter.incr now owner).2, now :: l.starts⟩

/-- An arrival in the window that started at `since`. -/
def join (l : Ledger ι) (since : Int) (owner : ι) : Ledger ι :=
  { l with counter := (l.counter.incr since owner).2 }

def leave [DecidableEq ι] (l : Ledger ι) (since : Int) (owner : ι) : Ledger ι :=
  { l with counter := l.counter.decr since owner }

def restart [DecidableEq ι] (l : Ledger ι) (since now : Int) (owner : ι) : Ledger ι :=
  (l.leave since owner).start now owner

/-- The cell counts the window that started last, and windows do not overlap. -/
structure Ok (span : Int) (limit : Nat) (cell : Option Cell) (l : Ledger ι) : Prop where
  counter : l.counter.Ok limit fun key => key ∉ l.starts ∨ ∃ c, cell = some c ∧ c.start = key
  keys : ∀ t ∈ l.counter.held, t.key ∈ l.starts
  count : ∀ c, cell = some c → c.count = l.counter.value c.start
  current : ∀ c, cell = some c → c.start ∈ l.starts
  latest : ∀ c, cell = some c → ∀ since ∈ l.starts, since = c.start ∨ since + span ≤ c.start
  apart : ∀ a ∈ l.starts, ∀ b ∈ l.starts, a = b ∨ a + span ≤ b ∨ b + span ≤ a

variable {span : Int} {limit : Nat} {cell : Option Cell} {c : Cell} {l : Ledger ι} {now : Int}
  {owner : ι}

theorem Ok.empty : (empty : Ledger ι).Ok span limit none where
  counter := .zero
  keys := by simp [Ledger.empty, zero]
  count := by simp
  current := by simp
  latest := by simp
  apart := by simp [Ledger.empty]

theorem Ok.drop (ok : l.Ok span limit cell) : l.Ok span limit none where
  counter := ok.counter.mono fun key isNew => isNew.imp id fun ⟨_, isNone, _⟩ => by cases isNone
  keys := ok.keys
  count := by simp
  current := by simp
  latest := by simp
  apart := ok.apart

theorem Ok.start (ok : l.Ok span limit cell) (positive : 0 < span) (free : l.counter.Free owner)
    (ended : ∀ since ∈ l.starts, since + span ≤ now) :
    (l.start now owner).Ok span limit (some ⟨1, now⟩) := by
  have isNew : now ∉ l.starts := fun m => by
    have := ended now m
    omega
  have unused : l.counter.value now = 0 := by
    have all := ok.counter.value_eq now (.inl isNew)
    rw [all, Nat.cast_eq_zero, countP_eq_zero]
    intro t held
    have key := ok.keys t held
    simp only [Ticket.isFor, decide_eq_true_eq]
    rintro rfl
    exact isNew key
  refine {
    counter := ?_
    keys := ?_
    count := ?_
    current := ?_
    latest := ?_
    apart := ?_ }
  · refine (ok.counter.incr (.inl isNew) free).mono fun key isLive => ?_
    rcases isLive with isNew | ⟨c, isCell, rfl⟩
    · exact .inl fun old => isNew (.tail _ old)
    · cases isCell
      exact .inl isNew
  · intro t held
    rcases mem_cons.mp held with rfl | held
    · exact mem_cons_self
    · exact .tail _ (ok.keys t held)
  · rintro c isCell
    cases isCell
    simp [Ledger.start, incr, unused]
  · rintro c isCell
    cases isCell
    exact mem_cons_self
  · rintro c isCell since m
    cases isCell
    rcases mem_cons.mp m with rfl | m
    · exact .inl rfl
    · exact .inr (ended since m)
  · intro a isA b isB
    rcases mem_cons.mp isA with rfl | oldA <;> rcases mem_cons.mp isB with rfl | oldB
    · exact .inl rfl
    · exact .inr (.inr (ended b oldB))
    · exact .inr (.inl (ended a oldA))
    · exact ok.apart a oldA b oldB

theorem Ok.join (ok : l.Ok span limit (some c)) (free : l.counter.Free owner) :
    (l.join c.start owner).Ok span limit (some { c with count := c.count + 1 }) := by
  refine {
    counter := ?_
    keys := ?_
    count := ?_
    current := ?_
    latest := ?_
    apart := ok.apart }
  · refine (ok.counter.incr (.inr ⟨c, rfl, rfl⟩) free).mono fun key isLive => ?_
    refine isLive.imp id fun ⟨c', isCell, isKey⟩ => ?_
    cases isCell
    exact ⟨c, rfl, isKey⟩
  · intro t held
    rcases mem_cons.mp held with rfl | held
    · exact ok.current c rfl
    · exact ok.keys t held
  · rintro c' isCell
    cases isCell
    simp [Ledger.join, incr, ok.count c rfl]
  · rintro c' isCell
    cases isCell
    exact ok.current c rfl
  · rintro c' isCell
    cases isCell
    exact ok.latest c rfl

variable {n : Int}

theorem Ok.leave [DecidableEq ι] (ok : l.Ok span limit (some c))
    (holds : ⟨c.start, owner, n⟩ ∈ l.counter.held) :
    (l.leave c.start owner).Ok span limit (some { c with count := c.count - 1 }) := by
  refine {
    counter := ?_
    keys := fun t held => ok.keys t (mem_of_mem_filter held)
    count := ?_
    current := ?_
    latest := ?_
    apart := ok.apart }
  · refine (ok.counter.decr holds).mono fun key isLive => ?_
    refine isLive.imp id fun ⟨c', isCell, isKey⟩ => ?_
    cases isCell
    exact ⟨c, rfl, isKey⟩
  · rintro c' isCell
    cases isCell
    simp [Ledger.leave, decr, ok.count c rfl]
  · rintro c' isCell
    cases isCell
    exact ok.current c rfl
  · rintro c' isCell
    cases isCell
    exact ok.latest c rfl

theorem Ok.restart [DecidableEq ι] (ok : l.Ok span limit (some c)) (positive : 0 < span)
    (holds : ⟨c.start, owner, n⟩ ∈ l.counter.held) (ended : c.start + span ≤ now) :
    (l.restart c.start now owner).Ok span limit (some ⟨1, now⟩) := by
  refine (ok.leave holds).start positive decr_own.free fun since m => ?_
  rcases ok.latest c rfl since m with rfl | pre
  · exact ended
  · omega

variable {since : Int}

section Tickets

def Grows (owner : ι) (l l' : Ledger ι) : Prop :=
  (∀ t ∈ l'.counter.held, t.owner = owner ∨ t ∈ l.counter.held) ∧
    ∀ other, other ≠ owner → l.counter.Same other l'.counter

theorem grows_start : l.Grows owner (l.start now owner) := by
  refine ⟨fun t held => ?_, fun other differs => incr_same differs⟩
  rcases mem_cons.mp held with rfl | held
  · exact .inl rfl
  · exact .inr held

theorem grows_join : l.Grows owner (l.join since owner) := by
  refine ⟨fun t held => ?_, fun other differs => incr_same differs⟩
  rcases mem_cons.mp held with rfl | held
  · exact .inl rfl
  · exact .inr held

theorem grows_leave [DecidableEq ι] : l.Grows owner (l.leave since owner) :=
  ⟨fun _ held => .inr (mem_of_mem_filter held), fun _ differs => decr_same differs⟩

theorem grows_restart [DecidableEq ι] : l.Grows owner (l.restart since now owner) := by
  refine ⟨fun t held => ?_, fun other differs => ?_⟩
  · rcases grows_start.1 t held with own | held
    · exact .inl own
    · exact grows_leave.1 t held
  · exact (grows_leave.2 other differs).trans (grows_start.2 other differs)

/-- The window that an owner opens has it as the first. -/
theorem Ok.own_start (ok : l.Ok span limit cell) (positive : 0 < span)
    (none_ : l.counter.Own owner none) (ended : ∀ since ∈ l.starts, since + span ≤ now) :
    (l.start now owner).counter.Own owner (some (now, 1)) := by
  have counted := (ok.start positive none_.free ended).count ⟨1, now⟩ rfl
  have first : (l.counter.incr now owner).1 = 1 := by
    simpa [Ledger.start, incr] using counted.symm
  have owns := none_.incr now
  rw [first] at owns
  exact owns

theorem Ok.own_join (ok : l.Ok span limit (some c)) (none_ : l.counter.Own owner none) :
    (l.join c.start owner).counter.Own owner (some (c.start, c.count + 1)) := by
  have n : (l.counter.incr c.start owner).1 = c.count + 1 := by
    simp [incr, ok.count c rfl]
  have owns := none_.incr c.start
  rw [n] at owns
  exact owns

theorem Ok.own_restart [DecidableEq ι] (ok : l.Ok span limit (some c)) (positive : 0 < span) (owns : l.counter.Own owner (some (c.start, n)))
    (ended : c.start + span ≤ now) :
    (l.restart c.start now owner).counter.Own owner (some (now, 1)) := by
  apply (ok.leave owns.mem).own_start positive decr_own
  intro since m
  rcases ok.latest c rfl since m with rfl | pre
  · exact ended
  · omega

end Tickets

/-- In every window, past or present, not more than the limit hold a ticket it allows. -/
theorem Ok.encard_le (ok : l.Ok span limit cell) (recorded : since ∈ l.starts)
    {holders : Set ι} (hold : ∀ owner ∈ holders, ∃ key n now, n ≤ (limit : Int) ∧
      ⟨key, owner, n⟩ ∈ l.counter.held ∧ (key ≤ now ∧ now < key + span) ∧
      since ≤ now ∧ now < since + span) : holders.encard ≤ limit := by
  apply ok.counter.encard_le since
  intro owner isHolder
  obtain ⟨key, n, now, small, held, inKey, inSince⟩ := hold owner isHolder
  rcases ok.apart since recorded key (ok.keys _ held) with rfl | pre | after
  · exact ⟨n, small, held⟩
  · omega
  · omega

end Ledger

end Windows
