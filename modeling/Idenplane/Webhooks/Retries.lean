import Idenplane.Webhooks.Outbox

/-! # How often an event is attempted

Three bounds end the retries of an event: the column `maxAttempts`, the table of delays, and the
condition on `attempts` in the query of the scheduler, which knows nothing of the column.
-/

namespace Idenplane.Webhooks

/-- A tick during which no subscriber can be reached: when it begins, and when it writes what has
become of an event. -/
structure FailingTick where
  now : Int
  written : Nat → Int

/-- `processQueue`, where every event has a subscriber and every delivery fails. -/
def failingTick (tick : FailingTick) (events : List WebhookEvent) : List WebhookEvent :=
  let selected := selectDue tick.now events
  events.map fun row =>
    if (selected.map (·.id)).contains row.id then
      conclude row (tick.written row.id) (setStatus .PROCESSING row) .failed
    else row

/-- The attempts to deliver an event, each with the event as it was selected. -/
def attempts (id : Nat) : List FailingTick → List WebhookEvent → List (FailingTick × WebhookEvent)
  | [], _ => []
  | tick :: ticks, events =>
    ((selectDue tick.now events).find? (·.id = id)).toList.map (tick, ·) ++
      attempts id ticks (failingTick tick events)

/-- No tick begins before the one before it has written. -/
structure InOrder (ticks : List FailingTick) : Prop where
  each : ∀ tick ∈ ticks, ∀ id, tick.now ≤ tick.written id
  ordered : ticks.Pairwise fun a b => ∀ id, a.written id ≤ b.now

/-- `processEvent` logs that the event has permanently failed. -/
def GivesUp (row : WebhookEvent) : Prop :=
  ¬(row.maxAttempts - ((row.attempts + 1 : Nat) : Int) > 0 ∧
    row.attempts + 1 ≤ RETRY_DELAYS_MS.length)

/-- What is promised about the attempts of an event. -/
structure Bounded (id : Nat) (maxAttempts : Int) (log : List (FailingTick × WebhookEvent)) :
    Prop where
  count : (log.length : Int) ≤ maxAttempts
  apart : ∀ i a b, log[i]? = some a → log[i + 1]? = some b →
    a.1.written id + RETRY_DELAYS_MS.getD i 600000 ≤ b.1.now
  final : ∀ i a, log[i]? = some a → GivesUp a.2 → log.length = i + 1

inductive Attempted : WebhookEvent → List (FailingTick × WebhookEvent) → Prop where
  | done {row : WebhookEvent} : Attempted row []
  | again {row : WebhookEvent} {tick : FailingTick} {log : List (FailingTick × WebhookEvent)} :
      isDue tick.now row = true →
      Attempted (conclude row (tick.written row.id) (setStatus .PROCESSING row) .failed) log →
      Attempted row ((tick, row) :: log)

section Rows

variable {row : WebhookEvent} {log : List (FailingTick × WebhookEvent)} {now : Int}

theorem conclude_failed (row : WebhookEvent) (now : Int) :
    (conclude row now (setStatus .PROCESSING row) .failed).id = row.id ∧
      (conclude row now (setStatus .PROCESSING row) .failed).status = .FAILED ∧
      (conclude row now (setStatus .PROCESSING row) .failed).attempts = row.attempts + 1 ∧
      (conclude row now (setStatus .PROCESSING row) .failed).maxAttempts = row.maxAttempts := by
  unfold conclude
  dsimp only
  split <;> exact ⟨rfl, rfl, rfl, rfl⟩

theorem conclude_nextRetryAt (row : WebhookEvent) (now : Int) :
    ¬GivesUp row ∧ (conclude row now (setStatus .PROCESSING row) .failed).nextRetryAt =
        now + RETRY_DELAYS_MS.getD row.attempts 600000 ∨
      GivesUp row ∧ (conclude row now (setStatus .PROCESSING row) .failed).nextRetryAt =
        row.nextRetryAt := by
  unfold conclude GivesUp
  dsimp only
  split
  · rename_i retries
    exact .inl ⟨not_not_intro retries, rfl⟩
  · rename_i over_
    exact .inr ⟨over_, rfl⟩

theorem not_givesUp (room : (MAX_ATTEMPTS : Int) ≤ row.maxAttempts)
    (again_ : row.attempts + 1 < MAX_ATTEMPTS) : ¬GivesUp row :=
  not_not_intro ⟨by omega, Nat.le_of_lt_succ again_⟩

theorem delay_le : ∀ n, RETRY_DELAYS_MS.getD n 600000 ≤ 600000
  | 0 | 1 | 2 | 3 => by decide
  | _ + 4 => le_rfl

theorem isDue_iff : isDue now row = true ↔
    waits row.status = true ∧ row.nextRetryAt ≤ now ∧ row.attempts < MAX_ATTEMPTS := by
  simp [isDue, and_assoc]

variable {evs : List WebhookEvent}

theorem mem_selectDue (mem : row ∈ selectDue now evs) : row ∈ evs ∧ isDue now row = true := by
  have inSorted := (List.take_sublist _ _).subset mem
  exact mem_filter.mp ((List.mem_insertionSort _).mp inSorted)

theorem failingTick_ids (tick : FailingTick) (evs : List WebhookEvent) :
    (failingTick tick evs).map (·.id) = evs.map (·.id) := by
  rw [failingTick, map_map]
  apply map_congr_left
  intro row _
  simp only [comp_apply]
  split
  · exact (conclude_failed _ _).1
  · rfl

theorem attempts_attempted (ticks : List FailingTick)
    (unique : (evs.map (·.id)).Nodup) (mem : row ∈ evs) :
    Attempted row (attempts row.id ticks evs) := by
  induction ticks generalizing evs row with
  | nil => exact .done
  | cons tick ticks ih =>
    rw [attempts]
    have next : ∀ row' ∈ failingTick tick evs, Attempted row'
        (attempts row'.id ticks (failingTick tick evs)) := fun row' isNext =>
      ih (by rwa [failingTick_ids]) isNext
    have moved := mem_map_of_mem (f := fun row =>
      if ((selectDue tick.now evs).map (·.id)).contains row.id then
        conclude row (tick.written row.id) (setStatus .PROCESSING row) .failed
      else row) mem
    cases found : (selectDue tick.now evs).find? (·.id = row.id) with
    | some selected =>
      have isSelected := mem_of_find?_eq_some found
      have sameId : selected.id = row.id := by simpa using find?_some found
      obtain ⟨inTable, due⟩ := mem_selectDue isSelected
      obtain rfl : selected = row := inj_on_of_nodup_map unique inTable mem sameId
      rw [if_pos (contains_iff_mem.mpr (mem_map_of_mem isSelected))] at moved
      have later := next _ moved
      rw [(conclude_failed _ _).1] at later
      exact .again due later
    | none =>
      have absent : ¬((selectDue tick.now evs).map (·.id)).contains row.id = true := by
        intro listed
        obtain ⟨selected, isSelected, sameId⟩ := mem_map.mp (contains_iff_mem.mp listed)
        simpa [sameId] using find?_eq_none.mp found selected isSelected
      rw [if_neg absent] at moved
      exact next _ moved

theorem Attempted.first {a : FailingTick × WebhookEvent} (attempted : Attempted row log)
    (isFirst : log[0]? = some a) : isDue a.1.now row = true := by
  cases attempted with
  | done => cases isFirst
  | again due _ =>
    cases isFirst
    exact due

/-- With room in the column for all attempts that the query allows, the other bounds agree. -/
theorem Attempted.bounds (attempted : Attempted row log)
    (room : (MAX_ATTEMPTS : Int) ≤ row.maxAttempts) (few : row.attempts ≤ MAX_ATTEMPTS) :
    log.length + row.attempts ≤ MAX_ATTEMPTS ∧ (∀ i a b, log[i]? = some a → log[i + 1]? = some b →
        a.1.written row.id + RETRY_DELAYS_MS.getD (row.attempts + i) 600000 ≤ b.1.now) ∧
      ∀ i a, log[i]? = some a → GivesUp a.2 → log.length = i + 1 := by
  induction attempted with
  | done => exact ⟨by simpa using few, by simp, by simp⟩
  | @again row tick log due later ih =>
    obtain ⟨-, -, below⟩ := isDue_iff.mp due
    obtain ⟨sameId, -, cnt, sameMax⟩ := conclude_failed row (tick.written row.id)
    rw [cnt, sameMax, sameId] at ih
    obtain ⟨len, apart, final⟩ := ih room below
    refine ⟨by rw [length_cons]; omega, ?_, ?_⟩
    · intro i a b isA isB
      cases i with
      | zero =>
        cases isA
        obtain ⟨-, retried, again_⟩ := isDue_iff.mp (later.first isB)
        rw [cnt] at again_
        rcases conclude_nextRetryAt row (tick.written row.id) with ⟨-, at_⟩ | ⟨gaveUp, -⟩
        · rw [at_] at retried
          exact retried
        · exact absurd gaveUp (not_givesUp room again_)
      | succ i =>
        have rest := apart i a b isA isB
        rwa [Nat.add_right_comm, Nat.add_assoc] at rest
    · intro i a isA gaveUp
      cases i with
      | zero =>
        cases isA
        cases log with
        | nil => rfl
        | cons b log =>
          obtain ⟨-, -, again_⟩ := isDue_iff.mp (later.first rfl)
          rw [cnt] at again_
          exact absurd gaveUp (not_givesUp room again_)
      | succ i => rw [length_cons, final i a isA gaveUp]

/-- Ticks so far apart that every retry is due. -/
def spaced (base : Int) : Nat → List FailingTick
  | 0 => []
  | n + 1 => ⟨base, fun _ => base⟩ :: spaced (base + 600000) n

theorem mem_spaced {base : Int} {n : Nat} {tick : FailingTick} (mem : tick ∈ spaced base n) :
    base ≤ tick.now ∧ ∀ id, tick.written id = tick.now := by
  induction n generalizing base with
  | zero => cases mem
  | succ n ih =>
    cases mem with
    | head => exact ⟨le_rfl, fun _ => rfl⟩
    | tail _ later =>
      obtain ⟨above, same⟩ := ih later
      exact ⟨by omega, same⟩

theorem spaced_inOrder (base : Int) (n : Nat) : InOrder (spaced base n) where
  each := fun _ mem id => ((mem_spaced mem).2 id).ge
  ordered := by
    induction n generalizing base with
    | zero => exact .nil
    | succ n ih =>
      refine .cons (fun tick later id => ?_) (ih _)
      have above := (mem_spaced later).1
      simp only
      omega

theorem spaced_attempts {n : Nat} {base : Int} (few : row.attempts + n ≤ MAX_ATTEMPTS)
    (waiting : waits row.status = true) (due : row.nextRetryAt ≤ base) :
    (attempts row.id (spaced base n) [row]).length = n := by
  induction n generalizing row base with
  | zero => rfl
  | succ n ih =>
    have isDue_ : isDue base row = true := isDue_iff.mpr ⟨waiting, due, by omega⟩
    have selected : selectDue base [row] = [row] := by simp [selectDue, isDue_, BATCH_SIZE]
    obtain ⟨sameId, failed, cnt, -⟩ := conclude_failed row base
    have delay := delay_le row.attempts
    have next := @ih (conclude row base (setStatus .PROCESSING row) .failed) (base + 600000)
      (by omega) (by rw [failed]; rfl) (by
        rcases conclude_nextRetryAt row base with ⟨-, at_⟩ | ⟨-, at_⟩ <;> omega)
    rw [sameId] at next
    simp [spaced, attempts, selected, failingTick, next]

end Rows

def newEvent (id realmId : Nat) (eventType : String) (maxAttempts now : Int) : WebhookEvent :=
  { id := id, realmId := realmId, eventType := eventType, maxAttempts := maxAttempts
    nextRetryAt := now }

/-- The promises hold, whatever else is in the queue and whenever the ticks come, exactly when the
column allows as many attempts as the query. -/
theorem attempts_bounded_iff (id rid : Nat) (eventType : String) (maxAttempts now : Int) :
    (∀ evs ticks, newEvent id rid eventType maxAttempts now ∈ evs →
      (evs.map (·.id)).Nodup → InOrder ticks →
      Bounded id maxAttempts (attempts id ticks evs)) ↔ (MAX_ATTEMPTS : Int) ≤ maxAttempts := by
  constructor
  · intro bounded
    have counted := (bounded [newEvent id rid eventType maxAttempts now]
      (spaced now MAX_ATTEMPTS) (List.mem_singleton_self _) (nodup_singleton _)
      (spaced_inOrder _ _)).count
    have all := @spaced_attempts (newEvent id rid eventType maxAttempts now) MAX_ATTEMPTS now
      le_rfl rfl le_rfl
    rwa [show attempts id = attempts (newEvent id rid eventType maxAttempts now).id from rfl,
      all] at counted
  · intro room evs ticks mem unique _
    obtain ⟨len, apart, final⟩ :=
      (attempts_attempted ticks unique mem).bounds room (Nat.zero_le _)
    refine ⟨le_trans (by exact_mod_cast len) room, fun i a b isA isB => ?_, final⟩
    have gap := apart i a b isA isB
    rwa [show (newEvent id rid eventType maxAttempts now).attempts + i = i from Nat.zero_add i]
      at gap

/-- With the default of the column, the fourth attempt is logged as the last one, and a fifth
follows at the next tick. -/
theorem attempted_after_giving_up : InOrder (spaced 0 5) ∧
      (∃ e, (attempts 1 (spaced 0 5) [newEvent 1 1 "user.created" 4 0])[3]? = some e ∧
        GivesUp e.2) ∧
      (attempts 1 (spaced 0 5) [newEvent 1 1 "user.created" 4 0]).length = 5 ∧
      ¬Bounded 1 4 (attempts 1 (spaced 0 5) [newEvent 1 1 "user.created" 4 0]) := by
  refine ⟨spaced_inOrder 0 5, ⟨_, rfl, ?_⟩, rfl, fun bounded => ?_⟩
  · unfold GivesUp
    decide
  · have counted := bounded.count
    revert counted
    decide

end Idenplane.Webhooks
