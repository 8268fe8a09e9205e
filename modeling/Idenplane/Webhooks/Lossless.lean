import Idenplane.Webhooks.Outbox

/-! # What becomes of an event

An event that is marked as being processed is selected by no tick.  It depends on its task: when the
task ends without writing the outcome, or with its instance, nobody comes back to the event.  And a
tick goes on to process every event that it has selected, whether its update marked it or not.

`Orderly` steps are those at which neither happens.
-/

namespace Idenplane.Webhooks

open List Webhooks.System Tick

variable {s s' : System} {tick : Tick} {i k : Nat} {events : List WebhookEvent}

/-- The task `k` of the tick `i` is processing the event. -/
def Holds (s : System) (i k id : Nat) : Prop :=
  ∃ task, s.task i k = some task ∧ task.phase ≠ .ended ∧ task.event.id = id

def Terminal (row : WebhookEvent) : Prop := row.status = .FAILED ∧ MAX_ATTEMPTS ≤ row.attempts

/-- A tick that starts at some later time finds the event among those that are due. -/
def Selectable (s : System) (row : WebhookEvent) : Prop :=
  ∃ later, s.now ≤ later ∧ isDue later row = true

/-- The event is delivered, has failed for good, is being processed, or waits for a tick. -/
def Accounted (s : System) (row : WebhookEvent) : Prop :=
  row.status = .DELIVERED ∨ Terminal row ∨ (∃ i k, Holds s i k row.id) ∨ Selectable s row

/-- No event is processed twice at a time. -/
def Exclusive (s : System) : Prop :=
  ∀ i j k l id, Holds s i k id → Holds s j l id → i = j ∧ k = l

/-- The step leaves no event behind, and takes none from another tick.  The update of a tick finds
the events that the tick has selected still waiting; no call fails after it, until the outcomes are
written; and no instance crashes in between. -/
def Orderly (s : System) : Action → Prop
  | .claim i => ∀ server events, s.ticks i = .claiming server events →
      ∀ event ∈ events, ∃ row ∈ s.events, row.id = event.id ∧ waits row.status = true
  | .abort i executed => ∀ server events, s.ticks i = .claiming server events → executed = false
  | .throw _ _ => False
  | .crash server => ∀ i k id, Holds s i k id → (s.ticks i).server ≠ some server
  | _ => True

/-- No tick has started, and no event is left over from an earlier one. -/
structure Fresh (s : System) : Prop where
  ids : (s.events.map (·.id)).Nodup
  drawn : ∀ row ∈ s.events, row.id < s.supply
  idle : ∀ i, s.ticks i = .idle
  unmarked : ∀ row ∈ s.events, row.status ≠ .PROCESSING
  pending : ∀ row ∈ s.events, row.status = .PENDING → row.attempts < MAX_ATTEMPTS

structure Inv (s : System) : Prop where
  ids : (s.events.map (·.id)).Nodup
  drawn : ∀ row ∈ s.events, row.id < s.supply
  pending : ∀ row ∈ s.events, row.status = .PENDING → row.attempts < MAX_ATTEMPTS
  selected : ∀ i server events, s.ticks i = .claiming server events → (events.map (·.id)).Nodup
  /-- What is marked is being processed. -/
  marked : ∀ row ∈ s.events, row.status = .PROCESSING → ∃ i k, Holds s i k row.id
  /-- What is being processed is marked. -/
  held : ∀ i k id, Holds s i k id → ∃ row ∈ s.events, row.id = id ∧ row.status = .PROCESSING
  exclusive : Exclusive s

theorem Fresh.inv (fresh : Fresh s) : Inv s := by
  have none : ∀ i k id, ¬ Holds s i k id := by
    rintro i k id ⟨task, isTask, -⟩
    simp [System.task, fresh.idle, tasks] at isTask
  constructor
  · exact fresh.ids
  · exact fresh.drawn
  · exact fresh.pending
  · intro i server events claiming
    simp [fresh.idle] at claiming
  · exact fun row mem marked => absurd marked (fresh.unmarked row mem)
  · exact fun i k id held => absurd held (none i k id)
  · exact fun i j k l id held => absurd held (none i k id)

variable {row : WebhookEvent}

/-- What is not being processed and not delivered waits, until it has failed for good. -/
theorem Inv.accounted (inv : Inv s) (mem : row ∈ s.events) :
    Accounted s row := by
  have selectable : waits row.status = true → row.attempts < MAX_ATTEMPTS → Selectable s row := by
    intro waiting few
    refine ⟨max s.now row.nextRetryAt, le_max_left .., ?_⟩
    simp [isDue, waiting, few]
  cases status : row.status with
  | PENDING =>
    exact .inr (.inr (.inr (selectable (by simp [status, waits]) (inv.pending row mem status))))
  | PROCESSING => exact .inr (.inr (.inl (inv.marked row mem status)))
  | DELIVERED => exact .inl status
  | FAILED =>
    rcases lt_or_ge row.attempts MAX_ATTEMPTS with few | many
    · exact .inr (.inr (.inr (selectable (by simp [status, waits]) few)))
    · exact .inr (.inl ⟨status, many⟩)

variable {phase : Phase}

section Tasks

variable {s : System} {i j k l id : Nat}

theorem task_setTick (tick : Tick) :
    (s.setTick i tick).task j l = if j = i then tick.tasks[l]? else s.task j l := by
  by_cases same : j = i
  · subst same
    simp [System.task, System.setTick]
  · simp [System.task, System.setTick, same]

theorem tasks_setPhase (tick : Tick) (k : Nat) (phase : Phase) :
    (tick.setPhase k phase).tasks = tick.tasks.modify k fun task => { task with phase := phase } := by
  cases tick <;> simp [Tick.setPhase, tasks]

theorem task_setPhase (phase : Phase) : (s.setPhase i k phase).task j l =
      if j = i ∧ l = k then (s.task i k).map fun task => { task with phase := phase }
      else s.task j l := by
  rw [System.setPhase, task_setTick, tasks_setPhase, getElem?_modify]
  by_cases sameTick : j = i
  · subst sameTick
    by_cases sameTask : l = k
    · subst sameTask
      simp [System.task]
    · simp [sameTask, Ne.symm sameTask, System.task]
  · simp [sameTick]

theorem holds_setTick (none : (s.ticks i).tasks = []) (none' : tick.tasks = []) :
    Holds (s.setTick i tick) j l id ↔ Holds s j l id := by
  have same : (s.setTick i tick).task j l = s.task j l := by
    rw [task_setTick]
    split
    · rename_i isTick
      rw [isTick, System.task, none, none']
    · rfl
  simp [Holds, same]

theorem holds_setPhase {task : Task} (isTask : s.task i k = some task)
    (running : task.phase ≠ .ended) (goesOn : phase ≠ .ended) :
    Holds (s.setPhase i k phase) j l id ↔ Holds s j l id := by
  unfold Holds
  rw [task_setPhase]
  split
  · rename_i here
    obtain ⟨rfl, rfl⟩ := here
    simp [isTask, running, goesOn]
  · rfl

theorem holds_ended :
    Holds (s.setPhase i k .ended) j l id ↔ Holds s j l id ∧ ¬ (j = i ∧ l = k) := by
  unfold Holds
  rw [task_setPhase]
  by_cases here : j = i ∧ l = k
  · obtain ⟨rfl, rfl⟩ := here
    simp
  · simp [here]

end Tasks

section Steps

variable {s s' : System}

theorem Inv.ofHolds (inv : Inv s) (events : s'.events = s.events) (supply : s'.supply = s.supply)
    (holds : ∀ i k id, Holds s' i k id ↔ Holds s i k id)
    (selected : ∀ i server events, s'.ticks i = .claiming server events →
      (events.map (·.id)).Nodup) : Inv s' where
  ids := events ▸ inv.ids
  drawn := by
    rw [events, supply]
    exact inv.drawn
  pending := events ▸ inv.pending
  selected := selected
  marked row mem marked := by
    obtain ⟨i, k, held⟩ := inv.marked row (events ▸ mem) marked
    exact ⟨i, k, (holds i k row.id).mpr held⟩
  held i k id held := by
    rw [events]
    exact inv.held i k id ((holds i k id).mp held)
  exclusive i j k l id held held' :=
    inv.exclusive i j k l id ((holds i k id).mp held) ((holds j l id).mp held')

theorem selected_setTick
    (old : ∀ j server events, s.ticks j = .claiming server events → (events.map (·.id)).Nodup)
    (new : ∀ server events, tick = .claiming server events → (events.map (·.id)).Nodup) :
    ∀ j server events, (s.setTick i tick).ticks j = .claiming server events →
      (events.map (·.id)).Nodup := by
  intro j server events claiming
  by_cases same : j = i
  · subst same
    simp only [System.setTick, update_self] at claiming
    exact new server events claiming
  · simp only [System.setTick, update_of_ne same] at claiming
    exact old j server events claiming

theorem Inv.setTick (inv : Inv s) (none : (s.ticks i).tasks = []) (none' : tick.tasks = [])
    (new : ∀ server events, tick = .claiming server events → (events.map (·.id)).Nodup) :
    Inv (s.setTick i tick) :=
  inv.ofHolds rfl rfl (fun _ _ _ => holds_setTick none none') (selected_setTick inv.selected new)

theorem claiming_setPhase {k server : Nat}
    (claiming : tick.setPhase k phase = .claiming server events) : tick = .claiming server events := by
  cases tick <;> simp_all [Tick.setPhase]

theorem Inv.selected_setPhase (inv : Inv s) :
    ∀ j server events, (s.setPhase i k phase).ticks j = .claiming server events →
      (events.map (·.id)).Nodup :=
  selected_setTick inv.selected fun server events claiming =>
    inv.selected i server events (claiming_setPhase claiming)

theorem Inv.setPhase (inv : Inv s) {task : Task}
    (isTask : s.task i k = some task) (running : task.phase ≠ .ended) (goesOn : phase ≠ .ended) :
    Inv (s.setPhase i k phase) :=
  inv.ofHolds rfl rfl (fun _ _ _ => holds_setPhase isTask running goesOn) inv.selected_setPhase

theorem Inv.enqueue (inv : Inv s) (rid : Nat) (eventType : String) :
    Inv (s.enqueue rid eventType) := by
  have fresh : ∀ row ∈ s.events, row.id ≠ s.supply := fun row mem => (inv.drawn row mem).ne
  constructor
  · simp only [System.enqueue, map_cons, nodup_cons, mem_map, not_exists, not_and]
    exact ⟨fresh, inv.ids⟩
  · intro row mem
    rcases mem_cons.mp mem with rfl | old
    · exact lt_succ_self _
    · exact (inv.drawn row old).trans (lt_succ_self _)
  · intro row mem pend
    rcases mem_cons.mp mem with rfl | old
    · exact Nat.succ_pos _
    · exact inv.pending row old pend
  · exact inv.selected
  · intro row mem marked
    rcases mem_cons.mp mem with rfl | old
    · cases marked
    · exact inv.marked row old marked
  · intro i k id held
    obtain ⟨row, mem, same, marked⟩ := inv.held i k id held
    exact ⟨row, .tail _ mem, same, marked⟩
  · exact inv.exclusive

theorem selectDue_nodup (inv : Inv s) (now : Int) : ((selectDue now s.events).map (·.id)).Nodup := by
  have due : ((s.events.filter (isDue now)).map (·.id)).Nodup :=
    inv.ids.sublist (filter_sublist.map _)
  have sorted := ((perm_insertionSort (fun a b => a.nextRetryAt ≤ b.nextRetryAt)
    (s.events.filter (isDue now))).map (·.id)).nodup_iff.mpr due
  exact sorted.sublist ((take_sublist _ _).map _)

theorem Inv.unique (inv : Inv s) {row row' : WebhookEvent} (mem : row ∈ s.events)
    (mem' : row' ∈ s.events) (same : row.id = row'.id) : row = row' :=
  inj_on_of_nodup_map inv.ids mem mem' same

theorem mem_claim (mem : row ∈ (s.claim events).events) : ∃ old ∈ s.events, row.id = old.id ∧
      ((∃ ev ∈ events, ev.id = old.id) ∧ row.status = .PROCESSING ∨ row = old) := by
  obtain ⟨old, isOld, rfl⟩ := mem_map.mp mem
  refine ⟨old, isOld, ?_⟩
  split
  · rename_i claimed
    simp only [and_eq_true, contains_iff_mem, mem_map] at claimed
    exact ⟨rfl, .inl ⟨claimed.1, rfl⟩⟩
  · exact ⟨rfl, .inr rfl⟩

theorem claim_ids (events : List WebhookEvent) :
    (s.claim events).events.map (·.id) = s.events.map (·.id) := by
  simp only [claim, map_map]
  apply map_congr_left
  intro row _
  simp only [comp_apply]
  split <;> rfl

theorem holds_claimed {i j l id server : Nat} :
    Holds ((s.claim events).setTick i (.processing server (events.map fun event =>
      { event := event }))) j l id ↔
      (j = i ∧ (events.map (·.id))[l]? = some id) ∨ (j ≠ i ∧ Holds s j l id) := by
  unfold Holds
  rw [task_setTick]
  by_cases same : j = i
  · subst same
    simp only [if_true, tasks, getElem?_map, true_and, ne_eq, not_true, false_and, or_false]
    cases events[l]? <;> simp
  · simp [same, System.task, claim]

theorem Inv.claim (inv : Inv s) {i server : Nat} (claiming : s.ticks i = .claiming server events)
    (waiting : ∀ event ∈ events, ∃ row ∈ s.events, row.id = event.id ∧ waits row.status = true) :
    Inv ((s.claim events).setTick i (.processing server (events.map fun event =>
      { event := event }))) := by
  have idle : ∀ l id, ¬ Holds s i l id := by
    rintro l id ⟨task, isTask, -⟩
    simp [System.task, claiming, tasks] at isTask
  have selects : ∀ (l id : Nat), (events.map (·.id))[l]? = some id →
      ∃ row ∈ s.events, row.id = id ∧ waits row.status = true := by
    intro l id isId
    obtain ⟨event, isEvent, rfl⟩ := mem_map.mp (mem_of_getElem? isId)
    exact waiting event isEvent
  -- What waits is not being processed.
  have apart : ∀ (j l l' id : Nat), (events.map (·.id))[l]? = some id → ¬ Holds s j l' id := by
    intro j l l' id isId held
    obtain ⟨row, mem, same, isWaiting⟩ := selects l id isId
    obtain ⟨row', mem', same', marked⟩ := inv.held j l' id held
    rw [inv.unique mem mem' (same.trans same'.symm), marked] at isWaiting
    cases isWaiting
  constructor
  · rw [show (System.setTick _ _ _).events = (s.claim events).events from rfl, claim_ids]
    exact inv.ids
  · intro row mem
    obtain ⟨old, isOld, same, -⟩ := mem_claim mem
    rw [same]
    exact inv.drawn old isOld
  · intro row mem pend
    obtain ⟨old, isOld, -, ⟨-, marked⟩ | rfl⟩ := mem_claim mem
    · rw [marked] at pend
      cases pend
    · exact inv.pending row isOld pend
  · exact selected_setTick inv.selected nofun
  · intro row mem marked
    obtain ⟨old, isOld, same, ⟨⟨event, isEvent, named⟩, -⟩ | rfl⟩ := mem_claim mem
    · obtain ⟨l, isId⟩ := getElem?_of_mem (mem_map_of_mem isEvent)
      rw [same, ← named]
      exact ⟨i, l, holds_claimed.mpr (.inl ⟨rfl, isId⟩)⟩
    · obtain ⟨j, l, held⟩ := inv.marked row isOld marked
      have other : j ≠ i := by
        rintro rfl
        exact idle l row.id held
      exact ⟨j, l, holds_claimed.mpr (.inr ⟨other, held⟩)⟩
  · intro j l id held
    rcases holds_claimed.mp held with ⟨-, isId⟩ | ⟨-, held⟩
    · obtain ⟨row, mem, same, isWaiting⟩ := selects l id isId
      refine ⟨setStatus .PROCESSING row, mem_map.mpr ⟨row, mem, ?_⟩, same, rfl⟩
      have isSelected : (events.map (·.id)).contains row.id = true :=
        contains_iff_mem.mpr (same ▸ mem_of_getElem? isId)
      rw [isSelected, isWaiting]
      rfl
    · obtain ⟨row, mem, same, marked⟩ := inv.held j l id held
      refine ⟨row, mem_map.mpr ⟨row, mem, ?_⟩, same, marked⟩
      simp [marked, waits]
  · intro j j' l l' id held held'
    rcases holds_claimed.mp held with ⟨isTick, isId⟩ | ⟨-, pre⟩
    · rcases holds_claimed.mp held' with ⟨isTick', isId'⟩ | ⟨-, pre'⟩
      · have nodup := inv.selected i server events claiming
        have small : l < (events.map (·.id)).length := (List.getElem?_eq_some_iff.mp isId).1
        exact ⟨isTick.trans isTick'.symm, (getElem?_inj small nodup).mp (isId.trans isId'.symm)⟩
      · exact absurd pre' (apart j' l l' id isId)
    · rcases holds_claimed.mp held' with ⟨-, isId'⟩ | ⟨-, pre'⟩
      · exact absurd pre (apart j l' l id isId')
      · exact inv.exclusive j j' l l' id pre pre'

theorem conclude_id (ev row : WebhookEvent) (now : Int) (out : Outcome) :
    (conclude ev now row out).id = row.id := by
  cases out with
  | noSubscribers => rfl
  | delivered => rfl
  | failed =>
    simp only [conclude]
    split <;> rfl

theorem conclude_status (ev row : WebhookEvent) (now : Int) (out : Outcome) :
    (conclude ev now row out).status = .DELIVERED ∨ (conclude ev now row out).status = .FAILED := by
  cases out with
  | noSubscribers => exact .inl rfl
  | delivered => exact .inl rfl
  | failed =>
    simp only [conclude]
    split
    · exact .inr rfl
    · exact .inr rfl

theorem mem_write {ev row : WebhookEvent} {out : Outcome}
    (mem : row ∈ (s.write ev out).events) : ∃ old ∈ s.events, row.id = old.id ∧
      ((row.status = .DELIVERED ∨ row.status = .FAILED) ∨ row = old ∧ old.id ≠ ev.id) := by
  obtain ⟨old, isOld, rfl⟩ := mem_map.mp mem
  refine ⟨old, isOld, ?_⟩
  split
  · exact ⟨conclude_id .., .inl (conclude_status ..)⟩
  · rename_i other
    exact ⟨rfl, .inr ⟨rfl, other⟩⟩

theorem write_ids (ev : WebhookEvent) (out : Outcome) :
    (s.write ev out).events.map (·.id) = s.events.map (·.id) := by
  simp only [System.write, map_map]
  apply map_congr_left
  intro row _
  simp only [comp_apply]
  split
  · exact conclude_id ..
  · rfl

theorem Inv.write (inv : Inv s) {ev : WebhookEvent} {out : Outcome}
    (isTask : s.task i k = some ⟨ev, .writing out⟩) :
    Inv ((s.write ev out).setPhase i k .ended) := by
  have holds : Holds s i k ev.id := ⟨_, isTask, nofun, rfl⟩
  have ended : ∀ j l id, Holds ((s.write ev out).setPhase i k .ended) j l id ↔
      Holds s j l id ∧ ¬ (j = i ∧ l = k) := fun j l id => holds_ended
  constructor
  · rw [show (System.setPhase _ _ _ _).events = (s.write ev out).events from rfl, write_ids]
    exact inv.ids
  · intro row mem
    obtain ⟨old, isOld, same, -⟩ := mem_write mem
    rw [same]
    exact inv.drawn old isOld
  · intro row mem pend
    obtain ⟨old, isOld, -, written | ⟨rfl, -⟩⟩ := mem_write mem
    · simp [pend] at written
    · exact inv.pending row isOld pend
  · exact selected_setTick inv.selected fun server events claiming =>
      inv.selected i server events (claiming_setPhase claiming)
  · intro row mem marked
    obtain ⟨old, isOld, -, written | ⟨rfl, other⟩⟩ := mem_write mem
    · simp [marked] at written
    · obtain ⟨j, l, held⟩ := inv.marked row isOld marked
      refine ⟨j, l, (ended j l row.id).mpr ⟨held, ?_⟩⟩
      rintro ⟨rfl, rfl⟩
      obtain ⟨task, isTask', -, named⟩ := held
      rw [isTask] at isTask'
      cases isTask'
      exact other named.symm
  · intro j l id held
    obtain ⟨held, notThis⟩ := (ended j l id).mp held
    obtain ⟨row, mem, same, marked⟩ := inv.held j l id held
    have other : row.id ≠ ev.id := by
      intro isEvent
      rw [← same, isEvent] at held
      exact notThis (inv.exclusive j i l k ev.id held holds)
    exact ⟨row, mem_map.mpr ⟨row, mem, if_neg other⟩, same, marked⟩
  · intro j j' l l' id held held'
    exact inv.exclusive j j' l l' id ((ended j l id).mp held).1 ((ended j' l' id).mp held').1

theorem Inv.crash (inv : Inv s) {server : Nat}
    (nothingOpen : ∀ i k id, Holds s i k id → (s.ticks i).server ≠ some server) :
    Inv { s with ticks := fun i =>
      if (s.ticks i).server = some server then .finished else s.ticks i } := by
  refine inv.ofHolds rfl rfl ?_ ?_
  · intro i k id
    by_cases crashed : (s.ticks i).server = some server
    · constructor
      · rintro ⟨task, isTask, -⟩
        simp [System.task, crashed, tasks] at isTask
      · exact fun held => absurd crashed (nothingOpen i k id held)
    · simp [Holds, System.task, crashed]
  · intro i server' events claiming
    by_cases crashed : (s.ticks i).server = some server
    · simp [crashed] at claiming
    · simp only [crashed, if_false] at claiming
      exact inv.selected i server' events claiming

theorem Inv.step (inv : Inv s) {act : Action} (orderly : Orderly s act)
    (next : step s act = some s') : Inv s' := by
  cases act with
  | dispatch rid eventType row =>
    cases next
    cases row with
    | true => exact inv.enqueue rid eventType
    | false => exact inv
  | start i server =>
    simp only [Webhooks.step] at next
    split at next
    · rename_i idle
      cases next
      exact inv.setTick (by rw [idle]; rfl) rfl nofun
    · cases next
  | select i =>
    simp only [Webhooks.step] at next
    split at next
    · rename_i server now selecting
      cases next
      refine inv.setTick (by rw [selecting]; rfl) (by split <;> rfl) ?_
      intro server' events isTick
      split at isTick
      · cases isTick
      · cases isTick
        exact selectDue_nodup inv now
    · cases next
  | claim i =>
    simp only [Webhooks.step] at next
    split at next
    · rename_i server events claiming
      cases next
      exact inv.claim claiming (orderly server events claiming)
    · cases next
  | abort i executed =>
    simp only [Webhooks.step] at next
    split at next
    · rename_i server now selecting
      cases next
      exact inv.setTick (by rw [selecting]; rfl) rfl nofun
    · rename_i server events claiming
      cases next
      rw [orderly server events claiming]
      exact inv.setTick (by rw [claiming]; rfl) rfl nofun
    · cases next
  | lookUp i k =>
    simp only [Webhooks.step] at next
    split at next
    · rename_i event isTask
      cases next
      refine inv.setPhase isTask nofun ?_
      split
      · exact nofun
      · exact nofun
    · cases next
  | settle i k results =>
    simp only [Webhooks.step] at next
    split at next
    · rename_i event webhooks isTask
      split at next
      · cases next
        exact inv.setPhase isTask nofun nofun
      · cases next
    · cases next
  | write i k =>
    simp only [Webhooks.step] at next
    split at next
    · rename_i event outcome isTask
      cases next
      exact inv.write isTask
    · cases next
  | throw i k => exact orderly.elim
  | crash server =>
    cases next
    exact inv.crash orderly
  | others now webhooks =>
    simp only [Webhooks.step] at next
    split at next
    · cases next
      exact inv.ofHolds rfl rfl (fun _ _ _ => Iff.rfl) inv.selected
    · cases next

theorem step_ids {act : Action} (next : step s act = some s') {id : Nat}
    (mem : id ∈ s.events.map (·.id)) : id ∈ s'.events.map (·.id) := by
  cases act with
  | dispatch rid eventType row =>
    cases next
    cases row with
    | true => exact .tail _ mem
    | false => exact mem
  | claim i =>
    simp only [step] at next
    split at next
    · cases next
      exact (claim_ids _).symm ▸ mem
    · cases next
  | abort i executed =>
    simp only [step] at next
    split at next
    · cases next
      exact mem
    · cases next
      cases executed with
      | true => exact (claim_ids _).symm ▸ mem
      | false => exact mem
    · cases next
  | write i k =>
    simp only [step] at next
    split at next
    · cases next
      exact (write_ids _ _).symm ▸ mem
    · cases next
  | start | select | lookUp | settle | throw | crash | others =>
    simp only [step] at next
    repeat' split at next
    all_goals cases next
    all_goals exact mem

end Steps

theorem Reaches.inv (inv : Inv s) (reached : Reaches Orderly s s') : Inv s' := by
  induction reached with
  | refl => exact inv
  | tail _ step ih =>
    obtain ⟨act, orderly, next⟩ := step
    exact ih.step orderly next

variable {allowed : System → Action → Prop}

theorem Reaches.ids (reached : Reaches allowed s s') {id : Nat} (mem : id ∈ s.events.map (·.id)) :
    id ∈ s'.events.map (·.id) := by
  induction reached with
  | refl => exact mem
  | tail _ step ih =>
    obtain ⟨act, -, next⟩ := step
    exact step_ids next ih

/-- In every orderly run, an event that was stored at some time is from then on delivered, failed
for good, being processed or due for a later tick; and no event is processed twice at a time. -/
theorem outbox_is_lossless {s₀ s₁ s : System} (fresh : Fresh s₀) (pre : Reaches Orderly s₀ s₁)
    (after : Reaches Orderly s₁ s) :
    (∀ row₁ ∈ s₁.events, ∃ row ∈ s.events, row.id = row₁.id ∧ Accounted s row) ∧ Exclusive s := by
  have inv : Inv s := after.inv (pre.inv fresh.inv)
  refine ⟨fun row₁ mem => ?_, inv.exclusive⟩
  obtain ⟨row, isRow, same⟩ := mem_map.mp (after.ids (mem_map_of_mem mem))
  exact ⟨row, isRow, same, inv.accounted isRow⟩

section Example

def run (s : System) : List Action → Option System
  | [] => some s
  | action :: rest => (step s action).bind fun s' => run s' rest

def Admits (allowed : System → Action → Prop) (s : System) : List Action → Prop
  | [] => True
  | action :: rest => allowed s action ∧ ∀ s', step s action = some s' → Admits allowed s' rest

variable {actions : List Action}

theorem reaches_run
    (ran : run s actions = some s') (admits : Admits allowed s actions) : Reaches allowed s s' := by
  induction actions generalizing s with
  | nil =>
    cases ran
    exact .refl
  | cons act rest ih =>
    obtain ⟨t, next, ran⟩ := bind_eq_some_iff.mp ran
    exact .head ⟨act, admits.1, next⟩ (ih ran (admits.2 t next))

def Any (_ : System) (_ : Action) : Prop := True

theorem admits_any : Admits Any s actions := by
  induction actions generalizing s with
  | nil => trivial
  | cons act rest ih => exact ⟨trivial, fun _ _ => ih⟩

def quiet : System where
  webhooks := [{ id := 1, realmId := 1, eventTypes := ["user.created"] }]

theorem quiet_fresh : Fresh quiet where
  ids := nodup_nil
  drawn := nofun
  idle _ := rfl
  unmarked := nofun
  pending := nofun

def taken : List Action := [.dispatch 1 "user.created" true, .start 0 0, .select 0, .claim 0]

theorem taken_orderly : Admits Orderly quiet taken := by
  refine ⟨trivial, fun _ next => ?_⟩
  cases next
  refine ⟨trivial, fun _ next => ?_⟩
  cases next
  refine ⟨trivial, fun _ next => ?_⟩
  cases next
  refine ⟨?_, fun _ _ => trivial⟩
  intro server events claiming
  cases claiming
  decide +kernel

def delivered : List Action := [.lookUp 0 0, .settle 0 0 [true], .write 0 0]

theorem taken_then_delivered : ∃ s₁ s, run quiet taken = some s₁ ∧ run s₁ delivered = some s ∧
    (∀ row₁ ∈ s₁.events, ∃ row ∈ s.events, row.id = row₁.id ∧ Accounted s row) ∧ Exclusive s := by
  refine ⟨_, _, rfl, rfl, ?_⟩
  refine outbox_is_lossless quiet_fresh (reaches_run rfl taken_orderly)
    (reaches_run (show run _ delivered = some _ from rfl) ?_)
  exact ⟨trivial, fun _ _ => ⟨trivial, fun _ _ => ⟨trivial, fun _ _ => trivial⟩⟩⟩

def takenTwice : List Action :=
  [.dispatch 1 "user.created" true, .start 0 0, .start 1 1, .select 0, .select 1, .claim 0, .claim 1]

/-- An event that is marked and that nobody processes is lost. -/
theorem not_accounted (marked : row.status = .PROCESSING)
    (none : ∀ i k id, ¬ Holds s i k id) : ¬ Accounted s row := by
  rintro (isDelivered | ⟨failed, -⟩ | ⟨i, k, held⟩ | ⟨later, -, due⟩)
  · simp [marked] at isDelivered
  · simp [marked] at failed
  · exact none i k row.id held
  · simp [isDue, marked, waits] at due

/-- The event is left marked and nobody is processing it: after the crash of the instance, and
after an exception of its task.  And two instances process one event. -/
theorem event_lost_and_processed_twice :
    (∃ s row, run quiet (taken ++ [.crash 0]) = some s ∧ Reaches Any quiet s ∧ row ∈ s.events ∧
      ¬ Accounted s row) ∧
    (∃ s row, run quiet (taken ++ [.throw 0 0]) = some s ∧ Reaches Any quiet s ∧ row ∈ s.events ∧
      ¬ Accounted s row) ∧
    ∃ s, run quiet takenTwice = some s ∧ Reaches Any quiet s ∧ ¬ Exclusive s := by
  have crashed : run quiet (taken ++ [.crash 0]) = some _ := rfl
  have thrown : run quiet (taken ++ [.throw 0 0]) = some _ := rfl
  have twice : run quiet takenTwice = some _ := rfl
  refine ⟨⟨_, _, crashed, reaches_run crashed admits_any, mem_singleton.mpr rfl,
      not_accounted rfl ?_⟩,
    ⟨_, _, thrown, reaches_run thrown admits_any, mem_singleton.mpr rfl, not_accounted rfl ?_⟩,
    _, twice, reaches_run twice admits_any, ?_⟩
  · rintro i k id ⟨task, isTask, -⟩
    by_cases zero : i = 0
    · subst zero
      cases isTask
    · simp [System.task, System.setTick, zero, claim, System.enqueue, quiet, tasks,
        Tick.server] at isTask
  · rintro i k id ⟨task, isTask, running, -⟩
    by_cases zero : i = 0
    · subst zero
      cases k with
      | zero =>
        cases isTask
        exact running rfl
      | succ k => cases isTask
    · simp [System.task, System.setTick, zero, claim, System.enqueue, quiet, tasks,
        System.setPhase] at isTask
  · intro exclusive
    have same := exclusive 0 1 0 0 0 ⟨_, rfl, nofun, rfl⟩ ⟨_, rfl, nofun, rfl⟩
    exact absurd same.1 (by decide)

end Example

end Idenplane.Webhooks
