import Idenplane.RateLimit.Database

/-! # What the limiter on the database allows

As long as no window is restarted and no row deleted between the writes of another call, and
no call arrives late, the two counts of the row are ticket counts of their windows.  Otherwise
calls that restart the same window do not see each other.
-/

namespace Idenplane.RateLimit

open Atomic Tickets Windows Bool Database RateLimitEntry Pool

variable {ι : Type} [DecidableEq ι] {pm ph : Nat}

/-- Both ledgers are right about the row, which is there while a call has something to write,
and tickets belong to calls that have started. -/
structure DatabaseInv (perMinute perHour : Nat) (s : Database ι) : Prop where
  minute : s.minute.Ok minuteWindowMs perMinute (s.entry.map (·.minute))
  hour : s.hour.Ok hourWindowMs perHour (s.entry.map (·.hour))
  minuteOwner : ∀ t ∈ s.minute.counter.held, s.startedAt t.owner ≠ none
  hourOwner : ∀ t ∈ s.hour.counter.held, s.startedAt t.owner ≠ none
  idle : s.entry = none → s.pending = []

def Database.starts (s : Database ι) : Option (Int × Int) :=
  s.entry.map fun e => (e.minuteWindowStart, e.hourWindowStart)

/-- What the other calls leave alone: the call's own data, and the windows of the row while the
call has something to write. -/
structure Respects (call : ι) (s s' : Database ι) : Prop where
  startedAt : s'.startedAt call = s.startedAt call
  minute : s.minute.counter.Same call s'.minute.counter
  hour : s.hour.counter.Same call s'.hour.counter
  pending : call ∈ s'.pending ↔ call ∈ s.pending
  starts : call ∈ s.pending → s'.starts = s.starts

def databaseProtocol (perMinute perHour : Nat) : Protocol ι (Database ι) where
  inv := DatabaseInv perMinute perHour
  rely := Respects
  refl _ _ := ⟨rfl, fun _ _ => Iff.rfl, fun _ _ => Iff.rfl, Iff.rfl, fun _ => rfl⟩
  trans _ _ _ _ first second :=
    ⟨second.startedAt.trans first.startedAt, first.minute.trans second.minute,
      first.hour.trans second.hour, second.pending.trans first.pending,
      fun waits => (second.starts (first.pending.mpr waits)).trans (first.starts waits)⟩

def orderlyStep (_ s' : Database ι) : Prop := s'.orderly = true

/-- A call is counted in two cells, and while it has more to write these are in the row. -/
structure Counted (call : ι) (now : Int) (m h : Cell) (more : Bool) (s : Database ι) : Prop where
  startedAt : s.startedAt call = some now
  minute : s.minute.counter.Own call (some (m.start, m.count))
  hour : s.hour.counter.Own call (some (h.start, h.count))
  pending : more = true → call ∈ s.pending ∧ s.starts = some (m.start, h.start)

def Orderly (perMinute perHour : Nat) (call : ι) (s s' : Database ι) : Prop :=
  DatabaseInv perMinute perHour s' ∧ ∀ j, j ≠ call → Respects j s s'

section Steps

variable {s s' : Database ι} {call : ι} {now : Int} {m h : Cell} {more : Bool}

omit [DecidableEq ι] in
theorem Counted.stable (cnt : Counted call now m h more s)
    (moved : Respects call s s') : Counted call now m h more s' where
  startedAt := moved.startedAt.trans cnt.startedAt
  minute := cnt.minute.stable moved.minute
  hour := cnt.hour.stable moved.hour
  pending isMore := by
    obtain ⟨waits, starts⟩ := cnt.pending isMore
    exact ⟨moved.pending.mpr waits, (moved.starts waits).trans starts⟩

omit [DecidableEq ι] in
theorem Counted.weaken {less : Bool} (cnt : Counted call now m h more s)
    (fewer : less = true → more = true) : Counted call now m h less s :=
  { cnt with pending := fun isMore => cnt.pending (fewer isMore) }

theorem mem_mark_other {j : ι} (other : j ≠ call) :
    j ∈ (s.mark call more).pending ↔ j ∈ s.pending := by
  cases more <;> simp [mark, other]

theorem mem_mark_self (isMore : more = true) : call ∈ (s.mark call more).pending := by
  simp [mark, isMore]

theorem not_mem_pending_of_alone (alone : s.alone call = true) {j : ι} (other : j ≠ call) :
    j ∉ s.pending := by
  intro waits
  have kept : j ∈ s.pending.filter (· ≠ call) := by simp [waits, other]
  rw [Database.alone, List.isEmpty_iff] at alone
  rw [alone] at kept
  cases kept

omit [DecidableEq ι] in
theorem Counted.entry (cnt : Counted call now m h true s) :
    ∃ e, s.entry = some e ∧ e.minuteWindowStart = m.start ∧ e.hourWindowStart = h.start := by
  obtain ⟨-, starts⟩ := cnt.pending rfl
  obtain ⟨e, hit, same⟩ := map_eq_some_iff.mp starts
  exact ⟨e, hit, congrArg Prod.fst same, congrArg Prod.snd same⟩

theorem readTime_step (inv : DatabaseInv pm ph s) (fresh : s.startedAt call = none) :
    let s' : Database ι := { s with
      startedAt := update s.startedAt call (some s.clock) }
    Orderly pm ph call s s' ∧ s'.startedAt call = some s.clock ∧
      s'.minute.counter.Own call none ∧ s'.hour.counter.Own call none := by
  have noMinute : s.minute.counter.Free call := by
    rintro t held rfl
    exact inv.minuteOwner t held fresh
  have noHour : s.hour.counter.Free call := by
    rintro t held rfl
    exact inv.hourOwner t held fresh
  refine ⟨⟨{ inv with minuteOwner := ?_, hourOwner := ?_ }, ?_⟩, by simp, noMinute.own, noHour.own⟩
  · intro t held
    simpa [update_of_ne (noMinute t held)] using inv.minuteOwner t held
  · intro t held
    simpa [update_of_ne (noHour t held)] using inv.hourOwner t held
  · intro j other
    exact ⟨by simp [other], fun _ _ => Iff.rfl, fun _ _ => Iff.rfl, Iff.rfl, fun _ => rfl⟩

omit [DecidableEq ι] in
theorem owners_started {l l' : Ledger ι} (grows : l.Grows call l')
    (begun : s.startedAt call = some now)
    (pre : ∀ t ∈ l.counter.held, s.startedAt t.owner ≠ none) :
    ∀ t ∈ l'.counter.held, s.startedAt t.owner ≠ none := by
  intro t held
  rcases grows.1 t held with own | held
  · simp [own, begun]
  · exact pre t held

omit [DecidableEq ι] in
theorem respects_others (startedAt : s'.startedAt = s.startedAt)
    (minute : s.minute.Grows call s'.minute) (hour : s.hour.Grows call s'.hour)
    (pend : ∀ j, j ≠ call → (j ∈ s'.pending ↔ j ∈ s.pending))
    (starts : ∀ j, j ≠ call → j ∈ s.pending → s'.starts = s.starts) :
    ∀ j, j ≠ call → Respects j s s' :=
  fun j other => ⟨congrFun startedAt j, minute.2 j other, hour.2 j other, pend j other,
    starts j other⟩

theorem upsert_none_step (inv : DatabaseInv pm ph s)
    (empty : s.entry = none) (begun : s.startedAt call = some now)
    (noMinute : s.minute.counter.Own call none) (noHour : s.hour.counter.Own call none)
    (timely : s.timely now = true) :
    Orderly pm ph call s (s.upsert call now more) ∧
      Counted call now ⟨1, now⟩ ⟨1, now⟩ more (s.upsert call now more) := by
  have minuteOk := inv.minute
  have hourOk := inv.hour
  simp only [Database.timely, empty, and_eq_true, all_eq_true, decide_eq_true_eq] at timely
  have minute_eq : (s.upsert call now more).minute = s.minute.start now call := by
    simp [Database.upsert, mark, empty]
  have hour_eq : (s.upsert call now more).hour = s.hour.start now call := by
    simp [Database.upsert, mark, empty]
  have entry_eq : (s.upsert call now more).entry = some ⟨1, now, 1, now⟩ := by
    simp [Database.upsert, mark, upserted, empty]
  refine ⟨⟨⟨?_, ?_, ?_, ?_, by simp [entry_eq]⟩, ?_⟩, ⟨begun, ?_, ?_, ?_⟩⟩
  · rw [minute_eq, entry_eq]
    exact minuteOk.start (by decide) noMinute.free timely.1
  · rw [hour_eq, entry_eq]
    exact hourOk.start (by decide) noHour.free timely.2
  · rw [minute_eq]
    exact owners_started Ledger.grows_start begun inv.minuteOwner
  · rw [hour_eq]
    exact owners_started Ledger.grows_start begun inv.hourOwner
  · refine respects_others rfl ?_ ?_ (fun j other => mem_mark_other other) ?_
    · rw [minute_eq]
      exact Ledger.grows_start
    · rw [hour_eq]
      exact Ledger.grows_start
    · intro j _ waits
      rw [inv.idle empty] at waits
      cases waits
  · rw [minute_eq]
    exact minuteOk.own_start (by decide) noMinute timely.1
  · rw [hour_eq]
    exact hourOk.own_start (by decide) noHour timely.2
  · intro isMore
    exact ⟨mem_mark_self isMore, by rw [starts, entry_eq]; rfl⟩

variable {e : RateLimitEntry}

theorem upsert_some_step (inv : DatabaseInv pm ph s)
    (hit : s.entry = some e) (begun : s.startedAt call = some now)
    (noMinute : s.minute.counter.Own call none) (noHour : s.hour.counter.Own call none) :
    Orderly pm ph call s (s.upsert call now more) ∧
      Counted call now (upserted (some e) now).minute (upserted (some e) now).hour more
        (s.upsert call now more) := by
  have minuteOk := inv.minute
  have hourOk := inv.hour
  rw [hit] at minuteOk hourOk
  have minute_eq : (s.upsert call now more).minute = s.minute.join e.minuteWindowStart call := by
    simp [Database.upsert, mark, hit]
  have hour_eq : (s.upsert call now more).hour = s.hour.join e.hourWindowStart call := by
    simp [Database.upsert, mark, hit]
  have entry_eq : (s.upsert call now more).entry = some (upserted (some e) now) := by
    simp [Database.upsert, mark, hit]
  have starts_eq : (s.upsert call now more).starts = s.starts := by
    simp [starts, entry_eq, hit, upserted]
  refine ⟨⟨⟨?_, ?_, ?_, ?_, by simp [entry_eq]⟩, ?_⟩, ⟨begun, ?_, ?_, ?_⟩⟩
  · rw [minute_eq, entry_eq]
    exact minuteOk.join noMinute.free
  · rw [hour_eq, entry_eq]
    exact hourOk.join noHour.free
  · rw [minute_eq]
    exact owners_started Ledger.grows_join begun inv.minuteOwner
  · rw [hour_eq]
    exact owners_started Ledger.grows_join begun inv.hourOwner
  · refine respects_others rfl ?_ ?_ (fun j other => mem_mark_other other) fun _ _ _ => starts_eq
    · rw [minute_eq]
      exact Ledger.grows_join
    · rw [hour_eq]
      exact Ledger.grows_join
  · rw [minute_eq]
    exact minuteOk.own_join noMinute
  · rw [hour_eq]
    exact hourOk.own_join noHour
  · intro isMore
    exact ⟨mem_mark_self isMore, by rw [starts, entry_eq]; rfl⟩

theorem upsert_step (inv : DatabaseInv pm ph s)
    (begun : s.startedAt call = some now) (noMinute : s.minute.counter.Own call none)
    (noHour : s.hour.counter.Own call none) (timely : s.timely now = true) :
    Orderly pm ph call s (s.upsert call now more) ∧
      Counted call now (upserted s.entry now).minute (upserted s.entry now).hour more
        (s.upsert call now more) ∧ (upserted s.entry now).minuteWindowStart ≤ now ∧
      (upserted s.entry now).hourWindowStart ≤ now := by
  cases hit : s.entry with
  | none =>
    obtain ⟨step, cnt⟩ := upsert_none_step inv hit begun noMinute noHour timely
    exact ⟨step, cnt, le_refl _, le_refl _⟩
  | some e =>
    obtain ⟨step, cnt⟩ := upsert_some_step inv hit begun noMinute noHour
    simp only [Database.timely, hit, and_eq_true, decide_eq_true_eq] at timely
    exact ⟨step, cnt, timely⟩

theorem restartMinute_step (more : Bool) (inv : DatabaseInv pm ph s)
    (hit : s.entry = some e) (cnt : Counted call now m h true s)
    (ended : m.start + minuteWindowMs ≤ now) (alone : s.alone call = true) :
    Orderly pm ph call s (s.restartMinute e call now more) ∧
      Counted call now ⟨1, now⟩ h more (s.restartMinute e call now more) := by
  obtain ⟨e', hit', sameMinute, sameHour⟩ := cnt.entry
  obtain rfl : e = e' := some.inj (hit.symm.trans hit')
  have minuteOk := inv.minute
  have hourOk := inv.hour
  rw [hit] at minuteOk hourOk
  have owns : s.minute.counter.Own call (some (e.minute.start, m.count)) := by
    have owns := cnt.minute
    rwa [← sameMinute] at owns
  rw [← sameMinute] at ended
  refine ⟨⟨⟨?_, ?_, ?_, inv.hourOwner, by simp [Database.restartMinute, mark]⟩, ?_⟩,
    ⟨cnt.startedAt, ?_, cnt.hour, ?_⟩⟩
  · exact minuteOk.restart (by decide) owns.mem ended
  · exact hourOk
  · exact owners_started Ledger.grows_restart cnt.startedAt inv.minuteOwner
  · refine respects_others rfl Ledger.grows_restart ⟨fun _ => .inr, fun _ _ _ _ => Iff.rfl⟩
      (fun j other => mem_mark_other other) fun j other waits => ?_
    exact absurd waits (not_mem_pending_of_alone alone other)
  · exact minuteOk.own_restart (by decide) owns ended
  · intro isMore
    exact ⟨mem_mark_self isMore, by simp [starts, Database.restartMinute, mark, sameHour]⟩

theorem restartHour_step (more : Bool) (inv : DatabaseInv pm ph s)
    (hit : s.entry = some e) (cnt : Counted call now m h true s)
    (ended : h.start + hourWindowMs ≤ now) (alone : s.alone call = true) :
    Orderly pm ph call s (s.restartHour e call now more) ∧
      Counted call now m ⟨1, now⟩ more (s.restartHour e call now more) := by
  obtain ⟨e', hit', sameMinute, sameHour⟩ := cnt.entry
  obtain rfl : e = e' := some.inj (hit.symm.trans hit')
  have minuteOk := inv.minute
  have hourOk := inv.hour
  rw [hit] at minuteOk hourOk
  have owns : s.hour.counter.Own call (some (e.hour.start, h.count)) := by
    have owns := cnt.hour
    rwa [← sameHour] at owns
  rw [← sameHour] at ended
  refine ⟨⟨⟨?_, ?_, inv.minuteOwner, ?_, by simp [Database.restartHour, mark]⟩, ?_⟩,
    ⟨cnt.startedAt, cnt.minute, ?_, ?_⟩⟩
  · exact minuteOk
  · exact hourOk.restart (by decide) owns.mem ended
  · exact owners_started Ledger.grows_restart cnt.startedAt inv.hourOwner
  · refine respects_others rfl ⟨fun _ => .inr, fun _ _ _ _ => Iff.rfl⟩ Ledger.grows_restart
      (fun j other => mem_mark_other other) fun j other waits => ?_
    exact absurd waits (not_mem_pending_of_alone alone other)
  · exact hourOk.own_restart (by decide) owns ended
  · intro isMore
    exact ⟨mem_mark_self isMore, by simp [starts, Database.restartHour, mark, sameMinute]⟩

theorem uncount_step (inv : DatabaseInv pm ph s)
    (hit : s.entry = some e) (cnt : Counted call now m h true s) :
    Orderly pm ph call s (s.uncount e call) := by
  obtain ⟨e', hit', sameMinute, sameHour⟩ := cnt.entry
  obtain rfl : e = e' := some.inj (hit.symm.trans hit')
  have minuteOk := inv.minute
  have hourOk := inv.hour
  rw [hit] at minuteOk hourOk
  have ownsMinute : ⟨e.minute.start, call, m.count⟩ ∈ s.minute.counter.held := by
    have owns := cnt.minute.mem
    rwa [← sameMinute] at owns
  have ownsHour : ⟨e.hour.start, call, h.count⟩ ∈ s.hour.counter.held := by
    have owns := cnt.hour.mem
    rwa [← sameHour] at owns
  refine ⟨⟨minuteOk.leave ownsMinute, hourOk.leave ownsHour,
    owners_started Ledger.grows_leave cnt.startedAt inv.minuteOwner,
    owners_started Ledger.grows_leave cnt.startedAt inv.hourOwner,
    by simp [Database.uncount, mark]⟩, ?_⟩
  refine respects_others rfl Ledger.grows_leave Ledger.grows_leave
    (fun j other => mem_mark_other other) fun _ _ _ => ?_
  simp [starts, Database.uncount, mark, hit]

end Steps

section Calls

variable {s : Database ι} {call : ι} {now : Int} {m h : Cell} {entry : RateLimitEntry}

/-- An allowed call holds tickets up to the limits, in windows that its time is in. -/
def Settled (perMinute perHour : Nat) (call : ι) :
    Except PrismaError RateLimitResult → Database ι → Prop
  | .ok res, s => res.allowed = true → ∀ now, s.startedAt call = some now →
      (∃ key number, number ≤ (perMinute : Int) ∧ key ≤ now ∧ now < key + minuteWindowMs ∧
        s.minute.counter.Own call (some (key, number))) ∧
      ∃ key number, number ≤ (perHour : Int) ∧ key ≤ now ∧ now < key + hourWindowMs ∧
        s.hour.counter.Own call (some (key, number))
  | .error _, _ => True

abbrev Settles (perMinute perHour : Nat) (call : ι)
    (p : Prog (Database ι) PrismaError RateLimitResult) (s : Database ι) : Prop :=
  p.Sat (databaseProtocol perMinute perHour) orderlyStep call (Settled perMinute perHour call) s

theorem databaseResult_allowed (pm ph : Nat) (entry : RateLimitEntry)
    (now : Int) : (databaseResult pm ph entry now).allowed = !entry.rejects pm ph now := by
  unfold databaseResult rejects
  split
  · rename_i above
    simp [above]
  · rename_i below
    split
    · rename_i above
      simp [above]
    · rename_i alsoBelow
      simp [below, alsoBelow]

omit [DecidableEq ι] in
theorem updateEntry_bind_sat {f : Database ι → RateLimitEntry → Database ι}
    {rest : Unit → Prog (Database ι) PrismaError RateLimitResult}
    (cnt : Counted call now m h true s)
    (step : ∀ t e, DatabaseInv pm ph t → t.entry = some e →
      Counted call now m h true t → (f t e).orderly = true →
      Orderly pm ph call t (f t e) ∧ Settles pm ph call (rest ()) (f t e)) :
    Settles pm ph call (updateEntry f >>= rest) s := by
  intro t move inv ok
  have here := cnt.stable move
  obtain ⟨e, hit, -, -⟩ := here.entry
  simp only [hit] at ok ⊢
  obtain ⟨⟨kept, os⟩, later⟩ := step t e inv hit here ok
  exact ⟨kept, os, later⟩

structure InWindow (span count now : Int) (c : Cell) : Prop where
  count : c.count = count
  start : c.start ≤ now
  before : now < c.start + span

theorem finish_sat (cnt : Counted call now m h (entry.rejects pm ph now) s)
    (minute : InWindow minuteWindowMs (entry.minuteCountAt now) now m)
    (hour : InWindow hourWindowMs (entry.hourCountAt now) now h) :
    Settles pm ph call (do
      if entry.rejects pm ph now then uncount call else pure ()
      pure (databaseResult pm ph entry now)) s := by
  have verdict := databaseResult_allowed pm ph entry now
  cases rejected : entry.rejects pm ph now with
  | true =>
    rw [rejected] at cnt verdict
    apply Sat.modify_bind
    intro t move inv _
    have here := cnt.stable move
    obtain ⟨e, hit, -, -⟩ := here.entry
    simp only [hit]
    obtain ⟨kept, os⟩ := uncount_step inv hit here
    refine ⟨kept, os, .done fun u _ _ isAllowed => ?_⟩
    simp [verdict] at isAllowed
  | false =>
    refine .done fun u later _ _ now' at_ => ?_
    have there := cnt.stable later
    obtain rfl : now = now' := some.inj (there.startedAt.symm.trans at_)
    simp only [rejects, or_eq_false_iff, decide_eq_false_iff_not, not_lt, gt_iff_lt] at rejected
    exact ⟨⟨m.start, m.count, minute.count ▸ rejected.1, minute.start, minute.before, there.minute⟩,
      h.start, h.count, hour.count ▸ rejected.2, hour.start, hour.before, there.hour⟩

theorem restartHour_sat
    (cnt : Counted call now m entry.hour (entry.hourOver now || entry.rejects pm ph now) s)
    (minute : InWindow minuteWindowMs (entry.minuteCountAt now) now m)
    (begun : entry.hourWindowStart ≤ now) :
    Settles pm ph call (do
      restartHour pm ph call entry now
      if entry.rejects pm ph now then uncount call else pure ()
      pure (databaseResult pm ph entry now)) s := by
  unfold restartHour
  cases isOver : entry.hourOver now with
  | true =>
    have ended : entry.hour.start + hourWindowMs ≤ now := by
      simp only [hourOver, decide_eq_true_eq, ge_iff_le] at isOver
      simp only [RateLimitEntry.hour]
      omega
    have count : entry.hourCountAt now = 1 := by simp [hourCountAt, isOver]
    apply updateEntry_bind_sat (cnt.weaken (by simp [isOver]))
    intro t e inv hit here ok
    have alone : t.alone call = true := (and_eq_true_iff.mp ok).2
    obtain ⟨step, cnt⟩ := restartHour_step (entry.rejects pm ph now) inv hit here ended alone
    refine ⟨step, finish_sat cnt minute ⟨count.symm, le_refl _, ?_⟩⟩
    simp [hourWindowMs]
  | false =>
    simp only [isOver, Bool.false_or] at cnt
    refine finish_sat cnt minute ⟨?_, begun, ?_⟩
    · simp [hourCountAt, isOver, RateLimitEntry.hour]
    · simp only [hourOver, decide_eq_false_iff_not, ge_iff_le] at isOver
      simp only [RateLimitEntry.hour]
      omega

theorem restartMinute_sat (cnt : Counted call now entry.minute entry.hour
      (entry.minuteOver now || entry.hourOver now || entry.rejects pm ph now) s)
    (minuteStarted : entry.minuteWindowStart ≤ now) (hourStarted : entry.hourWindowStart ≤ now) :
    Settles pm ph call (do
      restartMinute pm ph call entry now
      restartHour pm ph call entry now
      if entry.rejects pm ph now then uncount call else pure ()
      pure (databaseResult pm ph entry now)) s := by
  unfold restartMinute
  cases isOver : entry.minuteOver now with
  | true =>
    have ended : entry.minute.start + minuteWindowMs ≤ now := by
      simp only [minuteOver, decide_eq_true_eq, ge_iff_le] at isOver
      simp only [RateLimitEntry.minute]
      omega
    have count : entry.minuteCountAt now = 1 := by simp [minuteCountAt, isOver]
    apply updateEntry_bind_sat (cnt.weaken (by simp [isOver]))
    intro t e inv hit here ok
    have alone : t.alone call = true := (and_eq_true_iff.mp ok).2
    obtain ⟨step, cnt⟩ := restartMinute_step (entry.hourOver now || entry.rejects pm ph now)
      inv hit here ended alone
    refine ⟨step, restartHour_sat cnt ⟨count.symm, le_refl _, ?_⟩ hourStarted⟩
    simp [minuteWindowMs]
  | false =>
    simp only [isOver, Bool.false_or] at cnt
    refine restartHour_sat cnt ⟨?_, minuteStarted, ?_⟩ hourStarted
    · simp [minuteCountAt, isOver, RateLimitEntry.minute]
    · simp only [minuteOver, decide_eq_false_iff_not, ge_iff_le] at isOver
      simp only [RateLimitEntry.minute]
      omega

theorem checkWithDatabase_sat (fresh : s.startedAt call = none) :
    Settles pm ph call (checkWithDatabase pm ph call) s := by
  apply Sat.atomic_bind
  intro t move inv _
  obtain ⟨⟨inv, os⟩, begun, noMinute, noHour⟩ :=
    readTime_step inv (move.startedAt.trans fresh)
  refine ⟨inv, os, ?_⟩
  apply Sat.atomic_bind
  intro u move inv ok
  have timely : u.timely t.clock = true := (and_eq_true_iff.mp ok).2
  obtain ⟨⟨inv, os⟩, cnt, minuteStarted, hourStarted⟩ := upsert_step inv
    (move.startedAt.trans begun) (noMinute.stable move.minute) (noHour.stable move.hour) timely
  exact ⟨inv, os, restartMinute_sat cnt minuteStarted hourStarted⟩

end Calls

section Results

variable {pool : Pool ι (Database ι) PrismaError RateLimitResult}

omit [DecidableEq ι] in
theorem database_env_step {s s' : Database ι} (inv : DatabaseInv pm ph s)
    (moved : Database.Env s s' ∧ s'.orderly = true) :
    DatabaseInv pm ph s' ∧ ∀ call, Respects call s s' := by
  obtain ⟨moved, orderly⟩ := moved
  cases moved with
  | tick clock =>
    exact ⟨{ inv with }, fun _ =>
      ⟨rfl, fun _ _ => Iff.rfl, fun _ _ => Iff.rfl, Iff.rfl, fun _ => rfl⟩⟩
  | cleanup _ =>
    have nobody : s.pending = [] := List.isEmpty_iff.mp (and_eq_true_iff.mp orderly).2
    refine ⟨⟨inv.minute.drop, inv.hour.drop, inv.minuteOwner, inv.hourOwner, fun _ => nobody⟩,
      fun _ => ⟨rfl, fun _ _ => Iff.rfl, fun _ _ => Iff.rfl, Iff.rfl, fun waits => ?_⟩⟩
    rw [nobody] at waits
    cases waits

/-- In every orderly interleaving the ledgers are right, and allowed calls hold their tickets. -/
theorem database_sound (reached : OrderlyReaches pm ph pool) : DatabaseInv pm ph pool.state ∧
      ∀ call res, pool.procs call = .done res → Settled pm ph call (.ok res) pool.state := by
  obtain ⟨clock, reached⟩ := reached
  have init : DatabaseInv pm ph (.start clock : Database ι) := {
    minute := .empty
    hour := .empty
    minuteOwner := by simp [start, Ledger.empty, Counter.zero]
    hourOwner := by simp [start, Ledger.empty, Counter.zero]
    idle := fun _ => rfl }
  have threads : ∀ call, (checkWithDatabase pm ph call).Sat
      (databaseProtocol pm ph) orderlyStep call
      (Settled pm ph call) (.start clock : Database ι) :=
    fun call => checkWithDatabase_sat rfl
  have sound := sound (P := databaseProtocol pm ph)
    (c := databasePool pm ph clock) init threads
    (fun _ _ => database_env_step) reached
  refine ⟨sound.1, fun call res fin => ?_⟩
  exact sound_done (P := databaseProtocol pm ph)
    (c := databasePool pm ph clock) init threads
    (fun _ _ => database_env_step) reached fin

/-- Orderly runs keep within the limits in every window that was ever recorded. -/
theorem orderly_runs_keep_within_limits (reached : OrderlyReaches pm ph pool) :
    WithinLimits pm ph pool := by
  obtain ⟨inv, settled⟩ := database_sound reached
  constructor
  · intro since recorded
    apply inv.minute.encard_le recorded
    rintro call ⟨res, now, fin, isAllowed, at_, from_, until_⟩
    obtain ⟨⟨key, n, small, begun, pre, owns⟩, -⟩ :=
      settled call res fin isAllowed now at_
    exact ⟨key, n, now, small, owns.mem, ⟨begun, pre⟩, from_, until_⟩
  · intro since recorded
    apply inv.hour.encard_le recorded
    rintro call ⟨res, now, fin, isAllowed, at_, from_, until_⟩
    obtain ⟨-, key, n, small, begun, pre, owns⟩ :=
      settled call res fin isAllowed now at_
    exact ⟨key, n, now, small, owns.mem, ⟨begun, pre⟩, from_, until_⟩

def firstCall : Pool Nat (Database Nat) PrismaError RateLimitResult :=
  (databasePool 1 10 0).schedule [0, 0]

def minuteLater : Pool Nat (Database Nat) PrismaError RateLimitResult :=
  ⟨{ firstCall.state with clock := 60000 }, firstCall.procs⟩

def restartedTwice : Pool Nat (Database Nat) PrismaError RateLimitResult :=
  minuteLater.schedule [1, 2, 1, 2, 1, 2]

/-- Both calls see the window that is over, both restart it, and both are allowed in it. -/
theorem restarted_window_allows_twice :
    DatabaseReaches 1 10 restartedTwice ∧ ¬WithinLimits 1 10 restartedTwice := by
  constructor
  · have first : Pool.Reaches Database.Env (fun _ _ => True) (databasePool 1 10 0) firstCall :=
      reaches_schedule rfl
    have later : Pool.Step Database.Env (fun _ _ => True) firstCall minuteLater :=
      .env (.tick 60000)
    exact ⟨0, first.trans (.head later (reaches_schedule rfl))⟩
  · intro within
    have one := within.1 60000 (by decide)
    have both : ({1, 2} : Set Nat) ⊆ allowedWithin restartedTwice 60000 minuteWindowMs := by
      rintro call (rfl | rfl)
      · exact ⟨_, 60000, rfl, rfl, rfl, by decide, by decide⟩
      · exact ⟨_, 60000, rfl, rfl, rfl, by decide, by decide⟩
    have two : (2 : ℕ∞) ≤ 1 := by
      calc (2 : ℕ∞) = ({1, 2} : Set Nat).encard := (Set.encard_pair (by decide)).symm
        _ ≤ _ := Set.encard_le_encard both
        _ ≤ 1 := by exact_mod_cast one
    exact absurd two (by decide)

def restartedOnce : Pool Nat (Database Nat) PrismaError RateLimitResult :=
  minuteLater.schedule [1, 1, 1, 2, 2, 2]

/-- The last call is rejected. -/
theorem orderly_runs_keep_within_limits_restartedOnce :
    WithinLimits 1 10 restartedOnce ∧ restartedOnce.state.minute.starts = [60000, 0] := by
  have first : Pool.Reaches (fun s s' => Database.Env s s' ∧ s'.orderly = true)
      (fun _ s' => s'.orderly = true) (databasePool 1 10 0) firstCall :=
    reaches_schedule rfl
  have later : Pool.Step (fun s s' => Database.Env s s' ∧ s'.orderly = true)
      (fun _ s' => s'.orderly = true) firstCall minuteLater := .env ⟨.tick 60000, rfl⟩
  have reached : OrderlyReaches 1 10 restartedOnce :=
    ⟨0, first.trans (.head later (reaches_schedule rfl))⟩
  exact ⟨orderly_runs_keep_within_limits reached, rfl⟩

end Results

end Idenplane.RateLimit
