import Idenplane.Sms.Otp
import Idenplane.Lib.Table

/-! # The life of a challenge

`Change` says once what a request can do to the rows of the one-time codes and to
their history.  Everything that holds of the rows and the history along a run is
an invariant of `Change`: that a row holds the code stored last, that guesses and
sends of a row are bounded, that sends keep their distance and that a row is
claimed once.
-/

namespace Idenplane.Sms

open Table

def eventRequest : SmsEvent → Nat
  | .stored req _ => req
  | .sent req _ => req
  | .reserved req _ _ => req
  | .claimed req _ => req

def eventRow : SmsEvent → Nat
  | .stored _ row => row.id
  | .sent _ row => row.id
  | .reserved _ rowId _ => rowId
  | .claimed _ rowId => rowId

def lastStored (purpose : SmsOtpPurpose) (binding : String) : List SmsEvent → Option OtpAttempt
  | [] => none
  | .stored _ row :: rest =>
    if row.purpose = purpose ∧ row.bindingHash = binding then some row
    else lastStored purpose binding rest
  | _ :: rest => lastStored purpose binding rest

/-- The codes stored in one row, with the requests that stored them. -/
def storedIn (rowId : Nat) : List SmsEvent → List (Nat × OtpAttempt)
  | [] => []
  | .stored req row :: rest =>
    if row.id = rowId then (req, row) :: storedIn rowId rest else storedIn rowId rest
  | _ :: rest => storedIn rowId rest

def handed : List SmsEvent → List (Nat × OtpAttempt)
  | [] => []
  | .sent req row :: rest => (req, row) :: handed rest
  | _ :: rest => handed rest

def isGuess (rowId : Nat) : SmsEvent → Bool
  | .reserved _ id _ => id = rowId
  | _ => false

def isClaim (rowId : Nat) : SmsEvent → Bool
  | .claimed _ id => id = rowId
  | _ => false

def guesses (rowId : Nat) (log : List SmsEvent) : Nat := log.countP (isGuess rowId)

def claims (rowId : Nat) (log : List SmsEvent) : Nat := log.countP (isClaim rowId)

section Cons

variable (rowId i id : Nat) (at_ : Int) (row : OtpAttempt) (log : List SmsEvent)

@[simp] theorem guesses_nil : guesses rowId [] = 0 := rfl
@[simp] theorem guesses_stored : guesses rowId (.stored i row :: log) = guesses rowId log := by
  simp [guesses, isGuess]
@[simp] theorem guesses_sent : guesses rowId (.sent i row :: log) = guesses rowId log := by
  simp [guesses, isGuess]
@[simp] theorem guesses_claimed : guesses rowId (.claimed i id :: log) = guesses rowId log := by
  simp [guesses, isGuess]
@[simp] theorem guesses_reserved : guesses rowId (.reserved i id at_ :: log) =
    guesses rowId log + if id = rowId then 1 else 0 := by
  simp [guesses, isGuess, countP_cons]

@[simp] theorem storedIn_stored : storedIn rowId (.stored i row :: log) =
    if row.id = rowId then (i, row) :: storedIn rowId log else storedIn rowId log := rfl
@[simp] theorem storedIn_sent : storedIn rowId (.sent i row :: log) = storedIn rowId log := rfl
@[simp] theorem storedIn_reserved :
    storedIn rowId (.reserved i id at_ :: log) = storedIn rowId log := rfl
@[simp] theorem storedIn_claimed : storedIn rowId (.claimed i id :: log) = storedIn rowId log := rfl

@[simp] theorem claims_nil : claims rowId [] = 0 := rfl
@[simp] theorem claims_stored : claims rowId (.stored i row :: log) = claims rowId log := by
  simp [claims, isClaim]
@[simp] theorem claims_sent : claims rowId (.sent i row :: log) = claims rowId log := by
  simp [claims, isClaim]
@[simp] theorem claims_reserved : claims rowId (.reserved i id at_ :: log) = claims rowId log := by
  simp [claims, isClaim]
@[simp] theorem claims_claimed : claims rowId (.claimed i id :: log) =
    claims rowId log + if id = rowId then 1 else 0 := by
  simp [claims, isClaim, countP_cons]

end Cons

theorem mem_storedIn {rowId : Nat} {log : List SmsEvent} {req : Nat} {row : OtpAttempt} :
    (req, row) ∈ storedIn rowId log ↔ row.id = rowId ∧ .stored req row ∈ log := by
  induction log with
  | nil => simp [storedIn]
  | cons ev rest ih =>
    cases ev with
    | stored r other =>
      simp only [storedIn, mem_cons, SmsEvent.stored.injEq]
      split
      · rw [mem_cons, ih, Prod.mk.injEq]
        grind
      · rw [ih]
        grind
    | sent r other => simp [storedIn, ih]
    | reserved r id now => simp [storedIn, ih]
    | claimed r id => simp [storedIn, ih]

theorem mem_handed {log : List SmsEvent} {req : Nat} {row : OtpAttempt} :
    (req, row) ∈ handed log ↔ .sent req row ∈ log := by
  induction log with
  | nil => simp [handed]
  | cons ev rest ih => cases ev <;> simp [handed, ih]

theorem guesses_eq_zero {rowId : Nat} {log : List SmsEvent}
    (h : ∀ ev ∈ log, eventRow ev ≠ rowId) : guesses rowId log = 0 := by
  rw [guesses, countP_eq_zero]
  intro ev mem guess
  cases ev <;> simp_all [isGuess, eventRow]
  exact h _ mem rfl

theorem claims_eq_zero {rowId : Nat} {log : List SmsEvent}
    (h : ∀ ev ∈ log, eventRow ev ≠ rowId) : claims rowId log = 0 := by
  rw [claims, countP_eq_zero]
  intro ev mem claim
  cases ev <;> simp_all [isClaim, eventRow]
  exact h _ mem rfl

theorem storedIn_eq_nil {rowId : Nat} {log : List SmsEvent}
    (h : ∀ ev ∈ log, eventRow ev ≠ rowId) : storedIn rowId log = [] := by
  rw [List.eq_nil_iff_forall_not_mem]
  rintro ⟨req, row⟩ mem
  obtain ⟨same, stored⟩ := mem_storedIn.mp mem
  exact h _ stored same

/-- The six things a step of request `i` can do to the rows and their history. -/
inductive Change (i : Nat) (s s' : Store) : Prop where
  /-- Nothing, or rows were deleted by a clean-up or with their user. -/
  | removed (rows : s'.otpAttempts.Sublist s.otpAttempts) (log : s'.smsLog = s.smsLog)
      (supply : s.supply ≤ s'.supply)
  | created (row : OtpAttempt) (fresh : row.id = s.supply) (untouched : row.attempts = 0)
      (first : row.sendCount = 1)
      (free : ∀ r ∈ s.otpAttempts, ¬ (r.purpose = row.purpose ∧ r.bindingHash = row.bindingHash))
      (rows : s'.otpAttempts = row :: s.otpAttempts) (log : s'.smsLog = .stored i row :: s.smsLog)
      (supply : s'.supply = s.supply + 1)
  | resent (row : OtpAttempt) (fields : CodeFields) (mem : row ∈ s.otpAttempts)
      (waited : row.lastSentAt ≤ fields.lastSentAt - cooldownMs)
      (budget : row.sendCount < SMS_OTP_MAX_SENDS)
      (rows : s'.otpAttempts = Table.replace OtpAttempt.id (resentRow row fields) s.otpAttempts)
      (log : s'.smsLog = .stored i (resentRow row fields) :: s.smsLog)
      (supply : s'.supply = s.supply)
  | handed (row : OtpAttempt) (stored : .stored i row ∈ s.smsLog)
      (notYet : ∀ other, .sent i other ∉ s.smsLog) (rows : s'.otpAttempts = s.otpAttempts)
      (log : s'.smsLog = .sent i row :: s.smsLog) (supply : s'.supply = s.supply)
  | guessed (row : OtpAttempt) (now : Int) (mem : row ∈ s.otpAttempts)
      (budget : row.attempts < SMS_OTP_MAX_ATTEMPTS) (live : now < row.expiresAt)
      (rows : s'.otpAttempts = Table.replace OtpAttempt.id (guessedRow row) s.otpAttempts)
      (log : s'.smsLog = .reserved i row.id now :: s.smsLog) (supply : s'.supply = s.supply)
  | claimed (row : OtpAttempt) (mem : row ∈ s.otpAttempts)
      (rows : s'.otpAttempts = s.otpAttempts.filter (·.id ≠ row.id))
      (log : s'.smsLog = .claimed i row.id :: s.smsLog) (supply : s'.supply = s.supply)

/-- Both keys of the table are unique and identifiers come from the supply. -/
structure Keys (s : Store) : Prop where
  ids : (s.otpAttempts.map OtpAttempt.id).Nodup
  challenges : (s.otpAttempts.map fun row => (row.purpose, row.bindingHash)).Nodup
  drawn : ∀ row ∈ s.otpAttempts, row.id < s.supply
  logged : ∀ event ∈ s.smsLog, eventRow event < s.supply

def HoldsLast (s : Store) : Prop :=
  ∀ row ∈ s.otpAttempts, ∃ held, lastStored row.purpose row.bindingHash s.smsLog = some held ∧
    held = { row with attempts := held.attempts }

structure Guesses (s : Store) : Prop where
  counted : ∀ row ∈ s.otpAttempts, guesses row.id s.smsLog = row.attempts
  bounded : ∀ rowId, guesses rowId s.smsLog ≤ SMS_OTP_MAX_ATTEMPTS

structure Claimed (s : Store) : Prop where
  live : ∀ row ∈ s.otpAttempts, claims row.id s.smsLog = 0
  once : ∀ rowId, claims rowId s.smsLog ≤ 1

def Apart (later earlier : Nat × OtpAttempt) : Prop :=
  earlier.2.lastSentAt + cooldownMs ≤ later.2.lastSentAt

structure Sends (s : Store) : Prop where
  counted : ∀ row ∈ s.otpAttempts, (storedIn row.id s.smsLog).length = row.sendCount
  bounded : ∀ rowId, (storedIn rowId s.smsLog).length ≤ SMS_OTP_MAX_SENDS
  latest : ∀ row ∈ s.otpAttempts, ∀ send ∈ storedIn row.id s.smsLog,
    send.2.lastSentAt ≤ row.lastSentAt
  apart : ∀ rowId, (storedIn rowId s.smsLog).Pairwise Apart

/-- Each code handed to the provider was stored, and is handed over once. -/
structure Handed (s : Store) : Prop where
  stored : ∀ req row, .sent req row ∈ s.smsLog → .stored req row ∈ s.smsLog
  once : (handed s.smsLog).Nodup

structure Inv (s : Store) : Prop where
  keys : Keys s
  last : HoldsLast s
  guesses : Guesses s
  claimed : Claimed s
  sends : Sends s
  handed : Handed s

section Steps

variable {i : Nat} {s s' : Store}

theorem Keys.replaced {row new : OtpAttempt} {ev : SmsEvent} (h : Keys s)
    (rows : s'.otpAttempts = replace OtpAttempt.id new s.otpAttempts)
    (log : s'.smsLog = ev :: s.smsLog) (supply : s'.supply = s.supply)
    (mem : row ∈ s.otpAttempts) (sameId : new.id = row.id)
    (samePurpose : new.purpose = row.purpose) (sameBinding : new.bindingHash = row.bindingHash)
    (about : eventRow ev = row.id) : Keys s' where
  ids := by
    rw [rows, map_replace mem h.ids sameId sameId]
    exact h.ids
  challenges := by
    rw [rows, map_replace mem h.ids sameId (by simp [samePurpose, sameBinding])]
    exact h.challenges
  drawn := by
    intro r isRow
    rw [rows] at isRow
    rw [supply]
    rcases mem_replace isRow with rfl | ⟨old, -⟩
    · exact sameId ▸ h.drawn row mem
    · exact h.drawn r old
  logged := by
    intro e isEvent
    rw [log] at isEvent
    rw [supply]
    rcases mem_cons.mp isEvent with rfl | old
    · exact about ▸ h.drawn row mem
    · exact h.logged e old

theorem Keys.step (h : Keys s) (chg : Change i s s') : Keys s' := by
  cases chg with
  | removed rows log supply =>
    refine ⟨(rows.map _).nodup h.ids, (rows.map _).nodup h.challenges, ?_, ?_⟩
    · intro row isRow
      exact (h.drawn row (rows.subset isRow)).trans_le supply
    · intro event isEvent
      exact (h.logged event (log ▸ isEvent)).trans_le supply
  | created row fresh untouched first free rows log supply =>
    refine ⟨?_, ?_, ?_, ?_⟩
    · rw [rows, map_cons, nodup_cons]
      refine ⟨?_, h.ids⟩
      intro mem
      obtain ⟨old, isRow, same⟩ := mem_map.mp mem
      exact absurd (h.drawn old isRow) (by omega)
    · rw [rows, map_cons, nodup_cons]
      refine ⟨?_, h.challenges⟩
      intro mem
      obtain ⟨old, isRow, same⟩ := mem_map.mp mem
      exact free old isRow (by simpa using same)
    · intro r isRow
      rw [rows] at isRow
      rcases mem_cons.mp isRow with rfl | old
      · omega
      · have := h.drawn r old
        omega
    · intro event isEvent
      rw [log] at isEvent
      rcases mem_cons.mp isEvent with rfl | old
      · simp only [eventRow]
        omega
      · have := h.logged event old
        omega
  | resent row fs mem waited budget rows log supply =>
    exact h.replaced rows log supply mem rfl rfl rfl rfl
  | handed row stored notYet rows log supply =>
    refine ⟨rows ▸ h.ids, rows ▸ h.challenges, ?_, ?_⟩
    · rw [rows, supply]
      exact h.drawn
    · intro event isEvent
      rw [log] at isEvent
      rw [supply]
      rcases mem_cons.mp isEvent with rfl | old
      · exact (h.logged (.stored i row) stored :)
      · exact h.logged event old
  | guessed row now mem budget live rows log supply =>
    exact h.replaced rows log supply mem rfl rfl rfl rfl
  | claimed row mem rows log supply =>
    have sub : s'.otpAttempts.Sublist s.otpAttempts := rows ▸ filter_sublist
    refine ⟨(sub.map _).nodup h.ids, (sub.map _).nodup h.challenges, ?_, ?_⟩
    · intro r isRow
      rw [supply]
      exact h.drawn r (sub.subset isRow)
    · intro event isEvent
      rw [log] at isEvent
      rw [supply]
      rcases mem_cons.mp isEvent with rfl | old
      · exact h.drawn row mem
      · exact h.logged event old

theorem Keys.challenge_inj (h : Keys s) {a b : OtpAttempt} (ha : a ∈ s.otpAttempts)
    (hb : b ∈ s.otpAttempts) (purpose : a.purpose = b.purpose)
    (binding : a.bindingHash = b.bindingHash) : a = b :=
  inj_on_of_nodup_map h.challenges ha hb (by simp [purpose, binding])

theorem Keys.id_inj (h : Keys s) {a b : OtpAttempt} (ha : a ∈ s.otpAttempts)
    (hb : b ∈ s.otpAttempts) (same : a.id = b.id) : a = b :=
  inj_on_of_nodup_map h.ids ha hb same

theorem HoldsLast.step (keys : Keys s) (h : HoldsLast s) (chg : Change i s s') :
    HoldsLast s' := by
  intro r isRow
  cases chg with
  | removed rows log supply =>
    rw [log]
    exact h r (rows.subset isRow)
  | created row fresh untouched first free rows log supply =>
    rw [rows] at isRow
    rw [log]
    rcases mem_cons.mp isRow with rfl | old
    · exact ⟨r, by simp [lastStored], rfl⟩
    · have other : ¬ (row.purpose = r.purpose ∧ row.bindingHash = r.bindingHash) := by
        rintro ⟨purpose, binding⟩
        exact free r old ⟨purpose.symm, binding.symm⟩
      simpa only [lastStored, if_neg other] using h r old
  | resent row fs mem waited budget rows log supply =>
    rw [rows] at isRow
    rw [log]
    rcases mem_replace isRow with rfl | ⟨old, otherId⟩
    · exact ⟨resentRow row fs, by simp [lastStored], rfl⟩
    · have other : ¬ ((resentRow row fs).purpose = r.purpose ∧
          (resentRow row fs).bindingHash = r.bindingHash) := by
        rintro ⟨purpose, binding⟩
        have same : r = row := keys.challenge_inj old mem purpose.symm binding.symm
        exact otherId (by rw [same]; rfl)
      simpa only [lastStored, if_neg other] using h r old
  | handed row stored notYet rows log supply =>
    rw [rows] at isRow
    rw [log]
    exact h r isRow
  | guessed row now mem budget live rows log supply =>
    rw [rows] at isRow
    rw [log]
    rcases mem_replace isRow with rfl | ⟨old, -⟩
    · obtain ⟨held, hit, same⟩ := h row mem
      exact ⟨held, hit, by rw [same]; rfl⟩
    · exact h r old
  | claimed row mem rows log supply =>
    rw [rows] at isRow
    rw [log]
    exact h r (mem_of_mem_filter isRow)

theorem Keys.not_logged (h : Keys s) {rowId : Nat} (fresh : rowId = s.supply) :
    ∀ ev ∈ s.smsLog, eventRow ev ≠ rowId := by
  intro ev mem same
  have := h.logged ev mem
  omega

theorem Guesses.step (keys : Keys s) (h : Guesses s) (chg : Change i s s') : Guesses s' := by
  cases chg with
  | removed rows log supply =>
    refine ⟨fun r isRow => ?_, fun rowId => ?_⟩
    · rw [log]
      exact h.counted r (rows.subset isRow)
    · rw [log]
      exact h.bounded rowId
  | created row fresh untouched first free rows log supply =>
    refine ⟨fun r isRow => ?_, fun rowId => by simpa [log] using h.bounded rowId⟩
    rw [rows] at isRow
    rw [log, guesses_stored]
    rcases mem_cons.mp isRow with rfl | old
    · rw [untouched]
      exact guesses_eq_zero (keys.not_logged fresh)
    · exact h.counted r old
  | resent row fs mem waited budget rows log supply =>
    refine ⟨fun r isRow => ?_, fun rowId => by simpa [log] using h.bounded rowId⟩
    rw [rows] at isRow
    rw [log, guesses_stored]
    rcases mem_replace isRow with rfl | ⟨old, -⟩
    · exact h.counted row mem
    · exact h.counted r old
  | handed row stored notYet rows log supply =>
    refine ⟨fun r isRow => ?_, fun rowId => by simpa [log] using h.bounded rowId⟩
    rw [log, guesses_sent]
    exact h.counted r (rows ▸ isRow)
  | guessed row now mem budget live rows log supply =>
    have own := h.counted row mem
    refine ⟨fun r isRow => ?_, fun rowId => ?_⟩
    · rw [rows] at isRow
      rw [log, guesses_reserved]
      rcases mem_replace isRow with rfl | ⟨old, other⟩
      · simpa [guessedRow] using own
      · have apart : row.id ≠ r.id := fun same => other same.symm
        simpa [apart] using h.counted r old
    · rw [log, guesses_reserved]
      by_cases same : row.id = rowId
      · rw [if_pos same, ← same, own]
        exact budget
      · simpa [same] using h.bounded rowId
  | claimed row mem rows log supply =>
    refine ⟨fun r isRow => ?_, fun rowId => by simpa [log] using h.bounded rowId⟩
    rw [rows] at isRow
    rw [log, guesses_claimed]
    exact h.counted r (mem_of_mem_filter isRow)

theorem Claimed.step (keys : Keys s) (h : Claimed s) (chg : Change i s s') : Claimed s' := by
  cases chg with
  | removed rows log supply =>
    refine ⟨fun r isRow => ?_, fun rowId => ?_⟩
    · rw [log]
      exact h.live r (rows.subset isRow)
    · rw [log]
      exact h.once rowId
  | created row fresh untouched first free rows log supply =>
    refine ⟨fun r isRow => ?_, fun rowId => by simpa [log] using h.once rowId⟩
    rw [rows] at isRow
    rw [log, claims_stored]
    rcases mem_cons.mp isRow with rfl | old
    · exact claims_eq_zero (keys.not_logged fresh)
    · exact h.live r old
  | resent row fs mem waited budget rows log supply =>
    refine ⟨fun r isRow => ?_, fun rowId => by simpa [log] using h.once rowId⟩
    rw [rows] at isRow
    rw [log, claims_stored]
    rcases mem_replace isRow with rfl | ⟨old, -⟩
    · exact h.live row mem
    · exact h.live r old
  | handed row stored notYet rows log supply =>
    refine ⟨fun r isRow => ?_, fun rowId => by simpa [log] using h.once rowId⟩
    rw [log, claims_sent]
    exact h.live r (rows ▸ isRow)
  | guessed row now mem budget live rows log supply =>
    refine ⟨fun r isRow => ?_, fun rowId => by simpa [log] using h.once rowId⟩
    rw [rows] at isRow
    rw [log, claims_reserved]
    rcases mem_replace isRow with rfl | ⟨old, -⟩
    · exact h.live row mem
    · exact h.live r old
  | claimed row mem rows log supply =>
    refine ⟨fun r isRow => ?_, fun rowId => ?_⟩
    · rw [rows] at isRow
      obtain ⟨old, other⟩ := mem_filter.mp isRow
      have apart : row.id ≠ r.id := fun same => by simp [same] at other
      rw [log, claims_claimed, if_neg apart]
      exact h.live r old
    · rw [log, claims_claimed]
      by_cases same : row.id = rowId
      · rw [if_pos same, ← same, h.live row mem]
      · simpa [same] using h.once rowId

theorem Sends.of_same_log (h : Sends s) (same : ∀ rowId, storedIn rowId s'.smsLog =
    storedIn rowId s.smsLog)
    (rows : ∀ r ∈ s'.otpAttempts, ∃ old ∈ s.otpAttempts, old.id = r.id ∧
      old.sendCount = r.sendCount ∧ old.lastSentAt = r.lastSentAt) : Sends s' where
  counted := by
    intro r isRow
    obtain ⟨old, mem, id, count, -⟩ := rows r isRow
    rw [same, ← id, ← count]
    exact h.counted old mem
  bounded := by
    intro rowId
    rw [same]
    exact h.bounded rowId
  latest := by
    intro r isRow
    obtain ⟨old, mem, id, -, last⟩ := rows r isRow
    rw [same, ← id, ← last]
    exact h.latest old mem
  apart := by
    intro rowId
    rw [same]
    exact h.apart rowId

theorem Sends.step (keys : Keys s) (h : Sends s) (chg : Change i s s') : Sends s' := by
  cases chg with
  | removed rows log supply =>
    exact h.of_same_log (fun rowId => by rw [log])
      fun r isRow => ⟨r, rows.subset isRow, rfl, rfl, rfl⟩
  | created row fresh untouched first free rows log supply =>
    have empty : storedIn row.id s.smsLog = [] := storedIn_eq_nil (keys.not_logged fresh)
    have others : ∀ r ∈ s.otpAttempts, row.id ≠ r.id := by
      intro r old same
      have := keys.drawn r old
      omega
    refine ⟨fun r isRow => ?_, fun rowId => ?_, fun r isRow => ?_, fun rowId => ?_⟩
    · rw [rows] at isRow
      rw [log, storedIn_stored]
      rcases mem_cons.mp isRow with rfl | old
      · simp [empty, first]
      · simpa [others r old] using h.counted r old
    · rw [log, storedIn_stored]
      by_cases same : row.id = rowId
      · subst same
        simp [empty, SMS_OTP_MAX_SENDS]
      · simpa [same] using h.bounded rowId
    · rw [rows] at isRow
      rw [log, storedIn_stored]
      rcases mem_cons.mp isRow with rfl | old
      · simp [empty]
      · simpa [others r old] using h.latest r old
    · rw [log, storedIn_stored]
      by_cases same : row.id = rowId
      · subst same
        simp [empty]
      · simpa [same] using h.apart rowId
  | resent row fs mem waited budget rows log supply =>
    have sameId : (resentRow row fs).id = row.id := rfl
    refine ⟨fun r isRow => ?_, fun rowId => ?_, fun r isRow => ?_, fun rowId => ?_⟩
    · rw [rows] at isRow
      rw [log, storedIn_stored, sameId]
      rcases mem_replace isRow with rfl | ⟨old, other⟩
      · rw [sameId, if_pos rfl, length_cons, h.counted row mem]
        rfl
      · have apart : row.id ≠ r.id := fun same => other same.symm
        simpa [apart] using h.counted r old
    · rw [log, storedIn_stored, sameId]
      by_cases same : row.id = rowId
      · have := h.counted row mem
        rw [if_pos same, length_cons, ← same]
        omega
      · simpa [same] using h.bounded rowId
    · rw [rows] at isRow
      rw [log, storedIn_stored, sameId]
      rcases mem_replace isRow with rfl | ⟨old, other⟩
      · intro send isSend
        rw [sameId, if_pos rfl] at isSend
        rcases mem_cons.mp isSend with rfl | earlier
        · exact le_refl _
        · have before := h.latest row mem send earlier
          have : (resentRow row fs).lastSentAt = fs.lastSentAt := rfl
          simp only [cooldownMs, SMS_OTP_RESEND_COOLDOWN_SECONDS] at waited
          omega
      · have apart : row.id ≠ r.id := fun same => other same.symm
        simpa [apart] using h.latest r old
    · rw [log, storedIn_stored, sameId]
      by_cases same : row.id = rowId
      · rw [if_pos same, ← same, pairwise_cons]
        refine ⟨fun send earlier => ?_, h.apart row.id⟩
        have before := h.latest row mem send earlier
        have : (resentRow row fs).lastSentAt = fs.lastSentAt := rfl
        simp only [Apart]
        omega
      · simpa [same] using h.apart rowId
  | handed row stored notYet rows log supply =>
    exact h.of_same_log (fun rowId => by rw [log, storedIn_sent])
      fun r isRow => ⟨r, rows ▸ isRow, rfl, rfl, rfl⟩
  | guessed row now mem budget live rows log supply =>
    refine h.of_same_log (fun rowId => by rw [log, storedIn_reserved]) fun r isRow => ?_
    rw [rows] at isRow
    rcases mem_replace isRow with rfl | ⟨old, -⟩
    · exact ⟨row, mem, rfl, rfl, rfl⟩
    · exact ⟨r, old, rfl, rfl, rfl⟩
  | claimed row mem rows log supply =>
    refine h.of_same_log (fun rowId => by rw [log, storedIn_claimed]) fun r isRow => ?_
    rw [rows] at isRow
    exact ⟨r, mem_of_mem_filter isRow, rfl, rfl, rfl⟩

theorem Handed.step (h : Handed s) (chg : Change i s s') : Handed s' := by
  have unsent : ∀ event, s'.smsLog = event :: s.smsLog →
      (∀ req row, event ≠ .sent req row) → Handed s' := by
    intro event log other
    refine ⟨fun req row sent => ?_, ?_⟩
    · rw [log] at sent ⊢
      rcases mem_cons.mp sent with same | old
      · exact absurd same.symm (other req row)
      · exact .tail _ (h.stored req row old)
    · rw [log]
      cases event with
      | sent req row => exact absurd rfl (other req row)
      | stored req row => exact h.once
      | reserved req rowId at_ => exact h.once
      | claimed req rowId => exact h.once
  cases chg with
  | removed rows log supply => exact ⟨log ▸ h.stored, log ▸ h.once⟩
  | created row fresh untouched first free rows log supply => exact unsent _ log (by simp)
  | resent row fs mem waited budget rows log supply => exact unsent _ log (by simp)
  | handed row stored notYet rows log supply =>
    refine ⟨fun req other sent => ?_, ?_⟩
    · rw [log] at sent ⊢
      rcases mem_cons.mp sent with same | old
      · cases same
        exact .tail _ stored
      · exact .tail _ (h.stored req other old)
    · rw [log, Sms.handed, nodup_cons]
      exact ⟨fun mem => notYet row (mem_handed.mp mem), h.once⟩
  | guessed row now mem budget live rows log supply => exact unsent _ log (by simp)
  | claimed row mem rows log supply => exact unsent _ log (by simp)

theorem Inv.step (h : Inv s) (chg : Change i s s') : Inv s' where
  keys := h.keys.step chg
  last := h.last.step h.keys chg
  guesses := h.guesses.step h.keys chg
  claimed := h.claimed.step h.keys chg
  sends := h.sends.step h.keys chg
  handed := h.handed.step chg

end Steps

end Idenplane.Sms
