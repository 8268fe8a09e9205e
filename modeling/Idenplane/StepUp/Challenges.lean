import Idenplane.StepUp.Controller
import Mathlib.Data.List.Perm.Subperm

/-! # One challenge for a second factor

A challenge is answered at the token endpoint and in a session, side by side with reads and
clean-ups.  An attempt is spent, on a row that counts them, before an answer is looked at, and
the row is deleted by the one request that completes.
-/

namespace Idenplane.StepUp

open Atomic Auth List Pool Store

variable {ev : MfaEvent}

section History

def isChallenge (h : Sha256) (action : PendingAction) : Bool :=
  action.tokenHash = h && action.type = .mfaChallenge

def mfaRequest : MfaEvent → Option Nat
  | .created _ _ _ => none
  | .spent req _ _ => some req
  | .checked req _ _ _ => some req
  | .claimed req _ => some req
  | .steppedUp req _ => some req

def mfaHash : MfaEvent → Sha256
  | .created hash _ _ => hash
  | .spent _ hash _ => hash
  | .checked _ hash _ _ => hash
  | .claimed _ hash => hash
  | .steppedUp _ hash => hash

def historyOf (h : Sha256) (s : Store) : List MfaEvent := s.mfaLog.filter (mfaHash · = h)

def spentBy : List MfaEvent → List Nat
  | [] => []
  | .spent req _ _ :: log => req :: spentBy log
  | _ :: log => spentBy log

/-- The requests whose answers were passed on, one entry for each answer. -/
def checkedBy : List MfaEvent → List Nat
  | [] => []
  | .checked req _ _ _ :: log => req :: checkedBy log
  | _ :: log => checkedBy log

/-- The requests that deleted the challenge after the right answer. -/
def claimedBy : List MfaEvent → List Nat
  | [] => []
  | .claimed req _ :: log => req :: claimedBy log
  | _ :: log => claimedBy log

variable {h : Sha256} {log : List MfaEvent} {i : Nat} {s : Store}

theorem mem_spentBy : i ∈ spentBy log ↔ ∃ hash at_, .spent i hash at_ ∈ log := by
  induction log with
  | nil => simp [spentBy]
  | cons ev log ih => cases ev <;> simp [spentBy, ih, exists_or]

theorem mem_checkedBy : i ∈ checkedBy log ↔ ∃ hash uid at_, .checked i hash uid at_ ∈ log := by
  induction log with
  | nil => simp [checkedBy]
  | cons ev log ih => cases ev <;> simp [checkedBy, ih, exists_or]

theorem mem_claimedBy : i ∈ claimedBy log ↔ ∃ hash, .claimed i hash ∈ log := by
  induction log with
  | nil => simp [claimedBy]
  | cons ev log ih => cases ev <;> simp [claimedBy, ih, exists_or]

theorem mem_historyOf : ev ∈ historyOf h s ↔ ev ∈ s.mfaLog ∧ mfaHash ev = h := by
  simp [historyOf]

end History

section Protocol

variable (h : Sha256) (expiry : Int)

structure ChallengeInv (s : Store) : Prop where
  /-- The row counts the attempts that were spent, at least. -/
  rows : ∀ row ∈ s.pendingActions, isChallenge h row = true →
    (spentBy (historyOf h s)).length ≤ row.attempts ∧ row.expiresAt = expiry
  budget : (spentBy (historyOf h s)).length ≤ MAX_MFA_ATTEMPTS
  checkedOnce : (checkedBy (historyOf h s)).Nodup
  checkedSpent : checkedBy (historyOf h s) ⊆ spentBy (historyOf h s)
  inTime : ∀ i hash at_, .spent i hash at_ ∈ historyOf h s → at_ < expiry
  claimedOnce : (claimedBy (historyOf h s)).length ≤ 1
  claimedGone : claimedBy (historyOf h s) ≠ [] → ∀ row ∈ s.pendingActions, isChallenge h row = false
  stepped : ∀ i hash, .steppedUp i hash ∈ historyOf h s → i ∈ claimedBy (historyOf h s)

/-- How the others may move the store under request `i`. -/
def ChallengeRely (i : Nat) (s s' : Store) : Prop :=
  ∃ recent, s'.mfaLog = recent ++ s.mfaLog ∧ ∀ event ∈ recent, mfaRequest event ≠ some i

theorem ChallengeRely.refl (i : Nat) (s : Store) : ChallengeRely i s s := ⟨[], rfl, by simp⟩

theorem ChallengeRely.trans (i : Nat) {a b c : Store} (ab : ChallengeRely i a b)
    (bc : ChallengeRely i b c) : ChallengeRely i a c := grown_trans ab bc

def challengeProtocol : Protocol Nat Store :=
  ⟨ChallengeInv h expiry, ChallengeRely, ChallengeRely.refl, ChallengeRely.trans⟩

/-- What the rest of the server does: the challenge may be deleted, and is not created again. -/
structure LeavesChallenge (s s' : Store) : Prop where
  rows : ∀ row ∈ s'.pendingActions, isChallenge h row = true → row ∈ s.pendingActions
  log : s'.mfaLog = s.mfaLog

theorem LeavesChallenge.refl (s : Store) : LeavesChallenge h s s := ⟨fun _ mem _ => mem, rfl⟩

variable {h expiry} {i : Nat} {s s' : Store}

theorem ChallengeInv.of_same (inv : ChallengeInv h expiry s)
    (rows : ∀ row ∈ s'.pendingActions, isChallenge h row = true → row ∈ s.pendingActions)
    (hist : historyOf h s' = historyOf h s) : ChallengeInv h expiry s' := by
  refine ⟨?_, hist ▸ inv.budget, hist ▸ inv.checkedOnce, hist ▸ inv.checkedSpent,
    hist ▸ inv.inTime, hist ▸ inv.claimedOnce, ?_, hist ▸ inv.stepped⟩
  · intro row isRow isH
    rw [hist]
    exact inv.rows row (rows row isRow isH) isH
  · intro claimed row isRow
    rw [hist] at claimed
    by_contra isH
    simp only [not_eq_false] at isH
    have gone := inv.claimedGone claimed row (rows row isRow isH)
    simp [isH] at gone

theorem LeavesChallenge.respects (t t' : Store) (inv : ChallengeInv h expiry t)
    (leaves : LeavesChallenge h t t') : ChallengeInv h expiry t' ∧ ∀ j, ChallengeRely j t t' :=
  ⟨inv.of_same leaves.rows (by rw [historyOf, historyOf, leaves.log]),
    fun _ => ⟨[], by simpa using leaves.log, by simp⟩⟩

theorem checkWork_leaves (work : CheckWork s s') : LeavesChallenge h s s' := by
  have rows : s'.pendingActions = s.pendingActions := (congrArg pendingActions work :)
  exact ⟨fun row mem _ => rows ▸ mem, (congrArg mfaLog work :)⟩

theorem sessionWork_leaves (work : SessionWork s s') : LeavesChallenge h s s' := by
  have rows : s'.pendingActions = s.pendingActions := (congrArg pendingActions work.rest :)
  exact ⟨fun row mem _ => rows ▸ mem, (congrArg mfaLog work.rest :)⟩

theorem rely_of_event (own : mfaRequest ev = some i)
    (log : s'.mfaLog = ev :: s.mfaLog) : ∀ j, j ≠ i → ChallengeRely j s s' := by
  intro j other
  refine ⟨[ev], log, fun e mem => ?_⟩
  rw [mem_singleton.mp mem, own]
  exact fun same => other (some.inj same).symm

theorem historyOf_cons (log : s'.mfaLog = ev :: s.mfaLog) :
    historyOf h s' = if mfaHash ev = h then ev :: historyOf h s else historyOf h s := by
  simp only [historyOf, log, filter_cons, decide_eq_true_eq]

/-- Spending an attempt changes nothing, or counts it on a row that may be answered. -/
theorem spendAttempt_cases (i : Nat) (hash : Sha256) (s : Store) :
    ((spendAttempt i hash s).1 = 0 ∧ (spendAttempt i hash s).2 = s) ∨
    ((spendAttempt i hash s).1 ≠ 0 ∧
      (spendAttempt i hash s).2.mfaLog = .spent i hash s.now :: s.mfaLog ∧
      ∃ row ∈ s.pendingActions, answerable hash s.now row = true) := by
  unfold spendAttempt
  by_cases none_ : s.pendingActions.countP (answerable hash s.now) = 0
  · refine .inl ⟨none_, ?_⟩
    have same : (s.pendingActions.map fun act =>
        if answerable hash s.now act then { act with attempts := act.attempts + 1 }
        else act) = s.pendingActions := by
      refine (map_congr_left fun act mem => ?_).trans (map_id _)
      have not_ := countP_eq_zero.mp none_ act mem
      rw [if_neg not_]
      rfl
    simp only [none_, if_true, same]
  · refine .inr ⟨none_, by simp only [none_, if_false], ?_⟩
    obtain ⟨row, isRow, passes⟩ := countP_pos_iff.mp (Nat.pos_of_ne_zero none_)
    exact ⟨row, isRow, passes⟩

variable {hash : Sha256}

theorem mem_spendAttempt {row : PendingAction}
    (mem : row ∈ (spendAttempt i hash s).2.pendingActions) :
    ∃ old ∈ s.pendingActions,
      (answerable hash s.now old = true ∧ row = { old with attempts := old.attempts + 1 }) ∨
      (answerable hash s.now old = false ∧ row = old) := by
  obtain ⟨old, isOld, rfl⟩ := mem_map.mp mem
  refine ⟨old, isOld, ?_⟩
  cases test : answerable hash s.now old with
  | true => exact .inl ⟨rfl, by simp⟩
  | false => exact .inr ⟨rfl, by simp⟩

theorem ChallengeInv.spend (inv : ChallengeInv h expiry s) (i : Nat) (hash : Sha256) :
    ChallengeInv h expiry (spendAttempt i hash s).2 := by
  rcases spendAttempt_cases i hash s with ⟨-, same⟩ | ⟨-, log, row₀, isRow₀, answerable₀⟩
  · rw [same]
    exact inv
  · have history := historyOf_cons (h := h) log
    by_cases this_ : hash = h
    · subst this_
      rw [mfaHash, if_pos rfl] at history
      simp only [answerable, and_eq_true, decide_eq_true_eq] at answerable₀
      have isH₀ : isChallenge hash row₀ = true := by
        simp [isChallenge, answerable₀.1.1.1, answerable₀.1.1.2]
      obtain ⟨counted₀, expires₀⟩ := inv.rows row₀ isRow₀ isH₀
      have fewer : (spentBy (historyOf hash s)).length < MAX_MFA_ATTEMPTS :=
        lt_of_le_of_lt counted₀ answerable₀.2
      refine ⟨?_, ?_, ?_, ?_, ?_, ?_, ?_, ?_⟩
      · intro row mem isH
        rw [history, spentBy, length_cons]
        obtain ⟨old, isOld, ⟨test, rfl⟩ | ⟨test, rfl⟩⟩ := mem_spendAttempt mem
        · obtain ⟨cnt, expires⟩ := inv.rows old isOld isH
          exact ⟨by simpa using cnt, expires⟩
        · -- a row that may not be answered is out of attempts, for it expires with the other
          obtain ⟨cnt, expires⟩ := inv.rows row isOld isH
          refine ⟨?_, expires⟩
          simp only [isChallenge, and_eq_true, decide_eq_true_eq] at isH
          have live : s.now < row.expiresAt := by
            rw [expires, ← expires₀]
            exact answerable₀.1.2
          simp only [answerable, isH.1, isH.2, live, decide_true, Bool.true_and,
            decide_eq_false_iff_not] at test
          omega
      · rw [history, spentBy, length_cons]
        exact fewer
      · rw [history]
        exact inv.checkedOnce
      · rw [history]
        exact fun j mem => .tail _ (inv.checkedSpent mem)
      · intro j other at_ mem
        rw [history] at mem
        rcases mem_cons.mp mem with same | old
        · cases same
          rw [← expires₀]
          exact answerable₀.1.2
        · exact inv.inTime j other at_ old
      · rw [history]
        exact inv.claimedOnce
      · intro claimed
        rw [history] at claimed
        have gone := inv.claimedGone claimed row₀ isRow₀
        simp [isH₀] at gone
      · intro j other mem
        rw [history] at mem ⊢
        rcases mem_cons.mp mem with same | old
        · cases same
        · exact inv.stepped j other old
    · rw [mfaHash, if_neg this_] at history
      refine inv.of_same (fun row mem isH => ?_) history
      obtain ⟨old, isOld, ⟨test, rfl⟩ | ⟨-, rfl⟩⟩ := mem_spendAttempt mem
      · simp only [answerable, and_eq_true, decide_eq_true_eq] at test
        simp only [isChallenge, and_eq_true, decide_eq_true_eq] at isH
        exact absurd (test.1.1.1.symm.trans isH.1) this_
      · exact isOld

theorem spend_kept (inv : ChallengeInv h expiry s) (i : Nat) (hash : Sha256) :
    ChallengeInv h expiry (spendAttempt i hash s).2 ∧
      ∀ j, j ≠ i → ChallengeRely j s (spendAttempt i hash s).2 := by
  refine ⟨inv.spend i hash, ?_⟩
  rcases spendAttempt_cases i hash s with ⟨-, same⟩ | ⟨-, log, -⟩
  · rw [same]
    exact fun j _ => .refl j s
  · exact rely_of_event rfl log

theorem dropChallenge_leaves (hash : Sha256) (s : Store) :
    LeavesChallenge h s (dropChallenge hash s).2 :=
  ⟨fun _ mem _ => mem_of_mem_filter mem, rfl⟩

theorem ChallengeInv.answer (inv : ChallengeInv h expiry s) {i tok : Nat} (uid : Nat)
    (attempt : ∃ at_, .spent i (sha256 tok) at_ ∈ s.mfaLog)
    (unanswered : ∀ hash uid at_, .checked i hash uid at_ ∉ s.mfaLog) :
    ChallengeInv h expiry (answerPassedOn i tok uid s) := by
  have log : (answerPassedOn i tok uid s).mfaLog =
      .checked i (sha256 tok) uid s.now :: s.mfaLog := rfl
  have history := historyOf_cons (h := h) log
  by_cases this_ : sha256 tok = h
  · subst this_
    rw [mfaHash, if_pos rfl] at history
    refine ⟨?_, ?_, ?_, ?_, ?_, ?_, ?_, ?_⟩
    · rw [history]
      exact inv.rows
    · rw [history]
      exact inv.budget
    · rw [history, checkedBy]
      refine nodup_cons.mpr ⟨fun mem => ?_, inv.checkedOnce⟩
      obtain ⟨hash, otherUser, at_, ev⟩ := mem_checkedBy.mp mem
      exact unanswered hash otherUser at_ (mem_historyOf.mp ev).1
    · rw [history]
      obtain ⟨at_, spent⟩ := attempt
      have mem : .spent i (sha256 tok) at_ ∈ historyOf (sha256 tok) s :=
        mem_historyOf.mpr ⟨spent, rfl⟩
      exact cons_subset.mpr ⟨mem_spentBy.mpr ⟨_, at_, .tail _ mem⟩, inv.checkedSpent⟩
    · intro j hash at_ mem
      rw [history] at mem
      exact inv.inTime j hash at_ (mem_of_ne_of_mem (by simp) mem)
    · rw [history]
      exact inv.claimedOnce
    · rw [history]
      exact inv.claimedGone
    · intro j hash mem
      rw [history] at mem ⊢
      exact inv.stepped j hash (mem_of_ne_of_mem (by simp) mem)
  · rw [mfaHash, if_neg this_] at history
    exact inv.of_same (fun _ mem _ => mem) history

theorem claimChallenge_log (i : Nat) (hash : Sha256) (s : Store) :
    ((claimChallenge i hash s).1 ≠ 1 ∧ (claimChallenge i hash s).2.mfaLog = s.mfaLog) ∨
    ((claimChallenge i hash s).1 = 1 ∧
      (claimChallenge i hash s).2.mfaLog = .claimed i hash :: s.mfaLog) := by
  unfold claimChallenge
  by_cases one : (dropChallenge hash s).1 = 1
  · exact .inr ⟨one, by simp [one]⟩
  · exact .inl ⟨one, by simp [one]⟩

theorem mem_claimChallenge {row : PendingAction}
    (mem : row ∈ (claimChallenge i hash s).2.pendingActions) :
    row ∈ s.pendingActions ∧ isChallenge hash row = false := by
  have kept := mem_filter.mp mem
  exact ⟨kept.1, by simpa only [isChallenge, Bool.not_eq_true_eq_eq_false] using kept.2⟩

section

variable (inv : ChallengeInv h expiry s)

include inv

theorem ChallengeInv.claim (i : Nat) (hash : Sha256) :
    ChallengeInv h expiry (claimChallenge i hash s).2 := by
  have rows : ∀ row ∈ (claimChallenge i hash s).2.pendingActions,
      isChallenge h row = true → row ∈ s.pendingActions :=
    fun row mem _ => (mem_claimChallenge mem).1
  rcases claimChallenge_log i hash s with ⟨-, log⟩ | ⟨one, log⟩
  · exact inv.of_same rows (by rw [historyOf, historyOf, log])
  · have history := historyOf_cons (h := h) log
    by_cases this_ : hash = h
    · subst this_
      rw [mfaHash, if_pos rfl] at history
      have unclaimed : claimedBy (historyOf hash s) = [] := by
        by_contra claimed
        have count : s.pendingActions.countP (isChallenge hash) = 1 := one
        have positive : 0 < s.pendingActions.countP (isChallenge hash) := by omega
        obtain ⟨row, isRow, isH⟩ := countP_pos_iff.mp positive
        have gone := inv.claimedGone claimed row isRow
        simp [isH] at gone
      refine ⟨?_, ?_, ?_, ?_, ?_, ?_, ?_, ?_⟩
      · intro row mem isH
        have other := (mem_claimChallenge mem).2
        simp [isH] at other
      · rw [history]
        exact inv.budget
      · rw [history]
        exact inv.checkedOnce
      · rw [history]
        exact inv.checkedSpent
      · intro j other at_ mem
        rw [history] at mem
        exact inv.inTime j other at_ (mem_of_ne_of_mem (by simp) mem)
      · rw [history, claimedBy, unclaimed]
        exact le_rfl
      · exact fun _ row mem => (mem_claimChallenge mem).2
      · intro j other mem
        rw [history] at mem ⊢
        exact .tail _ (inv.stepped j other (mem_of_ne_of_mem (by simp) mem))
    · rw [mfaHash, if_neg this_] at history
      exact inv.of_same rows history

theorem ChallengeInv.record {i tok : Nat} (sid : Nat)
    (cacheDuration : Int) (claimed : .claimed i (sha256 tok) ∈ s.mfaLog) :
    ChallengeInv h expiry (recordMfaStepUp i tok sid cacheDuration s) := by
  have log : (recordMfaStepUp i tok sid cacheDuration s).mfaLog =
      .steppedUp i (sha256 tok) :: s.mfaLog := rfl
  have history := historyOf_cons (h := h) log
  by_cases this_ : sha256 tok = h
  · subst this_
    rw [mfaHash, if_pos rfl] at history
    refine ⟨?_, ?_, ?_, ?_, ?_, ?_, ?_, ?_⟩
    · rw [history]
      exact inv.rows
    · rw [history]
      exact inv.budget
    · rw [history]
      exact inv.checkedOnce
    · rw [history]
      exact inv.checkedSpent
    · intro j hash at_ mem
      rw [history] at mem
      exact inv.inTime j hash at_ (mem_of_ne_of_mem (by simp) mem)
    · rw [history]
      exact inv.claimedOnce
    · rw [history]
      exact inv.claimedGone
    · intro j hash mem
      rw [history] at mem ⊢
      rcases mem_cons.mp mem with same | old
      · cases same
        have mem : .claimed i (sha256 tok) ∈ historyOf (sha256 tok) s :=
          mem_historyOf.mpr ⟨claimed, rfl⟩
        exact mem_claimedBy.mpr ⟨_, .tail _ mem⟩
      · exact inv.stepped j hash old
  · rw [mfaHash, if_neg this_] at history
    exact inv.of_same (fun _ mem _ => mem) history

theorem claim_kept (i : Nat) (hash : Sha256) : ChallengeInv h expiry (claimChallenge i hash s).2 ∧
      ∀ j, j ≠ i → ChallengeRely j s (claimChallenge i hash s).2 := by
  refine ⟨inv.claim i hash, ?_⟩
  rcases claimChallenge_log i hash s with ⟨-, log⟩ | ⟨-, log⟩
  · exact fun j _ => ⟨[], log, by simp⟩
  · exact rely_of_event rfl log

end

/-- Nothing in the history is the work of request `i`. -/
def Quiet (i : Nat) (s : Store) : Prop := ∀ event ∈ s.mfaLog, mfaRequest event ≠ some i

theorem Quiet.stable (quiet : Quiet i s) (move : ChallengeRely i s s') : Quiet i s' := by
  obtain ⟨recent, log, foreign⟩ := move
  intro ev mem
  rw [log] at mem
  rcases mem_append.mp mem with new | old
  · exact foreign ev new
  · exact quiet ev old

/-- The request spent an attempt and its answer was not passed on yet. -/
structure Attempt (i : Nat) (hash : Sha256) (s : Store) : Prop where
  spent : ∃ at_, .spent i hash at_ ∈ s.mfaLog
  unanswered : ∀ other userId at_, .checked i other userId at_ ∉ s.mfaLog

theorem Attempt.stable (attempt : Attempt i hash s) (move : ChallengeRely i s s') :
    Attempt i hash s' := by
  obtain ⟨recent, log, foreign⟩ := move
  obtain ⟨at_, spent⟩ := attempt.spent
  refine ⟨⟨at_, log ▸ mem_append_right _ spent⟩, fun other uid time mem => ?_⟩
  rw [log] at mem
  rcases mem_append.mp mem with new | old
  · exact foreign _ new rfl
  · exact attempt.unanswered other uid time old

theorem Quiet.attempt {at_ : Int} (quiet : Quiet i s)
    (log : s'.mfaLog = .spent i hash at_ :: s.mfaLog) : Attempt i hash s' := by
  refine ⟨⟨at_, by simp [log]⟩, fun other uid time mem => ?_⟩
  rw [log] at mem
  exact quiet _ (mem_of_ne_of_mem (by simp) mem) rfl

theorem event_stable (mem : ev ∈ s.mfaLog) (move : ChallengeRely i s s') : ev ∈ s'.mfaLog := by
  obtain ⟨recent, log, -⟩ := move
  rw [log]
  exact mem_append_right _ mem

end Protocol

section Requests

variable {d : Deps} {h : Sha256} {expiry : Int} {i : Nat} {s : Store}
  {allowed : Store → Store → Prop}

/-- The request keeps the protocol of the challenge, and when it succeeds, `post` holds. -/
abbrev Kept (h : Sha256) (expiry : Int) (allowed : Store → Store → Prop) (i : Nat) {α : Type}
    (post : α → Store → Prop) (p : Op α) (s : Store) : Prop :=
  p.Sat (challengeProtocol h expiry) allowed i (onOk post) s

theorem validateMfa_kept (quiet : Quiet i s) (tok : Nat) :
    Kept h expiry allowed i (fun row t => row.isSome = true → Attempt i (sha256 tok) t)
      (validateMfaChallengeWithAttemptCheck i tok) s := by
  refine .atomic_bind fun t move inv _ => ?_
  obtain ⟨kept, os⟩ := spend_kept inv i (sha256 tok)
  refine ⟨kept, os, ?_⟩
  rcases spendAttempt_cases i (sha256 tok) t with ⟨zero, -⟩ | ⟨cnt, log, -⟩
  · rw [if_pos zero]
    refine .keeps_bind (.atomic (dropChallenge_leaves (h := h) _)) LeavesChallenge.respects ?_
      fun _ _ _ _ => trivial
    exact fun _ _ _ _ => .done fun _ _ _ hit => by cases hit
  · rw [if_neg cnt]
    have attempt := (quiet.stable move).attempt log
    refine .ofKeeps (.read (LeavesChallenge.refl h) _) LeavesChallenge.respects ?_
    intro r u later _
    cases r with
    | ok row => exact fun _ => attempt.stable later
    | error f => trivial

theorem verifySecondFactor_kept {tok : Nat} (attempt : Attempt i (sha256 tok) s) (uid : Nat)
    (input : SecondFactorInput) :
    Kept h expiry allowed i (fun _ _ => True) (verifySecondFactor d i tok uid input) s := by
  refine .modify_bind fun t move inv _ => ?_
  have here := attempt.stable move
  refine ⟨inv.answer uid here.spent here.unanswered, rely_of_event rfl rfl, ?_⟩
  refine .ofKeeps (checkAnswer_works uid input) ?_ fun r _ _ _ => by cases r <;> trivial
  exact fun u u' inv' work => LeavesChallenge.respects u u' inv' (checkWork_leaves work)

theorem consumeMfa_kept (tok : Nat) :
    Kept h expiry allowed i (fun consumed t => consumed = true → .claimed i (sha256 tok) ∈ t.mfaLog)
      (consumeMfaChallenge i tok) s := by
  refine .atomic_bind fun t move inv _ => ?_
  obtain ⟨kept, os⟩ := claim_kept inv i (sha256 tok)
  refine ⟨kept, os, .done fun u later _ consumed => ?_⟩
  rcases claimChallenge_log i (sha256 tok) t with ⟨several, -⟩ | ⟨-, log⟩
  · simp [several] at consumed
  · exact event_stable (log ▸ mem_cons_self) later

theorem reads_leave {α : Type} {p : Op α} (reads : p.Keeps Eq) : p.Keeps (LeavesChallenge h) :=
  reads.mono fun s _ same => same ▸ .refl h s

theorem handleMfaOtpGrant_kept (quiet : Quiet i s) (realm : Realm) (body : Body) :
    Kept h expiry allowed i
      (fun _ t => ∀ tok, body.mfa_token = some tok → .claimed i (sha256 tok) ∈ t.mfaLog)
      (handleMfaOtpGrant d i realm body) s := by
  refine .keeps_bind (reads_leave (h := h) (validateClient_reads d realm _ _ _))
    LeavesChallenge.respects ?_ fun _ _ _ _ => trivial
  intro _ s1 move1 _
  refine .orFail_bind (fun tok isToken => ?_) fun _ _ _ _ => trivial
  refine .orFail_bind (fun otp _ => ?_) fun _ _ _ _ => trivial
  refine .bind (.mono ?_ (validateMfa_kept (quiet.stable move1) tok))
  rintro (f | hit) s2 attempted
  · trivial
  refine .orFail_bind (fun chal isChallenge => ?_) fun _ _ _ _ => trivial
  have attempt : Attempt i (sha256 tok) s2 := attempted (by rw [isChallenge]; rfl)
  refine .require_bind (fun _ => ?_) fun _ _ _ _ => trivial
  refine .require_bind (fun _ => ?_) fun _ _ _ _ => trivial
  refine .bind (.mono ?_ (verifySecondFactor_kept attempt chal.userId _))
  rintro (f | verified) s3 -
  · trivial
  refine .orFail_bind (fun factor _ => ?_) fun _ _ _ _ => trivial
  refine .bind (.mono ?_ (consumeMfa_kept tok))
  rintro (f | consumed) s4 claimed
  · trivial
  refine .require_bind (fun isConsumed => ?_) fun _ _ _ _ => trivial
  have mine : .claimed i (sha256 tok) ∈ s4.mfaLog := claimed isConsumed
  refine .read_bind fun s5 move5 _ => ?_
  refine .orFail_bind (fun u _ => ?_) fun _ _ _ _ => trivial
  refine .ofKeeps ((startSession_works d _ _ _).mono fun _ _ work => sessionWork_leaves (h := h) work)
    LeavesChallenge.respects ?_
  intro r t move6 _
  cases r with
  | error f => trivial
  | ok ans =>
    intro tok' isToken'
    rw [isToken] at isToken'
    cases isToken'
    exact event_stable (event_stable mine move5) move6

theorem totpRateLimitBlocks_reads (r : Realm) (uid : Nat) :
    (totpRateLimitBlocks r uid).Keeps Eq := by
  unfold totpRateLimitBlocks
  split
  · trivial
  · exact .bind (.read (fun _ => rfl) _) fun _ => trivial

theorem refuseWrongAnswer_leaves (r : Realm) (uid : Nat) (verified : Option VerifiedFactor) :
    (refuseWrongAnswer r uid verified).Keeps (LeavesChallenge h) := by
  cases verified with
  | some factor => trivial
  | none =>
    refine .bind ?_ fun _ => trivial
    unfold recordTotpFailure
    split
    · trivial
    refine .bind (.modify fun _ => ⟨fun _ mem _ => mem, rfl⟩) fun _ =>
      .bind (.read (.refl h) _) fun failures => ?_
    split
    · exact .bind (.read (.refl h) _) fun now =>
        .bind (.atomic fun _ => ⟨fun _ mem _ => mem, rfl⟩) fun _ => .require _ _
    · trivial

theorem verifyMfa_kept (quiet : Quiet i s) (r : Realm) (body : VerifyBody) (u : User)
    (sid : Nat) (cacheDuration : Int) : Kept h expiry allowed i
      (fun _ t => ∀ tok, body.mfa_token = some tok → .claimed i (sha256 tok) ∈ t.mfaLog)
      (verifyMfa d i r body u sid cacheDuration) s := by
  refine .orFail_bind (fun tok isToken => ?_) fun _ _ _ _ => trivial
  refine .orFail_bind (fun otp _ => ?_) fun _ _ _ _ => trivial
  refine .bind (.mono ?_ (validateMfa_kept quiet tok))
  rintro (f | hit) s1 attempted
  · trivial
  refine .orFail_bind (fun chal isChallenge => ?_) fun _ _ _ _ => trivial
  have attempt : Attempt i (sha256 tok) s1 := attempted (by rw [isChallenge]; rfl)
  refine .require_bind (fun _ => ?_) fun _ _ _ _ => trivial
  refine .require_bind (fun _ => ?_) fun _ _ _ _ => trivial
  refine .keeps_bind (reads_leave (h := h) (totpRateLimitBlocks_reads r _))
    LeavesChallenge.respects ?_ fun _ _ _ _ => trivial
  intro blocked s2 move2 _
  refine .require_bind (fun _ => ?_) fun _ _ _ _ => trivial
  refine .bind (.mono ?_ (verifySecondFactor_kept (attempt.stable move2) chal.userId _))
  rintro (f | verified) s3 -
  · trivial
  refine .keeps_bind (refuseWrongAnswer_leaves (h := h) r _ verified) LeavesChallenge.respects ?_
    fun _ _ _ _ => trivial
  intro factor s4 _ _
  refine .bind (.mono ?_ (consumeMfa_kept tok))
  rintro (f | consumed) s5 claimed
  · trivial
  refine .require_bind (fun isConsumed => ?_) fun _ _ _ _ => trivial
  have mine : .claimed i (sha256 tok) ∈ s5.mfaLog := claimed isConsumed
  refine .keeps_bind (K := LeavesChallenge h) (.modify fun _ => ⟨fun _ mem _ => mem, rfl⟩)
    LeavesChallenge.respects ?_ fun _ _ _ _ => trivial
  intro _ s6 move6 _
  refine .keeps_bind (K := LeavesChallenge h) (.modify fun _ => ⟨fun _ mem _ => mem, rfl⟩)
    LeavesChallenge.respects ?_ fun _ _ _ _ => trivial
  intro _ s7 move7 _
  refine .modify_bind fun s8 move8 inv8 _ => ?_
  have mine8 : .claimed i (sha256 tok) ∈ s8.mfaLog :=
    event_stable (event_stable (event_stable mine move6) move7) move8
  refine ⟨inv8.record sid cacheDuration mine8, rely_of_event rfl rfl, .done ?_⟩
  intro t move9 _ tok' isToken'
  rw [isToken] at isToken'
  cases isToken'
  exact event_stable (.tail _ mine8) move9

theorem verify_kept (verifiers : Verifiers) (quiet : Quiet i s) (r : Realm)
    (sessionToken : Option Nat) {body : VerifyBody} (isMfa : body.acr = some ACR_MFA) :
    Kept h expiry allowed i
      (fun _ t => ∀ tok, body.mfa_token = some tok → .claimed i (sha256 tok) ∈ t.mfaLog)
      (verify d verifiers i r sessionToken body) s := by
  refine .orFail_bind (fun sess _ => ?_) fun _ _ _ _ => trivial
  refine .orFail_bind (fun acr isAcr => ?_) fun _ _ _ _ => trivial
  refine .orFail_bind (fun cid _ => ?_) fun _ _ _ _ => trivial
  refine .keeps_bind (reads_leave (h := h) (validateLoginSession_reads r sess))
    LeavesChallenge.respects ?_ fun _ _ _ _ => trivial
  intro known s1 move1 _
  refine .orFail_bind (fun u _ => ?_) fun _ _ _ _ => trivial
  refine .read_bind fun s2 move2 _ => ?_
  refine .orFail_bind (fun loginSession _ => ?_) fun _ _ _ _ => trivial
  refine .read_bind fun s3 move3 _ => ?_
  refine .orFail_bind (fun c _ => ?_) fun _ _ _ _ => trivial
  have level : acr = ACR_MFA := by
    rw [isMfa] at isAcr
    exact (some.inj isAcr).symm
  rw [if_pos level]
  exact verifyMfa_kept (((quiet.stable move1).stable move2).stable move3) r body u _ _

theorem getMfaChallenge_reads (tok : Nat) : (getMfaChallenge tok).Keeps Eq :=
  .bind (.read (fun _ => rfl) _) fun _ => .bind (.read (fun _ => rfl) _) fun _ => trivial

theorem cleanupExpiredActions_leaves : cleanupExpiredActions.Keeps (LeavesChallenge h) :=
  .bind (.modify fun _ => ⟨fun _ mem _ => mem_of_mem_filter mem, rfl⟩) fun _ =>
    .modify fun _ => ⟨fun _ mem _ => mem, rfl⟩

end Requests

section Runs

inductive Request where
  | grant (realm : Realm) (body : Body)
  /-- A verification at the level of a second factor. -/
  | stepUp (realm : Realm) (sessionToken : Option Nat) (body : VerifyBody)
  | look (token : Nat)
  | cleanup

inductive Reply where
  | tokens (response : TokenResponse)
  | verified (answer : VerifyAnswer)
  | challenge (found : Option PendingAction)
  | cleaned

def handle (d : Deps) (verifiers : Verifiers) (i : Nat) : Request → Op Reply
  | .grant realm body => do
    let response ← handleMfaOtpGrant d i realm body
    pure (.tokens response)
  | .stepUp realm sessionToken body => do
    let answer ← verify d verifiers i realm sessionToken { body with acr := some ACR_MFA }
    pure (.verified answer)
  | .look token => do
    let found ← getMfaChallenge token
    pure (.challenge found)
  | .cleanup => do
    cleanupExpiredActions
    pure .cleaned

def Request.token : Request → Option Nat
  | .grant _ body => body.mfa_token
  | .stepUp _ _ body => body.mfa_token
  | .look _ | .cleanup => none

/-- All requests, about to start on the store `s`. -/
def pool (d : Deps) (verifiers : Verifiers) (requests : Nat → Request) (s : Store) :
    Pool Nat Store Failure Reply :=
  ⟨s, fun i => handle d verifiers i (requests i)⟩

/-- Any order of the steps of all requests and of the rest of the server. -/
def Reaches (h : Sha256) (c c' : Pool Nat Store Failure Reply) : Prop :=
  Pool.Reaches (LeavesChallenge h) (fun _ _ => True) c c'

/-- Request `i` returned tokens for the challenge or recorded a step-up for it. -/
def Completed (requests : Nat → Request) (h : Sha256) (c : Pool Nat Store Failure Reply) (i : Nat) :
    Prop :=
  (∃ token response, (requests i).token = some token ∧ sha256 token = h ∧
    c.procs i = .done (.tokens response)) ∨ .steppedUp i h ∈ c.state.mfaLog

variable {d : Deps} {verifiers : Verifiers} {h : Sha256} {expiry : Int} {i : Nat} {s : Store}
  {allowed : Store → Store → Prop}

def RepliesRight (i : Nat) (req : Request) (reply : Reply) (s : Store) : Prop :=
  ∀ token response, req.token = some token → reply = .tokens response →
    .claimed i (sha256 token) ∈ s.mfaLog

theorem handle_kept (quiet : Quiet i s) (req : Request) :
    Kept h expiry allowed i (RepliesRight i req) (handle d verifiers i req) s := by
  cases req with
  | grant r body =>
    refine .bind (.mono ?_ (handleMfaOtpGrant_kept quiet r body))
    rintro (f | res) t claimed
    · trivial
    · exact .done fun u later _ tok _ isToken _ => event_stable (claimed tok isToken) later
  | stepUp r sessionToken body =>
    refine .bind (.mono ?_ (verify_kept verifiers quiet r sessionToken rfl))
    rintro (f | ans) t _
    · trivial
    · exact .done fun u _ _ tok _ _ same => by cases same
  | look tok =>
    refine .keeps_bind (reads_leave (h := h) (getMfaChallenge_reads tok))
      LeavesChallenge.respects ?_ fun _ _ _ _ => trivial
    exact fun _ _ _ _ => .done fun u _ _ tok _ _ same => by cases same
  | cleanup =>
    refine .keeps_bind (cleanupExpiredActions_leaves (h := h)) LeavesChallenge.respects ?_
      fun _ _ _ _ => trivial
    exact fun _ _ _ _ => .done fun u _ _ tok _ _ same => by cases same

theorem ChallengeInv.initial {chal : PendingAction} (noLog : s.mfaLog = [])
    (unique : ∀ row ∈ s.pendingActions, row.tokenHash = chal.tokenHash → row = chal) :
    ChallengeInv chal.tokenHash chal.expiresAt s := by
  have history : historyOf chal.tokenHash s = [] := by simp [historyOf, noLog]
  refine ⟨?_, ?_, ?_, ?_, ?_, ?_, ?_, ?_⟩
  · intro row isRow isH
    simp only [isChallenge, and_eq_true, decide_eq_true_eq] at isH
    rw [unique row isRow isH.1]
    simp [history, spentBy]
  all_goals simp [history, spentBy, checkedBy, claimedBy]

section

variable (inv : ChallengeInv h expiry s)

include inv

theorem ChallengeInv.answers_le : (checkedBy (historyOf h s)).length ≤ MAX_MFA_ATTEMPTS :=
  (Nodup.subperm inv.checkedOnce inv.checkedSpent).length_le.trans inv.budget

theorem ChallengeInv.answered_in_time {uid : Nat} {at_ : Int}
    (checked : .checked i h uid at_ ∈ s.mfaLog) :
    ∃ spentAt, .spent i h spentAt ∈ s.mfaLog ∧ spentAt < expiry := by
  have mem : i ∈ checkedBy (historyOf h s) :=
    mem_checkedBy.mpr ⟨h, uid, at_, mem_historyOf.mpr ⟨checked, rfl⟩⟩
  obtain ⟨hash, spentAt, spent⟩ := mem_spentBy.mp (inv.checkedSpent mem)
  obtain ⟨isEvent, rfl⟩ := mem_historyOf.mp spent
  exact ⟨spentAt, isEvent, inv.inTime i hash spentAt spent⟩

theorem ChallengeInv.claim_unique {j : Nat}
    (first : i ∈ claimedBy (historyOf h s)) (snd : j ∈ claimedBy (historyOf h s)) : i = j := by
  have once := inv.claimedOnce
  generalize claimedBy (historyOf h s) = claims at once first snd
  match claims with
  | [] => cases first
  | [only] => rw [mem_singleton.mp first, mem_singleton.mp snd]
  | _ :: _ :: _ => simp at once

end

/-- However grants, verifications, reads and clean-ups interleave: at most five answers to a
challenge are passed on, each by a request that spent an attempt before the challenge expired,
and at most one request completes. -/
theorem mfa_challenge_budget (d : Deps) (verifiers : Verifiers) (reqs : Nat → Request)
    (s : Store) (chal : PendingAction)
    (unique : ∀ row ∈ s.pendingActions, row.tokenHash = chal.tokenHash → row = chal)
    (noLog : s.mfaLog = []) (c : Pool Nat Store Failure Reply)
    (reached : Reaches chal.tokenHash (pool d verifiers reqs s) c) :
    (checkedBy (historyOf chal.tokenHash c.state)).length ≤ MAX_MFA_ATTEMPTS ∧
    (∀ i uid at_, .checked i chal.tokenHash uid at_ ∈ c.state.mfaLog →
      ∃ spentAt, .spent i chal.tokenHash spentAt ∈ c.state.mfaLog ∧ spentAt < chal.expiresAt) ∧
    (∀ i j, Completed reqs chal.tokenHash c i → Completed reqs chal.tokenHash c j → i = j) := by
  have init := ChallengeInv.initial noLog unique
  have threads : ∀ i, Kept chal.tokenHash chal.expiresAt (fun _ _ => True) i
      (RepliesRight i (reqs i)) (handle d verifiers i (reqs i)) s :=
    fun i => handle_kept (fun ev mem => by simp [noLog] at mem) (reqs i)
  have inv : ChallengeInv chal.tokenHash chal.expiresAt c.state :=
    (sound init threads LeavesChallenge.respects reached).1
  have claims : ∀ i, Completed reqs chal.tokenHash c i →
      i ∈ claimedBy (historyOf chal.tokenHash c.state) := by
    rintro i (⟨tok, res, isToken, isHash, done_⟩ | recorded)
    · have claimed := sound_done init threads LeavesChallenge.respects reached done_ tok
        res isToken rfl
      rw [isHash] at claimed
      exact mem_claimedBy.mpr ⟨_, mem_historyOf.mpr ⟨claimed, rfl⟩⟩
    · exact inv.stepped i _ (mem_historyOf.mpr ⟨recorded, rfl⟩)
  refine ⟨inv.answers_le, fun i uid at_ checked => inv.answered_in_time checked, ?_⟩
  intro i j first snd
  exact inv.claim_unique (claims i first) (claims j snd)

end Runs

section Example

def lateRealm : Realm := { id := 1, name := "acme" }

def lateChallenge : PendingAction :=
  { id := 8, tokenHash := sha256 7, type := .mfaChallenge, userId := 2, realmId := 1,
    clientId := some "app", expiresAt := 300000, createdAt := 0 }

def lateStore : Store where
  now := 299999
  supply := 10
  users := [{ id := 2, realmId := 1, username := "alice" }]
  clients :=
    [{ id := 3, realmId := 1, clientId := "app", clientType := .PUBLIC, grantTypes := ["password"] }]
  signingKeys := [{ id := 4, realmId := 1, createdAt := 0 }]
  userCredentials := [{ userId := 2, type := .totp, secretKey := "123456", verified := true }]
  pendingActions := [lateChallenge]

def lateRequests : Nat → Request
  | 0 => .grant lateRealm { client_id := some "app", mfa_token := some 7, otp := some "123456" }
  | _ => .look 7

def noVerifiers : Verifiers where
  validateCredentials _ _ _ := Prog.fail .internal
  verifyAuthentication _ _ := Prog.fail .internal

def latePool : Pool Nat Store Failure Reply :=
  pool .transparent noVerifiers lateRequests lateStore

def spentInTime : Pool Nat Store Failure Reply := latePool.schedule [0, 0, 0]

def lateAnswer : Pool Nat Store Failure Reply :=
  (⟨{ spentInTime.state with now := 300001 }, spentInTime.procs⟩ :
    Pool Nat Store Failure Reply).runOne 0

theorem lateAnswer_reached : Reaches (sha256 7) latePool lateAnswer := by
  have first : Reaches (sha256 7) latePool spentInTime := reaches_schedule rfl
  have clock : Pool.Step (LeavesChallenge (sha256 7)) (fun _ _ => True) spentInTime
      ⟨{ spentInTime.state with now := 300001 }, spentInTime.procs⟩ :=
    .env ⟨fun _ mem _ => mem, rfl⟩
  exact first.trans (.head clock (reaches_runOne (fun _ _ => trivial) _ 0))

theorem lateChallenge_unique :
    ∀ row ∈ lateStore.pendingActions, row.tokenHash = lateChallenge.tokenHash → row = lateChallenge := by
  simp [lateStore]

theorem mfa_challenge_budget_lateAnswer : (∃ res, lateAnswer.procs 0 = .done (.tokens res)) ∧
      (checkedBy (historyOf (sha256 7) lateAnswer.state)).length ≤ MAX_MFA_ATTEMPTS :=
  ⟨⟨_, rfl⟩, (mfa_challenge_budget .transparent noVerifiers lateRequests lateStore lateChallenge
    lateChallenge_unique rfl lateAnswer lateAnswer_reached).1⟩

/-- An answer is checked after the challenge expired, when its attempt was spent just before. -/
theorem late_answer_is_checked :
    ¬ ∀ (d : Deps) (verifiers : Verifiers) (reqs : Nat → Request) (s : Store)
      (chal : PendingAction),
      (∀ row ∈ s.pendingActions, row.tokenHash = chal.tokenHash → row = chal) →
      s.mfaLog = [] → ∀ c, Reaches chal.tokenHash (pool d verifiers reqs s) c →
      ∀ i uid at_, .checked i chal.tokenHash uid at_ ∈ c.state.mfaLog → at_ ≤ chal.expiresAt := by
  intro all
  have late := all .transparent noVerifiers lateRequests lateStore lateChallenge lateChallenge_unique
    rfl lateAnswer lateAnswer_reached 0 2 300001 (by decide +kernel)
  exact absurd late (by decide)

end Example

end Idenplane.StepUp
