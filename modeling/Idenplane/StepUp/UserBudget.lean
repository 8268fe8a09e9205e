import Idenplane.StepUp.Challenges

/-! # All challenges of a user

Challenges are created at a limited rate: the rows of the last five minutes are counted before
another one is created.  Calls are made one after the other, at any times.
-/

namespace Idenplane.StepUp

open Atomic Auth List Prod

/-- The window of the limit, which is also how long a challenge lives. -/
def challengeWindow : Int := MFA_CHALLENGE_RATE_LIMIT_WINDOW_SECONDS * 1000

variable {hash : Sha256}

section Runs

/-- A call of `MfaService`, or a pause. -/
inductive Call where
  | create (userId realmId : Nat) (clientId : Option String)
  | validate (req token : Nat)
  | consume (req token : Nat)
  | cleanup
  | wait (milliseconds : Nat)

def perform (s : Store) : Call → Store
  | .create userId realmId clientId => ((createMfaChallenge userId realmId clientId).run s).2
  | .validate req token => ((validateMfaChallengeWithAttemptCheck req token).run s).2
  | .consume req token => ((consumeMfaChallenge req token).run s).2
  | .cleanup => (cleanupExpiredActions.run s).2
  | .wait milliseconds => { s with now := s.now + milliseconds }

def performAll (s : Store) (calls : List Call) : Store := calls.foldl perform s

/-- The call deletes no challenge of the user that has not expired: it is not one more answer to
a challenge without attempts, and it does not complete one. -/
def Gentle (userId : Nat) (s : Store) : Call → Prop
  | .validate _ token => ∀ row ∈ s.pendingActions, isChallenge (sha256 token) row = true →
      row.userId = userId → s.now < row.expiresAt → row.attempts < MAX_MFA_ATTEMPTS
  | .consume _ token => ∀ row ∈ s.pendingActions, isChallenge (sha256 token) row = true →
      row.userId = userId → row.expiresAt ≤ s.now
  | .create _ _ _ | .cleanup | .wait _ => True

def GentleRun (userId : Nat) : Store → List Call → Prop
  | _, [] => True
  | s, call :: calls => Gentle userId s call ∧ GentleRun userId (perform s call) calls

instance (userId : Nat) (s : Store) : (call : Call) → Decidable (Gentle userId s call)
  | .validate _ token => inferInstanceAs (Decidable (∀ row ∈ s.pendingActions,
      isChallenge (sha256 token) row = true → row.userId = userId → s.now < row.expiresAt →
      row.attempts < MAX_MFA_ATTEMPTS))
  | .consume _ token => inferInstanceAs (Decidable (∀ row ∈ s.pendingActions,
      isChallenge (sha256 token) row = true → row.userId = userId → row.expiresAt ≤ s.now))
  | .create _ _ _ | .cleanup | .wait _ => .isTrue trivial

instance GentleRun.decidable (userId : Nat) :
    (s : Store) → (calls : List Call) → Decidable (GentleRun userId s calls)
  | _, [] => .isTrue trivial
  | s, call :: calls =>
    have := GentleRun.decidable userId (perform s call) calls
    inferInstanceAs (Decidable (Gentle userId s call ∧ GentleRun userId (perform s call) calls))

def storedWithin (userId : Nat) (a b : Int) (row : PendingAction) : Bool :=
  row.type = .mfaChallenge && row.userId = userId && a ≤ row.createdAt && row.createdAt ≤ b

def creation (userId : Nat) : MfaEvent → Option (Sha256 × Int)
  | .created hash user at_ => if user = userId then some (hash, at_) else none
  | _ => none

def creations (userId : Nat) (log : List MfaEvent) : List (Sha256 × Int) :=
  log.filterMap (creation userId)

/-- How many challenges were created for the user between two times. -/
def createdWithin (userId : Nat) (a b : Int) (log : List MfaEvent) : Nat :=
  (creations userId log).countP fun made => a ≤ made.2 && made.2 ≤ b

def spentWithin (hashes : List Sha256) (a b : Int) : MfaEvent → Bool
  | .spent _ hash at_ => a ≤ at_ && at_ ≤ b && hashes.contains hash
  | _ => false

/-- How many answers for the user went on to be checked between two times: one for each attempt
that was spent at one of the user's challenges. -/
def answersWithin (userId : Nat) (a b : Int) (log : List MfaEvent) : Nat :=
  log.countP (spentWithin ((creations userId log).map Prod.fst) a b)

theorem mem_creations {uid : Nat} {log : List MfaEvent} {at_ : Int} :
    (hash, at_) ∈ creations uid log ↔ .created hash uid at_ ∈ log := by
  rw [creations, mem_filterMap]
  constructor
  · rintro ⟨event, mem, isCreation⟩
    cases event with
    | created other u time =>
      rw [creation] at isCreation
      split at isCreation
      · cases isCreation
        simp_all
      · cases isCreation
    | spent | checked | claimed | steppedUp => cases isCreation
  · exact fun mem => ⟨_, mem, by simp [creation]⟩

end Runs

section Invariant

structure SameRow (row row' : PendingAction) : Prop where
  type : row'.type = row.type
  tokenHash : row'.tokenHash = row.tokenHash
  userId : row'.userId = row.userId
  createdAt : row'.createdAt = row.createdAt

theorem SameRow.refl (row : PendingAction) : SameRow row row := ⟨rfl, rfl, rfl, rfl⟩

structure UserInv (s : Store) : Prop where
  drawn : ∀ event ∈ s.mfaLog, ∃ k < s.supply, mfaHash event = sha256 k
  rows : ∀ row ∈ s.pendingActions, row.type = .mfaChallenge →
    .created row.tokenHash row.userId row.createdAt ∈ s.mfaLog
  past : ∀ hash userId at_, .created hash userId at_ ∈ s.mfaLog →
    at_ ≤ s.now ∧ ChallengeInv hash (at_ + challengeWindow) s
  order : ∀ hash userId at_, .created hash userId at_ ∈ s.mfaLog →
    ∀ req time, .spent req hash time ∈ s.mfaLog → at_ ≤ time
  once : ∀ userId, ((creations userId s.mfaLog).map Prod.fst).Nodup
  stored : ∀ userId a b, b < a + challengeWindow →
    s.pendingActions.countP (storedWithin userId a b) ≤ MFA_CHALLENGE_RATE_LIMIT_MAX_REQUESTS

def IsUse (s : Store) (event : MfaEvent) : Prop :=
  ∃ row ∈ s.pendingActions, row.type = .mfaChallenge ∧ ∃ req,
    event = .spent req row.tokenHash s.now ∨ event = .claimed req row.tokenHash

structure Uses (s s' : Store) : Prop where
  clock : s.now ≤ s'.now
  supply : s'.supply = s.supply
  rows : ∀ row ∈ s'.pendingActions, ∃ old ∈ s.pendingActions, SameRow old row
  fewer : ∀ userId a b, s'.pendingActions.countP (storedWithin userId a b) ≤
    s.pendingActions.countP (storedWithin userId a b)
  log : ∃ recent, s'.mfaLog = recent ++ s.mfaLog ∧ ∀ event ∈ recent, IsUse s event
  challenges : ∀ h expiry, ChallengeInv h expiry s → ChallengeInv h expiry s'

variable {s s' : Store} {uid : Nat} {recent log : List MfaEvent}

theorem creations_uses (uses : ∀ ev ∈ recent, IsUse s ev) :
    creations uid (recent ++ log) = creations uid log := by
  have none_ : recent.filterMap (creation uid) = [] := by
    rw [filterMap_eq_nil_iff]
    intro ev mem
    obtain ⟨row, -, -, req, rfl | rfl⟩ := uses ev mem <;> rfl
  rw [creations, creations, filterMap_append, none_, nil_append]

theorem created_of_uses (uses : ∀ ev ∈ recent, IsUse s ev) {at_ : Int} (mem : .created hash uid at_ ∈ recent ++ log) :
    .created hash uid at_ ∈ log := by
  rw [← mem_creations] at mem ⊢
  rwa [creations_uses uses] at mem

theorem UserInv.uses (inv : UserInv s) (uses : Uses s s') : UserInv s' := by
  obtain ⟨recent, log, isUse⟩ := uses.log
  refine ⟨?_, ?_, ?_, ?_, ?_, ?_⟩
  · intro ev mem
    rw [log] at mem
    rw [uses.supply]
    rcases mem_append.mp mem with new | old
    · obtain ⟨row, isRow, isType, req, isEvent⟩ := isUse ev new
      have known := inv.drawn _ (inv.rows row isRow isType)
      rcases isEvent with rfl | rfl
      · exact known
      · exact known
    · exact inv.drawn ev old
  · intro row isRow isType
    obtain ⟨old, isOld, same⟩ := uses.rows row isRow
    rw [log, same.tokenHash, same.userId, same.createdAt]
    exact mem_append_right _ (inv.rows old isOld (same.type ▸ isType))
  · intro hash u at_ mem
    rw [log] at mem
    obtain ⟨pre, chal⟩ := inv.past hash u at_ (created_of_uses isUse mem)
    exact ⟨pre.trans uses.clock, uses.challenges _ _ chal⟩
  · intro hash u at_ mem req time spent
    rw [log] at mem spent
    have made := created_of_uses isUse mem
    rcases mem_append.mp spent with new | old
    · obtain ⟨row, -, -, other, same | same⟩ := isUse _ new
      · cases same
        exact (inv.past _ u at_ made).1
      · cases same
    · exact inv.order hash u at_ made req time old
  · intro u
    rw [log, creations_uses isUse]
    exact inv.once u
  · exact fun u a b span => (uses.fewer u a b).trans (inv.stored u a b span)

def challengeCreated (userId realmId : Nat) (clientId : Option String) (s : Store) : Store :=
  { s with
    supply := s.supply + 2
    mfaLog := .created (sha256 s.supply) userId s.now :: s.mfaLog
    pendingActions :=
      { id := s.supply + 1, tokenHash := sha256 s.supply, type := .mfaChallenge,
        userId := userId, realmId := realmId, clientId := clientId,
        expiresAt := s.now + challengeWindow, createdAt := s.now } :: s.pendingActions }

def recentChallenge (userId : Nat) (s : Store) (action : PendingAction) : Bool :=
  action.type = .mfaChallenge && action.userId = userId &&
    s.now - challengeWindow ≤ action.createdAt

theorem createMfaChallenge_cases (s : Store) (uid rid : Nat) (cid : Option String) :
    ((createMfaChallenge uid rid cid).run s).2 = s ∨
    (s.pendingActions.countP (recentChallenge uid s) < MFA_CHALLENGE_RATE_LIMIT_MAX_REQUESTS ∧
      ((createMfaChallenge uid rid cid).run s).2 = challengeCreated uid rid cid s) := by
  change ((require (decide (s.pendingActions.countP (recentChallenge uid s) <
    MFA_CHALLENGE_RATE_LIMIT_MAX_REQUESTS)) _ >>= _).run s).2 = s ∨ _
  by_cases room : s.pendingActions.countP (recentChallenge uid s) <
      MFA_CHALLENGE_RATE_LIMIT_MAX_REQUESTS
  · refine .inr ⟨room, ?_⟩
    change ((require (decide (s.pendingActions.countP (recentChallenge uid s) <
      MFA_CHALLENGE_RATE_LIMIT_MAX_REQUESTS)) _ >>= _).run s).2 = _
    rw [decide_eq_true room]
    rfl
  · rw [decide_eq_false room]
    exact .inl rfl

theorem validate_cases (s : Store) (req tok : Nat) : ((spendAttempt req (sha256 tok) s).1 = 0 ∧
      ((validateMfaChallengeWithAttemptCheck req tok).run s).2 =
        (dropChallenge (sha256 tok) s).2) ∨ ((spendAttempt req (sha256 tok) s).1 ≠ 0 ∧
      ((validateMfaChallengeWithAttemptCheck req tok).run s).2 =
        (spendAttempt req (sha256 tok) s).2) := by
  unfold validateMfaChallengeWithAttemptCheck
  rw [run_atomic_bind]
  rcases spendAttempt_cases req (sha256 tok) s with ⟨zero, same⟩ | ⟨cnt, -⟩
  · refine .inl ⟨zero, ?_⟩
    rw [if_pos zero, same]
    rfl
  · refine .inr ⟨cnt, ?_⟩
    rw [if_neg cnt]
    rfl

theorem uses_drop (s : Store) (hash : Sha256) : Uses s (dropChallenge hash s).2 where
  clock := le_rfl
  supply := rfl
  rows := fun row mem => ⟨row, mem_of_mem_filter mem, .refl row⟩
  fewer := fun _ _ _ => filter_sublist.countP_le
  log := ⟨[], rfl, by simp⟩
  challenges := fun _ _ inv => (LeavesChallenge.respects _ _ inv (dropChallenge_leaves hash s)).1

theorem uses_spend {req : Nat} (cnt : (spendAttempt req hash s).1 ≠ 0) :
    Uses s (spendAttempt req hash s).2 where
  clock := le_rfl
  supply := rfl
  rows := by
    intro row mem
    obtain ⟨old, isOld, ⟨-, rfl⟩ | ⟨-, rfl⟩⟩ := mem_spendAttempt mem
    · exact ⟨old, isOld, ⟨rfl, rfl, rfl, rfl⟩⟩
    · exact ⟨row, isOld, .refl row⟩
  fewer := by
    intro u a b
    simp only [spendAttempt, countP_map]
    refine le_of_eq (countP_congr fun row _ => ?_)
    simp only [comp_apply]
    split <;> rfl
  log := by
    rcases spendAttempt_cases req hash s with ⟨zero, -⟩ | ⟨-, log, row, isRow, passes⟩
    · exact absurd zero cnt
    · refine ⟨[.spent req hash s.now], log, fun ev mem => ?_⟩
      simp only [answerable, and_eq_true, decide_eq_true_eq] at passes
      rw [mem_singleton.mp mem]
      exact ⟨row, isRow, passes.1.1.2, req, .inl (by rw [passes.1.1.1])⟩
  challenges := fun _ _ inv => inv.spend req hash

theorem uses_claim (s : Store) (req : Nat) (hash : Sha256) :
    Uses s (claimChallenge req hash s).2 where
  clock := le_rfl
  supply := rfl
  rows := fun row mem => ⟨row, (mem_claimChallenge mem).1, .refl row⟩
  fewer := fun _ _ _ => filter_sublist.countP_le
  log := by
    rcases claimChallenge_log req hash s with ⟨-, log⟩ | ⟨one, log⟩
    · exact ⟨[], log, by simp⟩
    · refine ⟨[.claimed req hash], log, fun ev mem => ?_⟩
      have count : s.pendingActions.countP (isChallenge hash) = 1 := one
      have positive : 0 < s.pendingActions.countP (isChallenge hash) := by omega
      obtain ⟨row, isRow, passes⟩ := countP_pos_iff.mp positive
      simp only [isChallenge, and_eq_true, decide_eq_true_eq] at passes
      rw [mem_singleton.mp mem]
      exact ⟨row, isRow, passes.2, req, .inr (by rw [passes.1])⟩
  challenges := fun _ _ inv => inv.claim req hash

theorem uses_cleanup (s : Store) : Uses s (cleanupExpiredActions.run s).2 where
  clock := le_rfl
  supply := rfl
  rows := fun row mem => ⟨row, mem_of_mem_filter mem, .refl row⟩
  fewer := fun _ _ _ => filter_sublist.countP_le
  log := ⟨[], rfl, by simp⟩
  challenges := fun _ _ inv => inv.of_same (fun _ mem _ => mem_of_mem_filter mem) rfl

theorem uses_wait (s : Store) (milliseconds : Nat) :
    Uses s { s with now := s.now + milliseconds } where
  clock := by simp
  supply := rfl
  rows := fun row mem => ⟨row, mem, .refl row⟩
  fewer := fun _ _ _ => le_rfl
  log := ⟨[], rfl, by simp⟩
  challenges := fun _ _ inv => inv.of_same (fun _ mem _ => mem) rfl

section

variable (inv : UserInv s)

include inv

theorem UserInv.fresh {ev : MfaEvent} (mem : ev ∈ s.mfaLog) : mfaHash ev ≠ sha256 s.supply := by
  obtain ⟨k, below, isHash⟩ := inv.drawn ev mem
  rw [isHash]
  intro same
  have equal : k = s.supply := congrArg Sha256.preimage same
  omega

theorem UserInv.newChallenge (uid rid : Nat) (cid : Option String) :
    ChallengeInv (sha256 s.supply) (s.now + challengeWindow) (challengeCreated uid rid cid s) := by
  have unknown : historyOf (sha256 s.supply) s = [] := by
    rw [historyOf, filter_eq_nil_iff]
    intro ev mem
    simpa using inv.fresh mem
  have history : historyOf (sha256 s.supply) (challengeCreated uid rid cid s) =
      [.created (sha256 s.supply) uid s.now] := by
    rw [historyOf_cons rfl, unknown]
    simp [mfaHash]
  refine ⟨?_, ?_, ?_, ?_, ?_, ?_, ?_, ?_⟩
  · intro row isRow isH
    rcases mem_cons.mp isRow with rfl | old
    · simp [history, spentBy]
    · simp only [isChallenge, and_eq_true, decide_eq_true_eq] at isH
      exact absurd isH.1 (inv.fresh (inv.rows row old isH.2))
  all_goals simp [history, spentBy, checkedBy, claimedBy]

theorem UserInv.create (uid rid : Nat) (cid : Option String)
    (room : s.pendingActions.countP (recentChallenge uid s) <
      MFA_CHALLENGE_RATE_LIMIT_MAX_REQUESTS) :
    UserInv (challengeCreated uid rid cid s) := by
  refine ⟨?_, ?_, ?_, ?_, ?_, ?_⟩
  · intro ev mem
    rcases mem_cons.mp mem with rfl | old
    · exact ⟨s.supply, by simp [challengeCreated], rfl⟩
    · obtain ⟨k, below, isHash⟩ := inv.drawn ev old
      exact ⟨k, Nat.lt_add_right 2 below, isHash⟩
  · intro row isRow isType
    rcases mem_cons.mp isRow with rfl | old
    · exact mem_cons_self
    · exact .tail _ (inv.rows row old isType)
  · intro hash u at_ mem
    rcases mem_cons.mp mem with same | old
    · cases same
      exact ⟨le_rfl, inv.newChallenge uid rid cid⟩
    · obtain ⟨pre, chal⟩ := inv.past hash u at_ old
      have ne : sha256 s.supply ≠ hash := fun same => inv.fresh old same.symm
      refine ⟨pre, chal.of_same ?_ ?_⟩
      · intro row isRow isH
        refine mem_of_ne_of_mem ?_ isRow
        rintro rfl
        simp [isChallenge, ne] at isH
      · simp [historyOf, challengeCreated, mfaHash, ne]
  · intro hash u at_ mem req time spent
    have old := mem_of_ne_of_mem (by simp) spent
    rcases mem_cons.mp mem with same | made
    · cases same
      exact absurd rfl (inv.fresh old)
    · exact inv.order hash u at_ made req time old
  · intro u
    by_cases same : uid = u
    · have unknownHash : sha256 s.supply ∉ (creations u s.mfaLog).map fst := by
        intro mem
        obtain ⟨made, isMade, isHash⟩ := mem_map.mp mem
        exact inv.fresh (mem_creations.mp isMade) isHash
      simp only [challengeCreated, creations, filterMap_cons, creation, same, if_true, map_cons]
      exact nodup_cons.mpr ⟨unknownHash, inv.once u⟩
    · simp only [challengeCreated, creations, filterMap_cons, creation, same, if_false]
      exact inv.once u
  · intro u a b span
    rw [challengeCreated, countP_cons]
    split
    · rename_i cnt
      simp only [storedWithin, and_eq_true, decide_eq_true_eq] at cnt
      obtain ⟨⟨⟨-, rfl⟩, after⟩, pre⟩ := cnt
      -- every challenge of the window is younger than the window of the limit
      have fewer : s.pendingActions.countP (storedWithin uid a b) ≤
          s.pendingActions.countP (recentChallenge uid s) := by
        apply countP_mono_left
        intro row _ within
        simp only [storedWithin, recentChallenge, and_eq_true, decide_eq_true_eq] at within ⊢
        exact ⟨within.1.1, by omega⟩
      omega
    · exact inv.stored u a b span

theorem UserInv.perform (call : Call) : UserInv (perform s call) := by
  cases call with
  | create uid rid cid =>
    rw [StepUp.perform]
    rcases createMfaChallenge_cases s uid rid cid with same | ⟨room, new⟩
    · rw [same]
      exact inv
    · rw [new]
      exact inv.create uid rid cid room
  | validate req tok =>
    rw [StepUp.perform]
    rcases validate_cases s req tok with ⟨-, dropped⟩ | ⟨cnt, spent⟩
    · rw [dropped]
      exact inv.uses (uses_drop s _)
    · rw [spent]
      exact inv.uses (uses_spend cnt)
  | consume req tok => exact inv.uses (uses_claim s req _)
  | cleanup => exact inv.uses (uses_cleanup s)
  | wait milliseconds => exact inv.uses (uses_wait s milliseconds)

theorem UserInv.performAll (calls : List Call) : UserInv (performAll s calls) := by
  induction calls generalizing s with
  | nil => exact inv
  | cons call calls ih => exact ih (inv.perform call)

end

theorem UserInv.initial (noLog : s.mfaLog = [])
    (noRows : ∀ row ∈ s.pendingActions, row.type ≠ .mfaChallenge) : UserInv s := by
  refine ⟨by simp [noLog], fun row isRow isType => absurd isType (noRows row isRow), by simp [noLog],
    by simp [noLog], by simp [noLog, creations], fun uid a b _ => ?_⟩
  have none_ : s.pendingActions.countP (storedWithin uid a b) = 0 := by
    rw [countP_eq_zero]
    intro row isRow
    simp [storedWithin, noRows row isRow]
  omega

def isAttempt (h : Sha256) : MfaEvent → Bool
  | .spent _ hash _ => hash = h
  | _ => false

theorem length_spentBy (h : Sha256) (log : List MfaEvent) :
    (spentBy (log.filter (mfaHash · = h))).length = log.countP (isAttempt h) := by
  induction log with
  | nil => rfl
  | cons event log ih =>
    rw [filter_cons, countP_cons]
    by_cases same : mfaHash event = h
    · rw [if_pos (by simpa using same)]
      cases event with
      | spent req hash at_ =>
        have attempt : isAttempt h (.spent req hash at_) = true := decide_eq_true same
        rw [spentBy, length_cons, ih, attempt, if_pos rfl]
      | created | checked | claimed | steppedUp => simpa [spentBy, isAttempt] using ih
    · rw [if_neg (by simpa using same), ih]
      have other : isAttempt h event = false := by
        cases event with
        | spent req hash at_ => exact decide_eq_false same
        | created | checked | claimed | steppedUp => rfl
      simp [other]

theorem countP_attempts_le {log : List MfaEvent} {limit : Nat} (hashes : List Sha256)
    (each : ∀ h ∈ hashes, log.countP (isAttempt h) ≤ limit) :
    log.countP (fun ev => hashes.any (isAttempt · ev)) ≤ limit * hashes.length := by
  induction hashes with
  | nil => simp
  | cons h hashes ih =>
    have first := each h mem_cons_self
    have rest := ih fun other mem => each other (.tail _ mem)
    calc log.countP (fun ev => (h :: hashes).any (isAttempt · ev))
        ≤ log.countP (isAttempt h) + log.countP (fun ev => hashes.any (isAttempt · ev)) :=
          Table.countP_or_le _ _ log
      _ ≤ limit + limit * hashes.length := Nat.add_le_add first rest
      _ = limit * (h :: hashes).length := by
          rw [length_cons, Nat.mul_add, Nat.mul_one, Nat.add_comm]

/-- In every window, at most five answers for each challenge that could be answered there. -/
theorem UserInv.answers_le (inv : UserInv s) (uid : Nat) (a b : Int) :
    answersWithin uid a b s.mfaLog ≤
      MAX_MFA_ATTEMPTS * createdWithin uid (a - challengeWindow + 1) b s.mfaLog := by
  let made := (creations uid s.mfaLog).filter fun made =>
    a - challengeWindow + 1 ≤ made.2 && made.2 ≤ b
  have each : ∀ h ∈ made.map fst, s.mfaLog.countP (isAttempt h) ≤ MAX_MFA_ATTEMPTS := by
    intro h mem
    obtain ⟨⟨hash, at_⟩, isMade, rfl⟩ := mem_map.mp mem
    have event := mem_creations.mp (mem_of_mem_filter isMade)
    rw [← length_spentBy]
    exact (inv.past hash uid at_ event).2.budget
  calc answersWithin uid a b s.mfaLog
      ≤ s.mfaLog.countP (fun event => (made.map fst).any (isAttempt · event)) := by
        apply countP_mono_left
        intro event mem within
        cases event with
        | spent req hash time =>
          simp only [spentWithin, and_eq_true, decide_eq_true_eq, contains_iff_mem] at within
          obtain ⟨⟨after, pre⟩, isKnown⟩ := within
          obtain ⟨⟨h, at_⟩, isMade, rfl⟩ := mem_map.mp isKnown
          have created := mem_creations.mp isMade
          have order := inv.order h uid at_ created req time mem
          have live := (inv.past h uid at_ created).2.inTime req h time
            (mem_historyOf.mpr ⟨mem, rfl⟩)
          refine any_eq_true.mpr ⟨h, mem_map.mpr ⟨(h, at_), ?_, rfl⟩, by simp [isAttempt]⟩
          refine mem_filter.mpr ⟨isMade, ?_⟩
          simp only [and_eq_true, decide_eq_true_eq]
          constructor <;> omega
        | created | checked | claimed | steppedUp => cases within
    _ ≤ MAX_MFA_ATTEMPTS * (made.map fst).length := countP_attempts_le _ each
    _ = MAX_MFA_ATTEMPTS * createdWithin uid (a - challengeWindow + 1) b s.mfaLog := by
        rw [length_map, createdWithin, countP_eq_length_filter]

/-- Every challenge of the user that has not expired is stored, and the limit holds for all that
were ever created. -/
structure LiveStored (userId : Nat) (s : Store) : Prop where
  rows : ∀ hash at_, .created hash userId at_ ∈ s.mfaLog → s.now < at_ + challengeWindow →
    ∃ row ∈ s.pendingActions, row.type = .mfaChallenge ∧ row.tokenHash = hash ∧
      row.userId = userId ∧ row.createdAt = at_
  made : ∀ a b, b < a + challengeWindow →
    createdWithin userId a b s.mfaLog ≤ MFA_CHALLENGE_RATE_LIMIT_MAX_REQUESTS

def Survive (userId : Nat) (s s' : Store) : Prop :=
  ∀ row ∈ s.pendingActions, row.type = .mfaChallenge → row.userId = userId → s.now < row.expiresAt →
    ∃ row' ∈ s'.pendingActions, SameRow row row'

section

variable (inv : UserInv s)

include inv

section

variable (live : LiveStored uid s)

include live

theorem LiveStored.uses (uses : Uses s s') (survive : Survive uid s s') : LiveStored uid s' := by
  obtain ⟨recent, log, isUse⟩ := uses.log
  constructor
  · intro hash at_ mem alive
    rw [log] at mem
    have made := created_of_uses isUse mem
    have clock := uses.clock
    obtain ⟨row, isRow, isType, rfl, isUser, rfl⟩ := live.rows hash at_ made (by omega)
    have expires := ((inv.past _ _ _ made).2.rows row isRow (by simp [isChallenge, isType])).2
    obtain ⟨row', isRow', same⟩ := survive row isRow isType isUser (by rw [expires]; omega)
    exact ⟨row', isRow', same.type.trans isType, same.tokenHash, same.userId.trans isUser,
      same.createdAt⟩
  · intro a b span
    rw [log, createdWithin, creations_uses isUse]
    exact live.made a b span

/-- The limit counts every challenge that was created in the window. -/
theorem LiveStored.created_le {a : Int} (recent : s.now < a + challengeWindow) (b : Int) :
    createdWithin uid a b s.mfaLog ≤ s.pendingActions.countP (recentChallenge uid s) := by
  let within := (creations uid s.mfaLog).filter fun made => a ≤ made.2 && made.2 ≤ b
  have distinct : (within.map fst).Nodup :=
    (inv.once uid).sublist (filter_sublist.map _)
  have covered : within.map fst ⊆
      (s.pendingActions.filter (recentChallenge uid s)).map PendingAction.tokenHash := by
    intro hash mem
    obtain ⟨⟨h, at_⟩, isMade, rfl⟩ := mem_map.mp mem
    obtain ⟨new, inside⟩ := mem_filter.mp isMade
    simp only [and_eq_true, decide_eq_true_eq] at inside
    obtain ⟨row, isRow, isType, isHash, isUser, isTime⟩ :=
      live.rows h at_ (mem_creations.mp new) (by omega)
    refine mem_map.mpr ⟨row, mem_filter.mpr ⟨isRow, ?_⟩, isHash⟩
    simp only [recentChallenge, isType, isUser, isTime, decide_true, Bool.true_and, decide_eq_true_eq]
    omega
  have fewer := (Nodup.subperm distinct covered).length_le
  rw [length_map, length_map] at fewer
  rw [createdWithin, countP_eq_length_filter, countP_eq_length_filter]
  exact fewer

theorem LiveStored.create (u rid : Nat)
    (cid : Option String) (room : s.pendingActions.countP (recentChallenge u s) <
      MFA_CHALLENGE_RATE_LIMIT_MAX_REQUESTS) :
    LiveStored uid (challengeCreated u rid cid s) := by
  constructor
  · intro hash at_ mem alive
    rcases mem_cons.mp mem with same | old
    · cases same
      exact ⟨_, mem_cons_self, rfl, rfl, rfl, rfl⟩
    · obtain ⟨row, isRow, rest⟩ := live.rows hash at_ old alive
      exact ⟨row, .tail _ isRow, rest⟩
  · intro a b span
    by_cases counted : u = uid ∧ a ≤ s.now ∧ s.now ≤ b
    · obtain ⟨rfl, after, pre⟩ := counted
      have others := live.created_le inv (a := a) (by omega) b
      have more : createdWithin u a b (challengeCreated u rid cid s).mfaLog =
          createdWithin u a b s.mfaLog + 1 := by
        simp [createdWithin, creations, challengeCreated, creation, after, pre]
      omega
    · have same : createdWithin uid a b (challengeCreated u rid cid s).mfaLog =
          createdWithin uid a b s.mfaLog := by
        by_cases other : u = uid
        · have out : ¬ (a ≤ s.now ∧ s.now ≤ b) := fun inside => counted ⟨other, inside⟩
          simp [createdWithin, creations, challengeCreated, creation, other, out]
        · simp [createdWithin, creations, challengeCreated, creation, other]
      rw [same]
      exact live.made a b span

theorem LiveStored.perform {call : Call}
    (gentle : Gentle uid s call) : LiveStored uid (perform s call) := by
  cases call with
  | create u rid cid =>
    rw [StepUp.perform]
    rcases createMfaChallenge_cases s u rid cid with same | ⟨room, new⟩
    · rw [same]
      exact live
    · rw [new]
      exact live.create inv u rid cid room
  | validate req tok =>
    rw [StepUp.perform]
    rcases validate_cases s req tok with ⟨zero, dropped⟩ | ⟨cnt, spent⟩
    · rw [dropped]
      refine live.uses inv (uses_drop s _) fun row isRow isType isUser alive => ?_
      refine ⟨row, mem_filter.mpr ⟨isRow, ?_⟩, .refl row⟩
      by_contra matched
      simp only [not_eq_true, not_eq_false', and_eq_true, decide_eq_true_eq] at matched
      have attempts := gentle row isRow (by simp [isChallenge, matched]) isUser alive
      have not_ := countP_eq_zero.mp zero row isRow
      simp [answerable, matched, alive, attempts] at not_
    · rw [spent]
      refine live.uses inv (uses_spend cnt) fun row isRow _ _ _ => ?_
      refine ⟨_, mem_map_of_mem isRow, ?_⟩
      split
      · exact ⟨rfl, rfl, rfl, rfl⟩
      · exact .refl row
  | consume req tok =>
    refine live.uses inv (uses_claim s req _) fun row isRow isType isUser alive => ?_
    refine ⟨row, mem_filter.mpr ⟨isRow, ?_⟩, .refl row⟩
    by_contra matched
    simp only [not_eq_true, not_eq_false', and_eq_true, decide_eq_true_eq] at matched
    have expired := gentle row isRow (by simp [isChallenge, matched]) isUser
    omega
  | cleanup =>
    refine live.uses inv (uses_cleanup s) fun row isRow isType isUser alive => ?_
    refine ⟨row, mem_filter.mpr ⟨isRow, ?_⟩, .refl row⟩
    have notYet : ¬ row.expiresAt < s.now := by omega
    simp [notYet]
  | wait milliseconds =>
    exact live.uses inv (uses_wait s milliseconds) fun row isRow _ _ _ => ⟨row, isRow, .refl row⟩

theorem LiveStored.performAll {calls : List Call}
    (gentle : GentleRun uid s calls) : LiveStored uid (performAll s calls) := by
  induction calls generalizing s with
  | nil => exact live
  | cons call calls ih => exact ih (inv.perform call) (live.perform inv gentle.1) gentle.2

end

end

theorem LiveStored.initial (noLog : s.mfaLog = []) : LiveStored uid s :=
  ⟨by simp [noLog], by simp [noLog, createdWithin, creations]⟩

end Invariant

section Budget

variable {s : Store}

theorem createdWithin_split (uid : Nat) (log : List MfaEvent) (a m b : Int) :
    createdWithin uid a b log ≤ createdWithin uid a m log + createdWithin uid (m + 1) b log := by
  refine le_trans (countP_mono_left fun made _ within => ?_) (Table.countP_or_le _ _ _)
  simp only [and_eq_true, or_eq_true, decide_eq_true_eq] at within ⊢
  omega

/-- In every run: of the stored challenges of a user, at most five were created within a window;
and the answers checked within a window are at most five for each challenge that was created
there or in the window before.  In a run that deletes no challenge of the user before it expires,
at most five challenges are created within a window, and at most twice five times five answers
are checked. -/
theorem mfa_user_budget (s : Store) (noLog : s.mfaLog = [])
    (noRows : ∀ row ∈ s.pendingActions, row.type ≠ .mfaChallenge) (calls : List Call)
    (uid : Nat) (a b : Int) (span : b < a + challengeWindow) :
    (performAll s calls).pendingActions.countP (storedWithin uid a b) ≤
      MFA_CHALLENGE_RATE_LIMIT_MAX_REQUESTS ∧
    answersWithin uid a b (performAll s calls).mfaLog ≤ MAX_MFA_ATTEMPTS *
      createdWithin uid (a - challengeWindow + 1) b (performAll s calls).mfaLog ∧
    (GentleRun uid s calls →
      createdWithin uid a b (performAll s calls).mfaLog ≤ MFA_CHALLENGE_RATE_LIMIT_MAX_REQUESTS ∧
      answersWithin uid a b (performAll s calls).mfaLog ≤
        2 * (MFA_CHALLENGE_RATE_LIMIT_MAX_REQUESTS * MAX_MFA_ATTEMPTS)) := by
  have init : UserInv s := .initial noLog noRows
  have inv := init.performAll calls
  have answers := inv.answers_le uid a b
  refine ⟨inv.stored uid a b span, answers, fun gentle => ?_⟩
  have live := (LiveStored.initial noLog).performAll init gentle
  refine ⟨live.made a b span, answers.trans ?_⟩
  -- the challenges that can be answered in the window were created in one of two windows
  have two := createdWithin_split uid (performAll s calls).mfaLog (a - challengeWindow + 1) a b
  have before := live.made (a - challengeWindow + 1) a (by omega)
  have inside := live.made (a + 1) b (by omega)
  calc MAX_MFA_ATTEMPTS * createdWithin uid (a - challengeWindow + 1) b (performAll s calls).mfaLog
      ≤ MAX_MFA_ATTEMPTS *
          (MFA_CHALLENGE_RATE_LIMIT_MAX_REQUESTS + MFA_CHALLENGE_RATE_LIMIT_MAX_REQUESTS) :=
        Nat.mul_le_mul_left _ (two.trans (Nat.add_le_add before inside))
    _ = 2 * (MFA_CHALLENGE_RATE_LIMIT_MAX_REQUESTS * MAX_MFA_ATTEMPTS) := by decide

end Budget

section Example

/-- Five challenges of user 2 are created, the tokens of which are 10, 12, 14, 16 and 18. -/
def fiveChallenges : List Call := List.replicate 5 (.create 2 1 none)

/-- Every one of them is answered five times just before they expire, and a challenge that is
created just afterwards is answered too. -/
def lateAnswers : List Call :=
  fiveChallenges ++ [.wait 299999] ++
    [10, 12, 14, 16, 18].flatMap (fun token => List.replicate 5 (.validate 0 token)) ++
    [.wait 2, .create 2 1 none, .validate 0 20]

/-- One of them is answered until it is dropped, and another one is created. -/
def exhausted : List Call :=
  fiveChallenges ++ List.replicate 6 (.validate 0 10) ++ [.create 2 1 none]

def emptyStore : Store where
  supply := 10

theorem lateAnswers_gentle : GentleRun 2 emptyStore lateAnswers := by
  decide +kernel

theorem mfa_user_budget_lateAnswers :
    answersWithin 2 299999 300001 (performAll emptyStore lateAnswers).mfaLog ≤ 50 :=
  ((mfa_user_budget emptyStore rfl (by simp [emptyStore]) lateAnswers 2 299999 300001
    (by decide)).2.2 lateAnswers_gentle).2

/-- A sixth challenge is created within a window when one of the first five was dropped, and
without that the answers within a window are still more than five for each of five challenges. -/
theorem mfa_user_budget_is_exceeded :
    (¬ ∀ (s : Store), s.mfaLog = [] → (∀ row ∈ s.pendingActions, row.type ≠ .mfaChallenge) →
      ∀ calls uid a b, b < a + challengeWindow →
      createdWithin uid a b (performAll s calls).mfaLog ≤ MFA_CHALLENGE_RATE_LIMIT_MAX_REQUESTS) ∧
    (¬ ∀ (s : Store), s.mfaLog = [] → (∀ row ∈ s.pendingActions, row.type ≠ .mfaChallenge) →
      ∀ calls uid a b, b < a + challengeWindow → GentleRun uid s calls →
      answersWithin uid a b (performAll s calls).mfaLog ≤
        MFA_CHALLENGE_RATE_LIMIT_MAX_REQUESTS * MAX_MFA_ATTEMPTS) := by
  constructor
  · intro all
    have six := all emptyStore rfl (by simp [emptyStore]) exhausted 2 0 0 (by decide)
    have count : createdWithin 2 0 0 (performAll emptyStore exhausted).mfaLog = 6 := by decide +kernel
    rw [count] at six
    exact absurd six (by decide)
  · intro all
    have many := all emptyStore rfl (by simp [emptyStore]) lateAnswers 2 299999 300001 (by decide)
      lateAnswers_gentle
    have count : answersWithin 2 299999 300001 (performAll emptyStore lateAnswers).mfaLog = 26 := by
      decide +kernel
    rw [count] at many
    exact absurd many (by decide)

end Example

end Idenplane.StepUp
