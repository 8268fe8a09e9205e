import Idenplane.AuthFlow.Executor

/-! # What a complete flow has checked

A session that is complete should have completed every required step, or the fallback of the step,
in order, and know its user from a password that it has checked.  Nothing in `processStep` says so:
the caller may name any step, a fallback may lie behind steps that are required, some steps succeed
at once, and the WebAuthn step takes the user from the request.

`Orderly` calls do none of this.
-/

namespace Idenplane.AuthFlow

open Atomic Auth List

structure Validated (steps : List FlowStep) : Prop where
  ids : (steps.map (·.id)).Nodup
  orders : (steps.map (·.order)).Nodup
  fallbacks : ∀ step ∈ steps, ∀ target, step.fallback = some target →
    ∃ other ∈ steps, other.id = target

theorem validateSteps_ok {steps : List FlowStep} (ok : validateSteps steps = .ok ()) :
    Validated steps := by
  simp only [validateSteps] at ok
  split at ok
  · cases ok
  split at ok
  · cases ok
  split at ok
  · cases ok
  split at ok
  · cases ok
  rename_i _ ids orders _ known
  refine ⟨not_not.mp ids, not_not.mp orders, ?_⟩
  intro step mem tgt isTarget
  have isKnown := find?_eq_none.mp known step mem
  simpa [isTarget] using isKnown

variable {step : FlowStep} {context : FlowContext}

section Order

variable {steps : List FlowStep}

theorem Validated.sorted_pairwise (valid : Validated steps) :
    (sorted steps).Pairwise (·.order < ·.order) := by
  have le : (sorted steps).Pairwise (·.order ≤ ·.order) := pairwise_insertionSort _ steps
  have nodup : ((sorted steps).map (·.order)).Nodup :=
    ((perm_insertionSort _ steps).map _).nodup_iff.mpr valid.orders
  have ne : (sorted steps).Pairwise (·.order ≠ ·.order) := pairwise_map.mp nodup
  exact (le.and ne).imp fun both => lt_of_le_of_ne both.1 both.2

theorem mem_sorted : step ∈ sorted steps ↔ step ∈ steps :=
  (perm_insertionSort _ steps).mem_iff

theorem Validated.eq_of_id (valid : Validated steps) {a b : FlowStep} (isA : a ∈ steps)
    (isB : b ∈ steps) (same : a.id = b.id) : a = b :=
  inj_on_of_nodup_map valid.ids isA isB same

variable {list : List FlowStep}

theorem firstApplicableStep_some {rt : Js.Runtime} (increasing : list.Pairwise (·.order < ·.order)) {next : FlowStep}
    (hit : firstApplicableStep rt context list = some next) :
    next ∈ list ∧ ∀ other ∈ list, other.required = true → next.order ≤ other.order := by
  refine ⟨mem_of_find?_eq_some hit, ?_⟩
  induction list with
  | nil =>
    intro other mem
    cases mem
  | cons first rest ih =>
    obtain ⟨pre, increasing⟩ := pairwise_cons.mp increasing
    intro other mem need
    rw [firstApplicableStep, find?_cons] at hit
    split at hit
    · cases hit
      rcases mem_cons.mp mem with rfl | later
      · exact le_rfl
      · exact (pre other later).le
    · rename_i notApplicable
      rcases mem_cons.mp mem with rfl | later
      · simp [need] at notApplicable
      · exact ih increasing hit other later need

theorem firstApplicableStep_none {rt : Js.Runtime} (hit : firstApplicableStep rt context list = none) :
    ∀ other ∈ list, other.required = false := by
  intro other mem
  have notApplicable := find?_eq_none.mp hit other mem
  simp only [or_eq_true, not_or] at notApplicable
  simpa using notApplicable.2

/-- What is left of an increasing list after a step: all that is behind it in order. -/
theorem dropWhile_of_increasing
    (increasing : list.Pairwise (·.order < ·.order)) (ids : (list.map (·.id)).Nodup) (mem : step ∈ list) :
    ∃ remaining, list.dropWhile (·.id ≠ step.id) = step :: remaining ∧
      remaining.Pairwise (·.order < ·.order) ∧
      ∀ other, other ∈ remaining ↔ other ∈ list ∧ step.order < other.order := by
  induction list with
  | nil => cases mem
  | cons first rest ih =>
    obtain ⟨pre, rising⟩ := pairwise_cons.mp increasing
    by_cases same : first.id = step.id
    · obtain rfl : first = step := inj_on_of_nodup_map ids mem_cons_self mem same
      refine ⟨rest, by simp, rising, fun other => ?_⟩
      constructor
      · exact fun later => ⟨.tail _ later, pre other later⟩
      · rintro ⟨isOther, behind⟩
        rcases mem_cons.mp isOther with rfl | later
        · exact absurd behind (lt_irrefl _)
        · exact later
    · have later : step ∈ rest := by
        rcases mem_cons.mp mem with rfl | later
        · exact absurd rfl same
        · exact later
      obtain ⟨remaining, isRest, rising', behind⟩ := ih rising (nodup_cons.mp ids).2 later
      refine ⟨remaining, by simpa [same] using isRest, rising', fun other => ?_⟩
      rw [behind other]
      constructor
      · exact fun both => ⟨.tail _ both.1, both.2⟩
      · rintro ⟨isOther, after⟩
        rcases mem_cons.mp isOther with rfl | isRest
        · exact absurd (pre step later) after.not_gt
        · exact ⟨isRest, after⟩

/-- The next step is behind the last, and no required step is between them. -/
theorem Validated.getNextStep (valid : Validated steps) (rt : Js.Runtime)
    (context : FlowContext) (mem : step ∈ steps) :
    ∃ next, getNextStep rt steps (some step.id) context = .ok next ∧
      (∀ following, next = some following → following ∈ steps ∧ step.order < following.order) ∧
      ∀ other ∈ steps, other.required = true → step.order < other.order →
        ∃ following, next = some following ∧ following.order ≤ other.order := by
  have ids : ((sorted steps).map (·.id)).Nodup :=
    ((perm_insertionSort _ steps).map _).nodup_iff.mpr valid.ids
  obtain ⟨remaining, isRest, rising, behind⟩ :=
    dropWhile_of_increasing valid.sorted_pairwise ids (mem_sorted.mpr mem)
  refine ⟨firstApplicableStep rt context remaining, ?_, ?_, ?_⟩
  · rw [AuthFlow.getNextStep, isRest]
  · intro following hit
    obtain ⟨isStep, after⟩ := (behind following).mp (firstApplicableStep_some rising hit).1
    exact ⟨mem_sorted.mp isStep, after⟩
  · intro other isStep need after
    have left : other ∈ remaining := (behind other).mpr ⟨mem_sorted.mpr isStep, after⟩
    cases hit : firstApplicableStep rt context remaining with
    | none => simp [firstApplicableStep_none hit other left] at need
    | some following =>
      exact ⟨following, rfl, (firstApplicableStep_some rising hit).2 other left need⟩

end Order

/-- A call of `processStep`, with the database as it is then. -/
structure Call where
  realm : Realm
  stepId : String
  credentials : Credentials
  store : Store

section Calls

variable (rt : Js.Runtime) (deps : Deps) (externals : Login.Externals) (steps : List FlowStep)

def isSkipped (step : FlowStep) (context : FlowContext) : Bool :=
  !conditionMet rt step context && !step.required

/-- The credentials of the call are not accepted, and its step leads on to its fallback. -/
def failsOver (step : FlowStep) (session : FlowSession) (call : Call) : Bool :=
  match (dispatchStep deps externals call.realm step call.credentials session call.store).1 with
  | .ok check => !check.success
  | .error failure => failure.status ≠ 401

def Covered (session : FlowSession) (step : FlowStep) : Prop :=
  (∃ done ∈ session.completed, done.id = step.id) ∨
    ∃ target, step.fallback = some target ∧ ∃ done ∈ session.completed, done.id = target

/-- The fallback does not lead past a required step, nor back to before a step that was completed,
and a required step does not fall back to a step that is skipped. -/
structure SafeFallback (session : FlowSession) (step target : FlowStep) : Prop where
  ordered : ∀ done ∈ session.completed, done.order ≤ target.order
  passed : ∀ other ∈ steps, other.required = true → other.order < target.order →
    other.id ≠ step.id → Covered session other
  taken : step.required = true → step.order < target.order →
    isSkipped rt target session.context = false

/-- The call is for the current step.  If that is skipped or not a password step, the user is known,
and if it is the WebAuthn step, the call names that user.  If it fails over, the fallback is safe. -/
structure Orderly (session : FlowSession) (call : Call) : Prop where
  current : session.currentStepId = some call.stepId
  known : ∀ step, findStep steps call.stepId = some step →
    (isSkipped rt step session.context = false ∧
      (step.type = .password ∨ step.type = .ldap)) ∨ session.userId.isSome = true
  sameUser : ∀ step userId, findStep steps call.stepId = some step → step.type = .webauthn →
    webauthnVerified session.context = true → call.credentials.userId = some userId →
    session.userId = some userId
  fallback : ∀ step target, findStep steps call.stepId = some step →
    isSkipped rt step session.context = false →
    failsOver deps externals step session call = true → step.fallback = some target.id →
    target ∈ steps → SafeFallback rt steps session step target

def Reaches (allowed : FlowSession → Call → Prop) : FlowSession → FlowSession → Prop :=
  Relation.ReflTransGen fun session session' => ∃ call, allowed session call ∧
    (processStep rt deps externals steps call.realm session call.stepId call.credentials
      call.store).2.1 = session'

structure Sound (session : FlowSession) : Prop where
  required : ∀ step ∈ steps, step.required = true → Covered session step
  ordered : session.completed.Pairwise fun later earlier => earlier.order ≤ later.order
  /-- The user of the session is one whose password was right. -/
  user : ∃ userId, session.userId = some userId ∧ userId ∈ session.checked

/-- What is known while a step is current.  A required step before it may still wait for the current
one, which is its fallback then. -/
structure Reached (session : FlowSession) (step : FlowStep) : Prop where
  below : ∀ done ∈ session.completed, done.order ≤ step.order
  covered : ∀ other ∈ steps, other.required = true → other.order < step.order →
    Covered session other ∨
      other.fallback = some step.id ∧ isSkipped rt step session.context = false

structure Inv (session : FlowSession) : Prop where
  ordered : session.completed.Pairwise fun later earlier => earlier.order ≤ later.order
  checked : ∀ userId, session.userId = some userId → userId ∈ session.checked
  current : session.complete = false → ∀ step ∈ steps, session.currentStepId = some step.id →
    Reached rt steps session step
  complete : session.complete = true →
    (∀ step ∈ steps, step.required = true → Covered session step) ∧ session.userId.isSome = true

end Calls

section Proofs

variable {rt : Js.Runtime} {deps : Deps} {externals : Login.Externals} {steps : List FlowStep}
  {session session' : FlowSession} {call : Call}

theorem Covered.mono (covered : Covered session step)
    (more : ∀ done ∈ session.completed, done ∈ session'.completed) : Covered session' step := by
  rcases covered with ⟨done, isDone, same⟩ | ⟨tgt, isTarget, done, isDone, same⟩
  · exact .inl ⟨done, more done isDone, same⟩
  · exact .inr ⟨tgt, isTarget, done, more done isDone, same⟩

theorem Inv.advance (valid : Validated steps) (mem : step ∈ steps) {pend : Bool}
    (ordered : session.completed.Pairwise fun later earlier => earlier.order ≤ later.order)
    (checked : ∀ uid, session.userId = some uid → uid ∈ session.checked)
    (known : session.userId.isSome = true)
    (below : ∀ done ∈ session.completed, done.order ≤ step.order)
    (covered : ∀ other ∈ steps, other.required = true → other.order ≤ step.order →
      Covered session other) :
    Inv rt steps (advanceSession rt steps session step pend).2 := by
  obtain ⟨next, isNext, follows, need⟩ := valid.getNextStep rt session.context mem
  simp only [advanceSession, isNext]
  constructor
  · exact ordered
  · exact checked
  · intro _ following isStep isCurrent
    cases next with
    | none => cases isCurrent
    | some other =>
      obtain ⟨isOther, after⟩ := follows other rfl
      obtain rfl : other = following := valid.eq_of_id isOther isStep (some.inj isCurrent)
      constructor
      · exact fun done isDone => (below done isDone).trans after.le
      · intro earlier isEarlier isRequired pre
        rcases le_or_gt earlier.order step.order with le | gt
        · exact .inl (covered earlier isEarlier isRequired le)
        · obtain ⟨first, isFirst, le⟩ := need earlier isEarlier isRequired gt
          cases isFirst
          exact absurd pre le.not_gt
  · intro isComplete
    refine ⟨fun other isOther isRequired => ?_, known⟩
    rcases le_or_gt other.order step.order with le | gt
    · exact covered other isOther isRequired le
    · obtain ⟨first, isFirst, -⟩ := need other isOther isRequired gt
      cases isFirst
      cases isComplete

structure Dispatched (session : FlowSession)
    (answer : Except Failure StepCheck × FlowSession × Store) : Prop where
  /-- A check that does not succeed changes nothing. -/
  unchanged : ∀ check, answer.1 = .ok check → check.success = false → answer.2.1 = session
  thrown : ∀ failure, answer.1 = .error failure → answer.2.1 = session
  completed : answer.2.1.completed = session.completed
  /-- The user after a check that succeeds is one whose password was right. -/
  user : ∀ check, answer.1 = .ok check → check.success = true → answer.2.1.userId.isSome = true ∧
      ∀ userId, answer.2.1.userId = some userId → userId ∈ answer.2.1.checked

theorem Dispatched.same {res : Except Failure StepCheck} {s : Store}
    (checked : ∀ uid, session.userId = some uid → uid ∈ session.checked)
    (known : ∀ check, res = .ok check → check.success = true → session.userId.isSome = true) :
    Dispatched session (res, session, s) :=
  ⟨fun _ _ _ => rfl, fun _ _ => rfl, rfl, fun check isOk success =>
    ⟨known check isOk success, checked⟩⟩

theorem handlePasswordStep_dispatched (r : Realm) (creds : Credentials) (s : Store)
    (checked : ∀ uid, session.userId = some uid → uid ∈ session.checked) :
    Dispatched session (handlePasswordStep deps externals r creds session s) := by
  unfold handlePasswordStep
  split
  · split
    · rename_i user s' _
      constructor
      · intro check isOk fails
        cases isOk
        cases fails
      · intro f isFailure
        cases isFailure
      · rfl
      · intro check isOk success
        refine ⟨rfl, fun uid isUser => ?_⟩
        cases isUser
        exact mem_cons_self
    · exact .same checked nofun
  · exact .same checked nofun

theorem handleTotpStep_dispatched (creds : Credentials) (s : Store)
    (checked : ∀ uid, session.userId = some uid → uid ∈ session.checked) :
    Dispatched session (handleTotpStep deps creds session s) := by
  unfold handleTotpStep
  split
  · exact .same checked nofun
  · rename_i uid isUser
    split
    · exact .same checked nofun
    · split
      · exact .same checked fun _ _ _ => by rw [isUser]; rfl
      · exact .same checked nofun

theorem handleWebAuthnStep_dispatched (creds : Credentials) (s : Store)
    (checked : ∀ uid, session.userId = some uid → uid ∈ session.checked)
    (sameUser : ∀ uid, webauthnVerified session.context = true →
      creds.userId = some uid → session.userId = some uid) :
    Dispatched session (.ok (handleWebAuthnStep creds session).1,
      (handleWebAuthnStep creds session).2, s) := by
  unfold handleWebAuthnStep
  split
  · rename_i uid named
    split at named
    · rename_i verified
      constructor
      · intro check isOk fails
        cases isOk
        cases fails
      · intro f isFailure
        cases isFailure
      · rfl
      · intro check isOk success
        refine ⟨rfl, fun uid' isUser => ?_⟩
        cases isUser
        exact checked uid (sameUser uid verified named)
    · cases named
  · refine .same checked fun check isOk success => ?_
    cases isOk
    cases success

theorem dispatchStep_dispatched (r : Realm) (credentials : Credentials)
    (s : Store) (checked : ∀ userId, session.userId = some userId → userId ∈ session.checked)
    (known : (step.type = .password ∨ step.type = .ldap) ∨ session.userId.isSome = true)
    (sameUser : ∀ userId, step.type = .webauthn → webauthnVerified session.context = true →
      credentials.userId = some userId → session.userId = some userId) :
    Dispatched session (dispatchStep deps externals r step credentials session s) := by
  unfold dispatchStep
  cases isType : step.type with
  | password => exact handlePasswordStep_dispatched r credentials s checked
  | ldap => exact handlePasswordStep_dispatched r credentials s checked
  | totp => exact handleTotpStep_dispatched credentials s checked
  | webauthn =>
    exact handleWebAuthnStep_dispatched credentials s checked fun userId =>
      sameUser userId isType
  | social | email_otp | magic_link | consent =>
    refine .same checked fun _ _ _ => ?_
    simpa [isType] using known
  | other name =>
    refine .same checked fun check isOk success => ?_
    cases isOk
    cases success

theorem Inv.failOver (valid : Validated steps) (inv : Inv rt steps session)
    (mem : step ∈ steps) (incomplete : session.complete = false) {target : String}
    (isTarget : step.fallback = some target)
    (safe : ∀ fallback ∈ steps, fallback.id = target →
      SafeFallback rt steps session step fallback) :
    Inv rt steps { session with currentStepId := some target } := by
  constructor
  · exact inv.ordered
  · exact inv.checked
  · intro _ fallback isStep isCurrent
    have named : fallback.id = target := (some.inj isCurrent).symm
    have isSafe := safe fallback isStep named
    constructor
    · exact isSafe.ordered
    · intro other isOther need pre
      by_cases same : other.id = step.id
      · obtain rfl := valid.eq_of_id isOther mem same
        exact .inr ⟨isTarget.trans (congrArg some named.symm), isSafe.taken need pre⟩
      · exact .inl (isSafe.passed other isOther need pre same)
  · intro isComplete
    exact absurd (incomplete.symm.trans isComplete) nofun

theorem executeStep_ok {stepId : String} {skipped : Bool}
    (ok : executeStep rt steps stepId context = .ok (step, skipped)) :
    findStep steps stepId = some step ∧ isSkipped rt step context = skipped := by
  unfold executeStep at ok
  split at ok
  · cases ok
  · rename_i hit
    cases ok
    exact ⟨hit, rfl⟩

section

variable (valid : Validated steps)

include valid

theorem Validated.eq_of_order {a b : FlowStep} (isA : a ∈ steps)
    (isB : b ∈ steps) (same : a.order = b.order) : a = b :=
  inj_on_of_nodup_map valid.orders isA isB same

theorem Inv.skip (inv : Inv rt steps session)
    (mem : step ∈ steps) (reached : Reached rt steps session step)
    (skipped : isSkipped rt step session.context = true)
    (known : session.userId.isSome = true) :
    Inv rt steps (advanceSession rt steps session step false).2 := by
  refine .advance valid mem inv.ordered inv.checked known reached.below ?_
  intro other isOther need pre
  rcases pre.lt_or_eq with earlier | same
  · rcases reached.covered other isOther need earlier with covered | ⟨-, taken⟩
    · exact covered
    · rw [skipped] at taken
      cases taken
  · obtain rfl := valid.eq_of_order isOther mem same
    simp [isSkipped, need] at skipped

/-- A step that succeeds covers itself and the steps it is the fallback of. -/
theorem Inv.succeed (inv : Inv rt steps session)
    {pend : Bool} (mem : step ∈ steps) (reached : Reached rt steps session step)
    (completed : session'.completed = session.completed)
    (u : session'.userId.isSome = true ∧
      ∀ uid, session'.userId = some uid → uid ∈ session'.checked) :
    Inv rt steps (advanceSession rt steps
      { session' with completed := step :: session'.completed } step pend).2 := by
  have more : ∀ done ∈ session.completed, done ∈ step :: session'.completed := by
    intro done isDone
    rw [completed]
    exact .tail _ isDone
  refine .advance valid mem ?_ u.2 u.1 ?_ ?_
  · refine pairwise_cons.mpr ⟨?_, ?_⟩
    · rw [completed]
      exact reached.below
    · rw [completed]
      exact inv.ordered
  · intro done isDone
    rcases mem_cons.mp isDone with rfl | pre
    · exact le_rfl
    · rw [completed] at pre
      exact reached.below done pre
  · intro other isOther need pre
    rcases pre.lt_or_eq with earlier | same
    · rcases reached.covered other isOther need earlier with covered | ⟨isFallback, -⟩
      · exact covered.mono more
      · exact .inr ⟨step.id, isFallback, step, mem_cons_self, rfl⟩
    · obtain rfl := valid.eq_of_order isOther mem same
      exact .inl ⟨other, mem_cons_self, rfl⟩

theorem Inv.processStep (inv : Inv rt steps session)
    (orderly : Orderly rt deps externals steps session call) :
    Inv rt steps (AuthFlow.processStep rt deps externals steps call.realm session
      call.stepId call.credentials call.store).2.1 := by
  unfold AuthFlow.processStep
  split
  · exact inv
  rename_i running
  have incomplete : session.complete = false := by simpa using running
  split
  · exact inv
  · rename_i step executed
    obtain ⟨hit, skipped⟩ := executeStep_ok executed
    have mem := mem_of_find?_eq_some hit
    have named : step.id = call.stepId := by simpa using find?_some hit
    have known : session.userId.isSome = true := by
      rcases orderly.known step hit with ⟨notSkipped, -⟩ | known
      · rw [skipped] at notSkipped
        cases notSkipped
      · exact known
    exact inv.skip valid mem (inv.current incomplete step mem (named ▸ orderly.current)) skipped
      known
  · rename_i step executed
    obtain ⟨hit, notSkipped⟩ := executeStep_ok executed
    have mem := mem_of_find?_eq_some hit
    have named : step.id = call.stepId := by simpa using find?_some hit
    have reached := inv.current incomplete step mem (named ▸ orderly.current)
    have dispatched : Dispatched session (dispatchStep deps externals call.realm step
        call.credentials session call.store) :=
      dispatchStep_dispatched call.realm call.credentials call.store inv.checked
        ((orderly.known step hit).imp_left And.right)
        fun uid isType => orderly.sameUser step uid hit isType
    have safe : failsOver deps externals step session call = true → ∀ tgt,
        step.fallback = some tgt → ∀ fallback ∈ steps, fallback.id = tgt →
        SafeFallback rt steps session step fallback := by
      intro fails tgt isTarget fallback isStep isFallback
      exact orderly.fallback step fallback hit notSkipped fails (isFallback ▸ isTarget) isStep
    unfold failsOver at safe
    split
    · rename_i failure session' store' answer
      rw [answer] at dispatched safe
      obtain rfl : session' = session := dispatched.thrown failure rfl
      split
      · exact inv
      · rename_i notUnauthorized
        split
        · rename_i tgt isTarget
          exact inv.failOver valid mem incomplete isTarget
            (safe (by simpa using notUnauthorized) tgt isTarget)
        · exact inv
    · rename_i check session' store' answer
      rw [answer] at dispatched safe
      split
      · rename_i success
        exact inv.succeed valid mem reached dispatched.completed (dispatched.user check rfl success)
      · rename_i fails
        have notSuccess : check.success = false := by simpa using fails
        obtain rfl : session' = session := dispatched.unchanged check rfl notSuccess
        split
        · rename_i tgt isTarget
          exact inv.failOver valid mem incomplete isTarget
            (safe (by simpa using notSuccess) tgt isTarget)
        · exact inv

theorem Inv.startFlow (context : FlowContext) :
    Inv rt steps (startFlow rt steps (createSession context)) := by
  constructor
  · exact Pairwise.nil
  · exact nofun
  · intro _ step isStep isCurrent
    refine ⟨fun done isDone => absurd isDone not_mem_nil, ?_⟩
    intro other isOther need pre
    obtain ⟨first, hit, isFirst⟩ := map_eq_some_iff.mp isCurrent
    obtain ⟨mem, least⟩ := firstApplicableStep_some valid.sorted_pairwise hit
    obtain rfl := valid.eq_of_id (mem_sorted.mp mem) isStep isFirst
    exact absurd pre (least other (mem_sorted.mpr isOther) need).not_gt
  · exact nofun

end

end Proofs

section Example

def plainRuntime : Js.Runtime where
  inherited _ _ := some .undefined
  numberOfText _ := .nan
  numberText _ := "0"
  builtinText name := name
  regExp _ := none

def noMigration : Login.Externals := ⟨fun _ _ => false⟩

def acme : Realm := { id := 1, name := "acme" }

def aliceStore : Store where
  realms := [acme]
  users := [{ id := 2, realmId := 1, username := "alice", passwordHash := some "secret" }]

def passwordStep : FlowStep := { id := "password", type := .password, required := true, order := 1 }

def consentStep : FlowStep := { id := "consent", type := .consent, required := true, order := 3 }

def loginAndConsent : List FlowStep := [passwordStep, consentStep]

def call (stepId : String) (credentials : Credentials) : Call :=
  ⟨acme, stepId, credentials, aliceStore⟩

def aliceSignsIn : Call :=
  call "password" { username := some "alice", password := some "secret" }

def answered (steps : List FlowStep) (session : FlowSession) (call : Call) : FlowSession :=
  (processStep plainRuntime .transparent noMigration steps call.realm session call.stepId
    call.credentials call.store).2.1

def start (steps : List FlowStep) (context : FlowContext) : FlowSession :=
  startFlow plainRuntime steps (createSession context)

abbrev Leads (steps : List FlowStep) (allowed : FlowSession → Call → Prop) :=
  Reaches plainRuntime .transparent noMigration steps allowed

def signedIn : FlowSession := answered loginAndConsent (start loginAndConsent []) aliceSignsIn

def consented : FlowSession := answered loginAndConsent signedIn (call "consent" {})

theorem alice_signs_in : Orderly plainRuntime .transparent noMigration loginAndConsent
    (start loginAndConsent []) aliceSignsIn where
  current := rfl
  known step found := by
    cases found
    exact .inl ⟨rfl, .inl rfl⟩
  sameUser step userId found isType := by
    cases found
    cases isType
  fallback step target found _ _ isTarget := by
    cases found
    cases isTarget

theorem alice_consents : Orderly plainRuntime .transparent noMigration loginAndConsent signedIn
    (call "consent" {}) where
  current := rfl
  known _ _ := .inr rfl
  sameUser step userId found isType := by
    cases found
    cases isType
  fallback step target found _ _ isTarget := by
    cases found
    cases isTarget

def unidentified : FlowSession := answered loginAndConsent (start loginAndConsent []) (call "consent" {})

/-- The password step may fall back to the consent, past the second factor. -/
def withFallback : List FlowStep :=
  [{ passwordStep with fallbackStepId := some "consent" },
   { id := "totp", type := .totp, required := true, order := 2 }, consentStep]

def fallenBack : FlowSession :=
  answered withFallback (answered withFallback (start withFallback []) (call "password" {}))
    (call "consent" {})

def passwordless : List FlowStep :=
  [{ id := "webauthn", type := .webauthn, required := true, order := 1 }]

def named : FlowSession :=
  answered passwordless (start passwordless [("webauthnVerified", .bool true)])
    (call "webauthn" { userId := some 7 })

end Example

section Endings

variable {rt : Js.Runtime} {deps : Deps} {externals : Login.Externals} {steps : List FlowStep}
  {session : FlowSession}

/-- What holds whatever the caller asks for. -/
structure InFlow (steps : List FlowStep) (session : FlowSession) : Prop where
  current : ∀ id, session.currentStepId = some id → id ∈ steps.map (·.id)
  recorded : ∀ id ∈ session.completedStepIds, id ∈ steps.map (·.id)
  ended : session.complete = true → session.currentStepId = none ∧ ∃ last ∈ steps,
    session.completedStepIds.getLast? = some last.id ∧
      ∀ other ∈ steps, other.required = true → other.order ≤ last.order

theorem dispatchStep_stays {r : Realm} {creds : Credentials} {s : Store} {result}
    (answer : dispatchStep deps externals r step creds session s = result) :
    ∃ uid context checked, result.2.1 =
      { session with userId := uid, context := context, checked := checked } := by
  subst answer
  unfold dispatchStep handlePasswordStep handleTotpStep handleWebAuthnStep identified
  repeat' split
  all_goals exact ⟨_, _, _, rfl⟩

theorem InFlow.advance (valid : Validated steps) (inv : InFlow steps session) (mem : step ∈ steps)
    (pend : Bool) : InFlow steps (advanceSession rt steps session step pend).2 := by
  obtain ⟨next, isNext, follows, need⟩ := valid.getNextStep rt session.context mem
  simp only [advanceSession, isNext]
  constructor
  · intro id isCurrent
    obtain ⟨following, isStep, rfl⟩ := Option.map_eq_some_iff.mp isCurrent
    exact mem_map_of_mem (follows following isStep).1
  · intro id isId
    rcases mem_append.mp isId with old | new
    · exact inv.recorded id old
    · exact mem_singleton.mp new ▸ mem_map_of_mem mem
  · intro isComplete
    cases next with
    | some following => cases isComplete
    | none =>
      refine ⟨rfl, step, mem, by simp, fun other isOther isRequired => ?_⟩
      by_contra behind
      obtain ⟨_, isFirst, -⟩ := need other isOther isRequired (not_le.mp behind)
      cases isFirst

theorem InFlow.processStep (valid : Validated steps) (inv : InFlow steps session) (call : Call) :
    InFlow steps (AuthFlow.processStep rt deps externals steps call.realm session call.stepId
      call.credentials call.store).2.1 := by
  unfold AuthFlow.processStep
  split
  · exact inv
  rename_i running
  split
  · exact inv
  · rename_i step executed
    exact inv.advance valid (mem_of_find?_eq_some (executeStep_ok executed).1) _
  rename_i step executed
  have mem := mem_of_find?_eq_some (executeStep_ok executed).1
  have fallback : ∀ tgt, step.fallback = some tgt → tgt ∈ steps.map (·.id) := by
    intro tgt isTarget
    obtain ⟨other, isOther, rfl⟩ := valid.fallbacks step mem tgt isTarget
    exact mem_map_of_mem isOther
  split
  all_goals
    rename_i session' s' answer
    obtain ⟨uid, context, checked, rfl⟩ : ∃ _ _ _, session' = _ := dispatchStep_stays answer
    split
  · exact ⟨inv.current, inv.recorded, inv.ended⟩
  · split
    · rename_i tgt isTarget
      exact ⟨fun id same => some.inj same ▸ fallback tgt isTarget, inv.recorded, (absurd · running)⟩
    · exact ⟨inv.current, inv.recorded, inv.ended⟩
  · refine .advance valid ?_ mem _
    exact ⟨inv.current, inv.recorded, inv.ended⟩
  · split
    · rename_i tgt isTarget
      exact ⟨fun id same => some.inj same ▸ fallback tgt isTarget, inv.recorded, (absurd · running)⟩
    · exact ⟨inv.current, inv.recorded, inv.ended⟩

/-- In every session of a validated flow, by any calls with any steps and credentials: the current
step and the recorded ones are steps of the flow, and when the session is complete no step is
current, and no required step is behind the last one that was recorded. -/
theorem flow_ends_behind_required_steps (rt : Js.Runtime) (deps : Deps)
    (externals : Login.Externals) (steps : List FlowStep) (context : FlowContext)
    (session : FlowSession) (validated : validateSteps steps = .ok ())
    (reached : Reaches rt deps externals steps (fun _ _ => True)
      (startFlow rt steps (createSession context)) session) : InFlow steps session := by
  have valid := validateSteps_ok validated
  induction reached with
  | refl =>
    simp only [startFlow, getNextStep]
    constructor
    · intro id isCurrent
      obtain ⟨first, hit, rfl⟩ := Option.map_eq_some_iff.mp isCurrent
      exact mem_map_of_mem (mem_sorted.mp (mem_of_find?_eq_some hit))
    · exact nofun
    · exact nofun
  | tail _ step ih =>
    obtain ⟨call, -, rfl⟩ := step
    exact ih.processStep valid call

theorem alice_is_asked_to_consent :
    InFlow loginAndConsent signedIn ∧ signedIn.currentStepId = some "consent" :=
  ⟨flow_ends_behind_required_steps plainRuntime .transparent noMigration loginAndConsent [] _
    (by decide +kernel) (.single ⟨aliceSignsIn, trivial, rfl⟩), rfl⟩

end Endings

end Idenplane.AuthFlow
