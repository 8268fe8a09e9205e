import Idenplane.Lib.Pool
import Idenplane.Risk.Signals

/-! # Termination of sessions at risk

An evaluation marks the profile of a session, and a job revokes the sessions whose profiles are
marked.  The profile of a session goes with the session, before the job has noted anything.
-/

namespace Idenplane.Risk

open Atomic

structure OAuthSession where
  (id userId realmId : Nat)
  clientId : Option Nat := none
  deriving DecidableEq

structure SessionToken where
  sessionId : Nat
  revoked : Bool := false

structure SessionUser where
  id : Nat
  username : String
  email : Option String := none

structure SessionRiskProfile where
  sessionId : Nat
  riskScore : ℚ := 0
  riskLevel : RiskLevel := .LOW
  terminateSession : Bool := false
  terminationReason : Option String := none

structure ContinuousRiskEvent where
  (sessionId realmId userId : Nat)
  clientId : Option Nat
  triggerReason : Option String
  riskScoreBefore : ℚ
  riskScoreAfter : ℚ
  (riskLevelBefore riskLevelAfter : RiskLevel)
  action : ContinuousRiskAction
  actionReason : Option String
  evaluatedAt : Int

structure Notification where
  userId : Nat
  sessionId : Nat
  reason : String
  timestamp : Int

/-- The tables, and what was sent: events to browsers, and mails. -/
structure RiskTables where
  sessions : List OAuthSession := []
  refreshTokens : List SessionToken := []
  loginSessions : List Nat := []
  users : List SessionUser := []
  /-- The ids and the names. -/
  realms : List (Nat × String) := []
  profiles : List SessionRiskProfile := []
  events : List ContinuousRiskEvent := []
  notifications : List Notification := []
  mails : List (String × Notification) := []
  /-- The next id of a session. -/
  supply : Nat := 0

abbrev RiskCall := Prog RiskTables String

def tokensRevoked (sessionId : Nat) (tables : RiskTables) : RiskTables :=
  { tables with refreshTokens := tables.refreshTokens.map fun token =>
      if token.sessionId = sessionId then { token with revoked := true } else token }

def sessionDeleted (sessionId : Nat) (tables : RiskTables) : Bool × RiskTables :=
  (tables.sessions.any (·.id = sessionId),
    { tables with
      sessions := tables.sessions.filter (·.id ≠ sessionId)
      refreshTokens := tables.refreshTokens.filter (·.sessionId ≠ sessionId)
      profiles := tables.profiles.filter (·.sessionId ≠ sessionId) })

def revokeOauthSession (sessionId : Nat) : RiskCall Unit := do
  let session ← read fun tables => tables.sessions.find? (·.id = sessionId)
  require session.isSome "Session not found"
  modify (tokensRevoked sessionId)
  let deleted ← atomic (sessionDeleted sessionId)
  require deleted "Record to delete does not exist."

def loginSessionDeleted (sessionId : Nat) (tables : RiskTables) : Bool × RiskTables :=
  (tables.loginSessions.contains sessionId,
    { tables with loginSessions := tables.loginSessions.filter (· ≠ sessionId) })

def revokeLoginSession (sessionId : Nat) : RiskCall Unit := do
  let known ← read fun tables => tables.loginSessions.contains sessionId
  require known "Session not found"
  let deleted ← atomic (loginSessionDeleted sessionId)
  require deleted "Record to delete does not exist."

/-- A profile, with its session and the user of the session. -/
structure JoinedProfile where
  profile : SessionRiskProfile
  session : Option (OAuthSession × Option SessionUser)

def joined (tables : RiskTables) (profile : SessionRiskProfile) : JoinedProfile :=
  ⟨profile, (tables.sessions.find? (·.id = profile.sessionId)).map fun session =>
    (session, tables.users.find? (·.id = session.userId))⟩

/-- `sessionRiskProfile.update`, which throws when the row is gone. -/
def profileUpdated (sessionId : Nat) (update : SessionRiskProfile → SessionRiskProfile)
    (tables : RiskTables) : Bool × RiskTables :=
  (tables.profiles.any (·.sessionId = sessionId),
    { tables with profiles := tables.profiles.map fun profile =>
        if profile.sessionId = sessionId then
          { update profile with sessionId := profile.sessionId } else profile })

def eventCreated (event : ContinuousRiskEvent) (tables : RiskTables) : RiskTables :=
  { tables with events := event :: tables.events }

def sendTerminationEmail (realmId : Nat) (userEmail : String) (mail : Notification) :
    RiskCall Unit := do
  let realm ← read fun tables => tables.realms.find? (·.1 = realmId)
  if realm.isSome then
    modify fun tables => { tables with mails := (userEmail, mail) :: tables.mails }

/-- An error of the first revocation leads to the second, and an error of that one is ignored. -/
def revokeEither (sessionId : Nat) : RiskCall Unit := do
  let revoked ← (revokeOauthSession sessionId).attempt
  match revoked with
  | .ok () => pure ()
  | .error _ =>
    let _ ← (revokeLoginSession sessionId : RiskCall Unit).attempt
    pure ()

def recordTermination (profile : SessionRiskProfile) (session : OAuthSession)
    (user : Option SessionUser) (now : Int) (reason : String) : RiskCall Unit := do
  let updated ← atomic (profileUpdated profile.sessionId fun profile =>
    { profile with terminateSession := false, terminationReason := some reason })
  require updated "Record to update not found."
  modify (eventCreated
    { sessionId := profile.sessionId, realmId := session.realmId, userId := session.userId
      clientId := session.clientId, triggerReason := some reason
      riskScoreBefore := profile.riskScore, riskScoreAfter := profile.riskScore
      riskLevelBefore := profile.riskLevel, riskLevelAfter := profile.riskLevel
      action := .TERMINATE, actionReason := some ("Session terminated: " ++ reason)
      evaluatedAt := now })
  let notification : Notification := ⟨session.userId, profile.sessionId, reason, now⟩
  modify fun tables =>
    { tables with notifications := notification :: tables.notifications }
  match user.bind (·.email) with
  | some email => sendTerminationEmail session.realmId email notification
  | none => pure ()

def terminateSession (found : JoinedProfile) (now : Int) (overrideReason : Option String) :
    RiskCall Unit :=
  match found.session with
  | none => pure ()
  | some (session, user) => do
    revokeEither found.profile.sessionId
    recordTermination found.profile session user now
      ((overrideReason.or found.profile.terminationReason).getD "Critical risk detected")

def terminateEach (now : Int) : List JoinedProfile → RiskCall Unit
  | [] => pure ()
  | found :: rest => do
    let _ ← (terminateSession found now none).attempt
    terminateEach now rest

def checkAndTerminateSessions (now : Int) : RiskCall Unit := do
  let marked ← read fun tables =>
    (tables.profiles.filter (·.terminateSession)).map (joined tables)
  terminateEach now marked

def terminateSessionById (sessionId : Nat) (now : Int) (reason : Option String) :
    RiskCall Unit := do
  let profile ← read fun tables =>
    (tables.profiles.find? (·.sessionId = sessionId)).map (joined tables)
  let found ← orFail profile "Session risk profile not found for session"
  terminateSession found now reason

def ContinuousRiskAction.text : ContinuousRiskAction → String
  | .MONITOR => "MONITOR"
  | .ALERT => "ALERT"
  | .STEP_UP => "STEP_UP"
  | .TERMINATE => "TERMINATE"

structure SessionEvaluation where
  session : OAuthSession
  reason : Option String
  finalScore : ℚ
  finalRiskLevel : RiskLevel
  action : ContinuousRiskAction
  now : Int

def profileCreated (sessionId : Nat) (tables : RiskTables) : Bool × RiskTables :=
  if tables.sessions.any (·.id = sessionId) && !tables.profiles.any (·.sessionId = sessionId) then
    (true, { tables with profiles := { sessionId := sessionId } :: tables.profiles })
  else (false, tables)

def getOrCreateProfile (sessionId : Nat) : RiskCall SessionRiskProfile := do
  let existing ← read fun tables => tables.profiles.find? (·.sessionId = sessionId)
  match existing with
  | some profile => pure profile
  | none =>
    let created ← atomic (profileCreated sessionId)
    require created "Unique or foreign key constraint failed"
    pure { sessionId := sessionId }

def persistEvaluation (job : SessionEvaluation) (profile : SessionRiskProfile) :
    RiskCall Unit := do
  let updated ← atomic (profileUpdated profile.sessionId fun profile =>
    { profile with
      riskScore := job.finalScore
      riskLevel := job.finalRiskLevel
      terminateSession := job.action = .TERMINATE
      terminationReason := if job.action = .TERMINATE then some "Critical risk detected" else none })
  require updated "Record to update not found."
  modify (eventCreated
    { sessionId := job.session.id, realmId := job.session.realmId, userId := job.session.userId
      clientId := job.session.clientId, triggerReason := job.reason
      riskScoreBefore := profile.riskScore, riskScoreAfter := job.finalScore
      riskLevelBefore := profile.riskLevel, riskLevelAfter := job.finalRiskLevel
      action := job.action
      actionReason := if job.action = .MONITOR then none
        else some ("Risk action: " ++ job.action.text)
      evaluatedAt := job.now })

def evaluateSession (job : SessionEvaluation) : RiskCall Unit := do
  let profile ← getOrCreateProfile job.session.id
  persistEvaluation job profile

inductive RiskJob where
  | evaluate (job : SessionEvaluation)
  | check (now : Int)
  | terminate (sessionId : Nat) (now : Int) (reason : Option String)

def RiskJob.call : RiskJob → RiskCall Unit
  | .evaluate job => evaluateSession job
  | .check now => checkAndTerminateSessions now
  | .terminate sessionId now reason => terminateSessionById sessionId now reason

def riskPool (jobs : Nat → RiskJob) (tables : RiskTables) : Pool Nat RiskTables String Unit :=
  ⟨tables, fun i => (jobs i).call⟩

/-- Profiles belong to sessions, and ids are drawn from the supply. -/
structure Intact (tables : RiskTables) : Prop where
  owned : ∀ profile ∈ tables.profiles, ∃ session ∈ tables.sessions, session.id = profile.sessionId
  drawn : ∀ session ∈ tables.sessions, session.id < tables.supply

def Gone (sessionId : Nat) (tables : RiskTables) : Prop :=
  ∀ session ∈ tables.sessions, session.id ≠ sessionId

/-- The rest of the server: sessions come, with ids of their own, and go; it tells nobody that one
was terminated. -/
structure Elsewhere (tables tables' : RiskTables) : Prop where
  intact : Intact tables'
  supply : tables.supply ≤ tables'.supply
  gone : ∀ sessionId < tables.supply, Gone sessionId tables → Gone sessionId tables'
  notifications : tables'.notifications = tables.notifications

structure OnRecord (sessionId : Nat) (tables : RiskTables) : Prop where
  gone : Gone sessionId tables
  event : (tables.events.filter fun event =>
    event.sessionId = sessionId ∧ event.action = .TERMINATE).length = 1
  notification : (tables.notifications.filter (·.sessionId = sessionId)).length = 1

section Protocol

variable {tables tables' : RiskTables} {i : Nat}

structure Unnoticed (tables tables' : RiskTables) : Prop where
  sessions : ∀ session ∈ tables'.sessions, session ∈ tables.sessions
  owned : (∀ profile ∈ tables.profiles, ∃ session ∈ tables.sessions,
    session.id = profile.sessionId) → ∀ profile ∈ tables'.profiles,
      ∃ session ∈ tables'.sessions, session.id = profile.sessionId
  supply : tables'.supply = tables.supply
  notifications : tables'.notifications = tables.notifications

/-- Nobody was told of a termination so far, and nobody takes a session back. -/
def riskProtocol : Protocol Nat RiskTables where
  inv tables := Intact tables ∧ tables.notifications = []
  rely _ tables tables' := tables.supply ≤ tables'.supply ∧
    ∀ sessionId < tables.supply, Gone sessionId tables → Gone sessionId tables'
  refl _ _ := ⟨Nat.le_refl _, fun _ _ gone => gone⟩
  trans _ _ _ _ first second := ⟨first.1.trans second.1, fun sessionId small gone =>
    second.2 sessionId (small.trans_le first.1) (first.2 sessionId small gone)⟩

theorem Unnoticed.respects (inv : riskProtocol.inv tables) (work : Unnoticed tables tables') :
    riskProtocol.inv tables' ∧ ∀ j, riskProtocol.rely j tables tables' := by
  refine ⟨⟨⟨work.owned inv.1.owned, fun sess mem => ?_⟩, work.notifications.trans inv.2⟩,
    fun _ => ⟨work.supply.ge, fun _ _ gone sess mem => gone sess (work.sessions sess mem)⟩⟩
  rw [work.supply]
  exact inv.1.drawn sess (work.sessions sess mem)

theorem Unnoticed.of_rest (sessions : tables'.sessions = tables.sessions)
    (profiles : tables'.profiles = tables.profiles) (supply : tables'.supply = tables.supply)
    (notifications : tables'.notifications = tables.notifications) : Unnoticed tables tables' :=
  ⟨fun _ mem => sessions ▸ mem, by rw [sessions, profiles]; exact id, supply, notifications⟩

theorem Unnoticed.refl (tables : RiskTables) : Unnoticed tables tables := .of_rest rfl rfl rfl rfl

theorem sessionDeleted_unnoticed (sessionId : Nat) (tables : RiskTables) :
    Unnoticed tables (sessionDeleted sessionId tables).2 where
  sessions := fun _ mem => (mem_filter.mp mem).1
  owned := by
    intro owned profile mem
    obtain ⟨row, other⟩ := mem_filter.mp mem
    obtain ⟨sess, isSession, same⟩ := owned profile row
    exact ⟨sess, mem_filter.mpr ⟨isSession, by rwa [same]⟩, same⟩
  supply := rfl
  notifications := rfl

theorem sessionDeleted_gone (sessionId : Nat) (tables : RiskTables) :
    Gone sessionId (sessionDeleted sessionId tables).2 := by
  intro sess mem
  simpa using (mem_filter.mp mem).2

theorem profileUpdated_unnoticed (sessionId : Nat) (update : SessionRiskProfile → SessionRiskProfile)
    (tables : RiskTables) : Unnoticed tables (profileUpdated sessionId update tables).2 where
  sessions := fun _ mem => mem
  owned := by
    intro owned profile mem
    obtain ⟨row, isStored, rfl⟩ := mem_map.mp mem
    obtain ⟨sess, isSession, same⟩ := owned row isStored
    refine ⟨sess, isSession, same.trans ?_⟩
    split <;> rfl
  supply := rfl
  notifications := rfl

theorem profileCreated_unnoticed (sessionId : Nat) (tables : RiskTables) :
    Unnoticed tables (profileCreated sessionId tables).2 := by
  unfold profileCreated
  split
  · rename_i fits
    simp only [and_eq_true, any_eq_true, decide_eq_true_eq] at fits
    refine ⟨fun _ mem => mem, fun owned profile mem => ?_, rfl, rfl⟩
    cases mem with
    | head => exact fits.1
    | tail _ older => exact owned profile older
  · exact .refl tables

theorem evaluateSession_unnoticed (job : SessionEvaluation) :
    (evaluateSession job).Keeps Unnoticed := by
  apply Keeps.bind
  · apply Keeps.bind (.read .refl _)
    intro old
    cases old with
    | some profile => trivial
    | none =>
      apply Keeps.bind (.atomic (profileCreated_unnoticed _))
      intro _
      exact .bind (.require _ _) fun _ => trivial
  intro profile
  apply Keeps.bind (.atomic (profileUpdated_unnoticed _ _))
  intro _
  apply Keeps.bind (.require _ _)
  intro _
  exact .modify fun _ => .of_rest rfl rfl rfl rfl

theorem revokeLoginSession_unnoticed (sessionId : Nat) :
    (revokeLoginSession sessionId).Keeps Unnoticed := by
  apply Keeps.bind (.read .refl _)
  intro _
  apply Keeps.bind (.require _ _)
  intro _
  apply Keeps.bind (.atomic fun _ => .of_rest rfl rfl rfl rfl)
  intro _
  exact .require _ _

abbrev Unharmed (post : Except String Unit → RiskTables → Prop) (i : Nat) (p : RiskCall Unit)
    (tables : RiskTables) : Prop :=
  p.Sat riskProtocol (fun _ _ => True) i post tables

def Ended (n sessionId : Nat) (tables : RiskTables) : Prop := n ≤ tables.supply ∧ Gone sessionId tables

variable {n sessionId : Nat}

theorem Ended.later (small : sessionId < n) (ended : Ended n sessionId tables)
    (moved : riskProtocol.rely i tables tables') : Ended n sessionId tables' :=
  ⟨ended.1.trans moved.1, moved.2 sessionId (small.trans_le ended.1) ended.2⟩

open Unnoticed

theorem revokeOauthSession_sat (small : sessionId < n) (drawn : n ≤ tables.supply) :
    Unharmed (fun _ => Ended n sessionId) i (revokeOauthSession sessionId) tables := by
  apply Sat.read_bind
  intro t moved _
  have drawn : n ≤ t.supply := drawn.trans moved.1
  apply Sat.require_bind
  · intro _
    apply Sat.modify_bind
    intro u moved inv _
    have drawn : n ≤ u.supply := drawn.trans moved.1
    have work : Unnoticed u (tokensRevoked sessionId u) := .of_rest rfl rfl rfl rfl
    obtain ⟨kept, relies⟩ := work.respects inv
    refine ⟨kept, fun j _ => relies j, ?_⟩
    apply Sat.atomic_bind
    intro v moved inv _
    have ended : Ended n sessionId (sessionDeleted sessionId v).2 :=
      ⟨drawn.trans moved.1, sessionDeleted_gone sessionId v⟩
    obtain ⟨kept, relies⟩ := (sessionDeleted_unnoticed sessionId v).respects inv
    refine ⟨kept, fun j _ => relies j, ?_⟩
    apply Sat.ofKeeps (.require _ _) fun _ _ inv work => respects inv work
    intro _ _ moved _
    exact ended.later small moved
  · intro missing u moved _
    have ended : Ended n sessionId t := by
      refine ⟨drawn, fun sess mem same => ?_⟩
      simp only [Option.isSome_eq_false_iff, Option.isNone_iff_eq_none, find?_eq_none] at missing
      exact missing sess mem (decide_eq_true same)
    exact ended.later small moved

theorem revokeEither_sat (small : sessionId < n) (drawn : n ≤ tables.supply) :
    Unharmed (fun _ => Ended n sessionId) i (revokeEither sessionId) tables := by
  apply Sat.bind
  apply Prog.Sat.attempt
  apply (revokeOauthSession_sat small drawn).mono
  intro res t ended
  have login : (do
      let _ ← (revokeLoginSession sessionId : RiskCall Unit).attempt
      pure () : RiskCall Unit).Keeps Unnoticed :=
    .bind (.attempt (revokeLoginSession_unnoticed sessionId)) fun _ => trivial
  cases res with
  | ok _ => exact fun u moved _ => ended.later small moved
  | error _ =>
    apply Sat.ofKeeps login fun _ _ inv work => respects inv work
    intro _ u moved _
    exact ended.later small moved

variable {profile : SessionRiskProfile} {now : Int}

theorem recordTermination_sat {sess : OAuthSession}
    {user : Option SessionUser} {reason : String} (small : profile.sessionId < n)
    (ended : Ended n profile.sessionId tables) :
    Unharmed (fun _ t => n ≤ t.supply) i (recordTermination profile sess user now reason)
      tables := by
  apply Sat.atomic_bind
  intro t moved inv _
  obtain ⟨drawn, gone⟩ := ended.later small moved
  obtain ⟨kept, relies⟩ := (profileUpdated_unnoticed profile.sessionId _ t).respects inv
  refine ⟨kept, fun j _ => relies j, ?_⟩
  apply Sat.require_bind
  · intro updated
    obtain ⟨row, isRow, same⟩ := any_eq_true.mp updated
    obtain ⟨sess, isSession, isOwner⟩ := inv.1.owned row isRow
    exact absurd (isOwner.trans (of_decide_eq_true same)) (gone sess isSession)
  · intro _ u moved _
    exact drawn.trans moved.1

theorem terminateSession_sat {hit : JoinedProfile} {reason : Option String}
    (small : hit.profile.sessionId < n) (drawn : n ≤ tables.supply) :
    Unharmed (fun _ t => n ≤ t.supply) i (terminateSession hit now reason) tables := by
  unfold terminateSession
  cases hit.session with
  | none => exact fun t moved _ => drawn.trans moved.1
  | some e =>
    apply Sat.bind
    apply (revokeEither_sat small drawn).mono
    intro res t ended
    cases res with
    | ok _ => exact recordTermination_sat small ended
    | error _ => exact ended.1

theorem terminateEach_sat {marked : List JoinedProfile}
    (small : ∀ hit ∈ marked, hit.profile.sessionId < n) (drawn : n ≤ tables.supply) :
    Unharmed (fun _ _ => True) i (terminateEach now marked) tables := by
  induction marked generalizing tables with
  | nil => exact fun _ _ _ => trivial
  | cons hit rest ih =>
    apply Sat.bind
    apply Prog.Sat.attempt
    apply (terminateSession_sat (small hit mem_cons_self) drawn).mono
    intro _ t drawn
    exact ih (fun other mem => small other (.tail _ mem)) drawn

theorem profile_small (inv : riskProtocol.inv tables)
    (mem : profile ∈ tables.profiles) : profile.sessionId < tables.supply := by
  obtain ⟨sess, isSession, same⟩ := inv.1.owned profile mem
  exact same ▸ inv.1.drawn sess isSession

theorem call_sat (job : RiskJob) : Unharmed (fun _ _ => True) i job.call tables := by
  cases job with
  | evaluate job =>
    exact .ofKeeps (evaluateSession_unnoticed job)
      (fun _ _ inv work => respects inv work) fun _ _ _ _ => trivial
  | check now =>
    apply Sat.read_bind
    intro t _ inv
    apply terminateEach_sat (n := t.supply) _ (Nat.le_refl _)
    intro hit mem
    obtain ⟨profile, isProfile, rfl⟩ := mem_map.mp mem
    exact profile_small inv (mem_filter.mp isProfile).1
  | terminate sessionId now reason =>
    apply Sat.read_bind
    intro t _ inv
    apply Sat.orFail_bind
    · intro hit isFound
      obtain ⟨profile, isProfile, rfl⟩ := map_eq_some_iff.mp isFound
      have small := profile_small inv (mem_of_find?_eq_some isProfile)
      exact (terminateSession_sat small (Nat.le_refl _)).mono fun _ _ _ => trivial
    · intro _ _ _ _
      trivial

end Protocol

/-- In no run is a termination on the record: nobody is ever told of one. -/
theorem never_on_record {jobs : Nat → RiskJob} {tables : RiskTables}
    {reached : Pool Nat RiskTables String Unit} (intact : Intact tables)
    (quiet : tables.notifications = [])
    (run : Pool.Reaches Elsewhere (fun _ _ => True) (riskPool jobs tables) reached)
    (sessionId : Nat) : ¬OnRecord sessionId reached.state := by
  have sound := Pool.sound (P := riskProtocol) ⟨intact, quiet⟩ (fun i => call_sat (jobs i))
    (fun _ _ inv os => ⟨⟨os.intact, os.notifications.trans inv.2⟩,
      fun _ => ⟨os.supply, os.gone⟩⟩) run
  intro record
  have told := record.notification
  rw [sound.1.2] at told
  cases told

def annTables : RiskTables where
  sessions := [{ id := 1, userId := 7, realmId := 3 }]
  users := [{ id := 7, username := "ann", email := some "ann@shop.example" }]
  realms := [(3, "shop")]
  supply := 2

def annJobs : Nat → RiskJob
  | 0 => .evaluate
      { session := { id := 1, userId := 7, realmId := 3 }, reason := none, finalScore := 95
        finalRiskLevel := .CRITICAL, action := .TERMINATE, now := 0 }
  | _ => .check 60

def evaluatedPool : Pool Nat RiskTables String Unit := (riskPool annJobs annTables).runOne 0

def checkedPool : Pool Nat RiskTables String Unit := evaluatedPool.runOne 1

theorem annTables_intact : Intact annTables := ⟨fun _ mem => (not_mem_nil mem).elim, by decide⟩

theorem critical_session_not_on_record :
    Gone 1 checkedPool.state ∧ ¬OnRecord 1 checkedPool.state := by
  have run : Pool.Reaches Elsewhere (fun _ _ => True) (riskPool annJobs annTables) checkedPool :=
    (Pool.reaches_runOne (fun _ _ => trivial) _ 0).trans (Pool.reaches_runOne (fun _ _ => trivial) _ 1)
  refine ⟨?_, never_on_record annTables_intact rfl run 1⟩
  intro sess mem
  cases mem

/-- The session is marked and revoked, and its owner is not told. -/
theorem critical_session_untold : evaluatedPool.state.profiles.map (·.terminateSession) = [true] ∧
      checkedPool.procs 1 = .done () ∧ Gone 1 checkedPool.state ∧
      ¬OnRecord 1 checkedPool.state := by
  have none_ : checkedPool.state.notifications = [] := rfl
  refine ⟨rfl, rfl, ?_, fun record => ?_⟩
  · intro sess mem
    cases mem
  · have told := record.notification
    rw [none_] at told
    cases told

end Idenplane.Risk
