import Idenplane.Upgrade.Service

/-! # What an upgrade reports

A run of `upgrade` that returns leaves a result, events and a row.  They agree as long as the last
write to the row succeeds: the run does not look at the result of its last stage, and an error of
the write of a failure is only logged.
-/

namespace Idenplane.Upgrade

open Atomic World

variable {w : World} {stages : List UpgradeStageResult}

/-- The row of the upgrade is in progress, with this backup. -/
def Open (id : Nat) (backup : Option String) (w : World) : Prop :=
  ∃ row, w.row? id = some row ∧ row.status = .IN_PROGRESS ∧ row.backupId = backup

variable {row : UpgradeAuditLog}

theorem row?_id {id : Nat} (hit : w.row? id = some row) : row.id = id := by
  have holds := find?_some hit
  simpa using holds

theorem row?_rowUpdated (id : Nat) (change : UpgradeAuditLog → UpgradeAuditLog) (w : World)
    (keeps : ∀ row, (change row).id = row.id) :
    (rowUpdated id change w).row? id = (w.row? id).map change := by
  have same : ((fun row : UpgradeAuditLog => decide (row.id = id)) ∘
      fun row => if row.id = id then change row else row) = fun row => decide (row.id = id) := by
    funext row
    by_cases here : row.id = id
    · simp [here, keeps]
    · simp [here]
  unfold row? rowUpdated
  rw [find?_map, same]
  cases found : w.log.find? (fun row => decide (row.id = id)) with
  | none => rfl
  | some row => simp [row?_id found]

theorem row?_append {id : Nat} {rows : List UpgradeAuditLog} (hit : w.row? id = some row) :
    row? { w with log := w.log ++ rows } id = some row := by
  unfold row? at hit ⊢
  rw [find?_append, hit]
  rfl

theorem row?_rowEnded (j : Nat) (status : UpgradeStatus) (details : Details) {id : Nat}
    {backup : Option String} (isOpen : Open id backup w) :
    ∃ row, (rowEnded j id status details w).row? id = some row ∧ row.status = status := by
  obtain ⟨row, hit, _⟩ := isOpen
  have ended : (rowEnded j id status details w).row? id = _ :=
    row?_rowUpdated id (fun row => { row with
      status := status, completedAt := some w.now, details := details }) w fun _ => rfl
  rw [hit] at ended
  exact ⟨_, ended, rfl⟩

def isMigration : Event → Bool
  | .migrated .. => true
  | _ => false

def isRollback : Event → Bool
  | .rollback .. => true
  | _ => false

def failedStage (stages : List UpgradeStageResult) : Bool :=
  stages.any fun stage => !stage.success && stage.stage ≠ .ROLLBACK

/-- The events of an upgrade with a backup, up to the start of its migration. -/
def upToMigration (id : Nat) (path : String) : List Event :=
  [.backedUp id path, .recorded id path, .migrated id (some path)]

/-- The events of one rollback, which may have restored the backup. -/
def RolledBackOnce (id : Nat) (path : String) (success : Bool) (events : List Event) : Prop :=
  events = [.rollback id (some path), .rolledBack id success] ∨
    events = [.rollback id (some path), .restored id path, .rolledBack id success]

/-- The result, the row and the events of an upgrade belong together. -/
structure Agrees (id : Nat) (res : UpgradeResult) (row : Option UpgradeAuditLog)
    (events : List Event) : Prop where
  /-- Nothing is migrated before there is a backup on the row. -/
  backedUp : events.any isMigration → ∃ path, upToMigration id path <+: events
  rolledBack : events.any isMigration → failedStage res.stages →
    ∃ path success rest, events = upToMigration id path ++ rest ∧
      RolledBackOnce id path success rest ∧
      res.rollbackTriggered = true ∧ res.rollbackSucceeded = some success
  reported : res.rollbackTriggered = events.any isRollback
  completed : res.success = true ↔ row.map (·.status) = some .COMPLETED
  ended : row.map (·.status) ≠ some .IN_PROGRESS

def validated (outside : Outside) (options : Options) : Bool :=
  match outside.validation with
  | .ok validation => validation.canProceed || options.force
  | .error _ => false

def compatible (outside : Outside) : Bool :=
  match outside.compatibility with
  | .ok compatResult => compatResult.compatible
  | .error _ => false

def healthy (outside : Outside) : Bool :=
  match outside.health with
  | .ok healthResult => healthResult.healthy
  | .error _ => false

def goesThrough (outside : Outside) (options : Options) : Bool :=
  validated outside options && (outside.pgDump.isOk && outside.backupWrite.isNone &&
    (compatible outside && (outside.migration.isOk && healthy outside)))

def lastWrite (outside : Outside) (through : Bool) : Option String :=
  if through then outside.completionWrite else outside.failureWrite

/-- The run returns, and what it leaves since `start` agrees under this condition. -/
def Ends (start : List Event) (id : Nat) (p : Call UpgradeResult) (condition : Prop)
    (w : World) : Prop :=
  ∃ res w' events, p.run w = (.ok res, w') ∧ w'.events = start ++ events ∧ res.upgradeId = id ∧
    (Agrees id res (w'.row? id) events ↔ condition)

def Plain (stages : List UpgradeStageResult) : Prop := ∀ stage ∈ stages, stage.stage ≠ .ROLLBACK

def AllSucceeded (stages : List UpgradeStageResult) : Prop := ∀ stage ∈ stages, stage.success = true

theorem rollbackOutcome_plain (plain : Plain stages) : rollbackOutcome stages = (false, none) := by
  have none : stages.find? (fun stage => decide (stage.stage = .ROLLBACK)) = none := by
    rw [find?_eq_none]
    intro stage mem
    simp [plain stage mem]
  simp [rollbackOutcome, none]

theorem rollbackOutcome_append (plain : Plain stages)
    {rollback : UpgradeStageResult} (is : rollback.stage = .ROLLBACK) :
    rollbackOutcome (stages ++ [rollback]) = (true, some rollback.success) := by
  have none : stages.find? (fun stage => decide (stage.stage = .ROLLBACK)) = none := by
    rw [find?_eq_none]
    intro stage mem
    simp [plain stage mem]
  simp [rollbackOutcome, find?_append, none, is]

theorem failedStage_all (all : AllSucceeded stages) : failedStage stages = false := by
  unfold failedStage
  rw [any_eq_false]
  intro stage mem
  simp [all stage mem]

section Stages

variable (env : Environment) (outside : Outside) (j : Nat) {id : Nat} (toVersion : String)
  (options : Options) {start events : List Event} {w : World} {path : String}
  {stages : List UpgradeStageResult} {backupResult : Option BackupResult}

theorem abort_run (id : Nat) (stages : List UpgradeStageResult) (reason msg : String)
    (w : World) : ∃ w', (abort outside j id toVersion stages reason msg).run w =
        (.ok (buildFailureResult id toVersion stages msg), w') ∧
      w'.events = w.events ∧ (outside.failureWrite = none → ∀ backup, Open id backup w →
        ∃ row, w'.row? id = some row ∧ row.status = .FAILED) ∧
      (outside.failureWrite ≠ none → w'.row? id = w.row? id) := by
  unfold abort recordUpgradeFailure written
  cases outside.failureWrite with
  | none =>
    refine ⟨_, rfl, rfl, fun _ backup isOpen => ?_, fun fails => absurd rfl fails⟩
    exact row?_rowEnded j _ _ isOpen
  | some msg => exact ⟨_, rfl, rfl, (fun h => by cases h), fun _ => rfl⟩

theorem abort_ends (happened : w.events = start ++ events)
    (isOpen : ∃ backup, Open id backup w) (plain : Plain stages)
    (early : events.any isMigration = false) (quiet : events.any isRollback = false)
    (reason msg : String) : Ends start id (abort outside j id toVersion stages reason msg)
      (outside.failureWrite = none) w := by
  obtain ⟨backup, isOpen⟩ := isOpen
  obtain ⟨w', ran, same, recorded, lost⟩ :=
    abort_run outside j toVersion id stages reason msg w
  refine ⟨_, w', events, ran, same.trans happened, rfl, ?_⟩
  constructor
  · intro agrees
    by_contra fails
    obtain ⟨row, hit, status, _⟩ := isOpen
    apply agrees.ended
    rw [lost fails, hit]
    exact congrArg some status
  · intro writes
    obtain ⟨row, hit, status⟩ := recorded writes backup isOpen
    constructor
    · intro migrated
      rw [early] at migrated
      cases migrated
    · intro migrated
      rw [early] at migrated
      cases migrated
    · simp [buildFailureResult, rollbackOutcome_plain plain, quiet]
    · simp [buildFailureResult, hit, status]
    · simp [hit, status]

/-- After the migration has started, with the backup on the row. -/
structure Migrated (start : List Event) (id : Nat) (path : String) (w : World) : Prop where
  happened : w.events = start ++ upToMigration id path
  isOpen : Open id (some path) w
  archive : ∃ backup, archiveFor w path = some backup ∧ backup.path = path

theorem executeRollback_run (w : World) (answers : RollbackOutside) (isOpen : Open id (some path) w)
    (archive : ∃ backup, archiveFor w path = some backup ∧ backup.path = path) :
    ∃ res w', (executeRollback env answers (some id)).run w = (.ok res, w') ∧
      w'.row? id = w.row? id ∧
      (w'.events = w.events ∨ w'.events = w.events ++ [.restored id path]) := by
  obtain ⟨row, hit, _, backup⟩ := isOpen
  obtain ⟨listing, mem, same⟩ := archive
  unfold executeRollback
  cases env.allowLiveRestore with
  | false => exact ⟨_, _, rfl, rfl, .inl rfl⟩
  | true =>
    rw [if_pos rfl, run_attempt_bind]
    unfold findAndRestore
    cases answers.query with
    | some msg => exact ⟨_, _, rfl, rfl, .inl rfl⟩
    | none =>
      have here : w.upgrade? (some id) = some row := hit
      simp only [run_read_bind, here, backup, mem]
      cases answers.verifyBackup listing.path with
      | false => exact ⟨_, _, rfl, rfl, .inl rfl⟩
      | true =>
        unfold restoreUpgrade written
        have mine : row.id = id := row?_id hit
        cases answers.restore with
        | some msg =>
          cases answers.record with
          | some error => exact ⟨_, _, rfl, rfl, .inl rfl⟩
          | none =>
            refine ⟨_, _, rfl, ?_, .inl rfl⟩
            exact (row?_append hit).trans hit.symm
        | none =>
          cases answers.record with
          | some error =>
            refine ⟨_, _, rfl, rfl, .inr ?_⟩
            simp [happens, mine, same]
          | none =>
            refine ⟨_, _, rfl, (row?_append hit).trans hit.symm, .inr ?_⟩
            simp [happens, rollbackRecorded, mine, same]

section

variable (migrated : Migrated start id path w)

include migrated

theorem attemptRollback_run :
    ∃ res w' success rest, (attemptRollback env outside id).run w = (.ok res, w') ∧
      res.stage = .ROLLBACK ∧ res.success = success ∧ w'.row? id = w.row? id ∧
      w'.events = start ++ (upToMigration id path ++ rest) ∧
      RolledBackOnce id path success rest := by
  obtain ⟨happened, isOpen, archive⟩ := migrated
  obtain ⟨row, hit, status, backup⟩ := isOpen
  have begun : ((w.row? id).bind (·.backupId)) = some path := by rw [hit]; exact backup
  obtain ⟨res, w', ran, same, events⟩ := executeRollback_run env
    (happens (.rollback id (some path)) w) outside.rollback ⟨row, hit, status, backup⟩ archive
  unfold attemptRollback
  simp only [run_modify_bind, begun]
  rw [run_bind, ran]
  dsimp only
  have once : ∃ rest, w'.events ++ [.rolledBack id res.success] =
      start ++ (upToMigration id path ++ rest) ∧ RolledBackOnce id path res.success rest := by
    rcases events with nothing | restored
    · refine ⟨_, ?_, .inl rfl⟩
      rw [nothing]
      simp [happens, happened]
    · refine ⟨_, ?_, .inr rfl⟩
      rw [restored]
      simp [happens, happened]
  obtain ⟨rest, isRest, once⟩ := once
  cases ans : res.success with
  | true =>
    rw [ans] at once
    exact ⟨_, _, true, rest, rfl, rfl, rfl, same, ans ▸ isRest, once⟩
  | false =>
    rw [ans] at once
    exact ⟨_, _, false, rest, rfl, rfl, rfl, same, ans ▸ isRest, once⟩

theorem rollBack_ends (plain : Plain stages)
    (backup : backupResult.any (·.success) = true) (reason msg : String) :
    Ends start id (rollBack env outside j id toVersion backupResult stages reason msg)
      (outside.failureWrite = none) w := by
  obtain ⟨rollback, world₁, success, rest, attempted, stage, ans, same, events, once⟩ :=
    attemptRollback_run env outside migrated
  obtain ⟨world₂, ran, kept, recorded, lost⟩ :=
    abort_run outside j toVersion id (stages ++ [rollback]) reason msg world₁
  have isOpen : Open id (some path) world₁ := by
    obtain ⟨row, hit, status, onRow⟩ := migrated.isOpen
    exact ⟨row, same.trans hit, status, onRow⟩
  have outcome := rollbackOutcome_append plain stage
  refine ⟨buildFailureResult id toVersion (stages ++ [rollback]) msg, world₂, _, ?_,
    kept.trans events, rfl, ?_⟩
  · unfold rollBack
    rw [if_pos backup, run_bind, attempted]
    exact ran
  · constructor
    · intro agrees
      by_contra fails
      obtain ⟨row, hit, status, _⟩ := isOpen
      apply agrees.ended
      rw [lost fails, hit]
      exact congrArg some status
    · intro writes
      obtain ⟨row, hit, status⟩ := recorded writes _ isOpen
      have attempted : (upToMigration id path ++ rest).any isRollback = true := by
        rcases once with rfl | rfl
        · rfl
        · rfl
      constructor
      · exact fun _ => ⟨path, List.prefix_append _ rest⟩
      · intro _ _
        refine ⟨path, success, rest, rfl, once, ?_, ?_⟩
        · simp [buildFailureResult, outcome]
        · simp [buildFailureResult, outcome, ans]
      · simp [buildFailureResult, outcome, attempted]
      · simp [buildFailureResult, hit, status]
      · simp [hit, status]

theorem afterHealthCheck_ends (all : AllSucceeded stages) :
    Ends start id (afterHealthCheck outside j id toVersion backupResult stages)
      (outside.completionWrite = none) w := by
  obtain ⟨happened, isOpen, _⟩ := migrated
  unfold afterHealthCheck executeStage completeUpgrade written
  cases outside.completionWrite with
  | none =>
    obtain ⟨row, hit, status⟩ := row?_rowEnded j .COMPLETED
      (.completed (succeededStages stages)) isOpen
    refine ⟨_, _, _, rfl, happened, rfl, ?_⟩
    constructor
    · exact fun _ => rfl
    · intro _
      have succeeded : AllSucceeded (stages ++ [⟨.COMPLETION, true,
          "Upgrade to " ++ toVersion ++ " completed successfully", none⟩]) := by
        intro stage mem
        rcases mem_append.mp mem with old | new
        · exact all stage old
        · rw [mem_singleton.mp new]
      constructor
      · exact fun _ => ⟨path, List.prefix_refl _⟩
      · intro _ failed
        rw [failedStage_all succeeded] at failed
        cases failed
      · rfl
      · exact ⟨fun _ => by rw [hit]; exact congrArg some status, fun _ => rfl⟩
      · rw [hit]
        simp [status]
  | some msg =>
    refine ⟨_, _, _, rfl, happened, rfl, ?_⟩
    constructor
    · intro agrees
      obtain ⟨row, hit, status, _⟩ := isOpen
      have completed := agrees.completed.mp rfl
      rw [hit] at completed
      simp [status] at completed
    · intro h
      cases h

end

theorem Ends.after {α : Type} {p : Call α} {f : α → Call UpgradeResult} {a : α} {w' : World}
    {cond : Prop} (ran : p.run w = (.ok a, w'))
    (rest : Ends start id (f a) cond w') : Ends start id (p >>= f) cond w := by
  obtain ⟨res, w'', events, ends, happened, same, agrees⟩ := rest
  refine ⟨res, w'', events, ?_, happened, same, agrees⟩
  rw [run_bind, ran]
  exact ends

def succeeded : Except String StageOutcome → Bool
  | .ok outcome => outcome.success
  | .error _ => false

theorem executeStage_run (stage : UpgradeStage) (body : Throwing StageOutcome) (w : World) :
    ∃ res, (executeStage stage body).run w = (.ok res, (body.run w).2) ∧
      res.stage = stage ∧ res.success = succeeded (body.run w).1 := by
  unfold executeStage
  rw [run_attempt_bind]
  cases (body.run w).1 with
  | ok out => exact ⟨_, rfl, rfl, rfl⟩
  | error msg => exact ⟨_, rfl, rfl, rfl⟩

variable {res : UpgradeStageResult}

theorem plain_append (plain : Plain stages)
    (other : res.stage ≠ .ROLLBACK) : Plain (stages ++ [res]) := by
  intro stage mem
  rcases mem_append.mp mem with old | new
  · exact plain stage old
  · rw [mem_singleton.mp new]
    exact other

theorem allSucceeded_append (all : AllSucceeded stages)
    (success : res.success = true) : AllSucceeded (stages ++ [res]) := by
  intro stage mem
  rcases mem_append.mp mem with old | new
  · exact all stage old
  · rw [mem_singleton.mp new]
    exact success

theorem runPostHealthCheck_run (w : World) : ((runPostHealthCheck outside).run w).2 = w ∧
      succeeded ((runPostHealthCheck outside).run w).1 = healthy outside := by
  unfold runPostHealthCheck answered healthy
  cases outside.health with
  | error msg => exact ⟨rfl, rfl⟩
  | ok healthResult =>
    dsimp only [pure_def, done_bind]
    cases healthResult.healthy with
    | true => exact ⟨rfl, rfl⟩
    | false => exact ⟨rfl, rfl⟩

open Ends

theorem afterMigration_ends (migrated : Migrated start id path w) (all : AllSucceeded stages)
    (plain : Plain stages) (backup : backupResult.any (·.success) = true) :
    Ends start id (afterMigration env outside j id toVersion backupResult stages)
      (lastWrite outside (healthy outside) = none) w := by
  obtain ⟨res, ran, stage, success⟩ :=
    executeStage_run .POST_HEALTH_CHECK (runPostHealthCheck outside) w
  obtain ⟨same, ans⟩ := runPostHealthCheck_run outside w
  rw [same] at ran
  rw [ans] at success
  apply after ran
  have other : res.stage ≠ .ROLLBACK := by rw [stage]; decide
  cases isHealthy : healthy outside with
  | true =>
    rw [isHealthy] at success
    rw [if_pos success]
    exact afterHealthCheck_ends outside j toVersion migrated (allSucceeded_append all success)
  | false =>
    rw [isHealthy] at success
    rw [if_neg (by simp [success])]
    exact rollBack_ends env outside j toVersion migrated (plain_append plain other) backup _ _

structure BackedUp (start : List Event) (id : Nat) (path : String) (w : World) : Prop where
  happened : w.events = start ++ [.backedUp id path, .recorded id path]
  isOpen : Open id (some path) w
  archive : ∃ backup, archiveFor w path = some backup ∧ backup.path = path

theorem runDatabaseMigration_run (backedUp : BackedUp start id path w) :
    Migrated start id path ((runDatabaseMigration outside j id).run w).2 ∧
      succeeded ((runDatabaseMigration outside j id).run w).1 = outside.migration.isOk := by
  obtain ⟨happened, isOpen, archive⟩ := backedUp
  have onRow : (w.row? id).bind (·.backupId) = some path := by
    obtain ⟨row, hit, _, backup⟩ := isOpen
    rw [hit]
    exact backup
  have events : w.events ++ [.migrated id ((w.row? id).bind (·.backupId))] =
      start ++ upToMigration id path := by
    rw [happened, onRow]
    simp [upToMigration]
  unfold runDatabaseMigration
  cases outside.migration with
  | ok output => exact ⟨⟨events, isOpen, archive⟩, rfl⟩
  | error output => exact ⟨⟨events, isOpen, archive⟩, rfl⟩

theorem afterConfigCheck_ends (real : options.dryRun = false) (backedUp : BackedUp start id path w)
    (all : AllSucceeded stages) (plain : Plain stages)
    (backup : backupResult.any (·.success) = true) :
    Ends start id (afterConfigCheck env outside j id toVersion options backupResult stages)
      (lastWrite outside (outside.migration.isOk && healthy outside) = none) w := by
  obtain ⟨res, ran, stage, success⟩ :=
    executeStage_run .DATABASE_MIGRATION (runDatabaseMigration outside j id) w
  obtain ⟨migrated, ans⟩ := runDatabaseMigration_run outside j backedUp
  rw [ans] at success
  unfold afterConfigCheck
  rw [if_neg (by simp [real])]
  apply after ran
  have other : res.stage ≠ .ROLLBACK := by rw [stage]; decide
  cases isOk : outside.migration.isOk with
  | true =>
    rw [isOk] at success
    rw [if_pos success]
    exact afterMigration_ends env outside j toVersion migrated (allSucceeded_append all success)
      (plain_append plain other) backup
  | false =>
    rw [isOk] at success
    rw [if_neg (by simp [success])]
    exact rollBack_ends env outside j toVersion migrated (plain_append plain other) backup _ _

theorem checkConfigCompatibility_run (w : World) :
    ((checkConfigCompatibility outside toVersion).run w).2 = w ∧
      succeeded ((checkConfigCompatibility outside toVersion).run w).1 = compatible outside := by
  unfold checkConfigCompatibility answered compatible
  cases outside.compatibility with
  | error msg => exact ⟨rfl, rfl⟩
  | ok compatResult =>
    dsimp only [pure_def, done_bind]
    cases compatResult.compatible with
    | true => exact ⟨rfl, rfl⟩
    | false => exact ⟨rfl, rfl⟩

theorem afterBackup_ends (real : options.dryRun = false) (backedUp : BackedUp start id path w)
    (all : AllSucceeded stages) (plain : Plain stages)
    (backup : backupResult.any (·.success) = true) :
    Ends start id (afterBackup env outside j id toVersion options backupResult stages)
      (lastWrite outside (compatible outside && (outside.migration.isOk && healthy outside)) = none)
      w := by
  obtain ⟨res, ran, stage, success⟩ :=
    executeStage_run .CONFIG_CHECK (checkConfigCompatibility outside toVersion) w
  obtain ⟨same, ans⟩ := checkConfigCompatibility_run outside toVersion w
  rw [same] at ran
  rw [ans] at success
  apply after ran
  have other : res.stage ≠ .ROLLBACK := by rw [stage]; decide
  cases isCompatible : compatible outside with
  | true =>
    rw [isCompatible] at success
    rw [if_pos success]
    exact afterConfigCheck_ends env outside j toVersion options real backedUp (allSucceeded_append all success)
      (plain_append plain other) backup
  | false =>
    rw [isCompatible] at success
    rw [if_neg (by simp [success])]
    exact abort_ends outside j toVersion backedUp.happened ⟨_, backedUp.isOpen⟩
      (plain_append plain other) rfl rfl _ _

theorem archiveFor_new {w' : World} (listing : BackupListing) {rest : List BackupListing}
    (mem : w'.backups = listing :: rest) : archiveFor w' listing.path = some listing := by
  unfold archiveFor
  rw [mem]
  simp

theorem backedUp_recorded (happened : w.events = start) (isOpen : Open id none w)
    (size : Option String) (file : String) (rest : List BackupListing) :
    BackedUp start id path (backupRecorded id (some path) size
      (happens (.backedUp id path) { w with backups := ⟨path, file⟩ :: rest })) := by
  constructor
  · rw [← happened]
    simp [backupRecorded, happens, rowUpdated]
  · obtain ⟨row, hit, status, _⟩ := isOpen
    refine ⟨{ row with backupId := some path, backupPath := some path, backupSize := size },
      ?_, status, rfl⟩
    have updated := row?_rowUpdated id (fun row =>
      { row with backupId := some path, backupPath := some path, backupSize := size }) w
      fun _ => rfl
    rw [hit] at updated
    exact updated
  · exact ⟨⟨path, file⟩, archiveFor_new ⟨path, file⟩ rfl, rfl⟩

theorem backUp_run (happened : w.events = start) (isOpen : Open id none w) :
    (∃ msg w' events, (backUp env outside id toVersion).run w =
        (.error msg, w') ∧ (outside.pgDump.isOk && outside.backupWrite.isNone) = false ∧
        (∃ backup, Open id backup w') ∧ w'.events = start ++ events ∧
        events.any isMigration = false ∧ events.any isRollback = false) ∨
      ∃ out backupResult path w', (backUp env outside id toVersion).run w =
          (.ok (out, backupResult), w') ∧
        (outside.pgDump.isOk && outside.backupWrite.isNone) = true ∧
        out.success = true ∧ backupResult.success = true ∧ BackedUp start id path w' := by
  unfold backUp
  cases outside.pgDump with
  | error msg =>
    refine .inl ⟨_, w, [], rfl, rfl, ⟨none, isOpen⟩, ?_, rfl, rfl⟩
    rw [happened, append_nil]
  | ok size =>
    let file := backupFilename env w.now ("pre-upgrade-" ++ toVersion)
    cases outside.backupWrite with
    | some msg =>
      refine .inl ⟨_, _, [.backedUp id (env.backupPath file)], rfl, rfl, ⟨none, isOpen⟩, ?_,
        rfl, rfl⟩
      rw [← happened]
      rfl
    | none =>
      refine .inr ⟨_, _, env.backupPath file, _, rfl, rfl, rfl, rfl, ?_⟩
      exact backedUp_recorded happened isOpen _ _ _

theorem afterValidation_ends (real : options.dryRun = false) (happened : w.events = start)
    (isOpen : Open id none w) (all : AllSucceeded stages) (plain : Plain stages) :
    Ends start id (afterValidation env outside j id toVersion options stages)
      (lastWrite outside (outside.pgDump.isOk && outside.backupWrite.isNone &&
        (compatible outside && (outside.migration.isOk && healthy outside))) = none) w := by
  unfold afterValidation
  rw [if_neg (by simp [real])]
  rcases backUp_run env outside toVersion happened isOpen with
    ⟨msg, w', events, ran, failed, isOpen, since, early, quiet⟩ |
    ⟨out, backupResult, path, w', ran, done, success, backup, backedUp⟩
  · rw [failed]
    apply after (by rw [Prog.run_attempt, ran])
    exact abort_ends outside j toVersion since isOpen (plain_append plain (by simp)) early quiet _ _
  · rw [done]
    apply after (by rw [Prog.run_attempt, ran])
    exact afterBackup_ends env outside j toVersion options real backedUp (allSucceeded_append all success)
        (plain_append plain (by simp)) backup

theorem runPreValidation_run (w : World) : ((runPreValidation outside options).run w).2 = w ∧
      succeeded ((runPreValidation outside options).run w).1 = validated outside options := by
  unfold runPreValidation answered validated
  cases outside.validation with
  | error msg => exact ⟨rfl, rfl⟩
  | ok validation =>
    dsimp only [pure_def, done_bind]
    cases validation.canProceed with
    | true => exact ⟨rfl, rfl⟩
    | false =>
      cases options.force with
      | true => exact ⟨rfl, rfl⟩
      | false => exact ⟨rfl, rfl⟩

theorem afterInitialization_ends (real : options.dryRun = false) (happened : w.events = start)
    (isOpen : Open id none w) (all : AllSucceeded stages) (plain : Plain stages) :
    Ends start id (afterInitialization env outside j id toVersion options stages)
      (lastWrite outside (goesThrough outside options) = none) w := by
  obtain ⟨res, ran, stage, success⟩ :=
    executeStage_run .PRE_VALIDATION (runPreValidation outside options) w
  obtain ⟨same, ans⟩ := runPreValidation_run outside options w
  rw [same] at ran
  rw [ans] at success
  unfold afterInitialization goesThrough
  apply after ran
  have other : res.stage ≠ .ROLLBACK := by rw [stage]; decide
  cases isValid : validated outside options with
  | true =>
    rw [isValid] at success
    rw [if_pos success]
    exact afterValidation_ends env outside j toVersion options real happened isOpen (allSucceeded_append all success)
      (plain_append plain other)
  | false =>
    rw [isValid] at success
    rw [if_neg (by simp [success])]
    have nothing : w.events = start ++ [] := by rw [happened, append_nil]
    exact abort_ends outside j toVersion nothing ⟨none, isOpen⟩ (plain_append plain other)
      rfl rfl _ _

theorem rowCreated_open (older : w.row? id = none) :
    Open id none (rowCreated env j id toVersion options w) := by
  let row : UpgradeAuditLog :=
    { id := id
      fromVersion := env.appVersion
      toVersion := toVersion
      status := .IN_PROGRESS
      startedAt := w.now
      initiatedBy := options.initiatedBy
      ipAddress := options.ipAddress
      dryRun := options.dryRun
      details := .started options.dryRun options.initiatedBy (options.note.filter (· ≠ "")) }
  refine ⟨row, ?_, rfl, rfl⟩
  unfold row? at older ⊢
  unfold rowCreated
  rw [find?_append, older]
  simp [row]

theorem initializeUpgrade_run (id : Nat) (w : World) :
    ((initializeUpgrade env outside j id toVersion options).run w).2 =
        (if outside.initialWrite.isNone then rowCreated env j id toVersion options w else w) ∧
      succeeded ((initializeUpgrade env outside j id toVersion options).run w).1 =
        outside.initialWrite.isNone := by
  unfold initializeUpgrade written
  cases outside.initialWrite with
  | none => exact ⟨rfl, rfl⟩
  | some msg => exact ⟨rfl, rfl⟩

/-- Without a row there is nothing to disagree with. -/
theorem unrecorded_ends (happened : w.events = start) (missing : w.row? id = none)
    (plain : Plain stages) (msg : String) :
    Ends start id (pure (buildFailureResult id toVersion stages msg)) True w := by
  refine ⟨_, w, [], rfl, ?_, rfl, ?_⟩
  · rw [happened, append_nil]
  · constructor
    · exact fun _ => trivial
    · intro _
      constructor
      · intro migrated
        cases migrated
      · intro migrated
        cases migrated
      · simp [buildFailureResult, rollbackOutcome_plain plain]
      · simp [buildFailureResult, missing]
      · simp [missing]

theorem Ends.congr {p : Call UpgradeResult} {cond cond' : Prop}
    (same : cond ↔ cond') (ends : Ends start id p cond w) :
    Ends start id p cond' w := by
  obtain ⟨res, w', events, ran, happened, isId, agrees⟩ := ends
  exact ⟨res, w', events, ran, happened, isId, agrees.trans same⟩

theorem runUpgrade_ends (real : options.dryRun = false) (fresh : ∀ row ∈ w.log, row.id < w.supply) :
    Ends w.events w.supply (runUpgrade env outside j toVersion options)
      (outside.initialWrite = none → lastWrite outside (goesThrough outside options) = none)
      w := by
  let numbered : World := { w with supply := w.supply + 1 }
  have older : numbered.row? w.supply = none := by
    unfold row?
    rw [find?_eq_none]
    intro row listed
    simp [(fresh row listed).ne]
  obtain ⟨res, ran, stage, success⟩ :=
    executeStage_run .INITIALIZATION
      (initializeUpgrade env outside j w.supply toVersion options) numbered
  obtain ⟨left, ans⟩ := initializeUpgrade_run env outside j toVersion options w.supply numbered
  rw [left] at ran
  rw [ans] at success
  have plain : Plain [res] := by
    intro listed mem
    rw [mem_singleton.mp mem, stage]
    decide
  have isNumbered : (atomic generateUpgradeId : Call Nat).run w = (.ok w.supply, numbered) := rfl
  apply after isNumbered
  apply after ran
  cases fault : outside.initialWrite with
  | some msg =>
    rw [fault] at success
    rw [if_neg (by simp [success]), if_neg (by simp)]
    have unchanged : numbered.events = w.events := rfl
    exact (unrecorded_ends toVersion unchanged older plain _).congr (by simp)
  | none =>
    rw [fault] at success
    have done : res.success = true := success
    have recorded : (none : Option String).isNone = true := rfl
    rw [if_pos done, if_pos recorded]
    have all : AllSucceeded [res] := by
      intro listed mem
      rw [mem_singleton.mp mem]
      exact success
    have isOpen : Open w.supply none (rowCreated env j w.supply toVersion options numbered) :=
      rowCreated_open env j toVersion options older
    have unchanged : (rowCreated env j w.supply toVersion options numbered).events =
      w.events := rfl
    exact (afterInitialization_ends env outside j toVersion options real unchanged isOpen all
      plain).congr ⟨fun h _ => h, fun h => h rfl⟩

def SameLog (w w' : World) : Prop :=
  w'.log = w.log ∧ w'.events = w.events ∧ w'.supply = w.supply

theorem assertNoUpgradeInProgress_keeps (i : Nat) :
    (assertNoUpgradeInProgress env j i toVersion).Keeps SameLog := by
  apply Keeps.bind (.read (fun _ => ⟨rfl, rfl, rfl⟩) _)
  intro seen
  apply Keeps.bind (.require _ _)
  intro _
  apply Keeps.bind
  · apply Keeps.atomic
    intro w
    unfold lookUp
    cases runningSince (seen.2 - IN_PROGRESS_TTL_MS) w with
    | some row => exact ⟨rfl, rfl, rfl⟩
    | none => exact ⟨rfl, rfl, rfl⟩
  · intro running
    cases running with
    | some row => trivial
    | none => exact .modify fun _ => ⟨rfl, rfl, rfl⟩

theorem assertNoUpgradeInProgress_run (i : Nat) (w : World) :
    SameLog w ((assertNoUpgradeInProgress env j i toVersion).run w).2 :=
  (assertNoUpgradeInProgress_keeps env j toVersion i).run (fun _ => ⟨rfl, rfl, rfl⟩)
    (fun first snd => ⟨snd.1.trans first.1, snd.2.1.trans first.2.1, snd.2.2.trans first.2.2⟩) w

theorem guardedRun_ends (i : Nat) (real : options.dryRun = false)
    (fresh : ∀ row ∈ w.log, row.id < w.supply) :
    Ends w.events w.supply (guardedRun env outside j i toVersion options)
      (outside.initialWrite = none → lastWrite outside (goesThrough outside options) = none)
      w := by
  obtain ⟨res, w', events, ran, since, same, agrees⟩ :=
    runUpgrade_ends env outside j toVersion options real fresh
  refine ⟨res, { w' with inFlight := update w'.inFlight i false }.at j .finished,
    events, ?_, since, same, agrees⟩
  unfold guardedRun
  rw [run_attempt_bind, ran]
  rfl

theorem upgrade_eq (i : Nat) (real : options.dryRun = false) :
    (∃ refusal, upgrade env outside j i toVersion options = .fail refusal) ∨
      upgrade env outside j i toVersion options =
        (assertNoUpgradeInProgress env j i toVersion >>= fun _ =>
          guardedRun env outside j i toVersion options) := by
  unfold upgrade assertRollbackAvailable
  rw [real]
  cases options.force with
  | true => exact .inr rfl
  | false =>
    cases env.allowLiveRestore with
    | true => exact .inr rfl
    | false => exact .inl ⟨_, rfl⟩

/-- A refused upgrade leaves nothing.  The result, the events and the row of every other one
agree exactly when the last write to the row succeeds. -/
theorem upgrade_outcome (i : Nat) (real : options.dryRun = false)
    (fresh : ∀ row ∈ w.log, row.id < w.supply) :
    (∃ refusal w', (upgrade env outside j i toVersion options).run w =
        (.error refusal, w') ∧ w'.log = w.log ∧ w'.events = w.events) ∨
      ∃ res w' events, (upgrade env outside j i toVersion options).run w =
        (.ok res, w') ∧ w'.events = w.events ++ events ∧
        (Agrees res.upgradeId res (w'.row? res.upgradeId) events ↔ (outside.initialWrite = none →
            lastWrite outside (goesThrough outside options) = none)) := by
  rcases upgrade_eq env outside j toVersion options i real with
    ⟨refusal, refused⟩ | goesOn
  · rw [refused]
    exact .inl ⟨refusal, w, rfl, rfl, rfl⟩
  · rw [goesOn, run_bind]
    have kept := assertNoUpgradeInProgress_run env j toVersion i w
    rcases guard : (assertNoUpgradeInProgress env j i toVersion).run w with ⟨ans, passed⟩
    rw [guard] at kept
    obtain ⟨log, since, supply⟩ := kept
    cases ans with
    | error refusal => exact .inl ⟨refusal, passed, rfl, log, since⟩
    | ok _ =>
      have fresh' : ∀ row ∈ passed.log, row.id < passed.supply := by
        intro row mem
        rw [log] at mem
        rw [supply]
        exact fresh row mem
      obtain ⟨res, w', events, ran, happened, same, agrees⟩ :=
        guardedRun_ends env outside j toVersion options i real fresh'
      refine .inr ⟨res, w', events, ran, happened.trans (by rw [since]), ?_⟩
      rw [same]
      exact agrees

end Stages

def smooth : Outside where
  validation := .ok ⟨true, [], 5⟩
  pgDump := .ok "12 MB"
  compatibility := .ok ⟨true, []⟩
  migration := .ok "All migrations have been successfully applied."
  health := .ok ⟨true, [], 4, 0⟩

def cluster : Environment where
  allowLiveRestore := true
  toISOString := fun time => toString time

/-- The upgrade whose writes all succeed. -/
theorem smooth_upgrade : ∃ res w' events,
    (upgrade cluster smooth 0 0 "2.0.0" {}).run {} = (.ok res, w') ∧
      Agrees res.upgradeId res (w'.row? res.upgradeId) events := by
  have nothing : ∀ row ∈ ({} : World).log, row.id < ({} : World).supply := by
    intro row mem
    cases mem
  rcases upgrade_outcome cluster smooth 0 "2.0.0" {} 0 rfl nothing with
    ⟨refusal, w', refused, _⟩ | ⟨res, w', events, ran, _, agrees⟩
  · cases refused
  · exact ⟨res, w', events, ran, agrees.mpr fun _ => rfl⟩

/-- A run that could not record its completion reports success, and its row stays in progress. -/
theorem unrecorded_success : ∃ res w',
    (upgrade cluster { smooth with completionWrite := some "Connection terminated" } 0 0 "2.0.0"
        {}).run {} = (.ok res, w') ∧
      res.success = true ∧ failedStage res.stages = true ∧
      (w'.row? res.upgradeId).map (·.status) = some .IN_PROGRESS ∧
      res.rollbackTriggered = false ∧ w'.events.any isMigration = true := by
  refine ⟨_, _, rfl, ?_⟩
  decide +kernel

end Idenplane.Upgrade
