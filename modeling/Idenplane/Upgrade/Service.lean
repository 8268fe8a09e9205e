import Idenplane.Admin.Attributes
import Mathlib.Data.Int.Order.Basic

/-! # Upgrades

`UpgradeService` and `RollbackService`.  What the database, the tools of PostgreSQL and the other
services of an upgrade answer is an argument of the call.
-/

namespace Idenplane.Upgrade

open Atomic Admin Prog List

inductive UpgradeStage where
  | INITIALIZATION
  | PRE_VALIDATION
  | BACKUP
  | CONFIG_CHECK
  | DATABASE_MIGRATION
  | POST_HEALTH_CHECK
  | COMPLETION
  | FAILED
  | ROLLBACK
  deriving DecidableEq

inductive UpgradeStatus where
  | IN_PROGRESS
  | COMPLETED
  | FAILED
  | ROLLBACK_COMPLETED
  | ROLLBACK_FAILED
  deriving DecidableEq

structure StageOutcome where
  success : Bool
  message : String
  details : Option String := none
  deriving DecidableEq

structure UpgradeStageResult where
  stage : UpgradeStage
  success : Bool
  message : String
  details : Option String := none
  deriving DecidableEq

structure BackupResult where
  success : Bool
  (backupPath backupSize error : Option String := none)
  timestamp : Int
  deriving DecidableEq

structure UpgradeResult where
  success : Bool
  upgradeId : Nat
  toVersion : String
  stages : List UpgradeStageResult
  backupResult : Option BackupResult := none
  rollbackTriggered : Bool
  rollbackSucceeded : Option Bool := none
  error : Option String := none
  deriving DecidableEq

/-- `details` of a row. -/
inductive Details where
  | started (dryRun : Bool) (initiatedBy : String) (note : Option String)
  | completed (stepsCompleted : List UpgradeStage)
  | failed (errorMessage : String) (stepsCompleted stepsFailed : List UpgradeStage)
  | rolledBack (rollbackFromVersion : String) (originalStartedAt : Int) (errorMessage : Option String)
  deriving DecidableEq

structure UpgradeAuditLog where
  id : Nat
  fromVersion : String
  toVersion : String
  status : UpgradeStatus
  startedAt : Int
  completedAt : Option Int := none
  initiatedBy : String
  (backupId backupPath backupSize ipAddress : Option String := none)
  (dryRun rollbackTriggered : Bool := false)
  details : Details
  deriving DecidableEq

structure BackupListing where
  path : String
  filename : String
  deriving DecidableEq

/-- How far a call has come: it has found no other upgrade, passed the guard, written its row,
written the end of its row, and returned. -/
inductive Phase where
  | idle
  | lookedUp
  | admitted
  | running
  | settling
  | finished
  deriving DecidableEq

/-- What an upgrade does outside the audit log, in order; a migration and a rollback with the backup
that is on the row when they begin. -/
inductive Event where
  | backedUp (upgradeId : Nat) (path : String)
  | recorded (upgradeId : Nat) (path : String)
  | migrated (upgradeId : Nat) (backupId : Option String)
  | rollback (upgradeId : Nat) (backupId : Option String)
  | restored (upgradeId : Nat) (path : String)
  | rolledBack (upgradeId : Nat) (success : Bool)
  deriving DecidableEq

/-- The process environment; `backupPath` is `path.join` after `BACKUP_DIR`. -/
structure Environment where
  allowLiveRestore : Bool := false
  appVersion : String := "1.0.0"
  backupPath : String → String := fun file => "backups/" ++ file
  toISOString : Int → String

/-- The audit log, the archives of `listBackups`, and the flag of each instance.  No program reads
the fields behind them: they are about calls that run at the same time, and about the order of
events. -/
structure World where
  now : Int := 0
  supply : Nat := 0
  log : List UpgradeAuditLog := []
  backups : List BackupListing := []
  inFlight : Nat → Bool := fun _ => false
  phase : Nat → Phase := fun _ => .idle
  beganAt : Nat → Int := fun _ => 0
  /-- The row of a call that has written one. -/
  upgradeOf : Nat → Nat := fun _ => 0
  migrating : Nat → Bool := fun _ => false
  /-- From the first event to the last. -/
  events : List Event := []

abbrev Call (α : Type) := Prog World Failure α

abbrev Throwing (α : Type) := Prog World String α

def happens (event : Event) (w : World) : World :=
  { w with events := w.events ++ [event] }

/-- `ORDER BY … DESC`: an empty column comes first. -/
def precedes : Option Int → Option Int → Bool
  | none, some _ => true
  | some time, some other => other < time
  | _, none => false

def newest (key : UpgradeAuditLog → Option Int) : List UpgradeAuditLog → Option UpgradeAuditLog
  | [] => none
  | row :: rest =>
    match newest key rest with
    | none => some row
    | some other => if precedes (key other) (key row) then some other else some row

variable {key : UpgradeAuditLog → Option Int} {rows : List UpgradeAuditLog} {row : UpgradeAuditLog}

theorem newest_mem (first : newest key rows = some row) : row ∈ rows := by
  induction rows generalizing row with
  | nil => cases first
  | cons head rest ih =>
    unfold newest at first
    cases later : newest key rest with
    | none =>
      rw [later] at first
      cases first
      exact mem_cons_self
    | some other =>
      rw [later] at first
      dsimp only at first
      split at first
      · cases first
        exact .tail _ (ih later)
      · cases first
        exact mem_cons_self

theorem newest_isSome (key : UpgradeAuditLog → Option Int) (mem : row ∈ rows) : ∃ first, newest key rows = some first := by
  cases rows with
  | nil => cases mem
  | cons head rest =>
    unfold newest
    cases newest key rest with
    | none => exact ⟨head, rfl⟩
    | some other =>
      dsimp only
      split
      · exact ⟨other, rfl⟩
      · exact ⟨head, rfl⟩

theorem precedes_trans {a b c : Option Int} (first : precedes a b = false)
    (snd : precedes b c = false) : precedes a c = false := by
  cases a with
  | none =>
    cases b with
    | none => exact snd
    | some _ => cases first
  | some a =>
    cases c with
    | none => rfl
    | some c =>
      cases b with
      | none => cases snd
      | some b =>
        simp only [precedes, decide_eq_false_iff_not] at first snd ⊢
        omega

theorem precedes_asymm {a b : Option Int} (first : precedes a b = true) : precedes b a = false := by
  cases a with
  | none =>
    cases b with
    | none => cases first
    | some _ => rfl
  | some a =>
    cases b with
    | none => cases first
    | some b =>
      simp only [precedes, decide_eq_true_eq, decide_eq_false_iff_not] at first ⊢
      omega

theorem precedes_self (a : Option Int) : precedes a a = false := by
  cases a with
  | none => rfl
  | some a => simp [precedes]

theorem newest_first (first : newest key rows = some row) :
    ∀ other ∈ rows, precedes (key other) (key row) = false := by
  induction rows generalizing row with
  | nil => cases first
  | cons head rest ih =>
    intro other mem
    unfold newest at first
    cases later : newest key rest with
    | none =>
      rw [later] at first
      cases first
      rcases mem_cons.mp mem with rfl | inRest
      · exact precedes_self _
      · obtain ⟨hit, isSome⟩ := newest_isSome key inRest
        rw [later] at isSome
        cases isSome
    | some best =>
      rw [later] at first
      dsimp only at first
      split at first
      · rename_i before
        cases first
        rcases mem_cons.mp mem with rfl | inRest
        · exact precedes_asymm before
        · exact ih later other inRest
      · rename_i after
        cases first
        rcases mem_cons.mp mem with rfl | inRest
        · exact precedes_self _
        · exact precedes_trans (ih later other inRest) (not_eq_true _ ▸ after)

theorem newest_filter (narrow : UpgradeAuditLog → Bool)
    (first : newest key rows = some row) (passes : narrow row = true) :
    newest key (rows.filter narrow) = some row := by
  induction rows generalizing row with
  | nil => cases first
  | cons head rest ih =>
    have all := newest_first first
    unfold newest at first
    cases later : newest key rest with
    | none =>
      rw [later] at first
      cases first
      have empty : rest = [] := by
        cases rest with
        | nil => rfl
        | cons other tail =>
          obtain ⟨hit, isSome⟩ := newest_isSome key (mem_cons_self (a := other) (l := tail))
          rw [later] at isSome
          cases isSome
      rw [empty, filter_cons_of_pos passes]
      rfl
    | some best =>
      rw [later] at first
      dsimp only at first
      split at first
      · rename_i before
        cases first
        have inRest := ih later passes
        cases kept : narrow head with
        | false => rw [filter_cons_of_neg (by simp [kept]), inRest]
        | true =>
          rw [filter_cons_of_pos kept]
          unfold newest
          rw [inRest]
          simp [before]
      · cases first
        rw [filter_cons_of_pos passes]
        unfold newest
        cases filtered : newest key (rest.filter narrow) with
        | none => rfl
        | some other =>
          have listed := (mem_filter.mp (newest_mem filtered)).1
          simp [all other (.tail _ listed)]

def World.row? (w : World) (id : Nat) : Option UpgradeAuditLog := w.log.find? (·.id = id)

/-- `upgradeAuditLog.update` by id. -/
def rowUpdated (id : Nat) (change : UpgradeAuditLog → UpgradeAuditLog) (w : World) : World :=
  { w with log := w.log.map fun row => if row.id = id then change row else row }

def written (fault : Option String) (change : World → World) : Throwing Unit :=
  match fault with
  | none => modify change
  | some message => fail message

def safeLabel (label : String) : String :=
  String.ofList (label.toList.filter fun c => c.isAlphanum || c = '-' || c = '_')

def timestampStr (env : Environment) (now : Int) : String :=
  String.ofList ((env.toISOString now).toList.map fun c => if c = ':' || c = '.' then '-' else c)

def backupFilename (env : Environment) (now : Int) (label : String) : String :=
  "idenplane-backup-" ++ timestampStr env now ++ "-" ++ safeLabel label ++ ".dump"

/-- `createBackup`: `pg_dump` fails, or leaves an archive of this size. -/
def createBackup (env : Environment) (pgDump : Except String String) (upgradeId : Nat) (label : String)
    (w : World) : BackupResult × World :=
  match pgDump with
  | .error message => ({ success := false, error := some message, timestamp := w.now }, w)
  | .ok size =>
    ({ success := true
       backupPath := some (env.backupPath (backupFilename env w.now label))
       backupSize := some size
       timestamp := w.now },
      happens (.backedUp upgradeId (env.backupPath (backupFilename env w.now label)))
        { w with
          backups :=
            ⟨env.backupPath (backupFilename env w.now label), backupFilename env w.now label⟩ ::
              w.backups.filter (·.path ≠ env.backupPath (backupFilename env w.now label)) })

structure RollbackResult where
  success : Bool
  (rollbackVersion previousVersion : Option String := none)
  backupRestored : Option Bool := none
  (backupPath error : Option String := none)
  deriving DecidableEq

structure LastSuccessfulUpgrade where
  id : Nat
  fromVersion : String
  toVersion : String
  backupId : Option String
  completedAt : Option Int
  deriving DecidableEq

structure RollbackCapability where
  canRollback : Bool
  lastSuccessfulUpgrade : Option LastSuccessfulUpgrade := none
  reason : Option String := none
  deriving DecidableEq

/-- What the database and `pg_restore` answer to a rollback: the errors of the query, of the restore
and of the last write, and whether the archive of a path can be read. -/
structure RollbackOutside where
  query : Option String := none
  verifyBackup : String → Bool := fun _ => true
  (restore record : Option String := none)

section Rollback

def lastSuccessful (w : World) : Option UpgradeAuditLog :=
  newest (·.completedAt) (w.log.filter fun row => row.status = .COMPLETED && row.backupId.isSome)

def lastCompleted (w : World) : Option UpgradeAuditLog :=
  newest (·.completedAt) (w.log.filter fun row => row.status = .COMPLETED)

def checkRollbackCapability (query : Option String) : Call RollbackCapability := do
  match query with
  | some message =>
    pure { canRollback := false, reason := some ("Database error: " ++ message) }
  | none => do
    let lastSuccessful ← read lastSuccessful
    match lastSuccessful with
    | none =>
      pure { canRollback := false, reason := some "No successful upgrade with a backup found" }
    | some row =>
      pure {
        canRollback := true
        lastSuccessfulUpgrade := some {
          id := row.id
          fromVersion := row.fromVersion
          toVersion := row.toVersion
          backupId := row.backupId
          completedAt := row.completedAt } }

def World.upgrade? (w : World) (upgradeId : Option Nat) : Option UpgradeAuditLog :=
  match upgradeId with
  | some id => w.row? id
  | none => lastCompleted w

def manualRestoreHint (query : Option String) (upgrade : Option UpgradeAuditLog) : String :=
  if query.isSome then "  (could not determine the backup archive for that upgrade)"
  else
    match upgrade.bind fun row => row.backupPath.or row.backupId with
    | none => "  (no backup is recorded for that upgrade — nothing to restore)"
    | some archive =>
      "  pg_restore --clean --if-exists --no-owner --no-privileges \\\n" ++
        "    --single-transaction --exit-on-error \\\n" ++
        "    -d \"$DATABASE_URL\" " ++ archive

def includes (haystack needle : String) : Bool :=
  haystack.toList.tails.any (needle.toList.isPrefixOf ·)

/-- The archive that `backups.find` takes for a backup. -/
def archiveFor (w : World) (backupId : String) : Option BackupListing :=
  w.backups.find? fun backup => includes backup.filename backupId || backup.path = backupId

def rollbackRecorded (original : UpgradeAuditLog) (success : Bool) (error backupPath : Option String)
    (w : World) : World :=
  { w with
    supply := w.supply + 1
    log := w.log ++
      [{ id := w.supply
         fromVersion := original.toVersion
         toVersion := original.fromVersion
         status := if success then .ROLLBACK_COMPLETED else .ROLLBACK_FAILED
         startedAt := w.now
         completedAt := some w.now
         initiatedBy := "ROLLBACK_SERVICE"
         backupId := backupPath
         rollbackTriggered := true
         details := .rolledBack original.toVersion original.startedAt error }] }

def restoreUpgrade (outside : RollbackOutside) (upgrade : UpgradeAuditLog) (backup : BackupListing) :
    Throwing RollbackResult :=
  match outside.restore with
  | some message => do
    written outside.record (rollbackRecorded upgrade false (some message) none)
    pure {
      success := false
      rollbackVersion := some upgrade.toVersion
      previousVersion := some upgrade.fromVersion
      error := some message }
  | none => do
    modify (happens (.restored upgrade.id backup.path))
    written outside.record (rollbackRecorded upgrade true none (some backup.path))
    pure {
      success := true
      rollbackVersion := some upgrade.fromVersion
      previousVersion := some upgrade.toVersion
      backupRestored := some true
      backupPath := some backup.path }

def refusedRollback (error : String) : RollbackResult := { success := false, error := some error }

def findAndRestore (outside : RollbackOutside) (upgradeId : Option Nat) : Throwing RollbackResult :=
  match outside.query with
  | some message => fail message
  | none => do
    let upgrade ← read fun w => w.upgrade? upgradeId
    match upgrade with
    | none => pure (refusedRollback "No upgrade found to roll back")
    | some upgrade =>
      match upgrade.backupId with
      | none => pure (refusedRollback "Upgrade does not have an associated backup for rollback")
      | some backupId => do
        let archive ← read fun w => archiveFor w backupId
        match archive with
        | none => pure (refusedRollback ("Backup file not found: " ++ backupId))
        | some backup =>
          if outside.verifyBackup backup.path then restoreUpgrade outside upgrade backup
          else
            pure (refusedRollback ("Backup file is invalid or corrupted: " ++ backup.path))

def executeRollback (env : Environment) (outside : RollbackOutside) (upgradeId : Option Nat) :
    Call RollbackResult :=
  if env.allowLiveRestore then do
    let res ← (findAndRestore outside upgradeId).attempt
    match res with
    | .ok res => pure res
    | .error message => pure (refusedRollback message)
  else do
    let upgrade ← read fun w => w.upgrade? upgradeId
    pure (refusedRollback ("Live database restore is disabled. Restoring over a running " ++
        "database requires exclusive locks that conflict with other " ++
        "replicas. Scale to a single instance, then either set " ++
        "UPGRADE_ALLOW_LIVE_RESTORE=true or run the restore manually:\n" ++
        manualRestoreHint outside.query upgrade))

end Rollback

inductive CheckStatus where
  | pass
  | warn
  | fail
  deriving DecidableEq

structure Check where
  name : String
  status : CheckStatus
  message : String

/-- The results of the services that look at the host, the configuration and the health. -/
structure Validation where
  canProceed : Bool
  checks : List Check
  passed : Nat

structure Issue where
  isError : Bool
  path : String
  message : String

structure Compatibility where
  compatible : Bool
  issues : List Issue

structure Health where
  healthy : Bool
  checks : List Check
  passed : Nat
  warnings : Nat

/-- What one upgrade gets from outside.  A write to the audit log may throw, each service may throw
or answer, and the tools may fail. -/
structure Outside where
  initialWrite : Option String := none
  validation : Except String Validation
  pgDump : Except String String
  backupWrite : Option String := none
  compatibility : Except String Compatibility
  migration : Except String String
  health : Except String Health
  (completionWrite failureWrite : Option String := none)
  rollback : RollbackOutside := {}

structure Options where
  (dryRun force : Bool := false)
  initiatedBy : String := "CLI"
  (note ipAddress : Option String := none)

def executeStage (stage : UpgradeStage) (body : Throwing StageOutcome) : Call UpgradeStageResult := do
  let outcome ← body.attempt
  match outcome with
  | .ok res => pure ⟨stage, res.success, res.message, res.details⟩
  | .error message => pure ⟨stage, false, message, none⟩

def failures (checks : List Check) : List Check := checks.filter (·.status = .fail)

def failureMessages (checks : List Check) : String :=
  "; ".intercalate ((failures checks).map fun check => check.name ++ ": " ++ check.message)

/-- Call `j` is at a phase. -/
def World.at (w : World) (j : Nat) (phase : Phase) : World :=
  { w with phase := update w.phase j phase }

section Stages

variable (env : Environment) (outside : Outside) (j upgradeId : Nat) (toVersion : String)
  (options : Options)

def rowCreated (w : World) : World :=
  { w with
    log := w.log ++
      [{ id := upgradeId
         fromVersion := env.appVersion
         toVersion := toVersion
         status := .IN_PROGRESS
         startedAt := w.now
         initiatedBy := options.initiatedBy
         ipAddress := options.ipAddress
         dryRun := options.dryRun
         details := .started options.dryRun options.initiatedBy (options.note.filter (· ≠ "")) }]
    upgradeOf := update w.upgradeOf j upgradeId
    phase := update w.phase j .running }

def initializeUpgrade : Throwing StageOutcome := do
  let created ← (written outside.initialWrite (rowCreated env j upgradeId toVersion options)).attempt
  match created with
  | .ok _ =>
    pure ⟨true, "Upgrade initialized: " ++ env.appVersion ++ " -> " ++ toVersion, none⟩
  | .error message => pure ⟨false, "Failed to initialize upgrade: " ++ message, none⟩

def answered {α : Type} (answer : Except String α) : Throwing α :=
  match answer with
  | .ok value => pure value
  | .error message => fail message

def runPreValidation : Throwing StageOutcome := do
  let validation ← answered outside.validation
  if !validation.canProceed && !options.force then
    pure ⟨false, "Pre-validation failed with " ++ toString (failures validation.checks).length ++
      " failure(s)", some (failureMessages validation.checks)⟩
  else
    pure ⟨true, "Pre-validation passed (" ++ toString validation.passed ++ " passed, " ++
      toString (validation.checks.filter (·.status = .warn)).length ++ " warnings)",
      some ("Validation can proceed: " ++ toString validation.canProceed)⟩

def backupRecorded (path size : Option String) (w : World) : World :=
  happens (.recorded upgradeId (path.getD "")) (rowUpdated upgradeId
      (fun row => { row with backupId := path, backupPath := path, backupSize := size }) w)

def backUp : Throwing (StageOutcome × BackupResult) := do
  let backupResult ← atomic
    (createBackup env outside.pgDump upgradeId ("pre-upgrade-" ++ toVersion))
  require backupResult.success ("Backup failed: " ++ backupResult.error.getD "undefined")
  written outside.backupWrite
    (backupRecorded upgradeId backupResult.backupPath backupResult.backupSize)
  pure (⟨true, "Backup created: " ++ backupResult.backupPath.getD "undefined",
    some ("Size: " ++ backupResult.backupSize.getD "undefined")⟩, backupResult)

def checkConfigCompatibility : Throwing StageOutcome := do
  let compatResult ← answered outside.compatibility
  if compatResult.compatible then
    pure ⟨true, "Configuration compatible with " ++ toVersion,
      some (toString (compatResult.issues.filter (!·.isError)).length ++ " warning(s) found")⟩
  else
    pure ⟨false, "Configuration incompatible with " ++ toVersion,
      some ("; ".intercalate ((compatResult.issues.filter (·.isError)).map fun issue =>
        issue.path ++ ": " ++ issue.message))⟩

/-- `prisma migrate deploy`, from its start to its end. -/
def runDatabaseMigration : Throwing StageOutcome := do
  modify fun w => happens (.migrated upgradeId ((w.row? upgradeId).bind (·.backupId)))
    { w with migrating := update w.migrating j true }
  modify fun w => { w with migrating := update w.migrating j false }
  match outside.migration with
  | .ok output => pure ⟨true, "Database migrations applied successfully", some output⟩
  | .error output => pure ⟨false, "Database migration failed", some output⟩

def runPostHealthCheck : Throwing StageOutcome := do
  let healthResult ← answered outside.health
  if healthResult.healthy then
    pure ⟨true, "All health checks passed", some (toString healthResult.passed ++ " passed, " ++
      toString healthResult.warnings ++ " warnings")⟩
  else
    pure ⟨false, "Health check failed with " ++ toString (failures healthResult.checks).length ++
      " failure(s)", some (failureMessages healthResult.checks)⟩

def succeededStages (stages : List UpgradeStageResult) : List UpgradeStage :=
  (stages.filter (·.success)).map (·.stage)

def failedStages (stages : List UpgradeStageResult) : List UpgradeStage :=
  (stages.filter (!·.success)).map (·.stage)

def rowEnded (status : UpgradeStatus) (details : Details) (w : World) : World :=
  (rowUpdated upgradeId
    (fun row => { row with
      status := status, completedAt := some w.now, details := details }) w).at j .settling

def completeUpgrade (stages : List UpgradeStageResult) : Throwing StageOutcome := do
  let recorded ← (written outside.completionWrite
    (rowEnded j upgradeId .COMPLETED (.completed (succeededStages stages)))).attempt
  match recorded with
  | .ok _ => pure ⟨true, "Upgrade to " ++ toVersion ++ " completed successfully", none⟩
  | .error message => pure ⟨false, "Failed to record completion: " ++ message, none⟩

def recordUpgradeFailure (stages : List UpgradeStageResult) (reason : String) : Call Unit := do
  let _ ← (written outside.failureWrite (rowEnded j upgradeId .FAILED
      (.failed reason (succeededStages stages) (failedStages stages)))).attempt
  pure ()

def rollbackOutcome (stages : List UpgradeStageResult) : Bool × Option Bool :=
  match stages.find? (·.stage = .ROLLBACK) with
  | some rollback => (true, some rollback.success)
  | none => (false, none)

def buildFailureResult (stages : List UpgradeStageResult) (error : String) : UpgradeResult where
  success := false
  upgradeId := upgradeId
  toVersion := toVersion
  stages := stages
  rollbackTriggered := (rollbackOutcome stages).1
  rollbackSucceeded := (rollbackOutcome stages).2
  error := some error

def attemptRollback : Call UpgradeStageResult := do
  modify fun w =>
    happens (.rollback upgradeId ((w.row? upgradeId).bind (·.backupId))) w
  let rollbackResult ← executeRollback env outside.rollback (some upgradeId)
  modify (happens (.rolledBack upgradeId rollbackResult.success))
  if rollbackResult.success then
    pure ⟨.ROLLBACK, true, "Rollback completed successfully",
      some ("Restored to " ++ rollbackResult.rollbackVersion.getD "undefined")⟩
  else
    pure ⟨.ROLLBACK, false, "Rollback failed: " ++ rollbackResult.error.getD "undefined", none⟩

def abort (stages : List UpgradeStageResult) (reason message : String) : Call UpgradeResult := do
  recordUpgradeFailure outside j upgradeId stages reason
  pure (buildFailureResult upgradeId toVersion stages message)

/-- A failure after the migration has started. -/
def rollBack (backupResult : Option BackupResult) (stages : List UpgradeStageResult)
    (reason message : String) : Call UpgradeResult :=
  if backupResult.any (·.success) then do
    let rollbackResult ← attemptRollback env outside upgradeId
    abort outside j upgradeId toVersion (stages ++ [rollbackResult]) reason message
  else abort outside j upgradeId toVersion stages reason message

def afterHealthCheck (backupResult : Option BackupResult) (stages : List UpgradeStageResult) :
    Call UpgradeResult := do
  let completionResult ← executeStage .COMPLETION
    (completeUpgrade outside j upgradeId toVersion stages)
  pure {
    success := true
    upgradeId := upgradeId
    toVersion := toVersion
    stages := stages ++ [completionResult]
    backupResult := backupResult
    rollbackTriggered := false }

def afterMigration (backupResult : Option BackupResult) (stages : List UpgradeStageResult) :
    Call UpgradeResult := do
  let healthResult ← executeStage .POST_HEALTH_CHECK (runPostHealthCheck outside)
  if healthResult.success then
    afterHealthCheck outside j upgradeId toVersion backupResult (stages ++ [healthResult])
  else
    rollBack env outside j upgradeId toVersion backupResult (stages ++ [healthResult])
      "Post-upgrade health check failed" healthResult.message

def afterConfigCheck (backupResult : Option BackupResult) (stages : List UpgradeStageResult) :
    Call UpgradeResult :=
  if options.dryRun then
    afterMigration env outside j upgradeId toVersion backupResult
      (stages ++ [⟨.DATABASE_MIGRATION, true, "Migration skipped (dry-run mode)", none⟩])
  else do
    let migrationResult ← executeStage .DATABASE_MIGRATION (runDatabaseMigration outside j upgradeId)
    if migrationResult.success then
      afterMigration env outside j upgradeId toVersion backupResult (stages ++ [migrationResult])
    else
      rollBack env outside j upgradeId toVersion backupResult (stages ++ [migrationResult])
        "Database migration failed" migrationResult.message

def afterBackup (backupResult : Option BackupResult) (stages : List UpgradeStageResult) :
    Call UpgradeResult := do
  let configResult ← executeStage .CONFIG_CHECK (checkConfigCompatibility outside toVersion)
  if configResult.success then
    afterConfigCheck env outside j upgradeId toVersion options backupResult (stages ++ [configResult])
  else
    abort outside j upgradeId toVersion (stages ++ [configResult]) "Configuration incompatibility"
      configResult.message

def afterValidation (stages : List UpgradeStageResult) : Call UpgradeResult :=
  if options.dryRun then
    afterBackup env outside j upgradeId toVersion options none
      (stages ++ [⟨.BACKUP, true, "Backup skipped (dry-run mode)", none⟩])
  else do
    let outcome ← (backUp env outside upgradeId toVersion).attempt
    match outcome with
    | .ok (res, backupResult) =>
      afterBackup env outside j upgradeId toVersion options (some backupResult)
        (stages ++ [⟨.BACKUP, res.success, res.message, res.details⟩])
    | .error message =>
      abort outside j upgradeId toVersion (stages ++ [⟨.BACKUP, false, message, none⟩])
        "Backup failed" message

def afterInitialization (stages : List UpgradeStageResult) : Call UpgradeResult := do
  let preValidationResult ← executeStage .PRE_VALIDATION (runPreValidation outside options)
  if preValidationResult.success then
    afterValidation env outside j upgradeId toVersion options (stages ++ [preValidationResult])
  else
    abort outside j upgradeId toVersion (stages ++ [preValidationResult])
      "Pre-upgrade validation failed" preValidationResult.message

end Stages

section Upgrades

variable (env : Environment) (outside : Outside) (j i : Nat) (toVersion : String) (options : Options)

def generateUpgradeId (w : World) : Nat × World :=
  (w.supply, { w with supply := w.supply + 1 })

def runUpgrade : Call UpgradeResult := do
  let upgradeId ← atomic generateUpgradeId
  let initResult ← executeStage .INITIALIZATION
    (initializeUpgrade env outside j upgradeId toVersion options)
  if initResult.success then
    afterInitialization env outside j upgradeId toVersion options [initResult]
  else pure (buildFailureResult upgradeId toVersion [initResult] initResult.message)

def IN_PROGRESS_TTL_MS : Int := 2 * 60 * 60 * 1000

/-- The last upgrade that has begun since then and is in progress.  A call that finds none goes on. -/
def runningSince (cutoff : Int) (w : World) : Option UpgradeAuditLog :=
  newest (fun row => some row.startedAt)
    (w.log.filter fun row => row.status = .IN_PROGRESS && decide (cutoff ≤ row.startedAt))

def lookUp (cutoff : Int) (w : World) : Option UpgradeAuditLog × World :=
  match runningSince cutoff w with
  | some row => (some row, w)
  | none =>
    (none, { w with
      phase := update w.phase j .lookedUp
      beganAt := update w.beganAt j w.now })

def assertNoUpgradeInProgress : Call Unit := do
  let (inFlight, now) ← read fun w => (w.inFlight i, w.now)
  require (!inFlight) (conflict "An upgrade is already running on this instance.")
  let running ← atomic (lookUp j (now - IN_PROGRESS_TTL_MS))
  match running with
  | some row =>
    fail (conflict
      ("An upgrade to " ++ row.toVersion ++ " started at " ++ env.toISOString row.startedAt ++
        " is still in progress (id " ++ toString row.id ++
        "). Refusing to start an upgrade to " ++ toVersion ++
        " concurrently — two migrations against one database can corrupt it. " ++
        "If that upgrade is known to have died, mark its row FAILED."))
  | none => modify fun w =>
    { w with inFlight := update w.inFlight i true }.at j .admitted

def assertRollbackAvailable : Call Unit :=
  require env.allowLiveRestore (conflict
    ("Refusing to start: this upgrade could not be rolled back. Restoring a " ++
      "backup over the running database requires UPGRADE_ALLOW_LIVE_RESTORE=true, " ++
      "which is unset — so a failure after the migration would leave the database " ++
      "modified with no automatic recovery. Scale to a single instance and set " ++
      "that variable, or pass force to proceed without a recovery path."))

def guardedRun : Call UpgradeResult := do
  let res ← (runUpgrade env outside j toVersion options).attempt
  modify fun w =>
    { w with inFlight := update w.inFlight i false }.at j .finished
  match res with
  | .ok res => pure res
  | .error (failure : Failure) => fail failure

/-- Call `j` of `upgrade`, on instance `i`. -/
def upgrade : Call UpgradeResult :=
  if options.dryRun then runUpgrade env outside j toVersion options
  else do
    if !options.force then assertRollbackAvailable env
    assertNoUpgradeInProgress env j i toVersion
    guardedRun env outside j i toVersion options

end Upgrades

end Idenplane.Upgrade
