import Idenplane.Lib.Sequential
import Idenplane.Lib.Settled
import Idenplane.Upgrade.Outcome

/-! # What can be rolled back

`checkRollbackCapability` and `executeRollback` look for an upgrade in the same log, the first
among the rows with a backup and the second among all.  Dry runs complete too, and nothing marks an
upgrade that has been rolled back.
-/

namespace Idenplane.Upgrade

open Atomic

variable {w' w : World}

/-- A completed upgrade has a time, and a backup unless it was a dry run. -/
def UpgradeAuditLog.sound (row : UpgradeAuditLog) : Prop :=
  row.status = .COMPLETED → row.completedAt.isSome ∧ row.backupId.isSome = !row.dryRun

def Well (w : World) : Prop := ∀ row ∈ w.log, row.id < w.supply ∧ row.sound

/-- The rows of this upgrade are of this kind, and have a backup or have none. -/
structure Tidy (dryRun backedUp : Bool) (id : Nat) (w : World) : Prop where
  well : Well w
  numbered : id < w.supply
  mine : ∀ row ∈ w.log, row.id = id → row.dryRun = dryRun ∧ row.backupId.isSome = backedUp

section Steps

variable {dryRun backedUp : Bool} {id : Nat} {w : World}

theorem tidy_of_log (tidy : Tidy dryRun backedUp id w)
    (log : w'.log = w.log) (supply : w'.supply = w.supply) :
    Tidy dryRun backedUp id w' := by
  obtain ⟨well, numbered, mine⟩ := tidy
  unfold Well at well
  rw [← log, ← supply] at well
  exact ⟨well, supply ▸ numbered, log ▸ mine⟩

variable {chg : UpgradeAuditLog → UpgradeAuditLog}

theorem mem_rowUpdated {row : UpgradeAuditLog} (mem : row ∈ (rowUpdated id chg w).log) :
    (row ∈ w.log ∧ row.id ≠ id) ∨ ∃ old ∈ w.log, old.id = id ∧ row = chg old := by
  obtain ⟨old, pre, same⟩ := mem_map.mp mem
  by_cases mine : old.id = id
  · rw [if_pos mine] at same
    exact .inr ⟨old, pre, mine, same.symm⟩
  · rw [if_neg mine] at same
    exact .inl ⟨same ▸ pre, same ▸ mine⟩

theorem tidy_rowUpdated {backedUp' : Bool} (tidy : Tidy dryRun backedUp id w)
    (keeps : ∀ row, (chg row).id = row.id ∧ (chg row).dryRun = row.dryRun)
    (backup : ∀ row, row.backupId.isSome = backedUp → (chg row).backupId.isSome = backedUp')
    (sound : ∀ row, row.dryRun = dryRun → row.backupId.isSome = backedUp → row.sound →
      (chg row).sound) : Tidy dryRun backedUp' id (rowUpdated id chg w) := by
  obtain ⟨well, numbered, mine⟩ := tidy
  refine ⟨?_, numbered, ?_⟩
  · intro row mem
    rcases mem_rowUpdated mem with ⟨pre, _⟩ | ⟨old, pre, isMine, rfl⟩
    · exact well row pre
    · obtain ⟨older, wasSound⟩ := well old pre
      obtain ⟨kind, onRow⟩ := mine old pre isMine
      exact ⟨(keeps old).1 ▸ older, sound old kind onRow wasSound⟩
  · intro row mem isMine
    rcases mem_rowUpdated mem with ⟨_, other⟩ | ⟨old, pre, same, rfl⟩
    · exact absurd isMine other
    · obtain ⟨kind, onRow⟩ := mine old pre same
      exact ⟨(keeps old).2.trans kind, backup old onRow⟩

theorem tidy_rowEnded {j : Nat} {status : UpgradeStatus} {details : Details}
    (tidy : Tidy dryRun backedUp id w) (complete : status = .COMPLETED → backedUp = !dryRun) :
    Tidy dryRun backedUp id (rowEnded j id status details w) := by
  have updated : Tidy dryRun backedUp id (rowUpdated id (fun row => { row with
      status := status, completedAt := some w.now, details := details }) w) := by
    refine tidy_rowUpdated tidy (fun _ => ⟨rfl, rfl⟩) (fun _ onRow => onRow) ?_
    intro row kind onRow _ completed
    exact ⟨rfl, onRow.trans ((complete completed).trans (by rw [kind]))⟩
  exact tidy_of_log updated rfl rfl

variable {original : UpgradeAuditLog} {error backupPath : Option String}

theorem well_rollbackRecorded {success : Bool} (well : Well w) :
    Well (rollbackRecorded original success error backupPath w) := by
  intro row mem
  rcases mem_append.mp mem with pre | new
  · exact ⟨lt_succ_of_lt (well row pre).1, (well row pre).2⟩
  · rw [mem_singleton.mp new]
    refine ⟨lt_succ_self _, ?_⟩
    intro completed
    cases success with
    | true => cases completed
    | false => cases completed

theorem tidy_rollbackRecorded {success : Bool} (tidy : Tidy dryRun backedUp id w) :
    Tidy dryRun backedUp id (rollbackRecorded original success error backupPath w) := by
  obtain ⟨well, numbered, mine⟩ := tidy
  refine ⟨well_rollbackRecorded well, lt_succ_of_lt numbered, ?_⟩
  intro row mem isMine
  rcases mem_append.mp mem with pre | new
  · exact mine row pre isMine
  · rw [mem_singleton.mp new] at isMine
    exact absurd isMine numbered.ne'

end Steps

section Programs

variable {inv : World → Prop}

theorem written_maintains (fault : Option String) {chg : World → World}
    (step : ∀ w, inv w → inv (chg w)) : (written fault chg).Maintains inv := by
  cases fault with
  | none => exact .modify step
  | some msg => trivial

theorem executeStage_maintains (stage : UpgradeStage) {body : Throwing StageOutcome}
    (keeps : body.Maintains inv) : (executeStage stage body).Maintains inv := by
  apply keeps.attempt.bind
  intro out
  cases out with
  | ok res => trivial
  | error msg => trivial

theorem answered_maintains {α : Type} (ans : Except String α) : (answered ans).Maintains inv := by
  cases ans with
  | ok v => trivial
  | error msg => trivial

theorem executeRollback_maintains (env : Environment) (answers : RollbackOutside)
    (upgradeId : Option Nat) (evs : ∀ ev w, inv w → inv (happens ev w))
    (record : ∀ original success error path w, inv w →
      inv (rollbackRecorded original success error path w)) :
    (executeRollback env answers upgradeId).Maintains inv := by
  have restores : ∀ upgrade backup, (restoreUpgrade answers upgrade backup).Maintains inv := by
    intro upgrade backup
    unfold restoreUpgrade
    cases answers.restore with
    | some msg =>
      exact (written_maintains _ (record upgrade false (some msg) none)).bind fun _ => trivial
    | none =>
      apply Maintains.bind (.modify (evs _))
      intro _
      exact (written_maintains _ (record upgrade true none _)).bind fun _ => trivial
  have finds : (findAndRestore answers upgradeId).Maintains inv := by
    unfold findAndRestore
    cases answers.query with
    | some msg => trivial
    | none =>
      apply Maintains.read_bind
      intro w _
      cases w.upgrade? upgradeId with
      | none => trivial
      | some upgrade =>
        dsimp only
        cases upgrade.backupId with
        | none => trivial
        | some backupId =>
          apply Maintains.read_bind
          intro w _
          cases archiveFor w backupId with
          | none => trivial
          | some backup =>
            dsimp only
            cases answers.verifyBackup backup.path with
            | true => exact restores upgrade backup
            | false => trivial
  unfold executeRollback
  cases env.allowLiveRestore with
  | true =>
    apply finds.attempt.bind
    intro res
    cases res with
    | ok res => trivial
    | error msg => trivial
  | false => exact .read_bind fun _ _ => trivial

end Programs

section Stages

variable (env : Environment) (out : Outside) (j : Nat) {id : Nat} (v : String)
  (options : Options) {dryRun backedUp : Bool} (stages : List UpgradeStageResult)
  (backupResult : Option BackupResult)

theorem attemptRollback_maintains :
    (attemptRollback env out id).Maintains (Tidy dryRun backedUp id) := by
  refine .bind (.modify fun w tidy => ?_) fun _ => ?_
  · exact tidy_of_log tidy rfl rfl
  apply Maintains.bind
  · exact executeRollback_maintains env _ _ (fun _ _ tidy => tidy_of_log tidy rfl rfl)
      fun _ _ _ _ _ tidy => tidy_rollbackRecorded tidy
  · intro res
    refine .bind (.modify fun w tidy => ?_) fun _ => ?_
    · exact tidy_of_log tidy rfl rfl
    cases res.success with
    | true => trivial
    | false => trivial

theorem abort_maintains (reason msg : String) :
    (abort out j id v stages reason msg).Maintains (Tidy dryRun backedUp id) := by
  refine .bind (.bind ?_ fun _ => trivial) fun _ => trivial
  exact (written_maintains _ fun w tidy => tidy_rowEnded tidy fun failed => by cases failed).attempt

theorem rollBack_maintains (reason msg : String) :
    (rollBack env out j id v backupResult stages reason msg).Maintains
      (Tidy dryRun backedUp id) := by
  unfold rollBack
  split
  · exact (attemptRollback_maintains env out).bind fun _ =>
      abort_maintains out j v _ reason msg
  · exact abort_maintains out j v stages reason msg

section

variable (complete : backedUp = !dryRun)

include complete

theorem afterHealthCheck_maintains : (afterHealthCheck out j id v backupResult stages).Maintains
      (Tidy dryRun backedUp id) := by
  apply Maintains.bind
  · apply executeStage_maintains
    apply Maintains.bind
    · exact (written_maintains _ fun w tidy => tidy_rowEnded tidy fun _ => complete).attempt
    · intro recorded
      cases recorded with
      | ok _ => trivial
      | error msg => trivial
  · exact fun _ => trivial

theorem afterMigration_maintains : (afterMigration env out j id v backupResult stages).Maintains
      (Tidy dryRun backedUp id) := by
  apply Maintains.bind
  · apply executeStage_maintains
    apply (answered_maintains _).bind
    intro healthResult
    cases healthResult.healthy with
    | true => trivial
    | false => trivial
  · intro healthResult
    cases healthResult.success with
    | true => exact afterHealthCheck_maintains out j v _ backupResult complete
    | false => exact rollBack_maintains env out j v _ backupResult _ _

theorem afterConfigCheck_maintains :
    (afterConfigCheck env out j id v options backupResult stages).Maintains
      (Tidy dryRun backedUp id) := by
  unfold afterConfigCheck
  split
  · exact afterMigration_maintains env out j v _ backupResult complete
  · apply Maintains.bind
    · apply executeStage_maintains
      refine .bind (.modify fun w tidy => ?_) fun _ => ?_
      · exact tidy_of_log tidy rfl rfl
      refine .bind (.modify fun w tidy => ?_) fun _ => ?_
      · exact tidy_of_log tidy rfl rfl
      cases out.migration with
      | ok output => trivial
      | error output => trivial
    · intro migrationResult
      cases migrationResult.success with
      | true => exact afterMigration_maintains env out j v _ backupResult complete
      | false => exact rollBack_maintains env out j v _ backupResult _ _

theorem afterBackup_maintains : (afterBackup env out j id v options backupResult stages).Maintains
      (Tidy dryRun backedUp id) := by
  apply Maintains.bind
  · apply executeStage_maintains
    apply (answered_maintains _).bind
    intro compatResult
    cases compatResult.compatible with
    | true => trivial
    | false => trivial
  · intro configResult
    cases configResult.success with
    | true => exact afterConfigCheck_maintains env out j v options _ backupResult complete
    | false => exact abort_maintains out j v _ _ _

end

theorem createBackup_tidy (label : String) (tidy : Tidy dryRun backedUp id w) :
    Tidy dryRun backedUp id (createBackup env out.pgDump id label w).2 := by
  cases out.pgDump with
  | error msg => exact tidy
  | ok size => exact tidy_of_log tidy rfl rfl

theorem createBackup_path (id : Nat) (w : World) (label : String)
    (done : (createBackup env out.pgDump id label w).1.success = true) :
    (createBackup env out.pgDump id label w).1.backupPath.isSome = true := by
  cases dump : out.pgDump with
  | error msg =>
    rw [dump] at done
    cases done
  | ok size => rfl

theorem backUp_tidy (tidy : Tidy false false id w) :
    match (backUp env out id v).run w with
    | (.ok _, w') => Tidy false true id w'
    | (.error _, w') => Tidy false false id w' := by
  unfold backUp
  rw [run_atomic_bind]
  have dumped := createBackup_tidy env out ("pre-upgrade-" ++ v) tidy
  have path := createBackup_path env out id w ("pre-upgrade-" ++ v)
  rcases created : createBackup env out.pgDump id ("pre-upgrade-" ++ v) w with
    ⟨backupResult, w'⟩
  rw [created] at dumped path
  cases success : backupResult.success with
  | false => exact dumped
  | true =>
    cases out.backupWrite with
    | some msg => exact dumped
    | none =>
      have recorded : Tidy false true id (rowUpdated id (fun row => { row with
          backupId := backupResult.backupPath
          backupPath := backupResult.backupPath
          backupSize := backupResult.backupSize }) w') := by
        refine tidy_rowUpdated dumped (fun _ => ⟨rfl, rfl⟩) (fun _ _ => path success) ?_
        intro row kind _ wasSound completed
        refine ⟨(wasSound completed).1, ?_⟩
        rw [kind]
        exact path success
      exact tidy_of_log recorded rfl rfl

theorem afterValidation_well (tidy : Tidy options.dryRun false id w) :
    Well ((afterValidation env out j id v options stages).run w).2 := by
  unfold afterValidation
  split
  · rename_i dry
    rw [dry] at tidy
    exact ((afterBackup_maintains env out j v options _ none rfl).run tidy).well
  · rename_i real
    rw [not_eq_true] at real
    rw [real] at tidy
    rw [run_attempt_bind]
    have backed := backUp_tidy env out v tidy
    rcases ran : (backUp env out id v).run w with ⟨outcome, w'⟩
    rw [ran] at backed
    cases outcome with
    | ok outcome =>
      exact ((afterBackup_maintains env out j v options _ _ rfl).run backed).well
    | error msg => exact ((abort_maintains out j v _ _ _).run backed).well

theorem afterInitialization_well (tidy : Tidy options.dryRun false id w) :
    Well ((afterInitialization env out j id v options stages).run w).2 := by
  obtain ⟨res, ran, _⟩ :=
    executeStage_run .PRE_VALIDATION (runPreValidation out options) w
  rw [(runPreValidation_run out options w).1] at ran
  unfold afterInitialization
  rw [run_bind, ran]
  dsimp only
  cases res.success with
  | true => exact afterValidation_well env out j v options _ tidy
  | false => exact ((abort_maintains out j v _ _ _).run tidy).well

theorem rowCreated_tidy (well : Well w) :
    Tidy options.dryRun false w.supply (rowCreated env j w.supply v options
      { w with supply := w.supply + 1 }) := by
  refine ⟨?_, lt_succ_self _, ?_⟩
  · intro row mem
    rcases mem_append.mp mem with pre | new
    · exact ⟨lt_succ_of_lt (well row pre).1, (well row pre).2⟩
    · rw [mem_singleton.mp new]
      exact ⟨lt_succ_self _, fun completed => nomatch completed⟩
  · intro row mem isMine
    rcases mem_append.mp mem with pre | new
    · exact absurd isMine (well row pre).1.ne
    · rw [mem_singleton.mp new]
      exact ⟨rfl, rfl⟩

theorem runUpgrade_well (well : Well w) : Well ((runUpgrade env out j v options).run w).2 := by
  let numbered : World := { w with supply := w.supply + 1 }
  obtain ⟨res, ran, _, success⟩ := executeStage_run .INITIALIZATION
    (initializeUpgrade env out j w.supply v options) numbered
  obtain ⟨left, ans⟩ := initializeUpgrade_run env out j v options w.supply numbered
  rw [left] at ran
  rw [ans] at success
  have isNumbered : (runUpgrade env out j v options).run w =
    (executeStage .INITIALIZATION (initializeUpgrade env out j w.supply v options)
      >>= fun initResult =>
        if initResult.success then
          afterInitialization env out j w.supply v options [initResult]
        else pure (buildFailureResult w.supply v [initResult] initResult.message)).run
      numbered := rfl
  rw [isNumbered, run_bind, ran]
  cases fault : out.initialWrite with
  | none =>
    rw [fault] at success
    have done : res.success = true := success
    have new : (none : Option String).isNone = true := rfl
    dsimp only
    rw [if_pos done, if_pos new]
    exact afterInitialization_well env out j v options _ (rowCreated_tidy env j v options well)
  | some msg =>
    rw [fault] at success
    have failed : ¬res.success = true := by simp [success]
    have lost : ¬(some msg).isNone = true := by simp
    dsimp only
    rw [if_neg failed, if_neg lost]
    intro row mem
    exact ⟨lt_succ_of_lt (well row mem).1, (well row mem).2⟩

theorem well_of_sameLog (well : Well w) (same : SameLog w w') : Well w' := by
  intro row mem
  rw [same.1] at mem
  rw [same.2.2]
  exact well row mem

theorem upgrade_well (i : Nat) (well : Well w) :
    Well ((upgrade env out j i v options).run w).2 := by
  cases dry : options.dryRun with
  | true =>
    unfold upgrade
    rw [if_pos dry]
    exact runUpgrade_well env out j v options well
  | false =>
    rcases upgrade_eq env out j v options i dry with ⟨refusal, refused⟩ | goesOn
    · rw [refused]
      exact well
    · rw [goesOn, run_bind]
      have passed := well_of_sameLog well (assertNoUpgradeInProgress_run env j v i w)
      rcases guard : (assertNoUpgradeInProgress env j i v).run w with ⟨ans, w'⟩
      rw [guard] at passed
      cases ans with
      | error refusal => exact passed
      | ok _ =>
        have ran := runUpgrade_well env out j v options passed
        dsimp only
        unfold guardedRun
        rw [run_attempt_bind, run_modify_bind]
        cases ((runUpgrade env out j v options).run w').1 with
        | ok res => exact ran
        | error f => exact ran

end Stages

/-- An upgrade, which may be a dry run and may fail anywhere, a rollback, or time. -/
inductive Operation where
  | upgrade (outside : Outside) (j i : Nat) (toVersion : String) (options : Options)
  | rollback (answers : RollbackOutside) (upgradeId : Option Nat)
  | pass (later : Int)

def Operation.effect (env : Environment) (w : World) : Operation → World
  | .upgrade outside j i toVersion options =>
    ((Upgrade.upgrade env outside j i toVersion options).run w).2
  | .rollback answers upgradeId => ((executeRollback env answers upgradeId).run w).2
  | .pass later => { w with now := later }

def history (env : Environment) (operations : List Operation) : World :=
  operations.foldl (Operation.effect env) {}

theorem effect_well (env : Environment) (op : Operation)
    (well : Well w) : Well (op.effect env w) := by
  cases op with
  | upgrade out j i v options => exact upgrade_well env out j v options i well
  | rollback answers upgradeId =>
    apply (executeRollback_maintains env answers upgradeId ?_ ?_).run well
    · exact fun _ _ well => well
    · exact fun _ _ _ _ _ well => well_rollbackRecorded well
  | pass later => exact well

theorem history_well (env : Environment) (ops : List Operation) : Well (history env ops) := by
  have kept : ∀ (w : World), Well w → Well (ops.foldl (Operation.effect env) w) := by
    induction ops with
    | nil => exact fun w well => well
    | cons op rest ih => exact fun w well => ih _ (effect_well env op well)
  exact kept {} fun row listed => by cases listed

def World.rolledBack (w : World) (id : Nat) : Prop := ∃ path, .restored id path ∈ w.events

/-- A completed upgrade that was none of a dry run, and has not been rolled back. -/
def World.standing (w : World) (row : UpgradeAuditLog) : Prop :=
  row ∈ w.log ∧ row.status = .COMPLETED ∧ row.dryRun = false ∧ ¬w.rolledBack row.id

def World.latestStanding (w : World) (row : UpgradeAuditLog) : Prop :=
  w.standing row ∧ ∀ other, w.standing other →
    ∀ time, other.completedAt = some time → ∃ last, row.completedAt = some last ∧ time ≤ last

/-- The check and a rollback of the last upgrade agree: the rollback succeeds where one is
announced, and restores the backup of the announced upgrade, the latest that stands. -/
def Announced (env : Environment) (w : World) : Prop :=
  ∃ capability res w', ((checkRollbackCapability none).run w).1 = .ok capability ∧
    (executeRollback env {} none).run w = (.ok res, w') ∧
    (capability.canRollback = true ↔ res.success = true) ∧
    ∀ upgrade, capability.lastSuccessfulUpgrade = some upgrade →
      ∃ row path, w.latestStanding row ∧ row.id = upgrade.id ∧ upgrade.backupId = some path ∧
        w'.events = w.events ++ [.restored upgrade.id path]

/-- No upgrade has completed but dry runs, or the last to complete is none, still stands, and its
archive is the first of its name. -/
def LastStands (w : World) : Prop :=
  (∀ row ∈ w.log, row.status = .COMPLETED → row.dryRun = true) ∨
    ∃ row path backup, lastCompleted w = some row ∧ row.dryRun = false ∧
      ¬w.rolledBack row.id ∧ row.backupId = some path ∧
      archiveFor w path = some backup ∧ backup.path = path

section Announcement

variable {env : Environment} {w : World} {row : UpgradeAuditLog}

theorem lastCompleted_mem (last : lastCompleted w = some row) :
    row ∈ w.log ∧ row.status = .COMPLETED := by
  have listed := mem_filter.mp (newest_mem last)
  exact ⟨listed.1, by simpa using listed.2⟩

theorem lastSuccessful_mem (last : lastSuccessful w = some row) :
    row ∈ w.log ∧ row.status = .COMPLETED ∧ row.backupId.isSome = true := by
  have listed := mem_filter.mp (newest_mem last)
  have passes := listed.2
  simp only [and_eq_true, decide_eq_true_eq] at passes
  exact ⟨listed.1, passes⟩

/-- The two queries meet when the last completed upgrade has a backup. -/
theorem lastSuccessful_of_lastCompleted (last : lastCompleted w = some row)
    (backup : row.backupId.isSome = true) : lastSuccessful w = some row := by
  have narrowed := newest_filter (fun row => row.backupId.isSome) last backup
  rw [filter_filter] at narrowed
  unfold lastSuccessful
  rw [← narrowed]
  congr 1
  apply List.filter_congr
  intro other _
  exact Bool.and_comm _ _

theorem lastSuccessful_none (well : Well w)
    (dry : ∀ row ∈ w.log, row.status = .COMPLETED → row.dryRun = true) :
    lastSuccessful w = none := by
  cases found : lastSuccessful w with
  | none => rfl
  | some row =>
    obtain ⟨mem, completed, backup⟩ := lastSuccessful_mem found
    have onRow := ((well row mem).2 completed).2
    rw [backup, dry row mem completed] at onRow
    cases onRow

theorem lastCompleted_latest (well : Well w) (last : lastCompleted w = some row)
    (real : row.dryRun = false) (stands : ¬w.rolledBack row.id) : w.latestStanding row := by
  obtain ⟨mem, completed⟩ := lastCompleted_mem last
  refine ⟨⟨mem, completed, real, stands⟩, ?_⟩
  rintro other ⟨inLog, isCompleted, _⟩ time ended
  have kept : other ∈ w.log.filter fun row => row.status = .COMPLETED := by
    simp [inLog, isCompleted]
  have before := newest_first last other kept
  obtain ⟨isSome, _⟩ := (well row mem).2 completed
  cases lastTime : row.completedAt with
  | none =>
    rw [lastTime] at isSome
    cases isSome
  | some last =>
    rw [ended, lastTime] at before
    simp only [precedes, decide_eq_false_iff_not] at before
    exact ⟨last, rfl, by omega⟩

section

variable (allowed : env.allowLiveRestore = true)

include allowed

theorem executeRollback_restores {path : String}
    {backup : BackupListing} (last : lastCompleted w = some row)
    (onRow : row.backupId = some path) (archive : archiveFor w path = some backup) :
    ∃ res w', (executeRollback env {} none).run w = (.ok res, w') ∧
      res.success = true ∧ w'.events = w.events ++ [.restored row.id backup.path] := by
  have hit : w.upgrade? none = some row := last
  unfold executeRollback
  rw [if_pos allowed, run_attempt_bind]
  unfold findAndRestore
  simp only [run_read_bind, hit, onRow, archive, if_true]
  exact ⟨_, _, rfl, rfl, rfl⟩

theorem executeRollback_refuses
    (missing : ∀ row, lastCompleted w = some row → row.backupId = none) :
    ∃ res, (executeRollback env {} none).run w = (.ok res, w) ∧ res.success = false := by
  unfold executeRollback
  rw [if_pos allowed, run_attempt_bind]
  unfold findAndRestore
  simp only [run_read_bind]
  cases found : w.upgrade? none with
  | none => exact ⟨_, rfl, rfl⟩
  | some row =>
    simp only [missing row found]
    exact ⟨_, rfl, rfl⟩

theorem executeRollback_archive {res : RollbackResult}
    (ran : (executeRollback env {} none).run w = (.ok res, w'))
    (success : res.success = true) :
    ∃ row path backup, lastCompleted w = some row ∧ row.backupId = some path ∧
      archiveFor w path = some backup := by
  unfold executeRollback at ran
  rw [if_pos allowed, run_attempt_bind] at ran
  unfold findAndRestore at ran
  simp only [run_read_bind] at ran
  cases hit : w.upgrade? none with
  | none =>
    rw [hit] at ran
    cases ran
    cases success
  | some row =>
    rw [hit] at ran
    dsimp only at ran
    cases onRow : row.backupId with
    | none =>
      rw [onRow] at ran
      cases ran
      cases success
    | some path =>
      rw [onRow] at ran
      simp only [run_read_bind] at ran
      cases archive : archiveFor w path with
      | none =>
        rw [archive] at ran
        cases ran
        cases success
      | some backup => exact ⟨row, path, backup, hit, onRow, archive⟩

end

theorem announced_of_lastStands (well : Well w) (allowed : env.allowLiveRestore = true)
    (stands : LastStands w) : Announced env w := by
  rcases stands with dry | ⟨row, path, backup, last, real, stands, onRow, archive, same⟩
  · have nothing := lastSuccessful_none well dry
    have missing : ∀ row, lastCompleted w = some row → row.backupId = none := by
      intro row last
      obtain ⟨mem, completed⟩ := lastCompleted_mem last
      have onRow := ((well row mem).2 completed).2
      rw [dry row mem completed] at onRow
      simpa using onRow
    obtain ⟨res, ran, failed⟩ := executeRollback_refuses allowed missing
    unfold Announced checkRollbackCapability
    simp only [run_read_bind, nothing]
    refine ⟨_, res, w, rfl, ran, ?_, ?_⟩
    · simp [failed]
    · intro upgrade announced
      cases announced
  · have successful := lastSuccessful_of_lastCompleted last (by rw [onRow]; rfl)
    obtain ⟨res, w', ran, success, restored⟩ :=
      executeRollback_restores allowed last onRow archive
    unfold Announced checkRollbackCapability
    simp only [run_read_bind, successful]
    refine ⟨_, res, w', rfl, ran, ?_, ?_⟩
    · simp [success]
    · intro upgrade announced
      cases announced
      exact ⟨row, path, lastCompleted_latest well last real stands, rfl, onRow, same ▸ restored⟩

theorem lastStands_of_announced (well : Well w) (allowed : env.allowLiveRestore = true)
    (announced : Announced env w) : LastStands w := by
  cases successful : lastSuccessful w with
  | none =>
    refine .inl fun row mem completed => ?_
    by_contra real
    have onRow := ((well row mem).2 completed).2
    rw [not_eq_true] at real
    have kept : row ∈ w.log.filter fun row =>
        row.status = .COMPLETED && row.backupId.isSome := by
      simp [mem, completed, onRow, real]
    obtain ⟨first, hit⟩ := newest_isSome (·.completedAt) kept
    unfold lastSuccessful at successful
    rw [hit] at successful
    cases successful
  | some row =>
    obtain ⟨capability, res, w', checked, ran, agree, exactly⟩ := announced
    unfold checkRollbackCapability at checked
    simp only [run_read_bind, successful] at checked
    cases checked
    obtain ⟨other, path, backup, last, onRow, archive⟩ :=
      executeRollback_archive allowed ran (agree.mp rfl)
    have same := lastSuccessful_of_lastCompleted last (by rw [onRow]; rfl)
    rw [successful] at same
    cases same
    obtain ⟨mem, completed⟩ := lastCompleted_mem last
    obtain ⟨standing, path', ⟨stands, _⟩, isRow, backedUp, restored⟩ := exactly _ rfl
    obtain ⟨res', w'', ran', _, restored'⟩ :=
      executeRollback_restores allowed last onRow archive
    rw [ran] at ran'
    cases ran'
    rw [restored] at restored'
    have real := ((well row mem).2 completed).2
    refine .inr ⟨row, path, backup, last, ?_, ?_, onRow, archive, ?_⟩
    · rw [onRow] at real
      simpa using real
    · intro gone
      apply stands.2.2.2
      rw [isRow]
      exact gone
    · rw [onRow] at backedUp
      cases backedUp
      simpa using restored'.symm

end Announcement

/-- After any history the check announces what a rollback does exactly when the last upgrade to
complete still stands. -/
theorem capability_announces {env : Environment} (allowed : env.allowLiveRestore = true)
    (ops : List Operation) :
    Announced env (history env ops) ↔ LastStands (history env ops) :=
  ⟨lastStands_of_announced (history_well env ops) allowed,
    announced_of_lastStands (history_well env ops) allowed⟩

def upgraded : List Operation := [.upgrade smooth 0 0 "2.0.0" {}]

def tried : List Operation := [.pass 1, .upgrade smooth 1 0 "3.0.0" { dryRun := true }]

/-- The first upgrade can be rolled back. -/
theorem upgraded_is_announced : Announced cluster (history cluster upgraded) := by
  refine (capability_announces rfl upgraded).mpr (.inr ⟨_, _, _, rfl, rfl, ?_, rfl, rfl, rfl⟩)
  rintro ⟨path, restored⟩
  have events : (history cluster upgraded).events.any (fun ev => match ev with
    | .restored .. => true
    | _ => false) = false := by decide +kernel
  rw [any_eq_false] at events
  exact events _ restored rfl

/-- After a dry run the rollback that the check announces fails; and an upgrade that has been rolled
back is announced again. -/
theorem dry_run_hides_upgrade : (∃ capability res w',
      ((checkRollbackCapability none).run (history cluster (upgraded ++ tried))).1 = .ok capability ∧
        (executeRollback cluster {} none).run (history cluster (upgraded ++ tried)) =
          (.ok res, w') ∧ capability.canRollback = true ∧ res.success = false) ∧
      ∃ capability upgrade, ((checkRollbackCapability none).run
            (history cluster (upgraded ++ [.rollback {} none]))).1 = .ok capability ∧
          capability.lastSuccessfulUpgrade = some upgrade ∧
          (history cluster (upgraded ++ [.rollback {} none])).rolledBack upgrade.id := by
  constructor
  · exact ⟨_, _, _, rfl, rfl, by decide +kernel⟩
  · refine ⟨_, _, rfl, rfl, "backups/idenplane-backup-0-pre-upgrade-200.dump", ?_⟩
    decide +kernel

end Idenplane.Upgrade
