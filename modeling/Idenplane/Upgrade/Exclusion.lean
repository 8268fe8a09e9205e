import Idenplane.Lib.Owned
import Idenplane.Upgrade.Outcome

/-! # One upgrade at a time

Calls of `upgrade` on any number of instances take their steps in any order.  Between the query for
a running upgrade and the row of the new one nothing tells another call of it; the order of these
steps is all that the guard rests on.
-/

namespace Idenplane.Upgrade

open Atomic Pool Prog.Owned

variable {w w' : World} {j : Nat} {cutoff : Int}

def Phase.engaged : Phase → Bool
  | .idle => false
  | .finished => false
  | _ => true

def Phase.underway : Phase → Bool
  | .admitted => true
  | .running => true
  | .settling => true
  | _ => false

def Phase.unseen : Phase → Bool
  | .lookedUp => true
  | .admitted => true
  | .settling => true
  | _ => false

def Passes (w w' : World) : Prop :=
  ∃ later, w' = { w with now := later } ∧ w.now ≤ later ∧
    ∀ j, (w.phase j).engaged → later < w.beganAt j + IN_PROGRESS_TTL_MS

/-- No call looks for a running upgrade while another one cannot be seen. -/
def Careful (w w' : World) : Prop :=
  ∀ j, w.phase j ≠ .lookedUp → w'.phase j = .lookedUp → ∀ k, k ≠ j → (w.phase k).unseen = false

theorem unseen_or_running {phase : Phase} (engaged : phase.engaged) :
    phase.unseen = true ∨ phase = .running := by
  cases phase with
  | idle => cases engaged
  | lookedUp => exact .inl rfl
  | admitted => exact .inl rfl
  | running => exact .inr rfl
  | settling => exact .inl rfl
  | finished => cases engaged

theorem engaged_of_underway {phase : Phase} (underway : phase.underway) : phase.engaged := by
  cases phase with
  | idle => cases underway
  | lookedUp => rfl
  | admitted => rfl
  | running => rfl
  | settling => rfl
  | finished => cases underway

def UpgradeAuditLog.opensAfter (row : UpgradeAuditLog) (time : Int) : Prop :=
  row.status = .IN_PROGRESS ∧ time ≤ row.startedAt

structure Exclusive (w : World) : Prop where
  alone : ∀ j k, (w.phase j).engaged → (w.phase k).engaged → j = k
  visible : ∀ j, w.phase j = .running → ∃ row ∈ w.log, row.opensAfter (w.beganAt j)
  begun : ∀ j, (w.phase j).engaged → w.beganAt j ≤ w.now
  brief : ∀ j, (w.phase j).engaged → w.now < w.beganAt j + IN_PROGRESS_TTL_MS
  migrates : ∀ j, w.migrating j → (w.phase j).engaged

theorem exclusive_of_quiet (quiet : ∀ j, (w.phase j).engaged = false)
    (still : ∀ j, w.migrating j = false) : Exclusive w := by
  constructor
  · intro j k active
    rw [quiet j] at active
    cases active
  · intro j running
    have active := quiet j
    rw [running] at active
    cases active
  · intro j active
    rw [quiet j] at active
    cases active
  · intro j active
    rw [quiet j] at active
    cases active
  · intro j migrating
    rw [still j] at migrating
    cases migrating

structure Untouched (j : Nat) (w w' : World) : Prop where
  phase : w'.phase j = w.phase j
  beganAt : w'.beganAt j = w.beganAt j
  migrating : w'.migrating j = w.migrating j
  later : w.now ≤ w'.now

def upgrades : Protocol Nat World where
  inv := Exclusive
  rely := Untouched
  refl _ _ := ⟨rfl, rfl, rfl, le_rfl⟩
  trans _ _ _ _ first second :=
    ⟨second.phase.trans first.phase, second.beganAt.trans first.beganAt,
      second.migrating.trans first.migrating, first.later.trans second.later⟩

theorem passes_untouched (inv : Exclusive w)
    (passes : Passes w w') : Exclusive w' ∧ ∀ j, Untouched j w w' := by
  obtain ⟨later, rfl, since, brief⟩ := passes
  exact ⟨{ alone := inv.alone
           visible := inv.visible
           begun := fun j engaged => (inv.begun j engaged).trans since
           brief := brief
           migrates := inv.migrates },
    fun j => ⟨rfl, rfl, rfl, since⟩⟩

/-- Call `j` has found no other upgrade, and no migration of it runs. -/
def Engaged (j : Nat) (w : World) : Prop :=
  (w.phase j).engaged ∧ w.migrating j = false

theorem engaged_stable (j : Nat) : Prog.Stable upgrades j (Engaged j) := by
  intro w w' engaged moved _
  exact ⟨moved.phase ▸ engaged.1, moved.migrating.trans engaged.2⟩

/-- A step of call `j`. -/
structure Works (j : Nat) (w w' : World) : Prop where
  now : w'.now = w.now
  beganAt : w'.beganAt = w.beganAt
  others : ∀ k, k ≠ j → w'.phase k = w.phase k ∧ w'.migrating k = w.migrating k
  engaged : (w'.phase j).engaged
  visible : w'.phase j = .running → ∃ row ∈ w'.log, row.opensAfter (w.beganAt j)

theorem works_untouched {j k : Nat} (works : Works j w w') (other : k ≠ j) : Untouched k w w' := by
  obtain ⟨phase, migrating⟩ := works.others k other
  exact ⟨phase, by rw [works.beganAt], migrating, works.now.ge⟩

theorem works_exclusive (inv : Exclusive w)
    (engaged : (w.phase j).engaged) (works : Works j w w') : Exclusive w' := by
  have only : ∀ k, (w'.phase k).engaged → k = j := by
    intro k active
    by_contra other
    rw [(works.others k other).1] at active
    exact other (inv.alone k j active engaged)
  constructor
  · intro k l active active'
    rw [only k active, only l active']
  · intro k running
    have same : k = j := only k (by rw [running]; rfl)
    subst same
    rw [works.beganAt]
    exact works.visible running
  · intro k active
    rw [only k active, works.beganAt, works.now]
    exact inv.begun j engaged
  · intro k active
    rw [only k active, works.beganAt, works.now]
    exact inv.brief j engaged
  · intro k migrating
    by_cases same : k = j
    · rw [same]
      exact works.engaged
    · obtain ⟨phase, kept⟩ := works.others k same
      rw [phase]
      exact inv.migrates k (kept ▸ migrating)

theorem works_of_log (inv : Exclusive w) (engaged : (w.phase j).engaged) (now : w'.now = w.now)
    (beganAt : w'.beganAt = w.beganAt) (phase : w'.phase = w.phase)
    (os : ∀ k, k ≠ j → w'.migrating k = w.migrating k)
    (kept : ∀ row ∈ w.log, row.opensAfter (w.beganAt j) →
      ∃ row' ∈ w'.log, row'.opensAfter (w.beganAt j)) : Works j w w' := by
  refine ⟨now, beganAt, fun k other => ⟨by rw [phase], os k other⟩, by rw [phase]; exact engaged, ?_⟩
  intro running
  rw [phase] at running
  obtain ⟨row, mem, opens⟩ := inv.visible j running
  exact kept row mem opens

/-- The call keeps its part of the protocol, whatever it returns. -/
abbrev Owner {ε α : Type} (j : Nat) (p : Prog World ε α) : Prop :=
  p.Owned upgrades Careful j (Engaged j)

theorem ownStep_of_works (inv : Exclusive w) (engaged : Engaged j w) (works : Works j w w')
    (migrating : w'.migrating j = w.migrating j) :
    Prog.OwnStep upgrades j (Engaged j) w w' :=
  ⟨works_exclusive inv engaged.1 works, ⟨works.engaged, migrating.trans engaged.2⟩,
    fun _ other => works_untouched works other⟩

theorem ownStep_of_log (inv : Exclusive w) (engaged : Engaged j w) (now : w'.now = w.now)
    (beganAt : w'.beganAt = w.beganAt) (phase : w'.phase = w.phase)
    (migrating : w'.migrating = w.migrating)
    (kept : ∀ row ∈ w.log, row.opensAfter (w.beganAt j) →
      ∃ row' ∈ w'.log, row'.opensAfter (w.beganAt j)) :
    Prog.OwnStep upgrades j (Engaged j) w w' := by
  have works : Works j w w' :=
    works_of_log inv engaged.1 now beganAt phase (fun k _ => by rw [migrating]) kept
  exact ownStep_of_works inv engaged works (by rw [migrating])

theorem ownStep_of_same_log (inv : Exclusive w) (engaged : Engaged j w) (now : w'.now = w.now)
    (beganAt : w'.beganAt = w.beganAt) (phase : w'.phase = w.phase)
    (migrating : w'.migrating = w.migrating) (log : w'.log = w.log) :
    Prog.OwnStep upgrades j (Engaged j) w w' := by
  apply ownStep_of_log inv engaged now beganAt phase migrating
  intro row mem opens
  exact ⟨row, log ▸ mem, opens⟩

section Stages

variable (env : Environment) (out : Outside) (j upgradeId : Nat) (v : String) (options : Options)

theorem happens_owned {ε : Type} (ev : Event) :
    Owner j (modify (happens ev) : Prog World ε Unit) := by
  apply Prog.Owned.modify (engaged_stable j)
  intro w inv engaged
  exact ownStep_of_same_log inv engaged rfl rfl rfl rfl rfl

theorem written_owned (fault : Option String) {chg : World → World}
    (step : ∀ w, Exclusive w → Engaged j w → Prog.OwnStep upgrades j (Engaged j) w (chg w)) :
    Owner j (written fault chg) := by
  cases fault with
  | none => exact .modify (engaged_stable j) step
  | some msg => exact .fail (engaged_stable j) msg

theorem executeStage_owned {stage : UpgradeStage} {body : Throwing StageOutcome}
    (owned : Owner j body) : Owner j (executeStage stage body) := by
  apply Owned.bind owned.attempt
  intro out
  cases out with
  | ok res => exact .done (engaged_stable j) _
  | error msg => exact .done (engaged_stable j) _

theorem answered_owned {α : Type} (ans : Except String α) : Owner j (answered ans) := by
  cases ans with
  | ok v => exact .done (engaged_stable j) v
  | error msg => exact .fail (engaged_stable j) msg

theorem rowCreated_step (inv : Exclusive w) (engaged : Engaged j w) :
    Prog.OwnStep upgrades j (Engaged j) w (rowCreated env j upgradeId v options w) := by
  refine ownStep_of_works inv engaged ?_ rfl
  refine ⟨rfl, rfl, fun k other => ⟨update_of_ne other .., rfl⟩, ?_, ?_⟩
  · simp [rowCreated, Phase.engaged]
  · intro _
    exact ⟨_, mem_append_right _ (mem_singleton.mpr rfl), rfl, inv.begun j engaged.1⟩

theorem backupRecorded_step (path size : Option String) (inv : Exclusive w)
    (engaged : Engaged j w) :
    Prog.OwnStep upgrades j (Engaged j) w (backupRecorded upgradeId path size w) := by
  refine ownStep_of_log inv engaged rfl rfl rfl rfl ?_
  intro row mem opens
  refine ⟨_, mem_map_of_mem mem, ?_⟩
  split
  · exact opens
  · exact opens

theorem rollbackRecorded_step (original : UpgradeAuditLog) (success : Bool)
    (error backupPath : Option String) (inv : Exclusive w)
    (engaged : Engaged j w) : Prog.OwnStep upgrades j (Engaged j) w
      (rollbackRecorded original success error backupPath w) := by
  refine ownStep_of_log inv engaged rfl rfl rfl rfl ?_
  intro row mem opens
  exact ⟨row, mem_append_left _ mem, opens⟩

theorem rowEnded_step (status : UpgradeStatus) (details : Details)
    (inv : Exclusive w) (engaged : Engaged j w) :
    Prog.OwnStep upgrades j (Engaged j) w (rowEnded j upgradeId status details w) := by
  refine ownStep_of_works inv engaged ?_ rfl
  refine ⟨rfl, rfl, fun k other => ⟨update_of_ne other .., rfl⟩, ?_, ?_⟩
  · simp [rowEnded, World.at, Phase.engaged]
  · intro running
    simp [rowEnded, World.at] at running

theorem restoreUpgrade_owned (answers : RollbackOutside) (upgrade : UpgradeAuditLog)
    (backup : BackupListing) : Owner j (restoreUpgrade answers upgrade backup) := by
  unfold restoreUpgrade
  cases answers.restore with
  | some msg =>
    apply Owned.bind
    · exact written_owned j _ fun w inv engaged =>
        rollbackRecorded_step j upgrade false (some msg) none inv engaged
    · exact fun _ => .done (engaged_stable j) _
  | none =>
    apply (happens_owned j _).bind
    intro _
    apply Owned.bind
    · exact written_owned j _ fun w inv engaged =>
        rollbackRecorded_step j upgrade true none (some backup.path) inv engaged
    · exact fun _ => .done (engaged_stable j) _

theorem findAndRestore_owned (answers : RollbackOutside) (id : Option Nat) :
    Owner j (findAndRestore answers id) := by
  unfold findAndRestore
  cases answers.query with
  | some msg => exact .fail (engaged_stable j) msg
  | none =>
    apply Owned.bind (.read (engaged_stable j) _)
    intro upgrade
    cases upgrade with
    | none => exact .done (engaged_stable j) _
    | some upgrade =>
      dsimp only
      cases upgrade.backupId with
      | none => exact .done (engaged_stable j) _
      | some backupId =>
        apply Owned.bind (.read (engaged_stable j) _)
        intro archive
        cases archive with
        | none => exact .done (engaged_stable j) _
        | some backup =>
          dsimp only
          cases answers.verifyBackup backup.path with
          | true => exact restoreUpgrade_owned j answers upgrade backup
          | false => exact .done (engaged_stable j) _

theorem executeRollback_owned (answers : RollbackOutside) (id : Option Nat) :
    Owner j (executeRollback env answers id) := by
  unfold executeRollback
  cases env.allowLiveRestore with
  | true =>
    apply (findAndRestore_owned j answers id).attempt.bind
    intro res
    cases res with
    | ok res => exact .done (engaged_stable j) res
    | error msg => exact .done (engaged_stable j) _
  | false =>
    apply Owned.bind (.read (engaged_stable j) _)
    exact fun upgrade => .done (engaged_stable j) _

theorem attemptRollback_owned : Owner j (attemptRollback env out upgradeId) := by
  apply Owned.bind
  · apply Prog.Owned.modify (engaged_stable j)
    intro w inv engaged
    exact ownStep_of_same_log inv engaged rfl rfl rfl rfl rfl
  · intro _
    apply (executeRollback_owned env j _ _).bind
    intro res
    apply (happens_owned j _).bind
    intro _
    cases res.success with
    | true => exact .done (engaged_stable j) _
    | false => exact .done (engaged_stable j) _

theorem abort_owned (stages : List UpgradeStageResult) (reason msg : String) :
    Owner j (abort out j upgradeId v stages reason msg) := by
  refine .bind ?_ fun _ => .done (engaged_stable j) _
  refine .bind ?_ fun _ => .done (engaged_stable j) _
  exact (written_owned j _ fun w inv engaged => rowEnded_step j _ _ _ inv engaged).attempt

theorem rollBack_owned (backupResult : Option BackupResult) (stages : List UpgradeStageResult)
    (reason msg : String) :
    Owner j (rollBack env out j upgradeId v backupResult stages reason msg) := by
  unfold rollBack
  split
  · apply (attemptRollback_owned env out j upgradeId).bind
    exact fun rollbackResult => abort_owned out j upgradeId v _ reason msg
  · exact abort_owned out j upgradeId v stages reason msg

theorem completeUpgrade_owned (stages : List UpgradeStageResult) :
    Owner j (completeUpgrade out j upgradeId v stages) := by
  apply Owned.bind
  · exact (written_owned j _ fun w inv engaged => rowEnded_step j _ _ _ inv engaged).attempt
  · intro recorded
    cases recorded with
    | ok _ => exact .done (engaged_stable j) _
    | error msg => exact .done (engaged_stable j) _

theorem afterHealthCheck_owned (backupResult : Option BackupResult)
    (stages : List UpgradeStageResult) :
    Owner j (afterHealthCheck out j upgradeId v backupResult stages) := by
  apply (executeStage_owned j (completeUpgrade_owned out j upgradeId v stages)).bind
  exact fun completionResult => .done (engaged_stable j) _

theorem runPostHealthCheck_owned : Owner j (runPostHealthCheck out) := by
  apply (answered_owned j out.health).bind
  intro healthResult
  cases healthResult.healthy with
  | true => exact .done (engaged_stable j) _
  | false => exact .done (engaged_stable j) _

theorem afterMigration_owned (backupResult : Option BackupResult)
    (stages : List UpgradeStageResult) :
    Owner j (afterMigration env out j upgradeId v backupResult stages) := by
  apply (executeStage_owned j (runPostHealthCheck_owned out j)).bind
  intro healthResult
  cases healthResult.success with
  | true => exact afterHealthCheck_owned out j upgradeId v backupResult _
  | false => exact rollBack_owned env out j upgradeId v backupResult _ _ _

theorem runDatabaseMigration_owned : Owner j (runDatabaseMigration out j upgradeId) := by
  intro w engaged
  apply Sat.modify_bind
  intro pre moved inv _
  have active : (pre.phase j).engaged := (engaged_stable j _ _ engaged moved inv).1
  have starts : Works j pre (happens (.migrated upgradeId ((pre.row? upgradeId).bind (·.backupId)))
      { pre with migrating := update pre.migrating j true }) :=
    works_of_log inv active rfl rfl rfl (fun k other => update_of_ne other ..)
      fun row mem opens => ⟨row, mem, opens⟩
  refine ⟨works_exclusive inv active starts, fun k other => works_untouched starts other, ?_⟩
  apply Sat.modify_bind
  intro during moved inv _
  have active : (during.phase j).engaged := moved.phase ▸ active
  have ends : Works j during { during with migrating := update during.migrating j false } :=
    works_of_log inv active rfl rfl rfl (fun k other => update_of_ne other ..)
      fun row mem opens => ⟨row, mem, opens⟩
  refine ⟨works_exclusive inv active ends, fun k other => works_untouched ends other, ?_⟩
  have owns : Engaged j { during with migrating := update during.migrating j false } :=
    ⟨active, update_self ..⟩
  cases out.migration with
  | ok output => exact done (engaged_stable j) _ _ owns
  | error output => exact done (engaged_stable j) _ _ owns

theorem afterConfigCheck_owned (backupResult : Option BackupResult)
    (stages : List UpgradeStageResult) :
    Owner j (afterConfigCheck env out j upgradeId v options backupResult stages) := by
  unfold afterConfigCheck
  split
  · exact afterMigration_owned env out j upgradeId v backupResult _
  · apply (executeStage_owned j (runDatabaseMigration_owned out j upgradeId)).bind
    intro migrationResult
    cases migrationResult.success with
    | true => exact afterMigration_owned env out j upgradeId v backupResult _
    | false => exact rollBack_owned env out j upgradeId v backupResult _ _ _

theorem checkConfigCompatibility_owned : Owner j (checkConfigCompatibility out v) := by
  apply (answered_owned j out.compatibility).bind
  intro compatResult
  cases compatResult.compatible with
  | true => exact .done (engaged_stable j) _
  | false => exact .done (engaged_stable j) _

theorem afterBackup_owned (backupResult : Option BackupResult) (stages : List UpgradeStageResult) :
    Owner j (afterBackup env out j upgradeId v options backupResult stages) := by
  apply (executeStage_owned j (checkConfigCompatibility_owned out j v)).bind
  intro configResult
  cases configResult.success with
  | true => exact afterConfigCheck_owned env out j upgradeId v options backupResult _
  | false => exact abort_owned out j upgradeId v _ _ _

theorem backUp_owned : Owner j (backUp env out upgradeId v) := by
  apply Owned.bind
  · apply atomic (engaged_stable j)
    intro w inv engaged
    cases out.pgDump with
    | error msg => exact ownStep_of_same_log inv engaged rfl rfl rfl rfl rfl
    | ok size => exact ownStep_of_same_log inv engaged rfl rfl rfl rfl rfl
  · intro backupResult
    apply (require (engaged_stable j) _ _).bind
    intro _
    apply Owned.bind
    · exact written_owned j _ fun w inv engaged =>
        backupRecorded_step j upgradeId _ _ inv engaged
    · exact fun _ => .done (engaged_stable j) _

theorem afterValidation_owned (stages : List UpgradeStageResult) :
    Owner j (afterValidation env out j upgradeId v options stages) := by
  unfold afterValidation
  split
  · exact afterBackup_owned env out j upgradeId v options none _
  · apply (backUp_owned env out j upgradeId v).attempt.bind
    intro outcome
    cases outcome with
    | ok backup => exact afterBackup_owned env out j upgradeId v options _ _
    | error msg => exact abort_owned out j upgradeId v _ _ _

theorem runPreValidation_owned : Owner j (runPreValidation out options) := by
  apply (answered_owned j out.validation).bind
  intro validation
  split
  · exact .done (engaged_stable j) _
  · exact .done (engaged_stable j) _

theorem afterInitialization_owned (stages : List UpgradeStageResult) :
    Owner j (afterInitialization env out j upgradeId v options stages) := by
  apply (executeStage_owned j (runPreValidation_owned out j options)).bind
  intro preValidationResult
  cases preValidationResult.success with
  | true => exact afterValidation_owned env out j upgradeId v options _
  | false => exact abort_owned out j upgradeId v _ _ _

theorem initializeUpgrade_owned : Owner j (initializeUpgrade env out j upgradeId v options) := by
  apply Owned.bind
  · exact (written_owned j _ fun w inv engaged =>
      rowCreated_step env j upgradeId v options inv engaged).attempt
  · intro new
    cases new with
    | ok _ => exact .done (engaged_stable j) _
    | error msg => exact .done (engaged_stable j) _

theorem runUpgrade_owned : Owner j (runUpgrade env out j v options) := by
  apply Owned.bind
  · apply atomic (engaged_stable j)
    intro w inv engaged
    exact ownStep_of_same_log inv engaged rfl rfl rfl rfl rfl
  · intro upgradeId
    apply (executeStage_owned j (initializeUpgrade_owned env out j upgradeId v options)).bind
    intro initResult
    cases initResult.success with
    | true => exact afterInitialization_owned env out j upgradeId v options _
    | false => exact .done (engaged_stable j) _

end Stages

/-- Call `j` has not begun. -/
def Idle (j : Nat) (w : World) : Prop := w.phase j = .idle ∧ w.migrating j = false

theorem idle_stable (idle : Idle j w) (moved : Untouched j w w') : Idle j w' :=
  ⟨moved.phase.trans idle.1, moved.migrating.trans idle.2⟩

theorem runningSince_running {k : Nat} (inv : Exclusive w)
    (running : w.phase k = .running) (since : cutoff ≤ w.now - IN_PROGRESS_TTL_MS) :
    ∃ row, runningSince cutoff w = some row := by
  obtain ⟨row, mem, open_, after⟩ := inv.visible k running
  have brief := inv.brief k (by rw [running]; rfl)
  have recent : cutoff ≤ row.startedAt := by omega
  have found : row ∈ w.log.filter fun row =>
      row.status = .IN_PROGRESS && decide (cutoff ≤ row.startedAt) := by
    simp [mem, open_, recent]
  exact newest_isSome _ found

theorem lookedUp_alone (inv : Exclusive w)
    (idle : w.phase j = .idle) (since : cutoff ≤ w.now - IN_PROGRESS_TTL_MS)
    (careful : Careful w (lookUp j cutoff w).2) (hit : runningSince cutoff w = none) :
    ∀ k, (w.phase k).engaged = false := by
  intro k
  by_contra active
  rw [not_eq_false] at active
  have other : k ≠ j := by
    rintro rfl
    rw [idle] at active
    cases active
  have looked : (lookUp j cutoff w).2.phase j = .lookedUp := by
    simp [lookUp, hit]
  have seen := careful j (by rw [idle]; decide) looked k other
  rcases unseen_or_running active with unseen | running
  · rw [unseen] at seen
    cases seen
  · obtain ⟨row, mem⟩ := runningSince_running inv running since
    rw [hit] at mem
    cases mem

theorem lookUp_step (inv : Exclusive w)
    (idle : Idle j w) (since : cutoff ≤ w.now - IN_PROGRESS_TTL_MS)
    (careful : Careful w (lookUp j cutoff w).2) : Exclusive (lookUp j cutoff w).2 ∧
      (∀ k, k ≠ j → Untouched k w (lookUp j cutoff w).2) ∧
      ((lookUp j cutoff w).1 = none → Engaged j (lookUp j cutoff w).2) := by
  cases hit : runningSince cutoff w with
  | some row =>
    have same : lookUp j cutoff w = (some row, w) := by simp [lookUp, hit]
    rw [same]
    exact ⟨inv, fun k _ => ⟨rfl, rfl, rfl, le_rfl⟩, fun h => by cases h⟩
  | none =>
    have alone := lookedUp_alone inv idle.1 since careful hit
    have moved : lookUp j cutoff w = (none, { w with
        phase := update w.phase j .lookedUp
        beganAt := update w.beganAt j w.now }) := by simp [lookUp, hit]
    have only : ∀ k, (update w.phase j .lookedUp k).engaged → k = j := by
      intro k active
      by_contra other
      rw [update_of_ne other, alone k] at active
      cases active
    rw [moved]
    refine ⟨?_, ?_, ?_⟩
    · constructor
      · intro k l active active'
        rw [only k active, only l active']
      · intro k running
        by_cases same : k = j
        · subst same
          simp at running
        · have active := alone k
          simp only [update_of_ne same] at running
          rw [running] at active
          cases active
      · intro k active
        rw [only k active]
        simp
      · intro k active
        rw [only k active]
        simp [IN_PROGRESS_TTL_MS]
      · intro k migrating
        have active := inv.migrates k migrating
        rw [alone k] at active
        cases active
    · exact fun k other =>
        ⟨update_of_ne other .., update_of_ne other .., rfl, le_rfl⟩
    · intro _
      exact ⟨by simp [Phase.engaged], idle.2⟩

section Calls

variable (env : Environment) (out : Outside) (j i : Nat) (v : String) (options : Options)

theorem admitted_step (inv : Exclusive w) (engaged : Engaged j w) :
    Prog.OwnStep upgrades j (Engaged j) w
      ({ w with inFlight := update w.inFlight i true }.at j .admitted) := by
  refine ownStep_of_works inv engaged ?_ rfl
  refine ⟨rfl, rfl, fun k other => ⟨update_of_ne other .., rfl⟩, ?_, ?_⟩
  · simp [World.at, Phase.engaged]
  · intro running
    simp [World.at] at running

theorem finished_step (inv : Exclusive w) (engaged : Engaged j w) :
    Exclusive ({ w with inFlight := update w.inFlight i false }.at j .finished) ∧
      ∀ k, k ≠ j → Untouched k w
        ({ w with inFlight := update w.inFlight i false }.at j .finished) := by
  constructor
  · apply exclusive_of_quiet
    · intro k
      by_cases same : k = j
      · subst same
        simp [World.at, Phase.engaged]
      · by_contra active
        rw [not_eq_false] at active
        simp only [World.at, update_of_ne same] at active
        exact same (inv.alone k j active engaged.1)
    · intro k
      by_cases same : k = j
      · rw [same]
        exact engaged.2
      · by_contra migrating
        rw [not_eq_false] at migrating
        exact same (inv.alone k j (inv.migrates k migrating) engaged.1)
  · exact fun k other => ⟨update_of_ne other .., rfl, rfl, le_rfl⟩

theorem assertNoUpgradeInProgress_sat (idle : Idle j w) :
    (assertNoUpgradeInProgress env j i v).Sat upgrades Careful j
      (onOk fun _ w => Engaged j w) w := by
  apply Sat.read_bind
  intro atTest moved inv
  have idle := idle_stable idle moved
  apply Sat.require_bind
  · intro _
    apply Sat.atomic_bind
    intro atQuery moved inv careful
    have idle := idle_stable idle moved
    have later := moved.later
    have since : atTest.now - IN_PROGRESS_TTL_MS ≤ atQuery.now - IN_PROGRESS_TTL_MS := by omega
    obtain ⟨kept, os, engages⟩ := lookUp_step inv idle since careful
    refine ⟨kept, os, ?_⟩
    cases hit : (lookUp j (atTest.now - IN_PROGRESS_TTL_MS) atQuery).1 with
    | some row => exact .fail fun _ _ _ => trivial
    | none =>
      intro admitting moved inv _
      have engaged := engaged_stable j _ _ (engages hit) moved inv
      obtain ⟨kept, owned, os⟩ := admitted_step j i inv engaged
      exact ⟨kept, os, fun _ moved inv => engaged_stable j _ _ owned moved inv⟩
  · exact fun _ _ _ _ => trivial

theorem guardedRun_sat (engaged : Engaged j w) :
    (guardedRun env out j i v options).Sat upgrades Careful j (fun _ _ => True)
      w := by
  apply Sat.bind
  apply ((runUpgrade_owned env out j v options).attempt w engaged).mono
  intro res ended engaged
  cases res with
  | error f => trivial
  | ok res =>
    apply Sat.modify_bind
    intro ending moved inv _
    obtain ⟨kept, os⟩ := finished_step j i inv (engaged_stable j _ _ engaged moved inv)
    refine ⟨kept, os, ?_⟩
    cases res with
    | ok res => exact .done fun _ _ _ => trivial
    | error f => exact .fail fun _ _ _ => trivial

theorem upgrade_sat (real : options.dryRun = false) (idle : Idle j w) :
    (upgrade env out j i v options).Sat upgrades Careful j (fun _ _ => True) w := by
  have guarded : ∀ w, Idle j w → (do
        assertNoUpgradeInProgress env j i v
        guardedRun env out j i v options).Sat upgrades Careful j (fun _ _ => True)
          w := by
    intro w idle
    apply (assertNoUpgradeInProgress_sat env j i v idle).ok_bind
    · exact fun _ w engaged => guardedRun_sat env out j i v options engaged
    · exact fun _ _ => trivial
  unfold upgrade
  rw [real]
  cases options.force with
  | true => exact guarded w idle
  | false =>
    apply Sat.require_bind
    · exact fun _ => guarded w idle
    · exact fun _ _ _ _ => trivial

end Calls

section Runs

variable {env : Environment} {out : Nat → Outside} {instances : Nat → Nat}
  {v : Nat → String} {options : Nat → Options} {w : World}

/-- Call `j` goes to `instances j`. -/
def calls (env : Environment) (outside : Nat → Outside) (instances : Nat → Nat)
    (toVersion : Nat → String) (options : Nat → Options) (w : World) :
    Pool Nat World Failure UpgradeResult :=
  ⟨w, fun j => upgrade env (outside j) j (instances j) (toVersion j) (options j)⟩

variable {c : Pool Nat World Failure UpgradeResult}

theorem calls_exclusive (real : ∀ j, (options j).dryRun = false) (idle : ∀ j, Idle j w) (reached : Pool.Reaches Passes Careful
      (calls env out instances v options w) c) : Exclusive c.state := by
  have start : Exclusive w :=
    exclusive_of_quiet (fun j => by rw [(idle j).1]; rfl) fun j => (idle j).2
  exact (sound (P := upgrades)
    (c := calls env out instances v options w) start
    (fun j => upgrade_sat env (out j) j (instances j) (v j) (options j) (real j) (idle j))
    (fun _ _ inv passes => passes_untouched inv passes) reached).1

/-- No two calls have both passed the guard, and no two migrations run, as long as no call looks
for a running upgrade in one of the gaps. -/
theorem one_upgrade_at_a_time (real : ∀ j, (options j).dryRun = false) (idle : ∀ j, Idle j w)
    (reached : Pool.Reaches Passes Careful (calls env out instances v options w) c) :
    (∀ j k, (c.state.phase j).underway → (c.state.phase k).underway → j = k) ∧
      ∀ j k, c.state.migrating j → c.state.migrating k → j = k := by
  have exclusive := calls_exclusive real idle reached
  constructor
  · intro j k underway other
    exact exclusive.alone j k (engaged_of_underway underway) (engaged_of_underway other)
  · intro j k migrates other
    exact exclusive.alone j k (exclusive.migrates j migrates) (exclusive.migrates k other)

end Runs

def twoUpgrades : Pool Nat World Failure UpgradeResult :=
  calls cluster (fun _ => smooth) id (fun _ => "2.0.0") (fun _ => {}) {}

instance : DecidableRel (fun _ _ : World => True) := fun _ _ => .isTrue trivial

theorem careful_unless_lookedUp
    (moved : ∀ j, w'.phase j = .lookedUp → w.phase j = .lookedUp) : Careful w w' :=
  fun j before after => absurd (moved j after) before

theorem admitted_reached : Pool.Reaches Passes Careful twoUpgrades
    (((twoUpgrades.advance 0).advance 0).advance 0) := by
  have tested : Pool.Reaches Passes Careful twoUpgrades (twoUpgrades.advance 0) :=
    reaches_turn .refl (careful_unless_lookedUp fun _ => id)
  have queried : Pool.Reaches Passes Careful twoUpgrades ((twoUpgrades.advance 0).advance 0) :=
    reaches_turn tested fun j _ _ k _ => rfl
  apply reaches_turn queried
  apply careful_unless_lookedUp
  intro j looked
  change update (update (fun _ => Phase.idle) 0 .lookedUp) 0 .admitted j = .lookedUp at looked
  by_cases same : j = 0
  · subst same
    cases looked
  · simp [same] at looked

/-- The first replica has written its row. -/
def firstRuns : Pool Nat World Failure UpgradeResult :=
  ((((twoUpgrades.advance 0).advance 0).advance 0).advance 0).advance 0

theorem firstRuns_reached : Pool.Reaches Passes Careful twoUpgrades firstRuns := by
  have numbered := reaches_turn (i := 0) admitted_reached (careful_unless_lookedUp fun _ => id)
  apply reaches_turn numbered
  apply careful_unless_lookedUp
  intro j looked
  change update ((((twoUpgrades.advance 0).advance 0).advance 0).state.phase) 0 .running j =
    .lookedUp at looked
  by_cases same : j = 0
  · subst same
    cases looked
  · rwa [update_of_ne same] at looked

/-- The second replica has asked for a running upgrade. -/
def secondAsks : Pool Nat World Failure UpgradeResult := (firstRuns.advance 1).advance 1

theorem secondAsks_reached : Pool.Reaches Passes Careful twoUpgrades secondAsks :=
  reaches_turn (reaches_turn firstRuns_reached (careful_unless_lookedUp fun _ => id))
    (careful_unless_lookedUp fun _ => id)

/-- The second replica is refused while the first one is running, which then migrates alone. -/
theorem second_replica_is_refused : ∃ (c : Pool Nat World Failure UpgradeResult)
    (failure : Failure), secondAsks.procs 1 = .fail failure ∧
      Pool.Reaches Passes Careful secondAsks c ∧ c.state.migrating 0 = true ∧
      (∀ j k, (c.state.phase j).underway → (c.state.phase k).underway → j = k) ∧
      ∀ j k, c.state.migrating j → c.state.migrating k → j = k := by
  have validated : Pool.Reaches Passes Careful secondAsks (secondAsks.advance 0) :=
    reaches_turn .refl (careful_unless_lookedUp fun _ => id)
  have dumped := reaches_turn (i := 0) validated (careful_unless_lookedUp fun _ => id)
  have migrates := reaches_turn (i := 0) dumped (careful_unless_lookedUp fun _ => id)
  exact ⟨_, _, rfl, migrates, rfl, one_upgrade_at_a_time (fun _ => rfl) (fun _ => ⟨rfl, rfl⟩)
      (secondAsks_reached.trans migrates)⟩

/-- Both replicas look for a running upgrade before either writes its row. -/
theorem two_migrations_at_once : ∃ c : Pool Nat World Failure UpgradeResult,
    Pool.Reaches Passes (fun _ _ => True) twoUpgrades c ∧
      (c.state.phase 0).underway ∧ (c.state.phase 1).underway ∧
      c.state.migrating 0 ∧ c.state.migrating 1 := by
  refine ⟨twoUpgrades.schedule [0, 1, 0, 1, 0, 1, 0, 0, 1, 1, 0, 0, 1, 1, 0, 1],
    reaches_schedule (by decide +kernel), ?_⟩
  decide +kernel

end Idenplane.Upgrade
