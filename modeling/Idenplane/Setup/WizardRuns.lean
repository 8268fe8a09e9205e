import Idenplane.Admin.Auth
import Idenplane.Lib.Focus
import Idenplane.Setup.SigningKeys

/-! # Through the wizard

The steps of the set-up wizard, one after the other, in any order and with whatever calls of the
database failing.  The client that one of them creates belongs to a realm that only the last one
creates, and that realm is never the one whose administrators can sign in.
-/

namespace Idenplane.Setup

open Atomic Auth Admin Realms.Transfer SameRealms Prog.Ensures Text

variable {world : World} {throws : Throws} {s : WizardState}

structure SaveAdminAccountDto where
  (username email password : String)

structure SaveRealmSettingsDto where
  name : String
  displayName : Option String := none

structure SaveSmtpConfigDto where
  host : String
  port : Int
  password : Option String := none
  from_ : String

structure Desk where
  world : World := {}
  row : Option WizardState := none

abbrev Visit (α : Type) := Prog Desk Failure α

/-- The calls of the database that fail: those that are about the row are counted. -/
structure Faults where
  row : Nat → Bool := fun _ => false
  throws : Throws := fun _ => false

section Validators

def validateAdminAccount (dto : SaveAdminAccountDto) : Visit Unit := do
  require (3 ≤ utf16Length dto.username.toList)
    (badRequest "Username must be at least 3 characters")
  require (dto.email.toList.contains '@') (badRequest "Valid email address is required")
  require (8 ≤ utf16Length dto.password.toList)
    (badRequest "Password must be at least 8 characters")
  require (dto.password.toList.any Char.isUpper && dto.password.toList.any Char.isLower &&
      dto.password.toList.any Char.isDigit)
    (badRequest ("Password must contain at least one uppercase letter, one lowercase letter, " ++
      "and one digit"))

/-- `/^[a-z][a-z0-9-]*$/`. -/
def isRealmName : List Char → Bool
  | [] => false
  | first :: rest => first.isLower && rest.all fun c => c.isLower || c.isDigit || c = '-'

def validateRealmSettings (dto : SaveRealmSettingsDto) : Visit Unit := do
  require (2 ≤ utf16Length dto.name.toList)
    (badRequest "Realm name must be at least 2 characters")
  require (isRealmName dto.name.toList) (badRequest
    ("Realm name must start with a lowercase letter and contain only lowercase letters, " ++
      "numbers, and hyphens"))
  require (dto.name != "master" && dto.name != "public")
    (badRequest ("Realm name '" ++ dto.name ++ "' is reserved"))

def validateSmtpConfig (dto : SaveSmtpConfigDto) : Visit Unit := do
  require (dto.host != "") (badRequest "SMTP host is required")
  require (1 ≤ dto.port && dto.port ≤ 65535) (badRequest "SMTP port must be between 1 and 65535")
  require (dto.from_.toList.contains '@') (badRequest "Valid from email address is required")

end Validators

section Steps

variable (deps : Deps) (isHttpUrl : String → Bool) (faults : Faults)

def findOrCreate (desk : Desk) : WizardState × Desk :=
  match desk.row with
  | some state => (state, desk)
  | none => ({}, { desk with row := some {} })

def getWizardState (i : Nat) : Visit WizardState := do
  require (!faults.row i) .internal
  atomic findOrCreate

/-- `wizardState.update`, which throws when the row is gone. -/
def updateRow (i : Nat) (change : WizardState → WizardState) : Visit Unit := do
  require (!faults.row i) .internal
  let found ← atomic fun desk => (desk.row, { desk with row := desk.row.map change })
  let _ ← orFail found .internal

def onTables {α : Type} (call : Call α) : Visit α :=
  call.focus Desk.world fun world desk => { desk with world := world }

def saveAdminAccount (dto : SaveAdminAccountDto) : Visit Unit := do
  validateAdminAccount dto
  require (utf16Length dto.password.toList ≤ maxPasswordLength) .internal
  let _ ← getWizardState faults 0
  let state ← getWizardState faults 1
  updateRow faults 2 fun row => { row with
    adminUsername := some dto.username
    adminEmail := some dto.email
    adminPasswordHash := some (deps.hashPassword dto.password)
    currentStep := max state.currentStep 1 }

def saveRealmSettings (dto : SaveRealmSettingsDto) : Visit Unit := do
  validateRealmSettings dto
  require (!faults.throws .findRealm) .internal
  let existing ← read fun desk => desk.world.db.realms.any (·.name = dto.name)
  require (!existing) (badRequest ("Realm '" ++ dto.name ++ "' already exists"))
  let _ ← getWizardState faults 0
  let state ← getWizardState faults 1
  -- A name that is left out is not written.
  updateRow faults 2 fun row => { row with
    realmName := some dto.name
    realmDisplayName := dto.displayName.or row.realmDisplayName
    currentStep := max state.currentStep 2 }

def saveSmtpConfig (dto : SaveSmtpConfigDto) : Visit Unit := do
  validateSmtpConfig dto
  let _ ← getWizardState faults 0
  let state ← getWizardState faults 1
  updateRow faults 2 fun row => { row with
    smtpConfig := some { host := dto.host, password := dto.password }
    currentStep := max state.currentStep 3 }

def saveClientStep (dto : SaveClientDto) (clientSecret : String) : Visit Unit := do
  onTables (validateClientConfig isHttpUrl dto)
  let state ← getWizardState faults 0
  let written ← onTables (saveClient faults.throws isHttpUrl state dto clientSecret)
  updateRow faults 1 fun row => { row with
    clientId := written.clientId
    clientSecret := written.clientSecret
    redirectUris := written.redirectUris
    currentStep := written.currentStep }

def markSdkGenerated : Visit Unit := do
  let _ ← getWizardState faults 0
  let state ← getWizardState faults 1
  updateRow faults 2 fun row => { row with currentStep := max state.currentStep 5 }

def finishWizard : Visit Unit := do
  let state ← getWizardState faults 0
  let written ← onTables (completeWizard faults.throws state)
  updateRow faults 1 fun row => { row with
    completed := written.completed
    currentStep := written.currentStep }

/-- The column `skipped` is not read by the other steps. -/
def skipWizard : Visit Unit := do
  let _ ← getWizardState faults 0
  updateRow faults 1 id

def resetWizard : Visit Unit := do
  require (!faults.row 0) .internal
  modify fun desk => { desk with row := none }

inductive WizardStep where
  | saveAdminAccount (dto : SaveAdminAccountDto)
  | saveRealmSettings (dto : SaveRealmSettingsDto)
  | saveSmtpConfig (dto : SaveSmtpConfigDto)
  | saveClient (dto : SaveClientDto) (clientSecret : String)
  | markSdkGenerated
  | completeWizard
  | skipWizard
  | resetWizard

def WizardStep.handler : WizardStep → Visit Unit
  | .saveAdminAccount dto => Setup.saveAdminAccount deps faults dto
  | .saveRealmSettings dto => Setup.saveRealmSettings faults dto
  | .saveSmtpConfig dto => Setup.saveSmtpConfig faults dto
  | .saveClient dto clientSecret => saveClientStep isHttpUrl faults dto clientSecret
  | .markSdkGenerated => Setup.markSdkGenerated faults
  | .completeWizard => finishWizard faults
  | .skipWizard => Setup.skipWizard faults
  | .resetWizard => Setup.resetWizard faults

def perform : List WizardStep → Visit Unit
  | [] => pure ()
  | step :: steps => do
    step.handler deps isHttpUrl faults
    perform steps

end Steps

structure Inputs where
  account : SaveAdminAccountDto
  realm : SaveRealmSettingsDto
  smtp : Option SaveSmtpConfigDto := none
  client : SaveClientDto
  clientSecret : String

def Inputs.steps (inputs : Inputs) : List WizardStep :=
  [.saveAdminAccount inputs.account, .saveRealmSettings inputs.realm] ++
    inputs.smtp.toList.map .saveSmtpConfig ++
      [.saveClient inputs.client inputs.clientSecret, .completeWizard]

/-- The tables, as `AdminAuthService` reads them. -/
def adminStore (now : Int) (world : World) : Store :=
  { storeOf world with
    now := now
    users := world.db.users
    roles := world.db.roles
    userRoles := world.db.userRoles }


variable {row : Realms.RealmRow}

section Runs

variable (deps : Deps) (isHttpUrl : String → Bool)

def Performs (desk desk' : Desk) : Prop :=
  ∃ faults step, desk' = ((WizardStep.handler deps isHttpUrl faults step).run desk).2

/-- Any steps in any order, from an empty database. -/
abbrev Reached (desk : Desk) : Prop := Relation.ReflTransGen (Performs deps isHttpUrl) {} desk

def Masterless (world : World) : Prop := ∀ realm ∈ world.db.realms, realm.name ≠ "master"

/-- No realm is the one of the administrators, and none is going to be. -/
structure NoMaster (desk : Desk) : Prop where
  realms : Masterless desk.world
  chosen : ∀ state, desk.row = some state → state.realmName ≠ some "master"

variable {deps isHttpUrl} {desk : Desk} {faults : Faults}

theorem NoMaster.start : NoMaster {} := by
  constructor
  · intro r mem
    cases mem
  · intro s isRow
    cases isRow

theorem findOrCreate_world (desk : Desk) : (findOrCreate desk).2.world = desk.world := by
  unfold findOrCreate
  cases desk.row <;> rfl

section

variable (none_ : NoMaster desk)

include none_

theorem findOrCreate_spec :
    NoMaster (findOrCreate desk).2 ∧ (findOrCreate desk).2.row = some (findOrCreate desk).1 := by
  unfold findOrCreate
  cases isRow : desk.row with
  | none =>
    refine ⟨⟨none_.realms, ?_⟩, rfl⟩
    intro s isState
    cases isState
    exact fun named => nomatch named
  | some s => exact ⟨none_, isRow⟩

theorem getWizardState_ensures (i : Nat) : (getWizardState faults i).Ensures NoMaster
      (fun s desk' => NoMaster desk' ∧ desk'.row = some s) desk := by
  apply Ensures.require_bind none_
  intro _
  exact findOrCreate_spec none_

theorem updateRow_ensures (i : Nat) {chg : WizardState → WizardState}
    (named : ∀ s, desk.row = some s → (chg s).realmName ≠ some "master") :
    (updateRow faults i chg).Ensures NoMaster (fun _ => NoMaster) desk := by
  apply Ensures.require_bind none_
  intro _
  have changed : NoMaster { desk with row := desk.row.map chg } := by
    refine ⟨none_.realms, fun s isRow => ?_⟩
    obtain ⟨old, isOld, rfl⟩ := map_eq_some_iff.mp isRow
    exact named old isOld
  apply Ensures.atomic_bind
  apply Ensures.orFail_bind changed
  intro _ _
  exact changed

theorem write_ensures {chg : WizardState → WizardState → WizardState}
    (named : ∀ s row, row.realmName ≠ some "master" → (chg s row).realmName ≠ some "master") :
    (getWizardState faults 0 >>= fun _ => getWizardState faults 1 >>= fun s =>
      updateRow faults 2 (chg s)).Ensures NoMaster (fun _ => NoMaster) desk := by
  apply Ensures.bind
  apply (getWizardState_ensures none_ 0).mono
  intro _ desk₁ first
  apply Ensures.bind
  apply (getWizardState_ensures first.1 1).mono
  intro s desk₂ snd
  apply updateRow_ensures snd.1
  intro row isRow
  exact named s row (snd.1.chosen row isRow)

end

theorem onTables_ensures {α : Type} {call : Call α} {thrown : Desk → Prop} {post : α → Desk → Prop}
    (h : call.Ensures (fun world => thrown { desk with world := world })
      (fun a world => post a { desk with world := world }) desk.world) :
    (onTables call).Ensures thrown post desk :=
  .focus Desk.world (fun world desk => { desk with world := world }) (fun _ _ => rfl) (fun _ _ _ => rfl) (fun _ => rfl) h

theorem Masterless.same {world world' : World} (none_ : Masterless world)
    (same : SameRealms world world') : Masterless world' := by
  unfold Masterless
  rw [same.realms]
  exact none_

theorem NoMaster.same (none_ : NoMaster desk) (same : SameRealms desk.world world) :
    NoMaster { desk with world := world } :=
  ⟨none_.realms.same same, none_.chosen⟩

theorem createSignedRealm_ensures (throws : Throws)
    (none_ : Masterless world) (named : row.name ≠ "master") :
    (createSignedRealm throws row).Ensures Masterless (fun _ => Masterless) world := by
  apply Ensures.require_bind none_
  intro _
  apply Ensures.atomic_bind
  have inserted : Masterless (Realms.Transfer.insert
      (fun db => (db.realms.find? (·.name = row.name)).isSome)
      (fun id db => { db with
        realms := db.realms ++ [{ row with id := id }]
        signingKeys := db.signingKeys ++ [{ id := id, realmId := id, createdAt := 0 }] })
      world).2 := by
    unfold Realms.Transfer.insert
    split
    · exact none_
    · intro r mem
      cases mem_append.mp mem with
      | inl old => exact none_ r old
      | inr new =>
        rw [mem_singleton.mp new]
        exact named
  exact .orFail inserted fun _ _ => inserted

theorem completeWizard_ensures (none_ : Masterless world) (chosen : s.realmName ≠ some "master") :
    (completeWizard throws s).Ensures Masterless (fun _ => Masterless) world := by
  apply Ensures.orFail_bind none_
  intro uname _
  apply Ensures.orFail_bind none_
  intro hash _
  apply Ensures.orFail_bind none_
  intro name isName
  apply Ensures.require_bind none_
  intro _
  have named : name ≠ "master" := by
    intro isMaster
    exact chosen (isMaster ▸ (given_eq_some.mp isName).1)
  have created : (createSignedRealm throws (wizardRealm s name)).Ensures _ _ _ :=
    createSignedRealm_ensures throws none_ named
  apply Ensures.bind
  apply created.mono
  intro rid world₁ realms
  apply Ensures.bind
  have seeded : (pure (wizardAdmin s rid uname hash) : Call User).Keeps SameRealms := trivial
  apply Ensures.of_keeps refl trans (furnish_keeps throws rid seeded)
  · intro world₂ same
    exact realms.same same
  · intro _ world₂ _ same
    exact realms.same same

theorem saveClientStep_ensures (none_ : NoMaster desk) (dto : SaveClientDto) (sec : String) :
    (saveClientStep isHttpUrl faults dto sec).Ensures NoMaster (fun _ => NoMaster) desk := by
  apply Ensures.bind
  apply onTables_ensures
  apply Ensures.of_keeps refl trans (validateClientConfig_keeps _ _)
  · intro world same
    exact none_.same same
  intro _ world _ same
  apply Ensures.bind
  apply (getWizardState_ensures (none_.same same) 0).mono
  intro s desk₁ first
  apply Ensures.bind
  apply onTables_ensures
  apply Ensures.of_keeps refl trans (saveClient_keeps _ _ _ _ _)
  · intro world same
    exact first.1.same same
  intro written world _ same
  exact updateRow_ensures (first.1.same same) 1 fun row isRow => first.1.chosen row isRow

theorem finishWizard_ensures (none_ : NoMaster desk) :
    (finishWizard faults).Ensures NoMaster (fun _ => NoMaster) desk := by
  apply Ensures.bind
  apply (getWizardState_ensures none_ 0).mono
  intro s desk₁ ⟨first, isRow⟩
  apply Ensures.bind
  apply onTables_ensures
  apply (completeWizard_ensures first.realms (first.chosen s isRow)).weaken
  · intro world realms
    exact ⟨realms, first.chosen⟩
  · intro written world realms
    have written_ : NoMaster { desk₁ with world := world } := ⟨realms, first.chosen⟩
    exact updateRow_ensures written_ 1 fun row isRow => first.chosen row isRow

theorem validateAdminAccount_reads (dto : SaveAdminAccountDto) :
    (validateAdminAccount dto).Keeps Eq :=
  .bind (.require _ _) fun _ => .bind (.require _ _) fun _ => .bind (.require _ _) fun _ =>
    .require _ _

theorem validateRealmSettings_reads (dto : SaveRealmSettingsDto) :
    (validateRealmSettings dto).Keeps Eq :=
  .bind (.require _ _) fun _ => .bind (.require _ _) fun _ => .require _ _

theorem validateSmtpConfig_reads (dto : SaveSmtpConfigDto) : (validateSmtpConfig dto).Keeps Eq :=
  .bind (.require _ _) fun _ => .bind (.require _ _) fun _ => .require _ _

theorem handler_ensures (none_ : NoMaster desk) (step : WizardStep) :
    (step.handler deps isHttpUrl faults).Ensures NoMaster (fun _ => NoMaster) desk := by
  cases step with
  | saveAdminAccount dto =>
    apply Ensures.bind
    apply of_reads (validateAdminAccount_reads dto) none_
    intro _ _
    apply Ensures.require_bind none_
    intro _
    exact write_ensures none_ fun _ _ chosen => chosen
  | saveRealmSettings dto =>
    apply Ensures.bind
    apply Ensures.require_bind none_
    intro _
    apply Ensures.require_bind none_
    intro _
    apply require none_
    intro allowed
    apply Ensures.require_bind none_
    intro _
    apply Ensures.read_bind
    apply Ensures.require_bind none_
    intro _
    refine write_ensures none_ fun _ _ _ named => ?_
    rw [some.inj named] at allowed
    cases allowed
  | saveSmtpConfig dto =>
    apply Ensures.bind
    apply of_reads (validateSmtpConfig_reads dto) none_
    intro _ _
    exact write_ensures none_ fun _ _ chosen => chosen
  | saveClient dto sec => exact saveClientStep_ensures none_ dto sec
  | markSdkGenerated => exact write_ensures none_ fun _ _ chosen => chosen
  | completeWizard => exact finishWizard_ensures none_
  | skipWizard =>
    apply Ensures.bind
    apply (getWizardState_ensures none_ 0).mono
    intro s desk₁ first
    exact updateRow_ensures first.1 1 fun row isRow => first.1.chosen row isRow
  | resetWizard =>
    apply Ensures.require_bind none_
    intro _
    refine ⟨none_.realms, fun s isRow => ?_⟩
    cases isRow

theorem noMaster_of_run (run : Reached deps isHttpUrl desk) : NoMaster desk := by
  induction run with
  | refl => exact .start
  | tail _ step ih =>
    obtain ⟨faults, step, rfl⟩ := step
    exact (handler_ensures ih step).run

end Runs

section Dead

variable {deps : Deps} {isHttpUrl : String → Bool} {faults : Faults} {desk : Desk}

theorem login_refused (none_ : Masterless world) (allowed : Bool) (uname pw : String) (now : Int) :
    (login deps allowed uname pw).Ensures (fun _ => True) (fun _ _ => False)
      (adminStore now world) := by
  apply Ensures.require_bind trivial
  intro _
  apply Ensures.read_bind
  apply Ensures.orFail_bind trivial
  intro master hit
  obtain ⟨row, isRow, rfl⟩ := mem_map.mp (mem_of_find?_eq_some hit)
  have named := find?_some hit
  exact absurd (of_decide_eq_true named) (none_ row isRow)

theorem saveClient_refused (noRealms : world.db.realms = []) (dto : SaveClientDto) (sec : String) :
    (saveClient throws isHttpUrl s dto sec).Ensures (fun _ => True) (fun _ _ => False)
      world := by
  apply Ensures.bind
  apply Ensures.of_keeps refl trans (validateClientConfig_keeps _ _)
  · intro _ _
    trivial
  intro _ world₁ _ same
  apply Ensures.orFail_bind trivial
  intro name _
  apply Ensures.require_bind trivial
  intro _
  apply Ensures.read_bind
  rw [same.realms, noRealms]
  trivial

theorem saveClientStep_refused (noRealms : desk.world.db.realms = []) (dto : SaveClientDto)
    (sec : String) :
    (saveClientStep isHttpUrl faults dto sec).Ensures (fun _ => True) (fun _ _ => False)
      desk := by
  apply Ensures.bind
  apply onTables_ensures
  apply Ensures.of_keeps refl trans (validateClientConfig_keeps _ _)
  · intro _ _
    trivial
  intro _ world _ same
  apply Ensures.bind
  apply Ensures.require_bind trivial
  intro _
  have realms : (findOrCreate { desk with world := world }).2.world.db.realms = [] := by
    rw [findOrCreate_world]
    exact same.realms.trans noRealms
  apply Ensures.bind
  apply onTables_ensures
  exact (saveClient_refused realms dto sec).mono fun _ _ no => no.elim

theorem createSignedRealm_refused (taken : ∃ r ∈ world.db.realms, r.name = row.name) :
    (createSignedRealm throws row).Ensures (fun _ => True) (fun _ _ => False) world := by
  obtain ⟨r, isRealm, named⟩ := taken
  have found : (world.db.realms.find? (·.name = row.name)).isSome = true :=
    List.find?_isSome.mpr ⟨r, isRealm, decide_eq_true named⟩
  apply Ensures.require_bind trivial
  intro _
  apply Ensures.atomic_bind
  unfold Realms.Transfer.insert
  rw [if_pos found]
  trivial

/-- The realm of an attempt that failed is in the way of the next one. -/
theorem finishWizard_refused (isRow : desk.row = some s) {name : String}
    (isName : given s.realmName = some name)
    (taken : ∃ r ∈ desk.world.db.realms, r.name = name) :
    (finishWizard faults).Ensures (fun _ => True) (fun _ _ => False) desk := by
  have isFound : findOrCreate desk = (s, desk) := by
    unfold findOrCreate
    rw [isRow]
  apply Ensures.bind
  apply Ensures.require_bind trivial
  intro _
  show (onTables (completeWizard faults.throws (findOrCreate desk).1) >>= _).Ensures _ _
    (findOrCreate desk).2
  rw [isFound]
  apply Ensures.bind
  apply onTables_ensures
  apply Ensures.orFail_bind trivial
  intro uname _
  apply Ensures.orFail_bind trivial
  intro hash _
  apply Ensures.orFail_bind trivial
  intro name' isName'
  cases isName.symm.trans isName'
  apply Ensures.require_bind trivial
  intro _
  apply Ensures.bind
  exact (createSignedRealm_refused taken).mono fun _ _ no => no.elim

def WizardStep.entersOnly : WizardStep → Bool
  | .saveClient _ _ | .completeWizard => false
  | _ => true

def SameWorld (desk desk' : Desk) : Prop := desk'.world = desk.world

theorem SameWorld.refl (desk : Desk) : SameWorld desk desk := rfl

theorem SameWorld.trans {a b c : Desk} (first : SameWorld a b) (snd : SameWorld b c) :
    SameWorld a c := Eq.trans snd first

theorem getWizardState_world (i : Nat) : (getWizardState faults i).Keeps SameWorld :=
  .bind (.require _ _) fun _ => .atomic findOrCreate_world

theorem updateRow_world (i : Nat) (chg : WizardState → WizardState) :
    (updateRow faults i chg).Keeps SameWorld :=
  .bind (.require _ _) fun _ => .bind (.atomic fun _ => rfl) fun _ => .bind (.orFail _ _) fun _ =>
    trivial

theorem write_world (chg : WizardState → WizardState → WizardState) :
    (getWizardState faults 0 >>= fun _ => getWizardState faults 1 >>= fun s =>
      updateRow faults 2 (chg s)).Keeps SameWorld :=
  .bind (getWizardState_world 0) fun _ => .bind (getWizardState_world 1) fun _ =>
    updateRow_world 2 _

theorem entersOnly_world {step : WizardStep} (enters : step.entersOnly = true) :
    (step.handler deps isHttpUrl faults).Keeps SameWorld := by
  have unread {check : Visit Unit} (reads : check.Keeps Eq) : check.Keeps SameWorld :=
    reads.mono fun _ _ same => congrArg Desk.world same.symm
  cases step with
  | saveAdminAccount dto =>
    apply Keeps.bind (unread (validateAdminAccount_reads dto))
    intro _
    exact .bind (.require _ _) fun _ => write_world _
  | saveRealmSettings dto =>
    apply Keeps.bind (unread (validateRealmSettings_reads dto))
    intro _
    exact .bind (.require _ _) fun _ => .bind (.read SameWorld.refl _) fun _ =>
      .bind (.require _ _) fun _ => write_world _
  | saveSmtpConfig dto =>
    apply Keeps.bind (unread (validateSmtpConfig_reads dto))
    intro _
    exact write_world _
  | saveClient dto sec => cases enters
  | markSdkGenerated => exact write_world _
  | completeWizard => cases enters
  | skipWizard => exact .bind (getWizardState_world 0) fun _ => updateRow_world 1 id
  | resetWizard => exact .bind (.require _ _) fun _ => .modify fun _ => rfl

theorem perform_refused (es : List WizardStep)
    (enter : ∀ step ∈ es, step.entersOnly = true) (dto : SaveClientDto) (sec : String)
    (rest : List WizardStep) (noRealms : desk.world.db.realms = []) :
    (perform deps isHttpUrl faults (es ++ .saveClient dto sec :: rest)).Ensures
      (fun _ => True) (fun _ _ => False) desk := by
  induction es generalizing desk with
  | nil =>
    apply Ensures.bind
    exact (saveClientStep_refused noRealms dto sec).mono fun _ _ no => no.elim
  | cons step es ih =>
    apply Ensures.bind
    apply Ensures.of_keeps SameWorld.refl SameWorld.trans
      (entersOnly_world (enter step mem_cons_self))
    · intro _ _
      trivial
    intro _ desk₁ _ same
    apply ih fun step mem => enter step (.tail _ mem)
    rw [show desk₁.world = desk.world from same]
    exact noRealms

theorem advertised_refused (inputs : Inputs) :
    (perform deps isHttpUrl faults inputs.steps).Ensures (fun _ => True) (fun _ _ => False) {} := by
  apply perform_refused
  · intro step mem
    cases mem_append.mp mem with
    | inl first =>
      simp only [mem_cons, not_mem_nil, or_false] at first
      obtain rfl | rfl := first <;> rfl
    | inr smtp =>
      obtain ⟨dto, -, rfl⟩ := mem_map.mp smtp
      rfl
  · rfl

/-- No one gets through the wizard: in the advertised order the step of the client fails whatever
is entered, as it does in every state without a realm; in no state that any steps lead to can an
administrator sign in; and where the realm of the row is there, from an attempt that failed or from
one that succeeded, the last step fails. -/
theorem setup_never_usable (deps : Deps) (isHttpUrl : String → Bool) {desk : Desk}
    (run : Reached deps isHttpUrl desk) :
    (∀ (inputs : Inputs) (faults : Faults) (desk' : Desk), (perform deps isHttpUrl faults inputs.steps).run {} ≠ (.ok (), desk')) ∧
    (desk.world.db.realms = [] → ∀ faults dto sec desk',
      (saveClientStep isHttpUrl faults dto sec).run desk ≠ (.ok (), desk')) ∧
    (∀ s name, desk.row = some s → given s.realmName = some name →
      (∃ r ∈ desk.world.db.realms, r.name = name) → ∀ faults desk',
        (finishWizard faults).run desk ≠ (.ok (), desk')) ∧
    ∀ allowed uname pw now tok store',
      (login deps allowed uname pw).run (adminStore now desk.world) ≠ (.ok tok, store') := by
  refine ⟨?_, ?_, ?_, ?_⟩
  · intro inputs faults desk' ran
    exact (advertised_refused inputs).of_run ran
  · intro noRealms faults dto sec desk' ran
    exact (saveClientStep_refused noRealms dto sec).of_run ran
  · intro s name isRow isName taken faults desk' ran
    exact (finishWizard_refused isRow isName taken).of_run ran
  · intro allowed uname pw now tok store' ran
    exact (login_refused (noMaster_of_run run).realms allowed uname pw now).of_run ran

def acmeInputs : Inputs where
  account := { username := "admin", email := "admin@example.com", password := "Password123!" }
  realm := { name := "acme" }
  client := { clientId := "my-app", redirectUris := ["https://app.example/cb"] }
  clientSecret := "secret"

def shortcut : List WizardStep :=
  [.saveAdminAccount acmeInputs.account, .saveRealmSettings acmeInputs.realm, .completeWizard]

def acmeDesk : Desk := ((perform .transparent (fun _ => true) {} shortcut).run {}).2

theorem acmeDesk_reached : Reached .transparent (fun _ => true) acmeDesk :=
  .tail (.tail (.tail .refl ⟨{}, .saveAdminAccount acmeInputs.account, rfl⟩)
    ⟨{}, .saveRealmSettings acmeInputs.realm, rfl⟩) ⟨{}, .completeWizard, rfl⟩

/-- The wizard was completed, and its administrator cannot sign in. -/
theorem completed_without_login : acmeDesk.row.map (·.completed) = some true ∧ ∀ tok store',
      (login .transparent true "admin" "Password123!").run (adminStore 0 acmeDesk.world) ≠
        (.ok tok, store') :=
  ⟨by decide +kernel, (setup_never_usable .transparent (fun _ => true) acmeDesk_reached).2.2.2 true
    "admin" "Password123!" 0⟩

/-- What every validator accepts does not get through the advertised steps, completes the wizard
without the required step of the client, and leaves an administrator who is told that nothing is
initialized. -/
theorem wizard_leads_nowhere : ((validateAdminAccount acmeInputs.account).run {}).1 = .ok () ∧
    ((validateRealmSettings acmeInputs.realm).run {}).1 = .ok () ∧
    ((validateClientConfig (fun _ => true) acmeInputs.client).run {}).1 = .ok () ∧
    ((perform .transparent (fun _ => true) {} acmeInputs.steps).run {}).1 =
      .error (badRequest "Realm not found. Please complete Step 2 first.") ∧
    ((perform .transparent (fun _ => true) {} shortcut).run {}).1 = .ok () ∧
    ((login .transparent true "admin" "Password123!").run (adminStore 0 acmeDesk.world)).1 =
      .error (unauthorized "Admin system not initialized") :=
  ⟨rfl, rfl, rfl, rfl, rfl, rfl⟩

end Dead

end Idenplane.Setup
