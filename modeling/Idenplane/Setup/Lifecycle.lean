import Idenplane.Migration.Importers
import Idenplane.Setup.Wizard

/-! # Realms come and go

Everything that creates, changes or removes a realm, over the tables that an import writes to.
-/

namespace Idenplane.Setup

open Atomic Auth Admin Realms.Transfer
open Realms (RealmRow UpdateRealmDto)

def checked (check : Realms.Call Unit) : Call Unit := Prog.ofResult (check.run {}).1

/-- `findByNameRaw`: what Redis has, and what the database has otherwise. -/
def findByNameRaw (cached : Option RealmRow) (name : String) : Call RealmRow :=
  match cached with
  | some realm => pure realm
  | none => do
    let found ← read fun w => w.db.realms.find? (·.name = name)
    orFail found (Realms.realmNotFound name)

def createRealm (d : Deps) (throws : Throws) (name : String) (dto : UpdateRealmDto) :
    Call Unit := do
  require (!throws .findRealm) .internal
  let existing ← read fun w => w.db.realms.find? (·.name = name)
  require existing.isNone (Realms.realmExists name "")
  checked (Realms.assertSmsMfaDeliverable (dto.smsMfaEnabled.getD false) (dto.smsProvider.getD ""))
  require (!throws .keyPair) .internal
  let realmId ← createSignedRealm throws (Realms.newRealm d name dto)
  forEach (seedScope throws realmId) 0 seededScopes ()

def realmWritten (d : Deps) (name : String) (dto : UpdateRealmDto) (existing : RealmRow)
    (w : World) : World :=
  { w with db := { w.db with
    realms := w.db.realms.map fun realm =>
      if realm.name = name then Realms.realmUpdated dto (Realms.secretData d dto existing) realm
      else realm } }

def updateRealm (d : Deps) (available : List String) (cached : Option RealmRow) (name : String)
    (dto : UpdateRealmDto) : Call Unit := do
  let existing ← findByNameRaw cached name
  checked (Realms.checkSms dto existing)
  checked (Realms.checkThemes available dto.themes)
  let found ← atomic fun w =>
    (w.db.realms.find? (·.name = name), realmWritten d name dto existing w)
  let _ ← orFail found .internal

def realmDeleted (name : String) (w : World) : Option RealmRow × World :=
  match w.db.realms.find? (·.name = name) with
  | none => (none, w)
  | some realm => (some realm, { w with db := w.db.deleteRealm realm })

def removeRealm (cached : Option RealmRow) (name : String) : Call Unit := do
  let _ ← findByNameRaw cached name
  let deleted ← atomic (realmDeleted name)
  let _ ← orFail deleted .internal

inductive Command where
  | ensureMasterRealm (throws : Throws) (adminUsername adminPassword : String)
  | completeWizard (throws : Throws) (s : WizardState)
  | saveClient (throws : Throws) (isHttpUrl : String → Bool) (s : WizardState)
      (dto : SaveClientDto) (clientSecret : String)
  | createRealm (throws : Throws) (name : String) (dto : UpdateRealmDto)
  | updateRealm (cached : Option RealmRow) (name : String) (dto : UpdateRealmDto)
  | removeRealm (cached : Option RealmRow) (name : String)
  | importRealm (throws : Throws) (doc : Document) (overwrite : Bool)
  | importKeycloak (data : Migration.KeycloakRealmExport)
      (options : Migration.KeycloakImportOptions)
  | importAuth0 (data : Migration.Auth0.Export) (options : Migration.ImportOptions)
  | importZitadel (data : Migration.Zitadel.Export) (options : Migration.ImportOptions)
  | importAuthentik (data : Migration.Authentik.Export) (options : Migration.ImportOptions)

def Command.run (d : Deps) (available : List String) : Command → World → World
  | .ensureMasterRealm throws adminUsername adminPassword, w =>
    ((Setup.ensureMasterRealm throws d adminUsername adminPassword).run w).2
  | .completeWizard throws s, w => ((Setup.completeWizard throws s).run w).2
  | .saveClient throws isHttpUrl s dto clientSecret, w =>
    ((Setup.saveClient throws isHttpUrl s dto clientSecret).run w).2
  | .createRealm throws name dto, w => ((Setup.createRealm d throws name dto).run w).2
  | .updateRealm cached name dto, w =>
    ((Setup.updateRealm d available cached name dto).run w).2
  | .removeRealm cached name, w => ((Setup.removeRealm cached name).run w).2
  | .importRealm throws doc overwrite, w =>
    ((Realms.Transfer.importRealm throws doc overwrite).run w).2
  | .importKeycloak data options, w => (Migration.importRealm d data options w).2
  | .importAuth0 data options, w => (Migration.Auth0.importData d data options w).2
  | .importZitadel data options, w => (Migration.Zitadel.importData data options w).2
  | .importAuthentik data options, w =>
    (Migration.Authentik.importData d data options w).2

end Idenplane.Setup
