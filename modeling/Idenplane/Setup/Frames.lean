import Idenplane.Realms.Frames
import Idenplane.Setup.Lifecycle

/-! # What is filled in leaves the realms alone

The rows of a realm come after the realm.  What adds them neither creates nor removes a realm or
a signing key.
-/

namespace Idenplane.Setup

open Atomic Auth Admin Realms.Transfer

/-- The realms and their keys are the same, and no id is given back. -/
structure SameRealms (w w' : World) : Prop where
  realms : w'.db.realms = w.db.realms
  signingKeys : w'.db.signingKeys = w.db.signingKeys
  supply : w.supply ≤ w'.supply

variable {grown : Nat → Database → Database}

namespace SameRealms

theorem refl (w : World) : SameRealms w w := ⟨rfl, rfl, Nat.le_refl _⟩

theorem trans {a b c : World} (first : SameRealms a b) (snd : SameRealms b c) : SameRealms a c :=
  ⟨snd.realms.trans first.realms, snd.signingKeys.trans first.signingKeys,
    first.supply.trans snd.supply⟩

def Other (grown : Database → Database) : Prop :=
  ∀ db, (grown db).realms = db.realms ∧ (grown db).signingKeys = db.signingKeys

theorem insert {taken : Database → Bool} (other : ∀ id, Other (grown id)) (w : World) :
    SameRealms w (insert taken grown w).2 := by
  unfold Realms.Transfer.insert
  cases taken w.db with
  | true => exact refl w
  | false =>
    obtain ⟨realms, keys⟩ := other w.supply w.db
    exact ⟨realms, keys, le_succ _⟩

theorem append {taken : Database → Bool} {grown : Database → Database} (other : Other grown)
    (w : World) : SameRealms w (append taken grown w).2 := by
  unfold Realms.Transfer.append
  cases taken w.db with
  | true => exact refl w
  | false =>
    obtain ⟨realms, keys⟩ := other w.db
    exact ⟨realms, keys, Nat.le_refl _⟩

end SameRealms

section Statements

variable {throws : Throws}

theorem insert_keeps {place : Statement} {taken : Database → Bool} (other : ∀ id, SameRealms.Other (grown id)) :
    (statement throws place (insert taken grown)).Keeps SameRealms :=
  statement_keeps (.insert other)

theorem append_keeps {place : Statement} {taken : Database → Bool} {grown : Database → Database}
    (other : SameRealms.Other grown) :
    (statement throws place (append taken grown)).Keeps SameRealms :=
  statement_keeps (.append other)

end Statements

/-- What is filled in leaves the realms and their keys alone. -/
theorem SameRealms.framing (doc : Document) : Framing doc SameRealms where
  refl := .refl
  rows := fun _ _ _ grown realms keys _ => ⟨realms, keys, grown⟩
  client := fun _ _ _ _ => ⟨rfl, rfl, le_succ _⟩

section Wizard

variable (throws : Throws) (rid : Nat)

theorem furnish_keeps {admin : Call User} (keeps : admin.Keeps SameRealms) :
    (furnish throws rid admin).Keeps SameRealms := by
  apply Keeps.bind
  · exact insert_keeps fun _ _ => ⟨rfl, rfl⟩
  intro superAdmin
  apply Keeps.bind
  · exact insert_keeps fun _ _ => ⟨rfl, rfl⟩
  intro _
  apply Keeps.bind
  · exact insert_keeps fun _ _ => ⟨rfl, rfl⟩
  intro _
  apply Keeps.bind keeps
  intro row
  apply Keeps.bind
  · exact insert_keeps fun _ _ => ⟨rfl, rfl⟩
  intro uid
  apply Keeps.bind
  · exact append_keeps fun _ => ⟨rfl, rfl⟩
  intro _
  exact (SameRealms.framing { version := "", name := "" }).seed_keeps throws rid seededScopes

theorem validateClientConfig_keeps {K : World → World → Prop} (isHttpUrl : String → Bool)
    (dto : SaveClientDto) : (validateClientConfig isHttpUrl dto).Keeps K := by
  apply Keeps.bind (.require _ _)
  intro _
  apply Keeps.bind (.require _ _)
  intro _
  cases dto.redirectUris.find? (!isHttpUrl ·) <;> trivial

theorem saveClient_keeps (isHttpUrl : String → Bool) (state : WizardState) (dto : SaveClientDto)
    (sec : String) :
    (saveClient throws isHttpUrl state dto sec).Keeps SameRealms := by
  apply Keeps.bind (validateClientConfig_keeps isHttpUrl dto)
  intro _
  apply Keeps.bind (.orFail _ _)
  intro name
  apply Keeps.bind (.require _ _)
  intro _
  apply Keeps.bind (.read .refl _)
  intro hit
  apply Keeps.bind (.orFail _ _)
  intro r
  apply Keeps.bind (.read .refl _)
  intro old
  apply Keeps.bind (.require _ _)
  intro _
  apply Keeps.bind
  · exact insert_keeps fun _ _ => ⟨rfl, rfl⟩
  exact fun _ => trivial

end Wizard

section Importers

open Transaction Migration
open SameRealms (Other)

variable {α β : Type} {entity : Entity} {name : String} {isKnown : World → Bool}
  {taken : Database → Bool}

theorem write_insert (other : ∀ id, Other (grown id)) :
    Upholds SameRealms (write (insert taken grown) : Import Nat) :=
  .write .refl (.insert other)

theorem write_append {grown : Database → Database} (other : Other grown) :
    Upholds SameRealms (write (append taken grown) : Import Unit) :=
  .write .refl (.append other)

theorem writeAlone_insert (other : ∀ id, Other (grown id)) :
    Upholds SameRealms (writeAlone (insert taken grown) : Import Nat) :=
  .writeAlone .refl (.insert other)

theorem writeAlone_append {grown : Database → Database} (other : Other grown) :
    Upholds SameRealms (writeAlone (append taken grown) : Import Unit) :=
  .writeAlone .refl (.append other)

theorem note_keeps (f : Report → Report) : Upholds SameRealms (note f : Import Unit) :=
  .note .refl f

theorem importEntity_keeps {prepare : Import α} {create : Nat → α → Import Unit}
    (prepares : Upholds SameRealms prepare)
    (creates : ∀ rid v, Upholds SameRealms (create rid v)) (tgt : Target) :
    Upholds SameRealms (importEntity entity name isKnown prepare create tgt) := by
  apply Upholds.caught .refl
  apply Upholds.bind (.query .refl isKnown)
  intro old
  cases old with
  | true => exact note_keeps _
  | false =>
    apply Upholds.bind prepares
    intro v
    cases tgt with
    | dryRun rid => exact note_keeps _
    | real rid => exact .bind (creates rid v) fun _ => note_keeps _

theorem hashPassword_keeps (d : Deps) (pw : String) :
    Upholds SameRealms (Migration.hashPassword d pw) :=
  .bind (.require _ _) fun _ => .done _

theorem hashedSecret_keeps (d : Deps) (sec : Option String) :
    Upholds SameRealms (hashedSecret d sec) := by
  unfold hashedSecret
  cases given sec with
  | none => exact .done none
  | some sec => exact .bind (hashPassword_keeps d sec) fun _ => .done _

mutual

theorem importGroup_keeps (tgt : Target) (pid : Option Nat) (g : KeycloakGroup) :
    Upholds SameRealms (importGroup tgt pid g) := by
  cases g with
  | mk name subGroups =>
    apply Upholds.caught .refl
    apply Upholds.bind (.query .refl _)
    intro old
    cases old with
    | some id =>
      apply Upholds.bind (note_keeps _)
      intro _
      exact importGroups_keeps tgt (some id) subGroups
    | none =>
      apply Upholds.bind
      · cases tgt with
        | dryRun rid => exact .done none
        | real rid => exact .bind (write_insert fun _ _ => ⟨rfl, rfl⟩) fun _ => .done _
      intro gid
      apply Upholds.bind (note_keeps _)
      intro _
      exact importGroups_keeps tgt gid subGroups

theorem importGroups_keeps (tgt : Target) (pid : Option Nat) (gs : List KeycloakGroup) :
    Upholds SameRealms (importGroups tgt pid gs) := by
  cases gs with
  | nil =>
    exact .done ()
  | cons g gs =>
    apply Upholds.bind (importGroup_keeps tgt pid g)
    intro _
    exact importGroups_keeps tgt pid gs

end

theorem assignRealmRole_keeps (rid uid : Nat) (roleName : String) :
    Upholds SameRealms (assignRealmRole rid uid roleName) := by
  apply Upholds.bind (.query .refl _)
  intro role
  cases role with
  | none => exact .done ()
  | some roleId => exact .caught .refl (write_append fun _ => ⟨rfl, rfl⟩)

theorem passwordColumn_keeps (d : Deps) (u : KeycloakUser) :
    Upholds SameRealms (passwordColumn d u) := by
  unfold passwordColumn
  simp only
  split
  case h_1 rawHash _ _ => exact .bind (hashPassword_keeps d rawHash) fun _ => .done _
  case h_2 => exact .done _

theorem keycloakContents_keeps (d : Deps) (data : KeycloakRealmExport) (tgt : Target) :
    Upholds SameRealms (Migration.importContents d data tgt) := by
  apply Upholds.bind
  · apply Upholds.each
    intro role
    apply importEntity_keeps (.done ())
    intro rid _
    exact .bind (write_insert fun _ _ => ⟨rfl, rfl⟩) fun _ => .done ()
  intro _
  apply Upholds.bind (importGroups_keeps tgt none data.groups)
  intro _
  apply Upholds.bind
  · apply Upholds.each
    intro sc
    apply importEntity_keeps (.done ())
    intro rid _
    exact .bind (write_insert fun _ _ => ⟨rfl, rfl⟩) fun _ => .done ()
  intro _
  apply Upholds.bind
  · apply Upholds.each
    intro c
    apply importEntity_keeps (.done ())
    intro rid _
    apply Upholds.bind (hashedSecret_keeps d c.secret)
    intro secretHash
    exact .bind (write_insert fun _ _ => ⟨rfl, rfl⟩) fun _ => .done ()
  intro _
  apply Upholds.bind
  · apply Upholds.each
    intro u
    apply importEntity_keeps (passwordColumn_keeps d u)
    intro rid hash
    apply Upholds.bind
    · exact write_insert fun _ _ => ⟨rfl, rfl⟩
    intro id
    exact .each (assignRealmRole_keeps rid id) u.realmRoles
  intro _
  apply Upholds.each
  intro idp
  apply importEntity_keeps (.done ())
  intro rid _
  exact .bind (.orFail _ _) fun _ => write_append fun _ => ⟨rfl, rfl⟩

theorem addRole_keeps (name : String) (description : Option String) (rid : Nat) :
    Upholds SameRealms (Migration.addRole name description rid) :=
  .bind (writeAlone_insert fun _ _ => ⟨rfl, rfl⟩) fun _ => .done ()

theorem addClient_keeps (row : Nat → Client) : Upholds SameRealms (addClient row) :=
  .bind (writeAlone_insert fun _ _ => ⟨rfl, rfl⟩) fun _ => .done ()

theorem addUser_keeps (row : Nat → User) : Upholds SameRealms (Migration.addUser row) :=
  writeAlone_insert fun _ _ => ⟨rfl, rfl⟩

theorem addIdentityProvider_keeps (provider : Provider) (rid : Nat) :
    Upholds SameRealms (addIdentityProvider provider rid) :=
  writeAlone_append fun _ => ⟨rfl, rfl⟩

theorem importInto_keeps {steps : Target → Import Unit}
    (keeps : ∀ tgt, Upholds SameRealms (steps tgt)) (options : ImportOptions)
    (w : World) : SameRealms w (importInto steps options w).2 := by
  unfold importInto
  cases findRealm options.targetRealm w with
  | none => exact .refl w
  | some rid =>
    exact (keeps (targetOf options.dryRun rid)).run .refl .trans
      { data := w, notes := { dryRun := options.dryRun } }

theorem auth0_keeps (d : Deps) (data : Auth0.Export) (options : ImportOptions)
    (w : World) : SameRealms w (Auth0.importData d data options w).2 := by
  apply importInto_keeps
  intro tgt
  apply Upholds.bind
  · apply Upholds.each
    intro role
    exact importEntity_keeps (.done ()) (fun rid _ => addRole_keeps _ _ rid) tgt
  intro _
  apply Upholds.bind
  · apply Upholds.each
    intro c
    apply importEntity_keeps (.done ())
    intro rid _
    exact .bind (hashedSecret_keeps d c.client_secret) fun _ => addClient_keeps _
  intro _
  apply Upholds.bind
  · apply Upholds.each
    intro u
    unfold Auth0.importUser
    cases given (u.username <|> u.email <|> u.user_id) with
    | none => exact note_keeps _
    | some uname =>
      apply importEntity_keeps (.done ())
      intro rid _
      exact .bind (addUser_keeps _) fun _ => .done ()
  intro _
  apply Upholds.bind
  · apply Upholds.each
    intro conn
    unfold Auth0.importConnection
    split
    case isTrue => exact note_keeps _
    case isFalse =>
      exact importEntity_keeps (.done ())
        (fun rid _ => addIdentityProvider_keeps (Auth0.provider conn) rid) tgt
  intro _
  unfold Auth0.warnOrganizations
  split
  case isTrue => exact .done ()
  case isFalse => exact note_keeps _

theorem zitadel_keeps (data : Zitadel.Export) (options : ImportOptions) (w : World) :
    SameRealms w (Zitadel.importData data options w).2 := by
  apply importInto_keeps
  intro tgt
  apply Upholds.bind
  · apply Upholds.each
    intro project
    apply Upholds.each
    intro role
    exact importEntity_keeps (.done ()) (fun rid _ => addRole_keeps _ _ rid) tgt
  intro _
  apply Upholds.bind
  · apply Upholds.each
    intro project
    apply Upholds.each
    intro app
    unfold Zitadel.importClient
    cases app.oidcConfig with
    | none => exact note_keeps _
    | some config =>
      exact importEntity_keeps (.done ()) (fun rid _ => addClient_keeps _) tgt
  intro _
  apply Upholds.bind
  · apply Upholds.each
    intro u
    unfold Zitadel.importUser
    cases u.machine with
    | some name => exact note_keeps _
    | none =>
      cases given (u.username <|> u.human.email <|> some u.userId) with
      | none => exact note_keeps _
      | some uname =>
        apply importEntity_keeps (.done ())
        intro rid _
        exact .bind (addUser_keeps _) fun _ => .done ()
  intro _
  apply Upholds.each
  intro idp
  unfold Zitadel.importIdp
  cases idp.oidcConfig with
  | none => exact note_keeps _
  | some config =>
    exact importEntity_keeps (.done ()) (fun rid _ => addIdentityProvider_keeps _ rid) tgt

open Authentik

theorem authentik_importGroup_keeps (tgt : Target) (name : String) (ids : Authentik.GroupIds) :
    Upholds SameRealms (importGroup tgt name ids) := by
  apply Upholds.bind
  · apply Upholds.attempt
    apply Upholds.bind (.query .refl _)
    intro old
    cases old with
    | some id => exact .bind (note_keeps _) fun _ => .done _
    | none =>
      have counted (new : Option Nat) : Upholds SameRealms
          (do note (.created .groups); pure new : Import (Option Nat)) :=
        .bind (note_keeps _) fun _ => .done new
      cases tgt with
      | dryRun rid => exact counted none
      | real rid =>
        exact .bind (writeAlone_insert fun _ _ => ⟨rfl, rfl⟩) fun id => counted (some id)
  intro res
  cases res with
  | ok id => exact .done _
  | error thrown => exact .bind (note_keeps _) fun _ => .done _

theorem authentik_importGroups_keeps (tgt : Target) (ns : List String)
    (ids : Authentik.GroupIds) : Upholds SameRealms (importGroups tgt ns ids) := by
  induction ns generalizing ids with
  | nil => exact .done ids
  | cons name ns ih => exact .bind (authentik_importGroup_keeps tgt name ids) ih

theorem joinGroup_keeps (ids : Authentik.GroupIds) (uname : String) (uid : Option Nat)
    (groupName : String) : Upholds SameRealms (joinGroup ids uname uid groupName) := by
  unfold joinGroup
  cases Properties.get ids groupName with
  | none => exact note_keeps _
  | some gid =>
    cases uid with
    | none => exact .done ()
    | some uid =>
      cases gid with
      | none => exact .done ()
      | some gid => exact writeAlone_append fun _ => ⟨rfl, rfl⟩

theorem authentik_importUser_keeps (ids : Authentik.GroupIds) (tgt : Target)
    (u : Authentik.User) : Upholds SameRealms (importUser ids tgt u) := by
  apply Upholds.caught .refl
  apply Upholds.bind (.query .refl _)
  intro old
  cases old with
  | true => exact note_keeps _
  | false =>
    have joined (uid : Option Nat) : Upholds SameRealms
        (do note (.created .users)
            each (joinGroup ids u.username uid) u.groups : Import Unit) :=
      .bind (note_keeps _) fun _ => .each (joinGroup_keeps ids u.username uid) u.groups
    cases tgt with
    | dryRun rid => exact joined none
    | real rid => exact .bind (addUser_keeps _) fun id => joined (some id)

theorem authentik_keeps (d : Deps) (data : Authentik.Export) (options : ImportOptions)
    (w : World) : SameRealms w (importData d data options w).2 := by
  apply importInto_keeps
  intro tgt
  apply Upholds.bind (authentik_importGroups_keeps tgt data.groups [])
  intro ids
  apply Upholds.bind
  · apply Upholds.each
    intro provider
    exact importEntity_keeps (.done ()) (fun rid _ => addClient_keeps _) tgt
  intro _
  apply Upholds.bind (.each (authentik_importUser_keeps ids tgt) data.users)
  intro _
  apply Upholds.each
  intro source
  unfold importSource
  split
  case isTrue =>
    exact importEntity_keeps (.done ())
      (fun rid _ => addIdentityProvider_keeps (provider source) rid) tgt
  case isFalse => exact note_keeps _

end Importers

end Idenplane.Setup
