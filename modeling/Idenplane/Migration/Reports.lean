import Mathlib.Data.List.Find
import Idenplane.Migration.Stages

/-! # What a report says, and what an import did

A real run reports what it added, a dry run reports the same, and a second real run adds
nothing: when no name is taken twice and no address, and no secret and no type is refused.
-/

namespace Idenplane.Migration

open Atomic Transaction Merging Realms.Transfer
open Merging.Plan (news)

def rowsOf (entity : Entity) (db : Database) : Nat :=
  match entity with
  | .realms => db.realms.length
  | .users => db.users.length
  | .clients => db.clients.length
  | .roles => db.roles.length
  | .groups => db.groups.length
  | .scopes => db.clientScopes.length
  | .identityProviders => db.identityProviders.length

section Truthful

variable (deps : Deps) (data : KeycloakRealmExport) (targetRealm : Option String) (world : World)

def realRun : Report × World :=
  importRealm deps data { dryRun := false, targetRealm := targetRealm } world

def dryRun : Report × World :=
  importRealm deps data { dryRun := true, targetRealm := targetRealm } world

structure Truthful : Prop where
  counts : ∀ entity, rowsOf entity (realRun deps data targetRealm world).2.db =
    rowsOf entity world.db + ((realRun deps data targetRealm world).1.summary entity).created
  foreseen : (dryRun deps data targetRealm world).1.summary =
    (realRun deps data targetRealm world).1.summary
  untouched : (dryRun deps data targetRealm world).2 = world
  again : (realRun deps data targetRealm (realRun deps data targetRealm world).2).2 =
    (realRun deps data targetRealm world).2

end Truthful

structure Sound (world : World) : Prop where
  roles : ∀ row ∈ world.db.roles, row.realmId < world.supply ∧ row.id < world.supply
  roleIds : (world.db.roles.map (·.id)).Nodup
  scopes : ∀ row ∈ world.db.clientScopes, row.realmId < world.supply
  clients : ∀ row ∈ world.db.clients, row.realmId < world.supply
  users : ∀ row ∈ world.db.users, row.realmId < world.supply
  providers : ∀ row ∈ world.db.identityProviders, row.realmId < world.supply
  groups : ∀ row ∈ world.db.groups, row.realmId < world.supply
  groupIds : GroupsBelow world
  links : LinksBelow world

section Foreseeable

variable (data : KeycloakRealmExport) (realmId : Option Nat) (world : World)

def importedRoles : List KeycloakRole :=
  data.roles.filter fun role => !isBuiltinRole data.realm role.name

def importedClients : List KeycloakClient :=
  data.clients.filter fun client => !isKeycloakBuiltinClient client.clientId

def isRealmRole (name : String) : Bool :=
  hasRole realmId name world || (importedRoles data).any (·.name = name)

structure UserFree (user : KeycloakUser) : Prop where
  email : ∀ row ∈ world.db.users, some row.realmId = realmId → row.email.isSome →
    row.email ≠ user.email
  roles : (user.realmRoles.filter (isRealmRole data realmId world)).Nodup

/-- What is new in the export is listed once, and can be created. -/
structure Foreseeable : Prop where
  roles : ((news (fun role => hasRole realmId role.name world) (importedRoles data)).map
    (·.name)).Nodup
  groups : (missingAmong (finder realmId world) (some none) data.groups).Nodup
  groupNames : ∀ name ∈ missingAmong (finder realmId world) (some none) data.groups,
    ∀ row ∈ world.db.groups, some row.realmId = realmId → row.name ≠ name
  scopes : ((news (fun scope => hasScope realmId scope.name world) data.clientScopes).map
    (·.name)).Nodup
  clients : ((news (fun client => hasClient realmId client.clientId world)
    (importedClients data)).map (·.clientId)).Nodup
  secrets : ∀ client ∈ news (fun client => hasClient realmId client.clientId world)
    (importedClients data), secretFits client = true
  users : UsersDistinct realmId world (UserFree data realmId world) data.users
  providers : ((news (fun idp => hasIdentityProvider realmId idp.alias_ world)
    data.identityProviders).map (·.alias_)).Nodup
  types : ∀ idp ∈ news (fun idp => hasIdentityProvider realmId idp.alias_ world)
    data.identityProviders, idp.providerId ∉ Auth.objectPrototype

end Foreseeable

/-- A run has found or created the realm `r`; `realmId` is what a dry run knows of it. -/
structure Entered (name : String) (realmId : Option Nat) (r : Nat) (world : World)
    (s d : Session) : Prop where
  live : s.aborted = false
  frame : s.data.db = { world.db with realms := s.data.db.realms }
  supply : world.supply ≤ s.data.supply
  place : realmId = some r ∨ realmId = none ∧ world.supply ≤ r
  rows : s.data.db.realms.length = world.db.realms.length + (s.notes.summary .realms).created
  found : findRealm name s.data = some r
  dryLive : d.aborted = false
  dryData : d.data = world
  summary : s.notes.summary = d.notes.summary
  blank : ∀ entity, entity ≠ .realms → s.notes.summary entity = {}

def start (dryRun : Bool) (world : World) : Session :=
  { data := world, notes := { dryRun := dryRun } }

section Enter

variable (data : KeycloakRealmExport) (name : String) (world : World)

def enteredOld (dryRun : Bool) : Session :=
  { data := world
    notes := (({ dryRun := dryRun } : Report).skipped .realms).warned .realms
      ("Realm '" ++ name ++ "' already exists, using existing") }

theorem enter_old (dryRun : Bool) {id : Nat} (hit : findRealm name world = some id) :
    (importRealmEntity data name dryRun).run (start dryRun world) =
      (.ok (targetOf dryRun id), enteredOld name world dryRun) := by
  have asked : (importRealmEntity data name dryRun).run (start dryRun world) = _ :=
    run_query_bind rfl _ _
  rw [asked]
  simp only [start, hit]
  rfl

def enteredDry : Session :=
  { data := world, notes := ({ dryRun := true } : Report).created .realms }

theorem enter_dry (unseen : findRealm name world = none) :
    (importRealmEntity data name true).run (start true world) =
      (.ok (.dryRun none), enteredDry world) := by
  have asked : (importRealmEntity data name true).run (start true world) = _ :=
    run_query_bind rfl _ _
  rw [asked]
  simp only [start, unseen]
  rfl

def enteredNew : Session :=
  { data :=
      { db := { world.db with
          realms := world.db.realms ++ [keycloakRealmRow data name world.supply] }
        supply := world.supply + 1 }
    notes := ({ dryRun := false } : Report).created .realms }

theorem enter_new (unseen : findRealm name world = none) :
    (importRealmEntity data name false).run (start false world) =
      (.ok (.real world.supply), enteredNew data name world) := by
  have asked : (importRealmEntity data name false).run (start false world) = _ :=
    run_query_bind rfl _ _
  have free : (world.db.realms.find? (·.name = name)).isSome = false := by
    simpa [findRealm] using unseen
  rw [asked]
  simp only [start, unseen, false_eq_true, if_false]
  exact run_bind_ok (run_insert rfl free _)

theorem enter :
    ∃ r s d, (importRealmEntity data name false).run (start false world) = (.ok (.real r), s) ∧
      (importRealmEntity data name true).run (start true world) =
        (.ok (.dryRun (findRealm name world)), d) ∧
      Entered name (findRealm name world) r world s d := by
  cases found : findRealm name world with
  | some id =>
    refine ⟨id, _, _, enter_old data name world false found, enter_old data name world true found,
      ?_⟩
    exact
      { live := rfl
        frame := rfl
        supply := Nat.le_refl _
        place := .inl rfl
        rows := rfl
        found := found
        dryLive := rfl
        dryData := rfl
        summary := rfl
        blank := fun entity ne => count_other ne _ _ }
  | none =>
    refine ⟨world.supply, _, _, enter_new data name world found, enter_dry data name world found,
      ?_⟩
    exact
      { live := rfl
        frame := rfl
        supply := le_succ _
        place := .inr ⟨rfl, Nat.le_refl _⟩
        rows := by simp [enteredNew, Report.created]
        found := by
          have free : world.db.realms.find? (·.name = name) = none := by
            simpa [findRealm] using found
          simp [findRealm, enteredNew, find?_append, free, keycloakRealmRow]
        dryLive := rfl
        dryData := rfl
        summary := rfl
        blank := fun entity ne => count_other ne _ _ }

end Enter

section Agreement

variable {realmId : Option Nat} {r supply : Nat}

theorem sameRealm (place : realmId = some r ∨ realmId = none ∧ supply ≤ r) {x : Nat}
    (below : x < supply) : (some x = realmId) ↔ (some x = some r) := by
  rcases place with rfl | ⟨rfl, later⟩
  · exact Iff.rfl
  · simp
    omega

theorem any_agrees {ρ : Type} {rows : List ρ} {p q : ρ → Bool}
    (same : ∀ row ∈ rows, p row = q row) : rows.any p = rows.any q := by
  induction rows with
  | nil => rfl
  | cons row rows ih =>
    rw [any_cons, any_cons, same row mem_cons_self, ih fun other mem => same other (.tail _ mem)]

variable {world : World} (sound : Sound world)
  (place : realmId = some r ∨ realmId = none ∧ world.supply ≤ r) {w : World} (name : String)

include sound place

theorem hasRole_agrees (same : w.db.roles = world.db.roles) :
    hasRole realmId name world = hasRole (some r) name w := by
  unfold hasRole
  rw [same]
  apply any_agrees
  intro row mem
  rw [decide_eq_decide.mpr (sameRealm place (sound.roles row mem).1)]

theorem hasScope_agrees (same : w.db.clientScopes = world.db.clientScopes) :
    hasScope realmId name world = hasScope (some r) name w := by
  unfold hasScope
  rw [same]
  apply any_agrees
  intro row mem
  rw [decide_eq_decide.mpr (sameRealm place (sound.scopes row mem))]

theorem hasClient_agrees (same : w.db.clients = world.db.clients) :
    hasClient realmId name world = hasClient (some r) name w := by
  unfold hasClient
  rw [same]
  apply any_agrees
  intro row mem
  rw [decide_eq_decide.mpr (sameRealm place (sound.clients row mem))]

theorem hasUser_agrees (same : w.db.users = world.db.users) :
    hasUser realmId name world = hasUser (some r) name w := by
  unfold hasUser
  rw [same]
  apply any_agrees
  intro row mem
  rw [decide_eq_decide.mpr (sameRealm place (sound.users row mem))]

theorem hasIdentityProvider_agrees (same : w.db.identityProviders = world.db.identityProviders) :
    hasIdentityProvider realmId name world = hasIdentityProvider (some r) name w := by
  unfold hasIdentityProvider
  rw [same]
  apply any_agrees
  intro row mem
  rw [decide_eq_decide.mpr (sameRealm place (sound.providers row mem))]

omit name

theorem finder_agrees (same : w.db.groups = world.db.groups) :
    finder realmId world = finder (some r) w := by
  funext name pid
  unfold finder findGroup
  rw [same]
  congr 1
  apply List.find?_congr
  intro row mem
  rw [decide_eq_decide.mpr (sameRealm place (sound.groups row mem))]

end Agreement

end Idenplane.Migration
