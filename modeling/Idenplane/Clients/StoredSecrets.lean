import Idenplane.Clients.Service
import Idenplane.Migration.Merges
import Idenplane.Setup.Frames

/-! # How the secret of a client is stored

Eight writers fill the column that `validateClient` verifies a secret against.  Some of them hash
the secret; the others store it as it is, and then the client cannot authenticate.
-/

namespace Idenplane.Clients

open Atomic Auth Admin Migration Realms Setup Prod String
open Realms.Transfer (World Database Throws)

variable {w w' : World} {s s' : Migration.Session}

inductive Writer where
  | create
  | regenerateSecret
  /-- A document with the secret in clear. -/
  | realmImport
  /-- A document that was exported with its secrets. -/
  | reimport
  | keycloak
  | auth0
  | zitadel
  | authentik
  | wizard
  deriving DecidableEq

/-- The writer leaves a hash of the secret in the column. -/
def Writer.hashes : Writer → Bool
  | .create | .regenerateSecret | .reimport | .keycloak | .auth0 => true
  | .realmImport | .zitadel | .authentik | .wizard => false

def Writer.stored (d : Deps) (writer : Writer) (secret : String) : String :=
  if writer.hashes then d.hashPassword secret else secret

def storeOf (w : World) : Store where
  clients := w.db.clients

/-- The writer has created the row, or has given it its secret, and this is the secret. -/
inductive Writes (d : Deps) (random : Randomness) : Writer → String → Client → Prop
  | create {realm : Realm} {dto : CreateClientDto} {backend backend' : Backend}
      {config : ClientConfig} {secret : String} {row : Client}
      (ran : (Clients.create d random realm dto).run backend =
        (.ok (config, some secret), backend'))
      (found : findClient realm.id dto.clientId backend'.store = some row) :
      Writes d random .create secret row
  | regenerateSecret {realm : Realm} {name : String} {backend backend' : Backend}
      {config : ClientConfig} {secret : String} {row : Client}
      (asked : ((findByClientId random realm name).run backend).1 = .ok config)
      (ran : (Clients.regenerateSecret d random realm name).run backend = (.ok secret, backend'))
      (isRow : row ∈ backend'.store.clients) (same : row.id = config.id) :
      Writes d random .regenerateSecret secret row
  | realmImport {throws : Throws} {realmId i : Nat} {client : Realms.Transfer.ImportedClient}
      {ids ids' : Realms.Transfer.Ids} {w w' : World} {secret : String} {row : Client}
      (given : client.clientSecret = some secret)
      (ran : (Realms.Transfer.createClient throws realmId i client ids).run w = (.ok ids', w'))
      (found : findClient realmId client.clientId (storeOf w') = some row) :
      Writes d random .realmImport secret row
  | reimport {throws : Throws} {realmId i : Nat} {client : Realms.Transfer.ImportedClient}
      {ids ids' : Realms.Transfer.Ids} {w w' : World} {secret : String} {row : Client}
      (fits : isHashable secret = true)
      (given : client.clientSecret = some (d.hashPassword secret))
      (ran : (Realms.Transfer.createClient throws realmId i client ids).run w = (.ok ids', w'))
      (found : findClient realmId client.clientId (storeOf w') = some row) :
      Writes d random .reimport secret row
  | keycloak {client : Migration.KeycloakClient} {realmId : Nat} {s s' : Migration.Session}
      {secret : String} {row : Client} (given : client.secret = some secret)
      (ran : (createClient d client realmId).run s = (.ok (), s'))
      (found : findClient realmId client.clientId (storeOf s'.data) = some row) :
      Writes d random .keycloak secret row
  | auth0 {client : Migration.Auth0.Client} {realmId : Nat} {s s' : Migration.Session}
      {secret : String} {row : Client} (given : client.client_secret = some secret)
      (ran : (Migration.Auth0.createClient d client realmId).run s = (.ok (), s'))
      (found : findClient realmId client.client_id (storeOf s'.data) = some row) :
      Writes d random .auth0 secret row
  | zitadel {app : Migration.Zitadel.Application} {config : Migration.Zitadel.OidcConfig}
      {realmId : Nat} {s s' : Migration.Session} {secret : String} {row : Client}
      (given : config.clientSecret = some secret)
      (ran : (Migration.Zitadel.createClient app config realmId).run s = (.ok (), s'))
      (found : findClient realmId (Migration.Zitadel.clientIdOf app config) (storeOf s'.data) =
        some row) :
      Writes d random .zitadel secret row
  | authentik {provider : Migration.Authentik.OAuth2Provider} {realmId : Nat}
      {s s' : Migration.Session} {secret : String} {row : Client}
      (given : provider.client_secret = some secret)
      (ran : (Migration.Authentik.createClient provider realmId).run s = (.ok (), s'))
      (found : findClient realmId provider.client_id (storeOf s'.data) = some row) :
      Writes d random .authentik secret row
  | wizard {throws : Throws} {isHttpUrl : String → Bool} {state state' : Setup.WizardState}
      {dto : Setup.SaveClientDto} {w w' : World} {realm : Realms.RealmRow}
      {name secret : String} {row : Client} (named : given state.realmName = some name)
      (ofRealm : w.db.realms.find? (·.name = name) = some realm)
      (ran : (saveClient throws isHttpUrl state dto secret).run w = (.ok state', w'))
      (found : findClient realm.id dto.clientId (storeOf w') = some row) :
      Writes d random .wizard secret row

section Rows

variable {d : Deps} {rand : Randomness} {writer : Writer} {secret : String} {row : Client}

theorem added_row {cs : List Client} {key : Client → Bool} {new : Client}
    (free : cs.any key = false) (hit : (cs ++ [new]).find? key = some row) :
    row = new := by
  have unseen : cs.find? key = none := by
    rw [find?_eq_none]
    intro other mem isKey
    exact absurd (any_eq_true.mpr ⟨other, mem, isKey⟩) (by simp [free])
  rw [find?_append, unseen, none_or] at hit
  exact mem_singleton.mp (mem_of_find?_eq_some hit)

theorem insert_ok {taken : Database → Bool} {grown : Nat → Database → Database} {id : Nat}
    (inserted : Transfer.insert taken grown w = (some id, w')) :
    taken w.db = false ∧ w'.db = grown w.supply w.db := by
  unfold Transfer.insert at inserted
  cases free : taken w.db with
  | true => simp [free] at inserted
  | false =>
    simp only [free, false_eq_true, if_false, mk.injEq] at inserted
    exact ⟨rfl, inserted.2 ▸ rfl⟩

variable {config : ClientConfig}

theorem create_stored {r : Realm} {dto : CreateClientDto} {be be' : Backend}
    (ran : (create d rand r dto).run be = (.ok (config, some secret), be'))
    (hit : findClient r.id dto.clientId be'.store = some row) :
    (∃ n, secret = rand.secret n) ∧ row.clientSecret = some (d.hashPassword secret) := by
  unfold create rejectWildcardOrigins at ran
  rw [run_require_bind_ok, run_read_bind, run_require_bind_ok, run_bind_ok] at ran
  obtain ⟨_, unseen, rawSecret, backend₁, drawn, ran⟩ := ran
  obtain ⟨account, backend₂, _, ran⟩ := run_bind_ok.mp ran
  rw [run_atomic_bind, run_orFail_bind_ok] at ran
  obtain ⟨c, written, ran⟩ := ran
  rw [run_modify_bind] at ran
  simp only [pure_def, run_done, mk.injEq, ok.injEq] at ran
  obtain ⟨⟨_, isSecret⟩, rfl⟩ := ran
  have drawnFrom : (∃ n, secret = rand.secret n) := by
    cases kind : dto.type with
    | PUBLIC =>
      rw [kind, newSecret, pure_def, run_done] at drawn
      cases drawn
      exact absurd isSecret (by simp)
    | CONFIDENTIAL =>
      rw [kind, newSecret, run_atomic_bind, pure_def, run_done] at drawn
      cases drawn
      exact ⟨_, (some.inj isSecret).symm⟩
  constructor
  · exact drawnFrom
  · unfold clientCreated at written hit
    split at written
    case isTrue => cases written
    case isFalse free =>
      rw [if_neg free] at hit
      simp only [Backend.onStore, assignBuiltInScopes, clientAdded, findClient] at hit
      rw [List.find?_cons_of_pos (by simp [clientRow, newClient])] at hit
      rw [← some.inj hit]
      simp [clientRow, newClient, isSecret]

theorem regenerateSecret_stored {r : Realm} {name : String} {be be' : Backend}
    (asked : ((findByClientId rand r name).run be).1 = .ok config)
    (ran : (regenerateSecret d rand r name).run be = (.ok secret, be'))
    (isRow : row ∈ be'.store.clients) (same : row.id = config.id) :
    (∃ n, secret = rand.secret n) ∧ row.clientSecret = some (d.hashPassword secret) := by
  obtain ⟨c, backend₁, hit, ran⟩ := run_bind_ok.mp ran
  rw [hit] at asked
  cases asked
  rw [run_require_bind_ok, run_atomic_bind, run_atomic_bind, run_orFail_bind_ok] at ran
  obtain ⟨_, written, _, ran⟩ := ran
  obtain ⟨rfl, rfl⟩ := ran
  constructor
  · exact ⟨_, rfl⟩
  · obtain ⟨old, _, rewritten⟩ := mem_map.mp isRow
    split at rewritten
    case isTrue => rw [← rewritten, secretSet]
    case isFalse other =>
      rw [← rewritten] at same
      exact absurd (decide_eq_true same) other

theorem realmImport_stored {throws : Throws} {rid i : Nat}
    {c : Transfer.ImportedClient} {ids ids' : Transfer.Ids}
    (ran : (Transfer.createClient throws rid i c ids).run w =
      (.ok ids', w')) (hit : findClient rid c.clientId (storeOf w') = some row) :
    row.clientSecret = c.clientSecret := by
  unfold Transfer.createClient Transfer.statement at ran
  rw [bind_assoc, run_require_bind_ok, bind_assoc, run_atomic_bind, run_orFail_bind_ok] at ran
  obtain ⟨_, id, inserted, ran⟩ := ran
  obtain ⟨free, tables⟩ := insert_ok (Prod.ext inserted rfl)
  simp only [pure_def, run_done, mk.injEq] at ran
  rw [storeOf, ← ran.2, tables] at hit
  rw [added_row free hit, Transfer.clientRow]

theorem hashedSecret_ok {column : Option String} (nonempty : secret ≠ "")
    (ran : (hashedSecret d (some secret)).run s = (.ok column, s')) :
    isHashable secret = true ∧ column = some (d.hashPassword secret) := by
  have isGiven : given (some secret) = some secret := by simp [given, nonempty]
  unfold hashedSecret hashPassword at ran
  rw [isGiven] at ran
  simp only [bind_assoc, run_require_bind_ok] at ran
  obtain ⟨fits, ran⟩ := ran
  cases ran
  exact ⟨fits, rfl⟩

variable {rid : Nat}

theorem keycloak_stored {c : KeycloakClient}
    (isGiven : c.secret = some secret) (nonempty : secret ≠ "")
    (ran : (createClient d c rid).run s = (.ok (), s'))
    (hit : findClient rid c.clientId (storeOf s'.data) = some row) :
    isHashable secret = true ∧ row.clientSecret = some (d.hashPassword secret) := by
  unfold createClient at ran
  rw [run_bind_ok, isGiven] at ran
  obtain ⟨column, t, hashed, ran⟩ := ran
  rw [run_bind_ok] at ran
  obtain ⟨id, t', inserted, ran⟩ := ran
  obtain ⟨fits, rfl⟩ := hashedSecret_ok nonempty hashed
  rw [Transaction.run_write] at inserted
  obtain ⟨free, tables⟩ := insert_ok (Transaction.written_ok inserted)
  cases ran
  rw [storeOf, tables] at hit
  exact ⟨fits, by rw [added_row free hit, keycloakClientRow]⟩

theorem addClient_stored {new : Nat → Client} {cid : String}
    (key : ∀ id, (new id).realmId = rid ∧ (new id).clientId = cid)
    (ran : (addClient new).run s = (.ok (), s'))
    (hit : findClient rid cid (storeOf s'.data) = some row) : ∃ id, row = new id := by
  obtain ⟨id, t, inserted, ran⟩ := run_bind_ok.mp ran
  rw [Transaction.run_writeAlone] at inserted
  obtain ⟨free, tables⟩ := insert_ok (Transaction.writtenAlone_ok inserted)
  cases ran
  rw [(key 0).1, (key 0).2] at free
  rw [storeOf, tables] at hit
  exact ⟨_, added_row free hit⟩

theorem auth0_stored {c : Auth0.Client} (isGiven : c.client_secret = some secret)
    (nonempty : secret ≠ "")
    (ran : (Auth0.createClient d c rid).run s = (.ok (), s'))
    (hit : findClient rid c.client_id (storeOf s'.data) = some row) :
    isHashable secret = true ∧ row.clientSecret = some (d.hashPassword secret) := by
  unfold Auth0.createClient at ran
  rw [run_bind_ok, isGiven] at ran
  obtain ⟨column, t, hashed, ran⟩ := ran
  obtain ⟨fits, rfl⟩ := hashedSecret_ok nonempty hashed
  have key (id : Nat) : (Auth0.clientRow c (some (d.hashPassword secret)) rid id).realmId = rid ∧
        (Auth0.clientRow c (some (d.hashPassword secret)) rid id).clientId =
          c.client_id := ⟨rfl, rfl⟩
  obtain ⟨id, rfl⟩ := addClient_stored key ran hit
  exact ⟨fits, rfl⟩

theorem wizard_stored {throws : Throws} {isHttpUrl : String → Bool}
    {state state' : Setup.WizardState} {dto : Setup.SaveClientDto}
    {r : RealmRow} {name : String} (named : given state.realmName = some name)
    (ofRealm : w.db.realms.find? (·.name = name) = some r)
    (ran : (saveClient throws isHttpUrl state dto secret).run w = (.ok state', w'))
    (hit : findClient r.id dto.clientId (storeOf w') = some row) :
    row.clientSecret = some secret := by
  unfold saveClient at ran
  rw [run_bind_ok] at ran
  obtain ⟨_, world₁, checked, ran⟩ := ran
  rw [run_orFail_bind_ok] at ran
  obtain ⟨name', isName, ran⟩ := ran
  rw [run_require_bind_ok, run_read_bind, run_orFail_bind_ok] at ran
  obtain ⟨_, r', isRealm, ran⟩ := ran
  have unchanged : w = world₁ := by
    have kept := (validateClientConfig_keeps (K := Eq) isHttpUrl dto).run (fun _ => rfl)
      Eq.trans w
    rwa [checked] at kept
  subst unchanged
  rw [named] at isName
  cases isName
  rw [ofRealm] at isRealm
  cases isRealm
  unfold Transfer.statement at ran
  rw [run_read_bind, run_require_bind_ok, bind_assoc, run_require_bind_ok,
    bind_assoc, run_atomic_bind, run_orFail_bind_ok] at ran
  obtain ⟨_, _, id, inserted, ran⟩ := ran
  obtain ⟨free, tables⟩ := insert_ok (Prod.ext inserted rfl)
  simp only [pure_def, run_done, mk.injEq] at ran
  rw [storeOf, ← ran.2, tables] at hit
  rw [added_row free hit, wizardClient]

/-- A generated secret is 32 bytes in hexadecimal digits. -/
def Randomness.IsHex (random : Randomness) : Prop :=
  ∀ n, Text.utf16Length (random.secret n).toList = 64

theorem Writes.stored (written : Writes d rand writer secret row) (hex : rand.IsHex)
    (nonempty : secret ≠ "") : row.clientSecret = some (writer.stored d secret) ∧
      (writer.hashes = true → isHashable secret = true) := by
  have generated (drawn : ∃ n, secret = rand.secret n) : isHashable secret = true := by
    obtain ⟨n, rfl⟩ := drawn
    rw [isHashable, hex n]
    rfl
  cases written with
  | create ran hit =>
    obtain ⟨drawn, column⟩ := create_stored ran hit
    exact ⟨column, fun _ => generated drawn⟩
  | regenerateSecret asked ran isRow same =>
    obtain ⟨drawn, column⟩ := regenerateSecret_stored asked ran isRow same
    exact ⟨column, fun _ => generated drawn⟩
  | realmImport isGiven ran hit =>
    exact ⟨(realmImport_stored ran hit).trans isGiven, fun plain => Bool.noConfusion plain⟩
  | reimport fits isGiven ran hit =>
    exact ⟨(realmImport_stored ran hit).trans isGiven, fun _ => fits⟩
  | keycloak isGiven ran hit =>
    obtain ⟨fits, column⟩ := keycloak_stored isGiven nonempty ran hit
    exact ⟨column, fun _ => fits⟩
  | auth0 isGiven ran hit =>
    obtain ⟨fits, column⟩ := auth0_stored isGiven nonempty ran hit
    exact ⟨column, fun _ => fits⟩
  | @zitadel app config rid _ _ _ _ isGiven ran hit =>
    have key (id : Nat) : (Zitadel.clientRow app config rid id).realmId = rid ∧
        (Zitadel.clientRow app config rid id).clientId =
          Zitadel.clientIdOf app config := ⟨rfl, rfl⟩
    obtain ⟨id, rfl⟩ := addClient_stored key ran hit
    exact ⟨isGiven, fun plain => Bool.noConfusion plain⟩
  | @authentik provider rid _ _ _ _ isGiven ran hit =>
    have key (id : Nat) : (Authentik.clientRow provider rid id).realmId = rid ∧
        (Authentik.clientRow provider rid id).clientId = provider.client_id :=
      ⟨rfl, rfl⟩
    obtain ⟨id, rfl⟩ := addClient_stored key ran hit
    exact ⟨isGiven, fun plain => Bool.noConfusion plain⟩
  | wizard named ofRealm ran hit =>
    exact ⟨wizard_stored named ofRealm ran hit, fun plain => Bool.noConfusion plain⟩

end Rows

section Authentication

variable {d : Deps} {r : Realm} {store : Store} {row : Client} {grantType t : String}

def Authenticates (d : Deps) (realm : Realm) (store : Store)
    (clientId secret grantType : String) : Prop :=
  ∃ client store', (validateClient d realm (some clientId) (some secret) grantType).run store =
    (.ok client, store')

structure Usable (row : Client) (grantType : String) : Prop where
  clientId : row.clientId ≠ ""
  enabled : row.enabled = true
  allows : Client.allows row grantType = true

theorem authenticates_iff (hit : findClient r.id row.clientId store = some row)
    (confidential : row.clientType = .CONFIDENTIAL) :
    Authenticates d r store row.clientId t grantType ↔ Usable row grantType ∧ t ≠ "" ∧
        ∃ hash, given row.clientSecret = some hash ∧ d.verifyPassword hash t = some true := by
  simp only [Authenticates, validateClient, run_orFail_bind_ok, run_read_bind,
    run_require_bind_ok, authenticateClient_bind_ok, pure_def, run_done,
    filter_eq_some_iff, given_eq_some, some.injEq]
  constructor
  · rintro ⟨_, _, _, ⟨rfl, named⟩, c, ⟨isClient, enabled⟩, allows, checked, _⟩
    rw [hit] at isClient
    cases isClient
    obtain ⟨_, hash, ⟨rfl, nonempty⟩, isHash, isValid⟩ := checked confidential
    exact ⟨⟨named, enabled, allows⟩, nonempty, hash, isHash, isValid⟩
  · rintro ⟨usable, nonempty, hash, isHash, isValid⟩
    exact ⟨row, store, row.clientId, ⟨rfl, usable.clientId⟩, row, ⟨hit, usable.enabled⟩,
      usable.allows, fun _ => ⟨t, hash, ⟨rfl, nonempty⟩, isHash, isValid⟩, rfl⟩

/-- What is documented of Argon2: a hash verifies the text that it was made from and no other,
and nothing else verifies anything. -/
structure Argon2 (d : Deps) : Prop where
  nonempty : ∀ s, d.hashPassword s ≠ ""
  verifies : ∀ s t, isHashable s = true →
    (d.verifyPassword (d.hashPassword s) t = some true ↔ t = s)
  foreign : ∀ text, (∀ s, d.hashPassword s ≠ text) → ∀ t, d.verifyPassword text t ≠ some true

/-- The secret authenticates the client, no other text does, and the column does not show it. -/
structure Kept (d : Deps) (realm : Realm) (store : Store) (row : Client)
    (grantType secret : String) : Prop where
  accepts : ∀ t, Authenticates d realm store row.clientId t grantType ↔ t = secret
  hidden : row.clientSecret ≠ some secret

variable {rand : Randomness} {writer : Writer} {secret : String}

open Writer

/-- A secret keeps working where the writer hashes it.  Where it is stored as it is, the client
cannot authenticate at all. -/
theorem secrets_kept (argon2 : Argon2 d) (hex : rand.IsHex)
    (written : Writes d rand writer secret row) (confidential : row.clientType = .CONFIDENTIAL)
    (hit : findClient r.id row.clientId store = some row) :
    (Kept d r store row grantType secret ↔
      writer.hashes = true ∧ secret ≠ "" ∧ d.hashPassword secret ≠ secret ∧ Usable row grantType) ∧
      (writer.hashes = false → secret ≠ "" → (∀ s, d.hashPassword s ≠ secret) →
        ∀ t, ¬ Authenticates d r store row.clientId t grantType) := by
  have ok (t : String) : Authenticates d r store row.clientId t grantType ↔
      Usable row grantType ∧ t ≠ "" ∧
        ∃ hash, given row.clientSecret = some hash ∧ d.verifyPassword hash t = some true :=
    authenticates_iff hit confidential
  constructor
  · constructor
    · intro kept
      obtain ⟨usable, nonempty, _⟩ := (ok secret).mp ((kept.accepts secret).mpr rfl)
      obtain ⟨column, _⟩ := written.stored hex nonempty
      have hidden := kept.hidden
      rw [column] at hidden
      cases hashes : writer.hashes with
      | false => simp [stored, hashes] at hidden
      | true =>
        refine ⟨rfl, nonempty, ?_, usable⟩
        simpa [stored, hashes] using hidden
    · rintro ⟨hashes, nonempty, differs, usable⟩
      obtain ⟨column, fits⟩ := written.stored hex nonempty
      rw [stored, if_pos hashes] at column
      constructor
      · intro t
        rw [ok t, column]
        have isHash : given (some (d.hashPassword secret)) = some (d.hashPassword secret) :=
          given_eq_some.mpr ⟨rfl, argon2.nonempty secret⟩
        constructor
        · rintro ⟨_, _, hash, same, isValid⟩
          rw [isHash] at same
          cases same
          exact (argon2.verifies secret t (fits hashes)).mp isValid
        · rintro rfl
          exact ⟨usable, nonempty, _, isHash, (argon2.verifies t t (fits hashes)).mpr rfl⟩
      · rw [column]
        intro same
        exact differs (some.inj same)
  · intro plain nonempty foreign t authenticated
    obtain ⟨column, _⟩ := written.stored hex nonempty
    obtain ⟨_, _, hash, isHash, isValid⟩ := (ok t).mp authenticated
    rw [column, stored, plain] at isHash
    obtain ⟨same, _⟩ := given_eq_some.mp isHash
    cases same
    exact argon2.foreign secret foreign t isValid

end Authentication

def encodedDeps : Deps :=
  { Deps.transparent with
    hashPassword := fun password => "$argon2id$" ++ password
    argon2Verify := fun hash password => some (hash == "$argon2id$" ++ password) }

theorem encodedDeps_verifies (hash t : String) : encodedDeps.verifyPassword hash t = some true ↔
      isHashable t = true ∧ hash = "$argon2id$" ++ t := by
  have unfolded : encodedDeps.verifyPassword hash t =
      if Text.utf16Length t.toList > maxPasswordLength then some false
      else some (hash == "$argon2id$" ++ t) := rfl
  rw [unfolded, isHashable]
  split
  case isTrue long => simp [Nat.not_le.mpr long]
  case isFalse short => simp [Nat.not_lt.mp short]

theorem encodedDeps_argon2 : Argon2 encodedDeps where
  nonempty s empty := by
    have none : ("$argon2id$" ++ s).toList = [] := congrArg toList empty
    simp at none
  verifies s t fits := by
    rw [encodedDeps_verifies]
    constructor
    · rintro ⟨_, same⟩
      exact ((append_right_inj _).mp same).symm
    · rintro rfl
      exact ⟨fits, rfl⟩
  foreign text foreign t valid := foreign t ((encodedDeps_verifies text t).mp valid).2.symm

def hexRandomness : Randomness where
  uuid := toString
  secret _ := ofList (List.replicate 64 'a')

theorem hexRandomness_isHex : hexRandomness.IsHex := fun _ =>
  (by decide : Text.utf16Length (ofList (List.replicate 64 'a')).toList = 64)

def secretRealm : Realm := { id := 1, name := "acme" }

def emptySession : Migration.Session := { data := {}, notes := { dryRun := false } }

def keycloakApp : Migration.KeycloakClient := { clientId := "app", secret := some "s3cret" }

def keycloakRow : Client :=
  keycloakClientRow keycloakApp (some "$argon2id$s3cret") 1 0

def zitadelApp : Migration.Zitadel.OidcConfig :=
  { clientId := some "app", clientSecret := some "s3cret",
    grantTypes := some ["OIDC_GRANT_TYPE_AUTHORIZATION_CODE"] }

def zitadelRow : Client := Migration.Zitadel.clientRow { appId := "1" } zitadelApp 1 0

/-- The secret of a client from Keycloak still works. -/
theorem keycloak_secret_kept :
    Kept encodedDeps secretRealm { clients := [keycloakRow] } keycloakRow "refresh_token" "s3cret" := by
  have ran : (createClient encodedDeps keycloakApp 1).run emptySession =
      (.ok (), { emptySession with data := { db := { clients := [keycloakRow] }, supply := 1 } }) :=
    rfl
  have written : Writes encodedDeps hexRandomness .keycloak "s3cret" keycloakRow :=
    .keycloak rfl ran rfl
  have hit : findClient secretRealm.id keycloakRow.clientId { clients := [keycloakRow] } =
    some keycloakRow := rfl
  apply (secrets_kept encodedDeps_argon2 hexRandomness_isHex written rfl hit).1.mpr
  exact ⟨rfl, by decide, by decide, by decide, rfl, by decide⟩

/-- The secret of a client from Zitadel does not, and the database shows it. -/
theorem zitadel_secret_lost : Writes encodedDeps hexRandomness .zitadel "s3cret" zitadelRow ∧
      zitadelRow.clientType = .CONFIDENTIAL ∧ Usable zitadelRow "authorization_code" ∧
      findClient secretRealm.id zitadelRow.clientId { clients := [zitadelRow] } = some zitadelRow ∧
      ¬ Authenticates encodedDeps secretRealm { clients := [zitadelRow] } zitadelRow.clientId "s3cret"
        "authorization_code" ∧
      zitadelRow.clientSecret = some "s3cret" := by
  have ran : (Migration.Zitadel.createClient { appId := "1" } zitadelApp 1).run emptySession =
      (.ok (), { emptySession with data := { db := { clients := [zitadelRow] }, supply := 1 } }) :=
    rfl
  have hit : findClient secretRealm.id zitadelRow.clientId { clients := [zitadelRow] } =
    some zitadelRow := rfl
  have usable : Usable zitadelRow "authorization_code" := ⟨by decide, rfl, by decide⟩
  refine ⟨.zitadel rfl ran rfl, rfl, usable, hit, ?_, rfl⟩
  rw [authenticates_iff hit rfl]
  rintro ⟨_, _, hash, isHash, isValid⟩
  cases isHash
  exact absurd ((encodedDeps_verifies _ _).mp isValid).2 (by decide)

end Idenplane.Clients
