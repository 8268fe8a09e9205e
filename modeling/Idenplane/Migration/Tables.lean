import Idenplane.Migration.Merges
import Idenplane.Realms.ImportOutcome

/-! # Entities with a table of their own

Roles, client scopes, clients and identity providers: an entity is known by a name in its realm,
and its creation adds one row to one table.
-/

namespace Idenplane.Migration

open Atomic Transaction Merging Realms.Transfer Kind

structure Tabled {α β ρ : Type} (kind : Kind α β) (table : Rows ρ) where
  key : α → String
  isRow : Option Nat → String → ρ → Bool
  succeeds : α → Bool
  known : ∀ realmId item w,
    kind.isKnown realmId item w = (table.rows w.db).any (isRow realmId (key item))
  stores : ∀ {realmId item w}, kind.isKnown (some realmId) item w = false →
    succeeds item = true → ∃ row supply, w.supply ≤ supply ∧
      (∀ name, isRow (some realmId) name row = decide (key item = name)) ∧
      (kind.plan realmId).create item w =
        (true, { db := table.put (table.rows w.db ++ [row]) w.db, supply := supply }, false)
  declines : ∀ {realmId item w}, kind.isKnown (some realmId) item w = false →
    succeeds item = false → (kind.plan realmId).create item w = (false, w, false)

variable {rid : Nat}

namespace Tabled

variable {α β ρ : Type} {kind : Kind α β} {table : Rows ρ} (tabled : Tabled kind table)

structure Grown (realmId : Nat) (before : World) (added : List α) (w : World) : Prop where
  supply : before.supply ≤ w.supply
  rows : ∃ rows, w.db = table.put (table.rows before.db ++ rows) before.db ∧
    List.Forall₂ (fun item row => ∀ name,
      tabled.isRow (some realmId) name row = decide (tabled.key item = name)) added rows

theorem grown_refl (rid : Nat) (w : World) : tabled.Grown rid w [] w where
  supply := Nat.le_refl _
  rows := ⟨[], by rw [append_nil, table.put_rows], .nil⟩

variable {tabled}

theorem Grown.length {pre w : World} {added : List α} (grown : tabled.Grown rid pre added w) :
    (table.rows w.db).length = (table.rows pre.db).length + added.length := by
  obtain ⟨rows, same, matched⟩ := grown.rows
  rw [same, table.rows_put, length_append, matched.length_eq]

theorem any_of_forall₂ {added : List α} {rows : List ρ}
    (matched : List.Forall₂ (fun item row => ∀ name,
      tabled.isRow (some rid) name row = decide (tabled.key item = name)) added rows)
    (name : String) : rows.any (tabled.isRow (some rid) name) = true ↔
      ∃ other ∈ added, tabled.key other = name := by
  induction matched with
  | nil => simp
  | cons here rest ih => simp [here, ih]

theorem lawful (tabled : Tabled kind table) (rid : Nat) (pre : World) :
    (kind.plan rid).Lawful (fun item => kind.isKnown (some rid) item pre)
      (tabled.Grown rid pre) (fun other item => tabled.key other = tabled.key item)
      (fun _ _ => True) (fun item => tabled.succeeds item = true) where
  knows := by
    intro added w grown item
    obtain ⟨rows, same, matched⟩ := grown.rows
    change kind.isKnown (some rid) item w = true ↔ _
    rw [tabled.known, tabled.known, same, table.rows_put, List.any_append, or_eq_true,
      any_of_forall₂ matched]
  creates := by
    intro added w item grown unseen _ succeeds _
    obtain ⟨row, supply, later, isRow, creation⟩ := tabled.stores unseen succeeds
    refine ⟨_, creation, Nat.le_trans grown.supply later, ?_⟩
    obtain ⟨rows, same, matched⟩ := grown.rows
    refine ⟨rows ++ [row], ?_, List.rel_append matched (.cons isRow .nil)⟩
    rw [same, table.rows_put, table.put_put, append_assoc]
  refuses := by
    intro added w item grown unseen _ w' creation
    cases succeeds : tabled.succeeds item with
    | true => exact ⟨rfl, fun _ _ => trivial⟩
    | false =>
      rw [tabled.declines unseen succeeds] at creation
      cases creation
  survives := by
    intro added w item grown unseen _ w' creation
    cases succeeds : tabled.succeeds item with
    | false =>
      rw [tabled.declines unseen succeeds] at creation
      cases creation
      exact grown
    | true =>
      obtain ⟨row, supply, -, -, creation'⟩ := tabled.stores unseen succeeds
      rw [creation] at creation'
      cases creation'

theorem steady (tabled : Tabled kind table) {item : α} {w : World}
    (unseen : kind.isKnown (some rid) item w = false) :
    ((kind.plan rid).create item w).2.2 = false := by
  cases succeeds : tabled.succeeds item with
  | false => rw [tabled.declines unseen succeeds]
  | true =>
    obtain ⟨row, supply, -, -, creation⟩ := tabled.stores unseen succeeds
    rw [creation]

end Tabled

def rolesKind : Kind KeycloakRole Unit where
  entity := .roles
  name := (·.name)
  isKnown realmId role := hasRole realmId role.name
  prepare _ := pure ()
  create role realmId _ := createRole role realmId

def scopesKind : Kind KeycloakClientScope Unit where
  entity := .scopes
  name := (·.name)
  isKnown realmId scope := hasScope realmId scope.name
  prepare _ := pure ()
  create scope realmId _ := createScope scope realmId

def clientsKind (d : Deps) : Kind KeycloakClient Unit where
  entity := .clients
  name := (·.clientId)
  isKnown realmId client := hasClient realmId client.clientId
  prepare _ := pure ()
  create client realmId _ := createClient d client realmId

def providersKind : Kind KeycloakIdentityProvider Unit where
  entity := .identityProviders
  name := (·.alias_)
  isKnown realmId idp := hasIdentityProvider realmId idp.alias_
  prepare _ := pure ()
  create idp realmId _ := createIdentityProvider idp realmId

theorem plain_hashPassword (d : Deps) (pw : String) : Blind (hashPassword d pw) :=
  .bind (.require _ _) fun _ => .done _

theorem plain_hashedSecret (d : Deps) (sec : Option String) : Blind (hashedSecret d sec) := by
  unfold hashedSecret
  cases given sec with
  | none => exact .done none
  | some sec => exact .bind (plain_hashPassword d sec) fun _ => .done _

theorem rolesKind_plain : rolesKind.Plain where
  prepares _ _ := rfl
  creates _ _ _ := .bind (.write _) fun _ => .done ()

theorem scopesKind_plain : scopesKind.Plain where
  prepares _ _ := rfl
  creates _ _ _ := .bind (.write _) fun _ => .done ()

theorem clientsKind_plain (d : Deps) : (clientsKind d).Plain where
  prepares _ _ := rfl
  creates c _ _ := .bind (plain_hashedSecret d c.secret) fun _ =>
    .bind (.write _) fun _ => .done ()

theorem providersKind_plain : providersKind.Plain where
  prepares _ _ := rfl
  creates _ _ _ := .bind (.orFail _ _) fun _ => .write _

section Inserts

variable {s : Session} {taken : Database → Bool}

section

variable (live : s.aborted = false)

include live

theorem run_insert (free : taken s.data.db = false) (grown : Nat → Database → Database) :
    (write (insert taken grown) : Import Nat).run s = (.ok s.data.supply,
      { s with data := { db := grown s.data.supply s.data.db, supply := s.data.supply + 1 } }) := by
  rw [run_write]
  exact written_some live (by simp [Realms.Transfer.insert, free])

theorem run_insert_taken (isTaken : taken s.data.db = true) (grown : Nat → Database → Database) :
    (write (insert taken grown) : Import Nat).run s =
      (.error .violation, { s with aborted := true }) := by
  rw [run_write]
  exact written_none live (by simp [Realms.Transfer.insert, isTaken])

theorem run_append (free : taken s.data.db = false) (grown : Database → Database) :
    (write (append taken grown) : Import Unit).run s =
      (.ok (), { s with data := { s.data with db := grown s.data.db } }) := by
  rw [run_write]
  exact written_some live (by simp [append, free])

theorem run_append_taken (isTaken : taken s.data.db = true) (grown : Database → Database) :
    (write (append taken grown) : Import Unit).run s =
      (.error .violation, { s with aborted := true }) := by
  rw [run_write]
  exact written_none live (by simp [append, isTaken])

end

end Inserts

theorem Kind.create_eq {α : Type} {kind : Kind α Unit} (prepares : ∀ item, kind.prepare item = pure ()) {item : α} {w : World} {res : Except Thrown Unit} {t : Session}
    (ran : (kind.create item rid ()).run (fresh w) = (res, t)) :
    (kind.plan rid).create item w = (res.isOk, t.data, t.aborted) := by
  have made : (kind.made rid item).run (fresh w) = (res, t) := by
    unfold made
    rw [prepares]
    exact ran
  simp only [plan, made]

def roleAdded (realmId : Nat) (role : KeycloakRole) (w : World) : World :=
  { db := { w.db with
      roles := w.db.roles ++ [{ id := w.supply, realmId := realmId, name := role.name,
                                    description := role.description }] }
    supply := w.supply + 1 }

theorem rolesKind_create (rid : Nat) (role : KeycloakRole) (w : World) :
    (rolesKind.plan rid).create role w = (true, roleAdded rid role w, false) := by
  have created : (rolesKind.create role rid ()).run (fresh w) = _ :=
    run_bind_ok (run_insert rfl rfl _)
  exact create_eq (fun _ => rfl) created

def rolesTabled : Tabled rolesKind roleTable where
  key := (·.name)
  isRow realmId name row :=
    some row.realmId = realmId && row.name = name && row.clientId = none
  succeeds _ := true
  known _ _ _ := rfl
  stores {realmId role w} _ _ :=
    ⟨{ id := w.supply, realmId := realmId, name := role.name,
       description := role.description }, w.supply + 1, le_succ _, by simp,
      rolesKind_create realmId role w⟩
  declines _ refused := by cases refused

def scopesTabled : Tabled scopesKind scopeTable where
  key := (·.name)
  isRow realmId name row := some row.realmId = realmId && row.name = name
  succeeds _ := true
  known _ _ _ := rfl
  stores {realmId scope w} unseen _ := by
    refine ⟨{ id := w.supply, realmId := realmId, name := scope.name,
              description := scope.description, protocol := scope.protocol.getD "openid-connect" },
      w.supply + 1, le_succ _, by simp, ?_⟩
    have free : (w.db.clientScopes.any fun row =>
        row.realmId = realmId && row.name = scope.name) = false := by
      simpa [scopesKind, hasScope] using unseen
    have created : (scopesKind.create scope realmId ()).run (fresh w) = _ :=
      run_bind_ok (run_insert rfl free _)
    exact create_eq (fun _ => rfl) created
  declines _ refused := by cases refused

def secretFits (client : KeycloakClient) : Bool := (given client.secret).all isHashable

theorem run_hashedSecret (d : Deps) (c : KeycloakClient) (s : Session) :
    (hashedSecret d c.secret).run s =
      if secretFits c then (.ok ((given c.secret).map d.hashPassword), s)
      else (.error tooLong, s) := by
  unfold hashedSecret secretFits
  cases given c.secret with
  | none => rfl
  | some sec =>
    unfold hashPassword
    cases fits : isHashable sec <;> simp [require, fits]

def clientsTabled (d : Deps) : Tabled (clientsKind d) clientTable where
  key := (·.clientId)
  isRow realmId name row := some row.realmId = realmId && row.clientId = name
  succeeds := secretFits
  known _ _ _ := rfl
  stores {realmId client w} unseen succeeds := by
    refine ⟨keycloakClientRow client ((given client.secret).map d.hashPassword) realmId
      w.supply, w.supply + 1, le_succ _, by simp [keycloakClientRow], ?_⟩
    have free : (w.db.clients.any fun row =>
        row.realmId = realmId && row.clientId = client.clientId) = false := by
      simpa [clientsKind, hasClient] using unseen
    have hashed := run_hashedSecret d client (fresh w)
    rw [if_pos succeeds] at hashed
    have created : ((clientsKind d).create client realmId ()).run (fresh w) = _ :=
      (run_bind_ok hashed).trans (run_bind_ok (run_insert rfl free _))
    exact create_eq (fun _ => rfl) created
  declines {realmId client w} _ refused := by
    have hashed := run_hashedSecret d client (fresh w)
    rw [refused, if_neg Bool.false_ne_true] at hashed
    have created : ((clientsKind d).create client realmId ()).run (fresh w) = _ :=
      run_bind_error hashed
    exact create_eq (fun _ => rfl) created

def isTyped (idp : KeycloakIdentityProvider) : Bool :=
  (mapKeycloakProviderType idp.providerId).isSome

theorem isTyped_iff {idp : KeycloakIdentityProvider} :
    isTyped idp = true ↔ idp.providerId ∉ Auth.objectPrototype := by
  unfold isTyped mapKeycloakProviderType
  split <;> simp_all

def providersTabled : Tabled providersKind providerTable where
  key := (·.alias_)
  isRow realmId name row := some row.realmId = realmId && row.provider.alias_ = name
  succeeds := isTyped
  known _ _ _ := rfl
  stores {realmId idp w} unseen succeeds := by
    obtain ⟨type, isType⟩ := isSome_iff_exists.mp succeeds
    refine ⟨⟨realmId, keycloakProvider idp type⟩, w.supply, Nat.le_refl _, fun name => ?_, ?_⟩
    · simp only [decide_true, Bool.true_and]
      rfl
    have free : (w.db.identityProviders.any fun row =>
        row.realmId = realmId && row.provider.alias_ = idp.alias_) = false := by
      simpa [providersKind, hasIdentityProvider] using unseen
    have typed : (orFail (mapKeycloakProviderType idp.providerId) .invalid : Import String).run
        (fresh w) = (.ok type, fresh w) := by rw [isType]; rfl
    have created : (providersKind.create idp realmId ()).run (fresh w) = _ :=
      (run_bind_ok typed).trans (run_append rfl free _)
    exact create_eq (fun _ => rfl) created
  declines {realmId idp w} _ refused := by
    have untyped : mapKeycloakProviderType idp.providerId = none := by
      simpa [isTyped] using refused
    have asked : (orFail (mapKeycloakProviderType idp.providerId) .invalid : Import String).run
        (fresh w) = (.error .invalid, fresh w) := by rw [untyped]; rfl
    have created : (providersKind.create idp realmId ()).run (fresh w) = _ :=
      run_bind_error asked
    exact create_eq (fun _ => rfl) created

end Idenplane.Migration
