import Idenplane.Migration.Tables

/-! # Users of an import

A user is created with the realm roles that the export gives it.  The program ignores a role that
is given twice, the transaction does not.
-/

namespace Idenplane.Migration

open Atomic Transaction Merging Realms.Transfer Kind Except

def usersKind (d : Deps) : Kind KeycloakUser (Option String) where
  entity := .users
  name := (·.username)
  isKnown realmId user := hasUser realmId user.username
  prepare := passwordColumn d
  create := createUser

def passwordFits (user : KeycloakUser) : Bool :=
  let extracted := extractKeycloakPassword user.credentials
  !extracted.needsHashing || (given extracted.hash).all isHashable

theorem run_passwordColumn (d : Deps) (user : KeycloakUser) :
    ∃ res : Except Thrown (Option String), res.isOk = passwordFits user ∧
      ∀ s, (passwordColumn d user).run s = (res, s) := by
  unfold passwordColumn passwordFits
  rcases extractKeycloakPassword user.credentials with ⟨hash, algorithm, needsHashing⟩
  cases needsHashing with
  | false => exact ⟨.ok hash, rfl, fun _ => rfl⟩
  | true =>
    cases present : given hash with
    | none => exact ⟨.ok hash, by simp [present, isOk, Except.toBool], fun _ => by simp [present]⟩
    | some rawHash =>
      cases fits : isHashable rawHash with
      | true =>
        exact ⟨.ok (some (d.hashPassword rawHash)),
          by simp [present, fits, isOk, Except.toBool],
          fun _ => by simp [present, hashPassword, fits, require]⟩
      | false =>
        exact ⟨.error tooLong, by simp [present, fits, isOk, Except.toBool],
          fun _ => by simp [present, hashPassword, fits, require]⟩

theorem usersKind_plain (d : Deps) : (usersKind d).Plain where
  prepares user s := by
    obtain ⟨res, -, ran⟩ := run_passwordColumn d user
    change (passwordColumn d user).run s = (((passwordColumn d user).run (fresh {})).1, s)
    rw [ran, ran]
  creates user rid hash := by
    refine .bind (.write _) fun id => .each (fun roleName => ?_) _
    refine .bind (.query _) fun role => ?_
    cases role with
    | none => exact .done ()
    | some roleId => exact .ignored (.write _)

theorem usersKind_prepared (d : Deps) (rid : Nat) (user : KeycloakUser) :
    ((usersKind d).plan rid).prepared user = passwordFits user := by
  obtain ⟨res, fits, ran⟩ := run_passwordColumn d user
  change (((passwordColumn d user).run (fresh {})).1).isOk = _
  rw [ran, fits]

def rolesNamed (realmId : Nat) (w : World) (names : List String) : List Nat :=
  names.filterMap fun name => findRole realmId name w

def linksAdded (userId : Nat) (roleIds : List Nat) (w : World) : World :=
  { w with db := { w.db with
      userRoles := w.db.userRoles ++ roleIds.map fun roleId => ⟨userId, roleId⟩ } }

theorem assign_aborted (rid uid : Nat) (ns : List String) {s : Session}
    (aborted : s.aborted = true) :
    ((each (assignRealmRole rid uid) ns).run s).2.aborted = true := by
  cases ns with
  | nil => exact aborted
  | cons name ns =>
    have turn : (assignRealmRole rid uid name).run s = (.error .aborted, s) :=
      run_query_bind_aborted aborted _ _
    have stops : (each (assignRealmRole rid uid) (name :: ns)).run s =
        (.error .aborted, s) := run_bind_error turn
    rw [stops]
    exact aborted

section Turns

variable {rid uid roleId : Nat} {name : String} {s : Session}

theorem run_assign_none (live : s.aborted = false) (hit : findRole rid name s.data = none) :
    (assignRealmRole rid uid name).run s = (.ok (), s) := by
  unfold assignRealmRole
  rw [run_query_bind live, hit]
  rfl

theorem run_assign_linked (live : s.aborted = false) (hit : findRole rid name s.data = some roleId)
    (linked : s.data.db.userRoles.contains ⟨uid, roleId⟩ = true) :
    (assignRealmRole rid uid name).run s = (.ok (), { s with aborted := true }) := by
  unfold assignRealmRole
  rw [run_query_bind live, hit]
  exact run_caught_error (run_append_taken live linked _)

theorem run_assign_new (live : s.aborted = false) (hit : findRole rid name s.data = some roleId)
    (free : s.data.db.userRoles.contains ⟨uid, roleId⟩ = false) :
    (assignRealmRole rid uid name).run s =
      (.ok (), { s with data := linksAdded uid [roleId] s.data }) := by
  unfold assignRealmRole
  rw [run_query_bind live, hit]
  exact run_caught_ok (run_append live free _)

end Turns

def Assignable (realmId userId : Nat) (names : List String) (w : World) : Prop :=
  (rolesNamed realmId w names).Nodup ∧
    ∀ roleId ∈ rolesNamed realmId w names, ⟨userId, roleId⟩ ∉ w.db.userRoles

theorem assign_run (rid uid : Nat) (names : List String) {s : Session} (live : s.aborted = false) :
    (Assignable rid uid names s.data → (each (assignRealmRole rid uid) names).run s =
        (.ok (), { s with data := linksAdded uid (rolesNamed rid s.data names) s.data })) ∧
    (¬ Assignable rid uid names s.data →
      ((each (assignRealmRole rid uid) names).run s).2.aborted = true) := by
  induction names generalizing s with
  | nil => simp [Assignable, rolesNamed, linksAdded, each]
  | cons name names ih =>
    cases hit : findRole rid name s.data with
    | none =>
      have same : rolesNamed rid s.data (name :: names) = rolesNamed rid s.data names := by
        simp [rolesNamed, hit]
      have rest : (each (assignRealmRole rid uid) (name :: names)).run s =
          (each (assignRealmRole rid uid) names).run s :=
        run_bind_ok (run_assign_none live hit)
      rw [Assignable, same, rest]
      exact ih live
    | some roleId =>
      have same : rolesNamed rid s.data (name :: names) =
          roleId :: rolesNamed rid s.data names := by
        simp [rolesNamed, hit]
      cases linked : s.data.db.userRoles.contains ⟨uid, roleId⟩ with
      | true =>
        have rest : (each (assignRealmRole rid uid) (name :: names)).run s =
            (each (assignRealmRole rid uid) names).run { s with aborted := true } :=
          run_bind_ok (run_assign_linked live hit linked)
        rw [Assignable, same, rest]
        constructor
        · intro fits
          apply absurd (fits.2 roleId mem_cons_self)
          simpa using linked
        · exact fun _ => assign_aborted rid uid names rfl
      | false =>
        have rest : (each (assignRealmRole rid uid) (name :: names)).run s =
            (each (assignRealmRole rid uid) names).run
              { s with data := linksAdded uid [roleId] s.data } :=
          run_bind_ok (run_assign_new live hit linked)
        have iff : Assignable rid uid (name :: names) s.data ↔
            Assignable rid uid names (linksAdded uid [roleId] s.data) := by
          have named : rolesNamed rid (linksAdded uid [roleId] s.data) names =
              rolesNamed rid s.data names := rfl
          have mem (link : UserRole) : link ∈ (linksAdded uid [roleId] s.data).db.userRoles ↔
                link ∈ s.data.db.userRoles ∨ link = ⟨uid, roleId⟩ := by
            simp [linksAdded]
          simp only [Assignable, same, named, mem, nodup_cons, mem_cons, UserRole.mk.injEq, not_or]
          grind
        obtain ⟨fits, clashes⟩ := @ih { s with data := linksAdded uid [roleId] s.data } live
        rw [iff, rest]
        refine ⟨fun assignable => (fits assignable).trans ?_, clashes⟩
        rw [same]
        simp [linksAdded, rolesNamed, findRole]

def LinksBelow (w : World) : Prop :=
  ∀ link ∈ w.db.userRoles, link.userId < w.supply

structure UsersGrown (realmId : Nat) (before : World) (added : List KeycloakUser)
    (w : World) : Prop where
  supply : before.supply ≤ w.supply
  links : LinksBelow w
  rows : ∃ rows links, w.db = { before.db with
      users := before.db.users ++ rows, userRoles := before.db.userRoles ++ links } ∧
    List.Forall₂ (fun (user : KeycloakUser) (row : User) =>
      row.realmId = realmId ∧ row.username = user.username ∧ row.email = user.email) added rows

structure UserFits (realmId : Nat) (before : World) (user : KeycloakUser) : Prop where
  email : ∀ row ∈ before.db.users, row.realmId = realmId → row.email.isSome → row.email ≠ user.email
  roles : (rolesNamed realmId before user.realmRoles).Nodup

def Apart (user other : KeycloakUser) : Prop := user.email.isSome → user.email ≠ other.email

section Creations

variable {rid : Nat} {user : KeycloakUser} {s : Session} (hash : Option String)

def isTaken (realmId : Nat) (user : KeycloakUser) (db : Database) : Bool :=
  db.users.any fun row => row.realmId = realmId &&
    (row.username = user.username || row.email.isSome && row.email = user.email)

def userAdded (realmId : Nat) (user : KeycloakUser) (hash : Option String) (w : World) : World :=
  linksAdded w.supply (rolesNamed realmId w user.realmRoles)
    { db := { w.db with
        users := w.db.users ++ [keycloakUserRow user hash realmId w.supply] }
      supply := w.supply + 1 }

theorem run_createUser_taken (live : s.aborted = false) (taken : isTaken rid user s.data.db = true) :
    (createUser user rid hash).run s = (.error .violation, { s with aborted := true }) :=
  run_bind_error (run_insert_taken live taken _)

theorem run_createUser_free (live : s.aborted = false) (below : LinksBelow s.data)
    (free : isTaken rid user s.data.db = false) :
    ((rolesNamed rid s.data user.realmRoles).Nodup → (createUser user rid hash).run s =
        (.ok (), { s with data := userAdded rid user hash s.data })) ∧
    (¬ (rolesNamed rid s.data user.realmRoles).Nodup →
      ((createUser user rid hash).run s).2.aborted = true) := by
  have stored := run_insert live free fun id db =>
    { db with users := db.users ++ [keycloakUserRow user hash rid id] }
  obtain ⟨fits, clashes⟩ := assign_run rid s.data.supply user.realmRoles
    (s := { s with data :=
      { db := { s.data.db with
          users := s.data.db.users ++ [keycloakUserRow user hash rid s.data.supply] }
        supply := s.data.supply + 1 } }) live
  have rest : (createUser user rid hash).run s = _ := run_bind_ok stored
  rw [rest]
  have fresh : ∀ roleId ∈ rolesNamed rid s.data user.realmRoles,
      (⟨s.data.supply, roleId⟩ : UserRole) ∉ s.data.db.userRoles := by
    intro roleId _ linked
    exact Nat.lt_irrefl _ (below _ linked)
  constructor
  · exact fun distinct => fits ⟨distinct, fresh⟩
  · exact fun repeated => clashes fun assignable => repeated assignable.1

end Creations

section Laws

variable (d : Deps) (rid : Nat) {user : KeycloakUser}

theorem hasUser_iff (user : KeycloakUser) (w : World) :
    ((usersKind d).plan rid).known w user = true ↔
      ∃ row ∈ w.db.users, row.realmId = rid ∧ row.username = user.username := by
  simp [plan, usersKind, hasUser]

theorem isTaken_iff {w : World} (unseen : ((usersKind d).plan rid).known w user = false) :
    isTaken rid user w.db = true ↔ ∃ row ∈ w.db.users, row.realmId = rid ∧ row.email.isSome ∧
        row.email = user.email := by
  have unknown : ¬ ∃ row ∈ w.db.users, row.realmId = rid ∧ row.username = user.username := by
    rw [← hasUser_iff d, unseen]
    exact Bool.false_ne_true
  simp only [isTaken, any_eq_true, and_eq_true, or_eq_true, decide_eq_true_eq]
  constructor
  · rintro ⟨row, mem, ours, name | addr⟩
    · exact absurd ⟨row, mem, ours, name⟩ unknown
    · exact ⟨row, mem, ours, addr⟩
  · rintro ⟨row, mem, ours, addr⟩
    exact ⟨row, mem, ours, .inr addr⟩

variable {added : List KeycloakUser}

theorem exists_row {p : String → Option String → Prop}
    {rows : List User} (matched : List.Forall₂ (fun (user : KeycloakUser) (row : User) =>
      row.realmId = rid ∧ row.username = user.username ∧ row.email = user.email) added rows) :
    (∃ row ∈ rows, row.realmId = rid ∧ p row.username row.email) ↔
      ∃ other ∈ added, p other.username other.email := by
  induction matched with
  | nil => simp
  | cons here rest ih =>
    obtain ⟨ours, name, addr⟩ := here
    simp only [mem_cons, exists_eq_or_imp, ih, ours, name, addr, true_and]

variable {pre w : World}

theorem UsersGrown.free_iff {d : Deps} {rid : Nat} (grown : UsersGrown rid pre added w) (unseen : ((usersKind d).plan rid).known w user = false) :
    isTaken rid user w.db = false ↔ (∀ row ∈ pre.db.users, row.realmId = rid → row.email.isSome →
        row.email ≠ user.email) ∧ ∀ other ∈ added, Apart other user := by
  obtain ⟨rows, links, same, matched⟩ := grown.rows
  have news := exists_row rid (p := fun _ email => email.isSome ∧ email = user.email) matched
  rw [← not_eq_true, isTaken_iff d rid unseen, same]
  simp only [mem_append, or_and_right, exists_or, news, not_or, Apart]
  constructor
  · rintro ⟨old, new⟩
    exact ⟨fun row mem ours isSome clash => old ⟨row, mem, ours, isSome, clash⟩,
      fun other mem isSome clash => new ⟨other, mem, isSome, clash⟩⟩
  · rintro ⟨old, new⟩
    exact ⟨fun ⟨row, mem, ours, isSome, clash⟩ => old row mem ours isSome clash,
      fun ⟨other, mem, isSome, clash⟩ => new other mem isSome clash⟩

theorem users_create (w : World) (prepared : ((usersKind d).plan rid).prepared user = true) :
    ∃ hash, ((usersKind d).plan rid).create user w =
      (((createUser user rid hash).run (fresh w)).1.isOk,
        ((createUser user rid hash).run (fresh w)).2.data,
        ((createUser user rid hash).run (fresh w)).2.aborted) := by
  obtain ⟨res, fits, ran⟩ := run_passwordColumn d user
  rw [usersKind_prepared, ← fits] at prepared
  cases res with
  | error thrown => cases prepared
  | ok hash =>
    refine ⟨hash, ?_⟩
    have made : ((usersKind d).made rid user).run (fresh w) = _ :=
      run_bind_ok (ran (fresh w))
    simp only [plan, made]
    rfl

theorem UsersGrown.add
    (grown : UsersGrown rid pre added w) (user : KeycloakUser) (hash : Option String) :
    UsersGrown rid pre (added ++ [user]) (userAdded rid user hash w) := by
  obtain ⟨rows, links, same, matched⟩ := grown.rows
  constructor
  · exact Nat.le_succ_of_le grown.supply
  · intro link linked
    simp only [userAdded, linksAdded, mem_append, mem_map] at linked ⊢
    rcases linked with old | ⟨roleId, -, rfl⟩
    · exact lt_succ_of_lt (grown.links link old)
    · exact lt_succ_self _
  · refine ⟨rows ++ [keycloakUserRow user hash rid w.supply],
      links ++ (rolesNamed rid w user.realmRoles).map fun roleId => ⟨w.supply, roleId⟩,
      ?_, List.rel_append matched (.cons ⟨rfl, rfl, rfl⟩ .nil)⟩
    simp [userAdded, linksAdded, same]

theorem UsersGrown.rolesNamed (grown : UsersGrown rid pre added w) (names : List String) :
    rolesNamed rid w names = rolesNamed rid pre names := by
  obtain ⟨rows, links, same, -⟩ := grown.rows
  simp [Migration.rolesNamed, findRole, same]

theorem users_lawful (pre : World) : ((usersKind d).plan rid).Lawful
      (fun user => hasUser (some rid) user.username pre) (UsersGrown rid pre)
      (fun other user => other.username = user.username) Apart (UserFits rid pre) where
  knows := by
    intro added w grown user
    obtain ⟨rows, links, same, matched⟩ := grown.rows
    have news := exists_row rid (p := fun name _ => name = user.username) matched
    rw [hasUser_iff, same]
    simp only [mem_append, or_and_right, exists_or, news]
    simp [hasUser]
  creates := by
    intro added w user grown unseen prepared fits apart
    obtain ⟨hash, creation⟩ := users_create d rid w prepared
    have free := (grown.free_iff unseen).mpr ⟨fits.email, apart⟩
    have distinct := fits.roles
    rw [← grown.rolesNamed] at distinct
    have ran := (run_createUser_free (s := fresh w) hash rfl grown.links free).1 distinct
    rw [ran] at creation
    exact ⟨_, creation, grown.add rid user hash⟩
  refuses := by
    intro added w user grown unseen prepared w' new
    obtain ⟨hash, creation⟩ := users_create d rid w prepared
    rw [new] at creation
    have live := congrArg (·.2.2) creation
    cases taken : isTaken rid user w.db with
    | true =>
      have ran := run_createUser_taken (s := fresh w) hash rfl taken
      simp [ran] at live
    | false =>
      have free := (grown.free_iff unseen).mp taken
      have ran := (run_createUser_free (s := fresh w) hash rfl grown.links taken).2
      by_cases distinct : (Migration.rolesNamed rid w user.realmRoles).Nodup
      · rw [grown.rolesNamed] at distinct
        exact ⟨⟨free.1, distinct⟩, free.2⟩
      · simp [ran distinct] at live
  survives := by
    intro added w user grown unseen prepared w' new
    obtain ⟨hash, creation⟩ := users_create d rid w prepared
    rw [new] at creation
    have live := congrArg (·.2.2) creation
    have failed := congrArg (·.1) creation
    cases taken : isTaken rid user w.db with
    | true =>
      have ran := run_createUser_taken (s := fresh w) hash rfl taken
      simp [ran] at live
    | false =>
      have ran := run_createUser_free (s := fresh w) hash rfl grown.links taken
      by_cases distinct : (Migration.rolesNamed rid w user.realmRoles).Nodup
      · simp [ran.1 distinct, isOk, Except.toBool] at failed
      · simp [ran.2 distinct] at live

end Laws

end Idenplane.Migration
