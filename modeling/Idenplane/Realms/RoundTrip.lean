import Idenplane.Realms.Shape
import Mathlib.Data.List.Flatten

/-! # Export and import again

An export keeps names; an import has to find the rows behind them.  It finds them when no two roles
share a key, no name that it needs is empty and every group comes after its parent.
-/

namespace Idenplane.Realms.Transfer

open Atomic Auth Admin Properties List Table RoleName Document

variable {user : User} {links : List ClientScopeLink}

/-- The keys and the foreign keys of the schema; the rows of a realm refer to rows of it. -/
structure Stored (w : World) : Prop where
  fresh : Fresh w
  old : OldIds w
  clientIds : (w.db.clients.map (·.id)).Nodup
  roleIds : (w.db.roles.map (·.id)).Nodup
  groupIds : (w.db.groups.map (·.id)).Nodup
  scopeIds : (w.db.clientScopes.map (·.id)).Nodup
  clientKeys : (w.db.clients.map fun row => (row.realmId, row.clientId)).Nodup
  scopeKeys : (w.db.clientScopes.map fun row => (row.realmId, row.name)).Nodup
  groupKeys : (w.db.groups.map fun row => (row.realmId, row.name)).Nodup
  usernames : (w.db.users.map fun row => (row.realmId, row.username)).Nodup
  emails : (w.db.users.filterMap fun row => row.email.map ((row.realmId, ·))).Nodup
  roleKeys : (w.db.roles.flatMap roleKeys).Nodup
  mapperKeys : (w.db.protocolMappers.map fun row => (row.clientScopeId, row.mapper.name)).Nodup
  providerKeys : (w.db.identityProviders.map fun row => (row.realmId, row.provider.alias_)).Nodup
  defaults : w.db.defaultScopes.Nodup
  optionals : w.db.optionalScopes.Nodup
  userRoles : w.db.userRoles.Nodup
  userGroups : w.db.userGroups.Nodup
  owners : ∀ role ∈ w.db.roles, ∀ id, role.clientId = some id →
    ∃ client ∈ w.db.clients, client.id = id ∧ client.realmId = role.realmId
  parents : ∀ group ∈ w.db.groups, ∀ id, group.parentId = some id →
    ∃ parent ∈ w.db.groups, parent.id = id ∧ parent.realmId = group.realmId
  roleLinks : ∀ link ∈ w.db.userRoles, ∀ user ∈ w.db.users, user.id = link.userId →
    ∃ role ∈ w.db.roles, role.id = link.roleId ∧ role.realmId = user.realmId
  groupLinks : ∀ link ∈ w.db.userGroups, ∀ user ∈ w.db.users, user.id = link.userId →
    ∃ group ∈ w.db.groups, group.id = link.groupId ∧ group.realmId = user.realmId
  scopeLinks : ∀ link ∈ w.db.defaultScopes ++ w.db.optionalScopes,
    ∀ client ∈ w.db.clients, client.id = link.clientId →
      ∃ scope ∈ w.db.clientScopes, scope.id = link.clientScopeId ∧ scope.realmId = client.realmId

/-- The second realm is like the first one; the names stand for the rows. -/
structure Same (db : Database) (realmId : Nat) (db' : Database) (realmId' : Nat) : Prop where
  groups : ∀ name parent, HasGroup db realmId name parent ↔ HasGroup db' realmId' name parent
  roles : ∀ role, HasRole db realmId role ↔ HasRole db' realmId' role
  users : ∀ username, username ∈ (db.usersOf realmId).map (·.username) ↔
    username ∈ (db'.usersOf realmId').map (·.username)
  userRoles : ∀ username role,
    UserHasRole db realmId username role ↔ UserHasRole db' realmId' username role
  userGroups : ∀ username group,
    UserHasGroup db realmId username group ↔ UserHasGroup db' realmId' username group
  clients : ∀ clientId, clientId ∈ (db.clientsOf realmId).map (·.clientId) ↔
    clientId ∈ (db'.clientsOf realmId').map (·.clientId)
  defaults : ∀ clientId scope, ClientHas db realmId db.defaultScopes clientId scope ↔
    ClientHas db' realmId' db'.defaultScopes clientId scope
  optionals : ∀ clientId scope, ClientHas db realmId db.optionalScopes clientId scope ↔
    ClientHas db' realmId' db'.optionalScopes clientId scope
  scopes : ∀ scope ∈ (db.scopesOf realmId).map (·.name), scope ∈ (db'.scopesOf realmId').map (·.name)
  mappers : ∀ scope ∈ (db.scopesOf realmId).map (·.name), ∀ mapper,
    ScopeHas db realmId scope mapper ↔ ScopeHas db' realmId' scope mapper

def rolesOfUser (db : Database) (realmId : Nat) (user : User) : List RoleName :=
  (exportUser db (db.clientsOf realmId) user).roles

structure Portable (db : Database) (realmId : Nat) : Prop where
  groups : ∀ before group rest, db.groupsOf realmId = before ++ group :: rest →
    ∀ parent ∈ db.groupsOf realmId, group.parentId = some parent.id →
      parent.name ≠ "" ∧ (parent.parentId = none ∨ parent ∈ before)
  owners : ∀ role ∈ db.rolesOf realmId, ∀ client ∈ db.clientsOf realmId,
    role.clientId = some client.id → client.clientId ≠ ""
  keys : ∀ user ∈ db.usersOf realmId, ((rolesOfUser db realmId user).map roleKey).Nodup
  roles : ∀ user ∈ db.usersOf realmId, ∀ role ∈ rolesOfUser db realmId user,
    ((db.rolesOf realmId).map (nameOfRole (db.clientsOf realmId))).reverse.find?
      (roleKey · = roleKey role) = some role
  scopes : ∀ client ∈ db.clientsOf realmId, ∀ scope ∈ db.scopesOf realmId,
    ⟨client.id, scope.id⟩ ∈ db.defaultScopes ++ db.optionalScopes → scope.name ≠ ""

def copied (db : Database) (realm : RealmRow) (name : String) : Document :=
  { exportData db realm true true with name := name }

section Export

variable {w : World} {realm : RealmRow} (stored : Stored w)

theorem nodup_in_realm {ρ κ : Type} {rows : List ρ} {owner : ρ → Nat} {key : ρ → κ}
    (nodup : (rows.map fun row => (owner row, key row)).Nodup) (realmId : Nat) :
    ((rows.filter (owner · = realmId)).map key).Nodup := by
  have fewer : ((rows.filter (owner · = realmId)).map fun row => (owner row, key row)).Nodup :=
    nodup.sublist (filter_sublist.map _)
  have split : ((rows.filter (owner · = realmId)).map fun row => (owner row, key row)) =
      ((rows.filter (owner · = realmId)).map key).map fun key => (realmId, key) := by
    rw [map_map]
    refine map_congr_left fun row isRow => ?_
    have isOwner : owner row = realmId := by simpa using (mem_filter.mp isRow).2
    simp [isOwner]
  rw [split] at fewer
  exact fewer.of_map _

theorem nodup_filterMap_of_mem {α β : Type} {f : α → Option β} {xs : List α} (nodup : xs.Nodup)
    (injective : ∀ first ∈ xs, ∀ snd ∈ xs, ∀ v, f first = some v → f snd = some v → first = snd) :
    (xs.filterMap f).Nodup := by
  rw [Nodup, pairwise_filterMap]
  refine Pairwise.imp_of_mem (fun isFirst isSecond other => ?_) nodup
  rintro v isValue _ isValue' rfl
  exact other (injective _ isFirst _ isSecond _ isValue isValue')

/-- A table that links owners to other rows. -/
structure Join (κ : Type) where
  (owner target : κ → Nat)
  link : Nat → Nat → κ
  link_eta : ∀ row, link (owner row) (target row) = row := by intros; rfl
  owner_link : ∀ own other, owner (link own other) = own := by intros; rfl
  target_link : ∀ own other, target (link own other) = other := by intros; rfl

namespace Join

variable {κ ρ β : Type} (join : Join κ) (rows : List ρ) (id : ρ → Nat) (name : ρ → β) (own : Nat)
  (links : List κ)

/-- What an export lists for an owner: the names of the rows that he is linked to. -/
def names : List β :=
  (links.filter (join.owner · = own)).filterMap fun link =>
    (rows.find? (id · = join.target link)).map name

variable {rows id name own links} (unique : (rows.map id).Nodup)

include unique

theorem named_iff {link : κ} {v : β} :
    join.owner link = own ∧ (rows.find? (id · = join.target link)).map name = some v ↔
      ∃ row ∈ rows, link = join.link own (id row) ∧ name row = v := by
  rw [map_eq_some_iff]
  constructor
  · rintro ⟨rfl, row, hit, isName⟩
    have isId : id row = join.target link := by simpa using find?_some hit
    exact ⟨row, mem_of_find?_eq_some hit, by rw [isId, join.link_eta], isName⟩
  · rintro ⟨row, isRow, rfl, isName⟩
    rw [join.owner_link, join.target_link]
    exact ⟨rfl, row, find?_of_mem unique isRow, isName⟩

theorem mem_names {v : β} : v ∈ join.names rows id name own links ↔
    ∃ row ∈ rows, join.link own (id row) ∈ links ∧ name row = v := by
  simp only [names, mem_filterMap, mem_filter, decide_eq_true_eq, and_assoc, named_iff join unique]
  constructor
  · rintro ⟨_, isLink, row, isRow, rfl, isName⟩
    exact ⟨row, isRow, isLink, isName⟩
  · rintro ⟨row, isRow, isLink, isName⟩
    exact ⟨_, isLink, row, isRow, rfl, isName⟩

theorem names_nodup (nodup : links.Nodup)
    (injective : ∀ row ∈ rows, ∀ row' ∈ rows, join.link own (id row) ∈ links →
      join.link own (id row') ∈ links → name row = name row' → row = row') :
    (join.names rows id name own links).Nodup := by
  refine nodup_filterMap_of_mem (nodup.filter _) ?_
  intro first isFirst snd isSecond v isName isName'
  simp only [mem_filter, decide_eq_true_eq] at isFirst isSecond
  obtain ⟨row, isRow, rfl, rfl⟩ := (named_iff join unique).mp ⟨isFirst.2, isName⟩
  obtain ⟨row', isRow', rfl, same⟩ := (named_iff join unique).mp ⟨isSecond.2, isName'⟩
  rw [injective row' isRow' row isRow isSecond.1 isFirst.1 same]

end Join

def roleJoin : Join UserRole := { owner := (·.userId), target := (·.roleId), link := UserRole.mk }

def groupJoin : Join UserGroup := { owner := (·.userId), target := (·.groupId), link := UserGroup.mk }

def scopeJoin : Join ClientScopeLink :=
  { owner := (·.clientId), target := (·.clientScopeId), link := ClientScopeLink.mk }

include stored

theorem clientName_of_owner {role : Role} (isRole : role ∈ w.db.rolesOf realm.id) {id : Nat}
    (isClient : role.clientId = some id) : ∃ c ∈ w.db.clientsOf realm.id, c.id = id ∧
      clientName (w.db.clientsOf realm.id) role.clientId = some c.clientId := by
  obtain ⟨isRole, isOurs⟩ := mem_filter.mp isRole
  obtain ⟨c, mem, rfl, sameRealm⟩ := stored.owners role isRole id isClient
  have inRealm : c ∈ w.db.clientsOf realm.id :=
    mem_filter.mpr ⟨mem, by simpa [sameRealm] using isOurs⟩
  refine ⟨c, inRealm, rfl, ?_⟩
  rw [isClient, clientName, bind_some, find?_of_mem _ inRealm]
  · rfl
  · exact stored.clientIds.sublist (filter_sublist.map _)

theorem parentName_of_parent {g : Group} (isGroup : g ∈ w.db.groupsOf realm.id) {id : Nat}
    (isParent : g.parentId = some id) : ∃ p ∈ w.db.groupsOf realm.id, p.id = id ∧
      parentName (w.db.groupsOf realm.id) g = some p.name := by
  obtain ⟨isGroup, isOurs⟩ := mem_filter.mp isGroup
  obtain ⟨p, mem, rfl, sameRealm⟩ := stored.parents g isGroup id isParent
  have inRealm : p ∈ w.db.groupsOf realm.id :=
    mem_filter.mpr ⟨mem, by simpa [sameRealm] using isOurs⟩
  refine ⟨p, inRealm, rfl, ?_⟩
  rw [parentName, isParent, bind_some, find?_of_mem _ inRealm]
  · rfl
  · exact stored.groupIds.sublist (filter_sublist.map _)

theorem mem_rolesOfUser {name : RoleName} :
    name ∈ rolesOfUser w.db realm.id user ↔ ∃ role ∈ w.db.roles,
      ⟨user.id, role.id⟩ ∈ w.db.userRoles ∧ nameOfRole (w.db.clientsOf realm.id) role = name :=
  roleJoin.mem_names stored.roleIds

theorem mem_groupsOfUser {name : String} :
    name ∈ (exportUser w.db (w.db.clientsOf realm.id) user).groups ↔
      ∃ g ∈ w.db.groups, ⟨user.id, g.id⟩ ∈ w.db.userGroups ∧ g.name = name :=
  groupJoin.mem_names stored.groupIds

theorem scope_in_realm {c : Client} {scope : ScopeRow}
    (isClient : c ∈ w.db.clientsOf realm.id) (isScope : scope ∈ w.db.clientScopes)
    (isLink : ⟨c.id, scope.id⟩ ∈ w.db.defaultScopes ++ w.db.optionalScopes) :
    scope ∈ w.db.scopesOf realm.id := by
  obtain ⟨isClient, isOurs⟩ := mem_filter.mp isClient
  obtain ⟨other, isOther, isId, sameRealm⟩ := stored.scopeLinks _ isLink c isClient rfl
  obtain rfl : other = scope := inj_on_of_nodup_map stored.scopeIds isOther isScope isId
  exact mem_filter.mpr ⟨isScope, by simpa [sameRealm] using isOurs⟩

theorem mem_scopeNames (isLinks : ∀ link ∈ links, link ∈ w.db.defaultScopes ++ w.db.optionalScopes)
    {c : Client} (isClient : c ∈ w.db.clientsOf realm.id) {name : String} :
    name ∈ scopeNames (w.db.scopesOf realm.id) links c ↔
      name ≠ "" ∧ ∃ sc ∈ w.db.clientScopes, ⟨c.id, sc.id⟩ ∈ links ∧ sc.name = name := by
  have names : name ∈ scopeJoin.names (w.db.scopesOf realm.id) (·.id) (·.name) c.id links ↔ _ :=
    scopeJoin.mem_names (stored.scopeIds.sublist (filter_sublist.map _))
  rw [scopeNames, mem_filter, and_comm]
  refine and_congr (by simp) (names.trans ?_)
  constructor
  · rintro ⟨sc, isScope, has⟩
    exact ⟨sc, (mem_filter.mp isScope).1, has⟩
  · rintro ⟨sc, isScope, isLink, isName⟩
    exact ⟨sc, scope_in_realm stored isClient isScope (isLinks _ isLink), isLink, isName⟩

theorem rolesOfUser_known (isUser : user ∈ w.db.usersOf realm.id) {name : RoleName}
    (isName : name ∈ rolesOfUser w.db realm.id user) :
    ∃ role ∈ w.db.rolesOf realm.id, nameOfRole (w.db.clientsOf realm.id) role = name := by
  obtain ⟨isUser, isOurs⟩ := mem_filter.mp isUser
  obtain ⟨role, isRole, isLink, isName⟩ := (mem_rolesOfUser stored).mp isName
  obtain ⟨role', isRole', isId, sameRealm⟩ := stored.roleLinks _ isLink user isUser rfl
  obtain rfl : role' = role := inj_on_of_nodup_map stored.roleIds isRole' isRole isId
  exact ⟨role', mem_filter.mpr ⟨isRole, by simpa [sameRealm] using isOurs⟩, isName⟩

theorem groupsOfUser_known (isUser : user ∈ w.db.usersOf realm.id) {name : String}
    (isName : name ∈ (exportUser w.db (w.db.clientsOf realm.id) user).groups) :
    name ∈ (w.db.groupsOf realm.id).map (·.name) := by
  obtain ⟨isUser, isOurs⟩ := mem_filter.mp isUser
  obtain ⟨group, isGroup, isLink, isName⟩ := (mem_groupsOfUser stored).mp isName
  obtain ⟨group', isGroup', isId, sameRealm⟩ := stored.groupLinks _ isLink user isUser rfl
  obtain rfl : group' = group := inj_on_of_nodup_map stored.groupIds isGroup' isGroup isId
  exact mem_map.mpr ⟨group', mem_filter.mpr ⟨isGroup, by simpa [sameRealm] using isOurs⟩, isName⟩

omit stored in
theorem copied_scopeNames (db : Database) (name : String) :
    (copied db realm name).scopeNames = (db.scopesOf realm.id).map (·.name) :=
  map_map ..

omit stored in
theorem copied_clientNames (db : Database) (name : String) :
    (copied db realm name).clientNames = (db.clientsOf realm.id).map (·.clientId) :=
  map_map ..

omit stored in
theorem copied_groupNames (db : Database) (name : String) :
    (copied db realm name).groupNames = (db.groupsOf realm.id).map (·.name) :=
  map_map ..

/-- The client of an exported role is there to be found, unless its name is empty. -/
theorem owner_copied {role : Role} (isRole : role ∈ w.db.rolesOf realm.id) (name : String) :
    owner (copied w.db realm name) (nameOfRole (w.db.clientsOf realm.id) role) =
      given (clientName (w.db.clientsOf realm.id) role.clientId) := by
  unfold owner
  cases isClient : role.clientId with
  | none => simp [nameOfRole, isClient, clientName, given]
  | some id =>
    obtain ⟨c, mem, rfl, isName⟩ := clientName_of_owner stored isRole isClient
    have known : c.clientId ∈ (copied w.db realm name).clientNames :=
      mem_map.mpr ⟨_, mem_map.mpr ⟨c, mem, rfl⟩, rfl⟩
    rw [nameOfRole, ← isClient, isName]
    by_cases empty : c.clientId = ""
    · simp [given, empty, Option.filter]
    · simp [given, empty, known, Option.filter]

theorem clientName_injective {first second : Nat} {name : String}
    (isFirst : clientName (w.db.clientsOf realm.id) (some first) = some name)
    (isSecond : clientName (w.db.clientsOf realm.id) (some second) = some name) :
    first = second := by
  obtain ⟨c, hit, isName⟩ := map_eq_some_iff.mp isFirst
  obtain ⟨c', hit', isName'⟩ := map_eq_some_iff.mp isSecond
  have same : c = c' := inj_on_of_nodup_map
    (nodup_in_realm stored.clientKeys realm.id) (mem_of_find?_eq_some hit)
    (mem_of_find?_eq_some hit') (isName.trans isName'.symm)
  have isId : c.id = first := by simpa using find?_some hit
  have isId' : c'.id = second := by simpa using find?_some hit'
  rw [← isId, ← isId', same]

theorem copied_clientRoleNames (name : String) : (copied w.db realm name).clientRoleNames.Nodup := by
  let index (key : Nat × Nat × String) : Option (String × String) :=
    if key.1 = realm.id then
      (given (clientName (w.db.clientsOf realm.id) (some key.2.1))).map (·, key.2.2)
    else none
  have same : (copied w.db realm name).clientRoleNames =
      ((w.db.rolesOf realm.id).flatMap roleKeys).filterMap index := by
    have mem : (copied w.db realm name).roles =
      (w.db.rolesOf realm.id).map (exportRole (w.db.clientsOf realm.id)) := rfl
    rw [clientRoleNames, mem, filterMap_map, filterMap_flatMap,
      filterMap_eq_flatMap_toList]
    refine flatMap_congr fun role isRole => ?_
    have isOurs : role.realmId = realm.id := by simpa using (mem_filter.mp isRole).2
    have isOwner := owner_copied stored isRole name
    have e : ((given (exportRole (w.db.clientsOf realm.id) role).clientId).filter
        ((copied w.db realm name).clientNames.contains ·)) = _ := isOwner
    simp only [comp_apply, e]
    cases isClient : role.clientId with
    | none => simp [roleKeys, isClient, clientName, given]
    | some id =>
      cases isGiven : given (clientName (w.db.clientsOf realm.id) (some id)) with
      | none => simp [roleKeys, isClient, index, isOurs, isGiven]
      | some c => simp [roleKeys, isClient, index, isOurs, isGiven, exportRole]
  rw [same]
  refine Nodup.filterMap ?_ (stored.roleKeys.sublist (filter_sublist.flatMap _))
  rintro ⟨realm₁, client₁, name₁⟩ ⟨realm₂, client₂, name₂⟩ ⟨text, role⟩ isFirst isSecond
  simp only [index, Option.mem_def] at isFirst isSecond
  split at isFirst
  case isFalse => cases isFirst
  case isTrue isOurs =>
    split at isSecond
    case isFalse => cases isSecond
    case isTrue isOurs' =>
      obtain ⟨c, isGiven, isRole⟩ := map_eq_some_iff.mp isFirst
      obtain ⟨c', isGiven', isRole'⟩ := map_eq_some_iff.mp isSecond
      obtain ⟨rfl, rfl⟩ := Prod.mk.inj isRole
      obtain ⟨rfl, rfl⟩ := Prod.mk.inj isRole'
      have sameClient := clientName_injective stored (given_eq_some.mp isGiven).1
        (given_eq_some.mp isGiven').1
      exact Prod.ext (isOurs.trans isOurs'.symm) (Prod.ext sameClient rfl)

theorem scopeNames_nodup (nodup : links.Nodup) (c : Client) :
    (scopeNames (w.db.scopesOf realm.id) links c).Nodup := by
  have apart : (scopeJoin.names (w.db.scopesOf realm.id) (·.id) (·.name) c.id links).Nodup :=
    scopeJoin.names_nodup (stored.scopeIds.sublist (filter_sublist.map _)) nodup
      fun _ isRow _ isRow' _ _ same =>
        inj_on_of_nodup_map (nodup_in_realm stored.scopeKeys realm.id) isRow isRow' same
  exact apart.filter _

theorem groupsOfUser_nodup (isUser : user ∈ w.db.usersOf realm.id) :
    (exportUser w.db (w.db.clientsOf realm.id) user).groups.Nodup := by
  obtain ⟨isUser, isOurs⟩ := mem_filter.mp isUser
  refine groupJoin.names_nodup stored.groupIds stored.userGroups ?_
  intro g isGroup g' isGroup' isLink isLink' same
  have inRealm {g : Group} (isGroup : g ∈ w.db.groups)
      (isLink : groupJoin.link user.id g.id ∈ w.db.userGroups) : g.realmId = user.realmId := by
    obtain ⟨other, isOther, isId, sameRealm⟩ := stored.groupLinks _ isLink user isUser rfl
    rwa [inj_on_of_nodup_map stored.groupIds isOther isGroup isId] at sameRealm
  exact inj_on_of_nodup_map stored.groupKeys isGroup isGroup'
    (Prod.ext ((inRealm isGroup isLink).trans (inRealm isGroup' isLink').symm) same)

theorem copied_links (name : String) (nodup : links.Nodup) (ns : ScopeAssignment → List String)
    (isNames : ∀ c, ns (exportAssignment w.db (w.db.scopesOf realm.id) c) =
      scopeNames (w.db.scopesOf realm.id) links c) :
    ((copied w.db realm name).clientScopeAssignments.flatMap fun asg =>
      (copied w.db realm name).linkNames asg.clientId (ns asg)).Nodup := by
  have listed : (copied w.db realm name).clientScopeAssignments =
    (w.db.clientsOf realm.id).map (exportAssignment w.db (w.db.scopesOf realm.id)) := rfl
  rw [listed, flatMap_map, nodup_flatMap]
  have ofClient {clientId : String} {ns : List String} {link : String × String}
      (isLink : link ∈ (copied w.db realm name).linkNames clientId ns) :
      link.1 = clientId := by
    unfold linkNames at isLink
    split at isLink
    case isTrue =>
      obtain ⟨_, _, rfl⟩ := mem_map.mp isLink
      rfl
    case isFalse => cases isLink
  constructor
  · intro c _
    unfold linkNames
    split
    case isTrue =>
      rw [isNames]
      refine ((scopeNames_nodup stored nodup c).filter _).map ?_
      exact fun _ _ same => (Prod.mk.inj same).2
    case isFalse => exact nodup_nil
  · have clients := nodup_in_realm stored.clientKeys realm.id
    refine Pairwise.imp ?_ (pairwise_map.mp clients)
    intro first snd other link isFirst isSecond
    exact other ((ofClient isFirst).symm.trans (ofClient isSecond))

theorem emails_nodup : ((w.db.usersOf realm.id).filterMap (·.email)).Nodup := by
  have fewer : ((w.db.usersOf realm.id).filterMap fun row =>
      row.email.map ((row.realmId, ·))).Nodup :=
    stored.emails.sublist (filter_sublist.filterMap _)
  have split : ((w.db.usersOf realm.id).filterMap fun row => row.email.map ((row.realmId, ·))) =
      ((w.db.usersOf realm.id).filterMap (·.email)).map ((realm.id, ·)) := by
    rw [map_filterMap]
    refine filterMap_congr fun row isRow => ?_
    have isOurs : row.realmId = realm.id := by simpa using (mem_filter.mp isRow).2
    rw [isOurs]
  rw [split] at fewer
  exact fewer.of_map _

theorem copied_mappers {sc : ImportedScope} {name : String}
    (mem : sc ∈ (copied w.db realm name).clientScopes) :
    (sc.protocolMappers.map (·.name)).Nodup := by
  obtain ⟨row, _, rfl⟩ := mem_map.mp mem
  rw [exportScope, map_map]
  exact nodup_in_realm stored.mapperKeys row.id

theorem importable_copied (name : String) : Importable (fun _ => false) (copied w.db realm name) ↔
      ∀ user ∈ w.db.usersOf realm.id, ((rolesOfUser w.db realm.id user).map roleKey).Nodup := by
  have users : (copied w.db realm name).users =
      (w.db.usersOf realm.id).map (exportUser w.db (w.db.clientsOf realm.id)) := rfl
  have known {user : User} (isUser : user ∈ w.db.usersOf realm.id) :
      ((rolesOfUser w.db realm.id user).map roleKey).filter
        ((copied w.db realm name).roleKeys.contains ·) =
          (rolesOfUser w.db realm.id user).map roleKey := by
    refine filter_eq_self.mpr fun key isKey => ?_
    obtain ⟨named, isNamed, rfl⟩ := mem_map.mp isKey
    obtain ⟨role, isRole, rfl⟩ := rolesOfUser_known stored isUser isNamed
    rw [contains_iff_mem]
    exact mem_map.mpr ⟨_, mem_map.mpr ⟨role, isRole, rfl⟩, rfl⟩
  constructor
  · intro importable user isUser
    have nodup := importable.userRoles _ (users ▸ mem_map.mpr ⟨user, isUser, rfl⟩)
    rwa [← rolesOfUser, known isUser] at nodup
  · intro keys
    refine
      { keyPair := rfl
        realm := rfl
        scopes := fun i sc hit =>
          ⟨rfl, fun _ _ _ => rfl, copied_mappers stored (mem_of_getElem? hit)⟩
        scopeNames := ?_
        seeds := fun _ _ _ _ => rfl
        clients := fun _ _ _ => rfl
        clientNames := ?_
        roles := fun _ _ _ => rfl
        roleNames := copied_clientRoleNames stored name
        groups := fun _ _ _ => ⟨rfl, rfl⟩
        groupNames := ?_
        providers := fun _ _ _ => rfl
        providerNames := ?_
        assignments := fun _ _ _ => rfl
        defaultCalls := fun _ _ _ _ _ _ _ _ => rfl
        optionalCalls := fun _ _ _ _ _ _ _ _ => rfl
        defaults := copied_links stored name stored.defaults (·.defaultScopes) fun _ => rfl
        optionals := copied_links stored name stored.optionals (·.optionalScopes) fun _ => rfl
        users := fun _ _ _ => rfl
        userRoleCalls := fun _ _ _ _ _ _ _ => rfl
        userRoles := ?_
        userGroupCalls := fun _ _ _ _ _ _ _ => rfl
        userGroups := ?_
        usernames := ?_
        emails := ?_ }
    · rw [copied_scopeNames]
      exact nodup_in_realm stored.scopeKeys realm.id
    · rw [copied_clientNames]
      exact nodup_in_realm stored.clientKeys realm.id
    · rw [copied_groupNames]
      exact nodup_in_realm stored.groupKeys realm.id
    · exact (map_map ..).symm ▸ nodup_in_realm stored.providerKeys realm.id
    · intro user mem
      obtain ⟨row, isUser, rfl⟩ := mem_map.mp (users ▸ mem)
      rw [← rolesOfUser, known isUser]
      exact keys row isUser
    · intro user mem
      obtain ⟨row, isUser, rfl⟩ := mem_map.mp (users ▸ mem)
      exact (groupsOfUser_nodup stored isUser).filter _
    · rw [users, map_map]
      exact nodup_in_realm stored.usernames realm.id
    · rw [users, filterMap_map]
      exact emails_nodup stored

end Export

section Names

variable {w : World} {realm : RealmRow} {realmId : Nat} {name : String} (stored : Stored w)

include stored

theorem groupNames_nodup : ((w.db.groupsOf realm.id).map (·.name)).Nodup :=
  nodup_in_realm stored.groupKeys realm.id

/-- A parent is linked when it has a name and is there in time. -/
theorem linked_iff {pre rest : List Group} {g parent : Group}
    (split : w.db.groupsOf realm.id = pre ++ g :: rest)
    (isParent : parent ∈ w.db.groupsOf realm.id)
    (isName : parentName (w.db.groupsOf realm.id) g = some parent.name) :
    linked ((w.db.groupsOf realm.id).map (exportGroup (w.db.groupsOf realm.id)))
        (pre.map (exportGroup (w.db.groupsOf realm.id)))
        (exportGroup (w.db.groupsOf realm.id) g) = some parent.name ↔
      parent.name ≠ "" ∧ (isRoot (exportGroup (w.db.groupsOf realm.id) parent) = true ∨
        parent ∈ pre) := by
  have only {other : Group} (mem : other ∈ w.db.groupsOf realm.id)
      (same : other.name = parent.name) : other = parent :=
    inj_on_of_nodup_map (groupNames_nodup stored) mem isParent same
  have early {other : Group} (mem : other ∈ pre) : other ∈ w.db.groupsOf realm.id := by
    simp [split, mem]
  have isGiven : (exportGroup (w.db.groupsOf realm.id) g).parentName = some parent.name := isName
  rw [linked, isGiven, filter_eq_some_iff, given_eq_some, or_eq_true, any_eq_true, any_eq_true]
  simp only [mem_map, and_eq_true, decide_eq_true_eq, true_and]
  refine and_congr_right fun _ => or_congr ?_ ?_
  · constructor
    · rintro ⟨_, ⟨other, mem, rfl⟩, root, same⟩
      rwa [only mem same] at root
    · exact fun root => ⟨_, ⟨parent, isParent, rfl⟩, root, rfl⟩
  · constructor
    · rintro ⟨_, ⟨other, mem, rfl⟩, same⟩
      rwa [only (early mem) same] at mem
    · exact fun mem => ⟨_, ⟨parent, mem, rfl⟩, rfl⟩

/-- All groups are linked exactly when all of them come after their parents. -/
theorem all_linked_iff : (∀ pre g rest, w.db.groupsOf realm.id = pre ++ g :: rest →
        linked ((w.db.groupsOf realm.id).map (exportGroup (w.db.groupsOf realm.id)))
          (pre.map (exportGroup (w.db.groupsOf realm.id)))
          (exportGroup (w.db.groupsOf realm.id) g) = parentName (w.db.groupsOf realm.id) g) ↔
      ∀ pre g rest, w.db.groupsOf realm.id = pre ++ g :: rest →
        ∀ p ∈ w.db.groupsOf realm.id, g.parentId = some p.id →
          p.name ≠ "" ∧ (p.parentId = none ∨ p ∈ pre) := by
  have isListed {pre rest : List Group} {g : Group}
      (split : w.db.groupsOf realm.id = pre ++ g :: rest) :
      g ∈ w.db.groupsOf realm.id := by simp [split]
  have nameOf {g p : Group} (mem : g ∈ w.db.groupsOf realm.id)
      (isParent : p ∈ w.db.groupsOf realm.id) (isId : g.parentId = some p.id) :
      parentName (w.db.groupsOf realm.id) g = some p.name := by
    obtain ⟨other, isOther, same, isName⟩ := parentName_of_parent stored mem isId
    have ids : ((w.db.groupsOf realm.id).map (·.id)).Nodup :=
      stored.groupIds.sublist (filter_sublist.map _)
    rwa [inj_on_of_nodup_map ids isOther isParent same] at isName
  constructor
  · intro all pre g rest split p isParent isId
    have isName := nameOf (isListed split) isParent isId
    obtain ⟨named, inTime⟩ := (linked_iff stored split isParent isName).mp
      ((all pre g rest split).trans isName)
    refine ⟨named, inTime.imp_left fun root => ?_⟩
    -- a parent that has a parent of its own would have to be linked as well
    cases isGrand : p.parentId with
    | none => rfl
    | some id =>
      obtain ⟨pre', rest', split'⟩ := append_of_mem isParent
      obtain ⟨grand, isGrand', rfl, isName'⟩ := parentName_of_parent stored isParent isGrand
      have named' := ((linked_iff stored split' isGrand' isName').mp
        ((all pre' p rest' split').trans isName')).1
      have isExport : (exportGroup (w.db.groupsOf realm.id) p).parentName =
        some grand.name := isName'
      simp [isRoot, isExport, given, named', Option.filter] at root
  · intro all pre g rest split
    cases isId : g.parentId with
    | none =>
      have none_ : parentName (w.db.groupsOf realm.id) g = none := by simp [parentName, isId]
      have isExport : (exportGroup (w.db.groupsOf realm.id) g).parentName = none := none_
      rw [none_, linked, isExport]
      rfl
    | some id =>
      obtain ⟨p, isParent, rfl, isName⟩ := parentName_of_parent stored (isListed split) isId
      obtain ⟨named, inTime⟩ := all pre g rest split p isParent isId
      rw [isName]
      refine (linked_iff stored split isParent isName).mpr ⟨named, inTime.imp_left fun top => ?_⟩
      have isExport : (exportGroup (w.db.groupsOf realm.id) p).parentName = none := by
        simp [exportGroup, parentName, top]
      simp [isRoot, isExport, given]

variable {after : World} (unused : Unused realmId after)

include unused

variable (realm name) in
theorem groups_same_iff : (∀ text p, HasGroup w.db realm.id text p ↔
        HasGroup (imported (copied w.db realm name) realmId after).db realmId text p) ↔
      ∀ pre group rest, w.db.groupsOf realm.id = pre ++ group :: rest →
        linked ((w.db.groupsOf realm.id).map (exportGroup (w.db.groupsOf realm.id)))
          (pre.map (exportGroup (w.db.groupsOf realm.id)))
          (exportGroup (w.db.groupsOf realm.id) group) =
            parentName (w.db.groupsOf realm.id) group := by
  have mem : (copied w.db realm name).groups =
    (w.db.groupsOf realm.id).map (exportGroup (w.db.groupsOf realm.id)) := rfl
  have nodup : (w.db.groupsOf realm.id).Nodup := (groupNames_nodup stored).of_map _
  simp only [hasGroup_imported unused, mem]
  constructor
  · intro same pre group rest split
    have isListed : group ∈ w.db.groupsOf realm.id := by simp [split]
    obtain ⟨pre', entry, rest', split', isName, isParent⟩ :=
      (same group.name (parentName (w.db.groupsOf realm.id) group)).mp ⟨group, isListed, rfl, rfl⟩
    -- a name is there once, so the two splits of the list are the same one
    obtain ⟨front, back, isSplit, rfl, isBack⟩ := map_eq_append_iff.mp split'
    obtain ⟨other, back', rfl, rfl, rfl⟩ := map_eq_cons_iff.mp isBack
    obtain rfl : other = group := inj_on_of_nodup_map (groupNames_nodup stored)
      (by simp [isSplit]) isListed isName
    have apart : other ∉ front ∧ other ∉ back' := by
      rw [isSplit, nodup_append] at nodup
      exact ⟨fun isFront => nodup.2.2 other isFront other mem_cons_self rfl,
        (nodup_cons.mp nodup.2.1).1⟩
    obtain ⟨rfl, -, -⟩ := (append_cons_inj_of_notMem apart.1 apart.2).mp (isSplit.symm.trans split)
    exact isParent
  · intro all text p
    constructor
    · rintro ⟨group, isListed, isName, isParent⟩
      obtain ⟨pre, rest, split⟩ := append_of_mem isListed
      have mapped (entry : Group → ImportedGroup) : (w.db.groupsOf realm.id).map entry =
          pre.map entry ++ entry group :: rest.map entry := by
        rw [split, map_append, map_cons]
      exact ⟨_, _, _, mapped _, isName, (all pre group rest split).trans isParent⟩
    · rintro ⟨pre', entry, rest', split', isName, isParent⟩
      obtain ⟨front, back, isSplit, rfl, isBack⟩ := map_eq_append_iff.mp split'
      obtain ⟨group, back', rfl, rfl, rfl⟩ := map_eq_cons_iff.mp isBack
      exact ⟨group, by simp [isSplit], isName, (all front group back' isSplit).symm.trans isParent⟩

theorem hasRole_copied (role : RoleName) :
    HasRole (imported (copied w.db realm name) realmId after).db realmId role ↔
      ∃ row ∈ w.db.rolesOf realm.id, RoleName.mk row.name
        (given (clientName (w.db.clientsOf realm.id) row.clientId)) = role := by
  rw [hasRole_imported unused]
  constructor
  · rintro ⟨_, isEntry, rfl⟩
    obtain ⟨row, mem, rfl⟩ := mem_map.mp isEntry
    exact ⟨row, mem, congrArg (mk row.name) (owner_copied stored mem name).symm⟩
  · rintro ⟨row, mem, rfl⟩
    exact ⟨_, mem_map.mpr ⟨row, mem, rfl⟩, congrArg (mk row.name) (owner_copied stored mem name)⟩

omit unused in
theorem owners_iff : (∀ role ∈ w.db.rolesOf realm.id,
        given (clientName (w.db.clientsOf realm.id) role.clientId) =
          clientName (w.db.clientsOf realm.id) role.clientId) ↔
      ∀ role ∈ w.db.rolesOf realm.id, ∀ c ∈ w.db.clientsOf realm.id,
        role.clientId = some c.id → c.clientId ≠ "" := by
  have ids : ((w.db.clientsOf realm.id).map (·.id)).Nodup :=
    stored.clientIds.sublist (filter_sublist.map _)
  constructor
  · intro all role isRole c isClient isId
    obtain ⟨other, isOther, same, isName⟩ := clientName_of_owner stored isRole isId
    rw [inj_on_of_nodup_map ids isOther isClient same] at isName
    exact (given_eq_some.mp ((all role isRole).trans isName)).2
  · intro all role isRole
    cases isId : role.clientId with
    | none => rfl
    | some id =>
      obtain ⟨c, isClient, rfl, isName⟩ := clientName_of_owner stored isRole isId
      rw [← isId, isName]
      exact given_eq_some.mpr ⟨rfl, all role isRole c isClient isId⟩

variable (realm name) in
theorem roles_same_iff : (∀ role, HasRole w.db realm.id role ↔
        HasRole (imported (copied w.db realm name) realmId after).db realmId role) ↔
      ∀ role ∈ w.db.rolesOf realm.id, given (clientName (w.db.clientsOf realm.id) role.clientId) =
          clientName (w.db.clientsOf realm.id) role.clientId := by
  simp only [hasRole_copied stored unused]
  constructor
  · intro same role isRole
    cases isName : clientName (w.db.clientsOf realm.id) role.clientId with
    | none => rfl
    | some client =>
      obtain ⟨other, _, isOther⟩ := (same _).mp ⟨role, isRole, rfl⟩
      have isGiven : given (clientName (w.db.clientsOf realm.id) other.clientId) = some client :=
        (congrArg clientId isOther).trans isName
      exact given_eq_some.mpr ⟨rfl, (given_eq_some.mp isGiven).2⟩
  · intro all role
    refine exists_congr fun row => and_congr_right fun isRow => ?_
    rw [all row isRow]
    exact Iff.rfl

variable (old : OldIds after)

include old

section

variable (owners : ∀ role ∈ w.db.rolesOf realm.id, given (clientName (w.db.clientsOf realm.id) role.clientId) = clientName (w.db.clientsOf realm.id) role.clientId)

include owners

theorem userHasRole_copied (uname : String) (role : RoleName) :
    UserHasRole (imported (copied w.db realm name) realmId after).db realmId uname role ↔
      ∃ user ∈ w.db.usersOf realm.id, user.username = uname ∧
        ∃ named ∈ rolesOfUser w.db realm.id user,
          ((w.db.rolesOf realm.id).map (nameOfRole (w.db.clientsOf realm.id))).reverse.find?
            (roleKey · = roleKey named) = some role := by
  rw [userHasRole_imported unused old]
  have last (named : RoleName) : (∃ e, (copied w.db realm name).roles.reverse.find?
            (fun e => roleKey e.toRoleName = roleKey named) = some e ∧
          { name := e.name, clientId := owner (copied w.db realm name) e.toRoleName } = role) ↔
        ((w.db.rolesOf realm.id).map (nameOfRole (w.db.clientsOf realm.id))).reverse.find?
          (roleKey · = roleKey named) = some role := by
    have entries : (copied w.db realm name).roles.reverse =
      ((w.db.rolesOf realm.id).map (exportRole (w.db.clientsOf realm.id))).reverse := rfl
    rw [entries, ← map_reverse, ← map_reverse, find?_map, find?_map, map_eq_some_iff]
    constructor
    · rintro ⟨_, isLast, rfl⟩
      obtain ⟨row, hit, rfl⟩ := map_eq_some_iff.mp isLast
      have listed := mem_reverse.mp (mem_of_find?_eq_some hit)
      have kept := (owner_copied stored listed name).trans (owners row listed)
      exact ⟨row, hit, congrArg (mk row.name) kept.symm⟩
    · rintro ⟨row, isLast, rfl⟩
      have listed := mem_reverse.mp (mem_of_find?_eq_some isLast)
      have kept := (owner_copied stored listed name).trans (owners row listed)
      exact ⟨_, map_eq_some_iff.mpr ⟨row, isLast, rfl⟩, congrArg (mk row.name) kept⟩
  constructor
  · rintro ⟨_, isEntry, isName, named, isNamed, isLast⟩
    obtain ⟨user, listed, rfl⟩ := mem_map.mp isEntry
    exact ⟨user, listed, isName, named, isNamed, (last named).mp isLast⟩
  · rintro ⟨user, listed, isName, named, isNamed, isLast⟩
    exact ⟨_, mem_map.mpr ⟨user, listed, rfl⟩, isName, named, isNamed, (last named).mpr isLast⟩

theorem userRoles_same_iff : (∀ uname role, UserHasRole w.db realm.id uname role ↔
        UserHasRole (imported (copied w.db realm name) realmId after).db realmId uname role) ↔
      ∀ user ∈ w.db.usersOf realm.id, ∀ role ∈ rolesOfUser w.db realm.id user,
        ((w.db.rolesOf realm.id).map (nameOfRole (w.db.clientsOf realm.id))).reverse.find?
          (roleKey · = roleKey role) = some role := by
  have before (uname : String) (role : RoleName) : UserHasRole w.db realm.id uname role ↔
      ∃ user ∈ w.db.usersOf realm.id, user.username = uname ∧
        role ∈ rolesOfUser w.db realm.id user := by
    simp only [mem_rolesOfUser stored]
    exact Iff.rfl
  simp only [before, userHasRole_copied stored unused old owners]
  constructor
  · intro same user isUser role isRole
    obtain ⟨other, isOther, sameName, named, isNamed, isLast⟩ :=
      (same user.username role).mp ⟨user, isUser, rfl, isRole⟩
    have sameKey : roleKey role = roleKey named := by simpa using find?_some isLast
    rwa [sameKey]
  · intro all uname role
    refine exists_congr fun user => and_congr_right fun isUser => and_congr_right fun _ => ?_
    constructor
    · exact fun isRole => ⟨role, isRole, all user isUser role isRole⟩
    · rintro ⟨named, isNamed, isLast⟩
      rw [all user isUser named isNamed] at isLast
      cases isLast
      exact isNamed

end

theorem userGroups_same (uname group : String) : UserHasGroup w.db realm.id uname group ↔
      UserHasGroup (imported (copied w.db realm name) realmId after).db realmId uname group := by
  rw [userHasGroup_imported unused old, copied_groupNames]
  constructor
  · rintro ⟨user, isUser, isName, row, isRow, isLink, isGroup⟩
    have mem : group ∈ (exportUser w.db (w.db.clientsOf realm.id) user).groups :=
      (mem_groupsOfUser stored).mpr ⟨row, isRow, isLink, isGroup⟩
    exact ⟨_, mem_map.mpr ⟨user, isUser, rfl⟩, isName, mem, groupsOfUser_known stored isUser mem⟩
  · rintro ⟨_, isEntry, isName, mem, _⟩
    obtain ⟨user, isUser, rfl⟩ := mem_map.mp isEntry
    exact ⟨user, isUser, isName, (mem_groupsOfUser stored).mp mem⟩

omit unused old in
variable (realm name realmId after) in
theorem scopes_same_iff {links links' : List ClientScopeLink} (ns : ScopeAssignment → List String)
    (isNames : ∀ c, ns (exportAssignment w.db (w.db.scopesOf realm.id) c) =
      scopeNames (w.db.scopesOf realm.id) links c)
    (isLinks : ∀ link ∈ links, link ∈ w.db.defaultScopes ++ w.db.optionalScopes)
    (imports : ∀ cid scope,
      ClientHas (imported (copied w.db realm name) realmId after).db realmId links' cid scope ↔
        cid ∈ (copied w.db realm name).clientNames ∧ scope ∈ (copied w.db realm name).scopeNames ∧
          ∃ asg ∈ (copied w.db realm name).clientScopeAssignments,
            asg.clientId = cid ∧ scope ∈ ns asg) :
    (∀ cid scope, ClientHas w.db realm.id links cid scope ↔
        ClientHas (imported (copied w.db realm name) realmId after).db realmId links' cid
          scope) ↔ ∀ c ∈ w.db.clientsOf realm.id, ∀ scope ∈ w.db.scopesOf realm.id,
        ⟨c.id, scope.id⟩ ∈ links → scope.name ≠ "" := by
  have kept (cid scope : String) :
      ClientHas (imported (copied w.db realm name) realmId after).db realmId links' cid scope ↔
        scope ≠ "" ∧ ClientHas w.db realm.id links cid scope := by
    rw [imports, copied_clientNames, copied_scopeNames]
    constructor
    · rintro ⟨_, _, _, isEntry, isName, mem⟩
      obtain ⟨c, isClient, rfl⟩ := mem_map.mp isEntry
      rw [isNames] at mem
      obtain ⟨named, has⟩ := (mem_scopeNames stored isLinks isClient).mp mem
      exact ⟨named, c, isClient, isName, has⟩
    · rintro ⟨named, c, isClient, isName, row, isRow, isLink, isScope⟩
      have inRealm := scope_in_realm stored isClient isRow (isLinks _ isLink)
      refine ⟨mem_map.mpr ⟨c, isClient, isName⟩, mem_map.mpr ⟨row, inRealm, isScope⟩,
        _, mem_map.mpr ⟨c, isClient, rfl⟩, isName, ?_⟩
      rw [isNames]
      exact (mem_scopeNames stored isLinks isClient).mpr ⟨named, row, isRow, isLink, isScope⟩
  simp only [kept]
  constructor
  · intro same c isClient scope isScope isLink
    exact ((same c.clientId scope.name).mp ⟨c, isClient, rfl, scope,
      (mem_filter.mp isScope).1, isLink, rfl⟩).1
  · intro named cid scope
    refine ⟨fun has => ⟨?_, has⟩, And.right⟩
    obtain ⟨c, isClient, _, row, isRow, isLink, rfl⟩ := has
    exact named c isClient row (scope_in_realm stored isClient isRow (isLinks _ isLink)) isLink

omit stored old in
theorem mappers_same {sc : String} (isScope : sc ∈ (w.db.scopesOf realm.id).map (·.name))
    (mapper : Mapper) : ScopeHas w.db realm.id sc mapper ↔
      ScopeHas (imported (copied w.db realm name) realmId after).db realmId sc mapper := by
  obtain ⟨known, isKnown, _⟩ := mem_map.mp isScope
  have mem : (copied w.db realm name).scopes =
      (w.db.scopesOf realm.id).map (exportScope w.db.protocolMappers) := by
    refine scopes_of_nonempty fun empty => ?_
    rw [map_eq_nil_iff.mp empty] at isKnown
    cases isKnown
  rw [scopeHas_imported unused, mem]
  constructor
  · rintro ⟨row, isRow, isName, isMapper⟩
    exact ⟨_, mem_map.mpr ⟨row, isRow, rfl⟩, isName,
      mem_map.mpr ⟨_, mem_filter.mpr ⟨isMapper, by simp⟩, rfl⟩⟩
  · rintro ⟨_, isEntry, isName, isMapper⟩
    obtain ⟨row, isRow, rfl⟩ := mem_map.mp isEntry
    obtain ⟨hit, isFound, rfl⟩ := mem_map.mp isMapper
    obtain ⟨isFound, isOwn⟩ := mem_filter.mp isFound
    have isOwn : hit.clientScopeId = row.id := by simpa using isOwn
    refine ⟨row, isRow, isName, ?_⟩
    rwa [← isOwn]

omit stored old in
theorem scopeNames_kept {sc : String} (isScope : sc ∈ (w.db.scopesOf realm.id).map (·.name)) :
    sc ∈ ((imported (copied w.db realm name) realmId after).db.scopesOf realmId).map (·.name) := by
  obtain ⟨row, isRow, isName⟩ := mem_map.mp isScope
  obtain ⟨i, isEntry⟩ := mem_iff_getElem?.mp (mem_map.mpr ⟨row, isRow, rfl⟩ :
      exportScope w.db.protocolMappers row ∈ (copied w.db realm name).clientScopes)
  rw [scopesOf_imported unused]
  exact mem_map.mpr ⟨_, mem_numbered.mpr ⟨i, _, scopes_of_entry isEntry, rfl⟩, isName⟩

/-- The copy is like the realm exactly when the names are enough. -/
theorem same_iff (keys : ∀ user ∈ w.db.usersOf realm.id,
    ((rolesOfUser w.db realm.id user).map roleKey).Nodup) :
    Same w.db realm.id (imported (copied w.db realm name) realmId after).db realmId ↔
      Portable w.db realm.id := by
  have clientNames : (copied w.db realm name).clientNames.Nodup := by
    rw [copied_clientNames]
    exact nodup_in_realm stored.clientKeys realm.id
  have scopeNames : (copied w.db realm name).scopeNames.Nodup := by
    rw [copied_scopeNames]
    exact nodup_in_realm stored.scopeKeys realm.id
  have groups := (groups_same_iff realm name stored unused).trans (all_linked_iff stored)
  have roles := (roles_same_iff realm name stored unused).trans (owners_iff stored)
  have defaults := scopes_same_iff realm realmId name stored after
    (·.defaultScopes) (fun _ => rfl) (fun _ isLink => mem_append_left _ isLink)
    (clientHas_imported unused old (·.defaultScopes) rfl unused.defaults clientNames scopeNames)
  have optionals := scopes_same_iff realm realmId name stored after
    (·.optionalScopes) (fun _ => rfl) (fun _ isLink => mem_append_right _ isLink)
    (clientHas_imported unused old (·.optionalScopes) rfl unused.optionals clientNames scopeNames)
  constructor
  · intro same
    have owners := roles.mp same.roles
    refine ⟨groups.mp same.groups, owners, keys,
      (userRoles_same_iff stored unused old ((owners_iff stored).mpr owners)).mp same.userRoles, ?_⟩
    intro c isClient sc isScope isLink
    rcases mem_append.mp isLink with isDefault | isOptional
    · exact defaults.mp same.defaults c isClient sc isScope isDefault
    · exact optionals.mp same.optionals c isClient sc isScope isOptional
  · intro portable
    refine
      { groups := groups.mpr portable.groups
        roles := roles.mpr portable.owners
        users := fun uname => ?_
        userRoles := (userRoles_same_iff stored unused old
          ((owners_iff stored).mpr portable.owners)).mpr portable.roles
        userGroups := userGroups_same stored unused old
        clients := fun cid => ?_
        defaults := defaults.mpr fun c isClient sc isScope isLink =>
          portable.scopes c isClient sc isScope (mem_append_left _ isLink)
        optionals := optionals.mpr fun c isClient sc isScope isLink =>
          portable.scopes c isClient sc isScope (mem_append_right _ isLink)
        scopes := fun _ isScope => scopeNames_kept unused isScope
        mappers := fun _ isScope => mappers_same unused isScope }
    · rw [usernames_imported unused]
      exact (map_map .. : (copied w.db realm name).users.map (·.username) = _) ▸ Iff.rfl
    · rw [clientNames_imported unused, copied_clientNames]

end Names

def copyRealm (realmName name : String) (overwrite : Bool) : Call Summary := do
  let doc ← exportRealm realmName true true
  importRealm (fun _ => false) { doc with name := name } overwrite

theorem OldIds.withRealm {w : World} (old : OldIds w) (doc : Document) :
    OldIds (withRealm doc w) where
  scopes row isRow := (old.scopes row isRow).trans (lt_succ_self _)
  clients row isRow := (old.clients row isRow).trans (lt_succ_self _)
  roles row isRow := (old.roles row isRow).trans (lt_succ_self _)
  groups row isRow := (old.groups row isRow).trans (lt_succ_self _)
  users row isRow := (old.users row isRow).trans (lt_succ_self _)

section Copy

variable {w : World} {realm : RealmRow} {name : String} {ow : Bool}

theorem copyRealm_run (known : w.db.realms.find? (·.name = realm.name) = some realm)
    (named : name ≠ "") (free : w.db.realms.find? (·.name = name) = none) :
    (copyRealm realm.name name ow).run w =
      (fillRealm (fun _ => false) (copied w.db realm name)).run w := by
  have exported : (exportRealm realm.name true true).run w =
      (.ok (exportData w.db realm true true), w) := by
    simp [exportRealm, known, orFail]
  rw [copyRealm, run_bind, exported]
  exact importRealm_new (by simp [exportData]) named rfl free

theorem copy_is_new {copy : RealmRow} (free : w.db.realms.find? (·.name = name) = none)
    (mem : copy ∈ w.db.realms ++ [newRealm (copied w.db realm name) w.supply])
    (isName : copy.name = name) : copy.id = w.supply := by
  rcases mem_append.mp mem with isOld | isNew
  · have other := find?_eq_none.mp free copy isOld
    simp [isName] at other
  · rw [mem_singleton.mp isNew]
    rfl

end Copy

/-- An export and an import make a realm like the first one exactly when the groups come after
their parents, no two roles that matter share a key and no name that is needed is empty. -/
theorem round_trip_iff (w : World) (realm : RealmRow) (name : String) (ow : Bool)
    (stored : Stored w) (known : w.db.realms.find? (·.name = realm.name) = some realm)
    (named : name ≠ "") (free : w.db.realms.find? (·.name = name) = none) :
    (∃ summary after, (copyRealm realm.name name ow).run w = (.ok summary, after) ∧
        ∃ copy ∈ after.db.realms, copy.name = name ∧ Same w.db realm.id after.db copy.id) ↔
      Portable w.db realm.id := by
  have unused := stored.fresh.unused (copied w.db realm name)
  have old := stored.old.withRealm (copied w.db realm name)
  have decided : (fillRealm (fun _ => false) (copied w.db realm name)).Decides _ _ _ _ _ :=
    (fillRealm_decide stored.fresh free rfl rfl).congr (importable_copied stored name)
  rw [copyRealm_run known named free]
  constructor
  · rintro ⟨summary, after, runs, copy, mem, isName, same⟩
    have keys := decided.result.mp ⟨summary, after, runs⟩
    have isAfter := (decided.runs keys).symm.trans runs
    obtain ⟨-, rfl⟩ := Prod.mk.inj isAfter
    rw [copy_is_new free mem isName] at same
    exact (same_iff stored unused old keys).mp same
  · intro portable
    refine ⟨_, _, decided.runs portable.keys, newRealm (copied w.db realm name) w.supply,
      mem_append_right _ (List.mem_singleton_self _), rfl, ?_⟩
    exact (same_iff stored unused old portable.keys).mpr portable

def tidyWorld : World where
  db :=
    { realms := [{ id := 0, name := "acme" }]
      clients := [{ id := 1, realmId := 0, clientId := "app" }]
      roles := [{ id := 2, realmId := 0, clientId := some 1, name := "admin" }]
      groups := [{ id := 3, realmId := 0, name := "a" },
        { id := 4, realmId := 0, name := "b", parentId := some 3 },
        { id := 5, realmId := 0, name := "c", parentId := some 4 }]
      clientScopes := [{ id := 6, realmId := 0, name := "email" }]
      protocolMappers := [⟨6, { name := "email", mapperType := "attribute" }⟩]
      defaultScopes := [⟨1, 6⟩]
      users := [{ id := 7, realmId := 0, username := "ada" }]
      userRoles := [⟨7, 2⟩]
      userGroups := [⟨7, 5⟩] }
  supply := 8

def deepWorld : World where
  db :=
    { realms := [{ id := 0, name := "acme" }]
      groups := [{ id := 1, realmId := 0, name := "c", parentId := some 2 },
        { id := 2, realmId := 0, name := "b", parentId := some 3 },
        { id := 3, realmId := 0, name := "a" }] }
  supply := 4

theorem tidyWorld_stored : Stored tidyWorld := by
  constructor
  case fresh => constructor <;> simp [tidyWorld]
  case old => constructor <;> simp [tidyWorld]
  all_goals simp [tidyWorld, roleKeys]

theorem deepWorld_stored : Stored deepWorld := by
  constructor
  case fresh => constructor <;> simp [deepWorld]
  case old => constructor <;> simp [deepWorld]
  all_goals simp [deepWorld]

theorem tidyWorld_portable : Portable tidyWorld.db 0 where
  groups pre group rest split parent isParent isId := by
    have groups : tidyWorld.db.groupsOf 0 = tidyWorld.db.groups := rfl
    rw [groups] at split isParent
    simp only [tidyWorld, mem_cons, not_mem_nil, or_false] at split isParent
    rcases pre with _ | ⟨first, _ | ⟨snd, _ | ⟨third, pre⟩⟩⟩
    · obtain ⟨rfl, -⟩ := cons.inj split
      cases isId
    · simp only [cons_append, nil_append, cons.injEq] at split
      obtain ⟨rfl, rfl, -⟩ := split
      rcases isParent with rfl | rfl | rfl <;> simp at isId ⊢
    · simp only [cons_append, nil_append, cons.injEq] at split
      obtain ⟨rfl, rfl, rfl, -⟩ := split
      rcases isParent with rfl | rfl | rfl <;> simp at isId ⊢
    · simp at split
  owners := by decide
  keys := by decide
  roles := by decide
  scopes := by decide

/-- A realm that survives. -/
theorem tidy_realm_is_copied : ∃ summary after,
    (copyRealm "acme" "copy" false).run tidyWorld = (.ok summary, after) ∧
      ∃ copy ∈ after.db.realms, copy.name = "copy" ∧ Same tidyWorld.db 0 after.db copy.id :=
  (round_trip_iff tidyWorld { id := 0, name := "acme" } "copy" false tidyWorld_stored rfl (by decide)
    rfl).mpr tidyWorld_portable

/-- A realm that loses the parent of a group. -/
theorem deep_group_is_lost : Stored deepWorld ∧ ¬ ∃ summary after,
    (copyRealm "acme" "copy" false).run deepWorld = (.ok summary, after) ∧
      ∃ copy ∈ after.db.realms, copy.name = "copy" ∧ Same deepWorld.db 0 after.db copy.id := by
  refine ⟨deepWorld_stored, ?_⟩
  rintro ⟨summary, after, runs, copy, mem, isName, same⟩
  obtain rfl : ((copyRealm "acme" "copy" false).run deepWorld).2 = after := by rw [runs]
  have realms : ((copyRealm "acme" "copy" false).run deepWorld).2.db.realms.map
      (fun row => (row.name, row.id)) = [("acme", 0), ("copy", 4)] := by decide +kernel
  have isCopy : copy.id = 4 := by
    have isPair : (copy.name, copy.id) ∈ [("acme", 0), ("copy", 4)] := by
      rw [← realms]
      exact mem_map.mpr ⟨copy, mem, rfl⟩
    rw [isName] at isPair
    simpa using isPair
  have groups : (((copyRealm "acme" "copy" false).run deepWorld).2.db.groupsOf 4).map
      (fun g => (g.name, parentName
        (((copyRealm "acme" "copy" false).run deepWorld).2.db.groupsOf 4) g)) =
        [("a", none), ("c", none), ("b", some "a")] := by decide +kernel
  have pre : HasGroup deepWorld.db 0 "c" (some "b") := ⟨_, mem_cons_self, rfl, rfl⟩
  obtain ⟨g, isGroup, isGroupName, isParent⟩ := (same.groups "c" (some "b")).mp pre
  rw [isCopy] at isGroup isParent
  have isPair : ("c", some "b") ∈ [("a", none), ("c", none), ("b", some "a")] := by
    rw [← groups]
    exact mem_map.mpr ⟨g, isGroup, by rw [isGroupName, isParent]⟩
  simp at isPair

end Idenplane.Realms.Transfer
