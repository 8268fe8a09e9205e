import Idenplane.Realms.ImportSafety

/-! # What a realm looks like

The rows of a realm, with names in the place of ids, and what they are after an import: a function
of the document.
-/

namespace Idenplane.Realms.Transfer

open Atomic Auth Admin Properties List Option Rows Document

section Shape

variable (db : Database) (realmId : Nat)

def nameOfRole (clients : List Client) (role : Role) : RoleName where
  name := role.name
  clientId := clientName clients role.clientId

def HasGroup (name : String) (parent : Option String) : Prop :=
  ∃ group ∈ db.groupsOf realmId, group.name = name ∧ parentName (db.groupsOf realmId) group = parent

def HasRole (role : RoleName) : Prop :=
  ∃ row ∈ db.rolesOf realmId, nameOfRole (db.clientsOf realmId) row = role

def UserHasRole (username : String) (role : RoleName) : Prop :=
  ∃ user ∈ db.usersOf realmId, user.username = username ∧
    ∃ row ∈ db.roles, ⟨user.id, row.id⟩ ∈ db.userRoles ∧ nameOfRole (db.clientsOf realmId) row = role

def UserHasGroup (username group : String) : Prop :=
  ∃ user ∈ db.usersOf realmId, user.username = username ∧
    ∃ row ∈ db.groups, ⟨user.id, row.id⟩ ∈ db.userGroups ∧ row.name = group

def ClientHas (links : List ClientScopeLink) (clientId scope : String) : Prop :=
  ∃ client ∈ db.clientsOf realmId, client.clientId = clientId ∧
    ∃ row ∈ db.clientScopes, ⟨client.id, row.id⟩ ∈ links ∧ row.name = scope

def ScopeHas (scope : String) (mapper : Mapper) : Prop :=
  ∃ row ∈ db.scopesOf realmId, row.name = scope ∧ ⟨row.id, mapper⟩ ∈ db.protocolMappers

end Shape

section NewRows

variable {α ρ : Type}

theorem filter_new (owner : ρ → Nat) {realmId : Nat} {rows new : List ρ}
    (old : ∀ row ∈ rows, owner row ≠ realmId) (ours : ∀ row ∈ new, owner row = realmId) :
    (rows ++ new).filter (owner · = realmId) = new := by
  have gone : rows.filter (owner · = realmId) = [] := by
    simpa using old
  have kept : new.filter (owner · = realmId) = new := by
    simpa using ours
  rw [filter_append, gone, kept, nil_append]

variable {row : Nat → α → ρ} {id : ρ → Nat}

theorem numbered_ids (isId : ∀ n e, id (row n e) = n) (base : Nat) (es : List α) :
    (numbered row base es).map id = range' base es.length := by
  induction es using reverseRecOn with
  | nil => rfl
  | append_singleton es e ih => simp [ih, isId, range'_concat]

variable {es : List α}

theorem find_numbered (isId : ∀ n e, id (row n e) = n)
    {base i : Nat} {e : α} (isEntry : es[i]? = some e) :
    (numbered row base es).find? (id · = base + i) = some (row (base + i) e) := by
  have nodup : ((numbered row base es).map id).Nodup := by
    rw [numbered_ids isId]
    exact nodup_range'
  have found := Table.find?_of_mem nodup (mem_numbered.mpr ⟨i, e, isEntry, rfl⟩)
  rwa [isId] at found

variable {entry : α}

theorem mem_new (isId : ∀ n entry, id (row n entry) = n)
    {rows : List ρ} {base bound i : Nat} (old : ∀ row ∈ rows, id row < bound) (later : bound ≤ base) (isEntry : es[i]? = some entry) {hit : ρ} :
    hit ∈ rows ++ numbered row base es ∧ id hit = base + i ↔ hit = row (base + i) entry := by
  constructor
  · rintro ⟨mem, same⟩
    rcases mem_append.mp mem with isOld | isNew
    · have := old hit isOld
      omega
    · obtain ⟨j, other, isOther, rfl⟩ := mem_numbered.mp isNew
      rw [isId] at same
      obtain rfl : j = i := by omega
      rw [isEntry] at isOther
      cases isOther
      rfl
  · rintro rfl
    exact ⟨mem_append_right _ (mem_numbered.mpr ⟨i, entry, isEntry, rfl⟩), isId _ _⟩

variable {key : α → String}

theorem get_last {base id : Nat} {name : String}
    (hit : get (idsFrom base (es.map key)) name = some id) :
    ∃ i entry, id = base + i ∧ es[i]? = some entry ∧
      es.reverse.find? (key · = name) = some entry := by
  induction es using reverseRecOn with
  | nil => cases hit
  | append_singleton es last ih =>
    rw [map_append, map_singleton, idsFrom_snoc, length_map] at hit
    by_cases same : name = key last
    · rw [same, get_set_self] at hit
      exact ⟨es.length, last, (some.inj hit).symm, by simp, by simp [same]⟩
    · rw [get_set_of_ne same] at hit
      obtain ⟨i, entry, isId, isEntry, isLast⟩ := ih hit
      have small : i < es.length := (List.getElem?_eq_some_iff.mp isEntry).1
      refine ⟨i, entry, isId, by rwa [getElem?_append_left small], ?_⟩
      simpa [Ne.symm same] using isLast

theorem exists_get_of_last {entries : List α} {name : String}
    (isLast : entries.reverse.find? (key · = name) = some entry) (base : Nat) :
    ∃ i, get (idsFrom base (entries.map key)) name = some (base + i) ∧ entries[i]? = some entry := by
  have mem : entry ∈ entries := mem_reverse.mp (mem_of_find?_eq_some isLast)
  have isName : key entry = name := by simpa using find?_some isLast
  have known := ((indexes_idsFrom base (entries.map key)).known name).mpr
    (mem_map.mpr ⟨entry, mem, isName⟩)
  obtain ⟨id, hit⟩ := isSome_iff_exists.mp known
  obtain ⟨i, other, rfl, isEntry, isLast'⟩ := get_last hit
  rw [isLast] at isLast'
  cases isLast'
  exact ⟨i, hit, isEntry⟩

theorem last_of_nodup (nodup : (es.map key).Nodup) (mem : entry ∈ es) :
    es.reverse.find? (key · = key entry) = some entry :=
  Table.find?_of_mem (by rw [map_reverse]; exact nodup_reverse.mpr nodup)
    (mem_reverse.mpr mem)

end NewRows

section Growth

variable {α : Type} (skip : α → Bool) (name : α → String) (new : Ids → Nat → α → Group) (base : Nat)
  (ids : Ids)

def grownTo (items : List α) : Ids × List Group :=
  items.foldl (grow skip name new base) (ids, [])

@[simp] theorem grownTo_nil : grownTo skip name new base ids [] = (ids, []) := rfl

theorem grownTo_snoc (xs : List α) (item : α) : grownTo skip name new base ids (xs ++ [item]) =
      grow skip name new base (grownTo skip name new base ids xs) item := by
  rw [grownTo, foldl_append]
  rfl

theorem mem_grownTo {row : Group} {xs : List α} : row ∈ (grownTo skip name new base ids xs).2 ↔
      ∃ pre item rest, xs = pre ++ item :: rest ∧ skip item = false ∧
        row = new (grownTo skip name new base ids pre).1
          (base + (grownTo skip name new base ids pre).2.length) item := by
  induction xs using reverseRecOn with
  | nil => simp
  | append_singleton xs last ih =>
    rw [grownTo_snoc]
    have old (isOld : row ∈ (grownTo skip name new base ids xs).2) :
        ∃ pre item rest, xs ++ [last] = pre ++ item :: rest ∧ skip item = false ∧
          row = new (grownTo skip name new base ids pre).1
            (base + (grownTo skip name new base ids pre).2.length) item := by
      obtain ⟨pre, item, rest, rfl, kept, isRow⟩ := ih.mp isOld
      exact ⟨pre, item, rest ++ [last], by simp, kept, isRow⟩
    constructor
    · intro mem
      unfold grow at mem
      split at mem
      case isTrue => exact old mem
      case isFalse kept =>
        rcases mem_append.mp mem with isOld | isNew
        · exact old isOld
        · exact ⟨xs, last, [], rfl, by simpa using kept, mem_singleton.mp isNew⟩
    · rintro ⟨pre, item, rest, split, kept, isRow⟩
      rcases eq_nil_or_concat rest with rfl | ⟨rest, last', rfl⟩
      · obtain ⟨rfl, same⟩ := append_inj' split rfl
        obtain rfl : last = item := by simpa using same
        simp [grow, kept, isRow]
      · have longer : xs ++ [last] = (pre ++ item :: rest) ++ [last'] := by simpa using split
        obtain ⟨rfl, -⟩ := append_inj' longer rfl
        have isOld := ih.mpr ⟨pre, item, rest, rfl, kept, isRow⟩
        unfold grow
        split
        case isTrue => exact isOld
        case isFalse => exact mem_append_left _ isOld

variable {skip name new base ids}

theorem grownTo_ids (isId : ∀ ids id item, (new ids id item).id = id) (xs : List α) :
    (grownTo skip name new base ids xs).2.map (·.id) =
      range' base (grownTo skip name new base ids xs).2.length := by
  induction xs using reverseRecOn with
  | nil => rfl
  | append_singleton xs last ih =>
    rw [grownTo_snoc]
    unfold grow
    split
    case isTrue => exact ih
    case isFalse => simp [ih, isId, range'_concat]

theorem grownTo_points {xs : List α} {text : String} {id : Nat}
    (hit : get (grownTo skip name new base ids xs).1 text = some id)
    (isId : ∀ ids id item, (new ids id item).id = id)
    (isName : ∀ ids id item, (new ids id item).name = name item) : get ids text = some id ∨
      ∃ row ∈ (grownTo skip name new base ids xs).2, row.id = id ∧ row.name = text := by
  induction xs using reverseRecOn with
  | nil => exact .inl hit
  | append_singleton xs last ih =>
    rw [grownTo_snoc] at hit ⊢
    unfold grow at hit ⊢
    split at hit
    case isTrue skipped =>
      rw [if_pos skipped]
      exact ih hit
    case isFalse kept =>
      rw [if_neg kept]
      by_cases same : text = name last
      · rw [same, get_set_self] at hit
        refine .inr ⟨_, mem_append_right _ (mem_singleton_self _), ?_, ?_⟩
        · rw [isId]
          exact some.inj hit
        · rw [isName, same]
      · rw [get_set_of_ne same] at hit
        refine (ih hit).imp_right ?_
        rintro ⟨row, mem, known⟩
        exact ⟨row, mem_append_left _ mem, known⟩

theorem mem_grownTo_append {row : Group} {pre : List α}
    (mem : row ∈ (grownTo skip name new base ids pre).2) (rest : List α) :
    row ∈ (grownTo skip name new base ids (pre ++ rest)).2 := by
  obtain ⟨front, item, back, rfl, kept, isRow⟩ := (mem_grownTo ..).mp mem
  exact (mem_grownTo ..).mpr ⟨front, item, back ++ rest, by simp, kept, isRow⟩

end Growth

structure OldIds (w : World) : Prop where
  scopes : ∀ row ∈ w.db.clientScopes, row.id < w.supply
  clients : ∀ row ∈ w.db.clients, row.id < w.supply
  roles : ∀ row ∈ w.db.roles, row.id < w.supply
  groups : ∀ row ∈ w.db.groups, row.id < w.supply
  users : ∀ row ∈ w.db.users, row.id < w.supply

section Imported

variable {doc : Document} {realmId : Nat} {w : World} (unused : Unused realmId w) (old : OldIds w)

def owner (doc : Document) (role : RoleName) : Option String :=
  (given role.clientId).filter (doc.clientNames.contains ·)

theorem userRoles_usersAdded (roleIds groupIds : Ids) (us : List ImportedUser) :
    (usersAdded roleIds groupIds realmId w us).db.userRoles =
      w.db.userRoles ++ (numbered (roleLinks roleIds) w.supply us).flatten := rfl

theorem userGroups_usersAdded (roleIds groupIds : Ids) (us : List ImportedUser) :
    (usersAdded roleIds groupIds realmId w us).db.userGroups =
      w.db.userGroups ++ (numbered (groupLinks groupIds) w.supply us).flatten := rfl

include unused

theorem clientsOf_imported : (imported doc realmId w).db.clientsOf realmId =
    numbered (clientRow realmId) (scopesIn doc realmId w).supply doc.clients := by
  refine filter_new Client.realmId unused.clients fun row isRow => ?_
  obtain ⟨i, c, _, rfl⟩ := mem_numbered.mp isRow
  rfl

theorem rolesOf_imported : (imported doc realmId w).db.rolesOf realmId =
    numbered (roleRow (clientIdsIn doc realmId w) realmId)
      (clientsIn doc realmId w).supply doc.roles := by
  refine filter_new Role.realmId unused.roles fun row isRow => ?_
  obtain ⟨i, role, _, rfl⟩ := mem_numbered.mp isRow
  rfl

theorem scopesOf_imported : (imported doc realmId w).db.scopesOf realmId =
    numbered (scopeRow realmId) w.supply doc.scopes := by
  refine filter_new ScopeRow.realmId unused.scopes fun row isRow => ?_
  obtain ⟨i, sc, _, rfl⟩ := mem_numbered.mp isRow
  rfl

theorem usersOf_imported : (imported doc realmId w).db.usersOf realmId =
    numbered (userRow realmId) (assignmentsIn doc realmId w).supply doc.users := by
  refine filter_new User.realmId unused.users fun row isRow => ?_
  obtain ⟨i, u, _, rfl⟩ := mem_numbered.mp isRow
  rfl

theorem nameOfRole_imported (id : Nat) (role : ImportedRole) :
    nameOfRole ((imported doc realmId w).db.clientsOf realmId)
        (roleRow (clientIdsIn doc realmId w) realmId id role) =
      { name := role.name, clientId := owner doc role.toRoleName } := by
  have indexes := indexes_idsFrom (scopesIn doc realmId w).supply doc.clientNames
  have c : clientName ((imported doc realmId w).db.clientsOf realmId)
      (dbClientId (clientIdsIn doc realmId w) role.toRoleName) = owner doc role.toRoleName := by
    unfold dbClientId owner
    cases isGiven : given role.clientId with
    | none => rfl
    | some name =>
      have known := indexes.known name
      cases hit : get (clientIdsIn doc realmId w) name with
      | none =>
        have missing : name ∉ doc.clientNames := by
          rw [← known]
          simpa [clientIdsIn, clientNames] using hit
        rw [bind_some, hit, filter_some_neg (by simpa using missing)]
        rfl
      | some id =>
        obtain ⟨i, c, rfl, isClient, isLast⟩ := get_last hit
        have isName : c.clientId = name := by simpa using find?_some isLast
        have mem : name ∈ doc.clientNames :=
          mem_map.mpr ⟨c, mem_of_getElem? isClient, isName⟩
        rw [bind_some, hit, filter_some_pos (by simpa using mem), clientName,
          bind_some, clientsOf_imported unused, find_numbered (fun _ _ => rfl) isClient]
        exact congrArg some isName
  exact congrArg (RoleName.mk role.name) c

theorem hasRole_imported (role : RoleName) : HasRole (imported doc realmId w).db realmId role ↔
      ∃ e ∈ doc.roles, { name := e.name, clientId := owner doc e.toRoleName } = role := by
  unfold HasRole
  rw [rolesOf_imported unused]
  constructor
  · rintro ⟨row, isRow, isName⟩
    obtain ⟨i, e, isEntry, rfl⟩ := mem_numbered.mp isRow
    rw [nameOfRole_imported unused] at isName
    exact ⟨e, mem_of_getElem? isEntry, isName⟩
  · rintro ⟨e, mem, isName⟩
    obtain ⟨i, isEntry⟩ := mem_iff_getElem?.mp mem
    exact ⟨_, mem_numbered.mpr ⟨i, e, isEntry, rfl⟩, (nameOfRole_imported unused _ _).trans isName⟩

theorem usernames_imported : ((imported doc realmId w).db.usersOf realmId).map (·.username) =
      doc.users.map (·.username) := by
  rw [usersOf_imported unused]
  apply map_numbered
  exact fun _ _ => rfl

theorem clientNames_imported : ((imported doc realmId w).db.clientsOf realmId).map (·.clientId) =
      doc.clientNames := by
  rw [clientsOf_imported unused]
  apply map_numbered
  exact fun _ _ => rfl

omit unused in
theorem world_le_users : w.supply ≤ (assignmentsIn doc realmId w).supply :=
  (supply_grows doc realmId w).1.trans (supply_grows doc realmId w).2

omit unused in
theorem mem_links {ρ : Type} (userOf : ρ → Nat) {links : Nat → ImportedUser → List ρ}
    (isUser : ∀ id user, ∀ link ∈ links id user, userOf link = id) {rows : List ρ}
    (old : ∀ link ∈ rows, userOf link < w.supply) {i : Nat} {user : ImportedUser}
    (hit : doc.users[i]? = some user) {link : ρ}
    (isLink : userOf link = (assignmentsIn doc realmId w).supply + i) :
    link ∈ rows ++ (numbered links (assignmentsIn doc realmId w).supply doc.users).flatten ↔
      link ∈ links ((assignmentsIn doc realmId w).supply + i) user := by
  have later : w.supply ≤ (assignmentsIn doc realmId w).supply := world_le_users
  rw [mem_append, mem_flatten]
  constructor
  · rintro (isOld | ⟨added, isAdded, mem⟩)
    · have := old link isOld
      omega
    · obtain ⟨j, other, isOther, rfl⟩ := mem_numbered.mp isAdded
      have := isUser _ _ _ mem
      obtain rfl : j = i := by omega
      rw [hit] at isOther
      cases isOther
      exact mem
  · exact fun mem => .inr ⟨_, mem_numbered.mpr ⟨i, user, hit, rfl⟩, mem⟩

omit unused in
theorem scopes_of_entry {i : Nat} {scope : ImportedScope}
    (hit : doc.clientScopes[i]? = some scope) : doc.scopes[i]? = some scope := by
  unfold scopes
  cases isScopes : doc.clientScopes with
  | nil => simp [isScopes] at hit
  | cons first rest => simpa [isScopes] using hit

omit unused in
theorem scopes_of_nonempty (some_ : doc.clientScopes ≠ []) : doc.scopes = doc.clientScopes := by
  simp [scopes, some_]

include old

theorem userHasRole_imported (uname : String) (role : RoleName) :
    UserHasRole (imported doc realmId w).db realmId uname role ↔
      ∃ u ∈ doc.users, u.username = uname ∧ ∃ named ∈ u.roles, ∃ e,
        doc.roles.reverse.find? (fun e => roleKey e.toRoleName = roleKey named) = some e ∧
          { name := e.name, clientId := owner doc e.toRoleName } = role := by
  have later : w.supply ≤ (clientsIn doc realmId w).supply :=
    (supply_grows doc realmId w).1.trans (le_add_right ..)
  have links {i : Nat} {u : ImportedUser} (hit : doc.users[i]? = some u) (id : Nat) :
      (⟨(assignmentsIn doc realmId w).supply + i, id⟩ : UserRole) ∈
          (imported doc realmId w).db.userRoles ↔
        ∃ named ∈ u.roles, get (roleIdsIn doc realmId w) (roleKey named) = some id := by
    have rows : (assignmentsIn doc realmId w).db.userRoles = w.db.userRoles :=
      (providersIn_rest doc realmId w).2.2.2.2.1
    rw [imported, userRoles_usersAdded, rows, mem_links UserRole.userId ?_ unused.userRoles hit rfl]
    · simp [roleLinks]
    · intro id u link isLink
      obtain ⟨_, _, isLink⟩ := mem_filterMap.mp isLink
      obtain ⟨_, _, rfl⟩ := map_eq_some_iff.mp isLink
      rfl
  constructor
  · rintro ⟨row, isUser, isName, hit, isRow, isLink, isRole⟩
    rw [usersOf_imported unused] at isUser
    obtain ⟨i, u, isEntry, rfl⟩ := mem_numbered.mp isUser
    obtain ⟨named, isNamed, isId⟩ := (links isEntry _).mp isLink
    obtain ⟨j, e, same, isEntry', isLast⟩ := get_last isId
    have isFound : hit = _ := (mem_new (fun _ _ => rfl) old.roles later isEntry').mp ⟨isRow, same⟩
    rw [isFound, nameOfRole_imported unused] at isRole
    exact ⟨u, mem_of_getElem? isEntry, isName, named, isNamed, e, isLast, isRole⟩
  · rintro ⟨u, mem, isName, named, isNamed, e, isLast, isRole⟩
    obtain ⟨i, isEntry⟩ := mem_iff_getElem?.mp mem
    obtain ⟨j, isId, isEntry'⟩ :=
      exists_get_of_last isLast (clientsIn doc realmId w).supply
    have isRow : roleRow (clientIdsIn doc realmId w) realmId
        ((clientsIn doc realmId w).supply + j) e ∈ (imported doc realmId w).db.roles :=
      mem_append_right _ (mem_numbered.mpr ⟨j, e, isEntry', rfl⟩)
    refine ⟨userRow realmId ((assignmentsIn doc realmId w).supply + i) u, ?_, isName, _,
      isRow, (links isEntry _).mpr ⟨named, isNamed, isId⟩, ?_⟩
    · rw [usersOf_imported unused]
      exact mem_numbered.mpr ⟨i, u, isEntry, rfl⟩
    · exact (nameOfRole_imported unused _ _).trans isRole

theorem clientHas_imported {links : List ClientScopeLink} {rows : List ClientScopeLink}
    (ns : ScopeAssignment → List String)
    (isLinks : links = rows ++ doc.clientScopeAssignments.flatMap fun assignment =>
      linksOf (clientIdsIn doc realmId w) (scopeIdsIn doc w) assignment.clientId
        (ns assignment)) (oldLinks : ∀ link ∈ rows, link.clientId < w.supply)
    (clientNames : doc.clientNames.Nodup) (scopeNames : doc.scopeNames.Nodup)
    (clientId scope : String) :
    ClientHas (imported doc realmId w).db realmId links clientId scope ↔
      clientId ∈ doc.clientNames ∧ scope ∈ doc.scopeNames ∧
        ∃ assignment ∈ doc.clientScopeAssignments, assignment.clientId = clientId ∧
          scope ∈ ns assignment := by
  have later : w.supply ≤ (scopesIn doc realmId w).supply :=
    (supply_grows doc realmId w).1
  unfold ClientHas
  rw [clientsOf_imported unused]
  constructor
  · rintro ⟨row, isClient, isName, hit, isRow, isLink, isScope⟩
    obtain ⟨i, c, isEntry, rfl⟩ := mem_numbered.mp isClient
    rw [isLinks] at isLink
    rcases mem_append.mp isLink with isOld | isNew
    · have := oldLinks _ isOld
      have : (scopesIn doc realmId w).supply + i < w.supply := this
      omega
    · obtain ⟨assignment, mem, isLink⟩ := mem_flatMap.mp isNew
      unfold linksOf at isLink
      split at isLink
      case h_1 => cases isLink
      case h_2 id isId =>
        obtain ⟨name, isListed, isLink⟩ := mem_filterMap.mp isLink
        obtain ⟨scopeId, isScopeId, same⟩ := map_eq_some_iff.mp isLink
        obtain ⟨isClientId, isFound⟩ := ClientScopeLink.mk.inj same
        obtain ⟨i', c', same', isEntry', isLast⟩ := get_last isId
        have isIndex : (scopesIn doc realmId w).supply + i' =
            (scopesIn doc realmId w).supply + i := same'.symm.trans isClientId
        obtain rfl : i' = i := by omega
        obtain rfl : c = c' := some.inj (isEntry.symm.trans isEntry')
        have isAssigned : c.clientId = assignment.clientId := by
          simpa using find?_some isLast
        obtain ⟨j, e, sameScope, isEntry'', isLast'⟩ := get_last isScopeId
        have isName' : e.name = name := by simpa using find?_some isLast'
        have isFound' : hit = _ := (mem_new (fun _ _ => rfl) old.scopes (Nat.le_refl _)
          (scopes_of_entry isEntry'')).mp ⟨isRow, isFound.symm.trans sameScope⟩
        have isScope' : e.name = scope := by simpa [isFound', scopeRow] using isScope
        have isClientName : c.clientId = clientId := isName
        refine ⟨mem_map.mpr ⟨c, mem_of_getElem? isEntry, isClientName⟩,
          mem_map.mpr ⟨e, mem_of_getElem? isEntry'', isScope'⟩, assignment, mem,
          isAssigned.symm.trans isClientName, ?_⟩
        rwa [← isScope', isName']
  · rintro ⟨isClient, isScope, assignment, mem, rfl, isListed⟩
    obtain ⟨c, isClient, isName⟩ := mem_map.mp isClient
    obtain ⟨e, isEntry, isScopeName⟩ := mem_map.mp isScope
    obtain ⟨i, isId, isIndex⟩ := exists_get_of_last (last_of_nodup clientNames isClient)
      (scopesIn doc realmId w).supply
    obtain ⟨j, isId', isIndex'⟩ := exists_get_of_last (last_of_nodup scopeNames isEntry) w.supply
    refine ⟨_, mem_numbered.mpr ⟨i, c, isIndex, rfl⟩, isName,
      scopeRow realmId (w.supply + j) e, ?_, ?_, isScopeName⟩
    · exact mem_append_right _ (mem_numbered.mpr ⟨j, e, scopes_of_entry isIndex', rfl⟩)
    · rw [isLinks]
      refine mem_append_right _ (mem_flatMap.mpr ⟨assignment, mem, ?_⟩)
      rw [isName] at isId
      rw [isScopeName] at isId'
      unfold linksOf
      rw [show get (clientIdsIn doc realmId w) assignment.clientId = some _ from isId]
      exact mem_filterMap.mpr ⟨scope, isListed, map_eq_some_iff.mpr ⟨_, isId', rfl⟩⟩

omit old in
theorem scopeHas_imported (sc : String) (mapper : Mapper) :
    ScopeHas (imported doc realmId w).db realmId sc mapper ↔
      ∃ e ∈ doc.scopes, e.name = sc ∧ mapper ∈ e.protocolMappers := by
  unfold ScopeHas
  rw [scopesOf_imported unused]
  constructor
  · rintro ⟨row, isRow, isName, isMapper⟩
    obtain ⟨i, e, isEntry, rfl⟩ := mem_numbered.mp isRow
    rcases mem_append.mp isMapper with isOld | isNew
    · exact absurd (unused.mappers _ isOld) (Nat.not_lt.mpr (le_add_right ..))
    · obtain ⟨added, isAdded, mem⟩ := mem_flatten.mp isNew
      obtain ⟨j, other, isOther, rfl⟩ := mem_numbered.mp isAdded
      obtain ⟨mapper', isMapper, same⟩ := mem_map.mp mem
      obtain ⟨isId, rfl⟩ := MapperRow.mk.inj same
      obtain rfl : j = i := Nat.add_left_cancel isId
      obtain rfl : e = other := some.inj (isEntry.symm.trans isOther)
      exact ⟨e, mem_of_getElem? isEntry, isName, isMapper⟩
  · rintro ⟨e, mem, isName, isMapper⟩
    obtain ⟨i, isEntry⟩ := mem_iff_getElem?.mp mem
    refine ⟨_, mem_numbered.mpr ⟨i, e, isEntry, rfl⟩, isName, mem_append_right _ ?_⟩
    exact mem_flatten.mpr ⟨_, mem_numbered.mpr ⟨i, e, isEntry, rfl⟩,
      mem_map.mpr ⟨mapper, isMapper, rfl⟩⟩

end Imported

section Groups

variable {doc : Document} {realmId : Nat} {w : World}

/-- The parent that a group finds: a group of the first pass, or one further up in the list. -/
def linked (groups before : List ImportedGroup) (group : ImportedGroup) : Option String :=
  (given group.parentName).filter fun parent =>
    groups.any (fun other => isRoot other && other.name = parent) ||
      before.any fun other => other.name = parent

def idsAt (doc : Document) (realmId : Nat) (w : World) (before : List ImportedGroup) :
    Ids × List Group :=
  grownTo isRoot (·.name) (childRow realmId) (rootsIn doc realmId w).supply
    (roots doc realmId (rolesIn doc realmId w).supply).1 before

theorem groupsOf_imported (unused : Unused realmId w) :
    (imported doc realmId w).db.groupsOf realmId =
      (roots doc realmId (rolesIn doc realmId w).supply).2 ++
        (idsAt doc realmId w doc.groups).2 := by
  have rows : (imported doc realmId w).db.groups = w.db.groups ++
      (roots doc realmId (rolesIn doc realmId w).supply).2 ++
        (idsAt doc realmId w doc.groups).2 := rfl
  rw [Database.groupsOf, rows, append_assoc]
  refine filter_new Group.realmId unused.groups fun row isRow => ?_
  rcases mem_append.mp isRow with isFirst | isSecond
  · exact roots_ours _ _ isFirst
  · obtain ⟨pre, g, rest, _, _, rfl⟩ := (mem_grownTo ..).mp isSecond
    rfl

theorem roots_eq_grownTo (base : Nat) : roots doc realmId base =
    grownTo (!isRoot ·) (·.name) (fun _ => groupRow none realmId) base [] doc.groups := rfl

theorem groups_range (doc : Document) (unused : Unused realmId w) :
    ∃ n, ((imported doc realmId w).db.groupsOf realmId).map (·.id) =
      range' (rolesIn doc realmId w).supply n := by
  have first : (roots doc realmId (rolesIn doc realmId w).supply).2.map (·.id) =
      range' (rolesIn doc realmId w).supply
        (roots doc realmId (rolesIn doc realmId w).supply).2.length := by
    exact grownTo_ids (fun _ _ _ => rfl) doc.groups
  have snd : (idsAt doc realmId w doc.groups).2.map (·.id) = range' (rootsIn doc realmId w).supply
        (idsAt doc realmId w doc.groups).2.length :=
    grownTo_ids (fun _ _ _ => rfl) doc.groups
  have next : (rootsIn doc realmId w).supply = (rolesIn doc realmId w).supply +
      (roots doc realmId (rolesIn doc realmId w).supply).2.length := rfl
  rw [groupsOf_imported unused, map_append, first, snd, next, range'_append_1]
  exact ⟨_, rfl⟩

theorem groups_ids (unused : Unused realmId w) :
    (((imported doc realmId w).db.groupsOf realmId).map (·.id)).Nodup := by
  obtain ⟨n, isRange⟩ := groups_range doc unused
  rw [isRange]
  exact nodup_range'

theorem group_of_id (unused : Unused realmId w) (old : OldIds w) {row hit : Group}
    (isRow : row ∈ (imported doc realmId w).db.groupsOf realmId)
    (isFound : hit ∈ (imported doc realmId w).db.groups) (same : hit.id = row.id) :
    hit = row := by
  obtain ⟨n, isRange⟩ := groups_range doc unused
  have later : w.supply ≤ (rolesIn doc realmId w).supply := by
    refine (supply_grows doc realmId w).1.trans ?_
    rw [rolesIn, inserted_supply, clientsIn, inserted_supply, Nat.add_assoc]
    exact le_add_right ..
  have mem : row.id ∈ range' (rolesIn doc realmId w).supply n := by
    rw [← isRange]
    exact mem_map_of_mem isRow
  have large : w.supply ≤ row.id := later.trans (mem_range'_1.mp mem).1
  have rows : (imported doc realmId w).db.groups = w.db.groups ++
      (roots doc realmId (rolesIn doc realmId w).supply).2 ++
        (idsAt doc realmId w doc.groups).2 := rfl
  rw [rows, append_assoc, ← groupsOf_imported unused] at isFound
  rcases mem_append.mp isFound with isOld | isNew
  · have := old.groups hit isOld
    omega
  · exact inj_on_of_nodup_map (groups_ids unused) isNew isRow same

variable {pre rest : List ImportedGroup}

theorem idsAt_points (unused : Unused realmId w)
    (split : doc.groups = pre ++ rest) {name : String} {id : Nat}
    (hit : get (idsAt doc realmId w pre).1 name = some id) :
    ∃ row ∈ (imported doc realmId w).db.groupsOf realmId, row.id = id ∧ row.name = name := by
  rw [groupsOf_imported unused]
  rcases grownTo_points hit (fun _ _ _ => rfl) (fun _ _ _ => rfl) with isRoot | ⟨row, mem, known⟩
  · rw [roots_eq_grownTo] at isRoot
    rcases grownTo_points isRoot (fun _ _ _ => rfl) (fun _ _ _ => rfl) with none_ | ⟨row, mem, known⟩
    · cases none_
    · exact ⟨row, mem_append_left _ mem, known⟩
  · refine ⟨row, mem_append_right _ ?_, known⟩
    have later := mem_grownTo_append mem rest
    rw [← split] at later
    exact later

theorem idsAt_known (pre : List ImportedGroup) (name : String) :
    (get (idsAt doc realmId w pre).1 name).isSome ↔
      (∃ other ∈ doc.groups, isRoot other = true ∧ other.name = name) ∨
        ∃ other ∈ pre, isRoot other = false ∧ other.name = name := by
  obtain ⟨indexes, below⟩ := indexes_roots doc realmId (rolesIn doc realmId w).supply
  have grown := (indexes_grow isRoot (·.name) (childRow realmId)
    (rootsIn doc realmId w).supply _ [] indexes below pre).1
  refine (grown.known name).trans ?_
  simp [and_assoc]

theorem parentName_child (unused : Unused realmId w)
    {group : ImportedGroup} (split : doc.groups = pre ++ group :: rest) (id : Nat) :
    parentName ((imported doc realmId w).db.groupsOf realmId)
        (childRow realmId (idsAt doc realmId w pre).1 id group) =
      linked doc.groups pre group := by
  unfold parentName linked childRow groupRow
  cases isGiven : given group.parentName with
  | none => rfl
  | some p =>
    have known : (get (idsAt doc realmId w pre).1 p).isSome ↔ _ :=
      idsAt_known pre p
    cases hit : get (idsAt doc realmId w pre).1 p with
    | none =>
      simp only [hit, isSome_none, false_eq_true, false_iff, not_or, not_exists, not_and] at known
      rw [bind_some, hit, bind_none, filter_some_neg]
      rw [Bool.or_eq_false_iff, any_eq_false, any_eq_false]
      refine ⟨fun other mem => ?_, fun other mem => ?_⟩
      · simpa using known.1 other mem
      · cases root : isRoot other with
        | true =>
          have mem' : other ∈ doc.groups := by simp [split, mem]
          simpa using known.1 other mem' root
        | false => simpa using known.2 other mem root
    | some id =>
      obtain ⟨row, mem, rfl, isName⟩ := idsAt_points unused split hit
      rw [bind_some, hit, bind_some, Table.find?_of_mem (groups_ids unused) mem, filter_some_pos]
      · exact congrArg some isName
      · rw [hit] at known
        rw [or_eq_true, any_eq_true, any_eq_true]
        refine (known.mp rfl).imp ?_ ?_
        · rintro ⟨other, mem, root, isOther⟩
          exact ⟨other, mem, by simp [root, isOther]⟩
        · rintro ⟨other, mem, _, isOther⟩
          exact ⟨other, mem, by simp [isOther]⟩

theorem hasGroup_imported (unused : Unused realmId w) (name : String) (parent : Option String) :
    HasGroup (imported doc realmId w).db realmId name parent ↔
      ∃ pre g rest, doc.groups = pre ++ g :: rest ∧ g.name = name ∧
        linked doc.groups pre g = parent := by
  constructor
  · rintro ⟨row, listed, isName, isParent⟩
    rw [groupsOf_imported unused] at listed
    rcases mem_append.mp listed with isFirst | isSecond
    · rw [roots_eq_grownTo] at isFirst
      obtain ⟨pre, g, rest, split, root, rfl⟩ := (mem_grownTo ..).mp isFirst
      have noParent : given g.parentName = none := by simpa [isRoot] using root
      refine ⟨pre, g, rest, split, isName, ?_⟩
      rw [← isParent, linked, noParent]
      rfl
    · obtain ⟨pre, g, rest, split, _, rfl⟩ := (mem_grownTo ..).mp isSecond
      exact ⟨pre, g, rest, split, isName, (parentName_child unused split _).symm.trans isParent⟩
  · rintro ⟨pre, g, rest, split, isName, isParent⟩
    cases root : isRoot g with
    | true =>
      have noParent : given g.parentName = none := by simpa [isRoot] using root
      have listed := (mem_grownTo (!isRoot ·) (·.name) (fun _ => groupRow none realmId)
        (rolesIn doc realmId w).supply []).mpr ⟨pre, g, rest, split, by simp [root], rfl⟩
      have inRealm := mem_append_left (idsAt doc realmId w doc.groups).2 listed
      rw [← roots_eq_grownTo, ← groupsOf_imported unused] at inRealm
      refine ⟨_, inRealm, isName, ?_⟩
      rw [← isParent, linked, noParent]
      rfl
    | false =>
      have listed := (mem_grownTo isRoot (·.name) (childRow realmId) (rootsIn doc realmId w).supply
        (roots doc realmId (rolesIn doc realmId w).supply).1).mpr ⟨pre, g, rest, split, root, rfl⟩
      have inRealm := mem_append_right (roots doc realmId (rolesIn doc realmId w).supply).2 listed
      rw [← idsAt, ← groupsOf_imported unused] at inRealm
      exact ⟨_, inRealm, isName, (parentName_child unused split _).trans isParent⟩

theorem userHasGroup_imported (unused : Unused realmId w) (old : OldIds w) (uname name : String) :
    UserHasGroup (imported doc realmId w).db realmId uname name ↔
      ∃ u ∈ doc.users, u.username = uname ∧ name ∈ u.groups ∧ name ∈ doc.groupNames := by
  have links {i : Nat} {u : ImportedUser} (hit : doc.users[i]? = some u) (id : Nat) :
      (⟨(assignmentsIn doc realmId w).supply + i, id⟩ : UserGroup) ∈
          (imported doc realmId w).db.userGroups ↔
        ∃ name ∈ u.groups, get (childrenIn doc realmId w).1 name = some id := by
    have rows : (assignmentsIn doc realmId w).db.userGroups = w.db.userGroups :=
      (providersIn_rest doc realmId w).2.2.2.2.2
    rw [imported, userGroups_usersAdded, rows,
      mem_links UserGroup.userId ?_ unused.userGroups hit rfl]
    · simp [groupLinks]
    · intro id u link isLink
      obtain ⟨_, _, isLink⟩ := mem_filterMap.mp isLink
      obtain ⟨_, _, rfl⟩ := map_eq_some_iff.mp isLink
      rfl
  have indexes := indexes_groups doc realmId w
  have points {name : String} {id : Nat} (hit : get (childrenIn doc realmId w).1 name = some id) :
      ∃ row ∈ (imported doc realmId w).db.groupsOf realmId, row.id = id ∧ row.name = name :=
    idsAt_points unused (append_nil _).symm hit
  unfold UserHasGroup
  rw [usersOf_imported unused]
  constructor
  · rintro ⟨row, isUser, isName, hit, isFound, isLink, rfl⟩
    obtain ⟨i, u, isEntry, rfl⟩ := mem_numbered.mp isUser
    obtain ⟨name, isGroup, isId⟩ := (links isEntry _).mp isLink
    obtain ⟨g, isRow, same, rfl⟩ := points isId
    rw [group_of_id unused old isRow isFound same.symm]
    refine ⟨u, mem_of_getElem? isEntry, isName, isGroup, (indexes.known _).mp ?_⟩
    rw [isId]
    rfl
  · rintro ⟨u, mem, isName, isGroup, known⟩
    obtain ⟨i, isEntry⟩ := mem_iff_getElem?.mp mem
    obtain ⟨id, isId⟩ := isSome_iff_exists.mp ((indexes.known name).mpr known)
    obtain ⟨g, isRow, rfl, isGroupName⟩ := points isId
    exact ⟨_, mem_numbered.mpr ⟨i, u, isEntry, rfl⟩, isName, g, (mem_filter.mp isRow).1,
      (links isEntry _).mpr ⟨name, isGroup, isId⟩, isGroupName⟩

end Groups

end Idenplane.Realms.Transfer
