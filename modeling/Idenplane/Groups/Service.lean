import Idenplane.Admin.Attributes
import Idenplane.Lib.Closure

/-! # Groups

`GroupsService` and `ScimGroupsService`: the groups of a realm, the tree they form, who is
in them and which roles they give.
-/

namespace Idenplane.Groups

open Atomic Idenplane.Admin

def realmRolesNamed (realm : Realm) (names : List String) (s : Store) : List Role :=
  s.roles.filter fun role =>
    role.realmId = realm.id && role.clientId.isNone && names.contains role.name

/-- `group.findFirst` by key and realm. -/
def findGroup (realmId groupId : Nat) (s : Store) : Option Group :=
  s.groups.find? fun group => group.id = groupId && group.realmId = realmId

def findGroupByName (realmId : Nat) (name : String) (s : Store) : Option Group :=
  s.groups.find? fun group => group.realmId = realmId && group.name = name

def findUser (realmId userId : Nat) (s : Store) : Option User :=
  s.users.find? fun user => user.id = userId && user.realmId = realmId

/-- The foreign key `parentId` has its row. -/
def parentExists (parentId : Option Nat) (s : Store) : Bool :=
  match parentId with
  | none => true
  | some parentId => s.groups.any (·.id = parentId)

/-- `@@unique([realmId, name])`: no other group of the realm has the name. -/
def nameFree (group : Group) (store : Store) : Bool :=
  !store.groups.any fun other =>
    other.id ≠ group.id && other.realmId = group.realmId && other.name = group.name

/-- `group.create`; the database refuses a second group of the name and a parent that does
not exist. -/
def groupCreated (realmId : Nat) (name : String) (description : Option String)
    (parentId : Option Nat) (s : Store) : Option Nat × Store :=
  if (findGroupByName realmId name s).isNone && parentExists parentId s then
    (some s.supply, { s with
      supply := s.supply + 1
      groups :=
        { id := s.supply, realmId := realmId, name := name, description := description,
          parentId := parentId } :: s.groups })
  else (none, s)

structure CreateGroupDto where
  name : String
  description : Option String := none
  parentId : Option Nat := none

/-- What a request leaves out stays as it is; `null` clears. -/
structure UpdateGroupDto where
  name : Option String := none
  description : Option (Option String) := none
  parentId : Option (Option Nat) := none

def UpdateGroupDto.apply (dto : UpdateGroupDto) (group : Group) : Group :=
  { group with
    name := dto.name.getD group.name
    description := dto.description.getD group.description
    parentId := dto.parentId.getD group.parentId }

theorem UpdateGroupDto.apply_id (dto : UpdateGroupDto) (g : Group) : (dto.apply g).id = g.id := rfl

def rowStands (group : Group) (s : Store) : Bool :=
  nameFree group s && parentExists group.parentId s

def groupUpdated (groupId : Nat) (dto : UpdateGroupDto) (s : Store) : Bool × Store :=
  match s.groups.find? (·.id = groupId) with
  | none => (false, s)
  | some group =>
    if rowStands (dto.apply group) s then
      (true, { s with groups := Table.replace Group.id (dto.apply group) s.groups })
    else (false, s)

/-- There is a group `childId` under `parentId`. -/
def childOf (s : Store) (parentId childId : Nat) : Bool :=
  s.groups.any fun group => group.id = childId && group.parentId = some parentId

def subtree (s : Store) (groupId : Nat) : List Nat :=
  Closure.close (childOf s) (s.groups.map Group.id) (s.groups.map Group.id).length [groupId]

/-- `group.delete` with `onDelete: Cascade` on the parent, on members and on roles. -/
def groupDeleted (groupId : Nat) (s : Store) : Store :=
  { s with
    groups := s.groups.filter fun group => !(subtree s groupId).contains group.id
    userGroups := s.userGroups.filter fun link =>
      !(subtree s groupId).contains link.groupId
    groupRoles := s.groupRoles.filter fun link =>
      !(subtree s groupId).contains link.groupId }

/-- `userGroup.upsert` that updates nothing. -/
def memberAdded (userId groupId : Nat) (s : Store) : Store :=
  if s.userGroups.contains ⟨userId, groupId⟩ then s
  else { s with userGroups := ⟨userId, groupId⟩ :: s.userGroups }

def memberRemoved (userId groupId : Nat) (s : Store) : Store :=
  { s with userGroups := s.userGroups.filter (· ≠ ⟨userId, groupId⟩) }

def membersCleared (groupId : Nat) (s : Store) : Store :=
  { s with userGroups := s.userGroups.filter (·.groupId ≠ groupId) }

/-- `groupRole.createMany` with `skipDuplicates`. -/
def groupRolesAssigned (groupId : Nat) (roles : List Role) (store : Store) : Store :=
  { store with groupRoles := store.groupRoles ++
      (roles.map fun role => ⟨groupId, role.id⟩).filter (!store.groupRoles.contains ·) }

def groupRolesRemoved (groupId : Nat) (roles : List Role) (s : Store) : Store :=
  { s with groupRoles := s.groupRoles.filter fun link =>
      !(link.groupId = groupId && roles.any (·.id = link.roleId)) }

def requireGroup (realm : Realm) (groupId : Nat) (message : String) : Op Unit := do
  let group ← read (findGroup realm.id groupId)
  require group.isSome (notFound message)

def requireParent (realm : Realm) : Option Nat → Op Unit
  | none => pure ()
  | some parentId => requireGroup realm parentId "Parent group not found"

def create (realm : Realm) (dto : CreateGroupDto) : Op Unit := do
  let existing ← read (findGroupByName realm.id dto.name)
  require existing.isNone (conflict ("Group \"" ++ dto.name ++ "\" already exists"))
  requireParent realm dto.parentId
  let created ← atomic (groupCreated realm.id dto.name dto.description dto.parentId)
  require created.isSome .internal

def update (realm : Realm) (groupId : Nat) (dto : UpdateGroupDto) : Op Unit := do
  requireGroup realm groupId "Group not found"
  require (dto.parentId ≠ some (some groupId)) (conflict "A group cannot be its own parent")
  let updated ← atomic (groupUpdated groupId dto)
  require updated .internal

def delete (realm : Realm) (groupId : Nat) : Op Unit := do
  requireGroup realm groupId "Group not found"
  modify (groupDeleted groupId)

def addUserToGroup (realm : Realm) (userId groupId : Nat) : Op Unit := do
  let user ← read (findUser realm.id userId)
  let group ← read (findGroup realm.id groupId)
  require user.isSome (notFound "User not found")
  require group.isSome (notFound "Group not found")
  modify (memberAdded userId groupId)

-- The realm is not looked at.
def removeUserFromGroup (_realm : Realm) (userId groupId : Nat) : Op Unit :=
  modify (memberRemoved userId groupId)

def assignRolesToGroup (realm : Realm) (groupId : Nat) (roleNames : List String) : Op Unit := do
  requireGroup realm groupId "Group not found"
  let roles ← read (realmRolesNamed realm roleNames)
  let missing := roleNames.filter fun name => !roles.any (·.name = name)
  require missing.isEmpty (notFound ("Roles not found: " ++ ", ".intercalate missing))
  modify (groupRolesAssigned groupId roles)

-- The roles are of the realm; the group is not looked up.
def removeRolesFromGroup (realm : Realm) (groupId : Nat) (roleNames : List String) : Op Unit := do
  let roles ← read (realmRolesNamed realm roleNames)
  modify (groupRolesRemoved groupId roles)

structure ScimGroup where
  displayName : String
  /-- `member.value` of each member. -/
  members : Option (List (Option Nat)) := none

def ScimGroup.data (scimGroup : ScimGroup) : UpdateGroupDto where
  name := some scimGroup.displayName
  description := some (some scimGroup.displayName)

def addMember (realmId groupId : Nat) : Option Nat → Op Unit
  | none => pure ()
  | some value => do
    let user ← read (findUser realmId value)
    match user with
    | some user => modify (memberAdded user.id groupId)
    | none => pure ()

def addMembers (realmId groupId : Nat) : List (Option Nat) → Op Unit
  | [] => pure ()
  | mem :: members => do
    addMember realmId groupId mem
    addMembers realmId groupId members

def scimCreate (realmId : Nat) (scimGroup : ScimGroup) : Op Unit := do
  let existing ← read (findGroupByName realmId scimGroup.displayName)
  require existing.isNone (conflict ("Group '" ++ scimGroup.displayName ++ "' already exists"))
  let created ← atomic
    (groupCreated realmId scimGroup.displayName (some scimGroup.displayName) none)
  let groupId ← orFail created .internal
  addMembers realmId groupId (scimGroup.members.getD [])

def nameExists (realmId groupId : Nat) (name : String) (s : Store) : Bool :=
  s.groups.any fun group =>
    group.realmId = realmId && group.name = name && !(group.id = groupId)

def scimGroupNotFound (groupId : Nat) : Failure :=
  notFound ("Group '" ++ toString groupId ++ "' not found")

def replaceMembers (realmId groupId : Nat) : Option (List (Option Nat)) → Op Unit
  | none => pure ()
  | some members => do
    modify (membersCleared groupId)
    addMembers realmId groupId members

def scimUpdate (realmId groupId : Nat) (scimGroup : ScimGroup) : Op Unit := do
  let found ← read (findGroup realmId groupId)
  let existing ← orFail found (scimGroupNotFound groupId)
  let taken ← read (nameExists realmId groupId scimGroup.displayName)
  require (!(scimGroup.displayName ≠ existing.name && taken))
    (conflict ("Group name '" ++ scimGroup.displayName ++ "' already exists"))
  let updated ← atomic (groupUpdated groupId scimGroup.data)
  require updated .internal
  replaceMembers realmId groupId scimGroup.members

def scimDelete (realmId groupId : Nat) : Op Unit := do
  let found ← read (findGroup realmId groupId)
  require found.isSome (scimGroupNotFound groupId)
  modify (groupDeleted groupId)

/-- A call of `GroupsService` that may write, with what the URL and the body say. -/
inductive Call where
  | create (realm : Realm) (dto : CreateGroupDto)
  | update (realm : Realm) (groupId : Nat) (dto : UpdateGroupDto)
  | delete (realm : Realm) (groupId : Nat)
  | addUserToGroup (realm : Realm) (userId groupId : Nat)
  | removeUserFromGroup (realm : Realm) (userId groupId : Nat)
  | assignRolesToGroup (realm : Realm) (groupId : Nat) (roleNames : List String)
  | removeRolesFromGroup (realm : Realm) (groupId : Nat) (roleNames : List String)

def Call.realm : Call → Realm
  | .create realm _ => realm
  | .update realm _ _ => realm
  | .delete realm _ => realm
  | .addUserToGroup realm _ _ => realm
  | .removeUserFromGroup realm _ _ => realm
  | .assignRolesToGroup realm _ _ => realm
  | .removeRolesFromGroup realm _ _ => realm

def Call.op : Call → Op Unit
  | .create realm dto => Groups.create realm dto
  | .update realm groupId dto => Groups.update realm groupId dto
  | .delete realm groupId => Groups.delete realm groupId
  | .addUserToGroup realm userId groupId => Groups.addUserToGroup realm userId groupId
  | .removeUserFromGroup realm userId groupId => Groups.removeUserFromGroup realm userId groupId
  | .assignRolesToGroup realm groupId names => Groups.assignRolesToGroup realm groupId names
  | .removeRolesFromGroup realm groupId names => Groups.removeRolesFromGroup realm groupId names

inductive ScimCall where
  | create (realmId : Nat) (scimGroup : ScimGroup)
  | update (realmId groupId : Nat) (scimGroup : ScimGroup)
  | delete (realmId groupId : Nat)

def ScimCall.op : ScimCall → Op Unit
  | .create realmId scimGroup => scimCreate realmId scimGroup
  | .update realmId groupId scimGroup => scimUpdate realmId groupId scimGroup
  | .delete realmId groupId => scimDelete realmId groupId

section Runs

variable {s : Store} {r : Realm} {gid : Nat}

theorem childOf_iff {parentId childId : Nat} : childOf s parentId childId = true ↔
    ∃ g ∈ s.groups, g.id = childId ∧ g.parentId = some parentId := by
  simp [childOf]

theorem findGroup_spec {realmId : Nat} {g : Group} (hit : findGroup realmId gid s = some g) :
    g ∈ s.groups ∧ g.id = gid ∧ g.realmId = realmId := by
  have test := find?_some hit
  simp only [and_eq_true, decide_eq_true_eq] at test
  exact ⟨mem_of_find?_eq_some hit, test.1, test.2⟩

theorem findGroup_isSome_iff {realmId : Nat} : (findGroup realmId gid s).isSome ↔
    ∃ g ∈ s.groups, g.id = gid ∧ g.realmId = realmId := by
  simp [findGroup]

theorem run_requireGroup_bind (msg : String) (rest : Unit → Op Unit) :
    ((requireGroup r gid msg >>= rest).run s).2 =
      if (findGroup r.id gid s).isSome then ((rest ()).run s).2 else s := by
  rw [requireGroup, bind_assoc, run_read_bind, run_require_bind_snd]

theorem create_leaves (dto : CreateGroupDto) : ((create r dto).run s).2 =
    if dto.parentId.all fun pid => (findGroup r.id pid s).isSome then
      (groupCreated r.id dto.name dto.description dto.parentId s).2
    else s := by
  rw [create, run_read_bind, run_require_bind_snd]
  cases isFree : (findGroupByName r.id dto.name s).isNone with
  | false => simp [groupCreated, isFree]
  | true =>
    cases under : dto.parentId with
    | none => simp [requireParent, run_require_snd]
    | some pid => simp [requireParent, run_requireGroup_bind, run_require_snd]

theorem update_leaves (dto : UpdateGroupDto) : ((update r gid dto).run s).2 =
    if (findGroup r.id gid s).isSome ∧ dto.parentId ≠ some (some gid) then
      (groupUpdated gid dto s).2
    else s := by
  rw [update, run_requireGroup_bind, run_require_bind_snd, run_atomic_bind, run_require_snd]
  simp [ite_and]

theorem delete_leaves : ((delete r gid).run s).2 =
    if (findGroup r.id gid s).isSome then groupDeleted gid s else s := by
  rw [delete, run_requireGroup_bind, run_modify]

theorem addUserToGroup_leaves (uid : Nat) : ((addUserToGroup r uid gid).run s).2 =
    if (findUser r.id uid s).isSome ∧ (findGroup r.id gid s).isSome then
      memberAdded uid gid s
    else s := by
  rw [addUserToGroup, run_read_bind, run_read_bind, run_require_bind_snd,
    run_require_bind_snd, run_modify, ite_and]

theorem assignRolesToGroup_leaves (ns : List String) : ((assignRolesToGroup r gid ns).run s).2 =
      if (findGroup r.id gid s).isSome ∧
          ns.all fun name => (realmRolesNamed r ns s).any (·.name = name) then
        groupRolesAssigned gid (realmRolesNamed r ns s) s
      else s := by
  rw [assignRolesToGroup, run_requireGroup_bind, run_read_bind, run_require_bind_snd,
    run_modify, ite_and]
  simp

end Runs

end Idenplane.Groups
