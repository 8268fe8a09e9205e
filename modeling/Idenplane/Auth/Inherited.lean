import Idenplane.Auth.Tokens
import Idenplane.Lib.Closure

/-! # Roles of groups

The groups of a user and their ancestors, each visited once, and the roles that the tokens of the
user state.
-/

namespace Idenplane.Auth

open Relation List

/-- `GroupsService.collectGroupRoles`, with the groups that it has visited and the roles. -/
def collectGroupRoles (store : Store) : Nat → Nat → List Nat × List Role → List Nat × List Role
  | 0, _, collected => collected
  | fuel + 1, groupId, (visited, allRoles) =>
    if groupId ∈ visited then (visited, allRoles)
    else
      let visited := groupId :: visited
      match store.groups.find? (·.id = groupId) with
      | none => (visited, allRoles)
      | some group =>
        let allRoles := (groupRoleRows store groupId).foldl (fun roles role => roles ++ [role])
          allRoles
        match group.parentId with
        | some parent => collectGroupRoles store fuel parent (visited, allRoles)
        | none => (visited, allRoles)

/-- The roles of the groups of a user, with so much fuel for a walk. -/
def rolesWalked (walk : Nat → Nat → List Nat × List Role → List Nat × List Role) (store : Store)
    (userId fuel : Nat) : List Role :=
  ((store.userGroups.filter (·.userId = userId)).foldl
    (fun seen membership => walk fuel membership.groupId seen) ([], [])).2

def getUserGroupRoles (store : Store) (userId : Nat) : List Role :=
  rolesWalked (collectGroupRoles store) store userId (store.groups.length + 1)

def parentOf (store : Store) (groupId : Nat) : Option Nat :=
  (store.groups.find? (·.id = groupId)).bind (·.parentId)

def Above (store : Store) : Nat → Nat → Prop :=
  ReflTransGen fun group parent => parentOf store group = some parent

/-- The user is in a group below this one, or in this one. -/
def Inherits (store : Store) (userId groupId : Nat) : Prop :=
  ∃ membership ∈ store.userGroups, membership.userId = userId ∧
    Above store membership.groupId groupId

/-- What a group adds to the roles; a group that is gone adds nothing. -/
def ownRoles (store : Store) (groupId : Nat) : List Role :=
  if store.groups.any (·.id = groupId) then groupRoleRows store groupId else []

def clientOf (store : Store) (role : Role) : Option Client :=
  role.clientId.bind fun id => store.clients.find? (·.id = id)

/-- The names of the roles of the client of this name. -/
def clientRoles (store : Store) (roles : List Role) (clientId : String) : List String :=
  (roles.filter fun role => (clientOf store role).any (·.clientId = clientId)).map (·.name)

/-- The roles of a user's groups are right: every walk ends, both services agree, every group that
the user is in or below adds its roles once, and the claims state each role once. -/
def RolesAreRight (store : Store) (userId : Nat) : Prop :=
  (∀ fuel, store.groups.length < fuel →
    rolesWalked (walkGroup store) store userId fuel = resolveGroupRoles store userId) ∧
  getUserGroupRoles store userId = resolveGroupRoles store userId ∧
  (∃ groups : List Nat, groups.Nodup ∧ (∀ id, id ∈ groups ↔ Inherits store userId id) ∧
    resolveGroupRoles store userId = groups.flatMap (ownRoles store)) ∧
  ((allRoles store userId).map (·.id)).Nodup ∧
  (∀ role, role ∈ allRoles store userId ↔ role ∈ userRoleRows store userId ∨
    ∃ id, Inherits store userId id ∧ role ∈ ownRoles store id) ∧
  realmRoles (allRoles store userId) =
    ((allRoles store userId).filter (·.clientId.isNone)).map (·.name) ∧
  ∃ access, resourceAccess store (allRoles store userId) = some access ∧
    ∀ clientId, ((access.lookup clientId).getD []) =
      clientRoles store (allRoles store userId) clientId

/-- How many groups are left to visit. -/
def room (store : Store) (visited : List Nat) : Nat :=
  (store.groups.filter fun group => !visited.contains group.id).length

/-- What walks from these groups add to what was visited. -/
structure Walked (store : Store) (starts visited added : List Nat) : Prop where
  nodup : (added.reverse ++ visited).Nodup
  visits : ∀ id ∈ starts, id ∈ added.reverse ++ visited
  above : ∀ id ∈ added, ∃ start ∈ starts, Above store start id
  closed : ∀ id ∈ added, ∀ parent, parentOf store id = some parent → parent ∈ added.reverse ++ visited

variable {s : Store} {uid gid : Nat} {visited added starts : List Nat} {roles : List Role}

theorem pushed_roles (more : List Role) :
    more.foldl (fun all role => all ++ [role]) roles = roles ++ more := by
  rw [foldl_append_eq_append (f := fun role => [role]), ← flatMap_def, flatMap_singleton']

/-- Both services walk alike. -/
theorem collectGroupRoles_eq_walkGroup (fuel gid : Nat) (seen : List Nat × List Role) :
    collectGroupRoles s fuel gid seen = walkGroup s fuel gid seen := by
  induction fuel generalizing gid seen with
  | zero => rfl
  | succ fuel ih =>
    obtain ⟨visited, roles⟩ := seen
    rw [collectGroupRoles, walkGroup]
    by_cases known : gid ∈ visited
    · simp [known]
    · simp only [known, contains_iff_mem, if_false, pushed_roles]
      cases s.groups.find? (·.id = gid) with
      | none => rfl
      | some group =>
        dsimp only
        cases group.parentId with
        | none => rfl
        | some parent => exact ih parent _

theorem getUserGroupRoles_eq : getUserGroupRoles s uid = resolveGroupRoles s uid := by
  have walks : collectGroupRoles s = walkGroup s :=
    funext fun fuel => funext fun gid => funext fun seen =>
      collectGroupRoles_eq_walkGroup fuel gid seen
  rw [getUserGroupRoles, walks]
  rfl

theorem room_le (more : List Nat) : room s (more ++ visited) ≤ room s visited := by
  apply Sublist.length_le
  apply monotone_filter_right
  simp

theorem room_lt {g : Group} (isGroup : g ∈ s.groups) (fresh : g.id ∉ visited) :
    room s (g.id :: visited) < room s visited := by
  have split : room s (g.id :: visited) = ((s.groups.filter fun group =>
      !visited.contains group.id).filter fun group => decide (group.id ≠ g.id)).length := by
    rw [room, filter_filter]
    congr 2
    funext group
    simp [eq_comm]
  rw [split, room]
  exact length_filter_lt_length_iff_exists.mpr
    ⟨g, mem_filter.mpr ⟨isGroup, by simpa using fresh⟩, by simp⟩

theorem walkGroup_spec (gid : Nat) (roles : List Role) (nodup : visited.Nodup) :
    ∃ added, Walked s [gid] visited added ∧ ∀ fuel, room s visited < fuel →
      walkGroup s fuel gid (visited, roles) =
        (added.reverse ++ visited, roles ++ added.flatMap (ownRoles s)) := by
  induction size : room s visited using Nat.strong_induction_on generalizing visited gid roles with
  | _ n ih =>
    subst size
    by_cases seen : gid ∈ visited
    · refine ⟨[], ⟨by simpa using nodup, by simpa using seen, by simp, by simp⟩, fun fuel more => ?_⟩
      obtain ⟨fuel, rfl⟩ := Nat.exists_eq_add_of_lt more
      simp [walkGroup, seen]
    · have nodup' : (gid :: visited).Nodup := nodup_cons.mpr ⟨seen, nodup⟩
      have ends (last : parentOf s gid = none) : Walked s [gid] visited [gid] := by
        refine ⟨by simpa using nodup', by simp, fun id mem => ?_, fun id mem parent isParent => ?_⟩
        · exact ⟨gid, mem_cons_self, mem_singleton.mp mem ▸ .refl⟩
        · rw [mem_singleton.mp mem, last] at isParent
          cases isParent
      cases hit : s.groups.find? (·.id = gid) with
      | none =>
        refine ⟨[gid], ends (by simp [parentOf, hit]), fun fuel more => ?_⟩
        obtain ⟨fuel, rfl⟩ := Nat.exists_eq_add_of_lt more
        have absent : ownRoles s gid = [] := by
          simpa [ownRoles] using fun g isGroup same => absurd same (by simpa using find?_eq_none.mp hit g isGroup)
        simp [walkGroup, seen, hit, absent]
      | some g =>
        have isId : g.id = gid := by simpa using find?_some hit
        have isGroup := mem_of_find?_eq_some hit
        have own : ownRoles s gid = groupRoleRows s gid :=
          if_pos (any_eq_true.mpr ⟨g, isGroup, by simpa using isId⟩)
        cases above : g.parentId with
        | none =>
          refine ⟨[gid], ends (by simp [parentOf, hit, above]), fun fuel more => ?_⟩
          obtain ⟨fuel, rfl⟩ := Nat.exists_eq_add_of_lt more
          simp [walkGroup, seen, hit, above, own]
        | some parent =>
          have isParent : parentOf s gid = some parent := by simp [parentOf, hit, above]
          have less : room s (gid :: visited) < room s visited := by
            rw [← isId] at seen ⊢
            exact room_lt isGroup seen
          obtain ⟨added, walked, walks⟩ :=
            ih _ less parent (roles ++ groupRoleRows s gid) nodup' rfl
          obtain ⟨nodup'', starts, ups, closed⟩ := walked
          refine ⟨gid :: added, ⟨by simpa using nodup'', by simp, ?_, ?_⟩, fun fuel more => ?_⟩
          · intro id mem
            refine ⟨gid, mem_cons_self, ?_⟩
            rcases mem_cons.mp mem with rfl | mem
            · exact .refl
            · obtain ⟨start, isStart, path⟩ := ups id mem
              rw [mem_singleton.mp isStart] at path
              exact .head isParent path
          · intro id mem up isUp
            rcases mem_cons.mp mem with rfl | mem
            · rw [isParent] at isUp
              simpa [some.inj isUp] using starts parent mem_cons_self
            · simpa using closed id mem up isUp
          · obtain ⟨fuel, rfl⟩ := Nat.exists_eq_add_of_lt more
            have rest := walks (room s visited + fuel) (by omega)
            simp only [walkGroup, hit, above]
            rw [if_neg (by simpa using seen), rest]
            simp [own]

theorem walks_spec (memberships : List UserGroup) (roles : List Role) (nodup : visited.Nodup) :
    ∃ added, Walked s (memberships.map (·.groupId)) visited added ∧ ∀ fuel, room s visited < fuel →
      memberships.foldl (fun seen membership => walkGroup s fuel membership.groupId seen)
          (visited, roles) =
        (added.reverse ++ visited, roles ++ added.flatMap (ownRoles s)) := by
  induction memberships generalizing visited roles with
  | nil => exact ⟨[], ⟨by simpa using nodup, by simp, by simp, by simp⟩, fun _ _ => by simp⟩
  | cons m memberships ih =>
    obtain ⟨first, walked, walks⟩ := walkGroup_spec (s := s) m.groupId roles nodup
    obtain ⟨more, walked', walks'⟩ := ih (roles ++ first.flatMap (ownRoles s)) walked.nodup
    refine ⟨first ++ more, ⟨by simpa using walked'.nodup, ?_, ?_, ?_⟩, fun fuel enough => ?_⟩
    · intro id mem
      rcases mem_cons.mp mem with rfl | mem
      · have := walked.visits m.groupId mem_cons_self
        simp only [mem_append, reverse_append] at this ⊢
        tauto
      · simpa using walked'.visits id mem
    · intro id mem
      rcases mem_append.mp mem with mem | mem
      · obtain ⟨start, isStart, path⟩ := walked.above id mem
        exact ⟨m.groupId, mem_cons_self, mem_singleton.mp isStart ▸ path⟩
      · obtain ⟨start, isStart, path⟩ := walked'.above id mem
        exact ⟨start, .tail _ isStart, path⟩
    · intro id mem parent isParent
      rcases mem_append.mp mem with mem | mem
      · have := walked.closed id mem parent isParent
        simp only [mem_append, reverse_append] at this ⊢
        tauto
      · simpa using walked'.closed id mem parent isParent
    · have enough' : room s (first.reverse ++ visited) < fuel := (room_le _).trans_lt enough
      rw [foldl_cons, walks fuel enough, walks' fuel enough']
      simp

/-- What a walk over all memberships finds. -/
theorem resolveGroupRoles_spec (s : Store) (uid : Nat) :
    ∃ groups : List Nat, groups.Nodup ∧ (∀ id, id ∈ groups ↔ Inherits s uid id) ∧
      ∀ fuel, s.groups.length < fuel →
        rolesWalked (walkGroup s) s uid fuel = groups.flatMap (ownRoles s) := by
  obtain ⟨groups, walked, walks⟩ :=
    walks_spec (s := s) (s.userGroups.filter (·.userId = uid)) [] nodup_nil
  have nodup := walked.nodup
  rw [append_nil, nodup_reverse] at nodup
  refine ⟨groups, nodup, fun id => ⟨fun mem => ?_, ?_⟩, fun fuel enough => ?_⟩
  · obtain ⟨start, isStart, path⟩ := walked.above id mem
    obtain ⟨m, isMember, rfl⟩ := mem_map.mp isStart
    obtain ⟨isRow, isUser⟩ := mem_filter.mp isMember
    exact ⟨m, isRow, by simpa using isUser, path⟩
  · rintro ⟨m, isRow, isUser, path⟩
    induction path with
    | refl => simpa using walked.visits m.groupId (mem_map_of_mem (mem_filter.mpr ⟨isRow, by simpa using isUser⟩))
    | tail _ step ih => simpa using walked.closed _ ih _ step
  · rw [rolesWalked, walks fuel ((length_filter_le _ _).trans_lt enough)]
    simp

theorem dedup_spec (roles : List Role) (seen : List Nat) (kept : List Role)
    (noted : ∀ id, id ∈ seen ↔ id ∈ kept.map (·.id)) (nodup : (kept.map (·.id)).Nodup) :
    ∃ more, (roles.foldl (fun (seen, kept) role =>
        if seen.contains role.id then (seen, kept) else (role.id :: seen, kept ++ [role]))
        (seen, kept)).2 = kept ++ more ∧ ((kept ++ more).map (·.id)).Nodup ∧ more ⊆ roles ∧
      ∀ role ∈ roles, role.id ∈ (kept ++ more).map (·.id) := by
  induction roles generalizing seen kept with
  | nil => exact ⟨[], by simp, by simpa using nodup, by simp, by simp⟩
  | cons role roles ih =>
    by_cases known : role.id ∈ seen
    · obtain ⟨more, isFold, nodup', within, all⟩ := ih seen kept noted nodup
      refine ⟨more, by simpa [known] using isFold, nodup', fun _ mem => .tail _ (within mem), ?_⟩
      intro other mem
      rcases mem_cons.mp mem with rfl | mem
      · rw [map_append, mem_append]
        exact .inl ((noted _).mp known)
      · exact all other mem
    · have fresh : role.id ∉ kept.map (·.id) := fun mem => known ((noted _).mpr mem)
      have noted' : ∀ id, id ∈ role.id :: seen ↔ id ∈ (kept ++ [role]).map (·.id) := by
        simp only [mem_cons, noted, map_append, mem_append, map_cons, map_nil, not_mem_nil]
        tauto
      have nodup' : ((kept ++ [role]).map (·.id)).Nodup := by
        rw [map_append]
        exact nodup.append (by simp) (by simpa using fresh)
      obtain ⟨more, isFold, nodup'', within, all⟩ := ih (role.id :: seen) (kept ++ [role]) noted' nodup'
      rw [append_assoc] at isFold nodup'' all
      refine ⟨role :: more, by simpa [known] using isFold, nodup'', ?_, ?_⟩
      · exact cons_subset_cons _ within
      · intro other mem
        rcases mem_cons.mp mem with rfl | mem
        · simp
        · exact all other mem

def IsRow (s : Store) (role : Role) : Prop := s.roles.find? (·.id = role.id) = some role

theorem isRow_of_find {id : Nat} {role : Role} (hit : s.roles.find? (·.id = id) = some role) :
    IsRow s role := by
  have same : role.id = id := by simpa using find?_some hit
  rw [IsRow, same, hit]

theorem allRoles_spec (s : Store) (uid : Nat) : ((allRoles s uid).map (·.id)).Nodup ∧
    ∀ role, role ∈ allRoles s uid ↔ role ∈ userRoleRows s uid ++ resolveGroupRoles s uid := by
  obtain ⟨more, isFold, nodup, within, all⟩ :=
    dedup_spec (userRoleRows s uid ++ resolveGroupRoles s uid) [] [] (by simp) (by simp)
  have isAll : allRoles s uid = more := isFold
  have rows : ∀ role ∈ userRoleRows s uid ++ resolveGroupRoles s uid, IsRow s role := by
    intro role mem
    rcases mem_append.mp mem with direct | inherited
    · obtain ⟨link, -, hit⟩ := mem_filterMap.mp direct
      exact isRow_of_find hit
    · obtain ⟨groups, -, -, walks⟩ := resolveGroupRoles_spec s uid
      rw [show resolveGroupRoles s uid = _ from walks _ (lt_succ_self _)] at inherited
      obtain ⟨id, -, own⟩ := mem_flatMap.mp inherited
      unfold ownRoles at own
      split at own
      · obtain ⟨link, -, hit⟩ := mem_filterMap.mp own
        exact isRow_of_find hit
      · cases own
  rw [isAll]
  refine ⟨nodup, fun role => ⟨fun mem => within mem, fun mem => ?_⟩⟩
  obtain ⟨other, isOther, same⟩ := mem_map.mp (all role mem)
  have row : IsRow s other := rows other (within isOther)
  rw [IsRow, same, rows role mem] at row
  exact some.inj row ▸ isOther

theorem lookup_extended (access : List (String × List String)) (clientId role key : String) :
    (access.map fun e => if e.1 = clientId then (clientId, e.2 ++ [role]) else e).lookup key =
      (access.lookup key).map (if key = clientId then (· ++ [role]) else id) := by
  induction access with
  | nil => rfl
  | cons e access ih =>
    obtain ⟨k, names⟩ := e
    by_cases isKey : key = k
    · subst isKey
      by_cases same : key = clientId <;> simp [same, lookup_cons_self]
    · have apart : (key == k) = false := by simpa using isKey
      have skip (v : List String) (rest : List (String × List String)) :
          ((k, v) :: rest).lookup key = rest.lookup key := by
        rw [lookup_cons, apart]
      by_cases same : k = clientId
      · subst same
        rw [map_cons, if_pos rfl, skip, skip, ih]
      · rw [map_cons, if_neg same, skip, skip, ih]

theorem lookup_addResource (access : List (String × List String)) (clientId role key : String) :
    ((addResource access clientId role).lookup key).getD [] =
      (access.lookup key).getD [] ++ if key = clientId then [role] else [] := by
  unfold addResource
  split
  case isTrue known =>
    rw [lookup_extended]
    by_cases same : key = clientId
    · obtain ⟨e, isEntry, isKey⟩ := any_eq_true.mp known
      cases hit : access.lookup key with
      | none =>
        have absent := lookup_eq_none_iff.mp hit e isEntry
        simp_all
      | some names => simp [same]
    · simp [same]
  case isFalse new =>
    rw [lookup_append]
    by_cases same : key = clientId
    · subst same
      have absent : access.lookup key = none := by
        rw [lookup_eq_none_iff]
        intro e mem
        have other : e.1 ≠ key := by simpa using any_eq_false.mp (eq_false_iff.mpr new) e mem
        simpa using Ne.symm other
      simp [absent]
    · have apart : (key == clientId) = false := by simpa using same
      have absent : [(clientId, [role])].lookup key = none := by
        rw [lookup_cons, apart]
        rfl
      simp [same, absent]

theorem resourceAccess_iff (roles : List Role) (access : List (String × List String)) :
    (∃ built, roles.foldlM (fun access role => match clientOf s role with
        | none => some access
        | some client =>
          if objectPrototype.contains client.clientId then none
          else some (addResource access client.clientId role.name)) access = some built ∧
      ∀ key, (built.lookup key).getD [] = (access.lookup key).getD [] ++ clientRoles s roles key) ↔
    ∀ role ∈ roles, ∀ client, clientOf s role = some client → client.clientId ∉ objectPrototype := by
  induction roles generalizing access with
  | nil => simp [clientRoles]
  | cons role roles ih =>
    cases isClient : clientOf s role with
    | none =>
      have same (key : String) : clientRoles s (role :: roles) key = clientRoles s roles key := by
        simp [clientRoles, isClient]
      simp only [foldlM_cons, isClient, same, forall_mem_cons]
      simpa using ih access
    | some client =>
      by_cases shadowed : client.clientId ∈ objectPrototype
      · simp [isClient, shadowed]
      · have more (key : String) : clientRoles s (role :: roles) key =
            (if key = client.clientId then [role.name] else []) ++ clientRoles s roles key := by
          by_cases same : client.clientId = key
          · simp [clientRoles, isClient, same]
          · simp [clientRoles, isClient, same, Ne.symm same]
        simp only [foldlM_cons, isClient, more, forall_mem_cons]
        have rest := ih (addResource access client.clientId role.name)
        simp only [lookup_addResource, append_assoc] at rest
        simpa [shadowed] using rest

/-- The roles of a user are right exactly when no role is of a client whose name is that of a
property every object has. -/
theorem roles_are_right_iff (s : Store) (uid : Nat) : RolesAreRight s uid ↔
    ∀ role ∈ allRoles s uid, ∀ client, clientOf s role = some client →
      client.clientId ∉ objectPrototype := by
  obtain ⟨groups, nodup, reached, walks⟩ := resolveGroupRoles_spec s uid
  obtain ⟨distinct, members⟩ := allRoles_spec s uid
  have isWalk : resolveGroupRoles s uid = groups.flatMap (ownRoles s) := walks _ (lt_succ_self _)
  have built := resourceAccess_iff (s := s) (allRoles s uid) []
  simp only [List.lookup_nil, Option.getD_none, nil_append] at built
  rw [← built]
  constructor
  · rintro ⟨-, -, -, -, -, -, access⟩
    exact access
  · intro access
    refine ⟨fun fuel enough => (walks fuel enough).trans isWalk.symm, getUserGroupRoles_eq,
      ⟨groups, nodup, reached, isWalk⟩, distinct, fun role => ?_, rfl, access⟩
    rw [members, mem_append, isWalk, mem_flatMap]
    simp only [reached]

/-- A role of a client that is called `constructor`. -/
def constructorRole : Store :=
  { clients := [{ id := 2, realmId := 1, clientId := "constructor" }]
    roles := [{ id := 3, realmId := 1, name := "build", clientId := some 2 }]
    userRoles := [⟨4, 3⟩] }

theorem constructor_role_is_lost : ¬ RolesAreRight constructorRole 4 := by
  rintro ⟨-, -, -, -, -, -, access, isBuilt, -⟩
  have throws : resourceAccess constructorRole (allRoles constructorRole 4) = none := by
    decide +kernel
  rw [throws] at isBuilt
  cases isBuilt

end Idenplane.Auth
