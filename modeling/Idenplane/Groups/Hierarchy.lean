import Idenplane.Groups.Service
import Idenplane.Lib.Sequential
import Mathlib.Data.List.Induction

/-! # The tree of groups

Requests of administrators and of SCIM clients come in any order.  The parents form a tree
inside each realm as long as no update moves a group under itself or into another realm.
-/

namespace Idenplane.Groups

open Atomic Relation Table UpdateGroupDto List

inductive Request where
  | service (call : Call)
  | scim (call : ScimCall)

def Request.op : Request → Op Unit
  | .service call => call.op
  | .scim call => call.op

def step (s : Store) (req : Request) : Store := (req.op.run s).2

def reached (s : Store) (requests : List Request) : Store := requests.foldl step s

/-- The group `lower` is `upper`, or below it. -/
def Below (s : Store) : Nat → Nat → Prop :=
  ReflTransGen (childOf s · · = true)

structure Hierarchy (s : Store) : Prop where
  acyclic : Closure.Acyclic (childOf s · · = true)
  sameRealm : ∀ group ∈ s.groups, ∀ parentId, group.parentId = some parentId →
    ∃ parent ∈ s.groups, parent.id = parentId ∧ parent.realmId = group.realmId

/-- What the primary key promises. -/
structure Rows (s : Store) : Prop where
  unique : Table.Unique Group.id s.groups
  issued : ∀ group ∈ s.groups, group.id < s.supply

/-- An update that the database takes moves the group only to a parent of the realm that is
not below it. -/
def Request.Sane (s : Store) : Request → Prop
  | .service (.update realm groupId dto) =>
    ∀ group, findGroup realm.id groupId s = some group → rowStands (dto.apply group) s = true →
      ∀ parentId, dto.parentId = some (some parentId) → parentId ≠ groupId →
        (findGroup realm.id parentId s).isSome ∧ ¬Below s groupId parentId
  | _ => True

variable {s s' : Store}

theorem mem_subtree_iff {gid x : Nat} : x ∈ subtree s gid ↔ Below s gid x := by
  have targets : ∀ a b, childOf s a b = true → b ∈ s.groups.map Group.id := by
    intro a b isChild
    obtain ⟨g, mem, rfl, -⟩ := childOf_iff.mp isChild
    exact mem_map_of_mem mem
  rw [subtree, Closure.mem_close_iff targets]
  simp [Below]

def SameGroups (s s' : Store) : Prop := s'.groups = s.groups ∧ s'.supply = s.supply

theorem SameGroups.refl (s : Store) : SameGroups s s := ⟨rfl, rfl⟩

theorem SameGroups.trans {a b c : Store} (ab : SameGroups a b) (bc : SameGroups b c) :
    SameGroups a c := ⟨bc.1.trans ab.1, bc.2.trans ab.2⟩

theorem memberAdded_sameGroups (uid gid : Nat) (s : Store) :
    SameGroups s (memberAdded uid gid s) := by
  unfold memberAdded
  split <;> exact ⟨rfl, rfl⟩

theorem addMember_keeps (rid gid : Nat) (mem : Option Nat) :
    (addMember rid gid mem).Keeps SameGroups := by
  cases mem with
  | none => exact trivial
  | some v =>
    refine (Keeps.read SameGroups.refl _).bind fun u => ?_
    cases u with
    | none => exact trivial
    | some u => exact .modify (memberAdded_sameGroups _ _)

theorem addMembers_keeps (rid gid : Nat) (members : List (Option Nat)) :
    (addMembers rid gid members).Keeps SameGroups := by
  induction members with
  | nil => exact trivial
  | cons mem members ih => exact (addMember_keeps _ _ _).bind fun _ => ih

theorem replaceMembers_keeps (rid gid : Nat) (members : Option (List (Option Nat))) :
    (replaceMembers rid gid members).Keeps SameGroups := by
  cases members with
  | none => exact trivial
  | some members =>
    exact (Keeps.modify (K := SameGroups) fun _ => ⟨rfl, rfl⟩).bind fun _ =>
      addMembers_keeps _ _ _

theorem Hierarchy.of_groups (tree : Hierarchy s) (groups : s'.groups = s.groups) :
    Hierarchy s' := by
  have edges : childOf s' = childOf s := by
    funext a b
    rw [childOf, childOf, groups]
  refine ⟨?_, ?_⟩
  · rw [edges]
    exact tree.acyclic
  · rw [groups]
    exact tree.sameRealm

section Created

variable {new : Group} (groups : s'.groups = new :: s.groups)

include groups

theorem childOf_created (a b : Nat) (isChild : childOf s' a b = true) :
    childOf s a b = true ∨ new.parentId = some a ∧ b = new.id := by
  rw [childOf_iff, groups] at isChild
  obtain ⟨g, mem, rfl, under⟩ := isChild
  rcases mem_cons.mp mem with rfl | old
  · exact .inr ⟨under, rfl⟩
  · exact .inl (childOf_iff.mpr ⟨g, old, rfl, under⟩)

theorem hierarchy_created (tree : Hierarchy s) (fresh : ∀ group ∈ s.groups, group.id ≠ new.id)
    (parent : ∀ pid, new.parentId = some pid →
      ∃ parent ∈ s.groups, parent.id = pid ∧ parent.realmId = new.realmId) : Hierarchy s' := by
  refine ⟨?_, ?_⟩
  · cases under : new.parentId with
    | none =>
      apply tree.acyclic.mono
      intro a b isChild
      rcases childOf_created groups a b isChild with old | ⟨isParent, -⟩
      · exact old
      · rw [under] at isParent
        cases isParent
    | some pid =>
      obtain ⟨parent, isParent, rfl, -⟩ := parent _ under
      apply tree.acyclic.of_edge (p := parent.id) (g := new.id)
      · intro a b isChild
        rcases childOf_created groups a b isChild with old | ⟨isA, isB⟩
        · exact .inl old
        · rw [under] at isA
          exact .inr ⟨(some.inj isA).symm, isB⟩
      · -- a new key is nobody's parent, so no path leaves it
        intro path
        rcases path.cases_head with same | ⟨b, first, -⟩
        · exact fresh parent isParent same.symm
        · obtain ⟨child, isChild, -, under⟩ := childOf_iff.mp first
          obtain ⟨above, isAbove, same, -⟩ := tree.sameRealm child isChild _ under
          exact fresh above isAbove same
  · intro group mem pid under
    rw [groups] at mem ⊢
    rcases mem_cons.mp mem with rfl | old
    · obtain ⟨above, isAbove, fits⟩ := parent pid under
      exact ⟨above, .tail _ isAbove, fits⟩
    · obtain ⟨above, isAbove, fits⟩ := tree.sameRealm group old pid under
      exact ⟨above, .tail _ isAbove, fits⟩

end Created

section Replaced

variable {old new : Group} (groups : s'.groups = Table.replace Group.id new s.groups)
  (mem : old ∈ s.groups) (sameId : new.id = old.id)

include groups mem sameId

theorem mem_replaced {g : Group} : g ∈ s'.groups ↔ g = new ∨ g ∈ s.groups ∧ g.id ≠ old.id := by
  rw [groups, mem_replace_iff mem sameId.symm, sameId]

theorem childOf_replaced (a b : Nat) : childOf s' a b = true ↔
    b ≠ old.id ∧ childOf s a b = true ∨ b = old.id ∧ new.parentId = some a := by
  simp only [childOf_iff, mem_replaced groups mem sameId]
  constructor
  · rintro ⟨g, rfl | ⟨isGroup, other⟩, rfl, under⟩
    · exact .inr ⟨sameId, under⟩
    · exact .inl ⟨other, g, isGroup, rfl, under⟩
  · rintro (⟨other, g, isGroup, rfl, under⟩ | ⟨rfl, under⟩)
    · exact ⟨g, .inr ⟨isGroup, other⟩, rfl, under⟩
    · exact ⟨new, .inl rfl, sameId, under⟩

section

variable (unique : Unique Group.id s.groups)

include unique

theorem row_replaced (sameRealm : new.realmId = old.realmId) (gid realmId : Nat) :
    (∃ g ∈ s'.groups, g.id = gid ∧ g.realmId = realmId) ↔
      ∃ g ∈ s.groups, g.id = gid ∧ g.realmId = realmId := by
  simp only [mem_replaced groups mem sameId]
  constructor
  · rintro ⟨g, rfl | ⟨isGroup, -⟩, rfl, rfl⟩
    · exact ⟨old, mem, sameId.symm, sameRealm.symm⟩
    · exact ⟨g, isGroup, rfl, rfl⟩
  · rintro ⟨g, isGroup, rfl, rfl⟩
    by_cases same : g.id = old.id
    · have isOld := unique g isGroup old mem same
      subst isOld
      exact ⟨new, .inl rfl, sameId, sameRealm⟩
    · exact ⟨g, .inr ⟨isGroup, same⟩, rfl, rfl⟩

/-- A group that moves under `parentId` keeps the tree exactly if `parentId` is a group of
its realm that is not below it. -/
theorem hierarchy_replaced_iff (tree : Hierarchy s)
    (sameRealm : new.realmId = old.realmId) : Hierarchy s' ↔
      ∀ parentId, new.parentId = some parentId →
        (∃ parent ∈ s.groups, parent.id = parentId ∧ parent.realmId = new.realmId) ∧
          ¬Below s old.id parentId := by
  have edges := childOf_replaced groups mem sameId
  have rows := row_replaced groups mem sameId unique sameRealm
  constructor
  · intro tree' parentId under
    refine ⟨?_, ?_⟩
    · rw [← rows]
      exact tree'.sameRealm new ((mem_replaced groups mem sameId).mpr (.inl rfl)) _ under
    · -- the old path down to the parent and the new edge back up close a cycle
      intro path
      have down : Below s' old.id parentId :=
        .mono (fun a b avoids => (edges a b).mpr (.inl avoids)) _ _ (tree.acyclic.path_avoids path)
      exact tree'.acyclic old.id (.tail' down ((edges _ _).mpr (.inr ⟨rfl, under⟩)))
  · intro fits
    refine ⟨?_, ?_⟩
    · cases under : new.parentId with
      | none =>
        apply tree.acyclic.mono
        intro a b isChild
        rcases (edges a b).mp isChild with ⟨-, old⟩ | ⟨-, isParent⟩
        · exact old
        · rw [under] at isParent
          cases isParent
      | some parentId =>
        apply tree.acyclic.of_edge (p := parentId) (g := old.id) _ (fits parentId under).2
        intro a b isChild
        rcases (edges a b).mp isChild with ⟨-, old⟩ | ⟨isB, isA⟩
        · exact .inl old
        · rw [under] at isA
          exact .inr ⟨(some.inj isA).symm, isB⟩
    · intro group isGroup parentId under
      rw [rows]
      rcases (mem_replaced groups mem sameId).mp isGroup with rfl | ⟨isOld, -⟩
      · exact (fits parentId under).1
      · exact tree.sameRealm group isOld parentId under

theorem hierarchy_kept (tree : Hierarchy s)
    (sameRealm : new.realmId = old.realmId) (sameParent : new.parentId = old.parentId) :
    Hierarchy s' := by
  rw [hierarchy_replaced_iff groups mem sameId unique tree sameRealm]
  intro pid under
  rw [sameParent] at under
  rw [sameRealm]
  refine ⟨tree.sameRealm old mem pid under, ?_⟩
  intro path
  exact tree.acyclic old.id (.tail' path (childOf_iff.mpr ⟨old, mem, rfl, under⟩))

end

end Replaced

theorem hierarchy_deleted (tree : Hierarchy s) (gid : Nat) : Hierarchy (groupDeleted gid s) := by
  have kept : ∀ g, g ∈ (groupDeleted gid s).groups ↔ g ∈ s.groups ∧ ¬Below s gid g.id := by
    simp [groupDeleted, mem_subtree_iff]
  refine ⟨?_, ?_⟩
  · apply tree.acyclic.mono
    intro a b isChild
    obtain ⟨g, mem, fits⟩ := childOf_iff.mp isChild
    exact childOf_iff.mpr ⟨g, ((kept g).mp mem).1, fits⟩
  · intro g mem pid under
    obtain ⟨isGroup, apart⟩ := (kept g).mp mem
    obtain ⟨p, isParent, rfl, sameRealm⟩ := tree.sameRealm g isGroup pid under
    refine ⟨p, (kept p).mpr ⟨isParent, ?_⟩, rfl, sameRealm⟩
    intro path
    exact apart (path.tail (childOf_iff.mpr ⟨g, isGroup, rfl, under⟩))

/-- Everything that a request other than an update can do to the groups. -/
inductive Edit (s s' : Store) : Prop where
  | same (rows : SameGroups s s')
  | created (new : Group) (isNew : new.id = s.supply)
      (parent : ∀ parentId, new.parentId = some parentId →
        ∃ parent ∈ s.groups, parent.id = parentId ∧ parent.realmId = new.realmId)
      (groups : s'.groups = new :: s.groups) (supply : s'.supply = s.supply + 1)
  | renamed (old new : Group) (mem : old ∈ s.groups) (sameId : new.id = old.id)
      (sameRealm : new.realmId = old.realmId) (sameParent : new.parentId = old.parentId)
      (groups : s'.groups = Table.replace Group.id new s.groups) (supply : s'.supply = s.supply)
  | deleted (groupId : Nat) (groups : s'.groups = (groupDeleted groupId s).groups)
      (supply : s'.supply = s.supply)

theorem Edit.refl (s : Store) : Edit s s := .same (.refl s)

theorem Edit.andMembers {s'' : Store} (edit : Edit s s') (rows : SameGroups s' s'') :
    Edit s s'' := by
  cases edit with
  | same pre => exact .same (pre.trans rows)
  | created new isNew p groups supply =>
    exact .created new isNew p (rows.1.trans groups) (rows.2.trans supply)
  | renamed old new mem sameId sameRealm sameParent groups supply =>
    exact .renamed old new mem sameId sameRealm sameParent (rows.1.trans groups)
      (rows.2.trans supply)
  | deleted gid groups supply =>
    exact .deleted gid (rows.1.trans groups) (rows.2.trans supply)

theorem rows_replaced (rows : Rows s) {old new : Group} (mem : old ∈ s.groups)
    (sameId : new.id = old.id) (groups : s'.groups = replace Group.id new s.groups)
    (supply : s'.supply = s.supply) : Rows s' := by
  refine ⟨?_, ?_⟩
  · intro a isA b isB same
    rcases (mem_replaced groups mem sameId).mp isA with rfl | ⟨isA, otherA⟩
    · rcases (mem_replaced groups mem sameId).mp isB with rfl | ⟨-, otherB⟩
      · rfl
      · exact absurd (same.symm.trans sameId) otherB
    · rcases (mem_replaced groups mem sameId).mp isB with rfl | ⟨isB, -⟩
      · exact absurd (same.trans sameId) otherA
      · exact rows.unique a isA b isB same
  · intro g isGroup
    rw [supply]
    rcases (mem_replaced groups mem sameId).mp isGroup with rfl | ⟨isOld, -⟩
    · rw [sameId]
      exact rows.issued old mem
    · exact rows.issued g isOld

theorem Edit.rows (edit : Edit s s') (rows : Rows s) : Rows s' := by
  cases edit with
  | same same =>
    obtain ⟨groups, supply⟩ := same
    exact ⟨groups ▸ rows.unique, by rw [groups, supply]; exact rows.issued⟩
  | created new isNew p groups supply =>
    refine ⟨?_, ?_⟩
    · rw [groups]
      apply rows.unique.cons
      intro g mem
      have := rows.issued g mem
      omega
    · intro g mem
      rw [groups] at mem
      rcases mem_cons.mp mem with rfl | old
      · omega
      · have := rows.issued g old
        omega
  | renamed old new mem sameId sameRealm sameParent groups supply =>
    exact rows_replaced rows mem sameId groups supply
  | deleted gid groups supply =>
    have kept : ∀ g ∈ s'.groups, g ∈ s.groups := by
      intro g mem
      rw [groups] at mem
      exact mem_of_mem_filter mem
    refine ⟨rows.unique.subset kept, ?_⟩
    intro g mem
    rw [supply]
    exact rows.issued g (kept g mem)

theorem Edit.hierarchy (edit : Edit s s') (rows : Rows s) (tree : Hierarchy s) : Hierarchy s' := by
  cases edit with
  | same same => exact tree.of_groups same.1
  | created new isNew p groups supply =>
    apply hierarchy_created groups tree _ p
    intro g mem
    have := rows.issued g mem
    omega
  | renamed old new mem sameId sameRealm sameParent groups supply =>
    exact hierarchy_kept groups mem sameId rows.unique tree sameRealm sameParent
  | deleted gid groups supply => exact (hierarchy_deleted tree gid).of_groups groups

theorem groupCreated_edit {rid : Nat} {pid : Option Nat} (name : String)
    (description : Option String) (p : ∀ above, pid = some above →
      ∃ p ∈ s.groups, p.id = above ∧ p.realmId = rid) :
    Edit s (groupCreated rid name description pid s).2 := by
  unfold groupCreated
  split
  · exact .created _ rfl p rfl rfl
  · exact .refl s

theorem groupUpdated_leaves (rows : Rows s) {rid gid : Nat} {group : Group}
    (hit : findGroup rid gid s = some group) (dto : UpdateGroupDto) :
    (groupUpdated gid dto s).2 = if rowStands (dto.apply group) s then
        { s with groups := replace Group.id (dto.apply group) s.groups }
      else s := by
  obtain ⟨mem, rfl, -⟩ := findGroup_spec hit
  have byKey : s.groups.find? (·.id = group.id) = some group := by
    cases res : s.groups.find? (·.id = group.id) with
    | none => simpa using find?_eq_none.mp res group mem
    | some other =>
      have same : other.id = group.id := by simpa using find?_some res
      rw [rows.unique other (mem_of_find?_eq_some res) group mem same]
  rw [groupUpdated, byKey]
  dsimp only
  split <;> rfl

theorem create_edit (r : Realm) (dto : CreateGroupDto) : Edit s ((create r dto).run s).2 := by
  rw [create_leaves]
  split
  case isTrue found =>
    apply groupCreated_edit
    intro above under
    rw [under] at found
    exact findGroup_isSome_iff.mp found
  case isFalse => exact .refl s

theorem delete_edit (r : Realm) (gid : Nat) : Edit s ((delete r gid).run s).2 := by
  rw [delete_leaves]
  split
  · exact .deleted gid rfl rfl
  · exact .refl s

theorem addUserToGroup_edit (r : Realm) (uid gid : Nat) :
    Edit s ((addUserToGroup r uid gid).run s).2 := by
  rw [addUserToGroup_leaves]
  split
  · exact .same (memberAdded_sameGroups _ _ _)
  · exact .refl s

theorem assignRolesToGroup_edit (r : Realm) (gid : Nat) (ns : List String) :
    Edit s ((assignRolesToGroup r gid ns).run s).2 := by
  rw [assignRolesToGroup_leaves]
  split
  · exact .same ⟨rfl, rfl⟩
  · exact .refl s

theorem scimCreate_edit (rid : Nat) (scimGroup : ScimGroup) :
    Edit s ((scimCreate rid scimGroup).run s).2 := by
  have edit : Edit s
      (groupCreated rid scimGroup.displayName (some scimGroup.displayName) none s).2 :=
    groupCreated_edit _ _ fun _ under => nomatch under
  suffices ensured : (scimCreate rid scimGroup).Ensures (Edit s) (fun _ => Edit s) s from
    ensured.run
  refine .read_bind (.require_bind (.refl s) fun _ => ?_)
  refine .atomic_bind (.orFail_bind edit fun gid _ => ?_)
  exact .of_keeps .refl .trans (addMembers_keeps _ _ _) (fun _ => edit.andMembers)
    fun _ _ _ => edit.andMembers

theorem scimUpdate_edit (rows : Rows s) (rid gid : Nat) (scimGroup : ScimGroup) :
    Edit s ((scimUpdate rid gid scimGroup).run s).2 := by
  suffices ensured : (scimUpdate rid gid scimGroup).Ensures (Edit s) (fun _ => Edit s) s from
    ensured.run
  refine .read_bind (.orFail_bind (.refl s) fun g hit => ?_)
  have edit : Edit s (groupUpdated gid scimGroup.data s).2 := by
    rw [groupUpdated_leaves rows hit]
    split
    · exact .renamed g _ (findGroup_spec hit).1 (scimGroup.data.apply_id g) rfl rfl rfl rfl
    · exact .refl s
  refine .read_bind (.require_bind (.refl s) fun _ => ?_)
  refine .atomic_bind (.require_bind edit fun _ => ?_)
  exact .of_keeps .refl .trans (replaceMembers_keeps _ _ _) (fun _ => edit.andMembers)
    fun _ _ _ => edit.andMembers

theorem scimDelete_edit (rid gid : Nat) : Edit s ((scimDelete rid gid).run s).2 := by
  rw [scimDelete, run_read_bind, run_require_bind_snd, run_modify]
  split
  · exact .deleted gid rfl rfl
  · exact .refl s

theorem Call.edit (call : Call) (other : ∀ r gid dto, call ≠ .update r gid dto) :
    Edit s (call.op.run s).2 := by
  cases call with
  | create r dto => exact create_edit r dto
  | update r gid dto => exact absurd rfl (other r gid dto)
  | delete r gid => exact delete_edit r gid
  | addUserToGroup r uid gid => exact addUserToGroup_edit r uid gid
  | removeUserFromGroup r uid gid => exact .same ⟨rfl, rfl⟩
  | assignRolesToGroup r gid ns => exact assignRolesToGroup_edit r gid ns
  | removeRolesFromGroup r gid ns => exact .same ⟨rfl, rfl⟩

theorem ScimCall.edit (call : ScimCall) (rows : Rows s) : Edit s (call.op.run s).2 := by
  cases call with
  | create rid scimGroup => exact scimCreate_edit rid scimGroup
  | update rid gid scimGroup => exact scimUpdate_edit rows rid gid scimGroup
  | delete rid gid => exact scimDelete_edit rid gid

theorem step_edit (rows : Rows s) (req : Request)
    (other : ∀ r gid dto, req ≠ .service (.update r gid dto)) :
    Edit s (step s req) := by
  cases req with
  | service call =>
    exact call.edit fun r gid dto same => other r gid dto (congrArg _ same)
  | scim call => exact call.edit rows

theorem update_cases (rows : Rows s) (r : Realm) (gid : Nat) (dto : UpdateGroupDto) :
    step s (.service (.update r gid dto)) = s ∧ Request.Sane s (.service (.update r gid dto)) ∨
      ∃ g, findGroup r.id gid s = some g ∧ rowStands (dto.apply g) s = true ∧
        dto.parentId ≠ some (some gid) ∧
        step s (.service (.update r gid dto)) =
          { s with groups := replace Group.id (dto.apply g) s.groups } := by
  rw [step, Request.op, Call.op, update_leaves]
  by_cases self : dto.parentId = some (some gid)
  · left
    refine ⟨by simp [self], ?_⟩
    intro g hit stands pid under apart
    rw [self] at under
    exact absurd (some.inj (some.inj under)).symm apart
  · cases hit : findGroup r.id gid s with
    | none =>
      left
      refine ⟨by simp, ?_⟩
      intro g hit'
      rw [hit] at hit'
      cases hit'
    | some g =>
      simp only [isSome_some, true_and, ne_eq, self, not_false_eq_true, if_true]
      rw [groupUpdated_leaves rows hit]
      cases stands : rowStands (dto.apply g) s with
      | true => exact .inr ⟨g, rfl, stands, rfl⟩
      | false =>
        left
        refine ⟨rfl, ?_⟩
        intro g' hit' stands'
        rw [hit] at hit'
        cases hit'
        rw [stands] at stands'
        cases stands'

theorem step_rows (rows : Rows s) (req : Request) : Rows (step s req) := by
  by_cases isUpdate : ∃ r gid dto, req = .service (.update r gid dto)
  · obtain ⟨r, gid, dto, rfl⟩ := isUpdate
    rcases update_cases rows r gid dto with ⟨same, -⟩ | ⟨g, hit, -, -, changed⟩
    · rw [same]
      exact rows
    · rw [changed]
      exact rows_replaced rows (findGroup_spec hit).1 (dto.apply_id g) rfl rfl
  · simp only [not_exists] at isUpdate
    exact (step_edit rows req isUpdate).rows rows

theorem Request.sane_of_other {req : Request}
    (other : ∀ r gid dto, req ≠ .service (.update r gid dto)) :
    req.Sane s := by
  cases req with
  | scim call => trivial
  | service call =>
    cases call
    case update r gid dto => exact absurd rfl (other r gid dto)
    all_goals trivial

theorem step_hierarchy_iff (rows : Rows s) (tree : Hierarchy s) (req : Request) :
    Hierarchy (step s req) ↔ req.Sane s := by
  by_cases isUpdate : ∃ r groupId dto, req = .service (.update r groupId dto)
  · obtain ⟨r, groupId, dto, rfl⟩ := isUpdate
    rcases update_cases rows r groupId dto with
      ⟨same, sane⟩ | ⟨g, hit, stands, apart, changed⟩
    · rw [same]
      exact ⟨fun _ => sane, fun _ => tree⟩
    · obtain ⟨mem, isGroup, isRealm⟩ := findGroup_spec hit
      rw [changed]
      cases moves : dto.parentId with
      | none =>
        have kept : Hierarchy { s with groups := replace Group.id (dto.apply g) s.groups } :=
          hierarchy_kept rfl mem (dto.apply_id g) rows.unique tree rfl
            (by simp [apply, moves])
        simp [kept, Request.Sane, moves]
      | some parent =>
        rw [hierarchy_replaced_iff rfl mem (dto.apply_id g) rows.unique tree rfl]
        have under : (dto.apply g).parentId = parent := by simp [apply, moves]
        rw [under]
        constructor
        · intro fits g' hit' _ pid isParent _
          rw [moves] at isParent
          obtain ⟨inRealm, notBelow⟩ := fits pid (some.inj isParent)
          refine ⟨?_, isGroup ▸ notBelow⟩
          rw [findGroup_isSome_iff, ← isRealm]
          exact inRealm
        · intro sane pid isParent
          have notSelf : pid ≠ groupId := by
            rintro rfl
            exact apart (moves.trans (congrArg some isParent))
          obtain ⟨inRealm, notBelow⟩ := sane g hit stands pid
            (moves.trans (congrArg some isParent)) notSelf
          rw [findGroup_isSome_iff, ← isRealm] at inRealm
          exact ⟨inRealm, isGroup ▸ notBelow⟩
  · simp only [not_exists] at isUpdate
    have kept := (step_edit rows req isUpdate).hierarchy rows tree
    exact ⟨fun _ => Request.sane_of_other isUpdate, fun _ => kept⟩

theorem reached_snoc (s : Store) (reqs : List Request) (req : Request) :
    reached s (reqs ++ [req]) = step (reached s reqs) req := by
  simp [reached]

theorem reached_rows (rows : Rows s) (reqs : List Request) : Rows (reached s reqs) := by
  induction reqs using reverseRecOn with
  | nil => exact rows
  | append_singleton reqs req ih =>
    rw [reached_snoc]
    exact step_rows ih req

/-- The groups form a tree inside each realm in every state of a run exactly if every request
of the run is sane in the state that it meets. -/
theorem group_hierarchy_iff (rows : Rows s) (tree : Hierarchy s) (reqs : List Request) :
    (∀ done, done <+: reqs → Hierarchy (reached s done)) ↔
      ∀ done req, done ++ [req] <+: reqs → req.Sane (reached s done) := by
  constructor
  · intro trees done req isPrefix
    have before := trees done ((prefix_append done [req]).trans isPrefix)
    have after := trees _ isPrefix
    rw [reached_snoc] at after
    exact (step_hierarchy_iff (reached_rows rows done) before req).mp after
  · intro sane done
    induction done using reverseRecOn with
    | nil => exact fun _ => tree
    | append_singleton done req ih =>
      intro isPrefix
      have before := ih ((prefix_append done [req]).trans isPrefix)
      rw [reached_snoc, step_hierarchy_iff (reached_rows rows done) before]
      exact sane done req isPrefix

theorem empty_rows : Rows {} := ⟨fun _ mem => (nomatch mem), fun _ mem => (nomatch mem)⟩

theorem empty_hierarchy : Hierarchy {} := by
  refine ⟨?_, fun _ mem => nomatch mem⟩
  intro x cycle
  obtain ⟨_, first, -⟩ := TransGen.head'_iff.mp cycle
  cases first

def acme : Realm := { id := 1, name := "acme" }
def globex : Realm := { id := 2, name := "globex" }

def founded : List Request :=
  [.service (.create acme { name := "staff" }), .service (.create acme { name := "sales" })]

def reorganised : List Request :=
  founded ++ [.service (.update acme 1 { parentId := some (some 0) })]

theorem sales_under_staff : Hierarchy (reached {} reorganised) := by
  refine (group_hierarchy_iff empty_rows empty_hierarchy reorganised).mpr ?_ _ (prefix_refl _)
  intro done req isPrefix
  rcases prefix_concat_iff.mp isPrefix with last | pre
  · obtain ⟨rfl, same⟩ := append_inj' last rfl
    cases same
    intro g hit stands pid isParent apart
    cases isParent
    refine ⟨rfl, ?_⟩
    rw [← mem_subtree_iff]
    decide +kernel
  · have mem : req ∈ founded := pre.subset (by simp)
    apply Request.sane_of_other
    rintro r gid dto rfl
    simp [founded] at mem

def circle : List Request :=
  reorganised ++ [.service (.update acme 0 { parentId := some (some 1) })]

def crossed : List Request :=
  [.service (.create acme { name := "staff" }), .service (.create globex { name := "sales" }),
    .service (.update globex 1 { parentId := some (some 0) })]

/-- Two groups of a realm, each under the other; and a group under one of another realm. -/
theorem groups_without_a_tree : Relation.TransGen (childOf (reached {} circle) · · = true) 0 0 ∧
      ∃ g ∈ (reached {} crossed).groups, ∃ p ∈ (reached {} crossed).groups,
        g.parentId = some p.id ∧ p.realmId ≠ g.realmId := by
  refine ⟨?_, ?_⟩
  · have down : childOf (reached {} circle) 0 1 = true := by decide +kernel
    have up : childOf (reached {} circle) 1 0 = true := by decide +kernel
    exact .tail (.single down) up
  · decide +kernel

end Idenplane.Groups
