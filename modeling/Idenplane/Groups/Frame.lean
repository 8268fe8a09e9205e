import Idenplane.Groups.Hierarchy

/-! # Group administration and the other realms

A call of `GroupsService` is made for a realm.  What it leaves of the groups of the other
realms, of their members and of their roles.
-/

namespace Idenplane.Groups

open Atomic Idenplane.Admin

def Foreign (realmId : Nat) (s : Store) (groupId : Nat) : Prop :=
  ∃ group ∈ s.groups, group.id = groupId ∧ group.realmId ≠ realmId

structure Untouched (realmId : Nat) (s s' : Store) : Prop where
  groups : ∀ group : Group,
    group ∈ s'.groups ∧ group.realmId ≠ realmId ↔ group ∈ s.groups ∧ group.realmId ≠ realmId
  userGroups : ∀ link : UserGroup, link ∈ s'.userGroups ∧ Foreign realmId s' link.groupId ↔
      link ∈ s.userGroups ∧ Foreign realmId s link.groupId
  groupRoles : ∀ link : GroupRole, link ∈ s'.groupRoles ∧ Foreign realmId s' link.groupId ↔
      link ∈ s.groupRoles ∧ Foreign realmId s link.groupId

def Call.Scoped (s : Store) : Call → Prop
  | .delete realm groupId =>
    (findGroup realm.id groupId s).isSome →
      ∀ group ∈ s.groups, Below s groupId group.id → group.realmId = realm.id
  | .removeUserFromGroup realm userId groupId =>
    Foreign realm.id s groupId → ⟨userId, groupId⟩ ∉ s.userGroups
  | .removeRolesFromGroup realm groupId roleNames =>
    Foreign realm.id s groupId →
      ∀ role ∈ realmRolesNamed realm roleNames s, ⟨groupId, role.id⟩ ∉ s.groupRoles
  | _ => True

variable {s s' : Store} {realmId : Nat}

theorem not_foreign_of_findGroup (unique : Table.Unique Group.id s.groups) {groupId : Nat}
    (hit : (findGroup realmId groupId s).isSome) : ¬Foreign realmId s groupId := by
  rintro ⟨other, isOther, rfl, foreign⟩
  obtain ⟨g, isGroup, same, isRealm⟩ := findGroup_isSome_iff.mp hit
  rw [unique other isOther g isGroup same.symm] at foreign
  exact foreign isRealm

theorem Untouched.refl (realmId : Nat) (s : Store) : Untouched realmId s s :=
  ⟨fun _ => Iff.rfl, fun _ => Iff.rfl, fun _ => Iff.rfl⟩

theorem Untouched.foreign_iff (untouched : Untouched realmId s s') (groupId : Nat) :
    Foreign realmId s' groupId ↔ Foreign realmId s groupId := by
  constructor
  · rintro ⟨g, mem, isId, other⟩
    exact ⟨g, ((untouched.groups g).mp ⟨mem, other⟩).1, isId, other⟩
  · rintro ⟨g, mem, isId, other⟩
    exact ⟨g, ((untouched.groups g).mpr ⟨mem, other⟩).1, isId, other⟩

theorem untouched_iff : Untouched realmId s s' ↔
    (∀ g : Group, g.realmId ≠ realmId → (g ∈ s'.groups ↔ g ∈ s.groups)) ∧
    (∀ link : UserGroup, Foreign realmId s link.groupId →
      (link ∈ s'.userGroups ↔ link ∈ s.userGroups)) ∧
    ∀ link : GroupRole, Foreign realmId s link.groupId →
      (link ∈ s'.groupRoles ↔ link ∈ s.groupRoles) := by
  constructor
  · intro untouched
    refine ⟨?_, ?_, ?_⟩
    · intro g other
      have same := untouched.groups g
      simpa [other] using same
    · intro link foreign
      have same := untouched.userGroups link
      rw [untouched.foreign_iff] at same
      simpa [foreign] using same
    · intro link foreign
      have same := untouched.groupRoles link
      rw [untouched.foreign_iff] at same
      simpa [foreign] using same
  · rintro ⟨gs, userGroups, groupRoles⟩
    have foreigners : ∀ groupId, Foreign realmId s' groupId ↔ Foreign realmId s groupId := by
      intro groupId
      apply exists_congr
      intro g
      by_cases other : g.realmId ≠ realmId
      · rw [gs g other]
      · simp [other]
    refine ⟨?_, ?_, ?_⟩
    · intro g
      exact and_congr_left (gs g)
    · intro link
      rw [foreigners]
      exact and_congr_left (userGroups link)
    · intro link
      rw [foreigners]
      exact and_congr_left (groupRoles link)

theorem untouched_of_groups (gs : ∀ g : Group, g.realmId ≠ realmId → (g ∈ s'.groups ↔ g ∈ s.groups))
    (userGroups : s'.userGroups = s.userGroups) (groupRoles : s'.groupRoles = s.groupRoles) :
    Untouched realmId s s' :=
  untouched_iff.mpr ⟨gs, fun _ _ => by rw [userGroups], fun _ _ => by rw [groupRoles]⟩

theorem create_untouched (r : Realm) (dto : CreateGroupDto) :
    Untouched r.id s ((create r dto).run s).2 := by
  rw [create_leaves]
  split
  · unfold groupCreated
    split
    · refine untouched_of_groups ?_ rfl rfl
      intro g other
      simp only [mem_cons, or_iff_right_iff_imp]
      rintro rfl
      exact absurd rfl other
    · exact .refl _ _
  · exact .refl _ _

theorem update_untouched (rows : Rows s) (r : Realm) (gid : Nat) (dto : UpdateGroupDto) :
    Untouched r.id s ((update r gid dto).run s).2 := by
  rcases update_cases rows r gid dto with ⟨same, -⟩ | ⟨old, hit, -, -, changed⟩
  · have leaves : ((update r gid dto).run s).2 = s := same
    rw [leaves]
    exact .refl _ _
  · obtain ⟨mem, -, isRealm⟩ := findGroup_spec hit
    have leaves : ((update r gid dto).run s).2 = _ := changed
    rw [leaves]
    refine untouched_of_groups ?_ rfl rfl
    intro g other
    rw [mem_replaced rfl mem (dto.apply_id old)]
    constructor
    · rintro (rfl | ⟨isGroup, -⟩)
      · exact absurd isRealm other
      · exact isGroup
    · intro isGroup
      refine .inr ⟨isGroup, ?_⟩
      intro same
      rw [rows.unique g isGroup old mem same] at other
      exact other isRealm

/-- Everything below a deleted group goes, whichever realm it is in. -/
theorem delete_untouched_iff (r : Realm) (gid : Nat) : Untouched r.id s ((delete r gid).run s).2 ↔
      (Call.delete r gid).Scoped s := by
  rw [delete_leaves]
  cases hit : (findGroup r.id gid s).isSome with
  | false => simp [Call.Scoped, hit, Untouched.refl]
  | true =>
    simp only [if_true, Call.Scoped, hit, true_implies]
    constructor
    · intro untouched g mem below
      by_contra other
      have kept := ((untouched_iff.mp untouched).1 g other).mpr mem
      simp [groupDeleted, mem_subtree_iff, below] at kept
    · intro inside
      have stays : ∀ id, Foreign r.id s id → ¬Below s gid id := by
        rintro id ⟨g, mem, rfl, other⟩ below
        exact other (inside g mem below)
      refine untouched_iff.mpr ⟨?_, ?_, ?_⟩
      · intro g other
        constructor
        · exact mem_of_mem_filter
        · intro mem
          have apart := stays g.id ⟨g, mem, rfl, other⟩
          simp [groupDeleted, mem_subtree_iff, mem, apart]
      · intro link foreign
        simp [groupDeleted, mem_subtree_iff, stays _ foreign]
      · intro link foreign
        simp [groupDeleted, mem_subtree_iff, stays _ foreign]

theorem addUserToGroup_untouched (unique : Table.Unique Group.id s.groups) (r : Realm)
    (uid gid : Nat) :
    Untouched r.id s ((addUserToGroup r uid gid).run s).2 := by
  rw [addUserToGroup_leaves]
  split
  case isFalse => exact .refl _ _
  case isTrue hit =>
    unfold memberAdded
    split
    · exact .refl _ _
    · refine untouched_iff.mpr ⟨fun _ _ => Iff.rfl, ?_, fun _ _ => Iff.rfl⟩
      intro link foreign
      simp only [mem_cons, or_iff_right_iff_imp]
      rintro rfl
      exact absurd foreign (not_foreign_of_findGroup unique hit.2)

theorem removeUserFromGroup_untouched_iff (r : Realm) (uid gid : Nat) :
    Untouched r.id s ((removeUserFromGroup r uid gid).run s).2 ↔
      (Call.removeUserFromGroup r uid gid).Scoped s := by
  rw [removeUserFromGroup, run_modify, untouched_iff]
  constructor
  · intro untouched foreign mem
    have kept := (untouched.2.1 ⟨uid, gid⟩ foreign).mpr mem
    simp [memberRemoved] at kept
  · intro inside
    refine ⟨fun _ _ => Iff.rfl, ?_, fun _ _ => Iff.rfl⟩
    intro link foreign
    simp only [memberRemoved, mem_filter, and_iff_left_iff_imp, decide_eq_true_eq]
    rintro mem rfl
    exact inside foreign mem

theorem assignRolesToGroup_untouched (unique : Table.Unique Group.id s.groups) (r : Realm)
    (gid : Nat) (ns : List String) :
    Untouched r.id s ((assignRolesToGroup r gid ns).run s).2 := by
  rw [assignRolesToGroup_leaves]
  split
  case isFalse => exact .refl _ _
  case isTrue hit =>
    refine untouched_iff.mpr ⟨fun _ _ => Iff.rfl, fun _ _ => Iff.rfl, ?_⟩
    intro link foreign
    simp only [groupRolesAssigned, mem_append, or_iff_left_iff_imp]
    intro new
    obtain ⟨role, -, rfl⟩ := mem_map.mp (mem_of_mem_filter new)
    exact absurd foreign (not_foreign_of_findGroup unique hit.1)

theorem removeRolesFromGroup_untouched_iff (r : Realm) (gid : Nat) (ns : List String) :
    Untouched r.id s ((removeRolesFromGroup r gid ns).run s).2 ↔
      (Call.removeRolesFromGroup r gid ns).Scoped s := by
  rw [removeRolesFromGroup, run_read_bind, run_modify, untouched_iff]
  constructor
  · intro untouched foreign role named mem
    have kept := (untouched.2.2 ⟨gid, role.id⟩ foreign).mpr mem
    simp only [groupRolesRemoved, mem_filter, not_eq_true', Bool.and_eq_false_iff,
      decide_true, any_eq_false, decide_eq_true_eq, reduceCtorEq, false_or] at kept
    exact kept.2 role named rfl
  · intro inside
    refine ⟨fun _ _ => Iff.rfl, fun _ _ => Iff.rfl, ?_⟩
    intro link foreign
    simp only [groupRolesRemoved, mem_filter, and_iff_left_iff_imp]
    intro mem
    by_contra removed
    simp only [not_eq_true', not_eq_false, and_eq_true, decide_eq_true_eq, any_eq_true] at removed
    obtain ⟨rfl, role, named, isRole⟩ := removed
    have := inside foreign role named
    rw [isRole] at this
    exact this mem

/-- A call leaves the other realms alone exactly if it is scoped: a deleted group has no
groups of other realms below it, and members and roles are not removed from a group of another
realm. -/
theorem call_untouched_iff (rows : Rows s) (call : Call) :
    Untouched call.realm.id s (call.op.run s).2 ↔ call.Scoped s := by
  cases call with
  | create r dto => exact iff_of_true (create_untouched r dto) trivial
  | update r gid dto => exact iff_of_true (update_untouched rows r gid dto) trivial
  | delete r gid => exact delete_untouched_iff r gid
  | addUserToGroup r uid gid =>
    exact iff_of_true (addUserToGroup_untouched rows.unique r uid gid) trivial
  | removeUserFromGroup r uid gid =>
    exact removeUserFromGroup_untouched_iff r uid gid
  | assignRolesToGroup r gid ns =>
    exact iff_of_true (assignRolesToGroup_untouched rows.unique r gid ns) trivial
  | removeRolesFromGroup r gid ns =>
    exact removeRolesFromGroup_untouched_iff r gid ns

def twoRealms : Store where
  supply := 20
  users := [{ id := 10, realmId := 1, username := "ann" }, { id := 11, realmId := 2, username := "bob" }]
  groups := [{ id := 1, realmId := 1, name := "staff" }, { id := 2, realmId := 2, name := "sales" }]
  userGroups := [⟨10, 1⟩, ⟨11, 2⟩]

theorem twoRealms_rows : Rows twoRealms := by
  refine ⟨?_, ?_⟩
  · rw [Table.Unique]
    decide
  · decide

theorem ann_leaves_staff :
    Untouched 1 twoRealms ((removeUserFromGroup acme 10 1).run twoRealms).2 := by
  refine (call_untouched_iff twoRealms_rows (.removeUserFromGroup acme 10 1)).mpr ?_
  rintro ⟨g, mem, isOne, other⟩
  revert g
  decide

/-- An administrator of `acme` takes a member out of a group of `globex`. -/
theorem bob_loses_sales : (⟨11, 2⟩ : UserGroup) ∈ twoRealms.userGroups ∧ Foreign 1 twoRealms 2 ∧
      (⟨11, 2⟩ : UserGroup) ∉ ((removeUserFromGroup acme 11 2).run twoRealms).2.userGroups ∧
      ¬Untouched 1 twoRealms ((removeUserFromGroup acme 11 2).run twoRealms).2 := by
  have mem : (⟨11, 2⟩ : UserGroup) ∈ twoRealms.userGroups := by decide
  have foreign : Foreign 1 twoRealms 2 := ⟨{ id := 2, realmId := 2, name := "sales" }, by decide⟩
  have gone : (⟨11, 2⟩ : UserGroup) ∉
      ((removeUserFromGroup acme 11 2).run twoRealms).2.userGroups := by decide
  refine ⟨mem, foreign, gone, ?_⟩
  intro untouched
  exact gone (((untouched_iff.mp untouched).2.1 _ foreign).mpr mem)

end Idenplane.Groups
