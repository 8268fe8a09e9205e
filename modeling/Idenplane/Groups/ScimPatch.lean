import Idenplane.Groups.Service
import Mathlib.Data.List.Infix
import Mathlib.Data.Set.Basic

/-! # Members by PATCH

What a list of operations on the members makes of a group.  `replace` only adds, and a removal
counts when its path names the member in single quotes.
-/

namespace Idenplane.Groups

open Atomic Idenplane.Admin

inductive Quote where
  | single
  | double

def Quote.mark : Quote → Char
  | .single => '\x27'
  | .double => '"'

inductive ScimOperation where
  | add
  | replace
  | remove

structure ScimPatchOperation where
  op : ScimOperation
  path : Option (List Char)
  /-- The members, if the value is an array. -/
  value : Option (List (Option Nat)) := none

def membersPath : List Char := "members".toList

def memberPath : List Char := "members[value eq ".toList ++ [Quote.single.mark]

/-- The pattern at one place of the path. -/
def memberValueAt (tail : List Char) : Option (List Char) :=
  let rest := tail.drop memberPath.length
  let value := rest.takeWhile (· ≠ Quote.single.mark)
  if memberPath <+: tail ∧ value ≠ [] ∧ rest.drop value.length = [Quote.single.mark, ']'] then
    some value
  else none

/-- `/members\[value eq '([^']+)'\]$/`. -/
def extractMemberValueFromPath (path : List Char) : Option (List Char) :=
  path.tails.findSome? memberValueAt

section Patch

/- The identifier that a text spells, if it spells one. -/
variable (spelled : List Char → Option Nat)

def removeMember (groupId : Nat) (memberValue : List Char) : Op Unit :=
  match spelled memberValue with
  | some userId => modify (memberRemoved userId groupId)
  | none => pure ()

def patchMembers (realmId groupId : Nat) (op : ScimPatchOperation) : Op Unit :=
  match op.op, op.value with
  | .remove, _ =>
    match op.path.bind extractMemberValueFromPath with
    | some memberValue => removeMember spelled groupId memberValue
    | none => pure ()
  | _, some members =>
    if op.path = some membersPath then addMembers realmId groupId members else pure ()
  | _, none => pure ()

def patchEach (realmId groupId : Nat) : List ScimPatchOperation → Op Unit
  | [] => pure ()
  | op :: operations => do
    patchMembers spelled realmId groupId op
    patchEach realmId groupId operations

def scimPatch (realmId groupId : Nat) (operations : List ScimPatchOperation) : Op Unit := do
  let group ← read (findGroup realmId groupId)
  require group.isSome (scimGroupNotFound groupId)
  patchEach spelled realmId groupId operations

/-- An identifier, as it stands between quotes. -/
structure Identifier where
  text : List Char
  some_ : text ≠ []
  plain : Quote.single.mark ∉ text

/-- What a client asks for. -/
inductive MemberOp where
  | add (members : List (Option Nat))
  | replace (members : List (Option Nat))
  | remove (style : Quote) (value : Identifier)
  | clear

namespace MemberOp

def operation : MemberOp → ScimPatchOperation
  | add members => ⟨.add, some membersPath, some members⟩
  | replace members => ⟨.replace, some membersPath, some members⟩
  | remove style value =>
    ⟨.remove, some ("members[value eq ".toList ++ [style.mark] ++ (value.text ++ [style.mark, ']'])),
      none⟩
  | clear => ⟨.remove, some membersPath, none⟩

/-- An operation that lists `u`, who is a user of the realm. -/
def Lists (users : Set Nat) (u : Nat) : MemberOp → Prop
  | add members => some u ∈ members ∧ u ∈ users
  | replace members => some u ∈ members ∧ u ∈ users
  | _ => False

/-- Union, assignment and difference; only users of the realm enter. -/
def apply (users : Set Nat) (now : Set Nat) : MemberOp → Set Nat
  | add members => now ∪ {u | some u ∈ members ∧ u ∈ users}
  | replace members => {u | some u ∈ members ∧ u ∈ users}
  | remove _ value => now \ {u | spelled value.text = some u}
  | clear => ∅

/-- A removal of `u` in single quotes. -/
def Removes (u : Nat) : MemberOp → Prop
  | remove .single value => spelled value.text = some u
  | _ => False

/-- An operation after which `u` should be out, and that nobody carries out. -/
def Spares (users : Set Nat) (u : Nat) : MemberOp → Prop
  | replace members => ¬(some u ∈ members ∧ u ∈ users)
  | remove .double value => spelled value.text = some u
  | clear => True
  | _ => False

end MemberOp

end Patch

/-- One of `p`, and none of `q` since. -/
def Since {α : Type} (p q : α → Prop) (ops : List α) : Prop :=
  ∃ before op after, ops = before ++ op :: after ∧ p op ∧ ∀ later ∈ after, ¬q later

theorem since_concat {α : Type} {p q : α → Prop} {ops : List α} {op : α} :
    Since p q (ops ++ [op]) ↔ p op ∨ ¬q op ∧ Since p q ops := by
  constructor
  · rintro ⟨pre, first, after, same, holds, none_⟩
    rcases List.eq_nil_or_concat after with rfl | ⟨rest, last, rfl⟩
    · obtain ⟨-, rfl⟩ : ops = pre ∧ op = first := by simpa using same
      exact .inl holds
    · rw [List.concat_eq_append, ← cons_append, ← append_assoc] at same
      obtain ⟨rfl, last_⟩ := List.append_inj' same rfl
      cases last_
      exact .inr ⟨none_ op (by simp), pre, first, rest, rfl, holds,
        fun later mem => none_ later (by simp [mem])⟩
  · rintro (holds | ⟨not, pre, first, after, rfl, holds, none_⟩)
    · exact ⟨ops, op, [], rfl, holds, nofun⟩
    · refine ⟨pre, first, after ++ [op], by simp, holds, fun later mem => ?_⟩
      rcases mem_append.mp mem with mem | mem
      · exact none_ later mem
      · rwa [mem_singleton.mp mem]

section Paths

variable {tail path : List Char}

theorem memberValueAt_none (plain : Quote.single.mark ∉ tail) : memberValueAt tail = none := by
  have apart : ¬memberPath <+: tail := fun starts =>
    plain (starts.subset (mem_append_right _ mem_cons_self))
  exact if_neg fun passed => apart passed.1

theorem extract_none (plain : Quote.single.mark ∉ path) : extractMemberValueFromPath path = none := by
  apply List.findSome?_eq_none_iff.mpr
  intro tail mem
  exact memberValueAt_none fun inside => plain (((List.mem_tails _ _).mp mem).subset inside)

theorem extract_single (v : Identifier) : extractMemberValueFromPath (memberPath ++
    (v.text ++ [Quote.single.mark, ']'])) = some v.text := by
  have whole : (v.text ++ [Quote.single.mark, ']']).takeWhile (· ≠ Quote.single.mark) =
      v.text := by
    rw [List.takeWhile_append_of_pos]
    · simp
    · intro c mem
      have apart : c ≠ Quote.single.mark := fun same => v.plain (same ▸ mem)
      exact decide_eq_true apart
  have here : memberValueAt (memberPath ++ (v.text ++ [Quote.single.mark, ']'])) = some v.text := by
    simp only [memberValueAt, List.drop_left, whole]
    exact if_pos ⟨List.prefix_append _ _, v.some_, trivial⟩
  unfold extractMemberValueFromPath
  rw [show memberPath = 'm' :: memberPath.tail from rfl, cons_append] at here ⊢
  rw [List.tails_cons, List.findSome?_cons, here]

end Paths

section Runs

variable {spelled : List Char → Option Nat} {rid gid : Nat} {s t : Store} {u : Nat}

def membersOf (groupId : Nat) (s : Store) : Set Nat := {u | ⟨u, groupId⟩ ∈ s.userGroups}

def usersOf (realmId : Nat) (s : Store) : Set Nat := {u | (findUser realmId u s).isSome}

/-- A program that leaves the users, and these members. -/
def Leaves (realmId groupId : Nat) (p : Op Unit) (s : Store) (members : Set Nat) : Prop :=
  ∃ t, p.run s = (.ok (), t) ∧ usersOf realmId t = usersOf realmId s ∧ membersOf groupId t = members

theorem Leaves.bind {p q : Op Unit} {now next : Set Nat} (first : Leaves rid gid p s now)
    (rest : ∀ t, usersOf rid t = usersOf rid s → membersOf gid t = now → Leaves rid gid q t next) :
    Leaves rid gid (do p; q) s next := by
  obtain ⟨t, ran, us, members⟩ := first
  obtain ⟨v, ran', us', members'⟩ := rest t us members
  exact ⟨v, run_bind_ok.mpr ⟨(), t, ran, ran'⟩, us'.trans us, members'⟩

theorem membersOf_memberAdded (v : Nat) :
    membersOf gid (memberAdded v gid s) = insert v (membersOf gid s) := by
  unfold memberAdded
  split
  case isTrue has =>
    have isMember : v ∈ membersOf gid s := contains_iff_mem.mp has
    exact (Set.insert_eq_of_mem isMember).symm
  case isFalse =>
    ext u
    simp [membersOf]

theorem addMember_leaves (mem : Option Nat) : Leaves rid gid (addMember rid gid mem) s
    (membersOf gid s ∪ {u | some u = mem ∧ u ∈ usersOf rid s}) := by
  cases mem with
  | none => exact ⟨s, rfl, rfl, by simp⟩
  | some value =>
    cases hit : findUser rid value s with
    | none =>
      refine ⟨s, by simp [addMember, hit], rfl, ?_⟩
      have nobody : {u | some u = some value ∧ u ∈ usersOf rid s} = ∅ := by
        ext u
        simp +contextual [usersOf, hit]
      rw [nobody, Set.union_empty]
    | some user =>
      have same : user.id = value := by
        have test := find?_some hit
        simp only [and_eq_true, decide_eq_true_eq] at test
        exact test.1
      refine ⟨memberAdded value gid s, by simp [addMember, hit, same], ?_, ?_⟩
      · unfold memberAdded
        split <;> rfl
      · rw [membersOf_memberAdded, Set.insert_eq, Set.union_comm]
        congr 1
        ext u
        simp +contextual [usersOf, hit]

theorem addMembers_leaves (members : List (Option Nat)) :
    Leaves rid gid (addMembers rid gid members) s
      (membersOf gid s ∪ {u | some u ∈ members ∧ u ∈ usersOf rid s}) := by
  induction members generalizing s with
  | nil => exact ⟨s, rfl, rfl, by simp⟩
  | cons mem members ih =>
    refine (addMember_leaves mem).bind fun t us now => ?_
    have rest := ih (s := t)
    rw [us, now, Set.union_assoc] at rest
    convert rest using 2
    ext u
    simp only [mem_cons, Set.mem_union, Set.mem_ofPred_eq]
    tauto

end Runs

section Patched

variable {spelled : List Char → Option Nat} {rid gid : Nat} {s : Store}

/-- A member from the start or listed on the way, and not removed since. -/
def Stays (spelled : List Char → Option Nat) (realmId groupId : Nat) (s : Store)
    (ops : List MemberOp) (u : Nat) : Prop :=
  u ∈ membersOf groupId s ∧ (∀ op ∈ ops, ¬op.Removes spelled u) ∨
    Since (MemberOp.Lists (usersOf realmId s) u) (MemberOp.Removes spelled u) ops

variable {ops : List MemberOp}

theorem stays_concat {op : MemberOp} {u : Nat} :
    Stays spelled rid gid s (ops ++ [op]) u ↔ op.Lists (usersOf rid s) u ∨
      Stays spelled rid gid s ops u ∧ ¬op.Removes spelled u := by
  simp only [Stays, since_concat, mem_append, mem_singleton, or_imp, forall_and, forall_eq]
  tauto

theorem removeMember_leaves (v : Identifier) : Leaves rid gid (removeMember spelled gid v.text) s
      (membersOf gid s \ {u | spelled v.text = some u}) := by
  unfold removeMember
  cases named : spelled v.text with
  | none => exact ⟨s, rfl, rfl, by simp⟩
  | some uid =>
    refine ⟨memberRemoved uid gid s, rfl, rfl, ?_⟩
    ext u
    simp only [membersOf, memberRemoved, mem_filter, decide_eq_true_eq]
    exact and_congr_right fun _ => by simp [eq_comm (a := uid)]

/-- The group after one operation, as the code carries it out. -/
theorem patchMembers_leaves (op : MemberOp) :
    Leaves rid gid (patchMembers spelled rid gid op.operation) s
      {u | op.Lists (usersOf rid s) u ∨ u ∈ membersOf gid s ∧ ¬op.Removes spelled u} := by
  cases op with
  | add members | replace members =>
    have listed : Leaves rid gid (addMembers rid gid members) s _ :=
      addMembers_leaves members
    convert listed using 1
    · simp [patchMembers, MemberOp.operation]
    · ext u
      simp [MemberOp.Lists, MemberOp.Removes, or_comm]
  | clear =>
    have nothing : extractMemberValueFromPath membersPath = none := extract_none (by decide)
    exact ⟨s, by simp [patchMembers, MemberOp.operation, nothing], rfl,
      by simp [MemberOp.Lists, MemberOp.Removes]⟩
  | remove style v =>
    cases style with
    | single =>
      have removed : Leaves rid gid (removeMember spelled gid v.text) s _ :=
        removeMember_leaves v
      convert removed using 1
      · have path : (MemberOp.remove .single v).operation.path.bind extractMemberValueFromPath =
            some v.text := extract_single v
        unfold patchMembers
        rw [path]
        rfl
      · ext u
        simp [MemberOp.Lists, MemberOp.Removes]
    | double =>
      have plain : Quote.single.mark ∉ "members[value eq ".toList ++ [Quote.double.mark] ++
          (v.text ++ [Quote.double.mark, ']']) := by
        intro mem
        rcases mem_append.mp mem with mem | mem
        · exact absurd mem (by decide)
        · rcases mem_append.mp mem with mem | mem
          · exact v.plain mem
          · exact absurd mem (by decide)
      have nothing := extract_none plain
      exact ⟨s, by simp only [patchMembers, MemberOp.operation, bind_some, nothing]; rfl, rfl,
        by simp [MemberOp.Lists, MemberOp.Removes]⟩

theorem patchEach_leaves (pre ops : List MemberOp) {t : Store} (us : usersOf rid t = usersOf rid s)
    (now : membersOf gid t = {u | Stays spelled rid gid s pre u}) :
    Leaves rid gid (patchEach spelled rid gid (ops.map (·.operation))) t
      {u | Stays spelled rid gid s (pre ++ ops) u} := by
  induction ops generalizing pre t with
  | nil => exact ⟨t, rfl, rfl, by rw [now, append_nil]⟩
  | cons op ops ih =>
    refine (patchMembers_leaves op).bind fun v us' next => ?_
    rw [List.append_cons]
    apply ih (pre ++ [op]) (us'.trans us)
    rw [next, us, now]
    ext u
    exact stays_concat.symm

/-- What the list of operations asks for. -/
def asked (spelled : List Char → Option Nat) (realmId groupId : Nat) (s : Store)
    (ops : List MemberOp) : Set Nat :=
  ops.foldl (MemberOp.apply spelled (usersOf realmId s)) (membersOf groupId s)

/-- What stays is what was asked for, and the users that an operation spared. -/
theorem mem_asked {u : Nat} : u ∈ asked spelled rid gid s ops ↔ Stays spelled rid gid s ops u ∧
      ¬Since (MemberOp.Spares spelled (usersOf rid s) u)
        (MemberOp.Lists (usersOf rid s) u) ops := by
  induction ops using List.reverseRecOn with
  | nil => simp [asked, Stays, Since]
  | append_singleton ops op ih =>
    rw [asked, List.foldl_concat, ← asked, stays_concat, since_concat]
    cases op with
    | add members =>
      simp only [MemberOp.apply, MemberOp.Lists, MemberOp.Removes, MemberOp.Spares, Set.mem_union,
        Set.mem_ofPred_eq, ih]
      tauto
    | replace members =>
      simp only [MemberOp.apply, MemberOp.Lists, MemberOp.Removes, MemberOp.Spares, Set.mem_ofPred_eq]
      tauto
    | remove style v =>
      cases style <;>
        simp only [MemberOp.apply, MemberOp.Lists, MemberOp.Removes, MemberOp.Spares, Set.mem_sdiff,
          Set.mem_ofPred_eq, ih] <;> tauto
    | clear =>
      simp [MemberOp.apply, MemberOp.Lists, MemberOp.Spares]

/-- The members after a patch are those that it asks for, among the users of the realm, and a PUT
that lists them leaves the same. -/
structure Follows (spelled : List Char → Option Nat) (realmId groupId : Nat) (s : Store)
    (ops : List MemberOp) : Prop where
  patched : membersOf groupId
      ((scimPatch spelled realmId groupId (ops.map (·.operation))).run s).2 =
    asked spelled realmId groupId s ops ∩ usersOf realmId s
  put : ∀ scimGroup listed t, scimGroup.members = some listed →
    {u | some u ∈ listed} = asked spelled realmId groupId s ops ∩ usersOf realmId s →
    (scimUpdate realmId groupId scimGroup).run s = (.ok (), t) →
    membersOf groupId t = asked spelled realmId groupId s ops ∩ usersOf realmId s

theorem groupUpdated_users (dto : UpdateGroupDto) : (groupUpdated gid dto s).2.users = s.users := by
  unfold groupUpdated
  split
  · rfl
  · split <;> rfl

theorem scimUpdate_members {scimGroup : ScimGroup} {mem : List (Option Nat)} {t : Store}
    (members : scimGroup.members = some mem)
    (ran : (scimUpdate rid gid scimGroup).run s = (.ok (), t)) :
    membersOf gid t = {u | some u ∈ mem} ∩ usersOf rid s := by
  simp only [scimUpdate, run_read_bind, run_orFail_bind_ok, run_require_bind_ok, run_atomic_bind,
    members, replaceMembers, run_modify_bind] at ran
  obtain ⟨old, -, -, -, ran⟩ := ran
  have leaves : Leaves rid gid (addMembers rid gid mem)
      (membersCleared gid (groupUpdated gid scimGroup.data s).2) _ := addMembers_leaves mem
  obtain ⟨t', ran', -, same⟩ := leaves
  rw [ran] at ran'
  cases ran'
  have us : usersOf rid (membersCleared gid (groupUpdated gid scimGroup.data s).2) =
      usersOf rid s := by
    unfold usersOf findUser
    rw [show (membersCleared gid _).users = _ from groupUpdated_users scimGroup.data]
  rw [same, us]
  ext u
  simp [membersOf, membersCleared]

/-- A patch does what it says exactly when nobody who stays was to be dropped by a `replace`, by a
removal in double quotes or by the removal of all, and was not listed again since. -/
theorem patch_follows_iff (hit : (findGroup rid gid s).isSome) : Follows spelled rid gid s ops ↔
      ∀ u, Stays spelled rid gid s ops u → u ∈ usersOf rid s ∧
        ¬Since (MemberOp.Spares spelled (usersOf rid s) u)
          (MemberOp.Lists (usersOf rid s) u) ops := by
  have start : membersOf gid s = {u | Stays spelled rid gid s [] u} := by
    ext u
    simp [Stays, Since]
  obtain ⟨t, ran, -, members⟩ := patchEach_leaves [] ops rfl start
  have result : ((scimPatch spelled rid gid (ops.map (·.operation))).run s).2 = t := by
    rw [scimPatch, run_read_bind, hit, require_true, done_bind, ran]
  constructor
  · intro follows u stays
    have mem : u ∈ membersOf gid t := members ▸ stays
    rw [← result, follows.patched] at mem
    exact ⟨mem.2, (mem_asked.mp mem.1).2⟩
  · intro clean
    constructor
    · rw [result, members]
      ext u
      constructor
      · exact fun stays => ⟨mem_asked.mpr ⟨stays, (clean u stays).2⟩, (clean u stays).1⟩
      · exact fun mem => (mem_asked.mp mem.1).1
    · intro scimGroup listed t members same ran
      rw [scimUpdate_members members ran, same, Set.inter_assoc, Set.inter_self]

end Patched

def staffed : Store where
  users := [{ id := 2, realmId := 1, username := "ann" }, { id := 3, realmId := 1, username := "bob" }]
  groups := [{ id := 5, realmId := 1, name := "staff" }]
  userGroups := [⟨2, 5⟩]

theorem added_member_joins : Follows (fun _ => none) 1 5 staffed [.add [some 3]] := by
  refine (patch_follows_iff rfl).mpr fun u stays => ⟨?_, ?_⟩
  · rcases stays with ⟨mem, -⟩ | ⟨pre, op, after, -, listed, -⟩
    · have isAnn : u = 2 := by simpa [membersOf, staffed] using mem
      subst isAnn
      rfl
    · cases op with
      | add members | replace members => exact listed.2
      | remove style v => exact listed.elim
      | clear => exact listed.elim
  · rintro ⟨pre, op, after, same, spared, -⟩
    have isAdd : op ∈ [.add [some 3]] := same ▸ (by simp)
    rw [mem_singleton.mp isAdd] at spared
    exact spared

theorem replaced_member_stays : ¬Follows (fun _ => none) 1 5 staffed [.replace [some 3]] := by
  intro follows
  have stays : ⟨2, 5⟩ ∈ ((scimPatch (fun _ => none) 1 5
      ([MemberOp.replace [some 3]].map (·.operation))).run staffed).2.userGroups := by decide
  have mem : 2 ∈ membersOf 5 _ := stays
  rw [follows.patched] at mem
  simp [asked, MemberOp.apply] at mem

end Idenplane.Groups
