import Idenplane.Scim.Isolation
import Idenplane.Scim.Patch

/-! # What a patch leaves behind

Each attribute a list of operations addresses should hold the value of the last operation that
addresses it.  The operations the patch reads are only some of these, so that the last one it
reads counts in place of the last one.
-/

namespace Idenplane.Scim

open List ScimPatchOperation DbUserWithGroups

open Properties (Object get set)

/-- An attribute that an operation addresses, and its value there. -/
structure Address where
  target : Attribute
  value : Js
  /-- Whether the name of the attribute is a key of a value without path. -/
  isKey : Bool

def namePart : String → Option Attribute
  | "givenName" => some .givenName
  | "familyName" => some .familyName
  | _ => none

def nestedNames : Js → List Address
  | .obj parts => parts.filterMap fun e =>
    (namePart e.1).map fun part => ⟨part, e.2, false⟩
  | _ => []

def addressedBy (e : String × Js) : List Address :=
  match attributeOf e.1 with
  | some a => [⟨a, e.2, true⟩]
  | none => if e.1 = "name" then nestedNames e.2 else []

def ScimPatchOperation.addresses (op : ScimPatchOperation) : List Address :=
  match op.path with
  | none => (entriesOf op.value).flatMap addressedBy
  | some path => ((attributeOf path).map fun a => ⟨a, op.value, false⟩).toList

/-- An operation of one of the two forms: an object of properties without a path, or a path to
an attribute and a value that is no object of properties. -/
def ScimPatchOperation.Addresses (op : ScimPatchOperation) : Prop :=
  (op.op = "add" ∨ op.op = "replace") ∧
    ((op.path = none ∧ ∃ properties, op.value = .obj properties) ∨
      (∃ a : Attribute, op.path = some a.name) ∧ ∀ properties, op.value ≠ .obj properties)

def lastOf (a : Attribute) (addresses : List Address) : Option Address :=
  (addresses.filter (·.target = a)).getLast?

theorem lastOf_append (a : Attribute) (pre after : List Address) :
    lastOf a (pre ++ after) = (lastOf a after).or (lastOf a pre) := by
  rw [lastOf, filter_append, getLast?_append]
  rfl

variable {addresses : List Address}

theorem lastOf_mem {a : Attribute} {addr : Address}
    (last : lastOf a addresses = some addr) : addr ∈ addresses ∧ addr.target = a := by
  have mem := mem_filter.mp (mem_of_getLast? last)
  exact ⟨mem.1, by simpa using mem.2⟩

section Reading

variable (rt : Js.Runtime)

/-- The address a list of e-mail addresses stands for; none when it has no entry. -/
def addressIn : List Js → Option Js
  | [] => some .null
  | first :: rest => primaryEmail rt first rest

def plainText : Js → Option Held
  | .null => some .nothing
  | .str text => some (.text text)
  | _ => none

/-- What a user with this value of the attribute holds; nothing for a value that is none of
the attribute's. -/
def Attribute.denotes : Attribute → Js → Option Held
  | active, .bool flag => some (.flag flag)
  | active, _ => none
  | emails, .arr items => (addressIn rt items).bind plainText
  | emails, _ => none
  | _, value => plainText value

end Reading

def textOf : Option String → Held
  | none => .nothing
  | some text => .text text

/-- What the row of a user holds of an attribute.  There is no column for the last five. -/
def DbUserWithGroups.held (user : DbUserWithGroups) : Attribute → Held
  | .userName => .text user.username
  | .givenName => textOf user.firstName
  | .familyName => textOf user.lastName
  | .emails => textOf user.email
  | .active => .flag user.enabled
  | .displayName | .title | .preferredLanguage | .locale | .timezone => .nothing

/-- The columns that are no attribute of the patch are the same in both rows. -/
def SameOtherwise (user user' : DbUserWithGroups) : Prop :=
  user'.id = user.id ∧ user'.realmId = user.realmId ∧
    user'.federationLink = user.federationLink ∧ user'.createdAt = user.createdAt ∧
    user'.userGroups = user.userGroups

/-- The row is as if the operations had been applied one after the other. -/
def Applied (rt : Js.Runtime) (operations : List ScimPatchOperation)
    (user user' : DbUserWithGroups) : Prop :=
  SameOtherwise user user' ∧ ∀ a : Attribute,
      (∀ address, lastOf a (operations.flatMap (·.addresses)) = some address →
        a.denotes rt address.value = some (user'.held a)) ∧
      (lastOf a (operations.flatMap (·.addresses)) = none → user'.held a = user.held a)

def Address.isRead (address : Address) : Bool :=
  address.isKey &&
    match address.target, address.value with
    | .emails, .arr (_ :: _) => true
    | .emails, _ => false
    | _, _ => true

def Address.written (rt : Js.Runtime) (address : Address) : Js :=
  match address.target, address.value with
  | .emails, .arr (first :: rest) => (primaryEmail rt first rest).getD .undefined
  | _, value => value

def readAddresses (operations : List ScimPatchOperation) : List Address :=
  (operations.flatMap (·.addresses)).filter (·.isRead)

def leftBy (rt : Js.Runtime) (user : DbUserWithGroups) (a : Attribute) : Option Address → Held
  | none => user.held a
  | some address => (scalar (address.written rt)).getD (user.held a)

section Patch

variable {rt : Js.Runtime}

def Reads (rt : Js.Runtime) (before after : Object String Js) (addresses : List Address) :
    Prop :=
  ∀ a : Attribute, get after a.column =
    ((lastOf a (addresses.filter (·.isRead))).map (·.written rt)).or (get before a.column)

theorem reads_nil (data : Object String Js) : Reads rt data data [] := fun _ => rfl

theorem Reads.append {first snd third : Object String Js} {pre after : List Address}
    (one : Reads rt first snd pre) (two : Reads rt snd third after) :
    Reads rt first third (pre ++ after) := by
  intro a
  rw [two a, one a, filter_append, lastOf_append]
  cases lastOf a (after.filter (·.isRead)) <;> rfl

variable {data : Object String Js}

theorem reads_unread (unread : ∀ addr ∈ addresses, addr.isRead = false) :
    Reads rt data data addresses := by
  intro a
  have empty : addresses.filter (·.isRead) = [] := by
    simpa [filter_eq_nil_iff] using unread
  rw [empty]
  rfl

variable {v : Js}

theorem reads_set (addr : Address) (isRead : addr.isRead = true) (written : addr.written rt = v) :
    Reads rt data (set data addr.target.column v) [addr] := by
  intro a
  have kept : [addr].filter (·.isRead) = [addr] := by simp [isRead]
  rw [kept]
  by_cases same : addr.target = a
  · subst same
    simp [lastOf, written]
  · have differs : a.column ≠ addr.target.column := fun equal =>
      same (column_inj.mp equal).symm
    rw [Properties.get_set_of_ne differs]
    simp [lastOf, same]

theorem nestedNames_unread (v : Js) : ∀ addr ∈ nestedNames v, addr.isRead = false := by
  intro addr mem
  cases v with
  | obj parts =>
    obtain ⟨e, -, made⟩ := mem_filterMap.mp mem
    obtain ⟨part, -, rfl⟩ := map_eq_some_iff.mp made
    rfl
  | _ => cases mem

variable {key : String}

theorem patchProperty_reads {data data' : Object String Js} {val : Js}
    (ran : patchProperty rt data key val = some data') :
    Reads rt data data' (addressedBy (key, val)) := by
  unfold patchProperty at ran
  unfold addressedBy
  cases known : attributeOf key with
  | none =>
    rw [known] at ran
    cases ran
    dsimp only
    split
    · exact reads_unread (nestedNames_unread val)
    · exact reads_nil data
  | some a =>
    rw [known] at ran
    cases a with
    | userName =>
      obtain ⟨text, -, rest⟩ := bind_eq_some_iff.mp ran
      cases rest
      exact reads_set ⟨.userName, val, true⟩ rfl rfl
    | emails =>
      cases val with
      | arr xs =>
        cases xs with
        | nil =>
          cases ran
          exact reads_unread (by simp [Address.isRead])
        | cons first rest =>
          obtain ⟨email, hit, made⟩ := bind_eq_some_iff.mp ran
          cases made
          exact reads_set ⟨.emails, .arr (first :: rest), true⟩ rfl
            (by simp only [Address.written, hit, getD_some])
      | _ =>
        cases ran
        exact reads_unread (by simp [Address.isRead])
    | givenName | familyName | displayName | active | title | preferredLanguage | locale
      | timezone =>
        cases ran
        exact reads_set ⟨_, val, true⟩ rfl rfl

variable {es : List (String × Js)}

section

variable {data data' : Object String Js}

theorem entries_reads (ran : es.foldlM (fun res e => patchProperty rt res e.1 e.2) data =
      some data') : Reads rt data data' (es.flatMap addressedBy) := by
  induction es generalizing data with
  | nil =>
    cases ran
    exact reads_nil _
  | cons e rest ih =>
    obtain ⟨next, first, later⟩ := bind_eq_some_iff.mp ran
    exact (patchProperty_reads first).append (ih later)

theorem patchProperty_distinct {val : Js}
    (distinct : Properties.Distinct data) (ran : patchProperty rt data key val = some data') :
    Properties.Distinct data' := by
  unfold patchProperty at ran
  split at ran
  · cases ran
    exact distinct
  · obtain ⟨text, -, made⟩ := bind_eq_some_iff.mp ran
    cases made
    exact distinct.set _ _
  · split at ran
    · obtain ⟨email, -, made⟩ := bind_eq_some_iff.mp ran
      cases made
      exact distinct.set _ _
    · cases ran
      exact distinct
  · cases ran
    exact distinct.set _ _

theorem entries_distinct (distinct : Properties.Distinct data)
    (ran : es.foldlM (fun res e => patchProperty rt res e.1 e.2) data =
      some data') : Properties.Distinct data' := by
  induction es generalizing data with
  | nil =>
    cases ran
    exact distinct
  | cons e rest ih =>
    obtain ⟨next, first, later⟩ := bind_eq_some_iff.mp ran
    exact ih (patchProperty_distinct distinct first) later

end

theorem name_not_numeral (a : Attribute) : a.name.toList.all Char.isDigit = false := by
  cases a <;> decide

theorem attributeOf_index (k : Nat) : attributeOf (toString k) = none := by
  cases known : attributeOf (toString k) with
  | none => rfl
  | some a =>
    have ds : (toString k).toList.all Char.isDigit = true := by
      rw [all_eq_true]
      intro c mem
      rw [Nat.toString_eq_ofList_toDigits, toList_ofList] at mem
      exact Nat.isDigit_of_mem_toDigits (by decide) (by decide) mem
    rw [← name_of_attributeOf known, name_not_numeral] at ds
    cases ds

theorem patchProperty_unknown (unknown : attributeOf key = none)
    (data : Object String Js) (val : Js) : patchProperty rt data key val = some data := by
  unfold patchProperty
  rw [unknown]

/-- The keys of a list of values are numerals, and no attribute has such a name. -/
theorem applyPatchValue_items (xs : List Js) : applyPatchValue rt (.arr xs) = some [] := by
  have unchanged (es : List (String × Js)) (unknown : ∀ e ∈ es, attributeOf e.1 = none) :
      es.foldlM (fun res e => patchProperty rt res e.1 e.2) [] = some [] := by
    induction es with
    | nil => rfl
    | cons e rest ih =>
      rw [foldlM_cons, patchProperty_unknown (unknown e mem_cons_self)]
      exact ih fun other later => unknown other (.tail _ later)
  apply unchanged
  intro e mem
  obtain ⟨k, bound, rfl⟩ := mem_mapIdx.mp mem
  exact attributeOf_index k

variable {op : ScimPatchOperation}

theorem patchOperation_pathed {data data' : Object String Js}
    (bare : ∀ properties, op.value ≠ .obj properties)
    (ran : patchOperation rt data op = some data') : data' = data := by
  unfold patchOperation at ran
  split at ran
  · split at ran
    · rename_i isObj
      cases v : op.value with
      | obj properties => exact absurd v (bare properties)
      | arr xs =>
        rw [v, applyPatchValue_items] at ran
        cases ran
        rfl
      | _ => simp [v, isObject] at isObj
    · cases ran
      rfl
  · cases ran
    rfl

theorem patchOperation_reads {data data' : Object String Js}
    (wellFormed : op.Addresses) (ran : patchOperation rt data op = some data') :
    Reads rt data data' op.addresses := by
  obtain ⟨isOp, keyed | pathed⟩ := wellFormed
  · obtain ⟨noPath, properties, isObj⟩ := keyed
    rw [patchOperation, if_pos isOp, isObj] at ran
    obtain ⟨patchData, applied, made⟩ := bind_eq_some_iff.mp ran
    cases made
    have added := entries_reads applied
    have distinct : Properties.Distinct patchData :=
      entries_distinct (by simp [Properties.Distinct]) applied
    intro a
    rw [addresses, noPath, isObj, assignAll,
      Properties.get_foldl_set distinct, added a]
    cases lastOf a (((entriesOf (.obj properties)).flatMap addressedBy).filter (·.isRead)) <;> rfl
  · obtain ⟨⟨a, isPath⟩, bare⟩ := pathed
    rw [patchOperation_pathed bare ran]
    apply reads_unread
    intro addr mem
    rw [addresses, isPath] at mem
    simp only [attributeOf_name, map_some, toList_some, mem_singleton] at mem
    subst mem
    rfl

variable {ops : List ScimPatchOperation}

theorem operations_read {data data' : Object String Js} (wellFormed : ∀ op ∈ ops, op.Addresses)
    (ran : ops.foldlM (patchOperation rt) data = some data') :
    Reads rt data data' (ops.flatMap (·.addresses)) := by
  induction ops generalizing data with
  | nil =>
    cases ran
    exact reads_nil _
  | cons op rest ih =>
    obtain ⟨next, first, later⟩ := bind_eq_some_iff.mp ran
    have now := patchOperation_reads (wellFormed op mem_cons_self) first
    exact now.append (ih (fun other mem => wellFormed other (.tail _ mem)) later)

variable {u u' : DbUserWithGroups} {now : Int}

theorem updated_same (ran : u.updated now data = some u') : SameOtherwise u u' := by
  unfold updated at ran
  split at ran
  · cases ran
  · obtain ⟨uname, -, ran⟩ := bind_eq_some_iff.mp ran
    obtain ⟨email, -, ran⟩ := bind_eq_some_iff.mp ran
    obtain ⟨firstName, -, ran⟩ := bind_eq_some_iff.mp ran
    obtain ⟨lastName, -, ran⟩ := bind_eq_some_iff.mp ran
    obtain ⟨enabled, -, ran⟩ := bind_eq_some_iff.mp ran
    cases ran
    exact ⟨rfl, rfl, rfl, rfl, rfl⟩

theorem readColumn_held {α : Type} {accepts : Held → Option α} {shows : α → Held}
    (faithful : ∀ held v, accepts held = some v → shows v = held)
    {cur v : α} {property : Option Js}
    (ran : readColumn accepts cur property = some v) :
    shows v = (property.bind scalar).getD (shows cur) := by
  unfold readColumn at ran
  split at ran
  · cases ran
    rfl
  · cases ran
    rfl
  · rename_i property _
    obtain ⟨held, isScalar, ok⟩ := bind_eq_some_iff.mp ran
    rw [bind_some, isScalar, getD_some]
    exact faithful held v ok

theorem required_shows (held : Held) (v : String) (ok : held.required = some v) :
    Held.text v = held := by
  cases held <;> cases ok
  rfl

theorem nullable_shows (held : Held) (v : Option String)
    (ok : held.nullable = some v) : textOf v = held := by
  cases held <;> cases ok <;> rfl

theorem boolean_shows (held : Held) (v : Bool) (ok : held.boolean = some v) :
    Held.flag v = held := by
  cases held <;> cases ok
  rfl

theorem get_mem (hit : get data key = some v) : (key, v) ∈ data := by
  induction data with
  | nil => cases hit
  | cons e rest ih =>
    by_cases same : e.1 = key
    · rw [Properties.get, if_pos same] at hit
      cases hit
      rw [← same]
      exact mem_cons_self
    · rw [Properties.get, if_neg same] at hit
      exact .tail _ (ih hit)

theorem scalar_unknown (ok : data.any unknownColumn = false)
    (column : String) (unknown : column ∉ userColumns) : (get data column).bind scalar = none := by
  cases hit : get data column with
  | none => rfl
  | some v =>
    have isKnown : unknownColumn (column, v) = false := by
      rw [any_eq_false] at ok
      simpa using ok _ (get_mem hit)
    cases v with
    | undefined => rfl
    | _ => exact absurd (by simpa [unknownColumn] using isKnown) unknown

theorem updated_held (ran : u.updated now data = some u') (a : Attribute) :
    u'.held a = ((get data a.column).bind scalar).getD (u.held a) := by
  unfold updated at ran
  split at ran
  · cases ran
  · rename_i accepted
    rw [not_eq_true] at accepted
    obtain ⟨uname, userName_, ran⟩ := bind_eq_some_iff.mp ran
    obtain ⟨email, email_, ran⟩ := bind_eq_some_iff.mp ran
    obtain ⟨firstName, firstName_, ran⟩ := bind_eq_some_iff.mp ran
    obtain ⟨lastName, lastName_, ran⟩ := bind_eq_some_iff.mp ran
    obtain ⟨enabled, enabled_, ran⟩ := bind_eq_some_iff.mp ran
    cases ran
    cases a with
    | userName => exact readColumn_held required_shows userName_
    | givenName => exact readColumn_held nullable_shows firstName_
    | familyName => exact readColumn_held nullable_shows lastName_
    | emails => exact readColumn_held nullable_shows email_
    | active => exact readColumn_held boolean_shows enabled_
    | displayName => rw [scalar_unknown accepted _ (by decide)]; rfl
    | title => rw [scalar_unknown accepted _ (by decide)]; rfl
    | preferredLanguage => rw [scalar_unknown accepted _ (by decide)]; rfl
    | locale => rw [scalar_unknown accepted _ (by decide)]; rfl
    | timezone => rw [scalar_unknown accepted _ (by decide)]; rfl

variable {rendering : Rendering} {users users' : List DbUserWithGroups} {rid uid : String}

variable {ans : ScimUser}

theorem answered_users
    (ran : (do let scimUser ← usersFindById rendering users rid uid; .ok (users, scimUser)) =
      Except.ok (users', ans)) : users' = users := by
  cases found : usersFindById rendering users rid uid with
  | error e => rw [found] at ran; cases ran
  | ok scimUser => rw [found] at ran; cases ran; rfl

theorem findUserRow_replace {users : List DbUserWithGroups}
    {u new : DbUserWithGroups} (stored : findUserRow users rid uid = some u)
    (same : SameOtherwise u new) :
    findUserRow (Table.replace (·.id) new users) rid uid = some new := by
  have isUser := find?_some stored
  have isNew : (decide (new.id = uid) && decide (new.realmId = rid)) = true := by
    rw [same.1, same.2.1]
    exact isUser
  rw [and_eq_true, decide_eq_true_eq, decide_eq_true_eq] at isNew
  unfold findUserRow at stored
  induction users with
  | nil => cases stored
  | cons row rest ih =>
    rw [findUserRow, Table.replace, map_cons]
    by_cases here : row.id = new.id
    · rw [if_pos here]
      exact find?_cons_of_pos (by simp [isNew])
    · have isOther : (decide (row.id = uid) && decide (row.realmId = rid)) = false := by
        simp [isNew.1 ▸ here]
      rw [if_neg here, find?_cons, isOther]
      rw [find?_cons, isOther] at stored
      exact ih stored

theorem patch_row {u : DbUserWithGroups} (row : findUserRow users rid uid = some u)
    (ran : patch rt rendering now users rid uid ops = .ok (users', ans)) :
    ∃ data u', ops.foldlM (patchOperation rt) [] = some data ∧
      findUserRow users' rid uid = some u' ∧ SameOtherwise u u' ∧
      ∀ a : Attribute, u'.held a = ((get data a.column).bind scalar).getD (u.held a) := by
  unfold patch at ran
  rw [row] at ran
  cases read : ops.foldlM (patchOperation rt) [] with
  | none => rw [read] at ran; cases ran
  | some data =>
    rw [read] at ran
    dsimp only at ran
    by_cases empty : data.isEmpty
    · rw [if_pos empty] at ran
      rw [List.isEmpty_iff] at empty
      subst empty
      have kept : users' = users := answered_users ran
      subst kept
      exact ⟨[], u, rfl, row, ⟨rfl, rfl, rfl, rfl, rfl⟩, fun _ => rfl⟩
    · rw [if_neg empty] at ran
      cases wrote : updateUser now users u data with
      | none => rw [wrote] at ran; cases ran
      | some next =>
        rw [wrote] at ran
        have kept : users' = next := answered_users ran
        obtain ⟨new, updated, unique⟩ := bind_eq_some_iff.mp wrote
        have same := updated_same updated
        have replaced : next = Table.replace (·.id) new users := by
          split at unique
          · cases unique
          · cases unique
            rfl
        rw [kept, replaced]
        exact ⟨data, new, rfl, findUserRow_replace row same, same, updated_held updated⟩

theorem scalar_of_plainText {held : Held} (isText : plainText v = some held) :
    scalar v = some held := by
  cases v <;> cases isText <;> rfl

theorem scalar_written {addr : Address} (isRead : addr.isRead = true) {held : Held}
    (denoted : addr.target.denotes rt addr.value = some held) :
    scalar (addr.written rt) = some held := by
  obtain ⟨tgt, v, isKey⟩ := addr
  cases tgt with
  | active =>
    cases v with
    | bool flag => exact denoted
    | _ => cases denoted
  | emails =>
    rw [Address.isRead, and_eq_true] at isRead
    cases v with
    | arr xs =>
      cases xs with
      | nil => cases isRead.2
      | cons first rest =>
        obtain ⟨email, hit, isText⟩ := bind_eq_some_iff.mp denoted
        rw [addressIn] at hit
        simp only [Address.written, hit, getD_some]
        exact scalar_of_plainText isText
    | _ => cases isRead.2
  | userName | givenName | familyName | displayName | title | preferredLanguage | locale
    | timezone => exact scalar_of_plainText denoted

theorem lastOf_read {a : Attribute} {address : Address}
    (last : lastOf a addresses = some address) (isRead : address.isRead = true) :
    lastOf a (addresses.filter (·.isRead)) = some address := by
  unfold lastOf at last ⊢
  obtain ⟨pre, split⟩ := getLast?_eq_some_iff.mp last
  rw [filter_comm, split, filter_append, filter_cons_of_pos isRead, filter_nil, getLast?_concat]

/-- A patch that succeeds has applied its operations exactly when, of every attribute they
address, the last value is a value of the attribute and either is read or repeats what the
values that are read have left. -/
theorem patch_applies_iff (wellFormed : ∀ op ∈ ops, op.Addresses)
    (stored : findUserRow users rid uid = some u)
    (ran : patch rt rendering now users rid uid ops = .ok (users', ans))
    (after : findUserRow users' rid uid = some u') :
    Applied rt ops u u' ↔ ∀ (a : Attribute) (addr : Address),
        lastOf a (ops.flatMap (·.addresses)) = some addr →
        ∃ held, a.denotes rt addr.value = some held ∧ (addr.isRead = false →
            held = leftBy rt u a (lastOf a (readAddresses ops))) := by
  obtain ⟨data, row, read, hit, same, holds⟩ := patch_row stored ran
  rw [after] at hit
  cases hit
  have left (a : Attribute) : u'.held a = leftBy rt u a (lastOf a (readAddresses ops)) := by
    rw [holds a, operations_read wellFormed read a]
    unfold readAddresses
    cases lastOf a ((ops.flatMap (·.addresses)).filter (·.isRead)) <;> rfl
  constructor
  · intro applied a addr last
    exact ⟨u'.held a, (applied.2 a).1 addr last, fun _ => left a⟩
  · intro cond
    refine ⟨same, fun a => ⟨?_, ?_⟩⟩
    · intro addr last
      obtain ⟨held, denoted, repeated⟩ := cond a addr last
      rw [denoted, left a]
      cases isRead : addr.isRead with
      | false => rw [repeated isRead]
      | true =>
        obtain ⟨-, rfl⟩ := lastOf_mem last
        rw [readAddresses, lastOf_read last isRead, leftBy, scalar_written isRead denoted]
        rfl
    · intro unaddressed
      have unread : lastOf a (readAddresses ops) = none := by
        have noAddress : ∀ addr ∈ ops.flatMap (·.addresses), addr.target ≠ a := by
          simpa [lastOf] using unaddressed
        simp only [lastOf, readAddresses, List.getLast?_eq_none_iff, List.filter_eq_nil_iff,
          mem_filter]
        intro addr mem
        simpa using noAddress addr mem.1
      rw [left a, unread, leftBy]

end Patch

def jsonRuntime : Js.Runtime where
  inherited _ _ := some .undefined
  numberOfText _ := .nan
  numberText := toString
  builtinText := id
  regExp _ := none

def alice : DbUserWithGroups :=
  ⟨"1", "acme", "alice", some "alice@acme.test", some "Alice", none, true, none, 0, 0, []⟩

def leaver : DbUserWithGroups := { alice with enabled := false, updatedAt := 5 }

/-- `active` as a key. -/
def deactivation : ScimPatchOperation where
  op := "replace"
  path := none
  value := .obj [("active", .bool false)]

/-- `active` as a path. -/
def pathedDeactivation : ScimPatchOperation where
  op := "replace"
  path := some "active"
  value := .bool false

theorem deactivation_applies : Applied jsonRuntime [deactivation] alice leaver := by
  have wellFormed : ∀ op ∈ [deactivation], op.Addresses := by
    intro op mem
    rw [mem_singleton] at mem
    subst mem
    exact ⟨.inr rfl, .inl ⟨rfl, _, rfl⟩⟩
  have ran : patch jsonRuntime plainRendering 5 [alice] "acme" "1" [deactivation] =
      .ok ([leaver], _) := rfl
  apply (patch_applies_iff wellFormed rfl ran rfl).mpr
  intro a addr last
  have only : [deactivation].flatMap (·.addresses) = [⟨.active, .bool false, true⟩] := rfl
  rw [only] at last
  obtain ⟨mem, isTarget⟩ := lastOf_mem last
  rw [mem_singleton] at mem
  subst mem
  subst isTarget
  exact ⟨.flag false, rfl, fun unread => by cases unread⟩

/-- The account stays enabled, and the answer is a success. -/
theorem pathed_deactivation_lost : pathedDeactivation.Addresses ∧
      (∃ ans, patch jsonRuntime plainRendering 5 [alice] "acme" "1" [pathedDeactivation] =
        .ok ([alice], ans)) ∧ ¬Applied jsonRuntime [pathedDeactivation] alice alice := by
  have wellFormed : pathedDeactivation.Addresses :=
    ⟨.inr rfl, .inr ⟨⟨.active, rfl⟩, fun properties => by intro isObj; cases isObj⟩⟩
  refine ⟨wellFormed, ⟨_, rfl⟩, ?_⟩
  intro applied
  have held := (applied.2 .active).1 ⟨.active, .bool false, false⟩ rfl
  revert held
  decide

end Idenplane.Scim
