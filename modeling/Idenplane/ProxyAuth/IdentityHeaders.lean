import Idenplane.Store
import Idenplane.Lib.Text
import Idenplane.Lib.Properties

/-! # The identity headers of a proxied application

`ProxyAuthService.buildIdentityHeaders`, and what `verify` answers with them.
-/

namespace Idenplane.ProxyAuth

open List

open Properties (Object get get_set_self)

/-- The names of the headers consist of letters, digits and hyphens. -/
structure ProxyApplication where
  enabled : Bool := true
  userHeader : String := "X-Forwarded-User"
  emailHeader : String := "X-Forwarded-Email"
  nameHeader : String := "X-Forwarded-Preferred-Username"
  groupsHeader : String := "X-Forwarded-Groups"

def isControl (c : Char) : Bool :=
  c.toNat < 0x20 || c.toNat = 0x7f || (0x80 ≤ c.toNat && c.toNat ≤ 0x9f)

def sanitize (value : String) : String :=
  Text.trim (String.ofList (value.toList.filter (!isControl ·)))

def groupNames (store : Store) (user : User) : List String :=
  (store.userGroups.filter (·.userId = user.id)).filterMap fun link =>
    (store.groups.find? (·.id = link.groupId)).map (·.name)

def fullName (user : User) : String :=
  let name := " ".intercalate ([user.firstName, user.lastName].filterMap given)
  if name = "" then user.username else name

def buildIdentityHeaders (store : Store) (app : ProxyApplication) (user : User) :
    Object String String :=
  [(app.userHeader, sanitize user.username), (app.emailHeader, sanitize (user.email.getD "")),
    (app.nameHeader, sanitize (fullName user)),
    (app.groupsHeader, sanitize (",".intercalate (groupNames store user)))].foldl
    (fun headers header => Properties.set headers header.1 header.2) []

/-- The characters that `setHeader` takes in a value. -/
def isFieldChar (c : Char) : Bool :=
  c = '\t' || (0x20 ≤ c.toNat && c.toNat ≤ 0x7e) || (0x80 ≤ c.toNat && c.toNat ≤ 0xff)

inductive Response where
  | notFound
  | ok (headers : Object String String)
  | unauthorized
  | toStart
  /-- `setHeader` throws. -/
  | throws
  deriving DecidableEq

/-- `verify`, with the application of the path and the user of the session. -/
def verify (store : Store) (app : Option ProxyApplication) (session : Option User)
    (wantsHtml : Bool) : Response :=
  match app.filter (·.enabled) with
  | none => .notFound
  | some app =>
    match session with
    | some user =>
      let headers := buildIdentityHeaders store app user
      if headers.all fun header => header.2.toList.all isFieldChar then .ok headers else .throws
    | none => if wantsHtml then .toStart else .unauthorized

/-- The texts that the headers of a user are made of. -/
def texts (store : Store) (user : User) : List String :=
  [user.username, user.email.getD "", user.firstName.getD "", user.lastName.getD ""] ++
    groupNames store user

/-- The names can be told from each other in the list: none is empty or has a comma or a control
character, and the list has no white space around it. -/
def Separable (names : List String) : Prop :=
  (∀ name ∈ names, name ≠ "" ∧ ',' ∉ name.toList ∧ ∀ c ∈ name.toList, isControl c = false) ∧
    Text.trim (",".intercalate names) = ",".intercalate names

variable {s s' : Store} {app app' : ProxyApplication} {user user' : User} {c : Char}

theorem mem_sanitize {v : String} (mem : c ∈ (sanitize v).toList) :
    c ∈ v.toList ∧ isControl c = false := by
  rw [sanitize, Text.trim, toList_ofList, toList_ofList, mem_reverse] at mem
  have inner := mem_reverse.mp ((dropWhile_sublist _).subset mem)
  simpa using (dropWhile_sublist _).subset inner

theorem mem_intercalate {sep : List Char} {ns : List String}
    (mem : c ∈ sep.intercalate (ns.map String.toList)) :
    c ∈ sep ∨ ∃ name ∈ ns, c ∈ name.toList := by
  induction ns with
  | nil => cases mem
  | cons name rest ih =>
    cases rest with
    | nil => exact .inr ⟨name, mem_cons_self, by simpa using mem⟩
    | cons next more =>
      rw [map_cons, map_cons, intercalate_cons_cons, mem_append, mem_append] at mem
      rcases mem with (here | between) | later
      · exact .inr ⟨name, mem_cons_self, here⟩
      · exact .inl between
      · obtain between | ⟨other, isOther, inside⟩ := ih later
        · exact .inl between
        · exact .inr ⟨other, .tail _ isOther, inside⟩

variable {e : String × String}

theorem mem_set {object : Object String String} {key v : String}
    (mem : e ∈ Properties.set object key v) : e = (key, v) ∨ e ∈ object := by
  induction object with
  | nil => exact .inl (mem_singleton.mp mem)
  | cons first object ih =>
    unfold Properties.set at mem
    split at mem
    · rcases mem_cons.mp mem with rfl | mem
      · exact .inl rfl
      · exact .inr (.tail _ mem)
    · rcases mem_cons.mp mem with rfl | mem
      · exact .inr mem_cons_self
      · exact (ih mem).imp_right (.tail _)

theorem mem_object {es object : Object String String}
    (mem : e ∈ es.foldl (fun object e => Properties.set object e.1 e.2) object) :
    e ∈ es ∨ e ∈ object := by
  induction es generalizing object with
  | nil => exact .inr mem
  | cons first es ih =>
    obtain later | here := ih mem
    · exact .inl (.tail _ later)
    · rcases mem_set here with rfl | mem
      · exact .inl mem_cons_self
      · exact .inr mem

variable {hd : String × String}

theorem header_value (mem : hd ∈ buildIdentityHeaders s app user) :
    ∃ value ∈ [user.username, user.email.getD "", fullName user,
      ",".intercalate (groupNames s user)], hd.2 = sanitize value := by
  obtain mem | none_ := mem_object mem
  · simp only [mem_cons, not_mem_nil, or_false] at mem
    rcases mem with rfl | rfl | rfl | rfl <;> exact ⟨_, by simp, rfl⟩
  · cases none_

open String

theorem mem_fullName (mem : c ∈ (fullName user).toList) :
    c = ' ' ∨ ∃ text ∈ texts s user, c ∈ text.toList := by
  simp only [fullName] at mem
  split at mem
  · exact .inr ⟨_, mem_cons_self, mem⟩
  · rw [toList_intercalate] at mem
    obtain space | ⟨name, isName, inside⟩ := mem_intercalate mem
    · exact .inl (by simpa using space)
    · obtain ⟨part, isPart, isGiven⟩ := mem_filterMap.mp isName
      have same := (filter_eq_some_iff.mp isGiven).1
      have isText : name ∈ [user.firstName.getD "", user.lastName.getD ""] := by
        rcases mem_cons.mp isPart with rfl | isPart
        · simp [same]
        · rw [mem_singleton.mp isPart] at same
          simp [same]
      exact .inr ⟨name, mem_append_left _ (.tail _ (.tail _ isText)), inside⟩

/-- A character of a header is a comma, a space, or from a text of the user, and no control. -/
theorem header_char (mem : hd ∈ buildIdentityHeaders s app user) (inside : c ∈ hd.2.toList) :
    isControl c = false ∧ (c = ',' ∨ c = ' ' ∨ ∃ text ∈ texts s user, c ∈ text.toList) := by
  obtain ⟨v, isValue, same⟩ := header_value mem
  rw [same] at inside
  obtain ⟨inside, plain⟩ := mem_sanitize inside
  refine ⟨plain, ?_⟩
  simp only [mem_cons, not_mem_nil, or_false] at isValue
  rcases isValue with rfl | rfl | rfl | rfl
  · exact .inr (.inr ⟨_, mem_cons_self, inside⟩)
  · exact .inr (.inr ⟨_, .tail _ mem_cons_self, inside⟩)
  · exact .inr (mem_fullName inside)
  · rw [toList_intercalate] at inside
    obtain comma | ⟨name, isName, inside⟩ := mem_intercalate inside
    · exact .inl (by simpa using comma)
    · exact .inr (.inr ⟨name, mem_append_right _ isName, inside⟩)

theorem Separable.sanitize {names : List String} (separable : Separable names) :
    ProxyAuth.sanitize (",".intercalate names) = ",".intercalate names := by
  have plain : ∀ c ∈ (",".intercalate names).toList, (!isControl c) = true := by
    intro c mem
    rw [toList_intercalate] at mem
    obtain comma | ⟨name, isName, inside⟩ := mem_intercalate mem
    · rw [mem_singleton.mp (by simpa using comma : c ∈ [','])]
      rfl
    · rw [(separable.1 name isName).2.2 c inside]
      rfl
  rw [ProxyAuth.sanitize, filter_eq_self.mpr plain, String.ofList_toList, separable.2]

theorem joined_inj {names names' : List String} (separable : Separable names)
    (separable' : Separable names') (same : ",".intercalate names = ",".intercalate names') :
    names = names' := by
  have split {ns : List String} (separable : Separable ns) :
      (",".intercalate ns).toList.splitOn ',' = if ns = [] then [[]] else ns.map String.toList := by
    rw [toList_intercalate]
    split
    case isTrue empty => simp [empty]
    case isFalse some_ =>
      refine splitOn_intercalate ',' (fun piece mem => ?_) (by simpa using some_)
      obtain ⟨name, isName, rfl⟩ := mem_map.mp mem
      exact (separable.1 name isName).2.1
  have pieces := split separable
  rw [same, split separable'] at pieces
  have nonempty {ns : List String} (separable : Separable ns) : ns.map String.toList ≠ [[]] := by
    intro blank
    cases ns with
    | nil => cases blank
    | cons name rest =>
      exact (separable.1 name mem_cons_self).1 (toList_inj.mp (cons.inj blank).1)
  split at pieces
  case isTrue empty =>
    split at pieces
    · simp_all
    · exact absurd pieces.symm (nonempty separable)
  case isFalse =>
    split at pieces
    · exact absurd pieces (nonempty separable')
    · exact (map_injective_iff.mpr fun _ _ => toList_inj.mp) pieces.symm

/-- No header carries a control character; with characters up to U+00FF in all texts of the user
`verify` answers; and the header of separable groups tells them. -/
theorem identity_headers (s : Store) (app : ProxyApplication) (user : User) :
    (∀ hd ∈ buildIdentityHeaders s app user, ∀ c ∈ hd.2.toList, isControl c = false) ∧
    (app.enabled = true → (∀ text ∈ texts s user, ∀ c ∈ text.toList, c.toNat ≤ 0xff) →
      ∀ html, verify s (some app) (some user) html = .ok (buildIdentityHeaders s app user)) ∧
    ∀ s' app' user', Separable (groupNames s user) → Separable (groupNames s' user') →
      get (buildIdentityHeaders s app user) app.groupsHeader =
        get (buildIdentityHeaders s' app' user') app'.groupsHeader →
      groupNames s user = groupNames s' user' := by
  refine ⟨fun hd mem c inside => (header_char mem inside).1, fun enabled small html => ?_,
    fun s' app' user' separable separable' same => ?_⟩
  · have fits : (buildIdentityHeaders s app user).all fun hd =>
        hd.2.toList.all isFieldChar := by
      rw [all_eq_true]
      intro hd mem
      rw [all_eq_true]
      intro c inside
      obtain ⟨plain, o⟩ := header_char mem inside
      have below : c.toNat ≤ 0xff := by
        obtain rfl | rfl | ⟨text, isText, inside⟩ := o
        · decide
        · decide
        · exact small text isText c inside
      simp only [isControl, Bool.or_eq_false_iff, Bool.and_eq_false_iff, decide_eq_false_iff_not] at plain
      simp only [isFieldChar, or_eq_true, and_eq_true, decide_eq_true_eq]
      omega
    rw [verify, Option.filter_some, if_pos enabled]
    exact if_pos fits
  · simp only [buildIdentityHeaders, List.foldl_cons, foldl_nil] at same
    rw [get_set_self, get_set_self, separable.sanitize, separable'.sanitize] at same
    exact joined_inj separable separable' (some.inj same)

def anna : User := { id := 1, realmId := 1, username := "anna" }
def boris : User := { id := 2, realmId := 1, username := "boris" }

def lukasz : User := { id := 3, realmId := 1, username := "łukasz" }

def teams : Store :=
  { groups := [⟨10, 1, "a,b", none, none⟩, ⟨11, 1, "a", none, none⟩, ⟨12, 1, "b", none, none⟩]
    userGroups := [⟨1, 10⟩, ⟨2, 11⟩, ⟨2, 12⟩] }

/-- The name of one user does not fit into a header, and two users with different groups get one
header for them. -/
theorem comma_and_letter : verify teams (some {}) (some lukasz) false = .throws ∧
    groupNames teams anna = ["a,b"] ∧ groupNames teams boris = ["a", "b"] ∧
    get (buildIdentityHeaders teams {} anna) "X-Forwarded-Groups" =
      get (buildIdentityHeaders teams {} boris) "X-Forwarded-Groups" := by
  decide +kernel

def vera : User := { id := 4, realmId := 2, username := "vera" }

def partners : Store :=
  { groups := [⟨20, 2, "a", none, none⟩, ⟨21, 2, "b", none, none⟩]
    userGroups := [⟨4, 20⟩, ⟨4, 21⟩] }

theorem separable_a_b : Separable ["a", "b"] := by
  refine ⟨?_, by decide +kernel⟩
  simp [isControl]

/-- Boris and Vera get one header for their groups, each on another server, and are in the same
ones. -/
theorem boris_and_vera :
    (∀ hd ∈ buildIdentityHeaders teams {} boris, ∀ c ∈ hd.2.toList, isControl c = false) ∧
    verify teams (some {}) (some boris) false = .ok (buildIdentityHeaders teams {} boris) ∧
    groupNames teams boris = groupNames partners vera := by
  obtain ⟨plain, answers, told⟩ := identity_headers teams {} boris
  have small : ((texts teams boris).all fun text => text.toList.all (·.toNat ≤ 0xff)) = true := by
    decide +kernel
  have borisIn : groupNames teams boris = ["a", "b"] := by decide +kernel
  have veraIn : groupNames partners vera = ["a", "b"] := by decide +kernel
  have same : get (buildIdentityHeaders teams {} boris) "X-Forwarded-Groups" =
      get (buildIdentityHeaders partners { groupsHeader := "X-Groups" } vera) "X-Groups" := by
    decide +kernel
  refine ⟨plain, answers rfl (fun text mem c inside => ?_) false,
    told partners { groupsHeader := "X-Groups" } vera (borisIn ▸ separable_a_b)
      (veraIn ▸ separable_a_b) same⟩
  simpa using all_eq_true.mp (all_eq_true.mp small text mem) c inside

end Idenplane.ProxyAuth
