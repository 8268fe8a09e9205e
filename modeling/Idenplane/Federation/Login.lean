import Idenplane.Federation.Ldap
import Idenplane.Login.PasswordGrant

/-! # Signing in through a directory

`authenticateViaFederation` asks the directories of a realm in turn, and looks the name up
here only after one of them has accepted the password. -/

namespace Idenplane.Federation

open Atomic Auth Login Prod

section

variable (network : Network) (deps : Deps)

def throughNetwork : Deps :=
  { deps with ldapAuthenticate := authenticate network, ldapSearchUser := searchUser network }

def federationsOf (realmId : Nat) (s : Store) : List UserFederation :=
  (s.userFederations.filter fun federation =>
    federation.realmId = realmId && federation.enabled).insertionSort (·.priority ≤ ·.priority)

/-- The loop of `authenticateViaFederation`, with the federation whose bind it relied on. -/
def tryBinds (realmId : Nat) (username password : String) :
    List UserFederation → Op (Option (Nat × UserFederation))
  | [] => pure none
  | federation :: rest =>
    if deps.ldapAuthenticate federation username password then do
      let known ← read (findUser realmId username)
      let user ← findOrImport deps realmId username federation known
      match user with
      | some user => pure (some (user.id, federation))
      | none => tryBinds realmId username password rest
    else tryBinds realmId username password rest

def federatedLogin (realmId : Nat) (username password : String) :
    Op (Option (Nat × UserFederation)) := do
  let federations ← read (federationsOf realmId)
  tryBinds deps realmId username password federations

theorem tryFederations_eq (rid : Nat) (username pw : String) (feds : List UserFederation) :
    tryFederations deps rid username pw feds = tryBinds deps rid username pw feds >>= fun ans =>
        pure (ans.map fst) := by
  induction feds with
  | nil => rfl
  | cons fed rest ih =>
    rw [tryFederations, tryBinds]
    split
    case isFalse => exact ih
    case isTrue =>
      rw [bind_assoc]
      congr 1
      funext known
      rw [bind_assoc]
      congr 1
      funext user
      cases user with
      | none => exact ih
      | some user => rfl

theorem authenticateViaFederation_eq (rid : Nat) (username pw : String) :
    authenticateViaFederation deps rid username pw =
      federatedLogin deps rid username pw >>= fun ans =>
        pure (ans.map fst) := by
  rw [authenticateViaFederation, federatedLogin, bind_assoc]
  congr 1
  funext feds
  exact tryFederations_eq deps rid username pw feds

/-- The federation whose bind lets in a user who has this very name here. -/
def firstAccepting (realmId : Nat) (username password : String) (s : Store) :
    Option UserFederation :=
  (federationsOf realmId s).find? (deps.ldapAuthenticate · username password)

def importable (username password : String) (federation : UserFederation) :
    Option (UserFederation × LdapUser) :=
  if deps.ldapAuthenticate federation username password && federation.importEnabled then
    (deps.ldapSearchUser federation username).map (federation, ·)
  else none

def firstImporting (realmId : Nat) (username password : String) (s : Store) :
    Option (UserFederation × LdapUser) :=
  (federationsOf realmId s).findSome? (importable deps username password)

end

variable {network : Network} {deps : Deps} {r : Realm} {username variant pw : String}
  {s t : Store} {user : User} {fed : UserFederation} {e : LdapUser} {id : Nat}

theorem federatedLogin_known (known : findUser r.id username s = some user) :
    (federatedLogin deps r.id username pw).run s =
      (.ok ((firstAccepting deps r.id username pw s).map (user.id, ·)), s) := by
  rw [federatedLogin, run_read_bind, firstAccepting]
  generalize federationsOf r.id s = federations
  induction federations with
  | nil => rfl
  | cons fed rest ih =>
    rw [tryBinds, find?_cons]
    cases accepts : deps.ldapAuthenticate fed username pw with
    | true => simp [known, findOrImport]
    | false => simpa using ih

def importFirst (realmId : Nat) (s : Store) :
    Option (UserFederation × LdapUser) → Except Failure (Option (Nat × UserFederation)) × Store
  | none => (.ok none, s)
  | some (federation, e) =>
    match importUser realmId federation e s with
    | (some user, t) => (.ok (some (user.id, federation)), t)
    | (none, t) => (.error .internal, t)

theorem federatedLogin_unknown (unknown : findUser r.id username s = none) :
    (federatedLogin deps r.id username pw).run s =
      importFirst r.id s (firstImporting deps r.id username pw s) := by
  rw [federatedLogin, run_read_bind, firstImporting]
  generalize federationsOf r.id s = federations
  induction federations with
  | nil => rfl
  | cons fed rest ih =>
    rw [tryBinds, List.findSome?_cons, importable]
    cases accepts : deps.ldapAuthenticate fed username pw with
    | false => simpa using ih
    | true =>
      simp only [if_true, run_read_bind, unknown, findOrImport, Bool.true_and]
      cases fed.importEnabled with
      | false => simpa using ih
      | true =>
        cases searched : deps.ldapSearchUser fed username with
        | none => simpa using ih
        | some e =>
          simp only [if_true, map_some, importFirst]
          rw [bind_assoc, run_atomic_bind]
          rcases importUser r.id fed e s with ⟨new, t⟩
          cases new with
          | none => rfl
          | some user => rfl

theorem importUser_created {rid : Nat} {new : User}
    (imports : importUser rid fed e s = (some new, t)) :
    t = { s with supply := s.supply + 1, users := new :: s.users } ∧
      new.id = s.supply ∧ new.realmId = rid ∧ new.username = e.uid ∧
      new.federationLink = some fed.id := by
  unfold importUser at imports
  split at imports
  case isTrue => cases imports
  case isFalse =>
    cases imports
    exact ⟨rfl, rfl, rfl, rfl, rfl⟩

theorem known_of_unchanged (ran : (federatedLogin deps r.id username pw).run s =
      (.ok (some (id, fed)), s)) :
    ∃ user, findUser r.id username s = some user ∧ user.id = id := by
  cases known : findUser r.id username s with
  | some user =>
    rw [federatedLogin_known known] at ran
    cases first : firstAccepting deps r.id username pw s with
    | none => simp [first] at ran
    | some other =>
      simp only [first, map_some, mk.injEq, ok.injEq, some.injEq, and_true] at ran
      exact ⟨user, rfl, ran.1⟩
  | none =>
    exfalso
    rw [federatedLogin_unknown known] at ran
    cases first : firstImporting deps r.id username pw s with
    | none => simp [first, importFirst] at ran
    | some hit =>
      obtain ⟨source, e⟩ := hit
      rw [first, importFirst] at ran
      cases imports : importUser r.id source e s with
      | mk new t =>
        rw [imports] at ran
        cases new with
        | none => cases ran
        | some user =>
          have same : t = s := congrArg snd ran
          have grown := congrArg Store.supply (importUser_created imports).1
          rw [same] at grown
          simp at grown

def Linked (id : Nat) (federation : UserFederation) (s : Store) : Prop :=
  ∃ user, findUserById id s = some user ∧ user.federationLink = some federation.id

def JustImported (id : Nat) (federation : UserFederation) (before after : Store) : Prop :=
  findUserById id before = none ∧ Linked id federation after

/-- A successful login came by a password that a bind of the user's own directory accepted,
and the other spelling then signs in the same user and changes nothing. -/
structure StaysWithDirectory (network : Network) (deps : Deps) (realm : Realm)
    (username variant password : String) (s : Store) : Prop where
  own : ∀ id federation t,
    (federatedLogin (throughNetwork network deps) realm.id username password).run s =
      (.ok (some (id, federation)), t) →
    password ≠ "" ∧ BoundAs network federation username password ∧
      (Linked id federation s ∨ JustImported id federation s t)
  again : ∀ id federation t,
    (federatedLogin (throughNetwork network deps) realm.id username password).run s =
      (.ok (some (id, federation)), t) →
    ∃ other, (federatedLogin (throughNetwork network deps) realm.id variant password).run t =
      (.ok (some (id, other)), t)

def isFree (realmId : Nat) (entry : LdapUser) (store : Store) : Bool :=
  !store.users.any fun user => user.realmId = realmId &&
    (user.username = entry.uid || (user.email.isSome && user.email = entry.email))

/-- Where a directory would sign somebody in, a password is given, the directory is the one the
user is linked to, and the other spelling is the one that is stored. -/
def OwnDirectory (deps : Deps) (realm : Realm) (username variant password : String)
    (s : Store) : Prop :=
  match findUser realm.id username s with
  | some user => ∀ federation, firstAccepting deps realm.id username password s = some federation →
      password ≠ "" ∧ user.federationLink = some federation.id ∧ variant = user.username
  | none => ∀ federation entry,
      firstImporting deps realm.id username password s = some (federation, entry) →
      isFree realm.id entry s = true → password ≠ "" ∧ variant = entry.uid

theorem findUser_named (known : findUser r.id username s = some user) :
    user ∈ s.users ∧ user.realmId = r.id ∧ user.username = username := by
  have named := find?_some known
  simp only [and_eq_true, decide_eq_true_eq] at named
  exact ⟨mem_of_find?_eq_some known, named⟩

theorem findUserById_stored (keys : UserKeys s) (row : user ∈ s.users) :
    findUserById user.id s = some user := by
  cases found : findUserById user.id s with
  | none =>
    have absent := find?_eq_none.mp found user row
    simp at absent
  | some other => rw [keys.findUserById row found]

/-- Another spelling signs in the same user exactly when it is the stored one. -/
theorem again_iff (keys : UserKeys t) (row : findUser r.id user.username t = some user)
    (accepted : ∃ fed ∈ federationsOf r.id t, deps.ldapAuthenticate fed variant pw = true) :
    (∃ other, (federatedLogin deps r.id variant pw).run t =
      (.ok (some (user.id, other)), t)) ↔ variant = user.username := by
  constructor
  · rintro ⟨other, ran⟩
    obtain ⟨hit, known, same⟩ := known_of_unchanged ran
    obtain ⟨mem, _, named⟩ := findUser_named known
    have isUser : hit = user := keys.unique hit mem user (findUser_named row).1 same
    rw [← isUser, named]
  · rintro rfl
    obtain ⟨fed, mem, accepts⟩ := accepted
    rw [federatedLogin_known row]
    cases first : firstAccepting deps r.id user.username pw t with
    | none =>
      have refused := find?_eq_none.mp first fed mem
      contradiction
    | some other => exact ⟨other, rfl⟩

theorem firstAccepting_spec (first : firstAccepting deps r.id username pw s = some fed) :
    fed ∈ federationsOf r.id s ∧ deps.ldapAuthenticate fed username pw = true :=
  ⟨mem_of_find?_eq_some first, by simpa using find?_some first⟩

theorem firstImporting_spec (first : firstImporting deps r.id username pw s = some (fed, e)) :
    fed ∈ federationsOf r.id s ∧ deps.ldapAuthenticate fed username pw = true := by
  obtain ⟨source, mem, brought⟩ := List.exists_of_findSome?_eq_some first
  unfold importable at brought
  split at brought
  case isTrue ok =>
    obtain ⟨hit, _, same⟩ := map_eq_some_iff.mp brought
    cases same
    simp only [and_eq_true] at ok
    exact ⟨mem, ok.1⟩
  case isFalse => cases brought

theorem importUser_iff {rid : Nat} {new : Option User}
    (imports : importUser rid fed e s = (new, t)) :
    new.isSome = true ↔ isFree rid e s = true := by
  unfold importUser at imports
  unfold isFree
  split at imports
  case isTrue taken =>
    cases imports
    simp [taken]
  case isFalse free =>
    cases imports
    simpa using free

section

variable (keys : UserKeys s)
  (alike : ∀ fed ∈ federationsOf r.id s, TreatsAlike network fed username variant)

include keys alike

theorem stays_known (known : findUser r.id username s = some user) :
    StaysWithDirectory network deps r username variant pw s ↔ ∀ fed,
        firstAccepting (throughNetwork network deps) r.id username pw s = some fed →
        pw ≠ "" ∧ user.federationLink = some fed.id ∧ variant = user.username := by
  obtain ⟨mem, _, named⟩ := findUser_named known
  have row : findUser r.id user.username s = some user := by rwa [named]
  have ran : ∀ fed, firstAccepting (throughNetwork network deps) r.id username pw s = some fed →
      (federatedLogin (throughNetwork network deps) r.id username pw).run s =
        (.ok (some (user.id, fed)), s) := by
    intro fed first
    rw [federatedLogin_known known, first]
    rfl
  have accepted : ∀ fed,
      firstAccepting (throughNetwork network deps) r.id username pw s = some fed →
      ∃ fed ∈ federationsOf r.id s,
        (throughNetwork network deps).ldapAuthenticate fed variant pw = true := by
    intro fed first
    obtain ⟨isOne, accepts⟩ := firstAccepting_spec first
    exact ⟨fed, isOne, (alike fed isOne).authenticate.trans accepts⟩
  constructor
  · intro stays fed first
    obtain ⟨notEmpty, _, whose⟩ := stays.own _ _ _ (ran fed first)
    have again := (again_iff keys row (accepted fed first)).mp (stays.again _ _ _ (ran fed first))
    cases whose with
    | inl linked =>
      obtain ⟨same, found, link⟩ := linked
      rw [findUserById_stored keys mem] at found
      cases found
      exact ⟨notEmpty, link, again⟩
    | inr imported =>
      have found := findUserById_stored keys mem
      rw [imported.1] at found
      cases found
  · intro cond
    have answered : ∀ id fed t,
        (federatedLogin (throughNetwork network deps) r.id username pw).run s =
          (.ok (some (id, fed)), t) →
        firstAccepting (throughNetwork network deps) r.id username pw s =
          some fed ∧ id = user.id ∧ t = s := by
      intro id fed t ans
      rw [federatedLogin_known known] at ans
      cases first : firstAccepting (throughNetwork network deps) r.id username pw s with
      | none => simp [first] at ans
      | some other =>
        rw [first] at ans
        cases ans
        exact ⟨rfl, rfl, rfl⟩
    constructor
    · intro id fed t ans
      obtain ⟨first, rfl, rfl⟩ := answered id fed t ans
      obtain ⟨notEmpty, link, _⟩ := cond fed first
      exact ⟨notEmpty, authenticate_bound (firstAccepting_spec first).2,
        .inl ⟨user, findUserById_stored keys mem, link⟩⟩
    · intro id fed t ans
      obtain ⟨first, rfl, rfl⟩ := answered id fed t ans
      exact (again_iff keys row (accepted fed first)).mpr (cond fed first).2.2

theorem stays_unknown (unknown : findUser r.id username s = none) :
    StaysWithDirectory network deps r username variant pw s ↔ ∀ fed e,
        firstImporting (throughNetwork network deps) r.id username pw s = some (fed, e) →
        isFree r.id e s = true → pw ≠ "" ∧ variant = e.uid := by
  have again : ∀ fed e created t,
      firstImporting (throughNetwork network deps) r.id username pw s = some (fed, e) →
      importUser r.id fed e s = (some created, t) →
      ((∃ other, (federatedLogin (throughNetwork network deps) r.id variant pw).run t =
        (.ok (some (created.id, other)), t)) ↔ variant = e.uid) := by
    intro fed e created t first imports
    obtain ⟨grown, _, home, named, _⟩ := importUser_created imports
    have keysAfter : UserKeys t := by
      have searched : Searched r.id s (importUser r.id fed e s).2
          (importUser r.id fed e s).1 := importUser_ok fed e keys
      rw [imports] at searched
      exact searched.keys
    have stored : findUser r.id created.username t = some created := by
      rw [grown, findUser, find?_cons]
      simp [home]
    have accepted : ∃ fed ∈ federationsOf r.id t,
        (throughNetwork network deps).ldapAuthenticate fed variant pw = true := by
      obtain ⟨isOne, accepts⟩ := firstImporting_spec first
      rw [grown]
      exact ⟨fed, isOne, (alike fed isOne).authenticate.trans accepts⟩
    rw [again_iff keysAfter stored accepted, named]
  constructor
  · intro stays fed e first free
    rcases imports : importUser r.id fed e s with ⟨res, t⟩
    obtain ⟨created, rfl⟩ := isSome_iff_exists.mp ((importUser_iff imports).mpr free)
    have ran : (federatedLogin (throughNetwork network deps) r.id username pw).run s =
        (.ok (some (created.id, fed)), t) := by
      rw [federatedLogin_unknown unknown, first, importFirst, imports]
    exact ⟨(stays.own _ _ _ ran).1,
      (again fed e created t first imports).mp (stays.again _ _ _ ran)⟩
  · intro cond
    have answered : ∀ id fed t,
        (federatedLogin (throughNetwork network deps) r.id username pw).run s =
          (.ok (some (id, fed)), t) →
        ∃ e created,
          firstImporting (throughNetwork network deps) r.id username pw s = some (fed, e) ∧
          importUser r.id fed e s = (some created, t) ∧ id = created.id := by
      intro id fed t ans
      rw [federatedLogin_unknown unknown] at ans
      cases first : firstImporting (throughNetwork network deps) r.id username pw s with
      | none => simp [first, importFirst] at ans
      | some hit =>
        obtain ⟨source, e⟩ := hit
        rcases imports : importUser r.id source e s with ⟨res, after⟩
        rw [first, importFirst, imports] at ans
        cases res with
        | none => cases ans
        | some created =>
          cases ans
          exact ⟨e, created, rfl, imports, rfl⟩
    constructor
    · intro id fed t ans
      obtain ⟨e, created, first, imports, rfl⟩ := answered id fed t ans
      obtain ⟨grown, isNew, _, _, link⟩ := importUser_created imports
      have free := (importUser_iff imports).mp rfl
      have absent : findUserById created.id s = none := by
        apply find?_eq_none.mpr
        intro user mem same
        have drawn := keys.drawn user mem
        simp only [decide_eq_true_eq] at same
        omega
      have here : findUserById created.id t = some created := by
        rw [grown, findUserById, find?_cons]
        simp
      exact ⟨(cond fed e first free).1, authenticate_bound (firstImporting_spec first).2,
        .inr ⟨absent, created, here, link⟩⟩
    · intro id fed t ans
      obtain ⟨e, created, first, imports, rfl⟩ := answered id fed t ans
      have free := (importUser_iff imports).mp rfl
      exact (again fed e created t first imports).mpr (cond fed e first free).2

end

/-- `authenticateViaFederation` is `federatedLogin` without the federation.  Such a login stays
with its directory exactly where a password is given, the first directory that accepts it is the
one that the user is linked to, and the name is typed as it is stored. -/
theorem federated_login_stays (network : Network) (deps : Deps) (r : Realm)
    (username variant pw : String) (s : Store) (keys : UserKeys s)
    (alike : ∀ fed ∈ federationsOf r.id s, TreatsAlike network fed username variant) :
    authenticateViaFederation (throughNetwork network deps) r.id username pw =
        (federatedLogin (throughNetwork network deps) r.id username pw >>=
          fun ans => pure (ans.map fst)) ∧
      (StaysWithDirectory network deps r username variant pw s ↔
        OwnDirectory (throughNetwork network deps) r username variant pw s) := by
  refine ⟨authenticateViaFederation_eq _ _ _ _, ?_⟩
  unfold OwnDirectory
  cases known : findUser r.id username s with
  | none => exact stays_unknown keys alike known
  | some user => exact stays_known keys alike known

/-- Two servers that know the same name in any letter case, with a password each, and that let
everybody in who binds without one. -/
def twoServers : Network where
  bind url dn password :=
    password == "" || dn == "service" || (dn == "uid=ada" && password == url)
  unbind _ _ := true
  search _ _ filter :=
    if filter.toLower = "(&(objectclass=person)(uid=ada))" then
      some [{ dn := "uid=ada", attributes := [("uid", .text "ada")] }]
    else some []

def firstDirectory : UserFederation :=
  { id := 5, realmId := 1, priority := 1, connectionUrl := "one", bindDn := "service",
    userObjectClass := "person" }

def secondDirectory : UserFederation :=
  { id := 6, realmId := 1, priority := 2, connectionUrl := "two", bindDn := "service",
    userObjectClass := "person" }

def college : Realm := { id := 1, name := "college" }

def adaStore : Store where
  supply := 10
  userFederations := [firstDirectory, secondDirectory]
  users := [{ id := 1, realmId := 1, username := "ada", federationLink := some 6 }]

theorem adaStore_keys : UserKeys adaStore where
  unique := by simp [adaStore]
  drawn := by simp [adaStore]

def ada : User := { id := 1, realmId := 1, username := "ada", federationLink := some 6 }

/-- The password of her own directory, and her name as it is stored. -/
theorem ada_stays_with_directory :
    StaysWithDirectory twoServers Deps.transparent college "ada" "ada" "two" adaStore := by
  apply (federated_login_stays twoServers .transparent college "ada" "ada" "two" adaStore
    adaStore_keys fun fed _ => rfl).2.mpr
  have known : findUser college.id "ada" adaStore = some ada := rfl
  rw [OwnDirectory, known]
  intro fed first
  have second : firstAccepting (throughNetwork twoServers .transparent) college.id "ada" "two"
      adaStore = some secondDirectory := by decide +kernel
  rw [second] at first
  cases first
  exact ⟨by decide, rfl, rfl⟩

theorem servers_ignore_case : ∀ fed ∈ federationsOf college.id adaStore,
      TreatsAlike twoServers fed "ada" "Ada" := by
  unfold TreatsAlike
  decide +kernel

/-- Without a password Ada is signed in by the first directory; so is whoever knows the password
that belongs to her name there; and under her name in capitals she is not signed in again. -/
theorem ada_leaves_directory :
    ¬StaysWithDirectory twoServers Deps.transparent college "ada" "ada" "" adaStore ∧
      ¬StaysWithDirectory twoServers Deps.transparent college "ada" "ada" "one" adaStore ∧
      ¬StaysWithDirectory twoServers Deps.transparent college "ada" "Ada" "two" adaStore := by
  have known : findUser college.id "ada" adaStore = some ada := rfl
  have same : ∀ fed ∈ federationsOf college.id adaStore,
      TreatsAlike twoServers fed "ada" "ada" := fun fed _ => rfl
  constructor
  · intro stays
    have condition := (stays_known adaStore_keys same known).mp stays firstDirectory
      (by decide +kernel)
    exact absurd rfl condition.1
  constructor
  · intro stays
    have condition := (stays_known adaStore_keys same known).mp stays firstDirectory
      (by decide +kernel)
    exact absurd condition.2.1 (by decide)
  · intro stays
    have condition := (stays_known adaStore_keys servers_ignore_case known).mp stays
      secondDirectory (by decide +kernel)
    exact absurd condition.2.2 (by decide)

end Idenplane.Federation
