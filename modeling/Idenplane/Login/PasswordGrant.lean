import Idenplane.Lib.Sequential
import Idenplane.Login.Service

/-! # The password grant and the login page

Two decisions about the same name and password.  `handlePasswordGrant` and
`validateCredentials` look at the hash of the user, at the link to a directory, at the lock
and at the answer of the directories, each in its own order.
-/

namespace Idenplane.Login

open Atomic Auth Admin Table Prog

section

variable (deps : Deps)

/-- The user of the grant has to be enabled, unlocked and right about the local password. -/
def checkGrantUser (realm : Realm) (password : String) (found : Option User) : Op User := do
  let user ← orFail (found.filter (·.enabled)) (invalidGrant "Invalid credentials")
  let now ← read Store.now
  require (!isLocked realm user now)
    (invalidGrant "Account is temporarily locked. Please try again later.")
  let valid ← orFail (passwordValid deps user password) .internal
  refuseWrongPassword realm user valid
  pure user

/-- The part of `handlePasswordGrant` that decides whether the password is right. -/
def checkGrantCredentials (realm : Realm) (username password : String) : Op User := do
  let known ← read (findUser realm.id username)
  let linked ← authenticateLinked deps realm username password known
  let found ← authenticateUnknown deps realm username password linked
  checkGrantUser deps realm password found

def finishPasswordGrant (realm : Realm) (body : Body) (user : User) : Op TokenResponse := do
  resetFailures realm.id user.id
  let now ← read Store.now
  require (!isExpired user realm now)
    (invalidGrant "Password has expired. Please change your password.")
  let mfaRequired ← read (isMfaRequired realm user.id)
  let mfaEnabled ← read (isMfaEnabled · user.id)
  demandSecondFactor realm user body.client_id mfaRequired mfaEnabled
  startSession deps (some ACR_PASSWORD) ["pwd"]
    { realm := realm, user := user, clientId := body.clientId, sessionId := 0, scope := body.scope,
      acr := some ACR_PASSWORD, amr := ["pwd"] }

def passwordGrant (realm : Realm) (body : Body) : Op TokenResponse := do
  let _ ← validateClient deps realm body.client_id body.client_secret "password"
  require (truthy body.username && truthy body.password)
    (.oauth "invalid_request" "username and password are required" 400)
  let user ← checkGrantCredentials deps realm (body.username.getD "") (body.password.getD "")
  finishPasswordGrant deps realm body user

theorem handlePasswordGrant_eq (r : Realm) (body : Body) :
    handlePasswordGrant deps r body = passwordGrant deps r body := by
  simp only [handlePasswordGrant, passwordGrant, checkGrantCredentials, checkGrantUser,
    finishPasswordGrant, bind_assoc, pure_def, done_bind]

def directoryAccepts (realm : Realm) (username password : String) (s : Store) : Bool :=
  s.userFederations.any fun federation =>
    federation.realmId = realm.id && federation.enabled &&
      deps.ldapAuthenticate federation username password

end

variable {deps : Deps} {externals : Externals} {r : Realm} {username password : String}
  {s s' : Store} {user : User}

/-- A name that is known here is not imported. -/
theorem tryFederations_known (known : findUser r.id username s = some user)
    (feds : List UserFederation) :
    (tryFederations deps r.id username password feds).run s =
      (.ok (if feds.any (deps.ldapAuthenticate · username password) then some user.id
        else none), s) := by
  induction feds with
  | nil => rfl
  | cons fed rest ih =>
    rw [tryFederations]
    cases accepts : deps.ldapAuthenticate fed username password with
    | true => simp [accepts, known, findOrImport]
    | false => simpa [accepts] using ih

theorem federation_known (known : findUser r.id username s = some user) :
    (authenticateViaFederation deps r.id username password).run s =
      (.ok (if directoryAccepts deps r username password s then some user.id else none), s) := by
  rw [authenticateViaFederation, run_read_bind, tryFederations_known known]
  have any : ∀ feds : List UserFederation, (feds.insertionSort (·.priority ≤ ·.priority)).any
        (deps.ldapAuthenticate · username password) =
      feds.any (deps.ldapAuthenticate · username password) :=
    fun feds => (List.perm_insertionSort _ feds).any_eq
  rw [any, List.any_filter]
  rfl

structure Imported (user : User) : Prop where
  enabled : user.enabled = true
  noHash : user.passwordHash = none
  linked : user.federationLink.isSome = true
  unlocked : user.lockedUntil = none

theorem importUser_imported {fed : UserFederation} {e : LdapUser} {created : User}
    (imports : (importUser r.id fed e s).1 = some created) : Imported created ∧
      findUserById created.id (importUser r.id fed e s).2 = some created := by
  unfold importUser at imports ⊢
  split at imports
  case isTrue => cases imports
  case isFalse free =>
    cases imports
    rw [if_neg free]
    exact ⟨⟨rfl, rfl, rfl, rfl⟩, by simp [findUserById]⟩

/-- A name that is not known here is one that a directory accepted and brought in. -/
theorem tryFederations_unknown (unknown : findUser r.id username s = none)
    (feds : List UserFederation) :
    (tryFederations deps r.id username password feds).Ensures (fun _ => True)
      (fun res t => ∀ id, res = some id →
        feds.any (deps.ldapAuthenticate · username password) = true ∧
          ∃ user, Imported user ∧ findUserById id t = some user) s := by
  induction feds with
  | nil =>
    intro id isId
    cases isId
  | cons fed rest ih =>
    have later : (tryFederations deps r.id username password rest).Ensures (fun _ => True)
        (fun res t => ∀ id, res = some id →
          (fed :: rest).any (deps.ldapAuthenticate · username password) = true ∧
            ∃ user, Imported user ∧ findUserById id t = some user) s := by
      refine ih.mono fun res t hit id isId => ?_
      obtain ⟨ok, imported⟩ := hit id isId
      exact ⟨by simp [ok], imported⟩
    rw [tryFederations]
    split
    case isFalse => exact later
    case isTrue accepts =>
      refine .read_bind ?_
      rw [unknown, findOrImport]
      split
      case isFalse => exact later
      case isTrue =>
        cases searched : deps.ldapSearchUser fed username with
        | none => exact later
        | some e =>
          refine .bind (.atomic_bind (.orFail_bind trivial fun new imports => ?_))
          obtain ⟨imported, hit⟩ := importUser_imported imports
          intro id isId
          cases isId
          exact ⟨by simp [accepts], new, imported, hit⟩

theorem federation_unknown (unknown : findUser r.id username s = none) {id : Nat}
    (ran : (authenticateViaFederation deps r.id username password).run s = (.ok (some id), s')) :
    directoryAccepts deps r username password s = true ∧
      ∃ user, Imported user ∧ findUserById id s' = some user := by
  obtain ⟨accepted, imported⟩ := (tryFederations_unknown unknown _).of_run ran id rfl
  refine ⟨?_, imported⟩
  obtain ⟨fed, mem, accepts⟩ := any_eq_true.mp accepted
  have stored := (List.perm_insertionSort _ _).subset mem
  obtain ⟨isRow, enabled⟩ := mem_filter.mp stored
  exact any_eq_true.mpr ⟨fed, isRow, by simp_all⟩

def Passes (p : Op User) (s : Store) : Prop := ∃ user t, p.run s = (.ok user, t)

def Records (realm : Realm) (userId : Nat) (p : Op User) (s : Store) : Prop :=
  (p.run s).2.loginFailures =
    { realmId := realm.id, userId := userId, failedAt := s.now } :: s.loginFailures

theorem not_passes_of_error {p : Op User} {f : Failure}
    (ran : p.run s = (.error f, s')) : ¬Passes p s := by
  rintro ⟨user, t, ok⟩
  rw [ran] at ok
  cases ok

theorem login_unknown (unknown : findUser r.id username s = none) :
    Passes (validateCredentials deps externals r username password) s ↔
      ∃ id t, (authenticateViaFederation deps r.id username password).run s =
        (.ok (some id), t) := by
  have same : (validateCredentials deps externals r username password).run s =
      (validateUnknown deps r username password).run s := by
    rw [validateCredentials, run_read_bind, unknown]
  rw [Passes, same]
  constructor
  · rintro ⟨user, t, ran⟩
    obtain ⟨accepted, t', searched, rest⟩ := run_bind_ok.mp ran
    obtain ⟨id, rfl, -⟩ := run_orFail_bind_ok.mp rest
    exact ⟨id, t', searched⟩
  · rintro ⟨id, t, searched⟩
    obtain ⟨-, user, -, hit⟩ := federation_unknown unknown searched
    refine ⟨user, t, run_bind_ok.mpr ⟨some id, t, searched, ?_⟩⟩
    rw [run_orFail_bind_ok]
    exact ⟨id, rfl, by simp [hit, run_orFail_ok]⟩

theorem recordFailure_then_fail {α : Type} (r : Realm) (uid : Nat) (f : Failure)
    (s : Store) : ((recordFailure r uid >>= fun _ => fail f : Op α)).run s =
      (.error f, ((recordFailure r uid).run s).2) := by
  unfold recordFailure
  split <;> rfl

/-- The four answers about a user who is there. -/
theorem checkGrantUser_run (user : User) (s : Store) :
    (checkGrantUser deps r password (some user)).run s =
      if !user.enabled then (.error (invalidGrant "Invalid credentials"), s)
      else if isLocked r user s.now then
        (.error (invalidGrant "Account is temporarily locked. Please try again later."), s)
      else match passwordValid deps user password with
        | none => (.error .internal, s)
        | some true => (.ok user, s)
        | some false =>
          (.error (invalidGrant "Invalid credentials"), ((recordFailure r user.id).run s).2) := by
  cases enabled : user.enabled with
  | false => simp [checkGrantUser, Option.filter, enabled, orFail_none]
  | true =>
    cases locked : isLocked r user s.now with
    | true =>
      simp [checkGrantUser, Option.filter, enabled, orFail_some, locked, require_false]
    | false =>
      simp only [checkGrantUser, Option.filter, enabled, if_true, orFail_some,
        done_bind, run_read_bind, locked, Bool.not_false, require_true]
      cases valid : passwordValid deps user password with
      | none => rfl
      | some isValid =>
        cases isValid with
        | true => rfl
        | false =>
          simp only [orFail_some, done_bind, refuseWrongPassword,
            false_eq_true, if_false, bind_assoc, fail_bind]
          exact recordFailure_then_fail ..

theorem checkGrantUser_imported (imported : Imported user) :
    (checkGrantUser deps r password (some user)).run s = (.ok user, s) := by
  have unlocked : isLocked r user s.now = false := by simp [isLocked, imported.unlocked]
  have valid : passwordValid deps user password = some true := by
    rw [passwordValid, imported.noHash, imported.linked]
    rfl
  simp [checkGrantUser_run, imported.enabled, unlocked, valid]

theorem grant_unknown (unknown : findUser r.id username s = none) :
    Passes (checkGrantCredentials deps r username password) s ↔
      ∃ id t, (authenticateViaFederation deps r.id username password).run s =
        (.ok (some id), t) := by
  have same : (checkGrantCredentials deps r username password).run s =
      (authenticateUnknown deps r username password none >>=
        checkGrantUser deps r password).run s := by
    rw [checkGrantCredentials, run_read_bind, unknown]
    rfl
  rw [Passes, same]
  constructor
  · rintro ⟨user, t, ran⟩
    obtain ⟨hit, t', searched, rest⟩ := run_bind_ok.mp ran
    obtain ⟨accepted, t'', federated, last⟩ := run_bind_ok.mp searched
    cases accepted with
    | some id => exact ⟨id, t'', federated⟩
    | none =>
      cases last
      obtain ⟨_, none_, -⟩ := run_orFail_bind_ok.mp rest
      cases none_
  · rintro ⟨id, t, searched⟩
    obtain ⟨-, user, imported, hit⟩ := federation_unknown unknown searched
    refine ⟨user, t, run_bind_ok.mpr ⟨some user, t, ?_, checkGrantUser_imported imported⟩⟩
    exact run_bind_ok.mpr ⟨some id, t, searched, by simp [hit]⟩

section

variable (unique : Table.Unique User.id s.users)

include unique

section

variable (known : findUser r.id username s = some user)

include known

theorem findUserById_known : findUserById user.id s = some user := by
  have mem := mem_of_find?_eq_some known
  cases hit : findUserById user.id s with
  | none => simpa using find?_eq_none.mp hit user mem
  | some other =>
    have same : other.id = user.id := by simpa using find?_some hit
    rw [unique other (mem_of_find?_eq_some hit) user mem same]

theorem authenticateUnknown_known :
    (authenticateUnknown deps r username password (some user)).run s = (.ok (some user), s) := by
  unfold authenticateUnknown
  split
  · rw [run_bind, federation_known known]
    cases directoryAccepts deps r username password s with
    | true => simp [findUserById_known unique known]
    | false => rfl
  · rfl

theorem authenticateLinked_known : (authenticateLinked deps r username password (some user)).run s =
      if user.enabled && !truthy user.passwordHash && user.federationLink.isSome &&
          !directoryAccepts deps r username password s then
        (.error (invalidGrant "Invalid credentials"), s)
      else (.ok (some user), s) := by
  rw [authenticateLinked]
  cases asks : user.enabled && !truthy user.passwordHash && user.federationLink.isSome with
  | false => simp
  | true =>
    simp only [if_true, Bool.true_and]
    rw [run_bind, federation_known known]
    cases directoryAccepts deps r username password s with
    | true => simp [orFail_some, findUserById_known unique known]
    | false => rfl

theorem grant_known : (checkGrantCredentials deps r username password).run s =
      if user.enabled && !truthy user.passwordHash && user.federationLink.isSome &&
          !directoryAccepts deps r username password s then
        (.error (invalidGrant "Invalid credentials"), s)
      else (checkGrantUser deps r password (some user)).run s := by
  rw [checkGrantCredentials, run_read_bind, known, run_bind, authenticateLinked_known unique known]
  cases user.enabled && !truthy user.passwordHash && user.federationLink.isSome &&
      !directoryAccepts deps r username password s with
  | true => rfl
  | false =>
    simp only [false_eq_true, if_false]
    rw [run_bind, authenticateUnknown_known unique known]

end

end

theorem truthy_eq_given (text : Option String) : truthy text = (given text).isSome := by
  cases text with
  | none => rfl
  | some text => by_cases empty : text = "" <;> simp [truthy, given, Option.filter, empty]

theorem passwordValid_hash {hash : String} (isHash : given user.passwordHash = some hash) :
    passwordValid deps user password = deps.verifyPassword hash password := by
  rw [passwordValid, isHash]

theorem passwordValid_noHash (noHash : given user.passwordHash = none) :
    passwordValid deps user password = some user.federationLink.isSome := by
  rw [passwordValid, noHash]

/-- The grant accepts an enabled, unlocked user whose hash verifies, or who has none and whom
a directory accepts. -/
theorem grant_accepts_iff (unique : Unique User.id s.users)
    (known : findUser r.id username s = some user) :
    Passes (checkGrantCredentials deps r username password) s ↔
      user.enabled = true ∧ isLocked r user s.now = false ∧
        ((∃ hash, given user.passwordHash = some hash ∧
            deps.verifyPassword hash password = some true) ∨
          given user.passwordHash = none ∧ user.federationLink.isSome = true ∧
            directoryAccepts deps r username password s = true) := by
  rw [Passes, grant_known unique known, checkGrantUser_run, truthy_eq_given]
  cases isHash : given user.passwordHash with
  | none =>
    rw [passwordValid_noHash isHash]
    cases user.enabled <;> cases isLocked r user s.now <;> cases user.federationLink.isSome <;>
      cases directoryAccepts deps r username password s <;> simp
  | some hash =>
    rw [passwordValid_hash isHash]
    cases user.enabled <;> cases isLocked r user s.now <;>
      rcases verifies : deps.verifyPassword hash password with _ | _ | _ <;> simp [verifies]

theorem resetFailures_run (rid : Nat) {uid : Nat} (hit : s.users.any (·.id = uid) = true) :
    (resetFailures rid uid).run s = (.ok (), ((resetFailures rid uid).run s).2) := by
  simp only [resetFailures, run_modify_bind, run_atomic_bind, userUpdated, hit,
    require_true, run_done]

section

variable (known : findUser r.id username s = some user)

include known

theorem any_of_known : s.users.any (·.id = user.id) = true :=
  any_eq_true.mpr ⟨user, mem_of_find?_eq_some known, by simp⟩

theorem validateLinked_run : (validateLinked deps r user username password).run s =
      if !user.enabled then (.error invalidCredentials, s)
      else if isLocked r user s.now then
        (.error (unauthorized "Account is temporarily locked. Please try again later."), s)
      else if directoryAccepts deps r username password s then
        (.ok user, ((resetFailures r.id user.id).run s).2)
      else (.error invalidCredentials, ((recordFailure r user.id).run s).2) := by
  have reset := resetFailures_run r.id (any_of_known known)
  cases enabled : user.enabled with
  | false => simp [validateLinked, enabled, require_false]
  | true =>
    cases locked : isLocked r user s.now with
    | true =>
      simp [validateLinked, enabled, require_true, refuseLocked, bind_assoc, locked, require_false]
    | false =>
      simp only [validateLinked, enabled, require_true, refuseLocked, bind_assoc,
        done_bind, run_read_bind, locked, Bool.not_false]
      rw [run_bind, federation_known known]
      cases directoryAccepts deps r username password s with
      | true =>
        simp only [if_true, isSome_some]
        rw [run_bind, reset]
        rfl
      | false => exact recordFailure_then_fail ..

theorem login_linked (linked : user.federationLink.isSome = true) :
    (validateCredentials deps externals r username password).run s =
      (validateLinked deps r user username password).run s := by
  rw [validateCredentials, run_read_bind, known]
  simp only [linked, if_true]

end

theorem rehashToArgon2_run (deps : Deps) (password : String)
    (known : findUser r.id username s = some user) :
    ∃ t, (rehashToArgon2 deps user.id password).run s = (.ok (), t) ∧
      t.users.any (·.id = user.id) = true := by
  have found := any_of_known known
  refine ⟨((rehashToArgon2 deps user.id password).run s).2, ?_, ?_⟩
  · simp only [rehashToArgon2, run_atomic_bind, userUpdated, found, require_true, run_done]
  · simp only [any_eq_true, decide_eq_true_eq] at found ⊢
    obtain ⟨row, mem, isId⟩ := found
    refine ⟨{ row with passwordHash := some (deps.hashPassword password) }, ?_, isId⟩
    rw [rehashToArgon2, run_atomic_bind, run_require_snd]
    exact mem_map.mpr ⟨row, mem, if_pos isId⟩

theorem validateLocal_run (deps : Deps) (externals : Externals) (password hash : String)
    (known : findUser r.id username s = some user) :
    ∃ t, (validateLocal deps externals r user hash password).run s = if isLocked r user s.now then
        (.error (unauthorized "Account is temporarily locked. Please try again later."), s)
      else match deps.verifyPassword hash password with
        | none => (.error .internal, s)
        | some true => (.ok user, ((resetFailures r.id user.id).run s).2)
        | some false =>
          if externals.verifyMigratedPassword user password then (.ok user, t)
          else (.error invalidCredentials, ((recordFailure r user.id).run s).2) := by
  have reset := resetFailures_run r.id (any_of_known known)
  obtain ⟨t, rehashed, hit⟩ := rehashToArgon2_run deps password known
  have reset' := resetFailures_run r.id hit
  refine ⟨((resetFailures r.id user.id).run t).2, ?_⟩
  cases locked : isLocked r user s.now with
  | true => simp [validateLocal, refuseLocked, bind_assoc, locked, require_false]
  | false =>
    simp only [validateLocal, refuseLocked, verifyOrMigrate, bind_assoc, locked,
      run_read_bind, Bool.not_false, require_true, done_bind]
    rcases deps.verifyPassword hash password with _ | _ | _
    · rfl
    · simp only [orFail_some, done_bind]
      cases externals.verifyMigratedPassword user password with
      | true =>
        simp only [false_eq_true, if_false, if_true, bind_assoc, pure_def, done_bind]
        rw [run_bind, rehashed]
        dsimp only
        rw [run_bind, reset']
        rfl
      | false => exact recordFailure_then_fail ..
    · simp only [orFail_some, done_bind, if_true, pure_def]
      rw [run_bind, reset]
      rfl

theorem login_local (known : findUser r.id username s = some user)
    (unlinked : user.federationLink.isSome = false) :
    (validateCredentials deps externals r username password).run s =
      match if user.enabled then given user.passwordHash else none with
      | some hash => (validateLocal deps externals r user hash password).run s
      | none => (.error invalidCredentials, s) := by
  rw [validateCredentials, run_read_bind, known]
  simp only [unlinked, false_eq_true, if_false]
  generalize (if user.enabled = true then given user.passwordHash else none) = hash
  cases hash <;> rfl

/-- The login page accepts an enabled, unlocked user whom a directory accepts, if the user is
linked to one, and else whose hash verifies, as Argon2 or as the imported one. -/
theorem login_accepts_iff (known : findUser r.id username s = some user) :
    Passes (validateCredentials deps externals r username password) s ↔
      user.enabled = true ∧ isLocked r user s.now = false ∧
        (user.federationLink.isSome = true ∧ directoryAccepts deps r username password s = true ∨
          user.federationLink.isSome = false ∧ ∃ hash, given user.passwordHash = some hash ∧
            (deps.verifyPassword hash password = some true ∨
              deps.verifyPassword hash password = some false ∧
                externals.verifyMigratedPassword user password = true)) := by
  rw [Passes]
  cases linked : user.federationLink.isSome with
  | true =>
    rw [login_linked known linked, validateLinked_run known]
    cases user.enabled <;> cases isLocked r user s.now <;>
      cases directoryAccepts deps r username password s <;> simp
  | false =>
    rw [login_local known linked]
    cases user.enabled with
    | false => simp
    | true =>
      cases isHash : given user.passwordHash with
      | none => simp
      | some hash =>
        obtain ⟨t, ran⟩ := validateLocal_run deps externals password hash known
        simp only [if_true, ran]
        cases isLocked r user s.now <;>
          rcases verifies : deps.verifyPassword hash password with _ | _ | _ <;>
          cases externals.verifyMigratedPassword user password <;> simp [verifies]

section

variable (deps : Deps) (externals : Externals)

/-- The two ways in which the decisions differ do not arise: a linked user with a local hash on
whom the hash and the directories disagree, and a hash of another format that verifies. -/
def Consistent (realm : Realm) (username password : String) (s : Store) : Prop :=
  ∀ user hash, findUser realm.id username s = some user → user.enabled = true →
    isLocked realm user s.now = false → given user.passwordHash = some hash →
    if user.federationLink.isSome then
      deps.verifyPassword hash password = some true ↔
        directoryAccepts deps realm username password s = true
    else deps.verifyPassword hash password = some false →
      externals.verifyMigratedPassword user password = false

end

theorem grant_accepts_only (unique : Unique User.id s.users)
    (ok : Passes (checkGrantCredentials deps r username password) s) :
    (∃ user hash, findUser r.id username s = some user ∧
        given user.passwordHash = some hash ∧ deps.verifyPassword hash password = some true) ∨
      directoryAccepts deps r username password s = true := by
  cases known : findUser r.id username s with
  | none =>
    obtain ⟨id, t, searched⟩ := (grant_unknown known).mp ok
    exact .inr (federation_unknown known searched).1
  | some user =>
    obtain ⟨-, -, verified | federated⟩ := (grant_accepts_iff unique known).mp ok
    · obtain ⟨hash, isHash, verifies⟩ := verified
      exact .inl ⟨user, hash, rfl, isHash, verifies⟩
    · exact .inr federated.2.2

theorem accepts_iff (unique : Unique User.id s.users)
    (consistent : Consistent deps externals r username password s) :
    Passes (checkGrantCredentials deps r username password) s ↔
      Passes (validateCredentials deps externals r username password) s := by
  cases known : findUser r.id username s with
  | none => rw [grant_unknown known, login_unknown known]
  | some user =>
    rw [grant_accepts_iff unique known, login_accepts_iff known]
    refine and_congr_right fun enabled => and_congr_right fun unlocked => ?_
    cases isHash : given user.passwordHash with
    | none => cases user.federationLink.isSome <;> simp
    | some hash =>
      have agrees := consistent user hash known enabled unlocked isHash
      cases linked : user.federationLink.isSome with
      | true =>
        rw [if_pos linked] at agrees
        simp [agrees]
      | false =>
        rw [if_neg (by simp [linked])] at agrees
        rcases verifies : deps.verifyPassword hash password with _ | _ | _
        · simp [verifies]
        · simp [verifies, agrees verifies]
        · simp [verifies]

theorem recordFailure_records (enabled : r.bruteForceEnabled = true) (userId : Nat) :
    ((recordFailure r userId).run s).2.loginFailures =
      { realmId := r.id, userId := userId, failedAt := s.now } :: s.loginFailures := by
  rw [recordFailure, if_pos enabled, run_modify, failureRecorded]
  split
  · rfl
  · split <;> rfl

section Rejected

variable {hash : String} (enabled : r.bruteForceEnabled = true)
  (known : findUser r.id username s = some user) (active : user.enabled = true)
  (unlocked : isLocked r user s.now = false) (isHash : given user.passwordHash = some hash)
  (verifiable : deps.verifyPassword hash password ≠ none)

include enabled known active unlocked isHash verifiable

theorem grant_rejected_records (unique : Unique User.id s.users)
    (rejected : ¬Passes (checkGrantCredentials deps r username password) s) :
    Records r user.id (checkGrantCredentials deps r username password) s := by
  have wrong : deps.verifyPassword hash password = some false := by
    rw [grant_accepts_iff unique known] at rejected
    rcases verifies : deps.verifyPassword hash password with _ | _ | _
    · exact absurd verifies verifiable
    · rfl
    · exact absurd ⟨active, unlocked, .inl ⟨hash, isHash, verifies⟩⟩ rejected
  rw [Records, grant_known unique known, checkGrantUser_run, passwordValid_hash isHash, wrong,
    truthy_eq_given, isHash]
  simp [active, unlocked, recordFailure_records enabled]

theorem login_rejected_records
    (rejected : ¬Passes (validateCredentials deps externals r username password) s) :
    Records r user.id (validateCredentials deps externals r username password) s := by
  rw [login_accepts_iff known] at rejected
  rw [Records]
  cases linked : user.federationLink.isSome with
  | true =>
    have refused : directoryAccepts deps r username password s = false := by
      simpa [active, unlocked, linked] using rejected
    rw [login_linked known linked, validateLinked_run known]
    simp [active, unlocked, refused, recordFailure_records enabled]
  | false =>
    obtain ⟨t, ran⟩ := validateLocal_run deps externals password hash known
    rw [login_local known linked, active, if_pos rfl, isHash]
    dsimp only
    rw [ran]
    rcases verifies : deps.verifyPassword hash password with _ | _ | _
    · exact absurd verifies verifiable
    · have refused : externals.verifyMigratedPassword user password = false := by
        simpa [active, unlocked, linked, isHash, verifies] using rejected
      simp [unlocked, refused, recordFailure_records enabled]
    · simp [active, unlocked, linked, isHash, verifies] at rejected

end Rejected

/-- The grant is its check with the client before it and the session after it.  The check
accepts only what a hash or a directory accepted; it accepts what the login page accepts; and
both write down a wrong password of a user who has one here. -/
theorem grant_and_login_alike (unique : Table.Unique User.id s.users) :
    (∀ body, handlePasswordGrant deps r body = passwordGrant deps r body) ∧
    (Passes (checkGrantCredentials deps r username password) s →
      (∃ user hash, findUser r.id username s = some user ∧
          given user.passwordHash = some hash ∧ deps.verifyPassword hash password = some true) ∨
        directoryAccepts deps r username password s = true) ∧
    (Consistent deps externals r username password s →
      (Passes (checkGrantCredentials deps r username password) s ↔
        Passes (validateCredentials deps externals r username password) s)) ∧
    (r.bruteForceEnabled = true →
      ∀ user hash, findUser r.id username s = some user → user.enabled = true →
        isLocked r user s.now = false → given user.passwordHash = some hash →
        deps.verifyPassword hash password ≠ none →
        (¬Passes (checkGrantCredentials deps r username password) s →
          Records r user.id (checkGrantCredentials deps r username password) s) ∧
        (¬Passes (validateCredentials deps externals r username password) s →
          Records r user.id (validateCredentials deps externals r username password) s)) := by
  refine ⟨handlePasswordGrant_eq deps r, grant_accepts_only unique, accepts_iff unique, ?_⟩
  intro enabled user hash known active unlocked isHash verifiable
  exact ⟨grant_rejected_records enabled known active unlocked isHash verifiable unique,
    login_rejected_records enabled known active unlocked isHash verifiable⟩

def oneDirectory : Deps :=
  { Deps.transparent with ldapAuthenticate := fun _ _ password => password == "directory" }

def oneFormat : Externals where
  verifyMigratedPassword := fun _ password => password == "imported"

def guarded : Realm := { id := 1, name := "guarded", bruteForceEnabled := true }

/-- A linked user with a local hash, one with an imported hash, a linked one without a hash,
and a locked one. -/
def staff : Store where
  userFederations := [{ id := 5, realmId := 1 }]
  users :=
    [{ id := 1, realmId := 1, username := "ann", passwordHash := some "local",
       federationLink := some 5 },
     { id := 2, realmId := 1, username := "bob", passwordHash := some "bcrypt" },
     { id := 3, realmId := 1, username := "cem", federationLink := some 5 },
     { id := 4, realmId := 1, username := "dan", passwordHash := some "local",
       lockedUntil := some 1000 }]

theorem staff_unique : Table.Unique User.id staff.users := by
  rw [Table.Unique]
  decide

theorem cem_is_accepted :
    Passes (validateCredentials oneDirectory oneFormat guarded "cem" "directory") staff := by
  have alike : Consistent oneDirectory oneFormat guarded "cem" "directory" staff →
      (Passes (checkGrantCredentials oneDirectory guarded "cem" "directory") staff ↔
        Passes (validateCredentials oneDirectory oneFormat guarded "cem" "directory") staff) :=
    (grant_and_login_alike staff_unique).2.2.1
  refine (alike ?_).mp ⟨_, _, rfl⟩
  intro user hash known enabled unlocked isHash
  cases known
  cases isHash

/-- The grant takes the local password of a user of the directory, which the login page does
not take; the login page takes an imported password, which the grant does not take; the grant
does not write down that the directory refused; and nobody writes down an attempt on a locked
user. -/
theorem grant_and_login_differ :
    (Passes (checkGrantCredentials oneDirectory guarded "ann" "local") staff ∧
      ¬Passes (validateCredentials oneDirectory oneFormat guarded "ann" "local") staff) ∧
    (¬Passes (checkGrantCredentials oneDirectory guarded "bob" "imported") staff ∧
      Passes (validateCredentials oneDirectory oneFormat guarded "bob" "imported") staff) ∧
    (¬Passes (checkGrantCredentials oneDirectory guarded "cem" "wrong") staff ∧
      ((checkGrantCredentials oneDirectory guarded "cem" "wrong").run staff).2.loginFailures = []) ∧
    ¬Passes (checkGrantCredentials oneDirectory guarded "dan" "wrong") staff ∧
      ((checkGrantCredentials oneDirectory guarded "dan" "wrong").run staff).2.loginFailures = [] ∧
      ((validateCredentials oneDirectory oneFormat guarded "dan" "wrong").run
        staff).2.loginFailures = [] := by
  refine ⟨⟨⟨_, _, rfl⟩, not_passes_of_error rfl⟩, ⟨not_passes_of_error rfl, ⟨_, _, rfl⟩⟩,
    ⟨not_passes_of_error rfl, rfl⟩, not_passes_of_error rfl, rfl, rfl⟩

end Idenplane.Login
