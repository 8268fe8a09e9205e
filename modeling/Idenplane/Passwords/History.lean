import Idenplane.Lib.Sequential
import Idenplane.Passwords.SelfService

/-! # The passwords a user had

Runs of registrations, forced changes and resets, with the list of the passwords that were
accepted.  A change keeps to the policy when the password is one the realm of the user allows,
and none of the user's last ones.
-/

namespace Idenplane.Passwords

open Atomic Auth Admin PasswordHistory List List.Pairwise

variable {password : String} {cur user : User}

structure Change where
  user : User
  password : String

inductive Request where
  | register (realmId : Nat) (form : RegistrationForm)
  | changePassword (realmId : Nat) (form : PasswordForm)
  | resetPassword (realmId : Nat) (form : PasswordForm)
  | issueToken (userId : Nat) (type : VerificationType) (lifetime : Int)

structure Event where
  /-- Milliseconds since the event before. -/
  elapsed : Nat := 0
  request : Request

def realmOf (realms : List Realm) (id : Nat) : Option Realm := realms.find? (·.id = id)

def findRealm (realms : List Realm) (id : Nat) : Op Realm :=
  orFail (realmOf realms id) (.oauth "Not Found" "Realm not found" 404)

def tokenIssued (userId : Nat) (type : VerificationType) (lifetime : Int) (s : Store) : Store :=
  if (findUserById userId s).isSome then tokenCreated userId type lifetime s else s

def serve (d : Deps) (realms : List Realm) : Request → Op (Option Change)
  | .register realmId form => do
    let realm ← findRealm realms realmId
    let user ← handleRegistration d realm form
    pure (some ⟨user, form.password.getD ""⟩)
  | .changePassword realmId form => do
    let realm ← findRealm realms realmId
    let user ← handleChangePassword d realm form
    pure (some ⟨user, form.newPassword.getD ""⟩)
  | .resetPassword realmId form => do
    let realm ← findRealm realms realmId
    let user ← handleResetPassword d realm form
    pure (some ⟨user, form.newPassword.getD ""⟩)
  | .issueToken userId type lifetime => do
    modify (tokenIssued userId type lifetime)
    pure none

structure State where
  store : Store
  /-- The accepted changes, newest first. -/
  log : List Change := []

def State.ticked (s : State) (event : Event) : Store :=
  { s.store with now := s.store.now + event.elapsed }

def State.step (d : Deps) (realms : List Realm) (state : State) (event : Event) : State :=
  match (serve d realms event.request).run (state.ticked event) with
  | (.ok (some change), s) => ⟨s, change :: state.log⟩
  | (_, s) => ⟨s, state.log⟩

open State

def State.run (d : Deps) (realms : List Realm) (s : State) (events : List Event) : State :=
  events.foldl (step d realms) s

def changesOf (userId : Nat) (log : List Change) : List Change :=
  log.filter (·.user.id = userId)

/-- The password fits the realm of the user and is none of the user's last ones. -/
def Kept (realms : List Realm) (change : Change) (earlier : List Change) : Prop :=
  ∃ realm ∈ realmOf realms change.user.realmId, passwordErrors realm change.password = [] ∧
    ∀ old ∈ (changesOf change.user.id earlier).take realm.passwordHistoryCount.toNat,
      change.password ≠ old.password

instance (realms : List Realm) (change : Change) (earlier : List Change) :
    Decidable (Kept realms change earlier) :=
  inferInstanceAs (Decidable (∃ realm ∈ realmOf realms change.user.realmId, _ ∧ _))

def Held (realms : List Realm) : List Change → Prop
  | [] => True
  | change :: earlier => Kept realms change earlier ∧ Held realms earlier

instance Held.decidable (realms : List Realm) : (log : List Change) → Decidable (Held realms log)
  | [] => .isTrue trivial
  | change :: earlier =>
    have := Held.decidable realms earlier
    inferInstanceAs (Decidable (Kept realms change earlier ∧ Held realms earlier))

def presented (type : VerificationType) (token : Option Nat) (s : Store) : Option User := do
  let token ← token
  let record ← (findToken token s).filter (tokenStands type s.now)
  findUserById record.userId s

/-- A link is followed at the realm of its user, and a reset brings a password that the history
of the user does not have. -/
def Proper (d : Deps) (realms : List Realm) (s : Store) : Request → Prop
  | .register _ _ => True
  | .changePassword realmId form =>
    ∀ user ∈ presented .change_password form.token s, user.realmId = realmId
  | .resetPassword realmId form =>
    ∀ user ∈ presented .password_reset form.token s, user.realmId = realmId ∧
      ∀ realm ∈ realmOf realms realmId, inHistory d (form.newPassword.getD "")
        ((passwordHistory user.id realmId s).take realm.passwordHistoryCount.toNat) = some false
  | .issueToken _ _ _ => True

instance (d : Deps) (realms : List Realm) (s : Store) :
    (request : Request) → Decidable (Proper d realms s request)
  | .register _ _ => .isTrue trivial
  | .changePassword realmId form => inferInstanceAs (Decidable
      (∀ user ∈ presented .change_password form.token s, user.realmId = realmId))
  | .resetPassword realmId form => inferInstanceAs (Decidable
      (∀ user ∈ presented .password_reset form.token s, user.realmId = realmId ∧
        ∀ realm ∈ realmOf realms realmId, inHistory d (form.newPassword.getD "")
          ((passwordHistory user.id realmId s).take realm.passwordHistoryCount.toNat) = some false))
  | .issueToken _ _ _ => .isTrue trivial

def ProperRun (d : Deps) (realms : List Realm) : State → List Event → Prop
  | _, [] => True
  | state, event :: events =>
    Proper d realms (state.ticked event) event.request ∧
      ProperRun d realms (state.step d realms event) events

instance ProperRun.decidable (d : Deps) (realms : List Realm) :
    (state : State) → (events : List Event) → Decidable (ProperRun d realms state events)
  | _, [] => .isTrue trivial
  | state, event :: events =>
    have := ProperRun.decidable d realms (state.step d realms event) events
    inferInstanceAs (Decidable (Proper d realms (state.ticked event) event.request ∧
      ProperRun d realms (state.step d realms event) events))

def NewestFirst (rows : List PasswordHistory) : Prop :=
  rows.Pairwise fun a b => b.createdAt ≤ a.createdAt

/-- Ids are given out once, and nothing is recorded before its time. -/
structure Tables (s : Store) : Prop where
  issued : ∀ id user, findUserById id s = some user → id < s.supply
  rows : ∀ row ∈ s.passwordHistories, row.id < s.supply ∧ row.createdAt ≤ s.now
  unique : (s.passwordHistories.map PasswordHistory.id).Nodup
  newest : NewestFirst s.passwordHistories

/-- The rows of `password_histories` against the accepted changes. -/
structure Recorded (d : Deps) (realms : List Realm) (log : List Change) (s : Store) : Prop
    extends Tables s where
  logged : ∀ change ∈ log, change.user.id < s.supply ∧
    Text.utf16Length change.password.toList ≤ maxPasswordLength
  /-- The history of a user begins with the hashes of the user's last passwords. -/
  last : ∀ id user realm, findUserById id s = some user → realmOf realms user.realmId = some realm →
    ((changesOf id log).take realm.passwordHistoryCount.toNat).map (d.hashPassword ·.password) <+:
      (passwordHistory id realm.id s).map passwordHash

variable {d : Deps} {realms : List Realm} {log : List Change} {s s' : Store} {r : Realm}

theorem realmOf_id {id : Nat} (hit : realmOf realms id = some r) : r.id = id := by
  simpa using find?_some hit

theorem passwordHistory_eq {uid realmId : Nat} (newest : NewestFirst s.passwordHistories) :
    passwordHistory uid realmId s = s.passwordHistories.filter fun e =>
      e.userId = uid && e.realmId = realmId :=
  (filter _ newest).insertionSort_eq

theorem NewestFirst.trimmed (newest : NewestFirst s.passwordHistories) (old : List PasswordHistory) :
    NewestFirst (historyTrimmed old s).passwordHistories :=
  filter _ newest

theorem inHistory_false {rows : List PasswordHistory}
    (unknown : inHistory d password rows = some false) :
    ∀ row ∈ rows, d.verifyPassword row.passwordHash password = some false := by
  induction rows with
  | nil => simp
  | cons row rows ih =>
    rw [inHistory] at unknown
    rcases verifies : d.verifyPassword row.passwordHash password with _ | _ | _
    · simp [verifies] at unknown
    · rw [verifies] at unknown
      intro e mem
      rcases mem_cons.mp mem with rfl | old
      · exact verifies
      · exact ih unknown e old
    · simp [verifies] at unknown

namespace Recorded

theorem changesOf_fresh (recorded : Recorded d realms log s) {id : Nat} (fresh : s.supply ≤ id) :
    changesOf id log = [] := by
  apply filter_eq_nil_iff.mpr
  intro chg mem
  have := (recorded.logged chg mem).1
  simp
  omega

theorem frame (recorded : Recorded d realms log s)
    (rows : s'.passwordHistories = s.passwordHistories) (supply : s.supply ≤ s'.supply)
    (clock : s.now ≤ s'.now)
    (us : ∀ id user, findUserById id s' = some user →
      (∃ old, findUserById id s = some old ∧ old.realmId = user.realmId) ∨
        s.supply ≤ id ∧ id < s'.supply) :
    Recorded d realms log s' where
  issued id user found := by
    rcases us id user found with ⟨old, known, _⟩ | fresh
    · have := recorded.issued id old known
      omega
    · exact fresh.2
  logged change mem := by
    have := recorded.logged change mem
    exact ⟨by omega, this.2⟩
  rows row mem := by
    rw [rows] at mem
    have := recorded.rows row mem
    exact ⟨by omega, by omega⟩
  unique := rows ▸ recorded.unique
  newest := rows ▸ recorded.newest
  last id user r found own := by
    rcases us id user found with ⟨old, known, same⟩ | fresh
    · have last := recorded.last id old r known (same ▸ own)
      rw [passwordHistory, rows]
      exact last
    · rw [recorded.changesOf_fresh fresh.1]
      simp

end Recorded

def newEntry (userId realmId : Nat) (hash : String) (s : Store) : PasswordHistory :=
  { id := s.supply, userId := userId, realmId := realmId, passwordHash := hash,
    createdAt := s.now }

/-- The database after `recordHistory`. -/
def historyKept (userId realmId : Nat) (hash : String) (count : Int) (s : Store) : Store :=
  if count ≤ 0 then s
  else
    historyTrimmed
      ((passwordHistory userId realmId (historyRecorded userId realmId hash s)).drop count.toNat)
      (historyRecorded userId realmId hash s)

theorem historyTrimmed_nil (s : Store) : historyTrimmed [] s = s := by
  simp [historyTrimmed]

theorem recordHistory_run (uid realmId : Nat) (hash : String) (count : Int) (s : Store) :
    (recordHistory uid realmId hash count).run s =
      (.ok (), historyKept uid realmId hash count s) := by
  unfold recordHistory historyKept
  by_cases off : count ≤ 0
  · simp [off]
  · simp only [off, if_false, run_modify_bind, run_read_bind]
    by_cases none : ((passwordHistory uid realmId (historyRecorded uid realmId hash s)).drop
        count.toNat).isEmpty
    · simp [isEmpty_iff.mp none, historyTrimmed_nil]
    · simp [none]

namespace Recorded

variable {uid realmId : Nat} {hash : String} {count : Int}

section

variable (recorded : Recorded d realms log s)

include recorded

theorem entered_unique :
    ((historyRecorded uid realmId hash s).passwordHistories.map PasswordHistory.id).Nodup := by
  apply nodup_cons.mpr
  refine ⟨?_, recorded.unique⟩
  intro old
  obtain ⟨row, mem, same⟩ := mem_map.mp old
  have before := (recorded.rows row mem).1
  simp only at same
  omega

theorem entered_newest : NewestFirst (historyRecorded uid realmId hash s).passwordHistories :=
  pairwise_cons.mpr ⟨fun row mem => (recorded.rows row mem).2, recorded.newest⟩

theorem entered_history : passwordHistory uid realmId (historyRecorded uid realmId hash s) =
      newEntry uid realmId hash s :: passwordHistory uid realmId s := by
  rw [passwordHistory_eq recorded.entered_newest, passwordHistory_eq recorded.newest]
  simp [historyRecorded, newEntry]

theorem kept_history (on : ¬ count ≤ 0) :
    passwordHistory uid realmId (historyKept uid realmId hash count s) =
      (newEntry uid realmId hash s :: passwordHistory uid realmId s).take count.toNat := by
  have newest : NewestFirst (historyRecorded uid realmId hash s).passwordHistories :=
    recorded.entered_newest
  rw [← recorded.entered_history, historyKept, if_neg on]
  rw [passwordHistory_eq (newest.trimmed _), passwordHistory_eq newest, historyTrimmed,
    filter_comm]
  apply Table.filter_drop
  exact recorded.entered_unique.sublist (filter_sublist.map _)

/-- Nobody else's history is cut: the rows that go are found by their ids. -/
theorem kept_other {id ofRealm : Nat}
    (other : id ≠ uid) : passwordHistory id ofRealm (historyKept uid realmId hash count s) =
      passwordHistory id ofRealm s := by
  have newest : NewestFirst (historyRecorded uid realmId hash s).passwordHistories :=
    recorded.entered_newest
  rw [historyKept]
  split
  · rfl
  have entered : (historyRecorded uid realmId hash s).passwordHistories.filter
      (fun e => e.userId = id && e.realmId = ofRealm) =
      s.passwordHistories.filter fun e => e.userId = id && e.realmId = ofRealm := by
    simp [historyRecorded, other.symm]
  rw [passwordHistory_eq (newest.trimmed _), passwordHistory_eq recorded.newest, ← entered,
    historyTrimmed, filter_comm]
  apply filter_eq_self.mpr
  intro row mem
  obtain ⟨isRow, own⟩ := mem_filter.mp mem
  simp only [not_eq_true', any_eq_false, decide_eq_true_eq]
  intro old beyond same
  rw [passwordHistory_eq newest] at beyond
  obtain ⟨isOld, theirs⟩ := mem_filter.mp (mem_of_mem_drop beyond)
  have one := inj_on_of_nodup_map recorded.entered_unique isOld isRow same
  simp only [and_eq_true, decide_eq_true_eq] at own theirs
  exact other (own.1.symm.trans (one ▸ theirs.1))

end

theorem kept_users (uid realmId : Nat) (hash : String) (count : Int) (s : Store) :
    (historyKept uid realmId hash count s).users = s.users ∧
      s.supply ≤ (historyKept uid realmId hash count s).supply ∧
      (historyKept uid realmId hash count s).now = s.now := by
  rw [historyKept]
  split
  · exact ⟨rfl, Nat.le_refl _, rfl⟩
  · exact ⟨rfl, le_succ _, rfl⟩

section

variable (recorded : Recorded d realms log s)

include recorded

theorem kept_rows {row : PasswordHistory}
    (mem : row ∈ (historyKept uid realmId hash count s).passwordHistories) :
    row.id < (historyKept uid realmId hash count s).supply ∧ row.createdAt ≤ s.now := by
  by_cases off : count ≤ 0
  · rw [historyKept, if_pos off] at mem ⊢
    exact recorded.rows row mem
  · rw [historyKept, if_neg off] at mem ⊢
    have entered : row ∈ (historyRecorded uid realmId hash s).passwordHistories :=
      (mem_filter.mp mem).1
    rcases mem_cons.mp entered with rfl | old
    · exact ⟨lt_succ_self _, le_refl _⟩
    · have := recorded.rows row old
      exact ⟨lt_succ_of_lt this.1, this.2⟩

theorem kept_unique :
    ((historyKept uid realmId hash count s).passwordHistories.map PasswordHistory.id).Nodup := by
  rw [historyKept]
  split
  · exact recorded.unique
  · exact recorded.entered_unique.sublist (filter_sublist.map _)

theorem kept_newest : NewestFirst (historyKept uid realmId hash count s).passwordHistories := by
  rw [historyKept]
  split
  · exact recorded.newest
  · exact recorded.entered_newest.trimmed _

end

theorem prefix_take_cons {α β γ : Type} {f : α → γ} {g : β → γ} {xs : List α} {ys : List β} {x : α}
    {y : β} {n : Nat} (both : (xs.take n).map f <+: ys.map g) (first : f x = g y) (some : 0 < n) :
    ((x :: xs).take n).map f <+: ((y :: ys).take n).map g := by
  cases n with
  | zero => omega
  | succ k =>
    have fewer : (xs.take k).map f <+: (xs.take (k + 1)).map f :=
      (take_prefix_take_left (le_succ k)).map f
    have rest : (xs.take k).map f <+: (ys.map g).take k :=
      prefix_take_iff.mpr ⟨fewer.trans both, by simp⟩
    simpa [first] using rest

theorem record (recorded : Recorded d realms log s) {chg : Change}
    (known : findUserById chg.user.id s = some cur)
    (same : cur.realmId = chg.user.realmId)
    (own : realmOf realms chg.user.realmId = some r)
    (short : Text.utf16Length chg.password.toList ≤ maxPasswordLength) :
    Recorded d realms (chg :: log) (historyKept chg.user.id r.id
      (d.hashPassword chg.password) r.passwordHistoryCount s) := by
  have issued := recorded.issued _ _ known
  obtain ⟨us, supply, clock⟩ := kept_users chg.user.id r.id
    (d.hashPassword chg.password) r.passwordHistoryCount s
  have found (id : Nat) : findUserById id (historyKept chg.user.id r.id
      (d.hashPassword chg.password) r.passwordHistoryCount s) = findUserById id s := by
    rw [findUserById, us, findUserById]
  refine
    { issued := ?_, rows := ?_, unique := recorded.kept_unique, newest := recorded.kept_newest,
      logged := ?_, last := ?_ }
  · intro id user isUser
    rw [found] at isUser
    have := recorded.issued id user isUser
    omega
  · intro row mem
    rw [clock]
    exact recorded.kept_rows mem
  · intro e mem
    rcases mem_cons.mp mem with rfl | old
    · exact ⟨by omega, short⟩
    · have := recorded.logged e old
      exact ⟨by omega, this.2⟩
  · intro id user ofUser isUser isRealm
    rw [found] at isUser
    have last := recorded.last id user ofUser isUser isRealm
    by_cases theirs : id = chg.user.id
    · subst theirs
      obtain rfl : cur = user := some.inj (known.symm.trans isUser)
      obtain rfl : r = ofUser := some.inj (own.symm.trans (same ▸ isRealm))
      by_cases off : r.passwordHistoryCount ≤ 0
      · simp [Int.toNat_of_nonpos off]
      · rw [recorded.kept_history off]
        have front : changesOf chg.user.id (chg :: log) = chg :: changesOf chg.user.id log := by
          simp [changesOf]
        rw [front]
        exact prefix_take_cons last rfl (by omega)
    · rw [recorded.kept_other theirs]
      have skipped : changesOf id (chg :: log) = changesOf id log := by
        simp [changesOf, Ne.symm theirs]
      rw [skipped]
      exact last

theorem not_reused (recorded : Recorded d realms log s)
    (verifies : ∀ password, d.argon2Verify (d.hashPassword password) password = some true)
    (known : findUserById user.id s = some cur)
    (own : realmOf realms cur.realmId = some r) (fresh : inHistory d password
      ((passwordHistory user.id r.id s).take r.passwordHistoryCount.toNat) = some false) :
    ∀ old ∈ (changesOf user.id log).take r.passwordHistoryCount.toNat, password ≠ old.password := by
  intro old mem same
  have last : _ <+: ((passwordHistory user.id r.id s).map passwordHash).take
      r.passwordHistoryCount.toNat :=
    prefix_take_iff.mpr ⟨recorded.last user.id cur r known own, by simp⟩
  rw [← map_take] at last
  obtain ⟨row, isRow, hashed⟩ :=
    mem_map.mp (last.subset (mem_map.mpr ⟨old, mem, rfl⟩))
  have differs := inHistory_false fresh row isRow
  have short := (recorded.logged old (mem_of_mem_filter (mem_of_mem_take mem))).2
  rw [hashed, same, Deps.verifyPassword, if_neg (by omega), verifies] at differs
  simp at differs

end Recorded

theorem findUserById_updated (id uid : Nat) (hash : String) (now : Int) (s : Store) :
    findUserById id (userUpdated uid (passwordSet hash now) s).2 =
      (findUserById id s).map fun user =>
        if uid = id then passwordSet hash now user else user :=
  find?_updateUser s uid id fun _ => rfl

variable {post : Unit → Store → Prop}

section

variable (recorded : Recorded d realms log s)

include recorded

theorem Recorded.updated (uid : Nat) (hash : String)
    (now : Int) : Recorded d realms log (userUpdated uid (passwordSet hash now) s).2 := by
  refine recorded.frame rfl (Nat.le_refl _) (le_refl _) ?_
  intro id user hit
  rw [findUserById_updated] at hit
  obtain ⟨old, known, rfl⟩ := map_eq_some_iff.mp hit
  refine .inl ⟨old, known, ?_⟩
  split <;> rfl

theorem Recorded.tokens (id : Nat) : Recorded d realms log (tokenDeleted id s) :=
  recorded.frame rfl (Nat.le_refl _) (le_refl _) fun _ user hit => .inl ⟨user, hit, rfl⟩

theorem Recorded.stored (known : findUserById user.id s = some cur)
    (same : cur.realmId = user.realmId) (own : realmOf realms user.realmId = some r)
    (short : Text.utf16Length password.toList ≤ maxPasswordLength) (now : Int) :
    Recorded d realms (⟨user, password⟩ :: log) (historyKept user.id r.id
      (d.hashPassword password) r.passwordHistoryCount
      (userUpdated user.id (passwordSet (d.hashPassword password) now) s).2) := by
  have isUpdated : findUserById user.id
      (userUpdated user.id (passwordSet (d.hashPassword password) now) s).2 =
      some (passwordSet (d.hashPassword password) now cur) := by
    rw [findUserById_updated, known]
    simp
  exact (recorded.updated _ _ _).record isUpdated same own short

theorem updatePassword_ensures (uid : Nat) (hash : String)
    (h : post () (userUpdated uid (passwordSet hash s.now) s).2) :
    (updatePassword uid hash).Ensures (Recorded d realms log) post s := by
  exact .read_bind (.atomic_bind (.require (recorded.updated _ _ _) fun _ => h))

end

variable {thrown : Store → Prop}

theorem checkHistory_ensures {uid realmId : Nat} {count : Int} (refused : thrown s) :
    (checkHistory d uid realmId password count).Ensures thrown
      (fun used s' => s' = s ∧ (used = false → inHistory d password
        ((passwordHistory uid realmId s).take count.toNat) = some false)) s := by
  unfold checkHistory
  split
  case isTrue off => exact ⟨rfl, fun _ => by simp [Int.toNat_of_nonpos off, inHistory]⟩
  case isFalse on =>
    refine .read_bind (.orFail refused fun used known => ⟨rfl, ?_⟩)
    rintro rfl
    exact known

def userAdded (user : User) (s : Store) : Store :=
  { s with supply := s.supply + 1, users := user :: s.users }

theorem userRegistered_cases (r : Realm) (form : RegistrationForm) (hash : String) (s : Store) :
    userRegistered r form hash s = (none, s) ∨
      ∃ user, user.id = s.supply ∧ user.realmId = r.id ∧ userRegistered r form hash s =
          (some user, userAdded user s) := by
  unfold userRegistered
  split
  · exact .inl rfl
  · exact .inr ⟨_, rfl, rfl, rfl⟩

theorem Recorded.registered (recorded : Recorded d realms log s)
    (isNew : user.id = s.supply) : Recorded d realms log (userAdded user s) := by
  refine recorded.frame rfl (le_succ _) (le_refl _) ?_
  intro id hit isFound
  by_cases fresh : id = s.supply
  · exact .inr ⟨fresh.ge, by simp [fresh, userAdded]⟩
  · have other : user.id ≠ id := by omega
    rw [findUserById, userAdded, find?_cons_of_neg (by simpa using other)] at isFound
    exact .inl ⟨hit, isFound, rfl⟩

theorem requireNoComplaint_ensures {complaint : Option String} (refused : thrown s) (h : post () s) :
    (requireNoComplaint complaint).Ensures thrown post s := by
  cases complaint with
  | none => exact h
  | some msg => exact refused

section Handlers

variable (verifies : ∀ password, d.argon2Verify (d.hashPassword password) password = some true)
include verifies

section

variable (recorded : Recorded d realms log s)

include recorded

theorem accepted_kept (known : findUserById user.id s = some cur)
    (same : cur.realmId = user.realmId) (home : realmOf realms user.realmId = some r)
    (strong : (passwordErrors r password).isEmpty = true) (fresh : inHistory d password
      ((passwordHistory user.id r.id s).take r.passwordHistoryCount.toNat) = some false) :
    Kept realms ⟨user, password⟩ log :=
  ⟨r, home, isEmpty_iff.mp strong, recorded.not_reused verifies known (same ▸ home) fresh⟩

theorem handleChangePassword_kept {form : PasswordForm} (own : realmOf realms r.id = some r)
    (proper : ∀ user ∈ presented .change_password form.token s, user.realmId = r.id) :
    (handleChangePassword d r form).Ensures (Recorded d realms log)
      (fun user s' => Recorded d realms (⟨user, form.newPassword.getD ""⟩ :: log) s' ∧
        Kept realms ⟨user, form.newPassword.getD ""⟩ log) s := by
  refine .orFail_bind recorded fun tok isToken => ?_
  refine .orFail_bind recorded fun _ _ => ?_
  refine .orFail_bind recorded fun password isPassword => ?_
  refine .require_bind recorded fun _ => ?_
  refine .read_bind (.read_bind ?_)
  refine .orFail_bind recorded fun record isRecord => ?_
  refine .read_bind (.orFail_bind recorded fun user isUser => ?_)
  refine .orFail_bind recorded fun _ _ => ?_
  refine .orFail_bind recorded fun _ _ => ?_
  refine .require_bind recorded fun _ => ?_
  refine .require_bind recorded fun strong => ?_
  refine .bind ((checkHistory_ensures recorded).mono ?_)
  rintro used _ ⟨rfl, unknown⟩
  refine .require_bind recorded fun unused => ?_
  refine .bind (.require_bind recorded fun short => ?_)
  refine .bind (updatePassword_ensures recorded _ _ ?_)
  refine .bind (.of_ok (recordHistory_run ..) ?_)
  refine .modify_bind ?_
  have isId : user.id = record.userId := findUserById_id isUser
  have isNew : form.newPassword.getD "" = password := by
    simp [(given_eq_some.mp isPassword).1]
  have home := proper user (by simp [presented, isToken, isRecord, isUser])
  rw [← home] at own
  rw [← isId] at isUser
  rw [isNew]
  have stored := recorded.stored isUser rfl own (of_decide_eq_true short)
  exact ⟨(stored _).tokens _,
    accepted_kept verifies recorded isUser rfl own strong (unknown (by simpa using unused))⟩

theorem handleResetPassword_kept {form : PasswordForm} (own : realmOf realms r.id = some r)
    (proper : ∀ user ∈ presented .password_reset form.token s, user.realmId = r.id ∧
      inHistory d (form.newPassword.getD "")
        ((passwordHistory user.id r.id s).take r.passwordHistoryCount.toNat) = some false) :
    (handleResetPassword d r form).Ensures (Recorded d realms log)
      (fun user s' => Recorded d realms (⟨user, form.newPassword.getD ""⟩ :: log) s' ∧
        Kept realms ⟨user, form.newPassword.getD ""⟩ log) s := by
  refine .orFail_bind recorded fun tok isToken => ?_
  refine .orFail_bind recorded fun password isPassword => ?_
  have isNew : form.newPassword.getD "" = password := by
    simp [(given_eq_some.mp isPassword).1]
  refine .require_bind recorded fun _ => ?_
  refine .require_bind recorded fun strong => ?_
  refine .bind (.read_bind (.read_bind ?_))
  cases isRecord : findToken tok s with
  | none => exact recorded
  | some record =>
    have recorded' := recorded.tokens record.id
    refine .modify_bind (.orFail_bind recorded' fun uid isUserId => ?_)
    refine .bind (.require_bind recorded' fun short => ?_)
    refine .bind (updatePassword_ensures recorded' _ _ ?_)
    refine .read_bind (.orFail_bind (recorded'.updated _ _ _) fun user isUser => ?_)
    refine .bind (.of_ok (recordHistory_run ..) ?_)
    rw [findUserById_updated] at isUser
    obtain ⟨before, known, isUpdated⟩ := map_eq_some_iff.mp isUser
    rw [if_pos rfl] at isUpdated
    have isId : uid = user.id := by
      rw [← isUpdated]
      exact (findUserById_id known).symm
    have same : before.realmId = user.realmId := by
      rw [← isUpdated]
      rfl
    obtain ⟨stands, isOwner⟩ := Option.ite_none_right_eq_some.mp isUserId
    have link : presented .password_reset form.token s = some before := by
      rw [← some.inj isOwner] at known
      simp [presented, isToken, isRecord, Option.filter, stands]
      exact known
    obtain ⟨home, fresh⟩ := proper before link
    subst isId
    rw [findUserById_id known, isNew] at fresh
    rw [← home, same] at own
    rw [isNew]
    have stored := recorded'.stored known same own (of_decide_eq_true short)
    exact ⟨stored _, accepted_kept verifies recorded known same own strong fresh⟩

end

omit verifies in
theorem Recorded.deleted {chg : Change} (recorded : Recorded d realms (chg :: log) s) :
    Recorded d realms log (userDeleted chg.user.id s) := by
  have hit {id : Nat} {user : User}
      (isUser : findUserById id (userDeleted chg.user.id s) = some user) :
      findUserById id s = some user ∧ id ≠ chg.user.id := by
    have isId : user.id = id := findUserById_id isUser
    have mem := (mem_filter.mp (mem_of_find?_eq_some isUser)).2
    have other : id ≠ chg.user.id := by
      rw [← isId]
      simpa using mem
    refine ⟨?_, other⟩
    rw [← isUser, findUserById, findUserById, userDeleted, find?_filter]
    congr 1
    funext row
    by_cases own : row.id = id <;> simp [own, other]
  have newest : NewestFirst (userDeleted chg.user.id s).passwordHistories :=
    filter _ recorded.newest
  refine
    { issued := fun id user isUser => recorded.issued id user (hit isUser).1
      logged := fun e mem => recorded.logged e (.tail _ mem)
      rows := fun row mem => recorded.rows row (mem_filter.mp mem).1
      unique := recorded.unique.sublist (filter_sublist.map _)
      newest := newest, last := ?_ }
  intro id user ofUser isUser isRealm
  obtain ⟨known, other⟩ := hit isUser
  have last := recorded.last id user ofUser known isRealm
  have skipped : changesOf id (chg :: log) = changesOf id log := by
    simp [changesOf, Ne.symm other]
  have same : passwordHistory id ofUser.id (userDeleted chg.user.id s) =
      passwordHistory id ofUser.id s := by
    rw [passwordHistory_eq newest, passwordHistory_eq recorded.newest, userDeleted, filter_filter]
    congr 1
    funext row
    by_cases own : row.userId = id <;> simp [own, other]
  rw [skipped] at last
  rw [same]
  exact last

omit verifies in
theorem handleRegistration_kept (recorded : Recorded d realms log s) {form : RegistrationForm}
    (own : realmOf realms r.id = some r) :
    (handleRegistration d r form).Ensures (Recorded d realms log)
      (fun user s' => Recorded d realms (⟨user, form.password.getD ""⟩ :: log) s' ∧
        Kept realms ⟨user, form.password.getD ""⟩ log) s := by
  refine .require_bind recorded fun _ => ?_
  refine .bind (requireNoComplaint_ensures recorded ?_)
  refine .orFail_bind recorded fun password isPassword => ?_
  have isNew : form.password.getD "" = password := by
    simp [(given_eq_some.mp isPassword).1]
  refine .require_bind recorded fun _ => ?_
  refine .require_bind recorded fun strong => ?_
  refine .bind (requireNoComplaint_ensures recorded ?_)
  refine .read_bind (.read_bind (.require_bind recorded fun _ => ?_))
  refine .bind (.require_bind recorded fun short => ?_)
  refine .atomic_bind ?_
  rcases userRegistered_cases r form (d.hashPassword password) s with
    taken | ⟨user, isFresh, isHome, new⟩
  · rw [taken]
    exact recorded
  · rw [new]
    have registered := recorded.registered isFresh
    have known : findUserById user.id (userAdded user s) = some user := by
      simp [findUserById, userAdded]
    rw [← isHome] at own
    have row : Recorded d realms (⟨user, password⟩ :: log) (historyKept user.id r.id
        (d.hashPassword password) r.passwordHistoryCount (userAdded user s)) :=
      registered.record known rfl own (of_decide_eq_true short)
    refine .orFail_bind registered fun _ isUser => ?_
    obtain rfl := some.inj isUser
    refine .bind (.of_ok (recordHistory_run ..) ?_)
    split
    · rw [isNew]
      refine ⟨row, r, own, isEmpty_iff.mp strong, ?_⟩
      rw [recorded.changesOf_fresh isFresh.ge]
      simp
    · exact .modify_bind row.deleted

def Answered (d : Deps) (realms : List Realm) (log : List Change) : Option Change → Store → Prop
  | none, s => Recorded d realms log s
  | some change, s => Recorded d realms (change :: log) s ∧ Kept realms change log

theorem serve_kept (recorded : Recorded d realms log s) {req : Request}
    (proper : Proper d realms s req) :
    (serve d realms req).Ensures (Recorded d realms log) (Answered d realms log) s := by
  cases req with
  | register realmId form =>
    refine .orFail_bind recorded fun r own => ?_
    obtain rfl := realmOf_id own
    exact .bind (handleRegistration_kept recorded own)
  | changePassword realmId form =>
    refine .orFail_bind recorded fun r own => ?_
    obtain rfl := realmOf_id own
    exact .bind (handleChangePassword_kept verifies recorded own proper)
  | resetPassword realmId form =>
    refine .orFail_bind recorded fun r own => ?_
    obtain rfl := realmOf_id own
    refine .bind (handleResetPassword_kept verifies recorded own ?_)
    intro user link
    exact ⟨(proper user link).1, (proper user link).2 r own⟩
  | issueToken uid type lifetime =>
    refine .modify_bind ?_
    unfold tokenIssued
    split
    · exact recorded.frame rfl (le_succ _) (le_refl _) fun _ user hit => .inl ⟨user, hit, rfl⟩
    · exact recorded

theorem State.step_held {state : State} {ev : Event}
    (recorded : Recorded d realms state.log state.store) (held : Held realms state.log)
    (proper : Proper d realms (state.ticked ev) ev.request) :
    Recorded d realms (state.step d realms ev).log (state.step d realms ev).store ∧
      Held realms (state.step d realms ev).log := by
  have later : state.store.now ≤ state.store.now + ev.elapsed := by omega
  have ticked : Recorded d realms state.log (state.ticked ev) :=
    recorded.frame rfl (Nat.le_refl _) later fun _ user hit => .inl ⟨user, hit, rfl⟩
  have answered := serve_kept verifies ticked proper
  unfold step
  rcases ran : (serve d realms ev.request).run (state.ticked ev) with ⟨res, s⟩
  cases res with
  | error f => exact ⟨answered.of_error ran, held⟩
  | ok chg =>
    have left := answered.of_run ran
    cases chg with
    | none => exact ⟨left, held⟩
    | some chg => exact ⟨left.1, left.2, held⟩

theorem State.run_held {state : State} {evs : List Event}
    (recorded : Recorded d realms state.log state.store) (held : Held realms state.log)
    (proper : ProperRun d realms state evs) :
    Held realms (state.run d realms evs).log := by
  induction evs generalizing state with
  | nil => exact held
  | cons ev evs ih =>
    obtain ⟨recorded', held'⟩ := step_held verifies recorded held proper.1
    exact ih recorded' held' proper.2

end Handlers

theorem Tables.recorded (tables : Tables s) : Recorded d realms [] s where
  toTables := tables
  logged := by simp
  last := by simp [changesOf]

/-- In a run of proper requests every accepted password keeps to the policy of the realm of its
user, and is none of the passwords that the user had set before it, as far back as the realm
remembers. -/
theorem passwords_held
    (verifies : ∀ password, d.argon2Verify (d.hashPassword password) password = some true)
    {start : Store} (tables : Tables start) {evs : List Event}
    (proper : ProperRun d realms ⟨start, []⟩ evs) :
    Held realms (run d realms ⟨start, []⟩ evs).log :=
  run_held verifies tables.recorded trivial proper

def staff : Realm := { id := 0, name := "staff", passwordMinLength := 12, passwordHistoryCount := 2 }
def guests : Realm := { id := 1, name := "guests" }

def annRegisters : Event :=
  { request := .register 0
      { username := "ann", email := "ann@example.org", password := some "correct horse",
        confirmPassword := some "correct horse" } }

def linkSent (type : VerificationType) : Event :=
  { elapsed := 1000, request := .issueToken 0 type 3600 }

def resetAt (realmId token : Nat) (password : String) : Event :=
  { elapsed := 1000
    request := .resetPassword realmId
      { token := some token, newPassword := some password, confirmPassword := some password } }

def changeTo (token : Nat) (current password : String) : Event :=
  { elapsed := 1000
    request := .changePassword 0
      { token := some token, currentPassword := some current, newPassword := some password,
        confirmPassword := some password } }

def annChangesTwice : List Event :=
  [annRegisters, linkSent .password_reset, resetAt 0 2 "battery staple",
    linkSent .change_password, changeTo 4 "battery staple" "purple elephant"]

theorem tables_empty : Tables {} where
  issued := by simp [findUserById]
  rows := by simp
  unique := by simp
  newest := nil

theorem ann_changes_twice :
    (run .transparent [staff, guests] ⟨{}, []⟩ annChangesTwice).log.map Change.password =
        ["purple elephant", "battery staple", "correct horse"] ∧ Held [staff, guests]
        (run .transparent [staff, guests] ⟨{}, []⟩ annChangesTwice).log := by
  constructor
  · decide +kernel
  · apply passwords_held
    · intro password
      simp [Deps.transparent]
    · exact tables_empty
    · decide +kernel

/-- A reset takes the password that Ann has, and a reset at another realm one that is too short. -/
theorem resets_break_the_policy :
    ¬ Held [staff, guests] (run .transparent [staff, guests] ⟨{}, []⟩
      [annRegisters, linkSent .password_reset, resetAt 0 2 "correct horse"]).log ∧
    ¬ Held [staff, guests] (run .transparent [staff, guests] ⟨{}, []⟩
      [annRegisters, linkSent .password_reset, resetAt 1 2 "12345678"]).log := by
  decide +kernel

end Idenplane.Passwords
