import Idenplane.Auth.Outcomes
import Idenplane.Lib.Table

/-! # Whose tokens a grant returns

The handlers look a credential up by a global key and issue tokens for the user it
belongs to.  `Redeems` is that user, for every grant that redeems something stored.
Two rules about the subject of returned tokens follow the same pattern: the password
grant enforces them on the user it authenticates; for the other grants they hold exactly
when they hold of the user whose credential the request redeems.
-/

namespace Idenplane.Auth

open Atomic SessionWork Prod

variable {username password : String} {known : Option User}

section Subjects

variable {d : Deps} {i : Nat} {r : Realm} {body : Body} {s s' : Store}
  {answer : TokenResponse} {user : User}

/-- The request redeems a stored credential of this user: a refresh token, a code, a
device code, an answered challenge, or the service account of its client.  Every check
of the grant's handler passes. -/
def Redeems (d : Deps) (i : Nat) (realm : Realm) (body : Body) (s : Store) : GrantType → User → Prop
  | .password, _ => False
  | .refresh_token, user => ∃ stored, RefreshAccepted d realm body s stored ∧
      stored.user = user ∧ Issuable realm user s
  | .authorization_code, user => ∃ client row, CodeAccepted d realm body s client row user ∧
      Issuable realm user s
  | .device_code, user => ∃ device, DeviceAccepted d realm body s device user ∧
      Issuable realm user s
  | .mfa_otp, user => ∃ token challenge factor t,
      MfaAccepted d i realm body s token challenge factor t user ∧ Issuable realm user s
  | .client_credentials, user => ∃ client, Accepts d realm body "client_credentials" s client ∧
      serviceAccount client s = some user ∧ Issuable realm user s ∧
      (cappedStore realm user s).sessions.any (·.id = s.supply) = true

theorem findUserById_any {id : Nat} (hit : findUserById id s = some user) :
    user ∈ s.users ∧ s.users.any (·.id = user.id) = true :=
  ⟨mem_of_find?_eq_some hit, any_eq_true.mpr ⟨user, mem_of_find?_eq_some hit, by simp⟩⟩

theorem startSession_from (acr : Option String) (amr : List String) (issue : Issue)
    {t : Store} (same : SameAccounts s t) (known : user ∈ s.users)
    (isUser : issue.user = user) (isRealm : issue.realm = r) :
    (∀ answer s', (startSession d acr amr issue).run t = (.ok answer, s') →
      SameAccounts s s' ∧ Issuable r user s ∧
        ∃ sid, answer.accessToken.origin = .accessToken user.id sid) ∧
    (Issuable r user s → ∃ answer s', (startSession d acr amr issue).run t = (.ok answer, s') ∧
        ∃ sid, answer.accessToken.origin = .accessToken user.id sid) := by
  subst isUser isRealm
  constructor
  · intro answer s' done_
    have work := of_run (startSession_works d acr amr issue) done_
    have issuable := (startSession_total.mp ⟨answer, s', done_⟩).1
    exact ⟨same.trans work.accounts, (Issuable.same _ _ same).mp issuable,
      startSession_origin done_⟩
  · intro issuable
    have here : t.users.any (·.id = issue.user.id) = true :=
      any_eq_true.mpr ⟨issue.user, same.users ▸ known, by simp⟩
    obtain ⟨answer, s', done_⟩ :=
      startSession_total.mpr ⟨(Issuable.same _ _ same).mpr issuable, here⟩
    exact ⟨answer, s', done_, startSession_origin done_⟩

def CheckWork (s s' : Store) : Prop :=
  { s' with otpAttempts := s.otpAttempts, smsLog := s.smsLog, usedTotpCodes := s.usedTotpCodes,
            recoveryCodes := s.recoveryCodes } = s

theorem CheckWork.refl (s : Store) : CheckWork s s := rfl

def FactorWork (s s' : Store) : Prop := CheckWork s { s' with mfaLog := s.mfaLog }

theorem CheckWork.factorWork {s s' : Store} (work : CheckWork s s') : FactorWork s s' := by
  unfold FactorWork CheckWork at *
  rw [← work]

theorem FactorWork.refl (s : Store) : FactorWork s s := rfl

theorem FactorWork.trans {a b c : Store} (ab : FactorWork a b) (bc : FactorWork b c) :
    FactorWork a c := by
  rw [← bc] at ab
  exact ab

theorem FactorWork.accounts (work : FactorWork s s') : SameAccounts s s' :=
  ⟨(congrArg Store.users work :), (congrArg Store.clients work :), (congrArg Store.roles work :),
    (congrArg Store.userRoles work :), (congrArg Store.groups work :),
    (congrArg Store.userGroups work :), (congrArg Store.groupRoles work :),
    (congrArg Store.signingKeys work :)⟩

theorem claimedPhone_works (ps : Sms.VerifyParams) (row : OtpAttempt) :
    (Sms.claimedPhone d ps row).Keeps CheckWork := by
  unfold Sms.claimedPhone
  split
  · split
    · exact .bind (.orFail _ _) fun _ => .bind (.orFail _ _) fun _ => trivial
    · trivial
  · exact .read .refl _
  · exact .read .refl _

theorem verifyCode_works (req : Nat) (ps : Sms.VerifyParams) :
    (Sms.verifyCode d req ps).Keeps CheckWork := by
  have reserve : ∀ rowId now t, CheckWork t (Sms.reserveGuess req rowId now t).2 := by
    intro rowId now t
    simp only [Sms.reserveGuess]
    split <;> exact rfl
  have claim : ∀ row t, CheckWork t (Sms.claimCode req row t).2 := by
    intro row t
    simp only [Sms.claimCode]
    split <;> exact rfl
  refine .bind (.read .refl _) fun hit => ?_
  cases hit with
  | none => trivial
  | some row =>
    dsimp only
    split
    · trivial
    refine .bind (.read .refl _) fun now => .bind (.atomic (reserve row.id now)) fun reserved => ?_
    split
    · split <;> trivial
    split
    · split <;> trivial
    refine .bind (.atomic (claim row)) fun claimed => ?_
    split
    · trivial
    refine .bind (claimedPhone_works ps row) fun phone => ?_
    cases phone <;> trivial

theorem verifyTotp_works (uid : Nat) (code : String) : (verifyTotp d uid code).Keeps CheckWork := by
  refine .bind (.read .refl _) fun cred => ?_
  cases cred with
  | none => trivial
  | some cred =>
    dsimp only
    split
    · trivial
    refine .bind (.read .refl _) fun used => ?_
    split
    · trivial
    refine .bind (.read .refl _) fun now => ?_
    split
    · exact .bind (.modify fun _ => rfl) fun _ => trivial
    · trivial

theorem checkAnswer_works (uid : Nat) (input : SecondFactorInput) :
    (checkAnswer d i uid input).Keeps CheckWork := by
  cases input with
  | totp code =>
    simp only [checkAnswer]
    split
    · trivial
    · exact .bind (verifyTotp_works _ _) fun _ => trivial
  | recovery code =>
    simp only [checkAnswer]
    split
    · trivial
    · exact .bind (.atomic fun _ => rfl) fun _ => trivial
  | otp code =>
    simp only [checkAnswer]
    split
    · trivial
    refine .bind (verifyTotp_works uid _) fun totp => ?_
    split
    · trivial
    exact .bind (.atomic fun _ => rfl) fun _ => trivial
  | sms code rid purpose binding =>
    simp only [checkAnswer]
    split
    · trivial
    refine .bind (verifyCode_works i _) fun res => ?_
    cases res <;> trivial

theorem verifySecondFactor_works (tok uid : Nat) (input : SecondFactorInput) :
    (verifySecondFactor d i tok uid input).Keeps FactorWork :=
  .bind (.modify fun _ => rfl) fun _ =>
    (checkAnswer_works uid input).mono fun _ _ work => work.factorWork

theorem FactorWork.of_run {α : Type} {p : Op α} (keeps : p.Keeps FactorWork)
    {res : Except Failure α} (h : p.run s = (res, s')) : FactorWork s s' := by
  have work := keeps.run .refl .trans s
  rw [h] at work
  exact work

theorem MfaAccepted.accounts {tok : Nat} {chal : PendingAction} {factor : VerifiedFactor}
    {t : Store} (ok : MfaAccepted d i r body s tok chal factor t user) :
    SameAccounts s t := by
  obtain ⟨otp, -, verified⟩ := ok.verified
  have attempt : SameAccounts s (attempted i tok s) := ⟨rfl, rfl, rfl, rfl, rfl, rfl, rfl, rfl⟩
  exact attempt.trans (FactorWork.of_run (verifySecondFactor_works _ _ _) verified).accounts

structure Redeemed (d : Deps) (i : Nat) (realm : Realm) (body : Body) (s : Store)
    (grant : GrantType) (answer : TokenResponse) (s' : Store) : Prop where
  same : SameAccounts s s'
  subject : (∃ user ∈ s.users, Redeems d i realm body s grant user ∧
      ∃ sessionId, answer.accessToken.origin = .accessToken user.id sessionId) ∨
    ∃ client ∈ s.clients, client.realmId = realm.id ∧
      answer.accessToken.origin = .clientToken client.id

theorem handleRefreshTokenGrant_redeemed
    (done_ : (handleRefreshTokenGrant d i r body).run s = (.ok answer, s')) :
    Redeemed d i r body s .refresh_token answer s' := by
  obtain ⟨row, accepted, issued⟩ := handleRefreshTokenGrant_ok.mp done_
  have same := rotateToken_accounts i row.token s
  have work := of_run (issueTokens_works d _) issued
  have issuable := (issueTokens_total.mp ⟨answer, s', issued⟩).1
  obtain ⟨presented, -, hit⟩ := accepted.found
  have isUser := (findRefreshToken_spec hit).2.2.2
  refine ⟨same.trans work.accounts, .inl ⟨row.user, (findUserById_any isUser).1, ?_, ?_⟩⟩
  · exact ⟨row, accepted, rfl, (Issuable.same r row.user same).mp issuable⟩
  · exact ⟨_, issueTokens_origin issued⟩

theorem handleAuthorizationCodeGrant_redeemed
    (done_ : (handleAuthorizationCodeGrant d i r body).run s = (.ok answer, s')) :
    Redeemed d i r body s .authorization_code answer s' := by
  obtain ⟨c, row, user, accepted, begun⟩ := handleAuthorizationCodeGrant_ok.mp done_
  have known := (findUserById_any accepted.isUser).1
  obtain ⟨same, issuable, o⟩ := (startSession_from _ _ (codeIssue r body row user)
    (claimCode_accounts i c row.code s) known rfl rfl).1 answer s' begun
  exact ⟨same, .inl ⟨user, known, ⟨c, row, accepted, issuable⟩, o⟩⟩

theorem handleDeviceCodeGrant_redeemed
    (done_ : (handleDeviceCodeGrant d r body).run s = (.ok answer, s')) :
    Redeemed d i r body s .device_code answer s' := by
  obtain ⟨device, user, accepted, begun⟩ := handleDeviceCodeGrant_ok.mp done_
  obtain ⟨uid, -, isUser⟩ := accepted.isUser
  have known := (findUserById_any isUser).1
  obtain ⟨same, issuable, o⟩ := (startSession_from _ _ (deviceIssue r body device user)
    (deviceSpent_accounts device s) known rfl rfl).1 answer s' begun
  exact ⟨same, .inl ⟨user, known, ⟨device, accepted, issuable⟩, o⟩⟩

theorem handleMfaOtpGrant_redeemed
    (done_ : (handleMfaOtpGrant d i r body).run s = (.ok answer, s')) :
    Redeemed d i r body s .mfa_otp answer s' := by
  obtain ⟨tok, chal, factor, t, user, accepted, begun⟩ := handleMfaOtpGrant_ok.mp done_
  have dropped : SameAccounts t (claimChallenge i (sha256 tok) t).2 :=
    ⟨rfl, rfl, rfl, rfl, rfl, rfl, rfl, rfl⟩
  have known : user ∈ s.users := accepted.accounts.users ▸ (findUserById_any accepted.isUser).1
  obtain ⟨same, issuable, o⟩ := (startSession_from _ _ (mfaIssue r body user)
    (accepted.accounts.trans dropped) known rfl rfl).1 answer s' begun
  exact ⟨same, .inl ⟨user, known, ⟨tok, chal, factor, t, accepted, issuable⟩, o⟩⟩

theorem clientToken_ok {c : Client} (done_ : (clientToken d r body c).run s = (.ok answer, s')) :
    SessionWork s s' ∧ answer.accessToken.origin = .clientToken c.id := by
  simp only [clientToken, run_read_bind, run_orFail_bind_ok, signJwt,
    run_atomic_bind, pure_def, run_done, mk.injEq, ok.injEq] at done_
  obtain ⟨key, -, rfl, rfl⟩ := done_
  exact ⟨⟨le_succ _, rfl⟩, rfl⟩

theorem handleClientCredentialsGrant_redeemed
    (done_ : (handleClientCredentialsGrant d r body).run s = (.ok answer, s')) :
    Redeemed d i r body s .client_credentials answer s' := by
  obtain ⟨c, accepts, ⟨user, isAccount, issued⟩ | ⟨-, issued⟩⟩ :=
    handleClientCredentialsGrant_ok.mp done_
  · obtain ⟨-, issued⟩ := serviceAccountTokens_ok.mp issued
    have same := (cappedStore_works r user s).accounts
    have work := of_run (issueTokens_works d _) issued
    obtain ⟨issuable, sess⟩ := issueTokens_total.mp ⟨answer, s', issued⟩
    obtain ⟨id, -, isUser⟩ := bind_eq_some_iff.mp isAccount
    refine ⟨same.trans work.accounts, .inl ⟨user, (findUserById_any isUser).1, ?_, ?_⟩⟩
    · exact ⟨c, accepts, isAccount, (Issuable.same r user same).mp issuable, sess⟩
    · exact ⟨_, issueTokens_origin issued⟩
  · obtain ⟨work, o⟩ := clientToken_ok issued
    have isClient := mem_of_find?_eq_some accepts.found
    exact ⟨work.accounts, .inr ⟨c, isClient, accepts.authenticated.realm, o⟩⟩

theorem Redeems.granted {grant : GrantType} (redeems : Redeems d i r body s grant user) :
    user ∈ s.users ∧ ∃ answer s', (handleGrant d i r body grant).run s = (.ok answer, s') ∧
      SameAccounts s s' ∧
      ∃ sessionId, answer.accessToken.origin = .accessToken user.id sessionId := by
  cases grant with
  | password => exact redeems.elim
  | refresh_token =>
    obtain ⟨stored, accepted, rfl, issuable⟩ := redeems
    obtain ⟨presented, -, hit⟩ := accepted.found
    obtain ⟨-, -, isSession, isUser⟩ := findRefreshToken_spec hit
    have same := rotateToken_accounts i stored.token s
    have sess : (rotateToken i stored.token s).2.sessions.any
        (·.id = stored.token.sessionId) = true := by
      rw [rotateToken_sessions]
      exact any_eq_true.mpr ⟨stored.session, mem_of_find?_eq_some isSession,
        by simpa using find?_some isSession⟩
    obtain ⟨answer, s', issued⟩ := issueTokens_total.mpr
      (⟨(Issuable.same r stored.user same).mpr issuable, sess⟩ :
        Issuable (refreshIssue i r body stored).realm (refreshIssue i r body stored).user _ ∧ _)
    have done_ := handleRefreshTokenGrant_ok.mpr ⟨stored, accepted, issued⟩
    exact ⟨(findUserById_any isUser).1, answer, s', done_,
      (handleRefreshTokenGrant_redeemed done_).same, _, issueTokens_origin issued⟩
  | authorization_code =>
    obtain ⟨c, row, accepted, issuable⟩ := redeems
    have known := (findUserById_any accepted.isUser).1
    obtain ⟨answer, s', begun, o⟩ := (startSession_from _ _ (codeIssue r body row user)
      (claimCode_accounts i c row.code s) known rfl rfl).2 issuable
    have done_ := handleAuthorizationCodeGrant_ok.mpr ⟨c, row, user, accepted, begun⟩
    exact ⟨known, answer, s', done_, (handleAuthorizationCodeGrant_redeemed done_).same, o⟩
  | device_code =>
    obtain ⟨device, accepted, issuable⟩ := redeems
    obtain ⟨uid, -, isUser⟩ := accepted.isUser
    have known := (findUserById_any isUser).1
    obtain ⟨answer, s', begun, o⟩ := (startSession_from _ _ (deviceIssue r body device user)
      (deviceSpent_accounts device s) known rfl rfl).2 issuable
    have done_ := handleDeviceCodeGrant_ok.mpr ⟨device, user, accepted, begun⟩
    exact ⟨known, answer, s', done_, (handleDeviceCodeGrant_redeemed (i := i) done_).same, o⟩
  | mfa_otp =>
    obtain ⟨tok, chal, factor, t, accepted, issuable⟩ := redeems
    have dropped : SameAccounts t (claimChallenge i (sha256 tok) t).2 :=
      ⟨rfl, rfl, rfl, rfl, rfl, rfl, rfl, rfl⟩
    have known : user ∈ s.users := accepted.accounts.users ▸ (findUserById_any accepted.isUser).1
    obtain ⟨answer, s', begun, o⟩ := (startSession_from _ _ (mfaIssue r body user)
      (accepted.accounts.trans dropped) known rfl rfl).2 issuable
    have done_ := handleMfaOtpGrant_ok.mpr ⟨tok, chal, factor, t, user, accepted, begun⟩
    exact ⟨known, answer, s', done_, (handleMfaOtpGrant_redeemed done_).same, o⟩
  | client_credentials =>
    obtain ⟨c, accepts, isAccount, issuable, sess⟩ := redeems
    obtain ⟨id, -, isUser⟩ := bind_eq_some_iff.mp isAccount
    have same := (cappedStore_works r user s).accounts
    obtain ⟨known, here⟩ := findUserById_any isUser
    obtain ⟨answer, s', issued⟩ := issueTokens_total.mpr
      (⟨(Issuable.same r user same).mpr issuable, sess⟩ :
        Issuable (serviceIssue r body user s).realm (serviceIssue r body user s).user _ ∧ _)
    have done_ := handleClientCredentialsGrant_ok.mpr
      ⟨c, accepts, .inl ⟨user, isAccount, serviceAccountTokens_ok.mpr ⟨here, issued⟩⟩⟩
    exact ⟨known, answer, s', done_, (handleClientCredentialsGrant_redeemed (i := i) done_).same,
      _, issueTokens_origin issued⟩

structure UserKeys (s : Store) : Prop where
  unique : ∀ a ∈ s.users, ∀ b ∈ s.users, a.id = b.id → a = b
  drawn : ∀ a ∈ s.users, a.id < s.supply

/-- What a search for a user leaves behind: nobody is lost, and whoever was found belongs
to the realm. -/
structure Searched (realmId : Nat) (s s' : Store) (who : Option User) : Prop where
  keys : UserKeys s'
  users : s.users ⊆ s'.users
  found : ∀ user, who = some user → user ∈ s'.users ∧ user.realmId = realmId

variable {rid : Nat}

theorem Searched.trans {a b c : Store} {first second : Option User}
    (ab : Searched rid a b first) (bc : Searched rid b c second) :
    Searched rid a c second :=
  ⟨bc.keys, Subset.trans ab.users bc.users, bc.found⟩

theorem Searched.nobody (keys : UserKeys s) : Searched rid s s none :=
  ⟨keys, Subset.refl _, fun _ no => by cases no⟩

theorem UserKeys.findUserById (keys : UserKeys s) (known : user ∈ s.users) {other : User}
    (hit : findUserById user.id s = some other) : other = user :=
  keys.unique other (findUserById_any hit).1 user known (by simpa using find?_some hit)

theorem findUser_spec {realmId : Nat} (hit : findUser realmId username s = some user) :
    user ∈ s.users ∧ user.realmId = realmId := by
  have named := find?_some hit
  simp only [and_eq_true, decide_eq_true_eq] at named
  exact ⟨mem_of_find?_eq_some hit, named.1⟩

theorem importUser_ok (fed : UserFederation) (e : LdapUser)
    (keys : UserKeys s) : Searched rid s (importUser rid fed e s).2 (importUser rid fed e s).1 := by
  simp only [importUser]
  split
  · exact .nobody keys
  · refine ⟨⟨?_, ?_⟩, subset_cons_self _ _, ?_⟩
    · have fresh : ∀ user ∈ s.users, user.id ≠ s.supply := fun user known => (keys.drawn user known).ne
      exact Table.Unique.cons (show Table.Unique User.id s.users from keys.unique) fresh
    · intro user known
      rcases mem_cons.mp known with rfl | old
      · exact lt_succ_self _
      · exact lt_succ_of_lt (keys.drawn user old)
    · rintro user ⟨⟩
      exact ⟨mem_cons_self .., rfl⟩

theorem findOrImport_ok {fed : UserFederation}
    {known res : Option User} (here : Searched rid s s known)
    (done_ : (findOrImport d rid username fed known).run s = (.ok res, s')) :
    Searched rid s s' res := by
  cases known with
  | some user =>
    cases done_
    exact here
  | none =>
    simp only [findOrImport] at done_
    split at done_
    · split at done_
      · rename_i entry _
        simp only [run_atomic_bind, run_orFail_bind_ok, pure_def, run_done,
          mk.injEq, ok.injEq] at done_
        obtain ⟨user, new, rfl, rfl⟩ := done_
        rw [← new]
        exact importUser_ok fed entry here.keys
      · cases done_
        exact here
    · cases done_
      exact here

theorem tryFederations_ok {feds : List UserFederation} {res : Option Nat} (keys : UserKeys s)
    (done_ : (tryFederations d rid username password feds).run s = (.ok res, s')) :
    ∃ who, Searched rid s s' who ∧ res = who.map (·.id) := by
  induction feds generalizing s with
  | nil =>
    cases done_
    exact ⟨none, .nobody keys, rfl⟩
  | cons fed rest ih =>
    simp only [tryFederations] at done_
    split at done_
    · rw [run_read_bind] at done_
      obtain ⟨who, t, searched, done_⟩ := run_bind_ok.mp done_
      have found := findOrImport_ok
        ⟨keys, Subset.refl _, fun user isUser => findUser_spec isUser⟩ searched
      cases who with
      | some user =>
        cases done_
        exact ⟨some user, found, rfl⟩
      | none =>
        obtain ⟨who, later, same⟩ := ih found.keys done_
        exact ⟨who, found.trans later, same⟩
    · exact ih keys done_

theorem authenticateViaFederation_ok {res : Option Nat} (keys : UserKeys s)
    (done_ : (authenticateViaFederation d rid username password).run s = (.ok res, s')) :
    Searched rid s s' (res.bind (findUserById · s')) := by
  obtain ⟨who, searched, rfl⟩ := tryFederations_ok keys done_
  refine ⟨searched.keys, searched.users, ?_⟩
  intro user isUser
  obtain ⟨id, isId, hit⟩ := bind_eq_some_iff.mp isUser
  obtain ⟨other, isOther, rfl⟩ := map_eq_some_iff.mp isId
  obtain ⟨known, inRealm⟩ := searched.found other isOther
  rw [searched.keys.findUserById known hit]
  exact ⟨known, inRealm⟩

theorem authenticateLinked_ok {known res : Option User} (here : Searched r.id s s known)
    (done_ : (authenticateLinked d r username password known).run s = (.ok res, s')) :
    Searched r.id s s' res := by
  cases known with
  | none =>
    cases done_
    exact here
  | some user =>
    simp only [authenticateLinked] at done_
    split at done_
    · obtain ⟨accepted, t, searched, done_⟩ := run_bind_ok.mp done_
      have federated := authenticateViaFederation_ok here.keys searched
      obtain ⟨id, rfl, hit⟩ := run_orFail_bind_ok.mp done_
      cases hit
      exact federated
    · cases done_
      exact here

theorem authenticateUnknown_ok {known res : Option User} (here : Searched r.id s s known)
    (done_ : (authenticateUnknown d r username password known).run s = (.ok res, s')) :
    Searched r.id s s' res := by
  simp only [authenticateUnknown] at done_
  split at done_
  · obtain ⟨accepted, t, searched, done_⟩ := run_bind_ok.mp done_
    have federated := authenticateViaFederation_ok here.keys searched
    cases accepted with
    | some id =>
      cases done_
      exact federated
    | none =>
      cases done_
      refine ⟨federated.keys, federated.users, ?_⟩
      intro user isUser
      obtain ⟨mem, inRealm⟩ := here.found user isUser
      exact ⟨federated.users mem, inRealm⟩
  · cases done_
    exact here

theorem demandSecondFactor_ok {cid : Option String} {mfaRequired mfaEnabled : Bool}
    (done_ : (demandSecondFactor r user cid mfaRequired mfaEnabled).run s =
      (.ok (), s')) : s' = s := by
  unfold demandSecondFactor at done_
  split at done_
  · simp only [run_bind_ok, Prog.run_fail, mk.injEq, reduceCtorEq, false_and, and_false,
      exists_false] at done_
  · split at done_
    · cases done_
    · cases done_
      rfl

theorem refuseWrongPassword_ok {valid : Bool}
    (done_ : (refuseWrongPassword r user valid).run s = (.ok (), s')) : s' = s := by
  unfold refuseWrongPassword at done_
  split at done_
  · cases done_
    rfl
  · simp only [run_bind_ok, Prog.run_fail, mk.injEq, reduceCtorEq, false_and, and_false,
      exists_false] at done_

theorem resetFailures_ok (done_ : (resetFailures r.id user.id).run s = (.ok (), s'))
    (known : user ∈ s.users) : { user with lockedUntil := none } ∈ s'.users := by
  simp only [resetFailures, run_modify_bind, run_atomic_bind, Prog.run_require_ok] at done_
  obtain ⟨-, rfl⟩ := done_
  exact mem_map.mpr ⟨user, known, by simp⟩

/-- The password grant returns tokens for enabled users of the realm only. -/
theorem handlePasswordGrant_subject (keys : UserKeys s)
    (done_ : (handlePasswordGrant d r body).run s = (.ok answer, s')) :
    ∃ user ∈ s'.users, user.enabled = true ∧ user.realmId = r.id ∧
      ∃ sessionId, answer.accessToken.origin = .accessToken user.id sessionId := by
  simp only [handlePasswordGrant, validateClient_bind_ok, run_require_bind_ok,
    run_read_bind] at done_
  obtain ⟨-, -, -, authenticating⟩ := done_
  obtain ⟨linked, t₁, isLinked, searching⟩ := run_bind_ok.mp authenticating
  have first := authenticateLinked_ok
    ⟨keys, Subset.refl _, fun user isUser => findUser_spec isUser⟩ isLinked
  obtain ⟨hit, t₂, isFound, checking⟩ := run_bind_ok.mp searching
  have second := authenticateUnknown_ok ⟨first.keys, Subset.refl _, first.found⟩ isFound
  simp only [run_orFail_bind_ok, run_read_bind, run_require_bind_ok] at checking
  obtain ⟨user, isUser, -, valid, -, verifying⟩ := checking
  obtain ⟨isUser, enabled⟩ := filter_eq_some_iff.mp isUser
  obtain ⟨known, inRealm⟩ := second.found user isUser
  obtain ⟨_, t₃, passed, resetting⟩ := run_bind_ok.mp verifying
  rw [refuseWrongPassword_ok passed] at resetting
  obtain ⟨_, t₄, reset, expiring⟩ := run_bind_ok.mp resetting
  have kept := resetFailures_ok reset known
  simp only [run_read_bind, run_require_bind_ok] at expiring
  obtain ⟨_, t₅, undemanded, starting⟩ := run_bind_ok.mp expiring.2
  rw [demandSecondFactor_ok undemanded] at starting
  have work := of_run (startSession_works d _ _ _) starting
  exact ⟨{ user with lockedUntil := none }, work.accounts.users ▸ kept, enabled, inRealm,
    startSession_origin starting⟩

def Body.grant (body : Body) : Option GrantType := (given body.grant_type).bind GrantType.ofText

theorem handleTokenRequest_ok : (handleTokenRequest d i r body).run s = (.ok answer, s') ↔
      ∃ grant, body.grant = some grant ∧
        (handleGrant d i r body grant).run s = (.ok answer, s') := by
  simp only [handleTokenRequest, run_orFail_bind_ok, Body.grant, bind_eq_some_iff]
  constructor
  · rintro ⟨text, isText, grant, isGrant, done_⟩
    exact ⟨grant, ⟨text, isText, isGrant⟩, done_⟩
  · rintro ⟨grant, ⟨text, isText, isGrant⟩, done_⟩
    exact ⟨text, isText, grant, isGrant, done_⟩

def SubjectSatisfies (onUser : User → Prop) (onClient : Client → Prop) (answer : TokenResponse)
    (s : Store) : Prop :=
  match answer.accessToken.origin with
  | .accessToken userId _ => ∃ user ∈ s.users, user.id = userId ∧ onUser user
  | .clientToken clientId => ∃ client ∈ s.clients, client.id = clientId ∧ onClient client
  | _ => False

theorem Redeemed.satisfies {onUser : User → Prop} {onClient : Client → Prop} {grant : GrantType}
    (redeemed : Redeemed d i r body s grant answer s')
    (us : ∀ user, Redeems d i r body s grant user → onUser user)
    (cs : ∀ c : Client, c.realmId = r.id → onClient c) :
    SubjectSatisfies onUser onClient answer s' := by
  unfold SubjectSatisfies
  rcases redeemed.subject with ⟨user, known, redeems, sid, o⟩ | ⟨c, known, inRealm, o⟩
  · rw [o]
    exact ⟨user, redeemed.same.users ▸ known, rfl, us user redeems⟩
  · rw [o]
    exact ⟨c, redeemed.same.clients ▸ known, rfl, cs c inRealm⟩

/-- A rule that the password grant enforces holds of the subject of a request exactly
when it holds of the user whose credential the request redeems. -/
theorem subject_satisfies_iff (d : Deps) (i : Nat) (body : Body) (onUser : User → Prop)
    (onClient : Client → Prop) (keys : UserKeys s)
    (password : ∀ user : User, user.enabled = true → user.realmId = r.id → onUser user)
    (cs : ∀ c : Client, c.realmId = r.id → onClient c) :
    (∀ answer s', (handleTokenRequest d i r body).run s = (.ok answer, s') →
      SubjectSatisfies onUser onClient answer s') ↔
    ∀ grant user, body.grant = some grant → Redeems d i r body s grant user →
      onUser user := by
  constructor
  · intro satisfied grant user isGrant redeems
    obtain ⟨known, answer, s', done_, same, sid, o⟩ := redeems.granted
    have subject := satisfied answer s' (handleTokenRequest_ok.mpr ⟨grant, isGrant, done_⟩)
    unfold SubjectSatisfies at subject
    rw [o] at subject
    obtain ⟨other, isOther, sameId, holds⟩ := subject
    rw [same.users] at isOther
    rw [← keys.unique other isOther user known sameId]
    exact holds
  · intro redeemers answer s' done_
    obtain ⟨grant, isGrant, done_⟩ := handleTokenRequest_ok.mp done_
    have users := fun user => redeemers grant user isGrant
    cases grant with
    | password =>
      obtain ⟨user, known, enabled, inRealm, sid, o⟩ :=
        handlePasswordGrant_subject keys done_
      unfold SubjectSatisfies
      rw [o]
      exact ⟨user, known, rfl, password user enabled inRealm⟩
    | client_credentials =>
      exact (handleClientCredentialsGrant_redeemed done_).satisfies users cs
    | refresh_token => exact (handleRefreshTokenGrant_redeemed done_).satisfies users cs
    | authorization_code =>
      exact (handleAuthorizationCodeGrant_redeemed done_).satisfies users cs
    | mfa_otp => exact (handleMfaOtpGrant_redeemed done_).satisfies users cs
    | device_code => exact (handleDeviceCodeGrant_redeemed done_).satisfies users cs

def SubjectIn (realm : Realm) : TokenResponse → Store → Prop :=
  SubjectSatisfies (fun user => user.realmId = realm.id) fun client => client.realmId = realm.id

/-- The token endpoint of a realm returns tokens for users of that realm, as far as the
credentials it redeems belong to them. -/
theorem subject_in_realm_iff (d : Deps) (i : Nat) (r : Realm) (body : Body) (s : Store)
    (keys : UserKeys s) :
    (∀ answer s', (handleTokenRequest d i r body).run s = (.ok answer, s') →
      SubjectIn r answer s') ↔
    ∀ grant user, body.grant = some grant → Redeems d i r body s grant user → user.realmId = r.id :=
  subject_satisfies_iff d i body _ _ keys (fun _ _ inRealm => inRealm) fun _ inRealm => inRealm

end Subjects

section Example

def acme : Realm := { id := 1, name := "acme" }
def globex : Realm := { id := 20, name := "globex" }
def alice : User := { id := 2, realmId := 1, username := "alice" }

def twoRealms (alice : User) : Store where
  supply := 40
  realms := [acme, globex]
  users := [alice]
  clients :=
    [{ id := 3, realmId := 1, clientId := "app", clientType := .PUBLIC,
       grantTypes := ["refresh_token"] },
     { id := 23, realmId := 20, clientId := "app", clientType := .PUBLIC,
       grantTypes := ["refresh_token"] }]
  sessions := [{ id := 4, userId := 2, createdAt := 0, expiresAt := 1800000 }]
  refreshTokens := [{ id := 5, sessionId := 4, tokenHash := sha256 6, clientId := some "app",
                      expiresAt := 1800000 }]
  signingKeys := [{ id := 7, realmId := 1, createdAt := 0 }, { id := 27, realmId := 20, createdAt := 0 }]

def refreshBody : Body where
  grant_type := some "refresh_token"
  client_id := some "app"
  refresh_token := some 6

theorem twoRealms_keys {user : User} (isAlice : user.id = 2) : UserKeys (twoRealms user) := by
  constructor
  · intro a isA b isB _
    rw [mem_singleton.mp isA, mem_singleton.mp isB]
  · intro a isA
    rw [mem_singleton.mp isA, isAlice]
    exact (by decide : 2 < 40)

/-- In her own realm Alice gets tokens, and they are hers. -/
theorem alice_refreshes_at_home :
    (∃ answer s', (handleTokenRequest .transparent 0 acme refreshBody).run (twoRealms alice) =
      (.ok answer, s')) ∧
    ∀ answer s', (handleTokenRequest .transparent 0 acme refreshBody).run (twoRealms alice) =
      (.ok answer, s') → SubjectIn acme answer s' := by
  refine ⟨⟨_, _, rfl⟩, (subject_in_realm_iff .transparent 0 acme refreshBody (twoRealms alice)
    (twoRealms_keys rfl)).mpr ?_⟩
  intro grant user _ redeems
  rw [mem_singleton.mp redeems.granted.1]
  rfl

/-- The token endpoint of the other realm takes Alice's refresh token. -/
theorem alice_refreshes_abroad :
    ∃ answer s', (handleTokenRequest .transparent 0 globex refreshBody).run (twoRealms alice) =
      (.ok answer, s') ∧ answer.accessToken.origin = .accessToken 2 4 ∧
      ¬ SubjectIn globex answer s' := by
  refine ⟨_, _, rfl, rfl, ?_⟩
  rintro ⟨user, isUser, -, inRealm⟩
  rw [mem_singleton.mp isUser] at inRealm
  exact absurd inRealm (by decide)

end Example

end Idenplane.Auth
