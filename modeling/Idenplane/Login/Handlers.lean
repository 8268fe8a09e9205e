import Idenplane.Login.Chains

/-! # The handlers of a sign-in

Every handler is a chain of writes on their grounds, whatever the realm, the cookies and the
parameters of the visit.
-/

namespace Idenplane.Login

open Atomic Auth Admin StepUp Prod

variable {ps : AuthorizeParams} {t : Store} {u : User} {uid : Nat}
  {action : PendingAction} {csrf : Bool}

section Rules

/-- However it ends, what is written is a chain. -/
abbrev Chains {α : Type} (visit : Visit) (start : Store) (p : Op α) (s : Store) : Prop :=
  p.Ensures (Chain visit start) (fun _ => Chain visit start) s

variable {d : Deps} {x : Externals} {vis : Visit} {start s : Store}

theorem quiet {α : Type} {p : Op α} {post : α → Store → Prop} (chain : Chain vis start s)
    (keeps : p.Keeps Others)
    (h : ∀ a t, p.run s = (.ok a, t) → Others s t → Chain vis start t → post a t) :
    p.Ensures (Chain vis start) post s :=
  .of_keeps .refl .trans keeps (fun _ work => chain.tail (.others work))
    fun a t ran work => h a t ran work (chain.tail (.others work))

theorem authRequestClient_chain {rid : Nat}
    (chain : Chain vis start s) (later : Chain vis start t) :
    authRequestClient rid ps t = authRequestClient rid ps s :=
  authRequestClient_congr (later.clients.trans chain.clients.symm)

/-- The grounds of a session, which the writes before it do not take away. -/
structure SessionGrounds (realm : Realm) (user : User) (ctx : SatisfiedAuthContext)
    (s : Store) : Prop where
  member : userRealm s user.id = some realm.id
  level : acrStrength (some ACR_MFA) ≤ acrStrength ctx.acr → .factorVerified user.id ∈ s.loginLog

variable {r : Realm} {ctx : SatisfiedAuthContext}

theorem SessionGrounds.others (work : Others s t) (keyed : Keyed s)
    (grounds : SessionGrounds r u ctx s) : SessionGrounds r u ctx t :=
  ⟨work.users keyed grounds.member, fun level => work.log ▸ grounds.level level⟩

theorem createLoginSession_ensures (owned : Owned start) (old : Option Nat) (chain : Chain vis start s)
    (grounds : SessionGrounds r u ctx s) :
    (createLoginSession r u old ctx).Ensures (Chain vis start)
      (fun _ t => Chain vis start t ∧ userRealm t u.id = some r.id) s := by
  have dropped : (deleteExistingSession old).Keeps Others := by
    cases old with
    | none => trivial
    | some tok => exact .modify fun s => .sessionsDropped s
  refine .bind (quiet chain dropped fun _ s₁ _ first chain₁ => .bind ?_)
  have keyed := (chain.owned owned).keyed
  refine quiet chain₁ (evictLoginSessions_others r u.id) fun _ s₂ _ snd chain₂ => ?_
  have ready := (grounds.others first keyed).others snd (chain₁.owned owned).keyed
  have write : Write vis start s₂ (insertLoginSession r u ctx s₂).2 :=
    .session ready.member ready.level
  have done_ := chain₂.tail write
  exact .atomic_bind (.orFail done_ fun _ _ =>
    ⟨done_, write.users (chain₂.owned owned).keyed ready.member⟩)

theorem authorizeWithUser_ensures (chain : Chain vis start s)
    (grounds : ∀ c, authRequestClient r.id ps s = some c →
      CodeGrounds vis start s r u c ps ctx.acr) :
    Chains vis start (authorizeWithUser d r u ps ctx) s := by
  refine .bind (validateAuthRequest_ensures chain fun c valid => .read_bind (.atomic_bind ?_))
  have done_ (sc : Option String) : Chain vis start (createCode c u ps ctx sc s).2 :=
    chain.tail (.code valid (grounds c valid))
  exact .orFail_bind (done_ _) fun _ _ => .require_bind (done_ _) fun _ => done_ _

variable {scs : List String}

theorem hasConsent_spec {uid clientId : Nat}
    (granted : hasConsent uid clientId scs s = true) : Consented s uid clientId := by
  unfold hasConsent at granted
  split at granted
  · cases granted
  · rename_i consent hit
    have named := find?_some hit
    simp only [and_eq_true, decide_eq_true_eq] at named
    exact ⟨consent, mem_of_find?_eq_some hit, named⟩

variable {c : Client}

theorem consentGiven_ensures {post : Bool → Store → Prop} {thrown : Store → Prop}
    (h : ∀ granted, (granted = true → c.requireConsent = true → Consented s u.id c.id) →
      post granted s) : (consentGiven u c scs).Ensures thrown post s := by
  unfold consentGiven
  split
  · exact h _ fun granted _ => hasConsent_spec granted
  · rename_i optional
    exact h true fun _ need => absurd need optional

theorem consentOrCode_ensures (chain : Chain vis start s)
    (valid : authRequestClient r.id ps s = some c)
    (asks : Asks vis start s r u c ps ctx.acr) :
    Chains vis start (consentOrCode d r u c ps ctx) s := by
  refine .bind (consentGiven_ensures fun granted consented => ?_)
  cases granted with
  | true =>
    refine .bind ((authorizeWithUser_ensures chain fun other isOther => ?_).mono fun _ _ done_ => done_)
    cases valid.symm.trans isOther
    exact .asked asks (consented rfl)
  | false => exact .atomic_bind (chain.tail (.request (.asked asks valid rfl rfl)))

theorem completeLogin_ensures (owned : Owned start) {level : String} (cks : Cookies)
    (chain : Chain vis start s) (isRealm : findRealm vis.realmName start = some r)
    (isLevel : ctx.acr = some level) (completes : Completes vis start r ps level)
    (grounds : SessionGrounds r u ctx s) :
    Chains vis start (completeLogin d r u ps cks ctx) s := by
  have session := createLoginSession_ensures owned cks.session chain grounds
  unfold completeLogin
  split
  · exact .bind (session.mono fun _ _ done_ => done_.1)
  · refine .bind (validateAuthRequest_ensures chain fun c valid => .bind ?_)
    refine session.mono fun _ t ⟨later, m⟩ => .bind ?_
    refine (consentOrCode_ensures later ?_ ?_).mono fun _ _ done_ => done_
    · rw [authRequestClient_chain chain later, valid]
    · exact ⟨isRealm, m, .inr ⟨level, isLevel, completes⟩⟩

theorem recover_ensures {α : Type} {ans : Failure → α} {p : Op α} {inv thrown : Store → Prop}
    {post : α → Store → Prop} (h : p.Ensures inv post s) (answered : ∀ e t, inv t → post (ans e) t) :
    (recover ans p).Ensures thrown post s := by
  induction p generalizing s with
  | done a => exact h
  | fail e => exact answered e s h
  | step update next ih => exact ih s h

theorem mfa_exceeds_password : ¬acrStrength (some ACR_MFA) ≤ acrStrength (some ACR_PASSWORD) := by
  decide

theorem createMfaChallenge_ensures {cid : Option String}
    {oauthParams : Option AuthorizeParams} {primaryAmr : Option (List String)}
    (chain : Chain vis start s) (m : userRealm s uid = some r.id) :
    Chains vis start (createMfaChallenge uid r.id cid oauthParams primaryAmr) s :=
  .read_bind (.require_bind chain fun _ => chain.tail (.pending m rfl rfl rfl))

theorem continueAfterPrimaryAuth_ensures (owned : Owned start)
    {primaryAmr : List String} (cks : Cookies)
    (chain : Chain vis start s) (isRealm : findRealm vis.realmName start = some r)
    (m : userRealm s u.id = some r.id)
    (completes : r.mfaRequired = false → isMfaEnabled s u.id = false →
      Completes vis start r ps ACR_PASSWORD) :
    Chains vis start (continueAfterPrimaryAuth d r u ps primaryAmr cks) s := by
  refine .read_bind (.read_bind ?_)
  cases enabled : isMfaEnabled s u.id with
  | true => exact .bind ((createMfaChallenge_ensures chain m).mono fun _ _ done_ => done_)
  | false =>
    cases need : r.mfaRequired with
    | true =>
      simp only [isMfaRequired, need, Bool.true_or, false_eq_true, if_true, if_false]
      exact .atomic_bind (chain.tail (.pending m rfl rfl rfl))
    | false =>
      simp only [isMfaRequired, need, enabled, Bool.or_false, false_eq_true, if_false]
      refine completeLogin_ensures owned cks chain isRealm rfl (completes need enabled) ?_
      exact ⟨m, fun level => absurd level mfa_exceeds_password⟩

theorem validateCredentials_returns {uname pw : String} {known : User}
    (hit : findUser r.id uname s = some known) :
    (validateCredentials d x r uname pw).Ensures (fun _ => True) (fun u _ => u = known) s := by
  refine .read_bind ?_
  rw [hit]
  dsimp only
  split
  · refine .bind_any fun _ _ => .bind_any fun _ _ => .bind_any fun ok _ => ?_
    split
    · exact .bind_any fun _ _ => rfl
    · exact .bind_any fun _ _ => trivial
  · split
    · refine .bind_any fun _ _ => .bind_any fun valid _ => ?_
      split
      · exact .bind_any fun _ _ => rfl
      · exact .bind_any fun _ _ => trivial
    · trivial

theorem validateCredentials_ok {uname pw : String} (keyed : Keyed s) (work : Others s t)
    (ran : (validateCredentials d x r uname pw).run s = (.ok u, t)) :
    userRealm t u.id = some r.id ∧ ∀ known, findUser r.id uname s = some known → u = known := by
  have same : ∀ known, findUser r.id uname s = some known → u = known :=
    fun known hit => (validateCredentials_returns hit).of_run ran
  refine ⟨?_, same⟩
  cases hit : findUser r.id uname s with
  | some known =>
    obtain ⟨isUser, inRealm⟩ := findUser_spec hit
    rw [same known hit]
    exact work.users keyed (inRealm ▸ keyed.userRealm isUser)
  | none =>
    simp only [validateCredentials, run_read_bind, hit, validateUnknown] at ran
    obtain ⟨accepted, s₁, searched, rest⟩ := run_bind_ok.mp ran
    obtain ⟨id, rfl, reading⟩ := run_orFail_bind_ok.mp rest
    obtain ⟨isUser, same⟩ := Prog.run_orFail_ok.mp reading
    cases same
    obtain ⟨known, inRealm⟩ :=
      (authenticateViaFederation_ok keyed.userKeys searched).found u isUser
    exact inRealm ▸ (work.keyed keyed).userRealm known

theorem loginAllowed_ensures (owned : Owned start) (cks : Cookies) (chain : Chain vis start s)
    (isRealm : findRealm vis.realmName start = some r)
    (m : userRealm s u.id = some r.id)
    (completes : r.mfaRequired = false → isMfaEnabled s u.id = false →
      Completes vis start r ps ACR_PASSWORD) :
    Chains vis start (loginAllowed d r u ps cks) s := by
  unfold loginAllowed
  split
  · exact chain
  · refine .read_bind ?_
    split
    · exact chain
    · exact continueAfterPrimaryAuth_ensures owned cks chain isRealm m completes

theorem loginAssessed_ensures (owned : Owned start)
    (cks : Cookies) (risk : RiskAction) (chain : Chain vis start s)
    (isRealm : findRealm vis.realmName start = some r)
    (m : userRealm s u.id = some r.id)
    (completes : r.mfaRequired = false → isMfaEnabled s u.id = false →
      Completes vis start r ps ACR_PASSWORD) :
    Chains vis start (loginAssessed d r u ps cks risk) s := by
  have allowed : Chains vis start (loginAllowed d r u ps cks) s :=
    loginAllowed_ensures owned cks chain isRealm m completes
  cases risk with
  | ALLOW => exact allowed
  | BLOCK => exact chain
  | STEP_UP =>
    refine .read_bind ?_
    split
    · exact .bind ((createMfaChallenge_ensures chain m).mono fun _ _ done_ => done_)
    · exact allowed

theorem handleLogin_chain (owned : Owned start) {body : LoginBody}
    (isRealm : findRealm vis.realmName start = some r) (isLogin : vis.action = .login body) :
    Chains vis start (handleLogin d x r body vis.cookies) start := by
  have chain : Chain vis start start := .refl
  refine .require_bind chain fun _ => ?_
  refine recover_ensures (.bind ?_) fun _ _ done_ => done_
  refine .of_keeps .refl .trans (validateCredentials_works _ _ _)
    (fun _ work => chain.tail (.others work.others)) fun u t ran work => ?_
  obtain ⟨m, known⟩ := validateCredentials_ok owned.keyed work.others ran
  refine loginAssessed_ensures owned vis.cookies _ (chain.tail (.others work.others)) isRealm m ?_
  intro optional disabled
  unfold Completes
  rw [isLogin]
  refine ⟨rfl, rfl, optional, fun other hit => ?_⟩
  rw [← known other hit]
  simpa only [isMfaEnabled, getEnrolledFactors, work.factors] using disabled

variable {chal : PendingAction}

theorem validateMfaChallenge_ok {req token : Nat} (keyed : Keyed t)
    (ran : (validateMfaChallengeWithAttemptCheck req token).run s = (.ok (some chal), t)) :
    chal ∈ t.pendingActions ∧ chal.tokenHash = sha256 token ∧ chal.type = .mfaChallenge := by
  simp only [validateMfaChallengeWithAttemptCheck, run_atomic_bind] at ran
  split at ran
  · simp only [run_atomic_bind, pure_def, run_done, mk.injEq, ok.injEq,
      reduceCtorEq, false_and] at ran
  · rename_i spent
    simp only [Prog.run_read, mk.injEq, ok.injEq] at ran
    obtain ⟨hit, rfl⟩ := ran
    have member := mem_of_find?_eq_some hit
    have hashed : chal.tokenHash = sha256 token := by simpa using find?_some hit
    refine ⟨member, hashed, ?_⟩
    -- The row whose attempt was spent is the one that is found: tokens are unique.
    obtain ⟨row, isRow, cnt⟩ := List.countP_pos_iff.mp (Nat.pos_of_ne_zero spent)
    have inTable : { row with attempts := row.attempts + 1 } ∈
        (spendAttempt req (sha256 token) s).2.pendingActions :=
      mem_map.mpr ⟨row, isRow, if_pos cnt⟩
    simp only [answerable, and_eq_true, decide_eq_true_eq] at cnt
    rw [keyed.same_token member inTable (hashed.trans cnt.1.1.1.symm)]
    exact cnt.1.1.2

theorem Chain.users (owned : Owned start) (chain : Chain vis start s) {id realmId : Nat}
    (known : userRealm start id = some realmId) : userRealm s id = some realmId := by
  induction chain with
  | refl => exact known
  | tail pre write ih => exact write.users (Chain.owned owned pre).keyed ih

theorem finishChallenge_ensures (owned : Owned start) {req tok : Nat} {factor : VerifiedFactor} (cks : Cookies)
    (chain : Chain vis start s) (isRealm : findRealm vis.realmName start = some r)
    (m : userRealm start chal.userId = some r.id)
    (completes : Completes vis start r (chal.oauthParams.getD noParams) ACR_MFA) :
    Chains vis start (finishChallenge d req r tok chal factor cks) s := by
  refine .bind (quiet chain (consumeMfaChallenge_others tok) fun claimed s₁ _ _ chain₁ => ?_)
  cases claimed with
  | false => exact chain₁
  | true =>
    have answered : Chain vis start (factorAnswered chal.userId s₁) :=
      chain₁.tail (.answered chal.userId)
    refine .modify_bind (.bind (quiet answered (resetTotpFailures_others _)
      fun _ s₂ _ work chain₂ => .read_bind ?_))
    cases found : findUserById chal.userId s₂ with
    | none => exact chain₂
    | some u =>
      have isUser := findUserById_id found
      refine completeLogin_ensures owned cks chain₂ isRealm rfl completes ⟨?_, fun _ => ?_⟩
      · rw [isUser]
        exact chain₂.users owned m
      · rw [isUser, work.log]
        exact mem_cons_self

theorem handleTotp_chain (owned : Owned start) {body : TotpBody}
    (isRealm : findRealm vis.realmName start = some r) (isTotp : vis.action = .totp body) :
    Chains vis start (handleTotp d vis.request r body vis.cookies) start := by
  have chain : Chain vis start start := .refl
  refine .require_bind chain fun _ => ?_
  cases cookie : vis.cookies.challenge with
  | none => exact chain
  | some tok =>
    refine .bind (quiet chain (validateMfaChallenge_others tok) fun hit s₁ ran work chain₁ => ?_)
    cases hit with
    | none => exact chain₁
    | some chal =>
      obtain ⟨m, hashed, type⟩ := validateMfaChallenge_ok (work.keyed owned.keyed) ran
      obtain ⟨old, isOld, same⟩ := work.pending chal m (.inl type)
      dsimp only
      split
      · exact chain₁
      · rename_i inRealm
        rw [not_not] at inRealm
        have owner : userRealm start chal.userId = some r.id := by
          rw [same.userId, ← inRealm, same.realmId]
          exact owned.pending old isOld (.inl (same.type ▸ type))
        refine .bind (quiet chain₁ (totpRateLimitBlocks_others _ _) fun blocked s₂ _ _ chain₂ => ?_)
        cases blocked with
        | true => exact chain₂
        | false =>
          refine .bind (quiet chain₂ (verifySecondFactor_others _ _ _)
            fun verified s₃ _ _ chain₃ => ?_)
          cases verified with
          | none =>
            exact .bind (quiet chain₃ (recordTotpFailure_others _ _) fun _ _ _ _ done_ => done_)
          | some factor =>
            refine finishChallenge_ensures owned vis.cookies chain₃ isRealm owner ?_
            unfold Completes
            rw [isTotp]
            exact ⟨rfl, tok, old, cookie, isOld, same.tokenHash ▸ hashed, by rw [same.oauthParams]⟩

theorem findPendingAction_spec {tokenHash : Sha256}
    (hit : findPendingAction tokenHash s = some action) :
    action ∈ s.pendingActions ∧ action.tokenHash = tokenHash :=
  ⟨mem_of_find?_eq_some hit, by simpa using find?_some hit⟩

theorem getMfaEnrollment_ok {cookie : Option Nat}
    (ran : (withCookie cookie getMfaEnrollment).run s = (.ok (some action), t)) :
    ∃ token, cookie = some token ∧ action ∈ s.pendingActions ∧ action.tokenHash = sha256 token := by
  cases cookie with
  | none => cases ran
  | some token =>
    simp only [withCookie, getMfaEnrollment, run_read_bind, pure_def, run_done,
      mk.injEq, ok.injEq] at ran
    obtain ⟨hit, -⟩ := filter_eq_some_iff.mp ran.1
    exact ⟨token, rfl, findPendingAction_spec hit⟩

variable {tok : Nat}

theorem getTotpSetupUser_ok {cks : Cookies}
    (keyed : Keyed s) (ran : (getTotpSetupUser r cks).run s = (.ok (some (u, some tok)), t))
    (m : action ∈ s.pendingActions)
    (hashed : action.tokenHash = sha256 tok) : action.userId = u.id := by
  obtain ⟨enrollment, s₁, hit, rest⟩ := run_bind_ok.mp ran
  simp only [run_read_bind] at rest
  split at rest
  · rename_i known isKnown
    simp only [pure_def, run_done, mk.injEq, ok.injEq, some.injEq] at rest
    obtain ⟨⟨rfl, isToken⟩, -⟩ := rest
    obtain ⟨row, isRow, isUser⟩ := bind_eq_some_iff.mp (filter_eq_some_iff.mp isKnown).1
    obtain ⟨rfl, -⟩ := filter_eq_some_iff.mp isRow
    obtain ⟨other, isOther, isMember, isHashed⟩ := getMfaEnrollment_ok hit
    cases isToken.symm.trans isOther
    rw [keyed.same_token m isMember (hashed.trans isHashed.symm), findUserById_id isUser]
  · obtain ⟨known, s₂, -, rest⟩ := run_bind_ok.mp rest
    cases known with
    | none => cases rest
    | some known => cases rest

theorem enrollmentDone_ensures (owned : Owned start) {enrollment : Option Nat}
    {factor : CredentialType} (work : Others start s)
    (mine : ∀ tok, enrollment = some tok → ∀ action ∈ start.pendingActions,
      action.tokenHash = sha256 tok → action.userId = u.id) :
    Chains vis start (enrollmentDone u enrollment factor) s := by
  have answered : Chain vis start (factorAnswered u.id s) :=
    (Relation.ReflTransGen.single (.others work)).tail (.answered u.id)
  refine .modify_bind (.bind ?_)
  cases enrollment with
  | none => exact answered
  | some tok =>
    refine .read_bind ?_
    split
    · exact answered
    · rename_i action isAction
      obtain ⟨hit, type⟩ := filter_eq_some_iff.mp isAction
      obtain ⟨m, hashed⟩ := findPendingAction_spec hit
      have pauses : pausesSignIn action := .inr (of_decide_eq_true type)
      refine .atomic_bind (.require (answered.tail (.enrolled ?_)) fun _ =>
        answered.tail (.enrolled ?_))
      all_goals
        intro other isOther same
        rw [(answered.owned owned).keyed.same_id isOther m same]
        obtain ⟨old, isOld, like⟩ := work.pending action m pauses
        rw [like.userId, mine tok rfl old isOld (like.tokenHash.symm.trans hashed)]
        exact mem_cons_self

variable {code : Option String}

theorem handleTotpSetup_chain (owned : Owned start) {codes : List String} :
    Chains vis start (handleTotpSetup d r csrf code codes vis.cookies) start := by
  have chain : Chain vis start start := .refl
  refine .require_bind chain fun _ => .bind (.of_reads (getTotpSetupUser_reads _ _) chain
    fun setupUser ran => ?_)
  cases setupUser with
  | none => exact chain
  | some hit =>
    obtain ⟨u, enrollment⟩ := hit
    dsimp only
    split
    · exact chain
    · refine .bind (quiet chain (verifyAndActivateTotp_others _ _ _)
        fun activated s₁ _ work chain₁ => ?_)
      cases activated with
      | false => exact chain₁
      | true =>
        refine enrollmentDone_ensures owned work fun tok isToken action m hashed => ?_
        cases isToken
        exact getTotpSetupUser_ok owned.keyed ran m hashed

theorem verifySmsSetupCode_chain (owned : Owned start) {codes : List String} :
    Chains vis start (verifySmsSetupCode d vis.request r csrf code codes vis.cookies) start := by
  have chain : Chain vis start start := .refl
  refine .require_bind chain fun _ => .bind (.of_reads (getTotpSetupUser_reads _ _) chain
    fun setupUser ran => ?_)
  cases setupUser with
  | none => exact chain
  | some hit =>
    obtain ⟨u, enrollment⟩ := hit
    dsimp only
    split
    · exact chain
    · refine .bind (.of_reads (getSmsEnrollment_reads _ _ _) chain fun pend _ => ?_)
      cases pend with
      | none => exact chain
      | some tok =>
        refine .bind (quiet chain (verifyCode_others _) fun res s₁ _ work chain₁ => ?_)
        cases res with
        | ok phone =>
          have saved : Others start (phoneSaved d u.id phone s₁) :=
            work.trans (.of_tables le_rfl rfl rfl)
          have ended := saved.trans (endSmsEnrollment_others tok _)
          refine .modify_bind (.modify_bind (.bind (quiet (.single (.others ended))
            (ensureRecoveryCodes_others _ _) fun _ s₂ _ drawn _ => ?_)))
          refine enrollmentDone_ensures owned (ended.trans drawn)
            fun tok isToken action m hashed => ?_
          cases isToken
          exact getTotpSetupUser_ok owned.keyed ran m hashed
        | refused reason remaining =>
          simp only [phoneAnswered]
          split
          · exact chain₁
          · exact .modify_bind (chain₁.tail (.others (endSmsEnrollment_others tok s₁)))

theorem consumeVerifiedMfaEnrollment_ok {cookie : Option Nat}
    (ran : (withCookie cookie consumeVerifiedMfaEnrollment).run s = (.ok (some action), t)) :
    ∃ tok, cookie = some tok ∧ action ∈ s.pendingActions ∧ action.tokenHash = sha256 tok ∧
      action.type = .mfaEnrollment ∧ action.verified = true := by
  cases cookie with
  | none => cases ran
  | some tok =>
    simp only [withCookie, consumeVerifiedMfaEnrollment, run_atomic_bind, run_read_bind,
      pure_def, run_done, mk.injEq, ok.injEq] at ran
    obtain ⟨hit, valid⟩ := filter_eq_some_iff.mp ran.1
    simp only [and_eq_true, decide_eq_true_eq] at valid
    obtain ⟨m, hashed⟩ := findPendingAction_spec hit
    exact ⟨tok, rfl, m, hashed, valid.1.1, valid.2⟩

theorem continueAfterMfaEnrollment_chain (owned : Owned start)
    (isRealm : findRealm vis.realmName start = some r)
    (continues : vis.action = .continueEnrollment csrf) :
    Chains vis start (continueAfterMfaEnrollment d r csrf vis.cookies) start := by
  have chain : Chain vis start start := .refl
  have consumes (tok : Nat) : (consumeVerifiedMfaEnrollment tok).Keeps Others :=
    .bind (.atomic (takePendingAction_others _)) fun _ => .bind (.read .refl _) fun _ => trivial
  refine .require_bind chain fun _ => .bind (quiet chain (withCookie_keeps _ consumes)
    fun enrollment s₁ ran work chain₁ => ?_)
  split
  · exact chain₁
  · rename_i action isAction
    obtain ⟨rfl, inRealm⟩ := filter_eq_some_iff.mp isAction
    obtain ⟨tok, cookie, m, hashed, type, verified⟩ := consumeVerifiedMfaEnrollment_ok ran
    refine .read_bind (.read_bind ?_)
    split
    · exact chain₁
    · rename_i u isEnabled
      have isUser := findUserById_id (filter_eq_some_iff.mp isEnabled).1
      refine completeLogin_ensures owned vis.cookies chain₁ isRealm rfl ?_ ⟨?_, fun _ => ?_⟩
      · unfold Completes
        rw [continues]
        exact ⟨rfl, tok, action, cookie, m, hashed, rfl⟩
      · rw [isUser, ← of_decide_eq_true inRealm]
        exact work.users owned.keyed (owned.pending action m (.inr type))
      · rw [isUser, work.log]
        exact owned.enrolled action m (.inr type) verified

theorem getConsentRequest_ok {request : ConsentRequest}
    (ran : (getConsentRequest tok).run s = (.ok (some request), t)) :
    findConsentRequest (sha256 tok) s = some request := by
  simp only [getConsentRequest, run_read_bind] at ran
  cases found : findConsentRequest (sha256 tok) s with
  | none =>
    rw [found] at ran
    cases ran
  | some row =>
    rw [found] at ran
    simp only [run_read_bind, run_atomic_bind, run_require_bind_ok, pure_def,
      run_done, mk.injEq, ok.injEq] at ran
    obtain ⟨-, same, -⟩ := ran
    split at same
    · cases same
    · exact same

theorem findConsentRequest_mem {th : Sha256} {req : ConsentRequest}
    (hit : findConsentRequest th s = some req) : req ∈ s.consentRequests :=
  mem_of_find?_eq_some hit

theorem showConsentForm_chain (owned : Owned start) {reqId : Option Nat} :
    Chains vis start (showConsentForm reqId) start := by
  have chain : Chain vis start start := .refl
  refine .orFail_bind chain fun tok _ => .bind (quiet chain (getConsentRequest_others tok)
    fun hit s₁ ran work chain₁ => .orFail_bind chain₁ fun req isRequest => ?_)
  subst isRequest
  have member := findConsentRequest_mem (getConsentRequest_ok ran)
  have first : Write vis start start s₁ := .others work
  have still := (owned.requests req member).write first owned.keyed
  exact .atomic_bind (chain₁.tail (.request (.again req member rfl rfl still)))

theorem consentGranted_spec {uid clientId : Nat}
    (granted : (consentGranted uid clientId scs s).1 = true) :
    Consented (consentGranted uid clientId scs s).2 uid clientId := by
  unfold consentGranted at *
  split at granted
  · rename_i known
    rw [if_pos known]
    exact ⟨_, mem_cons_self, rfl, rfl⟩
  · cases granted

theorem handleConsent_chain (owned : Owned start) {reqId : Option Nat}
    {deny : Bool} (isRealm : findRealm vis.realmName start = some r)
    (isConsent : vis.action = .consent csrf reqId deny) :
    Chains vis start (handleConsent d r csrf reqId deny) start := by
  have chain : Chain vis start start := .refl
  refine .require_bind chain fun _ => .orFail_bind chain fun tok isToken =>
    .bind (quiet chain (getConsentRequest_others tok)
      fun hit s₁ ran work chain₁ => .orFail_bind chain₁ fun req isRequest => ?_)
  subst isRequest isToken
  have stored := getConsentRequest_ok ran
  cases deny with
  | true => exact .require_bind chain₁ fun _ => chain₁
  | false =>
    have write : Write vis start s₁
        (consentGranted req.userId req.clientId req.scopes s₁).2 := .consent
    have chain₂ := chain₁.tail write
    refine .bind (.atomic_bind (.require chain₂ fun granted => .read_bind
      (.orFail_bind chain₂ fun u isUser => .bind ?_)))
    refine (authorizeWithUser_ensures chain₂ fun c valid => ?_).mono fun _ _ done_ => done_
    have first : Write vis start start s₁ := .others work
    have still := (owned.requests req (findConsentRequest_mem stored)).write first owned.keyed
    refine .accepted req ⟨isRealm, csrf, tok, isConsent, stored⟩
      (still.write write (chain₁.owned owned).keyed) (findUserById_id isUser) rfl rfl ?_
    exact consentGranted_spec granted

theorem acrStrength_given (acr : Option String) : acrStrength (given acr) = acrStrength acr := by
  cases acr with
  | none => rfl
  | some acr =>
    by_cases empty : acr = ""
    · subst empty
      rfl
    · rw [given_eq_some.mpr ⟨rfl, empty⟩]

theorem resolveRequiredAcr_stronger (requestedAcr clientAcr : Option String) :
    acrStrength clientAcr ≤ acrStrength (resolveRequiredAcr requestedAcr clientAcr) := by
  rw [← acrStrength_given clientAcr]
  unfold resolveRequiredAcr
  split
  · exact le_rfl
  · rename_i none_ _
    rw [none_]
    exact Nat.zero_le _
  · rename_i isClient
    rw [isClient]
    split
    · assumption
    · exact le_rfl

/-- A session that is not sent to the step-up is as strong as the client requires. -/
theorem resolveRequiredAcr_met {requestedAcr clientAcr : Option String} {sessionAcr : String}
    {hit : Bool} (isFound : hit = true)
    (met : ((resolveRequiredAcr requestedAcr clientAcr).filter fun need =>
      hit && !satisfiesAcr sessionAcr need) = none) :
    acrStrength clientAcr ≤ acrStrength (some sessionAcr) := by
  refine (resolveRequiredAcr_stronger requestedAcr clientAcr).trans ?_
  cases need : resolveRequiredAcr requestedAcr clientAcr with
  | none => exact Nat.zero_le _
  | some acr =>
    rw [need, filter_some, isFound, Bool.true_and] at met
    cases enough : satisfiesAcr sessionAcr acr with
    | true => exact of_decide_eq_true enough
    | false =>
      rw [enough] at met
      cases met

theorem silentSignOn_ensures {sess : LoginSession} (chain : Chain vis start s)
    (isRealm : findRealm vis.realmName start = some r)
    (m : userRealm s u.id = some r.id)
    (isSession : s.loginSessions.find? (·.tokenHash = sha256 tok) = some sess)
    (valid : authRequestClient r.id ps s = some c) :
    Chains vis start (silentSignOn d r u c tok ps) s := by
  refine .read_bind (.read_bind ?_)
  dsimp only
  split
  · exact chain
  · rename_i met
    refine .bind ((consentOrCode_ensures chain valid ⟨isRealm, m, .inl ?_⟩).mono
      fun _ _ done_ => done_)
    exact resolveRequiredAcr_met (by rw [isSession]; rfl) met

theorem Accepted.member (owned : Owned s) {sess : LoginSession}
    (ok : Accepted r tok s sess u) : userRealm s u.id = some r.id := by
  obtain ⟨isSession, isUser⟩ := findLoginSession_spec ok.found
  have owner := owned.sessions sess (mem_of_find?_eq_some isSession)
  rw [findUserById_id isUser, owner, ok.isRealm]

section

variable (owned : Owned start)

include owned

section

variable (isRealm : findRealm vis.realmName start = some r)

include isRealm

theorem authorizeInternal_chain {query : AuthorizeQuery} :
    Chains vis start (authorizeInternal d r query vis.cookies) start := by
  have chain : Chain vis start start := .refl
  refine .bind (validateAuthRequest_ensures chain fun c valid => .bind (.of_reads
    (withCookie_keeps _ (validateLoginSession_reads r)) chain fun known ran => ?_))
  split
  · rename_i u token cookie
    rw [cookie] at ran
    obtain ⟨sess, ok⟩ := validateLoginSession_ok ran
    split
    · exact .require_bind chain fun _ => chain
    · split
      · exact chain
      · exact silentSignOn_ensures chain isRealm (Accepted.member owned ok)
          (findLoginSession_spec ok.found).1 valid
  · exact chain

theorem brokerCallback_chain {oauthParams : AuthorizeParams}
    (isBroker : vis.action = .broker uid oauthParams) :
    Chains vis start (brokerCallback d r uid oauthParams vis.cookies) start := by
  have chain : Chain vis start start := .refl
  refine recover_ensures (.read_bind (.orFail_bind chain fun u isUser =>
    .require_bind chain fun _ => ?_)) fun _ _ done_ => done_
  obtain ⟨hit, inRealm⟩ := filter_eq_some_iff.mp isUser
  have member := owned.keyed.userRealm (findUserById_any hit).1
  rw [of_decide_eq_true inRealm] at member
  refine continueAfterPrimaryAuth_ensures owned vis.cookies chain isRealm member ?_
  intro optional disabled
  unfold Completes
  rw [isBroker]
  exact ⟨rfl, rfl, optional, findUserById_id hit ▸ disabled⟩

theorem completeAuthentication_chain {credId : String} {verified : Bool}
    (isPasskey : vis.action = .passkey credId verified ps) :
    Chains vis start (completeAuthentication d r credId verified ps vis.cookies) start := by
  have chain : Chain vis start start := .refl
  refine .require_bind chain fun _ => .read_bind (.orFail_bind chain fun cred isCredential =>
    .require_bind chain fun inRealm => .require_bind chain fun _ => .read_bind
      (.orFail_bind chain fun u hit => .modify_bind ?_))
  have isUser := findUserById_id hit
  have answered : Chain vis start (factorAnswered u.id start) := chain.tail (.answered u.id)
  have m : userRealm (factorAnswered u.id start) u.id = some r.id := by
    rw [isUser, ← of_decide_eq_true inRealm]
    exact owned.credentials cred (mem_of_find?_eq_some isCredential)
  refine .bind ((createLoginSession_ensures owned vis.cookies.session answered
    ⟨m, fun _ => mem_cons_self⟩).mono fun sess s₁ ⟨chain₁, still⟩ => ?_)
  split
  · exact chain₁
  · refine recover_ensures (.bind (validateAuthRequest_ensures chain₁ fun c valid => .bind ?_))
      fun _ _ done_ => done_
    refine (consentOrCode_ensures chain₁ valid ⟨isRealm, still, .inr ⟨_, rfl, ?_⟩⟩).mono
      fun _ _ done_ => done_
    unfold Completes
    rw [isPasskey]
    exact ⟨rfl, rfl⟩

end

theorem stepUpChallenge_chain {requiredAcr : Option String} :
    Chains vis start (stepUpChallenge r requiredAcr vis.cookies) start := by
  have chain : Chain vis start start := .refl
  refine .orFail_bind chain fun acr _ => .orFail_bind chain fun tok _ =>
    .bind (.of_reads (validateLoginSession_reads r tok) chain fun known ran =>
      .orFail_bind chain fun u isUser => .read_bind (.orFail_bind chain fun sess _ =>
        .read_bind ?_))
  subst isUser
  obtain ⟨sess, ok⟩ := validateLoginSession_ok ran
  split
  · exact chain
  · split
    · exact .read_bind (.require_bind chain fun _ => .bind ((createMfaChallenge_ensures chain
        (Accepted.member owned ok)).mono fun _ _ done_ => done_))
    · exact chain

end

theorem showTotpSetup_chain {secretKey : String} :
    Chains vis start (showTotpSetup r secretKey vis.cookies) start := by
  have chain : Chain vis start start := .refl
  refine .bind (.of_reads (getTotpSetupUser_reads _ _) chain fun setupUser _ => ?_)
  cases setupUser with
  | none => exact chain
  | some hit => exact .bind (quiet chain (setupTotp_others _ _) fun _ _ _ _ done_ => done_)

theorem serve_chain (d : Deps) (x : Externals) (vis : Visit) (owned : Owned start) :
    Chain vis start (vis.serve d x start) := by
  unfold Visit.serve
  cases isRealm : findRealm vis.realmName start with
  | none => exact .refl
  | some r =>
    refine Ensures.run ?_
    unfold Visit.handler
    cases action : vis.action with
    | authorize query => exact authorizeInternal_chain owned isRealm
    | login body => exact handleLogin_chain owned isRealm action
    | totp body => exact handleTotp_chain owned isRealm action
    | showTotpSetup secretKey => exact showTotpSetup_chain
    | totpSetup csrf code codes => exact handleTotpSetup_chain owned
    | smsSetup csrf code codes => exact verifySmsSetupCode_chain owned
    | continueEnrollment csrf => exact continueAfterMfaEnrollment_chain owned isRealm action
    | showConsent reqId => exact showConsentForm_chain owned
    | consent csrf reqId deny => exact handleConsent_chain owned isRealm action
    | broker uid oauthParams => exact brokerCallback_chain owned isRealm action
    | passkey credId verified ps =>
      exact completeAuthentication_chain owned isRealm action
    | stepUpChallenge requiredAcr => exact stepUpChallenge_chain owned
    | stepUp body passkeyUser =>
      exact quiet .refl (stepUp_others _ _ _ _) fun _ _ _ _ done_ => done_

end Rules

end Idenplane.Login
