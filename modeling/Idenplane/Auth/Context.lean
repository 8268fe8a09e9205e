import Idenplane.Auth.Signing

/-! # The authentication context along a chain of refreshes

A grant hands the context of the authentication out twice: into the row of the session
it creates, and into the tokens it returns.  A refresh reads it back from the row.  The
two agree for the password grant, the authorization code grant and an answer to a
challenge that is not a text message.

Session rows are created and deleted; no statement of the server updates one.
-/

namespace Idenplane.Auth

open Atomic Claims SessionWork Before

variable {satisfiedAcr : Option String} {amr : List String}

/-- The `acr` and `amr` claims of a token. -/
def contextOf (token : Jwt) : Option Value × Option Value :=
  (token.payload "acr", token.payload "amr")

def TokenResponse.tokens (answer : TokenResponse) : List Jwt :=
  answer.accessToken :: answer.idToken.toList

/-- What else happens in the database: sessions are deleted and new ones created. -/
structure Between (s s' : Store) : Prop where
  supply : s.supply ≤ s'.supply
  sessions : ∀ row' ∈ s'.sessions, (∃ row ∈ s.sessions, row.id = row'.id ∧
    row.satisfiedAcr = row'.satisfiedAcr ∧ row.amr = row'.amr) ∨ s.supply ≤ row'.id

/-- A chain of refreshes on a session, newest answer first, with anything else in between.
Every refresh finds a database that meets the `condition`. -/
inductive Chain (d : Deps) (condition : Realm → Store → Prop) (sessionId : Nat)
    (origin : TokenResponse) (start : Store) : List TokenResponse → Store → Prop where
  | origin : Chain d condition sessionId origin start [origin] start
  | other {answers : List TokenResponse} {s s' : Store} :
      Chain d condition sessionId origin start answers s → Between s s' →
      Chain d condition sessionId origin start answers s'
  | refresh {answers : List TokenResponse} {s s' : Store} {answer : TokenResponse} (i : Nat)
      (realm : Realm) (body : Body) :
      Chain d condition sessionId origin start answers s → condition realm s →
      body.grant = some .refresh_token →
      (handleTokenRequest d i realm body).run s = (.ok answer, s') →
      answer.sessionState = some sessionId →
      Chain d condition sessionId origin start (answer :: answers) s'

def ContextKept (origin : TokenResponse) (answers : List TokenResponse) : Prop :=
  ∀ answer ∈ answers, ∀ token ∈ answer.tokens, ∀ first ∈ origin.tokens,
    contextOf token = contextOf first

def ContextUnclaimed (d : Deps) (realm : Realm) (s : Store) : Prop :=
  ∀ key, key = "acr" ∨ key = "amr" → Layers d realm.id key (fun _ => False) s

def TellsSession (body : Body) : Prop :=
  body.grant = some .password ∨ body.grant = some .authorization_code ∨
    body.grant = some .mfa_otp ∧ body.mfa_method ≠ some "sms"

section Context

variable {d : Deps} {i : Nat} {r : Realm} {body : Body} {s s' : Store} {answer : TokenResponse}

theorem ContextUnclaimed.same (unclaimed : ContextUnclaimed d r s)
    (same : layerTables s' = layerTables s) : ContextUnclaimed d r s' :=
  fun key isContext => (unclaimed key isContext).same same

def Issue.stated (issue : Issue) : Option Value × Option Value :=
  (some (.str (issue.acr.getD ACR_PASSWORD)),
    if issue.amr.isEmpty then none else some (.texts issue.amr))

theorem context_stated (issue : Issue) : (issue.context "acr", issue.context "amr") = issue.stated := by
  cases amr : issue.amr with
  | nil => simp [Issue.context, Issue.stated, spreadIf, amr]
  | cons method rest =>
    simp [Issue.context, Issue.stated, spreadIf, spread, amr]

variable {key : String}

theorem fixedAccess_context (issue : Issue) (isContext : key = "acr" ∨ key = "amr") :
    issue.fixedAccess d key = issue.context key := by
  rcases isContext with rfl | rfl <;> simp [Issue.fixedAccess, spread]

theorem fixedId_context (issue : Issue) (tok : Jwt) (now : Int)
    (isContext : key = "acr" ∨ key = "amr") :
    issue.fixedId d tok now key = issue.context key := by
  cases code : issue.code with
  | none => rcases isContext with rfl | rfl <;> simp [Issue.fixedId, code, spread]
  | some v => rcases isContext with rfl | rfl <;> simp [Issue.fixedId, code, spread]

/-- The context is not a claim about the user's columns and roles, nor the nonce. -/
theorem context_free (isContext : key = "acr" ∨ key = "amr") : key ∉ userKeys ∧ key ≠ "nonce" := by
  rcases isContext with rfl | rfl <;> decide

theorem stamp_context (pl : Claims) (key : Nat) (o : Origin) (expiresIn : Int) (s : Store) :
    contextOf (stamp pl key o expiresIn s) = (pl "acr", pl "amr") := by
  simp [contextOf, stamp]

variable {issue : Issue}

theorem accessToken_context {key : RealmSigningKey} {pl : Claims}
    (unclaimed : ContextUnclaimed d issue.realm s)
    (isPayload : issue.accessTokenPayload d s = some pl) :
    contextOf (issue.accessToken d key pl s) = issue.stated := by
  have stated : ∀ claim, claim = "acr" ∨ claim = "amr" →
      enrichToken d pl issue.user issue.realm.name claim = issue.context claim := by
    intro claim isContext
    have layers : Layers d issue.realm.id claim (· = issue.context claim) s :=
      (unclaimed claim isContext).mono fun _ no => no.elim
    exact accessToken_good layers (context_free isContext).1
      (fixedAccess_context issue isContext) isPayload
  rw [Issue.accessToken, stamp_context, stated "acr" (.inl rfl), stated "amr" (.inr rfl),
    context_stated]

theorem idToken_context {tok jwt : Jwt} {key : Nat} (unclaimed : ContextUnclaimed d issue.realm s)
    (built : (buildIdToken d issue tok key).run s = (.ok (some jwt), s')) :
    contextOf jwt = issue.stated := by
  unfold buildIdToken at built
  split at built
  · cases built
    have stated : ∀ claim, claim = "acr" ∨ claim = "amr" →
        issue.idTokenPayload d tok s claim = issue.context claim := by
      intro claim isContext
      have layers : Layers d issue.realm.id claim (· = issue.context claim) s :=
        (unclaimed claim isContext).mono fun _ no => no.elim
      have free := context_free isContext
      exact idToken_good layers free.1 free.2 (fixedId_context issue tok s.now isContext)
    rw [stamp_context, stated "acr" (.inl rfl), stated "amr" (.inr rfl), context_stated]
  · cases built

theorem createRefreshToken_layers (issue : Issue) (s : Store) :
    layerTables (createRefreshToken issue s).2 = layerTables s ∧
      (createRefreshToken issue s).2.sessions = s.sessions := by
  unfold createRefreshToken
  split <;> exact ⟨rfl, rfl⟩

theorem buildIdToken_sessions {tok : Jwt} {key : Nat} {idToken : Option Jwt}
    (built : (buildIdToken d issue tok key).run s = (.ok idToken, s')) :
    s'.sessions = s.sessions := by
  unfold buildIdToken at built
  split at built
  · cases built
    rfl
  · cases built
    rfl

theorem issueTokens_context (issued : (issueTokens d issue).run s = (.ok answer, s'))
    (unclaimed : ContextUnclaimed d issue.realm s) :
    (∀ token ∈ answer.tokens, contextOf token = issue.stated) ∧
      answer.sessionState = some issue.sessionId ∧ s'.sessions = s.sessions := by
  obtain ⟨key, pl, raw, idToken, -, isPayload, -, built, rfl⟩ := issueTokens_ok.mp issued
  obtain ⟨same, sessions⟩ := createRefreshToken_layers issue
    (signedStore (issue.accessToken d key pl s) s)
  refine ⟨?_, rfl, (buildIdToken_sessions built).trans sessions⟩
  intro token mem
  rcases mem_cons.mp mem with rfl | isId
  · exact accessToken_context unclaimed isPayload
  · have isSome : idToken = some token := by simpa using isId
    rw [isSome] at built
    exact idToken_context (unclaimed.same same) built

def SessionKeys (s : Store) : Prop := ∀ row ∈ s.sessions, row.id < s.supply

structure Remembers (sessionId : Nat) (satisfiedAcr : Option String) (amr : List String)
    (s : Store) : Prop where
  drawn : sessionId < s.supply
  row : ∀ row ∈ s.sessions, row.id = sessionId → row.satisfiedAcr = satisfiedAcr ∧ row.amr = amr

theorem Remembers.between {sid : Nat}
    (remembers : Remembers sid satisfiedAcr amr s) (between : Between s s') :
    Remembers sid satisfiedAcr amr s' where
  drawn := remembers.drawn.trans_le between.supply
  row := by
    intro row' isRow isSession
    rcases between.sessions row' isRow with ⟨row, isOld, id, acr, amr⟩ | fresh
    · rw [← acr, ← amr]
      exact remembers.row row isOld (id.trans isSession)
    · have := remembers.drawn
      omega

def refreshedContext (satisfiedAcr : Option String) (amr : List String) :
    Option Value × Option Value :=
  (some (.str (satisfiedAcr.getD ACR_PASSWORD)),
    some (.texts (if amr.isEmpty then ["pwd"] else amr)))

theorem refreshIssue_stated (row : StoredToken) : (refreshIssue i r body row).stated =
      refreshedContext row.session.satisfiedAcr row.session.amr := by
  simp only [Issue.stated, refreshIssue, refreshedContext, getD_some]
  by_cases empty : row.session.amr.isEmpty = true
  · simp [empty]
  · simp [empty]

theorem handleRefreshTokenGrant_context {sessionId : Nat}
    (remembers : Remembers sessionId satisfiedAcr amr s)
    (unclaimed : ContextUnclaimed d r s)
    (done_ : (handleRefreshTokenGrant d i r body).run s = (.ok answer, s'))
    (isSession : answer.sessionState = some sessionId) :
    (∀ tok ∈ answer.tokens, contextOf tok = refreshedContext satisfiedAcr amr) ∧
      Remembers sessionId satisfiedAcr amr s' := by
  obtain ⟨stored, accepted, issued⟩ := handleRefreshTokenGrant_ok.mp done_
  obtain ⟨presented, -, hit⟩ := accepted.found
  have ⟨_, _, isRow, _⟩ := findRefreshToken_spec hit
  have rotated : layerTables (rotateToken i stored.token s).2 = layerTables s ∧
      (rotateToken i stored.token s).2.supply = s.supply := by
    unfold rotateToken
    split <;> exact ⟨rfl, rfl⟩
  obtain ⟨stated, state, sessions⟩ := issueTokens_context issued (unclaimed.same rotated.1)
  have same : stored.token.sessionId = sessionId := by
    rw [isSession] at state
    exact (some.inj state).symm
  obtain ⟨acr, amr⟩ := remembers.row stored.session (mem_of_find?_eq_some isRow)
    ((by simpa using find?_some isRow : stored.session.id = _).trans same)
  have work := of_run (issueTokens_works d _) issued
  constructor
  · intro tok mem
    rw [stated tok mem, refreshIssue_stated, acr, amr]
  · refine ⟨remembers.drawn.trans_le (rotated.2 ▸ work.supply), ?_⟩
    rw [sessions, rotateToken_sessions]
    exact remembers.row

theorem Before.keys (pre : Before s s') (keys : SessionKeys s) : SessionKeys s' :=
  fun row isRow => (keys row (pre.sessions isRow)).trans_le pre.quiet.supply

theorem startSession_context (keys : SessionKeys s) (unclaimed : ContextUnclaimed d issue.realm s)
    (done_ : (startSession d satisfiedAcr amr issue).run s = (.ok answer, s')) :
    ∃ sid, answer.sessionState = some sid ∧ (∀ tok ∈ answer.tokens, contextOf tok = issue.stated) ∧
      Remembers sid satisfiedAcr amr s' := by
  obtain ⟨t, limited, -, known, issued⟩ := startSession_ok.mp done_
  have before := of_run (enforceSessionLimit_before _ _) limited
  have fresh := before.keys keys
  have created : ∃ row, row.id = t.supply ∧ row.satisfiedAcr = satisfiedAcr ∧ row.amr = amr ∧
      (createSession issue.realm issue.user.id satisfiedAcr amr t).2 =
        { t with supply := t.supply + 1, sessions := row :: t.sessions } := by
    have users := (of_run (enforceSessionLimit_works _ _) limited).accounts.users
    unfold createSession
    rw [users, if_pos known]
    exact ⟨_, rfl, rfl, rfl, rfl⟩
  obtain ⟨row, id, acr, methods, isCreated⟩ := created
  rw [isCreated] at issued
  have plain : ContextUnclaimed d issue.realm
      { t with supply := t.supply + 1, sessions := row :: t.sessions } :=
    unclaimed.same before.quiet.layers
  obtain ⟨stated, state, sessions⟩ := issueTokens_context issued plain
  have work := of_run (issueTokens_works d _) issued
  refine ⟨t.supply, state, stated, ⟨work.supply, ?_⟩⟩
  intro other isOther same
  rw [sessions] at isOther
  rcases mem_cons.mp isOther with rfl | isOld
  · exact ⟨acr, methods⟩
  · exact absurd same (fresh other isOld).ne

theorem handlePasswordGrant_started
    (done_ : (handlePasswordGrant d r body).run s = (.ok answer, s')) :
    ∃ t issue, Before s t ∧ issue.realm = r ∧ issue.acr = some ACR_PASSWORD ∧ issue.amr = ["pwd"] ∧
      (startSession d (some ACR_PASSWORD) ["pwd"] issue).run t = (.ok answer, s') := by
  simp only [handlePasswordGrant, validateClient_bind_ok, run_require_bind_ok,
    run_read_bind] at done_
  obtain ⟨-, -, -, authenticating⟩ := done_
  obtain ⟨linked, t₁, isLinked, searching⟩ := run_bind_ok.mp authenticating
  have before₁ := of_run (authenticateLinked_before _ _ _) isLinked
  obtain ⟨hit, t₂, isFound, checking⟩ := run_bind_ok.mp searching
  have before₂ := of_run (authenticateUnknown_before _ _ _) isFound
  simp only [run_orFail_bind_ok, run_read_bind, run_require_bind_ok] at checking
  obtain ⟨u, -, -, valid, -, verifying⟩ := checking
  obtain ⟨_, t₃, passed, resetting⟩ := run_bind_ok.mp verifying
  rw [refuseWrongPassword_ok passed] at resetting
  obtain ⟨_, t₄, reset, expiring⟩ := run_bind_ok.mp resetting
  have before₄ := of_run (resetFailures_before _ _) reset
  simp only [run_read_bind, run_require_bind_ok] at expiring
  obtain ⟨_, t₅, undemanded, starting⟩ := run_bind_ok.mp expiring.2
  rw [demandSecondFactor_ok undemanded] at starting
  exact ⟨t₄, _, (before₁.trans before₂).trans before₄, rfl, rfl, rfl, starting⟩

/-- The answers that are not text messages verify an authenticator or a recovery code. -/
theorem verifySecondFactor_otp {tok uid : Nat} {code : String} {factor : VerifiedFactor}
    (verified : (verifySecondFactor d i tok uid (.otp code)).run s = (.ok (some factor), s')) :
    factor ≠ .sms := by
  have returns : (verifySecondFactor d i tok uid (.otp code)).Returns
      fun res => res ≠ some .sms := by
    refine .bind (.any _) fun _ _ => ?_
    simp only [checkAnswer]
    split
    · exact fun no => by cases no
    · refine .bind (.any _) fun totp _ => ?_
      split
      · exact fun no => by cases no
      · refine .bind (.any _) fun recovery _ => ?_
        cases recovery <;> exact fun no => by cases no
  rintro rfl
  exact (Prog.Returns.of_run returns verified) rfl

theorem handleMfaOtpGrant_started (notText : body.mfa_method ≠ some "sms")
    (done_ : (handleMfaOtpGrant d i r body).run s = (.ok answer, s')) :
    ∃ t issue, Before s t ∧ issue.realm = r ∧ issue.acr = some ACR_MFA ∧ issue.amr = ["pwd", "otp"] ∧
      (startSession d (some ACR_MFA) ["pwd", "otp"] issue).run t = (.ok answer, s') := by
  obtain ⟨tok, chal, factor, t, u, accepted, starting⟩ := handleMfaOtpGrant_ok.mp done_
  obtain ⟨otp, -, verified⟩ := accepted.verified
  have attempt : Before s (attempted i tok s) := ⟨⟨le_rfl, rfl⟩, Subset.refl _⟩
  have checked := (FactorWork.of_run (verifySecondFactor_works _ _ _) verified).before
  have dropped : Before t (claimChallenge i (sha256 tok) t).2 :=
    ⟨⟨le_rfl, rfl⟩, Subset.refl _⟩
  have notSms : factor ≠ .sms := by
    rw [Body.secondFactor, if_neg notText] at verified
    exact verifySecondFactor_otp verified
  rw [if_neg notSms] at starting
  exact ⟨_, _, (attempt.trans checked).trans dropped, rfl, rfl, rfl, starting⟩

theorem handleAuthorizationCodeGrant_started
    (done_ : (handleAuthorizationCodeGrant d i r body).run s = (.ok answer, s')) :
    ∃ t issue acr amr, Before s t ∧ issue.realm = r ∧ amr ≠ [] ∧ issue.acr = some acr ∧ issue.amr = amr ∧
      (startSession d (some acr) amr issue).run t = (.ok answer, s') := by
  obtain ⟨c, row, u, -, starting⟩ := handleAuthorizationCodeGrant_ok.mp done_
  have claimed : Before s (claimCode i c row.code s).2 := by
    unfold claimCode
    split <;> exact ⟨⟨le_rfl, rfl⟩, Subset.refl _⟩
  refine ⟨_, codeIssue r body row u, row.satisfiedAcr.getD ACR_PASSWORD,
    if row.amr.isEmpty then ["pwd"] else row.amr, claimed, rfl, ?_, rfl, rfl, starting⟩
  by_cases empty : row.amr.isEmpty = true
  · simp [empty]
  · rw [if_neg empty]
    simpa using empty

theorem origin_context (keys : SessionKeys s) (tells : TellsSession body)
    (unclaimed : ContextUnclaimed d r s)
    (done_ : (handleTokenRequest d i r body).run s = (.ok answer, s')) :
    ∃ sid satisfiedAcr amr, answer.sessionState = some sid ∧
      (∀ tok ∈ answer.tokens, contextOf tok = refreshedContext satisfiedAcr amr) ∧
      Remembers sid satisfiedAcr amr s' := by
  have started : ∃ t issue acr amr, Before s t ∧ issue.realm = r ∧ amr ≠ [] ∧ issue.acr = some acr ∧
      issue.amr = amr ∧ (startSession d (some acr) amr issue).run t = (.ok answer, s') := by
    obtain ⟨grant, isGrant, done_⟩ := handleTokenRequest_ok.mp done_
    rcases tells with pw | code | ⟨mfa, notText⟩
    · obtain rfl : grant = .password := by simpa [pw] using isGrant.symm
      obtain ⟨t, issue, pre, inRealm, acr, amr, starting⟩ := handlePasswordGrant_started done_
      exact ⟨t, issue, _, _, pre, inRealm, by simp, acr, amr, starting⟩
    · obtain rfl : grant = .authorization_code := by simpa [code] using isGrant.symm
      exact handleAuthorizationCodeGrant_started done_
    · obtain rfl : grant = .mfa_otp := by simpa [mfa] using isGrant.symm
      obtain ⟨t, issue, pre, inRealm, acr, amr, starting⟩ := handleMfaOtpGrant_started notText done_
      exact ⟨t, issue, _, _, pre, inRealm, by simp, acr, amr, starting⟩
  obtain ⟨t, issue, acr, amr, pre, rfl, some_, isAcr, isAmr, starting⟩ := started
  obtain ⟨sid, state, stated, remembers⟩ := startSession_context (pre.keys keys)
    (unclaimed.same pre.quiet.layers) starting
  refine ⟨sid, some acr, amr, state, ?_, remembers⟩
  intro tok mem
  have nonempty : amr.isEmpty = false := by simpa using some_
  rw [stated tok mem, Issue.stated, refreshedContext, isAcr, isAmr, nonempty]
  rfl

/-- Along every chain of refreshes, with anything else in between, every access token and
id token states the context that the originating grant's tokens state, provided that the
grant tells the session what it tells the client and that nobody else supplies the
claims. -/
theorem context_kept_along_refreshes (d : Deps) (i : Nat) (r : Realm) (body : Body)
    (s start : Store) (origin : TokenResponse) (sessionId : Nat) (keys : SessionKeys s)
    (tells : TellsSession body) (unclaimed : ContextUnclaimed d r s)
    (granted : (handleTokenRequest d i r body).run s = (.ok origin, start))
    (state : origin.sessionState = some sessionId) (answers : List TokenResponse) (t : Store)
    (chain : Chain d (ContextUnclaimed d) sessionId origin start answers t) :
    ContextKept origin answers := by
  obtain ⟨sess, satisfiedAcr, amr, isSession, first, remembers⟩ :=
    origin_context keys tells unclaimed granted
  obtain rfl : sess = sessionId := by
    rw [state] at isSession
    exact (some.inj isSession).symm
  have along : (∀ answer ∈ answers, ∀ tok ∈ answer.tokens,
      contextOf tok = refreshedContext satisfiedAcr amr) ∧
      Remembers sess satisfiedAcr amr t := by
    induction chain with
    | origin =>
      refine ⟨?_, remembers⟩
      intro answer mem
      rw [mem_singleton.mp mem]
      exact first
    | other _ between ih => exact ⟨ih.1, ih.2.between between⟩
    | refresh i r body _ plain isRefresh refreshed isSession ih =>
      obtain ⟨grant, isGrant, done_⟩ := handleTokenRequest_ok.mp refreshed
      obtain rfl : grant = .refresh_token := by simpa [isRefresh] using isGrant.symm
      obtain ⟨stated, later⟩ := handleRefreshTokenGrant_context ih.2 plain done_ isSession
      refine ⟨?_, later⟩
      intro answer mem
      rcases mem_cons.mp mem with rfl | older
      · exact stated
      · exact ih.1 answer older
  intro answer mem tok isToken firstToken isFirst
  rw [along.1 answer mem tok isToken, first firstToken isFirst]

end Context

section Example

/-- Alice can sign in with her password, and has approved a television. -/
def aliceSignsIn : Store where
  supply := 40
  realms := [acme]
  users := [{ alice with passwordHash := some "secret" }]
  clients := [{ id := 3, realmId := 1, clientId := "tv", clientType := .PUBLIC,
                grantTypes := ["password", DEVICE_URN, "refresh_token"] }]
  signingKeys := [{ id := 7, realmId := 1, createdAt := 0 }]
  deviceCodes := [{ id := 8, deviceCode := 9, userCode := "ABCD-EFGH", clientId := 3, realmId := 1,
                    userId := some 2, approved := true, expiresAt := 600000 }]

def passwordBody : Body where
  grant_type := some "password"
  client_id := some "tv"
  username := some "alice"
  password := some "secret"

def deviceBody : Body where
  grant_type := some DEVICE_URN
  client_id := some "tv"
  device_code := some 9

def againBody : Body where
  grant_type := some "refresh_token"
  client_id := some "tv"
  refresh_token := some 42

theorem aliceSignsIn_unclaimed {s : Store} (same : layerTables s = layerTables aliceSignsIn) (r : Realm) :
    ContextUnclaimed .transparent r s := by
  refine .same ?_ same
  intro key _
  constructor
  · intro v no
    cases no
  · intro sc no
    cases no
  · intro enricher no
    cases no

/-- Alice's password and one refresh. -/
theorem password_context_kept : ∃ o start answer t,
      (handleTokenRequest .transparent 0 acme passwordBody).run aliceSignsIn = (.ok o, start) ∧
      (handleTokenRequest .transparent 1 acme againBody).run start = (.ok answer, t) ∧
      ContextKept o [answer, o] := by
  refine ⟨_, _, _, _, rfl, rfl, ?_⟩
  refine context_kept_along_refreshes .transparent 0 acme passwordBody aliceSignsIn _ _ 40
    (fun _ no => by cases no) (.inl rfl)
    (aliceSignsIn_unclaimed rfl acme) rfl rfl _ _
    (.refresh 1 acme againBody .origin ?_ rfl rfl rfl)
  apply aliceSignsIn_unclaimed
  rfl

/-- The television's tokens do not mention a method; after a refresh they say that Alice
used her password. -/
theorem device_context_lost : ∃ o start answer t,
      (handleTokenRequest .transparent 0 acme deviceBody).run aliceSignsIn = (.ok o, start) ∧
      o.sessionState = some 40 ∧
      Chain .transparent (ContextUnclaimed .transparent) 40 o start [answer, o] t ∧
      ¬ ContextKept o [answer, o] := by
  refine ⟨_, _, _, _, rfl, rfl, .refresh 1 acme againBody .origin ?_ rfl rfl rfl, ?_⟩
  · apply aliceSignsIn_unclaimed
    rfl
  intro kept
  have same := kept _ mem_cons_self _ mem_cons_self _ mem_cons_self
  have methods := congrArg Prod.snd same
  exact absurd methods (by decide)

end Example

end Idenplane.Auth
