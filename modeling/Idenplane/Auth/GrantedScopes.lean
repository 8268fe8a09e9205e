import Idenplane.Auth.Context

/-! # Scopes from the authorization to the tokens

The authorization grants the scopes that are configured for the client; the exchange reads
them back from the code and keeps those of a constant table.  The two agree exactly when every
granted name is in the table, which `offline_access` and the scopes of an administrator are
not.
-/

namespace Idenplane.Auth.GrantedScopes

open Atomic Text Issue

variable {names : List String} {issue : Issue}

section Granted

/-- The scope that `authorizeWithUser` stores with the code. -/
def storedScope (s : Store) (clientDbId : Nat) (scope : Option String) : Option String :=
  let effective := getClientEffectiveScopes s clientDbId (parseAndValidate scope)
  if effective.isEmpty then scope else some (scopesToString effective)

/-- The scopes that the authorization grants.  A client without any is granted what it asked
for. -/
def grantedScopes (s : Store) (clientDbId : Nat) (scope : Option String) : List String :=
  let effective := getClientEffectiveScopes s clientDbId (parseAndValidate scope)
  if effective.isEmpty then Text.words ' ' (scope.getD "") else effective

def Recognized (granted : List String) : Prop :=
  granted ≠ [] ∧ ∀ name ∈ granted, name ∈ supportedScopes

variable {s : Store}

theorem supported_plain : ∀ name ∈ supportedScopes, ' ' ∉ name.toList ∧ name ≠ "" := by
  decide

theorem parseAndValidate_eq (sc : Option String) :
    parseAndValidate sc = (words ' ' (sc.getD "")).filter (supportedScopes.contains ·) := by
  cases sc with
  | none => rfl
  | some sc => rfl

theorem parseAndValidate_supported (sc : Option String) :
    ∀ name ∈ parseAndValidate sc, name ∈ supportedScopes := by
  intro name mem
  rw [parseAndValidate_eq] at mem
  exact contains_iff_mem.mp (mem_filter.mp mem).2

theorem parseAndValidate_scopesToString (known : ∀ name ∈ names, name ∈ supportedScopes) :
    parseAndValidate (some (scopesToString names)) = names := by
  rw [parseAndValidate_eq, getD_some, scopesToString,
    words_intercalate fun name mem => supported_plain name (known name mem)]
  exact filter_eq_self.mpr fun name mem => contains_iff_mem.mpr (known name mem)

theorem parseAndValidate_storedScope {clientDbId : Nat} {scope : Option String}
    (known : ∀ name ∈ grantedScopes s clientDbId scope, name ∈ supportedScopes) :
    parseAndValidate (storedScope s clientDbId scope) = grantedScopes s clientDbId scope := by
  unfold storedScope grantedScopes at *
  dsimp only at *
  split at known
  · rename_i none_
    rw [if_pos none_, if_pos none_, parseAndValidate_eq]
    exact filter_eq_self.mpr fun name mem => contains_iff_mem.mpr (known name mem)
  · rename_i some_
    rw [if_neg some_, if_neg some_]
    exact parseAndValidate_scopesToString known

theorem effectiveScopes_recognized (issue : Issue) : Recognized issue.effectiveScopes := by
  unfold effectiveScopes
  dsimp only
  split
  · exact ⟨by simp, by decide⟩
  · rename_i some_
    exact ⟨by simpa using some_, parseAndValidate_supported _⟩

theorem words_validatedScope (issue : Issue) :
    words ' ' issue.validatedScope = issue.effectiveScopes :=
  words_intercalate fun name mem =>
    supported_plain name ((effectiveScopes_recognized issue).2 name mem)

theorem effectiveScopes_of_parsed (some_ : names ≠ [])
    (parsed : parseAndValidate issue.scope = names) : issue.effectiveScopes = names := by
  rw [effectiveScopes, parsed]
  exact if_neg (by simpa using some_)

end Granted

variable {raw : Nat}

section Tokens

/-- The answer has the granted scopes: in its text, with the refresh token, which is an offline
one if that was granted, and in the protocol mappers that its access token was built with. -/
structure Survives (d : Deps) (realm : Realm) (granted : List String) (answer : TokenResponse)
    (s s' : Store) : Prop where
  scope : ∀ name, name ∈ Text.words ' ' (answer.scope.getD "") ↔ name ∈ granted
  token : ∃ raw row, answer.refreshToken = some raw ∧ row ∈ s'.refreshTokens ∧
    row.tokenHash = sha256 raw ∧ row.scope = answer.scope ∧
    ("offline_access" ∈ granted →
      row.isOffline = true ∧ row.expiresAt = s.now + realm.offlineTokenLifespan * 1000)
  mappers : ∃ (issue : Issue) (t : Store) (key : RealmSigningKey) (payload : Claims),
    issue.accessTokenPayload d t = some payload ∧
    answer.accessToken = issue.accessToken d key payload t ∧
    ∀ mapper ∈ getScopeMappers s granted realm.id,
      mapper ∈ getScopeMappers t issue.effectiveScopes issue.realm.id

variable {d : Deps} {r : Realm} {s s' t : Store} {answer : TokenResponse}

theorem getScopeMappers_mono {wide narrow : List String} {realmId : Nat}
    (tables : layerTables t = layerTables s) (wider : ∀ name ∈ narrow, name ∈ wide) :
    ∀ mapper ∈ getScopeMappers s narrow realmId, mapper ∈ getScopeMappers t wide realmId := by
  simp only [layerTables, Prod.mk.injEq] at tables
  intro mapper mem
  obtain ⟨sc, isScope, ofScope⟩ := mem_flatMap.mp mem
  refine mem_flatMap.mpr ⟨sc, ?_, ?_⟩
  · simp only [mem_filter, and_eq_true, decide_eq_true_eq, contains_iff_mem] at *
    exact ⟨tables.2.2.1 ▸ isScope.1, isScope.2.1, wider _ isScope.2.2⟩
  · rw [tables.2.2.2]
    exact ofScope

theorem createRefreshToken_row
    (new : (createRefreshToken issue s).1 = some raw) : ∃ row, row = issue.refreshTokenRow s ∧
      (createRefreshToken issue s).2.refreshTokens = row :: s.refreshTokens ∧
      (createRefreshToken issue s).2.supply = s.supply + 2 ∧ raw = s.supply := by
  unfold createRefreshToken at *
  split at new
  · rename_i known
    rw [if_pos known]
    exact ⟨_, rfl, rfl, rfl, (some.inj new).symm⟩
  · cases new

theorem buildIdToken_tokens {tok : Jwt} {key : Nat} {idToken : Option Jwt}
    (built : (buildIdToken d issue tok key).run s = (.ok idToken, s')) :
    s'.refreshTokens = s.refreshTokens ∧ s.supply ≤ s'.supply := by
  unfold buildIdToken at built
  split at built
  · cases built
    exact ⟨rfl, le_succ _⟩
  · cases built
    exact ⟨rfl, le_rfl⟩

theorem issueTokens_survives {granted : List String}
    (same : ∀ name, name ∈ issue.effectiveScopes ↔ name ∈ granted)
    (tables : layerTables t = layerTables s) (now : t.now = s.now)
    (issued : (issueTokens d issue).run t = (.ok answer, s')) :
    Survives d issue.realm granted answer s s' := by
  obtain ⟨key, pl, raw, idToken, -, isPayload, new, built, rfl⟩ := issueTokens_ok.mp issued
  constructor
  · intro name
    rw [getD_some, words_validatedScope]
    exact same name
  · obtain ⟨row, isRow, rows, -, rfl⟩ := createRefreshToken_row new
    have mem : row ∈ s'.refreshTokens := by
      rw [(buildIdToken_tokens built).1, rows]
      exact mem_cons_self
    refine ⟨_, row, rfl, mem, by rw [isRow]; rfl, by rw [isRow]; rfl, fun offline => ?_⟩
    have granted_ : issue.effectiveScopes.contains "offline_access" = true :=
      contains_iff_mem.mpr ((same _).mpr offline)
    rw [isRow, ← now]
    simp only [refreshTokenRow, granted_, if_true, signedStore, and_self]
  · exact ⟨issue, t, key, pl, isPayload, rfl,
      getScopeMappers_mono tables fun name mem => (same name).mpr mem⟩

theorem issueTokens_scope (issued : (issueTokens d issue).run t = (.ok answer, s')) :
    words ' ' (answer.scope.getD "") = issue.effectiveScopes := by
  obtain ⟨key, pl, raw, idToken, -, -, -, -, rfl⟩ := issueTokens_ok.mp issued
  exact words_validatedScope issue

end Tokens

section Runs

/-- What else happens: codes and refresh tokens are created, spent and deleted; none is given
another scope. -/
structure Between (s s' : Store) : Prop where
  supply : s.supply ≤ s'.supply
  codes : ∀ row' ∈ s'.authorizationCodes,
    (∃ row ∈ s.authorizationCodes, row.code = row'.code ∧ row.scope = row'.scope) ∨
      s.supply ≤ row'.code
  tokens : ∀ row' ∈ s'.refreshTokens,
    (∃ row ∈ s.refreshTokens, row.tokenHash = row'.tokenHash ∧ row.scope = row'.scope) ∨
      ∃ raw, s.supply ≤ raw ∧ raw < s'.supply ∧ row'.tokenHash = sha256 raw

structure Keys (s : Store) : Prop where
  codes : ∀ row ∈ s.authorizationCodes, row.code < s.supply
  tokens : ∀ row ∈ s.refreshTokens, ∃ raw < s.supply, row.tokenHash = sha256 raw

/-- The refresh token of an answer is refreshed without a scope, and so on, with anything else
in between. -/
inductive Refreshes (d : Deps) (origin : TokenResponse) (start : Store) :
    TokenResponse → Store → Prop where
  | origin : Refreshes d origin start origin start
  | other {answer : TokenResponse} {s s' : Store} :
      Refreshes d origin start answer s → Between s s' → Refreshes d origin start answer s'
  | refresh {answer next : TokenResponse} {s s' : Store} (i : Nat) (realm : Realm) (body : Body) :
      Refreshes d origin start answer s → body.refresh_token = answer.refreshToken →
      given body.scope = none → (handleRefreshTokenGrant d i realm body).run s = (.ok next, s') →
      Refreshes d origin start next s'

variable {d : Deps} {i : Nat} {r : Realm} {body : Body} {s s' : Store} {answer : TokenResponse}

theorem Between.refl (s : Store) : Between s s where
  supply := le_rfl
  codes := fun row isRow => .inl ⟨row, isRow, rfl, rfl⟩
  tokens := fun row isRow => .inl ⟨row, isRow, rfl, rfl⟩

theorem Between.trans {a b c : Store} (ab : Between a b) (bc : Between b c) : Between a c where
  supply := ab.supply.trans bc.supply
  codes := by
    intro row isRow
    obtain ⟨middle, isMiddle, code, sc⟩ | fresh := bc.codes row isRow
    · obtain ⟨old, isOld, code', sc'⟩ | fresh := ab.codes middle isMiddle
      · exact .inl ⟨old, isOld, code'.trans code, sc'.trans sc⟩
      · exact .inr (code ▸ fresh)
    · exact .inr (ab.supply.trans fresh)
  tokens := by
    intro row isRow
    obtain ⟨middle, isMiddle, hash, sc⟩ | ⟨raw, above, below, isRaw⟩ := bc.tokens row isRow
    · obtain ⟨old, isOld, hash', sc'⟩ | ⟨raw, above, below, isRaw⟩ := ab.tokens middle isMiddle
      · exact .inl ⟨old, isOld, hash'.trans hash, sc'.trans sc⟩
      · exact .inr ⟨raw, above, below.trans_le bc.supply, hash ▸ isRaw⟩
    · exact .inr ⟨raw, ab.supply.trans above, below, isRaw⟩

theorem Between.tokenKeys (between : Between s s')
    (keys : ∀ row ∈ s.refreshTokens, ∃ raw < s.supply, row.tokenHash = sha256 raw) :
    ∀ row ∈ s'.refreshTokens, ∃ raw < s'.supply, row.tokenHash = sha256 raw := by
  intro row isRow
  obtain ⟨old, isOld, hash, -⟩ | ⟨raw, -, below, isRaw⟩ := between.tokens row isRow
  · obtain ⟨raw, below, isRaw⟩ := keys old isOld
    exact ⟨raw, below.trans_le between.supply, hash ▸ isRaw⟩
  · exact ⟨raw, below, isRaw⟩

/-- A refresh token with the scope, for as long as it exists. -/
structure Holds (raw : Nat) (scope : Option String) (s : Store) : Prop where
  keys : ∀ row ∈ s.refreshTokens, ∃ raw < s.supply, row.tokenHash = sha256 raw
  drawn : raw < s.supply
  rows : ∀ row ∈ s.refreshTokens, row.tokenHash = sha256 raw → row.scope = scope

theorem Holds.between {sc : Option String} (held : Holds raw sc s)
    (between : Between s s') : Holds raw sc s' := by
  refine ⟨between.tokenKeys held.keys, held.drawn.trans_le between.supply, ?_⟩
  intro row isRow hashed
  obtain ⟨old, isOld, hash, sameScope⟩ | ⟨other, above, -, isOther⟩ := between.tokens row isRow
  · rw [← sameScope]
    exact held.rows old isOld (hash.trans hashed)
  · cases isOther.symm.trans hashed
    exact absurd held.drawn (Nat.not_lt.mpr above)

/-- The answer's scope is the names, and its refresh token has it for as long as it exists. -/
structure Carries (names : List String) (answer : TokenResponse) (s : Store) : Prop where
  scope : answer.scope = some (scopesToString names)
  keys : ∀ row ∈ s.refreshTokens, ∃ raw < s.supply, row.tokenHash = sha256 raw
  token : ∃ raw < s.supply, answer.refreshToken = some raw ∧
    ∀ row ∈ s.refreshTokens, row.tokenHash = sha256 raw → row.scope = answer.scope

theorem Carries.between (carries : Carries names answer s)
    (between : Between s s') : Carries names answer s' := by
  obtain ⟨sc, keys, raw, below, isRaw, rows⟩ := carries
  obtain ⟨keys, below, rows⟩ := (Holds.mk keys below rows).between between
  exact ⟨sc, keys, raw, below, isRaw, rows⟩

theorem issueTokens_carries
    (keys : ∀ row ∈ s.refreshTokens, ∃ raw < s.supply, row.tokenHash = sha256 raw)
    (issued : (issueTokens d issue).run s = (.ok answer, s')) :
    Carries issue.effectiveScopes answer s' := by
  obtain ⟨key, pl, raw, idToken, -, -, created, built, rfl⟩ := issueTokens_ok.mp issued
  obtain ⟨new, isNew, rows, supply, rfl⟩ := createRefreshToken_row created
  obtain ⟨same, grown⟩ := buildIdToken_tokens built
  rw [supply] at grown
  rw [rows] at same
  have above : s.supply + 1 < s'.supply := by
    simp only [signedStore] at grown
    omega
  refine ⟨rfl, ?_, s.supply + 1, above, rfl, ?_⟩
  · intro row isRow
    rw [same] at isRow
    cases isRow with
    | head => exact ⟨s.supply + 1, above, by rw [isNew]; rfl⟩
    | tail _ older =>
      obtain ⟨raw, below, isRaw⟩ := keys row older
      exact ⟨raw, by omega, isRaw⟩
  · intro row isRow hashed
    rw [same] at isRow
    cases isRow with
    | head =>
      rw [isNew]
      rfl
    | tail _ older =>
      obtain ⟨raw, below, isRaw⟩ := keys row older
      cases isRaw.symm.trans hashed
      omega

theorem parseAndValidate_given (scope : Option String) :
    parseAndValidate (given scope) = parseAndValidate scope := by
  cases scope with
  | none => rfl
  | some text =>
    by_cases empty : text = ""
    · subst empty
      rfl
    · rw [given_eq_some.mpr ⟨rfl, empty⟩]

theorem rotateToken_between (tok : RefreshToken) (s : Store) :
    Between s (rotateToken i tok s).2 := by
  unfold rotateToken
  split
  · refine ⟨le_rfl, fun row isRow => .inl ⟨row, isRow, rfl, rfl⟩, fun row isRow => ?_⟩
    obtain ⟨old, isOld, rfl⟩ := mem_map.mp isRow
    refine .inl ⟨old, isOld, ?_⟩
    split <;> exact ⟨rfl, rfl⟩
  · exact .refl s

/-- The names that a refresh is granted: of what it asks for, or else of what is stored. -/
def refreshedNames (asked stored : Option String) : List String :=
  let names := parseAndValidate ((given asked).or stored)
  if names.isEmpty then ["openid"] else names

variable {next : TokenResponse}

theorem held_refresh_issues {sc : Option String}
    (held : Holds raw sc s) (presented : body.refresh_token = some raw)
    (done_ : (handleRefreshTokenGrant d i r body).run s = (.ok next, s')) :
    ∃ issue t, issue.realm = r ∧ issue.effectiveScopes = refreshedNames body.scope sc ∧
      Between s t ∧ layerTables t = layerTables s ∧ t.now = s.now ∧
      (issueTokens d issue).run t = (.ok next, s') := by
  obtain ⟨row, accepted, issued⟩ := handleRefreshTokenGrant_ok.mp done_
  have rotated : layerTables (rotateToken i row.token s).2 = layerTables s ∧
      (rotateToken i row.token s).2.now = s.now := by
    unfold rotateToken
    split <;> exact ⟨rfl, rfl⟩
  refine ⟨_, _, rfl, ?_, rotateToken_between _ _, rotated.1, rotated.2, issued⟩
  obtain ⟨other, isOther, hit⟩ := accepted.found
  obtain ⟨mem, hashed, -⟩ := findRefreshToken_spec hit
  cases isOther.symm.trans presented
  have same : parseAndValidate ((given body.scope).or (given row.token.scope)) =
      parseAndValidate ((given body.scope).or sc) := by
    rw [held.rows row.token mem hashed]
    cases given body.scope with
    | none => exact parseAndValidate_given sc
    | some text => rfl
  rw [effectiveScopes, refreshedNames, ← same]
  rfl

theorem refreshedNames_stored {asked : Option String}
    (recognized : Recognized names) (unscoped : given asked = none) :
    refreshedNames asked (some (scopesToString names)) = names := by
  rw [refreshedNames, unscoped, none_or, parseAndValidate_scopesToString recognized.2]
  exact if_neg (by simpa using recognized.1)

theorem refresh_issues (recognized : Recognized names)
    (carries : Carries names answer s) (presented : body.refresh_token = answer.refreshToken)
    (unscoped : given body.scope = none)
    (done_ : (handleRefreshTokenGrant d i r body).run s = (.ok next, s')) :
    ∃ issue t, issue.realm = r ∧ issue.effectiveScopes = names ∧ Between s t ∧
      layerTables t = layerTables s ∧ t.now = s.now ∧
      (issueTokens d issue).run t = (.ok next, s') := by
  obtain ⟨sc, keys, raw, below, isRaw, rows⟩ := carries
  have issues := held_refresh_issues ⟨keys, below, rows⟩ (presented.trans isRaw) done_
  rwa [sc, refreshedNames_stored recognized unscoped] at issues

theorem Refreshes.carries {origin : TokenResponse} {start : Store}
    (recognized : Recognized names) (first : Carries names origin start)
    (chain : Refreshes d origin start answer s) : Carries names answer s := by
  induction chain with
  | origin => exact first
  | other _ between ih => exact ih.between between
  | refresh i r body _ presented unscoped done_ ih =>
    obtain ⟨issue, t, -, rfl, between, -, -, issued⟩ :=
      refresh_issues recognized ih presented unscoped done_
    exact issueTokens_carries (between.tokenKeys ih.keys) issued

variable {ps : AuthorizeParams} {ctx : SatisfiedAuthContext} {redirect : Redirect}

theorem authorizeWithUser_ok {u : User}
    (done_ : (authorizeWithUser d r u ps ctx).run s = (.ok redirect, s')) :
    ∃ c, findClient r.id ps.client_id s = some c ∧ redirect.code = s.supply ∧
      s'.supply = s.supply + 2 ∧ s'.refreshTokens = s.refreshTokens ∧ s'.authorizationCodes =
        codeRow c u ps ctx (storedScope s c.id ps.scope) s ::
          s.authorizationCodes := by
  obtain ⟨c, t, valid, done_⟩ := run_bind_ok.mp done_
  have same := (validateAuthRequest_reads r ps).run (fun _ => rfl) Eq.trans s
  rw [valid] at same
  subst same
  simp only [validateAuthRequest, run_require_bind_ok, run_read_bind,
    run_orFail_bind_ok, pure_def, run_done, Prod.mk.injEq, ok.injEq] at valid
  obtain ⟨-, -, hit, isFound, -, -, -, -, rfl, -⟩ := valid
  simp only [run_read_bind, run_atomic_bind, run_orFail_bind_ok,
    run_require_bind_ok, pure_def, run_done, Prod.mk.injEq, ok.injEq] at done_
  obtain ⟨code, new, -, rfl, rfl⟩ := done_
  refine ⟨hit, (filter_eq_some_iff.mp isFound).1, ?_⟩
  unfold createCode at *
  split at new
  · rename_i known
    cases new
    rw [if_pos known]
    exact ⟨rfl, rfl, rfl, rfl⟩
  · cases new

theorem claimCode_between (c : Client) (code : Nat) (s : Store) :
    Between s (claimCode i c code s).2 := by
  unfold claimCode
  split
  · refine ⟨le_rfl, fun row isRow => ?_, fun row isRow => .inl ⟨row, isRow, rfl, rfl⟩⟩
    obtain ⟨old, isOld, rfl⟩ := mem_map.mp isRow
    refine .inl ⟨old, isOld, ?_⟩
    split <;> exact ⟨rfl, rfl⟩
  · exact .refl s

theorem enforceSessionLimit_between (r : Realm) (uid : Nat) :
    (enforceSessionLimit r uid).Keeps Between := by
  unfold enforceSessionLimit
  split
  · trivial
  · refine .bind (.read .refl _) fun active => ?_
    split
    · refine .bind (.modify fun s => ?_) fun _ => .modify fun s => ?_
      · refine ⟨le_rfl, fun row isRow => .inl ⟨row, isRow, rfl, rfl⟩, fun row isRow => ?_⟩
        obtain ⟨old, isOld, rfl⟩ := mem_map.mp isRow
        refine .inl ⟨old, isOld, ?_⟩
        split <;> exact ⟨rfl, rfl⟩
      · exact ⟨le_rfl, fun row isRow => .inl ⟨row, isRow, rfl, rfl⟩,
          fun row isRow => .inl ⟨row, (mem_filter.mp isRow).1, rfl, rfl⟩⟩
    · trivial

theorem createSession_between (uid : Nat) (acr : Option String) (amr : List String)
    (s : Store) : Between s (createSession r uid acr amr s).2 := by
  unfold createSession
  split
  · exact ⟨le_succ _, fun row isRow => .inl ⟨row, isRow, rfl, rfl⟩,
      fun row isRow => .inl ⟨row, isRow, rfl, rfl⟩⟩
  · exact .refl s

theorem exchange_issues
    (done_ : (handleAuthorizationCodeGrant d i r body).run s = (.ok answer, s')) :
    ∃ issue t row, row ∈ s.authorizationCodes ∧ body.code = some row.code ∧
      issue.realm = r ∧ issue.scope = row.scope ∧ Between s t ∧
      layerTables t = layerTables s ∧ t.now = s.now ∧
      (issueTokens d issue).run t = (.ok answer, s') := by
  obtain ⟨c, row, u, accepted, starting⟩ := handleAuthorizationCodeGrant_ok.mp done_
  obtain ⟨t, limited, work, -, issued⟩ := startSession_ok.mp starting
  obtain ⟨code, isCode, hit⟩ := accepted.found
  have passes := find?_some hit
  simp only [claimable, and_eq_true, decide_eq_true_eq] at passes
  have claimed : layerTables (claimCode i c row.code s).2 = layerTables s ∧
      (claimCode i c row.code s).2.now = s.now := by
    unfold claimCode
    split <;> exact ⟨rfl, rfl⟩
  have created : layerTables (createSession r u.id (some (row.satisfiedAcr.getD ACR_PASSWORD))
      (if row.amr.isEmpty then ["pwd"] else row.amr) t).2 = layerTables t ∧
      (createSession r u.id (some (row.satisfiedAcr.getD ACR_PASSWORD))
        (if row.amr.isEmpty then ["pwd"] else row.amr) t).2.now = t.now := by
    unfold createSession
    split <;> exact ⟨rfl, rfl⟩
  have evicted : Between (claimCode i c row.code s).2 t := by
    have kept := (enforceSessionLimit_between r u.id).run .refl .trans (claimCode i c row.code s).2
    rw [show enforceSessionLimit r u.id = enforceSessionLimit (codeIssue r body row u).realm
      (codeIssue r body row u).user.id from rfl, limited] at kept
    exact kept
  refine ⟨_, _, row, mem_of_find?_eq_some hit, by rw [isCode, passes.1.1], rfl, rfl,
    ((claimCode_between c row.code s).trans evicted).trans (createSession_between _ _ _ t),
    ?_, ?_, issued⟩
  · exact created.1.trans ((congrArg layerTables work.rest :).trans claimed.1)
  · exact created.2.trans ((congrArg Store.now work.rest :).trans claimed.2)

theorem authorized_exchange_issues {home : Realm} {u : User} {c : Client} {s₁ s₂ : Store}
    (keys : Keys s)
    (authorized : (authorizeWithUser d home u ps ctx).run s = (.ok redirect, s₁))
    (isClient : findClient home.id ps.client_id s = some c) (between : Between s₁ s₂)
    (isCode : body.code = some redirect.code)
    (exchanged : (handleAuthorizationCodeGrant d i r body).run s₂ = (.ok answer, s')) :
    ∃ issue t, issue.realm = r ∧ issue.scope = storedScope s c.id ps.scope ∧
      layerTables t = layerTables s₂ ∧ t.now = s₂.now ∧
      (∀ row ∈ t.refreshTokens, ∃ raw < t.supply, row.tokenHash = sha256 raw) ∧
      (issueTokens d issue).run t = (.ok answer, s') := by
  obtain ⟨other, isOther, drawn, supply, toks, codes⟩ := authorizeWithUser_ok authorized
  cases isClient.symm.trans isOther
  obtain ⟨issue, t, row, isRow, named, inRealm, sc, later, tables, now, issued⟩ :=
    exchange_issues exchanged
  have code : row.code = s.supply := by
    rw [isCode, drawn] at named
    exact (some.inj named).symm
  refine ⟨issue, t, inRealm, sc.trans ?_, tables, now, ?_, issued⟩
  · obtain ⟨old, isOld, same, sameScope⟩ | fresh := between.codes row isRow
    · rw [codes] at isOld
      cases isOld with
      | head => exact sameScope.symm
      | tail _ older =>
        have := keys.codes old older
        omega
    · omega
  · refine later.tokenKeys (between.tokenKeys fun row isRow => ?_)
    rw [toks] at isRow
    obtain ⟨raw, below, isRaw⟩ := keys.tokens row isRow
    exact ⟨raw, by omega, isRaw⟩

/-- The granted scopes are those of the tokens of the exchange and of every refresh after it
that names no scope exactly when the server recognizes all of them, and there is one. -/
theorem scopes_survive_iff {home : Realm} {user : User} {c : Client} {s₁ s₂ : Store} (keys : Keys s)
    (authorized : (authorizeWithUser d home user ps ctx).run s = (.ok redirect, s₁))
    (isClient : findClient home.id ps.client_id s = some c) (between : Between s₁ s₂)
    (isCode : body.code = some redirect.code)
    (exchanged : (handleAuthorizationCodeGrant d i r body).run s₂ = (.ok answer, s')) :
    (Survives d r (grantedScopes s c.id ps.scope) answer s₂ s' ∧
      ∀ last t, Refreshes d answer s' last t → ∀ j (r : Realm) (body : Body) next t',
        body.refresh_token = last.refreshToken → given body.scope = none →
        (handleRefreshTokenGrant d j r body).run t = (.ok next, t') →
          Survives d r (grantedScopes s c.id ps.scope) next t t') ↔
      Recognized (grantedScopes s c.id ps.scope) := by
  obtain ⟨issue, t, rfl, sc, tables, now, drawn, issued⟩ :=
    authorized_exchange_issues keys authorized isClient between isCode exchanged
  constructor
  · intro survives
    have same := survives.1.scope
    rw [issueTokens_scope issued] at same
    obtain ⟨some_, known⟩ := effectiveScopes_recognized issue
    refine ⟨fun none_ => ?_, fun name mem => known name ((same name).mpr mem)⟩
    obtain ⟨name, mem⟩ := List.exists_mem_of_ne_nil _ some_
    have := (same name).mp mem
    simp [none_] at this
  · intro recognized
    have names : issue.effectiveScopes = grantedScopes s c.id ps.scope := by
      refine effectiveScopes_of_parsed recognized.1 ?_
      rw [sc, parseAndValidate_storedScope recognized.2]
    have first := issueTokens_carries drawn issued
    rw [names] at first
    refine ⟨issueTokens_survives (fun name => by rw [names]) tables now issued, ?_⟩
    intro last u chain j r body next u' presented unscoped refreshed
    obtain ⟨again, v, rfl, scs, -, sameTables, sameNow, reissued⟩ :=
      refresh_issues recognized (chain.carries recognized first) presented unscoped refreshed
    exact issueTokens_survives (fun name => by rw [scs]) sameTables sameNow reissued

end Runs

section Example

def acme : Realm := { id := 1, name := "acme" }
def alice : User := { id := 2, realmId := 1, username := "alice" }

/-- The scopes `openid` and `offline_access`; the client has some of them by default. -/
def scopedStore (defaults : List ClientScopeLink) : Store where
  supply := 20
  realms := [acme]
  users := [alice]
  clients := [{ id := 3, realmId := 1, clientId := "app", clientType := .PUBLIC,
                redirectUris := ["https://app.example/cb"] }]
  signingKeys := [{ id := 7, realmId := 1, createdAt := 0 }]
  clientScopes := [{ id := 8, realmId := 1, name := "openid" },
                   { id := 9, realmId := 1, name := "offline_access" }]
  clientDefaultScopes := defaults

def appParams : AuthorizeParams where
  response_type := "code"
  client_id := "app"
  redirect_uri := "https://app.example/cb"
  scope := some "openid"
  code_challenge := some "q80"
  code_challenge_method := some "S256"

def codeBody : Body where
  grant_type := some "authorization_code"
  client_id := some "app"
  code := some 20
  redirect_uri := some "https://app.example/cb"
  code_verifier := some "abcd"

def authorizedStore (defaults : List ClientScopeLink) : Store :=
  ((authorizeWithUser .transparent acme alice appParams {}).run (scopedStore defaults)).2

def exchangedStore (defaults : List ClientScopeLink) : Store :=
  ((handleAuthorizationCodeGrant .transparent 0 acme codeBody).run (authorizedStore defaults)).2

theorem scopedStore_keys (defaults : List ClientScopeLink) : Keys (scopedStore defaults) := by
  constructor
  · intro row isRow
    cases isRow
  · intro row isRow
    cases isRow

def appRedirect : Redirect := ⟨"https://app.example/cb", 20, none⟩

/-- `openid` survives. -/
theorem openid_survives : ∃ answer, (handleAuthorizationCodeGrant .transparent 0 acme codeBody).run
        (authorizedStore [⟨3, 8⟩]) = (.ok answer, exchangedStore [⟨3, 8⟩]) ∧
      Survives .transparent acme (grantedScopes (scopedStore [⟨3, 8⟩]) 3 (some "openid")) answer
        (authorizedStore [⟨3, 8⟩]) (exchangedStore [⟨3, 8⟩]) := by
  have authorized : (authorizeWithUser .transparent acme alice appParams {}).run
      (scopedStore [⟨3, 8⟩]) = (.ok appRedirect, authorizedStore [⟨3, 8⟩]) := rfl
  have recognized : Recognized (grantedScopes (scopedStore [⟨3, 8⟩]) 3 (some "openid")) := by
    unfold Recognized
    decide
  obtain ⟨answer, exchanged⟩ : ∃ answer, (handleAuthorizationCodeGrant .transparent 0 acme
      codeBody).run (authorizedStore [⟨3, 8⟩]) = (.ok answer, exchangedStore [⟨3, 8⟩]) := ⟨_, rfl⟩
  exact ⟨answer, exchanged, ((scopes_survive_iff (scopedStore_keys _) authorized rfl (.refl _) rfl
    exchanged).mpr recognized).1⟩

/-- `offline_access` is granted and stored with the code; the answer does not have it, and no
refresh token is an offline one. -/
theorem offline_access_lost :
    (authorizeWithUser .transparent acme alice appParams {}).run (scopedStore [⟨3, 8⟩, ⟨3, 9⟩]) =
        (.ok appRedirect, authorizedStore [⟨3, 8⟩, ⟨3, 9⟩]) ∧
      "offline_access" ∈ grantedScopes (scopedStore [⟨3, 8⟩, ⟨3, 9⟩]) 3 (some "openid") ∧
      ∃ answer, (handleAuthorizationCodeGrant .transparent 0 acme codeBody).run
          (authorizedStore [⟨3, 8⟩, ⟨3, 9⟩]) = (.ok answer, exchangedStore [⟨3, 8⟩, ⟨3, 9⟩]) ∧
        answer.scope = some "openid" ∧
        (∀ row ∈ (exchangedStore [⟨3, 8⟩, ⟨3, 9⟩]).refreshTokens, row.isOffline = false) ∧
        ¬ Survives .transparent acme (grantedScopes (scopedStore [⟨3, 8⟩, ⟨3, 9⟩]) 3 (some "openid"))
          answer (authorizedStore [⟨3, 8⟩, ⟨3, 9⟩]) (exchangedStore [⟨3, 8⟩, ⟨3, 9⟩]) := by
  refine ⟨rfl, by decide, _, rfl, rfl, by decide +kernel, fun survives => ?_⟩
  have lost := (survives.scope "offline_access").mpr (by decide)
  revert lost
  decide

end Example

end Idenplane.Auth.GrantedScopes
