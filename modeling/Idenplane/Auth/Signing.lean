import Idenplane.Auth.CodeExchange
import Idenplane.Auth.Layers
import Idenplane.Auth.Subjects

/-! # What the token endpoint signs

Whatever a request to the token endpoint of a realm does, and whether or not it is
granted, the tokens it signs are signed with a key of that realm.  None of them is an
admin token, as long as no attribute, mapper or plugin makes it one: the server tells its
tokens apart by the claim `typ`, and nothing reserves that claim.
-/

namespace Idenplane.Auth

open Atomic

variable {a b c : Store} {pl : Claims} {o : Origin} {expiresIn : Int}

def tokenTables (s : Store) :=
  (layerTables s, s.signingKeys, s.realms)

/-- Nothing is signed, and nothing changes about what would be. -/
structure Quiet (s s' : Store) : Prop where
  supply : s.supply ≤ s'.supply
  tables : (tokenTables s', s'.signed) = (tokenTables s, s.signed)

section Quiet

variable {d : Deps} {i : Nat} {r : Realm} {body : Body} {s s' : Store}

theorem Quiet.refl (s : Store) : Quiet s s := ⟨le_rfl, rfl⟩

theorem Quiet.trans (ab : Quiet a b) (bc : Quiet b c) : Quiet a c :=
  ⟨ab.supply.trans bc.supply, bc.tables.trans ab.tables⟩

theorem Quiet.layers (quiet : Quiet s s') : layerTables s' = layerTables s :=
  congrArg (·.1.1) quiet.tables

structure Before (s s' : Store) : Prop where
  quiet : Quiet s s'
  sessions : s'.sessions ⊆ s.sessions

theorem Before.refl (s : Store) : Before s s := ⟨.refl s, Subset.refl _⟩

theorem Before.trans (ab : Before a b) (bc : Before b c) : Before a c :=
  ⟨ab.quiet.trans bc.quiet, Subset.trans bc.sessions ab.sessions⟩

theorem Before.of_run {α : Type} {p : Op α} (keeps : p.Keeps Before) {res : Except Failure α}
    (h : p.run s = (res, s')) : Before s s' := by
  have before := keeps.run .refl .trans s
  rw [h] at before
  exact before

theorem enforceSessionLimit_before (r : Realm) (uid : Nat) :
    (enforceSessionLimit r uid).Keeps Before := by
  unfold enforceSessionLimit
  split
  · trivial
  · refine .bind (.read .refl _) fun active => ?_
    split
    · refine .bind (.modify fun s => ⟨⟨le_rfl, rfl⟩, Subset.refl _⟩) fun _ => ?_
      exact .modify fun s => ⟨⟨le_rfl, rfl⟩, fun row isRow => (mem_filter.mp isRow).1⟩
    · trivial

theorem tryFederations_before (realmId : Nat) (uname pw : String) (feds : List UserFederation) :
    (tryFederations d realmId uname pw feds).Keeps Before := by
  have imports : ∀ fed e t, Before t (importUser realmId fed e t).2 := by
    intro fed e t
    simp only [importUser]
    split
    · exact .refl t
    · exact ⟨⟨le_succ _, rfl⟩, Subset.refl _⟩
  induction feds with
  | nil => trivial
  | cons fed rest ih =>
    simp only [tryFederations]
    split
    · refine .bind (.read .refl _) fun known => .bind ?_ fun u => ?_
      · cases known with
        | some u => trivial
        | none =>
          simp only [findOrImport]
          split
          · split
            · exact .bind (.atomic (imports fed _)) fun _ =>
                .bind (.orFail _ _) fun _ => trivial
            · trivial
          · trivial
      · cases u with
        | some u => trivial
        | none => exact ih
    · exact ih

theorem authenticateViaFederation_before (realmId : Nat) (uname pw : String) :
    (authenticateViaFederation d realmId uname pw).Keeps Before :=
  .bind (.read .refl _) fun _ => tryFederations_before _ _ _ _

theorem authenticateLinked_before (uname pw : String) (known : Option User) :
    (authenticateLinked d r uname pw known).Keeps Before := by
  cases known with
  | none => trivial
  | some u =>
    simp only [authenticateLinked]
    split
    · exact .bind (authenticateViaFederation_before _ _ _) fun _ =>
        .bind (.orFail _ _) fun _ => .read .refl _
    · trivial

theorem authenticateUnknown_before (uname pw : String) (known : Option User) :
    (authenticateUnknown d r uname pw known).Keeps Before := by
  simp only [authenticateUnknown]
  split
  · refine .bind (authenticateViaFederation_before _ _ _) fun ok => ?_
    cases ok with
    | none => trivial
    | some id => exact .read .refl _
  · trivial

theorem resetFailures_before (realmId uid : Nat) : (resetFailures realmId uid).Keeps Before :=
  .bind (.modify fun _ => ⟨⟨le_rfl, rfl⟩, Subset.refl _⟩) fun _ =>
    .bind (.atomic fun _ => ⟨⟨le_rfl, rfl⟩, Subset.refl _⟩) fun _ => .require _ _

theorem FactorWork.before (work : FactorWork s s') : Before s s' where
  quiet := ⟨(congrArg Store.supply work :).ge,
    (congrArg (fun t => (tokenTables t, t.signed)) work :)⟩
  sessions := by
    have same : s'.sessions = s.sessions := (congrArg Store.sessions work :)
    rw [same]
    exact Subset.refl _

end Quiet

/-- No attribute, mapper or plugin turns a token of the realm into an admin token. -/
def AdminFree (d : Deps) (realmId : Nat) (s : Store) : Prop :=
  Layers d realmId "typ" (· ≠ some (.str "admin")) s

/-- A token that a key of the realm signed, and that is no admin token unless a layer makes
it one. -/
structure Ordinary (d : Deps) (realmId : Nat) (s : Store) (token : Jwt) : Prop where
  key : ∃ key ∈ s.signingKeys, key.realmId = realmId ∧ token.key = key.id
  typ : AdminFree d realmId s → token.payload "typ" ≠ some (.str "admin")

/-- A token that a key of the realm signed, and that is no admin token. -/
structure Fixed (realmId : Nat) (s : Store) (token : Jwt) : Prop where
  key : ∃ key ∈ s.signingKeys, key.realmId = realmId ∧ token.key = key.id
  typ : token.payload "typ" ≠ some (.str "admin")

/-- A kind of token that depends on the tables tokens are built from, and on no other. -/
class TokenKind (kind : Store → Jwt → Prop) : Prop where
  same : ∀ {s s' token}, tokenTables s' = tokenTables s → kind s token → kind s' token

/-- Only tokens of this kind are signed, and the tables that decide about tokens stay. -/
structure Signs (kind : Store → Jwt → Prop) (s s' : Store) : Prop where
  supply : s.supply ≤ s'.supply
  tables : tokenTables s' = tokenTables s
  signed : ∀ token ∈ s'.signed, token ∈ s.signed ∨ kind s token

section Kinds

variable {d : Deps} {realmId : Nat} {kind : Store → Jwt → Prop} {s s' : Store}

theorem tokenTables_eq (same : tokenTables s' = tokenTables s) :
    layerTables s' = layerTables s ∧ s'.signingKeys = s.signingKeys ∧ s'.realms = s.realms :=
  ⟨congrArg (·.1) same, congrArg (·.2.1) same, congrArg (·.2.2) same⟩

instance : TokenKind (Ordinary d realmId) where
  same := by
    intro s s' token same ordinary
    obtain ⟨layers, keys, -⟩ := tokenTables_eq same
    constructor
    · rw [keys]
      exact ordinary.key
    · exact fun free => ordinary.typ (free.same layers.symm)

instance : TokenKind (Fixed realmId) where
  same := by
    intro s s' token same fixed
    constructor
    · rw [(tokenTables_eq same).2.1]
      exact fixed.key
    · exact fixed.typ

theorem Quiet.signs (quiet : Quiet s s') : Signs kind s s' where
  supply := quiet.supply
  tables := congrArg Prod.fst quiet.tables
  signed := by
    intro tok isSigned
    have same : s'.signed = s.signed := congrArg Prod.snd quiet.tables
    exact .inl (same ▸ isSigned)

theorem Signs.refl (s : Store) : Signs kind s s := (Quiet.refl s).signs

theorem Signs.trans [TokenKind kind] (ab : Signs kind a b) (bc : Signs kind b c) :
    Signs kind a c where
  supply := ab.supply.trans bc.supply
  tables := bc.tables.trans ab.tables
  signed := by
    intro tok isSigned
    rcases bc.signed tok isSigned with older | isKind
    · exact ab.signed tok older
    · exact .inr (TokenKind.same ab.tables.symm isKind)

theorem Signs.after [TokenKind kind] {α β : Type} {p : Op α} {f : α → Op β}
    (first : p.Keeps Quiet) (rest : ∀ a t, (f a).Moves (Signs kind) t) (s : Store) :
    (p >>= f).Moves (Signs kind) s :=
  .bind .trans (first.run .refl .trans s).signs fun a t _ => rest a t

theorem Signs.reads [TokenKind kind] {α β : Type} {p : Op α} {f : α → Op β}
    (first : p.Keeps Eq) (rest : ∀ a t, (f a).Moves (Signs kind) t) (s : Store) :
    (p >>= f).Moves (Signs kind) s :=
  .after (first.mono fun _ _ same => same ▸ .refl _) rest s

theorem signJwt_signs {key : Nat} (isKind : kind s (stamp pl key o expiresIn s)) :
    (signJwt pl key o expiresIn).Moves (Signs kind) s where
  supply := le_succ _
  tables := rfl
  signed := by
    intro tok isSigned
    rcases mem_cons.mp isSigned with rfl | older
    · exact .inr isKind
    · exact .inl older

end Kinds

section Signing

variable {d : Deps} {i : Nat} {r : Realm} {realmId : Nat} {body : Body} {s s' : Store}
  {kind : Store → Jwt → Prop}

variable {key : RealmSigningKey}

theorem getActiveSigningKey_mem (hit : getActiveSigningKey s realmId = some key) :
    key ∈ s.signingKeys ∧ key.realmId = realmId := by
  let keys := s.signingKeys.filter fun key => key.realmId = realmId && key.active
  have mem : ∀ best, getActiveSigningKey s realmId = some best → best ∈ keys := by
    apply List.foldlRecOn (motive := fun newest : Option RealmSigningKey =>
      ∀ best, newest = some best → best ∈ keys)
    · intro best no
      cases no
    · intro newest holds first isFirst best chosen
      cases newest with
      | none =>
        cases chosen
        exact isFirst
      | some latest =>
        dsimp only at chosen
        split at chosen
        · cases chosen
          exact isFirst
        · exact holds best chosen
  have isKey := mem key hit
  simp only [keys, mem_filter, and_eq_true, decide_eq_true_eq] at isKey
  exact ⟨isKey.1, isKey.2.1⟩

theorem Ordinary.stamp (hit : getActiveSigningKey s realmId = some key)
    (typ : AdminFree d realmId s → pl "typ" ≠ some (.str "admin")) :
    Ordinary d realmId s (stamp pl key.id o expiresIn s) := by
  obtain ⟨isKey, inRealm⟩ := getActiveSigningKey_mem hit
  refine ⟨⟨key, isKey, inRealm, rfl⟩, ?_⟩
  exact typ

theorem Fixed.stamp
    (hit : getActiveSigningKey s realmId = some key) (typ : pl "typ" ≠ some (.str "admin")) :
    Fixed realmId s (stamp pl key.id o expiresIn s) := by
  obtain ⟨isKey, inRealm⟩ := getActiveSigningKey_mem hit
  refine ⟨⟨key, isKey, inRealm, rfl⟩, ?_⟩
  exact typ

/-- The kind covers every token of the realm whose claims the server fixes and that is neither an
admin token nor a broker state. -/
def CoversFixed (realmId : Nat) (kind : Store → Jwt → Prop) : Prop :=
  ∀ {s : Store} {key : RealmSigningKey} {payload : Claims} {origin : Origin} {expiresIn : Int},
    getActiveSigningKey s realmId = some key → payload "typ" ≠ some (.str "admin") →
    payload "alias" = none → kind s (stamp payload key.id origin expiresIn s)

/-- The kind covers whatever the token endpoint of the realm signs. -/
structure Covers (d : Deps) (realmId : Nat) (kind : Store → Jwt → Prop) : Prop where
  access : ∀ {s : Store} {key : RealmSigningKey} {issue : Issue} {payload : Claims}
    {origin : Origin} {expiresIn : Int}, issue.realm.id = realmId →
    getActiveSigningKey s realmId = some key → issue.accessTokenPayload d s = some payload →
    kind s (stamp (enrichToken d payload issue.user issue.realm.name) key.id origin expiresIn s)
  id : ∀ {s : Store} {key : RealmSigningKey} {issue : Issue} {accessToken : Jwt}
    {origin : Origin} {expiresIn : Int}, issue.realm.id = realmId →
    getActiveSigningKey s realmId = some key →
    kind s (stamp (issue.idTokenPayload d accessToken s) key.id origin expiresIn s)
  fixed : CoversFixed realmId kind

theorem context_typ (issue : Issue) : issue.context "typ" = none := by
  unfold Issue.context Claims.spreadIf
  split <;> simp [Claims.spread]

variable {issue : Issue}

theorem accessToken_typ (isPayload : issue.accessTokenPayload d s = some pl)
    (free : AdminFree d issue.realm.id s) :
    enrichToken d pl issue.user issue.realm.name "typ" ≠ some (.str "admin") := by
  have fixed : issue.fixedAccess d "typ" = some (.str "Bearer") := by
    simp [Issue.fixedAccess, context_typ]
  refine accessToken_good free (by decide) ?_ isPayload
  rw [fixed]
  simp

theorem idToken_typ {tok : Jwt} (free : AdminFree d issue.realm.id s) :
    issue.idTokenPayload d tok s "typ" ≠ some (.str "admin") := by
  have fixed : issue.fixedId d tok s.now "typ" = some (.str "ID") := by
    cases code : issue.code <;> simp [Issue.fixedId, code, context_typ]
  refine idToken_good free (by decide) (by decide) ?_
  rw [fixed]
  simp

theorem getActiveSigningKey_same (same : tokenTables s' = tokenTables s) (realmId : Nat) :
    getActiveSigningKey s' realmId = getActiveSigningKey s realmId := by
  simp only [getActiveSigningKey, (tokenTables_eq same).2.1]

theorem Ordinary.covers : Covers d realmId (Ordinary d realmId) where
  access := by
    rintro s key issue pl o expiresIn rfl hit isPayload
    exact .stamp hit (accessToken_typ isPayload)
  id := by
    rintro s key issue tok o expiresIn rfl hit
    exact .stamp hit idToken_typ
  fixed := fun hit typ _ => .stamp hit fun _ => typ

theorem Fixed.covers : CoversFixed realmId (Fixed realmId) := fun hit typ _ => .stamp hit typ

theorem buildIdToken_signs [TokenKind kind] (covers : Covers d realmId kind)
    (isRealm : issue.realm.id = realmId) {tok : Jwt}
    (hit : getActiveSigningKey s realmId = some key) :
    (buildIdToken d issue tok key.id).Moves (Signs kind) s := by
  unfold buildIdToken
  split
  · exact signJwt_signs (covers.id isRealm hit)
  · exact .refl s

theorem createRefreshToken_quiet (issue : Issue) (s : Store) :
    Quiet s (createRefreshToken issue s).2 := by
  unfold createRefreshToken
  split
  · exact ⟨le_add_right _ _, rfl⟩
  · exact .refl s

theorem issueTokens_signs [TokenKind kind] (covers : Covers d realmId kind)
    (isRealm : issue.realm.id = realmId) (s : Store) :
    (issueTokens d issue).Moves (Signs kind) s := by
  refine .read_bind (.orFail_bind (.refl s) fun key hit => ?_)
  refine .read_bind (.orFail_bind (.refl s) fun pl isPayload => ?_)
  rw [isRealm] at hit
  refine .bind .trans (signJwt_signs (covers.access isRealm hit isPayload)) fun tok t₁ signed => ?_
  have tables₁ : tokenTables t₁ = tokenTables s := by
    cases signed
    rfl
  have stored := createRefreshToken_quiet issue t₁
  refine .bind .trans stored.signs fun new t₂ ran => ?_
  have tables₂ : tokenTables t₂ = tokenTables t₁ := by
    cases ran
    exact congrArg Prod.fst stored.tables
  refine .orFail_bind (.refl t₂) fun raw _ => ?_
  rw [← getActiveSigningKey_same (tables₂.trans tables₁)] at hit
  exact .bind .trans (buildIdToken_signs covers isRealm hit) fun _ t _ => .refl t

open Signs

theorem createSession_quiet (r : Realm) (uid : Nat) (acr : Option String)
    (amr : List String) (s : Store) : Quiet s (createSession r uid acr amr s).2 := by
  unfold createSession
  split
  · exact ⟨le_succ _, rfl⟩
  · exact .refl s

theorem startSession_signs [TokenKind kind] (covers : Covers d realmId kind)
    {acr : Option String} {amr : List String}
    (isRealm : issue.realm.id = realmId) :
    ∀ s, (startSession d acr amr issue).Moves (Signs kind) s :=
  after ((enforceSessionLimit_before _ _).mono fun _ _ pre => pre.quiet) fun _ =>
    after (.atomic (createSession_quiet _ _ _ _)) fun _ => after (.orFail _ _) fun _ =>
      after (.read .refl _) fun _ => issueTokens_signs covers isRealm

theorem recordFailure_quiet (r : Realm) (uid : Nat) : (recordFailure r uid).Keeps Quiet := by
  have recorded : ∀ t, Quiet t (failureRecorded r uid t) := by
    intro t
    simp only [failureRecorded]
    split
    · exact ⟨le_rfl, rfl⟩
    · split <;> exact ⟨le_rfl, rfl⟩
  unfold recordFailure
  split
  · exact .modify recorded
  · trivial

theorem demandSecondFactor_quiet (r : Realm) (u : User) (cid : Option String)
    (need enabled : Bool) :
    (demandSecondFactor r u cid need enabled).Keeps Quiet := by
  unfold demandSecondFactor
  split
  · refine .bind ?_ fun _ => .bind (.read .refl _) fun _ => trivial
    exact .bind (.read .refl _) fun _ => .bind (.require _ _) fun _ =>
      .atomic fun _ => ⟨le_add_right _ _, rfl⟩
  · split <;> trivial

section

variable (covers : Covers d r.id kind)

include covers

theorem handlePasswordGrant_signs [TokenKind kind] :
    ∀ s, (handlePasswordGrant d r body).Moves (Signs kind) s := by
  have wrong : ∀ u valid, (refuseWrongPassword r u valid).Keeps Quiet := by
    intro u valid
    cases valid with
    | true => trivial
    | false => exact .bind (recordFailure_quiet r u.id) fun _ => trivial
  refine reads (validateClient_reads d r _ _ _) fun _ =>
    after (.require _ _) fun _ => after (.read .refl _) fun _ =>
    after ((authenticateLinked_before _ _ _).mono fun _ _ pre => pre.quiet) fun _ =>
    after ((authenticateUnknown_before _ _ _).mono fun _ _ pre => pre.quiet) fun _ =>
    after (.orFail _ _) fun u => after (.read .refl _) fun _ =>
    after (.require _ _) fun _ => after (.orFail _ _) fun valid =>
    after (wrong u valid) fun _ =>
    after ((resetFailures_before _ _).mono fun _ _ pre => pre.quiet) fun _ =>
    after (.read .refl _) fun _ => after (.require _ _) fun _ =>
    after (.read .refl _) fun _ => after (.read .refl _) fun _ =>
    after (demandSecondFactor_quiet _ _ _ _ _) fun _ => startSession_signs covers rfl

theorem handleMfaOtpGrant_signs [TokenKind kind] :
    ∀ s, (handleMfaOtpGrant d i r body).Moves (Signs kind) s := by
  have validate : ∀ tok, (validateMfaChallengeWithAttemptCheck i tok).Keeps Quiet := by
    intro tok
    refine .bind (.atomic fun _ => ⟨le_rfl, rfl⟩) fun count => ?_
    split
    · exact .bind (.atomic fun _ => ⟨le_rfl, rfl⟩) fun _ => trivial
    · exact .read .refl _
  exact reads (validateClient_reads d r _ _ _) fun _ =>
    after (.orFail _ _) fun _ => after (.orFail _ _) fun _ =>
    after (validate _) fun _ => after (.orFail _ _) fun _ =>
    after (.require _ _) fun _ => after (.require _ _) fun _ =>
    after ((verifySecondFactor_works _ _ _).mono fun _ _ work => work.before.quiet) fun _ =>
    after (.orFail _ _) fun _ =>
    after (.bind (.atomic fun _ => ⟨le_rfl, rfl⟩) fun _ => trivial) fun _ =>
    after (.require _ _) fun _ => after (.read .refl _) fun _ =>
    after (.orFail _ _) fun _ => startSession_signs covers rfl

theorem handleRefreshTokenGrant_signs [TokenKind kind] :
    ∀ s, (handleRefreshTokenGrant d i r body).Moves (Signs kind) s := by
  have accept : ∀ now hit, (acceptRefreshToken i now hit).Keeps Quiet := by
    intro now hit
    cases hit with
    | none => trivial
    | some row =>
      simp only [acceptRefreshToken]
      split
      · exact .bind (.modify fun _ => ⟨le_rfl, rfl⟩) fun _ => trivial
      · split <;> trivial
  have rotate : ∀ tok t, Quiet t (rotateToken i tok t).2 := by
    intro tok t
    unfold rotateToken
    split
    · exact ⟨le_rfl, rfl⟩
    · exact .refl t
  exact after (.orFail _ _) fun _ => reads (validateClient_reads d r _ _ _) fun _ =>
    after (.read .refl _) fun _ => after (.read .refl _) fun _ =>
    after (accept _ _) fun _ => after (.require _ _) fun _ =>
    after (.require _ _) fun _ => after (.atomic (rotate _)) fun _ =>
    after (.require _ _) fun _ => issueTokens_signs covers rfl

theorem handleAuthorizationCodeGrant_signs [TokenKind kind] :
    ∀ s, (handleAuthorizationCodeGrant d i r body).Moves (Signs kind) s := by
  have claim : ∀ c code t, Quiet t (claimCode i c code t).2 := by
    intro c code t
    unfold claimCode
    split
    · exact ⟨le_rfl, rfl⟩
    · exact .refl t
  exact after (.orFail _ _) fun _ => reads (validateClient_reads d r _ _ _) fun _ =>
    after (.atomic (claim _ _)) fun _ => after (.orFail _ _) fun _ =>
    after (.require _ _) fun _ => after (.require _ _) fun _ =>
    after (.require _ _) fun _ => reads (CodeExchange.checkCodeVerifier_reads _ _) fun _ =>
    after (.read .refl _) fun _ => after (.orFail _ _) fun _ =>
    after (.read .refl _) fun _ => after (.require _ _) fun _ => startSession_signs covers rfl

theorem handleDeviceCodeGrant_signs [TokenKind kind] :
    ∀ s, (handleDeviceCodeGrant d r body).Moves (Signs kind) s := by
  have early : ∀ device isEarly, (refuseEarlyPoll device isEarly).Keeps Quiet := by
    intro device isEarly
    cases isEarly with
    | false => trivial
    | true =>
      exact .bind (.atomic fun _ => ⟨le_rfl, rfl⟩) fun _ => .bind (.require _ _) fun _ => trivial
  exact after (.orFail _ _) fun _ => reads (validateClient_reads d r _ _ _) fun _ =>
    after (.read .refl _) fun _ => after (.orFail _ _) fun device =>
    after (.read .refl _) fun _ => after (.require _ _) fun _ =>
    after (.require _ _) fun _ => after (.require _ _) fun _ =>
    after (.orFail _ _) fun _ => after (.read .refl _) fun _ =>
    after (early device _) fun _ => after (.atomic fun _ => ⟨le_rfl, rfl⟩) fun _ =>
    after (.require _ _) fun _ => after (.read .refl _) fun _ =>
    after (.orFail _ _) fun _ => after (.read .refl _) fun _ =>
    after (.require _ _) fun _ => after (.read .refl _) fun _ =>
    after (.require _ _) fun _ => after (.atomic fun _ => ⟨le_rfl, rfl⟩) fun _ =>
    after (.require _ _) fun _ => startSession_signs covers rfl

theorem handleClientCredentialsGrant_signs [TokenKind kind] :
    ∀ s, (handleClientCredentialsGrant d r body).Moves (Signs kind) s := by
  have cap : ∀ uid, (capSessions uid).Keeps Quiet := by
    intro uid
    refine .bind (.read .refl _) fun old => ?_
    split
    · trivial
    · exact .bind (.modify fun _ => ⟨le_rfl, rfl⟩) fun _ => .modify fun _ => ⟨le_rfl, rfl⟩
  refine reads (validateClient_reads d r _ _ _) fun c =>
    after (.read .refl _) fun account => ?_
  cases account with
  | some u =>
    exact after (.atomic (createSession_quiet _ _ _ _)) fun _ =>
      after (.orFail _ _) fun _ => after (cap _) fun _ =>
      after (.read .refl _) fun _ => issueTokens_signs covers rfl
  | none =>
    intro s
    refine .read_bind (.orFail_bind (.refl s) fun key hit => ?_)
    exact .bind .trans (signJwt_signs (covers.fixed hit (by simp) (by simp))) fun _ t _ => .refl t

end

theorem handleTokenRequest_signs [TokenKind kind] (d : Deps) (i : Nat) (r : Realm)
    (body : Body) (covers : Covers d r.id kind) :
    ∀ s, (handleTokenRequest d i r body).Moves (Signs kind) s := by
  refine after (.orFail _ _) fun _ => after (.orFail _ _) fun grant => ?_
  cases grant with
  | password => exact handlePasswordGrant_signs covers
  | client_credentials => exact handleClientCredentialsGrant_signs covers
  | refresh_token => exact handleRefreshTokenGrant_signs covers
  | authorization_code => exact handleAuthorizationCodeGrant_signs covers
  | mfa_otp => exact handleMfaOtpGrant_signs covers
  | device_code => exact handleDeviceCodeGrant_signs covers

end Signing

end Idenplane.Auth
