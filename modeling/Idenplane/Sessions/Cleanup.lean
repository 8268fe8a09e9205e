import Idenplane.Auth.Outcomes
import Idenplane.Auth.Refresh
import Idenplane.Lib.Table

/-! # Clean-up of sessions

`SessionsCleanupService`.  The expiry of a session is fixed when it is created, and the expiry of
a refresh token whenever one is issued.  A session that is deleted takes its tokens with it.
-/

namespace Idenplane.Sessions

open Atomic Auth
open Auth.Refresh (Keyed Drawn Later later_revokeIf)

def expiredSessions (now : Int) (s : Store) : List Nat :=
  (s.sessions.filter (·.expiresAt < now)).map (·.id)

def oauthSessionsDeleted (now : Int) (s : Store) : Store :=
  deleteSessions (expiredSessions now s) s

def loginSessionsDeleted (now : Int) (s : Store) : Store :=
  { s with loginSessions := s.loginSessions.filter fun row => !(row.expiresAt < now) }

def refreshTokensDeleted (now : Int) (s : Store) : Store :=
  { s with refreshTokens := s.refreshTokens.filter fun row => !(row.expiresAt < now) }

def authorizationCodesDeleted (now : Int) (s : Store) : Store :=
  { s with
    authorizationCodes := s.authorizationCodes.filter fun row => !(row.expiresAt < now) }

def impersonationSessionsDeleted (now : Int) (s : Store) : Store :=
  { s with
    impersonationSessions := s.impersonationSessions.filter fun row => !(row.expiresAt < now) }

/-- The sessions of the forward-auth proxy, which also go, are in none of these tables. -/
def cleanupExpiredSessions : Op Unit := do
  let now ← read Store.now
  modify (oauthSessionsDeleted now)
  modify (loginSessionsDeleted now)
  modify (refreshTokensDeleted now)
  modify (authorizationCodesDeleted now)
  modify (impersonationSessionsDeleted now)

inductive Job where
  | refresh (realm : Realm) (body : Body)
  | cleanup

def Job.call (d : Deps) (req : Nat) : Job → Op Unit
  | .refresh realm body => do
    let _ ← handleRefreshTokenGrant d req realm body
    pure ()
  | .cleanup => cleanupExpiredSessions

def pool (d : Deps) (jobs : Nat → Job) (s : Store) : Pool Nat Store Failure Unit :=
  ⟨s, fun i => (jobs i).call d i⟩

structure Sound (s : Store) : Prop where
  keyed : Keyed s.refreshTokens
  drawn : ∀ row ∈ s.refreshTokens, Drawn s.supply row
  sessions : ∀ a ∈ s.sessions, ∀ b ∈ s.sessions, a.id = b.id → a = b

/-- The token is in its table, not revoked, with its session and its user. -/
structure Stored (token : RefreshToken) (s : Store) : Prop where
  isRow : token ∈ s.refreshTokens
  unrevoked : token.revoked = false
  session : ∃ session ∈ s.sessions, session.id = token.sessionId ∧
    (s.users.find? (·.id = session.userId)).isSome = true

/-- The rest of the server, while it leaves the token alone: time passes, sessions come and go. -/
structure Env (token : RefreshToken) (s s' : Store) : Prop where
  now : s.now ≤ s'.now
  sound : Sound s'
  spares : Stored token s → Stored token s'

def Outlives (token : RefreshToken) (s : Store) : Prop :=
  token ∈ s.refreshTokens ∧ s.now ≤ token.expiresAt ∧
    ∃ session ∈ s.sessions, session.id = token.sessionId ∧ session.expiresAt < s.now

/-- No step rotates or revokes the token, and sessions are not deleted while it outlives its
own. -/
structure Spares (token : RefreshToken) (s s' : Store) : Prop where
  unrevoked : ∀ row ∈ s'.refreshTokens, row.id = token.id → row.revoked = false
  timely : (∃ session ∈ s.sessions, session ∉ s'.sessions) → ¬ Outlives token s

variable {token : RefreshToken} {s s' : Store} {now : Int}

structure Rotates (s s' : Store) : Prop where
  now : s'.now = s.now
  sessions : s'.sessions = s.sessions
  users : s'.users = s.users
  sound : Sound s → Sound s'
  rows : ∀ row ∈ s.refreshTokens,
    row ∈ s'.refreshTokens ∨ { row with revoked := true } ∈ s'.refreshTokens

theorem Rotates.refl (s : Store) : Rotates s s :=
  ⟨rfl, rfl, rfl, id, fun _ isRow => .inl isRow⟩

theorem rotates_revoke (test : RefreshToken → Prop) [DecidablePred test]
    (log : List RefreshEvent) : Rotates s { s with
      refreshTokens := s.refreshTokens.map fun row =>
        if test row then { row with revoked := true } else row
      refreshLog := log } where
  now := rfl
  sessions := rfl
  users := rfl
  sound sound := by
    constructor
    · exact sound.keyed.map (later_revokeIf test)
    · intro row' isRow
      obtain ⟨row, isOld, rfl⟩ := mem_map.mp isRow
      obtain ⟨id, hash⟩ := sound.drawn row isOld
      constructor
      · rw [(later_revokeIf test row).id]
        exact id
      · rw [(later_revokeIf test row).tokenHash]
        exact hash
    · exact sound.sessions
  rows row isRow := by
    have isNew : (if test row then { row with revoked := true } else row) ∈
        s.refreshTokens.map fun row => if test row then { row with revoked := true } else row :=
      mem_map_of_mem isRow
    by_cases chosen : test row
    · rw [if_pos chosen] at isNew
      exact .inr isNew
    · rw [if_neg chosen] at isNew
      exact .inl isNew

theorem rotateToken_rotates (req : Nat) (row : RefreshToken) :
    Rotates s (rotateToken req row s).2 := by
  unfold rotateToken
  split
  case isTrue => exact rotates_revoke (fun other => other.id = row.id) _
  case isFalse => exact .refl s

theorem createRefreshToken_rotates (issue : Issue) : Rotates s (createRefreshToken issue s).2 := by
  unfold createRefreshToken
  split
  case isFalse => exact .refl s
  case isTrue =>
    constructor
    · rfl
    · rfl
    · rfl
    · intro sound
      have unlike (row : RefreshToken) (isRow : row ∈ s.refreshTokens) :
          ¬ (row.id = s.supply + 1 ∨ row.tokenHash = sha256 s.supply) := by
        obtain ⟨id, hash⟩ := sound.drawn row isRow
        rintro (same | same)
        · omega
        · rw [same, sha256] at hash
          exact absurd hash (Nat.lt_irrefl _)
      constructor
      · intro a isA b isB same
        rcases mem_cons.mp isA with rfl | oldA
        · rcases mem_cons.mp isB with rfl | oldB
          · rfl
          · exact absurd (same.imp Eq.symm Eq.symm) (unlike b oldB)
        · rcases mem_cons.mp isB with rfl | oldB
          · exact absurd same (unlike a oldA)
          · exact sound.keyed a oldA b oldB same
      · intro row isRow
        rcases mem_cons.mp isRow with rfl | old
        · constructor
          · exact lt_succ_self _
          · exact Nat.lt_add_of_pos_right (by decide)
        · obtain ⟨id, hash⟩ := sound.drawn row old
          exact ⟨Nat.lt_add_right 2 id, Nat.lt_add_right 2 hash⟩
      · exact sound.sessions
    · exact fun row isRow => .inl (.tail _ isRow)

theorem signJwt_rotates {pl : Claims} {key : Nat} {o : Origin} {expiresIn : Int} :
    (signJwt pl key o expiresIn).Keeps Rotates := by
  apply Keeps.atomic
  intro s
  constructor
  · rfl
  · rfl
  · rfl
  · intro sound
    constructor
    · exact sound.keyed
    · intro row isRow
      obtain ⟨id, hash⟩ := sound.drawn row isRow
      exact ⟨lt_succ_of_lt id, lt_succ_of_lt hash⟩
    · exact sound.sessions
  · exact fun row isRow => .inl isRow

theorem issueTokens_rotates (d : Deps) (issue : Issue) : (issueTokens d issue).Keeps Rotates := by
  apply Keeps.bind (.read .refl _)
  intro signingKey
  apply Keeps.bind (.orFail _ _)
  intro key
  apply Keeps.bind (.read .refl _)
  intro planned
  apply Keeps.bind (.orFail _ _)
  intro pl
  apply Keeps.bind signJwt_rotates
  intro tok
  apply Keeps.bind (.atomic fun s => createRefreshToken_rotates issue)
  intro new
  apply Keeps.bind (.orFail _ _)
  intro refreshToken
  apply Keeps.bind
  · unfold buildIdToken
    split
    case isTrue =>
      apply Keeps.bind (.read .refl _)
      intro pl
      exact .bind signJwt_rotates fun _ => trivial
    case isFalse => trivial
  · exact fun _ => trivial

theorem handleRefreshTokenGrant_rotates (d : Deps) (req : Nat) (r : Realm)
    (body : Body) : (handleRefreshTokenGrant d req r body).Keeps Rotates := by
  apply Keeps.bind (.orFail _ _)
  intro presented
  apply Keeps.bind
  · apply (validateClient_reads d r _ _ _).mono
    rintro s _ rfl
    exact .refl s
  intro c
  apply Keeps.bind (.read .refl _)
  intro hit
  apply Keeps.bind (.read .refl _)
  intro now
  apply Keeps.bind
  · cases hit with
    | none => trivial
    | some stored =>
      simp only [acceptRefreshToken]
      split
      case isTrue =>
        apply Keeps.bind
        · apply Keeps.modify
          intro s
          exact rotates_revoke (fun row => row.sessionId = stored.token.sessionId) _
        · exact fun _ => trivial
      case isFalse => split <;> trivial
  intro stored
  apply Keeps.bind (.require _ _)
  intro _
  apply Keeps.bind (.require _ _)
  intro _
  apply Keeps.bind (.atomic fun s => rotateToken_rotates req stored.token)
  intro rotated
  apply Keeps.bind (.require _ _)
  intro _
  exact issueTokens_rotates d _

/-- Time does not go back, and the token stays until it expires. -/
structure Rely (token : RefreshToken) (s s' : Store) : Prop where
  now : s.now ≤ s'.now
  keeps : Stored token s → s'.now ≤ token.expiresAt → Stored token s'

theorem Rely.refl (s : Store) : Rely token s s := ⟨le_rfl, fun row _ => row⟩

theorem Rely.trans {a b c : Store} (ab : Rely token a b) (bc : Rely token b c) :
    Rely token a c where
  now := ab.now.trans bc.now
  keeps row early := bc.keeps (ab.keeps row (bc.now.trans early)) early

def protocol (token : RefreshToken) : Protocol Nat Store where
  inv := Sound
  rely _ := Rely token
  refl _ := Rely.refl
  trans _ _ _ _ := Rely.trans

theorem Rotates.rely (rotates : Rotates s s') (spares : Spares token s s') : Rely token s s' where
  now := rotates.now.ge
  keeps stored _ := by
    constructor
    · rcases rotates.rows token stored.isRow with kept | revoked
      · exact kept
      · exact absurd (spares.unrevoked _ revoked rfl) (by simp)
    · exact stored.unrevoked
    · rw [rotates.sessions, rotates.users]
      exact stored.session

theorem oauthSessionsDeleted_rely (sound : Sound s) (began : now ≤ s.now)
    (spares : Spares token s (oauthSessionsDeleted now s)) :
    Sound (oauthSessionsDeleted now s) ∧ Rely token s (oauthSessionsDeleted now s) := by
  constructor
  · constructor
    · exact fun a isA b isB => sound.keyed a (mem_filter.mp isA).1 b (mem_filter.mp isB).1
    · exact fun row isRow => sound.drawn row (mem_filter.mp isRow).1
    · exact fun a isA b isB =>
        sound.sessions a (mem_filter.mp isA).1 b (mem_filter.mp isB).1
  · refine ⟨le_rfl, fun stored early => ?_⟩
    have listed : token.sessionId ∉ expiredSessions now s := by
      intro expired
      obtain ⟨sess, isExpired, isOwn⟩ := mem_map.mp expired
      obtain ⟨isSession, late⟩ := mem_filter.mp isExpired
      apply spares.timely
      · refine ⟨sess, isSession, fun kept => ?_⟩
        have unlisted := (mem_filter.mp kept).2
        rw [isOwn] at unlisted
        simp [expired] at unlisted
      · exact ⟨stored.isRow, early, sess, isSession, isOwn,
          lt_of_lt_of_le (of_decide_eq_true late) began⟩
    have kept : (!(expiredSessions now s).contains token.sessionId) = true := by simp [listed]
    obtain ⟨sess, isSession, isOwn, u⟩ := stored.session
    refine ⟨mem_filter.mpr ⟨stored.isRow, kept⟩, stored.unrevoked, sess,
      mem_filter.mpr ⟨isSession, ?_⟩, isOwn, u⟩
    rw [isOwn]
    exact kept

theorem elsewhere (update : Store → Store)
    (same : ∀ s, (update s).refreshTokens = s.refreshTokens ∧ (update s).sessions = s.sessions ∧
      (update s).users = s.users ∧ (update s).now = s.now ∧ (update s).supply = s.supply)
    (sound : Sound s) : Sound (update s) ∧ Rely token s (update s) := by
  obtain ⟨rows, sessions, us, clock, supply⟩ := same s
  constructor
  · constructor
    · rw [rows]
      exact sound.keyed
    · rw [rows, supply]
      exact sound.drawn
    · rw [sessions]
      exact sound.sessions
  · refine ⟨clock.ge, fun row _ => ⟨?_, row.unrevoked, ?_⟩⟩
    · rw [rows]
      exact row.isRow
    · rw [sessions, us]
      exact row.session

theorem refreshTokensDeleted_rely (sound : Sound s) (began : now ≤ s.now) :
    Sound (refreshTokensDeleted now s) ∧ Rely token s (refreshTokensDeleted now s) := by
  constructor
  · exact ⟨fun a isA b isB => sound.keyed a (mem_filter.mp isA).1 b (mem_filter.mp isB).1,
      fun row isRow => sound.drawn row (mem_filter.mp isRow).1, sound.sessions⟩
  · refine ⟨le_rfl, fun stored early => ⟨?_, stored.unrevoked, stored.session⟩⟩
    have cur : ¬ token.expiresAt < now := by
      have early : s.now ≤ token.expiresAt := early
      omega
    exact mem_filter.mpr ⟨stored.isRow, by simpa using cur⟩

theorem sweep_bind {goal : Except Failure Unit → Store → Prop} {i : Nat} {update : Store → Store}
    {rest : Unit → Op Unit} (began : now ≤ s.now)
    (sweeps : ∀ t, Sound t → now ≤ t.now → Spares token t (update t) →
      Sound (update t) ∧ Rely token t (update t))
    (next : ∀ t, now ≤ t.now → (rest ()).Sat (protocol token) (Spares token) i goal t) :
    (modify update >>= rest).Sat (protocol token) (Spares token) i goal s := by
  apply Sat.modify_bind
  intro t moved sound spares
  have later : now ≤ t.now := began.trans moved.now
  obtain ⟨sound', relies⟩ := sweeps t sound later spares
  exact ⟨sound', fun _ _ => relies, next _ (later.trans relies.now)⟩

theorem cleanup_sat (i : Nat) (s : Store) : cleanupExpiredSessions.Sat (protocol token)
    (Spares token) i (fun _ _ => True) s := by
  apply Sat.read_bind
  intro t _ _
  apply sweep_bind le_rfl
  · exact fun u sound began spares => oauthSessionsDeleted_rely sound began spares
  intro t₁ began₁
  apply sweep_bind began₁
  · exact fun u sound _ _ => elsewhere _ (fun _ => ⟨rfl, rfl, rfl, rfl, rfl⟩) sound
  intro t₂ began₂
  apply sweep_bind began₂
  · exact fun u sound began _ => refreshTokensDeleted_rely sound began
  intro t₃ began₃
  apply sweep_bind began₃
  · exact fun u sound _ _ => elsewhere _ (fun _ => ⟨rfl, rfl, rfl, rfl, rfl⟩) sound
  intro t₄ began₄ u _ sound _
  obtain ⟨sound', relies⟩ := elsewhere (impersonationSessionsDeleted t.now)
    (fun _ => ⟨rfl, rfl, rfl, rfl, rfl⟩) sound
  exact ⟨sound', fun _ _ => relies, fun _ _ _ => trivial⟩

theorem job_sat (d : Deps) (i : Nat) (job : Job) (s : Store) :
    (job.call d i).Sat (protocol token) (Spares token) i (fun _ _ => True) s := by
  cases job with
  | refresh r body =>
    have rotates : (Job.call d i (.refresh r body)).Keeps Rotates :=
      .bind (handleRefreshTokenGrant_rotates d i r body) fun _ => trivial
    apply Prog.Sat.ofAllowed rotates
    · exact fun t t' sound kept spares => ⟨kept.sound sound, fun _ => kept.rely spares⟩
    · exact fun _ _ _ _ => trivial
  | cleanup => exact cleanup_sat i s

/-- The request presents the token, as the client that it was issued to. -/
structure Presents (d : Deps) (realm : Realm) (body : Body) (token : RefreshToken)
    (s : Store) : Prop where
  secret : ∃ raw, body.refresh_token = some raw ∧ sha256 raw = token.tokenHash
  client : ∃ client, Accepts d realm body "refresh_token" s client
  owner : token.clientId = body.client_id

def Accepted (d : Deps) (token : RefreshToken) (s : Store) : Prop :=
  ∀ req realm body, Presents d realm body token s → ∃ stored : StoredToken, stored.token = token ∧
      (handleRefreshTokenGrant d req realm body).run s =
        (issueTokens d (refreshIssue req realm body stored)).run (rotateToken req token s).2

theorem validateClient_run {d : Deps} {r : Realm} {body : Body} {grantType : String}
    {c : Client} (accepts : Accepts d r body grantType s c) :
    (validateClient d r body.client_id body.client_secret grantType).run s = (.ok c, s) := by
  have ended : (validateClient d r body.client_id body.client_secret grantType >>=
      pure).run s = (.ok c, s) := validateClient_bind_ok.mpr ⟨c, accepts, rfl⟩
  rw [run_bind] at ended
  rcases ran : (validateClient d r body.client_id body.client_secret grantType).run s with
    ⟨res, t⟩
  rw [ran] at ended
  cases res with
  | ok other => exact ended
  | error f => exact ended

theorem accepted_of_stored (d : Deps) (sound : Sound s) (row : Stored token s)
    (early : s.now ≤ token.expiresAt) : Accepted d token s := by
  intro req r body presents
  obtain ⟨raw, isRaw, hash⟩ := presents.secret
  obtain ⟨c, accepts⟩ := presents.client
  obtain ⟨sess, isSession, isOwn, hasUser⟩ := row.session
  obtain ⟨u, isUser⟩ := isSome_iff_exists.mp hasUser
  have byHash : Table.Unique RefreshToken.tokenHash s.refreshTokens :=
    fun a isA b isB same => sound.keyed a isA b isB (.inr same)
  have byId : Table.Unique Session.id s.sessions := sound.sessions
  have hit : findRefreshToken (sha256 raw) s = some ⟨token, sess, u⟩ := by
    have isToken := byHash.find?_eq row.isRow
    have isSession := byId.find?_eq isSession
    rw [isOwn] at isSession
    simp [findRefreshToken, hash, isToken, isSession, isUser]
  have owned : truthy body.client_id = true := by
    obtain ⟨isId, nonempty⟩ := given_eq_some.mp accepts.authenticated.clientId
    simp [isId, truthy, nonempty]
  have authenticated := validateClient_run accepts
  refine ⟨⟨token, sess, u⟩, rfl, ?_⟩
  unfold handleRefreshTokenGrant
  rw [isRaw, orFail_some, done_bind, run_bind, authenticated]
  simp only
  rw [run_read_bind, run_read_bind, hit]
  have cur : ¬ token.expiresAt < s.now := by omega
  simp only [acceptRefreshToken, row.unrevoked, cur, owned, presents.owner,
    require_true, pure_def, done_bind, false_eq_true, if_false, decide_true]
  rw [run_atomic_bind, rotateToken_found row.isRow, require_true, done_bind]

theorem refused_of_missing (d : Deps) {req : Nat} {r : Realm} {body : Body}
    (presents : Presents d r body token s)
    (missing : ∀ row ∈ s.refreshTokens, row.tokenHash ≠ token.tokenHash) :
    (handleRefreshTokenGrant d req r body).run s = (.error badRefreshToken, s) := by
  obtain ⟨raw, isRaw, hash⟩ := presents.secret
  obtain ⟨c, accepts⟩ := presents.client
  have unknown : s.refreshTokens.find? (·.tokenHash = sha256 raw) = none := by
    rw [find?_eq_none]
    intro row isRow same
    exact missing row isRow ((of_decide_eq_true same).trans hash)
  have hit : findRefreshToken (sha256 raw) s = none := by simp [findRefreshToken, unknown]
  unfold handleRefreshTokenGrant
  rw [isRaw, orFail_some, done_bind, run_bind, validateClient_run accepts]
  simp only
  rw [run_read_bind, run_read_bind, hit]
  rfl

theorem cleanup_refreshTokens (s : Store) : (cleanupExpiredSessions.run s).2.refreshTokens =
    (s.refreshTokens.filter (!(expiredSessions s.now s).contains ·.sessionId)).filter
      fun row => !(row.expiresAt < s.now) := rfl

/-- A token that nobody rotates, revokes or removes is accepted until it expires, as long as no
clean-up deletes sessions while the token outlives its own.  One that does takes the token. -/
theorem refresh_tokens_last (d : Deps) (token : RefreshToken) :
    (∀ (jobs : Nat → Job) (s : Store), Sound s → ∀ c c',
        Pool.Reaches (Env token) (Spares token) (pool d jobs s) c →
        Pool.Reaches (Env token) (Spares token) c c' →
        Stored token c.state → c'.state.now ≤ token.expiresAt →
        Stored token c'.state ∧ Accepted d token c'.state) ∧
      ∀ s : Store, Sound s → Outlives token s → ∀ req r body,
        Presents d r body token (cleanupExpiredSessions.run s).2 →
        (handleRefreshTokenGrant d req r body).run (cleanupExpiredSessions.run s).2 =
          (.error badRefreshToken, (cleanupExpiredSessions.run s).2) := by
  constructor
  · intro jobs s sound c c' pre after stored early
    have environment (t t' : Store) (_ : Sound t) (moved : Env token t t') :
        Sound t' ∧ ∀ _ : Nat, Rely token t t' :=
      ⟨moved.sound, fun _ => ⟨moved.now, fun stored _ => moved.spares stored⟩⟩
    have threads (i : Nat) : ((jobs i).call d i).Sat (protocol token) (Spares token) i
        (fun _ _ => True) s := job_sat d i (jobs i) s
    have started : (protocol token).inv (pool d jobs s).state := sound
    obtain ⟨sound₁, threads₁⟩ := Pool.sound (P := protocol token) started threads environment pre
    obtain ⟨sound₂, _⟩ := Pool.sound (P := protocol token) sound₁ threads₁ environment after
    have relies := Pool.sound_moves (P := protocol token) (fun _ _ _ _ => id) sound₁ threads₁
      environment after 0
    have still := relies.keeps stored early
    exact ⟨still, accepted_of_stored d sound₂ still early⟩
  · intro s sound outlives req r body presents
    obtain ⟨isRow, _, sess, isSession, isOwn, late⟩ := outlives
    apply refused_of_missing d presents
    intro row kept same
    rw [cleanup_refreshTokens] at kept
    obtain ⟨isOther, unlisted⟩ := mem_filter.mp (mem_filter.mp kept).1
    have isToken : row = token := sound.keyed row isOther token isRow (.inr same)
    have listed : token.sessionId ∈ expiredSessions s.now s :=
      mem_map.mpr ⟨sess, mem_filter.mpr ⟨isSession, decide_eq_true late⟩, isOwn⟩
    rw [isToken] at unlisted
    simp [listed] at unlisted

def acme : Realm := { id := 1, name := "acme" }

def alice : User := { id := 2, realmId := 1, username := "alice" }

def beforeLogin : Store where
  supply := 10
  realms := [acme]
  users := [alice]
  clients := [{ id := 3, realmId := 1, clientId := "app", clientType := .PUBLIC,
                grantTypes := ["authorization_code", "refresh_token"] }]
  signingKeys := [{ id := 7, realmId := 1, createdAt := 0 }]

def aliceIssue : Issue where
  realm := acme
  user := alice
  clientId := "app"
  sessionId := 0
  scope := some "openid"

def loggedIn : Store := ((startSession .transparent none ["pwd"] aliceIssue).run beforeLogin).2

def present (raw : Nat) : Body where
  grant_type := some "refresh_token"
  client_id := some "app"
  refresh_token := some raw

def refreshed : Store := ((handleRefreshTokenGrant .transparent 0 acme (present 12)).run
  { loggedIn with now := 1700000 }).2

def secondToken : RefreshToken where
  id := 17
  sessionId := 10
  tokenHash := sha256 16
  scope := some "openid"
  clientId := some "app"
  createdAt := 1700000
  expiresAt := 3500000

theorem refreshed_sound : Sound refreshed where
  keyed := by
    unfold Keyed
    decide +kernel
  drawn := by
    unfold Drawn
    decide +kernel
  sessions := by decide +kernel

theorem secondToken_stored : Stored secondToken refreshed where
  isRow := by decide +kernel
  unrevoked := rfl
  session := by decide +kernel

instance (token : RefreshToken) (s : Store) : Decidable (Outlives token s) :=
  inferInstanceAs (Decidable (_ ∧ _ ∧ _))

instance (token : RefreshToken) : DecidableRel (Spares token) := fun s s' =>
  decidable_of_iff ((∀ row ∈ s'.refreshTokens, row.id = token.id → row.revoked = false) ∧
      ((∃ session ∈ s.sessions, session ∉ s'.sessions) → ¬ Outlives token s))
    ⟨fun ⟨unrevoked, timely⟩ => ⟨unrevoked, timely⟩,
      fun spares => ⟨spares.unrevoked, spares.timely⟩⟩

/-- Shortly before the end of the session; another session of Alice's is over. -/
def thirtiethMinute : Store :=
  { refreshed with
    now := 1790000
    sessions := refreshed.sessions ++
      [{ id := 5, userId := 2, createdAt := 0, expiresAt := 900000 }] }

theorem thirtiethMinute_sound : Sound thirtiethMinute :=
  ⟨refreshed_sound.keyed, refreshed_sound.drawn, by decide +kernel⟩

def nextTick : Pool Nat Store Failure Unit :=
  (⟨thirtiethMinute, (pool .transparent (fun _ => .cleanup) refreshed).procs⟩ :
    Pool Nat Store Failure Unit).schedule [0, 0, 0, 0, 0, 0]

theorem nextTick_reached : Pool.Reaches (Env secondToken) (Spares secondToken)
    (pool .transparent (fun _ => .cleanup) refreshed) nextTick := by
  have session : ∃ session ∈ thirtiethMinute.sessions, session.id = secondToken.sessionId ∧
      (thirtiethMinute.users.find? (·.id = session.userId)).isSome = true := by
    decide +kernel
  have waits : Env secondToken refreshed thirtiethMinute :=
    ⟨by decide +kernel, thirtiethMinute_sound, fun row => ⟨row.isRow, row.unrevoked, session⟩⟩
  exact .head (.env waits) (Pool.reaches_schedule (by decide +kernel))

/-- The clean-up of the thirtieth minute takes another session and spares the second token, which
goes with that of the thirty-first. -/
theorem second_token_lasts : nextTick.state.sessions = refreshed.sessions ∧
      Accepted .transparent secondToken nextTick.state ∧
      Outlives secondToken { refreshed with now := 1860000 } ∧
      ∀ req r body, Presents .transparent r body secondToken
          (cleanupExpiredSessions.run { refreshed with now := 1860000 }).2 →
        ((handleRefreshTokenGrant .transparent req r body).run
          (cleanupExpiredSessions.run { refreshed with now := 1860000 }).2).1 =
            .error badRefreshToken := by
  have later : Sound { refreshed with now := 1860000 } :=
    ⟨refreshed_sound.keyed, refreshed_sound.drawn, refreshed_sound.sessions⟩
  have outlives : Outlives secondToken { refreshed with now := 1860000 } := by decide +kernel
  obtain ⟨lasts, swept⟩ := refresh_tokens_last .transparent secondToken
  refine ⟨by decide +kernel, ?_, outlives, fun req r body presents => ?_⟩
  · exact (lasts (fun _ => .cleanup) refreshed refreshed_sound _ _ .refl nextTick_reached
      secondToken_stored (by decide +kernel)).2
  · rw [swept _ later outlives req r body presents]

/-- The token has another twenty-seven minutes to live, and is refused. -/
theorem second_token_swept : secondToken ∈ refreshed.refreshTokens ∧ secondToken.revoked = false ∧
      (cleanupExpiredSessions.run { refreshed with now := 1860000 }).2.now < secondToken.expiresAt ∧
      ((handleRefreshTokenGrant .transparent 1 acme (present 16)).run
        (cleanupExpiredSessions.run { refreshed with now := 1860000 }).2).1 =
          .error badRefreshToken :=
  ⟨by decide +kernel, rfl, by decide +kernel, rfl⟩

end Idenplane.Sessions
