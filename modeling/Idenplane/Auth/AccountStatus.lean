import Idenplane.Auth.Subjects

/-! # Disabled users

Introspection reports the refresh token of a disabled user as inactive.  The refresh
grant does not look at the user's status at all, and neither do the other grants that
redeem something a user obtained earlier.
-/

namespace Idenplane.Auth

open Atomic

structure Introspection where
  active : Bool
  token_type : Option String := none
  sub : Option Nat := none
  (username preferred_username azp client_id scope : Option String := none)
  (exp iat : Option Int := none)
  deriving DecidableEq

def introspectStored (realm : Realm) (now : Int) (stored : StoredToken) : Introspection :=
  if stored.token.revoked || stored.token.expiresAt < now then { active := false }
  else if !stored.user.enabled || stored.user.realmId ≠ realm.id then { active := false }
  else
    { active := true
      token_type := some "refresh_token"
      sub := some stored.user.id
      username := some stored.user.username
      preferred_username := some stored.user.username
      azp := stored.token.clientId
      client_id := stored.token.clientId
      scope := stored.token.scope
      exp := some (stored.token.expiresAt / 1000)
      iat := some (stored.token.createdAt / 1000) }

def introspectRefreshToken (realm : Realm) (token : Nat) : Op Introspection := do
  let found ← read (findRefreshToken (sha256 token))
  let now ← read Store.now
  match found with
  | some stored => pure (introspectStored realm now stored)
  | none => pure { active := false }

def InactiveByStatus (realm : Realm) (token : Nat) (s : Store) : Prop :=
  ((introspectRefreshToken realm token).run s).1 = .ok { active := false } ∧
    ∃ stored, findRefreshToken (sha256 token) s = some stored ∧ stored.user.enabled = false

def SubjectEnabled : TokenResponse → Store → Prop :=
  SubjectSatisfies (fun user => user.enabled = true) fun _ => True

/-- Both forms of the rule: no tokens for disabled users, and no exchange of a refresh
token that introspection calls inactive for that reason. -/
structure StatusEnforced (d : Deps) (i : Nat) (realm : Realm) (body : Body) (s : Store) :
    Prop where
  subject : ∀ answer s', (handleTokenRequest d i realm body).run s = (.ok answer, s') →
    SubjectEnabled answer s'
  refused : ∀ token, body.grant = some .refresh_token → body.refresh_token = some token →
    InactiveByStatus realm token s →
    ∀ answer s', (handleTokenRequest d i realm body).run s ≠ (.ok answer, s')

theorem introspectStored_disabled {r : Realm} {now : Int} {row : StoredToken}
    (disabled : row.user.enabled = false) :
    introspectStored r now row = { active := false } := by
  unfold introspectStored
  split
  · rfl
  · simp [disabled]

theorem inactiveByStatus_iff {r : Realm} {tok : Nat} {s : Store} : InactiveByStatus r tok s ↔
      ∃ row, findRefreshToken (sha256 tok) s = some row ∧ row.user.enabled = false := by
  constructor
  · intro inactive
    exact inactive.2
  · rintro ⟨row, hit, disabled⟩
    refine ⟨?_, row, hit, disabled⟩
    simp only [introspectRefreshToken, run_read_bind, hit, pure_def, run_done,
      introspectStored_disabled disabled]

/-- The status of the subject is enforced exactly when the user whose credential the
request redeems is enabled. -/
theorem status_enforced_iff (d : Deps) (i : Nat) (r : Realm) (body : Body) (s : Store)
    (keys : UserKeys s) : StatusEnforced d i r body s ↔
      ∀ grant u, body.grant = some grant → Redeems d i r body s grant u → u.enabled = true := by
  have subject : _ ↔ ∀ grant u, body.grant = some grant →
      Redeems d i r body s grant u → u.enabled = true :=
    subject_satisfies_iff d i body (fun u => u.enabled = true) (fun _ => True) keys
      (fun _ enabled _ => enabled) fun _ _ => trivial
  constructor
  · intro enforced
    exact subject.mp enforced.subject
  · intro redeemers
    refine ⟨subject.mpr redeemers, ?_⟩
    intro tok isRefresh presented inactive ans s' done_
    obtain ⟨row, hit, disabled⟩ := inactiveByStatus_iff.mp inactive
    obtain ⟨grant, isGrant, done_⟩ := handleTokenRequest_ok.mp done_
    obtain rfl : grant = .refresh_token := by simpa [isRefresh] using isGrant.symm
    obtain ⟨redeemer, ok, issued⟩ := handleRefreshTokenGrant_ok.mp done_
    obtain ⟨presented', isPresented, hit'⟩ := ok.found
    rw [presented] at isPresented
    cases isPresented
    rw [hit] at hit'
    cases hit'
    have issuable := (issueTokens_total.mp ⟨ans, s', issued⟩).1
    have enabled := redeemers .refresh_token row.user isRefresh ⟨row, ok, rfl,
      (Issuable.same r row.user (rotateToken_accounts i row.token s)).mp issuable⟩
    simp [disabled] at enabled

section Example

def formerAlice : User := { alice with enabled := false }

theorem alice_status_enforced :
    (∃ ans s', (handleTokenRequest .transparent 0 acme refreshBody).run (twoRealms alice) =
      (.ok ans, s')) ∧ StatusEnforced .transparent 0 acme refreshBody (twoRealms alice) := by
  refine ⟨⟨_, _, rfl⟩, (status_enforced_iff .transparent 0 acme refreshBody (twoRealms alice)
    (twoRealms_keys rfl)).mpr ?_⟩
  intro grant u _ redeems
  rw [mem_singleton.mp redeems.granted.1]
  rfl

/-- Alice's refresh token is inactive and still worth new tokens. -/
theorem disabled_alice_refreshes :
    ((introspectRefreshToken acme 6).run (twoRealms formerAlice)).1 = .ok { active := false } ∧
    (∃ ans s', (handleTokenRequest .transparent 0 acme refreshBody).run
      (twoRealms formerAlice) = (.ok ans, s') ∧
      ans.accessToken.origin = .accessToken 2 4 ∧ ¬ SubjectEnabled ans s') ∧
    ¬ StatusEnforced .transparent 0 acme refreshBody (twoRealms formerAlice) := by
  have granted : ∃ ans s', (handleTokenRequest .transparent 0 acme refreshBody).run
      (twoRealms formerAlice) = (.ok ans, s') ∧
      ans.accessToken.origin = .accessToken 2 4 ∧ ¬ SubjectEnabled ans s' := by
    refine ⟨_, _, rfl, rfl, ?_⟩
    rintro ⟨u, isUser, -, enabled⟩
    rw [mem_singleton.mp isUser] at enabled
    exact absurd enabled (by decide)
  refine ⟨rfl, granted, ?_⟩
  intro enforced
  obtain ⟨ans, s', done_, -, disabled⟩ := granted
  exact disabled (enforced.subject ans s' done_)

end Example

end Idenplane.Auth
