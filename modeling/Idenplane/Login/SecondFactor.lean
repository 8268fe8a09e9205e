import Idenplane.Login.Codes

/-! # Sessions of a realm that requires a second factor

A session is honoured for what it was established with, or for a step-up that has not expired.
Both are read when the cookie comes back, so a policy that was switched on in the meantime
applies to the sessions that were there before.
-/

namespace Idenplane.Login

open Atomic Auth Admin StepUp

section Policy

variable {d : Deps} {x : Externals} {s₀ s : Store}

/-- The session was started at the level of a second factor, which its user had verified. -/
def StartedWithFactor (session : LoginSession) (s : Store) : Prop :=
  acrStrength (some ACR_MFA) ≤ acrStrength session.satisfiedAcr ∧
    ∃ earlier, .sessionStarted session :: earlier <:+ s.loginLog ∧
      .factorVerified session.userId ∈ earlier

/-- An unexpired record says that the session stepped up to the level of a second factor. -/
def SteppedUp (session : LoginSession) (s : Store) : Prop :=
  ∃ record ∈ s.stepUpRecords, record.sessionId = session.id ∧ s.now < record.expiresAt ∧
    acrStrength (some ACR_MFA) ≤ acrStrength (some record.acrLevel)

theorem factor_of_level {sess : LoginSession} (established : Established sess s.loginLog)
    (level : HasLevel ACR_MFA sess s) : StartedWithFactor sess s ∨ SteppedUp sess s := by
  cases level with
  | inl strong =>
    obtain ⟨earlier, begun, answered⟩ := established
    exact .inl ⟨strong, earlier, begun, answered strong⟩
  | inr stepped =>
    obtain ⟨record, active, strong⟩ := stepped
    obtain ⟨mem, ofSession⟩ := mem_filter.mp active
    simp only [and_eq_true, decide_eq_true_eq] at ofSession
    exact .inr ⟨record, mem, ofSession.1, ofSession.2, strong⟩

theorem continueAfterPrimaryAuth_pauses {r : Realm} {u : User} {ps : AuthorizeParams}
    {primaryAmr : List String} {cks : Cookies} (need : isMfaRequired r u.id s = true) :
    (continueAfterPrimaryAuth d r u ps primaryAmr cks).Ensures
      (fun t => t.loginSessions = s.loginSessions)
      (fun _ t => t.loginSessions = s.loginSessions) s := by
  refine .read_bind (.read_bind ?_)
  split
  · exact .bind (.read_bind (.require_bind rfl fun _ => rfl))
  · exact rfl

theorem mfa_realms_honour_second_factors (initial : Initial s₀)
    (run : Reaches d x (fun _ _ => True) s₀ s) {r : Realm}
    (need : r.mfaRequired = true) :
    (∀ tok u s', (validateLoginSession r tok).run s = (.ok (some u), s') →
      ∃ sess ∈ s.loginSessions, sess.tokenHash = sha256 tok ∧ sess.userId = u.id ∧
        (StartedWithFactor sess s ∨ SteppedUp sess s)) ∧ ∀ u ps primaryAmr cks,
      ((continueAfterPrimaryAuth d r u ps primaryAmr cks).run s).2.loginSessions =
        s.loginSessions := by
  constructor
  · intro tok u s' ran
    have owned := run.owned initial
    obtain ⟨sess, accepted⟩ := validateLoginSession_ok ran
    obtain ⟨hit, isUser⟩ := findLoginSession_spec accepted.found
    have mem := mem_of_find?_eq_some hit
    exact ⟨sess, mem, of_decide_eq_true (find?_some hit :), (findUserById_id isUser).symm,
      factor_of_level (owned.established sess mem) (accepted.strong need)⟩
  · intro u ps primaryAmr cks
    exact Ensures.run (continueAfterPrimaryAuth_pauses (by rw [isMfaRequired, need]; rfl))

def strict : Realm := { id := 1, name := "acme", mfaRequired := true }

def strictStore : Store :=
  { tenants with
    realms := [strict]
    userCredentials := [{ userId := 3, type := .totp, secretKey := "123456", verified := true }] }

theorem strictStore_initial : Initial strictStore where
  userIds := tenants_initial.userIds
  users := tenants_initial.users
  clientIds := tenants_initial.clientIds
  credentials := tenants_initial.credentials
  loginSessions := rfl
  pendingActions := rfl
  consentRequests := rfl
  authorizationCodes := rfl

def aliceAnswers : Visit where
  request := 1
  realmName := "acme"
  cookies := { challenge := some 40 }
  action := .totp { code := some "123456", csrf := true }

def strictSession : Store :=
  aliceAnswers.serve .transparent noMigration
    (aliceSignsIn.serve .transparent noMigration strictStore)

/-- The session that follows is accepted and rests on the factor. -/
theorem alice_session_has_factor : (validateLoginSession strict 42).run strictSession =
        (.ok (findUserById 3 strictSession), strictSession) ∧
      ∃ sess ∈ strictSession.loginSessions, sess.tokenHash = sha256 42 ∧
        (StartedWithFactor sess strictSession ∨ SteppedUp sess strictSession) := by
  have accepted : (validateLoginSession strict 42).run strictSession =
      (.ok (findUserById 3 strictSession), strictSession) := rfl
  refine ⟨accepted, ?_⟩
  have run : Reaches .transparent noMigration (fun _ _ => True) strictStore strictSession :=
    .tail (.tail .refl (.visit aliceSignsIn trivial)) (.visit aliceAnswers trivial)
  obtain ⟨sess, mem, hashed, -, level⟩ :=
    (mfa_realms_honour_second_factors strictStore_initial run rfl).1 42 _ _ accepted
  exact ⟨sess, mem, hashed, level⟩

end Policy

end Idenplane.Login
