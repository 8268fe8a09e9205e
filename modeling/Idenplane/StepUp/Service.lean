import Idenplane.Auth.Tokens

/-! # Step-up records

`StepUpService`: a record says that a session was verified at a level, until it expires.
-/

namespace Idenplane.StepUp

open Atomic

def ACR_WEBAUTHN : String := "urn:idenplane:acr:webauthn"

/-- The strength of a level; unknown levels and none count as zero. -/
def acrStrength : Option String → Nat
  | none => 0
  | some acr =>
    if acr = ACR_PASSWORD then 1 else if acr = ACR_MFA then 2 else if acr = ACR_WEBAUTHN then 3 else 0

def strongestAcr (candidates : List (Option String)) : String :=
  candidates.foldl (fun best acr =>
    match acr with
    | some acr =>
      if acr ≠ "" ∧ acrStrength (some acr) > acrStrength (some best) then acr else best
    | none => best) ACR_PASSWORD

def satisfiesAcr (candidate required : String) : Bool :=
  acrStrength (some candidate) ≥ acrStrength (some required)

def activeRecords (sessionId : Nat) (s : Store) : List StepUpRecord :=
  s.stepUpRecords.filter fun record =>
    record.sessionId = sessionId && s.now < record.expiresAt

def getSessionAcr (sessionId : Nat) (s : Store) : String :=
  (activeRecords sessionId s).foldl (fun best record =>
    if acrStrength (some record.acrLevel) > acrStrength (some best) then record.acrLevel else best)
    ACR_PASSWORD

def getLoginSessionAcr (session : LoginSession) (s : Store) : String :=
  strongestAcr [session.satisfiedAcr, some (getSessionAcr session.id s)]

def getClientRequiredAcr (clientId : Nat) (s : Store) : Option String :=
  (s.clients.find? (·.id = clientId)).bind (·.requiredAcr)

def recordStepUp (sessionId : Nat) (acrLevel : String) (cacheDuration : Int) (s : Store) :
    Store :=
  { s with
    supply := s.supply + 1
    stepUpRecords :=
      { id := s.supply, sessionId := sessionId, acrLevel := acrLevel,
        completedAt := s.now, expiresAt := s.now + cacheDuration * 1000 } ::
      s.stepUpRecords }

def isStepUpCached (sessionId : Nat) (requiredAcr : String) (s : Store) : Bool :=
  satisfiesAcr (getSessionAcr sessionId s) requiredAcr

/-- The browser session of a token, with its user.  The user exists as long as the session
does. -/
def findLoginSession (tokenHash : Sha256) (s : Store) : Option (LoginSession × User) := do
  let session ← s.loginSessions.find? (·.tokenHash = tokenHash)
  let user ← s.users.find? (·.id = session.userId)
  pure (session, user)

def sessionSatisfiesMfa (session : LoginSession) : Op Bool :=
  if acrStrength session.satisfiedAcr ≥ acrStrength (some ACR_MFA) then pure true
  else do
    let stepUps ← read (activeRecords session.id)
    let acr := strongestAcr (session.satisfiedAcr :: stepUps.map fun record => some record.acrLevel)
    pure (acrStrength (some acr) ≥ acrStrength (some ACR_MFA))

def validateLoginSession (realm : Realm) (sessionToken : Nat) : Op (Option User) := do
  let found ← read (findLoginSession (sha256 sessionToken))
  let now ← read Store.now
  match found with
  | none => pure none
  | some (session, user) =>
    if session.realmId ≠ realm.id || session.expiresAt < now then pure none
    else if !user.enabled then pure none
    else if realm.mfaRequired then
      let satisfied ← sessionSatisfiesMfa session
      pure (if satisfied then some user else none)
    else pure (some user)

theorem sessionSatisfiesMfa_reads (sess : LoginSession) : (sessionSatisfiesMfa sess).Keeps Eq := by
  unfold sessionSatisfiesMfa
  split
  · trivial
  · exact .bind (.read (fun _ => rfl) _) fun _ => trivial

theorem validateLoginSession_reads (r : Realm) (sessionToken : Nat) :
    (validateLoginSession r sessionToken).Keeps Eq := by
  refine .bind (.read (fun _ => rfl) _) fun hit => .bind (.read (fun _ => rfl) _) fun now => ?_
  cases hit with
  | none => trivial
  | some hit =>
    simp only
    split
    · trivial
    · split
      · trivial
      · split
        · exact .bind (sessionSatisfiesMfa_reads _) fun _ => trivial
        · trivial

def HasLevel (acr : String) (session : LoginSession) (s : Store) : Prop :=
  acrStrength (some acr) ≤ acrStrength session.satisfiedAcr ∨
    ∃ record ∈ activeRecords session.id s, acrStrength (some acr) ≤ acrStrength (some record.acrLevel)

theorem foldl_choice {f : String → Option String → String}
    (choice : ∀ best acr, f best acr = best ∨ some (f best acr) = acr) (best : String)
    (candidates : List (Option String)) :
    candidates.foldl f best = best ∨ some (candidates.foldl f best) ∈ candidates := by
  induction candidates generalizing best with
  | nil => exact .inl rfl
  | cons acr rest ih =>
    obtain same | taken := ih (f best acr)
    · obtain kept | isAcr := choice best acr
      · exact .inl (same.trans kept)
      · exact .inr (mem_cons.mpr (.inl ((congrArg some same).trans isAcr)))
    · exact .inr (.tail _ taken)

theorem strongestAcr_spec (candidates : List (Option String)) :
    strongestAcr candidates = ACR_PASSWORD ∨ some (strongestAcr candidates) ∈ candidates := by
  refine foldl_choice (fun best acr => ?_) _ candidates
  cases acr with
  | none => exact .inl rfl
  | some acr =>
    dsimp only
    split
    · exact .inr rfl
    · exact .inl rfl

theorem sessionSatisfiesMfa_ok {sess : LoginSession} {s s' : Store}
    (ran : (sessionSatisfiesMfa sess).run s = (.ok true, s')) : HasLevel ACR_MFA sess s := by
  unfold sessionSatisfiesMfa at ran
  split at ran
  · rename_i enough
    exact .inl enough
  · simp only [run_read_bind, pure_def, run_done, Prod.mk.injEq, ok.injEq, decide_eq_true_eq] at ran
    have level := ran.1
    obtain weakest | taken := strongestAcr_spec (sess.satisfiedAcr ::
        (activeRecords sess.id s).map fun record => some record.acrLevel)
    · rw [weakest] at level
      exact absurd level (by decide)
    · cases mem_cons.mp taken with
      | inl isSession => exact .inl (isSession ▸ level)
      | inr isRecord =>
        obtain ⟨record, active, same⟩ := mem_map.mp isRecord
        exact .inr ⟨record, active, same ▸ level⟩

/-- What `validateLoginSession` checks. -/
structure Accepted (realm : Realm) (token : Nat) (s : Store) (session : LoginSession) (user : User) :
    Prop where
  found : findLoginSession (sha256 token) s = some (session, user)
  isRealm : session.realmId = realm.id
  live : s.now ≤ session.expiresAt
  enabled : user.enabled = true
  strong : realm.mfaRequired = true → HasLevel ACR_MFA session s

theorem validateLoginSession_ok {r : Realm} {tok : Nat} {s s' : Store} {user : User}
    (ran : (validateLoginSession r tok).run s = (.ok (some user), s')) :
    ∃ sess, Accepted r tok s sess user := by
  simp only [validateLoginSession, run_read_bind] at ran
  cases isFound : findLoginSession (sha256 tok) s with
  | none =>
    rw [isFound] at ran
    cases ran
  | some hit =>
    obtain ⟨sess, known⟩ := hit
    rw [isFound] at ran
    dsimp only at ran
    split at ran
    · cases ran
    · rename_i valid
      simp only [or_eq_true, decide_eq_true_eq, not_or, not_not, not_lt] at valid
      split at ran
      · cases ran
      · rename_i enabled
        simp only [not_eq_true', not_eq_false] at enabled
        split at ran
        · obtain ⟨satisfied, t, checked, ran⟩ := run_bind_ok.mp ran
          cases satisfied with
          | false => cases ran
          | true =>
            cases ran
            exact ⟨sess, isFound, valid.1, valid.2, enabled, fun _ => sessionSatisfiesMfa_ok checked⟩
        · rename_i optional
          cases ran
          exact ⟨sess, isFound, valid.1, valid.2, enabled, fun need => absurd need optional⟩

theorem findLoginSession_spec {th : Sha256} {s : Store} {sess : LoginSession} {user : User}
    (hit : findLoginSession th s = some (sess, user)) :
    s.loginSessions.find? (·.tokenHash = th) = some sess ∧
      s.users.find? (·.id = sess.userId) = some user := by
  obtain ⟨row, isRow, rest⟩ := bind_eq_some_iff.mp hit
  obtain ⟨owner, isOwner, same⟩ := bind_eq_some_iff.mp rest
  cases same
  exact ⟨isRow, isOwner⟩

end Idenplane.StepUp
