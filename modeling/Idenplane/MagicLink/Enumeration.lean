import Idenplane.MagicLink.SingleUse

/-! # What the answer to a request tells about an account

The same request meets two tables of users that differ in the account it names.
-/

namespace Idenplane.MagicLink

open Atomic Auth Prog

def isAccount (realmId : Nat) (email : String) (user : User) : Bool :=
  user.realmId = realmId && user.email = some email

/-- The tables differ in whether the account exists, and in whether it is enabled. -/
structure DifferInAccount (realmId : Nat) (email : String) (users users' : List User) : Prop where
  others : users.filter (!isAccount realmId email ·) = users'.filter (!isAccount realmId email ·)
  account : ∀ user ∈ users, ∀ user' ∈ users', isAccount realmId email user →
    isAccount realmId email user' → user' = { user with enabled := user'.enabled }

def aliceRequest : RequestArgs := { email := "alice@acme.test", realmId := 1, clientId := "app" }

def withUsers (users : List User) (s : Store) : Store := { s with users := users }

def answer (d : Deps) (req : Nat) (args : RequestArgs) (s : Store) :
    Except Failure MagicLinkRequestResult :=
  ((requestMagicLink d req args).run s).1

/-- Every check before the account is looked up is passed. -/
def LooksUpAccount (args : RequestArgs) (s : Store) : Prop :=
  ∃ realm client callback, findRealmById args.realmId s = some realm ∧
    realm.magicLinkEnabled = true ∧ findClient args.realmId args.clientId s = some client ∧
    resolveCallback client.redirectUris args.magicLinkUrl = .ok callback ∧
    args.ipRateLimit.all (·.allowed) = true

section

variable {d : Deps} {req : Nat} {args : RequestArgs} {s : Store}

@[simp] theorem findRealmById_withUsers (id : Nat) (us : List User) :
    findRealmById id (withUsers us s) = findRealmById id s := rfl

@[simp] theorem findClient_withUsers (rid : Nat) (cid : String) (us : List User) :
    findClient rid cid (withUsers us s) = findClient rid cid s := rfl

@[simp] theorem withUsers_users (users : List User) : (withUsers users s).users = users := rfl

theorem answer_of_refused {refusal : MagicLinkRequestResult}
    (isRefused : ((admitRequest d args).run s).1 = .error refusal) :
    answer d req args s = .ok refusal := by
  rw [answer, requestMagicLink, run_attempt_bind, isRefused]
  rfl

/-- What stops a request before the account is looked up does not depend on the users. -/
theorem refused_before_account (stops : ¬LooksUpAccount args s) : ∃ refusal, ∀ us,
    ((admitRequest d args).run (withUsers us s)).1 = .error refusal := by
  cases hit : findRealmById args.realmId s with
  | none =>
    exists refused "Realm not found"
    simp [admitRequest, hit, orFail_none]
  | some r =>
    cases enabled : r.magicLinkEnabled with
    | false =>
      exists refused "Magic link authentication is not enabled for this realm"
      simp [admitRequest, hit, orFail_some, enabled, require_false]
    | true =>
      cases known : findClient args.realmId args.clientId s with
      | none =>
        exists refused "Invalid client"
        simp [admitRequest, hit, orFail_some, enabled, require_true, known, orFail_none]
      | some c =>
        cases resolved : resolveCallback c.redirectUris args.magicLinkUrl with
        | error refusal =>
          exists refusal
          simp [admitRequest, hit, orFail_some, enabled, require_true, known, resolved, ofResult]
        | ok callback =>
          have limited : args.ipRateLimit.all (·.allowed) = false := by
            rw [eq_false_iff]
            intro allowed
            exact stops ⟨r, c, callback, hit, enabled, known, resolved, allowed⟩
          exists { success := false, message := "Too many requests. Please try again later.",
                   rateLimit := args.ipRateLimit }
          simp [admitRequest, hit, orFail_some, enabled, require_true, known, resolved,
            ofResult, limited, require_false]

/-- The account is not in the table, or it is disabled. -/
theorem refused_at_account (looksUp : LooksUpAccount args s) {u : User}
    (isUser : isAccount args.realmId (d.toLowerCase args.email) u = true)
    (disabled : u.enabled = false) :
    ((admitRequest d args).run (withUsers [] s)).1 = .error
        { success := true
          message := "If an account exists with this email, a magic link has been sent" } ∧
      ((admitRequest d args).run (withUsers [u] s)).1 =
        .error (refused "User account is disabled") := by
  obtain ⟨r, c, callback, hit, enabled, known, resolved, allowed⟩ := looksUp
  unfold isAccount at isUser
  constructor
  · simp [admitRequest, hit, orFail_some, enabled, require_true, known, resolved,
      ofResult, allowed, orFail_none]
  · simp [admitRequest, hit, orFail_some, enabled, require_true, known, resolved,
      ofResult, allowed, isUser, disabled, require_false]

/-- A request, the first for its account or a later one, is answered alike for all such tables
exactly when it is refused before the account is looked up. -/
theorem answer_alike_iff (d : Deps) (req : Nat) (args : RequestArgs) (s : Store) :
    (∀ us us', DifferInAccount args.realmId (d.toLowerCase args.email) us us' →
      answer d req args (withUsers us s) =
        answer d req args (withUsers us' s)) ↔ ¬LooksUpAccount args s := by
  constructor
  · intro alike looksUp
    let u : User := { id := 1, realmId := args.realmId, username := "",
                         email := some (d.toLowerCase args.email), enabled := false }
    have isUser : isAccount args.realmId (d.toLowerCase args.email) u = true := by
      simp [isAccount, u]
    obtain ⟨unknown, disabled⟩ := refused_at_account looksUp isUser rfl
    have same := alike [] [u] ⟨by simp [isUser], by simp⟩
    rw [answer_of_refused unknown, answer_of_refused disabled] at same
    simp [refused] at same
  · intro stops us us' _
    obtain ⟨refusal, refusedFor⟩ := @refused_before_account d _ _ stops
    rw [answer_of_refused (refusedFor us), answer_of_refused (refusedFor us')]

/-- A stranger, alice, and alice once her account is disabled get three answers. -/
theorem account_revealed :
    mailbox.magicLinkRequests = [] ∧ DifferInAccount 1 "alice@acme.test" [] mailbox.users ∧
      DifferInAccount 1 "alice@acme.test" mailbox.users
        (mailbox.users.map fun u => { u with enabled := false }) ∧
      answer .transparent 0 aliceRequest (withUsers [] mailbox) = .ok
        { success := true
          message := "If an account exists with this email, a magic link has been sent" } ∧
      answer .transparent 0 aliceRequest mailbox = .ok
        { success := true, message := "Magic link sent successfully" } ∧
      answer .transparent 0 aliceRequest (withUsers
        (mailbox.users.map fun u => { u with enabled := false }) mailbox) =
          .ok (refused "User account is disabled") :=
  ⟨rfl, ⟨by decide, by decide⟩, ⟨by decide, by decide⟩, rfl, rfl, rfl⟩

end

end Idenplane.MagicLink
