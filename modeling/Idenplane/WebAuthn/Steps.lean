import Idenplane.WebAuthn.Service

/-! # What a call may do to the tables

Requests for options and assertions of any number of browsers run side by side, one database call
at a time.  Every step of a call is one of the steps named here, with its note in the history.
-/

namespace Idenplane.WebAuthn

open Atomic Auth Admin

inductive Call where
  | options (realm : WebAuthnRealm) (username : Option String)
  | verify (realm : WebAuthnRealm) (response : AuthenticationResponse)

inductive Reply where
  | options (options : AuthenticationOptions)
  | user (user : User) (cred : Credential)

def handle (d : Deps) (library : Library) (req : Nat) : Call → Act Reply
  | .options realm username => do
    let options ← startAuthentication d req realm username
    pure (.options options)
  | .verify realm response => do
    let (user, cred) ← verifyAuthentication d library req realm response
    pure (.user user cred)

def pool (d : Deps) (library : Library) (calls : Nat → Call) (w : World) :
    Pool Nat World Failure Reply :=
  ⟨w, fun i => handle d library i (calls i)⟩

/-- Rows are told apart by what the tables declare unique, and identifiers have been drawn. -/
structure Keyed (s : World) : Prop where
  ids : Table.Unique (·.id) s.credentials
  names : Table.Unique (·.credentialId) s.credentials
  drawn : ∀ row ∈ s.credentials, row.id < s.supply
  actions : Table.Unique (·.id) s.pendingActions
  hashes : Table.Unique (·.tokenHash) s.pendingActions
  actionsDrawn : ∀ row ∈ s.pendingActions, row.id < s.supply

/-- What the rest of the server does: passkeys are registered and removed, other services keep
their own pending actions, users change, and time passes. -/
structure Env (s s' : World) : Prop where
  supply : s.supply ≤ s'.supply
  clock : s.now ≤ s'.now
  log : s'.log = s.log
  keyed : Keyed s → Keyed s'
  credentials : ∀ row ∈ s'.credentials, row ∈ s.credentials ∨ s.supply ≤ row.id
  actions : ∀ row ∈ s'.pendingActions, row ∈ s.pendingActions ∨ s.supply ≤ row.id
  challenges : ∀ row, row.type = actionType .authentication →
    (row ∈ s'.pendingActions ↔ row ∈ s.pendingActions)

structure SameStore (s s' : Store) : Prop where
  clock : s'.now = s.now
  users : ∀ id, (findUserById id s).isSome → (findUserById id s').isSome

/-- The steps of the call `i`; `may` says whether it may draw and store a challenge. -/
inductive Does (may : Prop) (i : Nat) (s : World) : World → Prop where
  | stays : Does may i s s
  | store {store : Store} : SameStore s.store store → Does may i s { s with store := store }
  | draws : may → Does may i s (challengeDrawn i s).2
  | begins : Does may i s (note (.began i) s)
  | replaces (tokenHash : String) : Does may i s (challengesReplaced i tokenHash s)
  | issues (tokenHash : String) (data : ChallengeData) (expiresAt : Int) : may →
      (∀ row ∈ s.pendingActions, row.tokenHash ≠ tokenHash) →
      Does may i s (note (.issued i (newAction tokenHash .authentication data expiresAt s))
        { s with
          pendingActions :=
            newAction tokenHash .authentication data expiresAt s :: s.pendingActions
          supply := s.supply + 1 })
  | takes (action : Challenge) : (∃ row ∈ s.pendingActions, row.id = action.id) →
      action.type = actionType .authentication →
      Does may i s (note (.taken i action)
        { s with pendingActions := s.pendingActions.filter (·.id ≠ action.id) })
  | accepts (cred : Credential) (newCounter : Nat) : (∃ row ∈ s.credentials, row.id = cred.id) →
      Does may i s (note (.accepted i cred newCounter)
        { s with
          credentials := s.credentials.map fun row =>
            if row.id = cred.id then { row with counter := newCounter } else row })

/-- The row with a new counter, when it is the row of that identifier. -/
def counted (id newCounter : Nat) (row : Credential) : Credential :=
  if row.id = id then { row with counter := newCounter } else row

section Counted

variable (id n : Nat) (row : Credential)

@[simp] theorem counted_id : (counted id n row).id = row.id := by
  unfold counted
  split <;> rfl

@[simp] theorem counted_credentialId : (counted id n row).credentialId = row.credentialId := by
  unfold counted
  split <;> rfl

theorem counted_counter : (counted id n row).counter = if row.id = id then n else row.counter := by
  unfold counted
  split <;> rfl

end Counted

section Steps

variable {may : Prop} {i : Nat} {s s' : World}

theorem Does.supply (does : Does may i s s') : s.supply ≤ s'.supply := by
  cases does with
  | draws => exact le_succ _
  | issues => exact le_succ _
  | _ => exact Nat.le_refl _

theorem Does.keyed (does : Does may i s s') (keyed : Keyed s) : Keyed s' := by
  cases does with
  | stays => exact keyed
  | store => exact { keyed with }
  | draws =>
    exact
      { keyed with
        drawn := fun row mem => (keyed.drawn row mem).trans (lt_succ_self _)
        actionsDrawn := fun row mem =>
          (keyed.actionsDrawn row mem).trans (lt_succ_self _) }
  | begins => exact { keyed with }
  | replaces tokenHash =>
    have kept : ∀ row ∈ (challengesReplaced i tokenHash s).pendingActions,
        row ∈ s.pendingActions := fun row mem => mem_of_mem_filter mem
    exact
      { keyed with
        actions := keyed.actions.subset kept
        hashes := keyed.hashes.subset kept
        actionsDrawn := fun row mem => keyed.actionsDrawn row (kept row mem) }
  | issues tokenHash data expiresAt _ free =>
    constructor
    · exact keyed.ids
    · exact keyed.names
    · intro row mem
      exact (keyed.drawn row mem).trans (lt_succ_self _)
    · apply keyed.actions.cons
      intro row mem
      exact Nat.ne_of_lt (keyed.actionsDrawn row mem)
    · exact keyed.hashes.cons free
    · intro row mem
      rcases mem_cons.mp mem with rfl | old
      · exact lt_succ_self _
      · exact (keyed.actionsDrawn row old).trans (lt_succ_self _)
  | takes act =>
    have kept : ∀ row ∈ s.pendingActions.filter (·.id ≠ act.id),
        row ∈ s.pendingActions := fun row mem => mem_of_mem_filter mem
    exact
      { keyed with
        actions := keyed.actions.subset kept
        hashes := keyed.hashes.subset kept
        actionsDrawn := fun row mem => keyed.actionsDrawn row (kept row mem) }
  | accepts cred n =>
    constructor
    · exact keyed.ids.map (counted_id cred.id n)
    · exact keyed.names.map (counted_credentialId cred.id n)
    · intro row mem
      obtain ⟨old, isOld, rfl⟩ := mem_map.mp mem
      have drawn := keyed.drawn old isOld
      rwa [← counted_id cred.id n old] at drawn
    · exact keyed.actions
    · exact keyed.hashes
    · exact keyed.actionsDrawn

end Steps

section Calls

variable {may : Prop} {i : Nat}

theorem read_does {α : Type} (f : World → α) : (read f : Act α).Keeps (Does may i) :=
  .read (fun _ => .stays) f

theorem storeWebAuthnChallenge_does (d : Deps) (key : String) (rid chal : Nat) :
    (storeWebAuthnChallenge d i key rid .authentication chal).Keeps (Does True i) := by
  refine .bind (.modify fun s => .replaces _) fun _ => .bind (read_does _) fun now => .bind ?_ ?_
  · apply Keeps.atomic
    intro s
    unfold challengeCreated
    split
    · exact .stays
    · rename_i free
      refine .issues _ _ _ trivial ?_
      intro row mem same
      apply free
      exact any_eq_true.mpr ⟨row, mem, by simpa using same⟩
  · exact fun new => .require new _

theorem deleteChallenge_does {act : Challenge} (isType : act.type = actionType .authentication) :
    (deleteChallenge i act).Keeps (Does may i) := by
  refine .bind (.atomic fun s => ?_) fun deleted => .require deleted _
  unfold challengeTaken
  split
  · rename_i present
    obtain ⟨row, mem, same⟩ := any_eq_true.mp present
    exact .takes act ⟨row, mem, by simpa using same⟩ isType
  · exact .stays

theorem consumeWebAuthnChallenge_does (d : Deps) (key : String) (rid : Nat) :
    (consumeWebAuthnChallenge d i key rid .authentication).Keeps (Does may i) := by
  refine .bind (read_does _) fun hit => ?_
  cases taken : hit.filter (·.type = actionType .authentication) with
  | none => trivial
  | some act =>
    have isType : act.type = actionType .authentication := by
      simpa using (filter_eq_some_iff.mp taken).2
    refine .bind (read_does _) fun now => ?_
    split
    · exact .bind (deleteChallenge_does isType) fun _ => trivial
    · exact .bind (deleteChallenge_does isType) fun _ => trivial

theorem allowedCredentials_does (r : WebAuthnRealm) (uid : Option Nat) :
    (allowedCredentials r uid).Keeps (Does may i) := by
  cases uid with
  | none => trivial
  | some uid =>
    refine .bind (read_does _) fun hit => .bind (.require _ _) fun _ =>
      .bind (read_does _) fun creds => ?_
    split <;> trivial

theorem generateAuthenticationOptions_does (d : Deps) (r : WebAuthnRealm) (uid : Option Nat) :
    (generateAuthenticationOptions d i r uid).Keeps (Does True i) :=
  .bind (.require _ _) fun _ => .bind (allowedCredentials_does r uid) fun _ =>
    .bind (.atomic fun _ => .draws trivial) fun chal =>
      .bind (storeWebAuthnChallenge_does d _ r.id chal) fun _ => trivial

theorem startAuthentication_does (d : Deps) (r : WebAuthnRealm) (uname : Option String) :
    (startAuthentication d i r uname).Keeps (Does True i) := by
  unfold startAuthentication
  split
  · exact .bind (read_does _) fun u => generateAuthenticationOptions_does d r _
  · exact generateAuthenticationOptions_does d r none

theorem sameStore_updateUser (uid : Nat) {change : User → User}
    (keeps : ∀ u, (change u).id = u.id) (s : Store) :
    SameStore s (userUpdated uid change s).2 := by
  constructor
  · rfl
  · intro id hit
    have isUser : findUserById id (Auth.Store.updateUser s uid change) = _ :=
      find?_updateUser s uid id keeps
    change (findUserById id (Auth.Store.updateUser s uid change)).isSome
    rw [isUser, Option.isSome_map]
    exact hit

theorem recordWebAuthnFailure_does (r : WebAuthnRealm) (uid : Nat) :
    (recordWebAuthnFailure r uid).Keeps (Does may i) := by
  have parts : (BruteForce.recordWebAuthnFailure r.toRealm uid).Keeps SameStore := by
    have same (s : Store) : SameStore s s := ⟨rfl, fun _ => id⟩
    unfold BruteForce.recordWebAuthnFailure
    split
    · trivial
    · refine .bind (.modify fun s => ⟨rfl, fun _ => id⟩) fun _ => .bind (.read same _) fun _ => ?_
      unfold BruteForce.lockOut
      split
      · refine .bind (.read same _) fun now => .bind (.atomic fun s => ?_) fun hit =>
          .require hit _
        have keeps (u : User) : (BruteForce.codeLock r.toRealm now u).id = u.id := rfl
        exact sameStore_updateUser uid keeps s
      · trivial
  exact parts.focus World.store _ fun s store same => .store same

theorem expectChallenge_does (d : Deps) (r : WebAuthnRealm) (uid : Nat) :
    (expectChallenge d i r uid).Keeps (Does may i) := by
  refine .bind (consumeWebAuthnChallenge_does d _ _) fun own => ?_
  cases own with
  | some chal => trivial
  | none => exact .bind (consumeWebAuthnChallenge_does d _ _) fun shared => .orFail shared _

theorem checkAssertion_does (library : Library) (r : WebAuthnRealm)
    (res : AuthenticationResponse) (cred : Credential) (expectedChallenge : Nat) :
    (checkAssertion library r res cred expectedChallenge).Keeps (Does may i) := by
  unfold checkAssertion
  split
  · exact .bind (recordWebAuthnFailure_does r _) fun _ => trivial
  · split
    · trivial
    · exact .bind (recordWebAuthnFailure_does r _) fun _ => trivial

theorem checkAssertion_returns {library : Library} (documented : library.Documented)
    (r : WebAuthnRealm) (res : AuthenticationResponse) (cred : Credential)
    (expectedChallenge : Nat) :
    (checkAssertion library r res cred expectedChallenge).Returns fun n =>
      n = res.signCount ∧ res.challenge = expectedChallenge := by
  unfold checkAssertion
  split
  · exact .bind (.any _) fun _ _ => trivial
  · rename_i verification answered
    split
    · rename_i verified
      exact ⟨documented.counter _ _ answered verified, documented.challenge _ _ answered verified⟩
    · exact .bind (.any _) fun _ _ => trivial

theorem counterUpdated_does (cred : Credential) (n : Nat) (s : World) :
    Does may i s (counterUpdated i cred n s).2 := by
  unfold counterUpdated
  split
  · rename_i present
    obtain ⟨row, mem, same⟩ := any_eq_true.mp present
    exact .accepts cred n ⟨row, mem, by simpa using same⟩
  · exact .stays

theorem verifyAuthentication_does (d : Deps) (library : Library) (r : WebAuthnRealm)
    (res : AuthenticationResponse) :
    (verifyAuthentication d library i r res).Keeps (Does may i) := by
  refine .bind (.require _ _) fun _ => .bind (.atomic fun s => .begins) fun hit =>
    .bind (.orFail hit _) fun (cred, u) => .bind (.require _ _) fun _ =>
      .bind (expectChallenge_does d r _) fun chal =>
        .bind (checkAssertion_does library r res cred chal) fun n =>
          .bind (.bind (.require _ _) fun _ => .bind (.atomic ?_) fun updated => .require updated _)
            fun _ => trivial
  exact counterUpdated_does cred n

theorem handle_does (d : Deps) (library : Library) (call : Call) :
    (handle d library i call).Keeps (Does True i) := by
  cases call with
  | options r uname => exact .bind (startAuthentication_does d r uname) fun _ => trivial
  | verify r res =>
    exact .bind (verifyAuthentication_does d library r res) fun _ => trivial

end Calls

section Example

/-- A library that checks the challenge, the counter and a flag for all the rest. -/
def checking : Library where
  verifyAuthenticationResponse options :=
    if options.response.challenge ≠ options.expectedChallenge then
      .error "Unexpected authentication response challenge"
    else if (0 < options.response.signCount ∨ 0 < options.counter) ∧
        options.response.signCount ≤ options.counter then
      .error "Response counter value was lower than expected"
    else
      .ok { verified := options.response.signed == "valid"
            newCounter := options.response.signCount }
  getOrigin rpId := "https://" ++ rpId

theorem checking_documented : checking.Documented := by
  constructor
  all_goals
    intro options verification answered _
    simp only [checking] at answered
    split at answered
    · cases answered
    · split at answered
      · cases answered
      · cases answered
        simp_all

def shop : WebAuthnRealm := { id := 1, name := "shop", webAuthnEnabled := true }

def passkeyRow (counter : Nat) : Credential where
  id := 3
  credentialId := "passkey"
  userId := 2
  realmId := 1
  publicKey := "key"
  counter := counter

/-- Alice has a passkey, whose counter stands at `counter`. -/
def passkeyOf (counter : Nat) : World where
  store := { users := [{ id := 2, realmId := 1, username := "alice" }] }
  credentials := [passkeyRow counter]
  supply := 10

theorem passkeyOf_keyed (counter : Nat) : Keyed (passkeyOf counter) := by
  constructor <;> simp [passkeyOf, passkeyRow, Table.Unique]

def answer (challenge signCount : Nat) : AuthenticationResponse :=
  { id := "passkey", challenge := challenge, signCount := signCount, signed := "valid" }

end Example

end Idenplane.WebAuthn
