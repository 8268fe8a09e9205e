import Idenplane.Lib.Pool
import Idenplane.Lib.Table
import Idenplane.Auth.Authorize

/-! # Exchanging authorization codes

Any number of authorization requests, exchanges and clean-ups run side by side, one
database call at a time.  An exchange marks the code as used before it checks anything
else about it, in one conditional update; what the update records is the row it found.

The invariant is that a code with a recorded claim has no unused row.  It makes the
claim of a code unique, whatever becomes of the request that made it.
-/

namespace Idenplane.Auth.CodeExchange

open Atomic Pool Prog.Sat

inductive Request where
  | authorize (realm : Realm) (user : User) (params : AuthorizeParams) (ctx : SatisfiedAuthContext)
  | exchange (realm : Realm) (body : Body)
  | cleanup

inductive Reply where
  | redirect (redirect : Redirect)
  | tokens (response : TokenResponse)
  | cleaned

def handle (d : Deps) (i : Nat) : Request → Op Reply
  | .authorize realm user params ctx => do
    let redirect ← authorizeWithUser d realm user params ctx
    pure (.redirect redirect)
  | .exchange realm body => do
    let response ← handleAuthorizationCodeGrant d i realm body
    pure (.tokens response)
  | .cleanup => do
    cleanupExpiredCodes
    pure .cleaned

def pool (d : Deps) (requests : Nat → Request) (s : Store) : Pool Nat Store Failure Reply :=
  ⟨s, fun i => handle d i (requests i)⟩

def Keyed (rows : List AuthorizationCode) : Prop :=
  ∀ a ∈ rows, ∀ b ∈ rows, a.code = b.code → a = b

/-- What the rest of the server does to codes: nothing, or it deletes some along with
their client or user.  Everything else may change. -/
structure Env (s s' : Store) : Prop where
  log : s'.codeLog = s.codeLog
  supply : s.supply ≤ s'.supply
  rows : s'.authorizationCodes ⊆ s.authorizationCodes

abbrev Reaches := Pool.Reaches (ι := Nat) (ε := Failure) (α := Reply) Env fun _ _ => True

/-- The claim is what a successful exchange rests on: the request authenticated as the
client the code was issued to, named the address the code was sent to, came before the
code expired, and proved that it knows the verifier of the code's challenge, which codes
of public clients always have. -/
structure Bound (d : Deps) (realm : Realm) (body : Body) (claim : CodeClaim) : Prop where
  code : body.code = some claim.code.code
  client : Authenticated d realm body.client_id body.client_secret "authorization_code" claim.client
  issuedTo : claim.code.clientId = claim.client.id
  redirectUri : body.redirect_uri = some claim.code.redirectUri
  unused : claim.code.used = false
  inTime : claim.at_ < claim.code.expiresAt
  challenge : claim.client.clientType = .PUBLIC → truthy claim.code.codeChallenge = true
  verifier : ∀ challenge, given claim.code.codeChallenge = some challenge →
    ∃ verifier, given body.code_verifier = some verifier ∧ pkceChallenge d verifier = challenge

structure Inv (s : Store) : Prop where
  keyed : Keyed s.authorizationCodes
  drawn : ∀ row ∈ s.authorizationCodes, row.code < s.supply
  claimed : ∀ claim ∈ s.codeLog, claim.code.code < s.supply ∧
    ∀ row ∈ s.authorizationCodes, row.code = claim.code.code → row.used = true
  once : ∀ claim ∈ s.codeLog, ∀ claim' ∈ s.codeLog, claim.code.code = claim'.code.code →
    claim = claim'

theorem Inv.initial {s : Store} (keyed : Keyed s.authorizationCodes)
    (drawn : ∀ row ∈ s.authorizationCodes, row.code < s.supply) (log : s.codeLog = []) : Inv s := by
  refine ⟨keyed, drawn, ?_, ?_⟩
  · simp [log]
  · simp [log]

theorem Inv.env {s s' : Store} (inv : Inv s) (move : Env s s') : Inv s' where
  keyed := fun a isA b isB => inv.keyed a (move.rows isA) b (move.rows isB)
  drawn := fun row isRow => (inv.drawn row (move.rows isRow)).trans_le move.supply
  claimed := by
    intro claim mem
    rw [move.log] at mem
    obtain ⟨bound, used⟩ := inv.claimed claim mem
    exact ⟨bound.trans_le move.supply, fun row isRow => used row (move.rows isRow)⟩
  once := by
    rw [move.log]
    exact inv.once

def protocol : Protocol Nat Store where
  inv := Inv
  rely := fun _ s s' => s.codeLog ⊆ s'.codeLog
  refl := fun _ _ => Subset.refl _
  trans := fun _ => Subset.trans

theorem Env.respects (s s' : Store) (inv : Inv s) (move : Env s s') :
    Inv s' ∧ ∀ _ : Nat, s.codeLog ⊆ s'.codeLog := by
  refine ⟨inv.env move, fun _ => ?_⟩
  rw [move.log]
  exact Subset.refl _

theorem SessionWork.env {s s' : Store} (work : SessionWork s s') : Env s s' where
  log := by
    have same := congrArg Store.codeLog work.rest
    exact same
  supply := work.supply
  rows := by
    have same := congrArg Store.authorizationCodes work.rest
    exact fun row isRow => same ▸ isRow

theorem SessionWork.respects (s s' : Store) (inv : Inv s) (work : SessionWork s s') :
    Inv s' ∧ ∀ _ : Nat, s.codeLog ⊆ s'.codeLog :=
  Env.respects s s' inv (SessionWork.env work)

section Steps

variable {s : Store}

theorem createCode_inv (inv : Inv s) (c : Client) (u : User) (ps : AuthorizeParams)
    (ctx : SatisfiedAuthContext) (sc : Option String) :
    Inv (createCode c u ps ctx sc s).2 := by
  unfold createCode
  split
  · have fresh : ∀ row ∈ s.authorizationCodes, row.code ≠ s.supply :=
      fun row isRow => (inv.drawn row isRow).ne
    refine ⟨?_, ?_, ?_, inv.once⟩
    · exact Table.Unique.cons
        (show Table.Unique AuthorizationCode.code s.authorizationCodes from inv.keyed) fresh
    · intro row isRow
      rcases mem_cons.mp isRow with rfl | isOld
      · exact Nat.lt_add_of_pos_right (by decide)
      · exact Nat.lt_add_right 2 (inv.drawn row isOld)
    · intro claim mem
      obtain ⟨bound, used⟩ := inv.claimed claim mem
      refine ⟨Nat.lt_add_right 2 bound, ?_⟩
      intro row isRow same
      rcases mem_cons.mp isRow with rfl | isOld
      · exact absurd same bound.ne'
      · exact used row isOld same
  · exact inv

theorem createCode_log (c : Client) (u : User) (ps : AuthorizeParams)
    (ctx : SatisfiedAuthContext) (sc : Option String) :
    s.codeLog ⊆ (createCode c u ps ctx sc s).2.codeLog := by
  unfold createCode
  split <;> exact Subset.refl _

/-- The store after a request claimed the code of `row`. -/
def claimedStore (i : Nat) (client : Client) (row : AuthorizationCode) (s : Store) : Store :=
  { s with
    authorizationCodes := s.authorizationCodes.map fun other =>
      if claimable row.code s.now other then { other with used := true } else other
    codeLog := ⟨i, client, row, s.now⟩ :: s.codeLog }

theorem claimCode_cases (i : Nat) (c : Client) (code : Nat) (s : Store) :
    claimCode i c code s = (none, s) ∨
    ∃ row ∈ s.authorizationCodes, row.code = code ∧ row.used = false ∧ s.now < row.expiresAt ∧
      claimCode i c code s = (some { row with used := true }, claimedStore i c row s) := by
  unfold claimCode
  cases hit : s.authorizationCodes.find? (claimable code s.now) with
  | none => exact .inl rfl
  | some row =>
    have passes := find?_some hit
    simp only [claimable, and_eq_true, decide_eq_true_eq, Bool.not_eq_eq_eq_not,
      Bool.not_true] at passes
    obtain ⟨⟨rfl, unused⟩, inTime⟩ := passes
    exact .inr ⟨row, mem_of_find?_eq_some hit, rfl, unused, inTime, rfl⟩

variable {row : AuthorizationCode}

theorem Inv.unclaimed (inv : Inv s) (isRow : row ∈ s.authorizationCodes)
    (unused : row.used = false) : ∀ claim ∈ s.codeLog, claim.code.code ≠ row.code := by
  intro claim mem same
  have used := (inv.claimed claim mem).2 row isRow same.symm
  simp [unused] at used

theorem claimedStore_inv (inv : Inv s) (i : Nat) (c : Client)
    (isRow : row ∈ s.authorizationCodes) (unused : row.used = false)
    (inTime : s.now < row.expiresAt) : Inv (claimedStore i c row s) := by
  have code_kept : ∀ other : AuthorizationCode,
      (if claimable row.code s.now other then { other with used := true } else other).code =
        other.code := by
    intro other
    split <;> rfl
  refine ⟨?_, ?_, ?_, ?_⟩
  · intro a' isA b' isB same
    obtain ⟨a, oldA, rfl⟩ := mem_map.mp isA
    obtain ⟨b, oldB, rfl⟩ := mem_map.mp isB
    rw [code_kept, code_kept] at same
    rw [inv.keyed a oldA b oldB same]
  · intro other' isOther
    obtain ⟨other, isOld, rfl⟩ := mem_map.mp isOther
    rw [code_kept]
    exact inv.drawn other isOld
  · intro claim mem
    rcases mem_cons.mp mem with rfl | isOld
    · refine ⟨inv.drawn row isRow, ?_⟩
      intro other' isOther same
      obtain ⟨other, isOld, rfl⟩ := mem_map.mp isOther
      rw [code_kept] at same
      have isSame : other = row := inv.keyed other isOld row isRow same
      simp [isSame, claimable, unused, inTime]
    · obtain ⟨bound, used⟩ := inv.claimed claim isOld
      refine ⟨bound, ?_⟩
      intro other' isOther same
      obtain ⟨other, isOldRow, rfl⟩ := mem_map.mp isOther
      rw [code_kept] at same
      have wasUsed := used other isOldRow same
      split
      · rfl
      · exact wasUsed
  · intro claim mem claim' mem' same
    have unclaimed := inv.unclaimed isRow unused
    rcases mem_cons.mp mem with rfl | isOld
    · rcases mem_cons.mp mem' with rfl | isOld'
      · rfl
      · exact absurd same.symm (unclaimed claim' isOld')
    · rcases mem_cons.mp mem' with rfl | isOld'
      · exact absurd same (unclaimed claim isOld)
      · exact inv.once claim isOld claim' isOld' same

end Steps

def Rests {α : Type} (d : Deps) (i : Nat) (realm : Realm) (body : Body) (res : Except Failure α)
    (s : Store) : Prop :=
  ∀ answer, res = .ok answer → ∃ claim ∈ s.codeLog, claim.request = i ∧ Bound d realm body claim

theorem Rests.error {α : Type} (d : Deps) (i : Nat) (r : Realm) (body : Body) (e : Failure)
    (s : Store) : Rests d i r body (.error e : Except Failure α) s := by
  intro ans no
  cases no

section Requests

variable {d : Deps} {i : Nat} {s : Store} {r : Realm} {body : Body}

/-- After the claim, what is left of the request does not touch codes. -/
theorem startSession_rests {claim : CodeClaim} (mem : claim ∈ s.codeLog)
    (own : claim.request = i) (bound : Bound d r body claim) (acr : Option String)
    (amr : List String) (issue : Issue) :
    (startSession d acr amr issue).Sat protocol (fun _ _ => True) i (Rests d i r body) s := by
  apply Sat.ofKeeps (startSession_works d acr amr issue) SessionWork.respects
  intro res t move _ ans _
  exact ⟨claim, move mem, own, bound⟩

theorem checkCodeVerifier_returns (codeChallenge codeVerifier : Option String) :
    (checkCodeVerifier d codeChallenge codeVerifier).Returns fun _ =>
      ∀ challenge, given codeChallenge = some challenge →
        ∃ verifier, given codeVerifier = some verifier ∧ pkceChallenge d verifier = challenge := by
  unfold checkCodeVerifier
  cases has : given codeChallenge with
  | none =>
    intro challenge no
    cases no
  | some challenge =>
    refine .bind (.orFail _ _) fun verifier isGiven => ?_
    by_cases matches_ : pkceChallenge d verifier = challenge
    · simp only [matches_, decide_true, require, if_true]
      intro challenge' same
      cases same
      exact ⟨verifier, isGiven, matches_⟩
    · simp only [matches_, decide_false, require]
      trivial

theorem checkCodeVerifier_reads (codeChallenge codeVerifier : Option String) :
    (checkCodeVerifier d codeChallenge codeVerifier).Keeps Eq := by
  unfold checkCodeVerifier
  split
  · trivial
  · exact .bind (.orFail _ _) fun _ => .require _ _

theorem reads_respects (t t' : Store) (inv : Inv t) (same : t = t') :
    Inv t' ∧ ∀ _ : Nat, t.codeLog ⊆ t'.codeLog := by
  subst same
  exact ⟨inv, fun _ => Subset.refl _⟩

theorem handleAuthorizationCodeGrant_sat :
    (handleAuthorizationCodeGrant d i r body).Sat protocol (fun _ _ => True) i
      (Rests d i r body) s := by
  have failed : ∀ e t, Rests d i r body (.error e : Except Failure TokenResponse) t :=
    .error d i r body
  apply Sat.orFail_bind ?_ fun _ u _ _ => failed _ u
  intro code isCode
  apply call_bind (validateClient_reads d r _ _ _)
    (validateClient_returns d r _ _ _) reads_respects ?_ fun e u _ _ => failed e u
  intro client t₁ authenticated _ _
  apply Sat.atomic_bind
  intro t₂ _ inv _
  rcases claimCode_cases i client code t₂ with refused | ⟨row, isRow, rfl, unused, inTime, claimed⟩
  · rw [refused]
    exact ⟨inv, fun _ _ => Subset.refl _, fun u _ _ => failed _ u⟩
  rw [claimed]
  refine ⟨claimedStore_inv inv i client isRow unused inTime, fun _ _ => subset_cons_self _ _, ?_⟩
  -- From here on only the checks on the claimed row decide.
  have mem : ⟨i, client, row, t₂.now⟩ ∈ (claimedStore i client row t₂).codeLog :=
    mem_cons_self ..
  apply Sat.require_bind ?_ fun _ u _ _ => failed _ u
  intro issuedTo
  apply Sat.require_bind ?_ fun _ u _ _ => failed _ u
  intro redirected
  apply Sat.require_bind ?_ fun _ u _ _ => failed _ u
  intro challenged
  apply call_bind (checkCodeVerifier_reads _ _) (checkCodeVerifier_returns _ _)
    reads_respects ?_ fun e u _ _ => failed e u
  intro _ t₃ verified move₃ _
  apply Sat.read_bind
  intro t₄ move₄ _
  apply Sat.orFail_bind ?_ fun _ u _ _ => failed _ u
  intro user _
  apply Sat.read_bind
  intro t₅ move₅ _
  apply Sat.require_bind ?_ fun _ u _ _ => failed _ u
  intro _
  have bound : Bound d r body ⟨i, client, row, t₂.now⟩ :=
    { code := isCode
      client := authenticated
      issuedTo := by simpa using issuedTo
      redirectUri := by simpa using (of_decide_eq_true redirected).symm
      unused := unused
      inTime := inTime
      challenge := fun (isPublic : client.clientType = .PUBLIC) => by
        simpa [isPublic] using challenged
      verifier := verified }
  exact startSession_rests (move₅ (move₄ (move₃ mem))) rfl bound _ _ _

theorem authorizeWithUser_sat {user : User} {ps : AuthorizeParams}
    {ctx : SatisfiedAuthContext} {post : Except Failure Redirect → Store → Prop}
    (any : ∀ res t, post res t) :
    (authorizeWithUser d r user ps ctx).Sat protocol (fun _ _ => True) i post s := by
  apply keeps_bind (validateAuthRequest_reads r ps) reads_respects ?_
    fun e u _ _ => any _ u
  intro c t₁ _ _
  apply Sat.read_bind
  intro t₂ _ _
  apply Sat.atomic_bind
  intro t₃ _ inv _
  refine ⟨createCode_inv inv _ _ _ _ _, fun _ _ => createCode_log _ _ _ _ _, ?_⟩
  apply Sat.orFail_bind ?_ fun _ u _ _ => any _ u
  intro code _
  apply Sat.require_bind ?_ fun _ u _ _ => any _ u
  intro _ u _ _
  exact any _ u

def Replied (d : Deps) (i : Nat) (request : Request) (res : Except Failure Reply)
    (s : Store) : Prop :=
  ∀ realm body, request = .exchange realm body → Rests d i realm body res s

theorem handle_sat (req : Request) :
    (handle d i req).Sat protocol (fun _ _ => True) i (Replied d i req) s := by
  cases req with
  | authorize r user ps ctx =>
    have any : ∀ res t, Replied d i (.authorize r user ps ctx) res t := by
      intro res t r' body no
      cases no
    apply Sat.bind
    apply authorizeWithUser_sat
    intro res t
    cases res with
    | ok redirect => exact fun u _ _ => any _ u
    | error e => exact any _ t
  | exchange r body =>
    apply Sat.bind
    refine .mono ?_ handleAuthorizationCodeGrant_sat
    intro res t rests
    cases res with
    | ok response =>
      intro u move _ r' body' same ans _
      cases same
      obtain ⟨claim, mem, own, bound⟩ := rests response rfl
      exact ⟨claim, move mem, own, bound⟩
    | error e =>
      intro r' body' same
      exact .error d i r' body' e t
  | cleanup =>
    apply Sat.modify_bind
    intro t _ inv _
    refine ⟨inv.env ⟨rfl, le_rfl, fun row isRow => (mem_filter.mp isRow).1⟩,
      fun _ _ => Subset.refl _, ?_⟩
    intro u _ _ r body no
    cases no

end Requests

/-- However exchanges, authorizations and clean-ups interleave: an exchange returns
tokens only on a claim that binds it to the code's client, address, lifetime and
challenge, and of the exchanges that present one code at most one returns tokens. -/
theorem code_exchange_is_once_and_bound (d : Deps) (reqs : Nat → Request) (s : Store)
    (keyed : Keyed s.authorizationCodes)
    (drawn : ∀ row ∈ s.authorizationCodes, row.code < s.supply) (noLog : s.codeLog = [])
    (c : Pool Nat Store Failure Reply) (reached : Reaches (pool d reqs s) c) :
    (∀ i r body reply, reqs i = .exchange r body → c.procs i = .done reply →
      ∃ claim ∈ c.state.codeLog, claim.request = i ∧ Bound d r body claim) ∧
    (∀ i j r r' body body' reply reply', reqs i = .exchange r body →
      reqs j = .exchange r' body' → body.code = body'.code → c.procs i = .done reply →
      c.procs j = .done reply' → i = j) := by
  have init : Inv s := .initial keyed drawn noLog
  have threads : ∀ i, (handle d i (reqs i)).Sat protocol (fun _ _ => True) i
      (Replied d i (reqs i)) s := fun i => handle_sat (reqs i)
  have inv : Inv c.state := (sound init threads Env.respects reached).1
  have bound : ∀ i r body reply, reqs i = .exchange r body → c.procs i = .done reply →
      ∃ claim ∈ c.state.codeLog, claim.request = i ∧ Bound d r body claim := by
    intro i r body reply isExchange fin
    exact sound_done init threads Env.respects reached fin r body isExchange reply rfl
  refine ⟨bound, ?_⟩
  intro i j r r' body body' reply reply' isI isJ sameCode finishedI finishedJ
  obtain ⟨claim, mem, ownI, boundI⟩ := bound i r body reply isI finishedI
  obtain ⟨claim', mem', ownJ, boundJ⟩ := bound j r' body' reply' isJ finishedJ
  have same : claim.code.code = claim'.code.code := by
    have codes := boundI.code.symm.trans (sameCode.trans boundJ.code)
    simpa using codes
  rw [← ownI, ← ownJ, inv.once claim mem claim' mem' same]

section Example

def acme : Realm := { id := 1, name := "acme" }
def alice : User := { id := 2, realmId := 1, username := "alice" }

def aliceStore : Store where
  supply := 10
  realms := [acme]
  users := [alice]
  clients := [{ id := 3, realmId := 1, clientId := "app", clientType := .PUBLIC,
                redirectUris := ["https://app.example/*"] }]
  signingKeys := [{ id := 7, realmId := 1, createdAt := 0 }]

def aliceBody : Body where
  grant_type := some "authorization_code"
  client_id := some "app"
  code := some 10
  redirect_uri := some "https://app.example/callback"
  code_verifier := some "abcd"

/-- Alice logs in, and the code she gets is exchanged again and again. -/
def aliceRequests : Nat → Request
  | 0 => .authorize acme alice
      { response_type := "code", client_id := "app",
        redirect_uri := "https://app.example/callback", code_challenge := some "q80",
        code_challenge_method := some "S256" } {}
  | _ => .exchange acme aliceBody

def aliceRun : Pool Nat Store Failure Reply :=
  (((pool .transparent aliceRequests aliceStore).runOne 0).runOne 1).runOne 2

theorem alice_code_exchanged : (∃ res, aliceRun.procs 1 = .done (.tokens res)) ∧
      (∃ e, aliceRun.procs 2 = .fail e) ∧ ∃ claim ∈ aliceRun.state.codeLog, claim.request = 1 ∧
        Bound .transparent acme aliceBody claim := by
  have free : ∀ _ _ : Store, True := fun _ _ => trivial
  have reached : Reaches (pool .transparent aliceRequests aliceStore) aliceRun :=
    ((reaches_runOne free _ 0).trans (reaches_runOne free _ 1)).trans
      (reaches_runOne free _ 2)
  have rows : ∀ row ∈ aliceStore.authorizationCodes, False := by simp [aliceStore]
  refine ⟨⟨_, rfl⟩, ⟨_, rfl⟩, ?_⟩
  exact (code_exchange_is_once_and_bound .transparent aliceRequests aliceStore
    (fun a isA => absurd isA (rows a)) (fun row isRow => absurd isRow (rows row)) rfl aliceRun
    reached).1 1 acme aliceBody _ rfl rfl

end Example

end Idenplane.Auth.CodeExchange
