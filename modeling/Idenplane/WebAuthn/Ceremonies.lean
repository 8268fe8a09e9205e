import Idenplane.WebAuthn.SingleUse

/-! # Ceremonies side by side

A browser has asked for options and answers the challenge it got.  It is accepted if, until its
call has taken the challenge, nobody replaces or takes it, and no challenge of the user stands
before the challenge of the realm.  Other browsers can do all of that.  And the passkey has to
count: one that always signs zero is refused whatever the others do.
-/

namespace Idenplane.WebAuthn

open Atomic Auth Admin Pool

/-- A call that answers a waiting challenge with a registered passkey. -/
structure Ceremony where
  request : Nat
  realm : WebAuthnRealm
  response : AuthenticationResponse
  credential : Credential
  challenge : Challenge

section Ceremonies

variable (deps : Deps) (library : Library) (x : Ceremony)

def Ceremony.own : String :=
  challengeHash deps (userKey x.credential.userId) x.realm.id .authentication

def Ceremony.shared : String :=
  challengeHash deps (realmKey x.realm.id) x.realm.id .authentication

/-- The passkey belongs to the realm, the challenge was asked for in the name of its user or of
nobody, and the library verifies the assertion against the challenge as long as the counter that is
stored is smaller than the one that was signed, or both are zero. -/
structure Ceremony.Genuine : Prop where
  enabled : x.realm.webAuthnEnabled = true
  realm : x.credential.realmId = x.realm.id
  named : x.response.id = x.credential.credentialId
  type : x.challenge.type = actionType .authentication
  key : x.challenge.tokenHash = x.own deps ∨ x.challenge.tokenHash = x.shared deps
  verified : ∀ counter, counter < x.response.signCount ∨ counter = 0 ∧ x.response.signCount = 0 →
    library.verifyAuthenticationResponse
        (verifyOptions library x.realm x.response { x.credential with counter := counter }
          x.challenge.data.challenge) =
      .ok { verified := true, newCounter := x.response.signCount }

/-- The passkey is still registered. -/
def Ceremony.Registered (s : World) : Prop :=
  (∃ row ∈ s.credentials, row = { x.credential with counter := row.counter }) ∧
    (findUserById x.credential.userId s.store).isSome

/-- The passkey has not been used with a counter as large. -/
def Ceremony.Counting (s : World) : Prop :=
  ∀ row ∈ s.credentials, row.id = x.credential.id → row.counter < x.response.signCount

/-- No challenge that the call would take for its own stands before the challenge it answers. -/
def Ceremony.Unobstructed (s : World) : Prop :=
  ∀ row ∈ s.pendingActions, row.type = actionType .authentication → row.tokenHash = x.own deps →
    row = x.challenge ∨ row.expiresAt < s.now

/-- What other calls may do while the challenge waits.  They do not ask for a challenge under the
same key, nor take the challenge; and once the call has begun, they leave the challenges of the
passkey's user alone.  When it begins, the counter that is stored is smaller than the one that was
signed. -/
def Ceremony.Spares (s : World) : Event → Prop
  | .began request => request = x.request → x.challenge ∈ s.pendingActions →
      x.Unobstructed deps s ∧ x.Counting s
  | .replaced _ tokenHash => x.challenge ∈ s.pendingActions → tokenHash ≠ x.challenge.tokenHash ∧
      (.began x.request ∈ s.log → tokenHash ≠ x.own deps)
  | .issued _ row => x.challenge ∈ s.pendingActions → .began x.request ∈ s.log →
      row.tokenHash ≠ x.own deps
  | .taken request action => request = x.request ∨ (x.challenge ∈ s.pendingActions →
      action.id ≠ x.challenge.id ∧ (.began x.request ∈ s.log →
        ∀ row ∈ s.pendingActions, row.tokenHash = x.own deps → row.id ≠ action.id))
  | .accepted .. | .drawn .. => True

def Ceremony.Peaceful (s s' : World) : Prop :=
  ∀ event ∈ s'.log.head?, s'.log.tail = s.log → x.Spares deps s event

/-- Meanwhile the passkey stays registered, and the challenge has not expired while it waits. -/
structure Ceremony.During (s s' : World) : Prop extends Env s s' where
  registered : x.Registered s → x.Registered s'
  inTime : x.challenge ∈ s.pendingActions → s'.now ≤ x.challenge.expiresAt

structure Ceremony.Spared (s s' : World) : Prop where
  log : ∀ event ∈ s.log, event ∈ s'.log
  waits : x.challenge ∈ s.pendingActions → x.challenge ∈ s'.pendingActions
  clock : s.now ≤ s'.now
  inTime : x.challenge ∈ s.pendingActions → s.now ≤ x.challenge.expiresAt →
    s'.now ≤ x.challenge.expiresAt
  registered : x.Registered s → x.Registered s'
  own : x.challenge ∈ s.pendingActions → .began x.request ∈ s.log →
    ∀ row, row.type = actionType .authentication → row.tokenHash = x.own deps →
      (row ∈ s'.pendingActions ↔ row ∈ s.pendingActions)

variable {deps library x}

theorem Ceremony.Spared.refl (s : World) : x.Spared deps s s :=
  ⟨fun _ => id, id, Int.le_refl _, fun _ => id, id, fun _ _ _ _ _ => .rfl⟩

theorem Ceremony.Spared.trans {a b c : World} (ab : x.Spared deps a b) (bc : x.Spared deps b c) :
    x.Spared deps a c where
  log ev mem := bc.log ev (ab.log ev mem)
  waits waiting := bc.waits (ab.waits waiting)
  clock := ab.clock.trans bc.clock
  inTime waiting inTime := bc.inTime (ab.waits waiting) (ab.inTime waiting inTime)
  registered registered := bc.registered (ab.registered registered)
  own waiting began row isType isOwn :=
    (bc.own (ab.waits waiting) (ab.log _ began) row isType isOwn).trans
      (ab.own waiting began row isType isOwn)

variable (deps x) in
def Ceremony.protocol : Protocol Nat World where
  inv := Keyed
  rely i s s' := i = x.request → x.Spared deps s s'
  refl _ s _ := .refl s
  trans _ _ _ _ ab bc own := (ab own).trans (bc own)

section Steps

variable {i : Nat} {s s' : World}

theorem Ceremony.Peaceful.spares (peaceful : x.Peaceful deps s s') {event : Event}
    (isLog : s'.log = event :: s.log) : x.Spares deps s event :=
  peaceful event (by rw [isLog]; rfl) (by rw [isLog]; rfl)

theorem Ceremony.During.spared (isType : x.challenge.type = actionType .authentication)
    (during : x.During s s') : x.Spared deps s s' where
  log _ := during.log ▸ id
  waits := (during.challenges x.challenge isType).mpr
  clock := during.clock
  inTime waiting _ := during.inTime waiting
  registered := during.registered
  own _ _ row isType _ := during.challenges row isType

theorem Ceremony.Spared.noted (log : ∀ ev ∈ s.log, ev ∈ s'.log)
    (store : s'.store = s.store) (creds : s'.credentials = s.credentials)
    (waits : x.challenge ∈ s.pendingActions → x.challenge ∈ s'.pendingActions)
    (own : x.challenge ∈ s.pendingActions → .began x.request ∈ s.log →
      ∀ row, row.type = actionType .authentication → row.tokenHash = x.own deps →
        (row ∈ s'.pendingActions ↔ row ∈ s.pendingActions)) : x.Spared deps s s' where
  log := log
  waits := waits
  clock := by simp [World.now, store]
  inTime _ := by simp [World.now, store]
  registered := by simp [Ceremony.Registered, store, creds]
  own := own

theorem Ceremony.Registered.accepts {cred : Credential} {newCounter : Nat}
    (registered : x.Registered s)
    (rows : s'.credentials = s.credentials.map (counted cred.id newCounter))
    (store : s'.store = s.store) : x.Registered s' := by
  obtain ⟨⟨row, mem, isRow⟩, u⟩ := registered
  refine ⟨⟨counted cred.id newCounter row, ?_, ?_⟩, store ▸ u⟩
  · rw [rows]
    exact mem_map_of_mem mem
  · unfold counted
    split
    · rw [isRow]
    · exact isRow

theorem Does.spared (does : Does True i s s') (other : i ≠ x.request)
    (peaceful : x.Peaceful deps s s') : x.Spared deps s s' := by
  cases does with
  | stays => exact .refl s
  | @store store same =>
    refine ⟨fun _ => id, id, same.clock.ge, fun _ inTime => ?_, fun reg => ?_,
      fun _ _ _ _ _ => .rfl⟩
    · exact same.clock.trans_le inTime
    · exact ⟨reg.1, same.users _ reg.2⟩
  | draws => exact .noted (fun _ => .tail _) rfl rfl id fun _ _ _ _ _ => .rfl
  | begins => exact .noted (fun _ => .tail _) rfl rfl id fun _ _ _ _ _ => .rfl
  | replaces th =>
    have spares : x.Spares deps s (.replaced i th) := peaceful.spares rfl
    refine .noted (fun _ => .tail _) rfl rfl (fun waiting => ?_) fun waiting began row _ isOwn => ?_
    · simpa [challengesReplaced, note, waiting] using (spares waiting).1.symm
    · have apart := (spares waiting).2 began
      simp [challengesReplaced, note, isOwn, apart.symm]
  | issues th data exp _ free =>
    have spares := peaceful.spares rfl
    refine .noted (fun _ => .tail _) rfl rfl (.tail _) fun waiting began row _ isOwn => ?_
    have apart := spares waiting began
    constructor
    · intro mem
      refine (mem_cons.mp mem).resolve_left ?_
      rintro rfl
      exact apart isOwn
    · exact .tail _
  | takes act present isType =>
    have spares : x.Spares deps s (.taken i act) := peaceful.spares rfl
    have spares := spares.resolve_left other
    refine .noted (fun _ => .tail _) rfl rfl (fun waiting => ?_) fun waiting began row _ isOwn => ?_
    · simpa [note, waiting] using (spares waiting).1.symm
    · constructor
      · exact mem_of_mem_filter
      · intro mem
        have apart := (spares waiting).2 began row mem isOwn
        simpa [note, mem] using apart
  | accepts cred n present =>
    exact ⟨fun _ => .tail _, id, Int.le_refl _, fun _ => id, fun reg => reg.accepts rfl rfl,
      fun _ _ _ _ _ => .rfl⟩

end Steps

section Call

variable {s t : World}

/-- The challenge waits and has not expired, and the passkey is registered. -/
structure Ceremony.Ready (x : Ceremony) (s : World) : Prop where
  waits : x.challenge ∈ s.pendingActions
  inTime : s.now ≤ x.challenge.expiresAt
  registered : x.Registered s

theorem Ceremony.Ready.later (ready : x.Ready s) (spared : x.Spared deps s t) : x.Ready t :=
  ⟨spared.waits ready.waits, spared.inTime ready.waits ready.inTime,
    spared.registered ready.registered⟩

theorem Ceremony.Unobstructed.later (free : x.Unobstructed deps s) (ready : x.Ready s)
    (began : .began x.request ∈ s.log) (spared : x.Spared deps s t) : x.Unobstructed deps t := by
  intro row mem isType isOwn
  have before := (spared.own ready.waits began row isType isOwn).mp mem
  exact (free row before isType isOwn).imp id fun expired => expired.trans_le spared.clock

theorem findChallenge_of_mem (keyed : Keyed s) {row : Challenge} (mem : row ∈ s.pendingActions) :
    findChallenge row.tokenHash s = some row :=
  Table.Unique.find?_eq keyed.hashes mem

theorem others_idle {P : World → World → Prop} (j : Nat) (other : j ≠ x.request)
    (own : j = x.request) : P s t :=
  absurd own other

/-- The challenge is what the call takes from its key. -/
theorem consumeWebAuthnChallenge_takes {key : String}
    (isKey : challengeHash deps key x.realm.id .authentication = x.challenge.tokenHash)
    (isType : x.challenge.type = actionType .authentication) (ready : x.Ready s) :
    (consumeWebAuthnChallenge deps x.request key x.realm.id .authentication).Sat (x.protocol deps)
      (x.Peaceful deps) x.request
      (fun r t => r = .ok (some x.challenge.data.challenge) ∧ x.Registered t) s := by
  refine .read_bind fun t spared keyed => ?_
  have ready := ready.later (spared rfl)
  rw [isKey, findChallenge_of_mem keyed ready.waits, filter_some, isType]
  refine .read_bind fun u spared _ => ?_
  have ready := ready.later (spared rfl)
  rw [if_neg (Int.not_lt.mpr ready.inTime)]
  refine .bind (.atomic_bind fun v spared keyed _ => ?_)
  have ready := ready.later (spared rfl)
  have present : v.pendingActions.any (·.id = x.challenge.id) = true :=
    any_eq_true.mpr ⟨x.challenge, ready.waits, by simp⟩
  unfold challengeTaken
  rw [if_pos present]
  refine ⟨?_, others_idle, fun w spared _ => ?_⟩
  · have does : Does True x.request v _ :=
      .takes x.challenge ⟨x.challenge, ready.waits, rfl⟩ isType
    exact does.keyed keyed
  · exact fun z spared' _ => ⟨rfl, (spared' rfl).registered ((spared rfl).registered ready.registered)⟩

/-- Nothing but an expired challenge waits under the key of the user. -/
theorem consumeWebAuthnChallenge_passes (apart : x.challenge.tokenHash ≠ x.own deps)
    (ready : x.Ready s) (began : .began x.request ∈ s.log) (free : x.Unobstructed deps s) :
    (consumeWebAuthnChallenge deps x.request (userKey x.credential.userId) x.realm.id
        .authentication).Sat (x.protocol deps) (x.Peaceful deps) x.request
      (fun r t => r = .ok none ∧ x.Ready t) s := by
  refine .read_bind fun t spared _ => ?_
  have free := free.later ready began (spared rfl)
  have ready := ready.later (spared rfl)
  have began := (spared rfl).log _ began
  cases found : (findChallenge (x.own deps) t).filter (·.type = actionType .authentication) with
  | none =>
    change (findChallenge (challengeHash _ _ _ _) t).filter _ = _ at found
    rw [found]
    exact fun u spared _ => ⟨rfl, ready.later (spared rfl)⟩
  | some act =>
    obtain ⟨isFound, isType⟩ := filter_eq_some_iff.mp found
    have isType : act.type = actionType .authentication := by simpa using isType
    obtain ⟨mem, isOwn⟩ := findChallenge_spec isFound
    have other : act ≠ x.challenge := fun same => apart (same ▸ isOwn)
    have expired := (free act mem isType isOwn).resolve_left other
    change (findChallenge (challengeHash _ _ _ _) t).filter _ = _ at found
    rw [found]
    refine .read_bind fun u spared _ => ?_
    have expired' : act.expiresAt < u.now := expired.trans_le (spared rfl).clock
    rw [if_pos expired']
    have stays := spared rfl
    refine .bind (.atomic_bind fun v spared keyed _ => ?_)
    have whole := stays.trans (spared rfl)
    have waiting := (whole.own ready.waits began act isType isOwn).mpr mem
    have ready := ready.later whole
    have present : v.pendingActions.any (·.id = act.id) = true :=
      any_eq_true.mpr ⟨act, waiting, by simp⟩
    have left : x.challenge ∈ v.pendingActions.filter (·.id ≠ act.id) := by
      refine mem_filter.mpr ⟨ready.waits, ?_⟩
      have distinct : x.challenge.id ≠ act.id := fun same =>
        other (keyed.actions act waiting x.challenge ready.waits same.symm)
      simpa using distinct
    unfold challengeTaken
    rw [if_pos present]
    refine ⟨?_, others_idle, fun w spared _ => ?_⟩
    · have does : Does True x.request v _ := .takes act ⟨act, waiting, rfl⟩ isType
      exact does.keyed keyed
    · have after : x.Ready (note (.taken x.request act)
          { v with pendingActions := v.pendingActions.filter (·.id ≠ act.id) }) :=
        ⟨left, ready.inTime, ready.registered⟩
      exact fun z spared' _ => ⟨rfl, (after.later (spared rfl)).later (spared' rfl)⟩

theorem expectChallenge_takes (genuine : x.Genuine deps library) (ready : x.Ready s)
    (began : .began x.request ∈ s.log) (free : x.Unobstructed deps s) :
    (expectChallenge deps x.request x.realm x.credential.userId).Sat (x.protocol deps)
      (x.Peaceful deps) x.request
      (fun r t => r = .ok x.challenge.data.challenge ∧ x.Registered t) s := by
  by_cases isOwn : x.challenge.tokenHash = x.own deps
  · refine .bind ((consumeWebAuthnChallenge_takes isOwn.symm genuine.type ready).mono ?_)
    rintro res t ⟨rfl, reg⟩
    exact fun u spared _ => ⟨rfl, (spared rfl).registered reg⟩
  · have isShared := genuine.key.resolve_left isOwn
    refine .bind ((consumeWebAuthnChallenge_passes isOwn ready began free).mono ?_)
    rintro res t ⟨rfl, ready⟩
    refine .bind ((consumeWebAuthnChallenge_takes isShared.symm genuine.type ready).mono ?_)
    rintro res u ⟨rfl, reg⟩
    exact fun v spared _ => ⟨rfl, (spared rfl).registered reg⟩

theorem Ceremony.Registered.found (reg : x.Registered s) (keyed : Keyed s) :
    ∃ row ∈ s.credentials, ∃ u, findCredential x.credential.credentialId s = some (row, u) ∧
      row = { x.credential with counter := row.counter } := by
  obtain ⟨⟨row, mem, isRow⟩, isUser⟩ := reg
  obtain ⟨u, isUser⟩ := isSome_iff_exists.mp isUser
  have named : row.credentialId = x.credential.credentialId := by rw [isRow]
  have owner : row.userId = x.credential.userId := by rw [isRow]
  have found := Table.Unique.find?_eq keyed.names mem
  refine ⟨row, mem, u, ?_, isRow⟩
  unfold findCredential
  rw [← named, found]
  change (findUserById row.userId s.store >>= fun u => some (row, u)) = some (row, u)
  rw [owner, isUser]
  rfl

theorem verifyAuthentication_accepts (genuine : x.Genuine deps library) (ready : x.Ready s) :
    (verifyAuthentication deps library x.request x.realm x.response).Sat (x.protocol deps)
      (x.Peaceful deps) x.request
      (fun r _ => ∃ user cred, r = .ok (user, cred) ∧ cred.id = x.credential.id)
      s := by
  unfold verifyAuthentication
  rw [genuine.enabled]
  refine .atomic_bind fun t spared keyed peaceful => ?_
  have ready := ready.later (spared rfl)
  have spares : x.Spares deps t (.began x.request) := peaceful.spares rfl
  obtain ⟨free, counting⟩ := spares rfl ready.waits
  have does : Does True x.request t _ := .begins
  refine ⟨does.keyed keyed, others_idle, ?_⟩
  obtain ⟨row, mem, user, hit, isRow⟩ := ready.registered.found keyed
  change Prog.Sat _ _ _ _ (orFail (findCredential x.response.id t) _ >>= _) _
  rw [genuine.named, hit]
  have isRealm : row.realmId = x.realm.id := by rw [isRow]; exact genuine.realm
  have owner : row.userId = x.credential.userId := by rw [isRow]
  have isId : row.id = x.credential.id := by rw [isRow]
  have less := counting row mem isId
  refine .require_bind (fun _ => ?_) fun refused => absurd isRealm (by simpa using refused)
  simp only [owner]
  have began : x.Ready (note (.began x.request) t) :=
    ⟨ready.waits, ready.inTime, ready.registered⟩
  refine .bind ((expectChallenge_takes genuine began mem_cons_self free).mono ?_)
  rintro res u ⟨rfl, reg⟩
  have checked : checkAssertion library x.realm x.response row x.challenge.data.challenge =
      .done x.response.signCount := by
    have answered := genuine.verified row.counter (.inl less)
    rw [← isRow] at answered
    simp [checkAssertion, answered]
  simp only [checked, done_bind, recordCounter, bind_assoc]
  refine .require_bind (fun _ => ?_) fun refused => absurd less (by simpa using refused)
  refine .atomic_bind fun v spared keyed _ => ?_
  obtain ⟨⟨row', mem, isRow'⟩, -⟩ := (spared rfl).registered reg
  have isId' : row'.id = x.credential.id := by rw [isRow']
  have present : v.credentials.any (·.id = row.id) = true :=
    any_eq_true.mpr ⟨row', mem, by simp [isId, isId']⟩
  have does : Does True x.request v _ := counterUpdated_does row x.response.signCount v
  have kept := does.keyed keyed
  have updated : (counterUpdated x.request row x.response.signCount v).1 = true := by
    unfold counterUpdated
    rw [if_pos present]
  refine ⟨kept, others_idle, ?_⟩
  rw [updated]
  exact fun _ _ _ => ⟨user, row, rfl, isId⟩

end Call

end Ceremonies

/-- The call has ended, with the user signed in by the passkey of that identifier, if it has
ended. -/
def Succeeds (c : Pool Nat World Failure Reply) (i id : Nat) : Prop :=
  ∀ res, c.procs i = .ofResult res →
    ∃ user credential, res = .ok (.user user credential) ∧ credential.id = id

/-- Passkey ceremonies do not disturb each other, in the runs that `allowed` admits: the answer to
a challenge that waits succeeds, and no challenge is accepted twice. -/
structure Independent (deps : Deps) (library : Library) (calls : Nat → Call) (start : World)
    (allowed : Ceremony → World → World → Prop) : Prop where
  succeeds : ∀ (x : Ceremony) (c c' : Pool Nat World Failure Reply),
    Pool.Reaches Env (fun _ _ => True) (pool deps library calls start) c →
    x.challenge ∈ c.state.pendingActions → c.state.now ≤ x.challenge.expiresAt →
    x.Genuine deps library → x.Registered c.state →
    calls x.request = .verify x.realm x.response →
    c.procs x.request = handle deps library x.request (calls x.request) →
    Pool.Reaches x.During (allowed x) c c' → Succeeds c' x.request x.credential.id
  once : ∀ (c : Pool Nat World Failure Reply) (i j challenge : Nat),
    Pool.Reaches Env (fun _ _ => True) (pool deps library calls start) c →
    Accepts calls c i challenge → Accepts calls c j challenge → i = j

/-- In peaceful runs they do not. -/
theorem ceremonies_independent {deps : Deps} {library : Library}
    (documented : library.Documented) {calls : Nat → Call} {start : World}
    (initial : Initial start) :
    Independent deps library calls start (fun x => x.Peaceful deps) := by
  constructor
  · intro x c c' reached waits inTime genuine reg isCall starts later
    have promises (k : Nat) : (handle deps library k (calls k)).Sat onceOnly (fun _ _ => True) k
        (onOk (Spent k (calls k))) start :=
      handle_once documented fun row mem => by simp [initial.log] at mem
    have once : onceOnly.inv c.state :=
      (sound initial.once promises (fun s s' once env => env.once once) reached).1
    have keyed : Keyed c.state := once.keyed
    have steps (k : Nat) : (c.procs k).Keeps (Does True k) :=
      keeps (fun k => handle_does deps library (calls k)) reached k
    have threads (k : Nat) : (c.procs k).Sat (x.protocol deps) (x.Peaceful deps) k
        (fun r _ => k = x.request → ∃ u cred, r = .ok (.user u cred) ∧
          cred.id = x.credential.id) c.state := by
      by_cases own : k = x.request
      · subst own
        rw [starts, isCall]
        refine .bind ((verifyAuthentication_accepts genuine ⟨waits, inTime, reg⟩).mono ?_)
        rintro res t ⟨u, cred, rfl, isId⟩
        exact fun _ _ _ _ => ⟨u, cred, rfl, isId⟩
      · refine .ofAllowed (steps k) (fun t t' keyed does peaceful => ?_)
          fun _ _ _ _ same => absurd same own
        exact ⟨does.keyed keyed, fun _ _ => does.spared own peaceful⟩
    obtain ⟨kept, sats⟩ := sound (P := x.protocol deps) keyed threads
      (fun s s' keyed during => ⟨during.keyed keyed, fun _ _ => during.spared genuine.type⟩) later
    intro res isResult
    have here := sats x.request
    rw [isResult] at here
    cases res with
    | error f => exact here _ (fun _ => .refl _) kept rfl
    | ok reply => exact here _ (fun _ => .refl _) kept rfl
  · intro c i j chal reached
    exact accepted_once documented initial reached

section Example

def twoBrowsers (signCount : Nat) : Nat → Call
  | 0 => .options shop none
  | 1 => .options shop none
  | _ => .verify shop (answer 10 signCount)

theorem passkeyOf_initial (counter : Nat) : Initial (passkeyOf counter) :=
  ⟨passkeyOf_keyed counter, rfl, by simp [passkeyOf]⟩

theorem browsers_independent : Independent .transparent checking (twoBrowsers 5) (passkeyOf 4)
      (fun x => x.Peaceful .transparent) :=
  ceremonies_independent checking_documented (passkeyOf_initial 4)

/-- Alice has her options, and nobody else has asked for any. -/
def aliceWaits (counter signCount : Nat) : Pool Nat World Failure Reply :=
  (pool .transparent checking (twoBrowsers signCount) (passkeyOf counter)).schedule [0, 0, 0, 0]

def aliceChallenge : Challenge where
  id := 11
  tokenHash := challengeHash .transparent (realmKey 1) 1 .authentication
  type := actionType .authentication
  data := { key := realmKey 1, realmId := 1, challenge := 10 }
  expiresAt := 5 * 60 * 1000

def aliceAnswers (counter signCount : Nat) : Ceremony where
  request := 2
  realm := shop
  response := answer 10 signCount
  credential := passkeyRow counter
  challenge := aliceChallenge

theorem aliceAnswers_genuine (counter signCount : Nat) :
    (aliceAnswers counter signCount).Genuine .transparent checking where
  enabled := rfl
  realm := rfl
  named := rfl
  type := rfl
  key := .inr rfl
  verified stored accepts := by
    have passes : ¬((0 < signCount ∨ 0 < stored) ∧ signCount ≤ stored) := by
      change stored < signCount ∨ stored = 0 ∧ signCount = 0 at accepts
      omega
    simp [checking, verifyOptions, aliceAnswers, aliceChallenge, answer, passes]

/-- The stranger's options replace the challenge, before Alice answers it. -/
def strangerAsks : Pool Nat World Failure Reply :=
  (aliceWaits 4 5).schedule [1, 1, 1, 1, 2, 2, 2, 2, 2]

/-- Alice answers at once, with a passkey that is kept in a cloud and does not count. -/
def aliceAlone : Pool Nat World Failure Reply := (aliceWaits 0 0).schedule [2, 2, 2, 2, 2]

theorem stranger_disturbs :
    ¬Independent .transparent checking (twoBrowsers 5) (passkeyOf 4) (fun _ _ _ => True) ∧
      ¬Independent .transparent checking (twoBrowsers 0) (passkeyOf 0) (fun _ _ _ => True) := by
  constructor
  · intro independent
    have registered : (aliceAnswers 4 5).Registered (aliceWaits 4 5).state :=
      ⟨⟨passkeyRow 4, by decide +kernel, rfl⟩, rfl⟩
    have succeeds := independent.succeeds (aliceAnswers 4 5) (aliceWaits 4 5) strangerAsks
      (reaches_schedule (by decide +kernel)) (by decide +kernel) (by decide +kernel)
      (aliceAnswers_genuine 4 5) registered rfl rfl (reaches_schedule (by decide +kernel))
    obtain ⟨u, cred, isOk, -⟩ := succeeds (.error _) rfl
    cases isOk
  · intro independent
    have registered : (aliceAnswers 0 0).Registered (aliceWaits 0 0).state :=
      ⟨⟨passkeyRow 0, by decide +kernel, rfl⟩, rfl⟩
    have succeeds := independent.succeeds (aliceAnswers 0 0) (aliceWaits 0 0) aliceAlone
      (reaches_schedule (by decide +kernel)) (by decide +kernel) (by decide +kernel)
      (aliceAnswers_genuine 0 0) registered rfl rfl (reaches_schedule (by decide +kernel))
    obtain ⟨u, cred, isOk, -⟩ := succeeds (.error counterRollback) rfl
    cases isOk

end Example

end Idenplane.WebAuthn
