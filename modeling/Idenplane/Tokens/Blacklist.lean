import Idenplane.Names
import Idenplane.Lib.Pool
import Mathlib.Algebra.Order.Group.Int

/-! # The blacklist of revoked tokens

A revoked token is written to the database, and then to Redis or, when Redis does not answer, to
a map of the process.  A lookup asks Redis, the map and the database in this order.  Any number of
instances of the service share the database and Redis.  A pool runs their calls; the environment
lets time pass, restarts processes, and takes Redis down and up again, with or without its keys.

The row in the database is the only place that nothing but its expiry removes, so a revocation
holds as long as its row.  The first call for a token decides when the row expires.
-/

namespace Idenplane.Tokens

open Atomic Pool

structure RevokedToken where
  jti : String
  expiresAt : Int
  deriving DecidableEq

/-- What becomes of a command that is sent to Redis. -/
inductive Reply where
  | answered
  /-- The command was executed, and its answer was lost. -/
  | lost
  | failed
  deriving DecidableEq

/-- A call of `blacklistToken` and the time at which it began, for the history. -/
structure Asked where
  call : Nat
  jti : String
  exp : Int
  time : Int
  deriving DecidableEq

/-- What the instances share, and what each of them has.  Instances are numbered. -/
structure System where
  /-- `Date.now()`. -/
  now : Int := 0
  revokedTokens : List RevokedToken := []
  /-- The keys `token:blacklist:jti`, with the time at which they expire. -/
  redis : List (String × Int) := []
  memoryFallback : Nat → List (String × Int) := fun _ => []
  isAvailable : Nat → Bool := fun _ => false
  reply : Nat → Reply := fun _ => .answered
  asked : List Asked := []

abbrev Op (α : Type) := Prog System Empty α

inductive Answer where
  | returned
  | answer (flag : Bool)
  deriving DecidableEq

def setKey (jti : String) (ttl : Int) (s : System) : System :=
  { s with redis := (jti, s.now + ttl * 1000) :: s.redis.filter (·.1 ≠ jti) }

/-- `redis.set`, when Redis is available; whether it was acknowledged. -/
def redisSet (inst : Nat) (jti : String) (ttl : Int) : Op Bool :=
  atomic fun s =>
    if s.isAvailable inst then
      match s.reply inst with
      | .answered => (true, setKey jti ttl s)
      | .lost => (false, setKey jti ttl s)
      | .failed => (false, s)
    else (false, s)

/-- `redis.exists`, when Redis is available and answers. -/
def redisExists (inst : Nat) (jti : String) (s : System) : Bool :=
  s.isAvailable inst && s.reply inst = .answered &&
    s.redis.any fun key => key.1 = jti && s.now < key.2

/-- `revokedToken.upsert`, whose update changes nothing. -/
def upsert (jti : String) (exp : Int) (s : System) : System :=
  if s.revokedTokens.any (·.jti = jti) then s
  else { s with revokedTokens := ⟨jti, exp * 1000⟩ :: s.revokedTokens }

def findRecord (jti : String) (s : System) : Option RevokedToken :=
  s.revokedTokens.find? (·.jti = jti)

def remember (inst : Nat) (jti : String) (exp : Int) (s : System) : System :=
  { s with
    memoryFallback := update s.memoryFallback inst
      ((jti, exp) :: (s.memoryFallback inst).filter (·.1 ≠ jti)) }

def begin_ (call : Nat) (jti : String) (exp : Int) : Op Int :=
  atomic fun s => (s.now, { s with asked := ⟨call, jti, exp, s.now⟩ :: s.asked })

def blacklistToken (call inst : Nat) (jti : String) (exp : Int) : Op Answer := do
  let now ← begin_ call jti exp
  if exp - now / 1000 ≤ 0 then pure .returned
  else do
    modify (upsert jti exp)
    let stored ← redisSet inst jti (exp - now / 1000)
    if stored then pure .returned
    else do
      modify (remember inst jti exp)
      pure .returned

/-- A row of the database goes to Redis again, for the time that is left. -/
def repopulate (inst : Nat) (row : RevokedToken) (now : Int) : Op Unit :=
  if 0 < row.expiresAt / 1000 - now / 1000 then do
    let _ ← redisSet inst row.jti (row.expiresAt / 1000 - now / 1000)
    pure ()
  else pure ()

def isBlacklisted (inst : Nat) (jti : String) : Op Answer := do
  let exists_ ← read (redisExists inst jti)
  if exists_ then pure (.answer true)
  else do
    let remembered ← read fun s => (s.memoryFallback inst).any (·.1 = jti)
    if remembered then pure (.answer true)
    else do
      let record ← read (findRecord jti)
      match record with
      | none => pure (.answer false)
      | some row => do
        let now ← read System.now
        repopulate inst row now
        pure (.answer true)

def rehydrate (inst : Nat) (now : Int) : List RevokedToken → Op Answer
  | [] => pure .returned
  | row :: rest => do
    repopulate inst row now
    rehydrate inst now rest

def rehydrateFromDatabase (inst : Nat) : Op Answer := do
  let available ← read fun s => s.isAvailable inst
  if !available then pure .returned
  else do
    let now ← read System.now
    let rows ← read fun s => s.revokedTokens.filter (now < ·.expiresAt)
    rehydrate inst now rows

/-- The entries of the map that have expired are dropped; returns `new Date()`. -/
def dropRemembered (inst : Nat) : Op Int :=
  atomic fun s => (s.now,
    { s with
      memoryFallback := update s.memoryFallback inst
        ((s.memoryFallback inst).filter fun e => s.now / 1000 ≤ e.2) })

def deleteExpired (date : Int) (s : System) : System :=
  { s with revokedTokens := s.revokedTokens.filter (date ≤ ·.expiresAt) }

def cleanup (inst : Nat) : Op Answer := do
  let date ← dropRemembered inst
  modify (deleteExpired date)
  pure .returned

inductive Call where
  | blacklistToken (inst : Nat) (jti : String) (exp : Int)
  | isBlacklisted (inst : Nat) (jti : String)
  | rehydrateFromDatabase (inst : Nat)
  | cleanup (inst : Nat)

def Call.program (call : Nat) : Call → Op Answer
  | .blacklistToken inst jti exp => Tokens.blacklistToken call inst jti exp
  | .isBlacklisted inst jti => Tokens.isBlacklisted inst jti
  | .rehydrateFromDatabase inst => Tokens.rehydrateFromDatabase inst
  | .cleanup inst => Tokens.cleanup inst

/-- Time passes, processes restart without their maps, and Redis comes, goes and loses keys. -/
structure Env (s s' : System) : Prop where
  now : s.now ≤ s'.now
  redis : s'.redis ⊆ s.redis
  memory : ∀ inst, s'.memoryFallback inst = s.memoryFallback inst ∨ s'.memoryFallback inst = []
  rows : s'.revokedTokens = s.revokedTokens
  asked : s'.asked = s.asked

def System.start (now : Int) (isAvailable : Nat → Bool) (reply : Nat → Reply) : System where
  now := now
  isAvailable := isAvailable
  reply := reply

def pool (calls : Nat → Call) (s : System) : Pool Nat System Empty Answer where
  state := s
  procs i := (calls i).program i

def Free (_ _ : System) : Prop := True

def Mentioned (jti : String) (s : System) : Prop := ∃ asked ∈ s.asked, asked.jti = jti

structure Known (s : System) : Prop where
  rows : ∀ row ∈ s.revokedTokens, ∃ asked ∈ s.asked, asked.jti = row.jti ∧
    row.expiresAt = asked.exp * 1000
  redis : ∀ key ∈ s.redis, Mentioned key.1 s
  memory : ∀ inst, ∀ e ∈ s.memoryFallback inst, Mentioned e.1 s

structure Later (s s' : System) : Prop where
  now : s.now ≤ s'.now
  asked : s.asked ⊆ s'.asked
  rows : ∀ row ∈ s.revokedTokens, row ∈ s'.revokedTokens ∨ row.expiresAt < s'.now

theorem Later.refl (s : System) : Later s s :=
  ⟨le_rfl, Subset.refl _, fun _ mem => .inl mem⟩

theorem Later.trans {a b c : System} (ab : Later a b) (bc : Later b c) : Later a c where
  now := ab.now.trans bc.now
  asked := Subset.trans ab.asked bc.asked
  rows row mem := by
    cases ab.rows row mem with
    | inl kept => exact bc.rows row kept
    | inr expired => exact .inr (expired.trans_le bc.now)

def protocol : Protocol Nat System where
  inv := Known
  rely _ := Later
  refl _ := Later.refl
  trans _ := Later.trans

section Steps

variable {s s' : System} {inst : Nat} {jti : String} {exp ttl : Int}

theorem Mentioned.later (mentioned : Mentioned jti s) (later : Later s s') : Mentioned jti s' := by
  obtain ⟨asked, mem, isJti⟩ := mentioned
  exact ⟨asked, later.asked mem, isJti⟩

theorem Env.respects (s s' : System) (known : Known s) (move : Env s s') :
    Known s' ∧ ∀ i, protocol.rely i s s' := by
  have later : Later s s' :=
    ⟨move.now, move.asked ▸ Subset.refl _, fun row mem => .inl (move.rows ▸ mem)⟩
  refine ⟨⟨?_, ?_, ?_⟩, fun _ => later⟩
  · rw [move.rows, move.asked]
    exact known.rows
  · intro key mem
    exact (known.redis key (move.redis mem)).later later
  · intro n e mem
    cases move.memory n with
    | inl same =>
      rw [same] at mem
      exact (known.memory n e mem).later later
    | inr lost =>
      rw [lost] at mem
      cases mem

theorem setKey_later (jti : String) (ttl : Int) (s : System) : Later s (setKey jti ttl s) :=
  ⟨le_rfl, Subset.refl _, fun _ mem => .inl mem⟩

theorem setKey_known (known : Known s) (mentioned : Mentioned jti s) :
    Known (setKey jti ttl s) where
  rows := known.rows
  redis key mem := by
    cases mem_cons.mp mem with
    | inl new => exact new ▸ mentioned
    | inr old => exact known.redis key (mem_filter.mp old).1
  memory := known.memory

theorem upsert_later (jti : String) (exp : Int) (s : System) : Later s (upsert jti exp s) := by
  unfold upsert
  split
  · exact .refl s
  · exact ⟨le_rfl, Subset.refl _, fun _ mem => .inl (.tail _ mem)⟩

theorem upsert_known (known : Known s)
    (asked : ∃ asked ∈ s.asked, asked.jti = jti ∧ asked.exp = exp) : Known (upsert jti exp s) := by
  unfold upsert
  split
  · exact known
  · refine ⟨?_, known.redis, known.memory⟩
    intro row mem
    cases mem_cons.mp mem with
    | inl new =>
      obtain ⟨record, isRecord, isJti, isExp⟩ := asked
      exact ⟨record, isRecord, by rw [isJti, new], by rw [isExp, new]⟩
    | inr old => exact known.rows row old

theorem mem_update {maps : Nat → List (String × Int)} {es : List (String × Int)} {n : Nat}
    {e : String × Int} (mem : e ∈ update maps inst es n) :
    e ∈ es ∨ e ∈ maps n := by
  by_cases same : n = inst
  · subst same
    rw [update_self] at mem
    exact .inl mem
  · rw [update_of_ne same] at mem
    exact .inr mem

theorem remember_later (inst : Nat) (jti : String) (exp : Int) (s : System) :
    Later s (remember inst jti exp s) :=
  ⟨le_rfl, Subset.refl _, fun _ mem => .inl mem⟩

theorem remember_known (known : Known s) (mentioned : Mentioned jti s) :
    Known (remember inst jti exp s) where
  rows := known.rows
  redis := known.redis
  memory n entry mem := by
    cases mem_update mem with
    | inl added =>
      cases mem_cons.mp added with
      | inl new => exact new ▸ mentioned
      | inr old => exact known.memory inst entry (mem_filter.mp old).1
    | inr old => exact known.memory n entry old

theorem deleteExpired_later {date : Int} (past : date ≤ s.now) : Later s (deleteExpired date s) where
  now := le_rfl
  asked := Subset.refl _
  rows row mem := by
    by_cases expired : row.expiresAt < date
    · exact .inr (expired.trans_le past)
    · exact .inl (mem_filter.mpr ⟨mem, by simpa using expired⟩)

theorem deleteExpired_known (known : Known s) (date : Int) : Known (deleteExpired date s) where
  rows row mem := known.rows row (mem_filter.mp mem).1
  redis := known.redis
  memory := known.memory

end Steps

section Calls

variable {s : System} {i inst : Nat} {jti : String} {exp : Int}
  {post : Except Empty Answer → System → Prop}

theorem redisSet_sat {ttl : Int} {rest : Bool → Op Answer} (mentioned : Mentioned jti s)
    (follow : ∀ row t, Later s t → Known t → (rest row).Sat protocol Free i post t) :
    (redisSet inst jti ttl >>= rest).Sat protocol Free i post s := by
  refine .atomic_bind fun t move known _ => ?_
  have later : Later t (setKey jti ttl t) := setKey_later jti ttl t
  have kept : Known (setKey jti ttl t) := setKey_known known (mentioned.later move)
  have unchanged : ∀ row, (rest row).Sat protocol Free i post t := fun row =>
    follow row t move known
  have changed : ∀ row, (rest row).Sat protocol Free i post (setKey jti ttl t) :=
    fun row => follow row _ (.trans move later) kept
  split
  · split
    · exact ⟨kept, fun _ _ => later, changed true⟩
    · exact ⟨kept, fun _ _ => later, changed false⟩
    · exact ⟨known, fun _ _ => .refl t, unchanged false⟩
  · exact ⟨known, fun _ _ => .refl t, unchanged false⟩

theorem repopulate_sat {row : RevokedToken} {now : Int} {rest : Unit → Op Answer}
    (mentioned : Mentioned row.jti s)
    (follow : ∀ t, Later s t → Known t → (rest ()).Sat protocol Free i post t) :
    (repopulate inst row now >>= rest).Sat protocol Free i post s := by
  unfold repopulate
  split
  · exact redisSet_sat mentioned fun _ t later known => follow t later known
  · exact .ofRely follow

theorem rehydrate_sat (now : Int) {rows : List RevokedToken}
    (mentioned : ∀ row ∈ rows, Mentioned row.jti s)
    (follow : ∀ t, Later s t → Known t → post (.ok .returned) t) :
    (rehydrate inst now rows).Sat protocol Free i post s := by
  induction rows generalizing s with
  | nil => exact .done follow
  | cons row rest ih =>
    refine repopulate_sat (mentioned row mem_cons_self) fun t later _ => ?_
    exact ih (fun other mem => (mentioned other (.tail _ mem)).later later)
      fun u further known => follow u (.trans later further) known

theorem rehydrateFromDatabase_sat (follow : ∀ t, Later s t → Known t → post (.ok .returned) t) :
    (rehydrateFromDatabase inst).Sat protocol Free i post s := by
  refine .read_bind fun t₁ move₁ known₁ => ?_
  split
  · exact .done fun t later known => follow t (.trans move₁ later) known
  · refine .read_bind fun t₂ move₂ _ => .read_bind fun t₃ move₃ known₃ => ?_
    refine rehydrate_sat _ ?_ fun t later known =>
      follow t (.trans move₁ (.trans move₂ (.trans move₃ later))) known
    intro row mem
    obtain ⟨asked, isAsked, isJti, -⟩ := known₃.rows row (mem_filter.mp mem).1
    exact ⟨asked, isAsked, isJti⟩

theorem dropRemembered_moves (inst : Nat) (known : Known s) (es : List (String × Int))
    (fewer : es ⊆ s.memoryFallback inst) :
    Known { s with memoryFallback := update s.memoryFallback inst es } ∧
      Later s { s with memoryFallback := update s.memoryFallback inst es } := by
  refine ⟨⟨known.rows, known.redis, ?_⟩, le_rfl, Subset.refl _, fun _ mem => .inl mem⟩
  intro n e mem
  cases mem_update mem with
  | inl kept => exact known.memory inst e (fewer kept)
  | inr same => exact known.memory n e same

open Later

theorem cleanup_sat (follow : ∀ t, Later s t → Known t → post (.ok .returned) t) :
    (cleanup inst).Sat protocol Free i post s := by
  refine .atomic_bind fun t₁ move₁ known₁ _ => ?_
  obtain ⟨dropped, later₁⟩ := dropRemembered_moves inst known₁
    ((t₁.memoryFallback inst).filter fun e => t₁.now / 1000 ≤ e.2)
    (fun _ mem => (mem_filter.mp mem).1)
  refine ⟨dropped, fun _ _ => later₁, .modify_bind fun t₂ move₂ known₂ _ => ?_⟩
  have past : t₁.now ≤ t₂.now := (trans later₁ move₂).now
  have later₂ : Later t₂ (deleteExpired t₁.now t₂) := deleteExpired_later past
  refine ⟨deleteExpired_known known₂ _, fun _ _ => later₂, .done fun t later known => ?_⟩
  exact follow t (.trans move₁ (.trans later₁ (.trans move₂ (.trans later₂ later)))) known

/-- There is a row for the token that expires at this time, or the time has passed. -/
def Kept (jti : String) (expiresAt : Int) (s : System) : Prop :=
  (∃ row ∈ s.revokedTokens, row.jti = jti ∧ row.expiresAt = expiresAt) ∨ expiresAt < s.now

theorem Kept.later {exp : Int} {s' : System} (kept : Kept jti exp s)
    (later : Later s s') : Kept jti exp s' := by
  obtain ⟨row, isRow, ofJti, expires⟩ | expired := kept
  · cases later.rows row isRow with
    | inl still => exact .inl ⟨row, still, ofJti, expires⟩
    | inr expired => exact .inr (expires ▸ expired)
  · exact .inr (expired.trans_le later.now)

def Stored (jti : String) (s : System) : Prop :=
  ∃ asked ∈ s.asked, asked.jti = jti ∧ Kept jti (asked.exp * 1000) s

theorem Stored.later {s' : System} (row : Stored jti s) (later : Later s s') :
    Stored jti s' := by
  obtain ⟨asked, isAsked, isJti, kept⟩ := row
  exact ⟨asked, later.asked isAsked, isJti, kept.later later⟩

theorem upsert_stored (known : Known s)
    (asked : ∃ asked ∈ s.asked, asked.jti = jti ∧ asked.exp = exp) :
    Stored jti (upsert jti exp s) := by
  unfold upsert
  split
  · rename_i present
    obtain ⟨row, isRow, ofJti⟩ := any_eq_true.mp present
    obtain rfl : row.jti = jti := of_decide_eq_true ofJti
    obtain ⟨record, isRecord, isJti, expires⟩ := known.rows row isRow
    exact ⟨record, isRecord, isJti, .inl ⟨row, isRow, rfl, expires⟩⟩
  · obtain ⟨record, isRecord, isJti, isExp⟩ := asked
    exact ⟨record, isRecord, isJti, .inl ⟨_, mem_cons_self, rfl, by rw [isExp]⟩⟩

/-- The call has begun, and if it began in time, the token is stored. -/
def Blacklisted (i : Nat) (jti : String) (exp : Int) (s : System) : Prop :=
  ∃ asked ∈ s.asked, asked.call = i ∧ asked.exp = exp ∧ (asked.time / 1000 < exp → Stored jti s)

theorem blacklistToken_sat : (blacklistToken i inst jti exp).Sat protocol Free i
      (onOk fun _ t => Blacklisted i jti exp t) s := by
  refine .atomic_bind fun t₁ _ known₁ _ => ?_
  have begun : Later t₁ { t₁ with asked := ⟨i, jti, exp, t₁.now⟩ :: t₁.asked } :=
    ⟨le_rfl, subset_cons_self _ _, fun _ mem => .inl mem⟩
  refine ⟨⟨?_, ?_, ?_⟩, fun _ _ => begun, ?_⟩
  · intro row mem
    obtain ⟨asked, isAsked, about⟩ := known₁.rows row mem
    exact ⟨asked, begun.asked isAsked, about⟩
  · intro key mem
    exact (known₁.redis key mem).later begun
  · intro n e mem
    exact (known₁.memory n e mem).later begun
  generalize isBegun : { t₁ with asked := ⟨i, jti, exp, t₁.now⟩ :: t₁.asked } = u at *
  have isAsked : ⟨i, jti, exp, t₁.now⟩ ∈ u.asked := isBegun ▸ mem_cons_self
  split
  · -- The token has expired, and nothing is written.
    rename_i tooLate
    refine .done fun t later _ => ⟨_, asked later isAsked, rfl, rfl, fun inTime => ?_⟩
    dsimp only at inTime tooLate
    omega
  · refine .modify_bind fun t₂ move₂ known₂ _ => ?_
    have record : ∃ asked ∈ t₂.asked, asked.jti = jti ∧ asked.exp = exp :=
      ⟨_, asked move₂ isAsked, rfl, rfl⟩
    have stored := upsert_stored known₂ record
    have upserted := upsert_later jti exp t₂
    refine ⟨upsert_known known₂ record, fun _ _ => upserted, ?_⟩
    have finished : ∀ t, Later (upsert jti exp t₂) t → Blacklisted i jti exp t := fun t later =>
      ⟨_, (trans (trans move₂ upserted) later).asked isAsked, rfl, rfl, fun _ => stored.later later⟩
    obtain ⟨asked, isIn, isJti, -⟩ := record
    have mentioned : Mentioned jti (upsert jti exp t₂) := ⟨asked, upserted.asked isIn, isJti⟩
    refine redisSet_sat mentioned fun acknowledged t₃ move₃ _ => ?_
    split
    · exact .done fun t later _ => finished t (.trans move₃ later)
    · refine .modify_bind fun t₄ move₄ known₄ _ => ?_
      have still := mentioned.later (.trans move₃ move₄)
      have remembered := remember_later inst jti exp t₄
      refine ⟨remember_known known₄ still, fun _ _ => remembered, .done fun t later _ => ?_⟩
      exact finished t (.trans move₃ (.trans move₄ (.trans remembered later)))

/-- A lookup that succeeds is about a token that some call mentioned; one that fails does so
when every row of the token that was there at its start has expired. -/
def LookedUp (jti : String) (rows : List Int) (answer : Answer) (s : System) : Prop :=
  (answer = .answer true ∧ Mentioned jti s) ∨
    (answer = .answer false ∧ ∀ expiresAt ∈ rows, expiresAt < s.now)

theorem isBlacklisted_sat {rows : List Int} (kept : ∀ exp ∈ rows, Kept jti exp s) :
    (isBlacklisted inst jti).Sat protocol Free i (onOk (LookedUp jti rows)) s := by
  have found : ∀ u, Mentioned jti u →
      (pure (.answer true) : Op Answer).Sat protocol Free i (onOk (LookedUp jti rows)) u :=
    fun u mentioned => .done fun t later _ => .inl ⟨rfl, mentioned.later later⟩
  refine .read_bind fun t₁ move₁ known₁ => ?_
  split
  · rename_i exists_
    simp only [redisExists, and_eq_true, any_eq_true, decide_eq_true_eq] at exists_
    obtain ⟨-, key, isKey, rfl, -⟩ := exists_
    exact found t₁ (known₁.redis key isKey)
  refine .read_bind fun t₂ move₂ known₂ => ?_
  split
  · rename_i remembered
    obtain ⟨e, isEntry, isJti⟩ := any_eq_true.mp remembered
    exact found t₂ (of_decide_eq_true isJti ▸ known₂.memory inst e isEntry)
  refine .read_bind fun t₃ move₃ known₃ => ?_
  have along : Later s t₃ := .trans move₁ (.trans move₂ move₃)
  cases record : findRecord jti t₃ with
  | none =>
    refine .done fun t later _ => .inr ⟨rfl, fun exp mem => ?_⟩
    cases (kept exp mem).later along with
    | inl present =>
      obtain ⟨row, isRow, ofJti, -⟩ := present
      exact absurd ofJti (by simpa using find?_eq_none.mp record row isRow)
    | inr expired => exact expired.trans_le (now later)
  | some row =>
    have ofJti : row.jti = jti := by simpa using find?_some record
    obtain ⟨asked, isAsked, isJti, -⟩ := known₃.rows row (mem_of_find?_eq_some record)
    have mentioned : Mentioned jti t₃ := ⟨asked, isAsked, isJti.trans ofJti⟩
    refine .read_bind fun t₄ move₄ _ => ?_
    have still : Mentioned row.jti t₄ := ofJti ▸ mentioned.later move₄
    exact repopulate_sat still fun t later _ => found t (ofJti ▸ still.later later)

def achieves (calls : Nat → Call) (i : Nat) : Except Empty Answer → System → Prop :=
  onOk fun answer s =>
    match calls i with
    | .blacklistToken _ jti exp => Blacklisted i jti exp s
    | .isBlacklisted _ jti => LookedUp jti [] answer s
    | _ => True

theorem program_sat (calls : Nat → Call) (i : Nat) (s : System) :
    ((calls i).program i).Sat protocol Free i (achieves calls i) s := by
  unfold achieves
  cases calls i with
  | blacklistToken inst jti exp => exact blacklistToken_sat
  | isBlacklisted inst jti => exact isBlacklisted_sat (fun _ no => by cases no)
  | rehydrateFromDatabase inst => exact rehydrateFromDatabase_sat fun _ _ _ => trivial
  | cleanup inst => exact cleanup_sat fun _ _ _ => trivial

end Calls

section Runs

variable {calls : Nat → Call} {c c' : Pool Nat System Empty Answer}

theorem start_known (now : Int) (isAvailable : Nat → Bool) (reply : Nat → Reply) :
    Known (.start now isAvailable reply) := by
  constructor
  · intro row mem
    cases mem
  · intro key mem
    cases mem
  · intro inst e mem
    cases mem

/-- `blacklistToken(jti, exp)` was called before `exp` and has returned, and no call for the token
has given an earlier expiry. -/
structure Revoked (calls : Nat → Call) (i inst : Nat) (jti : String) (exp : Int)
    (c : Pool Nat System Empty Answer) : Prop where
  isCall : calls i = .blacklistToken inst jti exp
  returned : c.procs i = .done .returned
  inTime : ∀ asked ∈ c.state.asked, asked.call = i → asked.time / 1000 < exp
  earliest : ∀ asked ∈ c.state.asked, asked.jti = jti → exp ≤ asked.exp

/-- In every run of any calls on any instances, with restarts and Redis outages: once a token is
revoked, every lookup that begins later and is answered no later than `exp` says so, and a lookup
of a token that no call has mentioned says that it is not revoked. -/
theorem revoked_tokens_stay_revoked (calls : Nat → Call) (now : Int) (isAvailable : Nat → Bool)
    (reply : Nat → Reply) (c c' : Pool Nat System Empty Answer)
    (reached : Pool.Reaches Env Free (pool calls (.start now isAvailable reply)) c)
    (later : Pool.Reaches Env Free c c') (j inst' : Nat) (jti : String) (flag : Bool)
    (isLookup : calls j = .isBlacklisted inst' jti) (answered : c'.procs j = .done (.answer flag)) :
    (∀ i inst exp, Revoked calls i inst jti exp c → c.procs j = (calls j).program j →
      c'.state.now ≤ exp * 1000 → flag = true) ∧
    ((∀ asked ∈ c'.state.asked, asked.jti ≠ jti) → flag = false) := by
  have known : Known (.start now isAvailable reply) := start_known now isAvailable reply
  have threads : ∀ i, ((calls i).program i).Sat protocol Free i (achieves calls i)
      (.start now isAvailable reply) := fun i => program_sat calls i _
  constructor
  · intro i inst exp revoked unbegun inTime
    obtain ⟨inv, sats⟩ := sound known threads Env.respects reached
    have achieved : achieves calls i (.ok .returned) c.state :=
      sound_done known threads Env.respects reached revoked.returned
    simp only [achieves, onOk, revoked.isCall] at achieved
    obtain ⟨record, isRecord, ofCall, -, stores⟩ := achieved
    obtain ⟨asked, isAsked, ofJti, kept⟩ := stores (revoked.inTime record isRecord ofCall)
    -- From here on the lookup runs with the knowledge that the row is there.
    let post : Nat → Except Empty Answer → System → Prop := fun k =>
      if k = j then onOk (LookedUp jti [asked.exp * 1000]) else achieves calls k
    have onwards : ∀ k, (c.procs k).Sat protocol Free k (post k) c.state := by
      intro k
      by_cases same : k = j
      · subst same
        simp only [post, if_true, unbegun, isLookup, Call.program]
        exact isBlacklisted_sat fun expiresAt mem => mem_singleton.mp mem ▸ kept
      · simp only [post, if_neg same]
        exact sats k
    have looked : post j (.ok (.answer flag)) c'.state :=
      sound_done inv onwards Env.respects later answered
    simp only [post, if_true, onOk] at looked
    obtain ⟨isTrue, -⟩ | ⟨-, expired⟩ := looked
    · exact Answer.answer.inj isTrue
    · have past := expired _ (mem_singleton.mpr rfl)
      have bound := revoked.earliest asked isAsked ofJti
      omega
  · intro unmentioned
    have looked : achieves calls j (.ok (.answer flag)) c'.state :=
      sound_done known threads Env.respects (Relation.ReflTransGen.trans reached later) answered
    simp only [achieves, onOk, isLookup] at looked
    obtain ⟨-, asked, isAsked, ofJti⟩ | ⟨isFalse, -⟩ := looked
    · exact absurd ofJti (unmentioned asked isAsked)
    · exact Answer.answer.inj isFalse

end Runs

section Example

def quietSystem : System := .start 0 (fun _ => false) fun _ => .answered

/-- The instance 0 revokes a token, and the instance 1 looks it up. -/
def twoInstances : Nat → Call
  | 0 => .blacklistToken 0 "token" 100
  | 1 => .isBlacklisted 1 "token"
  | _ => .isBlacklisted 1 "other"

theorem revocation_seen_elsewhere :
    ∃ c c' flag, Pool.Reaches Env Free (pool twoInstances quietSystem) c ∧
      Pool.Reaches Env Free c c' ∧ c.procs 0 = .done .returned ∧
      c'.procs 1 = .done (.answer flag) ∧ flag = true := by
  have first : Pool.Reaches Env Free (pool twoInstances quietSystem)
      ((pool twoInstances quietSystem).runOne 0) := reaches_runOne (fun _ _ => trivial) _ 0
  have snd : Pool.Reaches Env Free ((pool twoInstances quietSystem).runOne 0)
      (((pool twoInstances quietSystem).runOne 0).runOne 1) :=
    reaches_runOne (fun _ _ => trivial) _ 1
  refine ⟨_, _, _, first, snd, rfl, rfl, ?_⟩
  refine (revoked_tokens_stay_revoked twoInstances 0 _ _ _ _ first snd 1 1 "token" _ rfl rfl).1
    0 0 100 ⟨rfl, rfl, ?_, ?_⟩ rfl (by decide)
  · intro asked mem _
    rw [mem_singleton.mp mem]
    decide
  · intro asked mem _
    rw [mem_singleton.mp mem]

def lastSecond : System := .start 100000 (fun _ => false) fun _ => .answered

def twoExpiries : Nat → Call
  | 0 => .blacklistToken 0 "token" 100
  | 1 => .blacklistToken 0 "token" 200
  | 2 => .cleanup 0
  | _ => .isBlacklisted 1 "token"

def afterCalls : Pool Nat System Empty Answer :=
  ((pool twoExpiries quietSystem).runOne 0).runOne 1

def muchLater : Pool Nat System Empty Answer :=
  ⟨{ afterCalls.state with now := 150000 }, afterCalls.procs⟩

/-- A call at the time of the expiry stores nothing, and a second call does not extend what the
first has stored. -/
theorem revocation_lost :
    (∃ c c', Pool.Reaches Env Free (pool twoInstances lastSecond) c ∧ Pool.Reaches Env Free c c' ∧
      c.procs 0 = .done .returned ∧ c.procs 1 = (twoInstances 1).program 1 ∧
      c'.procs 1 = .done (.answer false) ∧ c'.state.now ≤ 100 * 1000) ∧
    ∃ c c', Pool.Reaches Env Free (pool twoExpiries quietSystem) c ∧ Pool.Reaches Env Free c c' ∧
      c.procs 1 = .done .returned ∧ c.procs 3 = (twoExpiries 3).program 3 ∧
      c'.procs 3 = .done (.answer false) ∧ c'.state.now ≤ 200 * 1000 := by
  have runs : ∀ (c : Pool Nat System Empty Answer) i, Pool.Reaches Env Free c (c.runOne i) :=
    reaches_runOne fun _ _ => trivial
  constructor
  · exact ⟨_, _, runs _ 0, runs _ 1, rfl, rfl, rfl, by decide⟩
  · have passes : Pool.Step Env Free afterCalls muchLater :=
      .env ⟨by decide, Subset.refl _, fun _ => .inl rfl, rfl, rfl⟩
    refine ⟨afterCalls, (muchLater.runOne 2).runOne 3, .trans (runs _ 0) (runs _ 1),
      .head passes (.trans (runs _ 2) (runs _ 3)), rfl, rfl, rfl, by decide⟩

end Example

end Idenplane.Tokens
