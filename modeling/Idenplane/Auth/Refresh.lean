import Idenplane.Lib.Pool
import Idenplane.Auth.Grants

/-! # Rotation of refresh tokens

Any number of refresh requests run side by side, one database call at a time, while
the rest of the server goes on.  The handler looks the presented token up, revokes it
and creates its successor in three separate steps, so two requests can both pass the
check before either of them revokes, and the answer to a replay can fall between the
revocation and the successor.

A run is undisturbed when neither happens.  In undisturbed runs a refresh token is
exchanged at most once and a replay ends its session for good.
-/

namespace Idenplane.Auth.Refresh

open Atomic Pool Prog.Sat

variable {s s' : Store} {i j : Nat}

def request : RefreshEvent → Nat
  | .rotated i _ => i
  | .succeeded i _ _ => i
  | .replayed i _ => i

def replayIn : RefreshEvent → Option Nat
  | .replayed _ sessionId => some sessionId
  | _ => none

structure Later (old new : RefreshToken) : Prop where
  id : new.id = old.id
  tokenHash : new.tokenHash = old.tokenHash
  sessionId : new.sessionId = old.sessionId
  revoked : old.revoked = true → new.revoked = true

theorem Later.refl (row : RefreshToken) : Later row row := ⟨rfl, rfl, rfl, fun h => h⟩

theorem Later.trans {a b c : RefreshToken} (ab : Later a b) (bc : Later b c) : Later a c :=
  ⟨bc.id.trans ab.id, bc.tokenHash.trans ab.tokenHash, bc.sessionId.trans ab.sessionId,
    fun h => bc.revoked (ab.revoked h)⟩

/-- A token's identifier and its hash identify its row: both columns are unique. -/
def Keyed (rows : List RefreshToken) : Prop :=
  ∀ a ∈ rows, ∀ b ∈ rows, a.id = b.id ∨ a.tokenHash = b.tokenHash → a = b

/-- The row was drawn from the supply before `bound`. -/
def Drawn (bound : Nat) (row : RefreshToken) : Prop :=
  row.id < bound ∧ row.tokenHash.preimage < bound

/-- The row is drawn from the supply after `bound`. -/
def Fresh (bound : Nat) (row : RefreshToken) : Prop :=
  bound ≤ row.id ∧ bound ≤ row.tokenHash.preimage

/-- What the rest of the server does to refresh tokens: it revokes them, deletes them,
and creates the first token of a session that no refresh has seen. -/
structure Env (s s' : Store) : Prop where
  log : s'.refreshLog = s.refreshLog
  supply : s.supply ≤ s'.supply
  keyed : Keyed s'.refreshTokens
  drawn : ∀ row ∈ s'.refreshTokens, Drawn s'.supply row
  rows : ∀ row' ∈ s'.refreshTokens, (∃ row ∈ s.refreshTokens, Later row row') ∨
    Fresh s.supply row' ∧ ∀ i, .replayed i row'.sessionId ∉ s.refreshLog

/-- The event is not a race.  A token is revoked by the request that presented it while
it is unrevoked; and when its successor is created, no replay in the session has been
answered since. -/
def Unraced (s : Store) : RefreshEvent → Prop
  | .rotated _ token => ∀ row ∈ s.refreshTokens, row.id = token.id → row.revoked = false
  | .succeeded i token _ =>
    ∀ event ∈ s.refreshLog.takeWhile (· ≠ .rotated i token), replayIn event ≠ some token.sessionId
  | .replayed _ _ => True

instance (s : Store) (event : RefreshEvent) : Decidable (Unraced s event) :=
  match event with
  | .rotated _ token =>
    inferInstanceAs (Decidable (∀ row ∈ s.refreshTokens, row.id = token.id → row.revoked = false))
  | .succeeded i token _ =>
    inferInstanceAs (Decidable (∀ event ∈ s.refreshLog.takeWhile (· ≠ .rotated i token),
      replayIn event ≠ some token.sessionId))
  | .replayed _ _ => .isTrue trivial

def Undisturbed (s s' : Store) : Prop :=
  ∀ event ∈ s'.refreshLog.head?, s'.refreshLog.tail = s.refreshLog → Unraced s event

instance : DecidableRel Undisturbed := fun s s' =>
  inferInstanceAs (Decidable (∀ event ∈ s'.refreshLog.head?,
    s'.refreshLog.tail = s.refreshLog → Unraced s event))

def pool (d : Deps) (realms : Nat → Realm) (bodies : Nat → Body) (s : Store) :
    Pool Nat Store Failure TokenResponse :=
  ⟨s, fun i => handleRefreshTokenGrant d i (realms i) (bodies i)⟩

def Succeeds (log : List RefreshEvent) (parent child : Sha256) : Prop :=
  ∃ i token successor, .succeeded i token successor ∈ log ∧ token.tokenHash = parent ∧
    successor.tokenHash = child

def Descends (log : List RefreshEvent) : Sha256 → Sha256 → Prop :=
  Relation.ReflTransGen (Succeeds log)

structure SingleUse (bodies : Nat → Body) (c : Pool Nat Store Failure TokenResponse) : Prop where
  /-- Requests that present one token do not both return tokens. -/
  once : ∀ i j token answer answer', (bodies i).refresh_token = some token →
    (bodies j).refresh_token = some token → c.procs i = .done answer →
    c.procs j = .done answer' → i = j
  /-- Of the tokens that descend from one token, at most one is unrevoked. -/
  line : ∀ parent, ∀ a ∈ c.state.refreshTokens, ∀ b ∈ c.state.refreshTokens,
    Descends c.state.refreshLog parent a.tokenHash →
    Descends c.state.refreshLog parent b.tokenHash →
    a.revoked = false → b.revoked = false → a = b
  /-- After a replay was answered, no token of its session is accepted. -/
  final : ∀ newer older i sessionId, c.state.refreshLog = newer ++ .replayed i sessionId :: older →
    ∀ j token successor, .succeeded j token successor ∈ newer → token.sessionId ≠ sessionId

structure Inv (s : Store) : Prop where
  keyed : Keyed s.refreshTokens
  drawn : ∀ row ∈ s.refreshTokens, Drawn s.supply row
  rotated : ∀ i token, .rotated i token ∈ s.refreshLog → token.tokenHash.preimage < s.supply ∧
    ∀ row ∈ s.refreshTokens, row.tokenHash = token.tokenHash → row.revoked = true
  replayed : ∀ i sessionId, .replayed i sessionId ∈ s.refreshLog →
    ∀ row ∈ s.refreshTokens, row.sessionId = sessionId → row.revoked = true
  rotatedOnce : ∀ i j token token', .rotated i token ∈ s.refreshLog →
    .rotated j token' ∈ s.refreshLog → token.tokenHash = token'.tokenHash → i = j
  succeeded : ∀ i token successor, .succeeded i token successor ∈ s.refreshLog →
    .rotated i token ∈ s.refreshLog
  succeededOnce : ∀ i token token' successor successor',
    .succeeded i token successor ∈ s.refreshLog → .succeeded i token' successor' ∈ s.refreshLog →
    successor = successor'
  final : s.refreshLog.Pairwise fun newer older => ∀ i token successor j,
    newer = .succeeded i token successor → older ≠ .replayed j token.sessionId

theorem Inv.ofRows (inv : Inv s) (log : s'.refreshLog = s.refreshLog)
    (supply : s.supply ≤ s'.supply) (keyed : Keyed s'.refreshTokens)
    (drawn : ∀ row ∈ s'.refreshTokens, Drawn s'.supply row)
    (rows : ∀ row' ∈ s'.refreshTokens, (∃ row ∈ s.refreshTokens, Later row row') ∨
      Fresh s.supply row' ∧ ∀ i, .replayed i row'.sessionId ∉ s.refreshLog) : Inv s' where
  keyed := keyed
  drawn := drawn
  rotated := by
    intro i tok m
    rw [log] at m
    obtain ⟨bound, revoked⟩ := inv.rotated i tok m
    refine ⟨bound.trans_le supply, ?_⟩
    intro row' isRow sameHash
    rcases rows row' isRow with ⟨row, isOld, later⟩ | ⟨fresh, -⟩
    · exact later.revoked (revoked row isOld (later.tokenHash.symm.trans sameHash))
    · have late := fresh.2
      rw [sameHash] at late
      omega
  replayed := by
    intro i sid m row' isRow sameSession
    rw [log] at m
    rcases rows row' isRow with ⟨row, isOld, later⟩ | ⟨-, unseen⟩
    · exact later.revoked (inv.replayed i sid m row isOld (later.sessionId.symm.trans sameSession))
    · rw [sameSession] at unseen
      exact absurd m (unseen i)
  rotatedOnce := by
    rw [log]
    exact inv.rotatedOnce
  succeeded := by
    rw [log]
    exact inv.succeeded
  succeededOnce := by
    rw [log]
    exact inv.succeededOnce
  final := by
    rw [log]
    exact inv.final

variable {chg : RefreshToken → RefreshToken}

theorem Keyed.map {rows : List RefreshToken} (keyed : Keyed rows) (later : ∀ row, Later row (chg row)) :
    Keyed (rows.map chg) := by
  intro a' isA b' isB same
  obtain ⟨a, oldA, rfl⟩ := mem_map.mp isA
  obtain ⟨b, oldB, rfl⟩ := mem_map.mp isB
  rw [(later a).id, (later b).id, (later a).tokenHash, (later b).tokenHash] at same
  rw [keyed a oldA b oldB same]

theorem Inv.map (inv : Inv s) (later : ∀ row, Later row (chg row)) :
    Inv { s with refreshTokens := s.refreshTokens.map chg } := by
  refine inv.ofRows rfl le_rfl (inv.keyed.map later) ?_ ?_
  · intro row' isRow
    obtain ⟨row, isOld, rfl⟩ := mem_map.mp isRow
    have bound := inv.drawn row isOld
    rw [Drawn, ← (later row).id, ← (later row).tokenHash] at bound
    exact bound
  · intro row' isRow
    obtain ⟨row, isOld, rfl⟩ := mem_map.mp isRow
    exact .inl ⟨row, isOld, later row⟩

theorem later_revokeIf (test : RefreshToken → Prop) [DecidablePred test] (row : RefreshToken) :
    Later row (if test row then { row with revoked := true } else row) := by
  by_cases h : test row
  · rw [if_pos h]
    exact ⟨rfl, rfl, rfl, fun _ => rfl⟩
  · rw [if_neg h]
    exact .refl row

/-- The others add events of their own and treat the rows as everybody does. -/
structure Rely (i : Nat) (s s' : Store) : Prop where
  supply : s.supply ≤ s'.supply
  log : ∃ new, s'.refreshLog = new ++ s.refreshLog ∧ ∀ event ∈ new, request event ≠ i
  rows : ∀ row' ∈ s'.refreshTokens, (∃ row ∈ s.refreshTokens, Later row row') ∨ Fresh s.supply row'

theorem Rely.refl (i : Nat) (s : Store) : Rely i s s :=
  ⟨le_rfl, ⟨[], rfl, by simp⟩, fun row isRow => .inl ⟨row, isRow, .refl row⟩⟩

theorem Rely.trans {a b c : Store} (ab : Rely i a b) (bc : Rely i b c) : Rely i a c where
  supply := ab.supply.trans bc.supply
  log := grown_trans ab.log bc.log
  rows := by
    intro row'' isRow
    rcases bc.rows row'' isRow with ⟨row', isRow', later'⟩ | fresh
    · rcases ab.rows row' isRow' with ⟨row, isOld, later⟩ | fresh
      · exact .inl ⟨row, isOld, later.trans later'⟩
      · exact .inr ⟨later'.id ▸ fresh.1, later'.tokenHash ▸ fresh.2⟩
    · exact .inr ⟨ab.supply.trans fresh.1, ab.supply.trans fresh.2⟩

def protocol : Protocol Nat Store where
  inv := Inv
  rely := Rely
  refl := Rely.refl
  trans := fun _ => Rely.trans

theorem Env.respects (s s' : Store) (inv : Inv s) (move : Env s s') : Inv s' ∧ ∀ i, Rely i s s' :=
  ⟨inv.ofRows move.log move.supply move.keyed move.drawn move.rows,
    fun _ => ⟨move.supply, ⟨[], move.log, by simp⟩,
      fun row isRow => (move.rows row isRow).imp_right And.left⟩⟩

structure Quiet (s s' : Store) : Prop where
  log : s'.refreshLog = s.refreshLog
  supply : s.supply ≤ s'.supply
  rows : s'.refreshTokens = s.refreshTokens

theorem Quiet.respects (s s' : Store) (inv : Inv s) (move : Quiet s s') :
    Inv s' ∧ ∀ i, Rely i s s' := by
  apply Env.respects s s' inv
  refine ⟨move.log, move.supply, move.rows ▸ inv.keyed, ?_, ?_⟩
  · intro row isRow
    rw [move.rows] at isRow
    have bound := inv.drawn row isRow
    exact ⟨bound.1.trans_le move.supply, bound.2.trans_le move.supply⟩
  · intro row isRow
    rw [move.rows] at isRow
    exact .inl ⟨row, isRow, .refl row⟩

def Silent (i : Nat) (s : Store) : Prop := ∀ event ∈ s.refreshLog, request event ≠ i

theorem Silent.stable (silent : Silent i s) (move : Rely i s s') : Silent i s' := by
  obtain ⟨new, cut, foreign⟩ := move.log
  intro ev m
  rw [cut] at m
  rcases mem_append.mp m with m | m
  · exact foreign ev m
  · exact silent ev m

/-- The request read this row.  As long as the row exists it has this hash and this
session. -/
structure Read (token : RefreshToken) (s : Store) : Prop where
  drawn : Drawn s.supply token
  row : ∀ row ∈ s.refreshTokens, row.id = token.id →
    row.tokenHash = token.tokenHash ∧ row.sessionId = token.sessionId

variable {tok : RefreshToken}

theorem Inv.read (inv : Inv s) (isRow : tok ∈ s.refreshTokens) : Read tok s where
  drawn := inv.drawn tok isRow
  row := by
    intro row isRow' same
    rw [inv.keyed row isRow' tok isRow (.inl same)]
    exact ⟨rfl, rfl⟩

theorem Read.stable (read : Read tok s) (move : Rely i s s') : Read tok s' where
  drawn := ⟨read.drawn.1.trans_le move.supply, read.drawn.2.trans_le move.supply⟩
  row := by
    intro row' isRow same
    rcases move.rows row' isRow with ⟨row, isOld, later⟩ | fresh
    · rw [later.tokenHash, later.sessionId]
      exact read.row row isOld (later.id.symm.trans same)
    · have := fresh.1
      have := read.drawn.1
      omega

/-- The request revoked the token while no replay of its session had been answered, and
has caused no event since. -/
def Rotating (i : Nat) (token : RefreshToken) (s : Store) : Prop :=
  ∃ new old, s.refreshLog = new ++ .rotated i token :: old ∧
    (∀ event ∈ new, request event ≠ i) ∧ (∀ event ∈ old, request event ≠ i) ∧
    ∀ j, .replayed j token.sessionId ∉ old

theorem Rotating.stable (rotating : Rotating i tok s) (move : Rely i s s') : Rotating i tok s' := by
  obtain ⟨new, old, cut, foreign, pre, unseen⟩ := rotating
  obtain ⟨newer, cut', foreign'⟩ := move.log
  refine ⟨newer ++ new, old, by rw [cut', cut, append_assoc], ?_, pre, unseen⟩
  intro ev m
  rcases mem_append.mp m with m | m
  · exact foreign' ev m
  · exact foreign ev m

theorem Rotating.mem (rotating : Rotating i tok s) : .rotated i tok ∈ s.refreshLog := by
  obtain ⟨new, old, cut, -⟩ := rotating
  simp [cut]

theorem Rotating.alone {token : RefreshToken}
    (rotating : Rotating i token s) {event : RefreshEvent} (m : event ∈ s.refreshLog)
    (own : request event = i) : event = .rotated i token := by
  obtain ⟨new, old, cut, foreign, pre, -⟩ := rotating
  rw [cut] at m
  rcases mem_append.mp m with m | m
  · exact absurd own (foreign event m)
  · rcases mem_cons.mp m with same | m
    · exact same
    · exact absurd own (pre event m)

/-- When the successor may be created, no replay of the session was ever answered. -/
theorem Rotating.unseen {tok successor : RefreshToken}
    (rotating : Rotating i tok s) (unraced : Unraced s (.succeeded i tok successor)) (j : Nat) :
    .replayed j tok.sessionId ∉ s.refreshLog := by
  obtain ⟨new, old, cut, foreign, -, pre⟩ := rotating
  have since : s.refreshLog.takeWhile (· ≠ .rotated i tok) = new := by
    rw [cut, List.takeWhile_append_of_pos]
    · simp
    · intro ev m
      have other := foreign ev m
      simp only [ne_eq, decide_not, Bool.not_eq_eq_eq_not, Bool.not_true, decide_eq_false_iff_not]
      rintro rfl
      exact other rfl
  intro m
  rw [cut] at m
  rcases mem_append.mp m with m | m
  · exact unraced _ (since ▸ m) rfl
  · rcases mem_cons.mp m with same | m
    · cases same
    · exact pre j m

variable {issue : Issue}

section Steps

variable {i : Nat} {s : Store}

theorem revokeFamily_inv (inv : Inv s) (sid : Nat) : Inv (revokeFamily i sid s) := by
  have revoked := inv.map (later_revokeIf fun row => row.sessionId = sid)
  refine ⟨revoked.keyed, revoked.drawn, ?_, ?_, ?_, ?_, ?_, ?_⟩
  · intro j tok m
    exact revoked.rotated j tok (by simpa [revokeFamily] using m)
  · intro j sess m row isRow sameSession
    rcases mem_cons.mp m with same | m
    · cases same
      obtain ⟨old, -, rfl⟩ := mem_map.mp isRow
      by_cases inSession : old.sessionId = sid
      · simp [inSession]
      · simp [inSession] at sameSession
    · exact revoked.replayed j sess m row isRow sameSession
  · intro j k tok tok' first snd
    exact inv.rotatedOnce j k tok tok' (by simpa [revokeFamily] using first)
      (by simpa [revokeFamily] using snd)
  · intro j tok successor m
    exact .tail _ (inv.succeeded j tok successor (by simpa [revokeFamily] using m))
  · intro j tok tok' successor successor' first snd
    exact inv.succeededOnce j tok tok' successor successor'
      (by simpa [revokeFamily] using first) (by simpa [revokeFamily] using snd)
  · refine pairwise_cons.mpr ⟨?_, inv.final⟩
    intro ev _ j tok successor k no
    cases no

theorem revokeFamily_rely (sessionId : Nat) (other : j ≠ i) :
    Rely j s (revokeFamily i sessionId s) where
  supply := le_rfl
  log := ⟨[.replayed i sessionId], rfl, by simpa [request] using other.symm⟩
  rows := by
    intro row' isRow
    obtain ⟨row, isOld, rfl⟩ := mem_map.mp isRow
    exact .inl ⟨row, isOld, later_revokeIf (fun row => row.sessionId = sessionId) row⟩

def rotatedStore (i : Nat) (token : RefreshToken) (s : Store) : Store :=
  { s with
    refreshTokens := s.refreshTokens.map fun row =>
      if row.id = token.id then { row with revoked := true } else row
    refreshLog := .rotated i token :: s.refreshLog }

theorem rotateToken_eq (tok : RefreshToken) : rotateToken i tok s =
      if s.refreshTokens.any (·.id = tok.id) then (true, rotatedStore i tok s)
      else (false, s) := rfl

/-- The row a request revokes was unrevoked, so nobody revoked it to replace it before. -/
theorem rotated_unseen (inv : Inv s) {tok row : RefreshToken} (read : Read tok s)
    (isRow : row ∈ s.refreshTokens) (same : row.id = tok.id) (unrevoked : row.revoked = false)
    {tok' : RefreshToken} (m : .rotated j tok' ∈ s.refreshLog) :
    tok'.tokenHash ≠ tok.tokenHash := by
  intro sameHash
  have revoked := (inv.rotated j tok' m).2 row isRow
    ((read.row row isRow same).1.trans sameHash.symm)
  simp [unrevoked] at revoked

theorem rotatedStore_inv (inv : Inv s) {tok row : RefreshToken} (read : Read tok s)
    (isRow : row ∈ s.refreshTokens) (same : row.id = tok.id) (unrevoked : row.revoked = false) :
    Inv (rotatedStore i tok s) := by
  have revoked := inv.map (later_revokeIf fun row => row.id = tok.id)
  refine ⟨revoked.keyed, revoked.drawn, ?_, ?_, ?_, ?_, ?_, ?_⟩
  · intro j tok' m
    rcases mem_cons.mp m with new | m
    · cases new
      refine ⟨read.drawn.2, ?_⟩
      intro row' isRow' sameHash
      obtain ⟨old, isOld, rfl⟩ := mem_map.mp isRow'
      have keptHash := (later_revokeIf (fun row => row.id = tok.id) old).tokenHash
      have isSame : old = row := inv.keyed old isOld row isRow
        (.inr (keptHash.symm.trans (sameHash.trans (read.row row isRow same).1.symm)))
      simp [isSame, same]
    · exact revoked.rotated j tok' m
  · intro j sid m
    exact revoked.replayed j sid (by simpa [rotatedStore] using m)
  · intro j k first snd isFirst isSecond sameHash
    rcases mem_cons.mp isFirst with new | isFirst
    · cases new
      rcases mem_cons.mp isSecond with new | isSecond
      · cases new
        rfl
      · exact absurd sameHash.symm (rotated_unseen inv read isRow same unrevoked isSecond)
    · rcases mem_cons.mp isSecond with new | isSecond
      · cases new
        exact absurd sameHash (rotated_unseen inv read isRow same unrevoked isFirst)
      · exact inv.rotatedOnce j k first snd isFirst isSecond sameHash
  · intro j tok' successor m
    exact .tail _ (inv.succeeded j tok' successor (by simpa [rotatedStore] using m))
  · intro j tok' tok'' successor successor' first snd
    exact inv.succeededOnce j tok' tok'' successor successor'
      (by simpa [rotatedStore] using first) (by simpa [rotatedStore] using snd)
  · refine pairwise_cons.mpr ⟨?_, inv.final⟩
    intro ev _ j tok' successor k no
    cases no

theorem rotatedStore_rely (tok : RefreshToken) (other : j ≠ i) :
    Rely j s (rotatedStore i tok s) where
  supply := le_rfl
  log := ⟨[.rotated i tok], rfl, by simpa [request] using other.symm⟩
  rows := by
    intro row' isRow
    obtain ⟨row, isOld, rfl⟩ := mem_map.mp isRow
    exact .inl ⟨row, isOld, later_revokeIf (fun row => row.id = tok.id) row⟩

theorem rotatedStore_rotating (inv : Inv s) (silent : Silent i s) {tok row : RefreshToken}
    (read : Read tok s) (isRow : row ∈ s.refreshTokens) (same : row.id = tok.id)
    (unrevoked : row.revoked = false) : Rotating i tok (rotatedStore i tok s) := by
  refine ⟨[], s.refreshLog, rfl, by simp, silent, ?_⟩
  intro j m
  have revoked := inv.replayed j tok.sessionId m row isRow (read.row row isRow same).2
  simp [unrevoked] at revoked

/-- The store after the successor of `token` was created. -/
def succeededStore (i : Nat) (token successor : RefreshToken) (s : Store) : Store :=
  { s with
    supply := s.supply + 2
    refreshTokens := successor :: s.refreshTokens
    refreshLog := .succeeded i token successor :: s.refreshLog }

theorem createRefreshToken_eq (replaces : issue.replaces = some (i, tok)) :
    createRefreshToken issue s = if s.sessions.any (·.id = issue.sessionId) then
        (some s.supply, succeededStore i tok (issue.refreshTokenRow s) s)
      else (none, s) := by
  simp only [createRefreshToken, replaces, succeededStore]

theorem succeededStore_inv (inv : Inv s)
    (rotating : Rotating i tok s) (sess : issue.sessionId = tok.sessionId)
    (unseen : ∀ j, .replayed j tok.sessionId ∉ s.refreshLog) :
    Inv (succeededStore i tok (issue.refreshTokenRow s) s) := by
  have kept : ∀ row ∈ s.refreshTokens, row.id ≠ s.supply + 1 ∧ row.tokenHash ≠ sha256 s.supply := by
    intro row isRow
    have bound := inv.drawn row isRow
    refine ⟨by have := bound.1; omega, ?_⟩
    intro same
    have := bound.2
    rw [same] at this
    exact lt_irrefl _ this
  refine ⟨?_, ?_, ?_, ?_, ?_, ?_, ?_, ?_⟩
  · intro a isA b isB same
    rcases mem_cons.mp isA with rfl | oldA
    · rcases mem_cons.mp isB with rfl | oldB
      · rfl
      · rcases same with same | same
        · exact absurd same.symm (kept b oldB).1
        · exact absurd same.symm (kept b oldB).2
    · rcases mem_cons.mp isB with rfl | oldB
      · rcases same with same | same
        · exact absurd same (kept a oldA).1
        · exact absurd same (kept a oldA).2
      · exact inv.keyed a oldA b oldB same
  · intro row isRow
    rcases mem_cons.mp isRow with rfl | isOld
    · exact ⟨lt_succ_self _, Nat.lt_add_of_pos_right (by decide)⟩
    · have bound := inv.drawn row isOld
      exact ⟨Nat.lt_add_right 2 bound.1, Nat.lt_add_right 2 bound.2⟩
  · intro j tok' m
    obtain ⟨bound, revoked⟩ := inv.rotated j tok' (by simpa [succeededStore] using m)
    refine ⟨Nat.lt_add_right 2 bound, ?_⟩
    intro row isRow sameHash
    rcases mem_cons.mp isRow with rfl | isOld
    · rw [← sameHash] at bound
      exact absurd bound (lt_irrefl _)
    · exact revoked row isOld sameHash
  · intro j sid m row isRow sameSession
    have isOldEvent : .replayed j sid ∈ s.refreshLog := by simpa [succeededStore] using m
    rcases mem_cons.mp isRow with rfl | isOld
    · have same : sid = tok.sessionId := sameSession.symm.trans sess
      rw [same] at isOldEvent
      exact absurd isOldEvent (unseen j)
    · exact inv.replayed j sid isOldEvent row isOld sameSession
  · intro j k first snd isFirst isSecond
    exact inv.rotatedOnce j k first snd (by simpa [succeededStore] using isFirst)
      (by simpa [succeededStore] using isSecond)
  · intro j tok' successor m
    rcases mem_cons.mp m with new | m
    · cases new
      exact .tail _ rotating.mem
    · exact .tail _ (inv.succeeded j tok' successor m)
  · intro j first snd successor successor' isFirst isSecond
    rcases mem_cons.mp isFirst with new | isFirst
    · rcases mem_cons.mp isSecond with new' | isSecond
      · cases new
        cases new'
        rfl
      · cases new
        cases rotating.alone isSecond rfl
    · rcases mem_cons.mp isSecond with new | isSecond
      · cases new
        cases rotating.alone isFirst rfl
      · exact inv.succeededOnce j first snd successor successor' isFirst isSecond
  · refine pairwise_cons.mpr ⟨?_, inv.final⟩
    intro ev m j tok' successor k new
    cases new
    rintro rfl
    exact unseen k m

theorem succeededStore_rely (tok : RefreshToken) (other : j ≠ i) :
    Rely j s (succeededStore i tok (issue.refreshTokenRow s) s) where
  supply := le_add_right _ _
  log := ⟨[.succeeded i tok (issue.refreshTokenRow s)], rfl, by simpa [request] using other.symm⟩
  rows := by
    intro row' isRow
    rcases mem_cons.mp isRow with rfl | isOld
    · exact .inr ⟨le_succ _, le_rfl⟩
    · exact .inl ⟨row', isOld, .refl row'⟩

end Steps

/-- A request that returns tokens created the successor of the token it presented. -/
def Exchanged (i : Nat) (body : Body) (res : Except Failure TokenResponse) (s : Store) : Prop :=
  ∀ answer, res = .ok answer → ∃ presented token successor,
    body.refresh_token = some presented ∧ token.tokenHash = sha256 presented ∧
      .succeeded i token successor ∈ s.refreshLog

theorem Exchanged.error (i : Nat) (body : Body) (e : Failure) (s : Store) :
    Exchanged i body (.error e) s := by
  intro ans no
  cases no

section Request

variable {d : Deps} {i : Nat}

theorem signJwt_quiet (pl : Claims) (key : Nat) (o : Origin) (expiresIn : Int) :
    (signJwt pl key o expiresIn).Keeps Quiet :=
  .atomic fun _ => ⟨rfl, le_succ _, rfl⟩

theorem buildIdToken_quiet (issue : Issue) (tok : Jwt) (key : Nat) :
    (buildIdToken d issue tok key).Keeps Quiet := by
  unfold buildIdToken
  split
  · exact .bind (.read (fun _ => ⟨rfl, le_rfl, rfl⟩) _) fun _ =>
      .bind (signJwt_quiet _ _ _ _) fun _ => trivial
  · trivial

theorem mem_log_stable {ev : RefreshEvent} (m : ev ∈ s.refreshLog)
    (move : Rely i s s') : ev ∈ s'.refreshLog := by
  obtain ⟨new, cut, -⟩ := move.log
  rw [cut]
  exact mem_append_right _ m

variable {body : Body}

theorem buildIdToken_sat {accessToken : Jwt} {key presented : Nat}
    {ans : Option Jwt → TokenResponse} {tok successor : RefreshToken}
    (isPresented : body.refresh_token = some presented) (hash : tok.tokenHash = sha256 presented)
    (new : .succeeded i tok successor ∈ s.refreshLog) :
    (buildIdToken d issue accessToken key >>= fun idToken => pure (ans idToken)).Sat
      protocol Undisturbed i (Exchanged i body) s := by
  apply keeps_bind (buildIdToken_quiet issue accessToken key) Quiet.respects
  · intro idToken t move inv u later _ res _
    exact ⟨presented, tok, successor, isPresented, hash,
      mem_log_stable (mem_log_stable new move) later⟩
  · intro e t _ _
    exact .error i body e t

theorem createRefreshToken_sat {rest : Option Nat → Op TokenResponse}
    (replaces : issue.replaces = some (i, tok)) (sess : issue.sessionId = tok.sessionId)
    (rotating : Rotating i tok s)
    (gone : ∀ t, (rest none).Sat protocol Undisturbed i (Exchanged i body) t)
    (new : ∀ raw successor t, .succeeded i tok successor ∈ t.refreshLog →
      (rest (some raw)).Sat protocol Undisturbed i (Exchanged i body) t) :
    (atomic (createRefreshToken issue) >>= rest).Sat protocol Undisturbed i
      (Exchanged i body) s := by
  apply Sat.atomic_bind
  intro t move inv undisturbed
  have rotating := rotating.stable move
  rw [createRefreshToken_eq replaces] at undisturbed ⊢
  split at undisturbed
  · rename_i found
    rw [if_pos found]
    have unseen := rotating.unseen (undisturbed _ rfl rfl)
    exact ⟨succeededStore_inv inv rotating sess unseen,
      fun j other => succeededStore_rely tok other,
      new _ _ _ (mem_cons_self ..)⟩
  · rename_i found
    rw [if_neg found]
    exact ⟨inv, fun j _ => .refl j t, gone t⟩

theorem issueTokens_sat {presented : Nat} (isPresented : body.refresh_token = some presented)
    (hash : tok.tokenHash = sha256 presented)
    (replaces : issue.replaces = some (i, tok)) (sess : issue.sessionId = tok.sessionId)
    (rotating : Rotating i tok s) :
    (issueTokens d issue).Sat protocol Undisturbed i (Exchanged i body) s := by
  have failed : ∀ e t, Exchanged i body (.error e) t := .error i body
  apply Sat.read_bind
  intro t₁ move₁ _
  apply Sat.orFail_bind ?_ fun _ u _ _ => failed _ u
  intro key _
  apply Sat.read_bind
  intro t₂ move₂ _
  apply Sat.orFail_bind ?_ fun _ u _ _ => failed _ u
  intro pl _
  apply keeps_bind (signJwt_quiet _ _ _ _) Quiet.respects ?_ fun e u _ _ => failed e u
  intro accessToken t₃ move₃ _
  have rotating := ((rotating.stable move₁).stable move₂).stable move₃
  apply createRefreshToken_sat replaces sess rotating
  · intro u later _ _
    exact failed _ _
  · intro raw successor u new
    exact buildIdToken_sat isPresented hash new

theorem rotateToken_sat {r : Realm} {presented : Nat} {stored : StoredToken}
    (isPresented : body.refresh_token = some presented)
    (hash : stored.token.tokenHash = sha256 presented) (silent : Silent i s)
    (read : Read stored.token s) : (atomic (rotateToken i stored.token) >>= fun rotated =>
      require rotated .internal >>= fun _ =>
        issueTokens d (refreshIssue i r body stored)).Sat
      protocol Undisturbed i (Exchanged i body) s := by
  apply Sat.atomic_bind
  intro t move inv undisturbed
  have silent := silent.stable move
  have read := read.stable move
  rw [rotateToken_eq] at undisturbed ⊢
  split at undisturbed
  · rename_i found
    rw [if_pos found]
    obtain ⟨row, isRow, same⟩ := any_eq_true.mp found
    have same : row.id = stored.token.id := by simpa using same
    have unrevoked := undisturbed _ rfl rfl row isRow same
    refine ⟨rotatedStore_inv inv read isRow same unrevoked,
      fun j other => rotatedStore_rely stored.token other, ?_⟩
    exact issueTokens_sat isPresented hash rfl rfl
      (rotatedStore_rotating inv silent read isRow same unrevoked)
  · rename_i found
    rw [if_neg found]
    refine ⟨inv, fun j _ => .refl j t, ?_⟩
    intro u _ _
    exact .error i body _ u

theorem findRefreshToken_spec {hash : Sha256} {row : StoredToken}
    (hit : findRefreshToken hash s = some row) :
    row.token ∈ s.refreshTokens ∧ row.token.tokenHash = hash := by
  simp only [findRefreshToken, bind_eq_bind, bind_eq_some_iff, some.injEq] at hit
  obtain ⟨tok, isToken, sess, -, u, -, rfl⟩ := hit
  exact ⟨mem_of_find?_eq_some isToken, by simpa using find?_some isToken⟩

theorem handleRefreshTokenGrant_sat {r : Realm}
    (silent : Silent i s) : (handleRefreshTokenGrant d i r body).Sat protocol Undisturbed i
      (Exchanged i body) s := by
  have failed : ∀ e t, Exchanged i body (.error e) t := .error i body
  apply Sat.orFail_bind ?_ fun _ u _ _ => failed _ u
  intro presented isPresented
  apply keeps_bind (validateClient_reads d r _ _ _)
    (fun t t' inv same => same ▸ ⟨inv, fun j => .refl j t⟩) ?_ fun e u _ _ => failed e u
  intro c t₁ move₁ _
  apply Sat.read_bind
  intro t₂ move₂ inv₂
  apply Sat.read_bind
  intro t₃ move₃ _
  have silent := ((silent.stable move₁).stable move₂).stable move₃
  cases found : findRefreshToken (sha256 presented) t₂ with
  | none =>
    intro u _ _
    exact failed _ u
  | some row =>
    obtain ⟨isRow, hash⟩ := findRefreshToken_spec found
    have read := (inv₂.read isRow).stable move₃
    simp only [acceptRefreshToken]
    by_cases revoked : row.token.revoked = true
    · rw [if_pos revoked]
      apply Sat.bind
      apply Sat.modify_bind
      intro u _ inv _
      exact ⟨revokeFamily_inv inv _, fun j other => revokeFamily_rely _ other,
        fun v _ _ => failed _ v⟩
    · rw [if_neg revoked]
      by_cases expired : row.token.expiresAt < t₃.now
      · rw [if_pos expired]
        intro u _ _
        exact failed _ u
      · rw [if_neg expired]
        apply Sat.require_bind ?_ fun _ u _ _ => failed _ u
        intro _
        apply Sat.require_bind ?_ fun _ u _ _ => failed _ u
        intro _
        exact rotateToken_sat isPresented hash silent read

end Request

theorem Inv.initial (keyed : Keyed s.refreshTokens)
    (drawn : ∀ row ∈ s.refreshTokens, Drawn s.supply row) (log : s.refreshLog = []) : Inv s := by
  constructor
  · exact keyed
  · exact drawn
  all_goals simp [log]

theorem Inv.succeeds_unique (inv : Inv s) {p child child' : Sha256}
    (first : Succeeds s.refreshLog p child) (snd : Succeeds s.refreshLog p child') :
    child = child' := by
  obtain ⟨i, tok, successor, ev, rfl, rfl⟩ := first
  obtain ⟨j, tok', successor', ev', sameHash, rfl⟩ := snd
  have same : i = j := inv.rotatedOnce i j tok tok' (inv.succeeded _ _ _ ev)
    (inv.succeeded _ _ _ ev') sameHash.symm
  subst same
  rw [inv.succeededOnce i tok tok' successor successor' ev ev']

theorem Inv.revoked_of_succeeds (inv : Inv s) {row : RefreshToken} {child : Sha256}
    (isRow : row ∈ s.refreshTokens) (succeeds : Succeeds s.refreshLog row.tokenHash child) :
    row.revoked = true := by
  obtain ⟨i, tok, successor, ev, sameHash, -⟩ := succeeds
  exact (inv.rotated i tok (inv.succeeded _ _ _ ev)).2 row isRow sameHash.symm

theorem Inv.descends_eq (inv : Inv s) {row : RefreshToken} {child : Sha256}
    (isRow : row ∈ s.refreshTokens) (unrevoked : row.revoked = false)
    (descends : Descends s.refreshLog row.tokenHash child) : row.tokenHash = child := by
  rcases descends.cases_head with same | ⟨next, succeeds, -⟩
  · exact same
  · have revoked := inv.revoked_of_succeeds isRow succeeds
    simp [unrevoked] at revoked

theorem Inv.line (inv : Inv s) {p : Sha256} {a b : RefreshToken}
    (isA : a ∈ s.refreshTokens) (isB : b ∈ s.refreshTokens)
    (toA : Descends s.refreshLog p a.tokenHash)
    (toB : Descends s.refreshLog p b.tokenHash)
    (unrevokedA : a.revoked = false) (unrevokedB : b.revoked = false) : a = b := by
  have unique : Relator.RightUnique (Succeeds s.refreshLog) := fun _ _ _ => inv.succeeds_unique
  apply inv.keyed a isA b isB (.inr ?_)
  rcases Relation.ReflTransGen.total_of_right_unique unique toA toB with down | up
  · exact inv.descends_eq isA unrevokedA down
  · exact (inv.descends_eq isB unrevokedB up).symm

/-- In every interleaving of refresh requests in which no step races with an earlier
one, refresh tokens are exchanged once and replays are final. -/
theorem undisturbed_rotation_is_single_use (d : Deps) (realms : Nat → Realm)
    (bodies : Nat → Body) (s : Store) (keyed : Keyed s.refreshTokens)
    (drawn : ∀ row ∈ s.refreshTokens, Drawn s.supply row) (noLog : s.refreshLog = [])
    (c : Pool Nat Store Failure TokenResponse)
    (reached : Pool.Reaches Env Undisturbed (pool d realms bodies s) c) :
    SingleUse bodies c := by
  have init : Inv s := .initial keyed drawn noLog
  have threads : ∀ i, (handleRefreshTokenGrant d i (realms i) (bodies i)).Sat protocol
      Undisturbed i (Exchanged i (bodies i)) s :=
    fun i => handleRefreshTokenGrant_sat fun ev m => by simp [noLog] at m
  have inv : Inv c.state := (sound init threads Env.respects reached).1
  have exchanged : ∀ i ans, c.procs i = .done ans → Exchanged i (bodies i) (.ok ans) c.state :=
    fun i ans fin => sound_done init threads Env.respects reached fin
  refine ⟨?_, ?_, ?_⟩
  · intro i j presented ans ans' presentsI presentsJ finishedI finishedJ
    obtain ⟨p, tok, successor, isP, hash, ev⟩ := exchanged i ans finishedI ans rfl
    obtain ⟨p', tok', successor', isP', hash', ev'⟩ :=
      exchanged j ans' finishedJ ans' rfl
    rw [presentsI] at isP
    rw [presentsJ] at isP'
    cases isP
    cases isP'
    exact inv.rotatedOnce i j tok tok' (inv.succeeded _ _ _ ev)
      (inv.succeeded _ _ _ ev') (hash.trans hash'.symm)
  · intro parent a isA b isB toA toB unrevokedA unrevokedB
    exact inv.line isA isB toA toB unrevokedA unrevokedB
  · intro newer older i sid cut j tok successor m same
    have final := inv.final
    rw [cut, List.pairwise_append] at final
    refine final.2.2 _ m (.replayed i sid) (mem_cons_self ..) j tok successor i rfl ?_
    rw [same]

section Example

def acme : Realm := { id := 1, name := "acme" }

def aliceStore : Store where
  supply := 10
  realms := [acme]
  users := [{ id := 2, realmId := 1, username := "alice" }]
  clients := [{ id := 3, realmId := 1, clientId := "app", clientType := .PUBLIC,
                grantTypes := ["refresh_token"] }]
  sessions := [{ id := 4, userId := 2, createdAt := 0, expiresAt := 1800000 }]
  refreshTokens := [{ id := 5, sessionId := 4, tokenHash := sha256 6, clientId := some "app",
                      expiresAt := 1800000 }]
  signingKeys := [{ id := 7, realmId := 1, createdAt := 0 }]

def aliceBody : Body where
  grant_type := some "refresh_token"
  client_id := some "app"
  refresh_token := some 6

def alicePool : Pool Nat Store Failure TokenResponse :=
  pool .transparent (fun _ => acme) (fun _ => aliceBody) aliceStore

theorem aliceStore_keyed : Keyed aliceStore.refreshTokens := by
  intro a isA b isB _
  rw [mem_singleton.mp isA, mem_singleton.mp isB]

theorem aliceStore_drawn : ∀ row ∈ aliceStore.refreshTokens, Drawn aliceStore.supply row := by
  intro row isRow
  rw [mem_singleton.mp isRow]
  exact ⟨by decide, by decide⟩

/-- The token is used, and used again: the first request gets tokens, the second ends
the session. -/
theorem alice_token_used_once :
    (∃ ans, (alicePool.schedule [0, 0, 0, 0, 0, 0, 0, 0, 0, 0, 1, 1, 1, 1]).procs 0 =
      .done ans) ∧ SingleUse (fun _ => aliceBody)
      (alicePool.schedule [0, 0, 0, 0, 0, 0, 0, 0, 0, 0, 1, 1, 1, 1]) :=
  ⟨⟨_, rfl⟩, undisturbed_rotation_is_single_use .transparent (fun _ => acme) (fun _ => aliceBody)
    aliceStore aliceStore_keyed aliceStore_drawn rfl _ (reaches_schedule (by decide))⟩

/-- Two requests look the token up before either revokes it, and both get tokens.  And a
replay that is answered between the revocation and the successor leaves the successor
usable. -/
theorem refresh_token_exchanged_twice : (∃ c, Pool.Reaches Env (fun _ _ => True) alicePool c ∧
      (∃ ans, c.procs 0 = .done ans) ∧ (∃ ans, c.procs 1 = .done ans) ∧
      ¬ SingleUse (fun _ => aliceBody) c) ∧
    (∃ c tok successor, Pool.Reaches Env (fun _ _ => True) alicePool c ∧
      c.state.refreshLog = [.succeeded 0 tok successor, .replayed 1 4, .rotated 0 tok] ∧
      ¬ SingleUse (fun _ => aliceBody) c) := by
  constructor
  · refine ⟨alicePool.schedule [0, 0, 0, 1, 1, 1, 0, 0, 0, 0, 0, 0, 0, 1, 1, 1, 1, 1, 1, 1],
      reaches_schedule (by decide), ⟨_, rfl⟩, ⟨_, rfl⟩, ?_⟩
    intro safe
    exact absurd (safe.once 0 1 6 _ _ rfl rfl rfl rfl) (by decide)
  · refine ⟨alicePool.schedule [0, 0, 0, 0, 1, 1, 1, 1, 0, 0, 0, 0, 0, 0], _, _,
      reaches_schedule (by decide), rfl, ?_⟩
    intro safe
    exact safe.final [_] [_] 1 4 rfl 0 _ _ (mem_singleton.mpr rfl) rfl

end Example

end Idenplane.Auth.Refresh
