import Idenplane.Lib.Runs
import Idenplane.Names
import Mathlib.Logic.Function.Basic

/-! # Sessions in Redis

`RedisSessionService`.  A session and the index of the sessions of its user expire independently:
every `set` gives the index the remaining life of the session it writes.  `set` is three commands,
and other calls and time may come between them.
-/

namespace Idenplane.Sessions

open Runs (Throughout)

structure SessionData where
  id : Nat
  expiresAt : Int
  deriving DecidableEq

/-- A `set` after its first command; `added` tells whether `SADD` is done. -/
structure SetCall where
  session : SessionData
  ttl : Int
  added : Bool := false
  deriving DecidableEq

/-- Keys with the time of their expiry.  An index without one has not met an `EXPIRE`, and an empty
one is no key. -/
structure RedisWorld where
  now : Int := 0
  sessions : Nat → Option (SessionData × Int) := fun _ => none
  index : Nat × Nat → List Nat × Option Int := fun _ => ([], none)
  calls : List SetCall := []

inductive RedisAction where
  | set (session : SessionData)
  | sadd (call : SetCall)
  | expire (call : SetCall)
  | delete (sessionId : Nat)
  | deleteIndex (user : Nat × Nat)
  | pass (time : Nat)

namespace RedisWorld

def liveIndex (w : RedisWorld) (user : Nat × Nat) : List Nat × Option Int :=
  if (w.index user).2.all (w.now < ·) then w.index user else ([], none)

def smembers (w : RedisWorld) (user : Nat × Nat) : List Nat := (w.liveIndex user).1

def alive (now : Int) (entry : SessionData × Int) : Bool :=
  decide (now < entry.2 ∧ now < entry.1.expiresAt)

/-- What `get` returns; an expired session it deletes. -/
def get (w : RedisWorld) (sessionId : Nat) : Option SessionData :=
  ((w.sessions sessionId).filter (alive w.now)).map (·.1)

def getUserSessions (w : RedisWorld) (user : Nat × Nat) : List SessionData :=
  (w.smembers user).filterMap w.get

def deleteAllUserSessions (w : RedisWorld) (user : Nat × Nat) : List RedisAction :=
  (w.smembers user).map .delete ++ [.deleteIndex user]

/-- `ttl` of `set`, in seconds. -/
def ttl (w : RedisWorld) (session : SessionData) : Int :=
  max 1 ((session.expiresAt - w.now) / 1000)

end RedisWorld

section Steps

-- The realm and the user of a session.
variable (owner : Nat → Nat × Nat)

/-- A call that is not at this command does nothing. -/
def redisStep (w : RedisWorld) : RedisAction → RedisWorld
  | .set session => { w with
      sessions := update w.sessions session.id (some (session, w.now + w.ttl session * 1000))
      calls := { session := session, ttl := w.ttl session } :: w.calls }
  | .sadd call =>
    if call ∈ w.calls ∧ call.added = false then
      let (ids, until_) := w.liveIndex (owner call.session.id)
      let ids := if call.session.id ∈ ids then ids else ids ++ [call.session.id]
      { w with
        index := update w.index (owner call.session.id) (ids, until_)
        calls := { call with added := true } :: w.calls.erase call }
    else w
  | .expire call =>
    if call ∈ w.calls ∧ call.added = true then
      let ids := w.smembers (owner call.session.id)
      { w with
        index := update w.index (owner call.session.id)
          (ids, if ids = [] then none else some (w.now + call.ttl * 1000))
        calls := w.calls.erase call }
    else w
  | .delete sessionId => { w with sessions := update w.sessions sessionId none }
  | .deleteIndex user => { w with index := update w.index user ([], none) }
  | .pass time => { w with now := w.now + time }

/-- An `EXPIRE` finds the index with its session, and takes it away from no session that lives
longer.  An index that is deleted has no session left. -/
def Careful (w : RedisWorld) : RedisAction → Prop
  | .expire call => call.session.id ∈ w.smembers (owner call.session.id) ∧
      ∀ id session until_, w.sessions id = some (session, until_) → w.now < until_ →
        owner id = owner call.session.id → until_ ≤ w.now + call.ttl * 1000
  | .deleteIndex user => ∀ id session until_, w.sessions id = some (session, until_) →
      w.now < until_ → owner id ≠ user
  | _ => True

/-- No `set` of the user is between its commands. -/
def Settled (user : Nat × Nat) (w : RedisWorld) : Prop :=
  ∀ call ∈ w.calls, owner call.session.id ≠ user

def NoSet (user : Nat × Nat) : RedisAction → Prop
  | .set session => owner session.id ≠ user
  | _ => True

/-- The index has the session as long as the session lives. -/
def Covered (w : RedisWorld) (id : Nat) (until_ : Int) : Prop :=
  id ∈ (w.index (owner id)).1 ∧ ∀ t, (w.index (owner id)).2 = some t → until_ ≤ t

structure IndexInv (w : RedisWorld) : Prop where
  keyed : ∀ id session until_, w.sessions id = some (session, until_) → session.id = id
  owned : ∀ user, ∀ id ∈ (w.index user).1, owner id = user
  kept : ∀ id session until_, w.sessions id = some (session, until_) → w.now < until_ →
    (∃ call ∈ w.calls, call.session.id = id) ∨ Covered owner w id until_

end Steps

variable {owner : Nat → Nat × Nat} {w : RedisWorld} {user : Nat × Nat} {id : Nat} {until_ : Int}
  {actions : List RedisAction} {action : RedisAction} {session : SessionData}

theorem Covered.live (covered : Covered owner w id until_) (lives : w.now < until_) :
    w.liveIndex (owner id) = w.index (owner id) := by
  refine if_pos ?_
  cases life : (w.index (owner id)).2 with
  | none => rfl
  | some t => simpa using Int.lt_of_lt_of_le lives (covered.2 t life)

open RedisWorld

theorem mem_index (mem : id ∈ w.smembers user) : id ∈ (w.index user).1 := by
  unfold smembers liveIndex at mem
  split at mem
  case isTrue => exact mem
  case isFalse => cases mem

theorem redisStep_inv (careful : Careful owner w action) (inv : IndexInv owner w) :
    IndexInv owner (redisStep owner w action) := by
  obtain ⟨keyed, owned, kept⟩ := inv
  cases action with
  | set session =>
    refine ⟨fun id s until_ hit => ?_, owned, fun id s until_ hit lives => ?_⟩
    · by_cases same : id = session.id
      · subst same
        simp only [redisStep, update_self] at hit
        cases hit
        rfl
      · exact keyed id s until_ (by simpa [redisStep, same] using hit)
    · by_cases same : id = session.id
      · exact .inl ⟨_, mem_cons_self, same.symm⟩
      · obtain ⟨call, mem, isId⟩ | covered :=
          kept id s until_ (by simpa [redisStep, same] using hit) lives
        · exact .inl ⟨call, .tail _ mem, isId⟩
        · exact .inr covered
  | sadd call =>
    simp only [redisStep]
    split
    case isFalse => exact ⟨keyed, owned, kept⟩
    case isTrue =>
      refine ⟨keyed, fun user id mem => ?_, fun id s until_ hit lives => ?_⟩
      · by_cases same : user = owner call.session.id
        · subst same
          simp only [update_self] at mem
          split at mem
          · exact owned _ id (mem_index mem)
          · rcases mem_append.mp mem with mem | new
            · exact owned _ id (mem_index mem)
            · rw [mem_singleton.mp new]
        · exact owned user id (by simpa [same] using mem)
      · obtain ⟨other, mem, isId⟩ | covered := kept id s until_ hit lives
        · by_cases same : other = call
          · exact .inl ⟨_, mem_cons_self, same ▸ isId⟩
          · exact .inl ⟨other, .tail _ ((List.mem_erase_of_ne same).mpr mem), isId⟩
        · by_cases same : owner id = owner call.session.id
          · have live := covered.live lives
            refine .inr ⟨?_, fun t life => covered.2 t ?_⟩
            · simp only [same, update_self]
              rw [← same, live]
              split
              · exact covered.1
              · exact mem_append_left _ covered.1
            · rw [← live, same]
              simpa only [same, update_self] using life
          · exact .inr (by simpa [Covered, same] using covered)
  | expire call =>
    simp only [redisStep]
    split
    case isFalse => exact ⟨keyed, owned, kept⟩
    case isTrue =>
      obtain ⟨there, outlives⟩ := careful
      refine ⟨keyed, fun user id mem => ?_, fun id s until_ hit lives => ?_⟩
      · by_cases same : user = owner call.session.id
        · subst same
          simp only [update_self] at mem
          exact owned _ id (mem_index mem)
        · exact owned user id (by simpa [same] using mem)
      · by_cases same : owner id = owner call.session.id
        · have later := outlives id s until_ hit lives same
          have covers (mem : id ∈ w.smembers (owner call.session.id)) :
              Covered owner { w with
                index := update w.index (owner call.session.id) (w.smembers (owner call.session.id),
                    if w.smembers (owner call.session.id) = [] then none
                    else some (w.now + call.ttl * 1000))
                calls := w.calls.erase call } id until_ := by
            refine ⟨by simpa only [same, update_self] using mem, fun t life => ?_⟩
            simp only [same, update_self, if_neg (List.ne_nil_of_mem mem), some.injEq] at life
            exact life ▸ later
          obtain ⟨other, mem, isId⟩ | covered := kept id s until_ hit lives
          · by_cases own : other = call
            · subst own
              exact .inr (covers (isId ▸ there))
            · exact .inl ⟨other, (List.mem_erase_of_ne own).mpr mem, isId⟩
          · refine .inr (covers ?_)
            rw [← same, smembers, covered.live lives]
            exact covered.1
        · obtain ⟨other, mem, isId⟩ | covered := kept id s until_ hit lives
          · refine .inl ⟨other, (List.mem_erase_of_ne ?_).mpr mem, isId⟩
            rintro rfl
            exact same (congrArg owner isId.symm)
          · exact .inr (by simpa [Covered, same] using covered)
  | delete sessionId =>
    have old {id : Nat} {entry : SessionData × Int}
        (hit : update w.sessions sessionId none id = some entry) : w.sessions id = some entry := by
      by_cases same : id = sessionId
      · simp [same] at hit
      · simpa [same] using hit
    exact ⟨fun id s until_ hit => keyed id s until_ (old hit), owned,
      fun id s until_ hit lives => kept id s until_ (old hit) lives⟩
  | deleteIndex user =>
    refine ⟨keyed, fun other id mem => ?_, fun id s until_ hit lives => ?_⟩
    · by_cases same : other = user
      · simp [redisStep, same] at mem
      · exact owned other id (by simpa [redisStep, same] using mem)
    · have apart := careful id s until_ hit lives
      simpa [redisStep, Covered, apart] using kept id s until_ hit lives
  | pass time =>
    refine ⟨keyed, owned, fun id s until_ hit lives => kept id s until_ hit ?_⟩
    simp only [redisStep] at lives
    omega

theorem mem_of_get (inv : IndexInv owner w) (settled : Settled owner user w)
    (own : owner id = user) (hit : w.get id = some session) : id ∈ w.smembers user := by
  obtain ⟨⟨_, until_⟩, found, rfl⟩ := map_eq_some_iff.mp hit
  obtain ⟨isEntry, lives⟩ := filter_eq_some_iff.mp found
  have lives : w.now < until_ := (of_decide_eq_true lives).1
  obtain ⟨call, mem, isId⟩ | covered := inv.kept id _ until_ isEntry lives
  · exact absurd (isId ▸ own) (settled call mem)
  · rw [← own, smembers, covered.live lives]
    exact covered.1

/-- A session of the user that is there was there before. -/
theorem redisStep_get (noSet : NoSet owner user action) (own : owner id = user)
    (hit : (redisStep owner w action).get id = some session) : w.get id = some session := by
  cases action with
  | set other =>
    have apart : id ≠ other.id := by
      rintro rfl
      exact noSet own
    simpa [redisStep, RedisWorld.get, apart] using hit
  | sadd | expire =>
    simp only [redisStep] at hit
    split at hit
    · exact hit
    · exact hit
  | delete other =>
    by_cases same : id = other
    · simp [redisStep, RedisWorld.get, same] at hit
    · simpa [redisStep, RedisWorld.get, same] using hit
  | deleteIndex => exact hit
  | pass time =>
    obtain ⟨entry, found, rfl⟩ := map_eq_some_iff.mp hit
    obtain ⟨isEntry, lives⟩ := filter_eq_some_iff.mp found
    have lives := of_decide_eq_true lives
    simp only [redisStep] at lives
    exact map_eq_some_iff.mpr
      ⟨entry, filter_eq_some_iff.mpr ⟨isEntry, decide_eq_true (by omega)⟩, rfl⟩

theorem redisRun_get (noSet : ∀ a ∈ actions, NoSet owner user a) (own : owner id = user)
    (hit : (actions.foldl (redisStep owner) w).get id = some session) : w.get id = some session := by
  induction actions generalizing w with
  | nil => exact hit
  | cons action actions ih =>
    exact redisStep_get (noSet _ mem_cons_self) own (ih (fun a mem => noSet a (.tail _ mem)) hit)

theorem deleted_get (noSet : ∀ a ∈ actions, NoSet owner user a) (own : owner id = user)
    (mem : .delete id ∈ actions) : (actions.foldl (redisStep owner) w).get id = none := by
  obtain ⟨before, later, rfl⟩ := append_of_mem mem
  rw [foldl_append, foldl_cons, Option.eq_none_iff_forall_ne_some]
  intro session hit
  have noSet : ∀ a ∈ later, NoSet owner user a :=
    fun a mem => noSet a (mem_append_right _ (.tail _ mem))
  simpa [redisStep, RedisWorld.get] using redisRun_get noSet own hit

/-- After a run of careful steps the index is complete for every user none of whose sessions is
being set, and deletes every session of the user, whatever else goes on but a `set`. -/
theorem index_complete (careful : Throughout (redisStep owner) (Careful owner) {} actions)
    (settled : Settled owner user (actions.foldl (redisStep owner) {})) :
    (∀ session, session ∈ (actions.foldl (redisStep owner) {}).getUserSessions user ↔
      owner session.id = user ∧
        (actions.foldl (redisStep owner) {}).get session.id = some session) ∧
    ∀ later, ((actions.foldl (redisStep owner) {}).deleteAllUserSessions user).Sublist later →
      (∀ a ∈ later, NoSet owner user a) → ∀ id, owner id = user →
        ((actions ++ later).foldl (redisStep owner) {}).get id = none := by
  have inv : IndexInv owner (actions.foldl (redisStep owner) {}) :=
    careful.keeps (fun _ _ ok inv => redisStep_inv ok inv) ⟨nofun, nofun, nofun⟩
  constructor
  · intro session
    constructor
    · intro mem
      obtain ⟨id, isMember, hit⟩ := mem_filterMap.mp mem
      obtain ⟨entry, found, rfl⟩ := map_eq_some_iff.mp hit
      rw [inv.keyed id _ entry.2 (filter_eq_some_iff.mp found).1]
      exact ⟨inv.owned user id (mem_index isMember), hit⟩
    · rintro ⟨own, hit⟩
      exact mem_filterMap.mpr ⟨session.id, mem_of_get inv settled own hit, hit⟩
  · intro later deletes noSet id own
    rw [foldl_append, Option.eq_none_iff_forall_ne_some]
    intro session hit
    have mem := mem_of_get inv settled own (redisRun_get noSet own hit)
    rw [deleted_get noSet own (deletes.subset (mem_append_left _ (mem_map_of_mem mem)))] at hit
    cases hit

/-- A session is set that lives for the seconds given. -/
def setFor (session : SessionData) (ttl : Int) : List RedisAction :=
  [.set session, .sadd ⟨session, ttl, false⟩, .expire ⟨session, ttl, true⟩]

/-- A second session, which lives longer than the first. -/
def twoSessions : List RedisAction :=
  setFor ⟨1, 100000⟩ 100 ++ RedisAction.pass 3000 :: setFor ⟨2, 203000⟩ 200 ++ [.pass 1000]

theorem twoSessions_careful :
    Throughout (redisStep fun _ => (1, 1)) (Careful fun _ => (1, 1)) {} twoSessions := by
  refine ⟨trivial, trivial, ⟨by decide, fun id session until_ hit _ _ => ?_⟩, trivial, trivial,
    trivial, ⟨by decide, fun id session until_ hit _ _ => ?_⟩, trivial, trivial⟩
  · match id with
    | 0 | _ + 2 => cases hit
    | 1 =>
      cases hit
      decide
  · match id with
    | 0 | _ + 3 => cases hit
    | 1 | 2 =>
      cases hit
      decide

/-- Both sessions are listed and deleted, with time passing between the commands. -/
theorem both_sessions_go :
    let w := twoSessions.foldl (redisStep fun _ => (1, 1)) {}
    let deletes : List RedisAction := [.delete 1, .pass 5, .delete 2, .deleteIndex (1, 1)]
    (∀ session, session ∈ w.getUserSessions (1, 1) ↔ w.get session.id = some session) ∧
    w.getUserSessions (1, 1) = [⟨1, 100000⟩, ⟨2, 203000⟩] ∧
    ∀ id, ((twoSessions ++ deletes).foldl (redisStep fun _ => (1, 1)) {}).get id = none := by
  have complete := @index_complete (fun _ => (1, 1)) (1, 1) twoSessions twoSessions_careful nofun
  refine ⟨fun session => ?_, by decide +kernel, fun id => ?_⟩
  · exact (complete.1 session).trans (and_iff_right rfl)
  · refine complete.2 _ ?_ ?_ id rfl
    · have deletes : deleteAllUserSessions
          (twoSessions.foldl (redisStep fun _ => (1, 1)) {}) (1, 1) =
            [.delete 1, .delete 2, .deleteIndex (1, 1)] := rfl
      rw [deletes]
      exact .cons_cons _ (.cons _ (.refl _))
    · simp [NoSet]

/-- The index dies with the session that was set last; a longer one is still there. -/
theorem shorter_session_hides :
    let w := (setFor ⟨1, 100000⟩ 100 ++ setFor ⟨2, 2000⟩ 2 ++ [RedisAction.pass 3000]).foldl
      (redisStep fun _ => (1, 1)) {}
    w.calls = [] ∧ w.getUserSessions (1, 1) = [] ∧ w.get 1 = some ⟨1, 100000⟩ := by
  decide +kernel

end Idenplane.Sessions
