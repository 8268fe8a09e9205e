import Idenplane.Totp.Verify
import Idenplane.Lib.Pool
import Mathlib.Data.List.Pairwise

/-! # A code is accepted once

Calls run side by side on any number of servers while the clock goes on.  The table of used codes
keeps a code for as long as it could be accepted again.  A call that looks it up while another
one is between its own look-up and its record finds nothing, though, and neither does a call
that an expired entry of the server's memory keeps from looking.
-/

namespace Idenplane.Totp

open Atomic Pool List

def usedFor : Int := Auth.TOTP_USED_CODE_TTL_SECONDS * 1000

section Protocol

variable (deps : Deps)

/-- The table of used codes keeps the code for as long as this. -/
def RecordedUntil (use : Use) (until_ : Int) (s : Cluster) : Prop :=
  ∃ row ∈ s.database.usedTotpCodes, row.userId = use.userId ∧
    row.codeHash = deps.sha256Text use.code ∧ until_ ≤ row.expiresAt

def SameCode (a b : Use) : Prop := a.userId = b.userId ∧ a.code = b.code

instance (a b : Use) : Decidable (SameCode a b) := inferInstanceAs (Decidable (_ ∧ _))

structure ReplayInv (s : Cluster) : Prop where
  past : ∀ e ∈ s.accepted, e.at_ ≤ s.now
  exclusive : ∀ a ∈ s.inFlight, ∀ b ∈ s.inFlight, SameCode a b → a = b
  /-- Who accepted a code has recorded it or is about to, unless it was long ago. -/
  covered : ∀ e ∈ s.accepted, e.toUse ∈ s.inFlight ∨ RecordedUntil deps e.toUse (e.at_ + usedFor) s ∨
    e.at_ + usedFor ≤ s.now
  /-- A call in flight may accept its code: no other call did lately. -/
  waited : ∀ a ∈ s.inFlight, ∀ e ∈ s.accepted, SameCode e.toUse a → e.request ≠ a.request →
    e.at_ + usedFor ≤ s.now
  apart : s.accepted.Pairwise fun later earlier => SameCode later.toUse earlier.toUse →
    earlier.at_ + usedFor ≤ later.at_

/-- How the others may move the cluster under call `i`. -/
structure ReplayRely (i : Nat) (s s' : Cluster) : Prop where
  clock : s.now ≤ s'.now
  own : ∀ use : Use, use.request = i → (use ∈ s'.inFlight ↔ use ∈ s.inFlight)
  accepted : ∃ recent, s'.accepted = recent ++ s.accepted ∧ ∀ e ∈ recent, e.request ≠ i

theorem ReplayRely.refl (i : Nat) (s : Cluster) : ReplayRely i s s :=
  ⟨le_rfl, fun _ _ => .rfl, [], rfl, by simp⟩

theorem ReplayRely.trans (i : Nat) {a b c : Cluster} (ab : ReplayRely i a b)
    (bc : ReplayRely i b c) : ReplayRely i a c :=
  ⟨ab.clock.trans bc.clock, fun use isOwn => (bc.own use isOwn).trans (ab.own use isOwn),
    grown_trans ab.accepted bc.accepted⟩

def replayProtocol : Protocol Nat Cluster :=
  ⟨ReplayInv deps, ReplayRely, ReplayRely.refl, ReplayRely.trans⟩

/-- What the rest of the servers does: the clock goes on, and used codes are deleted when they
have expired. -/
structure KeepsUsed (s s' : Cluster) : Prop where
  clock : s.now ≤ s'.now
  rows : ∀ row ∈ s.database.usedTotpCodes, row ∈ s'.database.usedTotpCodes ∨ row.expiresAt < s'.now
  inFlight : s'.inFlight = s.inFlight
  accepted : s'.accepted = s.accepted

theorem KeepsUsed.refl (s : Cluster) : KeepsUsed s s :=
  ⟨le_rfl, fun _ mem => .inl mem, rfl, rfl⟩

/-- Every call looks a code up when no other call with it is in flight, no server meets an
expired entry in its memory, and the database answers. -/
structure Orderly (s s' : Cluster) : Prop where
  alone : ∀ use, s'.lookups = use :: s.lookups → ∀ other ∈ s.inFlight, SameCode other use →
    other.request = use.request
  fresh : s'.skipped = s.skipped
  database : s.databaseUp = true

instance : DecidableRel Orderly := fun s s' =>
  decidable_of_iff ((∀ use ∈ s'.lookups, s'.lookups = use :: s.lookups → ∀ other ∈ s.inFlight,
      SameCode other use → other.request = use.request) ∧
    s'.skipped = s.skipped ∧ s.databaseUp = true)
    ⟨fun ⟨alone, fresh, database⟩ =>
        ⟨fun use isNew => alone use (isNew ▸ mem_cons_self) isNew, fresh, database⟩,
      fun orderly => ⟨fun use _ => orderly.alone use, orderly.fresh, orderly.database⟩⟩

variable {deps} {s s' : Cluster} {use : Use}

theorem RecordedUntil.keeps {until_ : Int} (recorded : RecordedUntil deps use until_ s)
    (keeps : KeepsUsed s s') : RecordedUntil deps use until_ s' ∨ until_ ≤ s'.now := by
  obtain ⟨row, isRow, isUser, isCode, isLong⟩ := recorded
  rcases keeps.rows row isRow with kept | expired
  · exact .inl ⟨row, kept, isUser, isCode, isLong⟩
  · exact .inr (by omega)

theorem KeepsUsed.respects (t t' : Cluster) (inv : ReplayInv deps t) (keeps : KeepsUsed t t') :
    ReplayInv deps t' ∧ ∀ j, ReplayRely j t t' := by
  have clock := keeps.clock
  constructor
  · refine ⟨?_, ?_, ?_, ?_, ?_⟩
    · rw [keeps.accepted]
      exact fun e mem => (inv.past e mem).trans clock
    · rw [keeps.inFlight]
      exact inv.exclusive
    · rw [keeps.accepted, keeps.inFlight]
      intro e mem
      rcases inv.covered e mem with flying | recorded | old
      · exact .inl flying
      · exact .inr (recorded.keeps keeps)
      · exact .inr (.inr (old.trans clock))
    · rw [keeps.accepted, keeps.inFlight]
      exact fun a flying e mem same other => (inv.waited a flying e mem same other).trans clock
    · rw [keeps.accepted]
      exact inv.apart
  · intro j
    refine ⟨clock, fun use _ => by rw [keeps.inFlight], [], keeps.accepted, by simp⟩

/-- The code is looked up: it was not accepted lately, or it is found. -/
theorem ReplayInv.lookUp (inv : ReplayInv deps s) (orderly : Orderly s (lookUp deps use s).2) :
    ReplayInv deps (lookUp deps use s).2 := by
  have alone := orderly.alone use rfl
  by_cases found : (Totp.lookUp deps use s).1 = true
  · have keeps : KeepsUsed s (Totp.lookUp deps use s).2 :=
      ⟨le_rfl, fun _ mem => .inl mem, if_pos found, rfl⟩
    exact (KeepsUsed.respects s _ inv keeps).1
  · have flying : (Totp.lookUp deps use s).2.inFlight = use :: s.inFlight := if_neg found
    have unused : Auth.isTotpCodeUsed deps use.userId use.code s.database = false := by
      simpa [Totp.lookUp, orderly.database] using found
    refine ⟨inv.past, ?_, ?_, ?_, inv.apart⟩
    · rw [flying]
      have only : ∀ other ∈ s.inFlight, SameCode other use → other = use := by
        intro other mem same
        obtain ⟨req, uid, code⟩ := other
        obtain ⟨rfl, rfl⟩ := same
        have isRequest := alone _ mem ⟨rfl, rfl⟩
        subst isRequest
        rfl
      intro a isA b isB same
      rcases mem_cons.mp isA with rfl | oldA <;> rcases mem_cons.mp isB with rfl | oldB
      · rfl
      · exact (only b oldB ⟨same.1.symm, same.2.symm⟩).symm
      · exact only a oldA same
      · exact inv.exclusive a oldA b oldB same
    · rw [flying]
      intro e mem
      exact (inv.covered e mem).imp (.tail _) id
    · rw [flying]
      intro a isA e mem same other
      rcases mem_cons.mp isA with rfl | oldA
      · rcases inv.covered e mem with isFlying | ⟨row, isRow, isUser, isCode, long⟩ | old
        · exact absurd (alone _ isFlying same) other
        · -- the row is there, so it has expired
          have notLive : ¬ s.database.now < row.expiresAt := by
            intro live
            have hit : Auth.isTotpCodeUsed deps a.userId a.code s.database = true := by
              refine any_eq_true.mpr ⟨row, isRow, ?_⟩
              simp [isUser, isCode, same.1, same.2, live]
            rw [hit] at unused
            cases unused
          exact long.trans (not_lt.mp notLive)
        · exact old
      · exact inv.waited a oldA e mem same other

theorem lookUp_relies (use : Use) (s : Cluster) :
    ∀ j, j ≠ use.request → ReplayRely j s (lookUp deps use s).2 := by
  intro j other
  refine ⟨le_rfl, fun mine isOwn => ?_, [], rfl, by simp⟩
  unfold lookUp
  dsimp only
  split
  · exact .rfl
  · have different : mine ≠ use := fun same => other (by rw [← isOwn, same])
    simp [different]

theorem ReplayInv.accept (inv : ReplayInv deps s) (flying : use ∈ s.inFlight)
    (first : ∀ e ∈ s.accepted, e.request ≠ use.request) : ReplayInv deps (acceptedBy use s) := by
  refine ⟨?_, inv.exclusive, ?_, ?_, ?_⟩
  · intro e mem
    rcases mem_cons.mp mem with rfl | old
    · exact le_rfl
    · exact inv.past e old
  · intro e mem
    rcases mem_cons.mp mem with rfl | old
    · exact .inl flying
    · exact inv.covered e old
  · intro a isFlying e mem same other
    rcases mem_cons.mp mem with rfl | old
    · exact absurd (congrArg Use.request (inv.exclusive use flying a isFlying same)) other
    · exact inv.waited a isFlying e old same other
  · refine pairwise_cons.mpr ⟨fun e mem same => ?_, inv.apart⟩
    exact inv.waited use flying e mem ⟨same.1.symm, same.2.symm⟩ (first e mem)

theorem ReplayInv.refuse (inv : ReplayInv deps s)
    (first : ∀ e ∈ s.accepted, e.request ≠ use.request) : ReplayInv deps (refusedBy use s) := by
  refine ⟨inv.past, ?_, ?_, ?_, inv.apart⟩
  · exact fun a isA b isB => inv.exclusive a (mem_of_mem_filter isA) b (mem_of_mem_filter isB)
  · intro e mem
    refine (inv.covered e mem).imp (fun isFlying => mem_filter.mpr ⟨isFlying, ?_⟩) id
    have different : e.toUse ≠ use := fun same => first e mem (by rw [← same])
    simpa using different
  · exact fun a isA => inv.waited a (mem_of_mem_filter isA)

theorem ReplayInv.record (inv : ReplayInv deps s) {expiresAt : Int} (up : s.databaseUp = true)
    (long : ∀ e ∈ s.accepted, e.toUse = use → e.at_ + usedFor ≤ expiresAt) :
    ReplayInv deps (record deps use expiresAt s) := by
  have rows : (Totp.record deps use expiresAt s).database.usedTotpCodes =
      { userId := use.userId, codeHash := deps.sha256Text use.code, expiresAt := expiresAt } ::
        s.database.usedTotpCodes := by
    simp [Totp.record, up]
  have now : (Totp.record deps use expiresAt s).now = s.now := by simp [Totp.record, Cluster.now, up]
  refine ⟨?_, ?_, ?_, ?_, inv.apart⟩
  · rw [now]
    exact inv.past
  · exact fun a isA b isB => inv.exclusive a (mem_of_mem_filter isA) b (mem_of_mem_filter isB)
  · rw [now]
    intro e mem
    by_cases mine : e.toUse = use
    · exact .inr (.inl ⟨_, rows ▸ mem_cons_self, by rw [mine], by rw [mine], long e mem mine⟩)
    · rcases inv.covered e mem with isFlying | ⟨row, isRow, rest⟩ | old
      · exact .inl (mem_filter.mpr ⟨isFlying, by simpa using mine⟩)
      · exact .inr (.inl ⟨row, rows ▸ .tail _ isRow, rest⟩)
      · exact .inr (.inr old)
  · rw [now]
    exact fun a isA => inv.waited a (mem_of_mem_filter isA)

theorem landed_relies (use : Use) (inFlight : s'.inFlight = s.inFlight.filter (· ≠ use))
    (clock : s'.now = s.now) (ok : s'.accepted = s.accepted) :
    ∀ j, j ≠ use.request → ReplayRely j s s' := by
  intro j other
  refine ⟨clock.ge, fun mine isOwn => ?_, [], ok, by simp⟩
  have different : mine ≠ use := fun same => other (by rw [← isOwn, same])
  rw [inFlight, mem_filter]
  simp [different]

theorem redisSet_keeps (sv : Nat) (key : String) (s : Cluster) :
    KeepsUsed s (redisSet sv key s).2 := by
  unfold redisSet
  split
  · exact ⟨le_rfl, fun _ mem => .inl mem, rfl, rfl⟩
  · exact .refl s

theorem remember_keeps (sv : Nat) (key : String) (expiry : Option Int) (s : Cluster) :
    KeepsUsed s (remember sv key expiry s) :=
  ⟨le_rfl, fun _ mem => .inl mem, rfl, rfl⟩

end Protocol

section Calls

variable {deps : Deps} {s s' : Cluster} {sv : Nat} {use : Use}

def Unaccepted (i : Nat) (s : Cluster) : Prop := ∀ e ∈ s.accepted, e.request ≠ i

theorem Unaccepted.stable {i : Nat} (none_ : Unaccepted i s) (move : ReplayRely i s s') :
    Unaccepted i s' := by
  obtain ⟨recent, log, foreign⟩ := move.accepted
  intro e mem
  rw [log] at mem
  rcases mem_append.mp mem with new | old
  · exact foreign e new
  · exact none_ e old

def AcceptedBefore (i : Nat) (time : Int) (s : Cluster) : Prop :=
  ∀ e ∈ s.accepted, e.request = i → e.at_ ≤ time

theorem AcceptedBefore.stable {i : Nat} {time : Int} (pre : AcceptedBefore i time s)
    (move : ReplayRely i s s') : AcceptedBefore i time s' := by
  obtain ⟨recent, log, foreign⟩ := move.accepted
  intro e mem isOwn
  rw [log] at mem
  rcases mem_append.mp mem with new | old
  · exact absurd isOwn (foreign e new)
  · exact pre e old isOwn

theorem accepted_stable {i : Nat} {e : Acceptance} (mem : e ∈ s.accepted)
    (move : ReplayRely i s s') : e ∈ s'.accepted := by
  obtain ⟨recent, log, -⟩ := move.accepted
  rw [log]
  exact mem_append_right _ mem

/-- The call keeps the protocol in orderly runs, and when it succeeds, `post` holds. -/
abbrev Kept (deps : Deps) (i : Nat) {α : Type} (post : α → Cluster → Prop) (p : Op α) (s : Cluster) :
    Prop :=
  p.Sat (replayProtocol deps) Orderly i (onOk post) s

theorem isTotpCodeUsed_kept (unaccepted : Unaccepted use.request s) : Kept deps use.request
      (fun used t => used = false → use ∈ t.inFlight ∧ Unaccepted use.request t)
      (isTotpCodeUsed deps sv use) s := by
  refine .read_bind fun s1 move1 _ => ?_
  split
  · exact .done fun _ _ _ unused => by cases unused
  refine .atomic_bind fun s2 move2 inv2 orderly => ?_
  cases e : s2.memory sv (usedKey use.userId use.code) with
  | some expiry =>
    by_cases expired : expiry < s2.now
    · -- an expired entry is not met in an orderly run
      have skipped : (consultMemory sv use s2).2.skipped = use :: s2.skipped := by
        simp [consultMemory, e, expired]
      rw [orderly.fresh] at skipped
      exact absurd skipped (by simp)
    · have recalled : consultMemory sv use s2 = (some true, s2) := by simp [consultMemory, e, expired]
      rw [recalled]
      exact ⟨inv2, fun j _ => .refl j s2, .done fun _ _ _ unused => by cases unused⟩
  | none =>
    have recalled : consultMemory sv use s2 = (none, s2) := by simp [consultMemory, e]
    rw [recalled]
    refine ⟨inv2, fun j _ => .refl j s2, .atomic_bind fun s3 move3 inv3 orderly3 => ?_⟩
    refine ⟨inv3.lookUp orderly3, lookUp_relies use s3, ?_⟩
    cases hit : (lookUp deps use s3).1 with
    | true =>
      refine .keeps_bind (.atomic (redisSet_keeps sv _)) KeepsUsed.respects ?_
        fun _ _ _ _ => trivial
      exact fun _ _ _ _ => .done fun _ _ _ unused => by cases unused
    | false =>
      have flying : use ∈ (lookUp deps use s3).2.inFlight := by
        have cons : (lookUp deps use s3).2.inFlight = use :: s3.inFlight :=
          if_neg (eq_false_iff.mp hit)
        simp [cons]
      have unaccepted3 : Unaccepted use.request s3 :=
        ((unaccepted.stable move1).stable move2).stable move3
      have unaccepted' : Unaccepted use.request (lookUp deps use s3).2 := unaccepted3
      exact .done fun t move _ _ => ⟨(move.own use rfl).mpr flying, unaccepted'.stable move⟩

theorem markTotpCodeUsed_kept {e : Acceptance} (mem : e ∈ s.accepted)
    (pre : AcceptedBefore use.request s.now s) :
    Kept deps use.request (fun _ t => e ∈ t.accepted) (markTotpCodeUsed deps sv use) s := by
  refine .read_bind fun s1 move1 _ => ?_
  refine .modify_bind fun s2 move2 inv2 orderly => ?_
  have before2 : AcceptedBefore use.request s.now s2 := (pre.stable move1).stable move2
  have clock := move1.clock
  have long : ∀ e ∈ s2.accepted, e.toUse = use →
      e.at_ + usedFor ≤ s1.now + Auth.TOTP_USED_CODE_TTL_SECONDS * 1000 := by
    intro e isAccepted mine
    have early := before2 e isAccepted (by rw [mine])
    simp only [usedFor]
    omega
  have now : (record deps use (s1.now + Auth.TOTP_USED_CODE_TTL_SECONDS * 1000) s2).now = s2.now := by
    simp [record, Cluster.now, orderly.database]
  refine ⟨inv2.record orderly.database long, landed_relies use rfl now rfl, ?_⟩
  have here2 : e ∈ s2.accepted := accepted_stable (accepted_stable mem move1) move2
  have here : e ∈ (record deps use (s1.now + Auth.TOTP_USED_CODE_TTL_SECONDS * 1000) s2).accepted :=
    here2
  refine .keeps_bind (.atomic (redisSet_keeps sv _)) KeepsUsed.respects ?_ fun _ _ _ _ => trivial
  intro row s3 move3 _
  cases row with
  | true => exact .done fun t move4 _ => accepted_stable (accepted_stable here move3) move4
  | false =>
    refine .ofKeeps (.modify (remember_keeps sv _ _)) KeepsUsed.respects fun r t move4 _ => ?_
    cases r with
    | ok _ => exact accepted_stable (accepted_stable here move3) move4
    | error _ => trivial

theorem verifyTotp_kept (unaccepted : Unaccepted use.request s) :
    Kept deps use.request (fun right t => right = true → ∃ e ∈ t.accepted, e.toUse = use)
      (verifyTotp deps sv use) s := by
  refine .read_bind fun s1 move1 _ => ?_
  refine .orFail_bind (fun cred _ => ?_) fun _ _ _ _ => trivial
  cases cred with
  | none => exact .done fun _ _ _ right => by cases right
  | some cred =>
    dsimp only
    split
    · exact .done fun _ _ _ right => by cases right
    refine .bind (.mono ?_ (isTotpCodeUsed_kept (unaccepted.stable move1)))
    rintro (f | used) s2 passed
    · trivial
    cases used with
    | true => exact .done fun _ _ _ right => by cases right
    | false =>
      obtain ⟨flying2, unaccepted2⟩ := passed rfl
      refine .atomic_bind fun s3 move3 inv3 _ => ?_
      have flying3 : use ∈ s3.inFlight := (move3.own use rfl).mpr flying2
      have unaccepted3 := unaccepted2.stable move3
      cases right : deps.totpValidate cred.secretKey s3.now use.code with
      | true =>
        have accepts : validate deps use cred.secretKey s3 = (true, acceptedBy use s3) :=
          if_pos right
        rw [accepts]
        refine ⟨inv3.accept flying3 unaccepted3, fun j other => ?_, ?_⟩
        · refine ⟨le_rfl, fun _ _ => .rfl, [⟨use, s3.now⟩], rfl, fun e mem => ?_⟩
          rw [mem_singleton.mp mem]
          exact other.symm
        · have before : AcceptedBefore use.request s3.now (acceptedBy use s3) := by
            intro e mem _
            rcases mem_cons.mp mem with rfl | old
            · exact le_rfl
            · exact inv3.past e old
          refine .bind (.mono ?_ (markTotpCodeUsed_kept (e := ⟨use, s3.now⟩) mem_cons_self before))
          rintro (f | _) s4 mem
          · trivial
          · exact .done fun t move4 _ _ => ⟨_, accepted_stable mem move4, rfl⟩
      | false =>
        have refuses : validate deps use cred.secretKey s3 = (false, refusedBy use s3) :=
          if_neg (eq_false_iff.mp right)
        rw [refuses]
        refine ⟨inv3.refuse unaccepted3, landed_relies use rfl rfl rfl, ?_⟩
        exact .done fun _ _ _ right => by cases right

end Calls

section Runs

/-- `TOTP.validate` with a window of one, for periods of thirty seconds. -/
def otpauthValidate (hotp : String → Int → String) (secretKey : String) (now : Int) (code : String) :
    Bool :=
  [-1, 0, 1].any fun delta => hotp secretKey (now / 30000 + delta) = code

/-- The time when the code of a step may be accepted: its own period, the one before and the one
after. -/
def inPeriod (step time : Int) : Bool := 30000 * (step - 1) ≤ time && time < 30000 * (step + 2)

structure Call where
  server : Nat
  userId : Nat
  code : String

def Call.use (call : Call) (i : Nat) : Use := ⟨i, call.userId, call.code⟩

def pool (deps : Deps) (calls : Nat → Call) (s : Cluster) : Pool Nat Cluster Failure Bool :=
  ⟨s, fun i => verifyTotp deps (calls i).server ((calls i).use i)⟩

/-- Any order of the steps of all calls and of the rest of the servers. -/
def Reaches (allowed : Cluster → Cluster → Prop) (c c' : Pool Nat Cluster Failure Bool) : Prop :=
  Pool.Reaches KeepsUsed allowed c c'

/-- How often the code of a user was accepted while that of the step may be. -/
def acceptances (userId : Nat) (code : String) (step : Int) (s : Cluster) : Nat :=
  s.accepted.countP fun e => e.userId = userId && e.code = code && inPeriod step e.at_

variable {deps : Deps} {s : Cluster}

theorem ReplayInv.initial (noneAccepted : s.accepted = []) (noneInFlight : s.inFlight = []) :
    ReplayInv deps s := by
  refine ⟨?_, ?_, ?_, ?_, ?_⟩
  all_goals simp [noneAccepted, noneInFlight]

theorem ReplayInv.acceptances_le (inv : ReplayInv deps s) (uid : Nat) (code : String) (step : Int) :
    acceptances uid code step s ≤ 1 := by
  rw [acceptances, countP_eq_length_filter]
  have apart := inv.apart.filter fun e => e.userId = uid && e.code = code && inPeriod step e.at_
  have within := fun e => of_mem_filter (a := e)
    (l := s.accepted) (p := fun e => e.userId = uid && e.code = code && inPeriod step e.at_)
  generalize s.accepted.filter _ = chosen at apart within
  match chosen with
  | [] => simp
  | [only] => simp
  | later :: earlier :: rest =>
    have isLater := within later mem_cons_self
    have isEarlier := within earlier (.tail _ mem_cons_self)
    simp only [and_eq_true, decide_eq_true_eq, inPeriod] at isLater isEarlier
    have long := (pairwise_cons.mp apart).1 earlier mem_cons_self
      ⟨isLater.1.1.trans isEarlier.1.1.symm, isLater.1.2.trans isEarlier.1.2.symm⟩
    simp only [usedFor, Auth.TOTP_USED_CODE_TTL_SECONDS] at long
    omega

/-- In every orderly run, a call that says the code is right has accepted it, and every code is
accepted at most once while that of a step may be. -/
theorem totp_code_accepted_once (deps : Deps) (calls : Nat → Call) (s : Cluster)
    (noneAccepted : s.accepted = []) (noneInFlight : s.inFlight = [])
    (c : Pool Nat Cluster Failure Bool) (reached : Reaches Orderly (pool deps calls s) c) :
    (∀ i, c.procs i = .done true → ∃ e ∈ c.state.accepted, e.toUse = (calls i).use i) ∧
    ∀ uid code step, acceptances uid code step c.state ≤ 1 := by
  have init : ReplayInv deps s := .initial noneAccepted noneInFlight
  have threads : ∀ i, Kept deps i
      (fun right t => right = true → ∃ e ∈ t.accepted, e.toUse = (calls i).use i)
      (verifyTotp deps (calls i).server ((calls i).use i)) s :=
    fun i => @verifyTotp_kept deps s (calls i).server ((calls i).use i)
      fun e mem => by simp [noneAccepted] at mem
  have inv : ReplayInv deps c.state := (sound init threads KeepsUsed.respects reached).1
  constructor
  · intro i done_
    exact sound_done init threads KeepsUsed.respects reached done_ rfl
  · exact inv.acceptances_le

end Runs

section Example

def repeatingCodes (_ : String) (counter : Int) : String := toString (100000 + counter % 3)

def repeatingDeps : Deps := { Deps.transparent with totpValidate := otpauthValidate repeatingCodes }

def aliceCluster : Cluster where
  database := { supply := 10, userCredentials := [{ userId := 2, type := .totp, verified := true }] }

def aliceCalls : Nat → Call
  | 0 => ⟨0, 2, "100000"⟩
  | 1 => ⟨1, 2, "100000"⟩
  | _ => ⟨0, 2, "100000"⟩

def alicePool : Pool Nat Cluster Failure Bool := pool repeatingDeps aliceCalls aliceCluster

/-- The second server looks the code up before the first one has recorded it. -/
def sideBySide : Pool Nat Cluster Failure Bool :=
  alicePool.schedule ([0, 0, 0, 0] ++ [1, 1, 1, 1] ++ [0, 0, 0, 0, 0] ++ [1, 1, 1, 1, 1])

def oneByOne : Pool Nat Cluster Failure Bool :=
  alicePool.schedule (replicate 9 0 ++ replicate 5 1)

theorem totp_code_accepted_once_oneByOne :
    (oneByOne.procs 0 = .done true ∧ oneByOne.procs 1 = .done false) ∧
      acceptances 2 "100000" 0 oneByOne.state ≤ 1 :=
  ⟨⟨rfl, rfl⟩, (totp_code_accepted_once repeatingDeps aliceCalls aliceCluster rfl rfl oneByOne
    (reaches_schedule (by decide +kernel))).2 2 "100000" 0⟩

/-- The first server has accepted the code and remembers it, and three steps go by. -/
def acceptedBefore : Pool Nat Cluster Failure Bool := alicePool.schedule (replicate 9 0)

def stepsLater : Pool Nat Cluster Failure Bool :=
  ⟨{ acceptedBefore.state with
      database := { acceptedBefore.state.database with now := 100000 } }, acceptedBefore.procs⟩

/-- The code has come back.  The second server accepts it, and then the first one does. -/
def staleEntry : Pool Nat Cluster Failure Bool :=
  stepsLater.schedule (replicate 9 1 ++ replicate 9 2)

theorem staleEntry_reached : Reaches (fun _ _ => True) alicePool staleEntry := by
  have first : Reaches (fun _ _ => True) alicePool acceptedBefore :=
    reaches_schedule (by decide +kernel)
  have clock : Pool.Step KeepsUsed (fun _ _ => True) acceptedBefore stepsLater :=
    .env ⟨by decide +kernel, fun _ mem => .inl mem, rfl, rfl⟩
  exact first.trans (.head clock (reaches_schedule (by decide +kernel)))

/-- A code is accepted twice by two calls side by side, and by one call after the other when the
second server to accept it remembers an earlier use. -/
theorem totp_code_accepted_twice :
    (¬ ∀ (deps : Deps) (calls : Nat → Call) (s : Cluster), s.accepted = [] → s.inFlight = [] →
      ∀ c, Reaches (fun _ _ => True) (pool deps calls s) c →
      ∀ uid code step, acceptances uid code step c.state ≤ 1) ∧
    Reaches (fun _ _ => True) alicePool staleEntry ∧
    acceptances 2 "100000" 3 staleEntry.state = 2 := by
  refine ⟨fun all => ?_, staleEntry_reached, by decide +kernel⟩
  have once := all repeatingDeps aliceCalls aliceCluster rfl rfl sideBySide
    (reaches_schedule (by decide +kernel)) 2 "100000" 0
  have twice : acceptances 2 "100000" 0 sideBySide.state = 2 := by decide +kernel
  rw [twice] at once
  exact absurd once (by decide)

end Example

end Idenplane.Totp
