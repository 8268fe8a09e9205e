import Idenplane.Registration.Steps

/-! # Approval

An account is pending when it is disabled, which it is for other reasons too.  What its flag means
is in the record: who registered, who was approved, whom an administrator disabled. -/

namespace Idenplane.Registration

open Atomic Auth Admin
open Relation (ReflTransGen)

def Event.enables : Event → Option Nat
  | .approved userId | .reenabled userId => some userId
  | .updated row dto => if dto.enabled = some true then some row.id else none
  | _ => none

def awaiting (userId : Nat) : List Event → Bool
  | [] => false
  | .registered opened pending :: rest => pending && opened = userId || awaiting userId rest
  | event :: rest => event.enables ≠ some userId && awaiting userId rest

/-- Since the user registered, or an administrator disabled him, neither an approval nor an
administrator has enabled him. -/
def shut (userId : Nat) : List Event → Bool
  | [] => false
  | .registered opened pending :: rest => pending && opened = userId || shut userId rest
  | .approved approved :: rest => approved ≠ userId && shut userId rest
  | .updated row dto :: rest =>
    if row.id = userId then
      match dto.enabled with
      | some enabled => !enabled
      | none => shut userId rest
    else shut userId rest
  | _ :: rest => shut userId rest

/-- Who was shut out is still disabled, and only registrations that nobody had approved were
rejected. -/
structure Approved (w : World) : Prop where
  disabled : ∀ user ∈ w.store.users, shut user.id w.log = true → user.enabled = false
  rejected : ∀ newer older call userId, w.log = newer ++ .rejected call userId :: older →
    awaiting userId older = true

/-- Whoever verifies an address is enabled when he is looked up; whoever is rejected awaits his
first approval when he is looked up, and nobody enables him before he is deleted. -/
structure Careful (log : List Event) : Prop where
  verifying : ∀ userId, .verifying userId false ∉ log
  rejecting : ∀ newer between older call userId,
    log = newer ++ .rejected call userId :: (between ++ .rejecting call userId :: older) →
    awaiting userId older = true ∧ ∀ event ∈ between, event.enables ≠ some userId

variable {r : RegistrationRealm} {w w' : World} {log : List Event} {ev : Event} {uid : Nat}

theorem Careful.tail (careful : Careful (ev :: log)) : Careful log where
  verifying uid mem := careful.verifying uid (.tail _ mem)
  rejecting newer between older call uid split :=
    careful.rejecting (ev :: newer) between older call uid (by rw [split]; rfl)

theorem awaiting_cons (other : ev.enables ≠ some uid) (waits : awaiting uid log = true) :
    awaiting uid (ev :: log) = true := by
  unfold awaiting
  split
  · cases ‹_ :: _ = []›
  · rename_i same
    cases same
    simp [waits]
  · rename_i same
    cases same
    simp [waits, other]

theorem awaiting_append {newer : List Event} (os : ∀ ev ∈ newer, ev.enables ≠ some uid)
    (waits : awaiting uid log = true) : awaiting uid (newer ++ log) = true := by
  induction newer with
  | nil => exact waits
  | cons ev rest ih =>
    apply awaiting_cons (os ev mem_cons_self)
    exact ih fun other mem => os other (.tail _ mem)

theorem shut_remark (remark : Remark ev) : shut uid (ev :: log) = shut uid log := by
  cases remark <;> rfl

variable {change : User → User}

theorem shut_other {row : User} (writes : Writes log row change ev)
    (other : row.id ≠ uid) : shut uid (ev :: log) = shut uid log := by
  cases writes <;> simp [shut, other]

/-- What is rejected comes from an earlier record, or is this very entry. -/
theorem rejected_cons {call : Nat} {newer older : List Event}
    (split : ev :: log = newer ++ .rejected call uid :: older) :
    ev = .rejected call uid ∧ log = older ∨
      ∃ later, log = later ++ .rejected call uid :: older := by
  cases newer with
  | nil =>
    cases split
    exact .inl ⟨rfl, rfl⟩
  | cons first later =>
    cases split
    exact .inr ⟨later, rfl⟩

structure ApprovalInv (w : World) : Prop where
  keys : UserKeys w.store
  /-- Identifiers that are still to be drawn are not in the record. -/
  known : ∀ userId, shut userId w.log = true → userId < w.store.supply
  approved : Careful w.log → Approved w

theorem Approved.of_log (approved : Approved w) (log : w'.log = ev :: w.log)
    (notRejected : ∀ call uid, ev ≠ .rejected call uid)
    (disabled : ∀ u ∈ w'.store.users, shut u.id w'.log = true → u.enabled = false) :
    Approved w' where
  disabled := disabled
  rejected newer older call uid split := by
    rw [log] at split
    rcases rejected_cons split with ⟨same, _⟩ | ⟨later, split⟩
    · exact absurd same (notRejected call uid)
    · exact approved.rejected later older call uid split

theorem Approved.of_users (approved : Approved w) (log : w'.log = w.log)
    (us : w'.store.users ⊆ w.store.users) : Approved w' where
  disabled user mem isShut := approved.disabled user (us mem) (by rwa [← log])
  rejected newer older call uid split :=
    approved.rejected newer older call uid (by rwa [← log])

theorem opened_approved (approval : r.registrationApprovalRequired = true) {u : User}
    (inv : ApprovalInv w) (careful : Careful w.log) (opens : Opens r u ev)
    (isNew : u.id = w.store.supply)
    (isStore : w'.store =
      { w.store with supply := w.store.supply + 1, users := u :: w.store.users })
    (log : w'.log = ev :: w.log) : Approved w' := by
  have approved := inv.approved careful
  have unknown : shut u.id w.log = false := by
    cases known : shut u.id w.log with
    | false => rfl
    | true =>
      have drawn := inv.known u.id known
      omega
  have other : ∀ old ∈ w.store.users, shut old.id (ev :: w.log) = true →
      shut old.id w.log = true := by
    intro old mem isShut
    have drawn := inv.keys.drawn old mem
    cases opens with
    | registered _ _ =>
      have ne : u.id ≠ old.id := by omega
      simpa [shut, ne] using isShut
    | provisioned => exact isShut
  apply approved.of_log log
  · intro call uid same
    cases opens <;> cases same
  · intro someone mem isShut
    rw [isStore] at mem
    rw [log] at isShut
    rcases mem_cons.mp mem with rfl | old
    · cases opens with
      | registered disabled _ => rw [disabled, approval]; rfl
      | provisioned =>
        change shut _ w.log = true at isShut
        rw [unknown] at isShut
        cases isShut
    · exact approved.disabled someone old (other someone old isShut)

theorem written_approved {row : User} (inv : ApprovalInv w)
    (careful : Careful w.log) (hit : findUserById row.id w.store = some row)
    (writes : Writes w.log row change ev)
    (isStore : w'.store = Store.updateUser w.store row.id change)
    (log : w'.log = ev :: w.log) : Approved w' := by
  have approved := inv.approved careful
  have stored : row ∈ w.store.users := mem_of_find?_eq_some hit
  apply approved.of_log log
  · intro call uid same
    cases writes <;> cases same
  · intro someone mem isShut
    rw [isStore] at mem
    obtain ⟨old, wasThere, rfl⟩ := mem_map.mp mem
    by_cases same : old.id = row.id
    · have isRow : old = row := inv.keys.unique old wasThere row stored same
      subst isRow
      simp only [if_true, writes.id] at isShut ⊢
      rw [log] at isShut
      cases writes with
      | redeemed _ => exact approved.disabled old wasThere isShut
      | reenabled seen => exact absurd seen (careful.verifying old.id)
      | approved => simp [shut] at isShut
      | synced => exact approved.disabled old wasThere isShut
      | @updated dto =>
        simp only [shut, if_true] at isShut
        cases asked : dto.enabled with
        | none =>
          rw [asked] at isShut
          simpa [profileUpdated, asked] using approved.disabled old wasThere isShut
        | some enabled =>
          simpa [profileUpdated, asked] using isShut
    · simp only [same, if_false] at isShut ⊢
      rw [log, shut_other writes (Ne.symm same)] at isShut
      exact approved.disabled old wasThere isShut

theorem rejected_approved {call : Nat} (approved : Approved w) (careful : Careful w'.log)
    (seen : .rejecting call uid ∈ w.log) (isNext : w' = (accountDeleted call uid w).2)
    (log : w'.log = .rejected call uid :: w.log) : Approved w' := by
  constructor
  · intro u mem isShut
    rw [isNext] at mem
    rw [log] at isShut
    exact approved.disabled u (accountDeleted_users call uid w mem) isShut
  · intro newer older otherCall other split
    rw [log] at split
    rcases rejected_cons split with ⟨same, rfl⟩ | ⟨later, split⟩
    · cases same
      obtain ⟨between, pre, isLog⟩ := append_of_mem seen
      have waits := careful.rejecting [] between pre call uid (by rw [log, isLog]; rfl)
      rw [isLog]
      exact awaiting_append waits.2 (awaiting_cons (by simp [Event.enables]) waits.1)
    · exact approved.rejected later older otherCall other split

theorem ApprovalInv.known_step (inv : ApprovalInv w) (step : Step r w w') {uid : Nat}
    (isShut : shut uid w'.log = true) : uid < w'.store.supply := by
  cases step with
  | calm calm log =>
    rw [log] at isShut
    exact (inv.known uid isShut).trans_le calm.supply
  | remarked remark same log =>
    rw [log, shut_remark remark] at isShut
    rw [same]
    exact inv.known uid isShut
  | @opened u _ opens isNew isStore log =>
    rw [log] at isShut
    rw [isStore]
    have old : shut uid w.log = true → uid < w.store.supply + 1 := fun known =>
      lt_succ_of_lt (inv.known uid known)
    cases opens with
    | registered _ _ =>
      simp only [shut, or_eq_true, and_eq_true, decide_eq_true_eq] at isShut
      cases isShut with
      | inl new =>
        change uid < w.store.supply + 1
        omega
      | inr pre => exact old pre
    | provisioned => exact old isShut
  | @written row _ _ hit writes isStore log =>
    rw [isStore]
    by_cases same : row.id = uid
    · rw [← same]
      exact inv.keys.drawn row (mem_of_find?_eq_some hit)
    · rw [log, shut_other writes same] at isShut
      exact inv.known uid isShut
  | issued isNext =>
    rw [isNext] at isShut ⊢
    exact lt_succ_of_lt (inv.known uid isShut)
  | @rejected call deleted seen isNext log =>
    rw [log] at isShut
    rw [isNext, accountDeleted_supply]
    exact inv.known uid isShut
  | withdrawn isNext =>
    rw [isNext] at isShut ⊢
    exact inv.known uid isShut

theorem ApprovalInv.step (approval : r.registrationApprovalRequired = true)
    (inv : ApprovalInv w) (step : Step r w w') : ApprovalInv w' := by
  refine ⟨step.keys inv.keys, fun uid => inv.known_step step, fun careful => ?_⟩
  cases step with
  | calm calm log =>
    have us : w'.store.users ⊆ w.store.users := by
      rw [calm.users]
      exact Subset.refl _
    exact (inv.approved (log ▸ careful)).of_users log us
  | remarked remark same log =>
    have approved := inv.approved (log ▸ careful).tail
    apply approved.of_log log
    · intro call uid isRejected
      cases remark <;> cases isRejected
    · intro u mem isShut
      rw [log, shut_remark remark] at isShut
      rw [same] at mem
      exact approved.disabled u mem isShut
  | opened opens isNew isStore log =>
    exact opened_approved approval inv (log ▸ careful).tail opens isNew isStore log
  | written hit writes isStore log =>
    exact written_approved inv (log ▸ careful).tail hit writes isStore log
  | @issued uid addr isNext =>
    subst isNext
    have approved := inv.approved careful.tail
    apply approved.of_log rfl
    · intro call rejected no
      cases no
    · exact fun u mem isShut => approved.disabled u mem isShut
  | rejected seen isNext log =>
    exact rejected_approved (inv.approved (log ▸ careful).tail) careful seen isNext log
  | withdrawn isNext =>
    subst isNext
    exact (inv.approved careful).of_users rfl filter_sublist.subset

theorem ApprovalInv.steps (approval : r.registrationApprovalRequired = true)
    (inv : ApprovalInv w) (steps : ReflTransGen (Step r) w w') : ApprovalInv w' := by
  induction steps with
  | refl => exact inv
  | tail _ step ih => exact ih.step approval step

/-- The run begins: of what was before, only the tokens that are still good are in the record. -/
def Begins (log : List Event) : Prop :=
  ∀ event ∈ log, ∃ token userId address, event = .issued token userId address

theorem shut_of_begins (begins : Begins log) (uid : Nat) : shut uid log = false := by
  induction log with
  | nil => rfl
  | cons ev rest ih =>
    obtain ⟨tok, owner, addr, rfl⟩ := begins ev mem_cons_self
    exact ih fun other mem => begins other (.tail _ mem)

theorem ApprovalInv.begins (keys : UserKeys w.store) (begins : Begins w.log) : ApprovalInv w := by
  have open_ : ∀ uid, shut uid w.log = true → False := by
    intro uid isShut
    rw [shut_of_begins begins uid] at isShut
    cases isShut
  refine ⟨keys, fun uid isShut => (open_ uid isShut).elim, fun _ => ⟨?_, ?_⟩⟩
  · exact fun u _ isShut => (open_ u.id isShut).elim
  · intro newer older call uid split
    obtain ⟨tok, owner, addr, no⟩ := begins (.rejected call uid) (by simp [split])
    cases no

/-- In a realm that wants registrations to be approved, whatever the calls and the order of their
steps: as long as only enabled users verify their addresses, and only registrations that nobody
has approved are looked up for rejection and not approved before they are deleted, nobody is let
in without an approval or an administrator, and nobody else is deleted. -/
theorem approval_is_not_bypassed (server : Server) (r : RegistrationRealm)
    (approval : r.registrationApprovalRequired = true) (calls : Nat → Call) (start w : World)
    (keys : UserKeys start.store) (issued : TokensIssued start) (begins : Begins start.log)
    (reached : Reached server r calls start w) (careful : Careful w.log) : Approved w :=
  ((ApprovalInv.begins keys begins).steps approval (reached.steps issued)).approved careful

def club : RegistrationRealm :=
  { id := 1, name := "club", registrationApprovalRequired := true, requireEmailVerification := true }

def clubServer : Server where
  deps := Deps.transparent
  runtime := { inherited := fun _ _ => some .undefined, numberOfText := fun _ => .nan
               numberText := fun number => toString number.num, builtinText := id
               regExp := fun _ => none }
  hostname := some

def noCaptcha : CaptchaService where
  siteVerify := fun _ _ _ => none

def clubStart : World where
  store :=
    { supply := 10
      users := [{ id := 1, realmId := 1, username := "old", email := some "old@club.example" }] }

def newcomer : RegisterDto where
  username := "new"
  email := "new@club.example"
  password := "correct horse"

theorem clubStart_keys : UserKeys clubStart.store where
  unique := by simp [clubStart]
  drawn := by simp [clubStart]

theorem clubStart_issued : TokensIssued clubStart := by
  intro row mem
  cases mem

theorem clubStart_begins : Begins clubStart.log := by
  intro ev mem
  cases mem

def joining (third : Call) : Nat → Call
  | 0 => .register noCaptcha {} newcomer none
  | 1 => third
  | 2 => .verifyEmail 11
  | 3 => .updateUser 1 { enabled := some false }
  | _ => .rejectRegistration 1

def approvedRow : User :=
  { id := 10, realmId := 1, username := "new", email := some "new@club.example",
    passwordHash := some "correct horse", passwordChangedAt := some 0 }

def approval : Call := .approveRegistration { configured := false } 10

theorem approval_log : (inTurn clubServer club (joining approval) clubStart [0, 1, 2]).log =
    [.redeemed 11 approvedRow, .verifying 10 true, .approved 10,
      .issued 11 10 "new@club.example", .registered 10 true] := rfl

/-- The newcomer is approved, and then verifies the address. -/
theorem newcomer_is_approved :
    Approved (inTurn clubServer club (joining approval) clubStart [0, 1, 2]) := by
  apply approval_is_not_bypassed clubServer club rfl _ clubStart _ clubStart_keys clubStart_issued
    clubStart_begins (inTurn_reached _ _ _ _ _)
  rw [approval_log]
  constructor
  · intro uid mem
    simp at mem
  · intro newer between older call uid split
    have mem : .rejected call uid ∈ newer ++ .rejected call uid ::
        (between ++ .rejecting call uid :: older) := by simp
    rw [← split] at mem
    simp at mem

/-- Without any approval the newcomer is let in by verifying the address, and a member whom an
administrator has disabled is deleted as a pending registration. -/
theorem newcomer_is_let_in :
    ∃ w, Reached clubServer club (joining (.acceptInvitation "" 0 none)) clubStart w ∧
      (∃ u ∈ w.store.users, shut u.id w.log = true ∧ u.enabled = true) ∧
      (∃ newer older, w.log = newer ++ .rejected 4 1 :: older ∧ awaiting 1 older = false) ∧
      ¬Approved w := by
  refine ⟨_, inTurn_reached _ _ _ _ [0, 2, 3, 4], ⟨_, mem_cons_self, rfl, rfl⟩,
    ⟨[], _, rfl, rfl⟩, ?_⟩
  intro approved
  have waits := approved.rejected [] _ 4 1 rfl
  cases waits

end Idenplane.Registration
