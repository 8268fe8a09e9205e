import Idenplane.Registration.Approval

/-! # Verified addresses

The flag of an address and the address are two columns.  The record says on what grounds the flag
was set, and for which address. -/

namespace Idenplane.Registration

open Atomic Auth Admin
open Relation (ReflTransGen)

/-- An administrator set the flag in a write that left this address. -/
def FlaggedByAdmin (log : List Event) (userId : Nat) (address : Option String) : Prop :=
  ∃ row dto, .updated row dto ∈ log ∧ row.id = userId ∧ dto.emailVerified = some true ∧
    dto.email.or row.email = address

def Redeemed (log : List Event) (userId : Nat) (address : String) : Prop :=
  ∃ token row, .redeemed token row ∈ log ∧ row.id = userId ∧ .issued token userId address ∈ log

def Asserted (log : List Event) (userId : Nat) (address : String) : Prop :=
  (∃ user, .provisioned user ∈ log ∧ user.id = userId ∧ user.email = some address ∧
    user.emailVerified = true) ∨
  ∃ row, .synced row (some address) true ∈ log ∧ row.id = userId

def Grounds (log : List Event) (userId : Nat) (address : Option String) : Prop :=
  FlaggedByAdmin log userId address ∨
    ∃ text, address = some text ∧ (Redeemed log userId text ∨ Asserted log userId text)

def Speaks (w : World) : Prop :=
  ∀ user ∈ w.store.users, user.emailVerified = true → Grounds w.log user.id user.email

/-- What the entries have to be like: an administrator or a provider who changes the address of a
verified user says anew whether it is verified, a token is redeemed while the address that it was
issued for is stored, and a provider that says verified says which address. -/
structure Settles (log : List Event) : Prop where
  updated : ∀ row dto, .updated row dto ∈ log → row.emailVerified = true →
    dto.emailVerified = none → dto.email.or row.email = row.email
  synced : ∀ row email, .synced row email false ∈ log → row.emailVerified = true →
    email.or row.email = row.email
  redeemed : ∀ token row address, .redeemed token row ∈ log → row.emailVerified = false →
    .issued token row.id address ∈ log → row.email = some address
  provisioned : ∀ user, .provisioned user ∈ log → user.emailVerified = true → user.email.isSome

variable {r : RegistrationRealm} {w w' : World} {log later : List Event} {ev : Event}
  {uid : Nat} {address : Option String}

theorem Settles.of_subset (settles : Settles later) (grown : log ⊆ later) : Settles log where
  updated row dto mem := settles.updated row dto (grown mem)
  synced row email mem := settles.synced row email (grown mem)
  redeemed token row address mem flag issued :=
    settles.redeemed token row address (grown mem) flag (grown issued)
  provisioned user mem := settles.provisioned user (grown mem)

theorem Grounds.mono (grounds : Grounds log uid address) (grown : log ⊆ later) :
    Grounds later uid address := by
  rcases grounds with ⟨row, dto, e, rest⟩ | ⟨text, isText, ⟨tok, row, e, isRow, issued⟩ | said⟩
  · exact .inl ⟨row, dto, grown e, rest⟩
  · exact .inr ⟨text, isText, .inl ⟨tok, row, grown e, isRow, grown issued⟩⟩
  · refine .inr ⟨text, isText, .inr ?_⟩
    rcases said with ⟨u, e, rest⟩ | ⟨row, e, isRow⟩
    · exact .inl ⟨u, grown e, rest⟩
    · exact .inr ⟨row, grown e, isRow⟩

structure AddressInv (w : World) : Prop where
  keys : UserKeys w.store
  speaks : Settles w.log → Speaks w

theorem Speaks.of_subset (speaks : Speaks w) (us : w'.store.users ⊆ w.store.users)
    (grown : w.log ⊆ w'.log) : Speaks w' :=
  fun u mem flag => (speaks u (us mem) flag).mono grown

theorem opened_speaks (required : r.requireEmailVerification = true) {u : User}
    (speaks : Speaks w) (settles : Settles w'.log) (opens : Opens r u ev)
    (isStore : w'.store =
      { w.store with supply := w.store.supply + 1, users := u :: w.store.users })
    (isLog : w'.log = ev :: w.log) : Speaks w' := by
  intro someone mem flag
  rw [isStore] at mem
  rcases mem_cons.mp mem with rfl | old
  · cases opens with
    | registered _ unflagged =>
      rw [unflagged flag] at required
      cases required
    | provisioned =>
      have e : .provisioned someone ∈ w'.log := by simp [isLog]
      have known := settles.provisioned someone e flag
      obtain ⟨text, isText⟩ := isSome_iff_exists.mp known
      exact .inr ⟨text, isText, .inr (.inl ⟨someone, e, rfl, isText, flag⟩)⟩
  · apply (speaks someone old flag).mono
    rw [isLog]
    exact subset_cons_self ..

variable {change : User → User}

theorem written_grounds {row : User} (old : row.emailVerified = true → Grounds log row.id row.email)
    (settles : Settles (ev :: log)) (writes : Writes log row change ev)
    (flag : (change row).emailVerified = true) :
    Grounds (ev :: log) row.id (change row).email := by
  have grown : log ⊆ ev :: log := subset_cons_self ..
  cases writes with
  | reenabled _ => exact (old flag).mono grown
  | approved => exact (old flag).mono grown
  | @redeemed tok text issued =>
    cases pre : row.emailVerified with
    | true => exact (old pre).mono grown
    | false =>
      have e : .issued tok row.id text ∈ .redeemed tok row :: log := grown issued
      have stored := settles.redeemed tok row text mem_cons_self pre e
      exact .inr ⟨text, stored, .inl ⟨tok, row, mem_cons_self, rfl, e⟩⟩
  | @updated dto =>
    cases asked : dto.emailVerified with
    | some v =>
      have isSet : v = true := by simpa [profileUpdated, asked] using flag
      subst isSet
      exact .inl ⟨row, dto, mem_cons_self, rfl, asked, rfl⟩
    | none =>
      have pre : row.emailVerified = true := by simpa [profileUpdated, asked] using flag
      have same := settles.updated row dto mem_cons_self pre asked
      change Grounds _ row.id (dto.email.or row.email)
      rw [same]
      exact (old pre).mono grown
  | @synced email firstName lastName asserted =>
    have pre : row.emailVerified = true := flag
    change Grounds _ row.id (email.or row.email)
    cases email with
    | none => exact (old pre).mono grown
    | some text =>
      cases asserted with
      | true => exact .inr ⟨text, rfl, .inr (.inr ⟨row, mem_cons_self, rfl⟩)⟩
      | false =>
        rw [settles.synced row (some text) mem_cons_self pre]
        exact (old pre).mono grown

theorem written_speaks {row : User} (keys : UserKeys w.store)
    (speaks : Speaks w) (settles : Settles w'.log)
    (hit : findUserById row.id w.store = some row) (writes : Writes w.log row change ev)
    (isStore : w'.store = Store.updateUser w.store row.id change)
    (isLog : w'.log = ev :: w.log) : Speaks w' := by
  have stored : row ∈ w.store.users := mem_of_find?_eq_some hit
  intro someone mem flag
  rw [isStore] at mem
  obtain ⟨old, wasThere, rfl⟩ := mem_map.mp mem
  rw [isLog] at settles ⊢
  by_cases same : old.id = row.id
  · have isRow : old = row := keys.unique old wasThere row stored same
    subst isRow
    simp only [if_true, writes.id] at flag ⊢
    exact written_grounds (speaks old wasThere) settles writes flag
  · simp only [same, if_false] at flag ⊢
    exact (speaks old wasThere flag).mono (subset_cons_self ..)

theorem AddressInv.step (need : r.requireEmailVerification = true) (inv : AddressInv w)
    (step : Step r w w') : AddressInv w' := by
  refine ⟨step.keys inv.keys, fun settles => ?_⟩
  have speaks := inv.speaks (settles.of_subset step.log)
  have grown := step.log
  cases step with
  | calm calm _ =>
    exact speaks.of_subset (by rw [calm.users]; exact Subset.refl _) grown
  | remarked _ same _ => exact speaks.of_subset (by rw [same]; exact Subset.refl _) grown
  | opened opens _ isStore isLog => exact opened_speaks need speaks settles opens isStore isLog
  | written hit writes isStore isLog =>
    exact written_speaks inv.keys speaks settles hit writes isStore isLog
  | issued isNext =>
    exact speaks.of_subset (by rw [isNext]; exact Subset.refl _) grown
  | rejected _ isNext _ =>
    exact speaks.of_subset (by rw [isNext]; exact accountDeleted_users _ _ _) grown
  | withdrawn isNext =>
    exact speaks.of_subset (by rw [isNext]; exact filter_sublist.subset) grown

theorem AddressInv.steps (need : r.requireEmailVerification = true) (inv : AddressInv w)
    (steps : ReflTransGen (Step r) w w') : AddressInv w' := by
  induction steps with
  | refl => exact inv
  | tail _ step ih => exact ih.step need step

/-- In a realm that requires verified addresses, whatever the calls and the order of their steps:
as long as nobody changes the address of a verified user without saying whether the new one is
verified, and tokens are redeemed while the address that they were mailed to is stored, every
flag speaks about the address that is stored. -/
theorem verified_flag_speaks (server : Server) (r : RegistrationRealm)
    (need : r.requireEmailVerification = true) (calls : Nat → Call) (start w : World)
    (keys : UserKeys start.store) (issued : TokensIssued start) (speaks : Speaks start)
    (reached : Reached server r calls start w) (settles : Settles w.log) : Speaks w :=
  (AddressInv.steps need ⟨keys, fun _ => speaks⟩ (reached.steps issued)).speaks settles

def membersStart : World where
  store :=
    { supply := 10
      users := [{ id := 1, realmId := 1, username := "one", email := some "one@club.example" },
        { id := 2, realmId := 1, username := "two", email := some "two@club.example" }] }

theorem membersStart_keys : UserKeys membersStart.store where
  unique := by simp [membersStart]
  drawn := by simp [membersStart]

theorem membersStart_issued : TokensIssued membersStart := by
  intro row mem
  cases mem

theorem membersStart_speaks : Speaks membersStart := by
  intro u mem flag
  simp only [membersStart, mem_cons, not_mem_nil, or_false] at mem
  rcases mem with rfl | rfl <;> cases flag

/-- The first member is verified by an administrator and gets another address; the second gets a
mail, and another address before the token is redeemed. -/
def moving : Nat → Call
  | 0 => .updateUser 1 { emailVerified := some true }
  | 1 => .updateUser 1 { email := some "else@club.example" }
  | 2 => .resendVerificationEmail {} "two@club.example"
  | 3 => .updateUser 2 { email := some "three@club.example" }
  | _ => .verifyEmail 10

def memberTwo : User := { id := 2, realmId := 1, username := "two", email := some "two@club.example" }

theorem staying_log : (inTurn clubServer club moving membersStart [2, 4]).log =
    [.redeemed 10 memberTwo, .verifying 2 true, .issued 10 2 "two@club.example"] := rfl

/-- The second member redeems the token without having moved. -/
theorem member_is_verified : Speaks (inTurn clubServer club moving membersStart [2, 4]) := by
  apply verified_flag_speaks clubServer club rfl _ membersStart _ membersStart_keys
    membersStart_issued membersStart_speaks (inTurn_reached _ _ _ _ _)
  rw [staying_log]
  constructor
  · intro row dto mem
    simp at mem
  · intro row email mem
    simp at mem
  · intro tok row address mem _ issued
    simp only [mem_cons, Event.redeemed.injEq, reduceCtorEq, not_mem_nil, or_false] at mem
    obtain ⟨rfl, rfl⟩ := mem
    simp only [mem_cons, Event.issued.injEq, reduceCtorEq, not_mem_nil, or_false,
      false_or] at issued
    obtain ⟨_, _, rfl⟩ := issued
    rfl
  · intro u mem
    simp at mem

def memberOne : User := { id := 1, realmId := 1, username := "one", email := some "one@club.example" }

def moved : World := inTurn clubServer club moving membersStart [0, 1, 2, 3, 4]

theorem moved_log : moved.log =
    [.redeemed 10 { memberTwo with email := some "three@club.example" }, .verifying 2 true,
      .updated memberTwo { email := some "three@club.example" },
      .issued 10 2 "two@club.example",
      .updated { memberOne with emailVerified := true } { email := some "else@club.example" },
      .updated memberOne { emailVerified := some true }] := rfl

theorem moved_users : moved.store.users =
    [{ memberOne with email := some "else@club.example", emailVerified := true },
      { memberTwo with email := some "three@club.example", emailVerified := true }] := rfl

/-- Both are verified under addresses that nobody has verified: the first kept the flag with
another address, the second got it by the token for the old one. -/
theorem flags_outlive_addresses : ∃ w, Reached clubServer club moving membersStart w ∧
      (∃ u ∈ w.store.users, u.id = 1 ∧ u.emailVerified = true ∧ ¬Grounds w.log u.id u.email) ∧
      (∃ u ∈ w.store.users, u.id = 2 ∧ u.emailVerified = true ∧
        ¬Grounds w.log u.id u.email) ∧ ¬Speaks w := by
  have one : ¬Grounds moved.log 1 (some "else@club.example") := by
    rw [moved_log]
    simp only [Grounds, FlaggedByAdmin, Redeemed, Asserted, memberOne, memberTwo]
    simp +contextual [or_imp, forall_and]
  have two : ¬Grounds moved.log 2 (some "three@club.example") := by
    rw [moved_log]
    simp only [Grounds, FlaggedByAdmin, Redeemed, Asserted, memberOne, memberTwo]
    simp +contextual [or_imp, forall_and]
  have first : { memberOne with email := some "else@club.example", emailVerified := true } ∈
      moved.store.users := by simp [moved_users]
  have snd : { memberTwo with email := some "three@club.example", emailVerified := true } ∈
      moved.store.users := by simp [moved_users]
  exact ⟨moved, inTurn_reached _ _ _ _ _, ⟨_, first, rfl, rfl, one⟩, ⟨_, snd, rfl, rfl, two⟩,
    fun speaks => one (speaks _ first rfl)⟩

end Idenplane.Registration
