import Idenplane.Nhi.RotationScheduler

/-! # One successor

Rotations, revocations and ticks on several instances at the same time.  A rotation finds its key,
creates a successor and revokes the key in three steps, and only the unique name of the successor
keeps two rotations apart.
-/

namespace Idenplane.Nhi

open Atomic Auth Admin List Nat World NhiCredential Pool

variable {old : NhiCredential} {credentialId : Nat}

/-- The name of its successor is taken, so that no rotation of the key can create one. -/
def World.blocked (w : World) (id : Nat) : Bool :=
  w.credentials.any fun credential => credential.id = id &&
    w.nameTaken credential.nhiIdentityId (successorName credential.name)

def World.rotatable (w : World) (id : Nat) : Bool := w.isLive id || w.blocked id

def World.replaced (w : World) (id : Nat) : Bool :=
  w.successions.any (·.predecessor = id)

def liveKey (identity : Nat) (credential : NhiCredential) : Bool :=
  credential.nhiIdentityId = identity && credential.credentialType = .API_KEY && credential.live

def World.liveKeys (w : World) (identity : Nat) : Nat :=
  w.credentials.countP (liveKey identity)

def World.standing (w : World) (identity : Nat) : Nat :=
  w.credentials.countP fun credential =>
    liveKey identity credential && !w.replaced credential.id

/-- The live keys whose rotation has created the successor and has yet to revoke them. -/
def World.underway (w : World) (identity : Nat) : Nat :=
  w.credentials.countP fun credential =>
    liveKey identity credential && w.replaced credential.id

theorem liveKeys_eq (w : World) (identity : Nat) :
    w.liveKeys identity = w.standing identity + w.underway identity := by
  unfold World.liveKeys standing World.underway
  induction w.credentials with
  | nil => rfl
  | cons cred rest ih =>
    simp only [countP_cons, ih]
    cases liveKey identity cred <;> cases w.replaced cred.id <;> simp <;> omega

structure Consistent (w : World) : Prop where
  ids : (w.credentials.map (·.id)).Nodup
  fresh : ∀ credential ∈ w.credentials, credential.id < w.supply
  successions : ∀ succession ∈ w.successions,
    w.blocked succession.predecessor = true ∧ succession.live = true
  once : (w.successions.map (·.predecessor)).Nodup
  begun : ∀ id ∈ w.begun, w.rotatable id = true
  completed : ∀ credential ∈ w.credentials, credential.rotatedAt ≠ none → credential.revoked = true

/-- What is left of a row in a later state. -/
structure Same (credential credential' : NhiCredential) : Prop where
  id : credential'.id = credential.id
  identity : credential'.nhiIdentityId = credential.nhiIdentityId
  type : credential'.credentialType = credential.credentialType
  name : credential'.name = credential.name
  revoked : credential.revoked = true → credential'.revoked = true

theorem Same.refl (credential : NhiCredential) : Same credential credential :=
  ⟨rfl, rfl, rfl, rfl, fun isRevoked => isRevoked⟩

theorem Same.trans {first snd third : NhiCredential} (pre : Same first snd)
    (after : Same snd third) : Same first third where
  id := after.id.trans pre.id
  identity := after.identity.trans pre.identity
  type := after.type.trans pre.type
  name := after.name.trans pre.name
  revoked isRevoked := after.revoked (pre.revoked isRevoked)

structure Grows (w w' : World) : Prop where
  rows : ∀ credential ∈ w.credentials, ∃ credential' ∈ w'.credentials, Same credential credential'
  begun : ∀ id ∈ w.begun, id ∈ w'.begun
  standing : ∀ identity, w'.standing identity + w.issued.count identity ≤
    w.standing identity + w'.issued.count identity

theorem Grows.refl (w : World) : Grows w w :=
  ⟨fun cred mem => ⟨cred, mem, .refl cred⟩, fun _ => id, fun _ => le_refl _⟩

theorem Grows.trans {first second third : World} (pre : Grows first second)
    (after : Grows second third) : Grows first third where
  rows credential listed := by
    obtain ⟨next, isNext, same⟩ := pre.rows credential listed
    obtain ⟨last, isLast, same'⟩ := after.rows next isNext
    exact ⟨last, isLast, same.trans same'⟩
  begun id isBegun := after.begun id (pre.begun id isBegun)
  standing identity := by
    have first := pre.standing identity
    have second := after.standing identity
    omega

def protocol : Protocol Nat World where
  inv := Consistent
  rely _ := Grows
  refl _ := Grows.refl
  trans _ := Grows.trans

/-- A rotation begins with a live key, or with one that has its successor, and nobody revokes a key
between the step in which a rotation finds it and the one in which its successor is created. -/
def Careful (w w' : World) : Prop :=
  (∀ id ∈ w'.begun, id ∉ w.begun → w.rotatable id = true) ∧
    ∀ id ∈ w.begun, w.isLive id = true → w'.rotatable id = true

instance : DecidableRel Careful := fun _ _ => inferInstanceAs (Decidable (_ ∧ _))

variable {w w' : World}

theorem mem_blocked {id : Nat} : w.blocked id = true ↔ ∃ cred ∈ w.credentials, cred.id = id ∧
      w.nameTaken cred.nhiIdentityId (successorName cred.name) = true := by
  simp [blocked]

variable {idn : Nat}

theorem mem_nameTaken {name : String} : w.nameTaken idn name = true ↔
    ∃ cred ∈ w.credentials, cred.nhiIdentityId = idn ∧ cred.name = name := by
  simp [nameTaken]

section

variable (rows : ∀ cred ∈ w.credentials, ∃ cred' ∈ w'.credentials, Same cred cred')

include rows

theorem nameTaken_of_rows {name : String} (taken : w.nameTaken idn name = true) :
    w'.nameTaken idn name = true := by
  obtain ⟨cred, mem, isIdentity, isName⟩ := mem_nameTaken.mp taken
  obtain ⟨cred', mem', same⟩ := rows cred mem
  exact mem_nameTaken.mpr ⟨cred', mem', same.identity.trans isIdentity, same.name.trans isName⟩

theorem blocked_of_rows {id : Nat} (blocked : w.blocked id = true) : w'.blocked id = true := by
  obtain ⟨cred, mem, isId, taken⟩ := mem_blocked.mp blocked
  obtain ⟨cred', mem', same⟩ := rows cred mem
  refine mem_blocked.mpr ⟨cred', mem', same.id.trans isId, ?_⟩
  rw [same.identity, same.name]
  exact nameTaken_of_rows rows taken

end

structure Quiet (w w' : World) : Prop where
  credentials : w'.credentials = w.credentials
  begun : w'.begun = w.begun
  successions : w'.successions = w.successions
  issued : w'.issued = w.issued
  supply : w.supply ≤ w'.supply

theorem quiet_kept (consistent : Consistent w) (quiet : Quiet w w') :
    Consistent w' ∧ Grows w w' := by
  have sameName (idn : Nat) (name : String) : w'.nameTaken idn name = w.nameTaken idn name := by
    simp [nameTaken, quiet.credentials]
  have sameBlocked (id : Nat) : w'.blocked id = w.blocked id := by
    simp [blocked, quiet.credentials, sameName]
  constructor
  · constructor
    · rw [quiet.credentials]
      exact consistent.ids
    · rw [quiet.credentials]
      exact fun cred mem => lt_of_lt_of_le (consistent.fresh cred mem) quiet.supply
    · rw [quiet.successions]
      intro succession mem
      rw [sameBlocked]
      exact consistent.successions succession mem
    · rw [quiet.successions]
      exact consistent.once
    · intro id isBegun
      rw [quiet.begun] at isBegun
      have rotatable := consistent.begun id isBegun
      rw [World.rotatable, World.isLive] at rotatable ⊢
      rw [quiet.credentials, sameBlocked]
      exact rotatable
    · rw [quiet.credentials]
      exact consistent.completed
  · constructor
    · rw [quiet.credentials]
      exact fun cred mem => ⟨cred, mem, .refl cred⟩
    · rw [quiet.begun]
      exact fun _ isBegun => isBegun
    · intro idn
      simp [standing, World.replaced, quiet.credentials, quiet.successions, quiet.issued]

theorem rewritten_kept (consistent : Consistent w) {rewrite : NhiCredential → NhiCredential}
    (careful : Careful w { w with credentials := w.credentials.map rewrite })
    (same : ∀ cred, Same cred (rewrite cred))
    (live : ∀ cred, (rewrite cred).live = true → cred.live = true)
    (completed : ∀ cred ∈ w.credentials, (rewrite cred).rotatedAt ≠ none →
      (rewrite cred).revoked = true) :
    Consistent { w with credentials := w.credentials.map rewrite } ∧
      Grows w { w with credentials := w.credentials.map rewrite } := by
  have rows : ∀ cred ∈ w.credentials, ∃ cred' ∈ w.credentials.map rewrite,
      Same cred cred' := fun cred mem =>
    ⟨rewrite cred, mem_map.mpr ⟨cred, mem, rfl⟩, same cred⟩
  constructor
  · constructor
    · have sameIds : (w.credentials.map rewrite).map (·.id) = w.credentials.map (·.id) := by
        simp [Function.comp_def, (same _).id]
      exact sameIds ▸ consistent.ids
    · intro cred mem
      obtain ⟨old, isOld, rfl⟩ := mem_map.mp mem
      rw [(same old).id]
      exact consistent.fresh old isOld
    · intro succession mem
      obtain ⟨blocked, wasLive⟩ := consistent.successions succession mem
      exact ⟨blocked_of_rows rows blocked, wasLive⟩
    · exact consistent.once
    · intro id isBegun
      rcases or_eq_true_iff.mp (consistent.begun id isBegun) with isLive | blocked
      · exact careful.2 id isBegun isLive
      · exact or_eq_true_iff.mpr (.inr (blocked_of_rows rows blocked))
    · intro cred mem isCompleted
      obtain ⟨old, isOld, rfl⟩ := mem_map.mp mem
      exact completed old isOld isCompleted
  · constructor
    · exact rows
    · exact fun _ isBegun => isBegun
    · intro idn
      apply Nat.add_le_add_right
      unfold standing
      rw [countP_map]
      apply countP_mono_left
      intro cred _ counts
      simp only [comp_apply, liveKey, (same cred).identity, (same cred).type,
        (same cred).id, and_eq_true, decide_eq_true_eq] at counts ⊢
      exact ⟨⟨counts.1.1, live cred counts.1.2⟩, counts.2⟩

theorem begun_kept (consistent : Consistent w) {id : Nat}
    (careful : Careful w { w with begun := id :: w.begun }) :
    Consistent { w with begun := id :: w.begun } ∧ Grows w { w with begun := id :: w.begun } := by
  have begun : ∀ other ∈ id :: w.begun, w.rotatable other = true := by
    intro other isBegun
    by_cases old : other ∈ w.begun
    · exact consistent.begun other old
    · exact careful.1 other isBegun old
  constructor
  · exact ⟨consistent.ids, consistent.fresh, consistent.successions, consistent.once, begun,
      consistent.completed⟩
  · exact ⟨fun cred mem => ⟨cred, mem, .refl cred⟩,
      fun _ isBegun => .tail _ isBegun, fun _ => le_refl _⟩

section New

variable {row : NhiCredential}

theorem rows_appended (isCredentials : w'.credentials = w.credentials ++ [row]) :
    ∀ cred ∈ w.credentials, ∃ cred' ∈ w'.credentials, Same cred cred' :=
  fun cred mem =>
    ⟨cred, isCredentials ▸ mem_append_left _ mem, .refl cred⟩

theorem appended_consistent (consistent : Consistent w)
    (isCredentials : w'.credentials = w.credentials ++ [row])
    (isSupply : w'.supply = w.supply + 1) (isBegun : w'.begun = w.begun)
    (isNew : row.id = w.supply) (isOpen : row.rotatedAt = none)
    (successions : ∀ succession ∈ w'.successions,
      w'.blocked succession.predecessor = true ∧ succession.live = true)
    (once : (w'.successions.map (·.predecessor)).Nodup) : Consistent w' where
  ids := by
    rw [isCredentials, map_append, nodup_append]
    refine ⟨consistent.ids, by simp, ?_⟩
    intro id listed other isOther same
    obtain ⟨cred, isRow, rfl⟩ := mem_map.mp listed
    have older := consistent.fresh cred isRow
    simp only [map_cons, map_nil, mem_singleton] at isOther
    omega
  fresh cred listed := by
    rw [isCredentials] at listed
    rcases mem_append.mp listed with old | new
    · have older := consistent.fresh cred old
      omega
    · rw [mem_singleton.mp new, isNew]
      omega
  successions := successions
  once := once
  begun id begun := by
    rw [isBegun] at begun
    rcases or_eq_true_iff.mp (consistent.begun id begun) with isLive | blocked
    · have stillLive : w'.isLive id = true := by
        rw [World.isLive, isCredentials, any_append]
        exact or_eq_true_iff.mpr (.inl isLive)
      exact or_eq_true_iff.mpr (.inl stillLive)
    · exact or_eq_true_iff.mpr (.inr (blocked_of_rows (rows_appended isCredentials) blocked))
  completed cred listed isCompleted := by
    rw [isCredentials] at listed
    rcases mem_append.mp listed with old | new
    · exact consistent.completed cred old isCompleted
    · rw [mem_singleton.mp new] at isCompleted
      exact absurd isOpen isCompleted

end New

structure Found (old : NhiCredential) (w : World) : Prop where
  begun : old.id ∈ w.begun
  row : ∃ credential ∈ w.credentials, Same old credential
  key : old.credentialType = .API_KEY

theorem Found.stable (hit : Found old w) (grows : Grows w w') : Found old w' where
  begun := grows.begun old.id hit.begun
  row := by
    obtain ⟨cred, mem, same⟩ := hit.row
    obtain ⟨cred', mem', same'⟩ := grows.rows cred mem
    exact ⟨cred', mem', same.trans same'⟩
  key := hit.key

theorem Found.free (hit : Found old w) (consistent : Consistent w)
    (free : w.nameTaken old.nhiIdentityId (successorName old.name) = false) :
    w.blocked old.id = false := by
  rw [eq_false_iff]
  intro blocked
  obtain ⟨cred, mem, isId, taken⟩ := mem_blocked.mp blocked
  obtain ⟨row, isRow, same⟩ := hit.row
  have isSame : cred = row :=
    inj_on_of_nodup_map consistent.ids mem isRow (isId.trans same.id.symm)
  rw [isSame, same.identity, same.name, free] at taken
  cases taken

theorem created_kept {deps : Deps} {newRaw : String} (consistent : Consistent w) (hit : Found old w)
    (free : w.nameTaken old.nhiIdentityId (successorName old.name) = false) :
    Consistent (successorCreated deps newRaw old w).2 ∧
      Grows w (successorCreated deps newRaw old w).2 := by
  have unblocked := hit.free consistent free
  have wasLive : w.isLive old.id = true := by
    rcases or_eq_true_iff.mp (consistent.begun old.id hit.begun) with isLive | blocked
    · exact isLive
    · rw [unblocked] at blocked
      cases blocked
  have notReplaced : w.replaced old.id = false := by
    rw [eq_false_iff]
    intro replaced
    obtain ⟨succession, mem, isOld⟩ := any_eq_true.mp replaced
    have blocked := (consistent.successions succession mem).1
    rw [of_decide_eq_true isOld, unblocked] at blocked
    cases blocked
  have notNew : w.replaced w.supply = false := by
    rw [eq_false_iff]
    intro replaced
    obtain ⟨succession, mem, isNew⟩ := any_eq_true.mp replaced
    obtain ⟨cred, isRow, isId, _⟩ :=
      mem_blocked.mp (consistent.successions succession mem).1
    have older := consistent.fresh cred isRow
    have isNew := of_decide_eq_true isNew
    omega
  obtain ⟨row, isRow, same⟩ := hit.row
  have older := consistent.fresh row isRow
  have rowLive : row.live = true := by
    obtain ⟨cred, mem, test⟩ := any_eq_true.mp wasLive
    simp only [and_eq_true, decide_eq_true_eq] at test
    have isSame : cred = row :=
      inj_on_of_nodup_map consistent.ids mem isRow (test.1.trans same.id.symm)
    exact isSame ▸ test.2
  rw [successorCreated_of_free free]
  have isCredentials : (World.credentials { w with
      supply := w.supply + 1
      credentials := w.credentials ++ [successor deps newRaw old w.supply w.now]
      successions := ⟨old.id, w.supply, w.isLive old.id⟩ :: w.successions }) =
        w.credentials ++ [successor deps newRaw old w.supply w.now] := rfl
  constructor
  · apply appended_consistent consistent isCredentials rfl rfl rfl rfl
    · intro succession mem
      rcases mem_cons.mp mem with rfl | earlier
      · refine ⟨?_, wasLive⟩
        refine mem_blocked.mpr ⟨row, mem_append_left _ isRow, same.id, ?_⟩
        rw [same.identity, same.name]
        exact mem_nameTaken.mpr ⟨_, mem_append_right _ (mem_singleton_self _), rfl, rfl⟩
      · obtain ⟨blocked, wasLive⟩ := consistent.successions succession earlier
        exact ⟨blocked_of_rows (rows_appended isCredentials) blocked, wasLive⟩
    · refine nodup_cons.mpr ⟨fun mem => ?_, consistent.once⟩
      obtain ⟨succession, earlier, isOld⟩ := mem_map.mp mem
      have replaced : w.replaced old.id = true :=
        any_eq_true.mpr ⟨succession, earlier, by simpa using isOld⟩
      rw [notReplaced] at replaced
      cases replaced
  · refine ⟨rows_appended isCredentials, fun _ isBegun => isBegun, fun idn => ?_⟩
    apply Nat.add_le_add_right
    have counted := Table.countP_except consistent.ids isRow fun cred =>
      liveKey idn cred && !w.replaced cred.id
    have rowCounts : (liveKey idn row && !w.replaced row.id) =
        decide (old.nhiIdentityId = idn) := by
      simp [liveKey, same.id, same.identity, same.type, hit.key, rowLive, notReplaced]
    have newCounts : (liveKey idn (successor deps newRaw old w.supply w.now) &&
        !(decide (old.id = w.supply) || w.replaced w.supply)) =
          decide (old.nhiIdentityId = idn) := by
      have apart : old.id ≠ w.supply := by
        have isId := same.id
        omega
      rw [Bool.eq_iff_iff]
      simp [liveKey, successor, live, notNew, apart]
      exact decide_eq_true_iff
    have os : w.credentials.countP (fun cred => liveKey idn cred &&
        !(decide (old.id = cred.id) || w.replaced cred.id)) = w.credentials.countP fun cred =>
            (liveKey idn cred && !w.replaced cred.id) && !decide (cred.id = row.id) := by
      apply countP_congr
      simp only [same.id, and_eq_true, not_eq_true', Bool.or_eq_false_iff,
        decide_eq_false_iff_not, ne_comm (a := old.id), ← ne_eq]
      tauto
    have isStanding : standing { w with
        supply := w.supply + 1
        credentials := w.credentials ++ [successor deps newRaw old w.supply w.now]
        successions := ⟨old.id, w.supply, w.isLive old.id⟩ :: w.successions } idn =
          w.credentials.countP (fun cred => liveKey idn cred &&
            !(decide (old.id = cred.id) || w.replaced cred.id)) +
            if decide (old.nhiIdentityId = idn) then 1 else 0 := by
      rw [standing, countP_append, countP_singleton]
      exact congrArg (fun counts : Bool => _ + if counts then 1 else 0) newCounts
    rw [isStanding, os]
    rw [rowCounts] at counted
    exact le_of_eq counted

theorem issued_kept {row : Nat → Int → NhiCredential} (isNew : ∀ id now, (row id now).id = id)
    (isOpen : ∀ id now, (row id now).rotatedAt = none) (consistent : Consistent w) :
    Consistent (credentialIssued row w).2 ∧ Grows w (credentialIssued row w).2 := by
  cases taken : w.nameTaken (row w.supply w.now).nhiIdentityId (row w.supply w.now).name with
  | true =>
    rw [credentialIssued, credentialCreated_of_taken taken]
    exact ⟨consistent, .refl w⟩
  | false =>
    rw [credentialIssued_of_free taken]
    constructor
    · refine appended_consistent consistent rfl rfl rfl (isNew _ _) (isOpen _ _) ?_ ?_
      · intro succession mem
        obtain ⟨blocked, wasLive⟩ := consistent.successions succession mem
        exact ⟨blocked_of_rows (rows_appended rfl) blocked, wasLive⟩
      · exact consistent.once
    · refine ⟨rows_appended rfl, fun _ isBegun => isBegun, fun idn => ?_⟩
      have isStanding : standing { w with
          supply := w.supply + 1
          credentials := w.credentials ++ [row w.supply w.now]
          issued :=
            if (row w.supply w.now).credentialType = .API_KEY then
              (row w.supply w.now).nhiIdentityId :: w.issued
            else w.issued } idn =
            w.standing idn + if liveKey idn (row w.supply w.now) &&
                !w.replaced (row w.supply w.now).id then 1 else 0 := by
        rw [standing, countP_append, countP_singleton]
        rfl
      rw [isStanding]
      by_cases isKey : (row w.supply w.now).credentialType = .API_KEY
      · by_cases own : (row w.supply w.now).nhiIdentityId = idn
        · simp only [isKey, own, if_true, count_cons_self]
          split <;> omega
        · simp [liveKey, isKey, own]
      · simp [liveKey, isKey]

variable {chg : NhiCredential → NhiCredential}

theorem credentialUpdated_kept (consistent : Consistent w)
    (careful : Careful w (credentialUpdated credentialId chg w))
    (same : ∀ cred, Same cred (chg cred))
    (live : ∀ cred, (chg cred).live = true → cred.live = true)
    (completed : ∀ cred ∈ w.credentials, cred.id = credentialId →
      (chg cred).rotatedAt ≠ none → (chg cred).revoked = true) :
    Consistent (credentialUpdated credentialId chg w) ∧
      Grows w (credentialUpdated credentialId chg w) := by
  apply rewritten_kept consistent careful
  · intro cred
    by_cases isId : cred.id = credentialId
    · simpa [isId] using same cred
    · simpa [isId] using Same.refl cred
  · intro cred
    by_cases isId : cred.id = credentialId
    · simpa [isId] using live cred
    · simp [isId]
  · intro cred mem
    by_cases isId : cred.id = credentialId
    · simpa [isId] using completed cred mem isId
    · simpa [isId] using consistent.completed cred mem

theorem revocation_kept (consistent : Consistent w)
    (careful : Careful w (credentialUpdated credentialId (revocation w.now) w)) :
    Consistent (credentialUpdated credentialId (revocation w.now) w) ∧
      Grows w (credentialUpdated credentialId (revocation w.now) w) := by
  apply credentialUpdated_kept consistent careful
  · exact fun _ => ⟨rfl, rfl, rfl, rfl, fun _ => rfl⟩
  · intro cred isLive
    simp [revocation, live] at isLive
  · exact fun _ _ _ _ => rfl

theorem credentialsRevoked_kept (consistent : Consistent w)
    (careful : Careful w (credentialsRevoked idn w)) :
    Consistent (credentialsRevoked idn w) ∧ Grows w (credentialsRevoked idn w) := by
  apply rewritten_kept consistent careful
  · intro cred
    split
    · exact ⟨rfl, rfl, rfl, rfl, fun _ => rfl⟩
    · exact .refl cred
  · intro cred isLive
    by_cases own : cred.nhiIdentityId = idn <;> simp_all [live]
  · intro cred mem
    by_cases own : cred.nhiIdentityId = idn
    · simp [own]
    · simpa [own] using consistent.completed cred mem

def Retired (credentialId : Nat) (w : World) : Prop :=
  ∃ credential ∈ w.credentials, credential.id = credentialId ∧ credential.revoked = true

theorem Retired.stable (retired : Retired credentialId w)
    (grows : Grows w w') : Retired credentialId w' := by
  obtain ⟨cred, mem, isId, isRevoked⟩ := retired
  obtain ⟨cred', mem', same⟩ := grows.rows cred mem
  exact ⟨cred', mem', same.id.trans isId, same.revoked isRevoked⟩

theorem retired_of_update (hit : Found old w) (keeps : ∀ cred, (chg cred).id = cred.id)
    (revokes : ∀ cred, (chg cred).revoked = true) :
    Retired old.id (credentialUpdated old.id chg w) := by
  obtain ⟨row, isRow, same⟩ := hit.row
  refine ⟨chg row, mem_map.mpr ⟨row, isRow, ?_⟩, (keeps row).trans same.id, revokes row⟩
  rw [if_pos same.id]

theorem rotationBegun_kept (consistent : Consistent w) {hit : Option NhiCredential}
    (careful : Careful w (rotationBegun hit w)) :
    Consistent (rotationBegun hit w) ∧ Grows w (rotationBegun hit w) := by
  cases hit with
  | none => exact ⟨consistent, .refl w⟩
  | some old =>
    by_cases isKey : old.credentialType = .API_KEY
    · have begins : rotationBegun (some old) w = { w with begun := old.id :: w.begun } := by
        simp [rotationBegun, isKey]
      rw [begins] at careful ⊢
      exact begun_kept consistent careful
    · have begins : rotationBegun (some old) w = w := by simp [rotationBegun, isKey]
      rw [begins]
      exact ⟨consistent, .refl w⟩

theorem found_of_begun (mem : old ∈ w.credentials)
    (isKey : old.credentialType = .API_KEY) : Found old (rotationBegun (some old) w) := by
  have begins : rotationBegun (some old) w = { w with begun := old.id :: w.begun } := by
    simp [rotationBegun, isKey]
  rw [begins]
  exact ⟨mem_cons_self, ⟨old, mem, .refl old⟩, isKey⟩

theorem successorCreated_kept (deps : Deps) (newRaw : String)
    (consistent : Consistent w) (hit : Found old w) :
    Consistent (successorCreated deps newRaw old w).2 ∧
      Grows w (successorCreated deps newRaw old w).2 := by
  cases taken : w.nameTaken old.nhiIdentityId (successorName old.name) with
  | true =>
    rw [successorCreated_of_taken taken]
    exact ⟨consistent, .refl w⟩
  | false => exact created_kept consistent hit taken

section Requests

variable {deps : Deps} {j : Nat}

theorem reads_respected (w w' : World) (consistent : Consistent w) (same : w = w') :
    Consistent w' ∧ ∀ _ : Nat, Grows w w' := by
  subst same
  exact ⟨consistent, fun _ => .refl w⟩

theorem findById_reads (r : Realm) (id : Nat) : (findById r id).Keeps Eq :=
  .bind (.read (fun _ => rfl) _) fun _ => .orFail _ _

theorem findCredentialById_reads (r : Realm) (id credentialId : Nat) :
    (findCredentialById r id credentialId).Keeps Eq :=
  .bind (findById_reads r id) fun _ =>
    .bind (.read (fun _ => rfl) _) fun _ =>
      .bind (.orFail _ _) fun _ => trivial

variable {α : Type}

theorem retirement_sat (hit : Found old w) (ans : α) :
    (modify (fun w => credentialUpdated old.id (revocation w.now) w) >>= fun _ =>
      modify (fun w => credentialUpdated old.id
        (fun cred => { cred with rotatedAt := some w.now }) w) >>= fun _ =>
          (pure ans : Call α)).Sat protocol Careful j
      (onOk fun _ after => Retired old.id after) w := by
  refine .modify_bind fun first moved consistent careful => ?_
  have retired : Retired old.id (credentialUpdated old.id (revocation first.now) first) :=
    retired_of_update (hit.stable moved) (fun _ => rfl) fun _ => rfl
  obtain ⟨kept, grows⟩ := revocation_kept consistent careful
  refine ⟨kept, fun _ _ => grows, .modify_bind fun second moved consistent careful => ?_⟩
  have retired' : Retired old.id second := retired.stable moved
  have marked := credentialUpdated_kept consistent careful
    (fun _ => ⟨rfl, rfl, rfl, rfl, fun isRevoked => isRevoked⟩) (fun _ isLive => isLive)
    fun cred mem isId _ => by
      obtain ⟨row, isRow, isOld, isRevoked⟩ := retired'
      have same : cred = row :=
        inj_on_of_nodup_map consistent.ids mem isRow (isId.trans isOld.symm)
      exact same ▸ isRevoked
  refine ⟨marked.1, fun _ _ => marked.2, .done fun last moved _ => ?_⟩
  exact (retired'.stable marked.2).stable moved

theorem rotateCredential_sat (r : Realm) (id credentialId : Nat) (newRaw : String)
    (w : World) : (rotateCredential deps r id credentialId newRaw).Sat protocol Careful j
      (onOk fun _ after => Retired credentialId after) w := by
  refine .keeps_bind (findCredentialById_reads r id credentialId) reads_respected
    (fun _ _ _ _ => ?_) fun _ _ _ _ => trivial
  refine .atomic_bind fun here _ consistent careful => ?_
  obtain ⟨kept, grows⟩ := rotationBegun_kept consistent careful
  refine ⟨kept, fun _ _ => grows, .orFail_bind (fun old isFound => ?_) fun _ _ _ _ => trivial⟩
  refine .require_bind (fun isKey => ?_) fun _ _ _ _ => trivial
  have isId : old.id = credentialId := by
    have test := find?_some isFound
    simp only [and_eq_true, decide_eq_true_eq] at test
    exact test.1
  subst isId
  have hit : Found old (rotationBegun (here.credential? id old.id) here) := by
    rw [show here.credential? id old.id = some old from isFound]
    exact found_of_begun (mem_of_find?_eq_some isFound) (of_decide_eq_true isKey)
  refine .atomic_bind fun there moved consistent _ => ?_
  have hit' := hit.stable moved
  obtain ⟨kept, grows⟩ := successorCreated_kept deps newRaw consistent hit'
  refine ⟨kept, fun _ _ => grows, .orFail_bind (fun _ _ => ?_) fun _ _ _ _ => trivial⟩
  exact retirement_sat (hit'.stable grows) _

theorem rotateDue_sat (r : Realm) (credentialId : Nat) (newRaw : String) (w : World) :
    (rotateDue deps r credentialId newRaw).Sat protocol Careful j (fun _ _ => True) w := by
  refine .atomic_bind fun here _ consistent careful => ?_
  obtain ⟨kept, grows⟩ := rotationBegun_kept consistent careful
  refine ⟨kept, fun _ _ => grows, ?_⟩
  cases isFound : here.rotatable? r credentialId with
  | none => exact .done fun _ _ _ => trivial
  | some old =>
    have test := find?_some isFound
    simp only [and_eq_true, decide_eq_true_eq] at test
    obtain ⟨⟨⟨isId, _⟩, isKey⟩, _⟩ := test
    have found := found_of_begun (mem_of_find?_eq_some isFound) isKey
    refine .atomic_bind fun there moved consistent _ => ?_
    have found' := found.stable moved
    obtain ⟨kept, grows⟩ := successorCreated_kept deps newRaw consistent found'
    refine ⟨kept, fun _ _ => grows, .orFail_bind (fun _ _ => ?_) fun _ _ _ _ => trivial⟩
    intro last _ consistent careful
    have rotated := credentialUpdated_kept consistent careful
      (fun _ => ⟨rfl, rfl, rfl, rfl, fun _ => rfl⟩)
      (fun _ isLive => by simp [rotation, live] at isLive) fun _ _ _ _ => rfl
    exact ⟨rotated.1, fun _ _ => rotated.2, .done fun _ _ _ => trivial⟩

theorem rotateCredentialItem_sat (r : Realm) (item : DueItem) (newRaw : String) (w : World) :
    (rotateCredentialItem deps r item newRaw).Sat protocol Careful j (fun _ _ => True) w := by
  apply Sat.bind
  apply Prog.Sat.attempt
  apply (rotateDue_sat r item.credentialId newRaw w).mono
  intro out here _
  exact .done fun _ _ _ => trivial

theorem processRotations_sat (tick : Tick) (w : World) :
    (processRotations deps tick).Sat protocol Careful j (fun _ _ => True) w := by
  have common (i k : Nat) (w w' : World) (grows : protocol.rely i w w') :
      protocol.rely k w w' := grows
  refine .read_bind fun here _ _ => .allSettled common (fun p mem => ?_) _
  obtain ⟨r, _, rfl⟩ := mem_map.mp mem
  have scans : (getCredentialsDueForRotation r).Keeps Eq := by
    refine .bind (.read (fun _ => rfl) _) fun pols => ?_
    refine Prog.forEach_keeps (fun n pol _ due => ?_) 0 []
    exact .bind (.read (fun _ => rfl) _) fun _ =>
      .bind (.read (fun _ => rfl) _) fun _ => trivial
  refine .keeps_bind scans reads_respected (fun due _ _ _ => ?_) fun _ _ _ _ => trivial
  refine .allSettled common (fun p mem => ?_) _
  obtain ⟨⟨item, n⟩, _, rfl⟩ := mem_map.mp mem
  exact rotateCredentialItem_sat r item _ _

theorem revokeCredential_sat (r : Realm) (id credentialId : Nat) (w : World) :
    (revokeCredential r id credentialId).Sat protocol Careful j (fun _ _ => True) w := by
  refine .keeps_bind (findCredentialById_reads r id credentialId) reads_respected
    (fun _ _ _ _ => ?_) fun _ _ _ _ => trivial
  refine .read_bind fun here _ _ => ?_
  split
  · exact .done fun _ _ _ => trivial
  · refine .modify_bind fun there _ consistent careful => ?_
    obtain ⟨kept, grows⟩ := revocation_kept consistent careful
    exact ⟨kept, fun _ _ => grows, .done fun _ _ _ => trivial⟩

theorem identityUpdated_quiet (id : Nat) (chg : NhiIdentity → NhiIdentity) (w : World) :
    Quiet w (identityUpdated id chg w).2 := by
  unfold identityUpdated
  cases w.identityRow? id <;> exact ⟨rfl, rfl, rfl, rfl, le_refl _⟩

theorem Quiet.refl (w : World) : Quiet w w := ⟨rfl, rfl, rfl, rfl, le_refl _⟩

theorem findById_quiet (r : Realm) (id : Nat) : (findById r id).Keeps Quiet :=
  (findById_reads r id).mono fun _ _ same => same ▸ .refl _

theorem create_quiet (r : Realm) (dto : CreateNhiIdentityDto) : (create r dto).Keeps Quiet := by
  refine .bind (.read .refl _) fun _ => .bind (.require _ _) fun _ => ?_
  refine .bind (.atomic fun w => ?_) fun _ => .orFail _ _
  simp only [identityCreated]
  split
  · exact .refl w
  · exact ⟨rfl, rfl, rfl, rfl, le_succ _⟩

theorem update_quiet (r : Realm) (id : Nat) (dto : UpdateNhiIdentityDto) :
    (update r id dto).Keeps Quiet := by
  refine .bind (findById_quiet r id) fun _ => .bind (.read .refl _) fun _ => ?_
  refine .bind (.require _ _) fun _ => ?_
  refine .bind (.atomic fun w => ?_) fun _ => .orFail _ _
  unfold updateWritten
  split
  · exact .refl w
  · exact identityUpdated_quiet id _ w

theorem suspend_quiet (r : Realm) (id : Nat) : (suspend r id).Keeps Quiet :=
  .bind (findById_quiet r id) fun _ =>
    .bind (.atomic fun w => identityUpdated_quiet id _ w) fun _ => .orFail _ _

theorem reactivate_quiet (r : Realm) (id : Nat) : (reactivate r id).Keeps Quiet :=
  .bind (findById_quiet r id) fun _ => .bind (.require _ _) fun _ =>
    .bind (.atomic fun w => identityUpdated_quiet id _ w) fun _ => .orFail _ _

theorem quiet_respected (w w' : World) (consistent : Consistent w)
    (quiet : Quiet w w') : Consistent w' ∧ ∀ _ : Nat, Grows w w' :=
  ⟨(quiet_kept consistent quiet).1, fun _ => (quiet_kept consistent quiet).2⟩

theorem decommission_sat (r : Realm) (id : Nat) (w : World) :
    (decommission r id).Sat protocol Careful j (fun _ _ => True) w := by
  refine .keeps_bind (findById_reads r id) reads_respected (fun _ _ _ _ => ?_)
    fun _ _ _ _ => trivial
  refine .modify_bind fun here _ consistent careful => ?_
  obtain ⟨kept, grows⟩ := credentialsRevoked_kept consistent careful
  refine ⟨kept, fun _ _ => grows, .ofKeeps ?_ quiet_respected fun _ _ _ _ => trivial⟩
  exact .bind (.atomic fun w => identityUpdated_quiet id _ w) fun _ => .orFail _ _

theorem createCredential_sat (r : Realm) (id : Nat) (dto : CreateNhiCredentialDto)
    (rawKey : String) (w : World) :
    (createCredential deps r id dto rawKey).Sat protocol Careful j (fun _ _ => True) w := by
  refine .keeps_bind (findById_reads r id) reads_respected (fun _ _ _ _ => ?_)
    fun _ _ _ _ => trivial
  refine .atomic_bind fun here _ consistent _ => ?_
  have issued : Consistent (credentialIssued (dto.row deps id rawKey) here).2 ∧
      Grows here (credentialIssued (dto.row deps id rawKey) here).2 :=
    issued_kept (fun _ _ => rfl) (fun _ _ => rfl) consistent
  obtain ⟨kept, grows⟩ := issued
  refine ⟨kept, fun _ _ => grows, .orFail_bind (fun _ _ => ?_) fun _ _ _ _ => trivial⟩
  exact .done fun _ _ _ => trivial

def Promise (req : Request) (w : World) : Prop :=
  match req with
  | .rotateCredential _ _ credentialId _ => Retired credentialId w
  | _ => True

theorem ignored_sat {call : Call α} {promise : World → Prop}
    (stable : ∀ w w', promise w → Grows w w' → promise w')
    (sat : call.Sat protocol Careful j (onOk fun _ => promise) w) :
    (call >>= fun _ => (pure () : Call Unit)).Sat protocol Careful j (onOk fun _ => promise) w :=
  .ok_bind sat (fun _ here holds => .done fun last moved _ => stable here last holds moved)
    fun _ _ => trivial

theorem unpromised_sat {call : Call α} (sat : call.Sat protocol Careful j (fun _ _ => True) w) :
    (call >>= fun _ => (pure () : Call Unit)).Sat protocol Careful j (onOk fun _ _ => True) w :=
  ignored_sat (fun _ _ _ _ => trivial) (sat.mono fun res _ _ => by cases res <;> trivial)

theorem serve_sat (req : Request) (w : World) :
    (serve deps req).Sat protocol Careful j (onOk fun _ => Promise req) w := by
  have quietly {α : Type} {call : Call α} (quiet : call.Keeps Quiet) :
      call.Sat protocol Careful j (fun _ _ => True) w :=
    .ofKeeps quiet quiet_respected fun _ _ _ _ => trivial
  cases req with
  | create r dto => exact unpromised_sat (quietly (create_quiet r dto))
  | update r id dto => exact unpromised_sat (quietly (update_quiet r id dto))
  | suspend r id => exact unpromised_sat (quietly (suspend_quiet r id))
  | reactivate r id => exact unpromised_sat (quietly (reactivate_quiet r id))
  | decommission r id => exact unpromised_sat (decommission_sat r id w)
  | createCredential r id dto rawKey => exact unpromised_sat (createCredential_sat r id dto rawKey w)
  | rotateCredential r id credentialId newRaw =>
    exact ignored_sat (fun _ _ retired grows => retired.stable grows)
      (rotateCredential_sat r id credentialId newRaw w)
  | revokeCredential r id credentialId =>
    exact unpromised_sat (revokeCredential_sat r id credentialId w)
  | tick tick =>
    exact (processRotations_sat tick w).mono fun res _ _ => by cases res <;> trivial

def Passes (w w' : World) : Prop := ∃ later, w' = { w with now := later }

variable (deps)

def requestPool (requests : Nat → Request) (w : World) : Pool Nat World Failure Unit :=
  ⟨w, fun j => serve deps (requests j)⟩

/-- In a run of careful steps every key gets at most one successor, while it is live, and is revoked
when its rotation is through; so an identity has never more live keys than it had and got, but for
those in the middle of a rotation. -/
theorem rotation_yields_one_successor (reqs : Nat → Request) (start : World)
    (consistent : Consistent start) (after : Pool Nat World Failure Unit)
    (reached : Pool.Reaches Passes Careful (requestPool deps reqs start) after) :
    (after.state.successions.map (·.predecessor)).Nodup ∧
      (∀ succession ∈ after.state.successions, succession.live = true) ∧
      (∀ cred ∈ after.state.credentials, cred.rotatedAt ≠ none →
        cred.revoked = true) ∧ (∀ j r id credentialId newRaw,
        reqs j = .rotateCredential r id credentialId newRaw →
          after.procs j = .done () → Retired credentialId after.state) ∧
      ∀ identity, after.state.liveKeys identity + start.issued.count identity ≤
        start.liveKeys identity + after.state.issued.count identity +
          after.state.underway identity := by
  have passing (here there : World) (inv : protocol.inv here) (passes : Passes here there) :
      protocol.inv there ∧ ∀ j, protocol.rely j here there := by
    obtain ⟨later, rfl⟩ := passes
    exact quiet_respected here { here with now := later } inv ⟨rfl, rfl, rfl, rfl, Nat.le_refl _⟩
  have threads (j : Nat) : ((requestPool deps reqs start).procs j).Sat protocol Careful j
      (onOk fun _ => Promise (reqs j)) start := serve_sat (reqs j) start
  have inv : Consistent after.state := (sound consistent threads passing reached).1
  have grows : Grows start after.state :=
    sound_moves (fun _ _ _ _ moved => moved) consistent threads passing reached 0
  refine ⟨inv.once, fun succession mem => (inv.successions succession mem).2, inv.completed,
    fun j r id credentialId newRaw isRequest fin => ?_, fun identity => ?_⟩
  · have kept := sound_done consistent threads passing reached fin
    rw [isRequest] at kept
    exact kept
  · have standing := grows.standing identity
    have before := liveKeys_eq start identity
    have now := liveKeys_eq after.state identity
    omega

def sensorWorld : World where
  supply := 2
  realms := [{ id := 0, name := "sensors" }]
  identities := [{ id := 0, realmId := 0, name := "hall", lifecycleStatus := .ACTIVE }]
  credentials := [{ id := 1, nhiIdentityId := 0, name := "key", createdAt := 0 }]

theorem sensorWorld_consistent : Consistent sensorWorld where
  ids := by decide
  fresh := by decide
  successions := by decide
  once := by decide
  begun := by decide
  completed := by decide

def rotations : Nat → Request :=
  fun _ => .rotateCredential { id := 0, name := "sensors" } 0 1 "a fresh key"

def rotatedPool : Pool Nat World Failure Unit :=
  (requestPool Deps.transparent rotations sensorWorld).schedule [0, 0, 0, 0, 0, 0]

theorem sensor_key_is_rotated :
    (rotatedPool.state.successions.map (·.predecessor)).Nodup ∧ Retired 1 rotatedPool.state ∧
      rotatedPool.state.liveKeys 0 + sensorWorld.issued.count 0 ≤
        sensorWorld.liveKeys 0 + rotatedPool.state.issued.count 0 + rotatedPool.state.underway 0 := by
  have reached : Pool.Reaches Passes Careful (requestPool .transparent rotations sensorWorld)
      rotatedPool := reaches_schedule (by decide +kernel)
  obtain ⟨once, _, _, retired, bounded⟩ := rotation_yields_one_successor .transparent rotations
    sensorWorld sensorWorld_consistent rotatedPool reached
  exact ⟨once, retired 0 _ 0 1 "a fresh key" rfl rfl, bounded 0⟩

def lateRotation (j : Nat) : Request :=
  if j = 0 then .revokeCredential { id := 0, name := "sensors" } 0 1
  else .rotateCredential { id := 0, name := "sensors" } 0 1 "a fresh key"

def revokedPool : Pool Nat World Failure Unit :=
  (requestPool Deps.transparent lateRotation sensorWorld).schedule [0, 0, 0, 0]

/-- A revoked key gets a successor, and the sensor a live key that it did not have. -/
theorem revoked_key_is_rotated :
    Pool.Reaches Passes (fun _ _ => True) (requestPool Deps.transparent lateRotation sensorWorld)
      (revokedPool.schedule [1, 1, 1, 1, 1, 1]) ∧
      (revokedPool.schedule [1, 1, 1, 1, 1, 1]).state.successions.map (·.live) = [false] ∧
      revokedPool.state.liveKeys 0 = 0 ∧
      (revokedPool.schedule [1, 1, 1, 1, 1, 1]).state.liveKeys 0 = 1 := by
  have first : Pool.Reaches Passes (fun _ _ => True)
      (requestPool .transparent lateRotation sensorWorld) revokedPool :=
    reaches_schedule (by decide +kernel)
  have snd : Pool.Reaches Passes (fun _ _ => True) revokedPool
      (revokedPool.schedule [1, 1, 1, 1, 1, 1]) := reaches_schedule (by decide +kernel)
  exact ⟨first.trans snd, by decide +kernel, by decide +kernel, by decide +kernel⟩

end Requests

end Idenplane.Nhi
