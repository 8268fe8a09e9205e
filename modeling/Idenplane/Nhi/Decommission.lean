import Idenplane.Nhi.RotationScheduler
import Mathlib.Data.List.Induction

/-! # The end of an identity

An identity that is decommissioned stays so, and none of its credentials may be used, as long as
no call writes to it that does not look at its status.
-/

namespace Idenplane.Nhi

open Atomic Auth Admin UpdateNhiIdentityDto World Deps Prog.Maintains List

section Calls

variable (deps : Deps) (r : Realm) (id : Nat) (w : World)

theorem findById_run : (findById r id).run w =
    match w.identity? r id with
    | none => (.error (identityNotFound id), w)
    | some idn => (.ok idn, w) := by
  rw [findById, run_read_bind]
  cases w.identity? r id <;> rfl

theorem run_orFail {α : Type} (v : Option α) (f : Failure) :
    ((orFail v f : Call α).run w).2 = w := by
  cases v <;> rfl

theorem create_cases (dto : CreateNhiIdentityDto) : ((create r dto).run w).2 = w ∨
      ∃ idn, ((create r dto).run w).2 =
        { w with supply := w.supply + 1, identities := w.identities ++ [idn] } := by
  unfold create
  rw [run_read_bind, run_require_bind_snd]
  split
  · rw [run_atomic_bind, run_orFail]
    simp only [identityCreated]
    split
    · exact .inl rfl
    · exact .inr ⟨_, rfl⟩
  · exact .inl rfl

theorem update_cases (dto : UpdateNhiIdentityDto) : ((update r id dto).run w).2 = w ∨
      (w.identity? r id).isSome ∧ dto.name.any (w.nameConflicts r id) = false ∧
        ((update r id dto).run w).2 = (identityUpdated id (dto.apply w.now) w).2 := by
  unfold update
  rw [run_bind, findById_run]
  cases found : w.identity? r id with
  | none => exact .inl rfl
  | some idn =>
    dsimp only
    rw [run_read_bind, run_require_bind_snd]
    split
    · rw [run_atomic_bind, run_orFail, updateWritten]
      cases conflicts : dto.name.any (w.nameConflicts r id) with
      | true => exact .inl rfl
      | false => exact .inr ⟨rfl, rfl, rfl⟩
    · exact .inl rfl

def suspended (now : Int) (identity : NhiIdentity) : NhiIdentity :=
  { identity with lifecycleStatus := .SUSPENDED, suspendedAt := some now }

theorem suspend_cases : ((suspend r id).run w).2 = w ∨ (w.identity? r id).isSome ∧
        ((suspend r id).run w).2 = (identityUpdated id (suspended w.now) w).2 := by
  unfold suspend
  rw [run_bind, findById_run]
  cases found : w.identity? r id with
  | none => exact .inl rfl
  | some idn =>
    dsimp only
    rw [run_atomic_bind, run_orFail]
    exact .inr ⟨rfl, rfl⟩

def reactivated (identity : NhiIdentity) : NhiIdentity :=
  { identity with lifecycleStatus := .ACTIVE, suspendedAt := none }

theorem reactivate_cases : ((reactivate r id).run w).2 = w ∨
      ∃ idn, w.identity? r id = some idn ∧ idn.lifecycleStatus = .SUSPENDED ∧
        ((reactivate r id).run w).2 = (identityUpdated id reactivated w).2 := by
  unfold reactivate
  rw [run_bind, findById_run]
  cases found : w.identity? r id with
  | none => exact .inl rfl
  | some idn =>
    rw [run_require_bind_snd]
    split
    · rename_i isSuspended
      rw [run_atomic_bind, run_orFail]
      exact .inr ⟨idn, rfl, by simpa using isSuspended, rfl⟩
    · exact .inl rfl

def decommissioned (now : Int) (identity : NhiIdentity) : NhiIdentity :=
  { identity with
    lifecycleStatus := .DECOMMISSIONED
    decommissionedAt := some now
    enabled := false }

theorem decommission_cases : w.identity? r id = none ∧ ((decommission r id).run w).2 = w ∨
      (w.identity? r id).isSome ∧ ((decommission r id).run w).2 =
        (identityUpdated id (decommissioned w.now) (credentialsRevoked id w)).2 := by
  unfold decommission
  rw [run_bind, findById_run]
  cases found : w.identity? r id with
  | none => exact .inl ⟨rfl, rfl⟩
  | some idn =>
    dsimp only
    rw [run_modify_bind, run_atomic_bind, run_orFail]
    exact .inr ⟨rfl, rfl⟩

theorem createCredential_cases (dto : CreateNhiCredentialDto) (rawKey : String) :
    ((createCredential deps r id dto rawKey).run w).2 = w ∨
      (w.identity? r id).isSome ∧ w.nameTaken id dto.name = false ∧
        ∃ cred issued, cred.nhiIdentityId = id ∧ ((createCredential deps r id dto rawKey).run w).2 =
            { w with
              supply := w.supply + 1
              credentials := w.credentials ++ [cred]
              issued := issued } := by
  unfold createCredential
  rw [run_bind, findById_run]
  cases found : w.identity? r id with
  | none => exact .inl rfl
  | some idn =>
    dsimp only
    rw [run_atomic_bind]
    cases taken : w.nameTaken id dto.name with
    | true =>
      rw [credentialIssued, credentialCreated_of_taken taken]
      exact .inl rfl
    | false =>
      rw [credentialIssued_of_free taken]
      exact .inr ⟨rfl, rfl, dto.row deps id rawKey w.supply w.now, _, rfl, rfl⟩

theorem findCredentialById_run (credId : Nat) : ((findCredentialById r id credId).run w).2 = w ∧
      ∀ cred, ((findCredentialById r id credId).run w).1 = .ok cred →
        (w.identity? r id).isSome := by
  unfold findCredentialById
  rw [run_bind, findById_run]
  cases found : w.identity? r id with
  | none => exact ⟨rfl, fun _ isOk => by cases isOk⟩
  | some idn =>
    dsimp only
    rw [run_read_bind]
    cases w.credential? id credId with
    | none => exact ⟨rfl, fun _ _ => rfl⟩
    | some cred => exact ⟨rfl, fun _ _ => rfl⟩

theorem revokeCredential_cases (credId : Nat) : ((revokeCredential r id credId).run w).2 = w ∨
      ((revokeCredential r id credId).run w).2 = credentialUpdated credId (revocation w.now) w := by
  have same := (findCredentialById_run r id w credId).1
  unfold revokeCredential
  rw [run_bind]
  rcases ran : (findCredentialById r id credId).run w with ⟨res, here⟩
  rw [ran] at same
  subst same
  cases res with
  | error f => exact .inl rfl
  | ok cred =>
    dsimp only
    rw [run_read_bind]
    split
    · exact .inl rfl
    · exact .inr rfl

theorem rotateCredential_cases (credId : Nat) (newRaw : String) :
    (∃ begun, ((rotateCredential deps r id credId newRaw).run w).2 = { w with begun := begun }) ∨
      (w.identity? r id).isSome ∧ ∃ old, w.credential? id credId = some old ∧
        old.credentialType = .API_KEY ∧
        w.nameTaken old.nhiIdentityId (successorName old.name) = false ∧
        ∃ begun successions, ((rotateCredential deps r id credId newRaw).run w).2 =
          credentialUpdated credId (fun cred => { cred with rotatedAt := some w.now })
            (credentialUpdated credId (revocation w.now)
              { w with
                supply := w.supply + 1
                credentials := w.credentials ++ [successor deps newRaw old w.supply w.now]
                begun := begun
                successions := successions }) := by
  obtain ⟨same, isFound⟩ := findCredentialById_run r id w credId
  unfold rotateCredential
  rw [run_bind]
  rcases ran : (findCredentialById r id credId).run w with ⟨res, here⟩
  rw [ran] at same isFound
  subst same
  cases res with
  | error f => exact .inl ⟨here.begun, rfl⟩
  | ok cred =>
    have isThere := isFound cred rfl
    dsimp only
    rw [run_atomic_bind]
    cases found : here.credential? id credId with
    | none => exact .inl ⟨here.begun, rfl⟩
    | some old =>
      rw [orFail_some, done_bind, run_require_bind_snd]
      split
      · rename_i isKey
        have isKey : old.credentialType = .API_KEY := by simpa using isKey
        have begins : rotationBegun (some old) here = { here with begun := old.id :: here.begun } := by
          simp [rotationBegun, isKey]
        rw [begins, run_atomic_bind]
        cases taken : here.nameTaken old.nhiIdentityId (successorName old.name) with
        | true =>
          have isTaken : nameTaken { here with begun := old.id :: here.begun }
              old.nhiIdentityId (successorName old.name) = true := taken
          rw [successorCreated_of_taken isTaken]
          exact .inl ⟨_, rfl⟩
        | false =>
          have isFree : nameTaken { here with begun := old.id :: here.begun }
              old.nhiIdentityId (successorName old.name) = false := taken
          rw [successorCreated_of_free isFree]
          exact .inr ⟨isThere, old, rfl, isKey, taken, _, _, rfl⟩
      · rename_i notKey
        have begins : rotationBegun (some old) here = here := by simp_all [rotationBegun]
        rw [begins]
        exact .inl ⟨here.begun, rfl⟩

end Calls

def World.statusOf (w : World) (id : Nat) : Option NhiLifecycleStatus :=
  (w.identityRow? id).map (·.lifecycleStatus)

/-- The identity is decommissioned and disabled, and none of its credentials may be used. -/
structure Final (id : Nat) (w : World) : Prop where
  row : ∃ identity, w.identityRow? id = some identity ∧
    identity.lifecycleStatus = .DECOMMISSIONED ∧ identity.enabled = false
  credentials : ∀ credential ∈ w.credentials, credential.nhiIdentityId = id →
    credential.revoked = true

section Rows

variable {w : World} {id other : Nat} {chg : NhiIdentity → NhiIdentity}

theorem row_updated (keeps : ∀ idn, (chg idn).id = idn.id) :
    (identityUpdated other chg w).2.identityRow? id =
      if id = other then (w.identityRow? id).map chg else w.identityRow? id := by
  have mapped (rows : List NhiIdentity) :
      (rows.map fun row => if row.id = other then chg row else row).find? (·.id = id) =
        if id = other then (rows.find? (·.id = id)).map chg else rows.find? (·.id = id) := by
    have test : ((fun row : NhiIdentity => decide (row.id = id)) ∘ fun row =>
        if row.id = other then chg row else row) = fun row => decide (row.id = id) := by
      funext row
      by_cases isOther : row.id = other <;> simp [isOther, keeps]
    rw [find?_map, test]
    cases found : rows.find? (·.id = id) with
    | none => simp
    | some row =>
      have isRow : row.id = id := by simpa using find?_some found
      by_cases same : id = other <;> simp [same, isRow]
  unfold identityUpdated
  cases found : w.identityRow? other with
  | none =>
    by_cases same : id = other
    · subst same
      simp [found]
    · simp [same]
  | some row => exact mapped w.identities

variable (w) in
theorem identities_updated {w' : World} (same : w'.identities = w.identities) :
    (identityUpdated other chg w').2.identities = (identityUpdated other chg w).2.identities := by
  have sameRow : w'.identityRow? other = w.identityRow? other := by
    rw [identityRow?, identityRow?, same]
  unfold identityUpdated
  rw [sameRow]
  cases w.identityRow? other <;> simp [same]

theorem credentials_updated : (identityUpdated other chg w).2.credentials = w.credentials := by
  unfold identityUpdated
  cases w.identityRow? other <;> rfl

section

variable (final : Final id w)

include final

theorem Final.updated (keeps : ∀ idn, (chg idn).id = idn.id)
    (gentle : id = other → ∀ idn, idn.lifecycleStatus = .DECOMMISSIONED → idn.enabled = false →
        (chg idn).lifecycleStatus = .DECOMMISSIONED ∧ (chg idn).enabled = false) :
    Final id (identityUpdated other chg w).2 where
  row := by
    obtain ⟨idn, hit, isLast, isOff⟩ := final.row
    rw [row_updated keeps, hit]
    by_cases same : id = other
    · simp only [same, if_true]
      exact ⟨chg idn, rfl, gentle same idn isLast isOff⟩
    · simp only [same, if_false]
      exact ⟨idn, rfl, isLast, isOff⟩
  credentials := by
    rw [credentials_updated]
    exact final.credentials

theorem Final.grown {identities : List NhiIdentity} {credentials : List NhiCredential} {w' : World}
    (isIdentities : w'.identities = w.identities ++ identities)
    (isCredentials : w'.credentials = w.credentials ++ credentials)
    (os : ∀ cred ∈ credentials, cred.nhiIdentityId ≠ id) : Final id w' where
  row := by
    obtain ⟨idn, hit, last⟩ := final.row
    refine ⟨idn, ?_, last⟩
    rw [identityRow?, isIdentities, find?_append]
    rw [identityRow?] at hit
    rw [hit]
    rfl
  credentials := by
    intro cred mem own
    rw [isCredentials] at mem
    rcases mem_append.mp mem with old | new
    · exact final.credentials cred old own
    · exact absurd own (os cred new)

theorem Final.rewritten {w' : World}
    {rewrite : NhiCredential → NhiCredential} (isIdentities : w'.identities = w.identities)
    (isCredentials : w'.credentials = w.credentials.map rewrite)
    (keeps : ∀ cred, (rewrite cred).nhiIdentityId = cred.nhiIdentityId)
    (revokes : ∀ cred, cred.revoked = true → (rewrite cred).revoked = true) :
    Final id w' where
  row := by
    unfold identityRow?
    rw [isIdentities]
    exact final.row
  credentials := by
    intro cred mem own
    rw [isCredentials] at mem
    obtain ⟨old, isOld, rfl⟩ := mem_map.mp mem
    rw [keeps] at own
    exact revokes old (final.credentials old isOld own)

theorem Final.congr {w' : World} (isIdentities : w'.identities = w.identities)
    (isCredentials : w'.credentials = w.credentials) : Final id w' :=
  have same : w'.credentials = w.credentials.map fun credential => credential := by
    simp [isCredentials]
  final.rewritten isIdentities same (fun _ => rfl) fun _ isRevoked => isRevoked

theorem Final.credentialUpdated (credId : Nat) {chg : NhiCredential → NhiCredential}
    (keeps : ∀ cred, (chg cred).nhiIdentityId = cred.nhiIdentityId)
    (revokes : ∀ cred, cred.revoked = true → (chg cred).revoked = true) :
    Final id (Nhi.credentialUpdated credId chg w) := by
  refine final.rewritten rfl rfl ?_ ?_
  · intro cred
    by_cases same : cred.id = credId <;> simp [same, keeps]
  · intro cred isRevoked
    by_cases same : cred.id = credId <;> simp [same, isRevoked, revokes]

theorem Final.credentialsRevoked : Final id (Nhi.credentialsRevoked other w) := by
  refine final.rewritten rfl rfl ?_ ?_
  · intro cred
    by_cases same : cred.nhiIdentityId = other <;> simp [same]
  · intro cred isRevoked
    by_cases same : cred.nhiIdentityId = other <;> simp [same, isRevoked]

end

end Rows

section Ticks

variable {deps : Deps} {id : Nat}

/-- The scheduler finds no credential of an identity that is decommissioned. -/
theorem rotateDue_final (r : Realm) (credId : Nat) (newRaw : String) :
    (rotateDue deps r credId newRaw).Maintains (Final id) := by
  apply Maintains.atomic_bind
  intro w final
  have begins (hit : Option NhiCredential) : Final id (rotationBegun hit w) := by
    unfold rotationBegun
    split
    · split
      · exact final.congr rfl rfl
      · exact final
    · exact final
  refine ⟨begins _, ?_⟩
  cases hit : w.rotatable? r credId with
  | none => trivial
  | some old =>
    have isLive := find?_some hit
    have other : old.nhiIdentityId ≠ id := by
      intro own
      have isRevoked := final.credentials old (mem_of_find?_eq_some hit) own
      simp [NhiCredential.live, isRevoked] at isLive
    apply Maintains.atomic_bind
    intro here final
    have new : Final id (successorCreated deps newRaw old here).2 := by
      cases taken : here.nameTaken old.nhiIdentityId (successorName old.name) with
      | true =>
        rw [successorCreated_of_taken taken]
        exact final
      | false =>
        rw [successorCreated_of_free taken]
        exact final.grown (append_nil _).symm rfl (by simpa [successor] using other)
    refine ⟨new, (Prog.Maintains.orFail _ _).bind fun _ => Prog.Maintains.modify ?_⟩
    intro there final
    exact final.credentialUpdated credId (fun _ => rfl) fun _ _ => rfl

theorem processRotations_maintains {inv : World → Prop} (rotations : ∀ r credId newRaw,
      (rotateDue deps r credId newRaw).Maintains inv) (tick : Tick) :
    (processRotations deps tick).Maintains inv := by
  apply Maintains.read_bind
  intro w _
  apply allSettled
  intro p mem
  obtain ⟨r, _, rfl⟩ := mem_map.mp mem
  have scans : (getCredentialsDueForRotation r).Maintains inv := by
    apply Maintains.read_bind
    intro w _
    apply Prog.Maintains.forEach
    intro n pol due
    exact .read_bind fun _ _ => .read_bind fun _ _ => trivial
  apply scans.bind
  intro due
  apply allSettled
  intro p mem
  obtain ⟨⟨item, n⟩, _, rfl⟩ := mem_map.mp mem
  exact (rotations r item.credentialId _).attempt.bind fun _ => trivial

theorem rotateDue_identities (identities : List NhiIdentity) (r : Realm) (credId : Nat)
    (newRaw : String) : (rotateDue deps r credId newRaw).Maintains fun w =>
      w.identities = identities := by
  apply Maintains.atomic_bind
  intro w same
  have begins (hit : Option NhiCredential) : (rotationBegun hit w).identities = identities := by
    unfold rotationBegun
    split
    · split <;> exact same
    · exact same
  refine ⟨begins _, ?_⟩
  cases w.rotatable? r credId with
  | none => trivial
  | some old =>
    apply Maintains.atomic_bind
    intro here same
    have new : (successorCreated deps newRaw old here).2.identities = identities := by
      cases taken : here.nameTaken old.nhiIdentityId (successorName old.name) with
      | true => rw [successorCreated_of_taken taken, same]
      | false => rw [successorCreated_of_free taken, same]
    refine ⟨new, (Prog.Maintains.orFail _ _).bind fun _ => Prog.Maintains.modify ?_⟩
    exact fun there same => same

end Ticks

inductive Turn where
  | serve (req : Request)
  | wait (milliseconds : Nat)

section Runs

variable (deps : Deps)

def Turn.take (w : World) : Turn → World
  | .serve req => ((Nhi.serve deps req).run w).2
  | .wait milliseconds => { w with now := w.now + milliseconds }

def runTurns (w : World) (turns : List Turn) : World := turns.foldl (Turn.take deps) w

/-- The turn writes to the identity without looking at its status: it is updated to something
else, suspended, or given a credential. -/
def Undoes (w : World) (id : Nat) : Turn → Prop
  | .serve (.update realm target dto) =>
    target = id ∧ (w.identity? realm id).isSome ∧ dto.name.any (w.nameConflicts realm id) = false ∧
      (dto.enabled = some true ∨
        ∃ status, dto.lifecycleStatus = some status ∧ status ≠ .DECOMMISSIONED)
  | .serve (.suspend realm target) => target = id ∧ (w.identity? realm id).isSome
  | .serve (.createCredential realm target dto _) =>
    target = id ∧ (w.identity? realm id).isSome ∧ w.nameTaken id dto.name = false
  | .serve (.rotateCredential realm target credentialId _) =>
    target = id ∧ (w.identity? realm id).isSome ∧
      ∃ old, w.credential? id credentialId = some old ∧ old.credentialType = .API_KEY ∧
        w.nameTaken id (successorName old.name) = false
  | _ => False

def Revives (w : World) (id : Nat) : Turn → Prop
  | .serve (.update realm target dto) =>
    target = id ∧ (w.identity? realm id).isSome ∧ dto.name.any (w.nameConflicts realm id) = false ∧
      dto.lifecycleStatus = some .ACTIVE ∧
      w.statusOf id ≠ some .ACTIVE ∧ w.statusOf id ≠ some .SUSPENDED
  | _ => False

variable {deps} {w : World} {id : Nat}

theorem run_ignored {α : Type} (call : Call α) (w : World) :
    ((call >>= fun _ => (pure () : Call Unit)).run w).2 = (call.run w).2 := by
  rw [run_bind]
  rcases call.run w with ⟨out, after⟩
  cases out <;> rfl

variable {turn : Turn}

section

variable (final : Final id w)

include final

variable {target : Nat}

theorem update_final {r : Realm}
    {dto : UpdateNhiIdentityDto} (spares : ¬ Undoes w id (.serve (.update r target dto))) :
    Final id ((update r target dto).run w).2 := by
  rcases update_cases r target w dto with same | ⟨isThere, isFree, written⟩
  · rw [same]
    exact final
  · rw [written]
    refine final.updated (fun _ => rfl) ?_
    rintro rfl idn isLast isOff
    have gentle := fun harsh => spares ⟨rfl, isThere, isFree, harsh⟩
    constructor
    · cases isStatus : dto.lifecycleStatus with
      | none => simpa [apply, isStatus] using isLast
      | some status =>
        have isSame : status = .DECOMMISSIONED := by
          by_contra other
          exact gentle (.inr ⟨status, isStatus, other⟩)
        simp [apply, isStatus, isSame]
    · cases isEnabled : dto.enabled with
      | none => simpa [apply, isEnabled] using isOff
      | some enabled =>
        cases enabled with
        | false => simp [apply, isEnabled]
        | true => exact absurd (.inl isEnabled) gentle

theorem suspend_final {r : Realm} (spares : ¬ Undoes w id (.serve (.suspend r target))) :
    Final id ((suspend r target).run w).2 := by
  rcases suspend_cases r target w with same | ⟨isThere, written⟩
  · rw [same]
    exact final
  · rw [written]
    refine final.updated (fun _ => rfl) ?_
    rintro rfl
    exact absurd ⟨rfl, isThere⟩ spares

theorem reactivate_final (r : Realm) (target : Nat) : Final id ((reactivate r target).run w).2 := by
  rcases reactivate_cases r target w with same | ⟨idn, hit, isSuspended, written⟩
  · rw [same]
    exact final
  · rw [written]
    refine final.updated (fun _ => rfl) ?_
    rintro rfl
    obtain ⟨row, isRow, isLast, _⟩ := final.row
    have isIdentity : idn = row := by
      have listed := (filter_eq_some_iff.mp hit).1
      rw [isRow] at listed
      exact (some.inj listed).symm
    rw [isIdentity, isLast] at isSuspended
    cases isSuspended

theorem decommission_final (r : Realm) (target : Nat) :
    Final id ((decommission r target).run w).2 := by
  rcases decommission_cases r target w with ⟨_, same⟩ | ⟨_, written⟩
  · rw [same]
    exact final
  · rw [written]
    exact final.credentialsRevoked.updated (fun _ => rfl) fun _ _ _ _ => ⟨rfl, rfl⟩

theorem createCredential_final {r : Realm} {dto : CreateNhiCredentialDto} {rawKey : String}
    (spares : ¬ Undoes w id (.serve (.createCredential r target dto rawKey))) :
    Final id ((createCredential deps r target dto rawKey).run w).2 := by
  rcases createCredential_cases deps r target w dto rawKey with
    same | ⟨isThere, isFree, cred, issued, own, written⟩
  · rw [same]
    exact final
  · rw [written]
    refine final.grown (append_nil _).symm rfl ?_
    intro row mem
    rw [mem_singleton.mp mem, own]
    rintro rfl
    exact spares ⟨rfl, isThere, isFree⟩

theorem rotateCredential_final {r : Realm} {target credId : Nat} {newRaw : String}
    (spares : ¬ Undoes w id (.serve (.rotateCredential r target credId newRaw))) :
    Final id ((rotateCredential deps r target credId newRaw).run w).2 := by
  rcases rotateCredential_cases deps r target w credId newRaw with
    ⟨begun, same⟩ | ⟨isThere, old, hit, isKey, isFree, begun, successions, written⟩
  · rw [same]
    exact final.congr rfl rfl
  · rw [written]
    have isOwn : old.nhiIdentityId = target := by
      have test := find?_some hit
      simp only [and_eq_true, decide_eq_true_eq] at test
      exact test.2
    have grown : Final id
        { w with
          supply := w.supply + 1
          credentials := w.credentials ++ [successor deps newRaw old w.supply w.now]
          begun := begun
          successions := successions } := by
      refine final.grown (append_nil _).symm rfl ?_
      intro row mem
      rw [mem_singleton.mp mem]
      intro own
      have isTarget : target = id := isOwn.symm.trans own
      subst isTarget
      exact spares ⟨rfl, isThere, old, hit, isKey, isOwn ▸ isFree⟩
    have revoked : Final id (Nhi.credentialUpdated credId (revocation w.now) _) :=
      grown.credentialUpdated credId (fun _ => rfl) fun _ _ => rfl
    exact revoked.credentialUpdated credId (fun _ => rfl) fun _ isRevoked => isRevoked

theorem take_final (spares : ¬ Undoes w id turn) : Final id (turn.take deps w) := by
  cases turn with
  | wait milliseconds => exact final.congr rfl rfl
  | serve req =>
    rw [Turn.take]
    cases req with
    | create r dto =>
      rw [serve, run_ignored]
      rcases create_cases r w dto with same | ⟨idn, written⟩
      · rw [same]
        exact final
      · rw [written]
        exact final.grown rfl (append_nil _).symm fun _ mem => (nomatch mem)
    | update r target dto =>
      rw [serve, run_ignored]
      exact update_final final spares
    | suspend r target =>
      rw [serve, run_ignored]
      exact suspend_final final spares
    | reactivate r target =>
      rw [serve, run_ignored]
      exact reactivate_final final r target
    | decommission r target =>
      rw [serve, run_ignored]
      exact decommission_final final r target
    | createCredential r target dto rawKey =>
      rw [serve, run_ignored]
      exact createCredential_final final spares
    | rotateCredential r target credId newRaw =>
      rw [serve, run_ignored]
      exact rotateCredential_final final spares
    | revokeCredential r target credId =>
      rw [serve, run_ignored]
      rcases revokeCredential_cases r target w credId with same | written
      · rw [same]
        exact final
      · rw [written]
        exact final.credentialUpdated credId (fun _ => rfl) fun _ _ => rfl
    | tick tick => exact (processRotations_maintains rotateDue_final tick).run final

end

inductive Rewrites (w : World) (turn : Turn) : List NhiIdentity → Prop where
  | same : Rewrites w turn w.identities
  | grown (identity : NhiIdentity) : Rewrites w turn (w.identities ++ [identity])
  | updated (id : Nat) (change : NhiIdentity → NhiIdentity) :
      (∀ identity, (change identity).id = identity.id) →
      (∀ identity, w.identityRow? id = some identity →
        (change identity).lifecycleStatus = .ACTIVE → identity.lifecycleStatus ≠ .ACTIVE →
          identity.lifecycleStatus = .SUSPENDED ∨ Revives w id turn) →
      Rewrites w turn (identityUpdated id change w).2.identities

theorem update_rewrites (r : Realm) (id : Nat) (dto : UpdateNhiIdentityDto) :
    Rewrites w (.serve (.update r id dto)) ((update r id dto).run w).2.identities := by
  rcases update_cases r id w dto with same | ⟨isThere, isFree, written⟩
  · rw [same]
    exact .same
  · rw [written]
    apply Rewrites.updated
    · exact fun _ => rfl
    · intro idn isRow isActive wasOther
      by_cases isSuspended : idn.lifecycleStatus = .SUSPENDED
      · exact .inl isSuspended
      · have isStatus : w.statusOf id = some idn.lifecycleStatus := by
          simp [statusOf, isRow]
        have asked : dto.lifecycleStatus = some .ACTIVE := by
          cases isAsked : dto.lifecycleStatus with
          | none => simp_all [apply]
          | some status => simp_all [apply]
        exact .inr ⟨rfl, isThere, isFree, asked, by simpa [isStatus] using wasOther,
          by simpa [isStatus] using isSuspended⟩

variable (deps) in
theorem take_rewrites (w : World) (turn : Turn) :
    Rewrites w turn (turn.take deps w).identities := by
  cases turn with
  | wait milliseconds => exact .same
  | serve req =>
    rw [Turn.take]
    cases req with
    | create r dto =>
      rw [serve, run_ignored]
      rcases create_cases r w dto with same | ⟨idn, written⟩
      · rw [same]
        exact .same
      · rw [written]
        exact .grown idn
    | update r target dto =>
      rw [serve, run_ignored]
      exact update_rewrites r target dto
    | suspend r target =>
      rw [serve, run_ignored]
      rcases suspend_cases r target w with same | ⟨_, written⟩
      · rw [same]
        exact .same
      · rw [written]
        exact .updated target _ (fun _ => rfl) fun _ _ isActive => (nomatch isActive)
    | reactivate r target =>
      rw [serve, run_ignored]
      rcases reactivate_cases r target w with same | ⟨hit, isFound, isSuspended, written⟩
      · rw [same]
        exact .same
      · rw [written]
        apply Rewrites.updated
        · exact fun _ => rfl
        · intro idn isRow _ _
          have isIdentity := (filter_eq_some_iff.mp isFound).1
          rw [isRow] at isIdentity
          cases isIdentity
          exact .inl isSuspended
    | decommission r target =>
      rw [serve, run_ignored]
      rcases decommission_cases r target w with ⟨_, same⟩ | ⟨_, written⟩
      · rw [same]
        exact .same
      · have same : (credentialsRevoked target w).identities = w.identities := rfl
        rw [written, identities_updated w same]
        exact .updated target _ (fun _ => rfl) fun _ _ isActive => (nomatch isActive)
    | createCredential r target dto rawKey =>
      rw [serve, run_ignored]
      rcases createCredential_cases deps r target w dto rawKey with
        same | ⟨_, _, cred, issued, _, written⟩
      · rw [same]
        exact .same
      · rw [written]
        exact .same
    | rotateCredential r target credId newRaw =>
      rw [serve, run_ignored]
      rcases rotateCredential_cases deps r target w credId newRaw with
        ⟨begun, same⟩ | ⟨_, old, _, _, _, begun, successions, written⟩
      · rw [same]
        exact .same
      · rw [written]
        exact .same
    | revokeCredential r target credId =>
      rw [serve, run_ignored]
      rcases revokeCredential_cases r target w credId with same | written
      · rw [same]
        exact .same
      · rw [written]
        exact .same
    | tick tick =>
      have same : ((serve deps (.tick tick)).run w).2.identities = w.identities :=
        (processRotations_maintains (rotateDue_identities w.identities) tick).run rfl
      rw [same]
      exact .same

variable (deps) in
/-- An identity that is there stays there, and becomes active only when it was suspended or is
revived. -/
theorem take_status (turn : Turn) {status : NhiLifecycleStatus}
    (isStatus : w.statusOf id = some status) :
    ∃ after, (turn.take deps w).statusOf id = some after ∧
      (after = .ACTIVE → status = .ACTIVE ∨ status = .SUSPENDED ∨ Revives w id turn) := by
  have rewrites := take_rewrites deps w turn
  obtain ⟨identity, isRow, rfl⟩ := map_eq_some_iff.mp isStatus
  generalize isAfter : (turn.take deps w).identities = identities at rewrites
  cases rewrites with
  | same =>
    refine ⟨identity.lifecycleStatus, ?_, .inl⟩
    rw [statusOf, identityRow?, isAfter]
    exact isStatus
  | grown new =>
    refine ⟨identity.lifecycleStatus, ?_, .inl⟩
    have hit : w.identities.find? (·.id = id) = some identity := isRow
    simp [statusOf, identityRow?, isAfter, hit]
  | updated other chg keeps active =>
    have sameRow : (turn.take deps w).identityRow? id =
        (identityUpdated other chg w).2.identityRow? id := by
      rw [identityRow?, identityRow?, isAfter]
    rw [statusOf, sameRow, row_updated keeps, isRow]
    by_cases same : id = other
    · subst same
      refine ⟨(chg identity).lifecycleStatus, by simp, fun isActive => ?_⟩
      by_cases wasActive : identity.lifecycleStatus = .ACTIVE
      · exact .inl wasActive
      · exact .inr (active identity isRow isActive wasActive)
    · exact ⟨identity.lifecycleStatus, by simp [same], .inl⟩

theorem decommission_ends {r : Realm} (isThere : (w.identity? r id).isSome) :
    Final id ((decommission r id).run w).2 := by
  rcases decommission_cases r id w with ⟨missing, _⟩ | ⟨_, written⟩
  · rw [missing] at isThere
    cases isThere
  · rw [written]
    constructor
    · obtain ⟨identity, hit⟩ := isSome_iff_exists.mp isThere
      have isRow : (credentialsRevoked id w).identityRow? id = some identity :=
        (filter_eq_some_iff.mp hit).1
      refine ⟨decommissioned w.now identity, ?_, rfl, rfl⟩
      have keeps (identity : NhiIdentity) : (decommissioned w.now identity).id = identity.id := rfl
      have isUpdated : (identityUpdated id (decommissioned w.now)
          (credentialsRevoked id w)).2.identityRow? id = some (decommissioned w.now identity) := by
        rw [row_updated keeps, isRow]
        simp
      exact isUpdated
    · rw [credentials_updated]
      intro cred mem own
      obtain ⟨old, _, rfl⟩ := mem_map.mp mem
      by_cases same : old.nhiIdentityId = id
      · simp [same]
      · simp [same] at own

variable (deps)

/-- `decommission` was called on the identity in the run. -/
def Decommissioned (start : World) (turns : List Turn) (id : Nat) : Prop :=
  ∃ before after realm, turns = before ++ .serve (.decommission realm id) :: after ∧
    ((runTurns deps start before).identity? realm id).isSome

/-- Nothing undoes a decommissioning, and nothing revives an identity that was active. -/
structure Orderly (start : World) (turns : List Turn) : Prop where
  spares : ∀ before turn after id, turns = before ++ turn :: after →
    Decommissioned deps start before id → ¬ Undoes (runTurns deps start before) id turn
  revives : ∀ first second turn after id, turns = first ++ second ++ turn :: after →
    (runTurns deps start first).statusOf id = some .ACTIVE →
      ¬ Revives (runTurns deps start (first ++ second)) id turn

variable {deps} {start : World} {turns : List Turn}

theorem runTurns_append (start : World) (first second : List Turn) :
    runTurns deps start (first ++ second) = runTurns deps (runTurns deps start first) second :=
  foldl_append ..

theorem Decommissioned.snoc (isEnd : Decommissioned deps start (turns ++ [turn]) id) :
    Decommissioned deps start turns id ∨ ∃ r, turn = .serve (.decommission r id) ∧
      ((runTurns deps start turns).identity? r id).isSome := by
  obtain ⟨pre, after, r, split, isThere⟩ := isEnd
  rcases eq_nil_or_concat after with rfl | ⟨rest, last, rfl⟩
  · obtain ⟨rfl, isTurn⟩ := append_inj' split rfl
    exact .inr ⟨r, (cons.inj isTurn).1, isThere⟩
  · have regrouped : turns ++ [turn] = (pre ++ .serve (.decommission r id) :: rest) ++ [last] := by
      simpa using split
    obtain ⟨rfl, _⟩ := append_inj' regrouped rfl
    exact .inl ⟨pre, rest, r, rfl, isThere⟩

theorem Orderly.of_snoc (orderly : Orderly deps start (turns ++ [turn])) :
    Orderly deps start turns where
  spares before next after id split :=
    orderly.spares before next (after ++ [turn]) id (by simp [split])
  revives first second next after id split :=
    orderly.revives first second next (after ++ [turn]) id (by simp [split])

theorem run_final (orderly : Orderly deps start turns) (isEnd : Decommissioned deps start turns id) :
    Final id (runTurns deps start turns) := by
  induction turns using reverseRecOn with
  | nil =>
    obtain ⟨pre, after, r, split, _⟩ := isEnd
    simp at split
  | append_singleton turns turn ih =>
    rw [runTurns_append]
    rcases isEnd.snoc with earlier | ⟨r, rfl, isThere⟩
    · have spares := orderly.spares turns turn [] id rfl earlier
      exact take_final (ih orderly.of_snoc earlier) spares
    · have ended : Final id ((serve deps (.decommission r id)).run (runTurns deps start turns)).2 := by
        rw [serve, run_ignored]
        exact decommission_ends isThere
      exact ended

theorem run_status {status : NhiLifecycleStatus} (isStatus : start.statusOf id = some status)
    (turns : List Turn) : ∃ after, (runTurns deps start turns).statusOf id = some after := by
  induction turns generalizing start status with
  | nil => exact ⟨status, isStatus⟩
  | cons turn turns ih =>
    obtain ⟨next, isNext, _⟩ := take_status deps turn isStatus
    exact ih isNext

/-- In a run in which nothing undoes a decommissioning and nothing revives an identity, an identity
that was decommissioned stays so, disabled and without a credential that may be used, and only a
suspended identity becomes active again. -/
theorem decommission_is_final (deps : Deps) (start : World) (turns : List Turn)
    (orderly : Orderly deps start turns) :
    (∀ id, Decommissioned deps start turns id → Final id (runTurns deps start turns)) ∧
      ∀ first snd turn after id, turns = first ++ snd ++ turn :: after →
        (runTurns deps start first).statusOf id = some .ACTIVE →
        (runTurns deps start (first ++ snd)).statusOf id ≠ some .ACTIVE →
        (runTurns deps start (first ++ snd ++ [turn])).statusOf id = some .ACTIVE →
          (runTurns deps start (first ++ snd)).statusOf id = some .SUSPENDED := by
  constructor
  · exact fun id isEnd => run_final orderly isEnd
  · intro first snd turn after id split wasActive wasOther isActive
    have spares := orderly.revives first snd turn after id split wasActive
    obtain ⟨status, isStatus⟩ := run_status wasActive snd
    rw [← runTurns_append] at isStatus
    obtain ⟨next, isNext, active⟩ := take_status deps turn isStatus
    rw [runTurns_append] at isActive
    have becomes : next = .ACTIVE := some.inj (isNext.symm.trans isActive)
    rcases active becomes with stays | isSuspended | revives
    · exact absurd (isStatus.trans (congrArg some stays)) wasOther
    · exact isStatus.trans (congrArg some isSuspended)
    · exact absurd revives spares

theorem Orderly.of_quiet (quiet : ∀ turn ∈ turns, ∀ w id,
    ¬ Undoes w id turn ∧ ¬ Revives w id turn) : Orderly deps start turns where
  spares before turn after id split _ := (quiet turn (by simp [split]) _ id).1
  revives first second turn after id split _ := (quiet turn (by simp [split]) _ id).2

def thermostats : Realm := { id := 0, name := "thermostats" }

def thermostatWorld : World where
  supply := 2
  realms := [thermostats]
  identities := [{ id := 0, realmId := 0, name := "hall", lifecycleStatus := .ACTIVE }]
  credentials := [{ id := 1, nhiIdentityId := 0, name := "key", createdAt := 0 }]

def quietTurns : List Turn :=
  [.serve (.decommission thermostats 0), .serve (.tick ⟨[], fun _ => [], fun _ _ => "key"⟩),
    .wait 86400000]

theorem thermostat_is_gone : Final 0 (runTurns transparent thermostatWorld quietTurns) := by
  have quiet : ∀ turn ∈ quietTurns, ∀ w id, ¬ Undoes w id turn ∧ ¬ Revives w id turn := by
    intro turn mem w id
    simp only [quietTurns, mem_cons, not_mem_nil, or_false] at mem
    rcases mem with rfl | rfl | rfl <;> exact ⟨not_false, not_false⟩
  have called : Decommissioned transparent thermostatWorld quietTurns 0 :=
    ⟨[], _, thermostats, rfl, rfl⟩
  exact (decommission_is_final transparent thermostatWorld quietTurns (.of_quiet quiet)).1 0 called

def undoingTurns : List Turn :=
  [.serve (.decommission thermostats 0), .serve (.suspend thermostats 0),
    .serve (.reactivate thermostats 0),
    .serve (.createCredential thermostats 0
      { name := "second key", credentialType := some .API_KEY } "raw")]

/-- The decommissioned device is active again, and has a key that is not revoked. -/
theorem thermostat_comes_back : Decommissioned transparent thermostatWorld undoingTurns 0 ∧
      (runTurns transparent thermostatWorld undoingTurns).statusOf 0 = some .ACTIVE ∧
      (runTurns transparent thermostatWorld undoingTurns).credentials.map (·.revoked) =
        [true, false] ∧ ¬ Final 0 (runTurns transparent thermostatWorld undoingTurns) := by
  have active : (runTurns transparent thermostatWorld undoingTurns).statusOf 0 = some .ACTIVE := rfl
  refine ⟨⟨[], _, thermostats, rfl, rfl⟩, active, rfl, fun final => ?_⟩
  obtain ⟨idn, isRow, isLast, _⟩ := final.row
  rw [statusOf, isRow] at active
  cases isLast.symm.trans (some.inj active)

end Runs

end Idenplane.Nhi
