import Idenplane.ServiceAccounts.ApiKeys

/-! # What the rotation of a key changes

A rotation copies some columns of the key into a new one and lets the old one expire.  Columns that
it leaves out fall back to no restriction, and the time that it sets may be later than the old one.
-/

namespace Idenplane.ServiceAccounts

open Atomic Security

/-- `validateApiKey` may take the key at this time. -/
def ApiKey.usableAt (key : ApiKey) (time : Int) : Bool :=
  !key.revoked && !key.expiresAt.any (· < time)

/-- The two keys give access to the same, from the same places and at the same rates. -/
structure SameAccess (key other : ApiKey) : Prop where
  scopes : other.scopes = key.scopes
  requireIpRestriction : other.requireIpRestriction = key.requireIpRestriction
  allowedIpRanges : other.allowedIpRanges = key.allowedIpRanges
  rateLimitPerMinute : other.rateLimitPerMinute = key.rateLimitPerMinute
  maxRequestsPerDay : other.maxRequestsPerDay = key.maxRequestsPerDay
  maxRequestsPerMonth : other.maxRequestsPerMonth = key.maxRequestsPerMonth

/-- A rotation that widens nothing: the new key is like the old one, and the old one is not valid
at a time at which it was not. -/
structure Rotation.Narrow (rotation : Rotation) : Prop where
  access : SameAccess rotation.old rotation.new
  expiry : rotation.new.expiresAt = rotation.old.expiresAt
  grace : ∀ time, rotation.left.usableAt time → rotation.old.usableAt time

def ApiKey.overBy (key : ApiKey) (time : Int) : Prop :=
  key.revoked = true ∨ ∃ expiry, key.expiresAt = some expiry ∧ expiry < time

/-- The range is the address, or is read as a block that the address lies in.  A well-formed block
has the leading bits of a well-formed address. -/
structure Covers (range ip : String) : Prop where
  read : ('/' ∉ range.toList ∧ ip = range) ∨
    ∃ net digits rest, Text.split '/' range.toList = net :: digits :: rest ∧
      Security.Matches decimalOctet ip.toList net digits
  wellFormed : ∀ (addr : Security.Quad) (block : Security.Cidr),
    ip = String.ofList addr.text → range = String.ofList block.text →
      Numerals.InBlock 32 block.network.value block.prefixLength addr.value

theorem covers_iff {range ip : String} : Covers range ip ↔ ipMatchesRange ip range = true := by
  constructor
  · exact fun covers => ipMatchesRange_iff.mpr covers.read
  · intro ok
    refine ⟨ipMatchesRange_iff.mp ok, ?_⟩
    rintro addr block rfl rfl
    exact (ipMatchesRange_quad addr block).mp ok

/-- What `ApiKeyGuard` lets through. -/
def Admits (w : World) : Prop :=
  ∀ d counts req key w', (canActivate d counts req).run w = (.ok key, w') →
    key ∈ w.apiKeys ∧ key.usableAt w.now ∧ (∃ plainKey, req.plainKey = some plainKey ∧
        d.verifyPassword key.keyHash plainKey = some true) ∧
      (key.requireIpRestriction → ∃ range ∈ key.allowedIpRanges, Covers range req.clientIp)

/-- No rotation has widened an access, the key in the place of a dead one is dead, and the guard
admits what it should. -/
structure Confined (w : World) : Prop where
  narrow : ∀ rotation ∈ w.rotations, rotation.Narrow
  dead : ∀ rotation ∈ w.rotations, rotation.old.usableAt rotation.time = false →
    ∀ key ∈ w.apiKeys, key.id = rotation.new.id →
      ∀ time, rotation.time ≤ time → key.usableAt time = false
  admits : Admits w

inductive Operation where
  | create (d : Deps) (realm : Realm) (serviceAccountId : Nat) (rawKey : String)
      (dto : CreateApiKeyDto)
  | rotate (d : Deps) (realm : Realm) (serviceAccountId : Nat) (newRaw : String) (apiKeyId : Nat)
  | revoke (realm : Realm) (serviceAccountId apiKeyId : Nat)
  | validate (d : Deps) (keyPrefix plainKey : String)
  | pass (milliseconds : Nat)

def Operation.effect (w : World) : Operation → World
  | .create d realm sa rawKey dto => ((createApiKey d realm sa rawKey dto).run w).2
  | .rotate d realm sa newRaw id => ((rotateApiKey d realm sa newRaw id).run w).2
  | .revoke realm sa id => ((revokeApiKey realm sa id).run w).2
  | .validate d keyPrefix plainKey => ((validateApiKey d keyPrefix plainKey).run w).2
  | .pass milliseconds => { w with now := w.now + milliseconds }

structure ApiKey.Unrestricted (key : ApiKey) : Prop where
  requireIpRestriction : key.requireIpRestriction = false
  allowedIpRanges : key.allowedIpRanges = []
  rateLimitPerMinute : key.rateLimitPerMinute = none
  maxRequestsPerDay : key.maxRequestsPerDay = none
  maxRequestsPerMonth : key.maxRequestsPerMonth = none

/-- A key that may be rotated at this time: it has no restriction, it is expired if it is revoked,
and if not it does not expire within the grace period. -/
structure ApiKey.Rotatable (key : ApiKey) (time : Int) : Prop where
  unrestricted : key.Unrestricted
  revoked : key.revoked = true → key.expiresAt.any (· < time)
  lasting : key.revoked = false → ∀ expiry, key.expiresAt = some expiry → graceExpiry time ≤ expiry

/-- An IP restriction comes with ranges, and only such keys are rotated. -/
def Operation.careful (w : World) : Operation → Prop
  | .create _ _ _ _ dto => dto.requireIpRestriction = some true → dto.allowedIpRanges.getD [] ≠ []
  | .rotate _ _ sa _ id => ∀ old, w.apiKey? sa id = some old → old.Rotatable w.now
  | _ => True

def Careful : World → List Operation → Prop
  | _, [] => True
  | w, operation :: rest =>
    operation.careful w ∧ Careful (operation.effect w) rest

structure Inv (w : World) : Prop where
  unique : Table.Unique (·.id) w.apiKeys
  numbered : ∀ key ∈ w.apiKeys, key.id < w.supply
  restricted : ∀ key ∈ w.apiKeys, key.requireIpRestriction = true → key.allowedIpRanges ≠ []
  narrow : ∀ rotation ∈ w.rotations, rotation.Narrow
  past : ∀ rotation ∈ w.rotations, rotation.new.id < w.supply ∧ rotation.time ≤ w.now
  dead : ∀ rotation ∈ w.rotations, rotation.old.usableAt rotation.time = false →
    ∀ key ∈ w.apiKeys, key.id = rotation.new.id → key.overBy rotation.time

variable {key : ApiKey}

open ApiKey

theorem overBy_of_not_usable {time : Int} (h : key.usableAt time = false) :
    key.overBy time := by
  unfold usableAt at h
  cases revoked : key.revoked with
  | true => exact .inl revoked
  | false =>
    cases expires : key.expiresAt with
    | none => simp [revoked, expires] at h
    | some expiry =>
      refine .inr ⟨expiry, expires, ?_⟩
      simpa [revoked, expires] using h

theorem not_usable_of_overBy {since time : Int} (isOver : key.overBy since)
    (later : since ≤ time) : key.usableAt time = false := by
  unfold usableAt
  rcases isOver with revoked | ⟨expiry, expires, pre⟩
  · simp [revoked]
  · have expired : expiry < time := by omega
    simp [expires, expired]

section Steps

variable {w : World}

theorem inv_updated (inv : Inv w) (id : Nat) {chg : ApiKey → ApiKey}
    (sameId : ∀ key, (chg key).id = key.id)
    (restricted : ∀ key, (chg key).requireIpRestriction = key.requireIpRestriction ∧
      (chg key).allowedIpRanges = key.allowedIpRanges)
    (dead : ∀ key ∈ w.apiKeys, key.id = id → ∀ time ≤ w.now, key.overBy time →
      (chg key).overBy time) : Inv (apiKeyUpdated id chg w) := by
  constructor
  · apply inv.unique.map
    intro key
    split
    · exact sameId key
    · rfl
  · intro key mem
    obtain ⟨old, pre, rfl⟩ := mem_map.mp mem
    split
    · rw [sameId]
      exact inv.numbered old pre
    · exact inv.numbered old pre
  · intro key mem
    obtain ⟨old, pre, rfl⟩ := mem_map.mp mem
    split
    · rw [(restricted old).1, (restricted old).2]
      exact inv.restricted old pre
    · exact inv.restricted old pre
  · exact inv.narrow
  · exact inv.past
  · intro rotation mem wasDead key isKey same
    obtain ⟨old, pre, rfl⟩ := mem_map.mp isKey
    split at same
    · rename_i here
      rw [if_pos here]
      rw [sameId] at same
      have wasOver := inv.dead rotation mem wasDead old pre same
      exact dead old pre here _ (inv.past rotation mem).2 wasOver
    · rename_i other
      rw [if_neg other]
      exact inv.dead rotation mem wasDead old pre same

theorem inv_created (inv : Inv w) {row : Nat → ApiKey} (isNew : ∀ id, (row id).id = id)
    (restricted : ∀ id, (row id).requireIpRestriction = true → (row id).allowedIpRanges ≠ []) :
    Inv (apiKeyCreated row w).2 := by
  have fresh : ∀ key ∈ w.apiKeys, key.id ≠ (row w.supply).id := by
    intro key mem
    rw [isNew]
    exact (inv.numbered key mem).ne
  constructor
  · apply (inv.unique.cons fresh).subset
    intro key mem
    rcases mem_append.mp mem with pre | new
    · exact .tail _ pre
    · rw [mem_singleton.mp new]
      exact mem_cons_self
  · intro key mem
    rcases mem_append.mp mem with pre | new
    · exact lt_succ_of_lt (inv.numbered key pre)
    · rw [mem_singleton.mp new, isNew]
      exact lt_succ_self _
  · intro key mem
    rcases mem_append.mp mem with pre | new
    · exact inv.restricted key pre
    · rw [mem_singleton.mp new]
      exact restricted _
  · exact inv.narrow
  · intro rotation mem
    obtain ⟨older, past⟩ := inv.past rotation mem
    exact ⟨lt_succ_of_lt older, past⟩
  · intro rotation mem wasDead key isKey same
    rcases mem_append.mp isKey with pre | new
    · exact inv.dead rotation mem wasDead key pre same
    · rw [mem_singleton.mp new, isNew] at same
      exact absurd same (inv.past rotation mem).1.ne'

theorem findById_run (r : Realm) (sa : Nat) (w : World) :
    (∃ f, (findById r sa).run w = (.error f, w)) ∨
      ∃ account, (findById r sa).run w = (.ok account, w) := by
  unfold findById
  rw [run_read_bind]
  cases w.serviceAccounts.find? fun account => account.id = sa && account.realmId = r.id with
  | none => exact .inl ⟨_, rfl⟩
  | some account => exact .inr ⟨account, rfl⟩

theorem createApiKey_inv (inv : Inv w) (d : Deps) (r : Realm) (sa : Nat)
    (rawKey : String) (dto : CreateApiKeyDto)
    (careful : dto.requireIpRestriction = some true → dto.allowedIpRanges.getD [] ≠ []) :
    Inv ((createApiKey d r sa rawKey dto).run w).2 := by
  unfold createApiKey
  rw [run_bind]
  rcases findById_run r sa w with ⟨f, hit⟩ | ⟨account, hit⟩
  · rw [hit]
    exact inv
  · rw [hit]
    dsimp only [Prog.run_atomic]
    apply inv_created inv
    · exact fun _ => rfl
    · intro _ need
      apply careful
      cases asked : dto.requireIpRestriction with
      | none => simp [asked] at need
      | some v =>
        simp only [asked, getD_some] at need
        rw [need]

theorem revokeApiKey_inv (inv : Inv w) (r : Realm) (sa id : Nat) :
    Inv ((revokeApiKey r sa id).run w).2 := by
  unfold revokeApiKey
  rw [run_bind]
  rcases findById_run r sa w with ⟨f, hit⟩ | ⟨account, hit⟩
  · rw [hit]
    exact inv
  · rw [hit]
    dsimp only
    rw [run_read_bind]
    cases w.apiKey? sa id with
    | none => exact inv
    | some key =>
      cases revoked : key.revoked with
      | true =>
        simp only [orFail_some, done_bind, revoked, if_true]
        exact inv
      | false =>
        simp only [orFail_some, done_bind, revoked]
        exact inv_updated inv id (fun _ => rfl) (fun _ => ⟨rfl, rfl⟩) fun _ _ _ _ _ _ => .inl rfl

theorem used_inv (inv : Inv w) (candidate : ApiKey) : Inv (used candidate w) :=
  inv_updated inv candidate.id (fun _ => rfl) (fun _ => ⟨rfl, rfl⟩) fun _ _ _ _ _ isOver => isOver

end Steps


section Validate

variable (d : Deps) (plainKey : String) (w : World)

theorem firstValid_run (candidates : List (ApiKey × ServiceAccount)) :
    (∃ f, (firstValid d plainKey candidates).run w = (.error f, w)) ∨
      ∃ key, (firstValid d plainKey candidates).run w = (.ok key, used key w) ∧
        (∃ account, (key, account) ∈ candidates) ∧ key.expiresAt.any (· < w.now) = false ∧
        d.verifyPassword key.keyHash plainKey = some true := by
  induction candidates with
  | nil => exact .inl ⟨_, rfl⟩
  | cons candidate rest ih =>
    obtain ⟨candidate, account⟩ := candidate
    have skips : (∃ f, (firstValid d plainKey rest).run w = (.error f, w)) ∨
        ∃ key, (firstValid d plainKey rest).run w = (.ok key, used key w) ∧
          (∃ account', (key, account') ∈ (candidate, account) :: rest) ∧
          key.expiresAt.any (· < w.now) = false ∧
          d.verifyPassword key.keyHash plainKey = some true := by
      rcases ih with failed | ⟨key, ran, ⟨account', mem⟩, usable⟩
      · exact .inl failed
      · exact .inr ⟨key, ran, ⟨account', .tail _ mem⟩, usable⟩
    unfold firstValid
    rw [run_read_bind]
    cases expired : candidate.expiresAt.any (· < w.now) with
    | true =>
      exact skips
    | false =>
      cases account.enabled with
      | false => exact skips
      | true =>
        cases verifies : d.verifyPassword candidate.keyHash plainKey with
        | none => exact .inl ⟨_, rfl⟩
        | some valid =>
          cases valid with
          | false => exact skips
          | true =>
            exact .inr ⟨candidate, rfl, ⟨account, mem_cons_self⟩, expired, verifies⟩

theorem mem_candidates {keyPrefix : String} {account : ServiceAccount}
    (mem : (key, account) ∈ w.candidates keyPrefix) :
    key ∈ w.apiKeys ∧ key.revoked = false := by
  obtain ⟨other, kept, joined⟩ := mem_filterMap.mp mem
  obtain ⟨hit, _, same⟩ := map_eq_some_iff.mp joined
  cases same
  obtain ⟨isRow, passes⟩ := mem_filter.mp kept
  simp only [and_eq_true, decide_eq_true_eq, not_eq_true'] at passes
  exact ⟨isRow, passes.2⟩

theorem validateApiKey_run (keyPrefix : String) :
    (∃ f, (validateApiKey d keyPrefix plainKey).run w = (.error f, w)) ∨
      ∃ key, (validateApiKey d keyPrefix plainKey).run w = (.ok key, used key w) ∧
        key ∈ w.apiKeys ∧ key.usableAt w.now = true ∧
        d.verifyPassword key.keyHash plainKey = some true := by
  rcases firstValid_run d plainKey w (w.candidates keyPrefix) with
    failed | ⟨key, ran, ⟨account, mem⟩, lasts, verifies⟩
  · exact .inl failed
  · obtain ⟨isRow, active⟩ := mem_candidates w mem
    refine .inr ⟨key, ran, isRow, ?_, verifies⟩
    unfold usableAt
    rw [active, lasts]
    rfl

end Validate

theorem canActivate_ok {d : Deps} {counts : Counts} {req : Request} {w w' : World} (ran : (canActivate d counts req).run w = (.ok key, w')) :
    ∃ plainKey, req.plainKey = some plainKey ∧ key ∈ w.apiKeys ∧
      key.usableAt w.now = true ∧ d.verifyPassword key.keyHash plainKey = some true ∧
      (key.requireIpRestriction = true → key.allowedIpRanges ≠ [] →
        ipAllowed key req.clientIp = true) := by
  obtain ⟨plainKey, presented, ran⟩ := run_orFail_bind_ok.mp ran
  obtain ⟨candidate, world₁, validated, ran⟩ := run_bind_ok.mp ran
  obtain ⟨allowed, ran⟩ := run_require_bind_ok.mp ran
  obtain ⟨_, world₂, _, ran⟩ := run_bind_ok.mp ran
  obtain ⟨_, world₃, _, ran⟩ := run_bind_ok.mp ran
  obtain ⟨_, world₄, _, ran⟩ := run_bind_ok.mp ran
  cases ran
  have isHeader : req.plainKey = some plainKey := (filter_eq_some_iff.mp presented).1
  rcases validateApiKey_run d plainKey w _ with ⟨f, failed⟩ |
    ⟨hit, succeeded, isRow, usable, verifies⟩
  · rw [failed] at validated
    cases validated
  · rw [succeeded] at validated
    cases validated
    refine ⟨plainKey, isHeader, isRow, usable, verifies, ?_⟩
    intro need ranges
    simpa [need, ranges] using allowed

theorem admits_of_inv {w : World} (inv : Inv w) : Admits w := by
  intro d counts req key w' ran
  obtain ⟨plainKey, presented, isRow, usable, verifies, restricted⟩ := canActivate_ok ran
  refine ⟨isRow, usable, ⟨plainKey, presented, verifies⟩, ?_⟩
  intro need
  have allowed := restricted need (inv.restricted key isRow need)
  obtain ⟨range, isRange, covers⟩ := any_eq_true.mp allowed
  exact ⟨range, isRange, covers_iff.mpr covers⟩

section Rotate

variable {w : World} {old : ApiKey} (d : Deps) (sa : Nat) (newRaw : String)

theorem rotation_narrow (rotatable : old.Rotatable w.now) (id : Nat) :
    Rotation.Narrow ⟨w.now, old, { old with expiresAt := some (graceExpiry w.now) },
      successor d sa newRaw old id⟩ := by
  obtain ⟨unrestricted, _, lasting⟩ := rotatable
  constructor
  · exact ⟨rfl, unrestricted.requireIpRestriction.symm, unrestricted.allowedIpRanges.symm,
      unrestricted.rateLimitPerMinute.symm, unrestricted.maxRequestsPerDay.symm,
      unrestricted.maxRequestsPerMonth.symm⟩
  · rfl
  · intro time usable
    unfold usableAt at usable ⊢
    simp only [Option.any_some, and_eq_true, not_eq_true', decide_eq_false_iff_not] at usable ⊢
    obtain ⟨active, within⟩ := usable
    refine ⟨active, ?_⟩
    cases expires : old.expiresAt with
    | none => rfl
    | some expiry =>
      have late := lasting active expiry expires
      simp only [Option.any_some, decide_eq_false_iff_not]
      omega

theorem expired_of_rotatable (rotatable : old.Rotatable w.now) (dead : old.usableAt w.now = false) :
    old.revoked = true ∧ ∃ expiry, old.expiresAt = some expiry ∧ expiry < w.now := by
  cases revoked : old.revoked with
  | true =>
    have expired := rotatable.revoked revoked
    cases expires : old.expiresAt with
    | none =>
      rw [expires] at expired
      cases expired
    | some expiry =>
      rw [expires] at expired
      exact ⟨rfl, expiry, rfl, by simpa using expired⟩
  | false =>
    rcases overBy_of_not_usable dead with isRevoked | ⟨expiry, expires, pre⟩
    · rw [revoked] at isRevoked
      cases isRevoked
    · have late := rotatable.lasting revoked expiry expires
      unfold graceExpiry ROTATION_GRACE_SECONDS at late
      omega

theorem rotated_inv (inv : Inv w) (mem : old ∈ w.apiKeys) (rotatable : old.Rotatable w.now) :
    Inv (graceGiven old (successor d sa newRaw old w.supply)
      (apiKeyCreated (successor d sa newRaw old) w).2) := by
  have created : Inv (apiKeyCreated (successor d sa newRaw old) w).2 :=
    inv_created inv (fun _ => rfl) fun _ need => by cases need
  have isOld : ∀ key ∈ (apiKeyCreated (successor d sa newRaw old) w).2.apiKeys,
      key.id = old.id → key = old := by
    intro key isKey same
    exact created.unique key isKey old (mem_append_left _ mem) same
  have updated : Inv (apiKeyUpdated old.id
      (fun key => { key with expiresAt := some (graceExpiry w.now) })
      (apiKeyCreated (successor d sa newRaw old) w).2) := by
    refine inv_updated created old.id (fun _ => rfl) (fun _ => ⟨rfl, rfl⟩) ?_
    intro key isKey same time past isOver
    rw [isOld key isKey same] at isOver ⊢
    rcases isOver with revoked | ⟨expiry, expires, pre⟩
    · exact .inl revoked
    · have isPast : time ≤ w.now := past
      have dead : old.usableAt w.now = false :=
        not_usable_of_overBy (.inr ⟨expiry, expires, pre⟩) isPast
      exact .inl (expired_of_rotatable rotatable dead).1
  have newId : (successor d sa newRaw old w.supply).id ≠ old.id :=
    (inv.numbered old mem).ne'
  constructor
  · exact updated.unique
  · exact updated.numbered
  · exact updated.restricted
  · intro rotation isRotation
    rcases mem_cons.mp isRotation with rfl | pre
    · exact rotation_narrow d sa newRaw rotatable w.supply
    · exact inv.narrow rotation pre
  · intro rotation isRotation
    rcases mem_cons.mp isRotation with rfl | pre
    · exact ⟨lt_succ_self _, le_rfl⟩
    · exact updated.past rotation pre
  · intro rotation isRotation wasDead key isKey same
    rcases mem_cons.mp isRotation with rfl | pre
    · obtain ⟨original, isRow, rfl⟩ := mem_map.mp isKey
      have other : original.id ≠ old.id := by
        intro here
        rw [if_pos here] at same
        have isNew : original.id = (successor d sa newRaw old w.supply).id := same
        exact newId (isNew.symm.trans here)
      rw [if_neg other] at same ⊢
      have isNew : original = successor d sa newRaw old w.supply :=
        created.unique original isRow _ (mem_append_right _ (mem_singleton.mpr rfl)) same
      rw [isNew]
      exact .inr (expired_of_rotatable rotatable wasDead).2
    · exact updated.dead rotation pre wasDead key isKey same

theorem rotateApiKey_inv (inv : Inv w) (r : Realm) (id : Nat)
    (careful : ∀ old, w.apiKey? sa id = some old → old.Rotatable w.now) :
    Inv ((rotateApiKey d r sa newRaw id).run w).2 := by
  unfold rotateApiKey
  rw [run_bind]
  rcases findById_run r sa w with ⟨f, hit⟩ | ⟨account, hit⟩
  · rw [hit]
    exact inv
  · rw [hit]
    dsimp only
    rw [run_read_bind]
    cases isOld : w.apiKey? sa id with
    | none => exact inv
    | some old => exact rotated_inv d sa newRaw inv (mem_of_find?_eq_some isOld) (careful old isOld)

end Rotate

theorem effect_inv {w : World} (inv : Inv w) (op : Operation)
    (careful : op.careful w) : Inv (op.effect w) := by
  cases op with
  | create d r sa rawKey dto => exact createApiKey_inv inv d r sa rawKey dto careful
  | rotate d r sa newRaw id => exact rotateApiKey_inv d sa newRaw inv r id careful
  | revoke r sa id => exact revokeApiKey_inv inv r sa id
  | validate d keyPrefix plainKey =>
    change Inv ((validateApiKey d keyPrefix plainKey).run w).2
    rcases validateApiKey_run d plainKey w keyPrefix with ⟨f, ran⟩ | ⟨key, ran, _⟩
    · rw [ran]
      exact inv
    · rw [ran]
      exact used_inv inv key
  | pass milliseconds =>
    refine { inv with past := fun rotation mem => ?_ }
    obtain ⟨older, past⟩ := inv.past rotation mem
    have later : w.now ≤ w.now + milliseconds := by omega
    exact ⟨older, past.trans later⟩

variable {ops : List Operation}

open Operation

theorem run_inv {w : World} (inv : Inv w) (careful : Careful w ops) : Inv (ops.foldl effect w) := by
  induction ops generalizing w with
  | nil => exact inv
  | cons op rest ih => exact ih (effect_inv inv op careful.1) careful.2

def start (now : Int) (serviceAccounts : List ServiceAccount) : World :=
  { now := now, serviceAccounts := serviceAccounts }

theorem start_inv (now : Int) (serviceAccounts : List ServiceAccount) :
    Inv (start now serviceAccounts) := by
  constructor
  · intro key mem
    cases mem
  · intro key mem
    cases mem
  · intro key mem
    cases mem
  · intro rotation mem
    cases mem
  · intro rotation mem
    cases mem
  · intro rotation mem
    cases mem

/-- In a careful run no rotation widens an access. -/
theorem rotation_confines (now : Int) (serviceAccounts : List ServiceAccount) (careful : Careful (start now serviceAccounts) ops) :
    Confined (ops.foldl effect (start now serviceAccounts)) := by
  have inv := run_inv (start_inv now serviceAccounts) careful
  constructor
  · exact inv.narrow
  · intro rotation mem wasDead key isKey same time later
    exact not_usable_of_overBy (inv.dead rotation mem wasDead key isKey same) later
  · exact admits_of_inv inv

def backend : ServiceAccount := { id := 1, realmId := 1, name := "backend" }

def restrictedKey : CreateApiKeyDto where
  requireIpRestriction := some true
  allowedIpRanges := some ["10.0.0.0/8"]

def keyOperations (dto : CreateApiKeyDto) : List Operation :=
  [.create .transparent { id := 1, name := "acme" } 1 "00000000-first" dto,
    .rotate .transparent { id := 1, name := "acme" } 1 "11111111-second" 0]

/-- A lasting key is rotated; then a key that is revoked, and has expired when it is rotated; and a
key with a range is used from there. -/
def carefulOperations : List Operation :=
  [.create .transparent { id := 1, name := "acme" } 1 "00000000-first"
      { scopes := some ["read"], expiresAt := some 86400000 },
    .rotate .transparent { id := 1, name := "acme" } 1 "11111111-second" 0,
    .create .transparent { id := 1, name := "acme" } 1 "22222222-third"
      { scopes := some ["read", "write"], expiresAt := some 60000 },
    .revoke { id := 1, name := "acme" } 1 2,
    .pass 120000,
    .rotate .transparent { id := 1, name := "acme" } 1 "33333333-fourth" 2,
    .create .transparent { id := 1, name := "acme" } 1 "44444444-fifth" restrictedKey,
    .validate .transparent "44444444" "44444444-fifth"]

theorem careful_operations : Careful (start 0 [backend]) carefulOperations := by
  refine ⟨nofun, ?_, nofun, trivial, trivial, ?_, fun _ => by decide, trivial, trivial⟩
  · intro old hit
    cases hit
    refine ⟨⟨rfl, rfl, rfl, rfl, rfl⟩, nofun, fun _ expiry expires => ?_⟩
    cases expires
    decide
  · intro old hit
    cases hit
    exact ⟨⟨rfl, rfl, rfl, rfl, rfl⟩, fun _ => rfl, nofun⟩

/-- Both rotations leave every key confined. -/
theorem rotated_keys_are_confined :
    (carefulOperations.foldl effect (start 0 [backend])).rotations.length = 2 ∧
      Confined (carefulOperations.foldl effect (start 0 [backend])) :=
  ⟨rfl, rotation_confines 0 [backend] careful_operations⟩

/-- From anywhere the new key is admitted, and the old one only from its ranges. -/
theorem rotated_key_is_unrestricted :
    let w := (keyOperations restrictedKey).foldl effect (start 0 [backend])
    (∃ key w', (canActivate .transparent {} ⟨some "11111111-second", "8.8.8.8"⟩).run w =
        (.ok key, w')) ∧
      (∃ f, ((canActivate .transparent {} ⟨some "00000000-first", "8.8.8.8"⟩).run w).1 = .error f) ∧
      ∃ rotation ∈ w.rotations, ¬rotation.Narrow := by
  refine ⟨⟨_, _, rfl⟩, ⟨_, rfl⟩, _, mem_cons_self, ?_⟩
  intro narrow
  cases narrow.access.requireIpRestriction

end Idenplane.ServiceAccounts
