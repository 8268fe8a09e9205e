import Idenplane.Auth.Layers
import Mathlib.Data.List.Induction

/-! # The claims that identify a token

The server computes who a token is about, who issued it and for which client, and lays custom
attributes and protocol mappers over that.  Nothing reserves these claims.  What such a claim
says when it is not what the server computed comes from a setting that names it.
-/

namespace Idenplane.Auth

def identityClaims : List String :=
  ["iss", "sub", "azp", "sid", "typ", "scope", "acr", "amr", "aud"]

def FromAttribute (s : Store) (userId : Nat) (key : String) (value : Option Value) : Prop :=
  ∃ row ∈ s.userAttributes, row.userId = userId ∧ row.value ≠ "" ∧ value = some (.str row.value) ∧
    ∃ definition ∈ s.customAttributes, definition.id = row.attributeId ∧
      definition.mapToOidcClaim = some key

def WritesOnly (keys : List String) (payload res : Claims) : Prop :=
  ∀ key, key ∉ keys → res key = payload key

theorem WritesOnly.refl (keys : List String) (payload : Claims) : WritesOnly keys payload payload :=
  fun _ _ => rfl

open Claims WritesOnly Issue

theorem WritesOnly.assign {keys : List String} {payload res : Claims} {name : String}
    (writes : WritesOnly keys payload res) (v : Value) (isKey : name ∈ keys) :
    WritesOnly keys payload (res.assign name v) := by
  intro key other
  have different : key ≠ name := by
    rintro rfl
    exact other isKey
  rw [assign_of_ne different, writes key other]

section Mappers

variable (config : List (String × Value)) (context : MapperContext) (payload : Claims)

def namedClaim (config : List (String × Value)) : List String :=
  ((config.lookup "claim.name").map Value.toKey).toList

variable {config} in
theorem namedClaim_mem {name : Value} (named : config.lookup "claim.name" = some name) :
    name.toKey ∈ namedClaim config := by
  simp [namedClaim, named]

open ProtocolMapperExecutor

theorem executeUserModelAttributeMapper_writes : WritesOnly (namedClaim config) payload
      (executeUserModelAttributeMapper config context payload) := by
  unfold executeUserModelAttributeMapper
  split
  · rename_i named
    split
    · split
      · exact (refl _ _).assign _ (namedClaim_mem named)
      · exact .refl _ _
    · exact .refl _ _
  · exact .refl _ _

theorem executeHardcodedClaimMapper_writes :
    WritesOnly (namedClaim config) payload (executeHardcodedClaimMapper config payload) := by
  unfold executeHardcodedClaimMapper
  split
  · rename_i named _
    split
    · exact (refl _ _).assign _ (namedClaim_mem named)
    · exact .refl _ _
  · exact .refl _ _

theorem executeRoleListMapper_writes : WritesOnly ["realm_access", "resource_access"] payload
      (executeRoleListMapper config context payload) := by
  unfold executeRoleListMapper
  extract_lets claimName
  split
  · exact ((refl _ _).assign _ (by simp)).assign _ (by simp)
  · exact .refl _ _

theorem executeAudienceMapper_writes :
    WritesOnly ["aud"] payload (executeAudienceMapper config payload) := by
  unfold executeAudienceMapper
  split
  · exact .refl _ _
  · split
    · exact .refl _ _
    · split <;> exact (refl _ _).assign _ (by simp)

theorem executeFullNameMapper_writes :
    WritesOnly ["name"] payload (executeFullNameMapper context payload) := by
  unfold executeFullNameMapper
  split
  · split
    · exact .refl _ _
    · exact (refl _ _).assign _ (by simp)
  · exact .refl _ _

def mapperClaims (mapper : ProtocolMapper) : List String :=
  match mapper.mapperType with
  | "oidc-usermodel-attribute-mapper" | "oidc-hardcoded-claim-mapper" => namedClaim mapper.config
  | "oidc-role-list-mapper" => ["realm_access", "resource_access"]
  | "oidc-audience-mapper" => ["aud"]
  | "oidc-full-name-mapper" => ["name"]
  | _ => []

theorem executeMapper_writes (mapper : ProtocolMapper) :
    WritesOnly (mapperClaims mapper) payload (executeMapper context payload mapper) := by
  unfold mapperClaims executeMapper
  generalize mapper.mapperType = type
  split
  · exact executeUserModelAttributeMapper_writes _ _ _
  · exact executeHardcodedClaimMapper_writes _ _
  · exact executeRoleListMapper_writes _ _ _
  · exact executeAudienceMapper_writes _ _
  · exact executeFullNameMapper_writes _ _
  · simpa only using refl [] payload

/-- A mapper that names the claim changed it to this value in the run of the mappers, and none
after it changed it again. -/
def WrittenBy (context : MapperContext) (mappers : List ProtocolMapper) (key : String)
    (value : Value) : Prop :=
  ∃ earlier mapper later, mappers = earlier ++ mapper :: later ∧ key ∈ mapperClaims mapper ∧
    executeMappers context .empty earlier key ≠ some value ∧
    executeMapper context (executeMappers context .empty earlier) mapper key = some value ∧
    executeMappers context .empty mappers key = some value

theorem executeMappers_concat (mappers : List ProtocolMapper) (mapper : ProtocolMapper) :
    executeMappers context payload (mappers ++ [mapper]) =
      executeMapper context (executeMappers context payload mappers) mapper := by
  simp only [executeMappers, foldl_append, foldl_cons, foldl_nil]

theorem writtenBy_of_said {mappers : List ProtocolMapper} {key : String} {v : Value}
    (said : executeMappers context .empty mappers key = some v) :
    WrittenBy context mappers key v := by
  induction mappers using List.reverseRecOn with
  | nil => cases said
  | append_singleton mappers mapper ih =>
    by_cases pre : executeMappers context .empty mappers key = some v
    · obtain ⟨earlier, writer, later, rfl, names, different, wrote, -⟩ := ih pre
      exact ⟨earlier, writer, later ++ [mapper], by simp, names, different, wrote, said⟩
    · have wrote := said
      rw [executeMappers_concat] at wrote
      refine ⟨mappers, mapper, [], rfl, ?_, pre, wrote, said⟩
      by_contra silent
      have same := executeMapper_writes context (executeMappers context .empty mappers) mapper key
        silent
      exact pre (same.symm.trans wrote)

end Mappers

section Provenance

/-- What the mappers are told about the user. -/
def Issue.mapperContext (issue : Issue) (s : Store) (resources : List (String × List String)) :
    MapperContext where
  username := issue.user.username
  email := issue.user.email
  emailVerified := issue.user.emailVerified
  firstName := issue.user.firstName
  lastName := issue.user.lastName
  realmRoles := realmRoles (allRoles s issue.user.id)
  resourceAccess := resources

/-- A mapper of the granted scopes that names the claim wrote the value. -/
def FromMapper (s : Store) (issue : Issue) (key : String) (value : Option Value) : Prop :=
  ∃ resources written, resourceAccess s (allRoles s issue.user.id) = some resources ∧
    value = some written ∧ WrittenBy (issue.mapperContext s resources)
      (getScopeMappers s issue.effectiveScopes issue.realm.id) key written

variable {d : Deps} {s : Store} {key : String} {issue : Issue}

theorem userColumns_identity (u : User) (isIdentity : key ∈ identityClaims) :
    userColumns u key = none := by
  unfold userColumns
  split <;> first | rfl | exact absurd isIdentity (by decide)

/-- The user's claims are silent about it, or say who the subject is, or an attribute says it. -/
theorem userClaims_identity (isIdentity : key ∈ identityClaims) :
    issue.userClaims s key = (if key = "sub" then some (.id issue.user.id) else none) ∨
      FromAttribute s issue.user.id key (issue.userClaims s key) := by
  have said : issue.userClaims s key = (nonEmpty (getOidcClaimsForUser s issue.user.id) key).or
        (if key = "sub" then some (.id issue.user.id) else none) := by
    unfold Issue.userClaims resolveUserClaims
    dsimp only [spread]
    rw [userColumns_identity _ isIdentity, ite_self]
  cases custom : nonEmpty (getOidcClaimsForUser s issue.user.id) key with
  | none =>
    rw [said, custom, none_or]
    exact .inl rfl
  | some claim =>
    rw [said, custom, some_or]
    refine .inr ?_
    unfold nonEmpty at custom
    split at custom
    · cases custom
    · rename_i some_
      obtain ⟨row, isRow, ofUser, rfl, mapped⟩ := getOidcClaims_origin custom
      refine ⟨row, isRow, ofUser, fun empty => ?_, rfl, mapped⟩
      rw [empty] at custom
      exact some_ custom

theorem mapperClaims_eq (s : Store) (issue : Issue) (resources : List (String × List String)) :
    issue.mapperClaims s resources =
      ProtocolMapperExecutor.executeMappers (issue.mapperContext s resources) .empty
        (getScopeMappers s issue.effectiveScopes issue.realm.id) := by
  simp only [Issue.mapperClaims]
  split
  · rename_i noMappers
    rw [List.isEmpty_iff.mp noMappers]
    rfl
  · rfl

theorem fixedAccess_subject (d : Deps) (issue : Issue) :
    issue.fixedAccess d "sub" = some (.id issue.user.id) := by
  cases amr : issue.amr with
  | nil => simp [fixedAccess, context, spread, spreadIf, amr]
  | cons method rest => simp [fixedAccess, context, spread, spreadIf, amr]

theorem fixedId_subject (d : Deps) (issue : Issue) (tok : Jwt) (now : Int) :
    issue.fixedId d tok now "sub" = some (.id issue.user.id) := by
  cases amr : issue.amr with
  | nil =>
    cases code : issue.code <;> simp [fixedId, context, spread, spreadIf, amr, code]
  | cons method rest =>
    cases code : issue.code <;> simp [fixedId, context, spread, spreadIf, amr, code]

theorem spread_identity (s : Store) {fixed : Claims} (subject : fixed "sub" = some (.id issue.user.id))
    (isIdentity : key ∈ identityClaims) : fixed.spread (issue.userClaims s) key = fixed key ∨
      FromAttribute s issue.user.id key (fixed.spread (issue.userClaims s) key) := by
  have said : issue.userClaims s key = (if key = "sub" then some (.id issue.user.id) else none) ∨
      FromAttribute s issue.user.id key (issue.userClaims s key) := userClaims_identity isIdentity
  cases said with
  | inl plain =>
    refine .inl ?_
    rw [spread, plain]
    by_cases isSub : key = "sub"
    · rw [if_pos isSub, isSub, subject]
      rfl
    · rw [if_neg isSub, none_or]
  | inr mapped =>
    refine .inr ?_
    obtain ⟨row, isRow, ofUser, some_, said, mapped⟩ := mapped
    exact ⟨row, isRow, ofUser, some_, by rw [spread, said, some_or], mapped⟩

/-- Each identity claim of the access token, before the plugins, and of the id token is what the
server computed, or the value that the user has for an attribute that is mapped to this claim,
or, in the access token, what a mapper of the granted scopes that names this claim wrote. -/
theorem identity_claims_from_settings (d : Deps) (issue : Issue) (s : Store) {payload : Claims}
    (isPayload : issue.accessTokenPayload d s = some payload) (tok : Jwt) :
    ∀ key ∈ identityClaims,
      (payload key = issue.fixedAccess d key ∨ FromAttribute s issue.user.id key (payload key) ∨
        FromMapper s issue key (payload key)) ∧
      (issue.idTokenPayload d tok s key = issue.fixedId d tok s.now key ∨
        FromAttribute s issue.user.id key (issue.idTokenPayload d tok s key)) := by
  intro key isIdentity
  constructor
  · simp only [Issue.accessTokenPayload, bind_eq_bind, bind_eq_some_iff, some.injEq] at isPayload
    obtain ⟨resources, isResources, rfl⟩ := isPayload
    cases said : issue.mapperClaims s resources key with
    | some written =>
      have wrote := said
      rw [mapperClaims_eq] at wrote
      rw [spread, said, some_or]
      exact .inr (.inr ⟨resources, written, isResources, rfl, writtenBy_of_said _ wrote⟩)
    | none =>
      have notRoles : key ≠ "realm_access" ∧ key ≠ "resource_access" := by
        constructor <;> rintro rfl <;> exact absurd isIdentity (by decide)
      rw [spread_of_none said, spreadIf_of_none _ (by simp [notRoles])]
      exact (spread_identity s (fixedAccess_subject d issue) isIdentity).imp_right .inl
  · have notNonce : key ≠ "nonce" := by
      rintro rfl
      exact absurd isIdentity (by decide)
    have layered := spread_identity s (fixedId_subject d issue tok s.now) isIdentity
    simp only [Issue.idTokenPayload]
    cases given issue.nonce with
    | some nonce => simpa only [assign_of_ne notNonce] using layered
    | none => exact layered

end Provenance

section Example

/-- An administrator mapped the attribute `handle` to the subject; Alice filled it in. -/
def handleStore : Store where
  supply := 10
  users := [{ id := 2, realmId := 1, username := "alice" }]
  customAttributes := [{ id := 5, realmId := 1, name := "handle", displayName := "Handle",
                         mapToOidcClaim := some "sub" }]
  userAttributes := [{ userId := 2, attributeId := 5, value := "root" }]

def aliceIssue : Issue where
  realm := { id := 1, name := "acme" }
  user := { id := 2, realmId := 1, username := "alice" }
  clientId := "app"
  sessionId := 3

/-- The subject of Alice's tokens is the text that she chose. -/
theorem subject_overridden :
    ∃ payload, aliceIssue.accessTokenPayload .transparent handleStore = some payload ∧
      payload "sub" = some (.str "root") ∧
      payload "sub" ≠ aliceIssue.fixedAccess .transparent "sub" := by
  refine ⟨_, rfl, rfl, ?_⟩
  rw [fixedAccess_subject]
  decide

/-- The issuer is the server's: no attribute is mapped to it, and there is no mapper. -/
theorem issuer_untouched :
    ∃ payload, aliceIssue.accessTokenPayload .transparent handleStore = some payload ∧
      payload "iss" = aliceIssue.fixedAccess .transparent "iss" := by
  obtain ⟨payload, isPayload⟩ :
      ∃ payload, aliceIssue.accessTokenPayload .transparent handleStore = some payload := ⟨_, rfl⟩
  refine ⟨payload, isPayload, ?_⟩
  obtain ⟨claims, -⟩ := identity_claims_from_settings .transparent aliceIssue handleStore isPayload
    ⟨0, .empty, .brokerState⟩ "iss" (by decide)
  obtain computed | attributed | ⟨resources, written, -, -, earlier, mapper, later, mappers, -⟩ :=
    claims
  · exact computed
  · obtain ⟨-, -, -, -, -, defn, isDefinition, -, mapped⟩ := attributed
    rw [mem_singleton.mp isDefinition] at mapped
    exact absurd mapped (by decide)
  · have none_ : getScopeMappers handleStore aliceIssue.effectiveScopes aliceIssue.realm.id = [] :=
      rfl
    rw [none_] at mappers
    exact absurd mappers.symm (by simp)

end Example

end Idenplane.Auth
