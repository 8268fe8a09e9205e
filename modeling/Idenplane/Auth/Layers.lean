import Idenplane.Auth.Tokens

/-! # What the layers of a payload can say

A token's payload starts from claims the server fixes.  Custom attributes, protocol
mappers and plugins are laid over them and may replace any of them.  A property of one
claim survives all layers when the fixed claims have it and no layer breaks it.
-/

namespace Idenplane.Auth

open ProtocolMapperExecutor Claims Issue

def userKeys : List String :=
  ["sub", "preferred_username", "given_name", "family_name", "name", "email", "email_verified",
   "realm_access", "resource_access"]

/-- In the tokens of a realm, no layer breaks the property `good` of the claim `key`. -/
structure Layers (d : Deps) (realmId : Nat) (key : String) (good : Option Value → Prop)
    (s : Store) : Prop where
  attributes : ∀ value ∈ s.userAttributes, value.value ≠ "" → ∀ definition ∈ s.customAttributes,
    definition.id = value.attributeId → definition.mapToOidcClaim = some key →
    good (some (.str value.value))
  mappers : ∀ scope ∈ s.clientScopes, scope.realmId = realmId → ∀ mapper ∈ s.protocolMappers,
    mapper.clientScopeId = scope.id → ∀ ctx payload,
    executeMapper ctx payload mapper key = payload key ∨ good (executeMapper ctx payload mapper key)
  plugins : ∀ enricher ∈ d.enrichers, ∀ payload user realm res,
    enricher payload user realm = some res → res key = payload key ∨ good (res key)

section Layers

variable {d : Deps} {rid : Nat} {s s' : Store} {key : String} {good : Option Value → Prop}

theorem Layers.mono {better : Option Value → Prop} (layers : Layers d rid key better s)
    (weaker : ∀ v, better v → good v) : Layers d rid key good s where
  attributes := fun v isValue some_ defn isDefinition same mapped =>
    weaker _ (layers.attributes v isValue some_ defn isDefinition same mapped)
  mappers := fun sc isScope inRealm mapper isMapper ofScope ctx pl =>
    (layers.mappers sc isScope inRealm mapper isMapper ofScope ctx pl).imp_right (weaker _)
  plugins := fun enricher isEnricher pl u r res enriched =>
    (layers.plugins enricher isEnricher pl u r res enriched).imp_right (weaker _)

def layerTables (s : Store) :
    List UserAttribute × List CustomAttribute × List ClientScope × List ProtocolMapper :=
  (s.userAttributes, s.customAttributes, s.clientScopes, s.protocolMappers)

theorem Layers.same (layers : Layers d rid key good s)
    (same : layerTables s' = layerTables s) : Layers d rid key good s' := by
  simp only [layerTables, Prod.mk.injEq] at same
  obtain ⟨userAttributes, customAttributes, clientScopes, protocolMappers⟩ := same
  constructor
  · rw [userAttributes, customAttributes]
    exact layers.attributes
  · rw [clientScopes, protocolMappers]
    exact layers.mappers
  · exact layers.plugins

theorem assign_cases (claims : Claims) (name : String) (value : Value) (key : String) :
    claims.assign name value key = claims key ∨
      name = key ∧ claims.assign name value key = some value := by
  unfold assign
  by_cases same : key = name ∧ name ≠ "__proto__"
  · rw [if_pos same]
    exact .inr ⟨same.1.symm, rfl⟩
  · rw [if_neg same]
    exact .inl rfl

def SilentOr (good : Option Value → Prop) (value : Option Value) : Prop :=
  value = none ∨ good value

theorem spread_good {first snd : Claims} (base : good (first key))
    (layer : SilentOr good (snd key)) : good (first.spread snd key) := by
  rcases layer with silent | isGood
  · rw [spread_of_none silent]
    exact base
  · cases said : snd key with
    | none =>
      rw [spread_of_none said]
      exact base
    | some v =>
      rw [spread_eq_some.mpr (.inl said), ← said]
      exact isGood

theorem getOidcClaims_origin {uid : Nat} {claim : Value}
    (said : getOidcClaimsForUser s uid key = some claim) :
    ∃ row ∈ s.userAttributes, row.userId = uid ∧ claim = .str row.value ∧
      ∃ defn ∈ s.customAttributes, defn.id = row.attributeId ∧ defn.mapToOidcClaim = some key := by
  revert said
  refine List.foldlRecOn (motive := fun claims : Claims => claims key = some claim → _) _ _ ?_ ?_
  · intro no
    cases no
  · intro claims pre row mem said
    obtain ⟨isRow, ofUser⟩ := mem_filter.mp mem
    cases hit : s.customAttributes.find? (·.id = row.attributeId) with
    | none =>
      rw [hit] at said
      exact pre said
    | some defn =>
      simp only [hit] at said
      cases mapped : defn.mapToOidcClaim with
      | none =>
        rw [mapped] at said
        exact pre said
      | some name =>
        simp only [mapped] at said
        by_cases unnamed : name = ""
        · rw [if_pos unnamed] at said
          exact pre said
        · rw [if_neg unnamed] at said
          rcases assign_cases claims name (.str row.value) key with same | ⟨rfl, assigned⟩
          · exact pre (same ▸ said)
          · rw [assigned] at said
            exact ⟨row, isRow, of_decide_eq_true ofUser, (some.inj said).symm, defn,
              mem_of_find?_eq_some hit, by simpa using find?_some hit, mapped⟩

theorem getOidcClaims_silentOr (layers : Layers d rid key good s) (uid : Nat) :
    SilentOr (fun v => v = some (.str "") ∨ good v) (getOidcClaimsForUser s uid key) := by
  cases said : getOidcClaimsForUser s uid key with
  | none => exact .inl rfl
  | some claim =>
    obtain ⟨row, isRow, -, rfl, defn, isDefinition, same, mapped⟩ := getOidcClaims_origin said
    by_cases empty : row.value = ""
    · rw [empty]
      exact .inr (.inl rfl)
    · exact .inr (.inr (layers.attributes row isRow empty defn isDefinition same mapped))

theorem userClaims_silentOr (layers : Layers d rid key good s) (free : key ∉ userKeys)
    (issue : Issue) : SilentOr good (issue.userClaims s key) := by
  have custom := getOidcClaims_silentOr layers issue.user.id
  have columns : userColumns issue.user key = none := by
    unfold userColumns
    split <;> first | rfl | exact absurd (by decide) free
  have notSub : key ≠ "sub" := by
    rintro rfl
    exact free (by decide)
  have filtered : (if key = "sub" then some (.id issue.user.id)
      else if (getClaimsForScopes issue.effectiveScopes).contains key then
        userColumns issue.user key else none) = none := by
    simp [notSub, columns]
  unfold userClaims resolveUserClaims
  dsimp only [spread]
  rw [filtered, Option.or_none]
  unfold nonEmpty
  split
  · exact .inl rfl
  · rename_i some_
    rcases custom with silent | empty | isGood
    · exact .inl silent
    · exact absurd empty some_
    · exact .inr isGood

variable {pl : Claims}

theorem executeMappers_silentOr (layers : Layers d rid key good s) (ctx : MapperContext)
    {mappers : List ProtocolMapper} (members : ∀ mapper ∈ mappers, ∃ sc ∈ s.clientScopes,
      sc.realmId = rid ∧ mapper ∈ s.protocolMappers ∧ mapper.clientScopeId = sc.id) (holds : SilentOr good (pl key)) :
    SilentOr good (executeMappers ctx pl mappers key) := by
  induction mappers generalizing pl with
  | nil => exact holds
  | cons mapper rest ih =>
    apply ih
    · intro m isM
      exact members m (.tail _ isM)
    · dsimp only
      obtain ⟨sc, isScope, inRealm, isMapper, ofScope⟩ := members mapper mem_cons_self
      rcases layers.mappers sc isScope inRealm mapper isMapper ofScope ctx pl with
        same | isGood
      · rw [same]
        exact holds
      · exact .inr isGood

variable {issue : Issue}

theorem mapperClaims_silentOr (layers : Layers d issue.realm.id key good s)
    (resources : List (String × List String)) :
    SilentOr good (issue.mapperClaims s resources key) := by
  simp only [mapperClaims]
  split
  · exact .inl rfl
  · apply executeMappers_silentOr layers
    · intro mapper mem
      simp only [getScopeMappers, mem_flatMap, mem_filter, and_eq_true, decide_eq_true_eq] at mem
      obtain ⟨sc, ⟨isScope, inRealm, -⟩, isMapper, ofScope⟩ := mem
      exact ⟨sc, isScope, inRealm, isMapper, ofScope⟩
    · exact .inl rfl

theorem enrichToken_good (layers : Layers d rid key good s) (u : User)
    (r : String) (holds : good (pl key)) : good (enrichToken d pl u r key) := by
  have fold : ∀ (enrichers : List (Claims → User → String → Option Claims)) (pl : Claims),
      (∀ e ∈ enrichers, e ∈ d.enrichers) → good (pl key) →
      good (enrichers.foldl (fun res enricher =>
        (enricher res u r).getD res) pl key) := by
    intro enrichers
    induction enrichers with
    | nil =>
      intro pl _ holds
      exact holds
    | cons enricher rest ih =>
      intro pl members holds
      apply ih
      · intro e isE
        exact members e (.tail _ isE)
      · dsimp only
        cases enriched : enricher pl u r with
        | none => exact holds
        | some res =>
          rcases layers.plugins enricher (members enricher mem_cons_self) pl u
            r res enriched with same | isGood
          · rw [getD_some, same]
            exact holds
          · exact isGood
  exact fold d.enrichers pl (fun _ mem => mem) holds

theorem accessToken_good (layers : Layers d issue.realm.id key good s)
    (free : key ∉ userKeys) (fixed : good (issue.fixedAccess d key))
    (isPayload : issue.accessTokenPayload d s = some pl) :
    good (enrichToken d pl issue.user issue.realm.name key) := by
  apply enrichToken_good layers
  simp only [accessTokenPayload, bind_eq_bind, bind_eq_some_iff, some.injEq] at isPayload
  obtain ⟨resources, -, rfl⟩ := isPayload
  apply spread_good _ (mapperClaims_silentOr layers resources)
  rw [spreadIf_of_none]
  · exact spread_good fixed (userClaims_silentOr layers free issue)
  · simp only [userKeys, mem_cons, not_or] at free
    simp [free]

theorem idToken_good (layers : Layers d rid key good s) (free : key ∉ userKeys)
    (notNonce : key ≠ "nonce") {tok : Jwt}
    (fixed : good (issue.fixedId d tok s.now key)) :
    good (issue.idTokenPayload d tok s key) := by
  have layered : good ((issue.fixedId d tok s.now).spread (issue.userClaims s) key) :=
    spread_good fixed (userClaims_silentOr layers free issue)
  simp only [idTokenPayload]
  cases given issue.nonce with
  | some nonce => simpa only [assign_of_ne notNonce] using layered
  | none => exact layered

end Layers

end Idenplane.Auth
