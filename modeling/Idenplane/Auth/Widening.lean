import Idenplane.Auth.GrantedScopes

/-! # What a refresh can add to a scope

A refresh may name a scope, which then replaces the stored one.  Only the names that the server
does not know are taken out of it.
-/

namespace Idenplane.Auth.GrantedScopes

open Atomic

structure Refresh where
  asked : Option String
  answer : TokenResponse
  after : Store

/-- The refresh token with which it begins is refreshed, then the one of the answer, and so on,
with anything else in between.  The last refresh comes first. -/
inductive RefreshChain (d : Deps) (origin : Nat) (start : Store) :
    List Refresh → Nat → Store → Prop where
  | origin : RefreshChain d origin start [] origin start
  | other {links : List Refresh} {raw : Nat} {s s' : Store} :
      RefreshChain d origin start links raw s → Between s s' →
      RefreshChain d origin start links raw s'
  | refresh {links : List Refresh} {raw next : Nat} {answer : TokenResponse} {s s' : Store}
      (i : Nat) (realm : Realm) (body : Body) :
      RefreshChain d origin start links raw s → body.refresh_token = some raw →
      (handleRefreshTokenGrant d i realm body).run s = (.ok answer, s') →
      answer.refreshToken = some next →
      RefreshChain d origin start (⟨body.scope, answer, s'⟩ :: links) next s'

def scopeNames (scope : Option String) : List String := Text.words ' ' (scope.getD "")

/-- The tokens of the answer have no name that the scope has not. -/
structure Within (scope : Option String) (link : Refresh) : Prop where
  answer : scopeNames link.answer.scope ⊆ scopeNames scope
  successor : ∀ raw, link.answer.refreshToken = some raw → ∀ row ∈ link.after.refreshTokens,
    row.tokenHash = sha256 raw → scopeNames row.scope ⊆ scopeNames scope

/-- Every name that is asked for and known is in the scope.  Where there is none, `openid` is. -/
def AsksWithin (asked scope : Option String) : Prop :=
  (∀ name ∈ supportedScopes, name ∈ scopeNames ((given asked).or scope) → name ∈ scopeNames scope) ∧
  ((∃ name ∈ supportedScopes, name ∈ scopeNames ((given asked).or scope)) ∨
    "openid" ∈ scopeNames scope)

/-- The scope of the newest refresh token. -/
def newestScope (scope : Option String) : List Refresh → Option String
  | [] => scope
  | link :: _ => link.answer.scope

section

variable {d : Deps} {scope asked : Option String} {names : List String} {links : List Refresh}
  {raw origin : Nat} {answer : TokenResponse} {s start : Store}

theorem mem_parseAndValidate {name : String} : name ∈ parseAndValidate scope ↔
    name ∈ scopeNames scope ∧ name ∈ supportedScopes := by
  rw [parseAndValidate_eq, mem_filter, contains_iff_mem]
  rfl

theorem scopeNames_scopesToString (recognized : Recognized names) :
    scopeNames (some (scopesToString names)) = names :=
  Text.words_intercalate fun name mem => supported_plain name (recognized.2 name mem)

theorem refreshedNames_recognized (asked row : Option String) :
    Recognized (refreshedNames asked row) :=
  effectiveScopes_recognized { realm := acme, user := alice, clientId := "", sessionId := 0,
                               scope := (given asked).or row }

theorem refreshedNames_subset (asked scope : Option String) :
    refreshedNames asked scope ⊆ scopeNames scope ↔ AsksWithin asked scope := by
  unfold refreshedNames AsksWithin
  cases parsed : parseAndValidate ((given asked).or scope) with
  | nil =>
    have unknown : ∀ name ∈ supportedScopes, name ∉ scopeNames ((given asked).or scope) := by
      intro name known named
      have mem := mem_parseAndValidate.mpr ⟨named, known⟩
      rw [parsed] at mem
      cases mem
    constructor
    · intro default_
      exact ⟨fun name known named => absurd named (unknown name known), .inr (default_ (by simp))⟩
    · rintro ⟨-, ⟨name, known, named⟩ | openid⟩
      · exact absurd named (unknown name known)
      · simpa using openid
  | cons first rest =>
    have mem_names (name : String) : name ∈ first :: rest ↔
        name ∈ scopeNames ((given asked).or scope) ∧ name ∈ supportedScopes := by
      rw [← parsed]
      exact mem_parseAndValidate
    obtain ⟨named, known⟩ := (mem_names first).mp mem_cons_self
    constructor
    · intro subset
      exact ⟨fun name known named => subset ((mem_names name).mpr ⟨named, known⟩),
        .inl ⟨first, known, named⟩⟩
    · rintro ⟨inside, -⟩ name mem
      obtain ⟨named, known⟩ := (mem_names name).mp mem
      exact inside name known named

theorem within_iff (carries : Carries names answer s) (recognized : Recognized names) :
    Within scope ⟨asked, answer, s⟩ ↔ names ⊆ scopeNames scope := by
  obtain ⟨isScope, -, raw, -, isRaw, rows⟩ := carries
  have same : scopeNames answer.scope = names := by
    rw [isScope, scopeNames_scopesToString recognized]
  constructor
  · intro inside
    exact same ▸ inside.answer
  · intro subset
    refine ⟨same.symm ▸ subset, fun other isOther row isRow hashed => ?_⟩
    cases isRaw.symm.trans isOther
    rw [rows row isRow hashed, same]
    exact subset

theorem asksWithin_of_stored (recognized : Recognized names) (subset : names ⊆ scopeNames scope) :
    refreshedNames asked (some (scopesToString names)) ⊆ scopeNames scope ↔
      AsksWithin asked scope := by
  cases isGiven : given asked with
  | some text =>
    rw [← refreshedNames_subset]
    simp only [refreshedNames, isGiven, some_or]
  | none =>
    rw [refreshedNames_stored recognized isGiven]
    obtain ⟨name, mem⟩ := List.exists_mem_of_ne_nil names recognized.1
    simp only [subset, true_iff, AsksWithin, isGiven, none_or]
    exact ⟨fun _ _ named => named, .inl ⟨name, recognized.2 name mem, subset mem⟩⟩

/-- The newest token of a chain has the scope of its answer, and the names of that are known. -/
theorem RefreshChain.holds (held : Holds origin scope start)
    (chain : RefreshChain d origin start links raw s) :
    Holds raw (newestScope scope links) s ∧ (links = [] ∨ ∃ names, Recognized names ∧
      newestScope scope links = some (scopesToString names)) := by
  induction chain with
  | origin => exact ⟨held, .inl rfl⟩
  | other _ between ih => exact ⟨ih.1.between between, ih.2⟩
  | refresh i r body _ presented done_ isNext ih =>
    obtain ⟨issue, t, -, names, between, -, -, issued⟩ := held_refresh_issues ih.1 presented done_
    obtain ⟨isScope, keys, raw, below, isRaw, rows⟩ :=
      issueTokens_carries (between.tokenKeys ih.1.keys) issued
    cases isRaw.symm.trans isNext
    exact ⟨⟨keys, below, rows⟩, .inr ⟨_, effectiveScopes_recognized issue, isScope⟩⟩

/-- No refresh of a chain widens the scope exactly when all of them ask within it. -/
theorem chain_within_iff (held : Holds origin scope start)
    (chain : RefreshChain d origin start links raw s) :
    (∀ link ∈ links, Within scope link) ↔ ∀ link ∈ links, AsksWithin link.asked scope := by
  induction chain with
  | origin => simp
  | other _ _ ih => exact ih
  | @refresh links raw next answer s s' i r body chain presented done_ isNext ih =>
    obtain ⟨newest, parsed⟩ := chain.holds held
    obtain ⟨issue, t, -, names, between, -, -, issued⟩ :=
      held_refresh_issues newest presented done_
    have carries := issueTokens_carries (between.tokenKeys newest.keys) issued
    rw [names] at carries
    have latest (earlier : ∀ link ∈ links, Within scope link) :
        Within scope ⟨body.scope, answer, s'⟩ ↔ AsksWithin body.scope scope := by
      rw [within_iff carries (refreshedNames_recognized _ _)]
      cases links with
      | nil => exact refreshedNames_subset body.scope scope
      | cons link links =>
        obtain no | ⟨names, recognized, isScope⟩ := parsed
        · cases no
        · have inside := (earlier link mem_cons_self).answer
          rw [show link.answer.scope = some (scopesToString names) from isScope,
            scopeNames_scopesToString recognized] at inside
          rw [isScope, asksWithin_of_stored recognized inside]
    rw [forall_mem_cons, forall_mem_cons]
    constructor
    · rintro ⟨here, earlier⟩
      exact ⟨(latest earlier).mp here, ih.mp earlier⟩
    · rintro ⟨here, earlier⟩
      exact ⟨(latest (ih.mpr earlier)).mpr here, ih.mpr earlier⟩

end

section Example

def refreshBody (scope : Option String) : Body where
  grant_type := some "refresh_token"
  client_id := some "app"
  refresh_token := some 24
  scope := scope

/-- The store of the exchange, where the client may refresh its tokens. -/
def openidStore : Store :=
  { exchangedStore [⟨3, 8⟩] with
    clients := (exchangedStore [⟨3, 8⟩]).clients.map fun client =>
      { client with grantTypes := ["authorization_code", "refresh_token"] } }

def refreshedStore (scope : Option String) : Store :=
  ((handleRefreshTokenGrant .transparent 1 acme (refreshBody scope)).run openidStore).2

theorem openidStore_holds : Holds 24 (some "openid") openidStore := by
  have rows : ∀ row ∈ openidStore.refreshTokens,
      row.tokenHash = sha256 24 ∧ row.scope = some "openid" := by
    decide +kernel
  exact ⟨fun row isRow => ⟨24, by decide +kernel, (rows row isRow).1⟩, by decide +kernel,
    fun row isRow _ => (rows row isRow).2⟩

/-- One refresh, and the scope of its answer. -/
def Refreshed (asked : Option String) (answer : TokenResponse) (scope : String) : Prop :=
  answer.scope = some scope ∧ ∃ next, RefreshChain .transparent 24 openidStore
    [⟨asked, answer, refreshedStore asked⟩] next (refreshedStore asked)

theorem refreshed (asked : Option String) (isAsked : asked = none ∨ asked = some "openid email") :
    ∃ answer, Refreshed asked answer (asked.getD "openid") := by
  obtain ⟨answer, next, done_, isNext, isScope⟩ : ∃ answer next,
      (handleRefreshTokenGrant .transparent 1 acme (refreshBody asked)).run openidStore =
        (.ok answer, refreshedStore asked) ∧
      answer.refreshToken = some next ∧ answer.scope = some (asked.getD "openid") := by
    rcases isAsked with rfl | rfl <;> exact ⟨_, _, rfl, rfl, rfl⟩
  exact ⟨answer, isScope, next, .refresh 1 acme (refreshBody asked) .origin rfl done_ isNext⟩

/-- Without a scope, the new tokens have the old one. -/
theorem unscoped_within : ∃ answer, Refreshed none answer "openid" ∧
    Within (some "openid") ⟨none, answer, refreshedStore none⟩ := by
  obtain ⟨answer, isScope, next, chain⟩ := refreshed none (.inl rfl)
  refine ⟨answer, ⟨isScope, next, chain⟩,
    (chain_within_iff openidStore_holds chain).mpr ?_ _ (List.mem_singleton_self _)⟩
  intro link isLink
  rw [mem_singleton.mp isLink]
  exact ⟨fun _ _ named => named, .inr (by decide)⟩

/-- A token for `openid` is refreshed to one for the address as well. -/
theorem refresh_widens : Holds 24 (some "openid") openidStore ∧ ∃ answer,
    Refreshed (some "openid email") answer "openid email" ∧
    ¬Within (some "openid") ⟨some "openid email", answer, refreshedStore (some "openid email")⟩ := by
  obtain ⟨answer, isScope, chain⟩ := refreshed (some "openid email") (.inr rfl)
  refine ⟨openidStore_holds, answer, ⟨isScope, chain⟩, fun inside => ?_⟩
  have wider := inside.answer
  rw [show answer.scope = some "openid email" from isScope] at wider
  have added : "email" ∈ scopeNames (some "openid") := wider (by decide)
  revert added
  decide

end Example

end Idenplane.Auth.GrantedScopes
