import Idenplane.Http.Guards
import Idenplane.Http.Controllers

/-! # Who reaches an admin handler

`AdminApiKeyGuard` looks at the spelling of the request path before it looks at
any credential: outside `/admin` it lets every request through.  The router does
not care about that spelling.  So a route that declares the guard is protected
exactly for the requests whose path, as the client spelled it, lies under
`/admin`, unless the handler also asks for admin roles: `AdminRolesGuard` refuses
a request on which no admin was recognised.
-/

namespace Idenplane.Http

open RegistrationController

/-- The request carries an accepted admin token, or the configured API key. -/
def Accepted {V : Type} (server : Server V) (s : Store) (req : Request) : Prop :=
  (∃ token user, req.authorization = some ("Bearer ".toList ++ token) ∧
    server.validateAdminToken s token = some user) ∨
  ∃ key, server.adminApiKey = some key ∧ key ≠ [] ∧ req.adminApiKey = some key

/-- On every server the handler of the route runs only for accepted requests, and
every other request is refused and leaves the database as it was. -/
def DemandsCredentials (route : Route) (params : Params) (req : Request) : Prop :=
  ∀ {V : Type} (server : Server V) (handler : Handler) (w : World V),
    ((serve server route req params handler w).1 = .handled → Accepted server w.store req) ∧
    (¬ Accepted server w.store req →
      (∃ error, (serve server route req params handler w).1 = .refused error) ∧
        (serve server route req params handler w).2.store = w.store)

section OneGuard

variable {V : Type} {sv : Server V} {route : Route} {req : Request}
  {ps : Params} {guard : Guard} {ctx ctx' : Context} {w w' : World V}

theorem compareApiKey_ok {provided expected : List Char}
    (passed : compareApiKey provided expected = .ok ()) : provided = expected := by
  unfold compareApiKey timingSafeEqual at passed
  split at passed
  · split at passed
    · cases passed
    · rename_i equal
      split at equal
      · simpa using equal
      · cases equal
    · cases passed
  · cases passed

theorem checkApiKey_store (ctx : Context) (w : World V) :
    (checkApiKey sv req ctx w).2.store = w.store := by
  simp only [checkApiKey]
  repeat' split
  all_goals rfl

theorem checkApiKey_ok (passed : checkApiKey sv req ctx w = (.ok ctx', w')) :
    Accepted sv w.store req := by
  unfold checkApiKey at passed
  split at passed
  · rename_i expectedKey providedApiKey configured provided
    split at passed
    · cases passed
    · rename_i nonempty
      simp only at passed
      split at passed
      · cases passed
      · split at passed
        · cases passed
        · rename_i equal
          have same := compareApiKey_ok equal
          subst same
          exact .inr ⟨_, configured, by simpa using nonempty, provided⟩
  · cases passed

theorem bearerToken_some {token : List Char} (h : bearerToken req = some token) :
    req.authorization = some ("Bearer ".toList ++ token) := by
  unfold bearerToken at h
  split at h
  · rename_i header present
    split at h
    · rename_i carries
      obtain ⟨rest, rfl⟩ := List.isPrefixOf_iff_prefix.mp carries
      have same : rest = token := by simpa using h
      rw [present, same]
    · cases h
  · cases h

/-- The guard passes for one of three reasons, and only the last one leaves an
admin on the request. -/
theorem adminApiKeyGuard_ok (passed : adminApiKeyGuard sv route req ctx w = (.ok ctx', w')) :
    (route.isPublic = true ∨ isAdminRoute req.path = false) ∧ ctx' = ctx ∨
      Accepted sv w.store req := by
  unfold adminApiKeyGuard at passed
  split at passed
  · rename_i isPublic
    cases passed
    exact .inl ⟨.inl isPublic, rfl⟩
  · split at passed
    · rename_i out
      cases passed
      exact .inl ⟨.inr (by simpa using out), rfl⟩
    · split at passed
      · rename_i u accepted
        obtain ⟨tok, bearer, valid⟩ := bind_eq_some_iff.mp accepted
        exact .inr (.inl ⟨tok, u, bearerToken_some bearer, valid⟩)
      · exact .inr (checkApiKey_ok passed)

theorem adminRolesGuard_ok (passed : adminRolesGuard route ctx = .ok ctx') :
    ctx' = ctx ∧ (route.demandsRoles = true → ctx.adminUser.isSome) := by
  unfold adminRolesGuard at passed
  unfold Route.demandsRoles
  split at passed
  · rename_i undeclared
    cases passed
    simp [undeclared]
  · rename_i options declared
    split at passed
    · rename_i none_
      cases passed
      simp [declared, none_]
    · split at passed
      · cases passed
      · rename_i adminUser recognised
        have same : ctx' = ctx := by
          split at passed <;> split at passed <;> cases passed <;> rfl
        exact ⟨same, by simp [recognised]⟩

theorem realmGuard_ok (passed : realmGuard sv req ps ctx w = (.ok ctx', w')) :
    ctx'.adminUser = ctx.adminUser := by
  unfold realmGuard at passed
  repeat' split at passed
  all_goals first | (cases passed; done) | (cases passed; rfl)

theorem runGuard_store (guard : Guard) (ctx : Context) (w : World V) :
    (runGuard sv route req ps guard ctx w).2.store = w.store := by
  cases guard with
  | adminApiKey =>
    simp only [runGuard, adminApiKeyGuard]
    repeat' split
    all_goals first | rfl | exact checkApiKey_store ctx w
  | adminRoles => rfl
  | realm =>
    simp only [runGuard, realmGuard, findRealmByName]
    repeat' split
    all_goals simp_all
    all_goals grind
  | throttler | rateLimit | upgradeEnabled =>
    simp only [runGuard]
    split <;> rfl

theorem runGuard_recognises (known : ctx.adminUser.isSome → Accepted sv w.store req)
    (passed : runGuard sv route req ps guard ctx w = (.ok ctx', w')) :
    ctx'.adminUser.isSome → Accepted sv w.store req := by
  intro recognised
  cases guard with
  | adminApiKey =>
    rcases adminApiKeyGuard_ok passed with ⟨-, rfl⟩ | accepted
    · exact known recognised
    · exact accepted
  | adminRoles =>
    have ok : adminRolesGuard route ctx = .ok ctx' := congrArg Prod.fst passed
    exact known ((adminRolesGuard_ok ok).1 ▸ recognised)
  | realm => exact known (realmGuard_ok passed ▸ recognised)
  | throttler | rateLimit | upgradeEnabled =>
    simp only [runGuard] at passed
    split at passed
    · cases passed
    · cases passed
      exact known recognised

end OneGuard

section AllGuards

variable {V : Type} {sv : Server V} {route : Route} {req : Request} {ps : Params} {w w' : World V}

theorem runGuards_store (guards : List Guard) (ctx : Context) (w : World V) :
    (runGuards sv route req ps guards ctx w).2.store = w.store := by
  induction guards generalizing ctx w with
  | nil => rfl
  | cons guard rest ih =>
    have kept : (runGuard sv route req ps guard ctx w).2.store =
        w.store := runGuard_store guard ctx w
    simp only [runGuards]
    split
    · rename_i first
      rw [first] at kept
      exact kept
    · rename_i first
      rw [first] at kept
      rw [ih]
      exact kept

/-- The guard of a protected request accepted it. -/
theorem runGuards_accepted {guards : List Guard} {ctx ctx' : Context}
    (known : ctx.adminUser.isSome → Accepted sv w.store req)
    (passed : runGuards sv route req ps guards ctx w = (.ok ctx', w'))
    (demanded : route.isPublic = false ∧ isAdminRoute req.path = true ∧
        Guard.adminApiKey ∈ guards ∨ route.demandsRoles = true ∧ Guard.adminRoles ∈ guards) :
    Accepted sv w.store req := by
  induction guards generalizing ctx w with
  | nil => simp at demanded
  | cons guard rest ih =>
    simp only [runGuards] at passed
    split at passed
    · cases passed
    · rename_i middle between first
      have kept : between.store = w.store := by
        rw [← runGuard_store guard ctx w, first]
      have recognised := runGuard_recognises known first
      rw [← kept] at recognised
      have later : (route.isPublic = false ∧ isAdminRoute req.path = true ∧
          .adminApiKey ∈ rest ∨ route.demandsRoles = true ∧ .adminRoles ∈ rest) →
          Accepted sv w.store req := fun inRest => kept ▸ ih recognised passed inRest
      -- The demanding guard is this one, or it comes later.
      rcases demanded with ⟨closed, admin, mem⟩ | ⟨rs, mem⟩
      · rcases mem_cons.mp mem with rfl | mem
        · rcases adminApiKeyGuard_ok first with ⟨open_ | out, -⟩ | accepted
          · simp [closed] at open_
          · simp [admin] at out
          · exact accepted
        · exact later (.inl ⟨closed, admin, mem⟩)
      · rcases mem_cons.mp mem with rfl | mem
        · have ok : adminRolesGuard route ctx = .ok middle := congrArg Prod.fst first
          exact known ((adminRolesGuard_ok ok).2 rs)
        · exact later (.inr ⟨rs, mem⟩)

def bareServer : Server Unit where
  adminApiKey := none
  validateAdminToken := fun _ _ => none
  checkAdminApiKeyLimit := fun _ _ => (true, ())
  cachedRealm := fun _ _ => none
  cacheRealm := fun _ _ => ()
  gate := fun _ _ _ => (none, ())

def worldOf (params : Params) : World Unit where
  store := { realms := match (params.lookup "realmName").or (params.lookup "realm") with
    | some name => [{ id := 0, name := String.ofList name }]
    | none => [] }
  volatile := ()

theorem not_accepted_bareServer (s : Store) : ¬ Accepted bareServer s req := by
  rintro (⟨_, _, _, valid⟩ | ⟨_, configured, _⟩)
  · cases valid
  · cases configured

theorem runGuard_bareServer {guard : Guard} {ctx : Context}
    (outside : isAdminRoute req.path = false)
    (demandsNone : guard = .adminRoles → route.demandsRoles = false) :
    ∃ ctx', runGuard bareServer route req ps guard ctx (worldOf ps) = (.ok ctx', worldOf ps) := by
  cases guard with
  | adminApiKey =>
    refine ⟨ctx, ?_⟩
    simp only [runGuard, adminApiKeyGuard, outside]
    split <;> rfl
  | adminRoles =>
    have none_ := demandsNone rfl
    refine ⟨ctx, ?_⟩
    unfold Route.demandsRoles at none_
    simp only [runGuard, adminRolesGuard]
    split
    · rfl
    · rename_i options declared
      rw [declared] at none_
      simp only [not_eq_false'] at none_
      simp [none_]
  | realm =>
    simp only [runGuard, realmGuard, findRealmByName, bareServer, worldOf]
    split
    · exact ⟨ctx, rfl⟩
    · exact ⟨ctx, rfl⟩
    · rename_i name _ named
      simp [named]
  | throttler | rateLimit | upgradeEnabled => exact ⟨ctx, rfl⟩

theorem runGuards_bareServer {guards : List Guard} (ctx : Context)
    (out : isAdminRoute req.path = false)
    (demandsNone : .adminRoles ∈ guards → route.demandsRoles = false) :
    ∃ ctx', runGuards bareServer route req ps guards ctx (worldOf ps) = (.ok ctx', worldOf ps) := by
  induction guards generalizing ctx with
  | nil => exact ⟨ctx, rfl⟩
  | cons guard rest ih =>
    have passes : ∃ middle, runGuard bareServer route req ps guard ctx
        (worldOf ps) = (.ok middle, worldOf ps) :=
      runGuard_bareServer out (fun same => demandsNone (by simp [same]))
    obtain ⟨middle, first⟩ := passes
    simp only [runGuards, first]
    exact ih middle (fun mem => demandsNone (.tail _ mem))

end AllGuards

/-- `AdminRolesGuard` stands in front of the handler and has roles to ask for. -/
def Route.ChecksAdminRoles (route : Route) : Prop :=
  Guard.adminRoles ∈ route.guards ∧ route.demandsRoles = true

/-- A route demands credentials of a request exactly when the path is spelled under `/admin`, or
the handler checks admin roles; whether it declares `AdminApiKeyGuard` makes no difference. -/
theorem guarded_route_demands_credentials_iff (route : Route) (ps : Params) (req : Request)
    (notPublic : route.isPublic = false) : DemandsCredentials route ps req ↔
      isAdminRoute req.path = true ∨ route.ChecksAdminRoles := by
  constructor
  · intro demands
    by_contra neither
    rw [not_or, not_eq_true] at neither
    obtain ⟨out, unchecked⟩ := neither
    have demandsNone : .adminRoles ∈ route.guards → route.demandsRoles = false := by
      intro mem
      by_contra asked
      exact unchecked ⟨mem, by simpa using asked⟩
    have passes : ∃ ctx, runGuards bareServer route req ps route.guards {}
        (worldOf ps) = (.ok ctx, worldOf ps) :=
      runGuards_bareServer {} out demandsNone
    obtain ⟨ctx, passed⟩ := passes
    have handled : (serve bareServer route req ps (fun _ _ s => s) (worldOf ps)).1 = .handled := by
      simp only [serve, passed]
    exact not_accepted_bareServer _ ((demands bareServer _ (worldOf ps)).1 handled)
  · intro cond V sv handler w
    have unknown : ({} : Context).adminUser.isSome → Accepted sv w.store req := by
      simp
    have accepted : ∀ ctx' w', runGuards sv route req ps route.guards {} w = (.ok ctx', w') →
        Accepted sv w.store req := by
      intro ctx' w' passed
      apply runGuards_accepted unknown passed
      rcases cond with admin | ⟨mem, rs⟩
      · exact .inl ⟨notPublic, admin, by simp [Route.guards, globalGuards]⟩
      · exact .inr ⟨rs, mem⟩
    have kept : (runGuards sv route req ps route.guards {} w).2.store =
        w.store := runGuards_store route.guards {} w
    unfold serve
    rcases passed : runGuards sv route req ps route.guards {} w with ⟨res, after⟩
    rw [passed] at kept
    cases res with
    | error error =>
      refine ⟨fun handled => ?_, fun _ => ⟨⟨error, rfl⟩, kept⟩⟩
      cases handled
    | ok ctx' =>
      have ok := accepted ctx' after passed
      exact ⟨fun _ => ok, fun refused => absurd ok refused⟩

/-- The guard protects a roles request that is spelled as documented. -/
theorem roles_request_demands_credentials : DemandsCredentials RolesController.assignRealmRoles
      [("realmName", "acme".toList), ("userId", "42".toList)]
      { method := .post, path := "/admin/realms/acme/users/42/role-mappings/realm".toList } :=
  (guarded_route_demands_credentials_iff RolesController.assignRealmRoles
    [("realmName", "acme".toList), ("userId", "42".toList)]
    { method := .post, path := "/admin/realms/acme/users/42/role-mappings/realm".toList }
    rfl).mpr (.inl (by decide))

/-- A registration is approved for a request without any credentials. -/
theorem approve_registration_without_credentials : ∃ ps, dispatch some routes .post
        "/realms/acme/registration/approve/42".toList = some (approveRegistration, ps) ∧
      approveRegistration.DeclaresAdminApiKeyGuard ∧
      approveRegistration.isPublic = false ∧
      ¬ DemandsCredentials approveRegistration ps
        { method := .post, path := "/realms/acme/registration/approve/42".toList } := by
  refine ⟨[("realmName", "acme".toList), ("userId", "42".toList)], by decide, by decide, rfl, ?_⟩
  intro demands
  have handled := (demands bareServer (fun _ _ s => s)
    (worldOf [("realmName", "acme".toList)])).1 rfl
  exact not_accepted_bareServer _ handled

end Idenplane.Http
