import Idenplane.Migration.Reports

/-! # A report is truthful when nothing clashes

The loops of a real run are followed beside those of a dry run.  Groups and users can abort the
transaction; the counts then differ from the forecast, or from the rows.
-/

namespace Idenplane.Migration

open Atomic Transaction Merging Realms.Transfer List Nat Entity Deps
open Merging.Plan (news)

variable {s t u v d e f y j x : Session} {targetRealm : Option String}

section Course

variable {deps : Deps} {data : KeycloakRealmExport} {name : String} {realmId : Option Nat} {r : Nat}
  {world : World}

def importRest (deps : Deps) (data : KeycloakRealmExport) (target : Target) : Import Unit := do
  importClientScopes data target
  importClients deps data target
  importUsers deps data target
  importIdentityProviders data target

theorem run_contents {tgt : Target} (rs : (importRoles data tgt).run s = (.ok (), t))
    (gs : (importGroups tgt none data.groups).run t = (.ok (), u))
    (rest : (importRest deps data tgt).run u = (.ok (), v)) :
    (importContents deps data tgt).run s = (.ok (), v) :=
  (run_bind_ok rs).trans ((run_bind_ok gs).trans rest)

/-- Roles and groups, in a real run from `s` and a dry run from `d`. -/
structure Early (data : KeycloakRealmExport) (realmId : Option Nat) (r : Nat) (world : World)
    (s t u d e f : Session) : Prop where
  runRoles : (importRoles data (.real r)).run s = (.ok (), t)
  dryRoles : (importRoles data (.dryRun realmId)).run d = (.ok (), e)
  runGroups : (importGroups (.real r) none data.groups).run t = (.ok (), u)
  dryGroups : (importGroups (.dryRun realmId) none data.groups).run e = (.ok (), f)
  roles : Stored rolesTabled realmId world r (importedRoles data) s t e
  groups : Merged r t.data (missingAmong (finder realmId world) (some none) data.groups)
    (fun tally => foreseenAmong (finder realmId world) none tally data.groups)
    (fun later => PresentAmong (finder (some r) later) none data.groups) t u
  foreseenRoles : Foreseen .roles d e
  foreseenGroups : Foreseen .groups e f
  counted : f.notes.summary .groups =
    foreseenAmong (finder realmId world) none (e.notes.summary .groups) data.groups

theorem early (sound : Sound world) (entered : Entered name realmId r world s d) :
    ∃ t u e f, Early data realmId r world s t u d e f := by
  have sameRoles : s.data.db.roles = world.db.roles := by rw [entered.frame]
  have sameGroups : s.data.db.groups = world.db.groups := by rw [entered.frame]
  obtain ⟨t, e, runRoles, dryRoles, foreseenRoles, rs⟩ :=
    rolesTabled.stage rolesKind_plain (fun _ => rfl) r (importedRoles data) entered.live
      (fun role => hasRole_agrees sound entered.place role.name sameRoles)
      entered.dryLive entered.dryData (congrFun entered.summary .roles)
  have framed : t.data.db.groups = world.db.groups := by
    rw [rs.frame]
    exact sameGroups
  have below : GroupsBelow t.data := by
    intro row mem
    rw [framed] at mem
    have later := le_trans entered.supply rs.supply
    obtain ⟨under, parents⟩ := sound.groupIds row mem
    exact ⟨lt_of_lt_of_le under later, fun p isParent => lt_of_lt_of_le (parents p isParent) later⟩
  obtain ⟨u, f, runGroups, dryGroups, foreseenGroups, cnt, gs⟩ :=
    groups_stage r data.groups rs.live below (finder_agrees sound entered.place framed)
      foreseenRoles.live (foreseenRoles.data.trans entered.dryData)
  exact ⟨t, u, e, f, runRoles, dryRoles, runGroups, dryGroups, rs, gs, foreseenRoles,
    foreseenGroups, cnt⟩

theorem Early.framed (early : Early data realmId r world s t u d e f)
    (entered : Entered name realmId r world s d) (live : u.aborted = false) :
    u.data.db = { world.db with
      realms := s.data.db.realms, roles := t.data.db.roles, groups := u.data.db.groups } := by
  obtain ⟨rows, frame, -⟩ := (early.groups.grown live).rows
  rw [frame, early.roles.frame, entered.frame]
  rfl

/-- The rest of both runs, after groups that did not abort the transaction. -/
structure Late (deps : Deps) (data : KeycloakRealmExport) (realmId : Option Nat) (r : Nat)
    (world : World) (u v w x y f g h i j : Session) : Prop where
  run : (importRest deps data (.real r)).run u = (.ok (), y)
  dry : (importRest deps data (.dryRun realmId)).run f = (.ok (), j)
  scopes : Stored scopesTabled realmId world r data.clientScopes u v g
  clients : Stored (clientsTabled deps) realmId world r (importedClients data) v w h
  users : UsersStored realmId world r data.users w x i
  broken : x.aborted = true → y.aborted = true
  providersOnly : Only .identityProviders x y
  providers : x.aborted = false →
    Stored providersTabled realmId world r data.identityProviders x y j
  foreseenScopes : Foreseen .scopes f g
  foreseenClients : Foreseen .clients g h
  foreseenUsers : Foreseen .users h i
  foreseenProviders : Foreseen .identityProviders i j

theorem Only.same {entity other : Entity} (only : Only entity s t)
    (ne : other ≠ entity) : t.notes.summary other = s.notes.summary other :=
  only other ne

theorem late (deps : Deps) (sound : Sound world) (entered : Entered name realmId r world s d)
    (early : Early data realmId r world s t u d e f) (live : u.aborted = false) :
    ∃ v w x y g h i j, Late deps data realmId r world u v w x y f g h i j := by
  have frame := early.framed entered live
  have grown := early.groups.grown live
  have supply : world.supply ≤ u.data.supply :=
    le_trans entered.supply (le_trans early.roles.supply grown.supply)
  have dryData := (early.foreseenGroups.data.trans early.foreseenRoles.data).trans entered.dryData
  -- the counts of a later kind are those that the run began with
  have same (entity : Entity) (notRoles : entity ≠ .roles) (notGroups : entity ≠ .groups) :
      u.notes.summary entity = f.notes.summary entity := by
    rw [early.groups.only.same notGroups, early.roles.only.same notRoles,
      early.foreseenGroups.only.same notGroups, early.foreseenRoles.only.same notRoles,
      entered.summary]
  obtain ⟨v, g, runScopes, dryScopes, foreseenScopes, scs⟩ :=
    scopesTabled.stage scopesKind_plain (fun _ => rfl) r data.clientScopes live
      (fun sc => hasScope_agrees sound entered.place sc.name (by rw [frame]))
      early.foreseenGroups.live dryData (same .scopes (by decide) (by decide))
  have frameScopes : v.data.db = { u.data.db with clientScopes := v.data.db.clientScopes } :=
    scs.frame
  obtain ⟨w, h, runClients, dryClients, foreseenClients, clients⟩ :=
    (clientsTabled deps).stage (clientsKind_plain deps) (fun _ => rfl) r (importedClients data)
      scs.live
      (fun c => hasClient_agrees sound entered.place c.clientId (by rw [frameScopes, frame]))
      foreseenScopes.live (foreseenScopes.data.trans dryData)
      (by
        have here := same .clients (by decide) (by decide)
        rwa [← scs.only.same (by decide), ← foreseenScopes.only.same (by decide)] at here)
  have onlyClients : Only .clients v w := clients.only
  have dryOnlyClients : Only .clients g h := foreseenClients.only
  have frameClients : w.data.db = { v.data.db with clients := w.data.db.clients } := clients.frame
  have below : LinksBelow w.data := by
    intro link linked
    rw [frameClients, frameScopes, frame] at linked
    exact lt_of_lt_of_le (sound.links link linked)
      (le_trans supply (le_trans scs.supply clients.supply))
  obtain ⟨x, i, runUsers, dryUsers, foreseenUsers, us⟩ :=
    users_stage deps r data.users clients.live below
      (fun name => hasUser_agrees sound entered.place name
        (by rw [frameClients, frameScopes, frame]))
      foreseenClients.live (foreseenClients.data.trans (foreseenScopes.data.trans dryData))
      (by
        have here := same .users (by decide) (by decide)
        rwa [← scs.only.same (by decide), ← foreseenScopes.only.same (by decide),
          ← onlyClients.same (by decide), ← dryOnlyClients.same (by decide)] at here)
  obtain ⟨y, runProviders, merged, only⟩ :=
    providersKind_plain.loop_real r data.identityProviders x
  obtain ⟨notes, dryProviders, -, dryOnly⟩ :=
    providersKind_plain.loop_dry realmId r data.identityProviders foreseenUsers.live
  refine ⟨v, w, x, y, g, h, i, { i with notes := notes }, ?_, ?_, scs, clients, us, ?_, only, ?_, foreseenScopes,
    foreseenClients, foreseenUsers, foreseenUsers.live, rfl, dryOnly⟩
  · exact (run_bind_ok runScopes).trans ((run_bind_ok runClients).trans
      ((run_bind_ok runUsers).trans runProviders))
  · exact (run_bind_ok dryScopes).trans ((run_bind_ok dryClients).trans
      ((run_bind_ok dryUsers).trans dryProviders))
  · intro aborted
    have broken : (ledger .identityProviders y).broken = true := by
      change ledger .identityProviders y = _ at merged
      rw [merged]
      have here : ledger .identityProviders x =
          ⟨x.data, true, x.notes.summary .identityProviders⟩ := by simp [ledger, aborted]
      rw [show ledger providersKind.entity x = _ from here]
      exact (Plan.merge_broken _ _ _ _).1
    exact broken
  · intro intact
    have frameUsers := us.frame intact
    obtain ⟨y', j', ran', dryRan', -, row⟩ :=
      providersTabled.stage providersKind_plain (fun _ => rfl) r data.identityProviders intact
        (fun idp => hasIdentityProvider_agrees sound entered.place idp.alias_
          (by rw [frameUsers, frameClients, frameScopes, frame]))
        foreseenUsers.live
        (foreseenUsers.data.trans (foreseenClients.data.trans (foreseenScopes.data.trans dryData)))
        (by
          have here := same .identityProviders (by decide) (by decide)
          rwa [← scs.only.same (by decide), ← foreseenScopes.only.same (by decide),
            ← onlyClients.same (by decide), ← dryOnlyClients.same (by decide),
            ← us.only.same (by decide), ← foreseenUsers.only.same (by decide)] at here)
    rw [runProviders] at ran'
    rw [dryProviders] at dryRan'
    cases ran'
    cases dryRan'
    exact row

theorem rest_runs (deps : Deps) (data : KeycloakRealmExport) (realmId : Option Nat) (r : Nat)
    (u : Session) (dryLive : f.aborted = false) :
    ∃ y j, (importRest deps data (.real r)).run u = (.ok (), y) ∧
      (importRest deps data (.dryRun realmId)).run f = (.ok (), j) ∧
      j.aborted = false ∧ j.data = f.data ∧ y.notes.summary .groups = u.notes.summary .groups ∧
      j.notes.summary .groups = f.notes.summary .groups := by
  obtain ⟨v, scs, -, onlyScopes⟩ := scopesKind_plain.loop_real r data.clientScopes u
  obtain ⟨w, cs, -, onlyClients⟩ :=
    (clientsKind_plain deps).loop_real r (importedClients data) v
  obtain ⟨x, us, -, onlyUsers⟩ := (usersKind_plain deps).loop_real r data.users w
  obtain ⟨y, providers, -, onlyProviders⟩ :=
    providersKind_plain.loop_real r data.identityProviders x
  obtain ⟨g, dryScopes, -, sameScopes⟩ :=
    scopesKind_plain.loop_dry realmId r data.clientScopes dryLive
  obtain ⟨h, dryClients, -, sameClients⟩ := (clientsKind_plain deps).loop_dry realmId r
    (importedClients data) (s := { f with notes := g }) dryLive
  obtain ⟨i, dryUsers, -, sameUsers⟩ := (usersKind_plain deps).loop_dry realmId r data.users
    (s := { f with notes := h }) dryLive
  obtain ⟨j, dryProviders, -, sameProviders⟩ := providersKind_plain.loop_dry realmId r
    data.identityProviders (s := { f with notes := i }) dryLive
  refine ⟨y, { f with notes := j }, ?_, ?_, dryLive, rfl, ?_, ?_⟩
  · exact (run_bind_ok scs).trans ((run_bind_ok cs).trans ((run_bind_ok us).trans providers))
  · exact (run_bind_ok dryScopes).trans ((run_bind_ok dryClients).trans
      ((run_bind_ok dryUsers).trans dryProviders))
  · exact (onlyProviders .groups noConfusion).trans ((onlyUsers .groups noConfusion).trans
        ((onlyClients .groups noConfusion).trans (onlyScopes .groups noConfusion)))
  · exact (sameProviders .groups noConfusion).trans ((sameUsers .groups noConfusion).trans
        ((sameClients .groups noConfusion).trans (sameScopes .groups noConfusion)))

theorem realRun_eq (targetRealm : Option String)
    (entered : (importRealmEntity data (targetRealm.getD data.realm) false).run
      (start false world) = (.ok (.real r), s))
    (contents : (importContents deps data (.real r)).run s = (.ok (), y)) :
    realRun deps data targetRealm world = (y.notes, y.committed world) := by
  have ran : (importEverything deps data (targetRealm.getD data.realm) false).run
      (start false world) = (.ok (), y) := by
    rw [importEverything, run_attempt_bind, entered]
    exact contents
  unfold realRun importRealm realmName
  simp only
  rw [show ({ data := world, notes := { dryRun := false } } : Session) = start false world from rfl,
    ran]

theorem dryRun_eq (targetRealm : Option String)
    (entered : (importRealmEntity data (targetRealm.getD data.realm) true).run
      (start true world) = (.ok (.dryRun realmId), d))
    (contents : (importContents deps data (.dryRun realmId)).run d = (.ok (), j))
    (live : j.aborted = false) : dryRun deps data targetRealm world = (j.notes, j.data) := by
  have ran : (importEverything deps data (targetRealm.getD data.realm) true).run
      (start true world) = (.ok (), j) := by
    rw [importEverything, run_attempt_bind, entered]
    exact contents
  unfold dryRun importRealm realmName
  simp only
  rw [show ({ data := world, notes := { dryRun := true } } : Session) = start true world from rfl,
    ran]
  simp only [committed, live, false_eq_true, if_false]

def RoleIds (world : World) : Prop :=
  (world.db.roles.map (·.id)).Nodup ∧ ∀ row ∈ world.db.roles, row.id < world.supply

theorem roleIds_kept (r : Nat) (xs : List KeycloakRole)
    (merged : ledger .roles t = xs.foldl (rolesKind.plan r).merge (ledger .roles s))
    (ids : RoleIds s.data) : RoleIds t.data := by
  have kept := Plan.merge_keeps (rolesKind.plan r) (fun w role holds => ?_) (ledger .roles s) ids xs
  · rw [← merged] at kept
    exact kept
  · rw [rolesKind_create]
    obtain ⟨distinct, below⟩ := holds
    constructor
    · simp only [roleAdded, map_append, map_cons, map_nil]
      rw [nodup_append]
      refine ⟨distinct, nodup_singleton _, ?_⟩
      intro id mem other isNew same
      obtain ⟨row, isRow, rfl⟩ := mem_map.mp mem
      rw [mem_singleton.mp isNew] at same
      exact Nat.ne_of_lt (below row isRow) same
    · intro row mem
      rcases mem_append.mp mem with old | new
      · exact lt_succ_of_lt (below row old)
      · rw [mem_singleton.mp new]
        exact lt_succ_self _

theorem findRole_some {name : String} {id : Nat} (hit : findRole r name world = some id) :
    ∃ row ∈ world.db.roles, row.id = id ∧ row.name = name := by
  obtain ⟨row, isFirst, same⟩ := map_eq_some_iff.mp hit
  have holds := find?_some isFirst
  simp only [and_eq_true, decide_eq_true_eq] at holds
  exact ⟨row, mem_of_find?_eq_some isFirst, same, holds.1.2⟩

theorem findRole_isSome (name : String) :
    (findRole r name world).isSome = hasRole (some r) name world := by
  rw [findRole, Option.isSome_map, Bool.eq_iff_iff, find?_isSome]
  simp only [hasRole, any_eq_true, some.injEq]

theorem rolesNamed_nodup (ids : (world.db.roles.map (·.id)).Nodup) (ns : List String) :
    (rolesNamed r world ns).Nodup ↔ (ns.filter fun name => hasRole (some r) name world).Nodup := by
  rw [rolesNamed, Nodup, pairwise_filterMap, Nodup, pairwise_filter]
  apply Pairwise.iff
  intro name other
  rw [← findRole_isSome, ← findRole_isSome]
  constructor
  · rintro apart here there rfl
    obtain ⟨id, hit⟩ := isSome_iff_exists.mp here
    exact apart id hit id hit rfl
  · rintro apart id hit _ hit' rfl
    obtain ⟨row, mem, isId, isName⟩ := findRole_some hit
    obtain ⟨row', mem', isId', isName'⟩ := findRole_some hit'
    have same : row = row' := inj_on_of_nodup_map ids mem mem' (isId.trans isId'.symm)
    refine apart (by rw [hit]; rfl) (by rw [hit']; rfl) ?_
    rw [← isName, ← isName', same]

theorem news_mem {α : Type} {known : α → Bool} {xs : List α} {item : α} :
    item ∈ news known xs ↔ item ∈ xs ∧ known item = false := by
  simp [news]

theorem hasRole_later (rs : Stored rolesTabled realmId world r (importedRoles data) s t e)
    (distinct : Distinct rolesTabled realmId world (importedRoles data)) {w : World}
    (same : w.db.roles = t.data.db.roles) (name : String) :
    hasRole (some r) name w = isRealmRole data realmId world name := by
  have knows := (rs.fits distinct).2.2.2 { name := name }
  have here : hasRole (some r) name w = hasRole (some r) name t.data := by
    unfold hasRole
    rw [same]
  change hasRole (some r) name t.data = true ↔ hasRole realmId name world = true ∨
    ∃ other ∈ news (fun role => hasRole realmId role.name world) (importedRoles data),
      other.name = name at knows
  rw [here, isRealmRole, Bool.eq_iff_iff, knows, or_eq_true, any_eq_true]
  constructor
  · rintro (known | ⟨other, isNew, rfl⟩)
    · exact .inl known
    · exact .inr ⟨other, (news_mem.mp isNew).1, by simp⟩
  · rintro (known | ⟨other, mem, named⟩)
    · exact .inl known
    · have named : other.name = name := by simpa using named
      cases seen : hasRole realmId name world with
      | true => exact .inl rfl
      | false => exact .inr ⟨other, news_mem.mpr ⟨mem, by rw [named, seen]⟩, named⟩

theorem userFits_iff (sound : Sound world)
    (place : realmId = some r ∨ realmId = none ∧ world.supply ≤ r) {w : World}
    (sameUsers : w.db.users = world.db.users) (ids : (w.db.roles.map (·.id)).Nodup)
    (rs : ∀ name, hasRole (some r) name w = isRealmRole data realmId world name)
    (user : KeycloakUser) : UserFits r w user ↔ UserFree data realmId world user := by
  have ours (row : User) (mem : row ∈ world.db.users) : row.realmId = r ↔
      some row.realmId = realmId := by
    rw [sameRealm place (sound.users row mem), some.injEq]
  constructor
  · rintro ⟨email, distinct⟩
    rw [rolesNamed_nodup ids] at distinct
    simp only [rs] at distinct
    rw [sameUsers] at email
    exact ⟨fun row mem own => email row mem ((ours row mem).mpr own), distinct⟩
  · rintro ⟨email, distinct⟩
    constructor
    · intro row mem own
      rw [sameUsers] at mem
      exact email row mem ((ours row mem).mp own)
    · rw [rolesNamed_nodup ids]
      simpa only [rs] using distinct

theorem UsersDistinct.congr {Fits Fits' : KeycloakUser → Prop} (same : ∀ u, Fits u ↔ Fits' u)
    {users : List KeycloakUser} (distinct : UsersDistinct realmId world Fits users) :
    UsersDistinct realmId world Fits' users :=
  ⟨distinct.1, fun u isNew fits => (same u).mp (distinct.2 u isNew fits)⟩

/-- Names of groups that are new, as a real run sees it and as the export and the database say. -/
theorem groupsFit_iff (sound : Sound world)
    (place : realmId = some r ∨ realmId = none ∧ world.supply ≤ r) {w : World}
    (same : w.db.groups = world.db.groups) (ns : List String) :
    GroupsFit r w ns ↔ ns.Nodup ∧ ∀ name ∈ ns, ∀ row ∈ world.db.groups,
      some row.realmId = realmId → row.name ≠ name := by
  unfold GroupsFit groupNames
  rw [same]
  constructor
  · rintro ⟨nodup, free⟩
    refine ⟨nodup, fun name isNew row mem ours named => free name isNew ?_⟩
    simp only [mem_map, mem_filter, decide_eq_true_eq]
    rw [sameRealm place (sound.groups row mem), some.injEq] at ours
    exact ⟨row, ⟨mem, ours⟩, named⟩
  · rintro ⟨nodup, free⟩
    refine ⟨nodup, fun name isNew mem => ?_⟩
    simp only [mem_map, mem_filter, decide_eq_true_eq] at mem
    obtain ⟨row, ⟨isRow, ours⟩, named⟩ := mem
    apply free name isNew row isRow _ named
    rw [sameRealm place (sound.groups row isRow), ours]

structure Course (deps : Deps) (data : KeycloakRealmExport) (targetRealm : Option String)
    (realmId : Option Nat) (r : Nat) (world : World) (s t u d e f : Session) : Prop where
  entered : Entered (targetRealm.getD data.realm) realmId r world s d
  early : Early data realmId r world s t u d e f
  ids : RoleIds t.data
  run : ∀ y, (importRest deps data (.real r)).run u = (.ok (), y) →
    realRun deps data targetRealm world = (y.notes, y.committed world)
  dry : ∀ j, (importRest deps data (.dryRun realmId)).run f = (.ok (), j) → j.aborted = false →
    dryRun deps data targetRealm world = (j.notes, j.data)

section

variable (course : Course deps data targetRealm realmId r world s t u d e f)

include course

/-- The tables after the clients, beside those before the run. -/
theorem Course.tables
    (late : Late deps data realmId r world u v w x y f g h i j) (live : u.aborted = false) :
    w.data.db = { world.db with
      realms := s.data.db.realms, roles := t.data.db.roles, groups := u.data.db.groups
      clientScopes := v.data.db.clientScopes, clients := w.data.db.clients } := by
  have scs : v.data.db = { u.data.db with clientScopes := v.data.db.clientScopes } :=
    late.scopes.frame
  have clients : w.data.db = { v.data.db with clients := w.data.db.clients } := late.clients.frame
  rw [clients, scs, course.early.framed course.entered live]

theorem Course.same_groups : t.data.db.groups = world.db.groups := by
  have here : s.data.db.groups = world.db.groups := by rw [course.entered.frame]
  rw [course.early.roles.frame]
  exact here

end

theorem course (deps : Deps) (data : KeycloakRealmExport) (targetRealm : Option String)
    (sound : Sound world) :
    ∃ r s t u d e f, Course deps data targetRealm (findRealm (targetRealm.getD data.realm) world) r
      world s t u d e f := by
  obtain ⟨r, s, d, real, dry, entered⟩ := enter data (targetRealm.getD data.realm) world
  obtain ⟨t, u, e, f, both⟩ : ∃ t u e f, Early data _ r world s t u d e f := early sound entered
  refine ⟨r, s, t, u, d, e, f, entered, both, ?_, ?_, ?_⟩
  · obtain ⟨t', ran, merged, -⟩ := rolesKind_plain.loop_real r (importedRoles data) s
    have same : t' = t := by
      have again := both.runRoles
      change (each (rolesKind.turn (.real r)) (importedRoles data)).run s = _ at again
      rw [ran] at again
      cases again
      rfl
    subst same
    apply roleIds_kept r (importedRoles data) merged
    have sameRoles : s.data.db.roles = world.db.roles := by rw [entered.frame]
    rw [RoleIds, sameRoles]
    exact ⟨sound.roleIds, fun row mem =>
      lt_of_lt_of_le (sound.roles row mem).2 entered.supply⟩
  · intro y rest
    exact realRun_eq targetRealm real (run_contents both.runRoles both.runGroups rest)
  · intro j rest live
    exact dryRun_eq targetRealm dry (run_contents both.dryRoles both.dryGroups rest) live

theorem Course.groups_live (course : Course deps data targetRealm realmId r world s t u d e f)
    (foreseen : (dryRun deps data targetRealm world).1.summary =
      (realRun deps data targetRealm world).1.summary) : u.aborted = false := by
  cases aborted : u.aborted with
  | false => rfl
  | true =>
    obtain ⟨y, j, ran, dryRan, live, -, same, drySame⟩ :=
      rest_runs deps data realmId r u course.early.foreseenGroups.live
    rw [course.run y ran, course.dry j dryRan live] at foreseen
    have agree := congrArg Tally.failed (congrFun foreseen .groups)
    have more := course.early.groups.aborts aborted
    have blank : t.notes.summary .groups = {} :=
      (course.early.roles.only.same noConfusion).trans (course.entered.blank .groups noConfusion)
    have dryBlank : e.notes.summary .groups = {} := by
      rw [course.early.foreseenRoles.only.same noConfusion, ← course.entered.summary]
      exact course.entered.blank .groups noConfusion
    rw [same, drySame, course.early.counted, foreseenAmong_failed, dryBlank] at agree
    rw [blank, ← agree] at more
    exact absurd more (lt_irrefl _)

structure Summed (s t u v w x y : Session) : Prop where
  realms : y.notes.summary .realms = s.notes.summary .realms
  roles : y.notes.summary .roles = t.notes.summary .roles
  groups : y.notes.summary .groups = u.notes.summary .groups
  scopes : y.notes.summary .scopes = v.notes.summary .scopes
  clients : y.notes.summary .clients = w.notes.summary .clients
  users : y.notes.summary .users = x.notes.summary .users

theorem summed {s t u v w x y : Session} (roles : Only .roles s t) (groups : Only .groups t u)
    (scopes : Only .scopes u v) (clients : Only .clients v w) (users : Only .users w x)
    (providers : Only .identityProviders x y) : Summed s t u v w x y := by
  have fromUsers {entity : Entity} (noProvider : entity ≠ .identityProviders) := providers.same noProvider
  have fromClients {entity : Entity} (noProvider : entity ≠ .identityProviders) (noUser : entity ≠ .users) :=
    (fromUsers noProvider).trans (users.same noUser)
  have fromScopes {entity : Entity} (noProvider : entity ≠ .identityProviders) (noUser : entity ≠ .users)
      (noClient : entity ≠ .clients) := (fromClients noProvider noUser).trans (clients.same noClient)
  have fromGroups {entity : Entity} (noProvider : entity ≠ .identityProviders) (noUser : entity ≠ .users)
      (noClient : entity ≠ .clients) (noScope : entity ≠ .scopes) :=
    (fromScopes noProvider noUser noClient).trans (scopes.same noScope)
  exact
    { realms := ((fromGroups (by decide) (by decide) (by decide) (by decide)).trans
        (groups.same (by decide))).trans (roles.same (by decide))
      roles := (fromGroups (by decide) (by decide) (by decide) (by decide)).trans
        (groups.same (by decide))
      groups := fromGroups (by decide) (by decide) (by decide) (by decide)
      scopes := fromScopes (by decide) (by decide) (by decide)
      clients := fromClients (by decide) (by decide)
      users := fromUsers (by decide) }

section

variable {s t u v w x y d e f g h i j : Session}

theorem Course.real_summed (course : Course deps data targetRealm realmId r world s t u d e f)
    (late : Late deps data realmId r world u v w x y f g h i j) : Summed s t u v w x y :=
  summed course.early.roles.only course.early.groups.only late.scopes.only late.clients.only
    late.users.only late.providersOnly

theorem Course.dry_summed (course : Course deps data targetRealm realmId r world s t u d e f)
    (late : Late deps data realmId r world u v w x y f g h i j) : Summed d e f g h i j :=
  summed course.early.foreseenRoles.only course.early.foreseenGroups.only late.foreseenScopes.only
    late.foreseenClients.only late.foreseenUsers.only late.foreseenProviders.only

theorem Course.users_live (course : Course deps data targetRealm realmId r world s t u d e f)
    (late : Late deps data realmId r world u v w x y f g h i j)
    (truthful : Truthful deps data targetRealm world) : x.aborted = false := by
  cases aborted : x.aborted with
  | false => rfl
  | true =>
    have real := course.run y late.run
    have foreseen := truthful.foreseen
    rw [real, course.dry j late.dry late.foreseenProviders.live] at foreseen
    have agree := congrArg Tally.created (congrFun foreseen .users)
    rw [(course.real_summed late).users, (course.dry_summed late).users] at agree
    have counts := truthful.counts .users
    rw [real] at counts
    simp only [committed, late.broken aborted, if_true] at counts
    rw [(course.real_summed late).users] at counts
    rcases late.users.breaks aborted with fewer | more
    · omega
    · omega

end

theorem Course.foreseeable
    (course : Course deps data targetRealm realmId r world s t u d e f) (sound : Sound world)
    (truthful : Truthful deps data targetRealm world) : Foreseeable data realmId world := by
  have live := course.groups_live truthful.foreseen
  obtain ⟨v, w, x, y, g, h, i, j, late⟩ := late deps sound course.entered course.early live
  have intact := course.users_live late truthful
  have foreseen := truthful.foreseen
  rw [course.run y late.run, course.dry j late.dry late.foreseenProviders.live] at foreseen
  have real := course.real_summed late
  have dry := course.dry_summed late
  have agree (entity : Entity) : y.notes.summary entity = j.notes.summary entity :=
    (congrFun foreseen entity).symm
  have roles := course.early.roles.agrees (real.roles.symm.trans ((agree .roles).trans dry.roles))
  have groups : GroupsFit r t.data (missingAmong (finder realmId world) (some none) data.groups) := by
    have same := real.groups.symm.trans ((agree .groups).trans dry.groups)
    rw [course.early.counted] at same
    have start : (t.notes.summary .groups).created ≤ (e.notes.summary .groups).created := by
      rw [course.early.roles.only.same (by decide), course.early.foreseenRoles.only.same (by decide),
        course.entered.summary]
    exact ((course.early.groups.trails live _ start).2 (congrArg Tally.created same)).2
  have tables := course.tables late live
  have sameUsers : w.data.db.users = world.db.users := by rw [tables]
  have sameRoles : w.data.db.roles = t.data.db.roles := by rw [tables]
  have users := late.users.agrees intact (real.users.symm.trans ((agree .users).trans dry.users))
  have clients := late.clients.agrees (real.clients.symm.trans ((agree .clients).trans dry.clients))
  have providers := (late.providers intact).agrees (agree .identityProviders)
  have fitting := (groupsFit_iff sound course.entered.place course.same_groups _).mp groups
  exact
    { roles := roles.1
      groups := fitting.1
      groupNames := fitting.2
      scopes := (late.scopes.agrees (real.scopes.symm.trans ((agree .scopes).trans dry.scopes))).1
      clients := clients.1
      secrets := clients.2
      users := users.congr (userFits_iff sound course.entered.place sameUsers
        (by rw [sameRoles]; exact course.ids.1) (hasRole_later course.early.roles roles sameRoles))
      providers := providers.1
      types := fun idp mem => isTyped_iff.mp (providers.2 idp mem) }

theorem known_loop {α β : Type} {kind : Kind α β} (plain : kind.Plain) (r : Nat) (xs : List α)
    (live : s.aborted = false) (all : ∀ item ∈ xs, (kind.plan r).prepared item = true →
      kind.isKnown (some r) item s.data = true) :
    ∃ t, (each (kind.turn (.real r)) xs).run s = (.ok (), t) ∧ t.aborted = false ∧
      t.data = s.data := by
  obtain ⟨t, ran, merged, -⟩ := plain.loop_real r xs s
  have here : ledger kind.entity s = ⟨s.data, false, s.notes.summary kind.entity⟩ := by
    simp [ledger, live]
  obtain ⟨unbroken, same⟩ := Plan.merge_known all (s.notes.summary kind.entity)
  rw [← here, ← merged] at unbroken same
  exact ⟨t, ran, unbroken, same⟩

structure Complete (deps : Deps) (data : KeycloakRealmExport) (r : Nat) (world : World) :
    Prop where
  roles : ∀ role ∈ importedRoles data, hasRole (some r) role.name world = true
  groups : PresentAmong (finder (some r) world) none data.groups
  scopes : ∀ scope ∈ data.clientScopes, hasScope (some r) scope.name world = true
  clients : ∀ client ∈ importedClients data, hasClient (some r) client.clientId world = true
  users : ∀ user ∈ data.users, passwordFits user = true →
    hasUser (some r) user.username world = true
  providers : ∀ idp ∈ data.identityProviders, hasIdentityProvider (some r) idp.alias_ world = true

theorem Complete.contents (complete : Complete deps data r world)
    (live : s.aborted = false) (same : s.data = world) :
    ∃ z, (importContents deps data (.real r)).run s = (.ok (), z) ∧ z.aborted = false ∧
      z.data = world := by
  subst same
  obtain ⟨t, rs, liveT, sameT⟩ := known_loop rolesKind_plain r (importedRoles data) live
    fun role mem _ => complete.roles role mem
  have present := complete.groups
  rw [← sameT] at present
  obtain ⟨notes, gs⟩ := present_groups r none data.groups liveT present
  obtain ⟨v, scs, liveV, sameV⟩ := known_loop scopesKind_plain r data.clientScopes
    (s := { t with notes := notes }) liveT fun sc mem _ => by
      have there := complete.scopes sc mem
      rw [← sameT] at there
      exact there
  have sameV : v.data = s.data := sameV.trans sameT
  obtain ⟨w, cs, liveW, sameW⟩ := known_loop (clientsKind_plain deps) r
    (importedClients data) liveV fun c mem _ => by
      rw [sameV]
      exact complete.clients c mem
  have sameW : w.data = s.data := sameW.trans sameV
  obtain ⟨x, us, liveX, sameX⟩ := known_loop (usersKind_plain deps) r data.users liveW
    fun u mem fits => by
      rw [sameW]
      rw [usersKind_prepared] at fits
      exact complete.users u mem fits
  have sameX : x.data = s.data := sameX.trans sameW
  obtain ⟨y, providers, liveY, sameY⟩ := known_loop providersKind_plain r data.identityProviders
    liveX fun idp mem _ => by
      rw [sameX]
      exact complete.providers idp mem
  refine ⟨y, run_contents rs gs ?_, liveY, sameY.trans sameX⟩
  exact (run_bind_ok scs).trans ((run_bind_ok cs).trans ((run_bind_ok us).trans providers))

theorem Complete.again (complete : Complete deps data r world) (targetRealm : Option String)
    (hit : findRealm (targetRealm.getD data.realm) world = some r) :
    (realRun deps data targetRealm world).2 = world := by
  obtain ⟨z, ran, live, same⟩ := complete.contents (s := enteredOld
    (targetRealm.getD data.realm) world false) rfl rfl
  rw [realRun_eq targetRealm (enter_old data _ world false hit) ran]
  simp [committed, live, same]

theorem Course.truthful
    (course : Course deps data targetRealm realmId r world s t u d e f) (sound : Sound world)
    (ok : Foreseeable data realmId world) : Truthful deps data targetRealm world := by
  have early := course.early
  have distinct : Distinct rolesTabled realmId world (importedRoles data) :=
    ⟨ok.roles, fun _ _ => rfl⟩
  obtain ⟨rolesAgree, rolesRows, rolesKnown, -⟩ := early.roles.fits distinct
  have sameGroups := course.same_groups
  obtain ⟨live, -, groupsTally, present⟩ := early.groups.fits
    ((groupsFit_iff sound course.entered.place sameGroups _).mpr ⟨ok.groups, ok.groupNames⟩)
  have groupsRows := early.groups.rows live
  obtain ⟨v, w, x, y, g, h, i, j, late⟩ := late deps sound course.entered early live
  have tables := course.tables late live
  have sameUsers : w.data.db.users = world.db.users := by rw [tables]
  have sameRoles : w.data.db.roles = t.data.db.roles := by rw [tables]
  obtain ⟨scopesAgree, scopesRows, scopesKnown, -⟩ := late.scopes.fits ⟨ok.scopes, fun _ _ => rfl⟩
  obtain ⟨clientsAgree, clientsRows, clientsKnown, -⟩ := late.clients.fits ⟨ok.clients, ok.secrets⟩
  have users : UsersDistinct realmId world (UserFits r w.data) data.users :=
    ok.users.congr fun user => (userFits_iff sound course.entered.place sameUsers
      (by rw [sameRoles]; exact course.ids.1) (hasRole_later early.roles distinct sameRoles)
      user).symm
  obtain ⟨intact, usersAgree, usersRows, usersKnown⟩ := late.users.fits users
  have frameUsers := late.users.frame intact
  have providers := late.providers intact
  obtain ⟨providersAgree, providersRows, providersKnown, -⟩ :=
    providers.fits ⟨ok.providers, fun idp mem => isTyped_iff.mpr (ok.types idp mem)⟩
  have frameProviders : y.data.db =
      { x.data.db with identityProviders := y.data.db.identityProviders } := providers.frame
  have final : y.data.db = { world.db with
      realms := s.data.db.realms, roles := t.data.db.roles, groups := u.data.db.groups
      clientScopes := v.data.db.clientScopes, clients := w.data.db.clients
      users := x.data.db.users, userRoles := x.data.db.userRoles
      identityProviders := y.data.db.identityProviders } := by
    rw [frameProviders, frameUsers, tables]
  have real := course.real_summed late
  have dry := course.dry_summed late
  have run := course.run y late.run
  simp only [committed, providers.live, false_eq_true, if_false] at run
  have dryRan := course.dry j late.dry late.foreseenProviders.live
  have blank (entity : Entity) (h : entity ≠ .realms) := course.entered.blank entity h
  have dryBlank (entity : Entity) (h : entity ≠ .realms) : d.notes.summary entity = {} := by
    rw [← course.entered.summary]
    exact blank entity h
  have complete : Complete deps data r y.data :=
    { roles := fun role mem => by
        have known := rolesKnown role mem
        unfold hasRole at known ⊢
        rwa [frameProviders, frameUsers, sameRoles]
      groups := present y.data ⟨[], by
        rw [final, append_nil]⟩
      scopes := fun sc mem => by
        have known := scopesKnown sc mem
        change hasScope (some r) sc.name v.data = true at known
        unfold hasScope at known ⊢
        rwa [final]
      clients := fun c mem => by
        have known := clientsKnown c mem
        change hasClient (some r) c.clientId w.data = true at known
        unfold hasClient at known ⊢
        rwa [frameProviders, frameUsers]
      users := fun user mem fits => by
        have known := usersKnown user mem fits
        unfold hasUser at known ⊢
        rwa [frameProviders]
      providers := providersKnown }
  have found : findRealm (targetRealm.getD data.realm) y.data = some r := by
    have here := course.entered.found
    unfold findRealm at here ⊢
    rwa [final]
  have zeroGroups : t.notes.summary .groups = {} :=
    (early.roles.only.same (by decide)).trans (blank .groups (by decide))
  have atScopes (entity : Entity) (apart : entity ≠ .realms ∧ entity ≠ .roles ∧ entity ≠ .groups) :
      u.notes.summary entity = {} :=
    (early.groups.only.same apart.2.2).trans
      ((early.roles.only.same apart.2.1).trans (blank entity apart.1))
  have zeroScopes := atScopes .scopes (by decide)
  have zeroClients : v.notes.summary .clients = {} :=
    (late.scopes.only.same (by decide)).trans (atScopes .clients (by decide))
  have onlyClients : Only .clients v w := late.clients.only
  have zeroUsers : w.notes.summary .users = {} := (onlyClients.same (by decide)).trans
    ((late.scopes.only.same (by decide)).trans (atScopes .users (by decide)))
  have zeroProviders : x.notes.summary .identityProviders = {} :=
    (late.users.only.same (by decide)).trans ((onlyClients.same (by decide)).trans
      ((late.scopes.only.same (by decide)).trans (atScopes .identityProviders (by decide))))
  constructor
  · intro entity
    rw [run]
    cases entity with
    | realms =>
      simp only [rowsOf]
      rw [real.realms, final]
      exact course.entered.rows
    | roles =>
      simp only [rowsOf]
      rw [real.roles, final]
      change t.data.db.roles.length + (s.notes.summary .roles).created =
        s.data.db.roles.length + (t.notes.summary .roles).created at rolesRows
      rw [blank .roles (by decide), course.entered.frame] at rolesRows
      exact rolesRows
    | groups =>
      simp only [rowsOf]
      rw [real.groups, final]
      rw [zeroGroups, sameGroups] at groupsRows
      exact groupsRows
    | scopes =>
      simp only [rowsOf]
      rw [real.scopes, final]
      change v.data.db.clientScopes.length + (u.notes.summary .scopes).created =
        u.data.db.clientScopes.length + (v.notes.summary .scopes).created at scopesRows
      rw [zeroScopes, early.framed course.entered live] at scopesRows
      exact scopesRows
    | clients =>
      simp only [rowsOf]
      rw [real.clients, final]
      change w.data.db.clients.length + (v.notes.summary .clients).created =
        v.data.db.clients.length + (w.notes.summary .clients).created at clientsRows
      have sameClients : v.data.db.clients = world.db.clients := by
        rw [show v.data.db = { u.data.db with clientScopes := v.data.db.clientScopes } from
          late.scopes.frame, early.framed course.entered live]
      rw [zeroClients, sameClients] at clientsRows
      exact clientsRows
    | users =>
      simp only [rowsOf]
      rw [real.users, final]
      rw [zeroUsers, sameUsers] at usersRows
      exact usersRows
    | identityProviders =>
      simp only [rowsOf]
      change y.data.db.identityProviders.length + (x.notes.summary .identityProviders).created =
        x.data.db.identityProviders.length + (y.notes.summary .identityProviders).created
        at providersRows
      rw [zeroProviders, frameUsers, tables] at providersRows
      exact providersRows
  · rw [run, dryRan]
    funext entity
    cases entity with
    | realms => rw [real.realms, dry.realms, course.entered.summary]
    | roles => exact dry.roles.trans (rolesAgree.symm.trans real.roles.symm)
    | groups =>
      have dryZero : e.notes.summary .groups = {} :=
        (early.foreseenRoles.only.same (by decide)).trans (dryBlank .groups (by decide))
      rw [real.groups, dry.groups, groupsTally, early.counted, zeroGroups, dryZero]
    | scopes => exact dry.scopes.trans (scopesAgree.symm.trans real.scopes.symm)
    | clients => exact dry.clients.trans (clientsAgree.symm.trans real.clients.symm)
    | users => exact dry.users.trans (usersAgree.symm.trans real.users.symm)
    | identityProviders => exact providersAgree.symm
  · rw [dryRan]
    exact ((late.foreseenProviders.data.trans late.foreseenUsers.data).trans
      (late.foreseenClients.data.trans late.foreseenScopes.data)).trans
      ((early.foreseenGroups.data.trans early.foreseenRoles.data).trans course.entered.dryData)
  · rw [run]
    exact complete.again targetRealm found

end Course

def staffTwice : KeycloakRealmExport where
  realm := "shop"
  groups := [.mk "staff" [], .mk "sales" [.mk "staff" []]]

def shopExport : KeycloakRealmExport where
  realm := "shop"
  roles := [{ name := "clerk" }]
  groups := [.mk "staff" [.mk "sales" []]]
  clients := [{ clientId := "till", secret := some "s3cret" }]
  identityProviders := [{ alias_ := "partner", providerId := "saml" }]
  users := [{ username := "ann", email := some "ann@shop", realmRoles := ["clerk"] }]

theorem sound_empty : Sound {} where
  roles _ listed := by cases listed
  roleIds := nodup_nil
  scopes _ listed := by cases listed
  clients _ listed := by cases listed
  users _ listed := by cases listed
  providers _ listed := by cases listed
  groups _ listed := by cases listed
  groupIds _ listed := by cases listed
  links _ listed := by cases listed

end Idenplane.Migration
