import Idenplane.Realms.ImportOutcome

/-! # When a failed import does no harm

An import is not a transaction.  It leaves the database as it was when it is refused before its
first write, and it succeeds when the document has nothing twice and no call throws; there is
nothing in between.
-/

namespace Idenplane.Realms.Transfer

open Atomic Auth Admin Properties Document Rows

structure Indexes (ids : Ids) (names : List String) : Prop where
  known : ∀ name, (get ids name).isSome ↔ name ∈ names
  injective : ∀ first second id, get ids first = some id → get ids second = some id → first = second

theorem indexes_idsFrom (base : Nat) (ns : List String) : Indexes (idsFrom base ns) ns where
  known name := by
    constructor
    · intro hit
      obtain ⟨id, isId⟩ := isSome_iff_exists.mp hit
      obtain ⟨i, -, isName, -⟩ := get_idsFrom.mp isId
      exact mem_of_getElem? isName
    · intro mem
      induction ns using List.reverseRecOn with
      | nil => cases mem
      | append_singleton ns last ih =>
        rw [idsFrom_snoc]
        by_cases same : name = last
        · simp [same]
        · rw [get_set_of_ne same]
          exact ih (by simpa [same] using mem)
  injective first second id isFirst isSecond := by
    obtain ⟨i, isId, isFirst, -⟩ := get_idsFrom.mp isFirst
    obtain ⟨j, isId', isSecond, -⟩ := get_idsFrom.mp isSecond
    obtain rfl : i = j := by omega
    exact some.inj (isFirst.symm.trans isSecond)

def Below (ids : Ids) (bound : Nat) : Prop := ∀ name id, get ids name = some id → id < bound

variable {ns : List String}

theorem indexes_set {ids : Ids} {id : Nat} (indexes : Indexes ids ns)
    (below : Below ids id) (name : String) :
    Indexes (set ids name id) (ns ++ [name]) ∧ Below (set ids name id) (id + 1) := by
  refine ⟨⟨fun other => ?_, fun first snd hit isFirst isSecond => ?_⟩, fun other hit isOther => ?_⟩
  · by_cases same : other = name
    · simp [same]
    · rw [get_set_of_ne same, indexes.known]
      simp [same]
  · by_cases isName : first = name
    · by_cases isName' : snd = name
      · rw [isName, isName']
      · rw [isName, get_set_self] at isFirst
        rw [get_set_of_ne isName', ← isFirst] at isSecond
        exact absurd (below _ _ isSecond) (Nat.lt_irrefl _)
    · rw [get_set_of_ne isName] at isFirst
      by_cases isName' : snd = name
      · rw [isName', get_set_self, ← isFirst] at isSecond
        exact absurd (below _ _ isSecond.symm) (Nat.lt_irrefl _)
      · rw [get_set_of_ne isName'] at isSecond
        exact indexes.injective _ _ _ isFirst isSecond
  · by_cases same : other = name
    · rw [same, get_set_self] at isOther
      cases isOther
      exact lt_succ_self _
    · rw [get_set_of_ne same] at isOther
      exact (below _ _ isOther).trans (lt_succ_self _)

theorem indexes_grow {α ρ : Type} (skip : α → Bool) (name : α → String) (new : Ids → Nat → α → ρ)
    (base : Nat) (ids : Ids) (rows : List ρ) (indexes : Indexes ids ns)
    (below : Below ids (base + rows.length)) (xs : List α) :
    Indexes (xs.foldl (grow skip name new base) (ids, rows)).1
        (ns ++ (xs.filter (!skip ·)).map name) ∧
      Below (xs.foldl (grow skip name new base) (ids, rows)).1
        (base + (xs.foldl (grow skip name new base) (ids, rows)).2.length) := by
  induction xs generalizing ids rows ns with
  | nil => simpa using ⟨indexes, below⟩
  | cons item xs ih =>
    cases skipped : skip item with
    | true => simpa [grow, skipped] using ih ids rows indexes below
    | false =>
      obtain ⟨indexes', below'⟩ := indexes_set indexes below (name item)
      have rest := ih (set ids (name item) (base + rows.length))
        (rows ++ [new ids (base + rows.length) item]) indexes'
        (by simpa [Nat.add_assoc] using below')
      simpa [grow, skipped] using rest

theorem indexes_roots (doc : Document) (rid base : Nat) :
    Indexes (roots doc rid base).1 ((doc.groups.filter isRoot).map (·.name)) ∧
      Below (roots doc rid base).1 (base + (roots doc rid base).2.length) := by
  have empty : Indexes [] [] :=
    ⟨fun _ => by simp [Properties.get], fun _ _ _ hit => nomatch hit⟩
  have grown := indexes_grow (!isRoot ·) (·.name) (fun _ => groupRow none rid) base [] [] empty
    (fun _ _ hit => nomatch hit) doc.groups
  simpa [roots] using grown

theorem indexes_groups (doc : Document) (rid : Nat) (w : World) :
    Indexes (childrenIn doc rid w).1 (doc.groups.map (·.name)) := by
  obtain ⟨indexes, below⟩ := indexes_roots doc rid (rolesIn doc rid w).supply
  have grown := (indexes_grow isRoot (·.name) (childRow rid)
    (rootsIn doc rid w).supply _ [] indexes below doc.groups).1
  refine ⟨fun name => (grown.known name).trans ?_, grown.injective⟩
  rw [← map_append]
  exact ((List.filter_append_perm isRoot doc.groups).map _).mem_iff

theorem nodup_filterMap {α β : Type} {k : α → Option β} {xs : List α}
    (total : ∀ item ∈ xs, (k item).isSome)
    (injective : ∀ first snd v, k first = some v → k snd = some v →
      first = snd) : (xs.filterMap k).Nodup ↔ xs.Nodup := by
  induction xs with
  | nil => simp
  | cons item xs ih =>
    obtain ⟨v, isValue⟩ := isSome_iff_exists.mp (total item mem_cons_self)
    rw [List.filterMap_cons_some isValue, nodup_cons, nodup_cons,
      ih fun other mem => total other (.tail _ mem)]
    refine and_congr_left fun _ => not_congr ?_
    rw [mem_filterMap]
    constructor
    · rintro ⟨other, mem, isOther⟩
      exact injective _ _ _ isOther isValue ▸ mem
    · exact fun mem => ⟨item, mem, isValue⟩

namespace Document

variable (doc : Document)

def scopeNames : List String := doc.clientScopes.map (·.name)

def clientNames : List String := doc.clients.map (·.clientId)

def roleKeys : List String := doc.roles.map fun role => roleKey role.toRoleName

def groupNames : List String := doc.groups.map (·.name)

def clientRoleNames : List (String × String) :=
  doc.roles.filterMap fun role =>
    ((given role.clientId).filter (doc.clientNames.contains ·)).map fun client =>
      (client, role.name)

def linkNames (clientId : String) (names : List String) : List (String × String) :=
  if doc.clientNames.contains clientId then
    (names.filter (doc.scopeNames.contains ·)).map fun name => (clientId, name)
  else []

end Document

structure Importable (throws : Throws) (doc : Document) : Prop where
  keyPair : throws .keyPair = false
  realm : throws .createRealm = false
  scopes : ∀ i scope, doc.clientScopes[i]? = some scope → ScopeFine throws i scope
  scopeNames : doc.scopeNames.Nodup
  seeds : doc.clientScopes = [] →
    ∀ i scope, seededScopes[i]? = some scope → throws (.seed i) = false
  clients : ∀ i client, doc.clients[i]? = some client → throws (.client i) = false
  clientNames : doc.clientNames.Nodup
  roles : ∀ i role, doc.roles[i]? = some role → throws (.role i) = false
  roleNames : doc.clientRoleNames.Nodup
  groups : ∀ i group, doc.groups[i]? = some group →
    throws (.readGroup i) = false ∧ throws (.group i) = false
  groupNames : doc.groupNames.Nodup
  providers : ∀ i provider, doc.identityProviders[i]? = some provider →
    throws (.identityProvider i) = false
  providerNames : (doc.identityProviders.map (·.alias_)).Nodup
  assignments : ∀ i assignment, doc.clientScopeAssignments[i]? = some assignment →
    throws (.readAssignment i) = false
  defaultCalls : ∀ i assignment, doc.clientScopeAssignments[i]? = some assignment →
    assignment.clientId ∈ doc.clientNames → ∀ j name, assignment.defaultScopes[j]? = some name →
      name ∈ doc.scopeNames → throws (.defaultScope i j) = false
  optionalCalls : ∀ i assignment, doc.clientScopeAssignments[i]? = some assignment →
    assignment.clientId ∈ doc.clientNames → ∀ j name, assignment.optionalScopes[j]? = some name →
        name ∈ doc.scopeNames → throws (.optionalScope i j) = false
  defaults : (doc.clientScopeAssignments.flatMap fun assignment =>
    doc.linkNames assignment.clientId assignment.defaultScopes).Nodup
  optionals : (doc.clientScopeAssignments.flatMap fun assignment =>
    doc.linkNames assignment.clientId assignment.optionalScopes).Nodup
  users : ∀ i user, doc.users[i]? = some user → throws (.user i) = false
  userRoleCalls : ∀ i user, doc.users[i]? = some user →
    ∀ j role, user.roles[j]? = some role → roleKey role ∈ doc.roleKeys →
      throws (.userRole i j) = false
  userRoles : ∀ user ∈ doc.users, ((user.roles.map roleKey).filter (doc.roleKeys.contains ·)).Nodup
  userGroupCalls : ∀ i user, doc.users[i]? = some user →
    ∀ j group, user.groups[j]? = some group → group ∈ doc.groupNames →
      throws (.userGroup i j) = false
  userGroups : ∀ user ∈ doc.users, (user.groups.filter (doc.groupNames.contains ·)).Nodup
  usernames : (doc.users.map (·.username)).Nodup
  emails : (doc.users.filterMap (·.email)).Nodup

section Conversion

variable {doc : Document} {cids sids roleIds groupIds : Ids}

theorem nodup_known {ids : Ids} (indexes : Indexes ids ns) (mem : List String) :
    (mem.filterMap (get ids)).Nodup ↔ (mem.filter (ns.contains ·)).Nodup := by
  have known : mem.filterMap (get ids) = (mem.filter (ns.contains ·)).filterMap (get ids) := by
    induction mem with
    | nil => rfl
    | cons name mem ih =>
      have isKnown := indexes.known name
      cases found : get ids name with
      | none => simpa [found, ← isKnown] using ih
      | some id => simpa [found, ← isKnown] using ih
  rw [known]
  refine nodup_filterMap (fun name isName => ?_) indexes.injective
  rw [indexes.known]
  simpa using (mem_filter.mp isName).2

section

variable (cs : Indexes cids doc.clientNames)

include cs

theorem clientRoles_nodup : (clientRoles cids doc.roles).Nodup ↔ doc.clientRoleNames.Nodup := by
  let index (role : String × String) : Option (Nat × String) :=
    (get cids role.1).map fun c => (c, role.2)
  have same : clientRoles cids doc.roles = doc.clientRoleNames.filterMap index := by
    rw [clientRoles, clientRoleNames, List.filterMap_filterMap]
    congr 1
    funext role
    cases isGiven : given role.clientId with
    | none => simp [dbClientId, isGiven]
    | some c =>
      have isKnown := cs.known c
      cases hit : get cids c with
      | none => simp [dbClientId, isGiven, hit, Option.filter, ← isKnown]
      | some id => simp [dbClientId, isGiven, hit, Option.filter, ← isKnown, index]
  rw [same]
  refine nodup_filterMap (fun role mem => ?_) fun first snd v isFirst isSecond => ?_
  · obtain ⟨imported, _, isRole⟩ := mem_filterMap.mp mem
    obtain ⟨c, isClient, rfl⟩ := map_eq_some_iff.mp isRole
    have known := (cs.known c).mpr (by simpa using (filter_eq_some_iff.mp isClient).2)
    simpa [index] using known
  · obtain ⟨id, hit, rfl⟩ := map_eq_some_iff.mp isFirst
    obtain ⟨id', hit', same⟩ := map_eq_some_iff.mp isSecond
    obtain ⟨rfl, ns⟩ := Prod.mk.inj same
    exact Prod.ext (cs.injective _ _ _ hit hit') ns.symm

theorem links_nodup (scs : Indexes sids doc.scopeNames) (ns : ScopeAssignment → List String) :
    (doc.clientScopeAssignments.flatMap fun asg =>
        linksOf cids sids asg.clientId (ns asg)).Nodup ↔
    (doc.clientScopeAssignments.flatMap fun asg =>
        doc.linkNames asg.clientId (ns asg)).Nodup := by
  let index (link : String × String) : Option ClientScopeLink :=
    (get cids link.1).bind fun c => (get sids link.2).map fun id => ⟨c, id⟩
  have same (cid : String) (ns : List String) : linksOf cids sids cid ns =
        (doc.linkNames cid ns).filterMap index := by
    have isKnown := cs.known cid
    cases hit : get cids cid with
    | none => simp [linksOf, linkNames, hit, ← isKnown]
    | some c =>
      simp only [linksOf, linkNames, hit, ← isKnown, contains_iff_mem,
        isSome_some, if_true]
      induction ns with
      | nil => rfl
      | cons name ns ih =>
        have isKnown' := scs.known name
        cases hit' : get sids name with
        | none => simpa [hit', ← isKnown'] using ih
        | some id => simpa [hit', ← isKnown', index, hit] using ih
  simp only [same]
  rw [← List.filterMap_flatMap]
  refine nodup_filterMap (fun link mem => ?_) fun first snd v isFirst isSecond => ?_
  · obtain ⟨asg, _, isLink⟩ := mem_flatMap.mp mem
    unfold linkNames at isLink
    split at isLink
    case isTrue isClient =>
      obtain ⟨name, isName, rfl⟩ := mem_map.mp isLink
      have known := (cs.known _).mpr (by simpa using isClient)
      have known' := (scs.known name).mpr (by simpa using (mem_filter.mp isName).2)
      obtain ⟨c, hit⟩ := isSome_iff_exists.mp known
      simpa [index, hit] using known'
    case isFalse => cases isLink
  · obtain ⟨c, hit, isFirst⟩ := bind_eq_some_iff.mp isFirst
    obtain ⟨c', hit', isSecond⟩ := bind_eq_some_iff.mp isSecond
    obtain ⟨id, sc, rfl⟩ := map_eq_some_iff.mp isFirst
    obtain ⟨id', sc', same⟩ := map_eq_some_iff.mp isSecond
    cases same
    exact Prod.ext (cs.injective _ _ _ hit hit') (scs.injective _ _ _ sc sc')

theorem fine_iff (scs : Indexes sids doc.scopeNames) (rs : Indexes roleIds doc.roleKeys)
    (gs : Indexes groupIds doc.groupNames) {throws : Throws}
    (keyPair : throws .keyPair = false) (r : throws .createRealm = false) :
    Fine throws doc cids sids roleIds groupIds ↔ Importable throws doc := by
  have userRoles (u : ImportedUser) :
      (u.roles.filterMap fun role => get roleIds (roleKey role)).Nodup ↔
        ((u.roles.map roleKey).filter (doc.roleKeys.contains ·)).Nodup := by
    rw [← nodup_known rs, List.filterMap_map]
    rfl
  constructor
  · intro fine
    refine ⟨keyPair, r, fine.scopes, fine.scopeNames, fine.seeds, fine.clients, fine.clientNames,
      fine.roles, (clientRoles_nodup cs).mp fine.roleNames, fine.groups, fine.groupNames,
      fine.providers, fine.providerNames, fun i asg hit => (fine.assignments i _ hit).1,
      fun i asg hit known j name isName isScope => ?_,
      fun i asg hit known j name isName isScope => ?_,
      (links_nodup cs scs _).mp fine.defaults, (links_nodup cs scs _).mp fine.optionals,
      fun i u hit => (fine.users i u hit).1,
      fun i u hit j role isRole known => ?_, fun u mem => ?_,
      fun i u hit j g isGroup known => ?_, fun u mem => ?_, fine.usernames, fine.emails⟩
    · exact (fine.assignments i asg hit).2.1 ((cs.known _).mpr known) j name isName
        ((scs.known _).mpr isScope)
    · exact (fine.assignments i asg hit).2.2 ((cs.known _).mpr known) j name isName
        ((scs.known _).mpr isScope)
    · exact (fine.users i u hit).2.1 j role isRole ((rs.known _).mpr known)
    · obtain ⟨i, hit⟩ := mem_iff_getElem?.mp mem
      exact (userRoles u).mp (fine.users i u hit).2.2.1
    · exact (fine.users i u hit).2.2.2.1 j g isGroup ((gs.known _).mpr known)
    · obtain ⟨i, hit⟩ := mem_iff_getElem?.mp mem
      exact (nodup_known gs u.groups).mp (fine.users i u hit).2.2.2.2
  · intro importable
    refine ⟨importable.scopes, importable.scopeNames, importable.seeds, importable.clients,
      importable.clientNames, importable.roles, (clientRoles_nodup cs).mpr importable.roleNames,
      importable.groups, importable.groupNames, importable.providers, importable.providerNames,
      fun i asg hit => ⟨importable.assignments i asg hit,
        fun known j name isName isScope => ?_, fun known j name isName isScope => ?_⟩,
      (links_nodup cs scs _).mpr importable.defaults,
      (links_nodup cs scs _).mpr importable.optionals,
      fun i u hit => ⟨importable.users i u hit, fun j role isRole known => ?_,
        (userRoles u).mpr (importable.userRoles u (mem_of_getElem? hit)),
        fun j g isGroup known => ?_,
        (nodup_known gs u.groups).mpr (importable.userGroups u (mem_of_getElem? hit))⟩,
      importable.usernames, importable.emails⟩
    · exact importable.defaultCalls i asg hit ((cs.known _).mp known) j name isName
        ((scs.known _).mp isScope)
    · exact importable.optionalCalls i asg hit ((cs.known _).mp known) j name isName
        ((scs.known _).mp isScope)
    · exact importable.userRoleCalls i u hit j role isRole ((rs.known _).mp known)
    · exact importable.userGroupCalls i u hit j g isGroup ((gs.known _).mp known)

end

end Conversion

/-- Ids are given out once: a row and what it refers to are older than the next id. -/
structure Fresh (w : World) : Prop where
  realms : ∀ row ∈ w.db.realms, row.id < w.supply
  scopes : ∀ row ∈ w.db.clientScopes, row.realmId < w.supply
  mappers : ∀ row ∈ w.db.protocolMappers, row.clientScopeId < w.supply
  clients : ∀ row ∈ w.db.clients, row.realmId < w.supply
  roles : ∀ row ∈ w.db.roles, row.realmId < w.supply
  groups : ∀ row ∈ w.db.groups, row.realmId < w.supply
  providers : ∀ row ∈ w.db.identityProviders, row.realmId < w.supply
  defaults : ∀ link ∈ w.db.defaultScopes, link.clientId < w.supply
  optionals : ∀ link ∈ w.db.optionalScopes, link.clientId < w.supply
  users : ∀ row ∈ w.db.users, row.realmId < w.supply
  userRoles : ∀ link ∈ w.db.userRoles, link.userId < w.supply
  userGroups : ∀ link ∈ w.db.userGroups, link.userId < w.supply

section Whole

variable {throws : Throws} {doc : Document} {ow : Bool} {w : World}

def newRealm (doc : Document) (id : Nat) : RealmRow :=
  { doc.settings.apply { id := 0, name := doc.name } with id := id }

def withRealm (doc : Document) (w : World) : World where
  db := { w.db with
    realms := w.db.realms ++ [newRealm doc w.supply]
    signingKeys := w.db.signingKeys ++ [{ id := w.supply, realmId := w.supply, createdAt := 0 }] }
  supply := w.supply + 1

theorem Fresh.unused (fresh : Fresh w) (doc : Document) : Unused w.supply (withRealm doc w) where
  next := lt_succ_self _
  scopes row isRow := (fresh.scopes row isRow).ne
  mappers row isRow := (fresh.mappers row isRow).trans (lt_succ_self _)
  clients row isRow := (fresh.clients row isRow).ne
  roles row isRow := (fresh.roles row isRow).ne
  groups row isRow := (fresh.groups row isRow).ne
  providers row isRow := (fresh.providers row isRow).ne
  defaults link isLink := (fresh.defaults link isLink).trans (lt_succ_self _)
  optionals link isLink := (fresh.optionals link isLink).trans (lt_succ_self _)
  users row isRow := (fresh.users row isRow).ne
  userRoles link isLink := (fresh.userRoles link isLink).trans (lt_succ_self _)
  userGroups link isLink := (fresh.userGroups link isLink).trans (lt_succ_self _)

theorem Fresh.deleteRealm (fresh : Fresh w) (r : RealmRow) :
    Fresh { w with db := w.db.deleteRealm r } where
  realms row isRow := fresh.realms row (mem_filter.mp isRow).1
  scopes row isRow := fresh.scopes row (mem_filter.mp isRow).1
  mappers row isRow := fresh.mappers row (mem_filter.mp isRow).1
  clients row isRow := fresh.clients row (mem_filter.mp isRow).1
  roles row isRow := fresh.roles row (mem_filter.mp isRow).1
  groups row isRow := fresh.groups row (mem_filter.mp isRow).1
  providers row isRow := fresh.providers row (mem_filter.mp isRow).1
  defaults link isLink := fresh.defaults link (mem_filter.mp isLink).1
  optionals link isLink := fresh.optionals link (mem_filter.mp isLink).1
  users row isRow := fresh.users row (mem_filter.mp isRow).1
  userRoles link isLink := fresh.userRoles link (mem_filter.mp isLink).1
  userGroups link isLink := fresh.userGroups link (mem_filter.mp isLink).1

def fillRealm (throws : Throws) (doc : Document) : Call Summary := do
  require (!throws .keyPair) .internal
  let realmId ← createRealm throws doc
  importContents throws doc realmId

theorem importRealm_refused (refused : doc.version = "" ∨ doc.name = "" ∨
    throws .findRealm = true) :
    ∃ f, (importRealm throws doc ow).run w = (.error f, w) := by
  unfold importRealm
  by_cases ver : doc.version = ""
  · exact ⟨badRequest "Invalid import format: missing version or realm", by simp [ver, require]⟩
  · by_cases name : doc.name = ""
    · exact ⟨badRequest "Invalid import format: realm name is required",
        by simp [ver, name, require]⟩
    · have thrown : throws .findRealm = true := by simpa [ver, name] using refused
      exact ⟨.internal, by simp [ver, name, thrown, require]⟩

variable {r : RealmRow}

theorem importRealm_known (known : w.db.realms.find? (·.name = doc.name) = some r)
    (refused : ow = false ∨ throws .deleteRealm = true) :
    ∃ f, (importRealm throws doc ow).run w = (.error f, w) := by
  by_cases early : doc.version = "" ∨ doc.name = "" ∨ throws .findRealm = true
  · exact importRealm_refused early
  · simp only [not_or, not_eq_true] at early
    obtain ⟨ver, name, find⟩ := early
    unfold importRealm
    cases isOverwrite : ow with
    | false =>
      exact ⟨realmExists doc.name ". Use overwrite option to replace it.",
        by simp [ver, name, find, known, require]⟩
    | true =>
      have thrown : throws .deleteRealm = true := by simpa [isOverwrite] using refused
      exact ⟨.internal, by simp [ver, name, find, known, thrown, require]⟩

theorem importRealm_new (ver : doc.version ≠ "") (name : doc.name ≠ "")
    (find : throws .findRealm = false)
    (unknown : w.db.realms.find? (·.name = doc.name) = none) :
    (importRealm throws doc ow).run w = (fillRealm throws doc).run w := by
  unfold importRealm fillRealm
  simp [ver, name, find, unknown, require]

theorem importRealm_overwrites (ver : doc.version ≠ "") (name : doc.name ≠ "")
    (find : throws .findRealm = false)
    (known : w.db.realms.find? (·.name = doc.name) = some r)
    (delete : throws .deleteRealm = false) :
    (importRealm throws doc true).run w =
      (fillRealm throws doc).run { w with db := w.db.deleteRealm r } := by
  unfold importRealm fillRealm
  simp [ver, name, find, known, delete, require]

theorem fillRealm_refused (refused : throws .keyPair = true ∨ throws .createRealm = true) :
    (fillRealm throws doc).run w = (.error .internal, w) := by
  unfold fillRealm
  cases keyPair : throws .keyPair with
  | true => simp [require]
  | false =>
    have thrown : throws .createRealm = true := by simpa [keyPair] using refused
    simp [createRealm, statement, thrown, require]

/-- Once the realm is there, it stays, whatever becomes of the rest. -/
theorem fillRealm_decide (fresh : Fresh w) (unknown : w.db.realms.find? (·.name = doc.name) = none)
    (keyPair : throws .keyPair = false) (create : throws .createRealm = false) :
    (fillRealm throws doc).Decides (Holds (w.db.realms ++ [newRealm doc w.supply]))
      w (Importable throws doc) doc.summary
      (imported doc w.supply (withRealm doc w)) := by
  have runs : (fillRealm throws doc).run w =
      (importContents throws doc w.supply).run (withRealm doc w) := by
    unfold fillRealm createRealm statement
    simp only [keyPair, create, Bool.not_false, require_true, done_bind,
      run_atomic_bind, Atomic.Prog.bind_assoc, insert, unknown]
    rfl
  have holds : Holds (w.db.realms ++ [newRealm doc w.supply]) (withRealm doc w) := rfl
  have contents : (importContents throws doc w.supply).Decides _ _ _ _ _ :=
    (contents_decide doc w.supply holds (fresh.unused doc)).congr
      (fine_iff (indexes_idsFrom _ _) (indexes_idsFrom _ _) (indexes_idsFrom _ _)
        (indexes_groups doc w.supply _) keyPair create)
  exact ⟨fun ok => runs.trans (contents.runs ok),
    fun refused => by rw [runs]; exact contents.fails refused⟩

def Refused (throws : Throws) (doc : Document) (overwrite : Bool) (w : World) : Prop :=
  doc.version = "" ∨ doc.name = "" ∨ throws .findRealm = true ∨
    match w.db.realms.find? (·.name = doc.name) with
    | none => throws .keyPair = true ∨ throws .createRealm = true
    | some _ => overwrite = false ∨ throws .deleteRealm = true

def FailsClean {α : Type} (call : Call α) (w : World) : Prop :=
  ∀ failure after, call.run w = (.error failure, after) → after.db = w.db

variable {α : Type} {call : Call α}

theorem failsClean_of_ok {res : α} {after : World}
    (ok : call.run w = (.ok res, after)) : FailsClean call w := by
  intro f after' failed
  rw [ok] at failed
  cases failed

theorem failsClean_of_refused (refused : ∃ f, call.run w = (.error f, w)) : FailsClean call w := by
  intro f after failed
  obtain ⟨f', isError⟩ := refused
  rw [isError] at failed
  cases failed
  rfl

theorem not_failsClean {f : Failure} {after : World} (failed : call.run w = (.error f, after))
    (changed : after.db.realms ≠ w.db.realms) : ¬ FailsClean call w :=
  fun clean => changed (congrArg Database.realms (clean f after failed))

theorem newRealm_changes (fresh : Fresh w) {pre : List RealmRow} :
    pre ++ [newRealm doc w.supply] ≠ w.db.realms := by
  intro same
  have mem : newRealm doc w.supply ∈ w.db.realms := by simp [← same]
  exact Nat.lt_irrefl _ (fresh.realms _ mem)

theorem deleteRealm_changes {name : String} (known : w.db.realms.find? (·.name = name) = some r) :
    (w.db.deleteRealm r).realms ≠ w.db.realms := by
  intro same
  have listed := mem_of_find?_eq_some known
  rw [← same] at listed
  simpa using (mem_filter.mp listed).2

theorem deleteRealm_frees {name : String} (known : w.db.realms.find? (·.name = name) = some r) :
    (w.db.deleteRealm r).realms.find? (·.name = name) = none := by
  have isName : r.name = name := by simpa using find?_some known
  rw [find?_eq_none]
  intro row mem
  have other := (mem_filter.mp mem).2
  simpa [isName] using other

theorem new_clean_iff (fresh : Fresh w) (ver : doc.version ≠ "")
    (name : doc.name ≠ "") (find : throws .findRealm = false)
    (unknown : w.db.realms.find? (·.name = doc.name) = none) :
    FailsClean (importRealm throws doc ow) w ↔
      (throws .keyPair = true ∨ throws .createRealm = true) ∨ Importable throws doc := by
  have runs : (importRealm throws doc ow).run w = _ :=
    importRealm_new ver name find unknown
  by_cases refused : throws .keyPair = true ∨ throws .createRealm = true
  · have failed := runs.trans (fillRealm_refused refused)
    exact iff_of_true (failsClean_of_refused ⟨_, failed⟩) (.inl refused)
  · have calls : throws .keyPair = false ∧ throws .createRealm = false := by simpa using refused
    have decided := fillRealm_decide fresh unknown calls.1 calls.2
    by_cases importable : Importable throws doc
    · exact iff_of_true (failsClean_of_ok (runs.trans (decided.runs importable))) (.inr importable)
    · obtain ⟨f, after, failed, holds⟩ := decided.fails importable
      refine iff_of_false (not_failsClean (runs.trans failed) ?_) (not_or.mpr ⟨refused, importable⟩)
      rw [holds]
      exact newRealm_changes fresh

theorem overwrite_clean_iff (fresh : Fresh w) (ver : doc.version ≠ "")
    (name : doc.name ≠ "") (find : throws .findRealm = false)
    (known : w.db.realms.find? (·.name = doc.name) = some r)
    (delete : throws .deleteRealm = false) :
    FailsClean (importRealm throws doc true) w ↔ Importable throws doc := by
  have runs := importRealm_overwrites ver name find known delete
  by_cases refused : throws .keyPair = true ∨ throws .createRealm = true
  · have failed := runs.trans (fillRealm_refused refused)
    refine iff_of_false (not_failsClean failed (deleteRealm_changes known)) fun importable => ?_
    exact refused.elim (by simp [importable.keyPair]) (by simp [importable.realm])
  · have calls : throws .keyPair = false ∧ throws .createRealm = false := by simpa using refused
    have decided := fillRealm_decide (fresh.deleteRealm r) (deleteRealm_frees known) calls.1 calls.2
    by_cases importable : Importable throws doc
    · exact iff_of_true (failsClean_of_ok (runs.trans (decided.runs importable))) importable
    · obtain ⟨f, after, failed, holds⟩ := decided.fails importable
      refine iff_of_false (not_failsClean (runs.trans failed) ?_) importable
      rw [holds]
      exact newRealm_changes fresh

/-- A failed import has changed nothing exactly when it was refused before its first write; any
later failure, of a document with something twice or of a call that throws, leaves a realm that
is half there and takes the old one away. -/
theorem import_clean_iff (throws : Throws) (doc : Document) (ow : Bool) (w : World)
    (fresh : Fresh w) :
    (∀ f after, (importRealm throws doc ow).run w = (.error f, after) → after.db = w.db) ↔
      Refused throws doc ow w ∨ Importable throws doc := by
  change FailsClean _ _ ↔ _
  by_cases early : doc.version = "" ∨ doc.name = "" ∨ throws .findRealm = true
  · refine iff_of_true (failsClean_of_refused (importRealm_refused early)) (.inl ?_)
    rcases early with ver | name | find
    · exact .inl ver
    · exact .inr (.inl name)
    · exact .inr (.inr (.inl find))
  · simp only [not_or, not_eq_true] at early
    obtain ⟨ver, name, find⟩ := early
    cases hit : w.db.realms.find? (·.name = doc.name) with
    | none =>
      rw [new_clean_iff fresh ver name find hit]
      simp [Refused, ver, name, find, hit]
    | some r =>
      by_cases refused : ow = false ∨ throws .deleteRealm = true
      · refine iff_of_true (failsClean_of_refused (importRealm_known hit refused)) (.inl ?_)
        simpa [Refused, ver, name, find, hit] using refused
      · have calls : ow = true ∧ throws .deleteRealm = false := by simpa using refused
        obtain ⟨rfl, delete⟩ := calls
        rw [overwrite_clean_iff fresh ver name find hit delete]
        simp [Refused, ver, name, find, hit, delete]

end Whole

def acmeWorld : World where
  db := { realms := [{ id := 0, name := "acme" }]
          signingKeys := [{ id := 0, realmId := 0, createdAt := 0 }]
          users := [{ id := 1, realmId := 0, username := "ada" }] }
  supply := 2

def acmeTwice : Document where
  version := "1"
  name := "acme"
  clientScopes := [{ name := "email" }, { name := "email" }]

theorem acmeWorld_fresh : Fresh acmeWorld := by constructor <;> simp [acmeWorld]

/-- Without the option to overwrite, the document is refused. -/
theorem acme_is_kept : acmeWorld.db.users.length = 1 ∧ ∀ f after,
    (importRealm (fun _ => false) acmeTwice false).run acmeWorld = (.error f, after) →
      after.db = acmeWorld.db :=
  ⟨rfl, (import_clean_iff _ acmeTwice false acmeWorld acmeWorld_fresh).mpr
    (.inl (.inr (.inr (.inr (.inl rfl)))))⟩

/-- With it, the second scope is the end of the user and of the key. -/
theorem acme_is_lost : ∃ f after,
    (importRealm (fun _ => false) acmeTwice true).run acmeWorld = (.error f, after) ∧
      after.db ≠ acmeWorld.db ∧ acmeWorld.db.users.length = 1 ∧ after.db.users = [] ∧
      acmeWorld.db.signingKeys.map (·.realmId) = [0] ∧
      after.db.signingKeys.map (·.realmId) = [2] := by
  refine ⟨.internal, _, rfl, fun same => ?_, rfl, rfl, rfl, rfl⟩
  exact absurd (congrArg (·.users.length) same) (by decide +kernel)

end Idenplane.Realms.Transfer
