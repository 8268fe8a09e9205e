import Idenplane.Scim.Resources

/-! # Listings stay in their realm

Two databases that agree on a realm give the same listings of it, as long as the clause of
the listing still asks for the realm after the caller's filter has been merged into it.
-/

namespace Idenplane.Scim

open List Where

theorem lookup_filter_ne {β : Type} {key other : String} (differs : other ≠ key)
    (es : List (String × β)) :
    (es.filter (·.1 ≠ key)).lookup other = es.lookup other := by
  induction es with
  | nil => rfl
  | cons e rest ih =>
    obtain ⟨name, v⟩ := e
    by_cases same : name = key
    · have skip : (other == name) = false := by simpa [same] using differs
      rw [filter_cons_of_neg (by simpa using same), lookup_cons, skip, ih]
    · rw [filter_cons_of_pos (by simpa using same), lookup_cons, lookup_cons, ih]

theorem Where.lookup_put (clause : Where) (key other : String) (filter : FieldFilter) :
    (clause.put key filter).lookup other =
      if other = key then some filter else clause.lookup other := by
  rw [put, lookup_append]
  by_cases same : other = key
  · subst same
    have gone : (clause.filter (·.1 ≠ other)).lookup other = none := by
      rw [lookup_eq_none_iff]
      intro e kept
      have differs : e.1 ≠ other := by simpa using (mem_filter.mp kept).2
      simpa using differs.symm
    rw [gone, lookup_cons_self, if_pos rfl]
    rfl
  · have skip : (other == key) = false := by simpa using same
    rw [lookup_filter_ne same, lookup_cons, skip, if_neg same]
    exact Option.or_none

def Where.Confined (realmId : String) (clause : Where) : Prop :=
  clause.lookup "realmId" = some (.equals (.text realmId))

/-- One more column filter confines the clause unless it takes the place of the realm's. -/
theorem confined_put_iff (realmId key : String) (filter : FieldFilter) :
    ((ofRealm realmId).put key filter).Confined realmId ↔
      (key = "realmId" → filter = .equals (.text realmId)) := by
  rw [Where.Confined, lookup_put]
  by_cases same : key = "realmId"
  · simp [same]
  · have differs : ¬"realmId" = key := fun h => same h.symm
    simp [same, differs, ofRealm]

theorem confined_merge_iff (realmId key : String) (filter : FieldFilter) :
    ((ofRealm realmId).merge ((ofRealm realmId).put key filter)).Confined realmId ↔
      (key = "realmId" → filter = .equals (.text realmId)) := by
  by_cases same : key = "realmId"
  · simp [same, Where.Confined, ofRealm, put, Where.merge]
  · have differs : ¬"realmId" = key := fun h => same h.symm
    have parts : (ofRealm realmId).put key filter =
        [("realmId", .equals (.text realmId)), (key, filter)] := by
      simp [ofRealm, put, differs]
    rw [parts]
    simp [same, differs, Where.Confined, Where.merge, lookup_put]

variable {clause : Where} {toPrismaWhere : String → String → Except String Where}

section Selection

variable {ρ α : Type} {prisma : Prisma ρ} {realmId : String} {selected : ρ → Bool}

theorem realmId_of_selected (confined : clause.Confined realmId) (ok : prisma.select clause = some selected) {row : ρ}
    (isSelected : selected row = true) : prisma.realmId row = realmId := by
  induction clause generalizing selected with
  | nil => simp [Where.Confined] at confined
  | cons e rest ih =>
    obtain ⟨key, filter⟩ := e
    rw [Prisma.select] at ok
    cases first : prisma.test key filter with
    | none => simp [first] at ok
    | some passes =>
      cases os : prisma.select rest with
      | none => simp [first, os] at ok
      | some remaining =>
        simp only [first, os, bind_eq_bind, bind_some, some.injEq] at ok
        subst ok
        rw [and_eq_true] at isSelected
        by_cases same : key = "realmId"
        · subst same
          rw [Where.Confined, lookup_cons_self, some.injEq] at confined
          subst confined
          rw [prisma.test_realmId, some.injEq] at first
          subst first
          simpa using isSelected.1
        · have skip : ("realmId" == key) = false := by simpa using fun h => same h.symm
          rw [Where.Confined, lookup_cons, skip] at confined
          exact ih confined os isSelected.2

def inRealm (prisma : Prisma ρ) (realmId : String) (rows : List ρ) : List ρ :=
  rows.filter fun row => prisma.realmId row = realmId

theorem filter_selected (confined : clause.Confined realmId) (ok : prisma.select clause = some selected) (rows : List ρ) :
    rows.filter selected = (inRealm prisma realmId rows).filter selected := by
  rw [inRealm, filter_filter]
  apply filter_congr
  intro row _
  cases isSelected : selected row with
  | false => simp
  | true => simp [realmId_of_selected confined ok isSelected]

/-- A listing with a confined clause sees one realm. -/
theorem findAll_congr {toScim : ρ → Option α} {options : ListOptions} {rows others : List ρ}
    (confined : ∀ clause, listWhere toPrismaWhere realmId options.filter = some clause →
      clause.Confined realmId)
    (agree : inRealm prisma realmId rows = inRealm prisma realmId others) :
    findAll prisma toPrismaWhere toScim realmId options rows =
      findAll prisma toPrismaWhere toScim realmId options others := by
  unfold findAll
  cases built : listWhere toPrismaWhere realmId options.filter with
  | none => rfl
  | some clause =>
    dsimp only
    cases ok : prisma.select clause with
    | none => rfl
    | some selected =>
      have same : rows.filter selected = others.filter selected := by
        rw [filter_selected (confined clause built) ok rows,
          filter_selected (confined clause built) ok others, agree]
      simp only [bind_eq_bind, bind_some, same]

end Selection

section Clauses

variable (numberText : String → String)

/-- The filter does not touch the realm's column, or asks for the realm once more. -/
def SparesRealm (filter realmId : String) : Prop :=
  ∀ parsed, parseScimFilter filter = .ok parsed → parsed.attribute_ = "realmId" →
    parsed.operator = "eq" ∧ parsed.value = .text realmId

variable {numberText}

theorem fieldOf_eq_realmId (name : String) : fieldOf name = "realmId" ↔ name = "realmId" := by
  constructor
  · intro mapped
    unfold fieldOf at mapped
    cases found : (attrToField ++ inheritedNames).lookup name with
    | none => simpa [found] using mapped
    | some field =>
      rw [found] at mapped
      obtain rfl : field = "realmId" := mapped
      obtain ⟨pre, after, es, -⟩ := lookup_eq_some_iff.mp found
      have mem : (name, "realmId") ∈ attrToField ++ inheritedNames := by simp [es]
      simp [attrToField, inheritedNames, nativeCode] at mem
  · rintro rfl
    decide

variable (numberText) in
theorem operatorFilter_eq_equals (operator : String) (v : FilterValue) (realmId : String)
    (known : operator ∈ operators) :
    ∃ filter, operatorFilter numberText operator v = some filter ∧
      (filter = .equals (.text realmId) ↔ operator = "eq" ∧ v = .text realmId) := by
  simp only [operators, mem_cons, not_mem_nil, or_false] at known
  rcases known with rfl | rfl | rfl | rfl | rfl | rfl | rfl | rfl | rfl <;> exact ⟨_, rfl, by simp⟩

theorem parseScimFilter_operator {filter : String} {parsed : FilterParseResult}
    (ok : parseScimFilter filter = .ok parsed) : parsed.operator ∈ operators := by
  unfold parseScimFilter at ok
  split at ok
  · cases ok
  · dsimp only at ok
    split at ok
    · cases ok
    · rename_i name operator rawValue hit
      cases ok
      unfold matchFilter at hit
      dsimp only at hit
      split at hit
      · split at hit
        · rename_i conditions
          simp only [and_eq_true, decide_eq_true_eq] at conditions
          simp only [some.injEq, Prod.mk.injEq] at hit
          rw [← hit.2.1]
          exact conditions.1.1.1.2
        · cases hit
      · cases hit

theorem whereUser_ok_iff {filter realmId : String} :
    scimFilterToPrismaWhereUser numberText filter realmId = .ok clause ↔
      ∃ parsed comparison, parseScimFilter filter = .ok parsed ∧
        operatorFilter numberText parsed.operator parsed.value = some comparison ∧
        clause = (ofRealm realmId).put (fieldOf parsed.attribute_) comparison := by
  unfold scimFilterToPrismaWhereUser
  cases parseScimFilter filter with
  | error msg => simp [bind, Except.bind]
  | ok parsed =>
    cases hit : operatorFilter numberText parsed.operator parsed.value with
    | none => simp [bind, Except.bind, hit]
    | some comparison => simp [bind, Except.bind, hit, eq_comm]

theorem whereGroup_ok {filter realmId : String}
    (ok : scimFilterToPrismaWhereGroup numberText filter realmId = .ok clause) :
    ∃ key comparison, key ≠ "realmId" ∧ clause = (ofRealm realmId).put key comparison := by
  unfold scimFilterToPrismaWhereGroup at ok
  cases parsing : parseScimFilter filter with
  | error msg => simp [parsing, bind, Except.bind] at ok
  | ok parsed =>
    simp only [parsing, bind, Except.bind] at ok
    split at ok
    · split at ok
      · split at ok
        · cases ok
          exact ⟨"name", _, by decide, rfl⟩
        · cases ok
      · cases ok
    · split at ok
      · split at ok
        · cases ok
          exact ⟨"id", _, by decide, rfl⟩
        · cases ok
      · cases ok

end Clauses

section Realms

variable (rendering : Rendering) (users : Prisma DbUserWithGroups)
  (groups : Prisma DbGroupWithUserGroups)

/-- A filter keeps to a realm: its clauses ask for the realm, before and after they are merged,
and the listings with it depend on the rows of the realm only. -/
structure KeepsToRealm (filter realmId : String) : Prop where
  user_clause : ∀ clause, scimFilterToPrismaWhereUser rendering.numberText filter realmId =
    .ok clause → clause.Confined realmId ∧ ((ofRealm realmId).merge clause).Confined realmId
  group_clause : ∀ clause, scimFilterToPrismaWhereGroup rendering.numberText filter realmId =
    .ok clause → clause.Confined realmId ∧ ((ofRealm realmId).merge clause).Confined realmId
  user_listing : ∀ options rows others, options.filter = some filter →
    inRealm users realmId rows = inRealm users realmId others →
    usersFindAll rendering users realmId options rows =
      usersFindAll rendering users realmId options others
  group_listing : ∀ options rows others, options.filter = some filter →
    inRealm groups realmId rows = inRealm groups realmId others →
    groupsFindAll rendering groups realmId options rows =
      groupsFindAll rendering groups realmId options others

variable {rendering users groups} {filter realmId : String}

variable (rendering) in
theorem user_clause_confined_iff :
    (∀ clause, scimFilterToPrismaWhereUser rendering.numberText filter realmId = .ok clause →
      clause.Confined realmId ∧ ((ofRealm realmId).merge clause).Confined realmId) ↔
      SparesRealm filter realmId := by
  constructor
  · intro confined parsed parsing named
    obtain ⟨comparison, hit, equals⟩ := operatorFilter_eq_equals
      rendering.numberText parsed.operator parsed.value realmId
      (parseScimFilter_operator parsing)
    have kept := (confined _ (whereUser_ok_iff.mpr ⟨parsed, comparison, parsing, hit, rfl⟩)).1
    rw [confined_put_iff, fieldOf_eq_realmId] at kept
    exact equals.mp (kept named)
  · intro spares clause built
    obtain ⟨parsed, comparison, parsing, hit, rfl⟩ := whereUser_ok_iff.mp built
    obtain ⟨other, foundToo, equals⟩ := operatorFilter_eq_equals
      rendering.numberText parsed.operator parsed.value realmId
      (parseScimFilter_operator parsing)
    obtain rfl : comparison = other := some.inj (hit.symm.trans foundToo)
    rw [confined_put_iff, confined_merge_iff, fieldOf_eq_realmId, and_self]
    exact fun named => equals.mpr (spares parsed parsing named)

theorem group_clause_confined
    (built : scimFilterToPrismaWhereGroup rendering.numberText filter realmId = .ok clause) :
    clause.Confined realmId ∧ ((ofRealm realmId).merge clause).Confined realmId := by
  obtain ⟨key, comparison, other, rfl⟩ := whereGroup_ok built
  rw [confined_put_iff, confined_merge_iff, and_self]
  exact fun named => absurd named other

theorem listWhere_confined (confined : ∀ clause, toPrismaWhere filter realmId = .ok clause →
      ((ofRealm realmId).merge clause).Confined realmId) (built : listWhere toPrismaWhere realmId (some filter) = some clause) :
    clause.Confined realmId := by
  unfold listWhere at built
  dsimp only at built
  split at built
  · cases built
    rfl
  · split at built
    · rename_i found
      cases built
      exact confined _ found
    · cases built

/-- Exactly the filters that do not name the realm's column, or ask there for the realm itself,
keep to the realm. -/
theorem keeps_to_realm_iff (rendering : Rendering) (users : Prisma DbUserWithGroups)
    (groups : Prisma DbGroupWithUserGroups) (filter realmId : String) :
    KeepsToRealm rendering users groups filter realmId ↔ SparesRealm filter realmId := by
  constructor
  · intro keeps
    exact (user_clause_confined_iff rendering).mp keeps.user_clause
  · intro spares
    have confined := (user_clause_confined_iff rendering).mpr spares
    refine {
      user_clause := confined
      group_clause := fun _ => group_clause_confined
      user_listing := ?_
      group_listing := ?_ }
    · intro options rows os asked agree
      apply findAll_congr _ agree
      intro clause built
      rw [asked] at built
      exact listWhere_confined (fun clause hit => (confined clause hit).2) built
    · intro options rows os asked agree
      apply findAll_congr _ agree
      intro clause built
      rw [asked] at built
      exact listWhere_confined (fun clause hit => (group_clause_confined hit).2) built

def wholeTable {ρ : Type} (realmId : ρ → String) : Prisma ρ where
  realmId := realmId
  test key filter :=
    match key, filter with
    | "realmId", .equals (.text realm) => some fun row => decide (realmId row = realm)
    | "realmId", .not (.text realm) => some fun row => decide (realmId row ≠ realm)
    | _, _ => none
  page _ _ rows := some rows
  test_realmId _ := rfl

def plainRendering : Rendering where
  numberText := id
  toISOString := toString
  filterScimUserAttributes user _ := some user

/-- A listing of the realm `a` that finds the users of all realms but `x`. -/
theorem foreign_users_are_listed :
    ¬KeepsToRealm plainRendering (wholeTable (·.realmId)) (wholeTable (·.realmId))
      "realmId ne \"x\"" "a" := by
  intro keeps
  let foreign : DbUserWithGroups := ⟨"1", "b", "eve", none, none, none, true, none, 0, 0, []⟩
  have same := keeps.user_listing { filter := some "realmId ne \"x\"" } [] [foreign] rfl rfl
  have totals := congrArg (Option.map (·.totalResults)) same
  revert totals
  decide

end Realms

end Idenplane.Scim
