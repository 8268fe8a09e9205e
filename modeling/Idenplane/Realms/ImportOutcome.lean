import Idenplane.Realms.Transfer
import Mathlib.Data.List.Induction

/-! # What an import leaves behind

An import succeeds exactly when no call throws and nothing in the document is there twice, and
then the rows that it has added are a function of the document.  When it does not succeed, the
realm is there all the same.
-/

namespace Idenplane.Realms.Transfer

open Atomic Auth Admin Properties

variable {base : Nat}

section Numbered

variable {α β : Type}

def numbered (row : Nat → α → β) (base : Nat) (entries : List α) : List β :=
  (entries.zipIdx base).map fun e => row e.2 e.1

@[simp] theorem numbered_nil (row : Nat → α → β) (base : Nat) : numbered row base [] = [] := rfl

@[simp] theorem numbered_snoc (row : Nat → α → β) (base : Nat) (es : List α) (e : α) :
    numbered row base (es ++ [e]) = numbered row base es ++ [row (base + es.length) e] := by
  simp [numbered, List.zipIdx_append]

theorem numbered_length (row : Nat → α → β) (base : Nat) (es : List α) :
    (numbered row base es).length = es.length := by simp [numbered]

theorem mem_numbered {row : Nat → α → β} {es : List α} {hit : β} : hit ∈ numbered row base es ↔
      ∃ i entry, es[i]? = some entry ∧ hit = row (base + i) entry := by
  simp only [numbered, mem_map, Prod.exists, List.mem_zipIdx_iff_le_and_getElem?_sub]
  constructor
  · rintro ⟨entry, id, ⟨small, isEntry⟩, rfl⟩
    exact ⟨id - base, entry, isEntry, by rw [Nat.add_sub_cancel' small]⟩
  · rintro ⟨i, entry, isEntry, rfl⟩
    exact ⟨entry, base + i, ⟨le_add_right .., by rwa [Nat.add_sub_cancel_left]⟩, rfl⟩

theorem map_numbered {γ : Type} {row : Nat → α → β} {column : β → γ} {value : α → γ}
    (same : ∀ id e, column (row id e) = value e) (base : Nat) (es : List α) :
    (numbered row base es).map column = es.map value := by
  rw [numbered, map_map]
  induction es generalizing base with
  | nil => rfl
  | cons e es ih => simp [same, ih]

def idsFrom (base : Nat) (names : List String) : Ids :=
  (names.zipIdx base).foldl (fun ids e => set ids e.1 e.2) []

@[simp] theorem idsFrom_nil (base : Nat) : idsFrom base [] = [] := rfl

@[simp] theorem idsFrom_snoc (base : Nat) (ns : List String) (name : String) :
    idsFrom base (ns ++ [name]) = set (idsFrom base ns) name (base + ns.length) := by
  simp [idsFrom, List.zipIdx_append]

theorem get_idsFrom {base id : Nat} {ns : List String} {name : String} :
    get (idsFrom base ns) name = some id ↔
      ∃ i, id = base + i ∧ ns[i]? = some name ∧ ∀ j, i < j → ns[j]? ≠ some name := by
  induction ns using List.reverseRecOn with
  | nil => simp [Properties.get]
  | append_singleton ns last ih =>
    rw [idsFrom_snoc]
    by_cases same : name = last
    · subst same
      rw [get_set_self]
      constructor
      · intro hit
        refine ⟨ns.length, (some.inj hit).symm, by simp, fun j later => ?_⟩
        rw [List.getElem?_eq_none (by simp; omega)]
        simp
      · rintro ⟨i, rfl, hit, final⟩
        have small : i < (ns ++ [name]).length := (List.getElem?_eq_some_iff.mp hit).1
        have isLast : i = ns.length := by
          by_contra other
          have before : i < ns.length := by simp at small; omega
          exact final ns.length before (by simp)
        rw [isLast]
    · have shorter (i : Nat) : (ns ++ [last])[i]? = some name ↔ ns[i]? = some name := by
        rw [List.getElem?_append]
        split
        case isTrue => rfl
        case isFalse outside =>
          rw [List.getElem?_eq_none (by omega : ns.length ≤ i)]
          simp [List.getElem?_singleton, Ne.symm same]
      simp only [get_set_of_ne same, ih, shorter, ne_eq]

end Numbered

def Holds (realms : List RealmRow) (w : World) : Prop := w.db.realms = realms

variable {throws : Throws} {realms : List RealmRow} {w : World} {place : Statement}

variable {taken : Database → Bool}

theorem statement_decides {α : Type} {effect : World → Option α × World} {free : Prop} {a : α}
    {t : World} (holds : Holds realms w) (works : free → effect w = (some a, t))
    (clashes : ¬free → effect w = (none, w)) : (statement throws place effect).Decides
      (Holds realms) w (throws place = false ∧ free) a t := by
  cases isThrown : throws place with
  | true =>
    refine ⟨fun ok => Bool.noConfusion ok.1, fun _ => ⟨.internal, w, ?_, holds⟩⟩
    simp [statement, isThrown, require]
  | false =>
    by_cases isFree : free
    · refine ⟨fun _ => ?_, fun refused => absurd ⟨rfl, isFree⟩ refused⟩
      simp [statement, isThrown, works isFree, require, orFail]
    · refine ⟨fun ok => absurd ok.2 isFree, fun _ => ⟨.internal, w, ?_, holds⟩⟩
      simp [statement, isThrown, clashes isFree, require, orFail]

theorem insert_decides {grown : Nat → Database → Database} (holds : Holds realms w) :
    (statement throws place (insert taken grown)).Decides (Holds realms) w
      (throws place = false ∧ taken w.db = false) w.supply
      { db := grown w.supply w.db, supply := w.supply + 1 } :=
  statement_decides holds (fun free => by simp [insert, free]) fun isTaken => by
    simp [insert, eq_true_of_ne_false isTaken]

theorem append_decides {grown : Database → Database} (holds : Holds realms w) :
    (statement throws place (append taken grown)).Decides (Holds realms) w
      (throws place = false ∧ taken w.db = false) () { w with db := grown w.db } :=
  statement_decides holds (fun free => by simp [append, free]) fun isTaken => by
    simp [append, eq_true_of_ne_false isTaken]

structure Rows (ρ : Type) where
  rows : Database → List ρ
  put : List ρ → Database → Database
  rows_put : ∀ list db, rows (put list db) = list := by intros; rfl
  put_put : ∀ list list' db, put list (put list' db) = put list db := by intros; rfl
  put_rows : ∀ db, put (rows db) db = db := by intros; rfl
  realms : ∀ list db, (put list db).realms = db.realms := by intros; rfl

namespace Rows

variable {ρ α κ : Type} (table : Rows ρ) {keys : ρ → List κ} {row : α → Option ρ}

def added (w : World) (new : List ρ) : World :=
  { w with db := table.put (table.rows w.db ++ new) w.db }

theorem added_nil (w : World) : table.added w [] = w := by
  rw [added, append_nil, table.put_rows]

theorem added_added (w : World) (first snd : List ρ) :
    table.added (table.added w first) snd = table.added w (first ++ snd) := by
  simp only [added, table.rows_put, table.put_put, append_assoc]

theorem added_rows (w : World) (new : List ρ) :
    table.rows (table.added w new).db = table.rows w.db ++ new := table.rows_put ..

theorem added_holds (holds : Holds realms w) (new : List ρ) :
    Holds realms (table.added w new) := (table.realms ..).trans holds

theorem flatMap_filterMap (keys : ρ → List κ) (row : α → Option ρ) (xs : List α) :
    (xs.filterMap row).flatMap keys = xs.flatMap fun item => (row item).toList.flatMap keys := by
  induction xs with
  | nil => rfl
  | cons item xs ih => cases isRow : row item <;> simp [isRow, ih]

def Clashes (keys : ρ → List κ) (taken : Database → Bool) (new : ρ) : Prop :=
  ∀ db, taken db = true ↔ ∃ key ∈ keys new, key ∈ (table.rows db).flatMap keys

theorem append_decides_rows {new : ρ}
    (clashes : table.Clashes keys taken new) (holds : Holds realms w) :
    (statement throws place (append taken fun db => table.put (table.rows db ++ [new]) db)).Decides
      (Holds realms) w
      (throws place = false ∧ ∀ key ∈ keys new, key ∉ (table.rows w.db).flatMap keys) ()
      (table.added w [new]) := by
  refine (append_decides holds).congr (and_congr_right fun _ => ?_)
  rw [← not_eq_true, clashes]
  simp

/-- A loop that adds at most one row a turn succeeds when no turn throws and no key is there
twice. -/
theorem append_loop (body : Nat → α → Unit → Call Unit) (place : Nat → Statement)
    (taken : ρ → Database → Bool) (row : α → Option ρ) (alone : ∀ new, (keys new).Nodup)
    (clashes : ∀ new, table.Clashes keys (taken new) new)
    (isBody : ∀ j item, body j item () = match row item with
      | none => pure ()
      | some new => statement throws (place j)
          (append (taken new) fun db => table.put (table.rows db ++ [new]) db))
    (holds : Holds realms w) (xs : List α) :
    (forEach body 0 xs ()).Decides (Holds realms) w
      ((∀ j item, xs[j]? = some item → (row item).isSome → throws (place j) = false) ∧
        ((xs.filterMap row).flatMap keys).Nodup ∧
        ∀ key ∈ (xs.filterMap row).flatMap keys, key ∉ (table.rows w.db).flatMap keys)
      () (table.added w (xs.filterMap row)) := by
  have turn (pre : List α) (item : α) : (body pre.length item ()).Decides (Holds realms)
        (table.added w (pre.filterMap row))
        (((row item).isSome → throws (place pre.length) = false) ∧
          (((row item).toList.flatMap keys).Nodup ∧ ∀ key ∈ (row item).toList.flatMap keys,
            key ∉ (table.rows w.db).flatMap keys ++
              pre.flatMap fun item => (row item).toList.flatMap keys))
        () (table.added w ((pre ++ [item]).filterMap row)) := by
    rw [isBody, List.filterMap_append, ← table.added_added]
    cases isRow : row item with
    | none =>
      have idle : (pure () : Call Unit).Decides (Holds realms)
          (table.added w (pre.filterMap row)) True ()
          (table.added w (pre.filterMap row)) := .done () _
      simpa [isRow, table.added_nil] using idle
    | some new =>
      have step : (statement throws (place pre.length)
          (append (taken new) fun db => table.put (table.rows db ++ [new]) db)).Decides _ _ _ _ _ :=
        table.append_decides_rows (clashes new) (table.added_holds holds (pre.filterMap row))
      rw [table.added_rows, List.flatMap_append, flatMap_filterMap] at step
      simpa [isRow, alone] using step
  have loop := Decides.loop _ (fun _ => ()) (fun pre => table.added w (pre.filterMap row)) turn xs
  rw [List.filterMap_nil, table.added_nil] at loop
  refine loop.congr ?_
  rw [accepts_and, Prog.accepts_each fun j item => (row item).isSome → throws (place j) = false,
    accepts_keys, flatMap_filterMap]
  simp

def inserted (w : World) (new : List ρ) : World :=
  { db := table.put (table.rows w.db ++ new) w.db, supply := w.supply + new.length }

theorem inserted_nil (w : World) : table.inserted w [] = w := by
  rw [inserted, append_nil, table.put_rows]
  rfl

theorem inserted_inserted (w : World) (first snd : List ρ) :
    table.inserted (table.inserted w first) snd = table.inserted w (first ++ snd) := by
  simp only [inserted, table.rows_put, table.put_put, append_assoc, length_append, Nat.add_assoc]

theorem inserted_rows (w : World) (new : List ρ) :
    table.rows (table.inserted w new).db = table.rows w.db ++ new := table.rows_put ..

theorem inserted_supply (w : World) (new : List ρ) :
    (table.inserted w new).supply = w.supply + new.length := rfl

theorem inserted_holds (holds : Holds realms w) (new : List ρ) :
    Holds realms (table.inserted w new) := (table.realms ..).trans holds

theorem insert_decides_rows {new : Nat → ρ}
    (clashes : table.Clashes keys taken (new w.supply)) (holds : Holds realms w) :
    (statement throws place
        (insert taken fun id db => table.put (table.rows db ++ [new id]) db)).Decides
      (Holds realms) w (throws place = false ∧
        ∀ key ∈ keys (new w.supply), key ∉ (table.rows w.db).flatMap keys)
      w.supply (table.inserted w [new w.supply]) := by
  refine (insert_decides holds).congr (and_congr_right fun _ => ?_)
  rw [← not_eq_true, clashes]
  simp

/-- A turn of a loop that gives ids to names: the row may depend on the names so far. -/
def grow (skip : α → Bool) (name : α → String) (new : Ids → Nat → α → ρ) (base : Nat)
    (grown : Ids × List ρ) (item : α) : Ids × List ρ :=
  if skip item then grown
  else (set grown.1 (name item) (base + grown.2.length),
    grown.2 ++ [new grown.1 (base + grown.2.length) item])

theorem keys_grow (skip : α → Bool) (name : α → String) (new : Ids → Nat → α → ρ)
    (keys : ρ → List κ) (itemKeys : α → List κ) (isKeys : ∀ ids id item, keys (new ids id item) = itemKeys item)
    (base : Nat) (grown : Ids × List ρ) (xs : List α) :
    ((xs.foldl (grow skip name new base) grown).2).flatMap keys =
      grown.2.flatMap keys ++ xs.flatMap fun item => if skip item then [] else itemKeys item := by
  induction xs generalizing grown with
  | nil => simp
  | cons item xs ih =>
    rw [foldl_cons, ih]
    cases skipped : skip item <;> simp [grow, skipped, isKeys]

theorem insert_loop (body : Nat → α → Ids → Call Ids) (reads : Nat → Bool)
    (place : Nat → Statement) (skip : α → Bool) (taken : α → Database → Bool)
    (new : Ids → Nat → α → ρ) (name : α → String) (itemKeys : α → List κ)
    (isKeys : ∀ ids id item, keys (new ids id item) = itemKeys item)
    (alone : ∀ item, (itemKeys item).Nodup)
    (clashes : ∀ ids id item, table.Clashes keys (taken item) (new ids id item))
    (isBody : ∀ j item ids, body j item ids = do
      require (!reads j) .internal
      if skip item then pure ids
      else
        let id ← statement throws (place j) (insert (taken item) fun id db =>
          table.put (table.rows db ++ [new ids id item]) db)
        pure (set ids (name item) id))
    (holds : Holds realms w) (ids : Ids) (xs : List α) :
    (forEach body 0 xs ids).Decides (Holds realms) w ((∀ j item, xs[j]? = some item →
          reads j = false ∧ (skip item = false → throws (place j) = false)) ∧
        (xs.flatMap fun item => if skip item then [] else itemKeys item).Nodup ∧
        ∀ key ∈ xs.flatMap fun item => if skip item then [] else itemKeys item,
          key ∉ (table.rows w.db).flatMap keys)
      (xs.foldl (grow skip name new w.supply) (ids, [])).1
      (table.inserted w (xs.foldl (grow skip name new w.supply) (ids, [])).2) := by
  have keysOf (pre : List α) :
      ((pre.foldl (grow skip name new w.supply) (ids, [])).2).flatMap keys =
        pre.flatMap fun item => if skip item then [] else itemKeys item := by
    rw [keys_grow skip name new keys itemKeys isKeys]
    rfl
  have turn (pre : List α) (item : α) : (body pre.length item
          (pre.foldl (grow skip name new w.supply) (ids, [])).1).Decides (Holds realms)
        (table.inserted w (pre.foldl (grow skip name new w.supply) (ids, [])).2)
        ((reads pre.length = false ∧ (skip item = false → throws (place pre.length) = false)) ∧
          ((if skip item then [] else itemKeys item).Nodup ∧
            ∀ key ∈ (if skip item then [] else itemKeys item),
              key ∉ (table.rows w.db).flatMap keys ++
                pre.flatMap fun item => if skip item then [] else itemKeys item))
        ((pre ++ [item]).foldl (grow skip name new w.supply) (ids, [])).1
        (table.inserted w ((pre ++ [item]).foldl (grow skip name new w.supply) (ids, [])).2) := by
    rw [isBody, foldl_append, ← keysOf]
    generalize pre.foldl (grow skip name new w.supply) (ids, []) = grown
    have held := table.inserted_holds holds grown.2
    cases isRead : reads pre.length with
    | true =>
      refine ⟨fun ok => Bool.noConfusion ok.1.1, fun _ => ⟨.internal, _, ?_, held⟩⟩
      simp [require]
    | false =>
      cases skipped : skip item with
      | true =>
        have idle : (pure grown.1 : Call Ids).Decides (Holds realms)
          (table.inserted w grown.2) True grown.1 (table.inserted w grown.2) := .done _ _
        simpa [require, skipped, grow] using idle
      | false =>
        have step : (statement throws (place pre.length) (insert (taken item) fun id db =>
            table.put (table.rows db ++ [new grown.1 id item]) db)).Decides _ _ _ _ _ :=
          table.insert_decides_rows (clashes _ _ _) held
        have rest : (statement throws (place pre.length) (insert (taken item) fun id db =>
            table.put (table.rows db ++ [new grown.1 id item]) db) >>= fun id =>
              (pure (set grown.1 (name item) id) : Call Ids)).Decides _ _ _ _ _ :=
          step.bind fun _ => .done _ _
        rw [isKeys, table.inserted_rows, List.flatMap_append, table.inserted_inserted] at rest
        simpa [require, skipped, grow, alone, inserted_supply] using rest
  have loop := Decides.loop _ (fun pre => (pre.foldl (grow skip name new w.supply) (ids, [])).1)
    (fun pre => table.inserted w (pre.foldl (grow skip name new w.supply) (ids, [])).2)
    turn xs
  simp only [foldl_nil] at loop
  rw [table.inserted_nil] at loop
  refine loop.congr ?_
  rw [accepts_and, Prog.accepts_each fun j item =>
    reads j = false ∧ (skip item = false → throws (place j) = false), accepts_keys]
  simp

end Rows

def scopeTable : Rows ScopeRow :=
  { rows := (·.clientScopes), put := fun list db => { db with clientScopes := list } }

def mapperTable : Rows MapperRow :=
  { rows := (·.protocolMappers), put := fun list db => { db with protocolMappers := list } }

def clientTable : Rows Client :=
  { rows := (·.clients), put := fun list db => { db with clients := list } }

def roleTable : Rows Role :=
  { rows := (·.roles), put := fun list db => { db with roles := list } }

def groupTable : Rows Group :=
  { rows := (·.groups), put := fun list db => { db with groups := list } }

def providerTable : Rows ProviderRow :=
  { rows := (·.identityProviders), put := fun list db => { db with identityProviders := list } }

def defaultTable : Rows ClientScopeLink :=
  { rows := (·.defaultScopes), put := fun list db => { db with defaultScopes := list } }

def optionalTable : Rows ClientScopeLink :=
  { rows := (·.optionalScopes), put := fun list db => { db with optionalScopes := list } }

def userTable : Rows User :=
  { rows := (·.users), put := fun list db => { db with users := list } }

def userRoleTable : Rows UserRole :=
  { rows := (·.userRoles), put := fun list db => { db with userRoles := list } }

def userGroupTable : Rows UserGroup :=
  { rows := (·.userGroups), put := fun list db => { db with userGroups := list } }

open Rows

theorem foldl_grow_all {α ρ : Type} (name : α → String) (new : Nat → α → ρ) (base : Nat)
    (xs : List α) : xs.foldl (grow (fun _ => false) name (fun _ => new) base) ([], []) =
      (idsFrom base (xs.map name), numbered new base xs) := by
  have general (pre : List α) : xs.foldl (grow (fun _ => false) name (fun _ => new) base)
          (idsFrom base (pre.map name), numbered new base pre) =
        (idsFrom base ((pre ++ xs).map name), numbered new base (pre ++ xs)) := by
    induction xs generalizing pre with
    | nil => simp
    | cons item xs ih =>
      have grown : grow (fun _ => false) name (fun _ => new) base
          (idsFrom base (pre.map name), numbered new base pre) item =
            (idsFrom base ((pre ++ [item]).map name), numbered new base (pre ++ [item])) := by
        simp [grow, numbered_length]
      rw [foldl_cons, grown, ih, append_assoc, singleton_append]
  exact general []

variable {realmId : Nat}

theorem flatMap_unless {α κ : Type} (skip : α → Bool) (key : α → κ) (xs : List α) :
    (xs.flatMap fun item => if skip item then [] else [key item]) =
      (xs.filter (!skip ·)).map key := by
  induction xs with
  | nil => rfl
  | cons item xs ih => cases skipped : skip item <;> simp [skipped, ih]

theorem nodup_pair {α κ κ' : Type} (first : κ) (snd : α → κ') (xs : List α) :
    (xs.map fun item => (first, snd item)).Nodup ↔ (xs.map snd).Nodup := by
  have split : (xs.map fun item => (first, snd item)) =
      (xs.map snd).map (Prod.mk first) := by rw [map_map]; rfl
  rw [split, List.nodup_map_iff (Prod.mk_right_injective first)]

/-- Loops over a table in which a name is unique in its realm. -/
theorem named_loop {α ρ : Type} (table : Rows ρ) (r : ρ → Nat) (nameOf : ρ → String)
    (body : Nat → α → Ids → Call Ids) (reads : Nat → Bool) (place : Nat → Statement)
    (skip : α → Bool) (new : Ids → Nat → α → ρ) (name : α → String)
    (ours : ∀ ids id item, r (new ids id item) = realmId)
    (named : ∀ ids id item, nameOf (new ids id item) = name item)
    (isBody : ∀ j item ids, body j item ids = do
      require (!reads j) .internal
      if skip item then pure ids
      else
        let id ← statement throws (place j) (insert
          (fun db => (table.rows db).any fun row => r row = realmId && nameOf row = name item)
          fun id db => table.put (table.rows db ++ [new ids id item]) db)
        pure (set ids (name item) id))
    (holds : Holds realms w) (ids : Ids) (xs : List α) :
    (forEach body 0 xs ids).Decides (Holds realms) w ((∀ j item, xs[j]? = some item →
          reads j = false ∧ (skip item = false → throws (place j) = false)) ∧
        ((xs.filter (!skip ·)).map name).Nodup ∧
        ∀ item ∈ xs, skip item = false →
          ∀ row ∈ table.rows w.db, r row = realmId → nameOf row ≠ name item)
      (xs.foldl (grow skip name new w.supply) (ids, [])).1
      (table.inserted w (xs.foldl (grow skip name new w.supply) (ids, [])).2) := by
  have clashes (ids : Ids) (id : Nat) (item : α) :
      table.Clashes (fun row => [(r row, nameOf row)]) (fun db => (table.rows db).any fun row =>
        r row = realmId && nameOf row = name item) (new ids id item) := by
    intro db
    simp only [any_eq_true, and_eq_true, decide_eq_true_eq, mem_singleton,
      exists_eq_left, mem_flatMap, Prod.mk.injEq, ours, named]
    exact exists_congr fun row => and_congr_right fun _ => and_congr eq_comm eq_comm
  refine (table.insert_loop body reads place skip _ new name (fun item => [(realmId, name item)])
    (fun ids id item => by rw [ours, named]) (fun _ => nodup_singleton _) clashes isBody
    holds ids xs).congr (and_congr_right fun _ => ?_)
  rw [flatMap_unless]
  refine and_congr (nodup_pair realmId name _) ?_
  · simp only [mem_map, mem_filter, mem_flatMap, mem_singleton, not_eq_true']
    constructor
    · intro apart item isItem kept row isRow isOurs same
      exact apart _ ⟨item, ⟨isItem, kept⟩, rfl⟩ ⟨row, isRow, by rw [isOurs, same]⟩
    · rintro apart _ ⟨item, ⟨isItem, kept⟩, rfl⟩ ⟨row, isRow, same⟩
      obtain ⟨isOurs, same⟩ := Prod.mk.inj same
      exact apart item isItem kept row isRow isOurs.symm same.symm

theorem clients_decide (holds : Holds realms w)
    (unused : ∀ row ∈ w.db.clients, row.realmId ≠ realmId) (cs : List ImportedClient) :
    (forEach (createClient throws realmId) 0 cs []).Decides (Holds realms) w
      ((∀ j c, cs[j]? = some c → throws (.client j) = false) ∧
        (cs.map (·.clientId)).Nodup) (idsFrom w.supply (cs.map (·.clientId)))
      (clientTable.inserted w (numbered (clientRow realmId) w.supply cs)) := by
  have loop := named_loop clientTable (·.realmId) (·.clientId) (createClient throws realmId)
    (fun _ => false) .client (fun _ => false) (fun _ => clientRow realmId) (·.clientId)
    (fun _ _ _ => rfl) (fun _ _ _ => rfl) (fun _ _ _ => rfl) holds [] cs
  rw [foldl_grow_all] at loop
  refine loop.congr ?_
  simp only [Bool.not_false, List.filter_true, true_and, forall_const]
  exact ⟨fun ok => ⟨ok.1, ok.2.1⟩, fun ok =>
    ⟨ok.1, ok.2, fun _ _ row isRow isOurs => absurd isOurs (unused row isRow)⟩⟩

/-- A role of a client has a key, a role of the realm has none. -/
def roleKeys (role : Role) : List (Nat × Nat × String) :=
  (role.clientId.map fun client => (role.realmId, client, role.name)).toList

def clientRoles (clientIds : Ids) (roles : List ImportedRole) : List (Nat × String) :=
  roles.filterMap fun role =>
    (dbClientId clientIds role.toRoleName).map fun client => (client, role.name)

theorem mem_roleKeys {role : Role} {key : Nat × Nat × String} : key ∈ roleKeys role ↔
      role.realmId = key.1 ∧ role.clientId = some key.2.1 ∧ role.name = key.2.2 := by
  obtain ⟨r, c, name⟩ := key
  cases isClient : role.clientId with
  | none => simp [roleKeys, isClient]
  | some owner =>
    simp only [roleKeys, isClient, map_some, toList_some, mem_singleton, Prod.mk.injEq, some.injEq]
    exact and_congr eq_comm (and_congr eq_comm eq_comm)

theorem roles_decide (clientIds : Ids) (holds : Holds realms w)
    (unused : ∀ row ∈ w.db.roles, row.realmId ≠ realmId) (rs : List ImportedRole) :
    (forEach (createRole throws clientIds realmId) 0 rs []).Decides (Holds realms) w
      ((∀ j role, rs[j]? = some role → throws (.role j) = false) ∧ (clientRoles clientIds rs).Nodup)
      (idsFrom w.supply (rs.map fun role => roleKey role.toRoleName))
      (roleTable.inserted w (numbered (roleRow clientIds realmId) w.supply rs)) := by
  have clashes (ids : Ids) (id : Nat) (role : ImportedRole) :
      roleTable.Clashes roleKeys (fun db => (dbClientId clientIds role.toRoleName).any fun c =>
        db.roles.any fun row => row.realmId = realmId && row.clientId = some c &&
          row.name = role.name) (roleRow clientIds realmId id role) := by
    intro db
    cases isClient : dbClientId clientIds role.toRoleName with
    | none => simp [roleKeys, roleRow, isClient]
    | some c =>
      have own : roleKeys (roleRow clientIds realmId id role) =
          [(realmId, c, role.name)] := by simp [roleKeys, roleRow, isClient]
      simp [own, mem_roleKeys, roleTable, and_assoc]
  have alone (role : ImportedRole) : (roleKeys (roleRow clientIds realmId 0 role)).Nodup := by
    cases isClient : dbClientId clientIds role.toRoleName <;> simp [roleKeys, roleRow, isClient]
  have loop := roleTable.insert_loop (createRole throws clientIds realmId) (fun _ => false) .role
    (fun _ => false) _ (fun _ => roleRow clientIds realmId) (fun role => roleKey role.toRoleName)
    (fun role => roleKeys (roleRow clientIds realmId 0 role)) (fun _ _ _ => rfl) alone clashes
    (fun _ _ _ => rfl) holds [] rs
  rw [foldl_grow_all] at loop
  refine loop.congr ?_
  have keys : (rs.flatMap fun role => roleKeys (roleRow clientIds realmId 0 role)) =
      (clientRoles clientIds rs).map fun key => (realmId, key) := by
    clear loop
    induction rs with
    | nil => rfl
    | cons role rs ih =>
      cases isClient : dbClientId clientIds role.toRoleName <;>
        simpa [clientRoles, roleKeys, roleRow, isClient] using ih
  simp only [false_eq_true, if_false, true_and, forall_const, keys]
  refine and_congr_right fun _ => ?_
  have distinct := nodup_pair realmId id (clientRoles clientIds rs)
  rw [List.map_id] at distinct
  refine ⟨fun ok => distinct.mp ok.1, fun ok => ⟨distinct.mpr ok, ?_⟩⟩
  rintro key isKey mem
  obtain ⟨_, _, rfl⟩ := mem_map.mp isKey
  obtain ⟨row, isRow, isOurs⟩ := mem_flatMap.mp mem
  exact unused row isRow (mem_roleKeys.mp isOurs).1

def isRoot (group : ImportedGroup) : Bool := (given group.parentName).isNone

theorem roots_decide (holds : Holds realms w)
    (unused : ∀ row ∈ w.db.groups, row.realmId ≠ realmId) (gs : List ImportedGroup) :
    (forEach (createRoot throws realmId) 0 gs []).Decides (Holds realms) w
      ((∀ j g, gs[j]? = some g →
          throws (.readGroup j) = false ∧ (isRoot g = true → throws (.group j) = false)) ∧
        ((gs.filter isRoot).map (·.name)).Nodup)
      (gs.foldl (grow (!isRoot ·) (·.name) (fun _ => groupRow none realmId) w.supply) ([], [])).1
      (groupTable.inserted w (gs.foldl (grow (!isRoot ·) (·.name)
        (fun _ => groupRow none realmId) w.supply) ([], [])).2) := by
  have isBody (j : Nat) (g : ImportedGroup) (ids : Ids) : createRoot throws realmId j g ids = (do
      require (!throws (.readGroup j)) .internal
      if !isRoot g then pure ids
      else
        let id ← statement throws (.group j) (insert
          (fun db => (groupTable.rows db).any fun row => row.realmId = realmId && row.name = g.name)
          fun id db => groupTable.put (groupTable.rows db ++ [groupRow none realmId id g]) db)
        pure (set ids g.name id)) := by
    unfold createRoot isRoot
    cases given g.parentName <;> rfl
  have loop := named_loop groupTable (·.realmId) (·.name) (createRoot throws realmId)
    (fun j => throws (.readGroup j)) .group (!isRoot ·) (fun _ => groupRow none realmId) (·.name)
    (fun _ _ _ => rfl) (fun _ _ _ => rfl) isBody holds [] gs
  refine loop.congr ?_
  simp only [not_eq_false', Bool.not_not]
  exact ⟨fun ok => ⟨ok.1, ok.2.1⟩, fun ok =>
    ⟨ok.1, ok.2, fun _ _ _ row isRow isOurs => absurd isOurs (unused row isRow)⟩⟩

def childRow (realmId : Nat) (ids : Ids) (id : Nat) (group : ImportedGroup) : Group :=
  groupRow ((given group.parentName).bind (get ids)) realmId id group

theorem children_decide (holds : Holds realms w) (rootIds : Ids) (gs : List ImportedGroup) :
    (forEach (createChild throws realmId) 0 gs rootIds).Decides (Holds realms) w
      ((∀ j g, gs[j]? = some g → isRoot g = false → throws (.group j) = false) ∧
        ((gs.filter (!isRoot ·)).map (·.name)).Nodup ∧ ∀ g ∈ gs, isRoot g = false →
          ∀ row ∈ w.db.groups, row.realmId = realmId → row.name ≠ g.name)
      (gs.foldl (grow isRoot (·.name) (childRow realmId) w.supply) (rootIds, [])).1
      (groupTable.inserted w (gs.foldl (grow isRoot (·.name) (childRow realmId)
        w.supply) (rootIds, [])).2) := by
  have isBody (j : Nat) (g : ImportedGroup) (ids : Ids) : createChild throws realmId j g ids = (do
      require (!false) .internal
      if isRoot g then pure ids
      else
        let id ← statement throws (.group j) (insert
          (fun db => (groupTable.rows db).any fun row => row.realmId = realmId && row.name = g.name)
          fun id db => groupTable.put (groupTable.rows db ++ [childRow realmId ids id g]) db)
        pure (set ids g.name id)) := by
    unfold createChild isRoot childRow
    cases given g.parentName <;> rfl
  have loop := named_loop groupTable (·.realmId) (·.name) (createChild throws realmId)
    (fun _ => false) .group isRoot (childRow realmId) (·.name)
    (fun _ _ _ => rfl) (fun _ _ _ => rfl) isBody holds rootIds gs
  refine loop.congr ?_
  simp only [true_and]
  rfl

theorem keyed_loop {α ρ κ : Type} (table : Rows ρ) (key : ρ → κ)
    (body : Nat → α → Unit → Call Unit) (place : Nat → Statement) (taken : ρ → Database → Bool)
    (row : α → Option ρ)
    (isTaken : ∀ new db, taken new db = true ↔ ∃ old ∈ table.rows db, key old = key new)
    (isBody : ∀ j item, body j item () = match row item with
      | none => pure ()
      | some new => statement throws (place j)
          (append (taken new) fun db => table.put (table.rows db ++ [new]) db))
    (holds : Holds realms w) (xs : List α) :
    (forEach body 0 xs ()).Decides (Holds realms) w
      ((∀ j item, xs[j]? = some item → (row item).isSome → throws (place j) = false) ∧
        ((xs.filterMap row).map key).Nodup ∧
        ∀ new ∈ xs.filterMap row, ∀ old ∈ table.rows w.db, key old ≠ key new)
      () (table.added w (xs.filterMap row)) := by
  have clashes (new : ρ) : table.Clashes (fun row => [key row]) (taken new) new := by
    intro db
    simp only [isTaken, mem_singleton, exists_eq_left, mem_flatMap]
    exact exists_congr fun row => and_congr_right fun _ => eq_comm
  refine (table.append_loop body place taken row (fun _ => nodup_singleton _) clashes isBody
    holds xs).congr (and_congr_right fun _ => ?_)
  rw [← map_eq_flatMap, ← map_eq_flatMap]
  refine and_congr_right fun _ => ?_
  simp only [mem_map]
  constructor
  · exact fun apart new isNew old isOld same => apart _ ⟨new, isNew, rfl⟩ ⟨old, isOld, same⟩
  · rintro apart _ ⟨new, isNew, rfl⟩ ⟨old, isOld, same⟩
    exact apart new isNew old isOld same

theorem filterMap_some_map {α ρ : Type} (new : α → ρ) (xs : List α) :
    xs.filterMap (fun item => some (new item)) = xs.map new :=
  congrFun (List.filterMap_eq_map (f := new)) xs

theorem mappers_decide (i scopeId : Nat) (holds : Holds realms w)
    (unused : ∀ row ∈ w.db.protocolMappers, row.clientScopeId ≠ scopeId)
    (mappers : List Mapper) :
    (forEach (createMapper throws i scopeId) 0 mappers ()).Decides (Holds realms) w
      ((∀ j mapper, mappers[j]? = some mapper → throws (.mapper i j) = false) ∧
        (mappers.map (·.name)).Nodup)
      () (mapperTable.added w (mappers.map (⟨scopeId, ·⟩))) := by
  have loop := keyed_loop mapperTable (fun row => (row.clientScopeId, row.mapper.name))
    (createMapper throws i scopeId) (.mapper i)
    (fun new db => db.protocolMappers.any fun row =>
      row.clientScopeId = new.clientScopeId && row.mapper.name = new.mapper.name)
    (fun mapper => some ⟨scopeId, mapper⟩) (fun new db => by simp [mapperTable])
    (fun _ _ => rfl) holds mappers
  rw [filterMap_some_map, map_map] at loop
  refine loop.congr ?_
  simp only [isSome_some, forall_const]
  refine and_congr_right fun _ => ?_
  have distinct := nodup_pair scopeId (fun mapper : Mapper => mapper.name) mappers
  refine ⟨fun ok => distinct.mp ok.1, fun ok => ⟨distinct.mpr ok, ?_⟩⟩
  rintro new isNew old isOld same
  obtain ⟨mapper, _, rfl⟩ := mem_map.mp isNew
  exact unused old isOld (Prod.mk.inj same).1

theorem providers_decide (holds : Holds realms w)
    (unused : ∀ row ∈ w.db.identityProviders, row.realmId ≠ realmId)
    (providers : List Provider) :
    (forEach (createProvider throws realmId) 0 providers ()).Decides (Holds realms) w
      ((∀ j provider, providers[j]? = some provider → throws (.identityProvider j) = false) ∧
        (providers.map (·.alias_)).Nodup)
      () (providerTable.added w (providers.map (⟨realmId, ·⟩))) := by
  have loop := keyed_loop providerTable (fun row => (row.realmId, row.provider.alias_))
    (createProvider throws realmId) .identityProvider
    (fun new db => db.identityProviders.any fun row =>
      row.realmId = new.realmId && row.provider.alias_ = new.provider.alias_)
    (fun provider => some ⟨realmId, provider⟩) (fun new db => by simp [providerTable])
    (fun _ _ => rfl) holds providers
  rw [filterMap_some_map, map_map] at loop
  refine loop.congr ?_
  simp only [isSome_some, forall_const]
  refine and_congr_right fun _ => ?_
  have distinct := nodup_pair realmId (fun provider : Provider => provider.alias_) providers
  refine ⟨fun ok => distinct.mp ok.1, fun ok => ⟨distinct.mpr ok, ?_⟩⟩
  rintro new isNew old isOld same
  obtain ⟨provider, _, rfl⟩ := mem_map.mp isNew
  exact unused old isOld (Prod.mk.inj same).1

theorem links_decide {α ρ : Type} [DecidableEq ρ] (table : Rows ρ)
    (body : Nat → α → Unit → Call Unit) (place : Nat → Statement) (row : α → Option ρ)
    (isBody : ∀ j item, body j item () = match row item with
      | none => pure ()
      | some new => statement throws (place j)
          (append (fun db => (table.rows db).contains new) fun db =>
            table.put (table.rows db ++ [new]) db))
    (holds : Holds realms w) (xs : List α) :
    (forEach body 0 xs ()).Decides (Holds realms) w
      ((∀ j item, xs[j]? = some item → (row item).isSome → throws (place j) = false) ∧
        (xs.filterMap row).Nodup ∧ ∀ new ∈ xs.filterMap row, new ∉ table.rows w.db)
      () (table.added w (xs.filterMap row)) := by
  refine (keyed_loop table id body place (fun new db => (table.rows db).contains new) row
    (fun new db => by simp) isBody holds xs).congr (and_congr_right fun _ => ?_)
  rw [List.map_id]
  refine and_congr_right fun _ => forall₂_congr fun new _ => ?_
  exact ⟨fun apart mem => apart new mem rfl, fun absent old isOld (same : old = new) =>
    absent (same ▸ isOld)⟩

section Assignments

variable (clientIds scopeIds : Ids)

def linksOf (clientId : String) (names : List String) : List ClientScopeLink :=
  match get clientIds clientId with
  | none => []
  | some client => names.filterMap fun name => (get scopeIds name).map fun id => ⟨client, id⟩

def defaultLinks (assignment : ScopeAssignment) : List ClientScopeLink :=
  linksOf clientIds scopeIds assignment.clientId assignment.defaultScopes

def optionalLinks (assignment : ScopeAssignment) : List ClientScopeLink :=
  linksOf clientIds scopeIds assignment.clientId assignment.optionalScopes

def LinksFine (throws : Throws) (place : Nat → Statement) (clientId : String)
    (names : List String) : Prop :=
  (get clientIds clientId).isSome → ∀ j name, names[j]? = some name → (get scopeIds name).isSome →
    throws (place j) = false

def AssignmentFine (throws : Throws) (i : Nat) (assignment : ScopeAssignment) : Prop :=
  throws (.readAssignment i) = false ∧
    LinksFine clientIds scopeIds throws (.defaultScope i) assignment.clientId
      assignment.defaultScopes ∧
    LinksFine clientIds scopeIds throws (.optionalScope i) assignment.clientId
      assignment.optionalScopes

def assignmentsAdded (w : World) (assignments : List ScopeAssignment) : World :=
  optionalTable.added (defaultTable.added w (assignments.flatMap (defaultLinks clientIds scopeIds)))
    (assignments.flatMap (optionalLinks clientIds scopeIds))

theorem assignment_decides (holds : Holds realms w) (pre : List ScopeAssignment)
    (asg : ScopeAssignment) :
    (assignScopes throws clientIds scopeIds pre.length asg ()).Decides (Holds realms)
      (assignmentsAdded clientIds scopeIds w pre)
      (AssignmentFine clientIds scopeIds throws pre.length asg ∧
        ((defaultLinks clientIds scopeIds asg).Nodup ∧ ∀ link ∈ defaultLinks clientIds scopeIds asg,
            link ∉ w.db.defaultScopes ++ pre.flatMap (defaultLinks clientIds scopeIds)) ∧
        ((optionalLinks clientIds scopeIds asg).Nodup ∧
          ∀ link ∈ optionalLinks clientIds scopeIds asg,
            link ∉ w.db.optionalScopes ++ pre.flatMap (optionalLinks clientIds scopeIds)))
      () (assignmentsAdded clientIds scopeIds w (pre ++ [asg])) := by
  have held : Holds realms (assignmentsAdded clientIds scopeIds w pre) := holds
  cases isRead : throws (.readAssignment pre.length) with
  | true =>
    refine ⟨fun ok => Bool.noConfusion (isRead.symm.trans ok.1.1), fun _ => ⟨.internal, _, ?_, held⟩⟩
    simp [assignScopes, isRead, require]
  | false =>
    cases isClient : get clientIds asg.clientId with
    | none =>
      have idle : (pure () : Call Unit).Decides (Holds realms)
        (assignmentsAdded clientIds scopeIds w pre) True ()
        (assignmentsAdded clientIds scopeIds w pre) := .done () _
      simpa [assignScopes, isRead, isClient, require, AssignmentFine, LinksFine,
        defaultLinks, optionalLinks, linksOf, assignmentsAdded] using idle
    | some c =>
      have defaults : (forEach (assignDefault throws scopeIds c pre.length) 0
          asg.defaultScopes ()).Decides (Holds realms) _ _ _ _ :=
        links_decide defaultTable _ (.defaultScope pre.length)
          (fun name => (get scopeIds name).map (⟨c, ·⟩))
          (fun j name => by unfold assignDefault; cases get scopeIds name <;> rfl) held _
      have optionals : (forEach (assignOptional throws scopeIds c pre.length) 0
          asg.optionalScopes ()).Decides (Holds realms)
          (defaultTable.added (assignmentsAdded clientIds scopeIds w pre)
            (defaultLinks clientIds scopeIds asg)) _ _ _ :=
        links_decide optionalTable _ (.optionalScope pre.length)
          (fun name => (get scopeIds name).map (⟨c, ·⟩))
          (fun j name => by unfold assignOptional; cases get scopeIds name <;> rfl)
          (defaultTable.added_holds held _) _
      have isDefault : defaultLinks clientIds scopeIds asg =
          asg.defaultScopes.filterMap fun name => (get scopeIds name).map (⟨c, ·⟩) := by
        simp [defaultLinks, linksOf, isClient]
      have isOptional : optionalLinks clientIds scopeIds asg =
          asg.optionalScopes.filterMap fun name => (get scopeIds name).map (⟨c, ·⟩) := by
        simp [optionalLinks, linksOf, isClient]
      rw [← isDefault] at defaults
      rw [← isOptional] at optionals
      have after : optionalTable.added (defaultTable.added
          (assignmentsAdded clientIds scopeIds w pre) (defaultLinks clientIds scopeIds asg))
          (optionalLinks clientIds scopeIds asg) =
            assignmentsAdded clientIds scopeIds w (pre ++ [asg]) := by
        simp [assignmentsAdded, added, defaultTable, optionalTable]
      rw [after] at optionals
      have both := (defaults.bind fun _ => optionals)
      have unfolded : assignScopes throws clientIds scopeIds pre.length asg () = (do
          forEach (assignDefault throws scopeIds c pre.length) 0 asg.defaultScopes ()
          forEach (assignOptional throws scopeIds c pre.length) 0 asg.optionalScopes ()) := by
        simp [assignScopes, isRead, isClient, require]
      rw [unfolded]
      refine both.congr ?_
      simp only [AssignmentFine, LinksFine, isRead, isClient, isSome_some, forall_const,
        true_and, Option.isSome_map]
      exact and_and_and_comm

theorem linksOf_client {cid : String} {ns : List String} {link : ClientScopeLink}
    (isLink : link ∈ linksOf clientIds scopeIds cid ns) :
    get clientIds cid = some link.clientId := by
  unfold linksOf at isLink
  cases isClient : get clientIds cid with
  | none => simp [isClient] at isLink
  | some c =>
    simp only [isClient] at isLink
    obtain ⟨name, _, isLink⟩ := mem_filterMap.mp isLink
    obtain ⟨id, _, rfl⟩ := map_eq_some_iff.mp isLink
    rfl

theorem assignments_decide (holds : Holds realms w)
    (unused : ∀ link, link ∈ w.db.defaultScopes ∨ link ∈ w.db.optionalScopes →
      ∀ name, get clientIds name ≠ some link.clientId) (assignments : List ScopeAssignment) :
    (forEach (assignScopes throws clientIds scopeIds) 0 assignments ()).Decides (Holds realms)
      w ((∀ i asg, assignments[i]? = some asg → AssignmentFine clientIds scopeIds throws i asg) ∧
        (assignments.flatMap (defaultLinks clientIds scopeIds)).Nodup ∧
        (assignments.flatMap (optionalLinks clientIds scopeIds)).Nodup)
      () (assignmentsAdded clientIds scopeIds w assignments) := by
  have loop : (forEach (assignScopes throws clientIds scopeIds) 0 assignments ()).Decides
      (Holds realms) _ _ _ _ :=
    .loop _ (fun _ => ()) (assignmentsAdded clientIds scopeIds w)
      (assignment_decides clientIds scopeIds holds) assignments
  have start : assignmentsAdded clientIds scopeIds w [] = w := by
    simp [assignmentsAdded, added_nil]
  rw [start] at loop
  refine loop.congr ?_
  rw [accepts_and, accepts_and,
    Prog.accepts_each (AssignmentFine clientIds scopeIds throws), accepts_keys,
    accepts_keys]
  simp only [List.length_nil, Nat.zero_add, List.flatMap_nil, append_nil]
  refine and_congr_right fun _ => and_congr (and_iff_left ?_) (and_iff_left ?_)
  · intro link isLink isOld
    obtain ⟨asg, _, isLink⟩ := mem_flatMap.mp isLink
    exact unused link (.inl isOld) _ (linksOf_client clientIds scopeIds isLink)
  · intro link isLink isOld
    obtain ⟨asg, _, isLink⟩ := mem_flatMap.mp isLink
    exact unused link (.inr isOld) _ (linksOf_client clientIds scopeIds isLink)

end Assignments

def scopeMappers (base : Nat) (scopes : List ImportedScope) : List MapperRow :=
  (numbered (fun id (scope : ImportedScope) => scope.protocolMappers.map (⟨id, ·⟩)) base
    scopes).flatten

def scopesAdded (realmId : Nat) (w : World) (scopes : List ImportedScope) : World :=
  mapperTable.added (scopeTable.inserted w (numbered (scopeRow realmId) w.supply scopes))
    (scopeMappers w.supply scopes)

theorem scopeMappers_bound {scs : List ImportedScope} {row : MapperRow}
    (isRow : row ∈ scopeMappers base scs) : row.clientScopeId < base + scs.length := by
  obtain ⟨rows, isRows, isRow⟩ := List.mem_flatten.mp isRow
  obtain ⟨i, sc, isScope, rfl⟩ := mem_numbered.mp isRows
  obtain ⟨mapper, _, rfl⟩ := mem_map.mp isRow
  have small : i < scs.length := (List.getElem?_eq_some_iff.mp isScope).1
  exact Nat.add_lt_add_left small base

def ScopeFine (throws : Throws) (i : Nat) (scope : ImportedScope) : Prop :=
  throws (.scope i) = false ∧
    (∀ j mapper, scope.protocolMappers[j]? = some mapper → throws (.mapper i j) = false) ∧
    (scope.protocolMappers.map (·.name)).Nodup

theorem scope_snoc (realmId : Nat) (w : World) (pre : List ImportedScope)
    (sc : ImportedScope) : scopesAdded realmId w (pre ++ [sc]) = mapperTable.added
        (scopeTable.inserted (scopesAdded realmId w pre)
          [scopeRow realmId (w.supply + pre.length) sc])
        (sc.protocolMappers.map (⟨w.supply + pre.length, ·⟩)) := by
  simp [scopesAdded, scopeMappers, added, inserted, mapperTable, scopeTable, Nat.add_assoc]

theorem scopesAdded_supply (realmId : Nat) (w : World) (scs : List ImportedScope) :
    (scopesAdded realmId w scs).supply = w.supply + scs.length := by
  simp [scopesAdded, added, inserted, numbered_length]

section

variable (unused : ∀ row ∈ w.db.clientScopes, row.realmId ≠ realmId)

include unused

theorem scope_taken (before : List ImportedScope) (name : String) :
    ((scopesAdded realmId w before).db.clientScopes.any fun row =>
      row.realmId = realmId && row.name = name) = true ↔ name ∈ before.map (·.name) := by
  have rows : (scopesAdded realmId w before).db.clientScopes =
      w.db.clientScopes ++ numbered (scopeRow realmId) w.supply before := rfl
  have named : (numbered (scopeRow realmId) w.supply before).map (·.name) = before.map (·.name) :=
    map_numbered (fun id (sc : ImportedScope) => (rfl : (scopeRow realmId id sc).name = _)) _ _
  rw [rows, ← named, any_eq_true, mem_map]
  constructor
  · rintro ⟨row, isRow, same⟩
    simp only [and_eq_true, decide_eq_true_eq] at same
    rcases mem_append.mp isRow with old | new
    · exact absurd same.1 (unused row old)
    · exact ⟨row, new, same.2⟩
  · rintro ⟨row, isRow, same⟩
    obtain ⟨i, sc, _, rfl⟩ := mem_numbered.mp isRow
    exact ⟨_, mem_append_right _ isRow, by simp [scopeRow, ← same]⟩

theorem scope_free (pre : List ImportedScope) (name : String) :
    ((scopesAdded realmId w pre).db.clientScopes.any fun row =>
      row.realmId = realmId && row.name = name) = false ↔ name ∉ pre.map (·.name) := by
  rw [eq_false_iff]
  exact not_congr (scope_taken unused pre name)

end

theorem scopes_decide (holds : Holds realms w)
    (unused : ∀ row ∈ w.db.clientScopes, row.realmId ≠ realmId)
    (older : ∀ row ∈ w.db.protocolMappers, row.clientScopeId < w.supply)
    (scs : List ImportedScope) :
    (forEach (createScope throws realmId) 0 scs []).Decides (Holds realms) w
      ((∀ i sc, scs[i]? = some sc → ScopeFine throws i sc) ∧ (scs.map (·.name)).Nodup)
      (idsFrom w.supply (scs.map (·.name))) (scopesAdded realmId w scs) := by
  have turn (pre : List ImportedScope) (sc : ImportedScope) :
      (createScope throws realmId pre.length sc
          (idsFrom w.supply (pre.map (·.name)))).Decides (Holds realms)
        (scopesAdded realmId w pre)
        (ScopeFine throws pre.length sc ∧ ([sc.name].Nodup ∧
          ∀ name ∈ [sc.name], name ∉ [] ++ pre.flatMap fun sc => [sc.name]))
        (idsFrom w.supply ((pre ++ [sc]).map (·.name)))
        (scopesAdded realmId w (pre ++ [sc])) := by
    have held : Holds realms (scopesAdded realmId w pre) := holds
    have created : (statement throws (.scope pre.length) (insert
        (fun db => db.clientScopes.any fun row => row.realmId = realmId && row.name = sc.name)
        (fun id db => { db with
          clientScopes := db.clientScopes ++ [scopeRow realmId id sc] }))).Decides
        (Holds realms) (scopesAdded realmId w pre) _ _
        (scopeTable.inserted (scopesAdded realmId w pre)
          [scopeRow realmId (scopesAdded realmId w pre).supply sc]) :=
      insert_decides held
    rw [scopesAdded_supply] at created
    have free : ∀ row ∈ (scopeTable.inserted (scopesAdded realmId w pre)
        [scopeRow realmId (w.supply + pre.length) sc]).db.protocolMappers,
        row.clientScopeId ≠ w.supply + pre.length := by
      intro row isRow same
      rcases mem_append.mp isRow with old | new
      · have := older row old
        omega
      · have := scopeMappers_bound new
        omega
    have mapped : (forEach (createMapper throws pre.length (w.supply + pre.length)) 0
        sc.protocolMappers ()).Decides (Holds realms) _ _ _ _ :=
      mappers_decide pre.length _ (scopeTable.inserted_holds held _) free sc.protocolMappers
    rw [← scope_snoc] at mapped
    have body : (createScope throws realmId pre.length sc
        (idsFrom w.supply (pre.map (·.name)))).Decides (Holds realms) _ _ _ _ :=
      created.bind fun _ => mapped.bind fun _ => .done _ _
    rw [map_append, List.map_singleton, idsFrom_snoc, length_map]
    refine body.congr ?_
    rw [scope_free unused]
    simp only [ScopeFine, and_true, nodup_singleton, mem_singleton, forall_eq, true_and,
      nil_append, ← map_eq_flatMap]
    exact ⟨fun ok => ⟨⟨ok.1.1, ok.2⟩, ok.1.2⟩, fun ok => ⟨⟨ok.1.1, ok.2⟩, ok.1.2⟩⟩
  have loop := Decides.loop _ (fun pre => idsFrom w.supply (pre.map (·.name)))
    (scopesAdded realmId w) turn scs
  have start : scopesAdded realmId w [] = w := by
    simp [scopesAdded, scopeMappers, added_nil, inserted_nil]
  rw [start] at loop
  refine loop.congr ?_
  rw [accepts_and, Prog.accepts_each (ScopeFine throws), accepts_keys, ← map_eq_flatMap]
  simp

theorem seeds_decide (holds : Holds realms w)
    (unused : ∀ row ∈ w.db.clientScopes, row.realmId ≠ realmId) :
    (forEach (seedScope throws realmId) 0 seededScopes ()).Decides (Holds realms) w
      (∀ i sc, seededScopes[i]? = some sc → throws (.seed i) = false) ()
      (scopesAdded realmId w seededScopes) := by
  -- a scope that is there is not created again, which does not happen on the list of the seeds
  let seeded (scs : List ImportedScope) : List ImportedScope :=
    scs.foldl (fun kept sc =>
      if sc.name ∈ kept.map (·.name) then kept else kept ++ [sc]) []
  have turn (before : List ImportedScope) (sc : ImportedScope) :
      (seedScope throws realmId before.length sc ()).Decides (Holds realms)
        (scopesAdded realmId w (seeded before)) (throws (.seed before.length) = false) ()
        (scopesAdded realmId w (seeded (before ++ [sc]))) := by
    have held : Holds realms (scopesAdded realmId w (seeded before)) := holds
    cases isThrown : throws (.seed before.length) with
    | true =>
      refine ⟨fun ok => Bool.noConfusion ok, fun _ => ⟨.internal, _, ?_, held⟩⟩
      simp [seedScope, isThrown, require]
    | false =>
      refine ⟨fun _ => ?_, fun refused => absurd rfl refused⟩
      by_cases mem : sc.name ∈ (seeded before).map (·.name)
      · have existing := (scope_taken unused (seeded before) sc.name).mpr mem
        have same : seeded (before ++ [sc]) = seeded before := by
          simp only [seeded, foldl_append, foldl_cons, foldl_nil]
          exact if_pos mem
        rw [same]
        simp [seedScope, isThrown, require, existing]
      · have absent := (scope_free unused (seeded before) sc.name).mpr mem
        have longer : seeded (before ++ [sc]) = seeded before ++ [sc] := by
          simp only [seeded, foldl_append, foldl_cons, foldl_nil]
          exact if_neg mem
        rw [longer, scope_snoc]
        rw [← scopesAdded_supply realmId]
        simp only [seedScope, isThrown, require, Bool.not_false, if_true, done_bind,
          run_read_bind, absent, false_eq_true, if_false]
        rfl
  have loop := Decides.loop _ (fun _ => ()) (fun before => scopesAdded realmId w (seeded before))
    turn seededScopes
  have start : scopesAdded realmId w (seeded []) = w := by
    simp [seeded, scopesAdded, scopeMappers, added_nil, inserted_nil]
  have all : seeded seededScopes = seededScopes := rfl
  rw [start, all] at loop
  refine loop.congr ?_
  rw [Prog.accepts_each fun i _ => throws (.seed i) = false]
  simp

section Users

variable (roleIds groupIds : Ids)

def roleLinks (id : Nat) (user : ImportedUser) : List UserRole :=
  user.roles.filterMap fun role => (get roleIds (roleKey role)).map fun role => ⟨id, role⟩

def groupLinks (id : Nat) (user : ImportedUser) : List UserGroup :=
  user.groups.filterMap fun group => (get groupIds group).map fun group => ⟨id, group⟩

def usersAdded (realmId : Nat) (w : World) (users : List ImportedUser) : World :=
  userGroupTable.added (userRoleTable.added
      (userTable.inserted w (numbered (userRow realmId) w.supply users))
      (numbered (roleLinks roleIds) w.supply users).flatten)
    (numbered (groupLinks groupIds) w.supply users).flatten

/-- No call about the user throws, and no role or group is there twice. -/
def UserFine (throws : Throws) (i : Nat) (user : ImportedUser) : Prop :=
  throws (.user i) = false ∧
    (∀ j role, user.roles[j]? = some role → (get roleIds (roleKey role)).isSome →
      throws (.userRole i j) = false) ∧
    (user.roles.filterMap fun role => get roleIds (roleKey role)).Nodup ∧
    (∀ j group, user.groups[j]? = some group → (get groupIds group).isSome →
      throws (.userGroup i j) = false) ∧
    (user.groups.filterMap (get groupIds)).Nodup

theorem users_snoc (realmId : Nat) (w : World) (pre : List ImportedUser)
    (u : ImportedUser) : usersAdded roleIds groupIds realmId w (pre ++ [u]) =
      userGroupTable.added (userRoleTable.added
          (userTable.inserted (usersAdded roleIds groupIds realmId w pre)
            [userRow realmId (w.supply + pre.length) u])
          (roleLinks roleIds (w.supply + pre.length) u))
        (groupLinks groupIds (w.supply + pre.length) u) := by
  simp [usersAdded, added, inserted, userGroupTable, userRoleTable, userTable, Nat.add_assoc]

theorem usersAdded_supply (realmId : Nat) (w : World) (us : List ImportedUser) :
    (usersAdded roleIds groupIds realmId w us).supply = w.supply + us.length := by
  simp [usersAdded, added, inserted, numbered_length]

theorem user_free (unused : ∀ row ∈ w.db.users, row.realmId ≠ realmId)
    (before : List ImportedUser) (u : ImportedUser) :
    ((usersAdded roleIds groupIds realmId w before).db.users.any fun row =>
      row.realmId = realmId &&
        (row.username = u.username || row.email.isSome && row.email = u.email)) = false ↔
      u.username ∉ before.map (·.username) ∧
        ∀ email ∈ u.email.toList, email ∉ before.flatMap fun u => u.email.toList := by
  have rows : (usersAdded roleIds groupIds realmId w before).db.users =
      w.db.users ++ numbered (userRow realmId) w.supply before := rfl
  rw [rows, eq_false_iff, ne_eq, any_eq_true]
  simp only [and_eq_true, decide_eq_true_eq, or_eq_true, isSome_iff_exists]
  constructor
  · intro free
    -- an entry with the same name or address would be a row in the way
    have clash (other : ImportedUser) (isOther : other ∈ before)
        (same : other.username = u.username ∨
          (∃ email, other.email = some email) ∧ other.email = u.email) : False := by
      obtain ⟨i, isOther⟩ := mem_iff_getElem?.mp isOther
      exact free ⟨userRow realmId (w.supply + i) other,
        mem_append_right _ (mem_numbered.mpr ⟨i, other, isOther, rfl⟩), rfl, same⟩
    constructor
    · intro mem
      obtain ⟨other, isOther, same⟩ := mem_map.mp mem
      exact clash other isOther (.inl same)
    · intro email isEmail mem
      obtain ⟨other, isOther, same⟩ := mem_flatMap.mp mem
      have theirs : other.email = some email := mem_toList.mp same
      exact clash other isOther (.inr ⟨⟨email, theirs⟩, theirs.trans (mem_toList.mp isEmail).symm⟩)
  · rintro ⟨newName, newEmail⟩ ⟨row, isRow, isOurs, same⟩
    rcases mem_append.mp isRow with old | new
    · exact unused row old isOurs
    · obtain ⟨i, other, isOther, rfl⟩ := mem_numbered.mp new
      have isOther := mem_of_getElem? isOther
      rcases same with same | ⟨⟨email, theirs⟩, same⟩
      · exact newName (mem_map.mpr ⟨other, isOther, same⟩)
      · have theirs : other.email = some email := theirs
        exact newEmail email (mem_toList.mpr (same.symm.trans theirs))
          (mem_flatMap.mpr ⟨other, isOther, mem_toList.mpr theirs⟩)

theorem roleLinks_user (id : Nat) (u : ImportedUser) (link : UserRole)
    (isLink : link ∈ roleLinks roleIds id u) : link.userId = id := by
  obtain ⟨role, _, isLink⟩ := mem_filterMap.mp isLink
  obtain ⟨_, _, rfl⟩ := map_eq_some_iff.mp isLink
  rfl

theorem groupLinks_user (id : Nat) (u : ImportedUser) (link : UserGroup)
    (isLink : link ∈ groupLinks groupIds id u) : link.userId = id := by
  obtain ⟨g, _, isLink⟩ := mem_filterMap.mp isLink
  obtain ⟨_, _, rfl⟩ := map_eq_some_iff.mp isLink
  rfl

theorem nodup_filterMap_map {α β γ : Type} {name : α → Option β} {link : β → γ}
    (injective : Function.Injective link) {xs : List α} :
    (xs.filterMap fun item => (name item).map link).Nodup ↔ (xs.filterMap name).Nodup := by
  rw [← List.map_filterMap, List.nodup_map_iff injective]

theorem links_apart {ρ : Type} (table : Rows ρ) (userOf : ρ → Nat) {links : Nat → ImportedUser → List ρ}
    (own : ∀ id u, ∀ link ∈ links id u, userOf link = id) {w : World}
    (older : ∀ link ∈ table.rows w.db, userOf link < w.supply)
    (pre : List ImportedUser) (u : ImportedUser) :
    ∀ link ∈ links (w.supply + pre.length) u,
      link ∉ table.rows w.db ++ (numbered links w.supply pre).flatten := by
  intro link isLink isOld
  have isUser := own _ _ link isLink
  rcases mem_append.mp isOld with old | new
  · have := older link old
    omega
  · obtain ⟨list, isList, isLink⟩ := List.mem_flatten.mp new
    obtain ⟨i, other, isOther, rfl⟩ := mem_numbered.mp isList
    have := own _ _ link isLink
    have := (List.getElem?_eq_some_iff.mp isOther).1
    omega

theorem users_decide (holds : Holds realms w) (unused : ∀ row ∈ w.db.users, row.realmId ≠ realmId)
    (olderRoles : ∀ link ∈ w.db.userRoles, link.userId < w.supply)
    (olderGroups : ∀ link ∈ w.db.userGroups, link.userId < w.supply)
    (users : List ImportedUser) :
    (forEach (createUser throws roleIds groupIds realmId) 0 users ()).Decides (Holds realms)
      w ((∀ i u, users[i]? = some u → UserFine roleIds groupIds throws i u) ∧
        (users.map (·.username)).Nodup ∧ (users.filterMap (·.email)).Nodup)
      () (usersAdded roleIds groupIds realmId w users) := by
  have turn (pre : List ImportedUser) (u : ImportedUser) :
      (createUser throws roleIds groupIds realmId pre.length u ()).Decides (Holds realms)
        (usersAdded roleIds groupIds realmId w pre)
        (UserFine roleIds groupIds throws pre.length u ∧
          ([u.username].Nodup ∧ ∀ name ∈ [u.username],
            name ∉ [] ++ pre.flatMap fun u => [u.username]) ∧
          (u.email.toList.Nodup ∧ ∀ email ∈ u.email.toList,
            email ∉ [] ++ pre.flatMap fun u => u.email.toList))
        () (usersAdded roleIds groupIds realmId w (pre ++ [u])) := by
    have held : Holds realms (usersAdded roleIds groupIds realmId w pre) := holds
    have created : (statement throws (.user pre.length) (insert
        (fun db => db.users.any fun row => row.realmId = realmId &&
          (row.username = u.username || row.email.isSome && row.email = u.email))
        (fun id db => { db with users := db.users ++ [userRow realmId id u] }))).Decides
        (Holds realms) (usersAdded roleIds groupIds realmId w pre) _ _
        (userTable.inserted (usersAdded roleIds groupIds realmId w pre)
          [userRow realmId (usersAdded roleIds groupIds realmId w pre).supply u]) :=
      insert_decides held
    rw [usersAdded_supply] at created
    have held' := userTable.inserted_holds held [userRow realmId (w.supply + pre.length) u]
    have roles : (forEach (assignRole throws roleIds (w.supply + pre.length)
        pre.length) 0 u.roles ()).Decides (Holds realms) _ _ _ _ :=
      links_decide userRoleTable _ (.userRole pre.length)
        (fun role => (get roleIds (roleKey role)).map (⟨w.supply + pre.length, ·⟩))
        (fun j role => by unfold assignRole; cases get roleIds (roleKey role) <;> rfl) held' _
    have groups : (forEach (assignGroup throws groupIds (w.supply + pre.length)
        pre.length) 0 u.groups ()).Decides (Holds realms)
        (userRoleTable.added (userTable.inserted (usersAdded roleIds groupIds realmId w pre)
            [userRow realmId (w.supply + pre.length) u])
          (roleLinks roleIds (w.supply + pre.length) u)) _ _ _ :=
      links_decide userGroupTable _ (.userGroup pre.length)
        (fun g => (get groupIds g).map (⟨w.supply + pre.length, ·⟩))
        (fun j g => by unfold assignGroup; cases get groupIds g <;> rfl)
        (userRoleTable.added_holds held' _) _
    have newRoles := links_apart userRoleTable (·.userId) (roleLinks_user roleIds) olderRoles pre u
    have newGroups := links_apart userGroupTable (·.userId) (groupLinks_user groupIds) olderGroups
      pre u
    have roles := roles.congr (and_congr_right fun _ => (and_iff_left newRoles).trans
      (nodup_filterMap_map fun _ _ same => (UserRole.mk.inj same).2))
    have groups := groups.congr (and_congr_right fun _ => (and_iff_left newGroups).trans
      (nodup_filterMap_map fun _ _ same => (UserGroup.mk.inj same).2))
    have body : (createUser throws roleIds groupIds realmId pre.length u ()).Decides
        (Holds realms) _ _ _ _ := created.bind fun _ => roles.bind fun _ => groups
    rw [users_snoc]
    refine body.congr ?_
    rw [user_free roleIds groupIds unused]
    have alone : u.email.toList.Nodup := by cases u.email <;> simp
    simp only [UserFine, Option.isSome_map, nodup_singleton, mem_singleton, forall_eq,
      true_and, nil_append, ← map_eq_flatMap, alone]
    constructor
    · rintro ⟨⟨fine, name, email⟩, ⟨fine', apart⟩, fine'', apart'⟩
      exact ⟨⟨fine, fine', apart, fine'', apart'⟩, name, email⟩
    · rintro ⟨⟨fine, fine', apart, fine'', apart'⟩, name, email⟩
      exact ⟨⟨fine, name, email⟩, ⟨fine', apart⟩, fine'', apart'⟩
  have loop := Decides.loop _ (fun _ => ()) (usersAdded roleIds groupIds realmId w) turn users
  have start : usersAdded roleIds groupIds realmId w [] = w := by
    simp [usersAdded, added_nil, inserted_nil]
  rw [start] at loop
  refine loop.congr ?_
  rw [accepts_and, accepts_and, Prog.accepts_each (UserFine roleIds groupIds throws),
    accepts_keys, accepts_keys, ← map_eq_flatMap,
    ← List.filterMap_eq_flatMap_toList]
  simp

end Users

section Contents

variable (doc : Document) (realmId : Nat)

/-- The scopes that the realm gets: its own, or the default ones. -/
def Document.scopes : List ImportedScope :=
  if doc.clientScopes.isEmpty then seededScopes else doc.clientScopes

/-- Each of these is the world after a loop, or the ids that the names have got in it. -/
def scopesIn (w : World) : World := scopesAdded realmId w doc.scopes

def scopeIdsIn (w : World) : Ids :=
  idsFrom w.supply (doc.clientScopes.map (·.name))

def clientIdsIn (w : World) : Ids :=
  idsFrom (scopesIn doc realmId w).supply (doc.clients.map (·.clientId))

def clientsIn (w : World) : World :=
  clientTable.inserted (scopesIn doc realmId w)
    (numbered (clientRow realmId) (scopesIn doc realmId w).supply doc.clients)

def roleIdsIn (w : World) : Ids :=
  idsFrom (clientsIn doc realmId w).supply (doc.roles.map fun role => roleKey role.toRoleName)

def rolesIn (w : World) : World :=
  roleTable.inserted (clientsIn doc realmId w)
    (numbered (roleRow (clientIdsIn doc realmId w) realmId)
      (clientsIn doc realmId w).supply doc.roles)

def roots (base : Nat) : Ids × List Group :=
  doc.groups.foldl (grow (!isRoot ·) (·.name) (fun _ => groupRow none realmId) base) ([], [])

def rootsIn (w : World) : World :=
  groupTable.inserted (rolesIn doc realmId w) (roots doc realmId (rolesIn doc realmId w).supply).2

def children (rootIds : Ids) (base : Nat) : Ids × List Group :=
  doc.groups.foldl (grow isRoot (·.name) (childRow realmId) base) (rootIds, [])

def childrenIn (w : World) : Ids × List Group :=
  children doc realmId (roots doc realmId (rolesIn doc realmId w).supply).1
    (rootsIn doc realmId w).supply

def groupsIn (w : World) : World :=
  groupTable.inserted (rootsIn doc realmId w) (childrenIn doc realmId w).2

def providersIn (w : World) : World :=
  providerTable.added (groupsIn doc realmId w) (doc.identityProviders.map (⟨realmId, ·⟩))

def assignmentsIn (w : World) : World :=
  assignmentsAdded (clientIdsIn doc realmId w) (scopeIdsIn doc w)
    (providersIn doc realmId w) doc.clientScopeAssignments

def imported (w : World) : World :=
  usersAdded (roleIdsIn doc realmId w) (childrenIn doc realmId w).1 realmId
    (assignmentsIn doc realmId w) doc.users

def Document.summary : Summary where
  realmName := doc.name
  clientsImported := doc.clients.length
  rolesImported := doc.roles.length
  groupsImported := doc.groups.length
  scopesImported := doc.clientScopes.length
  idpsImported := doc.identityProviders.length
  usersImported := doc.users.length

/-- Nobody has used the id of the realm, or an id that is still to come. -/
structure Unused (realmId : Nat) (w : World) : Prop where
  next : realmId < w.supply
  scopes : ∀ row ∈ w.db.clientScopes, row.realmId ≠ realmId
  mappers : ∀ row ∈ w.db.protocolMappers, row.clientScopeId < w.supply
  clients : ∀ row ∈ w.db.clients, row.realmId ≠ realmId
  roles : ∀ row ∈ w.db.roles, row.realmId ≠ realmId
  groups : ∀ row ∈ w.db.groups, row.realmId ≠ realmId
  providers : ∀ row ∈ w.db.identityProviders, row.realmId ≠ realmId
  defaults : ∀ link ∈ w.db.defaultScopes, link.clientId < w.supply
  optionals : ∀ link ∈ w.db.optionalScopes, link.clientId < w.supply
  users : ∀ row ∈ w.db.users, row.realmId ≠ realmId
  userRoles : ∀ link ∈ w.db.userRoles, link.userId < w.supply
  userGroups : ∀ link ∈ w.db.userGroups, link.userId < w.supply

structure Fine (throws : Throws) (doc : Document) (clientIds scopeIds roleIds groupIds : Ids) :
    Prop where
  scopes : ∀ i scope, doc.clientScopes[i]? = some scope → ScopeFine throws i scope
  scopeNames : (doc.clientScopes.map (·.name)).Nodup
  seeds : doc.clientScopes = [] →
    ∀ i scope, seededScopes[i]? = some scope → throws (.seed i) = false
  clients : ∀ i client, doc.clients[i]? = some client → throws (.client i) = false
  clientNames : (doc.clients.map (·.clientId)).Nodup
  roles : ∀ i role, doc.roles[i]? = some role → throws (.role i) = false
  roleNames : (clientRoles clientIds doc.roles).Nodup
  groups : ∀ i group, doc.groups[i]? = some group →
    throws (.readGroup i) = false ∧ throws (.group i) = false
  groupNames : (doc.groups.map (·.name)).Nodup
  providers : ∀ i provider, doc.identityProviders[i]? = some provider →
    throws (.identityProvider i) = false
  providerNames : (doc.identityProviders.map (·.alias_)).Nodup
  assignments : ∀ i assignment, doc.clientScopeAssignments[i]? = some assignment →
    AssignmentFine clientIds scopeIds throws i assignment
  defaults : (doc.clientScopeAssignments.flatMap (defaultLinks clientIds scopeIds)).Nodup
  optionals : (doc.clientScopeAssignments.flatMap (optionalLinks clientIds scopeIds)).Nodup
  users : ∀ i user, doc.users[i]? = some user → UserFine roleIds groupIds throws i user
  usernames : (doc.users.map (·.username)).Nodup
  emails : (doc.users.filterMap (·.email)).Nodup

theorem seedScopes_decide (holds : Holds realms w) (unused : Unused realmId w) :
    (seedScopes throws doc realmId).Decides (Holds realms)
      (scopesAdded realmId w doc.clientScopes) (doc.clientScopes = [] →
        ∀ i sc, seededScopes[i]? = some sc → throws (.seed i) = false)
      () (scopesIn doc realmId w) := by
  unfold seedScopes scopesIn Document.scopes
  cases isScopes : doc.clientScopes with
  | nil =>
    have start : scopesAdded realmId w [] = w := by
      simp [scopesAdded, scopeMappers, added_nil, inserted_nil]
    rw [start]
    exact (seeds_decide holds unused.scopes).congr (by simp)
  | cons sc scs =>
    exact (Prog.Decides.done () _).congr (by simp)

theorem roots_names (base : Nat) :
    ((roots doc realmId base).2).map (·.name) = (doc.groups.filter isRoot).map (·.name) := by
  have keys := keys_grow (!isRoot ·) (·.name) (fun _ => groupRow none realmId)
    (fun g => [g.name]) (fun g => [g.name]) (fun _ _ _ => rfl) base ([], [])
    doc.groups
  rw [flatMap_unless] at keys
  simpa [← map_eq_flatMap, roots] using keys

theorem roots_ours {row : Group} (isRow : row ∈ (roots doc realmId base).2) :
    row.realmId = realmId := by
  have keys := keys_grow (!isRoot ·) (·.name) (fun _ => groupRow none realmId)
    (fun g => [g.realmId]) (fun _ => [realmId]) (fun _ _ _ => rfl) base ([], [])
    doc.groups
  have mem : row.realmId ∈ ((roots doc realmId base).2).flatMap fun g => [g.realmId] :=
    mem_flatMap.mpr ⟨row, isRow, List.mem_singleton_self _⟩
  rw [roots, keys, flatMap_unless] at mem
  obtain ⟨_, _, same⟩ := mem_map.mp mem
  exact same.symm

theorem groups_nodup (unused : Unused realmId w) :
    (((doc.groups.filter isRoot).map (·.name)).Nodup ∧
      ((doc.groups.filter (!isRoot ·)).map (·.name)).Nodup ∧
      ∀ g ∈ doc.groups, isRoot g = false →
        ∀ row ∈ (rootsIn doc realmId w).db.groups, row.realmId = realmId →
          row.name ≠ g.name) ↔ (doc.groups.map (·.name)).Nodup := by
  have perm : (doc.groups.filter isRoot).map (·.name) ++
      (doc.groups.filter (!isRoot ·)).map (·.name) |>.Perm (doc.groups.map (·.name)) := by
    rw [← map_append]
    exact (List.filter_append_perm isRoot doc.groups).map _
  rw [← perm.nodup_iff, nodup_append]
  refine and_congr_right fun _ => and_congr_right fun _ => ?_
  rw [← roots_names doc realmId (rolesIn doc realmId w).supply]
  have rows : (rootsIn doc realmId w).db.groups = w.db.groups ++
      (roots doc realmId (rolesIn doc realmId w).supply).2 := rfl
  simp only [rows, mem_append, mem_map, mem_filter]
  constructor
  · rintro apart _ ⟨row, isRow, rfl⟩ _ ⟨g, ⟨isGroup, child⟩, rfl⟩
    exact apart g isGroup (by simpa using child) row (.inr isRow) (roots_ours _ _ isRow)
  · rintro apart g isGroup child row (old | new) isOurs
    · exact absurd isOurs (unused.groups row old)
    · exact apart _ ⟨row, new, rfl⟩ _ ⟨g, ⟨isGroup, by simpa using child⟩, rfl⟩

theorem scopesIn_supply (w : World) :
    (scopesIn doc realmId w).supply = w.supply + doc.scopes.length :=
  scopesAdded_supply realmId w doc.scopes

theorem supply_grows (w : World) : w.supply ≤ (scopesIn doc realmId w).supply ∧
    (scopesIn doc realmId w).supply ≤ (assignmentsIn doc realmId w).supply := by
  refine ⟨?_, ?_⟩
  · rw [scopesIn_supply]
    exact le_add_right ..
  · simp [assignmentsIn, assignmentsAdded, added, providersIn, groupsIn, rootsIn, rolesIn,
      clientsIn, inserted, Nat.add_assoc]

theorem providersIn_rest (w : World) : (providersIn doc realmId w).db.realms = w.db.realms ∧
      (providersIn doc realmId w).db.defaultScopes = w.db.defaultScopes ∧
      (providersIn doc realmId w).db.optionalScopes = w.db.optionalScopes ∧
      (providersIn doc realmId w).db.users = w.db.users ∧
      (providersIn doc realmId w).db.userRoles = w.db.userRoles ∧
      (providersIn doc realmId w).db.userGroups = w.db.userGroups :=
  ⟨rfl, rfl, rfl, rfl, rfl, rfl⟩

section

variable (holds : Holds realms w)

include holds

section

variable (unused : Unused realmId w)

include unused

theorem assignmentsIn_decide : (forEach (assignScopes throws (clientIdsIn doc realmId w)
        (scopeIdsIn doc w)) 0 doc.clientScopeAssignments ()).Decides (Holds realms)
      (providersIn doc realmId w)
      ((∀ i asg, doc.clientScopeAssignments[i]? = some asg →
          AssignmentFine (clientIdsIn doc realmId w) (scopeIdsIn doc w) throws i
            asg) ∧ (doc.clientScopeAssignments.flatMap (defaultLinks
          (clientIdsIn doc realmId w) (scopeIdsIn doc w))).Nodup ∧
        (doc.clientScopeAssignments.flatMap (optionalLinks
          (clientIdsIn doc realmId w) (scopeIdsIn doc w))).Nodup)
      () (assignmentsIn doc realmId w) := by
  obtain ⟨isRealms, isDefaults, isOptionals, -⟩ := providersIn_rest doc realmId w
  have held : Holds realms (providersIn doc realmId w) := isRealms.trans holds
  refine assignments_decide _ _ held ?_ doc.clientScopeAssignments
  intro link isLink name hit
  obtain ⟨i, isId, _⟩ := get_idsFrom.mp hit
  have small : link.clientId < w.supply :=
    isLink.elim (unused.defaults link) (unused.optionals link)
  have := (supply_grows doc realmId w).1
  omega

theorem imported_decide : (forEach (createUser throws (roleIdsIn doc realmId w)
        (childrenIn doc realmId w).1 realmId) 0 doc.users ()).Decides (Holds realms)
      (assignmentsIn doc realmId w)
      ((∀ i u, doc.users[i]? = some u → UserFine (roleIdsIn doc realmId w)
          (childrenIn doc realmId w).1 throws i u) ∧
        (doc.users.map (·.username)).Nodup ∧ (doc.users.filterMap (·.email)).Nodup)
      () (imported doc realmId w) := by
  obtain ⟨isRealms, -, -, isUsers, isRoles, isGroups⟩ := providersIn_rest doc realmId w
  obtain ⟨first, snd⟩ := supply_grows doc realmId w
  have held : Holds realms (assignmentsIn doc realmId w) := isRealms.trans holds
  refine users_decide _ _ held ?_ ?_ ?_ doc.users
  · intro row isRow
    exact unused.users row (isUsers ▸ isRow)
  · intro link isLink
    exact (unused.userRoles link (isRoles ▸ isLink)).trans_le (first.trans snd)
  · intro link isLink
    exact (unused.userGroups link (isGroups ▸ isLink)).trans_le (first.trans snd)

theorem contents_decide : (importContents throws doc realmId).Decides (Holds realms) w
      (Fine throws doc (clientIdsIn doc realmId w) (scopeIdsIn doc w)
        (roleIdsIn doc realmId w) (childrenIn doc realmId w).1)
      doc.summary (imported doc realmId w) := by
  have scs : (forEach (createScope throws realmId) 0 doc.clientScopes []).Decides
      (Holds realms) w _ (scopeIdsIn doc w) _ :=
    scopes_decide holds unused.scopes unused.mappers doc.clientScopes
  have held (t : World) (same : t.db.realms = w.db.realms := by rfl) : Holds realms t :=
    same.trans holds
  have all : (importContents throws doc realmId).Decides (Holds realms) w _
      doc.summary (imported doc realmId w) :=
    scs.bind fun _ =>
      (seedScopes_decide doc realmId holds unused).bind fun _ =>
      (clients_decide (held (scopesIn doc realmId w)) unused.clients doc.clients).bind fun _ =>
      (roles_decide _ (held (clientsIn doc realmId w)) unused.roles doc.roles).bind fun _ =>
      (roots_decide (held (rolesIn doc realmId w)) unused.groups doc.groups).bind fun _ =>
      (children_decide (held (rootsIn doc realmId w)) _ doc.groups).bind fun _ =>
      (providers_decide (held (groupsIn doc realmId w)) unused.providers
        doc.identityProviders).bind fun _ =>
      (assignmentsIn_decide doc realmId holds unused).bind fun _ =>
      (imported_decide doc realmId holds unused).bind fun _ => .done _ _
  refine all.congr ?_
  have names := groups_nodup doc realmId unused
  constructor
  · rintro ⟨⟨scs, scopeNames⟩, seeds, ⟨cs, clientNames⟩, ⟨rs, roleNames⟩,
      ⟨roots, rootNames⟩, ⟨children, childNames, apart⟩, ⟨providers, providerNames⟩,
      ⟨assignments, defaults, optionals⟩, ⟨us, usernames, emails⟩, -⟩
    refine ⟨scs, scopeNames, seeds, cs, clientNames, rs, roleNames, fun i g hit => ?_,
      names.mp ⟨rootNames, childNames, apart⟩, providers, providerNames, assignments, defaults,
      optionals, us, usernames, emails⟩
    refine ⟨(roots i g hit).1, ?_⟩
    cases isRoot : isRoot g with
    | true => exact (roots i g hit).2 isRoot
    | false => exact children i g hit isRoot
  · intro fine
    obtain ⟨rootNames, childNames, apart⟩ := names.mpr fine.groupNames
    exact ⟨⟨fine.scopes, fine.scopeNames⟩, fine.seeds, ⟨fine.clients, fine.clientNames⟩,
      ⟨fine.roles, fine.roleNames⟩,
      ⟨fun i g hit => ⟨(fine.groups i g hit).1, fun _ => (fine.groups i g hit).2⟩, rootNames⟩,
      ⟨fun i g hit _ => (fine.groups i g hit).2, childNames, apart⟩,
      ⟨fine.providers, fine.providerNames⟩, ⟨fine.assignments, fine.defaults, fine.optionals⟩,
      ⟨fine.users, fine.usernames, fine.emails⟩, trivial⟩

end

end

end Contents

end Idenplane.Realms.Transfer
