import Idenplane.Realms.Service

/-! # Redis and the table of the realms

Lookups, updates, deletions and imports side by side, one call to the database or to Redis at a
time.  A lookup reads the database and fills Redis in two steps, and what it fills in may have
been overtaken in between.
-/

namespace Idenplane.Realms

open Atomic Auth Admin Nat Pool State Cache

inductive Answer where
  | found (realm : RealmRow)
  | updated (before answer : RealmRow)
  | removed (before answer : RealmRow)
  | imported (replaced : Option RealmRow)

def Answer.replaced : Answer → Option RealmRow
  | .found _ => none
  | .updated before _ => some before
  | .removed before _ => some before
  | .imported replaced => replaced

inductive Lookup where
  | findByName
  | findByNameRaw

inductive Request where
  | lookup (kind : Lookup) (name : String)
  | update (name : String) (dto : UpdateRealmDto)
  | remove (name : String)
  | importRealm (payload : Payload) (overwrite : Bool)

def Request.name : Request → String
  | .lookup _ name => name
  | .update name _ => name
  | .remove name => name
  | .importRealm payload _ => payload.name

def Lookup.call (name : String) : Lookup → Call RealmRow
  | .findByName => Realms.findByName name
  | .findByNameRaw => Realms.findByNameRaw name

def Request.call (d : Deps) (available : List String) : Request → Call Answer
  | .lookup kind name => do
    let realm ← kind.call name
    pure (.found realm)
  | .update name dto => do
    let (before, answer) ← Realms.update d available name dto
    pure (.updated before answer)
  | .remove name => do
    let (before, answer) ← Realms.remove name
    pure (.removed before answer)
  | .importRealm payload overwrite => do
    let replaced ← Realms.importRealm payload overwrite
    pure (.imported replaced)

structure Expires (s s' : State) : Prop where
  realms : s'.realms = s.realms
  writes : s'.writes = s.writes
  updates : s'.updates = s.updates
  entries : ∀ name row, s'.byName name = some row → s.byName name = some row

/-- What is put into Redis is what the database holds at that moment, and a realm disappears
from the database when Redis does not hold it. -/
structure Timely (s s' : State) : Prop where
  fill : ∀ name, s'.byName name ≠ s.byName name →
    s'.byName name = none ∨ s'.byName name = s.find name
  deletion : ∀ name, s.find name ≠ none → s'.find name = none → s.byName name = none

/-- A row is the old one or a new version; an entry of Redis is the old one or the current row. -/
structure Move (s s' : State) : Prop where
  writes : s.writes ≤ s'.writes
  rows : ∀ name row, s'.find name = some row →
    s.find name = some row ∨ s.writes < row.version ∧ row.version ≤ s'.writes
  entries : ∀ name row, s'.byName name = some row →
    s.byName name = some row ∨ s.find name = some row

def Bounded (s : State) : Prop := ∀ name row, s.find name = some row → row.version ≤ s.writes

def Written (version : Nat) (name : String) (s : State) : Prop :=
  ∀ row, s.find name = some row → version ≤ row.version

def Fresh (version : Nat) (name : String) (s : State) : Prop :=
  Written version name s ∧ ∀ row, s.byName name = some row → version ≤ row.version

structure Later (s s' : State) : Prop where
  writes : s.writes ≤ s'.writes
  written : ∀ version name, version ≤ s.writes + 1 → Written version name s →
    Written version name s'
  fresh : ∀ version name, version ≤ s.writes + 1 → Fresh version name s → Fresh version name s'

theorem Later.refl (s : State) : Later s s := ⟨le_refl _, fun _ _ _ => id, fun _ _ _ => id⟩

theorem Later.trans {s t u : State} (first : Later s t) (snd : Later t u) : Later s u where
  writes := first.writes.trans snd.writes
  written ver name small before :=
    snd.written ver name (by have := first.writes; omega)
      (first.written ver name small before)
  fresh ver name small before :=
    snd.fresh ver name (by have := first.writes; omega)
      (first.fresh ver name small before)

variable {s s' t : State} {name : String} {row : RealmRow}

theorem Move.written (move : Move s s') {ver : Nat} (small : ver ≤ s.writes + 1)
    (pre : Written ver name s) : Written ver name s' := by
  intro row hit
  rcases move.rows name row hit with old | new
  · exact pre row old
  · omega

theorem Move.later (move : Move s s') : Later s s' where
  writes := move.writes
  written _ _ small before := move.written small before
  fresh version name small before := by
    refine ⟨move.written small before.1, ?_⟩
    intro row e
    rcases move.entries name row e with old | filled
    · exact before.2 row old
    · exact before.1 row filled

theorem Move.bounded (move : Move s s') (bounded : Bounded s) : Bounded s' := by
  intro name row hit
  rcases move.rows name row hit with old | new
  · exact (bounded name row old).trans move.writes
  · exact new.2

theorem Move.refl (s : State) : Move s s := ⟨le_refl _, fun _ _ => .inl, fun _ _ => .inl⟩

theorem Expires.move (expires : Expires s s') : Move s s' where
  writes := expires.writes.ge
  rows name row found := by
    rw [find, expires.realms] at found
    exact .inl found
  entries name row entry := .inl (expires.entries name row entry)

def protocol (ι : Type) : Protocol ι State where
  inv := Bounded
  rely _ := Later
  refl _ := Later.refl
  trans _ := Later.trans

theorem filled_move {r : RealmRow} (timely : Timely s (cacheRealmByName name r s)) :
    Move s (cacheRealmByName name r s) where
  writes := le_refl _
  rows _ _ := .inl
  entries other row entry := by
    by_cases same : (cacheRealmByName name r s).byName other = s.byName other
    · rw [same] at entry
      exact .inl entry
    · rcases timely.fill other same with none | cur
      · rw [none] at entry
        cases entry
      · exact .inr (cur.symm.trans entry)

theorem dropped_move (name : String) (s : State) : Move s (nameDropped name s) where
  writes := le_refl _
  rows _ _ := .inl
  entries _ _ entry := .inl (drop_eq_some entry).1

theorem config_move (id : Nat) (s : State) : Move s (configDropped id s) :=
  ⟨le_refl _, fun _ _ => .inl, fun _ _ => .inl⟩

theorem cached_move (r : RealmRow) (s : State) : Move s (cacheRealmConfig r s) :=
  ⟨le_refl _, fun _ _ => .inl, fun _ _ => .inl⟩

theorem find_written (d : Deps) (name : String) (dto : UpdateRealmDto) (old : RealmRow)
    (other : String) (s : State) :
    (realmWritten d name dto old s).2.find other = (s.find other).map fun realm =>
      if other = name then
        { realmUpdated dto (secretData d dto old) realm with version := s.writes + 1 }
      else realm := by
  have keeps (realm : RealmRow) :
      (realmUpdated dto (secretData d dto old) realm).name = realm.name := rfl
  have test : ((fun realm : RealmRow => decide (realm.name = other)) ∘ fun realm : RealmRow =>
      if realm.name = name then
        { realmUpdated dto (secretData d dto old) realm with version := s.writes + 1 }
      else realm) = (decide <| ·.name = other) := by
    funext realm
    by_cases own : realm.name = name <;> simp [own, keeps]
  unfold realmWritten find
  rw [find?_map, test]
  cases found : s.realms.find? (·.name = other) with
  | none => rfl
  | some realm =>
    have isRealm : realm.name = other := by simpa using find?_some found
    simp [isRealm]

theorem written_move (d : Deps) (name : String) (dto : UpdateRealmDto) (old : RealmRow)
    (s : State) : Move s (realmWritten d name dto old s).2 where
  writes := le_succ _
  rows other row found := by
    rw [find_written] at found
    obtain ⟨r, isRealm, isRow⟩ := map_eq_some_iff.mp found
    split at isRow
    · subst isRow
      exact .inr ⟨lt_succ_self _, le_refl _⟩
    · subst isRow
      exact .inl isRealm
  entries _ _ := .inl

theorem find_deleted (name other : String) (s : State) :
    (realmDeleted name s).2.find other = if other = name then none else s.find other := by
  unfold realmDeleted find
  rw [List.find?_filter]
  split
  case isTrue same =>
    apply find?_eq_none.mpr
    simp [same]
  case isFalse ne =>
    congr 1
    funext r
    by_cases own : r.name = other <;> simp [own, ne]

theorem deleted_move (name : String) (s : State) : Move s (realmDeleted name s).2 where
  writes := le_succ _
  rows other row found := by
    rw [find_deleted] at found
    split at found
    · cases found
    · exact .inl found
  entries _ _ := .inl

theorem created_move (r : RealmRow) (s : State) : Move s (realmCreated r s).2 := by
  unfold realmCreated
  split
  · exact .refl s
  · refine ⟨le_succ _, ?_, fun _ _ => .inl⟩
    intro other row hit
    by_cases own : r.name = other
    · rw [find, List.find?_cons_of_pos (by simpa using own)] at hit
      cases hit
      exact .inr ⟨lt_succ_self _, le_refl _⟩
    · rw [find, List.find?_cons_of_neg (by simpa using own)] at hit
      exact .inl hit

section Requests

variable {ι : Type} {i : ι} {d : Deps} {avail : List String}

theorem Move.keeps (move : Move s s') (bounded : Bounded s) :
    (protocol ι).inv s' ∧ ∀ j, j ≠ i → (protocol ι).rely j s s' :=
  ⟨move.bounded bounded, fun _ _ => move.later⟩

/-- A lookup answers with a row that is as fresh as Redis and the database were when it began. -/
theorem findByNameRaw_sat (name : String) (s : State) :
    (findByNameRaw name).Sat (protocol ι) Timely i (onOk fun row _ =>
      ∀ ver, ver ≤ s.writes + 1 → Fresh ver name s → ver ≤ row.version) s := by
  refine .read_bind fun t later _ => ?_
  cases hit : t.byName name with
  | some row =>
    intro u _ _ ver small fresh
    exact (later.fresh ver name small fresh).2 row hit
  | none =>
    refine .read_bind fun u later' _ => .orFail_bind (fun row found => ?_) (fun _ _ _ _ => trivial)
    have soon := later.trans later'
    refine .modify_bind fun v _ bounded timely => ?_
    obtain ⟨inv, os⟩ := (filled_move timely).keeps bounded
    refine ⟨inv, os, .modify_bind fun w _ bounded' _ => ?_⟩
    obtain ⟨inv', os'⟩ := (cached_move row w).keeps bounded'
    refine ⟨inv', os', fun _ _ _ ver small fresh => ?_⟩
    exact (soon.fresh ver name small fresh).1 row found

theorem lookup_sat (kind : Lookup) (name : String) (s : State) :
    (kind.call name).Sat (protocol ι) Timely i (onOk fun row _ =>
      ∀ ver, ver ≤ s.writes + 1 → Fresh ver name s → ver ≤ row.version) s := by
  cases kind with
  | findByNameRaw => exact findByNameRaw_sat name s
  | findByName =>
    refine .ok_bind (findByNameRaw_sat name s) ?_ (fun _ _ => trivial)
    exact fun row _ fresh _ _ _ => fresh

def Settled (name : String) (replaced : Option RealmRow) (s : State) : Prop :=
  ∀ old ∈ replaced, old.version ≤ s.writes ∧ Fresh (old.version + 1) name s

theorem Settled.later {replaced : Option RealmRow} (settled : Settled name replaced s)
    (later : Later s s') : Settled name replaced s' := by
  intro old isOld
  obtain ⟨small, fresh⟩ := settled old isOld
  exact ⟨small.trans later.writes, later.fresh _ name (by omega) fresh⟩

theorem invalidate_sat {α : Type} {f : Unit → Call α} {post : Except Failure α → State → Prop}
    (id : Nat) (name : String)
    (rest : ∀ t, Later s t → t.byName name = none → (f ()).Sat (protocol ι) Timely i post t) :
    (invalidateRealmCache id name >>= f).Sat (protocol ι) Timely i post s := by
  unfold invalidateRealmCache
  rw [bind_assoc]
  refine .modify_bind fun t later bounded _ => ?_
  obtain ⟨inv, os⟩ := (config_move id t).keeps bounded
  refine ⟨inv, os, .modify_bind fun u later' bounded' _ => ?_⟩
  obtain ⟨inv', os'⟩ := (dropped_move name u).keeps bounded'
  refine ⟨inv', os', rest _ ?_ (by simp [nameDropped, drop])⟩
  have soon := (later.trans (config_move id t).later).trans later'
  exact soon.trans (dropped_move name u).later

theorem checkSms_cases (dto : UpdateRealmDto) (old : RealmRow) :
    checkSms dto old = .done () ∨ ∃ failure, checkSms dto old = .fail failure := by
  unfold checkSms assertSmsMfaDeliverable
  split
  · cases !(dto.smsMfaEnabled.getD old.smsMfaEnabled &&
      (dto.smsProvider.getD old.smsProvider = "" || dto.smsProvider.getD old.smsProvider = "none"))
    · exact .inr ⟨_, rfl⟩
    · exact .inl rfl
  · exact .inl rfl

theorem checkThemes_cases (avail themes : List String) : checkThemes avail themes = .done () ∨
      ∃ failure, checkThemes avail themes = .fail failure := by
  unfold checkThemes
  split
  · exact .inr ⟨_, rfl⟩
  · exact .inl rfl

theorem update_sat (name : String) (dto : UpdateRealmDto) (s : State) :
    (Realms.update d avail name dto).Sat (protocol ι) Timely i
      (onOk fun ans t => Settled name (some ans.1) t) s := by
  refine .ok_bind (findByNameRaw_sat name s) (fun existing t _ => ?_) (fun _ _ => trivial)
  rcases checkSms_cases dto existing with passed | ⟨f, refused⟩
  · rw [passed]
    rcases checkThemes_cases avail dto.themes with passed | ⟨f, refused⟩
    · rw [passed]
      refine .atomic_bind fun u _ bounded _ => ?_
      obtain ⟨inv, os⟩ := (written_move d name dto existing u).keeps bounded
      refine ⟨inv, os, .orFail_bind (fun ans isAnswer => ?_) (fun _ _ _ _ => trivial)⟩
      obtain ⟨pre, isBefore, rfl⟩ := map_eq_some_iff.mp isAnswer
      have small := bounded name pre isBefore
      have written : Written (pre.version + 1) name (realmWritten d name dto existing u).2 := by
        intro row hit
        rw [find_written, isBefore] at hit
        obtain rfl := some.inj hit
        simpa using small
      refine invalidate_sat existing.id name fun v later gone => ?_
      intro w later' _ old isOld
      obtain rfl : pre = old := some.inj isOld
      have count : pre.version + 1 ≤ (realmWritten d name dto existing u).2.writes :=
        succ_le_succ small
      have fresh : Fresh (pre.version + 1) name v := by
        refine ⟨later.written _ name (by omega) written, ?_⟩
        intro row e
        rw [gone] at e
        cases e
      have ahead := later.writes
      exact ⟨by have := later'.writes; omega, later'.fresh _ name (by omega) fresh⟩
    · rw [refused]
      exact fun _ _ _ => trivial
  · rw [refused]
    exact fun _ _ _ => trivial

theorem deleted_settled (bounded : Bounded s) (timely : Timely s (realmDeleted name s).2)
    (hit : s.find name = some row) : Settled name (some row) (realmDeleted name s).2 := by
  intro old isOld
  obtain rfl : row = old := some.inj isOld
  have gone : (realmDeleted name s).2.find name = none := by rw [find_deleted, if_pos rfl]
  have unlisted := timely.deletion name (by simp [hit]) gone
  refine ⟨(bounded name row hit).trans (le_succ _), ?_, ?_⟩
  · intro new isNew
    rw [gone] at isNew
    cases isNew
  · intro new e
    rw [show (realmDeleted name s).2.byName name = s.byName name from rfl, unlisted] at e
    cases e

theorem remove_sat (name : String) (s : State) : (Realms.remove name).Sat (protocol ι) Timely i
      (onOk fun ans t => Settled name (some ans.1) t) s := by
  refine .ok_bind (findByNameRaw_sat name s) (fun old t _ => ?_) (fun _ _ => trivial)
  refine invalidate_sat old.id name fun u _ _ => ?_
  refine .atomic_bind fun v _ bounded timely => ?_
  obtain ⟨inv, os⟩ := (deleted_move name v).keeps bounded
  refine ⟨inv, os, .orFail_bind (fun row hit => ?_) (fun _ _ _ _ => trivial)⟩
  exact fun w later _ => (deleted_settled bounded timely hit).later later

theorem import_sat (pl : Payload) (overwrite : Bool) (s : State) :
    (Realms.importRealm pl overwrite).Sat (protocol ι) Timely i
      (onOk fun replaced t => Settled pl.name replaced t) s := by
  refine .require_bind (fun _ => ?_) (fun _ _ _ _ => trivial)
  refine .require_bind (fun _ => ?_) (fun _ _ _ _ => trivial)
  refine .read_bind fun t _ _ => ?_
  refine .require_bind (fun _ => ?_) (fun _ _ _ _ => trivial)
  -- whether a row was deleted or not, what is left is to create the new one
  have created (replaced : Option RealmRow) (u : State) (settled : Settled pl.name replaced u) : (do
        let created ← atomic (realmCreated (pl.settings.apply { id := 0, name := pl.name }))
        let _ ← orFail created .internal
        pure replaced : Call (Option RealmRow)).Sat (protocol ι) Timely i
        (onOk fun replaced t => Settled pl.name replaced t) u := by
    refine .atomic_bind fun v later bounded _ => ?_
    have move := created_move (pl.settings.apply { id := 0, name := pl.name }) v
    obtain ⟨inv, os⟩ := move.keeps bounded
    refine ⟨inv, os, .orFail_bind (fun _ _ => ?_) (fun _ _ _ _ => trivial)⟩
    exact fun w later' _ => ((settled.later later).later move.later).later later'
  cases existing : t.find pl.name with
  | none => exact created none t (by simp [Settled])
  | some row =>
    refine .atomic_bind fun v _ bounded timely => ?_
    obtain ⟨inv, os⟩ := (deleted_move pl.name v).keeps bounded
    refine ⟨inv, os, .orFail_bind (fun row hit => ?_) (fun _ _ _ _ => trivial)⟩
    exact created (some row) _ (deleted_settled bounded timely hit)

theorem Request.sat (req : Request) (s : State) : (req.call d avail).Sat (protocol ι) Timely i
      (onOk fun ans t => Settled req.name ans.replaced t) s := by
  cases req with
  | lookup kind name =>
    refine .ok_bind (lookup_sat kind name s) (fun row t _ => ?_) (fun _ _ => trivial)
    exact fun _ _ _ => by simp [onOk, Settled, Answer.replaced]
  | update name dto =>
    refine .ok_bind (update_sat name dto s) (fun ans t settled => ?_) (fun _ _ => trivial)
    exact fun _ later _ => settled.later later
  | remove name =>
    refine .ok_bind (remove_sat name s) (fun ans t settled => ?_) (fun _ _ => trivial)
    exact fun _ later _ => settled.later later
  | importRealm pl overwrite =>
    refine .ok_bind (import_sat pl overwrite s) (fun ans t settled => ?_) (fun _ _ => trivial)
    exact fun _ later _ => settled.later later

/-- A lookup that begins when a request has returned never shows the row which the request has
replaced. -/
def Coherent [DecidableEq ι] (d : Deps) (available : List String)
    (allowed : State → State → Prop) (c : Pool ι State Failure Answer) : Prop :=
  ∀ (c₁ c₂ : Pool ι State Failure Answer) (i j : ι) (req : Request) (answer : Answer)
    (kind : Lookup) (row : RealmRow),
    c.procs i = req.call d available → Pool.Reaches Expires allowed c c₁ →
    c₁.procs i = .done answer →
    c₁.procs j = (Request.lookup kind req.name).call d available →
    Pool.Reaches Expires allowed c₁ c₂ → c₂.procs j = .done (.found row) →
    ∀ old ∈ answer.replaced, old.version < row.version

/-- What a lookup that began in the state has to answer. -/
def Shows (name : String) (s : State) (answer : Answer) : Prop :=
  ∀ row, answer = .found row →
    ∀ version, version ≤ s.writes + 1 → Fresh version name s → version ≤ row.version

theorem Request.lookup_shows (kind : Lookup) (name : String) (s : State) :
    ((Request.lookup kind name).call d avail).Sat (protocol ι) Timely i
      (onOk fun ans _ => Shows name s ans) s := by
  refine .ok_bind (lookup_sat kind name s) (fun row t fresh => ?_) (fun _ _ => trivial)
  intro _ _ _ shown isShown
  cases isShown
  exact fresh

theorem no_stale_realm [DecidableEq ι] (d : Deps) (avail : List String)
    (c : Pool ι State Failure Answer) (bounded : Bounded c.state)
    (reqs : ∀ i, ∃ req : Request, c.procs i = req.call d avail) :
    Coherent d avail Timely c := by
  intro c₁ c₂ i j req ans kind row isRequest reached returned isLookup reached' shown
  have environment (s s' : State) (inv : Bounded s) (expires : Expires s s') :
      (protocol ι).inv s' ∧ ∀ i, (protocol ι).rely i s s' :=
    ⟨expires.move.bounded inv, fun _ => expires.move.later⟩
  -- up to the moment when the request has returned, the promise of interest is its own
  have threads (k : ι) : (c.procs k).Sat (protocol ι) Timely k
      (onOk fun ans t => k = i → Settled req.name ans.replaced t) c.state := by
    by_cases own : k = i
    · subst own
      rw [isRequest]
      refine (Request.sat req c.state).mono fun res t holds => ?_
      cases res with
      | ok ans => exact fun _ => holds
      | error f => trivial
    · obtain ⟨other, isOther⟩ := reqs k
      rw [isOther]
      refine (Request.sat other c.state).mono fun res t _ => ?_
      cases res with
      | ok ans => exact fun same => absurd same own
      | error f => trivial
  obtain ⟨inv, running⟩ := sound bounded threads environment reached
  have settled : Settled req.name ans.replaced c₁.state :=
    sound_done bounded threads environment reached returned rfl
  -- from there on it is the one of the lookup
  have threads' (k : ι) : (c₁.procs k).Sat (protocol ι) Timely k
      (onOk fun ans _ => k = j → Shows req.name c₁.state ans) c₁.state := by
    by_cases own : k = j
    · subst own
      rw [isLookup]
      refine (Request.lookup_shows kind req.name c₁.state).mono fun res t holds => ?_
      cases res with
      | ok ans => exact fun _ => holds
      | error f => trivial
    · refine (running k).mono fun res t _ => ?_
      cases res with
      | ok ans => exact fun same => absurd same own
      | error f => trivial
  have shows : Shows req.name c₁.state (.found row) :=
    sound_done inv threads' environment reached' shown rfl
  intro old isOld
  obtain ⟨small, fresh⟩ := settled old isOld
  exact shows row rfl (old.version + 1) (Nat.succ_le_succ small) fresh

end Requests

theorem Timely.quiet (es : ∀ name, s'.byName name = s.byName name ∨ s'.byName name = none)
    (rows : ∀ name, s'.find name = none → s.find name = none) : Timely s s' where
  fill name changed := .inl ((es name).resolve_left changed)
  deletion name hit gone := absurd (rows name gone) hit

theorem Timely.same (s : State) : Timely s s := .quiet (fun _ => .inl rfl) (fun _ => id)

theorem dropped_timely (name : String) (s : State) : Timely s (nameDropped name s) := by
  refine .quiet (fun other => ?_) (fun _ => id)
  by_cases own : other = name
  · subst own
    exact .inr (update_self ..)
  · exact .inl (update_of_ne own ..)

theorem written_timely (d : Deps) (name : String) (dto : UpdateRealmDto) (old : RealmRow)
    (s : State) : Timely s (realmWritten d name dto old s).2 := by
  refine .quiet (fun _ => .inl rfl) (fun other gone => ?_)
  rw [find_written] at gone
  exact Option.map_eq_none_iff.mp gone

theorem filled_timely (hit : s.find name = some row) : Timely s (cacheRealmByName name row s) where
  fill other changed := by
    by_cases own : other = name
    · subst own
      exact .inr ((update_self ..).trans hit.symm)
    · exact absurd (update_of_ne own ..) changed
  deletion _ hit' gone := absurd gone hit'

def acme : RealmRow := { id := 1, name := "acme" }

def acmeState : State :=
  { realms := [acme], byName := put empty "acme" acme, supply := 2 }

def renameAcme : UpdateRealmDto := { settings := { displayName := some "ACME Inc." } }

def beside (req : Request) (s : State) : Pool Nat State Failure Answer where
  state := s
  procs
    | 0 => req.call .transparent []
    | _ => (Request.lookup .findByNameRaw "acme").call .transparent []

theorem beside_requests (req : Request) (s : State) (i : Nat) :
    ∃ asked : Request, (beside req s).procs i = asked.call .transparent [] := by
  cases i with
  | zero => exact ⟨req, rfl⟩
  | succ i => exact ⟨.lookup .findByNameRaw "acme", rfl⟩

theorem acmeState_bounded : Bounded acmeState := by
  intro name row hit
  have isAcme : row = acme := by simpa [acmeState] using mem_of_find?_eq_some hit
  rw [isAcme]
  exact zero_le _

def renamed : Pool Nat State Failure Answer :=
  (beside (.update "acme" renameAcme) acmeState).schedule [0, 0, 0, 0]

theorem renamed_reached :
    Pool.Reaches Expires Timely (beside (.update "acme" renameAcme) acmeState) renamed := by
  have looked : Pool.Reaches Expires Timely (beside (.update "acme" renameAcme) acmeState)
      ((beside (.update "acme" renameAcme) acmeState).advance 0) :=
    reaches_turn .refl (.same acmeState)
  have written := reaches_turn (i := 0) looked
    (written_timely .transparent "acme" renameAcme acme _)
  have config := reaches_turn (i := 0) written (.quiet (fun _ => .inl rfl) (fun _ => id))
  exact reaches_turn (i := 0) config (dropped_timely "acme" _)

theorem renamed_lookup : Pool.Reaches Expires Timely renamed (renamed.schedule [1, 1, 1, 1]) := by
  have looked : Pool.Reaches Expires Timely renamed (renamed.advance 1) :=
    reaches_turn .refl (.same renamed.state)
  have read := reaches_turn (i := 1) looked (.same renamed.state)
  have filled := reaches_turn (i := 1) read (filled_timely rfl)
  exact reaches_turn (i := 1) filled (.quiet (fun _ => .inl rfl) (fun _ => id))

/-- The lookup after the update shows the new row. -/
theorem acme_is_renamed : ∃ pre ans row, renamed.procs 0 = .done (.updated pre ans) ∧
      (renamed.schedule [1, 1, 1, 1]).procs 1 = .done (.found row) ∧ pre.version < row.version :=
  ⟨_, _, _, rfl, rfl, no_stale_realm .transparent [] (beside (.update "acme" renameAcme) acmeState)
      acmeState_bounded (beside_requests _ _) renamed _ 0 1 (.update "acme" renameAcme) _
      .findByNameRaw _ rfl renamed_reached rfl rfl renamed_lookup rfl _ rfl⟩

def acmePayload : Payload := { version := "1", name := "acme" }

def imported : Pool Nat State Failure Answer :=
  (beside (.importRealm acmePayload true) acmeState).schedule [0, 0, 0]

/-- A lookup has read the database before the update and fills Redis after it. -/
def overtaken : Pool Nat State Failure Answer :=
  (beside (.update "acme" renameAcme) { realms := [acme] }).schedule
    [1, 1, 0, 0, 0, 0, 0, 0, 0, 1, 1]

def refilled : Pool Nat State Failure Answer :=
  (beside (.remove "acme") { realms := [acme] }).schedule [0, 0, 0, 0, 0, 0, 1, 1, 1, 1, 0]

theorem replaced_rows_are_shown :
    (Pool.Reaches Expires (fun _ _ => True) (beside (.importRealm acmePayload true) acmeState)
        imported ∧
      imported.procs 0 = .done (.imported (some acme)) ∧
      (imported.schedule [1]).procs 1 = .done (.found acme)) ∧
    (Pool.Reaches Expires (fun _ _ => True)
        (beside (.update "acme" renameAcme) { realms := [acme] }) overtaken ∧
      (∃ ans, overtaken.procs 0 = .done (.updated acme ans)) ∧
      (overtaken.schedule [2]).procs 2 = .done (.found acme)) ∧
    (Pool.Reaches Expires (fun _ _ => True) (beside (.remove "acme") { realms := [acme] })
        refilled ∧
      (∃ ans, refilled.procs 0 = .done (.removed acme ans)) ∧
      (refilled.schedule [2]).procs 2 = .done (.found acme)) ∧
    ¬ Coherent .transparent [] (fun _ _ => True)
      (beside (.importRealm acmePayload true) acmeState) := by
  have reached : Pool.Reaches Expires (fun _ _ => True)
      (beside (.importRealm acmePayload true) acmeState) imported := reaches_schedule rfl
  refine ⟨⟨reached, rfl, rfl⟩, ⟨reaches_schedule rfl, ⟨_, rfl⟩, rfl⟩,
    ⟨reaches_schedule rfl, ⟨_, rfl⟩, rfl⟩, ?_⟩
  intro coherent
  have shown : Pool.Reaches Expires (fun _ _ => True) imported (imported.schedule [1]) :=
    reaches_schedule rfl
  have ahead := coherent imported _ 0 1 (.importRealm acmePayload true) (.imported (some acme))
    .findByNameRaw acme rfl reached rfl rfl shown rfl acme rfl
  exact Nat.lt_irrefl _ ahead

end Idenplane.Realms
