import Idenplane.Migration.UserRows

/-! # Groups of an import

A group is looked up under its parent, but its name is unique in the whole realm.  A dry run
looks the subgroups of a new group up among the groups without a parent.
-/

namespace Idenplane.Migration

open Atomic Transaction Merging Realms.Transfer Nat Report

abbrev Finder := String → Option Nat → Option Nat

mutual

/-- The names of the groups that are not there; no parent is found for the subgroups of those. -/
def missing (find : Finder) (parent : Option (Option Nat)) : KeycloakGroup → List String
  | .mk name subGroups =>
    match parent.bind (find name) with
    | some id => missingAmong find (some (some id)) subGroups
    | none => name :: missingAmong find none subGroups

def missingAmong (find : Finder) (parent : Option (Option Nat)) : List KeycloakGroup → List String
  | [] => []
  | group :: groups => missing find parent group ++ missingAmong find parent groups

end

mutual

def foreseen (find : Finder) (parent : Option Nat) (tally : Tally) : KeycloakGroup → Tally
  | .mk name subGroups =>
    match find name parent with
    | some id => foreseenAmong find (some id) tally.skip subGroups
    | none => foreseenAmong find none tally.create subGroups

def foreseenAmong (find : Finder) (parent : Option Nat) (tally : Tally) : List KeycloakGroup → Tally
  | [] => tally
  | group :: groups => foreseenAmong find parent (foreseen find parent tally group) groups

end

mutual

def Present (find : Finder) (parent : Option Nat) : KeycloakGroup → Prop
  | .mk name subGroups => ∃ id, find name parent = some id ∧ PresentAmong find (some id) subGroups

def PresentAmong (find : Finder) (parent : Option Nat) : List KeycloakGroup → Prop
  | [] => True
  | group :: groups => Present find parent group ∧ PresentAmong find parent groups

end

def finder (realmId : Option Nat) (w : World) : Finder :=
  fun name parentId => findGroup realmId name parentId w

theorem run_caught (handler : Thrown → Report → Report) (body : Import Unit) (s : Session) :
    ∃ t, (caught handler body).run s = (.ok (), t) := by
  rcases ran : body.run s with ⟨res, t⟩
  cases res with
  | ok _ => exact ⟨t, run_caught_ok ran⟩
  | error thrown => exact ⟨_, run_caught_error ran⟩

theorem run_importGroup (tgt : Target) (parentId : Option Nat) (g : KeycloakGroup)
    (s : Session) : ∃ t, (importGroup tgt parentId g).run s = (.ok (), t) := by
  cases g with
  | mk name subGroups =>
    exact run_caught _ _ s

theorem run_importGroups (tgt : Target) (parentId : Option Nat) (gs : List KeycloakGroup)
    (s : Session) : ∃ t, (importGroups tgt parentId gs).run s = (.ok (), t) := by
  induction gs generalizing s with
  | nil =>
    exact ⟨s, rfl⟩
  | cons g gs ih =>
    obtain ⟨t, ran⟩ := run_importGroup tgt parentId g s
    obtain ⟨u, ran'⟩ := ih t
    exact ⟨u, (run_bind_ok ran).trans ran'⟩

section Turns

variable {tgt : Target} {parentId : Option Nat} {name : String}
  {subGroups : List KeycloakGroup} {s : Session}

theorem run_group_aborted (aborted : s.aborted = true) :
    (importGroup tgt parentId (.mk name subGroups)).run s =
      (.ok (), { s with notes := s.notes.failed .groups name .aborted }) := by
  exact run_caught_error (run_query_bind_aborted aborted _ _)

theorem run_group_found (tgt : Target) (live : s.aborted = false) {id : Nat}
    (hit : findGroup tgt.realmId name parentId s.data = some id) :
    (importGroup tgt parentId (.mk name subGroups)).run s =
      (importGroups tgt (some id) subGroups).run { s with notes := s.notes.skipped .groups } := by
  obtain ⟨t, ran⟩ := run_importGroups tgt (some id) subGroups
    { s with notes := s.notes.skipped .groups }
  rw [importGroup, ran]
  apply run_caught_ok
  rw [run_query_bind live, hit]
  exact (run_bind_ok (run_note _)).trans ran

theorem run_group_foreseen {realmId : Option Nat} (live : s.aborted = false)
    (unseen : findGroup realmId name parentId s.data = none) :
    (importGroup (.dryRun realmId) parentId (.mk name subGroups)).run s =
      (importGroups (.dryRun realmId) none subGroups).run
        { s with notes := s.notes.created .groups } := by
  obtain ⟨t, ran⟩ := run_importGroups (.dryRun realmId) none subGroups
    { s with notes := s.notes.created .groups }
  rw [importGroup, ran]
  apply run_caught_ok
  simp only [Target.realmId]
  rw [run_query_bind live, unseen]
  exact (run_bind_ok (run_note _)).trans ran

variable {realmId : Nat}

def nameTaken (realmId : Nat) (name : String) (w : World) : Bool :=
  w.db.groups.any fun row => row.realmId = realmId && row.name = name

def groupAdded (realmId : Nat) (name : String) (parentId : Option Nat) (w : World) : World :=
  { db := { w.db with groups := w.db.groups ++
      [{ id := w.supply, realmId := realmId, name := name, parentId := parentId }] }
    supply := w.supply + 1 }

theorem run_group_created (live : s.aborted = false)
    (unseen : findGroup (some realmId) name parentId s.data = none)
    (free : nameTaken realmId name s.data = false) :
    (importGroup (.real realmId) parentId (.mk name subGroups)).run s =
      (importGroups (.real realmId) (some s.data.supply) subGroups).run
        { s with
          data := groupAdded realmId name parentId s.data
          notes := s.notes.created .groups } := by
  obtain ⟨t, ran⟩ := run_importGroups (.real realmId) (some s.data.supply) subGroups
    { s with
      data := groupAdded realmId name parentId s.data
      notes := s.notes.created .groups }
  have stored : (createGroup realmId name parentId).run s =
      (.ok s.data.supply, { s with data := groupAdded realmId name parentId s.data }) :=
    run_insert live free _
  rw [importGroup, ran]
  apply run_caught_ok
  simp only [Target.realmId]
  rw [run_query_bind live, unseen]
  have named : (newGroup (.real realmId) name parentId).run s =
      (.ok (some s.data.supply), { s with data := groupAdded realmId name parentId s.data }) :=
    run_bind_ok stored
  exact (run_bind_ok named).trans ((run_bind_ok (run_note _)).trans ran)

theorem run_group_clash (live : s.aborted = false)
    (unseen : findGroup (some realmId) name parentId s.data = none)
    (taken : nameTaken realmId name s.data = true) :
    (importGroup (.real realmId) parentId (.mk name subGroups)).run s =
      (.ok (), { s with aborted := true, notes := s.notes.failed .groups name .violation }) := by
  have refused : (createGroup realmId name parentId).run s =
      (.error .violation, { s with aborted := true }) := run_insert_taken live taken _
  have named : (newGroup (.real realmId) name parentId).run s =
      (.error .violation, { s with aborted := true }) := run_bind_error refused
  refine run_caught_error (t := { s with aborted := true }) ((run_query_bind live _ _).trans ?_)
  simp only [Target.realmId]
  rw [unseen]
  exact run_bind_error named

end Turns

mutual

theorem dry_group (realmId parentId : Option Nat) (group : KeycloakGroup) {s : Session}
    (live : s.aborted = false) :
    ∃ notes, (importGroup (.dryRun realmId) parentId group).run s =
        (.ok (), { s with notes := notes }) ∧
      notes.summary .groups =
        foreseen (finder realmId s.data) parentId (s.notes.summary .groups) group ∧
      ∀ other, other ≠ .groups → notes.summary other = s.notes.summary other := by
  cases group with
  | mk name subGroups =>
    cases found : findGroup realmId name parentId s.data with
    | some id =>
      obtain ⟨notes, ran, cnt, os⟩ := dry_groups realmId (some id) subGroups
        (s := { s with notes := s.notes.skipped .groups }) live
      refine ⟨notes, (run_group_found (.dryRun realmId) live found).trans ran, ?_, ?_⟩
      · have find : finder realmId s.data name parentId = some id := found
        rw [cnt, foreseen, find]
        simp [skipped]
      · exact fun other ne => (os other ne).trans (count_other ne _ _)
    | none =>
      obtain ⟨notes, ran, cnt, os⟩ := dry_groups realmId none subGroups
        (s := { s with notes := s.notes.created .groups }) live
      refine ⟨notes, (run_group_foreseen live found).trans ran, ?_, ?_⟩
      · have find : finder realmId s.data name parentId = none := found
        rw [cnt, foreseen, find]
        simp [created]
      · exact fun other ne => (os other ne).trans (count_other ne _ _)
termination_by sizeOf group

theorem dry_groups (realmId parentId : Option Nat) (groups : List KeycloakGroup) {s : Session}
    (live : s.aborted = false) :
    ∃ notes, (importGroups (.dryRun realmId) parentId groups).run s =
        (.ok (), { s with notes := notes }) ∧
      notes.summary .groups =
        foreseenAmong (finder realmId s.data) parentId (s.notes.summary .groups) groups ∧
      ∀ other, other ≠ .groups → notes.summary other = s.notes.summary other := by
  cases groups with
  | nil =>
    exact ⟨s.notes, rfl, rfl, fun _ _ => rfl⟩
  | cons g groups =>
    obtain ⟨notes, ran, cnt, others⟩ := dry_group realmId parentId g live
    obtain ⟨notes', ran', cnt', others'⟩ := dry_groups realmId parentId groups
      (s := { s with notes := notes }) live
    rw [importGroups, foreseenAmong]
    refine ⟨notes', (run_bind_ok ran).trans ran', ?_, ?_⟩
    · rw [cnt', cnt]
    · exact fun other ne => (others' other ne).trans (others other ne)
termination_by sizeOf groups

end

mutual

theorem foreseen_failed (find : Finder) (p : Option Nat) (tally : Tally)
    (group : KeycloakGroup) : (foreseen find p tally group).failed = tally.failed := by
  cases group with
  | mk name subGroups =>
    rw [foreseen]
    cases find name p with
    | some id => exact foreseenAmong_failed find (some id) tally.skip subGroups
    | none => exact foreseenAmong_failed find none tally.create subGroups
termination_by sizeOf group

/-- No group fails in a dry run. -/
theorem foreseenAmong_failed (find : Finder) (p : Option Nat) (tally : Tally)
    (groups : List KeycloakGroup) :
    (foreseenAmong find p tally groups).failed = tally.failed := by
  cases groups with
  | nil => rw [foreseenAmong]
  | cons g groups =>
    rw [foreseenAmong, foreseenAmong_failed, foreseen_failed]
termination_by sizeOf groups

end

def GroupsBelow (w : World) : Prop :=
  ∀ row ∈ w.db.groups, row.id < w.supply ∧ ∀ parent, row.parentId = some parent → parent < w.supply

def groupNames (realmId : Nat) (w : World) : List String :=
  (w.db.groups.filter (·.realmId = realmId)).map (·.name)

/-- The groups of `world` and some more. -/
def Extends (w later : World) : Prop :=
  ∃ rows, later.db.groups = w.db.groups ++ rows

theorem Extends.refl (w : World) : Extends w w := ⟨[], by simp⟩

theorem Extends.trans {a b c : World} (first : Extends a b) (snd : Extends b c) :
    Extends a c := by
  obtain ⟨rows, same⟩ := first
  obtain ⟨rows', same'⟩ := snd
  exact ⟨rows ++ rows', by rw [same', same, append_assoc]⟩

structure GroupsGrown (realmId : Nat) (before w : World) : Prop where
  supply : before.supply ≤ w.supply
  rows : ∃ rows, w.db = { before.db with groups := before.db.groups ++ rows } ∧
    (∀ row ∈ rows, row.realmId = realmId ∧ before.supply ≤ row.id ∧ row.id < w.supply) ∧
    ∀ row ∈ rows, row.name ∉ groupNames realmId before

theorem GroupsGrown.refl (realmId : Nat) (w : World) : GroupsGrown realmId w w where
  supply := le_refl _
  rows := ⟨[], by simp, by simp, by simp⟩

def GroupsFit (realmId : Nat) (w : World) (names : List String) : Prop :=
  names.Nodup ∧ ∀ name ∈ names, name ∉ groupNames realmId w

theorem groupsFit_append {realmId : Nat} {w later : World} {ns ns' : List String}
    (grew : groupNames realmId later = groupNames realmId w ++ ns)
    (first : GroupsFit realmId w ns) :
    GroupsFit realmId w (ns ++ ns') ↔ GroupsFit realmId later ns' := by
  simp only [GroupsFit, grew, nodup_append, mem_append, not_or]
  have nodup := first.1
  have apart := first.2
  constructor
  · rintro ⟨⟨-, nodup', disjoint⟩, all⟩
    exact ⟨nodup', fun name mem =>
      ⟨all name (.inr mem), fun earlier => disjoint name earlier name mem rfl⟩⟩
  · rintro ⟨nodup', all⟩
    refine ⟨⟨nodup, nodup', ?_⟩, ?_⟩
    · rintro name earlier _ later rfl
      exact (all name later).2 earlier
    · rintro name (earlier | later)
      · exact apart name earlier
      · exact (all name later).1

/-- What a real run over some groups comes to, whose missing names and forecast are these. -/
structure Merged (realmId : Nat) (before : World) (names : List String)
    (forecast : Tally → Tally) (present : World → Prop) (s t : Session) : Prop where
  only : Only .groups s t
  failed : (s.notes.summary .groups).failed ≤ (t.notes.summary .groups).failed
  aborts : t.aborted = true → (s.notes.summary .groups).failed < (t.notes.summary .groups).failed
  grown : t.aborted = false → GroupsGrown realmId before t.data
  extended : t.aborted = false → Extends s.data t.data
  rows : t.aborted = false → t.data.db.groups.length + (s.notes.summary .groups).created =
    s.data.db.groups.length + (t.notes.summary .groups).created
  trails : t.aborted = false → ∀ tally, (s.notes.summary .groups).created ≤ tally.created →
    (t.notes.summary .groups).created ≤ (forecast tally).created ∧
      ((t.notes.summary .groups).created = (forecast tally).created →
        (s.notes.summary .groups).created = tally.created ∧ GroupsFit realmId s.data names)
  fits : GroupsFit realmId s.data names → t.aborted = false ∧
    groupNames realmId t.data = groupNames realmId s.data ++ names ∧
    t.notes.summary .groups = forecast (s.notes.summary .groups) ∧
    ∀ later, Extends t.data later → present later

structure Failing (t u : Session) : Prop where
  aborted : u.aborted = true
  failed : (t.notes.summary .groups).failed ≤ (u.notes.summary .groups).failed
  only : Only .groups t u

variable {forecast forecast' : Tally → Tally} {present present' : World → Prop}

theorem Merged.trans {realmId : Nat} {before : World} {names names' : List String} {s t u : Session}
    (first : Merged realmId before names forecast present s t)
    (broken : t.aborted = true → Failing t u)
    (snd : t.aborted = false → Merged realmId before names' forecast' present' t u) :
    Merged realmId before (names ++ names') (fun tally => forecast' (forecast tally))
      (fun w => present w ∧ present' w) s u := by
  have alive : u.aborted = false → t.aborted = false := by
    intro live
    cases isBroken : t.aborted with
    | false => rfl
    | true =>
      rw [(broken isBroken).aborted] at live
      cases live
  constructor
  · cases isBroken : t.aborted with
    | true => exact first.only.trans (broken isBroken).only
    | false => exact first.only.trans (snd isBroken).only
  · cases isBroken : t.aborted with
    | true => exact le_trans first.failed (broken isBroken).failed
    | false => exact le_trans first.failed (snd isBroken).failed
  · intro aborted
    cases isBroken : t.aborted with
    | true => exact lt_of_lt_of_le (first.aborts isBroken) (broken isBroken).failed
    | false => exact lt_of_le_of_lt first.failed ((snd isBroken).aborts aborted)
  · exact fun live => (snd (alive live)).grown live
  · exact fun live => (first.extended (alive live)).trans ((snd (alive live)).extended live)
  · intro live
    have here := first.rows (alive live)
    have rest := (snd (alive live)).rows live
    omega
  · intro live tally below
    obtain ⟨below', agrees⟩ := first.trails (alive live) tally below
    obtain ⟨below'', agrees'⟩ := (snd (alive live)).trails live (forecast tally) below'
    refine ⟨below'', fun same => ?_⟩
    obtain ⟨same', fits'⟩ := agrees' same
    obtain ⟨same'', fits⟩ := agrees same'
    exact ⟨same'', (groupsFit_append (first.fits fits).2.1 fits).mpr fits'⟩
  · intro fits
    have here : GroupsFit realmId s.data names :=
      ⟨(nodup_append.mp fits.1).1, fun name mem =>
        fits.2 name (mem_append_left _ mem)⟩
    obtain ⟨live, grew, cnt, isPresent⟩ := first.fits here
    have rest := (groupsFit_append grew here).mp fits
    obtain ⟨live', grew', cnt', isPresent'⟩ := (snd live).fits rest
    refine ⟨live', ?_, by rw [cnt', cnt], ?_⟩
    · rw [grew', grew, append_assoc]
    · exact fun later extends_ =>
        ⟨isPresent later (((snd live).extended live').trans extends_), isPresent' later extends_⟩

section Steps

variable {realmId : Nat} {before : World} {s : Session} {name : String}

theorem merged_skip (live : s.aborted = false) (grown : GroupsGrown realmId before s.data) :
    Merged realmId before [] Tally.skip (fun _ => True) s
      { s with notes := s.notes.skipped .groups } where
  only _ different := count_other different _ _
  failed := by simp [skipped, Tally.skip]
  aborts broken := by simp [live] at broken
  grown _ := grown
  extended _ := .refl _
  rows _ := by simp [skipped]
  trails _ tally below := by
    exact ⟨below, fun same => ⟨same, by simp [GroupsFit]⟩⟩
  fits _ := by simp [live, skipped]

/-- A group that is listed twice is skipped, which a dry run does not foresee. -/
theorem merged_again (live : s.aborted = false) (grown : GroupsGrown realmId before s.data) (mem : name ∈ groupNames realmId s.data) :
    Merged realmId before [name] Tally.create (fun _ => True) s
      { s with notes := s.notes.skipped .groups } where
  only _ different := count_other different _ _
  failed := by simp [skipped, Tally.skip]
  aborts broken := by simp [live] at broken
  grown _ := grown
  extended _ := .refl _
  rows _ := by simp [skipped]
  trails _ tally below := by
    simp only [skipped, count_summary, Tally.skip_created, Tally.create_created]
    omega
  fits fits := absurd mem (fits.2 name mem_cons_self)

theorem merged_clash (ns : List String) (forecast : Tally → Tally) (present : World → Prop) (mem : name ∈ groupNames realmId s.data) (error : Thrown) :
    Merged realmId before (name :: ns) forecast present s
      { s with aborted := true, notes := s.notes.failed .groups name error } where
  only _ different := count_other different _ _
  failed := by simp [Report.failed, recorded, Tally.fail]
  aborts _ := by simp [Report.failed, recorded, Tally.fail]
  grown live := by cases live
  extended live := by cases live
  rows live := by cases live
  trails live := by cases live
  fits fits := absurd mem (fits.2 name mem_cons_self)

theorem groupNames_added (name : String) (parentId : Option Nat) (w : World) :
    groupNames realmId (groupAdded realmId name parentId w) = groupNames realmId w ++ [name] := by
  simp [groupNames, groupAdded]

theorem GroupsGrown.names {w : World} (grown : GroupsGrown realmId before w) :
    ∀ name ∈ groupNames realmId before, name ∈ groupNames realmId w := by
  obtain ⟨rows, same, -⟩ := grown.rows
  intro name mem
  simp only [groupNames, same, List.filter_append, map_append, mem_append]
  exact .inl mem

theorem GroupsGrown.add {w : World} (grown : GroupsGrown realmId before w)
    (free : name ∉ groupNames realmId w) (parentId : Option Nat) :
    GroupsGrown realmId before (groupAdded realmId name parentId w) := by
  obtain ⟨rows, same, ours, os⟩ := grown.rows
  refine ⟨le_succ_of_le grown.supply,
    rows ++ [{ id := w.supply, realmId := realmId, name := name, parentId := parentId }],
    ?_, ?_, ?_⟩
  · simp [groupAdded, same]
  · intro row mem
    rcases mem_append.mp mem with old | new
    · exact ⟨(ours row old).1, (ours row old).2.1, lt_succ_of_lt (ours row old).2.2⟩
    · rw [mem_singleton.mp new]
      exact ⟨rfl, grown.supply, lt_succ_self _⟩
  · intro row mem
    rcases mem_append.mp mem with old | new
    · exact os row old
    · rw [mem_singleton.mp new]
      exact fun earlier => free (grown.names name earlier)

theorem merged_create (live : s.aborted = false) (grown : GroupsGrown realmId before s.data) (free : name ∉ groupNames realmId s.data) (parentId : Option Nat) :
    Merged realmId before [name] Tally.create (fun _ => True) s
      { s with
        data := groupAdded realmId name parentId s.data
        notes := s.notes.created .groups } where
  only _ different := count_other different _ _
  failed := by simp [created, Tally.create]
  aborts broken := by simp [live] at broken
  grown _ := grown.add free parentId
  extended _ := ⟨[_], rfl⟩
  rows _ := by
    simp [created, groupAdded]
    omega
  trails _ tally below := by
    refine ⟨succ_le_succ below, fun same => ⟨succ.inj same, ?_⟩⟩
    simpa [GroupsFit] using free
  fits _ := by simp [live, created, groupNames_added]

end Steps

section Lookups

variable {realmId : Nat} {before w : World} {name : String} {parentId : Option Nat} {id : Nat}

theorem mem_groupNames : name ∈ groupNames realmId w ↔ nameTaken realmId name w = true := by
  simp only [groupNames, nameTaken, mem_map, mem_filter, any_eq_true,
    and_eq_true, decide_eq_true_eq, and_assoc]

theorem finder_some (hit : finder (some realmId) w name parentId = some id) :
    ∃ row ∈ w.db.groups, row.id = id ∧ row.realmId = realmId ∧ row.name = name ∧
      row.parentId = parentId := by
  obtain ⟨row, isFirst, same⟩ := map_eq_some_iff.mp hit
  have holds := find?_some isFirst
  simp only [and_eq_true, decide_eq_true_eq, some.injEq] at holds
  exact ⟨row, mem_of_find?_eq_some isFirst, same, holds.1.1, holds.1.2, holds.2⟩

theorem Extends.found {later : World} (extended : Extends w later)
    (hit : finder (some realmId) w name parentId = some id) :
    finder (some realmId) later name parentId = some id := by
  obtain ⟨rows, same⟩ := extended
  obtain ⟨row, isFirst, isId⟩ := map_eq_some_iff.mp hit
  simp only [finder, findGroup, same, find?_append, isFirst, some_or, map_some, isId]

theorem GroupsGrown.found (grown : GroupsGrown realmId before w)
    (hit : finder (some realmId) w name parentId = some id) :
    finder (some realmId) before name parentId = some id ∨
      finder (some realmId) before name parentId = none ∧ before.supply ≤ id ∧
        name ∉ groupNames realmId before := by
  obtain ⟨rows, same, ours, os⟩ := grown.rows
  cases atFirst : before.db.groups.find? fun row =>
      some row.realmId = some realmId && row.name = name && row.parentId = parentId with
  | some row =>
    simp only [finder, findGroup, same, find?_append, atFirst, some_or] at hit
    left
    simp only [finder, findGroup, atFirst, hit]
  | none =>
    simp only [finder, findGroup, same, find?_append, atFirst, none_or] at hit
    obtain ⟨row, isFirst, isId⟩ := map_eq_some_iff.mp hit
    have listed := mem_of_find?_eq_some isFirst
    have holds := find?_some isFirst
    simp only [and_eq_true, decide_eq_true_eq] at holds
    refine .inr ⟨by simp only [finder, findGroup, atFirst, Option.map_none], ?_, ?_⟩
    · rw [← isId]
      exact (ours row listed).2.1
    · rw [← holds.1.2]
      exact os row listed

theorem GroupsGrown.unseen (grown : GroupsGrown realmId before w)
    (unseen : finder (some realmId) w name parentId = none) :
    finder (some realmId) before name parentId = none := by
  obtain ⟨rows, same, -, -⟩ := grown.rows
  cases atFirst : finder (some realmId) before name parentId with
  | none => rfl
  | some id =>
    have extended : Extends before w := ⟨rows, by rw [same]⟩
    rw [extended.found atFirst] at unseen
    cases unseen

theorem finder_none (free : name ∉ groupNames realmId w) :
    finder (some realmId) w name parentId = none := by
  cases found : finder (some realmId) w name parentId with
  | none => rfl
  | some id =>
    obtain ⟨row, mem, -, ours, named, -⟩ := finder_some found
    refine absurd ?_ free
    simp only [groupNames, mem_map, mem_filter, decide_eq_true_eq]
    exact ⟨row, ⟨mem, ours⟩, named⟩

theorem finder_added (unseen : finder (some realmId) w name parentId = none) :
    finder (some realmId) (groupAdded realmId name parentId w) name parentId = some w.supply := by
  have notThere : (w.db.groups.find? fun row =>
      some row.realmId = some realmId && row.name = name && row.parentId = parentId) = none := by
    simpa [finder, findGroup] using unseen
  simp only [finder, findGroup, groupAdded, find?_append, notThere, none_or]
  simp

end Lookups

/-- A parent in a real run, and the parent that was there before it, if there was one. -/
inductive Place (before : World) : Option Nat → Option (Option Nat) → Prop
  | old {parent : Option Nat} (known : ∀ id, parent = some id → id < before.supply) :
      Place before parent (some parent)
  | new {id : Nat} (later : before.supply ≤ id) : Place before (some id) none

theorem Place.found {before : World} {realmId : Nat} (below : GroupsBelow before) {name : String}
    {p : Option Nat} {place : Option (Option Nat)} (at_ : Place before p place) {id : Nat}
    (hit : finder (some realmId) before name p = some id) :
    place = some p ∧ id < before.supply := by
  obtain ⟨row, mem, rfl, -, -, isParent⟩ := finder_some hit
  refine ⟨?_, (below row mem).1⟩
  cases at_ with
  | old known => rfl
  | new later =>
    have under := (below row mem).2 _ isParent
    omega

theorem failing_groups (realmId : Nat) (p : Option Nat) (gs : List KeycloakGroup)
    {s t : Session} (aborted : s.aborted = true)
    (ran : (importGroups (.real realmId) p gs).run s = (.ok (), t)) : Failing s t := by
  induction gs generalizing s with
  | nil =>
    cases ran
    exact ⟨aborted, le_refl _, .refl _ _⟩
  | cons g gs ih =>
    cases g with
    | mk name subGroups =>
      have rest := (run_bind_ok (run_group_aborted aborted)).symm.trans ran
      obtain ⟨broken, failed, only⟩ := ih (s := { s with
        notes := s.notes.failed .groups name .aborted }) aborted rest
      refine ⟨broken, le_trans ?_ failed, .trans ?_ only⟩
      · simp [Report.failed, recorded, Tally.fail]
      · exact fun other ne => count_other ne _ _

section Places

variable {realmId : Nat} {before : World} {name : String} {p : Option Nat}
  {place : Option (Option Nat)}

theorem Place.bind_none (at_ : Place before p place)
    (unseen : finder (some realmId) before name p = none) :
    place.bind (finder (some realmId) before name) = none := by
  cases at_ with
  | old known => exact unseen
  | new later => rfl

theorem Place.join_none (at_ : Place before p place)
    (unseen : finder (some realmId) before name p = none)
    (free : name ∉ groupNames realmId before) :
    finder (some realmId) before name place.join = none := by
  cases at_ with
  | old known => exact unseen
  | new later => exact finder_none free

end Places

theorem Merged.refl {realmId : Nat} {before : World} {s : Session} (live : s.aborted = false)
    (grown : GroupsGrown realmId before s.data) :
    Merged realmId before [] id (fun _ => True) s s where
  only := .refl _ _
  failed := le_refl _
  aborts broken := by simp [live] at broken
  grown _ := grown
  extended _ := .refl _
  rows _ := rfl
  trails _ tally below := ⟨below, fun same => ⟨same, by simp [GroupsFit]⟩⟩
  fits _ := by simp [live]

theorem Merged.congr {realmId : Nat} {before : World} {ns ns' : List String} {s t : Session}
    (merged : Merged realmId before ns forecast present s t) (sameNames : ns' = ns)
    (same : forecast' = forecast)
    (presents : t.aborted = false → ∀ later, Extends t.data later → present later →
      present' later) : Merged realmId before ns' forecast' present' s t := by
  subst sameNames same
  refine { merged with fits := fun fits => ?_ }
  obtain ⟨live, grew, cnt, isPresent⟩ := merged.fits fits
  exact ⟨live, grew, cnt, fun later extended =>
    presents live later extended (isPresent later extended)⟩

mutual

theorem real_group (realmId : Nat) {before : World} (below : GroupsBelow before)
    (p : Option Nat) (place : Option (Option Nat)) (at_ : Place before p place)
    (group : KeycloakGroup) {s : Session} (live : s.aborted = false)
    (grown : GroupsGrown realmId before s.data) :
    ∃ t, (importGroup (.real realmId) p group).run s = (.ok (), t) ∧
      Merged realmId before (missing (finder (some realmId) before) place group)
        (fun tally => foreseen (finder (some realmId) before) place.join tally group)
        (fun w => Present (finder (some realmId) w) p group) s t := by
  cases group with
  | mk name subGroups =>
    -- a group that is found below its parent later on, with all its subgroups
    have presents (id : Nat) {t : Session} {w : World} (extended : Extends w t.data)
        (found : finder (some realmId) w name p = some id) (later : World)
        (extended' : Extends t.data later)
        (rest : True ∧ PresentAmong (finder (some realmId) later) (some id) subGroups) :
        Present (finder (some realmId) later) p (.mk name subGroups) := by
      exact ⟨id, (extended.trans extended').found found, rest.2⟩
    have intact {t u : Session} (broken : s.aborted = true) : Failing t u := by
      rw [live] at broken
      cases broken
    cases found : finder (some realmId) s.data name p with
    | some id =>
      have step : (importGroup (.real realmId) p (.mk name subGroups)).run s = _ :=
        run_group_found (.real realmId) live found
      rcases grown.found found with atFirst | ⟨unseen, later, notBefore⟩
      · -- it was there before the import
        obtain ⟨rfl, known⟩ := at_.found below atFirst
        obtain ⟨t, ran, merged⟩ := real_groups realmId below (some id) (some (some id))
          (.old fun _ same => by cases same; exact known) subGroups
          (s := { s with notes := s.notes.skipped .groups }) live grown
        have whole := (merged_skip live grown).trans intact fun _ => merged
        refine ⟨t, step.trans ran, whole.congr ?_ ?_ fun live' =>
          presents id (merged.extended live') found⟩
        · rw [missing, bind_some, atFirst, nil_append]
        · funext tally
          rw [foreseen, Option.join_some, atFirst]
          rfl
      · -- it is listed twice
        obtain ⟨row, isRow, -, ours, named, -⟩ := finder_some found
        have listed : name ∈ groupNames realmId s.data := by
          simp only [groupNames, mem_map, mem_filter, decide_eq_true_eq]
          exact ⟨row, ⟨isRow, ours⟩, named⟩
        obtain ⟨t, ran, merged⟩ := real_groups realmId below (some id) none (.new later) subGroups
          (s := { s with notes := s.notes.skipped .groups }) live grown
        have whole := (merged_again live grown listed).trans intact fun _ => merged
        refine ⟨t, step.trans ran, whole.congr ?_ ?_ fun live' =>
          presents id (merged.extended live') found⟩
        · rw [missing, at_.bind_none unseen, singleton_append]
        · funext tally
          rw [foreseen, at_.join_none unseen notBefore]
          rfl
    | none =>
      have unseen := grown.unseen found
      have names : missing (finder (some realmId) before) place (.mk name subGroups) =
          name :: missingAmong (finder (some realmId) before) none subGroups := by
        rw [missing, at_.bind_none unseen]
      cases taken : nameTaken realmId name s.data with
      | true =>
        rw [names]
        exact ⟨_, run_group_clash live found taken,
          merged_clash _ _ _ (mem_groupNames.mpr taken) .violation⟩
      | false =>
        have free : name ∉ groupNames realmId s.data := by
          rw [mem_groupNames, taken]
          exact Bool.false_ne_true
        obtain ⟨t, ran, merged⟩ := real_groups realmId below (some s.data.supply) none
          (.new grown.supply) subGroups
          (s := { s with
            data := groupAdded realmId name p s.data
            notes := s.notes.created .groups }) live (grown.add free p)
        have whole := (merged_create live grown free p).trans intact fun _ => merged
        refine ⟨t, (run_group_created live found taken).trans ran, whole.congr ?_ ?_
          fun live' => presents _ (merged.extended live') (finder_added found)⟩
        · rw [names, singleton_append]
        · funext tally
          rw [foreseen, at_.join_none unseen fun earlier => free (grown.names name earlier)]
          rfl
termination_by sizeOf group

theorem real_groups (realmId : Nat) {before : World} (below : GroupsBelow before)
    (p : Option Nat) (place : Option (Option Nat)) (at_ : Place before p place)
    (groups : List KeycloakGroup) {s : Session} (live : s.aborted = false)
    (grown : GroupsGrown realmId before s.data) :
    ∃ t, (importGroups (.real realmId) p groups).run s = (.ok (), t) ∧
      Merged realmId before (missingAmong (finder (some realmId) before) place groups)
        (fun tally => foreseenAmong (finder (some realmId) before) place.join tally groups)
        (fun w => PresentAmong (finder (some realmId) w) p groups) s t := by
  cases groups with
  | nil =>
    refine ⟨s, rfl, (Merged.refl live grown).congr rfl ?_ ?_⟩
    · funext tally
      rfl
    · intro _ _ _ _
      trivial
  | cons g groups =>
    obtain ⟨t, ran, first⟩ := real_group realmId below p place at_ g live grown
    obtain ⟨u, ran'⟩ := run_importGroups (.real realmId) p groups t
    refine ⟨u, (run_bind_ok ran).trans ran', ?_⟩
    have whole := first.trans (fun aborted => failing_groups realmId p groups aborted ran')
      fun live' => by
        obtain ⟨u', ran'', merged⟩ :=
          real_groups realmId below p place at_ groups live' (first.grown live')
        rw [ran'] at ran''
        cases ran''
        exact merged
    refine whole.congr rfl ?_ ?_
    · funext tally
      rw [foreseenAmong]
    · intro _ later _ both
      exact both
termination_by sizeOf groups

end

mutual

theorem present_group (realmId : Nat) (p : Option Nat) (group : KeycloakGroup) {s : Session}
    (live : s.aborted = false) (present : Present (finder (some realmId) s.data) p group) :
    ∃ notes, (importGroup (.real realmId) p group).run s = (.ok (), { s with notes := notes }) := by
  cases group with
  | mk name subGroups =>
    obtain ⟨id, found, rest⟩ := present
    obtain ⟨notes, ran⟩ := present_groups realmId (some id) subGroups
      (s := { s with notes := s.notes.skipped .groups }) live rest
    exact ⟨notes, (run_group_found (.real realmId) live found).trans ran⟩
termination_by sizeOf group

theorem present_groups (realmId : Nat) (p : Option Nat) (groups : List KeycloakGroup)
    {s : Session} (live : s.aborted = false)
    (present : PresentAmong (finder (some realmId) s.data) p groups) :
    ∃ notes, (importGroups (.real realmId) p groups).run s =
      (.ok (), { s with notes := notes }) := by
  cases groups with
  | nil =>
    exact ⟨s.notes, rfl⟩
  | cons g groups =>
    obtain ⟨notes, ran⟩ := present_group realmId p g live present.1
    obtain ⟨notes', ran'⟩ := present_groups realmId p groups
      (s := { s with notes := notes }) live present.2
    exact ⟨notes', (run_bind_ok ran).trans ran'⟩
termination_by sizeOf groups

end

end Idenplane.Migration
