import Idenplane.Migration.GroupTrees

/-! # A loop of a real run beside the same loop of a dry run -/

namespace Idenplane.Migration

open Atomic Transaction Merging Realms.Transfer Ledger Tally Nat
open Merging.Plan (news)

structure Foreseen (entity : Entity) (d d' : Session) : Prop where
  live : d'.aborted = false
  data : d'.data = d.data
  only : Only entity d d'

variable {rid : Option Nat} {world : World} {s d : Session}

section Tables

variable {α ρ : Type} {kind : Kind α Unit} {table : Rows ρ} (tabled : Tabled kind table)

def Distinct (realmId : Option Nat) (world : World) (items : List α) : Prop :=
  ((news (kind.isKnown realmId · world) items).map tabled.key).Nodup ∧
    ∀ item ∈ news (kind.isKnown realmId · world) items, tabled.succeeds item = true

theorem Tabled.fits_iff (prepares : ∀ item, kind.prepare item = pure ()) {r : Nat} {items : List α} :
    (kind.plan r).Fits (kind.isKnown rid · world)
        (fun other item => tabled.key other = tabled.key item) (fun _ _ => True)
        (fun item => tabled.succeeds item = true) [] items ↔
      Distinct tabled rid world items := by
  have prepared (item : α) : (kind.plan r).prepared item = true := by
    simp only [Kind.plan, prepares]
    rfl
  rw [Plan.fits_iff, Distinct, List.Nodup, List.pairwise_map]
  simp only [prepared, true_implies, imp_self, and_true]

structure Stored (realmId : Option Nat) (world : World) (r : Nat) (items : List α)
    (s t d' : Session) : Prop where
  live : t.aborted = false
  only : Only kind.entity s t
  frame : t.data.db = table.put (table.rows t.data.db) s.data.db
  supply : s.data.supply ≤ t.data.supply
  agrees : t.notes.summary kind.entity = d'.notes.summary kind.entity →
    Distinct tabled realmId world items
  fits : Distinct tabled realmId world items →
    t.notes.summary kind.entity = d'.notes.summary kind.entity ∧
    (table.rows t.data.db).length + (s.notes.summary kind.entity).created =
      (table.rows s.data.db).length + (t.notes.summary kind.entity).created ∧
    (∀ item ∈ items, kind.isKnown (some r) item t.data = true) ∧
    ∀ item, kind.isKnown (some r) item t.data = true ↔ kind.isKnown realmId item world = true ∨
        ∃ other ∈ news (kind.isKnown realmId · world) items, tabled.key other = tabled.key item

theorem Tabled.stage (plain : kind.Plain) (prepares : ∀ item, kind.prepare item = pure ())
    (r : Nat) (xs : List α)
    (live : s.aborted = false)
    (agree : ∀ item, kind.isKnown rid item world = kind.isKnown (some r) item s.data)
    (dryLive : d.aborted = false) (dryData : d.data = world)
    (same : s.notes.summary kind.entity = d.notes.summary kind.entity) :
    ∃ t d', (each (kind.turn (.real r)) xs).run s = (.ok (), t) ∧
      (each (kind.turn (.dryRun rid)) xs).run d = (.ok (), d') ∧
      Foreseen kind.entity d d' ∧ Stored tabled rid world r xs s t d' := by
  subst dryData
  have known : (kind.isKnown rid · d.data) = (kind.isKnown (some r) · s.data) := funext agree
  have prepared (item : α) : (kind.plan r).prepared item = true := by
    simp only [Kind.plan, prepares]
    rfl
  obtain ⟨t, ran, merged, only⟩ := plain.loop_real r xs s
  obtain ⟨notes, dryRan, cnt, dryOnly⟩ := plain.loop_dry rid r xs dryLive
  have laws := tabled.lawful r s.data
  have start := tabled.grown_refl r s.data
  have here : ledger kind.entity s = ⟨s.data, false, s.notes.summary kind.entity⟩ := by
    simp [ledger, live]
  rw [here] at merged
  have unbroken := laws.unbroken (fun _ seen => tabled.steady seen) xs start
    (s.notes.summary kind.entity)
  obtain ⟨added, grown⟩ := laws.grown_of_unbroken start _ unbroken
  rw [← merged] at unbroken grown
  have intact : t.aborted = false := unbroken
  have trails := laws.trails xs start (s.notes.summary kind.entity)
    (s.notes.summary kind.entity) (le_refl _) (le_refl _)
  rw [← merged] at trails
  rw [known, ← same] at cnt
  refine ⟨t, _, ran, dryRan, ⟨dryLive, rfl, dryOnly⟩, intact, only, ?_, grown.supply, ?_, ?_⟩
  · obtain ⟨rows, frame, -⟩ := grown.rows
    have data : (ledger kind.entity t).store = t.data := rfl
    rw [data] at frame
    rw [frame, table.rows_put]
  · intro agrees
    rw [← tabled.fits_iff prepares (r := r), known]
    rw [cnt] at agrees
    have created := congrArg created agrees
    have skipped := congrArg skipped agrees
    exact (trails.agrees intact created skipped).2.2
  · intro distinct
    rw [← tabled.fits_iff prepares (r := r), known] at distinct
    obtain ⟨w, final, grown'⟩ := laws.merge_of_fits distinct start (s.notes.summary kind.entity)
    rw [← merged] at final
    have data : t.data = w := congrArg store final
    have tally : t.notes.summary kind.entity = _ := congrArg tally final
    rw [← data, nil_append] at grown'
    refine ⟨tally.trans cnt.symm, ?_, ?_, ?_⟩
    · rw [tally, Plan.forecast_accepted, grown'.length]
      omega
    · intro item mem
      exact laws.knows_prepared (fun _ => rfl) grown' mem (prepared item)
    · intro item
      have knows := laws.knows grown' item
      rw [← agree item] at knows
      refine knows.trans (or_congr Iff.rfl ?_)
      simp only [Plan.accepted, news, agree, prepared, Bool.and_true]

end Tables

/-- No new user is listed again after it was created, or clashes with another one. -/
def UsersDistinct (realmId : Option Nat) (world : World) (Fits : KeycloakUser → Prop)
    (users : List KeycloakUser) : Prop :=
  (news (fun user => hasUser realmId user.username world) users).Pairwise (fun user later =>
    passwordFits user = true → ¬ user.username = later.username ∧
      (passwordFits later = true → Apart user later)) ∧
    ∀ user ∈ news (fun user => hasUser realmId user.username world) users,
      passwordFits user = true → Fits user

structure UsersStored (realmId : Option Nat) (world : World) (r : Nat)
    (users : List KeycloakUser) (s t d' : Session) : Prop where
  only : Only .users s t
  breaks : t.aborted = true → (t.notes.summary .users).created < (d'.notes.summary .users).created ∨
      (s.notes.summary .users).created < (t.notes.summary .users).created
  frame : t.aborted = false → t.data.db = { s.data.db with
    users := t.data.db.users, userRoles := t.data.db.userRoles }
  agrees : t.aborted = false → t.notes.summary .users = d'.notes.summary .users →
    UsersDistinct realmId world (UserFits r s.data) users
  fits : UsersDistinct realmId world (UserFits r s.data) users → t.aborted = false ∧
    t.notes.summary .users = d'.notes.summary .users ∧
    t.data.db.users.length + (s.notes.summary .users).created =
      s.data.db.users.length + (t.notes.summary .users).created ∧
    ∀ user ∈ users, passwordFits user = true → hasUser (some r) user.username t.data = true

theorem UsersGrown.length {r : Nat} {pre world : World} {added : List KeycloakUser}
    (grown : UsersGrown r pre added world) :
    world.db.users.length = pre.db.users.length + added.length := by
  obtain ⟨rows, links, same, matched⟩ := grown.rows
  rw [same, length_append, matched.length_eq]

theorem users_stage (deps : Deps) (r : Nat) (users : List KeycloakUser) (live : s.aborted = false) (below : LinksBelow s.data)
    (agree : ∀ name, hasUser rid name world = hasUser (some r) name s.data)
    (dryLive : d.aborted = false) (dryData : d.data = world)
    (same : s.notes.summary .users = d.notes.summary .users) :
    ∃ t d', (each (importUser deps (.real r)) users).run s = (.ok (), t) ∧
      (each (importUser deps (.dryRun rid)) users).run d = (.ok (), d') ∧
      Foreseen .users d d' ∧ UsersStored rid world r users s t d' := by
  subst dryData
  have known : (fun u : KeycloakUser => hasUser rid u.username d.data) =
      (fun u => hasUser (some r) u.username s.data) := funext fun u => agree u.username
  have plain := usersKind_plain deps
  obtain ⟨t, ran, merged, only⟩ := plain.loop_real r users s
  obtain ⟨notes, dryRan, cnt, dryOnly⟩ := plain.loop_dry rid r users dryLive
  have laws := users_lawful deps r s.data
  have start : UsersGrown r s.data [] s.data :=
    ⟨le_refl _, below, [], [], by simp, .nil⟩
  have here : ledger .users s = ⟨s.data, false, s.notes.summary .users⟩ := by simp [ledger, live]
  change ledger .users t = users.foldl _ (ledger .users s) at merged
  rw [here] at merged
  have trails := laws.trails users start (s.notes.summary .users) (s.notes.summary .users)
    (le_refl _) (le_refl _)
  rw [← merged] at trails
  change notes.summary .users = users.foldl (((usersKind deps).plan r).forecast
    fun u => hasUser rid u.username d.data) (d.notes.summary .users) at cnt
  rw [known, ← same] at cnt
  have fitting : ((usersKind deps).plan r).Fits (fun u => hasUser (some r) u.username s.data)
      (fun other u => other.username = u.username) Apart (UserFits r s.data) [] users ↔
        UsersDistinct rid d.data (UserFits r s.data) users := by
    rw [Plan.fits_iff, UsersDistinct, known]
    simp only [usersKind_prepared]
  refine ⟨t, _, ran, dryRan, ⟨dryLive, rfl, dryOnly⟩, only, ?_, ?_, ?_, ?_⟩
  · intro aborted
    rw [cnt]
    exact trails.breaks aborted
  · intro intact
    have unbroken : (users.foldl ((usersKind deps).plan r).merge
        ⟨s.data, false, s.notes.summary .users⟩).broken = false := by
      rw [← merged]
      exact intact
    obtain ⟨added, grown⟩ := laws.grown_of_unbroken start _ unbroken
    rw [← merged] at grown
    obtain ⟨rows, links, frame, -⟩ := grown.rows
    have data : (ledger .users t).store = t.data := rfl
    rw [data] at frame
    rw [frame]
  · intro intact agrees
    rw [cnt] at agrees
    have created := congrArg created agrees
    have skipped := congrArg skipped agrees
    exact fitting.mp (trails.agrees intact created skipped).2.2
  · intro distinct
    obtain ⟨w, final, grown⟩ :=
      laws.merge_of_fits (fitting.mpr distinct) start (s.notes.summary .users)
    rw [← merged] at final
    have data : t.data = w := congrArg store final
    have tally : t.notes.summary .users = _ := congrArg tally final
    rw [← data, nil_append] at grown
    refine ⟨congrArg broken final, tally.trans cnt.symm, ?_, ?_⟩
    · rw [tally, Plan.forecast_accepted, grown.length]
      omega
    · intro u mem fits
      have prepared : ((usersKind deps).plan r).prepared u = true := by
        rw [usersKind_prepared, fits]
      exact laws.knows_prepared (fun _ => rfl) grown mem prepared

theorem groups_stage (r : Nat) (gs : List KeycloakGroup) (live : s.aborted = false) (below : GroupsBelow s.data)
    (agree : finder rid world = finder (some r) s.data)
    (dryLive : d.aborted = false) (dryData : d.data = world) :
    ∃ t d', (importGroups (.real r) none gs).run s = (.ok (), t) ∧
      (importGroups (.dryRun rid) none gs).run d = (.ok (), d') ∧ Foreseen .groups d d' ∧
      d'.notes.summary .groups =
        foreseenAmong (finder rid world) none (d.notes.summary .groups) gs ∧
      Merged r s.data (missingAmong (finder rid world) (some none) gs)
        (fun tally => foreseenAmong (finder rid world) none tally gs)
        (fun later => PresentAmong (finder (some r) later) none gs) s t := by
  subst dryData
  obtain ⟨t, ran, merged⟩ := real_groups r below none (some none)
    (.old fun _ same => by cases same) gs live (.refl r s.data)
  obtain ⟨notes, dryRan, cnt, dryOnly⟩ := dry_groups rid none gs dryLive
  rw [← agree] at merged
  exact ⟨t, _, ran, dryRan, ⟨dryLive, rfl, dryOnly⟩, cnt, merged⟩

end Idenplane.Migration
