import Idenplane.Migration.Keycloak

/-! # The loops of an import

Each loop over one kind of entities merges them into the database, in a real run, and is the
forecast of that merge in a dry run.
-/

namespace Idenplane.Migration

open Atomic Transaction Merging Realms.Transfer Report Plan Except

abbrev Session := Transaction World Report

def ledger (entity : Entity) (s : Session) : Ledger World :=
  ⟨s.data, s.aborted, s.notes.summary entity⟩

def Only (entity : Entity) (s t : Session) : Prop :=
  ∀ other, other ≠ entity → t.notes.summary other = s.notes.summary other

theorem Only.refl (entity : Entity) (s : Session) : Only entity s s := fun _ _ => rfl

theorem Only.trans {entity : Entity} {s t u : Session} (first : Only entity s t)
    (snd : Only entity t u) : Only entity s u :=
  fun other ne => (snd other ne).trans (first other ne)

@[simp] theorem count_summary (entity : Entity) (chg : MigrationEntityStats → MigrationEntityStats)
    (report : Report) : (report.count entity chg).summary entity = chg (report.summary entity) := by
  simp [count]

theorem count_other {entity other : Entity} (ne : other ≠ entity)
    (chg : MigrationEntityStats → MigrationEntityStats) (report : Report) :
    (report.count entity chg).summary other = report.summary other := by
  simp [count, ne]

/-- The arguments of `importEntity` for one kind of entities. -/
structure Kind (α β : Type) where
  entity : Entity
  name : α → String
  isKnown : Option Nat → α → World → Bool
  prepare : α → Import β
  create : α → Nat → β → Import Unit

namespace Kind

variable {α β : Type} (kind : Kind α β)

def turn (target : Target) (item : α) : Import Unit :=
  importEntity kind.entity (kind.name item) (kind.isKnown target.realmId item)
    (kind.prepare item) (kind.create item) target

def made (realmId : Nat) (item : α) : Import Unit := do
  let prepared ← kind.prepare item
  kind.create item realmId prepared

def fresh (w : World) : Session := { data := w, notes := { dryRun := false } }

def plan (realmId : Nat) : Plan World α where
  known w item := kind.isKnown (some realmId) item w
  prepared item := ((kind.prepare item).run (fresh {})).1.isOk
  create item w :=
    let ran := (kind.made realmId item).run (fresh w)
    (ran.1.isOk, ran.2.data, ran.2.aborted)

/-- Preparing an entity is computing, and creating it has nothing to do with the report. -/
structure Plain : Prop where
  prepares : ∀ item s, (kind.prepare item).run s = (((kind.prepare item).run (fresh {})).1, s)
  creates : ∀ item realmId prepared, Blind (kind.create item realmId prepared)

variable {kind}

section

variable (plain : kind.Plain)

include plain

theorem Plain.made (rid : Nat) (item : α) : Blind (kind.made rid item) := by
  apply Blind.bind
  · intro s notes
    rw [plain.prepares item, plain.prepares item s]
  · intro prepared
    exact plain.creates item rid prepared

variable {s : Session}

theorem Plain.made_run (rid : Nat) (item : α) (live : s.aborted = false) :
    (kind.made rid item).run s = (((kind.made rid item).run (fresh s.data)).1,
        { data := ((kind.plan rid).create item s.data).2.1
          aborted := ((kind.plan rid).create item s.data).2.2
          notes := s.notes }) := by
  rcases s with ⟨data, aborted, notes⟩
  cases live
  exact plain.made rid item (fresh data) notes

theorem Plain.turn_real (rid : Nat) (item : α) (s : Session) :
    ∃ t, (kind.turn (.real rid) item).run s = (.ok (), t) ∧
      ledger kind.entity t = (kind.plan rid).merge (ledger kind.entity s) item ∧
      Only kind.entity s t := by
  have other (t : Session) (change : MigrationEntityStats → MigrationEntityStats)
      (same : t.notes = s.notes.count kind.entity change) : Only kind.entity s t := by
    intro entity ne
    rw [same, count_other ne]
  have failing (t : Session) (thrown : Thrown) (same : t.notes = s.notes) : Only kind.entity s
        { t with notes := t.notes.failed kind.entity (kind.name item) thrown } := by
    intro entity ne
    change (t.notes.count kind.entity .fail).summary entity = _
    rw [count_other ne, same]
  cases broken : s.aborted with
  | true =>
    refine ⟨_, run_caught_error (run_query_bind_aborted broken _ _), ?_, failing s _ rfl⟩
    simp [ledger, merge, broken, failed, recorded]
  | false =>
    unfold turn importEntity
    simp only [Target.realmId]
    cases seen : kind.isKnown (some rid) item s.data with
    | true =>
      refine ⟨{ s with notes := s.notes.skipped kind.entity }, ?_, ?_, other _ .skip rfl⟩
      · apply run_caught_ok
        rw [run_query_bind broken, seen]
        rfl
      · simp [ledger, merge, broken, plan, seen, skipped]
    | false =>
      have prepared := plain.prepares item
      have made := plain.made_run rid item broken
      rcases prep : ((kind.prepare item).run (fresh {})).1 with thrown | value
      · refine ⟨{ s with notes := s.notes.failed kind.entity (kind.name item) thrown }, ?_, ?_,
          failing s thrown rfl⟩
        · apply run_caught_error
          rw [run_query_bind broken, seen]
          exact run_bind_error ((prepared s).trans (by rw [prep]))
        · simp [ledger, merge, broken, plan, seen, prep, isOk, Except.toBool,
            failed, recorded]
      · have ready : (kind.prepare item).run s = (.ok value, s) :=
          (prepared s).trans (by rw [prep])
        have made : (kind.create item rid value).run s = _ := (run_bind_ok ready).symm.trans made
        have isPrepared : (kind.plan rid).prepared item = true := by
          simp [plan, prep, isOk, Except.toBool]
        have creation : (kind.plan rid).create item s.data =
            (((kind.made rid item).run (fresh s.data)).1.isOk,
              ((kind.plan rid).create item s.data).2.1,
              ((kind.plan rid).create item s.data).2.2) := rfl
        rcases ran : ((kind.made rid item).run (fresh s.data)).1 with thrown | _
        · rw [ran] at made creation
          refine ⟨_, run_caught_error ((run_query_bind broken _ _).trans ?_), ?_, failing
              { data := ((kind.plan rid).create item s.data).2.1
                aborted := ((kind.plan rid).create item s.data).2.2
                notes := s.notes } thrown rfl⟩
          · rw [seen]
            exact (run_bind_ok ready).trans (run_bind_error made)
          · simp only [ledger, broken, merge_created seen isPrepared creation]
            simp [failed, recorded, isOk, Except.toBool]
        · rw [ran] at made creation
          refine ⟨{ data := ((kind.plan rid).create item s.data).2.1
                    aborted := ((kind.plan rid).create item s.data).2.2
                    notes := s.notes.created kind.entity },
            run_caught_ok ((run_query_bind broken _ _).trans ?_), ?_, other _ .create rfl⟩
          · rw [seen]
            exact (run_bind_ok ready).trans (run_bind_ok made)
          · simp only [ledger, broken, merge_created seen isPrepared creation]
            simp [created, isOk, Except.toBool]

theorem Plain.loop_real (rid : Nat) (xs : List α) (s : Session) :
    ∃ t, (each (kind.turn (.real rid)) xs).run s = (.ok (), t) ∧
      ledger kind.entity t = xs.foldl (kind.plan rid).merge (ledger kind.entity s) ∧
      Only kind.entity s t := by
  induction xs generalizing s with
  | nil => exact ⟨s, rfl, rfl, .refl _ _⟩
  | cons item xs ih =>
    obtain ⟨t, ran, merged, os⟩ := plain.turn_real rid item s
    obtain ⟨u, ran', merged', os'⟩ := ih t
    refine ⟨u, (run_bind_ok ran).trans ran', ?_, os.trans os'⟩
    rw [merged', merged]
    rfl

theorem Plain.turn_dry (rid : Option Nat) (r : Nat) (item : α) (live : s.aborted = false) :
    ∃ notes, (kind.turn (.dryRun rid) item).run s = (.ok (), { s with notes := notes }) ∧
      notes.summary kind.entity = (kind.plan r).forecast
        (fun item => kind.isKnown rid item s.data) (s.notes.summary kind.entity) item ∧
      ∀ other, other ≠ kind.entity → notes.summary other = s.notes.summary other := by
  unfold turn importEntity
  simp only [Target.realmId]
  cases seen : kind.isKnown rid item s.data with
  | true =>
    refine ⟨s.notes.skipped kind.entity, run_caught_ok ?_, ?_, ?_⟩
    · rw [run_query_bind live, seen]
      rfl
    · simp [skipped, forecast, seen]
    · exact fun other ne => count_other ne _ _
  | false =>
    have prepared := plain.prepares item s
    rcases prep : ((kind.prepare item).run (fresh {})).1 with thrown | v
    · refine ⟨s.notes.failed kind.entity (kind.name item) thrown, ?_, ?_, ?_⟩
      · apply run_caught_error
        rw [run_query_bind live, seen]
        exact run_bind_error (prepared.trans (by rw [prep]))
      · simp [failed, recorded, forecast, seen, plan, prep, isOk, Except.toBool]
      · exact fun other ne => count_other ne _ _
    · refine ⟨s.notes.created kind.entity, run_caught_ok ?_, ?_, ?_⟩
      · rw [run_query_bind live, seen]
        exact (run_bind_ok (prepared.trans (by rw [prep]))).trans rfl
      · simp [created, forecast, seen, plan, prep, isOk, Except.toBool]
      · exact fun other ne => count_other ne _ _

theorem Plain.loop_dry (rid : Option Nat) (r : Nat) (xs : List α) (live : s.aborted = false) :
    ∃ notes, (each (kind.turn (.dryRun rid)) xs).run s = (.ok (), { s with notes := notes }) ∧
      notes.summary kind.entity = xs.foldl ((kind.plan r).forecast
        fun item => kind.isKnown rid item s.data) (s.notes.summary kind.entity) ∧
      ∀ other, other ≠ kind.entity → notes.summary other = s.notes.summary other := by
  induction xs generalizing s with
  | nil => exact ⟨s.notes, rfl, rfl, fun _ _ => rfl⟩
  | cons item xs ih =>
    obtain ⟨notes, ran, cnt, os⟩ := plain.turn_dry rid r item live
    obtain ⟨notes', ran', cnt', os'⟩ := @ih { s with notes := notes } live
    refine ⟨notes', (run_bind_ok ran).trans ran', ?_, ?_⟩
    · rw [cnt', foldl_cons, cnt]
    · exact fun other ne => (os' other ne).trans (os other ne)

end

end Kind

end Idenplane.Migration
