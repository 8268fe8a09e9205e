import Mathlib.Data.List.Basic

/-! # Merging entries into a store

Entries are merged one after the other: what the store knows is skipped, what cannot be
prepared fails, and the rest is created.  A creation may fail, and it may break the store for
all that follows.  A forecast makes the same decisions without creating anything.  `fits_iff` says
when the two agree, and that a forecast which does not come true shows in the counts.
-/

namespace Merging

structure Tally where
  (created skipped failed : Nat := 0)
  deriving DecidableEq

namespace Tally

def create (tally : Tally) : Tally := { tally with created := tally.created + 1 }

def skip (tally : Tally) : Tally := { tally with skipped := tally.skipped + 1 }

def fail (tally : Tally) : Tally := { tally with failed := tally.failed + 1 }

section

variable (tally : Tally)

include tally

@[simp] theorem create_created : tally.create.created = tally.created + 1 := rfl
@[simp] theorem create_skipped : tally.create.skipped = tally.skipped := rfl
@[simp] theorem skip_created : tally.skip.created = tally.created := rfl
@[simp] theorem skip_skipped : tally.skip.skipped = tally.skipped + 1 := rfl
@[simp] theorem fail_created : tally.fail.created = tally.created := rfl
@[simp] theorem fail_skipped : tally.fail.skipped = tally.skipped := rfl

end

end Tally

structure Ledger (σ : Type) where
  store : σ
  broken : Bool
  tally : Tally

/-- How entries of type `α` are merged into a store. -/
structure Plan (σ α : Type) where
  known : σ → α → Bool
  prepared : α → Bool
  /-- Whether the creation succeeded, the store after it, and whether that is broken. -/
  create : α → σ → Bool × σ × Bool

namespace Plan

variable {σ α : Type}

def merge (plan : Plan σ α) (ledger : Ledger σ) (entry : α) : Ledger σ :=
  if ledger.broken then { ledger with tally := ledger.tally.fail }
  else if plan.known ledger.store entry then { ledger with tally := ledger.tally.skip }
  else if plan.prepared entry then
    { store := (plan.create entry ledger.store).2.1
      broken := (plan.create entry ledger.store).2.2
      tally :=
        if (plan.create entry ledger.store).1 then ledger.tally.create else ledger.tally.fail }
  else { ledger with tally := ledger.tally.fail }

def forecast (plan : Plan σ α) (known : α → Bool) (tally : Tally) (entry : α) : Tally :=
  if known entry then tally.skip
  else if plan.prepared entry then tally.create
  else tally.fail

section Turns

variable {plan : Plan σ α} {s : σ} {tally : Tally} {entry : α}

theorem merge_seen (seen : plan.known s entry = true) :
    plan.merge ⟨s, false, tally⟩ entry = ⟨s, false, tally.skip⟩ := by
  simp [merge, seen]

theorem merge_unprepared (seen : plan.known s entry = false)
    (isPrepared : plan.prepared entry = false) :
    plan.merge ⟨s, false, tally⟩ entry = ⟨s, false, tally.fail⟩ := by
  simp [merge, seen, isPrepared]

theorem merge_created (seen : plan.known s entry = false) (isPrepared : plan.prepared entry = true)
    {succeeded isBroken : Bool} {s' : σ}
    (creation : plan.create entry s = (succeeded, s', isBroken)) :
    plan.merge ⟨s, false, tally⟩ entry =
      ⟨s', isBroken, if succeeded then tally.create else tally.fail⟩ := by
  simp [merge, seen, isPrepared, creation]

end Turns

/-- What a plan does to the store `s₀`.  `Grown added` describes the store after `added` have
been created; an entry is known there when it was known at first or has the key of one of them. -/
structure Lawful (plan : Plan σ α) (known : α → Bool) (Grown : List α → σ → Prop)
    (SameKey Compatible : α → α → Prop) (Fine : α → Prop) : Prop where
  knows : ∀ {added s}, Grown added s → ∀ entry,
    (plan.known s entry = true ↔ known entry = true ∨ ∃ other ∈ added, SameKey other entry)
  creates : ∀ {added s entry}, Grown added s → plan.known s entry = false →
    plan.prepared entry = true → Fine entry → (∀ other ∈ added, Compatible other entry) →
    ∃ s', plan.create entry s = (true, s', false) ∧ Grown (added ++ [entry]) s'
  refuses : ∀ {added s entry}, Grown added s → plan.known s entry = false →
    plan.prepared entry = true → ∀ s', plan.create entry s = (true, s', false) →
    Fine entry ∧ ∀ other ∈ added, Compatible other entry
  survives : ∀ {added s entry}, Grown added s → plan.known s entry = false →
    plan.prepared entry = true → ∀ s', plan.create entry s = (false, s', false) → Grown added s'

/-- The entries can be merged after `added`, and as the forecast says. -/
def Fits (plan : Plan σ α) (known : α → Bool) (SameKey Compatible : α → α → Prop)
    (Fine : α → Prop) : List α → List α → Prop
  | _, [] => True
  | added, entry :: entries =>
    if known entry then Fits plan known SameKey Compatible Fine added entries
    else (∀ other ∈ added, ¬ SameKey other entry) ∧ if plan.prepared entry then
        (Fine entry ∧ ∀ other ∈ added, Compatible other entry) ∧
          Fits plan known SameKey Compatible Fine (added ++ [entry]) entries
      else Fits plan known SameKey Compatible Fine added entries

section Lawful

variable {plan : Plan σ α} {known : α → Bool} {Grown : List α → σ → Prop}
  {SameKey Compatible : α → α → Prop} {Fine : α → Prop}

theorem Lawful.grows (lawful : Lawful plan known Grown SameKey Compatible Fine) {added : List α}
    {s s' : σ} {entry : α} (grown : Grown added s) (seen : plan.known s entry = false)
    (isPrepared : plan.prepared entry = true) (creation : plan.create entry s = (true, s', false)) :
    Grown (added ++ [entry]) s' := by
  obtain ⟨fine, compatible⟩ := lawful.refuses grown seen isPrepared s' creation
  obtain ⟨s'', creation', grown'⟩ := lawful.creates grown seen isPrepared fine compatible
  rw [creation] at creation'
  cases creation'
  exact grown'

def accepted (plan : Plan σ α) (known : α → Bool) (entries : List α) : List α :=
  entries.filter fun entry => !known entry && plan.prepared entry

theorem merge_broken (plan : Plan σ α) (s : σ) (tally : Tally) (es : List α) :
    (es.foldl plan.merge ⟨s, true, tally⟩).broken = true ∧
      (es.foldl plan.merge ⟨s, true, tally⟩).store = s ∧
      (es.foldl plan.merge ⟨s, true, tally⟩).tally.created = tally.created := by
  induction es generalizing tally with
  | nil => exact ⟨rfl, rfl, rfl⟩
  | cons entry es ih =>
    exact ih tally.fail

/-- Where the forecast comes true. -/
theorem Lawful.merge_of_fits (lawful : plan.Lawful known Grown SameKey Compatible Fine)
    {added entries : List α} (fits : plan.Fits known SameKey Compatible Fine added entries)
    {s : σ} (grown : Grown added s) (tally : Tally) :
    ∃ s', entries.foldl plan.merge ⟨s, false, tally⟩ =
        ⟨s', false, entries.foldl (plan.forecast known) tally⟩ ∧
      Grown (added ++ plan.accepted known entries) s' := by
  induction entries generalizing added s tally with
  | nil => exact ⟨s, rfl, by simpa [accepted] using grown⟩
  | cons entry entries ih =>
    have knows := lawful.knows grown entry
    rw [List.foldl_cons, List.foldl_cons]
    cases isKnown : known entry with
    | true =>
      simp only [Fits, isKnown, if_true] at fits
      have seen : plan.known s entry = true := knows.mpr (.inl isKnown)
      have turn' : plan.forecast known tally entry = tally.skip := by simp [forecast, isKnown]
      have same : plan.accepted known (entry :: entries) = plan.accepted known entries := by
        simp [accepted, isKnown]
      rw [merge_seen seen, turn', same]
      exact ih fits grown _
    | false =>
      simp only [Fits, isKnown, Bool.false_eq_true, if_false] at fits
      have unseen : plan.known s entry = false := by
        rw [Bool.eq_false_iff]
        intro seen
        rcases knows.mp seen with atFirst | ⟨other, isAdded, sameKey⟩
        · rw [isKnown] at atFirst
          cases atFirst
        · exact fits.1 other isAdded sameKey
      cases isPrepared : plan.prepared entry with
      | true =>
        simp only [isPrepared, if_true] at fits
        obtain ⟨s', creation, grown'⟩ :=
          lawful.creates grown unseen isPrepared fits.2.1.1 fits.2.1.2
        have turn' : plan.forecast known tally entry = tally.create := by
          simp [forecast, isKnown, isPrepared]
        have same : added ++ plan.accepted known (entry :: entries) =
            added ++ [entry] ++ plan.accepted known entries := by
          simp [accepted, isKnown, isPrepared]
        rw [merge_created unseen isPrepared creation, if_pos rfl, turn', same]
        exact ih fits.2.2 grown' _
      | false =>
        simp only [isPrepared, Bool.false_eq_true, if_false] at fits
        have turn' : plan.forecast known tally entry = tally.fail := by
          simp [forecast, isKnown, isPrepared]
        have same : plan.accepted known (entry :: entries) = plan.accepted known entries := by
          simp [accepted, isPrepared]
        rw [merge_unprepared unseen isPrepared, turn', same]
        exact ih fits.2 grown _

theorem forecast_created (plan : Plan σ α) (known : α → Bool) (tally : Tally) (es : List α) :
    tally.created ≤ (es.foldl (plan.forecast known) tally).created := by
  induction es generalizing tally with
  | nil => exact Nat.le_refl _
  | cons entry es ih =>
    apply Nat.le_trans _ (ih _)
    unfold forecast
    split
    · exact Nat.le_refl _
    · split
      · exact Nat.le_succ _
      · exact Nat.le_refl _

theorem forecast_accepted (plan : Plan σ α) (known : α → Bool) (tally : Tally) (es : List α) :
    (es.foldl (plan.forecast known) tally).created =
      tally.created + (plan.accepted known es).length := by
  induction es generalizing tally with
  | nil => rfl
  | cons entry es ih =>
    rw [List.foldl_cons, ih]
    cases isKnown : known entry <;> cases isPrepared : plan.prepared entry <;>
      simp [forecast, accepted, isKnown, isPrepared] <;> omega

theorem merge_keeps (plan : Plan σ α) {inv : σ → Prop}
    (keeps : ∀ s entry, inv s → inv (plan.create entry s).2.1) (ledger : Ledger σ)
    (holds : inv ledger.store) (es : List α) : inv (es.foldl plan.merge ledger).store := by
  induction es generalizing ledger with
  | nil => exact holds
  | cons entry es ih =>
    apply ih
    unfold merge
    split
    · exact holds
    · split
      · exact holds
      · split
        · exact keeps _ _ holds
        · exact holds

/-- The counts of `ledger`, which began at `tally`, beside a forecast: no more is created than
was foreseen, and as long as the store is not broken no less is skipped.  If it breaks, the
counts show it, and if the counts agree in the end, they always did and the entries fitted. -/
structure Trails (plan : Plan σ α) (known : α → Bool) (SameKey Compatible : α → α → Prop)
    (Fine : α → Prop) (added entries : List α) (tally foreseen : Tally) (ledger : Ledger σ)
    (forecast : Tally) : Prop where
  created : ledger.tally.created ≤ forecast.created
  skipped : ledger.broken = false → forecast.skipped ≤ ledger.tally.skipped
  breaks : ledger.broken = true →
    ledger.tally.created < forecast.created ∨ tally.created < ledger.tally.created
  agrees : ledger.broken = false → ledger.tally.created = forecast.created →
    ledger.tally.skipped = forecast.skipped → tally.created = foreseen.created ∧
      tally.skipped = foreseen.skipped ∧ plan.Fits known SameKey Compatible Fine added entries

/-- A broken store, some creation of which was foreseen. -/
theorem Trails.of_broken {added es rest : List α} {s : σ}
    {tally tally' foreseen foreseen' : Tally} (later : tally'.created ≤ foreseen'.created)
    (shown : tally'.created < foreseen'.created ∨ tally.created < tally'.created) :
    Trails plan known SameKey Compatible Fine added es tally foreseen
      (rest.foldl plan.merge ⟨s, true, tally'⟩) (rest.foldl (plan.forecast known) foreseen') := by
  obtain ⟨broken, -, same⟩ := merge_broken plan s tally' rest
  have grows := forecast_created plan known foreseen' rest
  constructor
  · rw [same]
    exact Nat.le_trans later grows
  · intro live
    rw [broken] at live
    cases live
  · intro _
    rw [same]
    rcases shown with fewer | more
    · exact .inl (Nat.lt_of_lt_of_le fewer grows)
    · exact .inr more
  · intro live
    rw [broken] at live
    cases live

theorem Trails.turn (tally tally' : Tally) {foreseen foreseen' forecast : Tally}
    {added added' es rest : List α} {ledger : Ledger σ}
    (grows : tally.created ≤ tally'.created)
    (same : tally'.created = foreseen'.created → tally'.skipped = foreseen'.skipped →
      plan.Fits known SameKey Compatible Fine added' rest →
      tally.created = foreseen.created ∧ tally.skipped = foreseen.skipped ∧
        plan.Fits known SameKey Compatible Fine added es)
    (trails : Trails plan known SameKey Compatible Fine added' rest tally' foreseen' ledger
      forecast) :
    Trails plan known SameKey Compatible Fine added es tally foreseen ledger forecast where
  created := trails.created
  skipped := trails.skipped
  breaks broken := (trails.breaks broken).imp_right (Nat.lt_of_le_of_lt grows)
  agrees live created skipped := by
    obtain ⟨created', skipped', fits⟩ := trails.agrees live created skipped
    exact same created' skipped' fits

open Tally

theorem Lawful.trails (lawful : plan.Lawful known Grown SameKey Compatible Fine)
    {added : List α} (es : List α) {s : σ} (grown : Grown added s) (tally foreseen : Tally)
    (new : tally.created ≤ foreseen.created) (skipped : foreseen.skipped ≤ tally.skipped) :
    Trails plan known SameKey Compatible Fine added es tally foreseen
      (es.foldl plan.merge ⟨s, false, tally⟩)
      (es.foldl (plan.forecast known) foreseen) := by
  induction es generalizing added s tally foreseen with
  | nil =>
    exact ⟨new, fun _ => skipped, fun broken => Bool.noConfusion broken,
      fun _ new skipped => ⟨new, skipped, trivial⟩⟩
  | cons entry es ih =>
    have knows := lawful.knows grown entry
    rw [List.foldl_cons, List.foldl_cons]
    cases seen : plan.known s entry with
    | true =>
      rw [merge_seen seen]
      cases isKnown : known entry with
      | true =>
        have turn' : plan.forecast known foreseen entry = foreseen.skip := by
          simp [forecast, isKnown]
        rw [turn']
        have rest := ih grown tally.skip foreseen.skip new (Nat.succ_le_succ skipped)
        apply Trails.turn tally tally.skip (Nat.le_refl tally.created) ?_ rest
        intro new' skipped' fits
        simp only [skip_created, skip_skipped] at new' skipped'
        refine ⟨new', by omega, ?_⟩
        simpa [Fits, isKnown] using fits
      | false =>
        -- an entry that is listed twice is skipped only by the merge
        have fewer : tally.skip.created ≤ (plan.forecast known foreseen entry).created := by
          cases isPrepared : plan.prepared entry <;> simp [forecast, isKnown, isPrepared] <;> omega
        have more : (plan.forecast known foreseen entry).skipped < tally.skip.skipped := by
          cases isPrepared : plan.prepared entry <;> simp [forecast, isKnown, isPrepared] <;> omega
        have rest := ih grown tally.skip _ fewer (Nat.le_of_lt more)
        apply Trails.turn tally tally.skip (Nat.le_refl tally.created) ?_ rest
        omega
    | false =>
      have isKnown : known entry = false := by
        rw [Bool.eq_false_iff]
        intro atFirst
        rw [knows.mpr (.inl atFirst)] at seen
        cases seen
      have apart : ∀ other ∈ added, ¬ SameKey other entry := by
        intro other isAdded sameKey
        rw [knows.mpr (.inr ⟨other, isAdded, sameKey⟩)] at seen
        cases seen
      cases isPrepared : plan.prepared entry with
      | false =>
        have turn' : plan.forecast known foreseen entry = foreseen.fail := by
          simp [forecast, isKnown, isPrepared]
        rw [merge_unprepared seen isPrepared, turn']
        have rest := ih grown tally.fail foreseen.fail new skipped
        apply Trails.turn tally tally.fail (Nat.le_refl tally.created) ?_ rest
        intro new' skipped' fits
        refine ⟨new', skipped', ?_⟩
        simpa [Fits, isKnown, isPrepared] using And.intro apart fits
      | true =>
        have turn' : plan.forecast known foreseen entry = foreseen.create := by
          simp [forecast, isKnown, isPrepared]
        rw [turn']
        rcases creation : plan.create entry s with ⟨succeeded, s', isBroken⟩
        rw [merge_created seen isPrepared creation]
        cases isBroken with
        | true =>
          cases succeeded with
          | true =>
            exact .of_broken (Nat.succ_le_succ new) (.inr (Nat.lt_succ_self _))
          | false =>
            exact .of_broken (Nat.le_succ_of_le new) (.inl (Nat.lt_succ_of_le new))
        | false =>
          cases succeeded with
          | true =>
            have accepts := lawful.refuses grown seen isPrepared s' creation
            have rest := ih (lawful.grows grown seen isPrepared creation) tally.create
              foreseen.create (Nat.succ_le_succ new) skipped
            apply Trails.turn tally tally.create (Nat.le_succ tally.created) ?_ rest
            intro new' skipped' fits
            simp only [create_created, create_skipped] at new' skipped'
            refine ⟨by omega, skipped', ?_⟩
            simpa [Fits, isKnown, isPrepared] using And.intro apart (And.intro accepts fits)
          | false =>
            have grown' := lawful.survives grown seen isPrepared s' creation
            have rest := ih grown' tally.fail foreseen.create (Nat.le_succ_of_le new) skipped
            apply Trails.turn tally tally.fail (Nat.le_refl tally.created) ?_ rest
            intro new' _ _
            simp only [create_created, fail_created] at new'
            omega

end Lawful

def news (known : α → Bool) (entries : List α) : List α := entries.filter (!known ·)

theorem fits_after {plan : Plan σ α} {known : α → Bool} {SameKey Compatible : α → α → Prop}
    {Fine : α → Prop} (added entries : List α) :
    plan.Fits known SameKey Compatible Fine added entries ↔
      (∀ other ∈ added, ∀ entry ∈ news known entries, ¬ SameKey other entry ∧
        (plan.prepared entry = true → Compatible other entry)) ∧
      (news known entries).Pairwise (fun entry later => plan.prepared entry = true →
        ¬ SameKey entry later ∧ (plan.prepared later = true → Compatible entry later)) ∧
      ∀ entry ∈ news known entries, plan.prepared entry = true → Fine entry := by
  induction entries generalizing added with
  | nil => simp [Fits, news]
  | cons entry entries ih =>
    cases isKnown : known entry with
    | true =>
      have same : news known (entry :: entries) = news known entries := by simp [news, isKnown]
      simp only [Fits, isKnown, if_true, same]
      exact ih added
    | false =>
      have same : news known (entry :: entries) = entry :: news known entries := by
        simp [news, isKnown]
      cases isPrepared : plan.prepared entry with
      | true =>
        simp only [Fits, isKnown, isPrepared, Bool.false_eq_true, if_false, if_true, ih, same,
          List.mem_append, List.mem_cons, List.pairwise_cons]
        grind
      | false =>
        simp only [Fits, isKnown, isPrepared, Bool.false_eq_true, if_false, ih, same,
          List.mem_cons, List.pairwise_cons]
        grind

/-- The entries fit when none is listed again after it was created, and no two clash. -/
theorem fits_iff {plan : Plan σ α} {known : α → Bool} {SameKey Compatible : α → α → Prop}
    {Fine : α → Prop} (es : List α) : plan.Fits known SameKey Compatible Fine [] es ↔
      (news known es).Pairwise (fun entry later => plan.prepared entry = true →
        ¬ SameKey entry later ∧ (plan.prepared later = true → Compatible entry later)) ∧
      ∀ entry ∈ news known es, plan.prepared entry = true → Fine entry := by
  rw [fits_after]
  simp

section Lawful

variable {plan : Plan σ α} {known : α → Bool} {Grown : List α → σ → Prop}
  {SameKey Compatible : α → α → Prop} {Fine : α → Prop}

section

variable (lawful : plan.Lawful known Grown SameKey Compatible Fine)

include lawful

/-- What was prepared is known in the end. -/
theorem Lawful.knows_prepared (selfSame : ∀ entry, SameKey entry entry) {es : List α} {s : σ}
    (grown : Grown (plan.accepted known es) s) {entry : α} (mem : entry ∈ es)
    (isPrepared : plan.prepared entry = true) : plan.known s entry = true := by
  rw [lawful.knows grown]
  cases isKnown : known entry with
  | true => exact .inl rfl
  | false =>
    refine .inr ⟨entry, ?_, selfSame entry⟩
    simp [accepted, mem, isKnown, isPrepared]

/-- A merge that does not break its store made it grow. -/
theorem Lawful.grown_of_unbroken {added es : List α} {s : σ} (grown : Grown added s) (tally : Tally)
    (unbroken : (es.foldl plan.merge ⟨s, false, tally⟩).broken = false) :
    ∃ added', Grown added' (es.foldl plan.merge ⟨s, false, tally⟩).store := by
  induction es generalizing added s tally with
  | nil => exact ⟨added, grown⟩
  | cons entry es ih =>
    rw [List.foldl_cons] at unbroken ⊢
    cases seen : plan.known s entry with
    | true =>
      rw [merge_seen seen] at unbroken ⊢
      exact ih grown _ unbroken
    | false =>
      cases isPrepared : plan.prepared entry with
      | false =>
        rw [merge_unprepared seen isPrepared] at unbroken ⊢
        exact ih grown _ unbroken
      | true =>
        rcases creation : plan.create entry s with ⟨succeeded, s', isBroken⟩
        rw [merge_created seen isPrepared creation] at unbroken ⊢
        cases isBroken with
        | true =>
          have broken := (merge_broken plan s'
            (if succeeded then tally.create else tally.fail) es).1
          rw [broken] at unbroken
          cases unbroken
        | false =>
          cases succeeded with
          | true => exact ih (lawful.grows grown seen isPrepared creation) _ unbroken
          | false => exact ih (lawful.survives grown seen isPrepared s' creation) _ unbroken

/-- Creations that never break the store. -/
theorem Lawful.unbroken (steady : ∀ {added s entry}, Grown added s → plan.known s entry = false →
      (plan.create entry s).2.2 = false)
    {added : List α} (es : List α) {s : σ} (grown : Grown added s) (tally : Tally) :
    (es.foldl plan.merge ⟨s, false, tally⟩).broken = false := by
  induction es generalizing added s tally with
  | nil => rfl
  | cons entry es ih =>
    rw [List.foldl_cons]
    cases seen : plan.known s entry with
    | true =>
      rw [merge_seen seen]
      exact ih grown _
    | false =>
      have still := steady grown seen
      cases isPrepared : plan.prepared entry with
      | false =>
        rw [merge_unprepared seen isPrepared]
        exact ih grown _
      | true =>
        rcases creation : plan.create entry s with ⟨succeeded, s', isBroken⟩
        rw [merge_created seen isPrepared creation]
        rw [creation] at still
        cases still
        cases succeeded with
        | true => exact ih (lawful.grows grown seen isPrepared creation) _
        | false => exact ih (lawful.survives grown seen isPrepared s' creation) _

end

end Lawful

/-- Where everything that can be prepared is known, nothing is created. -/
theorem merge_known {plan : Plan σ α} {es : List α} {s : σ}
    (all : ∀ entry ∈ es, plan.prepared entry = true → plan.known s entry = true)
    (tally : Tally) : (es.foldl plan.merge ⟨s, false, tally⟩).broken = false ∧
      (es.foldl plan.merge ⟨s, false, tally⟩).store = s := by
  induction es generalizing tally with
  | nil => exact ⟨rfl, rfl⟩
  | cons entry es ih =>
    have rest := ih fun other mem => all other (.tail _ mem)
    rw [List.foldl_cons]
    cases seen : plan.known s entry with
    | true =>
      rw [merge_seen seen]
      exact rest _
    | false =>
      have unprepared : plan.prepared entry = false := by
        rw [Bool.eq_false_iff]
        intro isPrepared
        rw [all entry List.mem_cons_self isPrepared] at seen
        cases seen
      rw [merge_unprepared seen unprepared]
      exact rest _

end Plan

end Merging
