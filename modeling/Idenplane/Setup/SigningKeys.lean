import Idenplane.Migration.ReportTruth
import Idenplane.Realms.ImportSafety
import Idenplane.Setup.Frames

/-! # Every realm can sign

A realm and its first signing key are created by one statement, and removed by one.  The Keycloak
importer creates realms without one: no other command does, and no command mends such a realm.
-/

namespace Idenplane.Setup

open Atomic Auth Admin Realms.Transfer Transaction Migration Deps
open Realms (RealmRow UpdateRealmDto)

def storeOf (w : World) : Store where
  supply := w.supply
  realms := w.db.realms.map (·.toRealm)
  signingKeys := w.db.signingKeys

def EveryRealmSigns (w : World) : Prop :=
  ∀ realm ∈ (storeOf w).realms, (getActiveSigningKey (storeOf w) realm.id).isSome = true

instance (w : World) : Decidable (EveryRealmSigns w) :=
  inferInstanceAs (Decidable (∀ realm ∈ (storeOf w).realms,
    (getActiveSigningKey (storeOf w) realm.id).isSome = true))

theorem isSome_foldl {α : Type} {choose : Option α → α → Option α}
    (chosen : ∀ best item, (choose best item).isSome = true) (items : List α) (start : Option α) :
    (items.foldl choose start).isSome = (start.isSome || !items.isEmpty) := by
  induction items generalizing start with
  | nil => simp
  | cons item items ih => simp [ih, chosen]

theorem getActiveSigningKey_isSome (s : Store) (rid : Nat) :
    (getActiveSigningKey s rid).isSome = true ↔
      ∃ key ∈ s.signingKeys, key.realmId = rid ∧ key.active = true := by
  unfold getActiveSigningKey
  rw [isSome_foldl]
  · simp [List.filter_eq_nil_iff]
  · intro best key
    cases best with
    | none => rfl
    | some best =>
      dsimp only
      split <;> rfl

structure Signing (w : World) : Prop where
  realmsDrawn : ∀ realm ∈ w.db.realms, realm.id < w.supply
  keysDrawn : ∀ key ∈ w.db.signingKeys, key.realmId < w.supply
  distinct : ∀ realm ∈ w.db.realms, ∀ other ∈ w.db.realms,
    realm.id = other.id → realm.name = other.name
  keys : ∀ realm ∈ w.db.realms, ∃ key ∈ w.db.signingKeys, key.realmId = realm.id ∧ key.active = true

namespace Signing

variable {w w' : World}

theorem everyRealmSigns (signing : Signing w) : EveryRealmSigns w := by
  intro r isRealm
  obtain ⟨row, isRow, rfl⟩ := mem_map.mp isRealm
  rw [getActiveSigningKey_isSome]
  exact signing.keys row isRow

theorem start : Signing {} := by constructor <;> simp

theorem same (signing : Signing w) (kept : SameRealms w w') : Signing w' where
  realmsDrawn r isRealm := by
    rw [kept.realms] at isRealm
    exact lt_of_lt_of_le (signing.realmsDrawn r isRealm) kept.supply
  keysDrawn key isKey := by
    rw [kept.signingKeys] at isKey
    exact lt_of_lt_of_le (signing.keysDrawn key isKey) kept.supply
  distinct := by
    rw [kept.realms]
    exact signing.distinct
  keys := by
    rw [kept.realms, kept.signingKeys]
    exact signing.keys

theorem created (signing : Signing w) (row : RealmRow) : Signing
      { db := { w.db with
          realms := w.db.realms ++ [{ row with id := w.supply }]
          signingKeys := w.db.signingKeys ++
            [{ id := w.supply, realmId := w.supply, createdAt := 0 }] }
        supply := w.supply + 1 } where
  realmsDrawn r isRealm := by
    rcases mem_append.mp isRealm with old | new
    · exact lt_succ_of_lt (signing.realmsDrawn r old)
    · rw [mem_singleton.mp new]
      exact lt_succ_self _
  keysDrawn key isKey := by
    rcases mem_append.mp isKey with old | new
    · exact lt_succ_of_lt (signing.keysDrawn key old)
    · rw [mem_singleton.mp new]
      exact lt_succ_self _
  distinct r isRealm other isOther same := by
    rcases mem_append.mp isRealm with old | new
    · rcases mem_append.mp isOther with old' | new'
      · exact signing.distinct r old other old' same
      · rw [mem_singleton.mp new'] at same
        exact absurd same (signing.realmsDrawn r old).ne
    · rcases mem_append.mp isOther with old' | new'
      · rw [mem_singleton.mp new] at same
        exact absurd same.symm (signing.realmsDrawn other old').ne
      · rw [mem_singleton.mp new, mem_singleton.mp new']
  keys r isRealm := by
    rcases mem_append.mp isRealm with old | new
    · obtain ⟨key, isKey, ofRealm⟩ := signing.keys r old
      exact ⟨key, mem_append_left _ isKey, ofRealm⟩
    · rw [mem_singleton.mp new]
      exact ⟨_, mem_append_right _ mem_cons_self, rfl, rfl⟩

theorem mapped (signing : Signing w) {chg : RealmRow → RealmRow}
    (sameId : ∀ row, (chg row).id = row.id) (sameName : ∀ row, (chg row).name = row.name) :
    Signing { w with db := { w.db with realms := w.db.realms.map chg } } where
  realmsDrawn realm isRealm := by
    obtain ⟨row, isRow, rfl⟩ := mem_map.mp isRealm
    rw [sameId]
    exact signing.realmsDrawn row isRow
  keysDrawn := signing.keysDrawn
  distinct realm isRealm other isOther same := by
    obtain ⟨row, isRow, rfl⟩ := mem_map.mp isRealm
    obtain ⟨row', isRow', rfl⟩ := mem_map.mp isOther
    rw [sameId, sameId] at same
    rw [sameName, sameName]
    exact signing.distinct row isRow row' isRow' same
  keys realm isRealm := by
    obtain ⟨row, isRow, rfl⟩ := mem_map.mp isRealm
    rw [sameId]
    exact signing.keys row isRow

theorem deleted (signing : Signing w) {r : RealmRow} (isRealm : r ∈ w.db.realms) :
    Signing { w with db := w.db.deleteRealm r } where
  realmsDrawn row isRow := signing.realmsDrawn row (mem_filter.mp isRow).1
  keysDrawn key isKey := signing.keysDrawn key (mem_filter.mp isKey).1
  distinct row isRow other isOther :=
    signing.distinct row (mem_filter.mp isRow).1 other (mem_filter.mp isOther).1
  keys row isRow := by
    obtain ⟨old, otherName⟩ := mem_filter.mp isRow
    obtain ⟨key, isKey, ofRow, active⟩ := signing.keys row old
    have otherId : row.id ≠ r.id := by
      intro same
      exact (of_decide_eq_true otherName) (signing.distinct row old r isRealm same)
    refine ⟨key, mem_filter.mpr ⟨isKey, ?_⟩, ofRow, active⟩
    rw [ofRow]
    exact decide_eq_true otherId

end Signing

section Commands

variable {d : Deps} {avail : List String} (throws : Throws)

def Safe (w w' : World) : Prop := Signing w → Signing w'

theorem Safe.refl (w : World) : Safe w w := id

theorem Safe.trans {a b c : World} (first : Safe a b) (snd : Safe b c) : Safe a c :=
  snd ∘ first

theorem safe_of_same {α : Type} {call : Call α} (keeps : call.Keeps SameRealms) :
    call.Keeps Safe := keeps.mono fun _ _ same signing => signing.same same

theorem insert_cases {taken : Database → Bool} {grown : Nat → Database → Database}
    (w : World) : (insert taken grown w).2 = w ∨ (insert taken grown w).2 =
        { db := grown w.supply w.db, supply := w.supply + 1 } := by
  unfold Realms.Transfer.insert
  cases taken w.db with
  | true => exact .inl rfl
  | false => exact .inr rfl

theorem createSignedRealm_safe (row : RealmRow) : (createSignedRealm throws row).Keeps Safe := by
  apply statement_keeps
  intro w signing
  rcases insert_cases w with refused | inserted
  · rw [refused]
    exact signing
  · rw [inserted]
    exact signing.created row

theorem createRealm_eq (doc : Document) : Realms.Transfer.createRealm throws doc =
      createSignedRealm throws (doc.settings.apply { id := 0, name := doc.name }) := rfl

theorem furnish_safe (rid : Nat) {admin : Call User} (keeps : admin.Keeps SameRealms) :
    (furnish throws rid admin).Keeps Safe := safe_of_same (furnish_keeps throws rid keeps)

theorem ensureMasterRealm_safe (adminUsername adminPassword : String) :
    (ensureMasterRealm throws d adminUsername adminPassword).Keeps Safe := by
  apply Keeps.bind (.require _ _)
  intro _
  apply Keeps.bind (.read .refl _)
  intro old
  split
  case isTrue => trivial
  case isFalse =>
    apply Keeps.bind (.require _ _)
    intro _
    apply Keeps.bind (createSignedRealm_safe throws masterRealm)
    intro rid
    apply furnish_safe
    exact .bind (.require _ _) fun _ => trivial

theorem completeWizard_safe (state : WizardState) : (completeWizard throws state).Keeps Safe := by
  apply Keeps.bind (.orFail _ _)
  intro uname
  apply Keeps.bind (.orFail _ _)
  intro hash
  apply Keeps.bind (.orFail _ _)
  intro name
  apply Keeps.bind (.require _ _)
  intro _
  apply Keeps.bind (createSignedRealm_safe throws _)
  intro rid
  exact .bind (furnish_safe throws rid trivial) fun _ => trivial

theorem checked_keeps {K : World → World → Prop} (check : Realms.Call Unit) :
    (checked check).Keeps K := by
  unfold checked
  cases (check.run {}).1 <;> trivial

theorem findByNameRaw_safe (cached : Option RealmRow) (name : String) :
    (findByNameRaw cached name).Keeps Safe := by
  cases cached with
  | some r => trivial
  | none => exact .bind (.read .refl _) fun _ => .orFail _ _

theorem createRealm_safe (name : String) (dto : UpdateRealmDto) :
    (createRealm d throws name dto).Keeps Safe := by
  apply Keeps.bind (.require _ _)
  intro _
  apply Keeps.bind (.read .refl _)
  intro old
  apply Keeps.bind (.require _ _)
  intro _
  apply Keeps.bind (checked_keeps _)
  intro _
  apply Keeps.bind (.require _ _)
  intro _
  apply Keeps.bind (createSignedRealm_safe throws _)
  intro rid
  exact safe_of_same
    ((SameRealms.framing { version := "", name := "" }).seed_keeps throws rid seededScopes)

theorem updateRealm_safe (cached : Option RealmRow) (name : String) (dto : UpdateRealmDto) :
    (updateRealm d avail cached name dto).Keeps Safe := by
  apply Keeps.bind (findByNameRaw_safe cached name)
  intro old
  apply Keeps.bind (checked_keeps _)
  intro _
  apply Keeps.bind (checked_keeps _)
  intro _
  apply Keeps.bind
  · apply Keeps.atomic
    intro w signing
    apply signing.mapped
    · intro row
      split <;> rfl
    · intro row
      split <;> rfl
  · exact fun hit => .bind (.orFail _ _) fun _ => trivial

theorem removeRealm_safe (cached : Option RealmRow) (name : String) :
    (removeRealm cached name).Keeps Safe := by
  apply Keeps.bind (findByNameRaw_safe cached name)
  intro old
  apply Keeps.bind
  · apply Keeps.atomic
    intro w signing
    unfold realmDeleted
    cases hit : w.db.realms.find? (·.name = name) with
    | none => exact signing
    | some r => exact signing.deleted (mem_of_find?_eq_some hit)
  · exact fun deleted => .bind (.orFail _ _) fun _ => trivial

/-- With `overwrite` the realm is removed and created by two statements. -/
theorem importRealm_safe (doc : Document) (overwrite : Bool) (w : World)
    (signing : Signing w) : Signing ((importRealm throws doc overwrite).run w).2 := by
  have filled : (fillRealm throws doc).Keeps Safe := by
    apply Keeps.bind (.require _ _)
    intro _
    rw [createRealm_eq]
    apply Keeps.bind (createSignedRealm_safe throws _)
    intro rid
    exact safe_of_same ((SameRealms.framing doc).importContents_keeps throws rid)
  have fill (w : World) (signing : Signing w) : Signing ((fillRealm throws doc).run w).2 :=
    filled.run .refl .trans w signing
  by_cases early : doc.version = "" ∨ doc.name = "" ∨ throws .findRealm = true
  · have refused : ∃ f, (importRealm throws doc overwrite).run w =
        (.error f, w) := importRealm_refused early
    obtain ⟨f, failed⟩ := refused
    rw [failed]
    exact signing
  simp only [not_or, not_eq_true] at early
  obtain ⟨ver, name, find⟩ := early
  cases known : w.db.realms.find? (·.name = doc.name) with
  | none =>
    rw [importRealm_new ver name find known]
    exact fill w signing
  | some r =>
    by_cases refused : overwrite = false ∨ throws .deleteRealm = true
    · obtain ⟨f, kept⟩ := importRealm_known known refused
      rw [kept]
      exact signing
    · simp only [not_or, not_eq_false, not_eq_true] at refused
      obtain ⟨rfl, delete⟩ := refused
      rw [importRealm_overwrites ver name find known delete]
      exact fill _ (signing.deleted (mem_of_find?_eq_some known))

end Commands

section Keycloak

variable {d : Deps} {data : KeycloakRealmExport} {options : KeycloakImportOptions} {w : World}

theorem keycloak_outcome (d : Deps) {tgt : Target} {s : Migration.Session}
    (entered : (importRealmEntity data (realmName data options) options.dryRun).run
      (start options.dryRun w) = (.ok tgt, s)) :
    (Migration.importRealm d data options w).2 = w ∨ (Migration.importRealm d data options w).2 =
        ((importContents d data tgt).run s).2.data := by
  have ran : (importEverything d data (realmName data options) options.dryRun).run
      (start options.dryRun w) = (importContents d data tgt).run s := by
    rw [importEverything, run_attempt_bind, entered]
  unfold Migration.importRealm
  simp only
  rw [show ({ data := w, notes := { dryRun := options.dryRun } } : Migration.Session) =
    start options.dryRun w from rfl, ran]
  rcases (importContents d data tgt).run s with ⟨res, _, aborted, _⟩
  cases res with
  | error thrown => exact .inl rfl
  | ok _ =>
    cases aborted with
    | true => exact .inl rfl
    | false => exact .inr rfl

theorem keycloak_same
    (known : options.dryRun = true ∨ (findRealm (realmName data options) w).isSome = true) :
    SameRealms w (Migration.importRealm d data options w).2 := by
  have filled {tgt : Target} {s : Migration.Session} (same : s.data = w)
      (entered : (importRealmEntity data (realmName data options) options.dryRun).run
        (start options.dryRun w) = (.ok tgt, s)) :
      SameRealms w (Migration.importRealm d data options w).2 := by
    rcases keycloak_outcome d entered with kept | moved
    · rw [kept]
      exact .refl w
    · rw [moved, ← same]
      exact (keycloakContents_keeps d data tgt).run .refl .trans s
  cases hit : findRealm (realmName data options) w with
  | some id => exact filled rfl (enter_old data (realmName data options) w _ hit)
  | none =>
    have dry : options.dryRun = true := by simpa [hit] using known
    apply filled (s := enteredDry w) rfl
    rw [dry]
    exact enter_dry data (realmName data options) w hit

theorem keycloak_keyless (signing : Signing w) (real : options.dryRun = false)
    (unseen : findRealm (realmName data options) w = none) :
    (Migration.importRealm d data options w).2 = w ∨
      ¬ EveryRealmSigns (Migration.importRealm d data options w).2 := by
  have entered : (importRealmEntity data (realmName data options) options.dryRun).run
      (start options.dryRun w) =
        (.ok (.real w.supply), enteredNew data (realmName data options) w) := by
    rw [real]
    exact enter_new data (realmName data options) w unseen
  rcases keycloak_outcome d entered with kept | moved
  · exact .inl kept
  · right
    have same := (keycloakContents_keeps d data (.real w.supply)).run .refl .trans
      (enteredNew data (realmName data options) w)
    rw [moved]
    generalize ((importContents d data (.real w.supply)).run
      (enteredNew data (realmName data options) w)).2.data = final at same ⊢
    intro signs
    have isRealm : keycloakRealmRow data (realmName data options) w.supply ∈ final.db.realms := by
      rw [same.realms]
      exact mem_append_right _ mem_cons_self
    have signed := signs _ (mem_map_of_mem isRealm)
    obtain ⟨key, isKey, ofRealm, _⟩ := (getActiveSigningKey_isSome _ _).mp signed
    rw [storeOf, same.signingKeys] at isKey
    exact absurd ofRealm (signing.keysDrawn key isKey).ne

end Keycloak

def Command.Keyed (w : World) : Command → Prop
  | .importKeycloak data options => options.dryRun = true ∨
      (findRealm (realmName data options) w).isSome = true
  | _ => True

/-- The tables after any number of commands, each of which met the condition. -/
inductive Reaches (d : Deps) (available : List String) : World → Prop
  | start : Reaches d available {}
  | step {w : World} (before : Reaches d available w) (command : Command)
      (keyed : command.Keyed w) : Reaches d available (command.run d available w)

theorem Signing.run {d : Deps} {avail : List String} {w : World}
    (signing : Signing w) (command : Command) (keyed : command.Keyed w) :
    Signing (command.run d avail w) := by
  have kept {α : Type} {call : Call α} (safe : call.Keeps Safe) : Signing (call.run w).2 :=
    safe.run .refl .trans w signing
  cases command with
  | ensureMasterRealm throws adminUsername adminPassword =>
    exact kept (ensureMasterRealm_safe throws adminUsername adminPassword)
  | completeWizard throws state => exact kept (completeWizard_safe throws state)
  | saveClient throws isHttpUrl state dto sec =>
    exact kept (safe_of_same (saveClient_keeps throws isHttpUrl state dto sec))
  | createRealm throws name dto => exact kept (createRealm_safe throws name dto)
  | updateRealm cached name dto => exact kept (updateRealm_safe cached name dto)
  | removeRealm cached name => exact kept (removeRealm_safe cached name)
  | importRealm throws doc overwrite =>
    exact importRealm_safe throws doc overwrite w signing
  | importKeycloak data options => exact signing.same (keycloak_same keyed)
  | importAuth0 data options => exact signing.same (auth0_keeps d data options w)
  | importZitadel data options => exact signing.same (zitadel_keeps data options w)
  | importAuthentik data options => exact signing.same (authentik_keeps d data options w)

theorem Reaches.signing {d : Deps} {avail : List String} {w : World}
    (reached : Reaches d avail w) : Signing w := by
  induction reached with
  | start => exact .start
  | step pre command keyed ih => exact ih.run command keyed

/-- Every realm can sign as long as Keycloak's importer creates none; when it does, unless the
transaction is rolled back, there is a realm that cannot. -/
theorem realms_sign (d : Deps) (avail : List String) :
    (∀ w, Reaches d avail w → EveryRealmSigns w) ∧
      ∀ w, Reaches d avail w → ∀ command : Command, ¬ command.Keyed w →
        command.run d avail w = w ∨ ¬ EveryRealmSigns (command.run d avail w) := by
  constructor
  · exact fun w reached => reached.signing.everyRealmSigns
  · intro w reached command keyless
    cases command with
    | importKeycloak data options =>
      simp only [Command.Keyed, not_or, not_eq_true, Option.isSome_eq_false_iff,
        Option.isNone_iff_eq_none] at keyless
      exact keycloak_keyless reached.signing keyless.1 keyless.2
    | _ => exact absurd trivial keyless

def acmeCreated : Command := .createRealm (fun _ => false) "acme" {}

def globexImported : Command := .importKeycloak { realm := "globex" } { dryRun := false }

theorem acme_signs : EveryRealmSigns (acmeCreated.run transparent [] {}) ∧
      (globexImported.run transparent [] {} = {} ∨
        ¬ EveryRealmSigns (globexImported.run transparent [] {})) :=
  ⟨(realms_sign .transparent []).1 _ (.step .start acmeCreated trivial),
    (realms_sign .transparent []).2 _ .start globexImported (by
      rintro (dry | known)
      · exact Bool.noConfusion dry
      · exact Bool.noConfusion known)⟩

/-- After the import of a realm from Keycloak nobody can sign for it. -/
theorem globex_cannot_sign : ¬ EveryRealmSigns ([acmeCreated, globexImported].foldl
      (fun w command => command.run transparent [] w) {}) := by
  decide +kernel

end Idenplane.Setup
