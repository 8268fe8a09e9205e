import Idenplane.Cors.Refusals
import Idenplane.Realms.Frames
import Idenplane.Realms.ImportSafety

/-! # Decisions about origins

One instance, one request after the other.  The copies agree with the clients as long as no realm
comes or goes whose clients matter while a copy is there.
-/

namespace Idenplane.Cors

open Atomic Auth Admin Realms Clients Prog Keeps

section Import

open Realms.Transfer (Document Throws)

def Imports (doc : Document) (row : Client) : Prop :=
  ∃ client ∈ doc.clients, row.enabled = client.enabled.getD true ∧
    row.webOrigins = (client.webOrigins.getD []).filter (· ≠ "*")

def Grows (doc : Document) (w w' : Realms.Transfer.World) : Prop :=
  ∃ rows, w'.db.clients = w.db.clients ++ rows ∧ ∀ row ∈ rows, Imports doc row

variable {doc : Document} {throws : Throws} {ow : Bool}

theorem Grows.same {w w' : Transfer.World} (same : w'.db.clients = w.db.clients) : Grows doc w w' :=
  ⟨[], by rw [same, append_nil], by simp⟩

theorem Grows.trans {first snd third : Transfer.World} (pre : Grows doc first snd)
    (after : Grows doc snd third) : Grows doc first third := by
  obtain ⟨rows, isRows, imports⟩ := pre
  obtain ⟨more, isMore, imports'⟩ := after
  refine ⟨rows ++ more, by rw [isMore, isRows, append_assoc], fun row mem => ?_⟩
  exact (mem_append.mp mem).elim (imports row) (imports' row)

theorem Grows.framing (doc : Document) : Transfer.Framing doc (Grows doc) where
  refl := fun _ => .same rfl
  rows := fun _ _ _ _ _ _ cs => .same cs
  client := fun _ _ client mem => ⟨_, rfl, fun row isRow => by
    rw [mem_singleton.mp isRow]
    exact ⟨client, mem, rfl, rfl⟩⟩

theorem fillRealm_keeps : (Transfer.fillRealm throws doc).Keeps (Grows doc) := by
  refine .bind (.require _ _) fun _ => ?_
  refine .bind (Transfer.statement_keeps fun w => ?_) fun rid =>
    (Grows.framing doc).importContents_keeps throws rid
  unfold Transfer.insert
  split <;> exact .same rfl

theorem fillRealm_grows (throws : Throws) (doc : Document) (w : Transfer.World) :
    Grows doc w ((Transfer.fillRealm throws doc).run w).2 :=
  run (K := Grows doc) (fun _ => .same rfl) Grows.trans fillRealm_keeps w

/-- What an import does to the clients: those of the realm that it replaces may go, and those of
the document may come. -/
structure Replaces (doc : Document) (w w' : Realms.Transfer.World) : Prop where
  come : ∀ row ∈ w'.db.clients, row ∈ w.db.clients ∨ Imports doc row
  go : ∀ row ∈ w.db.clients, row ∈ w'.db.clients ∨ ∃ realm,
    w.db.realms.find? (·.name = doc.name) = some realm ∧ row.realmId = realm.id

theorem Grows.replaces {w w' : Transfer.World} (grows : Grows doc w w') :
    Replaces doc w w' := by
  obtain ⟨rows, isRows, imports⟩ := grows
  refine ⟨fun row mem => ?_, fun row mem => .inl ?_⟩
  · rw [isRows] at mem
    exact (mem_append.mp mem).imp_right (imports row)
  · rw [isRows]
    exact mem_append_left _ mem

theorem importRealm_replaces (throws : Throws) (doc : Document) (ow : Bool)
    (w : Transfer.World) : Replaces doc w ((Transfer.importRealm throws doc ow).run w).2 := by
  have unchanged {f : Failure} (refused : (Transfer.importRealm throws doc
      ow).run w = (.error f, w)) : Replaces doc w
        ((Transfer.importRealm throws doc ow).run w).2 := by
    rw [refused]
    exact Grows.replaces (.same rfl)
  by_cases early : doc.version = "" ∨ doc.name = "" ∨ throws .findRealm = true
  · obtain ⟨f, refused⟩ := Transfer.importRealm_refused early
    exact unchanged refused
  · simp only [not_or, not_eq_true] at early
    obtain ⟨ver, name, find⟩ := early
    cases hit : w.db.realms.find? (·.name = doc.name) with
    | none =>
      rw [Transfer.importRealm_new ver name find hit]
      exact (fillRealm_grows throws doc w).replaces
    | some r =>
      by_cases refused : ow = false ∨ throws .deleteRealm = true
      · obtain ⟨f, refused⟩ := Transfer.importRealm_known hit refused
        exact unchanged refused
      · have calls : ow = true ∧ throws .deleteRealm = false := by simpa using refused
        obtain ⟨rfl, delete⟩ := calls
        rw [Transfer.importRealm_overwrites ver name find hit delete]
        obtain ⟨rows, isRows, imports⟩ := fillRealm_grows throws doc
          { w with db := w.db.deleteRealm r }
        refine ⟨fun row mem => ?_, fun row mem => ?_⟩
        · rw [isRows] at mem
          rcases mem_append.mp mem with old | new
          · exact .inl (mem_filter.mp old).1
          · exact .inr (imports row new)
        · by_cases own : row.realmId = r.id
          · exact .inr ⟨r, hit, own⟩
          · refine .inl ?_
            rw [isRows]
            exact mem_append_left _ (mem_filter.mpr ⟨mem, by simpa using own⟩)

end Import

section Failure

open Clients (Backend Randomness)

def SameClients (backend backend' : Backend) : Prop := backend'.store.clients = backend.store.clients

theorem SameClients.refl (backend : Backend) : SameClients backend backend := rfl

theorem SameClients.trans {first snd third : Backend} (pre : SameClients first snd)
    (after : SameClients snd third) : SameClients first third := Eq.trans after pre

theorem findByClientId_keeps (rnd : Randomness) (r : Realm) (name : String) :
    (Clients.findByClientId rnd r name).Keeps SameClients := by
  refine .bind (.read .refl _) fun cached => ?_
  cases cached with
  | some config => trivial
  | none =>
    refine .bind (.bind (.read .refl _) fun c => ?_) fun hit =>
      .bind (.orFail _ _) fun config =>
        .bind (.modify fun _ => rfl) fun _ => trivial
    cases c with
    | some c => trivial
    | none =>
      dsimp only
      split
      · exact .bind (.read .refl _) fun _ => trivial
      · trivial

theorem newSecret_keeps (rnd : Randomness) (type : ClientType) :
    (Clients.newSecret rnd type).Keeps SameClients := by
  cases type with
  | CONFIDENTIAL => exact .bind (.atomic fun _ => rfl) fun _ => trivial
  | PUBLIC => trivial

theorem newServiceAccount_keeps (r : Realm) (cid : String) (wanted : Bool) :
    (Clients.newServiceAccount r cid wanted).Keeps SameClients := by
  cases wanted with
  | false => trivial
  | true =>
    refine .bind (.atomic fun be => ?_) fun _ =>
      .bind (.orFail _ _) fun _ => trivial
    cases taken : (findUser r.id (Clients.serviceAccountName cid) be.store).isSome <;>
      simp [Clients.serviceAccountCreated, SameClients, taken]

theorem create_fails (d : Deps) (rnd : Randomness) (r : Realm)
    (dto : Clients.CreateClientDto) : (Clients.create d rnd r dto).Fails SameClients := by
  have after {α β : Type} {p : Clients.Call α} {f : α → Clients.Call β}
      (first : p.Keeps SameClients) (rest : ∀ a, (f a).Fails SameClients) :
      (p >>= f).Fails SameClients := .after .refl .trans first rest
  refine after (.require _ _) fun _ => after (.read .refl _) fun old =>
    after (.require _ _) fun _ => after (newSecret_keeps rnd _) fun rawSecret =>
      after (newServiceAccount_keeps r _ _) fun account => ?_
  intro be be' failure failed
  rw [run_atomic_bind] at failed
  unfold Clients.clientCreated at failed
  split at failed
  case isTrue =>
    cases failed
    rfl
  case isFalse => cases failed

theorem update_fails (rnd : Randomness) (r : Realm) (name : String)
    (dto : Clients.UpdateClientDto) : (Clients.update rnd r name dto).Fails SameClients := by
  refine .after .refl .trans (.require _ _) fun _ =>
    .after .refl .trans (findByClientId_keeps rnd r name) fun old => ?_
  intro be be' f failed
  rw [run_atomic_bind] at failed
  cases hit : be.store.clients.find? (hasKey r old.clientId) with
  | some c =>
    simp only [clientsWritten, hit, map_some] at failed
    cases failed
  | none =>
    simp only [clientsWritten, hit, Option.map_none] at failed
    cases failed
    rw [find?_eq_none] at hit
    refine (map_congr_left fun c mem => ?_).trans (List.map_id _)
    rw [if_neg (hit c mem)]
    rfl

theorem remove_fails (rnd : Randomness) (r : Realm) (name : String) :
    (Clients.remove rnd r name).Fails SameClients := by
  refine .after .refl .trans (findByClientId_keeps rnd r name)
    fun c => .after .refl .trans (.modify fun be => ?_) fun _ => ?_
  · unfold Clients.serviceAccountDeleted SameClients
    cases c.serviceAccountUserId <;> rfl
  · intro be be' f failed
    rw [run_atomic_bind] at failed
    cases deleted : be.store.clients.any (hasKey r c.clientId) with
    | true =>
      simp only [clientsDeleted, deleted] at failed
      cases failed
    | false =>
      simp only [clientsDeleted, deleted] at failed
      cases failed
      refine filter_eq_self.mpr fun c mem => ?_
      simpa using any_eq_false.mp deleted c mem

end Failure

section Sequential

variable {env : Environment} {w w' : World} {origin : String}

def Listed (origin : String) (w : World) : Prop :=
  ∃ client ∈ w.clients, client.enabled = true ∧ origin ∈ client.webOrigins

theorem builtIn_ne_wildcard (env : Environment) : "*" ∉ env.builtIn := by
  intro mem
  rcases mem_append.mp mem with isBase | isLocal
  · exact env.noWildcard (by simpa using isBase)
  · split at isLocal
    case isTrue => cases isLocal
    case isFalse =>
      have long (start : String) (small : 2 ≤ start.length) : "*" ≠ start ++ env.port := by
        intro same
        have lengths := congrArg String.length same
        rw [String.length_append] at lengths
        have one : "*".length = 1 := by decide
        omega
      rcases mem_cons.mp isLocal with same | isSecond
      · exact long _ (by decide) same
      · exact long _ (by decide) (mem_singleton.mp isSecond)

theorem mem_allowedOrigins : origin ∈ allowedOrigins env w ↔
    origin ≠ "*" ∧ (Listed origin w ∨ origin ∈ env.builtIn) := by
  have isListed : origin ∈ listed w.clients ↔ origin ≠ "*" ∧ Listed origin w := by
    simp only [listed, mem_flatMap, mem_filter, Listed]
    constructor
    · rintro ⟨client, ⟨isClient, enabled⟩, isOrigin, other⟩
      exact ⟨by simpa using other, client, isClient, enabled, isOrigin⟩
    · rintro ⟨other, client, isClient, enabled, isOrigin⟩
      exact ⟨client, ⟨isClient, enabled⟩, isOrigin, by simpa using other⟩
  rw [allowedOrigins, mem_append, isListed, and_or_left, or_comm]
  refine or_congr_right ⟨fun builtIn => ⟨?_, builtIn⟩, And.right⟩
  rintro rfl
  exact builtIn_ne_wildcard env builtIn

def Agrees (env : Environment) (w : World) (e : Option Entry) : Prop :=
  ∀ origins, live e w.now = some origins →
    ∀ origin, origin ∈ origins ↔ origin ∈ allowedOrigins env w

structure Current (env : Environment) (w : World) : Prop where
  redis : Agrees env w w.corsOrigins
  here : Agrees env w (w.localOrigins 0)

def Idle (w : World) : Prop :=
  live w.corsOrigins w.now = none ∧ live (w.localOrigins 0) w.now = none

def Covered (env : Environment) (w : World) (realm : Option Realms.RealmRow) (origin : String) :
    Prop :=
  origin = "*" ∨ origin ∈ env.builtIn ∨ ∃ client ∈ w.clients,
    some client.realmId ≠ realm.map (·.id) ∧ client.enabled = true ∧ origin ∈ client.webOrigins

def Spared (env : Environment) (w : World) (realm : Option Realms.RealmRow) : Prop :=
  ∀ client ∈ w.clients, some client.realmId = realm.map (·.id) → client.enabled = true →
    ∀ origin ∈ client.webOrigins, Covered env w realm origin

/-- A request that comes or goes with a realm finds no copies, or changes no decision. -/
def Harmless (env : Environment) (w : World) : Request → Prop
  | .removeRealm name => Idle w ∨ Spared env w (w.tables.db.realms.find? (·.name = name))
  | .importRealm _ doc _ => Idle w ∨ Spared env w (w.tables.db.realms.find? (·.name = doc.name)) ∧
        ∀ client ∈ doc.clients, client.enabled.getD true = true →
          ∀ origin ∈ client.webOrigins.getD [],
            Covered env w (w.tables.db.realms.find? (·.name = doc.name)) origin
  | _ => True

structure SameCopies (w w' : World) : Prop where
  now : w'.now = w.now
  redis : w'.corsOrigins = w.corsOrigins
  here : w'.localOrigins = w.localOrigins

theorem SameCopies.refl (w : World) : SameCopies w w := ⟨rfl, rfl, rfl⟩

theorem SameCopies.trans {first snd third : World} (pre : SameCopies first snd)
    (after : SameCopies snd third) : SameCopies first third :=
  ⟨after.now.trans pre.now, after.redis.trans pre.redis, after.here.trans pre.here⟩

theorem Current.of_same (cur : Current env w) (copies : SameCopies w w')
    (same : ∀ origin, origin ∈ allowedOrigins env w' ↔ origin ∈ allowedOrigins env w) :
    Current env w' where
  redis origins isLive origin := by
    rw [copies.redis, copies.now] at isLive
    rw [same]
    exact cur.redis origins isLive origin
  here origins isLive origin := by
    rw [copies.here, copies.now] at isLive
    rw [same]
    exact cur.here origins isLive origin

theorem Current.of_idle (idle : Idle w) (copies : SameCopies w w') : Current env w' where
  redis origins isLive := by
    rw [copies.redis, copies.now, idle.1] at isLive
    cases isLive
  here origins isLive := by
    rw [copies.here, copies.now, idle.2] at isLive
    cases isLive

theorem allowedOrigins_clients (same : w'.clients = w.clients) :
    allowedOrigins env w' = allowedOrigins env w := by
  rw [allowedOrigins, same, allowedOrigins]

variable {origins : List String} {α : Type}

theorem agrees_stored (expiry : Int)
    (same : ∀ origin, origin ∈ origins ↔ origin ∈ allowedOrigins env w) :
    Agrees env w (some ⟨origins, expiry⟩) := by
  intro os isLive
  obtain ⟨e, isEntry, rfl, _⟩ := mem_live isLive
  cases isEntry
  exact same

theorem agrees_kept (held : Nat → Option Entry) (expiry : Int)
    (same : ∀ origin, origin ∈ origins ↔ origin ∈ allowedOrigins env w) :
    Agrees env w (update held 0 (some ⟨origins, expiry⟩) 0) := by
  exact agrees_stored expiry same

theorem getAllowedOrigins_run (cur : Current env w) : ∃ origins after,
    (getAllowedOrigins env 0 0).run w = (.ok origins, after) ∧
      (∀ origin, origin ∈ origins ↔ origin ∈ allowedOrigins env w) ∧ Current env after := by
  unfold getAllowedOrigins
  rw [run_read_bind]
  cases hit : live (w.localOrigins 0) w.now with
  | some origins => exact ⟨origins, w, rfl, cur.here origins hit, cur⟩
  | none =>
    rw [run_read_bind]
    cases cached : live w.corsOrigins w.now with
    | some origins =>
      exact ⟨origins, _, rfl, cur.redis origins cached, cur.redis,
        agrees_kept w.localOrigins _ (cur.redis origins cached)⟩
    | none =>
      exact ⟨allowedOrigins env w, _, rfl, fun _ => Iff.rfl,
        agrees_stored _ fun _ => Iff.rfl, agrees_kept w.localOrigins _ fun _ => Iff.rfl⟩

theorem isOriginAllowed_run (cur : Current env w) (origin : String) : ∃ after,
    (isOriginAllowed env 0 0 origin).run w =
      (.ok (decide (origin ∈ allowedOrigins env w)), after) ∧ Current env after := by
  obtain ⟨origins, after, ran, same, cur'⟩ := getAllowedOrigins_run cur
  refine ⟨after, ?_, cur'⟩
  rw [isOriginAllowed, run_bind, ran]
  have decided : origins.contains origin = decide (origin ∈ allowedOrigins env w) := by
    rw [Bool.eq_iff_iff, contains_iff_mem, decide_eq_true_eq, same]
  exact congrArg (fun ans => (Except.ok ans, after)) decided

open SameCopies

variable (env) in
theorem clientsPart_copies (p : Clients.Call α) (w : World) :
    SameCopies w ((p.onPart (clientsPart env 0)).run w).2 :=
  run (K := SameCopies) refl trans (onPart_keeps fun _ _ => ⟨rfl, rfl, rfl⟩) w

theorem clientWrite_current (cur : Current env w) {write : Clients.Call α}
    (fails : write.Fails SameClients) :
    Current env ((write.onPart (clientsPart env 0) >>= fun res => invalidate 0 0 >>= fun _ =>
      (pure res : Call α)).run w).2 := by
  have copies := clientsPart_copies env write w
  have res := onPart_run_fst (clientsPart env 0) write w
  have clients := onPart_run_get (clientsPart env 0) write w
  rw [run_bind]
  rcases ran : (write.onPart (clientsPart env 0)).run w with ⟨out, after⟩
  rw [ran] at copies res clients
  cases out with
  | ok v =>
    refine ⟨fun origins isLive => ?_, fun origins isLive => ?_⟩
    · obtain ⟨_, isEntry, _⟩ := mem_live isLive
      cases isEntry
    · obtain ⟨entry, isEntry, _⟩ := mem_live isLive
      have dropped : update after.localOrigins 0 none 0 = some entry := isEntry
      cases dropped
  | error f =>
    refine cur.of_same copies fun origin => ?_
    have failed : (write.run ((clientsPart env 0).get w)).2.store.clients = w.clients :=
      fails _ _ f (Prod.ext res.symm rfl)
    have same : after.clients = w.clients :=
      (congrArg (fun be => be.store.clients) clients).trans failed
    exact iff_of_eq (congrArg (origin ∈ ·) (allowedOrigins_clients same))

variable {r : Option Realms.RealmRow}

theorem Covered.allowed (covered : Covered env w r origin)
    (other : origin ≠ "*") : origin ∈ allowedOrigins env w := by
  rcases covered with wildcard | builtIn | ⟨c, isClient, _, enabled, isOrigin⟩
  · exact absurd wildcard other
  · exact mem_allowedOrigins.mpr ⟨other, .inr builtIn⟩
  · exact mem_allowedOrigins.mpr ⟨other, .inl ⟨c, isClient, enabled, isOrigin⟩⟩

theorem allowed_same (spared : Spared env w r)
    (stay : ∀ c ∈ w.clients, some c.realmId ≠ r.map (·.id) →
      c ∈ w'.clients) (come : ∀ c ∈ w'.clients, c ∈ w.clients ∨
      (c.enabled = true → ∀ origin ∈ c.webOrigins, origin ≠ "*" → origin ∈ allowedOrigins env w))
    (origin : String) : origin ∈ allowedOrigins env w' ↔ origin ∈ allowedOrigins env w := by
  constructor
  · intro allowed
    obtain ⟨other, ⟨c, isClient, enabled, isOrigin⟩ | builtIn⟩ := mem_allowedOrigins.mp allowed
    · rcases come c isClient with old | new
      · exact mem_allowedOrigins.mpr ⟨other, .inl ⟨c, old, enabled, isOrigin⟩⟩
      · exact new enabled origin isOrigin other
    · exact mem_allowedOrigins.mpr ⟨other, .inr builtIn⟩
  · intro allowed
    obtain ⟨other, ⟨c, isClient, enabled, isOrigin⟩ | builtIn⟩ := mem_allowedOrigins.mp allowed
    · by_cases own : some c.realmId = r.map (·.id)
      · rcases spared c isClient own enabled origin isOrigin with
          wildcard | builtIn | ⟨another, isAnother, apart, enabled', isOrigin'⟩
        · exact absurd wildcard other
        · exact mem_allowedOrigins.mpr ⟨other, .inr builtIn⟩
        · exact mem_allowedOrigins.mpr
            ⟨other, .inl ⟨another, stay another isAnother apart, enabled', isOrigin'⟩⟩
      · exact mem_allowedOrigins.mpr ⟨other, .inl ⟨c, stay c isClient own, enabled, isOrigin⟩⟩
    · exact mem_allowedOrigins.mpr ⟨other, .inr builtIn⟩

/-- A part of a program that only looks realms up, or forgets them. -/
structure SameTables (w w' : World) : Prop where
  copies : SameCopies w w'
  clients : w'.clients = w.clients
  realms : w'.tables.db.realms = w.tables.db.realms

def SameRealms (s s' : Realms.State) : Prop := s'.realms = s.realms

theorem SameRealms.refl (state : State) : SameRealms state state := rfl

theorem SameRealms.trans {first snd third : State} (pre : SameRealms first snd)
    (after : SameRealms snd third) : SameRealms first third := Eq.trans after pre

theorem realmsPart_copies (p : Realms.Call α) (w : World) :
    SameCopies w ((p.onPart realmsPart).run w).2 ∧
      ((p.onPart realmsPart).run w).2.clients = w.clients :=
  run (K := fun w w' => SameCopies w w' ∧ w'.clients = w.clients) (fun w => ⟨.refl w, rfl⟩)
    (fun pre after => ⟨pre.1.trans after.1, after.2.trans pre.2⟩)
    (onPart_keeps fun _ _ => ⟨⟨rfl, rfl, rfl⟩, rfl⟩) w

theorem realmsPart_same {p : Realms.Call α} (w : World)
    (keeps : p.Keeps SameRealms) : SameTables w ((p.onPart realmsPart).run w).2 := by
  have copies := realmsPart_copies p w
  have realms : (p.run (realmsPart.get w)).2.realms = w.tables.db.realms :=
    keeps.run .refl .trans (realmsPart.get w)
  have after := congrArg Realms.State.realms (onPart_run_get realmsPart p w)
  exact ⟨copies.1, copies.2, after.trans realms⟩

theorem findByNameRaw_keeps (name : String) : (findByNameRaw name).Keeps SameRealms := by
  refine .bind (.read .refl _) fun cached => ?_
  cases cached with
  | some r => trivial
  | none =>
    exact .bind (.read .refl _) fun _ => .bind (.orFail _ _) fun _ =>
      .bind (.modify fun _ => rfl) fun _ =>
        .bind (.modify fun _ => rfl) fun _ => trivial

theorem invalidateRealmCache_keeps (id : Nat) (name : String) :
    (invalidateRealmCache id name).Keeps SameRealms :=
  .bind (.modify fun _ => rfl) fun _ => .modify fun _ => rfl

variable (env) in
theorem removeRealm_run (name : String) (w : World) : ∃ pre,
    SameTables w pre ∧ SameCopies pre ((removeRealm env 0 name).run w).2 ∧
      ∃ after, (after = pre ∨ after = (realmDeleted env 0 name pre).2) ∧
        ((removeRealm env 0 name).run w).2.clients = after.clients := by
  have first := realmsPart_same w (findByNameRaw_keeps name)
  unfold removeRealm
  rw [run_bind]
  rcases found : ((Realms.findByNameRaw name).onPart realmsPart).run w with ⟨out, here⟩
  rw [found] at first
  cases out with
  | error f => exact ⟨here, first, .refl here, here, .inl rfl, rfl⟩
  | ok old =>
    dsimp only
    have second := realmsPart_same here (invalidateRealmCache_keeps old.id name)
    rw [run_bind]
    rcases dropped : ((Realms.invalidateRealmCache old.id name).onPart realmsPart).run here with
      ⟨out, there⟩
    rw [dropped] at second
    have same : SameTables w there := ⟨first.copies.trans second.copies,
      second.clients.trans first.clients, second.realms.trans first.realms⟩
    cases out with
    | error f => exact ⟨there, same, .refl there, there, .inl rfl, rfl⟩
    | ok _ =>
      refine ⟨there, same, ?_, _, .inr rfl, ?_⟩
      · dsimp only
        rw [run_atomic_bind]
        unfold realmDeleted
        cases there.tables.db.realms.find? (·.name = name) with
        | none => exact .refl there
        | some r => exact ⟨rfl, rfl, rfl⟩
      · dsimp only
        rw [run_atomic_bind]
        unfold realmDeleted
        cases there.tables.db.realms.find? (·.name = name) <;> rfl

theorem removeRealm_current (cur : Current env w) {name : String}
    (harmless : Harmless env w (.removeRealm name)) :
    Current env ((removeRealm env 0 name).run w).2 := by
  obtain ⟨pre, same, copies, after, isAfter, cs⟩ := removeRealm_run env name w
  have moved := same.copies.trans copies
  rcases harmless with idle | spared
  · exact .of_idle idle moved
  · refine cur.of_same moved fun origin => ?_
    rw [allowedOrigins_clients cs]
    rcases isAfter with rfl | rfl
    · rw [allowedOrigins_clients same.clients]
    · unfold realmDeleted
      rw [same.realms]
      cases found : w.tables.db.realms.find? (·.name = name) with
      | none => exact iff_of_eq (congrArg (origin ∈ ·) (allowedOrigins_clients same.clients))
      | some r =>
        rw [found] at spared
        have rows : pre.tables.db.clients = w.tables.db.clients := same.clients
        refine allowed_same spared (fun c isClient apart => ?_) (fun c isClient => .inl ?_) origin
        · refine mem_filter.mpr ⟨rows ▸ isClient, ?_⟩
          simpa using apart
        · have listed : c ∈ pre.clients := (mem_filter.mp isClient).1
          rwa [same.clients] at listed

theorem importRealm_current (cur : Current env w) {throws : Transfer.Throws}
    {doc : Transfer.Document} {ow : Bool}
    (harmless : Harmless env w (.importRealm throws doc ow)) :
    Current env ((importRealm env 0 throws doc ow).run w).2 := by
  have ran := onPart_run_get (transferPart env 0) (Transfer.importRealm throws doc ow) w
  have copies : SameCopies w (((Transfer.importRealm throws doc ow).onPart
      (transferPart env 0)).run w).2 :=
    run (K := SameCopies) refl trans (onPart_keeps fun _ _ => ⟨rfl, rfl, rfl⟩) w
  have replaces := importRealm_replaces throws doc ow w.tables
  have after : SameCopies w ((importRealm env 0 throws doc ow).run w).2 ∧
      Replaces doc w.tables ((importRealm env 0 throws doc ow).run w).2.tables := by
    rw [importRealm, run_bind]
    rcases outcome : ((Transfer.importRealm throws doc ow).onPart
      (transferPart env 0)).run w with ⟨res, here⟩
    rw [outcome] at ran copies
    have isTables : here.tables = _ := ran
    cases res with
    | ok summary => exact ⟨⟨copies.now, copies.redis, copies.here⟩, isTables ▸ replaces⟩
    | error f => exact ⟨copies, isTables ▸ replaces⟩
  obtain ⟨copies, replaces⟩ := after
  rcases harmless with idle | ⟨spared, covered⟩
  · exact .of_idle idle copies
  · refine cur.of_same copies fun origin => ?_
    refine allowed_same spared (fun c isClient apart => ?_) (fun c isClient => ?_) origin
    · rcases replaces.go c isClient with stays | ⟨r, hit, own⟩
      · exact stays
      · exact absurd (by rw [hit, own]; rfl) apart
    · refine (replaces.come c isClient).imp_right ?_
      rintro ⟨imported, mem, isEnabled, isOrigins⟩ enabled origin isOrigin other
      rw [isOrigins] at isOrigin
      exact (covered imported mem (isEnabled ▸ enabled) origin
        (mem_filter.mp isOrigin).1).allowed other

inductive Turn where
  | serve (req : Request)
  | wait (milliseconds : Nat)

def Turn.take (env : Environment) (w : World) : Turn → World
  | .serve req => ((Cors.serve env 0 0 req).run w).2
  | .wait milliseconds => { w with now := w.now + milliseconds }

def runTurns (env : Environment) (w : World) (turns : List Turn) : World :=
  turns.foldl (Turn.take env) w

def ProperRun (env : Environment) : World → List Turn → Prop
  | _, [] => True
  | w, turn :: turns =>
    (match turn with
      | .serve req => Harmless env w req
      | .wait _ => True) ∧ ProperRun env (turn.take env w) turns

theorem run_other (call : Call α) (w : World) :
    ((call >>= fun _ => (pure .other : Call Answer)).run w).2 = (call.run w).2 := by
  rw [run_bind]
  rcases call.run w with ⟨out, after⟩
  cases out <;> rfl

theorem take_current (cur : Current env w) {req : Request} (harmless : Harmless env w req) :
    Current env ((serve env 0 0 req).run w).2 := by
  cases req with
  | isOriginAllowed origin =>
    obtain ⟨after, ran, cur'⟩ := isOriginAllowed_run cur origin
    rw [serve, run_read_bind, run_bind, ran]
    exact cur'
  | createClient d rnd r dto =>
    rw [serve, run_other]
    exact clientWrite_current cur (create_fails d rnd r dto)
  | updateClient rnd r name dto =>
    rw [serve, run_other]
    exact clientWrite_current cur (update_fails rnd r name dto)
  | removeClient rnd r name =>
    rw [serve, run_other]
    exact clientWrite_current cur (remove_fails rnd r name)
  | updateRealm d avail name dto =>
    rw [serve, run_other]
    have updated : ((updateRealm d avail name dto).run w).2 =
        (((Realms.update d avail name dto).onPart realmsPart).run w).2 := by
      rw [updateRealm, run_bind]
      rcases ((Realms.update d avail name dto).onPart realmsPart).run w with
        ⟨out, after⟩
      cases out <;> rfl
    rw [updated]
    obtain ⟨copies, cs⟩ := realmsPart_copies (Realms.update d avail name dto) w
    exact cur.of_same copies fun origin => by rw [allowedOrigins_clients cs]
  | removeRealm name =>
    rw [serve, run_other]
    exact removeRealm_current cur harmless
  | importRealm throws doc ow =>
    rw [serve, run_other]
    exact importRealm_current cur harmless

theorem wait_current (cur : Current env w) (milliseconds : Nat) :
    Current env { w with now := w.now + milliseconds } := by
  have sooner {e : Option Entry} {origins : List String}
      (isLive : live e (w.now + milliseconds) = some origins) :
      live e w.now = some origins := by
    obtain ⟨held, rfl, rfl, inTime⟩ := mem_live isLive
    have pre : w.now < held.expiry := by omega
    simp [live, Option.filter, pre]
  exact ⟨fun origins isLive => cur.redis origins (sooner isLive),
    fun origins isLive => cur.here origins (sooner isLive)⟩

theorem run_current {turns : List Turn} (cur : Current env w)
    (proper : ProperRun env w turns) : Current env (runTurns env w turns) := by
  induction turns generalizing w with
  | nil => exact cur
  | cons turn turns ih =>
    obtain ⟨harmless, proper⟩ := proper
    cases turn with
    | serve req => exact ih (take_current cur harmless) proper
    | wait milliseconds => exact ih (wait_current cur milliseconds) proper

end Sequential

/-- Decisions follow the clients, one request after the other, when no realm takes clients that
matter away under a copy or brings such clients; and among other requests an origin that is gone is
refused as soon as the copies in the instances have expired, when no load overtakes its removal. -/
theorem cors_tracks_clients (env : Environment) :
    (∀ start turns origin, Current env start → ProperRun env start turns →
      ∃ allowed after, (isOriginAllowed env 0 0 origin).run (runTurns env start turns) =
          (.ok allowed, after) ∧ (allowed = true ↔ origin ≠ "*" ∧
          (Listed origin (runTurns env start turns) ∨ origin ∈ env.builtIn))) ∧
      ∀ instances reqs start, Consistent env start → ∀ after : Pool Nat World Failure Answer,
          Pool.Reaches Passes Timely (requestPool env instances reqs start) after →
            ∀ j ans, after.procs j = .done ans → Promise (reqs j) j ans after.state := by
  constructor
  · intro start turns origin cur proper
    obtain ⟨after, ran, _⟩ := isOriginAllowed_run (run_current cur proper) origin
    refine ⟨_, after, ran, ?_⟩
    rw [decide_eq_true_eq, mem_allowedOrigins]
  · intro instances reqs start consistent after reached j ans fin
    exact promises_kept instances reqs start consistent reached fin

def appWorld : World where
  tables :=
    { db :=
        { realms := [{ id := 0, name := "acme" }]
          clients := [{ id := 1, realmId := 0, clientId := "app", webOrigins := ["https://app"] }] }
      supply := 2 }

def appEnvironment : Environment where
  production := true

theorem appWorld_current : Current appEnvironment appWorld :=
  ⟨fun _ isLive => (nomatch isLive), fun _ isLive => (nomatch isLive)⟩

def copiedWorld : World := { appWorld with localOrigins := fun _ => some ⟨["https://app"], 1000⟩ }

theorem copiedWorld_consistent : Consistent appEnvironment copiedWorld := by
  refine ⟨fun i entry held => ?_, fun _ _ isTaken => (nomatch isTaken), fun _ isGone => (nomatch isGone)⟩
  have isCopy : (⟨["https://app"], 1000⟩ : Entry) = entry := some.inj held
  subst isCopy
  decide

def acme : Realm := { id := 0, name := "acme" }

def plainIds : Clients.Randomness := ⟨fun id => toString id, fun id => toString id⟩

/-- The client moves to another origin after its old one has been copied. -/
def appMoves : List Turn :=
  [.serve (.isOriginAllowed "https://app"),
    .serve (.updateClient plainIds acme "app" { webOrigins := some ["https://new"] }),
    .serve (.isOriginAllowed "https://new"), .wait 1000]

/-- The first request removes the client, on another instance than the second one. -/
def appRemoved : Pool Nat World Failure Answer :=
  requestPool appEnvironment id
    (fun j => if j = 0 then .removeClient plainIds acme "app" else .isOriginAllowed "https://app")
    copiedWorld

/-- The step that ends the removal. -/
theorem removal_settled : Timely (appRemoved.schedule [0, 0, 0, 0, 0, 0]).state
    ((appRemoved.schedule [0, 0, 0, 0, 0, 0]).advance 0).state :=
  fun _ _ _ => ⟨fun _ held => (nomatch held), fun _ _ reads => (nomatch reads)⟩

theorem appRemoved_reached : Pool.Reaches Passes Timely appRemoved
    (((appRemoved.schedule [0, 0, 0, 0, 0, 0]).advance 0).schedule [1, 1]) := by
  have quiet (w w' : World) (same : w'.gone = w.gone) : Timely w w' :=
    fun origin isGone isNew => absurd (same ▸ isGone) isNew
  have removed : Pool.Reaches Passes (fun w w' => w'.gone = w.gone) appRemoved
      (appRemoved.schedule [0, 0, 0, 0, 0, 0]) := Pool.reaches_schedule (by decide +kernel)
  have asked : Pool.Reaches Passes (fun w w' => w'.gone = w.gone)
      ((appRemoved.schedule [0, 0, 0, 0, 0, 0]).advance 0)
      (((appRemoved.schedule [0, 0, 0, 0, 0, 0]).advance 0).schedule [1, 1]) :=
    Pool.reaches_schedule (by decide +kernel)
  exact (Pool.reaches_turn (removed.mono quiet) removal_settled).trans (asked.mono quiet)

/-- The new origin of a client is allowed and its old one refused; and a copy in another instance
still allows the origin of a client that is gone, within its time. -/
theorem app_moves_and_goes : (∃ after, (isOriginAllowed appEnvironment 0 0 "https://new").run
        (runTurns appEnvironment appWorld appMoves) = (.ok true, after)) ∧
      (∃ after, (isOriginAllowed appEnvironment 0 0 "https://app").run
        (runTurns appEnvironment appWorld appMoves) = (.ok false, after)) ∧
      ∃ c, Pool.Reaches Passes Timely appRemoved c ∧ c.state.gone = [("https://app", 0)] ∧
        c.procs 1 = .done (.decided 0 true) ∧
          Promise (.isOriginAllowed "https://app") 1 (.decided 0 true) c.state := by
  have proper : ProperRun appEnvironment appWorld appMoves :=
    ⟨trivial, trivial, trivial, trivial, trivial⟩
  have lists : Listed "https://new" (runTurns appEnvironment appWorld appMoves) :=
    ⟨_, mem_cons_self, rfl, mem_cons_self⟩
  have gone : ¬ Listed "https://app" (runTurns appEnvironment appWorld appMoves) := by
    rintro ⟨client, mem, -, isOrigin⟩
    rw [mem_singleton.mp mem] at isOrigin
    exact absurd isOrigin (by decide)
  refine ⟨?_, ?_, _, appRemoved_reached, rfl, rfl, ?_⟩
  · obtain ⟨allowed, after, ran, decided⟩ := (cors_tracks_clients appEnvironment).1 appWorld
      appMoves "https://new" appWorld_current proper
    rw [decided.mpr ⟨by decide, .inl lists⟩] at ran
    exact ⟨after, ran⟩
  · obtain ⟨allowed, after, ran, decided⟩ := (cors_tracks_clients appEnvironment).1 appWorld
      appMoves "https://app" appWorld_current proper
    have refused : allowed = false := by
      by_contra isAllowed
      exact (decided.mp (by simpa using isAllowed)).2.elim gone (by decide)
    exact ⟨after, refused ▸ ran⟩
  · exact (cors_tracks_clients appEnvironment).2 id _ copiedWorld copiedWorld_consistent _
      appRemoved_reached 1 (.decided 0 true) rfl

/-- A realm that goes leaves the origins of its clients behind. -/
theorem app_outlives_realm : Current appEnvironment appWorld ∧
    ((isOriginAllowed appEnvironment 0 0 "https://app").run (runTurns appEnvironment appWorld
        [.serve (.isOriginAllowed "https://app"), .serve (.removeRealm "acme")])).1 = .ok true ∧
      (runTurns appEnvironment appWorld
      [.serve (.isOriginAllowed "https://app"), .serve (.removeRealm "acme")]).clients = [] ∧
    "https://app" ∉ appEnvironment.builtIn :=
  ⟨appWorld_current, rfl, rfl, by decide⟩

end Idenplane.Cors
