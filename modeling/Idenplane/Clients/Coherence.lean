import Idenplane.Clients.Service
import Idenplane.Lib.Sequential

/-! # Redis and the table of the clients

A client has two names, and a write forgets what Redis holds under one of them.  As long as no
entry stands under the other name of a client that is written, every lookup answers what the
database would.
-/

namespace Idenplane.Clients

open Atomic Auth Admin Backend List

/-- The client that the name denotes: the one with the `client_id`, or else the one with the
UUID. -/
def denoted (random : Randomness) (realmId : Nat) (name : String) (store : Store) :
    Option Client :=
  (findClient realmId name store).or
    (if isUuid name then (findById random name store).filter (·.realmId = realmId) else none)

def uncached (random : Randomness) (store : Store) (key : Nat × String) : Option ClientConfig :=
  (denoted random key.1 key.2 store).map select

def uncachedAnswer (random : Randomness) (realm : Realm) (name : String) (store : Store) :
    Except Failure ClientConfig :=
  match uncached random store (realm.id, name) with
  | some config => .ok config
  | none => .error (clientNotFound name)

structure Keyed (store : Store) : Prop where
  ids : Table.Unique Client.id store.clients
  keys : Table.Unique (fun client => (client.realmId, client.clientId)) store.clients
  issued : ∀ client ∈ store.clients, client.id < store.supply

def SecondName (random : Randomness) (row : Client) (store : Store) : Prop :=
  random.uuid row.id ≠ row.clientId ∧
    denoted random row.realmId (random.uuid row.id) store = some row

variable {random : Randomness} {store store' : Store} {r : Realm} {name : String} {row : Client}

variable {rid : Nat}

theorem findClient_eq_some (hit : findClient rid name store = some row) :
    row ∈ store.clients ∧ row.realmId = rid ∧ row.clientId = name := by
  refine ⟨mem_of_find?_eq_some hit, ?_⟩
  simpa using find?_some hit

theorem denoted_cases {realmId : Nat} (hit : denoted random realmId name store = some row) :
    findClient realmId name store = some row ∨
      findClient realmId name store = none ∧ isUuid name = true ∧
        findById random name store = some row ∧ row.realmId = realmId := by
  rw [denoted] at hit
  cases byKey : findClient realmId name store with
  | some c => exact .inl (by simpa [byKey] using hit)
  | none =>
    rw [byKey, none_or] at hit
    split at hit
    case isTrue looks =>
      obtain ⟨byId, own⟩ := filter_eq_some_iff.mp hit
      exact .inr ⟨rfl, looks, byId, of_decide_eq_true own⟩
    case isFalse => cases hit

theorem denoted_names (hit : denoted random rid name store = some row) :
    row ∈ store.clients ∧ rid = row.realmId ∧
      (name = row.clientId ∨ name = random.uuid row.id ∧ SecondName random row store) := by
  rcases denoted_cases hit with byKey | ⟨unknown, looks, byId, own⟩
  · obtain ⟨mem, isRealm, isName⟩ := findClient_eq_some byKey
    exact ⟨mem, isRealm.symm, .inl isName.symm⟩
  · have isId : random.uuid row.id = name := by simpa using find?_some byId
    refine ⟨mem_of_find?_eq_some byId, own.symm, ?_⟩
    by_cases same : name = row.clientId
    · exact .inl same
    · refine .inr ⟨isId.symm, ?_, ?_⟩
      · rw [isId]
        exact same
      · rw [isId, own]
        exact hit

theorem findInDatabase_run (random : Randomness) (r : Realm) (name : String)
    (backend : Backend) : (findInDatabase random r name).run backend =
      (.ok (uncached random backend.store (r.id, name)), backend) := by
  unfold findInDatabase uncached denoted
  rw [run_read_bind]
  cases findClient r.id name backend.store with
  | some c => simp
  | none =>
    by_cases looks : isUuid name
    · simp only [looks, if_true, run_read_bind, pure_def, run_done, none_or]
      congr 2
      cases findById random name backend.store with
      | none => rfl
      | some c =>
        by_cases own : c.realmId = r.id <;> simp [Option.filter, select, own]
    · simp [looks]

/-- Everything a lookup does to the cache: perhaps one more entry, under the name. -/
structure Looked (random : Randomness) (realm : Realm) (name : String)
    (backend after : Backend) : Prop where
  store : after.store = backend.store
  coherent : Cache.Coherent after.cache (uncached random backend.store)
  entries : ∀ key, after.cache key ≠ none → backend.cache key ≠ none ∨ key = (realm.id, name)

theorem findByClientId_spec {backend : Backend}
    (coherent : Cache.Coherent backend.cache (uncached random backend.store)) :
    ((findByClientId random r name).run backend).1 = uncachedAnswer random r name backend.store ∧
      Looked random r name backend ((findByClientId random r name).run backend).2 := by
  have same : Looked random r name backend backend := ⟨rfl, coherent, fun _ => .inl⟩
  unfold findByClientId uncachedAnswer
  rw [run_read_bind]
  cases hit : backend.cache (r.id, name) with
  | some config => simp [coherent _ _ hit, same]
  | none =>
    rw [run_bind, findInDatabase_run]
    cases found : uncached random backend.store (r.id, name) with
    | none => exact ⟨rfl, same⟩
    | some config =>
      refine ⟨rfl, rfl, coherent.put found, ?_⟩
      intro key kept
      by_cases isKey : key = (r.id, name)
      · exact .inr isKey
      · have put : Cache.put backend.cache (r.id, name) config key ≠ none := kept
        rw [Cache.put, update_of_ne isKey] at put
        exact .inl put

/-- The table after a write to one row: every other client is still what its names denote. -/
def Frames (random : Randomness) (row : Client) (store store' : Store) : Prop :=
  ∀ realmId name other, denoted random realmId name store = some other → other ≠ row →
    denoted random realmId name store' = some other

def Unlisted (random : Randomness) (row : Client) (backend : Backend) : Prop :=
  SecondName random row backend.store → backend.cache (row.realmId, random.uuid row.id) = none

/-- A write and the invalidation of the `client_id` leave the cache coherent, when there is no
entry under the UUID. -/
theorem coherent_written {backend : Backend}
    (coherent : Cache.Coherent backend.cache (uncached random backend.store))
    (frames : Frames random row backend.store store') (unlisted : Unlisted random row backend) :
    Cache.Coherent (Cache.drop backend.cache (row.realmId, row.clientId))
      (uncached random store') := by
  intro key v kept
  obtain ⟨e, other⟩ := Cache.drop_eq_some kept
  obtain ⟨c, hit, rfl⟩ := map_eq_some_iff.mp (coherent key v e)
  have notRow : c ≠ row := by
    rintro rfl
    obtain ⟨_, isRealm, isName | ⟨isName, snd⟩⟩ := denoted_names hit
    · exact other (Prod.ext isRealm isName)
    · have isKey : key = (c.realmId, random.uuid c.id) := Prod.ext isRealm isName
      rw [isKey, unlisted snd] at e
      cases e
  rw [uncached, frames _ _ c hit notRow]
  rfl

theorem denoted_map {change : Client → Client} (keeps : ∀ c, (change c).id = c.id ∧
      (change c).realmId = c.realmId ∧ (change c).clientId = c.clientId)
    (rid : Nat) (name : String) (written : store'.clients = store.clients.map change) :
    denoted random rid name store' = (denoted random rid name store).map change := by
  have byKey : findClient rid name store' = (findClient rid name store).map change := by
    rw [findClient, written, find?_map]
    congr 2
    funext c
    simp [keeps c]
  have byId : findById random name store' = (findById random name store).map change := by
    rw [findById, written, find?_map]
    congr 2
    funext c
    simp [keeps c]
  rw [denoted, denoted, byKey, byId]
  cases findClient rid name store with
  | some c => rfl
  | none =>
    by_cases looks : isUuid name
    · cases findById random name store with
      | none => simp
      | some c =>
        by_cases own : c.realmId = rid <;> simp [looks, Option.filter, keeps c, own]
    · simp [looks]

theorem Frames.of_map {change : Client → Client} (keeps : ∀ c, (change c).id = c.id ∧
      (change c).realmId = c.realmId ∧ (change c).clientId = c.clientId)
    (written : store'.clients = store.clients.map change)
    (os : ∀ c ∈ store.clients, c ≠ row → change c = c) :
    Frames random row store store' := by
  intro rid name other hit notRow
  have mem := (denoted_names hit).1
  rw [denoted_map keeps rid name written, hit, map_some, os other mem notRow]

theorem find?_filter_of_stays {α : Type} {rows : List α} {test stays : α → Bool} {first : α}
    (hit : rows.find? test = some first) (kept : stays first = true) :
    (rows.filter stays).find? test = some first := by
  obtain ⟨passes, pre, after, split, os⟩ := find?_eq_some_iff_append.mp hit
  subst split
  rw [filter_append, find?_append]
  have none : (pre.filter stays).find? test = none := by
    apply find?_eq_none.mpr
    intro row mem
    simpa using os row (mem_filter.mp mem).1
  rw [none, none_or, filter_cons_of_pos kept, find?_cons_of_pos passes]

variable {stays : Client → Bool}

theorem Frames.of_filter (written : store'.clients = store.clients.filter stays)
    (os : ∀ c ∈ store.clients, c ≠ row → stays c = true) :
    Frames random row store store' := by
  intro rid name other hit notRow
  have mem := (denoted_names hit).1
  have kept := os other mem notRow
  rw [denoted]
  rcases denoted_cases hit with byKey | ⟨unknown, looks, byId, own⟩
  · rw [findClient, written, find?_filter_of_stays byKey kept, some_or]
  · have gone : findClient rid name store' = none := by
      apply find?_eq_none.mpr
      intro c isClient
      rw [written] at isClient
      exact find?_eq_none.mp unknown c (mem_filter.mp isClient).1
    rw [gone, findById, written, find?_filter_of_stays byId kept]
    simp [looks, Option.filter, own]

theorem denoted_cons (distinct : Function.Injective random.uuid) (keyed : Keyed store)
    (written : store'.clients = row :: store.clients) (isNew : store.supply ≤ row.id) {other : Client} (hit : denoted random rid name store = some other)
    (free : (rid, name) ≠ (row.realmId, row.clientId)) :
    denoted random rid name store' = some other := by
  have byKey : findClient rid name store' = findClient rid name store := by
    rw [findClient, written, find?_cons_of_neg]
    · rfl
    · intro taken
      simp only [and_eq_true, decide_eq_true_eq] at taken
      exact free (Prod.ext taken.1.symm taken.2.symm)
  rw [denoted, byKey]
  rcases denoted_cases hit with hit | ⟨unknown, looks, byId, own⟩
  · rw [hit, some_or]
  · have isId : random.uuid other.id = name := by simpa using find?_some byId
    have older := keyed.issued other (mem_of_find?_eq_some byId)
    have fresh : random.uuid row.id ≠ name := by
      rw [← isId]
      intro same
      have := distinct same
      omega
    rw [unknown, findById, written, find?_cons_of_neg (by simpa using fresh)]
    rw [findById] at byId
    simp [looks, byId, Option.filter, own]

inductive Write where
  | update (dto : UpdateClientDto)
  | remove
  | regenerateSecret

def Write.call (d : Deps) (random : Randomness) (realm : Realm) (name : String) : Write → Call Unit
  | .update dto => do
    let _ ← Clients.update random realm name dto
    pure ()
  | .remove => Clients.remove random realm name
  | .regenerateSecret => do
    let _ ← Clients.regenerateSecret d random realm name
    pure ()

def Write.accepts : Write → Client → Bool
  | .update dto, _ => !(dto.webOrigins.getD []).contains "*"
  | .remove, _ => true
  | .regenerateSecret, client => client.clientType = .CONFIDENTIAL

inductive Event where
  | create (realm : Realm) (dto : CreateClientDto)
  | find (realm : Realm) (name : String)
  | write (realm : Realm) (name : String) (change : Write)
  /-- Redis lets an entry go. -/
  | expire (key : Nat × String)
  | tick (elapsed : Nat)

def Event.call (d : Deps) (random : Randomness) : Event → Call Unit
  | .create realm dto => do
    let _ ← Clients.create d random realm dto
    pure ()
  | .find realm name => do
    let _ ← findByClientId random realm name
    pure ()
  | .write realm name change => change.call d random realm name
  | .expire key => modify fun backend =>
    { backend with cache := Cache.drop backend.cache key }
  | .tick elapsed => modify (Backend.onStore fun store => { store with now := store.now + elapsed })

def Backend.step (d : Deps) (random : Randomness) (backend : Backend) (event : Event) : Backend :=
  ((event.call d random).run backend).2

def Backend.run (d : Deps) (random : Randomness) (backend : Backend) (events : List Event) :
    Backend :=
  events.foldl (Backend.step d random) backend

structure Sound (random : Randomness) (backend : Backend) : Prop where
  keyed : Keyed backend.store
  coherent : Cache.Coherent backend.cache (uncached random backend.store)

/-- What a call that names a client does: it looks, and it may write to the client that it
finds. -/
inductive Outcome (random : Randomness) (realm : Realm) (name : String) (change : Write)
    (backend after : Backend) : Prop where
  | looked : Looked random realm name backend after → Outcome random realm name change backend after
  | wrote (row : Client) (between : Backend) :
      denoted random realm.id name backend.store = some row → change.accepts row = true →
      Looked random realm name backend between → Frames random row backend.store after.store →
      (∀ other ∈ backend.store.clients, other ≠ row → other ∈ after.store.clients) →
      Keyed after.store → after.cache = Cache.drop between.cache (row.realmId, row.clientId) →
      Outcome random realm name change backend after

variable {thrown : Backend → Prop}

theorem findByClientId_ensures {backend : Backend} (sound : Sound random backend) {post : ClientConfig → Backend → Prop}
    (missed : ∀ after, Looked random r name backend after → thrown after)
    (hit : ∀ row after, denoted random r.id name backend.store = some row →
      Looked random r name backend after → post (select row) after) :
    (findByClientId random r name).Ensures thrown post backend := by
  obtain ⟨ans, looked⟩ : _ ∧ Looked random r name backend _ :=
    findByClientId_spec sound.coherent
  rcases ran : (findByClientId random r name).run backend with ⟨res, after⟩
  rw [ran] at ans looked
  cases res with
  | error f => exact .of_failed ran (missed after looked)
  | ok config =>
    unfold uncachedAnswer uncached at ans
    cases isRow : denoted random r.id name backend.store with
    | none => simp [isRow] at ans
    | some row =>
      simp only [isRow, map_some, ok.injEq] at ans
      subst ans
      exact .of_ok ran (hit row after isRow looked)

theorem Keyed.map {change : Client → Client} (keyed : Keyed store)
    (keeps : ∀ c, (change c).id = c.id ∧
      (change c).realmId = c.realmId ∧ (change c).clientId = c.clientId)
    (written : store'.clients = store.clients.map change) (supply : store.supply ≤ store'.supply) :
    Keyed store' where
  ids := written ▸ keyed.ids.map fun c => (keeps c).1
  keys := written ▸ keyed.keys.map fun c => by simp [keeps c]
  issued c mem := by
    rw [written] at mem
    obtain ⟨old, isOld, rfl⟩ := mem_map.mp mem
    have := keyed.issued old isOld
    rw [(keeps old).1]
    omega

theorem Keyed.filter (keyed : Keyed store)
    (written : store'.clients = store.clients.filter stays) (supply : store.supply ≤ store'.supply) :
    Keyed store' where
  ids := keyed.ids.subset fun c mem => (mem_filter.mp (written ▸ mem)).1
  keys := keyed.keys.subset fun c mem => (mem_filter.mp (written ▸ mem)).1
  issued c mem := by
    have := keyed.issued c (mem_filter.mp (written ▸ mem)).1
    omega

theorem Outcome.of_written {write : Write} {backend between after : Backend}
    {test : Client → Bool} {change : Client → Client} (sound : Sound random backend)
    (hit : denoted random r.id name backend.store = some row)
    (ok : write.accepts row = true) (looked : Looked random r name backend between)
    (picks : ∀ client ∈ backend.store.clients, test client = true → client = row)
    (keeps : ∀ client, (change client).id = client.id ∧
      (change client).realmId = client.realmId ∧ (change client).clientId = client.clientId)
    (written : after.store.clients =
      backend.store.clients.map fun client => if test client then change client else client)
    (supply : backend.store.supply ≤ after.store.supply)
    (cache : after.cache = Cache.drop between.cache (row.realmId, row.clientId)) :
    Outcome random r name write backend after := by
  have keepsAll (client : Client) : (if test client then change client else client).id = client.id ∧
        (if test client then change client else client).realmId = client.realmId ∧
        (if test client then change client else client).clientId = client.clientId := by
    split
    · exact keeps client
    · exact ⟨rfl, rfl, rfl⟩
  have os : ∀ client ∈ backend.store.clients, client ≠ row →
      (if test client then change client else client) = client := by
    intro client mem notRow
    exact if_neg fun picked => notRow (picks client mem picked)
  refine .wrote row between hit ok looked (.of_map keepsAll written os) ?_
    (sound.keyed.map keepsAll written supply) cache
  intro other mem notRow
  rw [written]
  exact mem_map.mpr ⟨other, mem, os other mem notRow⟩

theorem Looked.refl {backend : Backend} (sound : Sound random backend) :
    Looked random r name backend backend :=
  ⟨rfl, sound.coherent, fun _ => .inl⟩

theorem hasKey_picks (keyed : Keyed store) (hit : denoted random r.id name store = some row) :
    ∀ c ∈ store.clients, hasKey r row.clientId c = true → c = row := by
  intro c mem picked
  obtain ⟨isRow, isRealm, _⟩ := denoted_names hit
  simp only [hasKey, and_eq_true, decide_eq_true_eq] at picked
  exact keyed.keys c mem row isRow (Prod.ext (picked.1.trans isRealm) picked.2)

theorem hasKey_found (hit : denoted random r.id name store = some row) :
    hasKey r row.clientId row = true := by
  simp [hasKey, (denoted_names hit).2.1]

theorem clientsWritten_some (test : Client → Bool) (change : Int → Client → Client)
    (backend : Backend) (mem : row ∈ backend.store.clients) (picked : test row = true) :
    ∃ client, (clientsWritten test change backend).1 = some client := by
  obtain ⟨client, hit⟩ := isSome_iff_exists.mp (find?_isSome.mpr ⟨row, mem, picked⟩)
  exact ⟨change backend.store.now client, by simp [clientsWritten, hit]⟩

theorem clientUpdated_keeps (dto : UpdateClientDto) (now : Int) (c : Client) :
    (clientUpdated dto now c).id = c.id ∧ (clientUpdated dto now c).realmId = c.realmId ∧
      (clientUpdated dto now c).clientId = c.clientId := ⟨rfl, rfl, rfl⟩

theorem secretSet_keeps (hash : String) (now : Int) (c : Client) :
    (secretSet hash now c).id = c.id ∧ (secretSet hash now c).realmId = c.realmId ∧
      (secretSet hash now c).clientId = c.clientId := ⟨rfl, rfl, rfl⟩

section

variable {backend : Backend}

theorem update_outcome (sound : Sound random backend) (dto : UpdateClientDto) :
    (Clients.update random r name dto).Ensures (Outcome random r name (.update dto) backend)
      (fun _ => Outcome random r name (.update dto) backend) backend := by
  refine .require_bind (.looked (.refl sound)) fun ok => ?_
  refine .bind (findByClientId_ensures sound (fun _ => .looked) ?_)
  intro row between hit looked
  have mem := (denoted_names hit).1
  rw [← looked.store] at mem
  obtain ⟨c, isWritten⟩ := clientsWritten_some _ (clientUpdated dto) between mem (hasKey_found hit)
  refine .atomic_bind ?_
  rw [show (select row).clientId = row.clientId from rfl, isWritten]
  refine .modify_bind ?_
  refine .of_written sound hit ok looked (hasKey_picks sound.keyed hit)
    (clientUpdated_keeps dto between.store.now) ?_ ?_ ?_
  · rw [← looked.store]
    rfl
  · rw [← looked.store]
    exact Nat.le_refl _
  · rw [← (denoted_names hit).2.1]
    rfl

theorem regenerateSecret_outcome (sound : Sound random backend) (d : Deps) :
    (Clients.regenerateSecret d random r name).Ensures
      (Outcome random r name .regenerateSecret backend)
      (fun _ => Outcome random r name .regenerateSecret backend) backend := by
  refine .bind (findByClientId_ensures sound (fun _ => .looked) ?_)
  intro row between hit looked
  refine .require_bind (.looked looked) fun ok => ?_
  have mem := (denoted_names hit).1
  rw [← looked.store] at mem
  have picks : ∀ c ∈ backend.store.clients, decide (c.id = (select row).id) = true → c = row := by
    intro c isClient picked
    exact sound.keyed.ids c isClient row (denoted_names hit).1 (of_decide_eq_true picked)
  obtain ⟨c, isWritten⟩ := clientsWritten_some (·.id = (select row).id)
    (secretSet (d.hashPassword (generateSecret random between).1))
    (generateSecret random between).2 mem (by simp [select])
  refine .atomic_bind (.atomic_bind ?_)
  rw [isWritten]
  refine .modify_bind ?_
  refine .of_written sound hit ok looked picks
    (secretSet_keeps (d.hashPassword (generateSecret random between).1) between.store.now)
    ?_ ?_ ?_
  · rw [← looked.store]
    rfl
  · rw [← looked.store]
    exact le_succ _
  · rw [← (denoted_names hit).2.1]
    rfl

theorem remove_outcome (sound : Sound random backend) :
    (Clients.remove random r name).Ensures (Outcome random r name .remove backend)
      (fun _ => Outcome random r name .remove backend) backend := by
  refine .bind (findByClientId_ensures sound (fun _ => .looked) ?_)
  intro row between hit looked
  have mem := (denoted_names hit).1
  have same : (between.onStore (serviceAccountDeleted row.serviceAccountUserId)).store.clients =
      backend.store.clients ∧
      (between.onStore (serviceAccountDeleted row.serviceAccountUserId)).store.supply =
      backend.store.supply := by
    rw [← looked.store]
    cases row.serviceAccountUserId <;> exact ⟨rfl, rfl⟩
  have os : ∀ c ∈ backend.store.clients, c ≠ row → (!hasKey r row.clientId c) = true := by
    intro c isClient notRow
    rw [not_eq_true', eq_false_iff]
    exact fun picked => notRow (hasKey_picks sound.keyed hit c isClient picked)
  have deleted : (between.onStore (serviceAccountDeleted row.serviceAccountUserId)
      ).store.clients.any (hasKey r row.clientId) = true := by
    rw [same.1]
    exact any_eq_true.mpr ⟨row, mem, hasKey_found hit⟩
  refine .modify_bind (.atomic_bind ?_)
  rw [show (clientsDeleted (hasKey r (select row).clientId)
    (between.onStore (serviceAccountDeleted (select row).serviceAccountUserId))).1 = true from deleted]
  have written : (clientsDeleted (hasKey r row.clientId)
      (between.onStore (serviceAccountDeleted row.serviceAccountUserId))).2.store.clients =
      backend.store.clients.filter (!hasKey r row.clientId ·) := by
    rw [← same.1]
    rfl
  refine .wrote row between hit rfl looked (.of_filter written os) ?_
    (sound.keyed.filter written same.2.ge) ?_
  · intro other isOther notRow
    have kept : other ∈ backend.store.clients.filter (!hasKey r row.clientId ·) :=
      mem_filter.mpr ⟨isOther, os other isOther notRow⟩
    rw [← written] at kept
    exact kept
  · rw [← (denoted_names hit).2.1]
    rfl

theorem Write.outcome (sound : Sound random backend) (d : Deps)
    (change : Write) : Outcome random r name change backend
      ((change.call d random r name).run backend).2 := by
  apply Ensures.run
  cases change with
  | update dto => exact .bind (update_outcome sound dto)
  | remove => exact remove_outcome sound
  | regenerateSecret => exact .bind (regenerateSecret_outcome sound d)

end

/-- The client is not named by its UUID, and Redis has nothing under the UUID. -/
def ByClientId (random : Randomness) (name : String) (backend : Backend) (row : Client) : Prop :=
  SecondName random row backend.store →
    name ≠ random.uuid row.id ∧ backend.cache (row.realmId, random.uuid row.id) = none

namespace Outcome

variable {change : Write} {backend after : Backend}

theorem sound (out : Outcome random r name change backend after) (pre : Sound random backend)
    (proper : ∀ row ∈ denoted random r.id name backend.store, change.accepts row = true →
      ByClientId random name backend row) : Sound random after := by
  cases out with
  | looked looked =>
    refine ⟨?_, ?_⟩
    · rw [looked.store]
      exact pre.keyed
    · rw [looked.store]
      exact looked.coherent
  | wrote row between hit ok looked frames os keyed cache =>
    refine ⟨keyed, ?_⟩
    rw [cache]
    rw [← looked.store] at frames
    have coherent := looked.coherent
    rw [← looked.store] at coherent
    refine coherent_written coherent frames ?_
    intro snd
    rw [looked.store] at snd
    obtain ⟨otherName, unlisted⟩ := proper row hit ok snd
    by_contra entry
    rcases looked.entries _ entry with pre | isKey
    · exact pre unlisted
    · exact otherName (Prod.ext_iff.mp isKey).2.symm

theorem others (outcome : Outcome random r name change backend after) {other : Client}
    (mem : other ∈ backend.store.clients)
    (notNamed : denoted random r.id name backend.store ≠ some other) :
    other ∈ after.store.clients := by
  cases outcome with
  | looked looked =>
    rw [looked.store]
    exact mem
  | wrote row between hit _ _ _ others _ _ =>
    apply others other mem
    rintro rfl
    exact notNamed hit

end Outcome

/-- `create` finds nothing in its way. -/
def CreateClientDto.accepted (realm : Realm) (dto : CreateClientDto) (store : Store) : Bool :=
  !(dto.webOrigins.getD []).contains "*" && (findClient realm.id dto.clientId store).isNone &&
    !(dto.hasServiceAccount && (findUser realm.id (serviceAccountName dto.clientId) store).isSome)

structure Unwritten (backend after : Backend) : Prop where
  clients : after.store.clients = backend.store.clients
  supply : backend.store.supply ≤ after.store.supply
  cache : after.cache = backend.cache

structure Added (realm : Realm) (dto : CreateClientDto) (backend after : Backend)
    (row : Client) : Prop where
  accepted : dto.accepted realm backend.store = true
  clients : after.store.clients = row :: backend.store.clients
  fresh : backend.store.supply ≤ row.id ∧ row.id < after.store.supply
  key : row.realmId = realm.id ∧ row.clientId = dto.clientId
  cache : after.cache = backend.cache

theorem newSecret_ensures (backend : Backend) (type : ClientType)
    {post : Option String → Backend → Prop}
    (h : ∀ secret after, Unwritten backend after → after.store.users = backend.store.users →
      post secret after) : (newSecret random type).Ensures thrown post backend := by
  cases type with
  | CONFIDENTIAL => exact .atomic_bind (h _ _ ⟨rfl, le_succ _, rfl⟩ rfl)
  | PUBLIC => exact h _ _ ⟨rfl, Nat.le_refl _, rfl⟩ rfl

theorem newServiceAccount_ensures (backend : Backend) (cid : String) (wanted : Bool) {post : Option Nat → Backend → Prop} (refused : thrown backend)
    (h : ∀ account after, Unwritten backend after →
      (wanted && (findUser r.id (serviceAccountName cid) backend.store).isSome) = false →
      post account after) :
    (newServiceAccount r cid wanted).Ensures thrown post backend := by
  cases wanted with
  | false => exact h _ _ ⟨rfl, Nat.le_refl _, rfl⟩ rfl
  | true =>
    refine .atomic_bind ?_
    unfold serviceAccountCreated
    by_cases taken : (findUser r.id (serviceAccountName cid) backend.store).isSome
    · simp only [taken, if_true]
      exact refused
    · simp only [taken]
      refine h _ _ ⟨rfl, le_succ _, rfl⟩ (by simpa using taken)

theorem clientCreated_free (c : Client) {backend : Backend}
    (free : findClient c.realmId c.clientId backend.store = none) :
    ∃ row after, clientCreated c backend = (some row, after) ∧ row.id = backend.store.supply ∧
      row.realmId = c.realmId ∧ row.clientId = c.clientId ∧
      after.store.clients = row :: backend.store.clients ∧
      after.store.supply = backend.store.supply + 1 ∧ after.cache = backend.cache := by
  unfold clientCreated
  rw [free]
  exact ⟨_, _, rfl, rfl, rfl, rfl, rfl, rfl, rfl⟩

theorem create_outcome (backend : Backend) (d : Deps) (dto : CreateClientDto) :
    (Clients.create d random r dto).Ensures (Unwritten backend)
      (fun _ after => ∃ row, Added r dto backend after row) backend := by
  have same : Unwritten backend backend := ⟨rfl, Nat.le_refl _, rfl⟩
  refine .require_bind same fun plain => ?_
  refine .read_bind (.require_bind same fun free => ?_)
  refine .bind (newSecret_ensures backend dto.type ?_)
  intro secret first unwritten users
  refine .bind (newServiceAccount_ensures first dto.clientId dto.hasServiceAccount unwritten ?_)
  intro account snd unwritten' noAccount
  have clients : snd.store.clients = backend.store.clients :=
    unwritten'.clients.trans unwritten.clients
  have later : backend.store.supply ≤ snd.store.supply :=
    unwritten.supply.trans unwritten'.supply
  have unknown : findClient r.id dto.clientId snd.store = none := by
    rw [findClient, clients]
    exact Option.isNone_iff_eq_none.mp free
  have noUser : (dto.hasServiceAccount &&
      (findUser r.id (serviceAccountName dto.clientId) backend.store).isSome) = false := by
    rw [findUser, users] at noAccount
    exact noAccount
  obtain ⟨row, third, new, isId, isRealm, isClient, added, supply, cache⟩ :=
    clientCreated_free (newClient r dto (secret.map d.hashPassword) account) unknown
  refine .atomic_bind ?_
  rw [new]
  refine .modify_bind ⟨row, ?_, ?_, ⟨by omega, ?_⟩, ⟨isRealm, isClient⟩, ?_⟩
  · simp only [CreateClientDto.accepted, plain, free, noUser, Bool.not_false, Bool.and_self]
  · exact added.trans (congrArg _ clients)
  · have later : row.id < third.store.supply := by omega
    exact later
  · exact cache.trans (unwritten'.cache.trans unwritten.cache)

/-- A write to a client names it by its `client_id`, and no lookup by its UUID is in Redis; nor is
one by the name of a new client. -/
def Event.Proper (random : Randomness) (backend : Backend) : Event → Prop
  | .create realm dto => dto.accepted realm backend.store = true →
      backend.cache (realm.id, dto.clientId) = none
  | .write realm name change => ∀ row ∈ denoted random realm.id name backend.store,
      change.accepts row = true → ByClientId random name backend row
  | _ => True

def ProperRun (d : Deps) (random : Randomness) : Backend → List Event → Prop
  | _, [] => True
  | backend, event :: events =>
    event.Proper random backend ∧ ProperRun d random (backend.step d random event) events

instance (row : Client) : Decidable (SecondName random row store) :=
  inferInstanceAs (Decidable (_ ∧ _))

instance (backend : Backend) (row : Client) : Decidable (ByClientId random name backend row) :=
  inferInstanceAs (Decidable (_ → _ ∧ _ = none))

instance (backend : Backend) : (event : Event) → Decidable (event.Proper random backend)
  | .create realm dto => inferInstanceAs (Decidable (dto.accepted realm backend.store = true →
      backend.cache (realm.id, dto.clientId) = none))
  | .write realm name change => inferInstanceAs (Decidable
      (∀ row ∈ denoted random realm.id name backend.store,
        change.accepts row = true → ByClientId random name backend row))
  | .find _ _ | .expire _ | .tick _ => .isTrue trivial

instance ProperRun.decidable (d : Deps) :
    (backend : Backend) → (events : List Event) → Decidable (ProperRun d random backend events)
  | _, [] => .isTrue trivial
  | backend, event :: events =>
    have := ProperRun.decidable d (backend.step d random event) events
    inferInstanceAs (Decidable (event.Proper random backend ∧
      ProperRun d random (backend.step d random event) events))

def Event.Names (random : Randomness) (store : Store) (row : Client) : Event → Prop
  | .write realm name _ => denoted random realm.id name store = some row
  | _ => False

instance (row : Client) : (event : Event) → Decidable (event.Names random store row)
  | .write realm name _ => inferInstanceAs (Decidable (denoted random realm.id name store = some row))
  | .create _ _ | .find _ _ | .expire _ | .tick _ => .isFalse id

theorem uncached_clients (same : store'.clients = store.clients) :
    uncached random store' = uncached random store := by
  funext key
  rw [uncached, uncached, denoted, denoted, findClient, findClient, findById, findById, same]

theorem Unwritten.sound {backend after : Backend} (unwritten : Unwritten backend after)
    (sound : Sound random backend) : Sound random after where
  keyed := by
    have all : backend.store.clients = backend.store.clients.filter fun _ => true := by simp
    exact sound.keyed.filter (unwritten.clients.trans all) unwritten.supply
  coherent := by
    rw [unwritten.cache, uncached_clients unwritten.clients]
    exact sound.coherent

theorem Added.sound {dto : CreateClientDto} {backend after : Backend}
    (added : Added r dto backend after row) (distinct : Function.Injective random.uuid)
    (sound : Sound random backend) (unlisted : backend.cache (r.id, dto.clientId) = none) :
    Sound random after := by
  have unknown : findClient r.id dto.clientId backend.store = none := by
    have accepted := added.accepted
    simp only [CreateClientDto.accepted, and_eq_true, Option.isNone_iff_eq_none] at accepted
    exact accepted.1.2
  refine ⟨⟨?_, ?_, ?_⟩, ?_⟩
  · rw [added.clients]
    refine sound.keyed.ids.cons fun old mem => ?_
    have := sound.keyed.issued old mem
    have := added.fresh.1
    omega
  · rw [added.clients]
    refine sound.keyed.keys.cons fun old mem same => ?_
    obtain ⟨isRealm, isName⟩ := Prod.ext_iff.mp same
    have missing := find?_eq_none.mp unknown old mem
    simp only [and_eq_true, decide_eq_true_eq] at missing
    exact missing ⟨isRealm.trans added.key.1, isName.trans added.key.2⟩
  · rw [added.clients]
    intro c mem
    rcases mem_cons.mp mem with rfl | old
    · exact added.fresh.2
    · have := sound.keyed.issued c old
      have := added.fresh
      omega
  · rw [added.cache]
    refine sound.coherent.change fun key value e hit => ?_
    obtain ⟨other, isOther, rfl⟩ := map_eq_some_iff.mp hit
    have free : key ≠ (row.realmId, row.clientId) := by
      rintro rfl
      rw [added.key.1, added.key.2, unlisted] at e
      cases e
    rw [uncached, denoted_cons distinct sound.keyed added.clients added.fresh.1 isOther free]
    rfl

variable {d : Deps} {backend : Backend} {ev : Event}

theorem Backend.step_sound (distinct : Function.Injective random.uuid)
    (sound : Sound random backend) (proper : ev.Proper random backend) :
    Sound random (backend.step d random ev) := by
  cases ev with
  | create r dto =>
    apply Ensures.run
    refine .bind ((create_outcome backend d dto).weaken (fun _ => (·.sound sound)) ?_)
    rintro _ after ⟨row, added⟩
    exact added.sound distinct sound (proper added.accepted)
  | find r name =>
    apply Ensures.run
    have hit (after : Backend) (looked : Looked random r name backend after) :
        Sound random after := by
      refine ⟨?_, ?_⟩ <;> rw [looked.store]
      · exact sound.keyed
      · exact looked.coherent
    exact .bind (findByClientId_ensures sound hit fun _ after _ => hit after)
  | write r name change => exact (change.outcome sound d).sound sound proper
  | expire key => exact ⟨sound.keyed, sound.coherent.drop key⟩
  | tick elapsed =>
    have unwritten : Unwritten backend
        (backend.onStore fun store => { store with now := store.now + elapsed }) :=
      ⟨rfl, Nat.le_refl _, rfl⟩
    exact unwritten.sound sound

def Backend.Has (row : Client) (backend : Backend) : Prop := row ∈ backend.store.clients

theorem Backend.step_others (sound : Sound random backend) (mem : backend.Has row)
    (notNamed : ¬ ev.Names random backend.store row) :
    (backend.step d random ev).Has row := by
  cases ev with
  | create r dto =>
    apply Ensures.run
    refine .bind ((create_outcome backend d dto).weaken ?_ ?_)
    · intro after unwritten
      rw [Backend.Has, unwritten.clients]
      exact mem
    · rintro _ after ⟨new, added⟩
      have kept : row ∈ after.store.clients := by
        rw [added.clients]
        exact .tail _ mem
      exact kept
  | find r name =>
    apply Ensures.run
    have hit (after : Backend) (looked : Looked random r name backend after) :
        after.Has row := by
      rw [Backend.Has, looked.store]
      exact mem
    exact .bind (findByClientId_ensures sound hit fun _ after _ => hit after)
  | write r name change => exact (change.outcome sound d).others mem notNamed
  | expire key => exact mem
  | tick elapsed => exact mem

theorem Backend.run_sound (distinct : Function.Injective random.uuid) {evs : List Event}
    (sound : Sound random backend) (proper : ProperRun d random backend evs) :
    Sound random (backend.run d random evs) := by
  induction evs generalizing backend with
  | nil => exact sound
  | cons ev evs ih => exact ih (step_sound distinct sound proper.1) proper.2

/-- After a run of proper calls every lookup answers what the database would answer, and no call
writes to a client that it does not name. -/
theorem client_cache_coherent (distinct : Function.Injective random.uuid) {start : Backend}
    (keyed : Keyed start.store)
    (coherent : Cache.Coherent start.cache (uncached random start.store)) {evs : List Event}
    (proper : ProperRun d random start evs) :
    (∀ r name, ((findByClientId random r name).run (start.run d random evs)).1 =
        uncachedAnswer random r name (start.run d random evs).store) ∧
      ∀ ev, ∀ row ∈ (start.run d random evs).store.clients,
        ¬ ev.Names random (start.run d random evs).store row →
          row ∈ ((start.run d random evs).step d random ev).store.clients := by
  have sound := run_sound distinct ⟨keyed, coherent⟩ proper
  constructor
  · intro r name
    exact (findByClientId_spec sound.coherent).1
  · intro ev row mem notNamed
    exact step_others sound mem notNamed

def acme : Realm := { id := 0, name := "acme" }

def zeroUuid (start : List Char) (n : Nat) : List Char :=
  start ++ replicate (11 - n) '0' ++ '1' :: replicate n '0'

def zeros : Randomness where
  uuid n := String.ofList (zeroUuid "00000000-0000-0000-0000-".toList n)
  secret n := String.ofList (replicate n '0')

theorem zeroUuid_injective (start : List Char) : Function.Injective (zeroUuid start) := by
  have cnt (n : Nat) : ((zeroUuid start n).reverse.takeWhile (· = '0')).length = n := by
    have split : (zeroUuid start n).reverse =
        replicate n '0' ++ '1' :: (start ++ replicate (11 - n) '0').reverse := by
      simp [zeroUuid]
    rw [split]
    simp
  intro m n same
  rw [← cnt m, same, cnt n]

theorem zeros_distinct : Function.Injective zeros.uuid :=
  fun _ _ same => zeroUuid_injective _ (String.ofList_injective same)

def app : CreateClientDto := { clientId := "app", clientType := some .PUBLIC }

def firstUuid : String := zeros.uuid 0

/-- The client is looked up under both names, the entry of the UUID expires, and the client is
renamed. -/
def renamed : List Event :=
  [.create acme app, .find acme firstUuid, .find acme "app", .expire (0, firstUuid),
    .write acme "app" (.update { name := some (some "App") })]

theorem empty_keyed : Keyed {} where
  ids := by simp [Table.Unique]
  keys := by simp [Table.Unique]
  issued := by simp

/-- Both names of the renamed client give the new row. -/
theorem renamed_is_found : ((findByClientId zeros acme firstUuid).run
        (Backend.run .transparent zeros { store := {} } renamed)).1 =
      uncachedAnswer zeros acme firstUuid (run .transparent zeros { store := {} } renamed).store ∧
    (uncachedAnswer zeros acme firstUuid
        (run .transparent zeros { store := {} } renamed).store).toOption.bind
      ClientConfig.name = some "App" := by
  constructor
  · apply (client_cache_coherent zeros_distinct ?_ ?_ ?_).1
    · exact empty_keyed
    · exact Cache.coherent_empty _
    · decide +kernel
  · decide +kernel

def renamedUnseen : List Event :=
  [.create acme app, .find acme firstUuid, .write acme "app" (.update { name := some (some "App") })]

def remade : List Event :=
  [.create acme app, .find acme firstUuid, .write acme "app" .remove, .create acme app]

def secondRow : Client := clientRow (newClient acme app none none) { supply := 1 }

/-- The UUID gives the client under its old name, and the UUID of a client that is gone removes
the one that has taken its place. -/
theorem uuid_is_stale : ((findByClientId zeros acme firstUuid).run
        (Backend.run .transparent zeros { store := {} } renamedUnseen)).1 ≠
      uncachedAnswer zeros acme firstUuid
        (run .transparent zeros { store := {} } renamedUnseen).store ∧
    secondRow ∈ (run .transparent zeros { store := {} } remade).store.clients ∧
    ¬ Event.Names zeros (run .transparent zeros { store := {} } remade).store secondRow
      (.write acme firstUuid .remove) ∧
    secondRow ∉ ((run .transparent zeros { store := {} } remade).step .transparent zeros
      (.write acme firstUuid .remove)).store.clients := by
  refine ⟨?_, by decide +kernel, by decide +kernel, by decide +kernel⟩
  intro same
  have names := congrArg (fun ans => ans.toOption.bind ClientConfig.name) same
  revert names
  decide +kernel

end Idenplane.Clients
