import Idenplane.Cors.Origins

/-! # Origins that are gone

Requests to several instances at the same time.  When no load overtakes the removal of an origin,
no copy of the origin is made after the removal, and those that are there expire.
-/

namespace Idenplane.Cors

open Atomic Auth Admin Realms Int

variable {origins : List String}

section Removal

variable (env : Environment)

/-- No copy of the origin is left but in the instances, and those expire in time. -/
structure Gone (w : World) (origin : String × Int) : Prop where
  past : origin.2 ≤ w.now
  unlisted : origin.1 ∉ allowedOrigins env w
  redis : ∀ e, w.corsOrigins = some e → origin.1 ∉ e.origins
  instances : ∀ i e, w.localOrigins i = some e → origin.1 ∈ e.origins →
    e.expiry ≤ origin.2 + LOCAL_TTL_MS
  loading : ∀ j origins, w.loading j = some origins → origin.1 ∉ origins

structure Consistent (w : World) : Prop where
  instances : ∀ i e, w.localOrigins i = some e → e.expiry ≤ w.now + LOCAL_TTL_MS
  taken : ∀ j, ∀ origin ∈ w.taken j, origin ∉ allowedOrigins env w
  gone : ∀ origin ∈ w.gone, Gone env w origin

/-- What the others do while request `j` runs. -/
structure Elsewhere (j : Nat) (w w' : World) : Prop where
  later : w.now ≤ w'.now
  gone : ∀ origin ∈ w'.gone, origin ∈ w.gone ∨ w.now ≤ origin.2
  loading : w'.loading j = w.loading j
  taken : ∀ origin ∈ w'.taken j, origin ∈ w.taken j

theorem Elsewhere.refl (j : Nat) (w : World) : Elsewhere j w w :=
  ⟨le_refl _, fun _ => .inl, rfl, fun _ => id⟩

theorem Elsewhere.trans {j : Nat} {first snd third : World} (pre : Elsewhere j first snd)
    (after : Elsewhere j snd third) : Elsewhere j first third where
  later := pre.later.trans after.later
  gone o isGone := by
    rcases after.gone o isGone with old | new
    · exact pre.gone o old
    · exact .inr (pre.later.trans new)
  loading := after.loading.trans pre.loading
  taken o isTaken := pre.taken o (after.taken o isTaken)

def protocol : Protocol Nat World where
  inv := Consistent env
  rely := Elsewhere
  refl := Elsewhere.refl
  trans _ := Elsewhere.trans

/-- A request is through with its removals only when neither Redis nor an unfinished load has the
origins any more. -/
def Timely (w w' : World) : Prop :=
  ∀ origin ∈ w'.gone, origin ∉ w.gone → (∀ e, w'.corsOrigins = some e → origin.1 ∉ e.origins) ∧
      ∀ j origins, w'.loading j = some origins → origin.1 ∉ origins

variable {env} {w w' : World} {j : Nat}

theorem write_consistent (consistent : Consistent env w) (j : Nat)
    (tables : Transfer.World) : Consistent env (w.write env j tables) where
  instances := consistent.instances
  taken k o isTaken := by
    have unlisted : o ∉ allowedOrigins env { w with tables := tables } := by
      simpa using (mem_filter.mp isTaken).2
    exact unlisted
  gone o isGone := by
    obtain ⟨isGone, isUnlisted⟩ := mem_filter.mp isGone
    have unlisted : o.1 ∉ allowedOrigins env { w with tables := tables } := by
      simpa using isUnlisted
    have before := consistent.gone o isGone
    exact ⟨before.past, unlisted, before.redis, before.instances, before.loading⟩

theorem write_elsewhere (tables : Transfer.World) {k : Nat} (other : k ≠ j) :
    Elsewhere k w (w.write env j tables) where
  later := le_refl _
  gone origin isGone := .inl (mem_filter.mp isGone).1
  loading := rfl
  taken origin isTaken := by
    have kept := (mem_filter.mp isTaken).1
    simpa [other] using kept

theorem clientsPart_replaced (be : Clients.Backend) (consistent : Consistent env w) :
    Consistent env ((clientsPart env j).put be w) ∧
      ∀ k, k ≠ j → Elsewhere k w ((clientsPart env j).put be w) := by
  have written := write_consistent consistent j { w.tables with
    db := { w.tables.db with clients := be.store.clients } }
  refine ⟨⟨written.instances, written.taken, fun o isGone => ?_⟩, fun k other => ?_⟩
  · have gone := written.gone o isGone
    exact ⟨gone.past, gone.unlisted, gone.redis, gone.instances, gone.loading⟩
  · have moved : Elsewhere k w (w.write env j { w.tables with
      db := { w.tables.db with clients := be.store.clients } }) := write_elsewhere _ other
    exact ⟨moved.later, moved.gone, moved.loading, moved.taken⟩

theorem transferPart_replaced (tables : Transfer.World) (consistent : Consistent env w) :
    Consistent env ((transferPart env j).put tables w) ∧
      ∀ k, k ≠ j → Elsewhere k w ((transferPart env j).put tables w) :=
  ⟨write_consistent consistent j tables, fun _ other => write_elsewhere tables other⟩

theorem realmsPart_replaced (state : State) (consistent : Consistent env w) :
    Consistent env (realmsPart.put state w) ∧ ∀ k, Elsewhere k w (realmsPart.put state w) := by
  refine ⟨⟨consistent.instances, consistent.taken, fun o isGone => ?_⟩, fun k => ?_⟩
  · have gone := consistent.gone o isGone
    exact ⟨gone.past, gone.unlisted, gone.redis, gone.instances, gone.loading⟩
  · exact ⟨le_refl _, fun _ => .inl, rfl, fun _ => id⟩

theorem settled_consistent (consistent : Consistent env w) (timely : Timely w (settled j w)) :
    Consistent env (settled j w) where
  instances := consistent.instances
  taken k o isTaken := by
    by_cases own : k = j
    · subst own
      simp [settled] at isTaken
    · have isTaken : o ∈ w.taken k := by simpa [settled, own] using isTaken
      exact consistent.taken k o isTaken
  gone o isGone := by
    rcases mem_append.mp isGone with new | old
    · obtain ⟨name, isTaken, rfl⟩ := mem_map.mp new
      by_cases known : (name, w.now) ∈ w.gone
      · have gone := consistent.gone _ known
        exact ⟨gone.past, gone.unlisted, gone.redis, gone.instances, gone.loading⟩
      · obtain ⟨redis, loading⟩ := timely _ isGone known
        exact ⟨le_refl _, consistent.taken j name isTaken, redis,
          fun i e held _ => consistent.instances i e held, loading⟩
    · have gone := consistent.gone o old
      exact ⟨gone.past, gone.unlisted, gone.redis, gone.instances, gone.loading⟩

theorem settled_elsewhere {k : Nat} (other : k ≠ j) : Elsewhere k w (settled j w) where
  later := le_refl _
  gone origin isGone := by
    rcases mem_append.mp isGone with new | old
    · obtain ⟨name, _, rfl⟩ := mem_map.mp new
      exact .inr (le_refl _)
    · exact .inl old
  loading := rfl
  taken origin isTaken := by simpa [settled, other] using isTaken

section

variable (consistent : Consistent env w)

include consistent

theorem redis_dropped : Consistent env { w with corsOrigins := none } where
  instances := consistent.instances
  taken := consistent.taken
  gone origin isGone := by
    have gone := consistent.gone origin isGone
    exact ⟨gone.past, gone.unlisted, (fun _ none_ => nomatch none_), gone.instances, gone.loading⟩

theorem local_dropped (i : Nat) : Consistent env
      { w with localOrigins := update w.localOrigins i none } := by
  have held {k : Nat} {entry : Entry} (isHeld : update w.localOrigins i none k = some entry) :
      w.localOrigins k = some entry := by
    by_cases same : k = i
    · subst same
      simp at isHeld
    · rwa [update_of_ne same] at isHeld
  refine ⟨fun k entry isHeld => consistent.instances k entry (held isHeld), consistent.taken,
    fun o isGone => ?_⟩
  have gone := consistent.gone o isGone
  exact ⟨gone.past, gone.unlisted, gone.redis,
    fun k entry isHeld => gone.instances k entry (held isHeld), gone.loading⟩

theorem clientsRead_kept : Consistent env (clientsRead env j w).2 ∧
      ∀ k, k ≠ j → Elsewhere k w (clientsRead env j w).2 := by
  refine ⟨⟨consistent.instances, consistent.taken, fun o isGone => ?_⟩, fun k other => ?_⟩
  · have gone := consistent.gone o isGone
    refine ⟨gone.past, gone.unlisted, gone.redis, gone.instances, fun k origins isLoading => ?_⟩
    have isLoading : update w.loading j (some (allowedOrigins env w)) k =
      some origins := isLoading
    by_cases own : k = j
    · subst own
      rw [update_self] at isLoading
      cases isLoading
      exact gone.unlisted
    · rw [update_of_ne own] at isLoading
      exact gone.loading k origins isLoading
  · exact ⟨le_refl _, fun _ => .inl, update_of_ne other _ _, fun _ => id⟩

theorem cacheCorsOrigins_kept
    (isLoading : w.loading j = some origins) : Consistent env (cacheCorsOrigins origins w) ∧
      ∀ k, Elsewhere k w (cacheCorsOrigins origins w) := by
  refine ⟨⟨consistent.instances, consistent.taken, fun o isGone => ?_⟩, fun k => ?_⟩
  · have gone := consistent.gone o isGone
    refine ⟨gone.past, gone.unlisted, fun e row => ?_, gone.instances, gone.loading⟩
    cases row
    exact gone.loading j origins isLoading
  · exact ⟨le_refl _, fun _ => .inl, rfl, fun _ => id⟩

theorem localOriginsSet_kept (i : Nat) {since : Int} (past : since ≤ w.now)
    (fresh : ∀ o ∈ w.gone, o.1 ∈ origins → since ≤ o.2) :
    Consistent env (localOriginsSet i origins (since + LOCAL_TTL_MS) w) ∧
      ∀ k, Elsewhere k w (localOriginsSet i origins (since + LOCAL_TTL_MS) w) := by
  have held {k : Nat} {entry : Entry}
      (isHeld : update w.localOrigins i (some ⟨origins, since + LOCAL_TTL_MS⟩) k =
        some entry) : entry = ⟨origins, since + LOCAL_TTL_MS⟩ ∨ w.localOrigins k = some entry := by
    by_cases same : k = i
    · subst same
      rw [update_self] at isHeld
      exact .inl (some.inj isHeld).symm
    · rw [update_of_ne same] at isHeld
      exact .inr isHeld
  refine ⟨⟨fun k entry isHeld => ?_, consistent.taken, fun o isGone => ?_⟩, fun k => ?_⟩
  · rcases held isHeld with rfl | old
    · exact Int.add_le_add_right past _
    · exact consistent.instances k entry old
  · have gone := consistent.gone o isGone
    refine ⟨gone.past, gone.unlisted, gone.redis, fun k entry isHeld isCopy => ?_, gone.loading⟩
    rcases held isHeld with rfl | old
    · exact Int.add_le_add_right (fresh o isGone isCopy) _
    · exact gone.instances k entry old isCopy
  · exact ⟨le_refl _, fun _ => .inl, rfl, fun _ => id⟩

theorem loaded_kept (i : Nat)
    (isLoading : w.loading j = some origins) : Consistent env (loaded j i origins w) ∧
      ∀ k, k ≠ j → Elsewhere k w (loaded j i origins w) := by
  have none_ (o : String × Int) (isGone : o ∈ w.gone) (isCopy : o.1 ∈ origins) : w.now ≤ o.2 :=
    absurd isCopy ((consistent.gone o isGone).loading j origins isLoading)
  obtain ⟨kept, moved⟩ := localOriginsSet_kept consistent i (le_refl _) none_
  refine ⟨⟨kept.instances, kept.taken, fun o isGone => ?_⟩, fun k other => ?_⟩
  · have gone := kept.gone o isGone
    refine ⟨gone.past, gone.unlisted, gone.redis, gone.instances, fun k others isLoading' => ?_⟩
    have isLoading' : update w.loading j none k = some others := isLoading'
    by_cases own : k = j
    · subst own
      rw [update_self] at isLoading'
      cases isLoading'
    · rw [update_of_ne own] at isLoading'
      exact gone.loading k others isLoading'
  · exact ⟨(moved k).later, (moved k).gone, update_of_ne other _ _, (moved k).taken⟩

end

/-- What request `j`, asked at this time, knows about a list of origins. -/
structure Recent (asked : Int) (origins : List String) (w : World) : Prop where
  past : asked ≤ w.now
  gone : ∀ origin ∈ w.gone, origin.1 ∈ origins → asked < origin.2 + LOCAL_TTL_MS

variable {asked : Int}

theorem Recent.stable (recent : Recent asked origins w)
    (moved : Elsewhere j w w') : Recent asked origins w' where
  past := recent.past.trans moved.later
  gone origin isGone isCopy := by
    rcases moved.gone origin isGone with old | new
    · exact recent.gone origin old isCopy
    · exact lt_of_le_of_lt (recent.past.trans new) (by simp [LOCAL_TTL_MS])

structure Fresh (since : Int) (origins : List String) (w : World) : Prop where
  past : since ≤ w.now
  gone : ∀ origin ∈ w.gone, origin.1 ∈ origins → since ≤ origin.2

theorem Fresh.stable {since : Int} (fresh : Fresh since origins w)
    (moved : Elsewhere j w w') : Fresh since origins w' where
  past := fresh.past.trans moved.later
  gone origin isGone isCopy := by
    rcases moved.gone origin isGone with old | new
    · exact fresh.gone origin old isCopy
    · exact fresh.past.trans new

theorem Fresh.recent {since asked : Int} (fresh : Fresh since origins w)
    (pre : asked ≤ since) : Recent asked origins w where
  past := pre.trans fresh.past
  gone o isGone isCopy :=
    lt_of_le_of_lt (pre.trans (fresh.gone o isGone isCopy)) (by simp [LOCAL_TTL_MS])

theorem loadFromDatabase_sat (i : Nat) (past : asked ≤ w.now) :
    (loadFromDatabase env j i).Sat (protocol env) Timely j (onOk (Recent asked)) w := by
  refine .atomic_bind fun read moved consistent _ => ?_
  refine ⟨(clientsRead_kept consistent).1, (clientsRead_kept consistent).2, ?_⟩
  have isLoading : (clientsRead env j read).2.loading j = some (allowedOrigins env read) :=
    update_self ..
  refine .modify_bind fun row moved' consistent' _ => ?_
  have isLoading' := moved'.loading.trans isLoading
  obtain ⟨kept', others'⟩ := cacheCorsOrigins_kept consistent' isLoading'
  refine ⟨kept', fun k _ => others' k, ?_⟩
  refine .modify_bind fun last moved'' consistent'' _ => ?_
  have isLoading'' := moved''.loading.trans isLoading'
  obtain ⟨kept'', others''⟩ := loaded_kept consistent'' i isLoading''
  refine ⟨kept'', others'', .done fun after rest _ => ?_⟩
  have recent : Recent asked (allowedOrigins env read) (loaded j i (allowedOrigins env read) last) := by
    refine ⟨?_, fun o isGone isCopy => ?_⟩
    · exact past.trans (moved.later.trans (moved'.later.trans moved''.later))
    · exact absurd isCopy ((consistent''.gone o isGone).loading j _ isLoading'')
  exact recent.stable rest

theorem mem_live {e : Option Entry} {now : Int} (isLive : live e now = some origins) :
    ∃ held, e = some held ∧ held.origins = origins ∧ now < held.expiry := by
  obtain ⟨held, isHeld, isOrigins⟩ := map_eq_some_iff.mp isLive
  obtain ⟨isEntry, inTime⟩ := filter_eq_some_iff.mp isHeld
  exact ⟨held, isEntry, isOrigins, by simpa using inTime⟩

theorem getAllowedOrigins_sat (i : Nat) (past : asked ≤ w.now) :
    (getAllowedOrigins env j i).Sat (protocol env) Timely j (onOk (Recent asked)) w := by
  refine .read_bind fun first moved consistent => ?_
  have asked_le : asked ≤ first.now := past.trans moved.later
  cases hit : live (first.localOrigins i) first.now with
  | some origins =>
    obtain ⟨e, isHeld, rfl, inTime⟩ := mem_live hit
    have recent : Recent asked e.origins first :=
      ⟨asked_le, fun o isGone isCopy => lt_of_lt_of_le (lt_of_le_of_lt asked_le inTime)
        ((consistent.gone o isGone).instances i e isHeld isCopy)⟩
    exact .done fun after rest _ => recent.stable rest
  | none =>
    refine .read_bind fun second moved' consistent' => ?_
    cases cached : live second.corsOrigins second.now with
    | some origins =>
      obtain ⟨e, isStored, rfl, _⟩ := mem_live cached
      have fresh : Fresh first.now e.origins second :=
        ⟨moved'.later, fun o isGone isCopy =>
          absurd isCopy ((consistent'.gone o isGone).redis e isStored)⟩
      refine .modify_bind fun third moved'' consistent'' _ => ?_
      have fresh' := fresh.stable moved''
      obtain ⟨kept, os⟩ := localOriginsSet_kept consistent'' i fresh'.past fresh'.gone
      refine ⟨kept, fun k _ => os k, .done fun after rest _ => ?_⟩
      exact (fresh'.recent asked_le).stable ((os j).trans rest)
    | none => exact loadFromDatabase_sat i (asked_le.trans moved'.later)

theorem Elsewhere.taken_nil (moved : Elsewhere j w w') (isNone : w.taken j = []) :
    w'.taken j = [] :=
  List.eq_nil_iff_forall_not_mem.mpr fun o isTaken =>
    absurd (moved.taken o isTaken) (by simp [isNone])

theorem invalidate_sat (i : Nat) (w : World) :
    (invalidate j i).Sat (protocol env) Timely j (onOk fun _ after => after.taken j = []) w := by
  refine .modify_bind fun first _ consistent timely => ?_
  have dropped := redis_dropped consistent
  have timely' : Timely { first with corsOrigins := none } (settled j { first with corsOrigins := none }) :=
    timely
  have isNone : (settled j { first with corsOrigins := none }).taken j = [] := update_self ..
  refine ⟨settled_consistent dropped timely', fun k other => ?_, ?_⟩
  · have moved : Elsewhere k { first with corsOrigins := none } _ := settled_elsewhere other
    exact ⟨moved.later, moved.gone, moved.loading, moved.taken⟩
  · intro snd moved consistent' _
    refine ⟨local_dropped consistent' i, fun k _ => ⟨le_refl _, fun _ => .inl, rfl, fun _ => id⟩, ?_⟩
    intro after rest _
    have isNone' : snd.taken j = [] := moved.taken_nil isNone
    exact rest.taken_nil isNone'

theorem settled_sat (w : World) : (modify (settled j) : Call Unit).Sat (protocol env) Timely j
      (onOk fun _ after => after.taken j = []) w := by
  intro first _ consistent timely
  refine ⟨settled_consistent consistent timely, fun k other => settled_elsewhere other, ?_⟩
  exact fun after rest _ => rest.taken_nil (update_self ..)

def Promise (req : Request) (j : Nat) (answer : Answer) (w : World) : Prop :=
  match req, answer with
  | .isOriginAllowed origin, .decided asked allowed =>
    allowed = true → ∀ time, (origin, time) ∈ w.gone → asked < time + LOCAL_TTL_MS
  | .isOriginAllowed _, .other => False
  | .updateRealm .., _ => True
  | _, _ => w.taken j = []

theorem isOriginAllowed_sat (i : Nat) (o : String) (past : asked ≤ w.now) :
    (isOriginAllowed env j i o).Sat (protocol env) Timely j (onOk fun allowed after =>
        ∃ origins, Recent asked origins after ∧ allowed = origins.contains o) w := by
  refine .ok_bind (getAllowedOrigins_sat i past) (fun origins after recent => ?_) fun _ _ => trivial
  exact .done fun last moved _ => ⟨origins, recent.stable moved, rfl⟩

variable {α : Type}

theorem clientWrite_sat (i : Nat) (write : Clients.Call α) (w : World) :
    (write.onPart (clientsPart env j) >>= fun res => invalidate j i >>= fun _ =>
        (pure res : Call α)).Sat (protocol env) Timely j
      (onOk fun _ after => after.taken j = []) w := by
  have written : (write.onPart (clientsPart env j)).Sat (protocol env) Timely j
      (onOk fun _ _ => True) w :=
    .onPart (fun be _ => clientsPart_replaced be) (fun res _ _ => by cases res <;> trivial) w
  refine .ok_bind written (fun res after _ => ?_) fun _ _ => trivial
  refine .ok_bind (invalidate_sat i after) (fun _ last isNone => ?_) fun _ _ => trivial
  exact .done fun _ moved _ => moved.taken_nil isNone

theorem realms_sat (p : Realms.Call α) (w : World) :
    (p.onPart realmsPart).Sat (protocol env) Timely j (onOk fun _ _ => True) w :=
  .onPart (fun state _ consistent =>
      ⟨(realmsPart_replaced state consistent).1, fun k _ => (realmsPart_replaced state consistent).2 k⟩)
    (fun res _ _ => by cases res <;> trivial) w

theorem removeRealm_sat (name : String) (w : World) :
    (removeRealm env j name).Sat (protocol env) Timely j
      (onOk fun _ after => after.taken j = []) w := by
  refine .ok_bind (realms_sat _ w) (fun old after _ => ?_) fun _ _ => trivial
  refine .ok_bind (realms_sat _ after) (fun _ after _ => ?_) fun _ _ => trivial
  refine .atomic_bind fun here _ consistent _ => ?_
  have kept : Consistent env (realmDeleted env j name here).2 ∧
      ∀ k, k ≠ j → Elsewhere k here (realmDeleted env j name here).2 := by
    unfold realmDeleted
    cases here.tables.db.realms.find? (·.name = name) with
    | none => exact ⟨consistent, fun k _ => .refl k here⟩
    | some r => exact transferPart_replaced _ consistent
  refine ⟨kept.1, kept.2, .orFail_bind (fun r _ => ?_) fun _ _ _ _ => trivial⟩
  refine .ok_bind (settled_sat _) (fun _ last isNone => ?_) fun _ _ => trivial
  exact .done fun _ moved _ => moved.taken_nil isNone

theorem importRealm_sat (throws : Transfer.Throws) (doc : Transfer.Document)
    (overwrite : Bool) (w : World) :
    (importRealm env j throws doc overwrite).Sat (protocol env) Timely j
      (onOk fun _ after => after.taken j = []) w := by
  have written : ((Transfer.importRealm throws doc overwrite).onPart
      (transferPart env j)).Sat (protocol env) Timely j (onOk fun _ _ => True) w :=
    .onPart (fun tables _ => transferPart_replaced tables) (fun res _ _ => by cases res <;> trivial) w
  refine .ok_bind written (fun summary after _ => ?_) fun _ _ => trivial
  refine .ok_bind (settled_sat after) (fun _ last isNone => ?_) fun _ _ => trivial
  exact .done fun _ moved _ => moved.taken_nil isNone

theorem other_sat {call : Call α}
    (sat : call.Sat (protocol env) Timely j (onOk fun _ after => after.taken j = []) w) :
    (call >>= fun _ => (pure .other : Call Answer)).Sat (protocol env) Timely j
      (onOk fun _ after => after.taken j = []) w :=
  .ok_bind sat (fun _ _ isNone => .done fun _ moved _ => moved.taken_nil isNone) fun _ _ => trivial

theorem serve_sat (i : Nat) (req : Request) (w : World) :
    (serve env j i req).Sat (protocol env) Timely j (onOk (Promise req j)) w := by
  cases req with
  | isOriginAllowed o =>
    refine .read_bind fun first _ _ => ?_
    refine .ok_bind (isOriginAllowed_sat i o (le_refl _))
      (fun allowed after known => ?_) fun _ _ => trivial
    obtain ⟨origins, recent, rfl⟩ := known
    refine .done fun last moved _ isAllowed time isGone => ?_
    exact (recent.stable moved).gone (o, time) isGone (by simpa using isAllowed)
  | createClient d rnd r dto => exact other_sat (clientWrite_sat i _ w)
  | updateClient rnd r name dto => exact other_sat (clientWrite_sat i _ w)
  | removeClient rnd r name => exact other_sat (clientWrite_sat i _ w)
  | updateRealm d avail name dto =>
    have updated : (updateRealm d avail name dto).Sat (protocol env) Timely j
        (onOk fun _ _ => True) w :=
      .ok_bind (realms_sat _ w) (fun _ _ _ => .done fun _ _ _ => trivial) fun _ _ => trivial
    exact .ok_bind updated (fun _ _ _ => .done fun _ _ _ => trivial) fun _ _ => trivial
  | removeRealm name => exact other_sat (removeRealm_sat name w)
  | importRealm throws doc overwrite => exact other_sat (importRealm_sat throws doc overwrite w)

def Passes (w w' : World) : Prop :=
  ∃ later, w.now ≤ later ∧ w' = { w with now := later }

theorem passes_kept (consistent : Consistent env w) (passes : Passes w w') :
    Consistent env w' ∧ ∀ j, Elsewhere j w w' := by
  obtain ⟨later, isLater, rfl⟩ := passes
  refine ⟨⟨fun i e held => ?_, consistent.taken, fun o isGone => ?_⟩, fun j => ?_⟩
  · exact (consistent.instances i e held).trans (Int.add_le_add_right isLater _)
  · have gone := consistent.gone o isGone
    exact ⟨gone.past.trans isLater, gone.unlisted, gone.redis, gone.instances, gone.loading⟩
  · exact ⟨isLater, fun _ => .inl, rfl, fun _ => id⟩

/-- Any requests to any instances, one after the other or at the same time. -/
def requestPool (env : Environment) (instances : Nat → Nat) (requests : Nat → Request)
    (w : World) : Pool Nat World Failure Answer :=
  ⟨w, fun j => serve env j (instances j) (requests j)⟩

/-- In a run in which no load overtakes a removal, every request keeps its promise. -/
theorem promises_kept (instances : Nat → Nat) (reqs : Nat → Request) (w : World)
    (consistent : Consistent env w) {after : Pool Nat World Failure Answer}
    (reached : Pool.Reaches Passes Timely (requestPool env instances reqs w) after)
    {ans : Answer} (fin : after.procs j = .done ans) :
    Promise (reqs j) j ans after.state := by
  have start : (protocol env).inv (requestPool env instances reqs w).state := consistent
  have threads (j : Nat) : ((requestPool env instances reqs w).procs j).Sat (protocol env)
      Timely j (onOk (Promise (reqs j) j)) w := serve_sat (instances j) (reqs j) w
  have passing (here there : World) (inv : (protocol env).inv here) (passes : Passes here there) :
      (protocol env).inv there ∧ ∀ j, (protocol env).rely j here there := passes_kept inv passes
  exact Pool.sound_done start threads passing reached fin

end Removal

end Idenplane.Cors
