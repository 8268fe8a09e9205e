import Idenplane.Lib.Table
import Idenplane.MagicLink.Service

/-! # Magic links, used side by side

Requests, validations and clean-ups of any number of users run side by side, one database call at
a time.  The history says who cancelled, created and accepted which link, and when.

Nothing stops two validations of one link between their reads and their updates, and nothing stops
two requests between the cancellation and the creation.  `Undisturbed` runs are those in which
this does not happen: there a pending link is the newest of its user, so that a link is accepted
once, in time, and before the next one is created.
-/

namespace Idenplane.MagicLink

open Atomic Pool List

variable {uid i : Nat} {event : MagicLinkEvent} {checkedAt : Int}

inductive Call where
  | request (args : RequestArgs)
  | validate (rawToken : Nat) (realmName : Option String)
  | cleanup

inductive Reply where
  | requested (res : MagicLinkRequestResult)
  | validated (res : MagicLinkValidateResult)
  | cleaned (count : Nat)

def handle (d : Deps) (i : Nat) : Call → Op Reply
  | .request args => do
    let res ← requestMagicLink d i args
    pure (.requested res)
  | .validate rawToken realmName => do
    let res ← validateMagicLink i rawToken realmName
    pure (.validated res)
  | .cleanup => do
    let count ← cleanupExpiredRequests
    pure (.cleaned count)

def pool (d : Deps) (calls : Nat → Call) (s : Store) : Pool Nat Store Failure Reply :=
  ⟨s, fun i => handle d i (calls i)⟩

/-- What the rest of the server does: it may delete links, with their user or their realm, and
change whatever is not a link. -/
structure Env (s s' : Store) : Prop where
  supply : s.supply ≤ s'.supply
  rows : ∀ row ∈ s'.magicLinkRequests, row ∈ s.magicLinkRequests
  log : s'.magicLinkLog = s.magicLinkLog

def requestOf : MagicLinkEvent → Nat
  | .cancelled request _ _ => request
  | .created request _ => request
  | .accepted request _ _ _ => request

def issued (userId realmId : Nat) : MagicLinkEvent → Option MagicLinkRequest
  | .created _ link => if link.userId = userId ∧ link.realmId = realmId then some link else none
  | _ => none

def newestLink (userId realmId : Nat) (log : List MagicLinkEvent) : Option MagicLinkRequest :=
  log.findSome? (issued userId realmId)

/-- The event is not a race.  When a link is created, no other was created for the user since the
pending ones were cancelled.  When a link is accepted, its status is what the validation has read,
and it has not expired since the validation looked at the clock. -/
def Unraced (s : Store) : MagicLinkEvent → Prop
  | .cancelled _ _ _ => True
  | .created request link =>
    ∀ event ∈ s.magicLinkLog.takeWhile (· ≠ .cancelled request link.userId link.realmId),
      issued link.userId link.realmId event = none
  | .accepted _ link checkedAt _ =>
    (∀ row ∈ s.magicLinkRequests, row.id = link.id → row.status = link.status) ∧
      (checkedAt ≤ link.expiresAt → s.now ≤ link.expiresAt)

instance (s : Store) (event : MagicLinkEvent) : Decidable (Unraced s event) :=
  match event with
  | .cancelled _ _ _ => .isTrue trivial
  | .created request link =>
    inferInstanceAs (Decidable (∀ event ∈ s.magicLinkLog.takeWhile
      (· ≠ .cancelled request link.userId link.realmId),
      issued link.userId link.realmId event = none))
  | .accepted _ link checkedAt _ =>
    inferInstanceAs (Decidable ((∀ row ∈ s.magicLinkRequests, row.id = link.id →
      row.status = link.status) ∧ (checkedAt ≤ link.expiresAt → s.now ≤ link.expiresAt)))

/-- The step does not race with an earlier one. -/
def Undisturbed (s s' : Store) : Prop :=
  ∀ event ∈ s'.magicLinkLog.head?, s'.magicLinkLog.tail = s.magicLinkLog → Unraced s event

instance : DecidableRel Undisturbed := fun s s' =>
  inferInstanceAs (Decidable (∀ event ∈ s'.magicLinkLog.head?,
    s'.magicLinkLog.tail = s.magicLinkLog → Unraced s event))

def Accepts (calls : Nat → Call) (c : Pool Nat Store Failure Reply) (i token : Nat) : Prop :=
  ∃ realmName res, calls i = .validate token realmName ∧
    c.procs i = .done (.validated res) ∧ res.valid = true

structure SingleUse (calls : Nat → Call) (c : Pool Nat Store Failure Reply) : Prop where
  /-- At most one call accepts a token. -/
  once : ∀ i j token, Accepts calls c i token → Accepts calls c j token → i = j
  /-- The link was accepted before its expiry, when it was the newest link of its user in its
  realm. -/
  current : ∀ i token, Accepts calls c i token → ∃ later link checkedAt at_ earlier,
    c.state.magicLinkLog = later ++ .accepted i link checkedAt at_ :: earlier ∧
    link.tokenHash = sha256 token ∧ at_ ≤ link.expiresAt ∧
    newestLink link.userId link.realmId earlier = some link

def Current (log : List MagicLinkEvent) : Prop :=
  ∀ later i link checkedAt at_ earlier, log = later ++ .accepted i link checkedAt at_ :: earlier →
    at_ ≤ link.expiresAt ∧ newestLink link.userId link.realmId earlier = some link

structure Inv (s : Store) : Prop where
  ids : Table.Unique (·.id) s.magicLinkRequests
  tokens : Table.Unique (·.tokenHash) s.magicLinkRequests
  drawn : ∀ row ∈ s.magicLinkRequests, row.id < s.supply ∧ row.tokenHash.preimage < s.supply
  /-- A pending link is the newest of its user. -/
  newest : ∀ row ∈ s.magicLinkRequests, row.status = .PENDING →
    newestLink row.userId row.realmId s.magicLinkLog = some row
  /-- An accepted link is not pending. -/
  spent : ∀ i link checkedAt at_, .accepted i link checkedAt at_ ∈ s.magicLinkLog →
    link.tokenHash.preimage < s.supply ∧
      ∀ row ∈ s.magicLinkRequests, row.tokenHash = link.tokenHash → row.status ≠ .PENDING
  once : ∀ i j link link' checkedAt checkedAt' at_ at_',
    .accepted i link checkedAt at_ ∈ s.magicLinkLog →
    .accepted j link' checkedAt' at_' ∈ s.magicLinkLog → link.tokenHash = link'.tokenHash → i = j
  current : Current s.magicLinkLog

/-- What the call `i` sees of the others.  They note what they do under their own names, and a link
that is pending was so before or has been created since. -/
structure Later (i : Nat) (s s' : Store) : Prop where
  supply : s.supply ≤ s'.supply
  history : ∃ new, s'.magicLinkLog = new ++ s.magicLinkLog ∧ (∀ event ∈ new, requestOf event ≠ i) ∧
    ∀ row ∈ s'.magicLinkRequests, row.status = .PENDING →
      row ∈ s.magicLinkRequests ∨ s.supply ≤ row.id ∧ ∃ j, .created j row ∈ new

theorem Later.refl (i : Nat) (s : Store) : Later i s s :=
  ⟨le_rfl, [], rfl, by simp, fun _ mem _ => .inl mem⟩

theorem Later.trans (i : Nat) {a b c : Store} (ab : Later i a b) (bc : Later i b c) :
    Later i a c := by
  obtain ⟨new, isNew, byOthers, rows⟩ := ab.history
  obtain ⟨new', isNew', byOthers', rows'⟩ := bc.history
  refine ⟨ab.supply.trans bc.supply, new' ++ new, by rw [isNew', isNew, append_assoc], ?_, ?_⟩
  · intro event mem
    rcases mem_append.mp mem with mem | mem
    · exact byOthers' event mem
    · exact byOthers event mem
  · intro row mem pend
    rcases rows' row mem pend with pre | ⟨fresh, j, created⟩
    · rcases rows row pre pend with pre | ⟨fresh, j, created⟩
      · exact .inl pre
      · exact .inr ⟨fresh, j, mem_append_right _ created⟩
    · exact .inr ⟨ab.supply.trans fresh, j, mem_append_left _ created⟩

def protocol : Protocol Nat Store where
  inv := Inv
  rely := Later
  refl := Later.refl
  trans := Later.trans

variable {link : MagicLinkRequest}

theorem newestLink_of_issued {uid rid : Nat} (log : List MagicLinkEvent)
    (isIssued : issued uid rid event = some link) :
    newestLink uid rid (event :: log) = some link := by
  simp [newestLink, isIssued]

theorem newestLink_of_not_issued {uid rid : Nat}
    (log : List MagicLinkEvent) (notIssued : issued uid rid event = none) :
    newestLink uid rid (event :: log) = newestLink uid rid log := by
  simp [newestLink, notIssued]

variable {log : List MagicLinkEvent}

theorem Current.cons (old : Current log)
    (new : ∀ i link checkedAt at_, event = .accepted i link checkedAt at_ →
      at_ ≤ link.expiresAt ∧ newestLink link.userId link.realmId log = some link) :
    Current (event :: log) := by
  intro later i link checkedAt at_ earlier split
  rcases cons_eq_append_iff.mp split with ⟨-, here⟩ | ⟨later', -, pre⟩
  · cases here
    exact new i link checkedAt at_ rfl
  · exact old later' i link checkedAt at_ earlier pre

section Steps

variable {s s' : Store}

theorem Inv.initial (noRows : s.magicLinkRequests = []) (noLog : s.magicLinkLog = []) : Inv s := by
  constructor
  all_goals simp [noRows, noLog, Table.Unique, Current]

theorem Env.later (move : Env s s') (i : Nat) : Later i s s' :=
  ⟨move.supply, [], move.log, by simp, fun row mem _ => .inl (move.rows row mem)⟩

theorem Inv.env (inv : Inv s) (move : Env s s') : Inv s' where
  ids := inv.ids.subset move.rows
  tokens := inv.tokens.subset move.rows
  drawn row mem := by
    obtain ⟨id, tok⟩ := inv.drawn row (move.rows row mem)
    exact ⟨id.trans_le move.supply, tok.trans_le move.supply⟩
  newest row mem pending := by
    rw [move.log]
    exact inv.newest row (move.rows row mem) pending
  spent i link checkedAt at_ accepted := by
    rw [move.log] at accepted
    obtain ⟨drawn, spent⟩ := inv.spent i link checkedAt at_ accepted
    exact ⟨drawn.trans_le move.supply, fun row mem => spent row (move.rows row mem)⟩
  once := move.log ▸ inv.once
  current := move.log ▸ inv.current

theorem Env.respects (s s' : Store) (inv : Inv s) (move : Env s s') :
    Inv s' ∧ ∀ i, protocol.rely i s s' :=
  ⟨inv.env move, move.later⟩

theorem reads_respects (t t' : Store) (inv : Inv t) (same : t = t') :
    Inv t' ∧ ∀ i, protocol.rely i t t' := by
  subst same
  exact ⟨inv, fun i => .refl i t⟩

/-- The rewriting of a row keeps its keys, and the row is not pending any more. -/
structure Closes (change : MagicLinkRequest → MagicLinkRequest) : Prop where
  id : ∀ row, (change row).id = row.id
  tokenHash : ∀ row, (change row).tokenHash = row.tokenHash
  status : ∀ row, (change row).status ≠ .PENDING

theorem cancelled_closes : Closes (setStatus .CANCELLED) :=
  ⟨fun _ => rfl, fun _ => rfl, fun _ => nofun⟩

theorem expired_closes : Closes (setStatus .EXPIRED) :=
  ⟨fun _ => rfl, fun _ => rfl, fun _ => nofun⟩

theorem completed_closes (completedAt : Int) : Closes (setCompleted completedAt) :=
  ⟨fun _ => rfl, fun _ => rfl, fun _ => nofun⟩

section Updates

variable {test : MagicLinkRequest → Bool} {chg : MagicLinkRequest → MagicLinkRequest}

theorem updateWhere_row (closes : Closes chg) {row : MagicLinkRequest}
    (mem : row ∈ (updateWhere test chg s).magicLinkRequests) :
    ∃ old ∈ s.magicLinkRequests, row.id = old.id ∧ row.tokenHash = old.tokenHash ∧
      (row.status = .PENDING → row = old ∧ test old = false) := by
  obtain ⟨old, isOld, rfl⟩ := mem_map.mp mem
  refine ⟨old, isOld, ?_⟩
  cases passes : test old with
  | true =>
    exact ⟨closes.id old, closes.tokenHash old, fun pend => absurd pend (closes.status old)⟩
  | false =>
    simp only [false_eq_true, if_false]
    exact ⟨trivial, trivial, fun _ => ⟨trivial, trivial⟩⟩

theorem updateWhere_moves (test : MagicLinkRequest → Bool) (inv : Inv s) (closes : Closes chg) :
    Inv (updateWhere test chg s) ∧ ∀ i, Later i s (updateWhere test chg s) := by
  constructor
  · constructor
    · apply inv.ids.map
      intro row
      split
      · exact closes.id row
      · rfl
    · apply inv.tokens.map
      intro row
      split
      · exact closes.tokenHash row
      · rfl
    · intro row mem
      obtain ⟨old, isOld, id, th, -⟩ := updateWhere_row closes mem
      rw [id, th]
      exact inv.drawn old isOld
    · intro row mem pend
      obtain ⟨old, isOld, -, -, same⟩ := updateWhere_row closes mem
      obtain ⟨rfl, -⟩ := same pend
      exact inv.newest row isOld pend
    · intro i link checkedAt at_ ok
      obtain ⟨drawn, spent⟩ := inv.spent i link checkedAt at_ ok
      refine ⟨drawn, fun row mem tok pend => ?_⟩
      obtain ⟨old, isOld, -, -, same⟩ := updateWhere_row closes mem
      obtain ⟨rfl, -⟩ := same pend
      exact spent row isOld tok pend
    · exact inv.once
    · exact inv.current
  · refine fun i => ⟨le_rfl, [], rfl, by simp, fun row mem pend => .inl ?_⟩
    obtain ⟨old, isOld, -, -, same⟩ := updateWhere_row closes mem
    obtain ⟨rfl, -⟩ := same pend
    exact isOld

end Updates

theorem Undisturbed.unraced (undisturbed : Undisturbed s s')
    (noted : s'.magicLinkLog = event :: s.magicLinkLog) : Unraced s event := by
  apply undisturbed event
  · rw [noted]
    rfl
  · rw [noted]
    rfl

theorem note_later (byOther : requestOf event ≠ i) : Later i s (note event s) := by
  refine ⟨le_rfl, [event], rfl, ?_, fun row mem _ => .inl mem⟩
  intro event' mem
  rw [mem_singleton.mp mem]
  exact byOther

theorem cancelPendingRequests_moves (inv : Inv s) (i uid rid : Nat) :
    Inv (cancelPendingRequests i uid rid s).2 ∧
      ∀ j, j ≠ i → Later j s (cancelPendingRequests i uid rid s).2 := by
  obtain ⟨updated, relies⟩ := updateWhere_moves (isPendingOf uid rid) inv cancelled_closes
  constructor
  · exact
      { ids := updated.ids
        tokens := updated.tokens
        drawn := updated.drawn
        newest := fun row mem pend =>
          (newestLink_of_not_issued _ rfl).trans (updated.newest row mem pend)
        spent := fun j link checkedAt at_ ok =>
          updated.spent j link checkedAt at_ ((mem_cons.mp ok).resolve_left nofun)
        once := fun j k link link' checkedAt checkedAt' at_ at_' first snd =>
          updated.once j k link link' checkedAt checkedAt' at_ at_'
            ((mem_cons.mp first).resolve_left nofun)
            ((mem_cons.mp snd).resolve_left nofun)
        current := updated.current.cons nofun }
  · exact fun j other => (relies j).trans j (note_later other.symm)

def Cleared (userId realmId : Nat) (s : Store) : Prop :=
  ∀ row ∈ s.magicLinkRequests, row.userId = userId → row.realmId = realmId → row.status ≠ .PENDING

theorem cancelPendingRequests_clears (i uid rid : Nat) (s : Store) :
    Cleared uid rid (cancelPendingRequests i uid rid s).2 := by
  intro row mem u r pend
  obtain ⟨old, -, -, -, same⟩ := updateWhere_row cancelled_closes mem
  obtain ⟨rfl, spared⟩ := same pend
  simp [isPendingOf, u, r, pend] at spared

theorem cleared_of_unraced {i uid realmId : Nat}
    (cancelled : s.magicLinkLog = .cancelled i uid realmId :: log)
    (cleared : Cleared uid realmId s) (moved : Later i s s')
    (unraced : ∀ event ∈ s'.magicLinkLog.takeWhile (· ≠ .cancelled i uid realmId),
      issued uid realmId event = none) : Cleared uid realmId s' := by
  intro row mem u r pend
  obtain ⟨new, isNew, byOthers, rows⟩ := moved.history
  have os : ∀ event ∈ new, event ≠ .cancelled i uid realmId := by
    rintro event isNew rfl
    exact byOthers _ isNew rfl
  have since : s'.magicLinkLog.takeWhile (· ≠ .cancelled i uid realmId) = new := by
    rw [isNew, cancelled, takeWhile_append_of_pos (by simpa using os)]
    simp
  rw [since] at unraced
  rcases rows row mem pend with pre | ⟨-, j, created⟩
  · exact cleared row pre u r pend
  · have none := unraced _ created
    simp [issued, u, r] at none

theorem insertLink_moves (inv : Inv s) {i rid uid : Nat} {email : String} {exp : Int}
    (cleared : Cleared uid rid s) :
    Inv (insertLink i (newLink rid uid email exp s) s) ∧
      ∀ j, j ≠ i → Later j s (insertLink i (newLink rid uid email exp s) s) := by
  constructor
  · constructor
    · refine inv.ids.cons fun row mem same => ?_
      have drawn := (inv.drawn row mem).1
      simp only [newLink] at same
      omega
    · refine inv.tokens.cons fun row mem same => ?_
      have drawn := (inv.drawn row mem).2
      rw [same] at drawn
      exact lt_irrefl _ drawn
    · intro row mem
      rcases mem_cons.mp mem with rfl | old
      · exact ⟨lt_succ_self _, Nat.lt_add_of_pos_right (by decide)⟩
      · obtain ⟨id, tok⟩ := inv.drawn row old
        exact ⟨Nat.lt_add_right 2 id, Nat.lt_add_right 2 tok⟩
    · intro row mem pend
      rcases mem_cons.mp mem with rfl | old
      · exact newestLink_of_issued _ (by simp [issued])
      · refine (newestLink_of_not_issued _ ?_).trans (inv.newest row old pend)
        -- The new link is of another user or realm: those of its own are not pending.
        exact if_neg fun same => cleared row old same.1.symm same.2.symm pend
    · intro j link checkedAt at_ ok
      obtain ⟨drawn, spent⟩ := inv.spent j link checkedAt at_ ((mem_cons.mp ok).resolve_left nofun)
      refine ⟨Nat.lt_add_right 2 drawn, fun row mem tok => ?_⟩
      rcases mem_cons.mp mem with rfl | old
      · rw [← tok] at drawn
        exact absurd drawn (lt_irrefl _)
      · exact spent row old tok
    · exact fun j k link link' checkedAt checkedAt' at_ at_' first snd =>
        inv.once j k link link' checkedAt checkedAt' at_ at_'
          ((mem_cons.mp first).resolve_left nofun)
          ((mem_cons.mp snd).resolve_left nofun)
    · exact inv.current.cons nofun
  · intro j other
    refine ⟨le_add_right _ 2, [_], rfl, ?_, ?_⟩
    · intro event mem
      rw [mem_singleton.mp mem]
      exact other.symm
    · intro row mem _
      rcases mem_cons.mp mem with rfl | old
      · exact .inr ⟨le_succ _, i, mem_singleton.mpr rfl⟩
      · exact .inl old

theorem createRequest_moves (inv : Inv s) {i rid uid : Nat} {email : String} {exp : Int}
    (undisturbed : Undisturbed s (createRequest i rid uid email exp s).2)
    (cleared : Unraced s (.created i (newLink rid uid email exp s)) →
      Cleared uid rid s) : Inv (createRequest i rid uid email exp s).2 ∧
      ∀ j, j ≠ i → Later j s (createRequest i rid uid email exp s).2 := by
  unfold createRequest at undisturbed ⊢
  by_cases there : (s.realms.any (·.id = rid) && s.users.any (·.id = uid)) = true
  · rw [if_pos there] at undisturbed ⊢
    exact insertLink_moves inv (cleared (undisturbed.unraced rfl))
  · rw [if_neg there]
    exact ⟨inv, fun j _ => .refl j s⟩

theorem completeLink_moves (inv : Inv s')
    {checkedAt completedAt : Int} (invRead : Inv s) (isLink : link ∈ s.magicLinkRequests)
    (pend : link.status = .PENDING) (inTime : checkedAt ≤ link.expiresAt) (moved : Later i s s')
    (present : s'.magicLinkRequests.any (isRow link.id) = true)
    (unraced : Unraced s' (.accepted i link checkedAt s'.now)) :
    Inv (completeLink i link checkedAt completedAt s').2 ∧
      ∀ j, j ≠ i → Later j s' (completeLink i link checkedAt completedAt s').2 := by
  obtain ⟨unchanged, unexpired⟩ := unraced
  have stays : link ∈ s'.magicLinkRequests := by
    obtain ⟨row, mem, isId⟩ := any_eq_true.mp present
    have same : row.id = link.id := of_decide_eq_true isId
    have stillPending : row.status = .PENDING := (unchanged row mem same).trans pend
    obtain ⟨new, -, -, rows⟩ := moved.history
    rcases rows row mem stillPending with pre | ⟨fresh, -⟩
    · rwa [← invRead.ids row pre link isLink same]
    · have drawn := (invRead.drawn link isLink).1
      omega
  obtain ⟨updated, relies⟩ := updateWhere_moves (isRow link.id) inv (completed_closes completedAt)
  have unspent : ∀ j link' checkedAt' at_, .accepted j link' checkedAt' at_ ∈ s'.magicLinkLog →
      link'.tokenHash ≠ link.tokenHash := by
    intro j link' checkedAt' at_ ok same
    exact (inv.spent j link' checkedAt' at_ ok).2 link stays same.symm pend
  simp only [completeLink, present, if_true]
  constructor
  · exact
      { ids := updated.ids
        tokens := updated.tokens
        drawn := updated.drawn
        newest := fun row mem isPending =>
          (newestLink_of_not_issued _ rfl).trans (updated.newest row mem isPending)
        spent := by
          intro j link' checkedAt' at_ ok
          rcases mem_cons.mp ok with new | old
          · cases new
            refine ⟨(inv.drawn link stays).2, fun row mem tok isPending => ?_⟩
            obtain ⟨old, isOld, -, -, same⟩ := updateWhere_row (completed_closes completedAt) mem
            obtain ⟨rfl, spared⟩ := same isPending
            rw [inv.tokens row isOld link stays tok] at spared
            simp [isRow] at spared
          · exact updated.spent j link' checkedAt' at_ old
        once := by
          intro j k link₁ link₂ checkedAt₁ checkedAt₂ at₁ at₂ first snd same
          rcases mem_cons.mp first with new₁ | old₁
          · rcases mem_cons.mp snd with new₂ | old₂
            · cases new₁
              cases new₂
              rfl
            · cases new₁
              exact absurd same.symm (unspent k link₂ checkedAt₂ at₂ old₂)
          · rcases mem_cons.mp snd with new₂ | old₂
            · cases new₂
              exact absurd same (unspent j link₁ checkedAt₁ at₁ old₁)
            · exact inv.once j k link₁ link₂ checkedAt₁ checkedAt₂ at₁ at₂ old₁ old₂ same
        current := by
          refine updated.current.cons fun j link' checkedAt' at_ ok => ?_
          cases ok
          exact ⟨unexpired inTime, inv.newest link stays pend⟩ }
  · exact fun j other => (relies j).trans j (note_later other.symm)

end Steps

section Calls

variable {d : Deps} {i : Nat} {s : Store}

def Ensures {α : Type} (i : Nat) (p : Op α) (s : Store) (post : α → Store → Prop) : Prop :=
  p.Sat protocol Undisturbed i (onOk post) s

theorem admitRequest_reads (d : Deps) (args : RequestArgs) :
    (admitRequest d args).Keeps (· = ·) := by
  refine .bind (.read (fun _ => rfl) _) fun _ => .bind (.orFail _ _) fun _ =>
    .bind (.require _ _) fun _ => .bind (.read (fun _ => rfl) _) fun _ =>
    .bind (.orFail _ _) fun _ => .bind ?_ fun _ => .bind (.require _ _) fun _ =>
    .bind (.read (fun _ => rfl) _) fun _ => .bind (.orFail _ _) fun _ =>
    .bind (.require _ _) fun _ => .bind (.read (fun _ => rfl) _) fun _ =>
    .bind (.read (fun _ => rfl) _) fun _ => .bind (.require _ _) fun _ => trivial
  cases resolveCallback _ _ with
  | ok => trivial
  | error => trivial

theorem createLink_sat (args : RequestArgs) (r : Realm) (u : User) :
    Ensures i (createLink d i args r u) s fun _ _ => True := by
  refine .atomic_bind fun s1 _ inv1 _ => ?_
  obtain ⟨inv2, relies2⟩ := cancelPendingRequests_moves inv1 i u.id args.realmId
  refine ⟨inv2, relies2, .read_bind fun s3 moved3 inv3 => .atomic_bind fun s4 moved4 inv4 ok => ?_⟩
  have created := createRequest_moves inv4 ok <| cleared_of_unraced rfl
    (cancelPendingRequests_clears i u.id args.realmId s1) (moved3.trans i moved4)
  refine ⟨created.1, created.2, .require_bind (fun _ => .read_bind fun s5 _ _ => ?_)
    fun _ _ _ _ => trivial⟩
  split
  · exact .done fun _ _ _ => trivial
  · exact .require_bind (fun _ => .done fun _ _ _ => trivial) fun _ _ _ _ => trivial

theorem requestMagicLink_sat (args : RequestArgs) :
    Ensures i (requestMagicLink d i args) s fun _ _ => True := by
  refine .keeps_bind (admitRequest_reads d args).attempt reads_respects ?_ fun _ _ _ _ => trivial
  intro admitted t _ _
  split
  · exact .done fun _ _ _ => trivial
  · exact createLink_sat args _ _

def AcceptedBy (i token : Nat) (s : Store) : Prop :=
  ∃ link checkedAt at_, .accepted i link checkedAt at_ ∈ s.magicLinkLog ∧
    link.tokenHash = sha256 token

theorem AcceptedBy.later {tok : Nat} {s' : Store} (ok : AcceptedBy i tok s)
    (moved : Later i s s') : AcceptedBy i tok s' := by
  obtain ⟨link, checkedAt, at_, event, isToken⟩ := ok
  obtain ⟨new, isNew, -⟩ := moved.history
  refine ⟨link, checkedAt, at_, ?_, isToken⟩
  rw [isNew]
  exact mem_append_right _ event

theorem acceptLink_sat {token : Nat} (r : Realm) (u : User)
    (inv : Inv s) (isLink : link ∈ s.magicLinkRequests)
    (isToken : link.tokenHash = sha256 token) (pend : link.status = .PENDING)
    (inTime : checkedAt ≤ link.expiresAt) :
    Ensures i (acceptLink i link r u checkedAt) s fun _ => AcceptedBy i token := by
  refine .read_bind fun s1 moved1 _ => .atomic_bind fun s2 moved2 inv2 ok => ?_
  cases present : s2.magicLinkRequests.any (isRow link.id) with
  | true =>
    have isNoted : (completeLink i link checkedAt s1.now s2).2.magicLinkLog =
        .accepted i link checkedAt s2.now :: s2.magicLinkLog := by
      simp only [completeLink, present, if_true]
      rfl
    obtain ⟨kept, relies⟩ := completeLink_moves inv2 inv isLink pend inTime
      (moved1.trans i moved2) present (ok.unraced isNoted)
    have accepted : AcceptedBy i token (completeLink i link checkedAt s1.now s2).2 :=
      ⟨link, checkedAt, s2.now, isNoted ▸ mem_cons_self, isToken⟩
    exact ⟨kept, relies, .require_bind (fun _ => .done fun t moved _ => accepted.later moved)
      fun _ _ _ _ => trivial⟩
  | false =>
    simp only [completeLink, present, false_eq_true, if_false]
    exact ⟨inv2, fun j _ => .refl j s2, .fail fun _ _ _ => trivial⟩

theorem expireLink_sat (link : MagicLinkRequest) :
    Ensures i (expireLink link) s fun res _ => res.valid = false := by
  unfold expireLink
  split
  · refine .atomic_bind fun s1 _ inv1 _ => ?_
    have updated : Inv (updateLink link.id (setStatus .EXPIRED) s1).2 ∧
        ∀ j, Later j s1 (updateLink link.id (setStatus .EXPIRED) s1).2 := by
      unfold updateLink
      split
      · exact updateWhere_moves (isRow link.id) inv1 expired_closes
      · exact ⟨inv1, fun j => .refl j s1⟩
    exact ⟨updated.1, fun j _ => updated.2 j,
      .require_bind (fun _ => .done fun _ _ _ => rfl) fun _ _ _ _ => trivial⟩
  · exact .done fun _ _ _ => rfl

theorem checkLink_sat {tok : Nat} {realmName : Option String}
    {r : Realm} {user : User} (inv : Inv s) (isLink : link ∈ s.magicLinkRequests)
    (isToken : link.tokenHash = sha256 tok) :
    Ensures i (checkLink i realmName link r user) s fun res t =>
      res.valid = true → AcceptedBy i tok t := by
  have refuses : ∀ error : String, Ensures i (pure (invalid error)) s fun res t =>
      res.valid = true → AcceptedBy i tok t := fun _ => .done fun _ _ _ => nofun
  unfold checkLink
  split
  · exact refuses _
  split
  · exact refuses _
  split
  · exact refuses _
  split
  · exact refuses _
  split
  · exact refuses _
  refine .read_bind fun t moved invT => ?_
  split
  · refine (expireLink_sat link).mono fun res u isInvalid => ?_
    cases res with
    | ok res => exact fun isValid => absurd (isInvalid.symm.trans isValid) nofun
    | error _ => trivial
  split
  · exact .done fun _ _ _ => nofun
  · rename_i unexpired pend
    refine .mono (fun res u accepted => ?_) ((acceptLink_sat r user inv isLink isToken
      (not_not.mp pend) (not_lt.mp unexpired)).stable moved)
    cases res with
    | ok res => exact fun _ => accepted
    | error _ => trivial

theorem validateMagicLink_sat (tok : Nat) (realmName : Option String) :
    Ensures i (validateMagicLink i tok realmName) s fun res t =>
      res.valid = true → AcceptedBy i tok t := by
  refine .read_bind fun t _ inv => ?_
  cases found : findLink (sha256 tok) t with
  | none => exact .done fun _ _ _ => nofun
  | some row =>
    obtain ⟨link', isLink, rest⟩ := bind_eq_some_iff.mp found
    obtain ⟨_, _, rest⟩ := bind_eq_some_iff.mp rest
    obtain ⟨_, _, same⟩ := bind_eq_some_iff.mp rest
    cases same
    exact checkLink_sat inv (mem_of_find?_eq_some isLink) (by simpa using find?_some isLink)

theorem cleanupExpiredRequests_sat : Ensures i cleanupExpiredRequests s fun _ _ => True := by
  refine .read_bind fun t _ _ => .atomic fun u _ inv _ => ?_
  obtain ⟨kept, relies⟩ := updateWhere_moves (isOverdue t.now) inv expired_closes
  exact ⟨kept, fun j _ => relies j, fun _ _ _ => trivial⟩

def Answered (i : Nat) (call : Call) (reply : Reply) (s : Store) : Prop :=
  ∀ token realmName res, call = .validate token realmName → reply = .validated res →
    res.valid = true → AcceptedBy i token s

theorem handle_sat (call : Call) : Ensures i (handle d i call) s (Answered i call) := by
  cases call with
  | request args =>
    exact .ok_bind (requestMagicLink_sat args) (fun _ _ _ => .done fun _ _ _ => nofun)
      fun _ _ => trivial
  | cleanup =>
    exact .ok_bind cleanupExpiredRequests_sat (fun _ _ _ => .done fun _ _ _ => nofun)
      fun _ _ => trivial
  | validate tok realmName =>
    refine .ok_bind (validateMagicLink_sat tok realmName) ?_ fun _ _ => trivial
    intro res t accepted
    refine .done fun u moved _ => ?_
    intro _ _ _ isCall isReply isValid
    cases isCall
    cases isReply
    exact (accepted isValid).later moved

end Calls

/-- However requests, validations and clean-ups interleave, if no step races with an earlier one:
a token is accepted by at most one call, before it expires, and before a newer link is created for
its user in its realm. -/
theorem magic_links_single_use (d : Deps) (calls : Nat → Call) (s : Store) (inv : Inv s)
    (c : Pool Nat Store Failure Reply)
    (reached : Pool.Reaches Env Undisturbed (pool d calls s) c) : SingleUse calls c := by
  have threads : ∀ i, Ensures i ((pool d calls s).procs i) s (Answered i (calls i)) :=
    fun i => handle_sat (calls i)
  have kept : Inv c.state := (sound inv threads Env.respects reached).1
  have accepted : ∀ i tok, Accepts calls c i tok → AcceptedBy i tok c.state := by
    rintro i tok ⟨realmName, res, isCall, fin, isValid⟩
    exact sound_done inv threads Env.respects reached fin tok realmName res isCall rfl isValid
  constructor
  · intro i j tok acceptsI acceptsJ
    obtain ⟨link, checkedAt, at_, event, isToken⟩ := accepted i tok acceptsI
    obtain ⟨link', checkedAt', at_', event', isToken'⟩ := accepted j tok acceptsJ
    exact kept.once i j link link' checkedAt checkedAt' at_ at_' event event'
      (isToken.trans isToken'.symm)
  · intro i tok accepts
    obtain ⟨link, checkedAt, at_, event, isToken⟩ := accepted i tok accepts
    obtain ⟨later, earlier, split⟩ := append_of_mem event
    obtain ⟨inTime, newest⟩ := kept.current later i link checkedAt at_ earlier split
    exact ⟨later, link, checkedAt, at_, earlier, split, isToken, inTime, newest⟩

section Example

def mailbox : Store where
  supply := 10
  realms := [{ id := 1, name := "acme", magicLinkEnabled := true }]
  users := [{ id := 2, realmId := 1, username := "alice", email := some "alice@acme.test" }]
  clients := [{ id := 3, realmId := 1, clientId := "app", redirectUris := ["https://app.test/cb"] }]

def aliceAsks : Call :=
  .request { email := "alice@acme.test", realmId := 1, clientId := "app" }

def oneLink : Nat → Call
  | 0 => aliceAsks
  | _ => .validate 10 none

/-- The first two calls ask for a link, the others use the one with the token 10. -/
def twoLinks : Nat → Call
  | 0 => aliceAsks
  | 1 => aliceAsks
  | _ => .validate 10 none

def usedOnce : Pool Nat Store Failure Reply :=
  (pool .transparent oneLink mailbox).schedule [0, 0, 0, 0, 0, 0, 0, 0, 0, 1, 1, 1, 1, 2]

theorem link_used_once : Accepts oneLink usedOnce 1 10 ∧ SingleUse oneLink usedOnce :=
  ⟨⟨none, _, rfl, rfl, rfl⟩, magic_links_single_use .transparent oneLink mailbox
    (.initial rfl rfl) _ (reaches_schedule (by decide +kernel))⟩

def usedTwice : Pool Nat Store Failure Reply :=
  (pool .transparent oneLink mailbox).schedule [0, 0, 0, 0, 0, 0, 0, 0, 0, 1, 1, 1, 2, 2, 2, 1, 2]

/-- Two requests cancel the pending links before either creates its own. -/
def bothPending : Pool Nat Store Failure Reply :=
  (pool .transparent twoLinks mailbox).schedule
    [0, 0, 0, 0, 0, 0, 0, 1, 1, 1, 1, 1, 1, 1, 0, 1, 2, 2, 2, 2]

/-- A link is read, a newer one is created, and the first is completed. -/
def overtaken : Pool Nat Store Failure Reply :=
  (pool .transparent twoLinks mailbox).schedule
    [0, 0, 0, 0, 0, 0, 0, 0, 0, 2, 2, 2, 1, 1, 1, 1, 1, 1, 1, 1, 2]

def isAcceptance : MagicLinkEvent → Bool
  | .accepted _ _ _ _ => true
  | _ => false

theorem not_singleUse_of_overtaken {calls : Nat → Call} {c : Pool Nat Store Failure Reply} {i tok : Nat} {checkedAt at_ : Int}
    (isLog : c.state.magicLinkLog = .accepted i link checkedAt at_ :: log)
    (only : log.any isAcceptance = false) (accepts : Accepts calls c i tok)
    (overtaken : newestLink link.userId link.realmId log ≠ some link) : ¬ SingleUse calls c := by
  intro safe
  obtain ⟨later, link', checkedAt', at_', earlier, split, -, -, newest⟩ :=
    safe.current i tok accepts
  rw [isLog] at split
  rcases cons_eq_append_iff.mp split with ⟨-, here⟩ | ⟨later', -, pre⟩
  · cases here
    exact overtaken newest
  · rw [pre, any_append, any_cons] at only
    simp [isAcceptance] at only

/-- One link is accepted by two calls.  And a link is accepted when a newer one exists: because two
requests both cancelled first and created then, or because the newer one came between the read and
the update of the validation. -/
theorem magic_link_used_twice_and_late :
    (Pool.Reaches Env (fun _ _ => True) (pool .transparent oneLink mailbox) usedTwice ∧
      Accepts oneLink usedTwice 1 10 ∧ Accepts oneLink usedTwice 2 10 ∧
      ¬ SingleUse oneLink usedTwice) ∧
    (Pool.Reaches Env (fun _ _ => True) (pool .transparent twoLinks mailbox) bothPending ∧
      Accepts twoLinks bothPending 2 10 ∧ ¬ SingleUse twoLinks bothPending) ∧
    (Pool.Reaches Env (fun _ _ => True) (pool .transparent twoLinks mailbox) overtaken ∧
      Accepts twoLinks overtaken 2 10 ∧ ¬ SingleUse twoLinks overtaken) := by
  refine ⟨⟨reaches_schedule (by decide +kernel), ⟨none, _, rfl, rfl, rfl⟩,
    ⟨none, _, rfl, rfl, rfl⟩, fun safe => ?_⟩,
    ⟨reaches_schedule (by decide +kernel), ⟨none, _, rfl, rfl, rfl⟩, ?_⟩,
    reaches_schedule (by decide +kernel), ⟨none, _, rfl, rfl, rfl⟩, ?_⟩
  · have same := safe.once 1 2 10 ⟨none, _, rfl, rfl, rfl⟩ ⟨none, _, rfl, rfl, rfl⟩
    exact absurd same (by decide)
  · exact not_singleUse_of_overtaken rfl rfl ⟨none, _, rfl, rfl, rfl⟩ (by decide)
  · exact not_singleUse_of_overtaken rfl rfl ⟨none, _, rfl, rfl, rfl⟩ (by decide)

end Example

end Idenplane.MagicLink
