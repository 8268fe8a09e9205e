import Idenplane.Auth.DeviceCodes
import Mathlib.Logic.Relation

/-! # How often a device may poll

A device that polls less than the interval after its last poll is to be told to slow down, and its
interval grows by five seconds.  The check comes after the ones for the user's decision, and the
time of a poll is written down after it.  So a poll of a code that is still pending, or that was
denied, is neither refused nor remembered.
-/

namespace Idenplane.Auth.Polling

open Atomic DeviceCodes

/-- The server, and when each row of the device codes was last polled. -/
structure History where
  store : Store
  polled : Nat → Option Int

def answer (d : Deps) (realm : Realm) (body : Body) (s : Store) : Except Failure Reply × Store :=
  (handle d (.poll realm body)).run s

/-- An authenticated client presents the code of the row, in its realm and before it expires. -/
structure Polls (d : Deps) (realm : Realm) (body : Body) (s : Store) (row : DeviceCode) :
    Prop where
  presents : ∃ client, (presentDevice d realm body).run s = (.ok (row.deviceCode, client), s)
  found : findDevice row.deviceCode s = some row
  realm : row.realmId = realm.id
  unexpired : s.now ≤ row.expiresAt

def heard (polled : Nat → Option Int) (row : DeviceCode) (now : Int) (id : Nat) : Option Int :=
  if id = row.id then some now else polled id

inductive Step (d : Deps) (h : History) : History → Prop
  | rest {s' : Store} : Env h.store s' → Step d h ⟨s', h.polled⟩
  | poll {realm : Realm} {body : Body} {row : DeviceCode} : Polls d realm body h.store row →
      Step d h ⟨(answer d realm body h.store).2, heard h.polled row h.store.now⟩
  | request {request : Request} :
      (∀ realm body row, request = .poll realm body → ¬ Polls d realm body h.store row) →
      Step d h ⟨((handle d request).run h.store).2, h.polled⟩

/-- The runs of a server that begins without device codes. -/
def Reaches (d : Deps) (h : History) : Prop :=
  ∃ s : Store, s.deviceCodes = [] ∧ Relation.ReflTransGen (Step d) ⟨s, fun _ => none⟩ h

/-- The poll arrives less than the interval after the one before it. -/
def Early (h : History) (row : DeviceCode) : Prop :=
  ∃ last, h.polled row.id = some last ∧ h.store.now - last < row.interval * 1000

/-- An early poll is refused and lengthens the interval, and no other poll changes it. -/
structure Obeyed (d : Deps) (realm : Realm) (body : Body) (h : History) (row : DeviceCode) :
    Prop where
  early : Early h row → (answer d realm body h.store).1 = .error (deviceError "slow_down") ∧
    ∃ row', findDevice row.deviceCode (answer d realm body h.store).2 = some row' ∧
      row'.interval = row.interval + 5
  late : ¬ Early h row → ∀ row' ∈ (answer d realm body h.store).2.deviceCodes,
    row'.deviceCode = row.deviceCode → row'.interval = row.interval

/-- The user has approved the code and not denied it. -/
def isOpen (row : DeviceCode) : Bool := !row.denied && row.approved && row.userId.isSome

section Outcome

variable {d : Deps} {r : Realm} {body : Body} {s : Store} {row : DeviceCode}

theorem Polls.checked (polls : Polls d r body s row) : answer d r body s =
    (checkDevice r (some row) >>= redeem d r body).run s := by
  obtain ⟨client, presents⟩ := polls.presents
  rw [answer, handle_poll_check, run_bind, presents]
  exact congrArg (fun found => (checkDevice r found >>= redeem d r body).run s) polls.found

theorem refused_unless_polls (other : ∀ row, ¬ Polls d r body s row) :
    (answer d r body s).2 = s := by
  have reads : (presentDevice d r body).Keeps Eq :=
    .bind (.orFail _ _) fun _ => .bind (validateClient_reads d _ _ _ _) fun _ => trivial
  have stays := reads.run (fun _ => rfl) Eq.trans s
  rw [answer, handle_poll_check, run_bind]
  rcases ran : (presentDevice d r body).run s with ⟨res, s'⟩
  rw [ran] at stays
  subst stays
  cases res with
  | error e => rfl
  | ok identified =>
    change ((checkDevice r (findDevice identified.1 s) >>= redeem d r body).run s).2 = s
    cases found : findDevice identified.1 s with
    | none => rfl
    | some row =>
      by_cases inRealm : row.realmId = r.id
      · have code : row.deviceCode = identified.1 := by simpa using find?_some found
        have expired : row.expiresAt < s.now := by
          by_contra unexpired
          exact other row ⟨⟨identified.2, code ▸ ran⟩, code ▸ found, inRealm, not_lt.mp unexpired⟩
        simp only [checkDevice, filter_some, inRealm, decide_true, if_true,
          orFail_some, done_bind, run_read_bind, expired, Bool.not_true,
          require_false, bind_assoc]
        rfl
      · simp only [checkDevice, filter_some, inRealm, decide_false]
        rfl

def slowed (device : DeviceCode) (now : Int) (row : DeviceCode) : DeviceCode :=
  { polledAt now row with interval := device.interval + 5 }

/-- What follows the check of the interval takes rows away, and changes none. -/
structure Takes (s s' : Store) : Prop where
  now : s.now ≤ s'.now
  supply : s.supply ≤ s'.supply
  rows : ∀ row ∈ s'.deviceCodes, row ∈ s.deviceCodes

theorem Takes.refl (s : Store) : Takes s s := ⟨le_rfl, le_rfl, fun _ mem => mem⟩

theorem Takes.trans {a b c : Store} (ab : Takes a b) (bc : Takes b c) : Takes a c :=
  ⟨ab.now.trans bc.now, ab.supply.trans bc.supply, fun row mem => ab.rows row (bc.rows row mem)⟩

theorem startSession_takes (d : Deps) (issue : Issue) :
    (startSession d none [] issue).Keeps Takes :=
  (startSession_works d none [] issue).mono fun s s' work =>
    ⟨(congrArg Store.now work.rest :).ge, work.supply, fun row mem => by
      rw [← work.rest]
      exact mem⟩

theorem poll_cases (polls : Polls d r body s row) :
    (isOpen row = false ∧ ∃ e, answer d r body s = (.error e, s)) ∨
    (isOpen row = true ∧ tooEarly row s.now = true ∧ answer d r body s =
      (.error (deviceError "slow_down"), (deviceUpdated row.id (slowed row) s).2)) ∨
    (isOpen row = true ∧ tooEarly row s.now = false ∧
      Takes (deviceUpdated row.id polledAt s).2 (answer d r body s).2) := by
  have unexpired : (row.expiresAt < s.now) = False := eq_false (not_lt.mpr polls.unexpired)
  rw [polls.checked]
  simp only [checkDevice, filter_some, polls.realm, decide_true, if_true,
    orFail_some, done_bind, run_read_bind, unexpired, decide_false, Bool.not_false,
    require_true, bind_assoc]
  cases denied : row.denied with
  | true =>
    left
    exact ⟨by rw [isOpen, denied]; rfl, _, rfl⟩
  | false =>
    cases approved : row.approved with
    | false =>
      left
      exact ⟨by rw [isOpen, denied, approved]; rfl, _, rfl⟩
    | true =>
      cases user : row.userId with
      | none =>
        left
        exact ⟨by rw [isOpen, denied, approved, user]; rfl, _, rfl⟩
      | some uid =>
        right
        have opened : isOpen row = true := by
          rw [isOpen, denied, approved, user]
          rfl
        cases early : tooEarly row s.now with
        | true =>
          left
          have isRow : (deviceUpdated row.id (slowed row) s).1 = true :=
            any_eq_true.mpr ⟨row, mem_of_find?_eq_some polls.found, by simp⟩
          refine ⟨opened, rfl, ?_⟩
          simp only [Bool.not_false, require_true, done_bind, orFail_some,
            run_read_bind, early, refuseEarlyPoll, if_true, bind_assoc,
            run_atomic_bind]
          change (((require (deviceUpdated row.id (slowed row) s).1 .internal : Op Unit) >>=
            fun _ => .fail (deviceError "slow_down")).run _) = _
          rw [isRow]
          rfl
        | false =>
          right
          refine ⟨opened, rfl, ?_⟩
          simp only [Bool.not_false, require_true, done_bind, orFail_some,
            run_read_bind, early, refuseEarlyPoll, false_eq_true, if_false, pure_def,
            run_atomic_bind]
          have reads {α : Type} (g : Store → α) : (read g : Op α).Keeps Takes :=
            .read .refl g
          refine Keeps.run Takes.refl .trans ?_ _
          refine .bind (.require _ _) fun _ => .bind (reads _) fun _ => .bind (.orFail _ _) fun _ =>
            .bind (reads _) fun _ => .bind (.require _ _) fun _ => .bind (reads _) fun _ =>
            .bind (.require _ _) fun _ => .bind (.atomic ?_) fun _ => .bind (.require _ _) fun _ =>
            .bind (startSession_takes _ _) fun _ => trivial
          exact fun s => ⟨le_rfl, le_rfl, fun row mem => (mem_filter.mp mem).1⟩

end Outcome

/-- Device codes are unique, and a time that is written down is that of a poll. -/
structure Recorded (polled : Nat → Option Int) (s : Store) : Prop where
  codes : Table.Unique (·.deviceCode) s.deviceCodes
  drawn : ∀ row ∈ s.deviceCodes, row.deviceCode < s.supply
  polls : ∀ row ∈ s.deviceCodes, ∀ time, row.lastPolledAt = some time →
    time ≤ s.now ∧ ∃ last, polled row.id = some last ∧ time ≤ last

namespace Recorded

variable {polled : Nat → Option Int} {s s' : Store} {row : DeviceCode}

section

variable (inv : Recorded polled s)

include inv

theorem takes (takes : Takes s s') : Recorded polled s' where
  codes := inv.codes.subset takes.rows
  drawn row mem := (inv.drawn row (takes.rows row mem)).trans_le takes.supply
  polls row mem time noted :=
    (inv.polls row (takes.rows row mem) time noted).imp_left fun past => past.trans takes.now

theorem updated (id : Nat) {chg : Int → DeviceCode → DeviceCode}
    (code : ∀ now row, (chg now row).deviceCode = row.deviceCode)
    (same : ∀ now row, (chg now row).id = row.id)
    (noted : ∀ row, (chg s.now row).lastPolledAt = row.lastPolledAt ∨
      polled id = some s.now ∧ (chg s.now row).lastPolledAt = some s.now) :
    Recorded polled (deviceUpdated id chg s).2 := by
  have kept (row : DeviceCode) :
      (if row.id = id then chg s.now row else row).deviceCode = row.deviceCode := by
    split
    · exact code s.now row
    · rfl
  constructor
  · exact inv.codes.map kept
  · intro row' mem
    obtain ⟨row, isRow, rfl⟩ := mem_map.mp mem
    rw [kept]
    exact inv.drawn row isRow
  · intro row' mem time written
    obtain ⟨row, isRow, rfl⟩ := mem_map.mp mem
    by_cases this : row.id = id
    · rw [if_pos this] at written ⊢
      rw [same]
      rcases noted row with stays | ⟨isPoll, now⟩
      · exact inv.polls row isRow time (stays ▸ written)
      · rw [now] at written
        cases written
        exact ⟨le_rfl, _, this ▸ isPoll, le_rfl⟩
    · rw [if_neg this] at written ⊢
      exact inv.polls row isRow time written

theorem created (userCode : String) (c : Client) (r : Realm)
    (sc : Option String) : Recorded polled (createDeviceCode userCode c r sc s).2 := by
  unfold createDeviceCode
  split
  · exact inv
  constructor
  · exact inv.codes.cons fun row mem => (inv.drawn row mem).ne
  · intro row mem
    rcases mem_cons.mp mem with rfl | isRow
    · exact Nat.lt_add_of_pos_right (by decide)
    · exact Nat.lt_add_right 2 (inv.drawn row isRow)
  · intro row mem time noted
    rcases mem_cons.mp mem with rfl | isRow
    · cases noted
    · exact inv.polls row isRow time noted

theorem decided (id : Nat) {chg : DeviceCode → DeviceCode}
    (ev : DeviceEvent) (code : ∀ row, (chg row).deviceCode = row.deviceCode)
    (same : ∀ row, (chg row).id = row.id)
    (noted : ∀ row, (chg row).lastPolledAt = row.lastPolledAt) :
    Recorded polled (decide_ id chg ev s).2 := by
  have updated : Recorded polled (deviceUpdated id (fun _ => chg) s).2 :=
    inv.updated id (fun _ => code) (fun _ => same) fun row => .inl (noted row)
  unfold decide_
  split
  · exact ⟨updated.codes, updated.drawn, updated.polls⟩
  · exact inv

theorem heard : Recorded (Polling.heard polled row s.now) s where
  codes := inv.codes
  drawn := inv.drawn
  polls other mem time noted := by
    obtain ⟨past, last, isLast, pre⟩ := inv.polls other mem time noted
    unfold Polling.heard
    split
    · exact ⟨past, _, rfl, past⟩
    · exact ⟨past, last, isLast, pre⟩

end

end Recorded

section Runs

variable {d : Deps} {h h' : History}

theorem request_records (polled : Nat → Option Int) {req : Request}
    (other : ∀ r body, req ≠ .poll r body) :
    (handle d req).Keeps fun s s' => Recorded polled s → Recorded polled s' := by
  have reads {α : Type} (g : Store → α) :
      (read g : Op α).Keeps fun s s' => Recorded polled s → Recorded polled s' :=
    .read (fun _ inv => inv) g
  cases req with
  | initiate userCode r cid sc =>
    refine .bind (.bind (reads _) fun _ => .bind (.orFail _ _) fun _ => .bind (.require _ _)
      fun _ => .bind (.atomic ?_) fun _ => .bind (.orFail _ _) fun _ => trivial) fun _ => trivial
    exact fun s inv => inv.created _ _ _ _
  | approve r userCode uid =>
    refine .bind (.bind (reads _) fun _ => .bind (.orFail _ _) fun _ => .bind (reads _) fun _ =>
      .bind (.require _ _) fun _ => .bind (.atomic ?_) fun _ => .require _ _) fun _ => trivial
    exact fun s inv => inv.decided _ _ (fun _ => rfl) (fun _ => rfl) fun _ => rfl
  | deny r userCode =>
    refine .bind (.bind (reads _) fun _ => .bind (.orFail _ _) fun _ => .bind (.atomic ?_)
      fun _ => .require _ _) fun _ => trivial
    exact fun s inv => inv.decided _ _ (fun _ => rfl) (fun _ => rfl) fun _ => rfl
  | poll r body => exact absurd rfl (other r body)
  | cleanup =>
    refine .bind (.bind (reads _) fun _ => .modify ?_) fun _ => trivial
    exact fun s inv => inv.takes ⟨le_rfl, le_rfl, fun row mem => (mem_filter.mp mem).1⟩

variable {r : Realm} {body : Body} {row : DeviceCode} {polled : Nat → Option Int} {s : Store}

theorem poll_records (inv : Recorded polled s) (polls : Polls d r body s row) :
    Recorded (heard polled row s.now) (answer d r body s).2 := by
  have noted : heard polled row s.now row.id = some s.now := if_pos rfl
  rcases poll_cases polls with ⟨-, e, ends⟩ | ⟨-, -, ends⟩ | ⟨-, -, takes⟩
  · rw [ends]
    exact inv.heard
  · rw [ends]
    exact inv.heard.updated row.id (fun _ _ => rfl) (fun _ _ => rfl) fun _ => .inr ⟨noted, rfl⟩
  · have updated : Recorded (heard polled row s.now) (deviceUpdated row.id polledAt s).2 :=
      inv.heard.updated row.id (fun _ _ => rfl) (fun _ _ => rfl) fun _ => .inr ⟨noted, rfl⟩
    exact updated.takes takes

theorem Step.records (step : Step d h h') (inv : Recorded h.polled h.store) :
    Recorded h'.polled h'.store := by
  cases step with
  | rest move => exact inv.takes ⟨move.now, move.supply, fun row mem => move.rows ▸ mem⟩
  | poll polls => exact poll_records inv polls
  | @request request other =>
    by_cases isPoll : ∃ r body, request = .poll r body
    · obtain ⟨r, body, rfl⟩ := isPoll
      have stays := refused_unless_polls fun row => other r body row rfl
      exact stays.symm ▸ inv
    · have keeps : (handle d request).Keeps _ :=
        request_records h.polled fun r body same => isPoll ⟨r, body, same⟩
      exact keeps.run (fun _ inv => inv) (fun ab bc inv => bc (ab inv)) h.store inv

theorem Reaches.recorded (reaches : Reaches d h) : Recorded h.polled h.store := by
  obtain ⟨s, none, steps⟩ := reaches
  induction steps with
  | refl => constructor <;> simp [none, Table.Unique]
  | tail _ step inv => exact step.records inv

/-- An early poll is refused exactly when the code is open and the time written down in its row
is less than the interval ago. -/
theorem poll_outcome (inv : Recorded polled s) (polls : Polls d r body s row) :
    (isOpen row = true ∧ tooEarly row s.now = true ∧
      (answer d r body s).1 = .error (deviceError "slow_down") ∧
      ∃ row', findDevice row.deviceCode (answer d r body s).2 = some row' ∧
        row'.interval = row.interval + 5) ∨
    (¬ (isOpen row = true ∧ tooEarly row s.now = true) ∧
      ∀ row' ∈ (answer d r body s).2.deviceCodes, row'.deviceCode = row.deviceCode →
        row'.interval = row.interval) := by
  have isRow := mem_of_find?_eq_some polls.found
  rcases poll_cases polls with ⟨closed, e, ends⟩ | ⟨opened, early, ends⟩ | ⟨-, late, takes⟩
  · right
    rw [ends, closed]
    exact ⟨by simp, fun row' mem code => congrArg _ (inv.codes row' mem row isRow code)⟩
  · left
    have slowedUnique : Table.Unique (·.deviceCode)
        (deviceUpdated row.id (slowed row) s).2.deviceCodes :=
      inv.codes.map fun other => by split <;> rfl
    have mem : slowed row s.now row ∈ (deviceUpdated row.id (slowed row) s).2.deviceCodes :=
      mem_map.mpr ⟨row, isRow, if_pos rfl⟩
    rw [ends]
    exact ⟨opened, early, rfl, slowed row s.now row, slowedUnique.find?_eq mem, rfl⟩
  · right
    rw [late]
    refine ⟨by simp, fun row' mem code => ?_⟩
    obtain ⟨old, isOld, rfl⟩ := mem_map.mp (takes.rows row' mem)
    have same : old = row := by
      apply inv.codes old isOld row isRow
      change old.deviceCode = row.deviceCode
      rw [← code]
      split <;> rfl
    rw [same, if_pos rfl]
    rfl

/-- A poll is treated as it should be unless it is early and finds a code that is not open, or
whose last open poll is at least the interval ago. -/
theorem polls_obeyed_iff (d : Deps) (h : History) (reaches : Reaches d h) :
    (∀ (r : Realm) (body : Body) (row : DeviceCode), Polls d r body h.store row →
      (Obeyed d r body h row ↔
        (Early h row → isOpen row = true ∧ tooEarly row h.store.now = true))) ∧
    ∀ (r : Realm) (body : Body), (∀ row, ¬ Polls d r body h.store row) →
      (answer d r body h.store).2 = h.store := by
  refine ⟨fun r body row polls => ?_, fun r body other => refused_unless_polls other⟩
  have inv := reaches.recorded
  have isRow := mem_of_find?_eq_some polls.found
  rcases poll_outcome inv polls with ⟨opened, early, answered⟩ | ⟨passes, unchanged⟩
  · have isEarly : Early h row := by
      cases noted : row.lastPolledAt with
      | none => simp [tooEarly, noted] at early
      | some time =>
        obtain ⟨-, last, isLast, before⟩ := inv.polls row isRow time noted
        simp only [tooEarly, noted, decide_eq_true_eq] at early
        exact ⟨last, isLast, by omega⟩
    exact ⟨fun _ _ => ⟨opened, early⟩, fun _ => ⟨fun _ => answered, fun late => absurd isEarly late⟩⟩
  · constructor
    · intro obeyed early
      obtain ⟨-, row', found, grown⟩ := obeyed.early early
      have same := unchanged row' (mem_of_find?_eq_some found) (by simpa using find?_some found)
      omega
    · exact fun met => ⟨fun early => absurd (met early) passes, fun _ => unchanged⟩

end Runs

section Example

def quiet : Store := { livingRoom with deviceCodes := [], deviceLog := [] }

/-- The television asks for a code, which gets the number 40. -/
def asked : Request := .initiate "ABCD-EFGH" { id := 1, name := "acme" } "tv" none

def pending : Store := ((handle .transparent asked).run quiet).2

def pendingBody : Body := { pollBody "tv" with device_code := some 40 }

def pendingRow : DeviceCode where
  id := 41
  deviceCode := 40
  userCode := "ABCD-EFGH"
  clientId := 3
  realmId := 1
  expiresAt := 600000

theorem pending_reached :
    Relation.ReflTransGen (Step .transparent) ⟨quiet, fun _ => none⟩ ⟨pending, fun _ => none⟩ :=
  .single (.request fun _ _ _ same => nomatch same)

theorem pending_polls :
    Polls .transparent { id := 1, name := "acme" } pendingBody pending pendingRow :=
  ⟨⟨_, rfl⟩, rfl, rfl, by decide⟩

/-- Alice owes a second factor. -/
def secured : Store :=
  { quiet with userCredentials := [{ userId := 2, type := .totp, verified := true }] }

def approves : Request := .approve { id := 1, name := "acme" } "ABCD-EFGH" 2

def approved : Store :=
  ((handle .transparent approves).run ((handle .transparent asked).run secured).2).2

def approvedRow (polled : Option Int) : DeviceCode :=
  { pendingRow with approved := true, userId := some 2, lastPolledAt := polled }

def polledOnce : History where
  store := (answer .transparent { id := 1, name := "acme" } pendingBody approved).2
  polled := heard (fun _ => none) (approvedRow none) approved.now

theorem approved_reached : Relation.ReflTransGen (Step .transparent) ⟨secured, fun _ => none⟩
      ⟨approved, fun _ => none⟩ := by
  have initiated : Step .transparent ⟨secured, fun _ => none⟩
      ⟨((handle .transparent asked).run secured).2, fun _ => none⟩ :=
    .request fun _ _ _ same => nomatch same
  exact .tail (.single initiated) (@Step.request _ _ approves fun _ _ _ same => nomatch same)

theorem approved_polls : Polls .transparent { id := 1, name := "acme" } pendingBody approved
    (approvedRow none) :=
  ⟨⟨_, rfl⟩, rfl, rfl, by decide⟩

theorem polledOnce_polls : Polls .transparent { id := 1, name := "acme" } pendingBody
    polledOnce.store (approvedRow (some 0)) :=
  ⟨⟨_, rfl⟩, rfl, rfl, by decide⟩

/-- The first poll of the approved code is refused for the second factor, and the early one after
it is slowed down. -/
theorem second_poll_slowed :
    Obeyed .transparent { id := 1, name := "acme" } pendingBody ⟨approved, fun _ => none⟩
        (approvedRow none) ∧
      Early polledOnce (approvedRow (some 0)) ∧
      Obeyed .transparent { id := 1, name := "acme" } pendingBody polledOnce
        (approvedRow (some 0)) := by
  have again : Reaches .transparent polledOnce :=
    ⟨secured, rfl, approved_reached.tail (.poll approved_polls)⟩
  refine ⟨?_, ⟨0, rfl, by decide⟩, ?_⟩
  · apply ((polls_obeyed_iff _ _ ⟨secured, rfl, approved_reached⟩).1 _ _ _ approved_polls).mpr
    rintro ⟨last, isLast, -⟩
    cases isLast
  · exact ((polls_obeyed_iff _ _ again).1 _ _ _ polledOnce_polls).mpr fun _ => ⟨rfl, rfl⟩

/-- The second poll of a pending code is early, and is answered as the first one was. -/
theorem pending_polls_unlimited : ¬ ∀ (d : Deps) (h : History), Reaches d h →
    ∀ (r : Realm) (body : Body) (row : DeviceCode), Polls d r body h.store row →
      Obeyed d r body h row := by
  intro obeyed
  have answered : answer .transparent { id := 1, name := "acme" } pendingBody pending =
      (.error (deviceError "authorization_pending"), pending) := rfl
  have polled := pending_reached.tail (.poll pending_polls)
  rw [answered] at polled
  have refused := (obeyed _ _ ⟨quiet, rfl, polled⟩ _ _ _ pending_polls).early ⟨0, rfl, by decide⟩
  rw [answered] at refused
  exact absurd refused.1 (by simp [deviceError])

end Example

end Idenplane.Auth.Polling
