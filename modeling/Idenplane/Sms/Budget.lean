import Idenplane.Sms.Otp
import Idenplane.Lib.Pool
import Idenplane.Lib.Reservations

/-! # The limits of messages

A send reserves a row of the delivery log before it counts.  So the row that was reserved last,
among those whose messages were sent, was counted together with all the others, and the count
was within the limit.  The rows are those of the log, not the messages on their way: a send may
be slow to hand over what it reserved.
-/

namespace Idenplane.Sms

open Atomic Reservations SmsDeliveryLog

variable {s s' : Store} {window limit : Int}

section Ledger

/-- A row of the delivery log without its status, the only column that is written again. -/
def settled (log : SmsDeliveryLog) : SmsDeliveryLog := { log with status := .pending }

def ledger (s : Store) : List SmsDeliveryLog := s.smsDeliveryLogs.map settled

def budgetRequest : SmsBudgetEvent → Nat
  | .reserved req _ => req
  | .handed req _ _ => req

def handedIds : List SmsBudgetEvent → List Nat
  | [] => []
  | .handed _ logId _ :: rest => logId :: handedIds rest
  | .reserved _ _ :: rest => handedIds rest

theorem mem_handedIds {logId : Nat} {log : List SmsBudgetEvent} :
    logId ∈ handedIds log ↔ ∃ req at_, .handed req logId at_ ∈ log := by
  induction log with
  | nil => simp [handedIds]
  | cons ev rest ih =>
    cases ev with
    | reserved req l => simp [handedIds, ih]
    | handed req l at_ =>
      simp only [handedIds, mem_cons, ih, SmsBudgetEvent.handed.injEq]
      constructor
      · rintro (rfl | ⟨r, t, mem⟩)
        · exact ⟨req, at_, .inl ⟨rfl, rfl, rfl⟩⟩
        · exact ⟨r, t, .inr mem⟩
      · rintro ⟨r, t, ⟨-, rfl, -⟩ | mem⟩
        · exact .inl rfl
        · exact .inr ⟨r, t, mem⟩

end Ledger

variable {row : SmsDeliveryLog}

section Limits

variable (deps : Deps) (realm : Realm)

def maxPerWindow : Int := clamp realm.smsMaxRequestsPerUser 1 100 3

def windowMs : Int := clamp realm.smsRateLimitWindow 60 86400 900 * 1000

def hourMs : Int := 3600000

def realmHourlyLimit : Int := clamp deps.smsRealmHourlyLimit 1 1000000 1000

def ofUser (userId : Nat) (log : SmsDeliveryLog) : Bool :=
  log.realmId = realm.id && log.userId = userId

def ofPhone (hash : String) (log : SmsDeliveryLog) : Bool :=
  log.realmId = realm.id && log.phoneHash = hash

def ofIp (hash : String) (log : SmsDeliveryLog) : Bool :=
  log.realmId = realm.id && log.ipHash = some hash

def ofRealm (log : SmsDeliveryLog) : Bool := log.realmId = realm.id

structure WithinLimits (rows : List SmsDeliveryLog) (row : SmsDeliveryLog) : Prop where
  user : Counted SmsDeliveryLog.id createdAt (ofUser realm row.userId)
    (windowMs realm) (maxPerWindow realm) rows row
  phone : Counted SmsDeliveryLog.id createdAt (ofPhone realm row.phoneHash)
    (windowMs realm) (maxPerWindow realm) rows row
  ip : ∀ hash, row.ipHash = some hash →
    Counted SmsDeliveryLog.id createdAt (ofIp realm hash) (windowMs realm)
      SMS_OTP_MAX_SENDS_PER_IP rows row
  hour : Counted SmsDeliveryLog.id createdAt (ofRealm realm) hourMs (realmHourlyLimit deps) rows row

variable {deps realm}

theorem WithinLimits.append {newer rows : List SmsDeliveryLog}
    (h : WithinLimits deps realm rows row) (later : ∀ r ∈ newer, row.id < r.id) :
    WithinLimits deps realm (newer ++ rows) row :=
  ⟨h.user.append later, h.phone.append later, fun hash isHash => (h.ip hash isHash).append later,
    h.hour.append later⟩

theorem clamp_nonneg {v min max fallback : Int} (isMin : 0 ≤ min) (isMax : 0 ≤ max)
    (isFallback : 0 ≤ fallback) : 0 ≤ clamp v min max fallback := by
  unfold clamp
  split
  · exact isFallback
  · omega

end Limits

section Protocol

variable (deps : Deps) (realm : Realm)

/-- The delivery log is in order, and every message that was handed over belongs to a row that
was counted. -/
structure BudgetInv (s : Store) : Prop where
  drawn : ∀ row ∈ ledger s, row.id < s.supply ∧ row.createdAt ≤ s.now
  unique : ((ledger s).map SmsDeliveryLog.id).Nodup
  owned : ∀ i j logId, .reserved i logId ∈ s.smsBudgetLog → .reserved j logId ∈ s.smsBudgetLog →
    i = j
  reserved : ∀ i logId, .reserved i logId ∈ s.smsBudgetLog → logId < s.supply
  handed : ∀ i logId at_, .handed i logId at_ ∈ s.smsBudgetLog →
    .reserved i logId ∈ s.smsBudgetLog ∧ ∃ row ∈ ledger s, row.id = logId ∧ row.createdAt ≤ at_ ∧
      (row.realmId = realm.id → WithinLimits deps realm (ledger s) row)
  once : (handedIds s.smsBudgetLog).Nodup

/-- How the others may move the store under request `i`. -/
structure BudgetRely (i : Nat) (s s' : Store) : Prop where
  supply : s.supply ≤ s'.supply
  clock : s.now ≤ s'.now
  rows : ∃ newer, ledger s' = newer ++ ledger s ∧ ∀ row ∈ newer, s.supply ≤ row.id
  log : ∃ recent, s'.smsBudgetLog = recent ++ s.smsBudgetLog ∧
    ∀ event ∈ recent, budgetRequest event ≠ i

theorem BudgetRely.refl (i : Nat) (s : Store) : BudgetRely i s s :=
  ⟨le_refl _, le_refl _, ⟨[], rfl, by simp⟩, ⟨[], rfl, by simp⟩⟩

theorem BudgetRely.trans (i : Nat) {a b c : Store} (h : BudgetRely i a b) (k : BudgetRely i b c) :
    BudgetRely i a c where
  supply := h.supply.trans k.supply
  clock := h.clock.trans k.clock
  rows := by
    obtain ⟨first, sameFirst, laterFirst⟩ := h.rows
    obtain ⟨snd, sameSecond, laterSecond⟩ := k.rows
    refine ⟨snd ++ first, by rw [sameSecond, sameFirst, append_assoc], ?_⟩
    intro row mem
    rcases mem_append.mp mem with new | old
    · exact h.supply.trans (laterSecond row new)
    · exact laterFirst row old
  log := grown_trans h.log k.log

def budgetProtocol : Protocol Nat Store :=
  ⟨BudgetInv deps realm, BudgetRely, BudgetRely.refl, BudgetRely.trans⟩

/-- What the rest of the server does: time passes, and the delivery log is left alone. -/
structure Elsewhere (s s' : Store) : Prop where
  supply : s.supply ≤ s'.supply
  clock : s.now ≤ s'.now
  rows : ledger s' = ledger s
  log : s'.smsBudgetLog = s.smsBudgetLog

theorem Elsewhere.refl (s : Store) : Elsewhere s s := ⟨le_refl _, le_refl _, rfl, rfl⟩

variable {deps realm}

theorem Elsewhere.respects (t t' : Store) (inv : BudgetInv deps realm t) (h : Elsewhere t t') :
    BudgetInv deps realm t' ∧ ∀ j, BudgetRely j t t' := by
  refine ⟨⟨?_, ?_, ?_, ?_, ?_, ?_⟩, fun j => ⟨h.supply, h.clock, ⟨[], by simpa using h.rows, by simp⟩,
    ⟨[], by simpa using h.log, by simp⟩⟩⟩
  · intro row isRow
    rw [h.rows] at isRow
    have := inv.drawn row isRow
    exact ⟨lt_of_lt_of_le this.1 h.supply, this.2.trans h.clock⟩
  · rw [h.rows]
    exact inv.unique
  · rw [h.log]
    exact inv.owned
  · intro i logId isReserved
    rw [h.log] at isReserved
    exact lt_of_lt_of_le (inv.reserved i logId isReserved) h.supply
  · rw [h.log, h.rows]
    exact inv.handed
  · rw [h.log]
    exact inv.once

end Protocol

variable {key : SmsDeliveryLog → Bool}

section Sending

variable {deps : Deps} {realm : Realm} {i : Nat} {allowed : Store → Store → Prop}

/-- Request `i` has reserved nothing. -/
def Unreserved (i : Nat) (s : Store) : Prop := ∀ event ∈ s.smsBudgetLog, budgetRequest event ≠ i

theorem Unreserved.stable (h : Unreserved i s) (move : BudgetRely i s s') : Unreserved i s' := by
  obtain ⟨recent, log, foreign⟩ := move.log
  intro ev mem
  rw [log] at mem
  rcases mem_append.mp mem with new | old
  · exact foreign ev new
  · exact h ev old

/-- Request `i` has reserved `row`, and has not handed a message over. -/
structure HasSlot (i : Nat) (row : SmsDeliveryLog) (s : Store) : Prop where
  reserved : .reserved i row.id ∈ s.smsBudgetLog
  isRow : row ∈ ledger s
  drawn : row.id < s.supply
  unhanded : ∀ logId at_, .handed i logId at_ ∉ s.smsBudgetLog

theorem HasSlot.stable (h : HasSlot i row s) (move : BudgetRely i s s') : HasSlot i row s' := by
  obtain ⟨newer, rows, -⟩ := move.rows
  obtain ⟨recent, log, foreign⟩ := move.log
  refine ⟨by simp [log, h.reserved], by simp [rows, h.isRow], lt_of_lt_of_le h.drawn move.supply, ?_⟩
  intro logId at_ mem
  rw [log] at mem
  rcases mem_append.mp mem with new | old
  · exact foreign _ new rfl
  · exact h.unhanded logId at_ old

theorem counted_stable (drawn : row.id < s.supply) (move : BudgetRely i s s')
    (h : Counted SmsDeliveryLog.id createdAt key window limit (ledger s) row) :
    Counted SmsDeliveryLog.id createdAt key window limit (ledger s') row := by
  obtain ⟨newer, rows, later⟩ := move.rows
  rw [rows]
  exact h.append fun r mem => lt_of_lt_of_le drawn (later r mem)

theorem counted_of_countP {k : Nat} (start : Int) (early : start ≤ row.createdAt - window)
    (status : ∀ log, key (settled log) = key log)
    (isCount : s.smsDeliveryLogs.countP (fun log => key log && start ≤ log.createdAt) = k)
    (atMost : k ≤ limit) :
    Counted SmsDeliveryLog.id createdAt key window limit (ledger s) row := by
  have same : (ledger s).countP (fun log => key log && start ≤ log.createdAt) = k := by
    rw [← isCount, ledger, List.countP_map]
    congr 1
    funext log
    simp only [Function.comp, status]
    rfl
  have fewer : upTo SmsDeliveryLog.id row.id
      (fun r => key r && row.createdAt - window ≤ r.createdAt) (ledger s) ≤ k := by
    rw [← same]
    apply upTo_le_countP
    intro log passes
    simp only [and_eq_true, decide_eq_true_eq] at passes ⊢
    exact ⟨passes.1, early.trans passes.2⟩
  calc (upTo SmsDeliveryLog.id row.id (fun r => key r && row.createdAt - window ≤ r.createdAt)
        (ledger s) : Int) ≤ k := Int.ofNat_le.mpr fewer
    _ ≤ limit := atMost

theorem destination_elsewhere (ps : SendParams) : (destination deps ps).Keeps Elsewhere := by
  unfold destination
  split
  · exact .bind (.require _ _) fun _ => .orFail _ _
  all_goals exact .bind (.require _ _) fun _ => .bind (.read .refl _) fun _ => .orFail _ _

theorem checkExisting_elsewhere (ps : SendParams) (now : Int) (old : Option OtpAttempt) :
    (checkExisting ps now old).Keeps Elsewhere := by
  cases old with
  | none => trivial
  | some row =>
    exact .bind (.require _ _) fun _ => .bind (.require _ _) fun _ =>
      .bind (.require _ _) fun _ => .require _ _

theorem updateDeliveryLog_elsewhere (logId : Nat) (status : DeliveryStatus) :
    (updateDeliveryLog logId status).Keeps Elsewhere := by
  refine .modify fun s => ⟨le_refl _, le_refl _, ?_, rfl⟩
  unfold ledger
  rw [map_map]
  apply map_congr_left
  intro log _
  simp only [Function.comp, settled]
  split <;> rfl

theorem reject_elsewhere {α : Type} (logId : Nat) (error : Failure) :
    (reject logId error : Op α).Keeps Elsewhere :=
  .bind (updateDeliveryLog_elsewhere logId _) fun _ => trivial

theorem storeCode_elsewhere (ps : SendParams) (binding : String) (now : Int)
    (fs : CodeFields) (old : Option OtpAttempt) :
    (storeCode i ps binding now fs old).Keeps Elsewhere := by
  cases old with
  | some row =>
    refine .atomic fun s => ?_
    unfold claimResend
    split
    · exact .refl s
    · exact ⟨le_refl _, le_refl _, rfl, rfl⟩
  | none =>
    refine .atomic fun s => ?_
    unfold createRow
    split
    · exact .refl s
    · exact ⟨le_succ _, le_refl _, rfl, rfl⟩

def reservedRow (deps : Deps) (params : SendParams) (phone : String) (ipHash : Option String)
    (s : Store) : SmsDeliveryLog :=
  { id := s.supply, realmId := params.realm.id, userId := params.userId,
    phoneHash := phoneHash deps phone, ipHash := ipHash, createdAt := s.now }

def reserve (deps : Deps) (i : Nat) (params : SendParams) (phone : String)
    (ipHash : Option String) (s : Store) : Store :=
  { s with
    supply := s.supply + 1
    smsBudgetLog := .reserved i s.supply :: s.smsBudgetLog
    smsDeliveryLogs := reservedRow deps params phone ipHash s :: s.smsDeliveryLogs }

theorem reserve_kept (inv : BudgetInv deps realm s) (ps : SendParams)
    (phone : String) (ipHash : Option String) :
    BudgetInv deps realm (reserve deps i ps phone ipHash s) ∧
      ∀ j, j ≠ i → BudgetRely j s (reserve deps i ps phone ipHash s) := by
  have rows : ledger (reserve deps i ps phone ipHash s) =
      [reservedRow deps ps phone ipHash s] ++ ledger s := rfl
  have log : (reserve deps i ps phone ipHash s).smsBudgetLog =
      [.reserved i s.supply] ++ s.smsBudgetLog := rfl
  have id : (reservedRow deps ps phone ipHash s).id = s.supply := rfl
  constructor
  · refine ⟨?_, ?_, ?_, ?_, ?_, inv.once⟩
    · intro row isRow
      rw [rows, singleton_append, mem_cons] at isRow
      rcases isRow with rfl | old
      · exact ⟨lt_succ_self _, le_refl _⟩
      · have := inv.drawn row old
        exact ⟨lt_succ_of_lt this.1, this.2⟩
    · rw [rows, singleton_append, map_cons, nodup_cons]
      refine ⟨?_, inv.unique⟩
      intro mem
      obtain ⟨old, isRow, same⟩ := mem_map.mp mem
      have := (inv.drawn old isRow).1
      omega
    · intro a b logId first snd
      rw [log, singleton_append, mem_cons] at first snd
      rcases first with same | old
      · cases same
        rcases snd with same | old
        · cases same
          rfl
        · exact absurd (inv.reserved b _ old) (lt_irrefl _)
      · rcases snd with same | old'
        · cases same
          exact absurd (inv.reserved a _ old) (lt_irrefl _)
        · exact inv.owned a b logId old old'
    · intro a logId mem
      rw [log, singleton_append, mem_cons] at mem
      rcases mem with same | old
      · cases same
        exact lt_succ_self _
      · exact lt_succ_of_lt (inv.reserved a logId old)
    · intro a logId at_ mem
      rw [log, singleton_append, mem_cons] at mem
      rcases mem with same | old
      · cases same
      · obtain ⟨isReserved, row, isRow, isId, pre, within⟩ := inv.handed a logId at_ old
        refine ⟨by simp [log, isReserved], row, by simp [rows, isRow], isId, pre, fun here => ?_⟩
        rw [rows]
        refine (within here).append fun r mem => ?_
        rw [mem_singleton.mp mem, id]
        exact (inv.drawn row isRow).1
  · intro j other
    refine ⟨le_succ _, le_refl _, ⟨_, rows, ?_⟩, ⟨_, log, ?_⟩⟩
    · intro row mem
      rw [mem_singleton.mp mem, id]
    · intro ev mem
      rw [mem_singleton.mp mem]
      exact other.symm

theorem reserve_reserved (deps : Deps) (h : Unreserved i s) (ps : SendParams) (phone : String)
    (ipHash : Option String) : HasSlot i (reservedRow deps ps phone ipHash s)
      (reserve deps i ps phone ipHash s) := by
  refine ⟨mem_cons_self, mem_cons_self, lt_succ_self _, fun logId at_ mem => ?_⟩
  rcases mem_cons.mp mem with same | old
  · cases same
  · exact h _ old rfl

def Passed (deps : Deps) (realm : Realm) (i : Nat) (row : SmsDeliveryLog)
    (r : Except Failure Bool) (s : Store) : Prop :=
  HasSlot i row s ∧ (r = .ok true → row.realmId = realm.id → WithinLimits deps realm (ledger s) row)

theorem checkSendLimits_sat {ps : SendParams} {phone : String} {ipHash : Option String} {now : Int}
    (fixed : ps.realm.id = realm.id → ps.realm = realm)
    (isRealm : row.realmId = ps.realm.id) (isUser : row.userId = ps.userId)
    (isPhone : row.phoneHash = phoneHash deps phone) (isIp : row.ipHash = ipHash)
    (after : now ≤ row.createdAt) (reserved : HasSlot i row s) :
    (checkSendLimits deps ps phone ipHash now).Sat (budgetProtocol deps realm) allowed i
      (Passed deps realm i row) s := by
  refine .read_bind fun s1 move1 _ => .read_bind fun s2 move2 _ => ?_
  have reserved1 := reserved.stable move1
  have reserved2 := reserved1.stable move2
  refine .bind ?_
  -- the count by address, when there is one
  have byIp : (countByIp ps (now - windowMs ps.realm) ipHash).Sat
      (budgetProtocol deps realm) allowed i (fun r t => BudgetRely i s2 t ∧
        ∀ k, r = .ok k → k ≤ SMS_OTP_MAX_SENDS_PER_IP → row.realmId = realm.id →
          ∀ hash, row.ipHash = some hash → Counted SmsDeliveryLog.id createdAt
            (ofIp realm hash) (windowMs realm) SMS_OTP_MAX_SENDS_PER_IP (ledger t) row) s2 := by
    cases ipHash with
    | none =>
      refine fun t move inv => ⟨move, fun k _ _ _ hash isHash => ?_⟩
      rw [isIp] at isHash
      cases isHash
    | some hash =>
      intro t move inv _
      refine ⟨inv, fun j _ => .refl j t, fun u later _ => ⟨.trans i move later, ?_⟩⟩
      intro k isCount atMost here hash' isHash
      have reservedT := reserved2.stable move
      have same : hash = hash' := some.inj (isIp.symm.trans isHash)
      have realms : ps.realm = realm := fixed (isRealm.symm.trans here)
      subst same
      subst realms
      cases isCount
      exact counted_stable reservedT.drawn later (counted_of_countP (now - windowMs ps.realm)
        (by omega) (fun _ => rfl) rfl (Int.ofNat_le.mpr atMost))
  refine .mono ?_ byIp
  rintro (f | k) s3 ⟨move3, ipCounted⟩
  · exact ⟨reserved2.stable move3, fun same => by cases same⟩
  · refine .read_bind fun s4 move4 _ => ?_
    have reserved4 := (reserved2.stable move3).stable move4
    intro s5 move5 _
    refine ⟨reserved4.stable move5, fun passed here => ?_⟩
    have realms : ps.realm = realm := fixed (isRealm.symm.trans here)
    have checks := Except.ok.inj passed
    simp only [and_eq_true, decide_eq_true_eq] at checks
    obtain ⟨⟨⟨user, phone_⟩, ip⟩, hour⟩ := checks
    have from1 : BudgetRely i s1 s5 :=
      .trans i move2 (.trans i move3 (.trans i move4 move5))
    have from2 : BudgetRely i s2 s5 :=
      .trans i move3 (.trans i move4 move5)
    subst realms
    refine ⟨?_, ?_, ?_, ?_⟩
    · rw [isUser]
      exact counted_stable reserved1.drawn from1 (counted_of_countP (now - windowMs ps.realm)
        (by omega) (fun _ => rfl) rfl user)
    · rw [isPhone]
      exact counted_stable reserved2.drawn from2 (counted_of_countP (now - windowMs ps.realm)
        (by omega) (fun _ => rfl) rfl phone_)
    · intro hash isHash
      exact counted_stable (reserved2.stable move3).drawn (.trans i move4 move5)
        (ipCounted k rfl ip here hash isHash)
    · exact counted_stable reserved4.drawn move5 (counted_of_countP (now - hourMs)
        (by omega) (fun _ => rfl) rfl hour)

def handOver (i logId : Nat) (row : OtpAttempt) (s : Store) : Store :=
  { s with
    smsLog := .sent i row :: s.smsLog
    smsBudgetLog := .handed i logId s.now :: s.smsBudgetLog }

theorem handOver_kept (inv : BudgetInv deps realm s) (reserved : HasSlot i row s)
    (within : row.realmId = realm.id → WithinLimits deps realm (ledger s) row)
    (attempt : OtpAttempt) : BudgetInv deps realm (handOver i row.id attempt s) ∧
      ∀ j, j ≠ i → BudgetRely j s (handOver i row.id attempt s) := by
  have log : (handOver i row.id attempt s).smsBudgetLog =
      [.handed i row.id s.now] ++ s.smsBudgetLog := rfl
  constructor
  · refine ⟨inv.drawn, inv.unique, ?_, ?_, ?_, ?_⟩
    · intro a b logId first snd
      rw [log, singleton_append, mem_cons] at first snd
      exact inv.owned a b logId (first.resolve_left (by simp)) (snd.resolve_left (by simp))
    · intro a logId mem
      rw [log, singleton_append, mem_cons] at mem
      exact inv.reserved a logId (mem.resolve_left (by simp))
    · intro a logId at_ mem
      rw [log, singleton_append, mem_cons] at mem
      rcases mem with same | old
      · cases same
        exact ⟨.tail _ reserved.reserved, row, reserved.isRow, rfl,
          (inv.drawn row reserved.isRow).2, within⟩
      · obtain ⟨isReserved, rest⟩ := inv.handed a logId at_ old
        exact ⟨.tail _ isReserved, rest⟩
    · -- another message of the row would have been handed over by this request
      refine nodup_cons.mpr ⟨fun mem => ?_, inv.once⟩
      obtain ⟨j, at_, old⟩ := mem_handedIds.mp mem
      have same := inv.owned j i row.id (inv.handed j row.id at_ old).1 reserved.reserved
      subst same
      exact reserved.unhanded row.id at_ old
  · intro j other
    refine ⟨le_refl _, le_refl _, ⟨[], rfl, by simp⟩, ⟨_, log, fun ev mem => ?_⟩⟩
    rw [mem_singleton.mp mem]
    exact other.symm

theorem deliver_budget (ps : SendParams)
    (attempt : OtpAttempt) (res : SendResult) (reserved : HasSlot i row s)
    (within : row.realmId = realm.id → WithinLimits deps realm (ledger s) row) :
    (deliver i ps row.id attempt res).Sat (budgetProtocol deps realm) allowed i
      (fun _ _ => True) s := by
  refine .modify_bind fun t move inv _ => ?_
  have within' : row.realmId = realm.id → WithinLimits deps realm (ledger t) row := by
    intro here
    obtain ⟨newer, rows, later⟩ := move.rows
    rw [rows]
    exact (within here).append fun r mem => lt_of_lt_of_le reserved.drawn (later r mem)
  obtain ⟨kept, os⟩ := handOver_kept inv (reserved.stable move) within' attempt
  refine ⟨kept, os, ?_⟩
  split
  all_goals
    refine .ofKeeps ?_ Elsewhere.respects fun _ _ _ _ => trivial
    exact .bind (updateDeliveryLog_elsewhere _ _) fun _ => trivial

theorem sendCode_budget (unreserved : Unreserved i s) (ps : SendParams)
    (fixed : ps.realm.id = realm.id → ps.realm = realm) :
    (sendCode deps i ps).Sat (budgetProtocol deps realm) allowed i (fun _ _ => True) s := by
  refine .keeps_bind (destination_elsewhere ps) Elsewhere.respects ?_ (fun _ _ _ _ => trivial)
  intro phone s1 move1 _
  refine .read_bind fun s2 move2 _ => .read_bind fun s3 move3 _ => ?_
  refine .keeps_bind (checkExisting_elsewhere ps _ _) Elsewhere.respects ?_ (fun _ _ _ _ => trivial)
  intro _ s4 move4 _
  refine .atomic_bind fun s5 move5 inv5 _ => ?_
  have unreserved5 : Unreserved i s5 :=
    ((((unreserved.stable move1).stable move2).stable move3).stable move4).stable move5
  have after : s2.now ≤ s5.now := (move3.clock.trans move4.clock).trans move5.clock
  obtain ⟨kept, os⟩ := reserve_kept (i := i) inv5 ps phone
    (if truthy ps.ip then ps.ip.map (deps.hmac "sms-ip") else none)
  refine ⟨kept, os, ?_⟩
  have reserved := reserve_reserved deps unreserved5 ps phone
    (if truthy ps.ip then ps.ip.map (deps.hmac "sms-ip") else none)
  refine .bind (.mono ?_ (checkSendLimits_sat fixed rfl rfl rfl rfl after reserved))
  rintro (f | withinLimits) s6 ⟨reserved6, passed⟩
  · trivial
  · cases withinLimits with
    | false => exact .ofKeeps (reject_elsewhere _ _) Elsewhere.respects fun _ _ _ _ => trivial
    | true =>
      refine .keeps_bind (storeCode_elsewhere ps _ _ _ _) Elsewhere.respects ?_
        (fun _ _ _ _ => trivial)
      intro written s7 move7 _
      cases written with
      | none => exact .ofKeeps (reject_elsewhere _ _) Elsewhere.respects fun _ _ _ _ => trivial
      | some attempt =>
        refine deliver_budget ps attempt _ (reserved6.stable move7) fun here => ?_
        obtain ⟨newer, rows, later⟩ := move7.rows
        rw [rows]
        exact (passed rfl here).append fun r mem =>
          lt_of_lt_of_le reserved6.drawn (later r mem)

end Sending

section Runs

/-- Any number of sends, about to start on the store `s`. -/
def sendPool (deps : Deps) (params : Nat → SendParams) (s : Store) :
    Pool Nat Store Failure SendResult :=
  ⟨s, fun i => sendCode deps i (params i)⟩

/-- Any order of the steps of all sends and of the rest of the server. -/
def SendsReach (c c' : Pool Nat Store Failure SendResult) : Prop :=
  Pool.Reaches Elsewhere (fun _ _ => True) c c'

/-- A delivery log at the start: rows have identifiers of their own and were not created in the
future. -/
structure DeliveryLogOk (s : Store) : Prop where
  drawn : ∀ log ∈ s.smsDeliveryLogs, log.id < s.supply ∧ log.createdAt ≤ s.now
  unique : (s.smsDeliveryLogs.map SmsDeliveryLog.id).Nodup

def messages (s : Store) (which : SmsDeliveryLog → Bool) : Nat :=
  (handedIds s.smsBudgetLog).countP fun logId =>
    s.smsDeliveryLogs.any fun log => log.id = logId && which log

def createdWithin (a b : Int) (log : SmsDeliveryLog) : Bool :=
  a ≤ log.createdAt && log.createdAt ≤ b

variable {deps : Deps} {realm : Realm}

theorem BudgetInv.initial (ok : DeliveryLogOk s) (noLog : s.smsBudgetLog = []) :
    BudgetInv deps realm s := by
  refine ⟨?_, ?_, by simp [noLog], by simp [noLog], by simp [noLog], by simp [noLog, handedIds]⟩
  · intro row isRow
    obtain ⟨log, isLog, rfl⟩ := mem_map.mp isRow
    exact ok.drawn log isLog
  · rw [ledger, map_map]
    exact ok.unique

theorem BudgetInv.messages_le (inv : BudgetInv deps realm s) {window limit a b : Int} (positive : 0 ≤ limit)
    (span : b ≤ a + window)
    (cnt : ∀ row, key row = true → (row.realmId = realm.id → WithinLimits deps realm (ledger s) row) →
      Counted SmsDeliveryLog.id createdAt key window limit (ledger s) row)
    (status : ∀ log, key (settled log) = key log) :
    messages s (fun log => key log && createdWithin a b log) ≤ limit := by
  have each : ∀ n ∈ (handedIds s.smsBudgetLog).filter (fun logId =>
      s.smsDeliveryLogs.any fun log => log.id = logId && (key log && createdWithin a b log)),
      ∃ row ∈ ledger s, row.id = n ∧ key row = true ∧ a ≤ row.createdAt ∧ row.createdAt ≤ b ∧
        Counted SmsDeliveryLog.id createdAt key window limit (ledger s) row := by
    intro n mem
    obtain ⟨isHanded, hasRow⟩ := mem_filter.mp mem
    obtain ⟨i, at_, ev⟩ := mem_handedIds.mp isHanded
    obtain ⟨-, row, isRow, isId, -, within⟩ := inv.handed i n at_ ev
    rw [any_eq_true] at hasRow
    obtain ⟨log, isLog, test⟩ := hasRow
    simp only [and_eq_true, decide_eq_true_eq, createdWithin] at test
    obtain ⟨sameId, isKey, after, pre⟩ := test
    have same : settled log = row :=
      inj_on_of_nodup_map inv.unique (mem_map_of_mem isLog) isRow (sameId.trans isId.symm)
    subst same
    have keyRow : key (settled log) = true := by rw [status, isKey]
    exact ⟨settled log, isRow, isId, keyRow, after, pre, cnt _ keyRow within⟩
  rw [messages, List.countP_eq_length_filter]
  exact length_le_of_counted (inv.once.filter _) positive span each

/-- However the sends of a realm with fixed settings interleave: of the messages whose rows of
the delivery log were created within a window, at most the allowed number per user, phone and
address were handed to the provider, and within an hour at most the allowed number for the
realm.  Every message that was handed over has its row, which was created before. -/
theorem sms_send_budget (deps : Deps) (realm : Realm) (ps : Nat → SendParams)
    (fixed : ∀ i, (ps i).realm.id = realm.id → (ps i).realm = realm)
    (s : Store) (ok : DeliveryLogOk s) (noLog : s.smsBudgetLog = [])
    (c : Pool Nat Store Failure SendResult) (reached : SendsReach (sendPool deps ps s) c) :
    (∀ i logId at_, .handed i logId at_ ∈ c.state.smsBudgetLog →
      ∃ log ∈ c.state.smsDeliveryLogs, log.id = logId ∧ log.createdAt ≤ at_) ∧
    (∀ a b, b ≤ a + clamp realm.smsRateLimitWindow 60 86400 900 * 1000 →
      (∀ uid, messages c.state (fun log => ofUser realm uid log && createdWithin a b log) ≤
        clamp realm.smsMaxRequestsPerUser 1 100 3) ∧
      (∀ hash, messages c.state (fun log => ofPhone realm hash log && createdWithin a b log) ≤
        clamp realm.smsMaxRequestsPerUser 1 100 3) ∧
      (∀ hash, messages c.state (fun log => ofIp realm hash log && createdWithin a b log) ≤
        SMS_OTP_MAX_SENDS_PER_IP)) ∧ (∀ a b, b ≤ a + 3600000 →
      messages c.state (fun log => ofRealm realm log && createdWithin a b log) ≤
        clamp deps.smsRealmHourlyLimit 1 1000000 1000) := by
  have init : BudgetInv deps realm s := .initial ok noLog
  have threads : ∀ i, (sendCode deps i (ps i)).Sat (budgetProtocol deps realm)
      (fun _ _ => True) i (fun _ _ => True) s :=
    fun i => sendCode_budget (fun ev mem => by simp [noLog] at mem) (ps i) (fixed i)
  have inv : BudgetInv deps realm c.state := (Pool.sound init threads Elsewhere.respects reached).1
  refine ⟨?_, fun a b span => ⟨fun uid => ?_, fun hash => ?_, fun hash => ?_⟩, fun a b span => ?_⟩
  · intro i logId at_ ev
    obtain ⟨-, row, isRow, isId, pre, -⟩ := inv.handed i logId at_ ev
    obtain ⟨log, isLog, rfl⟩ := mem_map.mp isRow
    exact ⟨log, isLog, isId, pre⟩
  · refine inv.messages_le (clamp_nonneg (by omega) (by omega) (by omega)) span ?_ fun _ => rfl
    intro row isKey within
    simp only [ofUser, and_eq_true, decide_eq_true_eq] at isKey
    rw [← isKey.2]
    exact (within isKey.1).user
  · refine inv.messages_le (clamp_nonneg (by omega) (by omega) (by omega)) span ?_ fun _ => rfl
    intro row isKey within
    simp only [ofPhone, and_eq_true, decide_eq_true_eq] at isKey
    rw [← isKey.2]
    exact (within isKey.1).phone
  · refine Int.ofNat_le.mp (inv.messages_le (by decide) span ?_ fun _ => rfl)
    intro row isKey within
    simp only [ofIp, and_eq_true, decide_eq_true_eq] at isKey
    exact (within isKey.1).ip hash isKey.2
  · refine inv.messages_le (clamp_nonneg (by omega) (by omega) (by omega)) span ?_ fun _ => rfl
    intro row isKey within
    simp only [ofRealm, decide_eq_true_eq] at isKey
    exact (within isKey).hour

/-- How many messages were handed over between two times, by the row of the delivery log. -/
def handedWithin (s : Store) (a b : Int) (which : SmsDeliveryLog → Bool) : Nat :=
  s.smsBudgetLog.countP fun
    | .handed _ logId at_ => a ≤ at_ && at_ ≤ b &&
        s.smsDeliveryLogs.any fun log => log.id = logId && which log
    | .reserved _ _ => false

end Runs

section Example

def tightRealm : Realm :=
  { id := 1, name := "acme", smsProvider := "twilio", smsMaxRequestsPerUser := 1,
    smsRateLimitWindow := 60 }

def twoLogins (i : Nat) : SendParams :=
  { realm := tightRealm, userId := 2, purpose := .login,
    binding := if i = 0 then "first" else "second" }

def phoneStore : Store where
  supply := 10
  userCredentials :=
    [{ userId := 2, type := .sms, phoneNumber := some "+201012345678", verified := true }]

def slowSend : Pool Nat Store Failure SendResult :=
  (sendPool .transparent twoLogins phoneStore).schedule (List.replicate 8 0)

/-- A minute later the second send runs, and the first one goes on. -/
def slowSends : Pool Nat Store Failure SendResult :=
  (⟨{ slowSend.state with now := 60001 }, slowSend.procs⟩ : Pool Nat Store Failure SendResult).schedule
    (List.replicate 9 1 ++ [0])

theorem slowSends_reached : SendsReach (sendPool .transparent twoLogins phoneStore) slowSends := by
  have first : SendsReach (sendPool .transparent twoLogins phoneStore) slowSend :=
    Pool.reaches_schedule rfl
  have minute : Pool.Step Elsewhere (fun _ _ => True) slowSend
      ⟨{ slowSend.state with now := 60001 }, slowSend.procs⟩ :=
    .env ⟨le_refl _, by decide, rfl, rfl⟩
  exact first.trans (.head minute (Pool.reaches_schedule rfl))

theorem phoneStore_ok : DeliveryLogOk phoneStore := ⟨by simp [phoneStore], by simp [phoneStore]⟩

theorem sms_send_budget_slowSends :
    messages slowSends.state (fun log => ofUser tightRealm 2 log && createdWithin 60001 60001 log) ≤
      clamp tightRealm.smsMaxRequestsPerUser 1 100 3 :=
  ((sms_send_budget .transparent tightRealm twoLogins (fun _ _ => rfl) phoneStore phoneStore_ok rfl
    slowSends slowSends_reached).2.1 60001 60001 (by decide)).1 2

/-- By the times of their hand-over, two messages go out within a window that allows one. -/
theorem slow_sends_exceed_the_window : ¬ ∀ (deps : Deps) (realm : Realm) (ps : Nat → SendParams),
      (∀ i, (ps i).realm.id = realm.id → (ps i).realm = realm) →
      ∀ s, DeliveryLogOk s → s.smsBudgetLog = [] → ∀ c, SendsReach (sendPool deps ps s) c →
      ∀ a b, b < a + clamp realm.smsRateLimitWindow 60 86400 900 * 1000 →
      ∀ uid, handedWithin c.state a b (ofUser realm uid) ≤
        clamp realm.smsMaxRequestsPerUser 1 100 3 := by
  intro all
  have two := all .transparent tightRealm twoLogins (fun _ _ => rfl) phoneStore phoneStore_ok rfl
    slowSends slowSends_reached 60001 60001 (by decide) 2
  have count : handedWithin slowSends.state 60001 60001 (ofUser tightRealm 2) = 2 := by decide +kernel
  rw [count] at two
  exact absurd two (by decide)

end Example

end Idenplane.Sms
