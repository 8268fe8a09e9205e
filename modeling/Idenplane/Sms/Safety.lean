import Idenplane.Sms.Challenge
import Idenplane.Lib.Pool
import Mathlib.Data.List.Pairwise
import Mathlib.Data.List.Perm.Subperm

/-! # Concurrent requests for text message codes

Any number of sends, verifications and clean-ups run side by side, one database
call at a time, while the clock moves and users come and go.  Each step of each
request is a `Change`, so the invariant of the challenges holds throughout; what a
verification learns on its way is kept by what the other requests may do.
-/

namespace Idenplane.Sms

open Atomic List Table Pool

variable {i j : Nat} {s s' : Store} {ps : VerifyParams}

structure SameChallenge (a b : OtpAttempt) : Prop where
  id : a.id = b.id
  realmId : a.realmId = b.realmId
  userId : a.userId = b.userId
  purpose : a.purpose = b.purpose
  bindingHash : a.bindingHash = b.bindingHash

theorem SameChallenge.refl (a : OtpAttempt) : SameChallenge a a := ⟨rfl, rfl, rfl, rfl, rfl⟩

theorem SameChallenge.trans {a b c : OtpAttempt} (h : SameChallenge a b) (k : SameChallenge b c) :
    SameChallenge a c :=
  ⟨h.id.trans k.id, h.realmId.trans k.realmId, h.userId.trans k.userId,
    h.purpose.trans k.purpose, h.bindingHash.trans k.bindingHash⟩

/-- How the others may move the store under request `i`. -/
structure Rely (i : Nat) (s s' : Store) : Prop where
  supply : s.supply ≤ s'.supply
  log : ∃ recent, s'.smsLog = recent ++ s.smsLog ∧ ∀ event ∈ recent, eventRequest event ≠ i
  rows : ∀ row ∈ s'.otpAttempts, (∃ old ∈ s.otpAttempts, SameChallenge old row) ∨ s.supply ≤ row.id

theorem Rely.refl (i : Nat) (s : Store) : Rely i s s :=
  ⟨le_refl _, ⟨[], rfl, by simp⟩, fun row isRow => .inl ⟨row, isRow, .refl row⟩⟩

theorem Rely.trans (i : Nat) {a b c : Store} (h : Rely i a b) (k : Rely i b c) : Rely i a c where
  supply := h.supply.trans k.supply
  log := grown_trans h.log k.log
  rows := by
    intro row isRow
    rcases k.rows row isRow with ⟨middle, isMiddle, same⟩ | fresh
    · rcases h.rows middle isMiddle with ⟨old, isOld, same'⟩ | fresh
      · exact .inl ⟨old, isOld, same'.trans same⟩
      · exact .inr (same.id ▸ fresh)
    · exact .inr (h.supply.trans fresh)

def protocol : Protocol Nat Store := ⟨Inv, Rely, Rely.refl, Rely.trans⟩

/-- What the rest of the server does: rows disappear with their user, nothing else
happens to the one-time codes. -/
structure Untouched (s s' : Store) : Prop where
  rows : s'.otpAttempts.Sublist s.otpAttempts
  log : s'.smsLog = s.smsLog
  supply : s.supply ≤ s'.supply

theorem Untouched.refl (s : Store) : Untouched s s := ⟨.refl _, rfl, le_refl _⟩

theorem Untouched.respects (t t' : Store) (inv : Inv t) (h : Untouched t t') :
    Inv t' ∧ ∀ j, Rely j t t' := by
  refine ⟨inv.step (.removed (i := 0) h.rows h.log h.supply), fun j => ⟨h.supply, ?_, ?_⟩⟩
  · exact ⟨[], by simpa using h.log, by simp⟩
  · exact fun row isRow => .inl ⟨row, h.rows.subset isRow, .refl row⟩

theorem Change.rely (chg : Change i s s') (other : j ≠ i) : Rely j s s' := by
  have one : ∀ event, eventRequest event = i → s'.smsLog = event :: s.smsLog →
      ∃ recent, s'.smsLog = recent ++ s.smsLog ∧ ∀ e ∈ recent, eventRequest e ≠ j := by
    intro event own log
    refine ⟨[event], log, fun e mem => ?_⟩
    rw [mem_singleton.mp mem, own]
    exact other.symm
  cases chg with
  | removed rows log supply =>
    exact ⟨supply, ⟨[], by simpa using log, by simp⟩,
      fun row isRow => .inl ⟨row, rows.subset isRow, .refl row⟩⟩
  | created row fresh untouched first free rows log supply =>
    refine ⟨by omega, one _ rfl log, fun r isRow => ?_⟩
    rw [rows] at isRow
    rcases mem_cons.mp isRow with rfl | old
    · exact .inr (by omega)
    · exact .inl ⟨r, old, .refl r⟩
  | resent row fs mem waited budget rows log supply =>
    refine ⟨by omega, one _ rfl log, fun r isRow => ?_⟩
    rw [rows] at isRow
    rcases mem_replace isRow with rfl | ⟨old, -⟩
    · exact .inl ⟨row, mem, ⟨rfl, rfl, rfl, rfl, rfl⟩⟩
    · exact .inl ⟨r, old, .refl r⟩
  | handed row stored notYet rows log supply =>
    exact ⟨by omega, one _ rfl log, fun r isRow => .inl ⟨r, rows ▸ isRow, .refl r⟩⟩
  | guessed row now mem budget live rows log supply =>
    refine ⟨by omega, one _ rfl log, fun r isRow => ?_⟩
    rw [rows] at isRow
    rcases mem_replace isRow with rfl | ⟨old, -⟩
    · exact .inl ⟨row, mem, ⟨rfl, rfl, rfl, rfl, rfl⟩⟩
    · exact .inl ⟨r, old, .refl r⟩
  | claimed row mem rows log supply =>
    refine ⟨by omega, one _ rfl log, fun r isRow => ?_⟩
    rw [rows] at isRow
    exact .inl ⟨r, mem_of_mem_filter isRow, .refl r⟩

theorem Change.kept (chg : Change i s s') (inv : Inv s) : Inv s' ∧ ∀ j, j ≠ i → Rely j s s' :=
  ⟨inv.step chg, fun _ other => chg.rely other⟩

section Sending

variable {d : Deps} {i : Nat} {allowed : Store → Store → Prop} {row : OtpAttempt}

theorem destination_keeps (ps : SendParams) : (destination d ps).Keeps Untouched := by
  unfold destination
  split
  · exact .bind (.require _ _) fun _ => .orFail _ _
  all_goals exact .bind (.require _ _) fun _ => .bind (.read .refl _) fun _ => .orFail _ _

theorem checkExisting_keeps (ps : SendParams) (now : Int) (old : Option OtpAttempt) :
    (checkExisting ps now old).Keeps Untouched := by
  cases old with
  | none => trivial
  | some row =>
    exact .bind (.require _ _) fun _ => .bind (.require _ _) fun _ =>
      .bind (.require _ _) fun _ => .require _ _

theorem createDeliveryLog_keeps (ps : SendParams) (phone : String) (ipHash : Option String) :
    (createDeliveryLog d i ps phone ipHash).Keeps Untouched :=
  .atomic fun _ => ⟨.refl _, rfl, le_succ _⟩

theorem updateDeliveryLog_keeps (logId : Nat) (status : DeliveryStatus) :
    (updateDeliveryLog logId status).Keeps Untouched :=
  .modify fun _ => ⟨.refl _, rfl, le_refl _⟩

theorem checkSendLimits_keeps (ps : SendParams) (phone : String) (ipHash : Option String)
    (now : Int) : (checkSendLimits d ps phone ipHash now).Keeps Untouched := by
  have byIp : ∀ start, (countByIp ps start ipHash).Keeps Untouched := by
    intro start
    cases ipHash with
    | none => trivial
    | some hash => exact .read .refl _
  exact .bind (.read .refl _) fun _ => .bind (.read .refl _) fun _ => .bind (byIp _) fun _ =>
    .bind (.read .refl _) fun _ => trivial

theorem reject_keeps {α : Type} (logId : Nat) (error : Failure) :
    (reject logId error : Op α).Keeps Untouched :=
  .bind (updateDeliveryLog_keeps logId _) fun _ => trivial

/-- Nothing in the history is the work of request `i`. -/
def Quiet (i : Nat) (s : Store) : Prop := ∀ event ∈ s.smsLog, eventRequest event ≠ i

theorem Quiet.stable (h : Quiet i s) (move : Rely i s s') : Quiet i s' := by
  obtain ⟨recent, log, foreign⟩ := move.log
  intro ev mem
  rw [log] at mem
  rcases mem_append.mp mem with new | old
  · exact foreign ev new
  · exact h ev old

/-- The only work of request `i` is that it stored `row`. -/
structure Stored (i : Nat) (row : OtpAttempt) (s : Store) : Prop where
  stored : .stored i row ∈ s.smsLog
  unsent : ∀ other, .sent i other ∉ s.smsLog

theorem Stored.stable (h : Stored i row s) (move : Rely i s s') : Stored i row s' := by
  obtain ⟨recent, log, foreign⟩ := move.log
  refine ⟨by simp [log, h.stored], fun other sent => ?_⟩
  rw [log] at sent
  rcases mem_append.mp sent with new | old
  · exact foreign _ new rfl
  · exact h.unsent other old

theorem Quiet.after (h : Quiet i s)
    (log : s'.smsLog = .stored i row :: s.smsLog) : Stored i row s' := by
  refine ⟨by simp [log], fun other sent => ?_⟩
  rw [log] at sent
  rcases mem_cons.mp sent with same | old
  · cases same
  · exact h _ old rfl

theorem claimResend_change (inv : Inv s) (old : OtpAttempt) {now : Int}
    {fs : CodeFields} (sentNow : fs.lastSentAt = now) :
    ((claimResend i old now fs s).1 = none ∧ (claimResend i old now fs s).2 = s) ∨
    ∃ row, (claimResend i old now fs s).1 = some row ∧
      (claimResend i old now fs s).2.smsLog = .stored i row :: s.smsLog ∧
      Change i s (claimResend i old now fs s).2 := by
  unfold claimResend
  split
  · exact .inl ⟨rfl, rfl⟩
  · rename_i row hit
    have mem := mem_of_find?_eq_some hit
    have passes := find?_some hit
    simp only [mayResend, and_eq_true, decide_eq_true_eq] at passes
    refine .inr ⟨_, rfl, rfl, .resent row fs mem ?_ passes.1.2 ?_ rfl rfl⟩
    · rw [sentNow]
      exact passes.1.1.2
    · apply map_ite_eq_replace mem inv.keys.ids (find?_some hit)
      · intro r _ test
        simp only [mayResend, and_eq_true, decide_eq_true_eq] at test
        rw [test.1.1.1, passes.1.1.1]
      · rfl

theorem createRow_change (s : Store) (ps : SendParams) (binding : String)
    (fs : CodeFields) : ((createRow i ps binding fs s).1 = none ∧
      (createRow i ps binding fs s).2 = s) ∨
    ∃ row, (createRow i ps binding fs s).1 = some row ∧
      (createRow i ps binding fs s).2.smsLog = .stored i row :: s.smsLog ∧
      Change i s (createRow i ps binding fs s).2 := by
  unfold createRow
  split
  · exact .inl ⟨rfl, rfl⟩
  · rename_i missing
    refine .inr ⟨_, rfl, rfl, .created _ rfl rfl rfl ?_ rfl rfl rfl⟩
    intro r isRow same
    have none_ := find?_eq_none.mp missing r isRow
    simp [same] at none_

theorem sendSms_change (logId : Nat) (h : Stored i row s) : Change i s { s with
      smsLog := .sent i row :: s.smsLog
      smsBudgetLog := .handed i logId s.now :: s.smsBudgetLog } :=
  .handed row h.stored h.unsent rfl rfl rfl

theorem deliver_sat (ps : SendParams) (logId : Nat) (res : SendResult) (h : Stored i row s) :
    (deliver i ps logId row res).Sat protocol allowed i (fun _ _ => True) s := by
  refine .modify_bind fun t move inv _ => ?_
  obtain ⟨kept, os⟩ := (sendSms_change logId (h.stable move)).kept inv
  refine ⟨kept, os, ?_⟩
  split
  all_goals
    refine .ofKeeps ?_ Untouched.respects fun _ _ _ _ => trivial
    exact .bind (updateDeliveryLog_keeps logId _) fun _ => trivial

theorem storeCode_sat (quiet : Quiet i s) (ps : SendParams) (binding : String)
    (now : Int) {fs : CodeFields} (sentNow : fs.lastSentAt = now)
    (old : Option OtpAttempt) :
    (storeCode i ps binding now fs old).Sat protocol allowed i
      (fun r t => ∀ row, r = .ok (some row) → Stored i row t) s := by
  -- Both ways to store are one atomic step that changes nothing or stores a code.
  have step : ∀ g : Store → Option OtpAttempt × Store,
      (∀ t, Inv t → ((g t).1 = none ∧ (g t).2 = t) ∨ ∃ row, (g t).1 = some row ∧
        (g t).2.smsLog = .stored i row :: t.smsLog ∧ Change i t (g t).2) →
      (atomic g : Op (Option OtpAttempt)).Sat protocol allowed i
        (fun r t => ∀ row, r = .ok (some row) → Stored i row t) s := by
    intro g stores
    refine .atomic fun t move inv _ => ?_
    rcases stores t inv with ⟨none_, same⟩ | ⟨row, written, log, chg⟩
    · rw [same]
      refine ⟨inv, fun j _ => .refl j t, fun u _ _ row isRow => ?_⟩
      rw [none_] at isRow
      cases isRow
    · obtain ⟨kept, os⟩ := chg.kept inv
      refine ⟨kept, os, fun u later _ row' isRow => ?_⟩
      rw [written] at isRow
      cases isRow
      exact ((quiet.stable move).after log).stable later
  cases old with
  | some row => exact step _ fun t inv => claimResend_change inv row sentNow
  | none => exact step _ fun t _ => createRow_change t ps binding fs

theorem sendCode_sat (quiet : Quiet i s) (ps : SendParams) :
    (sendCode d i ps).Sat protocol allowed i (fun _ _ => True) s := by
  refine .keeps_bind (destination_keeps ps) Untouched.respects ?_ (fun _ _ _ _ => trivial)
  intro phone s1 move1 _
  refine .read_bind fun s2 move2 _ => .read_bind fun s3 move3 _ => ?_
  refine .keeps_bind (checkExisting_keeps ps _ _) Untouched.respects ?_ (fun _ _ _ _ => trivial)
  intro _ s4 move4 _
  refine .keeps_bind (createDeliveryLog_keeps ps phone _) Untouched.respects ?_
    (fun _ _ _ _ => trivial)
  intro logId s5 move5 _
  refine .keeps_bind (checkSendLimits_keeps ps phone _ _) Untouched.respects ?_
    (fun _ _ _ _ => trivial)
  intro withinLimits s6 move6 _
  have quiet6 : Quiet i s6 :=
    (((((quiet.stable move1).stable move2).stable move3).stable move4).stable move5).stable move6
  split
  · exact .ofKeeps (reject_keeps logId _) Untouched.respects fun _ _ _ _ => trivial
  · refine .bind (.mono ?_ (storeCode_sat quiet6 ps _ _ (codeFields_lastSentAt d ps phone _ _) _))
    intro r t stored
    cases r with
    | error e => trivial
    | ok written =>
      cases written with
      | none => exact .ofKeeps (reject_keeps logId _) Untouched.respects fun _ _ _ _ => trivial
      | some row => exact deliver_sat ps logId _ (stored row rfl)

end Sending

/-- Request `i` was right about the code of `row`.  The history, newest first, is cut
at its claim and at its reservation: `earlier` is the history at the claim, `before`
the history at the reservation. -/
def Accepted (d : Deps) (i : Nat) (params : VerifyParams) (row : OtpAttempt)
    (log : List SmsEvent) : Prop :=
  ∃ after earlier between before at_ held, log = after ++ .claimed i row.id :: earlier ∧
    earlier = between ++ .reserved i row.id at_ :: before ∧
    -- The code stored last is the submitted one, for this user and realm.
    lastStored params.purpose (bindingHash d params.purpose params.binding) earlier = some row ∧
    row.codeHash = codeHash d (bindingHash d params.purpose params.binding)
      (Text.removeSpaces params.code) ∧
    row.userId = params.userId ∧ row.realmId = params.realmId ∧
    -- The code stored at the time of the reservation had not expired.
    lastStored params.purpose (bindingHash d params.purpose params.binding) before = some held ∧
    at_ < held.expiresAt

section Verifying

variable {d : Deps} {i : Nat} {allowed : Store → Store → Prop} {s s' : Store}
  {row : OtpAttempt} {now : Int}

theorem Accepted.stable (h : Accepted d i ps row s.smsLog)
    (move : Rely i s s') : Accepted d i ps row s'.smsLog := by
  obtain ⟨recent, log, -⟩ := move.log
  obtain ⟨after, earlier, between, pre, at_, held, claimed, rest⟩ := h
  exact ⟨recent ++ after, earlier, between, pre, at_, held,
    by rw [log, claimed, append_assoc], rest⟩

/-- `row` was read from the table; a row with its identifier is still that row. -/
structure Seen (row : OtpAttempt) (s : Store) : Prop where
  drawn : row.id < s.supply
  same : ∀ r ∈ s.otpAttempts, r.id = row.id → SameChallenge row r

theorem Seen.read (inv : Inv s) (mem : row ∈ s.otpAttempts) : Seen row s where
  drawn := inv.keys.drawn row mem
  same := by
    intro r isRow id
    rw [inv.keys.id_inj isRow mem id]
    exact .refl row

theorem Seen.stable (h : Seen row s) (move : Rely j s s') : Seen row s' where
  drawn := h.drawn.trans_le move.supply
  same := by
    intro r isRow id
    rcases move.rows r isRow with ⟨old, isOld, same⟩ | fresh
    · exact (h.same old isOld (same.id.trans id)).trans same
    · have := h.drawn
      omega

theorem Seen.change (h : Seen row s) (chg : Change i s s') : Seen row s' :=
  h.stable (chg.rely (Nat.succ_ne_self i))

/-- Request `i` reserved a guess at `row` when its code had not expired. -/
def Reserved (i : Nat) (row : OtpAttempt) (now : Int) (s : Store) : Prop :=
  ∃ between before held, s.smsLog = between ++ .reserved i row.id now :: before ∧
    lastStored row.purpose row.bindingHash before = some held ∧ now < held.expiresAt

theorem Reserved.stable (h : Reserved i row now s) (move : Rely i s s') :
    Reserved i row now s' := by
  obtain ⟨recent, log, -⟩ := move.log
  obtain ⟨between, pre, held, cut, rest⟩ := h
  exact ⟨recent ++ between, pre, held, by rw [log, cut, append_assoc], rest⟩

theorem reserveGuess_change (inv : Inv s) (seen : Seen row s) :
    ((reserveGuess i row.id now s).1 = 0 ∧ (reserveGuess i row.id now s).2 = s) ∨
    (Reserved i row now (reserveGuess i row.id now s).2 ∧
      Change i s (reserveGuess i row.id now s).2) := by
  unfold reserveGuess
  simp only
  split
  · exact .inl ⟨rfl, rfl⟩
  · rename_i some_
    obtain ⟨r, mem, passes⟩ := countP_pos_iff.mp (Nat.pos_of_ne_zero some_)
    have test := passes
    simp only [mayGuess, and_eq_true, decide_eq_true_eq] at test
    obtain ⟨⟨id, budget⟩, live⟩ := test
    have same := seen.same r mem id
    refine .inr ⟨?_, .guessed r now mem budget live ?_ (by rw [id]) rfl⟩
    · obtain ⟨held, last, code⟩ := inv.last r mem
      refine ⟨[], s.smsLog, held, rfl, ?_, ?_⟩
      · rw [same.purpose, same.bindingHash]
        exact last
      · rw [code]
        exact live
    · apply map_ite_eq_replace mem inv.keys.ids passes
      · intro other _ otherTest
        simp only [mayGuess, and_eq_true, decide_eq_true_eq] at otherTest
        rw [otherTest.1.1, id]
      · rfl

theorem claimCode_change (inv : Inv s) : ((claimCode i row s).1 = 0 ∧ (claimCode i row s).2 = s) ∨
    ∃ r ∈ s.otpAttempts, r.id = row.id ∧ r.codeHash = row.codeHash ∧
      (claimCode i row s).2.smsLog = .claimed i row.id :: s.smsLog ∧
      Change i s (claimCode i row s).2 := by
  unfold claimCode
  simp only
  split
  · exact .inl ⟨rfl, rfl⟩
  · rename_i some_
    obtain ⟨r, mem, passes⟩ := countP_pos_iff.mp (Nat.pos_of_ne_zero some_)
    simp only [stillHolds, and_eq_true, decide_eq_true_eq] at passes
    obtain ⟨id, code⟩ := passes
    refine .inr ⟨r, mem, id, code, rfl, .claimed r mem ?_ (by rw [id]) rfl⟩
    apply filter_congr
    intro other isRow
    by_cases same : other.id = r.id
    · have isR : other = r := inv.keys.id_inj isRow mem same
      simp [isR, stillHolds, id, code]
    · simp [stillHolds, ← id, same]

theorem accepted_of_claim {r : OtpAttempt} (inv : Inv s)
    (seen : Seen row s) (reserved : Reserved i row now s) (mem : r ∈ s.otpAttempts)
    (id : r.id = row.id) (code : r.codeHash = row.codeHash) (purpose : row.purpose = ps.purpose)
    (binding : row.bindingHash = bindingHash d ps.purpose ps.binding)
    (u : row.userId = ps.userId) (realm : row.realmId = ps.realmId)
    (right : row.codeHash = codeHash d (bindingHash d ps.purpose ps.binding)
      (Text.removeSpaces ps.code)) (log : s'.smsLog = .claimed i row.id :: s.smsLog) :
    ∃ stored, Accepted d i ps stored s'.smsLog := by
  have same := seen.same r mem id
  obtain ⟨stored, last, copy⟩ := inv.last r mem
  obtain ⟨between, pre, held, cut, lastBefore, live⟩ := reserved
  have storedId : stored.id = row.id := by rw [copy, ← id]
  have storedCode : stored.codeHash = row.codeHash := by rw [copy, ← code]
  have storedUser : stored.userId = row.userId := by rw [copy, same.userId]
  have storedRealm : stored.realmId = row.realmId := by rw [copy, same.realmId]
  refine ⟨stored, [], s.smsLog, between, pre, now, held, ?_, ?_, ?_, ?_, ?_, ?_, ?_, live⟩
  · rw [storedId]
    exact log
  · rw [storedId]
    exact cut
  · rw [← binding, ← purpose, same.purpose, same.bindingHash]
    exact last
  · rw [storedCode]
    exact right
  · exact storedUser.trans u
  · exact storedRealm.trans realm
  · rw [← binding, ← purpose]
    exact lastBefore

theorem claimedPhone_keeps (ps : VerifyParams) (row : OtpAttempt) :
    (claimedPhone d ps row).Keeps Untouched := by
  unfold claimedPhone
  split
  · split
    · exact .bind (.orFail _ _) fun _ => .bind (.orFail _ _) fun _ => trivial
    · trivial
  all_goals exact .read .refl _

theorem findRow_some {purpose : SmsOtpPurpose} {binding : String}
    (hit : findRow purpose binding s = some row) :
    row ∈ s.otpAttempts ∧ row.purpose = purpose ∧ row.bindingHash = binding := by
  have test := find?_some hit
  simp only [Bool.decide_and, and_eq_true, decide_eq_true_eq] at test
  exact ⟨mem_of_find?_eq_some hit, test⟩

/-- A verification that answers `ok` was right about the code stored last. -/
def AnswersRight (d : Deps) (i : Nat) (params : VerifyParams)
    (r : Except Failure VerifyResult) (s : Store) : Prop :=
  ∀ phone, r = .ok (.ok phone) → ∃ row, Accepted d i params row s.smsLog

theorem refused_right (reason : VerifyReason) (remaining : Option Nat) :
    (pure (.refused reason remaining) : Op VerifyResult).Sat protocol allowed i
      (AnswersRight d i ps) s :=
  fun _ _ _ _ same => by cases same

theorem verifyCode_sat (ps : VerifyParams) :
    (verifyCode d i ps).Sat protocol allowed i (AnswersRight d i ps) s := by
  refine .read_bind fun s1 _ inv1 => ?_
  split
  · exact refused_right _ _
  · rename_i row found
    obtain ⟨mem, purpose, binding⟩ := findRow_some found
    have seen1 : Seen row s1 := .read inv1 mem
    split
    · exact refused_right _ _
    · rename_i owner
      simp only [ne_eq, or_eq_true, decide_eq_true_eq, not_or, not_not] at owner
      obtain ⟨u, realm⟩ := owner
      refine .read_bind fun s2 move2 _ => .atomic_bind fun s3 move3 inv3 _ => ?_
      have seen3 := (seen1.stable move2).stable move3
      rcases reserveGuess_change (i := i) inv3 seen3 with ⟨none_, same⟩ | ⟨reserved, chg⟩
      · rw [same, none_]
        refine ⟨inv3, fun j _ => .refl j s3, ?_⟩
        simp only [if_true]
        split <;> exact refused_right _ _
      · obtain ⟨kept, os⟩ := chg.kept inv3
        refine ⟨kept, os, ?_⟩
        split
        · split <;> exact refused_right _ _
        · split
          · dsimp only
            split <;> exact refused_right _ _
          · rename_i right
            simp only [ne_eq, not_not] at right
            refine .atomic_bind fun s4 move4 inv4 _ => ?_
            have seen4 := (seen3.change chg).stable move4
            have reserved4 := reserved.stable move4
            rcases claimCode_change (i := i) inv4 with ⟨none_, same⟩ |
              ⟨r, isRow, id, code, log, change4⟩
            · rw [same, none_]
              exact ⟨inv4, fun j _ => .refl j s4, refused_right _ _⟩
            · obtain ⟨kept4, others4⟩ := change4.kept inv4
              have accepted := accepted_of_claim inv4 seen4 reserved4 isRow id code purpose
                binding u realm right log
              refine ⟨kept4, others4, ?_⟩
              split
              · exact refused_right _ _
              · refine .bind (.ofKeeps (claimedPhone_keeps ps row) Untouched.respects ?_)
                intro res s5 move5 _
                obtain ⟨stored, claim⟩ := accepted
                have claim5 := claim.stable move5
                cases res with
                | error e => exact fun _ same => by cases same
                | ok phone =>
                  cases phone with
                  | none => exact refused_right _ _
                  | some phone =>
                    exact fun _ later _ _ _ => ⟨stored, claim5.stable later⟩

end Verifying

inductive Request where
  | send (params : SendParams)
  | verify (params : VerifyParams)
  | cleanup

inductive Reply where
  | sent (res : SendResult)
  | verified (res : VerifyResult)
  | cleaned

def handle (d : Deps) (i : Nat) : Request → Op Reply
  | .send params => do
    let res ← sendCode d i params
    pure (.sent res)
  | .verify params => do
    let res ← verifyCode d i params
    pure (.verified res)
  | .cleanup => do
    cleanup
    pure .cleaned

/-- All requests, about to start on the store `s`. -/
def pool (d : Deps) (requests : Nat → Request) (s : Store) : Pool Nat Store Failure Reply :=
  ⟨s, fun i => handle d i (requests i)⟩

/-- Any order of the steps of all requests and of the rest of the server. -/
def Reaches (c c' : Pool Nat Store Failure Reply) : Prop :=
  Pool.Reaches Untouched (fun _ _ => True) c c'

/-- A verification replies `ok` only when it was right. -/
def RepliesRight (d : Deps) (i : Nat) (req : Request) (r : Except Failure Reply)
    (s : Store) : Prop :=
  ∀ params phone, req = .verify params → r = .ok (.verified (.ok phone)) →
    ∃ row, Accepted d i params row s.smsLog

theorem cleanup_keeps : cleanup.Keeps Untouched :=
  .bind (.modify fun _ => ⟨filter_sublist, rfl, le_refl _⟩) fun _ =>
    .modify fun _ => ⟨.refl _, rfl, le_refl _⟩

theorem handle_sat {d : Deps} {allowed : Store → Store → Prop} (quiet : Quiet i s) (req : Request) :
    (handle d i req).Sat protocol allowed i (RepliesRight d i req) s := by
  cases req with
  | send ps =>
    refine .bind (.mono ?_ (sendCode_sat quiet ps))
    intro r t _
    cases r with
    | ok res => exact fun _ _ _ _ _ same => by cases same
    | error e => exact fun _ _ same => by cases same
  | verify ps =>
    refine .bind (.mono ?_ (verifyCode_sat ps))
    intro r t right
    cases r with
    | ok res =>
      intro u later _ ps' phone sameRequest same
      cases sameRequest
      cases same
      obtain ⟨row, accepted⟩ := right phone rfl
      exact ⟨row, accepted.stable later⟩
    | error e => exact fun _ _ _ same => by cases same
  | cleanup =>
    refine .keeps_bind cleanup_keeps Untouched.respects ?_ fun _ _ _ _ _ _ same => by cases same
    exact fun _ _ _ _ _ _ _ _ _ same => by cases same

theorem Inv.initial (noRows : s.otpAttempts = []) (noLog : s.smsLog = []) : Inv s := by
  refine ⟨⟨?_, ?_, ?_, ?_⟩, ?_, ⟨?_, ?_⟩, ⟨?_, ?_⟩, ⟨?_, ?_, ?_, ?_⟩, ⟨?_, ?_⟩⟩
  all_goals simp [HoldsLast, noRows, noLog, storedIn, Sms.handed]

def handedFor (rowId : Nat) (log : List SmsEvent) : List (Nat × OtpAttempt) :=
  (handed log).filter fun send => send.2.id = rowId

theorem Inv.handedFor_subset (inv : Inv s) (rowId : Nat) :
    handedFor rowId s.smsLog ⊆ storedIn rowId s.smsLog := by
  rintro ⟨req, row⟩ mem
  obtain ⟨sent, id⟩ := mem_filter.mp mem
  exact mem_storedIn.mpr ⟨by simpa using id, inv.handed.stored req row (mem_handed.mp sent)⟩

theorem Inv.sends_bounded (inv : Inv s) (rowId : Nat) :
    (handedFor rowId s.smsLog).length ≤ SMS_OTP_MAX_SENDS := by
  have nodup : (handedFor rowId s.smsLog).Nodup := inv.handed.once.filter _
  exact (Nodup.subperm nodup (inv.handedFor_subset rowId)).length_le.trans (inv.sends.bounded rowId)

theorem Inv.sends_apart (inv : Inv s) (rowId : Nat) :
    (handedFor rowId s.smsLog).Pairwise fun a b => Apart a b ∨ Apart b a := by
  have symmetric : Std.Symm fun a b : Nat × OtpAttempt => Apart a b ∨ Apart b a :=
    ⟨fun _ _ h => h.symm⟩
  have stored : (storedIn rowId s.smsLog).Pairwise fun a b => Apart a b ∨ Apart b a :=
    (inv.sends.apart rowId).imp fun h => .inl h
  have nodup : (handedFor rowId s.smsLog).Nodup := inv.handed.once.filter _
  refine nodup.imp_of_mem ?_
  intro a b isA isB ne
  exact stored.forall (inv.handedFor_subset rowId isA) (inv.handedFor_subset rowId isB) ne

theorem Accepted.claimed_mem {d : Deps} {row : OtpAttempt}
    {log : List SmsEvent} (h : Accepted d i ps row log) : .claimed i row.id ∈ log := by
  obtain ⟨after, earlier, -, -, -, -, cut, -⟩ := h
  simp [cut]

theorem Inv.claim_unique (inv : Inv s) {i j rowId : Nat}
    (hi : .claimed i rowId ∈ s.smsLog) (hj : .claimed j rowId ∈ s.smsLog) : i = j := by
  have once := inv.claimed.once rowId
  obtain ⟨pre, after, cut⟩ := append_of_mem hi
  rw [cut] at once hj
  simp only [claims, countP_append, countP_cons, isClaim, decide_true, if_true] at once
  have none_ : ∀ part : List SmsEvent, part.countP (isClaim rowId) = 0 →
      .claimed j rowId ∉ part := by
    intro part zero mem
    exact absurd (countP_eq_zero.mp zero _ mem) (by simp [isClaim])
  rcases mem_append.mp hj with earlier | later
  · exact absurd earlier (none_ pre (by omega))
  · rcases mem_cons.mp later with same | later
    · cases same
      rfl
    · exact absurd later (none_ after (by omega))

section Example

def aliceStore : Store where
  supply := 10
  userCredentials :=
    [{ userId := 2, type := .sms, phoneNumber := some "+201012345678", verified := true }]

def aliceGuess : VerifyParams where
  realmId := 1
  userId := 2
  purpose := .login
  binding := "challenge"
  code := "123 456"

def aliceRequests : Nat → Request
  | 0 => .send { realm := { id := 1, name := "acme", smsProvider := "twilio" }, userId := 2,
                 purpose := .login, binding := "challenge", draw := 123456 }
  | 1 => .verify aliceGuess
  | _ => .cleanup

def aliceRun : Pool Nat Store Failure Reply :=
  ((pool .transparent aliceRequests aliceStore).runOne 0).runOne 1

end Example

end Idenplane.Sms
