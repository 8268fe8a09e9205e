import Idenplane.WebAuthn.Steps

/-! # Signature counters

An assertion is compared with the counter that was read at the start of the call, and its own
counter is then written whatever the row holds by now.  In `InOrder` runs no call writes its
counter after a larger one has been written for the same passkey.  The comparison is strict, so
that an authenticator that does not count never gets in.
-/

namespace Idenplane.WebAuthn

open Atomic Auth Admin Pool Nat

/-- The event does not write a counter in the place of a larger one. -/
def Unovertaken (s : World) : Event → Prop
  | .accepted _ cred newCounter =>
    ∀ row ∈ s.credentials, row.id = cred.id → row.counter ≤ newCounter
  | _ => True

instance (s : World) (event : Event) : Decidable (Unovertaken s event) := by
  cases event <;> unfold Unovertaken <;> infer_instance

/-- The step does not write a counter in the place of a larger one. -/
def InOrder (s s' : World) : Prop :=
  ∀ event ∈ s'.log.head?, s'.log.tail = s.log → Unovertaken s event

instance : DecidableRel InOrder := fun s s' =>
  inferInstanceAs (Decidable (∀ event ∈ s'.log.head?, s'.log.tail = s.log → Unovertaken s event))

variable {cred : Credential}

theorem InOrder.accepted {s s' : World} (inOrder : InOrder s s') {i newCounter : Nat} (isLog : s'.log = .accepted i cred newCounter :: s.log)
    {row : Credential} (mem : row ∈ s.credentials) (same : row.id = cred.id) :
    row.counter ≤ newCounter := by
  have unovertaken : Unovertaken s (.accepted i cred newCounter) :=
    inOrder _ (by rw [isLog]; rfl) (by rw [isLog]; rfl)
  exact unovertaken row mem same

structure Counted (s : World) : Prop where
  keyed : Keyed s
  /-- The row of a passkey holds a counter as large as any that was accepted for it. -/
  accepted : ∀ i cred newCounter, .accepted i cred newCounter ∈ s.log →
    cred.id < s.supply ∧ ∀ row ∈ s.credentials, row.id = cred.id → newCounter ≤ row.counter

/-- The history grows, and a passkey that was there has a counter as large as before. -/
structure Onward (s s' : World) : Prop where
  supply : s.supply ≤ s'.supply
  log : ∀ event ∈ s.log, event ∈ s'.log
  counters : ∀ row' ∈ s'.credentials, row'.id < s.supply →
    ∃ row ∈ s.credentials, row.id = row'.id ∧ row.counter ≤ row'.counter

theorem Onward.refl (s : World) : Onward s s :=
  ⟨le_refl _, fun _ => id, fun row mem _ => ⟨row, mem, rfl, le_refl _⟩⟩

theorem Onward.trans {a b c : World} (ab : Onward a b) (bc : Onward b c) : Onward a c where
  supply := ab.supply.trans bc.supply
  log ev mem := bc.log ev (ab.log ev mem)
  counters row'' mem drawn := by
    obtain ⟨row', isRow', same', le'⟩ := bc.counters row'' mem (drawn.trans_le ab.supply)
    obtain ⟨row, isRow, same, le⟩ := ab.counters row' isRow' (same' ▸ drawn)
    exact ⟨row, isRow, same.trans same', le.trans le'⟩

def counting : Protocol Nat World where
  inv := Counted
  rely _ := Onward
  refl _ := Onward.refl
  trans _ := Onward.trans

section Steps

variable {i : Nat} {s s' : World}

theorem Onward.of_credentials (supply : s.supply ≤ s'.supply)
    (log : ∀ ev ∈ s.log, ev ∈ s'.log) (same : s'.credentials = s.credentials) : Onward s s' :=
  ⟨supply, log, fun row mem _ => ⟨row, same ▸ mem, rfl, le_refl _⟩⟩

theorem Counted.of_credentials (cnt : Counted s) (keyed : Keyed s')
    (supply : s.supply ≤ s'.supply) (same : s'.credentials = s.credentials)
    (old : ∀ j cred n, .accepted j cred n ∈ s'.log → .accepted j cred n ∈ s.log) : Counted s' where
  keyed := keyed
  accepted j cred n mem := by
    obtain ⟨drawn, le⟩ := cnt.accepted j cred n (old _ _ _ mem)
    rw [same]
    exact ⟨drawn.trans_le supply, le⟩

theorem Counted.accepts (cnt : Counted s) {newCounter : Nat}
    (present : ∃ row ∈ s.credentials, row.id = cred.id)
    (inOrder : ∀ row ∈ s.credentials, row.id = cred.id → row.counter ≤ newCounter)
    (isLog : s'.log = .accepted i cred newCounter :: s.log) (keyed : Keyed s')
    (supply : s'.supply = s.supply)
    (rows : s'.credentials = s.credentials.map (WebAuthn.counted cred.id newCounter)) :
    Counted s' ∧ Onward s s' := by
  refine ⟨⟨keyed, ?_⟩, ?_⟩
  · intro j earlier n mem
    rw [supply, rows]
    rw [isLog] at mem
    rcases mem_cons.mp mem with new | old
    · cases new
      obtain ⟨row, isRow, same⟩ := present
      refine ⟨same ▸ cnt.keyed.drawn row isRow, ?_⟩
      intro row' mem' same'
      obtain ⟨row, isRow, rfl⟩ := mem_map.mp mem'
      rw [counted_id] at same'
      simp [counted_counter, same']
    · obtain ⟨drawn, le⟩ := cnt.accepted j earlier n old
      refine ⟨drawn, ?_⟩
      intro row' mem' same'
      obtain ⟨row, isRow, rfl⟩ := mem_map.mp mem'
      rw [counted_id] at same'
      rw [counted_counter]
      split
      · rename_i own
        exact (le row isRow same').trans (inOrder row isRow own)
      · exact le row isRow same'
  · refine ⟨supply.ge, fun ev mem => ?_, fun row' mem drawn => ?_⟩
    · rw [isLog]
      exact .tail _ mem
    · rw [rows] at mem
      obtain ⟨row, isRow, rfl⟩ := mem_map.mp mem
      refine ⟨row, isRow, (counted_id _ _ _).symm, ?_⟩
      rw [counted_counter]
      split
      · rename_i own
        exact inOrder row isRow own
      · exact le_refl _

theorem Does.counted (cnt : Counted s) (does : Does True i s s') (inOrder : InOrder s s') :
    Counted s' ∧ Onward s s' := by
  have keyed := does.keyed cnt.keyed
  have supply := does.supply
  cases does with
  | accepts cred n present =>
    exact cnt.accepts present (fun row mem same => inOrder.accepted rfl mem same) rfl keyed rfl rfl
  | stays | store =>
    exact ⟨cnt.of_credentials keyed supply rfl fun _ _ _ => id,
      .of_credentials supply (fun _ => id) rfl⟩
  | draws | begins | replaces | issues | takes =>
    refine ⟨cnt.of_credentials keyed supply rfl fun j cred n mem => ?_,
      .of_credentials supply (fun ev => .tail _) rfl⟩
    rcases mem_cons.mp mem with new | old
    · cases new
    · exact old

theorem Env.counted (cnt : Counted s) (env : Env s s') : Counted s' ∧ Onward s s' := by
  have rows (row : Credential) (mem : row ∈ s'.credentials) (drawn : row.id < s.supply) :
      row ∈ s.credentials :=
    (env.credentials row mem).resolve_right (not_le.mpr drawn)
  constructor
  · refine ⟨env.keyed cnt.keyed, fun j cred n mem => ?_⟩
    rw [env.log] at mem
    obtain ⟨drawn, le⟩ := cnt.accepted j cred n mem
    exact ⟨drawn.trans_le env.supply,
      fun row isRow same => le row (rows row isRow (same ▸ drawn)) same⟩
  · refine ⟨env.supply, fun ev => env.log ▸ id, fun row mem drawn => ?_⟩
    exact ⟨row, rows row mem drawn, rfl, le_refl _⟩

theorem counting_respects (i : Nat) (s s' : World) (cnt : Counted s) (does : Does True i s s')
    (inOrder : InOrder s s') : Counted s' ∧ ∀ j, counting.rely j s s' := by
  obtain ⟨kept, onward⟩ := does.counted cnt inOrder
  exact ⟨kept, fun _ => onward⟩

theorem counting_environment (s s' : World) (cnt : Counted s) (env : Env s s') :
    Counted s' ∧ ∀ j, counting.rely j s s' := by
  obtain ⟨kept, onward⟩ := env.counted cnt
  exact ⟨kept, fun _ => onward⟩

end Steps

/-- The counter of the assertion was larger than any that had been accepted for the passkey when
the call started, and larger than zero, and has been accepted. -/
structure Signed (start : World) (i : Nat) (response : AuthenticationResponse)
    (reply : User × Credential) (s : World) : Prop where
  noted : .accepted i reply.2 response.signCount ∈ s.log
  larger : ∀ j cred newCounter, .accepted j cred newCounter ∈ start.log →
    cred.id = reply.2.id → newCounter < response.signCount
  positive : 0 < response.signCount

theorem findCredential_mem {credentialId : String} {s : World}
    {u : User} (hit : findCredential credentialId s = some (cred, u)) :
    cred ∈ s.credentials ∧ cred.credentialId = credentialId := by
  obtain ⟨row, isRow, rest⟩ := bind_eq_some_iff.mp hit
  obtain ⟨owner, -, isPair⟩ := bind_eq_some_iff.mp rest
  cases isPair
  exact ⟨mem_of_find?_eq_some isRow, by simpa using find?_some isRow⟩

variable {library : Library}

theorem verifyAuthentication_counts {d : Deps}
    (documented : library.Documented) (i : Nat) (r : WebAuthnRealm)
    (res : AuthenticationResponse) (start : World) :
    (verifyAuthentication d library i r res).Sat counting InOrder i
      (onOk (Signed start i res)) start := by
  refine .require_bind (fun _ => .atomic_bind fun t onward cnt _ => ?_) fun _ _ _ _ => trivial
  obtain ⟨kept, later⟩ := Does.counted cnt (Does.begins (i := i)) fun ev isHead _ => by
    cases isHead
    trivial
  refine ⟨kept, fun _ _ => later, .orFail_bind (fun (cred, user) hit => ?_) fun _ _ _ _ => trivial⟩
  have earlier (j : Nat) (other : Credential) (n : Nat)
      (mem : .accepted j other n ∈ start.log) (same : other.id = cred.id) :
      n ≤ cred.counter :=
    (cnt.accepted j other n (onward.log _ mem)).2 cred (findCredential_mem hit).1 same.symm
  refine .require_bind (fun _ => ?_) fun _ _ _ _ => trivial
  refine .call_allowed (expectChallenge_does d r _) (.any _) (counting_respects i)
    (fun chal _ _ _ _ => ?_) fun _ _ _ _ => trivial
  refine .call_allowed (checkAssertion_does library r res cred chal)
    (checkAssertion_returns documented r res cred chal) (counting_respects i)
    (fun n _ isCounter _ _ => ?_) fun _ _ _ _ => trivial
  obtain ⟨rfl, -⟩ := isCounter
  unfold recordCounter
  rw [bind_assoc]
  refine .require_bind (fun larger => ?_) fun _ _ _ _ => trivial
  rw [bind_assoc]
  refine .atomic_bind fun u _ cnt' inOrder => ?_
  have does : Does True i u _ := counterUpdated_does cred res.signCount u
  obtain ⟨kept', later'⟩ := does.counted cnt' inOrder
  refine ⟨kept', fun _ _ => later', ?_⟩
  cases updated : (counterUpdated i cred res.signCount u).1 with
  | false => exact fun _ _ _ => trivial
  | true =>
    intro v onward' _
    have isLog : .accepted i cred res.signCount ∈
        (counterUpdated i cred res.signCount u).2.log := by
      unfold counterUpdated at updated ⊢
      split at updated
      · rename_i present
        rw [if_pos present]
        exact mem_cons_self
      · cases updated
    have larger : cred.counter < res.signCount := by simpa using larger
    exact ⟨onward'.log _ isLog,
      fun j other n mem same => (earlier j other n mem same).trans_lt larger,
      (zero_le _).trans_lt larger⟩

def Answered (start : World) (i : Nat) (call : Call) (reply : Reply) (s : World) : Prop :=
  ∀ realm response user cred, call = .verify realm response →
    reply = .user user cred → Signed start i response (user, cred) s

theorem handle_counts {d : Deps} (documented : library.Documented) (i : Nat)
    (call : Call) (start : World) :
    (handle d library i call).Sat counting InOrder i (onOk (Answered start i call)) start := by
  cases call with
  | options r uname =>
    refine .ofAllowed (handle_does d library (.options r uname)) (counting_respects i)
      fun res t _ _ => ?_
    cases res with
    | error f => trivial
    | ok reply =>
      intro r response user cred isVerify
      cases isVerify
  | verify r response =>
    refine .ok_bind (verifyAuthentication_counts documented i r response start)
      (fun (user, cred) t signed => ?_) fun _ _ => trivial
    intro u onward _ r response user cred isVerify isUser
    cases isVerify
    cases isUser
    exact ⟨onward.log _ signed.noted, signed.larger, signed.positive⟩

def SignsIn (calls : Nat → Call) (c : Pool Nat World Failure Reply) (i : Nat)
    (response : AuthenticationResponse) (id : Nat) : Prop :=
  ∃ realm user cred, calls i = .verify realm response ∧
    c.procs i = .done (.user user cred) ∧ cred.id = id

/-- The first two rules of a signature counter, for a run that leads from one pool to another. -/
structure CountersKept (d : Deps) (library : Library) (calls : Nat → Call)
    (c c' : Pool Nat World Failure Reply) : Prop where
  grows : ∀ row ∈ c.state.credentials, ∀ row' ∈ c'.state.credentials, row'.id = row.id →
    row.counter ≤ row'.counter
  /-- A call that starts after an assertion was accepted does not accept one with a counter that
  is not larger. -/
  replayed : ∀ i j response response' id, SignsIn calls c j response id →
    c.procs i = handle d library i (calls i) → SignsIn calls c' i response' id →
      response.signCount < response'.signCount

/-- The rules of a signature counter. -/
structure CounterRules (d : Deps) (library : Library) (calls : Nat → Call)
    (c c' : Pool Nat World Failure Reply) : Prop extends CountersKept d library calls c c' where
  /-- Nobody is turned away whose authenticator does not count. -/
  zero : ∀ i realm response, calls i = .verify realm response → response.signCount = 0 →
    c'.procs i ≠ .fail counterRollback

/-- In a run that writes the counters of each passkey in their order the first two rules hold
between any two pools of it.  Nobody signs in with an assertion that is signed with zero, and where
there is none all rules hold. -/
theorem counter_rules {d : Deps} (documented : library.Documented)
    {calls : Nat → Call} {start : World} (keyed : Keyed start) (empty : start.log = [])
    {c c' : Pool Nat World Failure Reply}
    (reached : Pool.Reaches Env InOrder (pool d library calls start) c)
    (later : Pool.Reaches Env InOrder c c') :
    CountersKept d library calls c c' ∧
      (∀ i response id, response.signCount = 0 → ¬SignsIn calls c' i response id) ∧
      ((∀ i realm response, calls i = .verify realm response → response.signCount ≠ 0) →
        CounterRules d library calls c c') := by
  have init : Counted start := ⟨keyed, fun _ _ _ mem => by rw [empty] at mem; cases mem⟩
  have promises (i : Nat) : (handle d library i (calls i)).Sat counting InOrder i
      (onOk (Answered start i (calls i))) start := handle_counts documented i (calls i) start
  obtain ⟨cnt, sats⟩ : Counted c.state ∧ ∀ i, (c.procs i).Sat counting InOrder i
      (onOk (Answered start i (calls i))) c.state :=
    sound init promises counting_environment reached
  have kept : CountersKept d library calls c c' := by
    constructor
    · intro row isRow row' isRow' same
      have onward : counting.rely 0 c.state c'.state := sound_moves (fun _ _ _ _ => id) cnt
        sats counting_environment later 0
      obtain ⟨old, isOld, sameOld, le⟩ :=
        onward.counters row' isRow' (same ▸ cnt.keyed.drawn row isRow)
      cases cnt.keyed.ids old isOld row isRow (sameOld.trans same)
      exact le
    · rintro i j response response' id ⟨r, u, cred, isCall, fin, isId⟩ starts
        ⟨r', u', cred', isCall', fin', isId'⟩
      have accepted : Answered start j (calls j) (.user u cred) c.state :=
        sound_done init promises counting_environment reached fin
      -- From here on the call in question promises more: it starts now.
      have again (k : Nat) : (c.procs k).Sat counting InOrder k
          (onOk fun reply s => k = i → Answered c.state i (calls i) reply s) c.state := by
        by_cases own : k = i
        · subst own
          rw [starts]
          refine (handle_counts documented k (calls k) c.state).mono fun res t answered => ?_
          cases res with
          | error f => trivial
          | ok reply => exact fun _ => answered
        · refine (sats k).mono fun res t _ => ?_
          cases res with
          | error f => trivial
          | ok reply => exact fun same => absurd same own
      have answered : i = i → Answered c.state i (calls i) (.user u' cred') c'.state :=
        sound_done cnt again counting_environment later fin'
      have signed := answered rfl r' response' u' cred' isCall' rfl
      exact signed.larger j cred response.signCount
        (accepted r response u cred isCall rfl).noted (isId.trans isId'.symm)
  refine ⟨kept, ?_, fun counts => ⟨kept, fun i r response isCall zero => ?_⟩⟩
  · rintro i response id zero ⟨r, u, cred, isCall, fin, -⟩
    have answered : Answered start i (calls i) (.user u cred) c'.state :=
      sound_done cnt sats counting_environment later fin
    have signed := answered r response u cred isCall rfl
    exact absurd zero signed.positive.ne'
  · exact absurd zero (counts i r response isCall)

section Example

/-- Alice asks for a challenge under her name and for one without a name, and answers both. -/
def twoAnswers (first second : Nat) : Nat → Call
  | 0 => .options shop (some "alice")
  | 1 => .options shop none
  | 2 => .verify shop (answer 10 first)
  | _ => .verify shop (answer 12 second)

def asked : List Nat := [0, 0, 0, 0, 0, 0, 0, 1, 1, 1, 1]

def inTurn : Pool Nat World Failure Reply :=
  (pool .transparent checking (twoAnswers 5 6) (passkeyOf 4)).schedule
    (asked ++ [2, 2, 2, 2, 2, 3, 3, 3, 3, 3, 3])

/-- The second answer is accepted while the first is about to write its counter. -/
def betweenRead : Pool Nat World Failure Reply :=
  (pool .transparent checking (twoAnswers 5 6) (passkeyOf 4)).schedule
    (asked ++ [2, 2, 2, 2, 3, 3, 3, 3, 3, 3])

def notCounting : Pool Nat World Failure Reply :=
  (pool .transparent checking (twoAnswers 0 0) (passkeyOf 0)).schedule (asked ++ [2, 2, 2, 2])

/-- The answers count upwards; and where they say zero, the first of them is refused. -/
theorem answers_in_turn : CounterRules .transparent checking (twoAnswers 5 6)
        (pool .transparent checking (twoAnswers 5 6) (passkeyOf 4)) inTurn ∧
      ∀ id, ¬SignsIn (twoAnswers 0 0) notCounting 2 (answer 10 0) id := by
  constructor
  · have ordered : Pool.Reaches Env InOrder
        (pool .transparent checking (twoAnswers 5 6) (passkeyOf 4)) inTurn :=
      reaches_schedule (by decide +kernel)
    apply (counter_rules checking_documented (passkeyOf_keyed 4) rfl .refl ordered).2.2
    intro i r response isCall
    unfold twoAnswers at isCall
    split at isCall <;> cases isCall <;> decide
  · intro id
    have ordered : Pool.Reaches Env InOrder
        (pool .transparent checking (twoAnswers 0 0) (passkeyOf 0)) notCounting :=
      reaches_schedule (by decide +kernel)
    exact (counter_rules checking_documented (passkeyOf_keyed 0) rfl .refl ordered).2.1 2
      (answer 10 0) id rfl

theorem passkey_counters_fail : (Pool.Reaches Env (fun _ _ => True)
        (pool .transparent checking (twoAnswers 5 6) (passkeyOf 4)) betweenRead ∧
      Pool.Reaches Env (fun _ _ => True) betweenRead (betweenRead.advance 2) ∧
      ¬CounterRules .transparent checking (twoAnswers 5 6) betweenRead (betweenRead.advance 2)) ∧
    (Pool.Reaches Env (fun _ _ => True)
        (pool .transparent checking (twoAnswers 0 0) (passkeyOf 0)) notCounting ∧
      ¬CounterRules .transparent checking (twoAnswers 0 0) notCounting notCounting) := by
  refine ⟨⟨reaches_schedule (by decide +kernel), ?_, fun rules => ?_⟩,
    reaches_schedule (by decide +kernel), fun rules => ?_⟩
  · exact reaches_advance (fun _ _ => trivial) betweenRead 2
  · have six : passkeyRow 6 ∈ betweenRead.state.credentials := by decide +kernel
    have five : passkeyRow 5 ∈ (betweenRead.advance 2).state.credentials := by decide +kernel
    exact absurd (rules.grows _ six _ five rfl) (by decide)
  · exact rules.zero 2 shop (answer 10 0) rfl rfl rfl

end Example

end Idenplane.WebAuthn
