import Idenplane.WebAuthn.Steps

/-! # A challenge is accepted once

A call draws its own challenge and stores it once, and the row of a challenge is deleted by one
call only: the others are told that there is no such row.  So two assertions that answer one
challenge are not both accepted, in whatever order the calls are served.
-/

namespace Idenplane.WebAuthn

open Atomic Auth Admin

def Event.drawer : Event → Option Nat
  | .drawn req _ => some req
  | .issued req _ => some req
  | _ => none

structure Once (s : World) : Prop where
  keyed : Keyed s
  waiting : ∀ row ∈ s.pendingActions, row.type = actionType .authentication →
    ∃ i, .issued i row ∈ s.log
  drawn : ∀ i challenge, .drawn i challenge ∈ s.log → challenge < s.supply
  drawnOnce : ∀ i j challenge, .drawn i challenge ∈ s.log → .drawn j challenge ∈ s.log → i = j
  source : ∀ i row, .issued i row ∈ s.log → .drawn i row.data.challenge ∈ s.log
  issuedOnce : ∀ i j row row', .issued i row ∈ s.log → .issued j row' ∈ s.log →
    row.data.challenge = row'.data.challenge → row = row'
  gone : ∀ i row, .taken i row ∈ s.log →
    row.id < s.supply ∧ ∀ other ∈ s.pendingActions, other.id ≠ row.id
  takenOnce : ∀ i j row row', .taken i row ∈ s.log → .taken j row' ∈ s.log → row.id = row'.id →
    i = j

/-- The others draw and store challenges under their own names. -/
structure Aside (i : Nat) (s s' : World) : Prop where
  supply : s.supply ≤ s'.supply
  log : ∀ event ∈ s.log, event ∈ s'.log
  others : ∀ event ∈ s'.log, event.drawer = some i → event ∈ s.log

theorem Aside.refl (i : Nat) (s : World) : Aside i s s :=
  ⟨Nat.le_refl _, fun _ => id, fun _ mem _ => mem⟩

theorem Aside.trans (i : Nat) {a b c : World} (ab : Aside i a b) (bc : Aside i b c) :
    Aside i a c where
  supply := ab.supply.trans bc.supply
  log ev mem := bc.log ev (ab.log ev mem)
  others ev mem isOwn := ab.others ev (bc.others ev mem isOwn) isOwn

def onceOnly : Protocol Nat World where
  inv := Once
  rely := Aside
  refl := Aside.refl
  trans := Aside.trans

section Steps

variable {i : Nat} {s s' : World}

theorem Once.quiet (once : Once s) (keyed : Keyed s') (supply : s.supply ≤ s'.supply)
    (rows : ∀ row ∈ s'.pendingActions, row ∈ s.pendingActions ∨
      s.supply ≤ row.id ∧ row.type ≠ actionType .authentication)
    (log : ∀ ev ∈ s.log, ev ∈ s'.log)
    (old : ∀ ev ∈ s'.log, ev.drawer.isSome ∨ (∃ j row, ev = .taken j row) →
      ev ∈ s.log) : Once s' where
  keyed := keyed
  waiting row mem isType := by
    rcases rows row mem with pre | ⟨-, other⟩
    · obtain ⟨j, issued⟩ := once.waiting row pre isType
      exact ⟨j, log _ issued⟩
    · exact absurd isType other
  drawn j chal mem := (once.drawn j chal (old _ mem (.inl rfl))).trans_le supply
  drawnOnce j k chal isJ isK :=
    once.drawnOnce j k chal (old _ isJ (.inl rfl)) (old _ isK (.inl rfl))
  source j row mem := log _ (once.source j row (old _ mem (.inl rfl)))
  issuedOnce j k row row' isJ isK :=
    once.issuedOnce j k row row' (old _ isJ (.inl rfl)) (old _ isK (.inl rfl))
  gone j row mem := by
    obtain ⟨drawn, gone⟩ := once.gone j row (old _ mem (.inr ⟨j, row, rfl⟩))
    refine ⟨drawn.trans_le supply, fun other isOther => ?_⟩
    rcases rows other isOther with pre | ⟨later, -⟩
    · exact gone other pre
    · exact fun same => absurd (same ▸ later) (Nat.not_le.mpr drawn)
  takenOnce j k row row' isJ isK :=
    once.takenOnce j k row row' (old _ isJ (.inr ⟨j, row, rfl⟩)) (old _ isK (.inr ⟨k, row', rfl⟩))

theorem Env.once (once : Once s) (env : Env s s') : Once s' ∧ ∀ j, Aside j s s' := by
  constructor
  · refine once.quiet (env.keyed once.keyed) env.supply (fun row mem => ?_)
      (fun ev => env.log ▸ id) fun ev mem _ => env.log ▸ mem
    by_cases isType : row.type = actionType .authentication
    · exact .inl ((env.challenges row isType).mp mem)
    · exact (env.actions row mem).imp id fun later => ⟨later, isType⟩
  · exact fun j => ⟨env.supply, fun ev => env.log ▸ id, fun ev mem _ => env.log ▸ mem⟩

theorem aside_of_log (supply : s.supply ≤ s'.supply) (log : ∀ ev ∈ s.log, ev ∈ s'.log)
    (old : ∀ ev ∈ s'.log, ev.drawer.isSome → ev ∈ s.log) (j : Nat) : Aside j s s' :=
  ⟨supply, log, fun ev mem isOwn => old ev mem (by rw [isOwn]; rfl)⟩

theorem Once.noted (once : Once s) (keyed : Keyed s') (supply : s.supply ≤ s'.supply)
    (rows : ∀ row ∈ s'.pendingActions, row ∈ s.pendingActions) {ev : Event}
    (isLog : s'.log = ev :: s.log) (silent : ev.drawer = none)
    (notTaken : ∀ j row, ev ≠ .taken j row) : Once s' ∧ ∀ j, Aside j s s' := by
  have log : ∀ other ∈ s.log, other ∈ s'.log := by
    intro other mem
    rw [isLog]
    exact .tail _ mem
  have old : ∀ other ∈ s'.log, other = ev ∨ other ∈ s.log := by
    intro other mem
    rw [isLog] at mem
    exact mem_cons.mp mem
  constructor
  · refine once.quiet keyed supply (fun row mem => .inl (rows row mem)) log
      fun other mem kind => (old other mem).resolve_left ?_
    rintro rfl
    rcases kind with draws | ⟨j, row, isTaken⟩
    · rw [silent] at draws
      cases draws
    · exact notTaken j row isTaken
  · refine aside_of_log supply log fun other mem draws => (old other mem).resolve_left ?_
    rintro rfl
    rw [silent] at draws
    cases draws

theorem Once.takes (once : Once s) {act : Challenge}
    (present : ∃ row ∈ s.pendingActions, row.id = act.id) (keyed : Keyed s')
    (supply : s'.supply = s.supply) (isLog : s'.log = .taken i act :: s.log)
    (rows : s'.pendingActions = s.pendingActions.filter (·.id ≠ act.id)) : Once s' := by
  have kept {row : Challenge} (mem : row ∈ s'.pendingActions) :
      row ∈ s.pendingActions ∧ row.id ≠ act.id := by
    rw [rows] at mem
    simpa using mem
  have log {ev : Event} (mem : ev ∈ s.log) : ev ∈ s'.log := by
    rw [isLog]
    exact .tail _ mem
  have old {ev : Event} (mem : ev ∈ s'.log) : ev = .taken i act ∨ ev ∈ s.log := by
    rw [isLog] at mem
    exact mem_cons.mp mem
  have drawer {ev : Event} (mem : ev ∈ s'.log) (draws : ev.drawer.isSome) : ev ∈ s.log := by
    rcases old mem with rfl | pre
    · cases draws
    · exact pre
  -- No one has taken the row before, because it is still there.
  have fresh {j : Nat} {row : Challenge} (mem : .taken j row ∈ s.log) : row.id ≠ act.id := by
    obtain ⟨other, isOther, same⟩ := present
    exact fun equal => (once.gone j row mem).2 other isOther (same.trans equal.symm)
  constructor
  · exact keyed
  · intro row mem isType
    obtain ⟨j, issued⟩ := once.waiting row (kept mem).1 isType
    exact ⟨j, log issued⟩
  · intro j chal mem
    rw [supply]
    exact once.drawn j chal (drawer mem rfl)
  · exact fun j k chal isJ isK => once.drawnOnce j k chal (drawer isJ rfl) (drawer isK rfl)
  · exact fun j row mem => log (once.source j row (drawer mem rfl))
  · exact fun j k row row' isJ isK => once.issuedOnce j k row row' (drawer isJ rfl) (drawer isK rfl)
  · intro j row mem
    rw [supply]
    rcases old mem with isNew | pre
    · cases isNew
      obtain ⟨other, isOther, same⟩ := present
      exact ⟨same ▸ once.keyed.actionsDrawn other isOther, fun row isRow => (kept isRow).2⟩
    · obtain ⟨drawn, gone⟩ := once.gone j row pre
      exact ⟨drawn, fun other isOther => gone other (kept isOther).1⟩
  · intro j k row row' isJ isK same
    rcases old isJ with newJ | beforeJ
    · rcases old isK with newK | beforeK
      · cases newJ
        cases newK
        rfl
      · cases newJ
        exact absurd same.symm (fresh beforeK)
    · rcases old isK with newK | beforeK
      · cases newK
        exact absurd same (fresh beforeJ)
      · exact once.takenOnce j k row row' beforeJ beforeK same

theorem Does.once (once : Once s) (does : Does False i s s') : Once s' ∧ ∀ j, Aside j s s' := by
  have keyed := does.keyed once.keyed
  have supply := does.supply
  cases does with
  | draws may => exact may.elim
  | issues _ _ _ may => exact may.elim
  | stays | store =>
    exact ⟨once.quiet keyed supply (fun _ => .inl) (fun _ => id) fun _ mem _ => mem,
      aside_of_log supply (fun _ => id) fun _ mem _ => mem⟩
  | begins | accepts =>
    exact once.noted keyed supply (fun _ => id) rfl rfl nofun
  | replaces th =>
    exact once.noted keyed supply (fun row => mem_of_mem_filter) rfl rfl nofun
  | takes act present =>
    refine ⟨once.takes present keyed rfl rfl rfl, aside_of_log supply
      (fun ev => .tail _) fun ev mem draws => ?_⟩
    rcases mem_cons.mp mem with isNew | pre
    · rw [isNew] at draws
      cases draws
    · exact pre

theorem Once.draws (once : Once s) :
    Once (challengeDrawn i s).2 ∧ ∀ j, j ≠ i → Aside j s (challengeDrawn i s).2 := by
  have old {ev : Event} (mem : ev ∈ (challengeDrawn i s).2.log) :
      ev = .drawn i s.supply ∨ ev ∈ s.log := mem_cons.mp mem
  have pre {ev : Event} (mem : ev ∈ (challengeDrawn i s).2.log)
      (other : ∀ j chal, ev ≠ .drawn j chal) : ev ∈ s.log :=
    (old mem).resolve_left (other i s.supply)
  have log {ev : Event} (mem : ev ∈ s.log) : ev ∈ (challengeDrawn i s).2.log :=
    .tail _ mem
  constructor
  · constructor
    · have does : Does True i s _ := .draws trivial
      exact does.keyed once.keyed
    · intro row mem isType
      obtain ⟨j, issued⟩ := once.waiting row mem isType
      exact ⟨j, log issued⟩
    · intro j chal mem
      rcases old mem with isNew | earlier
      · cases isNew
        exact lt_succ_self _
      · exact (once.drawn j chal earlier).trans (lt_succ_self _)
    · intro j k chal isJ isK
      rcases old isJ with newJ | oldJ
      · rcases old isK with newK | oldK
        · cases newJ
          cases newK
          rfl
        · cases newJ
          exact absurd (once.drawn k _ oldK) (Nat.lt_irrefl _)
      · rcases old isK with newK | oldK
        · cases newK
          exact absurd (once.drawn j _ oldJ) (Nat.lt_irrefl _)
        · exact once.drawnOnce j k chal oldJ oldK
    · exact fun j row mem => log (once.source j row (pre mem nofun))
    · exact fun j k row row' isJ isK =>
        once.issuedOnce j k row row' (pre isJ nofun) (pre isK nofun)
    · intro j row mem
      obtain ⟨drawn, gone⟩ := once.gone j row (pre mem nofun)
      exact ⟨drawn.trans (lt_succ_self _), gone⟩
    · exact fun j k row row' isJ isK =>
        once.takenOnce j k row row' (pre isJ nofun) (pre isK nofun)
  · intro j other
    refine ⟨le_succ _, fun ev => log, fun ev mem isOwn => ?_⟩
    refine (old mem).resolve_left ?_
    rintro rfl
    cases isOwn
    exact other rfl

/-- The call stores the challenge it has drawn, and has stored no other. -/
theorem Once.issues (once : Once s) {th : String} {data : ChallengeData} {exp : Int}
    (drawn : .drawn i data.challenge ∈ s.log) (none_ : ∀ row, .issued i row ∉ s.log)
    (does : Does True i s s') (isLog : s'.log =
      .issued i (newAction th .authentication data exp s) :: s.log)
    (rows : s'.pendingActions = newAction th .authentication data exp s :: s.pendingActions)
    (supply : s'.supply = s.supply + 1) : Once s' ∧ ∀ j, j ≠ i → Aside j s s' := by
  have old {ev : Event} (mem : ev ∈ s'.log) :
      ev = .issued i (newAction th .authentication data exp s) ∨ ev ∈ s.log := by
    rw [isLog] at mem
    exact mem_cons.mp mem
  have pre {ev : Event} (mem : ev ∈ s'.log) (other : ∀ j row, ev ≠ .issued j row) : ev ∈ s.log :=
    (old mem).resolve_left (other i _)
  have log {ev : Event} (mem : ev ∈ s.log) : ev ∈ s'.log := by
    rw [isLog]
    exact .tail _ mem
  -- A challenge that was stored before was drawn by another call, and is another one.
  have apart {j : Nat} {row : Challenge} (mem : .issued j row ∈ s.log) :
      row.data.challenge ≠ data.challenge := by
    intro same
    have source := once.source j row mem
    rw [same] at source
    cases once.drawnOnce j i _ source drawn
    exact none_ row mem
  constructor
  · constructor
    · exact does.keyed once.keyed
    · intro row mem isType
      rw [rows] at mem
      rcases mem_cons.mp mem with rfl | earlier
      · exact ⟨i, by rw [isLog]; exact mem_cons_self⟩
      · obtain ⟨j, issued⟩ := once.waiting row earlier isType
        exact ⟨j, log issued⟩
    · intro j chal mem
      rw [supply]
      exact (once.drawn j chal (pre mem nofun)).trans (lt_succ_self _)
    · exact fun j k chal isJ isK =>
        once.drawnOnce j k chal (pre isJ nofun) (pre isK nofun)
    · intro j row mem
      rcases old mem with isNew | earlier
      · cases isNew
        exact log drawn
      · exact log (once.source j row earlier)
    · intro j k row row' isJ isK same
      rcases old isJ with newJ | oldJ
      · rcases old isK with newK | oldK
        · cases newJ
          cases newK
          rfl
        · cases newJ
          exact absurd same.symm (apart oldK)
      · rcases old isK with newK | oldK
        · cases newK
          exact absurd same (apart oldJ)
        · exact once.issuedOnce j k row row' oldJ oldK same
    · intro j row mem
      obtain ⟨isDrawn, gone⟩ := once.gone j row (pre mem nofun)
      rw [supply, rows]
      refine ⟨isDrawn.trans (lt_succ_self _), fun other isOther => ?_⟩
      rcases mem_cons.mp isOther with rfl | earlier
      · exact (Nat.ne_of_lt isDrawn).symm
      · exact gone other earlier
    · exact fun j k row row' isJ isK =>
        once.takenOnce j k row row' (pre isJ nofun) (pre isK nofun)
  · intro j other
    refine ⟨does.supply, fun ev => log, fun ev mem isOwn => (old mem).resolve_left ?_⟩
    rintro rfl
    cases isOwn
    exact other rfl

end Steps

variable {library : Library}

section Calls

variable {d : Deps} {i : Nat} {s : World} {allowed : World → World → Prop}

theorem once_respects (i : Nat) (s s' : World) (once : Once s) (does : Does False i s s') :
    Once s' ∧ ∀ j, onceOnly.rely j s s' := does.once once

theorem storeWebAuthnChallenge_once {key : String} {rid chal : Nat}
    (drawn : .drawn i chal ∈ s.log) (none_ : ∀ row, .issued i row ∉ s.log) :
    (storeWebAuthnChallenge d i key rid .authentication chal).Sat onceOnly allowed i
      (fun _ _ => True) s := by
  refine .modify_bind fun t aside once _ => ?_
  obtain ⟨kept, os⟩ := Does.once once (Does.replaces (i := i)
    (challengeHash d key rid .authentication))
  refine ⟨kept, fun j _ => os j, .read_bind fun u aside' _ => ?_⟩
  refine .atomic_bind fun v aside'' once' _ => ?_
  have whole := (aside.trans i (os i)).trans i (aside'.trans i aside'')
  unfold challengeCreated
  split
  · exact ⟨once', fun j _ => .refl j v, fun _ _ _ => trivial⟩
  · rename_i notTaken
    have free : ∀ row ∈ v.pendingActions,
        row.tokenHash ≠ challengeHash d key rid .authentication := by
      intro row mem same
      exact notTaken (any_eq_true.mpr ⟨row, mem, by simpa using same⟩)
    have isDrawn : .drawn i (ChallengeData.mk key rid chal).challenge ∈ v.log :=
      whole.log _ drawn
    obtain ⟨kept', os'⟩ := once'.issues isDrawn
      (fun row mem => none_ row (whole.others _ mem rfl)) (.issues _ _ _ trivial free) rfl rfl
      rfl
    exact ⟨kept', os', fun _ _ _ => trivial⟩

variable {r : WebAuthnRealm}

theorem startAuthentication_once {uname : Option String} (none_ : ∀ row, .issued i row ∉ s.log) :
    (startAuthentication d i r uname).Sat onceOnly allowed i (fun _ _ => True) s := by
  have generates (uid : Option Nat) {t : World} (none_ : ∀ row, .issued i row ∉ t.log) :
      (generateAuthenticationOptions d i r uid).Sat onceOnly allowed i (fun _ _ => True) t := by
    refine .require_bind (fun _ => ?_) fun _ _ _ _ => trivial
    refine .keeps_bind (allowedCredentials_does r uid) (once_respects i)
      (fun allowedOnes u aside _ => ?_) fun _ _ _ _ => trivial
    refine .atomic_bind fun v aside' once _ => ?_
    obtain ⟨kept, os⟩ := once.draws (i := i)
    refine ⟨kept, os, .bind ((storeWebAuthnChallenge_once mem_cons_self ?_).mono ?_)⟩
    · intro row mem
      refine none_ row ((aside.trans i aside').others _ ?_ rfl)
      exact (mem_cons.mp mem).resolve_left nofun
    · intro res t _
      cases res with
      | error f => trivial
      | ok => exact fun _ _ _ => trivial
  unfold startAuthentication
  split
  · refine .read_bind fun t aside _ => generates _ fun row mem => ?_
    exact none_ row (aside.others _ mem rfl)
  · exact generates none none_

/-- A row that was waiting when the call read it was taken by the call. -/
def Took (i : Nat) (challenge : Nat) (s : World) : Prop :=
  ∃ j row, .taken i row ∈ s.log ∧ .issued j row ∈ s.log ∧ row.data.challenge = challenge

theorem Took.later {chal : Nat} {s' : World} (took : Took i chal s)
    (log : ∀ ev ∈ s.log, ev ∈ s'.log) : Took i chal s' := by
  obtain ⟨j, row, taken, issued, same⟩ := took
  exact ⟨j, row, log _ taken, log _ issued, same⟩

theorem findChallenge_spec {tokenHash : String} {row : Challenge}
    (hit : findChallenge tokenHash s = some row) :
    row ∈ s.pendingActions ∧ row.tokenHash = tokenHash :=
  ⟨mem_of_find?_eq_some hit, by simpa using find?_some hit⟩

theorem deleteChallenge_once {act : Challenge}
    (isType : act.type = actionType .authentication) (issued : ∃ j, .issued j act ∈ s.log) :
    (deleteChallenge i act).Sat onceOnly allowed i (onOk fun _ => Took i act.data.challenge) s := by
  refine .atomic_bind fun t aside once _ => ?_
  unfold challengeTaken
  split
  · rename_i present
    obtain ⟨row, mem, same⟩ := any_eq_true.mp present
    obtain ⟨kept, os⟩ := Does.once (i := i) once (.takes act ⟨row, mem, by simpa using same⟩ isType)
    refine ⟨kept, fun j _ => os j, fun u aside' _ => ?_⟩
    obtain ⟨j, issued⟩ := issued
    have later := aside'.log _ (.tail _ (aside.log _ issued))
    exact ⟨j, act, aside'.log _ mem_cons_self, later, rfl⟩
  · exact ⟨once, fun j _ => .refl j t, fun _ _ _ => trivial⟩

theorem consumeWebAuthnChallenge_once {key : String} {rid : Nat} :
    (consumeWebAuthnChallenge d i key rid .authentication).Sat onceOnly allowed i
      (onOk fun ans t => ∀ chal, ans = some chal → Took i chal t) s := by
  refine .read_bind fun t _ once => ?_
  cases found : (findChallenge (challengeHash d key rid .authentication) t).filter
      (·.type = actionType .authentication) with
  | none => exact fun _ _ _ => nofun
  | some act =>
    obtain ⟨isFound, isType⟩ := filter_eq_some_iff.mp found
    have isType : act.type = actionType .authentication := by simpa using isType
    have issued := once.waiting act (findChallenge_spec isFound).1 isType
    refine .read_bind fun u aside _ => ?_
    have issued' : ∃ j, .issued j act ∈ u.log := by
      obtain ⟨j, mem⟩ := issued
      exact ⟨j, aside.log _ mem⟩
    split
    · refine .ok_bind (deleteChallenge_once isType issued') (fun _ _ _ => ?_) fun _ _ => trivial
      exact fun _ _ _ => nofun
    · refine .ok_bind (deleteChallenge_once isType issued') (fun _ v took => ?_) fun _ _ => trivial
      rintro w aside' _ chal isChallenge
      cases isChallenge
      exact took.later aside'.log

theorem expectChallenge_once {uid : Nat} : (expectChallenge d i r uid).Sat onceOnly allowed i
      (onOk fun chal t => Took i chal t) s := by
  refine .ok_bind consumeWebAuthnChallenge_once (fun own t took => ?_) fun _ _ => trivial
  cases own with
  | some chal => exact fun u aside _ => (took chal rfl).later aside.log
  | none =>
    refine .ok_bind consumeWebAuthnChallenge_once (fun shared u took => ?_) fun _ _ => trivial
    cases shared with
    | none => exact fun _ _ _ => trivial
    | some chal => exact fun v aside _ => (took chal rfl).later aside.log

theorem verifyAuthentication_once (documented : library.Documented) {res : AuthenticationResponse} :
    (verifyAuthentication d library i r res).Sat onceOnly allowed i
      (onOk fun _ t => Took i res.challenge t) s := by
  refine .require_bind (fun _ => .atomic_bind fun t _ once _ => ?_) fun _ _ _ _ => trivial
  obtain ⟨kept, os⟩ := Does.once once (Does.begins (i := i))
  refine ⟨kept, fun j _ => os j, .orFail_bind (fun (cred, user) _ => ?_) fun _ _ _ _ => trivial⟩
  refine .require_bind (fun _ => ?_) fun _ _ _ _ => trivial
  refine .ok_bind expectChallenge_once (fun chal u took => ?_) fun _ _ => trivial
  refine .call_bind (checkAssertion_does library r res cred chal)
    (checkAssertion_returns documented r res cred chal) (once_respects i)
    (fun n v isCounter aside _ => ?_) fun _ _ _ _ => trivial
  obtain ⟨-, answers⟩ := isCounter
  have took' : Took i res.challenge v := answers ▸ took.later aside.log
  have records : (recordCounter i cred n).Keeps (Does False i) :=
    .bind (.require _ _) fun _ => .bind (.atomic (counterUpdated_does cred n))
      fun updated => .require updated _
  refine .keeps_bind records (once_respects i) (fun _ w aside' _ => ?_) fun _ _ _ _ => trivial
  exact fun x aside'' _ => (took'.later aside'.log).later aside''.log

def Spent (i : Nat) (call : Call) (reply : Reply) (s : World) : Prop :=
  ∀ realm response user cred, call = .verify realm response →
    reply = .user user cred → Took i response.challenge s

theorem handle_once (documented : library.Documented) {call : Call}
    (none_ : ∀ row, .issued i row ∉ s.log) :
    (handle d library i call).Sat onceOnly allowed i (onOk (Spent i call)) s := by
  cases call with
  | options r uname =>
    refine .bind ((startAuthentication_once none_).mono fun res t _ => ?_)
    cases res with
    | error f => trivial
    | ok options => exact fun _ _ _ _ _ _ _ isVerify => nomatch isVerify
  | verify r response =>
    refine .ok_bind (verifyAuthentication_once documented) (fun (user, cred) t took => ?_)
      fun _ _ => trivial
    rintro u aside _ r response user cred isVerify -
    cases isVerify
    exact took.later aside.log

end Calls

def Accepts (calls : Nat → Call) (c : Pool Nat World Failure Reply) (i challenge : Nat) : Prop :=
  ∃ realm response user cred, calls i = .verify realm response ∧
    response.challenge = challenge ∧ c.procs i = .done (.user user cred)

structure Initial (start : World) : Prop where
  keyed : Keyed start
  log : start.log = []
  none_ : ∀ row ∈ start.pendingActions, row.type ≠ actionType .authentication

theorem Initial.once {start : World} (initial : Initial start) : Once start := by
  have none_ {ev : Event} : ev ∉ start.log := by simp [initial.log]
  constructor
  · exact initial.keyed
  · exact fun row mem isType => absurd isType (initial.none_ row mem)
  · exact fun _ _ mem => absurd mem none_
  · exact fun _ _ _ mem => absurd mem none_
  · exact fun _ _ mem => absurd mem none_
  · exact fun _ _ _ _ mem => absurd mem none_
  · exact fun _ _ mem => absurd mem none_
  · exact fun _ _ _ _ mem => absurd mem none_

/-- A challenge is accepted by one call at most, in every run. -/
theorem accepted_once {d : Deps} (documented : library.Documented)
    {calls : Nat → Call} {start : World} (initial : Initial start) {allowed : World → World → Prop}
    {c : Pool Nat World Failure Reply}
    (reached : Pool.Reaches Env allowed (pool d library calls start) c) {i j chal : Nat}
    (isI : Accepts calls c i chal) (isJ : Accepts calls c j chal) : i = j := by
  have promises (k : Nat) : (handle d library k (calls k)).Sat onceOnly allowed k
      (onOk (Spent k (calls k))) start :=
    handle_once documented fun row mem => by simp [initial.log] at mem
  have environment (s s' : World) (once : Once s) (env : Env s s') := env.once once
  have once := (Pool.sound initial.once promises environment reached).1
  have took {k : Nat} (accepts : Accepts calls c k chal) : Took k chal c.state := by
    obtain ⟨r, res, u, cred, isCall, rfl, fin⟩ := accepts
    have spent : Spent k (calls k) (.user u cred) c.state :=
      Pool.sound_done initial.once promises environment reached fin
    exact spent r res u cred isCall rfl
  obtain ⟨_, row, taken, issued, same⟩ := took isI
  obtain ⟨_, row', taken', issued', same'⟩ := took isJ
  cases once.issuedOnce _ _ row row' issued issued' (same.trans same'.symm)
  exact once.takenOnce i j row row taken taken' rfl

end Idenplane.WebAuthn
