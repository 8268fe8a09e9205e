import Idenplane.Broker.Linking
import Idenplane.Lib.Stepwise
import Idenplane.Registration.Entrances

/-! # What one step can do to an account

Every call that opens, verifies, approves, changes, links or deletes an account is a sequence of
steps of these kinds.  Some need what an earlier step has left in the record: a look-up, or the
token that is redeemed. -/

namespace Idenplane.Registration

open Atomic Auth Admin Passwords Broker Table.Unique
open Relation (ReflTransGen)

structure Calm (s s' : Store) : Prop where
  users : s'.users = s.users
  supply : s.supply ≤ s'.supply
  tokens : s'.verificationTokens ⊆ s.verificationTokens

theorem Calm.refl (s : Store) : Calm s s := ⟨rfl, le_rfl, Subset.refl _⟩

inductive Writes (log : List Event) (row : User) : (User → User) → Event → Prop where
  | redeemed {token : Nat} {address : String} : .issued token row.id address ∈ log →
      Writes log row (fun user => { user with emailVerified := true }) (.redeemed token row)
  | reenabled : .verifying row.id false ∈ log →
      Writes log row (fun user => { user with enabled := true }) (.reenabled row.id)
  | approved : Writes log row (fun user => { user with enabled := true }) (.approved row.id)
  | updated {dto : UpdateUserDto} : Writes log row (profileUpdated dto) (.updated row dto)
  | synced {email firstName lastName : Option String} {asserted : Bool} : Writes log row
        (fun user => { user with
          email := email.or user.email
          firstName := firstName.or user.firstName
          lastName := lastName.or user.lastName })
        (.synced row email asserted)

/-- The entries that no write belongs to, and those about links. -/
inductive Remark : Event → Prop where
  | verifying (userId : Nat) (enabled : Bool) : Remark (.verifying userId enabled)
  | rejecting (call userId : Nat) : Remark (.rejecting call userId)
  | linked (providerId : Nat) (subject : String) (userId : Nat) (kind : LinkKind) :
      Remark (.linked providerId subject userId kind)

inductive Opens (realm : RegistrationRealm) (user : User) : Event → Prop where
  | registered : user.enabled = (!realm.registrationApprovalRequired) →
      (user.emailVerified = true → realm.requireEmailVerification = false) →
      Opens realm user (.registered user.id realm.registrationApprovalRequired)
  | provisioned : Opens realm user (.provisioned user)

inductive Step (realm : RegistrationRealm) (w w' : World) : Prop where
  | calm : Calm w.store w'.store → w'.log = w.log → Step realm w w'
  | remarked {event : Event} : Remark event → w'.store = w.store → w'.log = event :: w.log →
      Step realm w w'
  | opened {user : User} {event : Event} : Opens realm user event → user.id = w.store.supply →
      w'.store = { w.store with supply := w.store.supply + 1, users := user :: w.store.users } →
      w'.log = event :: w.log → Step realm w w'
  | written {row : User} {change : User → User} {event : Event} :
      findUserById row.id w.store = some row → Writes w.log row change event →
      w'.store = Store.updateUser w.store row.id change → w'.log = event :: w.log →
      Step realm w w'
  | issued {userId : Nat} {address : String} : w' = tokenIssued userId address w → Step realm w w'
  | rejected {call userId : Nat} : .rejecting call userId ∈ w.log →
      w' = (accountDeleted call userId w).2 → w'.log = .rejected call userId :: w.log →
      Step realm w w'
  | withdrawn {userId : Nat} : w' = accountWithdrawn userId w → Step realm w w'

variable {r : RegistrationRealm} {w w' : World}

theorem Step.refl (w : World) : Step r w w := .calm (.refl _) rfl

theorem Step.log (step : Step r w w') : w.log ⊆ w'.log := by
  cases step with
  | calm _ same => rw [same]; exact Subset.refl _
  | remarked _ _ grown => rw [grown]; exact subset_cons_self ..
  | opened _ _ _ grown => rw [grown]; exact subset_cons_self ..
  | written _ _ _ grown => rw [grown]; exact subset_cons_self ..
  | issued isNext => rw [isNext]; exact subset_cons_self ..
  | rejected _ _ grown => rw [grown]; exact subset_cons_self ..
  | withdrawn isNext => rw [isNext]; exact Subset.refl _

theorem steps_log (steps : ReflTransGen (Step r) w w') : w.log ⊆ w'.log := by
  induction steps with
  | refl => exact Subset.refl _
  | tail _ step ih => exact Subset.trans ih step.log

variable {α : Type}

theorem onStore_takes {op : Op α} (calm : op.Keeps Calm) :
    (onStore op).Takes (Step r) (fun _ _ => True) w := by
  apply Prog.Takes.of_keeps
  induction op with
  | done a => trivial
  | fail e => trivial
  | step update next ih =>
    constructor
    · intro world
      exact .calm (calm.1 world.store) rfl
    · intro world
      exact ih world.store (calm.2 world.store)

theorem read_calm (f : Store → α) : (read f : Op α).Keeps Calm := .read .refl f

theorem modify_calm {f : Store → Store} (h : ∀ s, Calm s (f s)) :
    (modify f : Op Unit).Keeps Calm := .modify h

theorem verifyCaptcha_calm (captcha : CaptchaService) (dto : RegisterDto)
    (provider : Option String) : (verifyCaptcha captcha dto provider).Keeps Calm := by
  unfold verifyCaptcha
  split
  · split
    · trivial
    · exact .require _ _
  · trivial

theorem requirePolicy_calm (r : Realm) (pw : String) :
    (requirePolicy r pw).Keeps Calm := .require _ _

theorem hashPassword_calm (d : Deps) (pw : String) : (hashPassword d pw).Keeps Calm :=
  .bind (.require _ _) fun _ => trivial

theorem admitRegistration_calm (d : Deps) (captcha : CaptchaService) (dto : RegisterDto)
    (provider : Option String) : (admitRegistration d r captcha dto provider).Keeps Calm :=
  .bind (verifyCaptcha_calm _ _ _) fun _ => .bind (.require _ _) fun _ =>
    .bind (.require _ _) fun _ => .bind (read_calm _) fun _ => .bind (.require _ _) fun _ =>
    .bind (read_calm _) fun _ => .bind (.require _ _) fun _ => requirePolicy_calm _ _

theorem storeAttributes_calm (uid : Nat) (attrs : Option (List (String × String))) :
    (storeAttributes r uid attrs).Keeps Calm :=
  .bind (read_calm _) fun _ => .modify fun _ => ⟨rfl, le_rfl, Subset.refl _⟩

theorem recordHistory_calm (uid rid : Nat) (hash : String) (count : Int) :
    (recordHistory uid rid hash count).Keeps Calm := by
  unfold recordHistory
  split
  · trivial
  · refine .bind (modify_calm fun s => ⟨rfl, le_succ _, Subset.refl _⟩) fun _ =>
      .bind (read_calm _) fun _ => ?_
    dsimp only
    split
    · trivial
    · exact modify_calm fun s => ⟨rfl, le_rfl, Subset.refl _⟩

theorem requireNoComplaint_calm (complaint : Option String) :
    (requireNoComplaint complaint).Keeps Calm := by
  cases complaint <;> trivial

-- the checks of the form are not to be evaluated here
attribute [local irreducible] require in
theorem admitForm_calm (d : Deps) (csrfValid : Bool) (body : Body) :
    (admitForm d r csrfValid body).Keeps Calm :=
  .bind (.require _ _) fun _ => .bind (.require _ _) fun _ => .bind (.require _ _) fun _ =>
    .bind (.require _ _) fun _ => .bind (.require _ _) fun _ => .bind (.require _ _) fun _ =>
    .bind (.require _ _) fun _ => .bind (.require _ _) fun _ => .bind (.require _ _) fun _ =>
    .require _ _

theorem admitApplicant_calm (body : Body) : (admitApplicant r body).Keeps Calm :=
  .bind (read_calm _) fun _ => .bind (requireNoComplaint_calm _) fun _ =>
    .bind (read_calm _) fun _ => .bind (read_calm _) fun _ => .require _ _

theorem valuesCreated_calm (uid : Nat) (values : List (Nat × String)) (s : Store) :
    Calm s (valuesCreated uid values s).2 := by
  unfold valuesCreated
  split
  · exact .refl s
  · exact ⟨rfl, le_rfl, Subset.refl _⟩

theorem validateAndSaveRegistrationAttributes_calm (d : Deps) (r : Realm) (uid : Nat)
    (body : Body) : (validateAndSaveRegistrationAttributes d r uid body).Keeps Calm := by
  refine .bind (read_calm _) fun definitions => ?_
  cases definitions.findSome? (checkRegistration d body) with
  | some msg => trivial
  | none =>
    dsimp only
    split
    · trivial
    · exact .bind (.atomic fun s => valuesCreated_calm uid _ s) fun _ => .require _ _

theorem findUserInRealm_calm (r : Realm) (uid : Nat) : (findUserInRealm r uid).Keeps Calm :=
  .bind (read_calm _) fun _ => .orFail _ _

variable {change : User → User}

theorem updateRow_step {uid : Nat} {e : User → Event}
    (writes : ∀ row, row.id = uid → Writes w.log row change (e row)) :
    Step r w (w.updateRow uid change e).2 := by
  unfold World.updateRow
  cases found : findUserById uid w.store with
  | none => exact .refl w
  | some row =>
    have same := findUserById_id found
    subst same
    exact .written found (writes row rfl) rfl rfl

theorem sendVerificationEmail_takes (mail : Mail) (uid : Nat) (email : String) :
    (sendVerificationEmail mail uid email).Takes (Step r) (fun _ _ => True) w := by
  unfold sendVerificationEmail
  split
  · refine .andThen (onStore_takes (modify_calm fun s => ?_)) fun _ t => ?_
    · exact ⟨rfl, le_rfl, filter_sublist.subset⟩
    · exact .modify_bind fun u _ => ⟨.issued rfl, by cases mail.sent <;> trivial⟩
  · trivial

theorem sendWelcomeEmail_takes (mail : Mail) :
    (sendWelcomeEmail mail).Takes (Step r) (fun _ _ => True) w := by
  unfold sendWelcomeEmail
  split
  · cases mail.sent <;> trivial
  · trivial

theorem accountOpened_step (dto : RegisterDto) (hash : String) :
    Step r w (accountOpened r dto hash w).2 := by
  unfold accountOpened
  split
  · exact .refl w
  · refine .opened (.registered rfl fun flagged => ?_) rfl rfl rfl
    simpa [newAccount] using flagged

theorem formAccountOpened_step (body : Body) (hash : String) :
    Step r w (formAccountOpened r body hash w).2 := by
  unfold formAccountOpened
  split
  · exact .refl w
  · exact .opened (.registered rfl fun flagged => by cases flagged) rfl rfl rfl

theorem register_takes (d : Deps) (captcha : CaptchaService) (mail : Mail) (dto : RegisterDto)
    (provider : Option String) :
    (register d r captcha mail dto provider).Takes (Step r) (fun _ _ => True) w := by
  refine .andThen (onStore_takes (admitRegistration_calm _ _ _ _)) fun _ _ => ?_
  refine .andThen (onStore_takes (hashPassword_calm _ _)) fun hash _ => ?_
  refine .atomic_bind fun t _ => ⟨accountOpened_step dto hash, ?_⟩
  refine .orFail_bind fun u _ => ?_
  refine .andThen (onStore_takes (storeAttributes_calm _ _)) fun _ _ => ?_
  refine .andThen (onStore_takes (recordHistory_calm _ _ _ _)) fun _ _ => ?_
  dsimp only
  split
  · exact .andThen (sendVerificationEmail_takes _ _ _) fun _ _ => trivial
  · trivial

theorem attempt_takes {p : Run α} (takes : p.Takes (Step r) (fun _ _ => True) w) :
    (p.attempt : Run (Except Failure α)).Takes (Step r) (fun _ _ => True) w := by
  induction p generalizing w with
  | done a => trivial
  | fail e => trivial
  | step update next ih =>
    intro t moved
    obtain ⟨step, rest⟩ := takes t moved
    exact ⟨step, ih t rest⟩

theorem handleRegistration_takes (d : Deps) (mail : Mail) (csrfValid : Bool) (body : Body) :
    (handleRegistration d r mail csrfValid body).Takes (Step r) (fun _ _ => True) w := by
  refine .andThen (onStore_takes (admitForm_calm _ _ _)) fun _ _ => ?_
  refine .andThen (onStore_takes (admitApplicant_calm _)) fun _ _ => ?_
  refine .andThen (onStore_takes (hashPassword_calm _ _)) fun hash _ => ?_
  refine .atomic_bind fun t _ => ⟨formAccountOpened_step body hash, ?_⟩
  refine .orFail_bind fun user _ => ?_
  refine .andThen (onStore_takes (recordHistory_calm _ _ _ _)) fun _ _ => ?_
  refine .andThen (attempt_takes (onStore_takes
    (validateAndSaveRegistrationAttributes_calm _ _ _ _))) fun saved _ => ?_
  cases saved with
  | error f => exact .modify_bind fun u _ => ⟨.withdrawn rfl, trivial⟩
  | ok _ => exact .andThen (attempt_takes (sendVerificationEmail_takes _ _ _)) fun _ _ => trivial

def TokensIssued (w : World) : Prop :=
  ∀ row ∈ w.store.verificationTokens, row.type = .email_verification →
    ∃ token address, row.tokenHash = sha256 token ∧ .issued token row.userId address ∈ w.log

theorem TokensIssued.of_subset (issued : TokensIssued w)
    (toks : w'.store.verificationTokens ⊆ w.store.verificationTokens) (log : w.log ⊆ w'.log) :
    TokensIssued w' := by
  intro row mem ofAddress
  obtain ⟨tok, addr, isHash, e⟩ := issued row (toks mem) ofAddress
  exact ⟨tok, addr, isHash, log e⟩

theorem accountDeleted_tokens (call uid : Nat) (w : World) :
    (accountDeleted call uid w).2.store.verificationTokens ⊆ w.store.verificationTokens := by
  unfold accountDeleted
  split
  · exact Subset.refl _
  · exact filter_sublist.subset

theorem TokensIssued.step (issued : TokensIssued w) (step : Step r w w') : TokensIssued w' := by
  have grown := step.log
  cases step with
  | calm calm _ => exact issued.of_subset calm.tokens grown
  | remarked _ same _ => exact issued.of_subset (by rw [same]; exact Subset.refl _) grown
  | opened _ _ isStore _ => exact issued.of_subset (by rw [isStore]; exact Subset.refl _) grown
  | written _ _ isStore _ => exact issued.of_subset (by rw [isStore]; exact Subset.refl _) grown
  | rejected _ isNext _ =>
    exact issued.of_subset (by rw [isNext]; exact accountDeleted_tokens _ _ _) grown
  | withdrawn isNext =>
    exact issued.of_subset (by rw [isNext]; exact filter_sublist.subset) grown
  | @issued uid addr isNext =>
    intro row mem ofAddress
    rw [isNext] at mem ⊢
    rcases mem_cons.mp mem with rfl | old
    · exact ⟨_, addr, rfl, mem_cons_self⟩
    · obtain ⟨tok, addr, isHash, e⟩ := issued row old ofAddress
      exact ⟨tok, addr, isHash, .tail _ e⟩

theorem TokensIssued.steps (issued : TokensIssued w) (steps : ReflTransGen (Step r) w w') :
    TokensIssued w' := by
  induction steps with
  | refl => exact issued
  | tail _ step ih => exact ih.step step

/-- What `validateToken` returns is the user that the token was issued to. -/
theorem validateToken_takes (token : Nat) (issued : TokensIssued w) :
    (onStore (validateToken token .email_verification)).Takes (Step r)
      (fun res t => ∀ uid, res = some uid → ∃ addr, .issued token uid addr ∈ t.log) w := by
  intro t moved
  refine ⟨.refl t, fun u later => ⟨.refl u, ?_⟩⟩
  dsimp only [storePart]
  cases hit : findToken token t.store with
  | none =>
    intro uid no
    cases no
  | some record =>
    intro v last
    refine ⟨.calm ⟨rfl, le_rfl, filter_sublist.subset⟩ rfl, ?_⟩
    intro uid isUser
    split at isUser
    case isFalse => cases isUser
    case isTrue stands =>
      cases isUser
      simp only [tokenStands, and_eq_true, decide_eq_true_eq] at stands
      have isToken : record.tokenHash = sha256 token := by simpa using find?_some hit
      obtain ⟨other, addr, isHash, e⟩ :=
        (issued.steps moved) record (mem_of_find?_eq_some hit) stands.1
      have same : other = token := sha256_inj.mp (isHash.symm.trans isToken)
      subst same
      have kept : .issued other record.userId addr ∈ v.log :=
        steps_log last (steps_log later e)
      exact ⟨addr, kept⟩

theorem findInRealm_id {userId : Nat} {u : User} {s : Store}
    (hit : findInRealm r userId s = some u) : u.id = userId := by
  have named := find?_some hit
  simp only [and_eq_true, decide_eq_true_eq] at named
  exact named.1

theorem addressVerified_step {tok uid : Nat} (issued : ∃ addr, .issued tok uid addr ∈ w.log) :
    Step r w (addressVerified tok uid w).2 := by
  obtain ⟨addr, e⟩ := issued
  apply updateRow_step
  rintro row rfl
  exact .redeemed e

theorem verifyEmail_takes (tok : Nat) (issued : TokensIssued w) :
    (verifyEmail r tok).Takes (Step r) (fun _ _ => True) w := by
  refine .bind ((validateToken_takes tok issued).mono fun res t known => ?_)
  cases res with
  | none => trivial
  | some uid =>
    obtain ⟨addr, e⟩ := known uid rfl
    refine .atomic_bind fun u later => ?_
    unfold verifiedUser
    cases found : findInRealm r uid u.store with
    | none => exact ⟨.refl u, trivial⟩
    | some user =>
      have same := findInRealm_id found
      subst same
      refine ⟨.remarked (.verifying user.id user.enabled) rfl rfl, ?_⟩
      refine .atomic_bind fun v next => ?_
      have seen := steps_log next (mem_cons_self (a := Event.verifying user.id user.enabled))
      have kept := steps_log next (.tail _ (steps_log later e))
      have verifies : Step r v (addressVerified tok user.id v).2 :=
        addressVerified_step ⟨addr, kept⟩
      refine ⟨verifies, .require_bind fun _ => ?_⟩
      split
      case isFalse => trivial
      case isTrue disabled =>
        simp only [and_eq_true, not_eq_true'] at disabled
        rw [disabled.1] at seen
        refine .atomic_bind fun x after => ⟨?_, .require_bind fun _ => trivial⟩
        apply updateRow_step
        intro row isRow
        rw [← isRow] at seen
        exact .reenabled (steps_log after (verifies.log seen))

theorem verifyEmailPage_takes (tok : Nat) (issued : TokensIssued w) :
    (verifyEmailPage tok).Takes (Step r) (fun _ _ => True) w := by
  refine .bind ((validateToken_takes tok issued).mono fun res t known => ?_)
  cases res with
  | none => trivial
  | some uid =>
    obtain ⟨addr, e⟩ := known uid rfl
    refine .atomic_bind fun u later => ?_
    refine ⟨addressVerified_step ⟨addr, steps_log later e⟩, ?_⟩
    cases (addressVerified tok uid u).1 <;> trivial

theorem resendVerificationEmail_takes (mail : Mail) (email : String) :
    (resendVerificationEmail r mail email).Takes (Step r) (fun _ _ => True) w := by
  refine .andThen (onStore_takes (read_calm _)) fun hit t => ?_
  cases hit with
  | none => trivial
  | some u =>
    dsimp only
    split
    · trivial
    · exact .andThen (sendVerificationEmail_takes _ _ _) fun _ _ => trivial

theorem approveRegistration_takes (mail : Mail) (uid : Nat) :
    (approveRegistration r mail uid).Takes (Step r) (fun _ _ => True) w := by
  refine .andThen (onStore_takes (read_calm _)) fun hit t => ?_
  refine .orFail_bind fun user _ => ?_
  refine .atomic_bind fun u _ => ⟨updateRow_step fun _ _ => .approved, ?_⟩
  refine .require_bind fun _ => ?_
  cases given user.email with
  | none => trivial
  | some email =>
    dsimp only
    split
    · exact sendVerificationEmail_takes _ _ _
    · exact sendWelcomeEmail_takes _

theorem findPending_id {userId : Nat} {u : User} {s : Store}
    (hit : findPending r userId s = some u) : u.id = userId :=
  findInRealm_id (filter_eq_some_iff.mp hit).1

theorem accountDeleted_step {call uid : Nat} (seen : .rejecting call uid ∈ w.log) :
    Step r w (accountDeleted call uid w).2 := by
  cases hit : findUserById uid w.store with
  | none =>
    have same : (accountDeleted call uid w).2 = w := by simp [accountDeleted, hit]
    rw [same]
    exact .refl w
  | some row => exact .rejected seen rfl (by simp [accountDeleted, hit])

theorem rejectRegistration_takes (call uid : Nat) :
    (rejectRegistration r call uid).Takes (Step r) (fun _ _ => True) w := by
  refine .atomic_bind fun t _ => ?_
  unfold rejectedUser
  cases found : findPending r uid t.store with
  | none => exact ⟨.refl t, trivial⟩
  | some user =>
    have same := findPending_id found
    subst same
    refine ⟨.remarked (.rejecting call user.id) rfl rfl, ?_⟩
    refine .atomic_bind fun u later => ⟨accountDeleted_step ?_, ?_⟩
    · exact steps_log later (mem_cons_self (a := Event.rejecting call user.id))
    · cases (accountDeleted call user.id u).1 <;> trivial

theorem updateUser_takes (uid : Nat) (dto : UpdateUserDto) :
    (updateUser r uid dto).Takes (Step r) (fun _ _ => True) w := by
  refine .andThen (onStore_takes (findUserInRealm_calm _ _)) fun u _ => ?_
  refine .andThen (onStore_takes (read_calm _)) fun taken _ => ?_
  refine .require_bind fun _ => .atomic_bind fun t _ => ⟨?_, ?_⟩
  · exact updateRow_step fun _ _ => .updated
  · cases (profileWritten uid dto t).1 <;> trivial

theorem acceptInvitation_takes (slug : String) (tok : Nat) (uid : Option Nat) :
    (acceptInvitation r slug tok uid).Takes (Step r) (fun _ _ => True) w := by
  refine .read_bind .refl fun _ _ => .orFail_bind fun org _ => ?_
  refine .read_bind .refl fun _ _ => .orFail_bind fun invitation _ => .require_bind fun _ => ?_
  refine .andThen (onStore_takes (read_calm _)) fun now _ => .require_bind fun _ => ?_
  refine .andThen (onStore_takes (read_calm _)) fun owner _ => .orFail_bind fun u _ => ?_
  refine .require_bind fun _ => .require_bind fun _ => ?_
  exact .modify_bind fun t _ => ⟨.calm (.refl _) rfl, trivial⟩

section

variable (idp : IdentityProvider)

include idp

section

variable (ext : Broker.ExternalUserInfo)

include ext

theorem profileSynced_step (uid : Nat) : Step r w (profileSynced r idp ext uid w).2 := by
  unfold profileSynced
  dsimp only
  split
  · exact .refl w
  · exact updateRow_step fun _ _ => .synced

theorem identityCreated_step (uid : Nat) (kind : LinkKind) :
    Step r w (identityCreated idp ext uid kind w).2 := by
  unfold identityCreated
  dsimp only
  split
  · exact .refl w
  · exact .remarked (.linked _ _ _ _) rfl rfl

theorem userProvisioned_step : Step r w (userProvisioned r idp ext w).2 := by
  unfold userProvisioned
  split
  · exact .refl w
  · exact .opened .provisioned rfl rfl rfl

theorem linkOrCreateUser_takes :
    (Broker.linkOrCreateUser r idp ext).Takes (Step r) (fun _ _ => True) w := by
  refine .read_bind .refl fun t _ => ?_
  cases Broker.findLinked idp ext t with
  | some user =>
    change (syncUser r idp ext user).Takes _ _ _
    unfold syncUser
    split
    · refine .atomic_bind fun u _ => ⟨profileSynced_step idp ext user.id, ?_⟩
      exact .require_bind fun _ => trivial
    · trivial
  | none =>
    refine .andThen ?_ fun claimed u => ?_
    · unfold Broker.claimUser
      split
      case h_1 email _ =>
        split
        · refine .andThen (onStore_takes (read_calm _)) fun old _ => ?_
          cases old with
          | none => trivial
          | some user =>
            refine .atomic_bind fun _ _ => ⟨identityCreated_step idp ext user.id _, ?_⟩
            exact .require_bind fun _ => trivial
        · trivial
      case h_2 => trivial
    · cases claimed with
      | some user => trivial
      | none =>
        refine .require_bind fun _ => .atomic_bind fun _ _ => ⟨userProvisioned_step _ _, ?_⟩
        refine .orFail_bind fun user _ => .atomic_bind fun _ _ => ⟨?_, ?_⟩
        · exact identityCreated_step idp ext user.id .created
        · exact .require_bind fun _ => trivial

end

end

theorem brokerLogin_takes (runtime : Js.Runtime) (host : String → Option String)
    (idp : IdentityProvider) (answers : Broker.Answers) :
    (Broker.brokerLogin r idp runtime host answers).Takes (Step r) (fun _ _ => True) w :=
  .orFail_bind fun ext _ => linkOrCreateUser_takes idp ext

inductive Call where
  | register (captcha : CaptchaService) (mail : Mail) (dto : RegisterDto)
      (captchaProvider : Option String)
  | handleRegistration (mail : Mail) (csrfValid : Bool) (body : Body)
  | verifyEmail (token : Nat)
  | verifyEmailPage (token : Nat)
  | resendVerificationEmail (mail : Mail) (email : String)
  | approveRegistration (mail : Mail) (userId : Nat)
  | rejectRegistration (userId : Nat)
  | updateUser (userId : Nat) (dto : UpdateUserDto)
  | brokerLogin (idp : IdentityProvider) (answers : Broker.Answers)
  | acceptInvitation (slug : String) (token : Nat) (userId : Option Nat)

structure Server where
  deps : Deps
  runtime : Js.Runtime
  hostname : String → Option String

/-- The program of the call, which is number `i` of the run. -/
def Call.program (server : Server) (realm : RegistrationRealm) (i : Nat) : Call → Run Unit
  | .register captcha mail dto captchaProvider => do
    let _ ← Registration.register server.deps realm captcha mail dto captchaProvider
  | .handleRegistration mail csrfValid body => do
    let _ ← Registration.handleRegistration server.deps realm mail csrfValid body
  | .verifyEmail token => do let _ ← Registration.verifyEmail realm token
  | .verifyEmailPage token => Registration.verifyEmailPage token
  | .resendVerificationEmail mail email => do
    let _ ← Registration.resendVerificationEmail realm mail email
  | .approveRegistration mail userId => Registration.approveRegistration realm mail userId
  | .rejectRegistration userId => Registration.rejectRegistration realm i userId
  | .updateUser userId dto => Registration.updateUser realm userId dto
  | .brokerLogin idp answers => do
    let _ ← Broker.brokerLogin realm idp server.runtime server.hostname answers
  | .acceptInvitation slug token userId => do
    let _ ← Registration.acceptInvitation realm slug token userId

theorem program_takes (server : Server) (i : Nat) (call : Call) (issued : TokensIssued w) :
    (call.program server r i).Takes (Step r) (fun _ _ => True) w := by
  cases call with
  | register captcha mail dto provider => exact .andThen (register_takes _ _ _ _ _) fun _ _ => trivial
  | handleRegistration mail csrfValid body =>
    exact .andThen (handleRegistration_takes _ _ _ _) fun _ _ => trivial
  | verifyEmail tok => exact .andThen (verifyEmail_takes tok issued) fun _ _ => trivial
  | verifyEmailPage tok => exact verifyEmailPage_takes tok issued
  | resendVerificationEmail mail email =>
    exact .andThen (resendVerificationEmail_takes mail email) fun _ _ => trivial
  | approveRegistration mail uid => exact approveRegistration_takes mail uid
  | rejectRegistration uid => exact rejectRegistration_takes i uid
  | updateUser uid dto => exact updateUser_takes uid dto
  | brokerLogin idp answers => exact .andThen (brokerLogin_takes _ _ _ _) fun _ _ => trivial
  | acceptInvitation slug tok uid =>
    exact .andThen (acceptInvitation_takes slug tok uid) fun _ _ => trivial

def Tick (w w' : World) : Prop := ∃ now, w' = { w with store := { w.store with now := now } }

def begun (server : Server) (realm : RegistrationRealm) (calls : Nat → Call) (w : World) :
    Pool Nat World Failure Unit :=
  ⟨w, fun i => (calls i).program server realm i⟩

/-- The worlds that the calls can reach, in any order of their steps. -/
def Reached (server : Server) (realm : RegistrationRealm) (calls : Nat → Call) (w w' : World) :
    Prop :=
  ∃ pool, Pool.Reaches Tick (fun _ _ => True) (begun server realm calls w) pool ∧ pool.state = w'

theorem Reached.steps {server : Server} {calls : Nat → Call} (issued : TokensIssued w)
    (reached : Reached server r calls w w') : ReflTransGen (Step r) w w' := by
  obtain ⟨pool, reaches, rfl⟩ := reached
  have env : ∀ s s' : World, Tick s s' → Step r s s' := by
    rintro s s' ⟨now, rfl⟩
    exact .calm ⟨rfl, le_rfl, Subset.refl _⟩ rfl
  exact (Pool.takes env (fun i => program_takes server i (calls i) issued) reaches).1

def inTurn (server : Server) (realm : RegistrationRealm) (calls : Nat → Call) (w : World)
    (turns : List Nat) : World :=
  (turns.foldl Pool.runOne (begun server realm calls w)).state

theorem inTurn_reached (server : Server) (r : RegistrationRealm) (calls : Nat → Call)
    (w : World) (turns : List Nat) :
    Reached server r calls w (inTurn server r calls w turns) := by
  refine ⟨_, ?_, rfl⟩
  generalize begun server r calls w = pool
  induction turns generalizing pool with
  | nil => exact .refl
  | cons turn rest ih => exact (Pool.reaches_runOne (fun _ _ => trivial) pool turn).trans (ih _)

theorem Writes.id {log : List Event} {row : User} {ev : Event}
    (writes : Writes log row change ev) (u : User) : (change u).id = u.id := by
  cases writes <;> rfl

theorem userKeys_subset {s s' : Store} (keys : UserKeys s) (us : s'.users ⊆ s.users)
    (supply : s.supply ≤ s'.supply) : UserKeys s' where
  unique := subset keys.unique fun _ mem => us mem
  drawn u mem := (keys.drawn u (us mem)).trans_le supply

theorem accountDeleted_users (call uid : Nat) (w : World) :
    (accountDeleted call uid w).2.store.users ⊆ w.store.users := by
  unfold accountDeleted
  split
  · exact Subset.refl _
  · exact filter_sublist.subset

theorem accountDeleted_supply (call uid : Nat) (w : World) :
    (accountDeleted call uid w).2.store.supply = w.store.supply := by
  unfold accountDeleted
  split <;> rfl

theorem Step.keys (keys : UserKeys w.store) (step : Step r w w') : UserKeys w'.store := by
  cases step with
  | calm calm _ => exact userKeys_subset keys (by rw [calm.users]; exact Subset.refl _) calm.supply
  | remarked _ same _ => rw [same]; exact keys
  | @opened u ev _ isNew isStore _ =>
    rw [isStore]
    constructor
    · apply cons keys.unique
      intro other mem
      have drawn := keys.drawn other mem
      omega
    · intro other mem
      rcases mem_cons.mp mem with rfl | old
      · simp [isNew]
      · exact lt_succ_of_lt (keys.drawn other old)
  | @written row change ev _ writes isStore _ =>
    rw [isStore]
    have same : ∀ u, (if u.id = row.id then change u else u).id = u.id := by
      intro u
      split
      · exact writes.id u
      · rfl
    constructor
    · exact map keys.unique same
    · intro other mem
      obtain ⟨u, old, rfl⟩ := mem_map.mp mem
      rw [same]
      exact keys.drawn u old
  | issued isNext =>
    rw [isNext]
    exact userKeys_subset keys (Subset.refl _) (le_succ _)
  | rejected _ isNext _ =>
    rw [isNext]
    exact userKeys_subset keys (accountDeleted_users _ _ w) (accountDeleted_supply _ _ w).ge
  | withdrawn isNext =>
    rw [isNext]
    exact userKeys_subset keys filter_sublist.subset le_rfl

end Idenplane.Registration
