import Idenplane.Lib.Loops
import Idenplane.Passwords.History
import Idenplane.Registration.Approval

/-! # The gate

Who may open an account, asked at two entrances that were written independently.  What they ask
alike is `Eligible`; the rest each asks alone. -/

namespace Idenplane.Registration

open Atomic Auth Admin Passwords Text Prog.Decides List

section

variable (deps : Deps) (realm : RegistrationRealm) (captcha : CaptchaService) (dto : RegisterDto)

/-- What follows the last `@`. -/
def lastDomain (email : String) : Option String :=
  if '@' ∈ email.toList then
    some (String.ofList (email.toList.reverse.takeWhile (· ≠ '@')).reverse)
  else none

def DomainListed (email : String) : Prop :=
  realm.allowedEmailDomains ≠ [] → ∃ domain, lastDomain email = some domain ∧
    deps.toLowerCase domain ∈ realm.allowedEmailDomains.map deps.toLowerCase

def attributeValue (definition : CustomAttribute) : String :=
  trim (((dto.attributes.getD []).lookup definition.name).getD "")

def CaptchaVerified (captchaProvider : Option String) : Prop :=
  ∃ provider token, given realm.captchaProvider = some provider ∧ provider ≠ NONE ∧
    given captchaProvider = some provider ∧ given dto.captchaToken = some token ∧
    (captcha.verify token provider (some "register")).success = true

/-- What has to hold when an account is opened; `captchaVerified` says whether the entrance has
verified a CAPTCHA. -/
structure Gate (s : Store) (captchaVerified : Prop) : Prop where
  allowed : realm.registrationAllowed = true
  terms : truthy realm.termsOfServiceUrl = true → dto.acceptTerms.getD false = true
  captcha : realm.captchaEnabled = true → captchaVerified
  attributes : ∀ definition ∈ registrationAttributes realm s, definition.required = true →
    attributeValue dto definition ≠ "" ∧
      validateAttributeValue deps definition (attributeValue dto definition) = none
  domain : DomainListed deps realm dto.email

end

def CreatesUser {α : Type} (req : Run α) (w : World) : Prop :=
  ∃ user ∈ (req.run w).2.store.users, user ∉ w.store.users

/-- The form carries what the body of the API does, with the password twice. -/
structure SameData (realm : RegistrationRealm) (s : Store) (dto : RegisterDto) (body : Body) :
    Prop where
  username : trimmed body "username" = dto.username
  email : trimmed body "email" = dto.email
  firstName : trimmed body "firstName" = dto.firstName.getD ""
  lastName : trimmed body "lastName" = dto.lastName.getD ""
  password : field body "password" = dto.password
  confirmPassword : field body "confirmPassword" = dto.password
  terms : field body "terms_accepted" ≠ "" ↔ dto.acceptTerms.getD false = true
  attributes : ∀ definition ∈ registrationAttributes realm s,
    formValue body definition = attributeValue dto definition

section

variable (deps : Deps) (realm : RegistrationRealm) (isEmail : String → Bool)
  (captcha : CaptchaService) (mail : Mail) (dto : RegisterDto) (captchaProvider : Option String)
  (body : Body) (w : World)

/-- One request: each entrance lets only those in who meet the gate, and the same
data pass at one exactly when they pass at the other.  The form asks no CAPTCHA service. -/
structure Gated : Prop where
  api : CreatesUser (registerController deps realm isEmail captcha mail dto captchaProvider) w →
    Gate deps realm dto w.store (CaptchaVerified realm captcha dto captchaProvider)
  form : CreatesUser (handleRegistration deps realm mail true body) w →
    Gate deps realm dto w.store False
  alike : CreatesUser (registerController deps realm isEmail captcha mail dto captchaProvider) w ↔
    CreatesUser (handleRegistration deps realm mail true body) w

structure Eligible (s : Store) : Prop where
  allowed : realm.registrationAllowed = true
  terms : truthy realm.termsOfServiceUrl = true → dto.acceptTerms.getD false = true
  username : findUser realm.id dto.username s = none
  email : emailTaken realm.toRealm (some dto.email) s = false
  policy : (passwordErrors realm.toRealm dto.password).isEmpty = true
  length : utf16Length dto.password.toList ≤ maxPasswordLength

/-- The domain that both entrances ask about: what stands between the first `@` and the next. -/
def domainAsked (email : String) : String :=
  ((second '@' email.toList).map fun part => deps.toLowerCase (String.ofList part)).getD ""

def Foreign : Prop :=
  realm.allowedEmailDomains ≠ [] ∧
    domainAsked deps dto.email ∉ realm.allowedEmailDomains.map deps.toLowerCase

/-- What the API asks alone. -/
structure ApiAccepts : Prop where
  username : 3 ≤ utf16Length dto.username.toList
  characters : ∀ c ∈ dto.username.toList, isUsernameChar c = true
  address : isEmail dto.email = true
  password : 8 ≤ utf16Length dto.password.toList
  /-- A caller that asks for a CAPTCHA passes it. -/
  captcha : ∀ provider token, given captchaProvider = some provider →
    given dto.captchaToken = some token → provider ≠ NONE →
      (captcha.verify token provider (some "register")).success = true
  somewhere : realm.allowedEmailDomains ≠ [] → domainAsked deps dto.email ≠ ""

/-- What the form asks alone. -/
structure FormAccepts (s : Store) : Prop where
  username : 2 ≤ utf16Length dto.username.toList
  angles : ∀ text ∈ [dto.username, dto.firstName.getD "", dto.lastName.getD ""],
    hasAngle text = false
  email : dto.email ≠ ""
  password : dto.password ≠ ""
  attributes : ∀ definition ∈ registrationAttributes realm s,
    if attributeValue dto definition = "" then definition.required = false
    else validateAttributeValue deps definition (attributeValue dto definition) = none

/-- One `@` in the address, or a domain of the list behind the last one. -/
def Unquoted : Prop :=
  dto.email.toList.count '@' ≤ 1 ∨ ∃ domain, lastDomain dto.email = some domain ∧
    deps.toLowerCase domain ∈ realm.allowedEmailDomains.map deps.toLowerCase

/-- The requests that are treated as they should be: those that are refused by what both entrances
ask or by something at either, and those that pass everything in a realm without a CAPTCHA, with
an address that is in the domain asked about. -/
inductive Fair (s : Store) : Prop
  | ineligible (refused : ¬Eligible realm dto s)
  | foreign (refused : Foreign deps realm dto)
  | refused (api : ¬ApiAccepts deps realm isEmail captcha dto captchaProvider)
      (form : ¬FormAccepts deps realm dto s)
  | admitted (api : ApiAccepts deps realm isEmail captcha dto captchaProvider)
      (form : FormAccepts deps realm dto s) (unguarded : realm.captchaEnabled = false)
      (address : realm.allowedEmailDomains ≠ [] → Unquoted deps realm dto)

end

variable {deps : Deps} {realm : RegistrationRealm} {isEmail : String → Bool}
  {captcha : CaptchaService} {mail : Mail} {dto : RegisterDto} {captchaProvider : Option String}
  {body : Body} {w t : World} {s : Store} {α β : Type}

theorem onStore_run (op : Op α) (w : World) : (onStore op).run w =
    ((op.run w.store).1, { w with store := (op.run w.store).2 }) := by
  induction op generalizing w with
  | done a => rfl
  | fail e => rfl
  | step update next ih => exact ih w.store _

abbrev Checks (operation : Op α) (s : Store) (ok : Prop) (a : α) : Prop :=
  operation.Decides (· = s) s ok a s

theorem checks_read {f : Store → α} : Checks (read f) s True (f s) :=
  ⟨fun _ => rfl, fun refused => absurd trivial refused⟩

theorem checks_require {check : Bool} {f : Failure} :
    Checks (require check f) s (check = true) () := .require rfl

theorem checks_complaint {complaint : Option String} :
    Checks (requireNoComplaint complaint) s (complaint = none) () := by
  cases complaint with
  | none => exact ⟨fun _ => rfl, fun refused => absurd rfl refused⟩
  | some msg => exact ⟨(by cases ·), fun _ => ⟨_, s, rfl, rfl⟩⟩

theorem checks_hash {pw : String} : Checks (hashPassword deps pw) s
    (decide (utf16Length pw.toList ≤ maxPasswordLength) = true ∧ True)
    (deps.hashPassword pw) :=
  checks_require.bind fun _ => .done _ s

theorem verifyCaptcha_checks : Checks (verifyCaptcha captcha dto captchaProvider) s
    (∀ provider token, given captchaProvider = some provider →
      given dto.captchaToken = some token → provider ≠ NONE →
        (captcha.verify token provider (some "register")).success = true) () := by
  unfold verifyCaptcha
  cases given captchaProvider with
  | none => exact (done () s).congr (by simp)
  | some provider =>
    cases given dto.captchaToken with
    | none => exact (done () s).congr (by simp)
    | some tok =>
      dsimp only
      split
      case isTrue none => exact (done () s).congr (by simp [none])
      case isFalse asked => exact checks_require.congr (by simp [asked])

theorem Checks.onStore {op : Op α} {ok : Prop} {a : α}
    (checks : Checks op w.store ok a) : (onStore op).Decides (· = w) w ok a w where
  runs holds := by rw [onStore_run, checks.runs holds]
  fails refused := by
    obtain ⟨f, s, failed, rfl⟩ := checks.fails refused
    exact ⟨f, w, by rw [onStore_run, failed], rfl⟩

/-- Besides the users of `w` there is somebody exactly if `ok`. -/
structure Admits (w : World) (req : Run α) (t : World) (ok : Prop) : Prop where
  created : ok → ∃ user ∈ (req.run t).2.store.users, user ∉ w.store.users
  refused : ¬ok → (req.run t).2.store.users = w.store.users

variable {req : Run α}

theorem Admits.creates {ok : Prop} (admits : Admits w req w ok) : CreatesUser req w ↔ ok := by
  constructor
  · intro creates
    by_contra refused
    obtain ⟨u, isUser, isNew⟩ := creates
    rw [admits.refused refused] at isUser
    exact isNew isUser
  · exact admits.created

variable {ok ok' : Prop}

theorem Admits.after {first : Run α} {rest : α → Run β} {a : α}
    (checks : first.Decides (· = w) w ok a w) (admits : ok → Admits w (rest a) w ok') :
    Admits w (first >>= rest) w (ok ∧ ok') where
  created holds := by
    rw [run_bind, checks.runs holds.1]
    exact (admits holds.1).created holds.2
  refused refused := by
    by_cases holds : ok
    · rw [run_bind, checks.runs holds]
      exact (admits holds).refused fun holds' => refused ⟨holds, holds'⟩
    · obtain ⟨f, t, failed, rfl⟩ := checks.fails holds
      rw [run_bind, failed]

def SameUsers (t t' : World) : Prop := t'.store.users = t.store.users

theorem SameUsers.refl (t : World) : SameUsers t t := rfl

theorem SameUsers.trans {a b c : World} (first : SameUsers a b) (snd : SameUsers b c) :
    SameUsers a c :=
  Eq.trans snd first

theorem onStore_users {op : Op α} (calm : op.Keeps Calm) : (onStore op).Keeps SameUsers := by
  induction op with
  | done a => trivial
  | fail e => trivial
  | step update next ih =>
    exact ⟨fun world => (calm.1 world.store).users, fun world => ih world.store (calm.2 world.store)⟩

theorem sendVerificationEmail_users (uid : Nat) (email : String) :
    (sendVerificationEmail mail uid email).Keeps SameUsers := by
  unfold sendVerificationEmail
  split
  · refine .bind (onStore_users (modify_calm ?_)) fun _ => ?_
    · exact fun s => ⟨rfl, le_rfl, filter_sublist.subset⟩
    · exact .bind (.modify fun _ => rfl) fun _ => .require _ _
  · trivial

theorem Admits.of_keeps {u : User} (isUser : u ∈ t.store.users) (isNew : u ∉ w.store.users)
    (keeps : req.Keeps SameUsers) : Admits w req t True where
  created _ := by
    have same : (req.run t).2.store.users = t.store.users :=
      keeps.run .refl .trans t
    exact ⟨u, same.symm ▸ isUser, isNew⟩
  refused impossible := absurd trivial impossible

theorem Admits.opening (taken : Bool) {opening : World → Option User × World} {f : Failure}
    {rest : User → Run β}
    (opens : taken = false → ∃ u t, opening w = (some u, t) ∧ Admits w (rest u) t ok)
    (refuses : taken = true → opening w = (none, w)) :
    Admits w (atomic opening >>= fun created => orFail created f >>= rest) w
      (taken = false ∧ ok) := by
  cases taken with
  | true =>
    refine ⟨fun holds => absurd holds.1 (by decide), fun _ => ?_⟩
    rw [run_atomic_bind, refuses rfl]
    rfl
  | false =>
    obtain ⟨u, t, opened, admits⟩ := opens rfl
    constructor
    · intro holds
      rw [run_atomic_bind, opened]
      exact admits.created holds.2
    · intro refused
      rw [run_atomic_bind, opened]
      exact admits.refused fun holds => refused ⟨rfl, holds⟩

theorem newcomer_isNew (keys : UserKeys w.store) {u : User} (isNext : u.id = w.store.supply) :
    u ∉ w.store.users := by
  intro isUser
  have drawn := keys.drawn u isUser
  omega

theorem newcomer_leaves (keys : UserKeys w.store) {u : User} (isNext : u.id = w.store.supply) :
    (u :: w.store.users).filter (·.id ≠ u.id) = w.store.users := by
  simp only [filter_cons, ne_eq, not_true_eq_false, decide_false, false_eq_true, if_false,
    filter_eq_self, decide_eq_true_eq]
  intro old isUser
  have drawn := keys.drawn old isUser
  omega

variable (deps) in
theorem validateAndSave_saves {uid : Nat} (fresh : ∀ row ∈ s.userAttributes, row.userId ≠ uid)
    (complete : (registrationAttributes realm s).findSome? (checkRegistration deps body) = none) :
    ∃ s', (validateAndSaveRegistrationAttributes deps realm.toRealm uid body).run s = (.ok (), s') ∧
      s'.users = s.users := by
  have new : ∀ values, (valuesCreated uid values s).1 = true ∧
      (valuesCreated uid values s).2.users = s.users := by
    intro values
    have free : (values.any fun v => s.userAttributes.any fun row =>
        row.userId = uid && row.attributeId = v.1) = false := by
      rw [any_eq_false]
      intro v _ taken
      obtain ⟨row, isRow, same⟩ := any_eq_true.mp taken
      simp only [and_eq_true, decide_eq_true_eq] at same
      exact fresh row isRow same.1
    simp [valuesCreated, free]
  unfold registrationAttributes at complete
  simp only [validateAndSaveRegistrationAttributes, run_read_bind, complete]
  split
  · exact ⟨s, rfl, rfl⟩
  · exact ⟨_, by rw [run_atomic_bind, (new _).1]; rfl, (new _).2⟩

theorem validateAndSave_refuses {uid : Nat} {msg : String}
    (wrong : (registrationAttributes realm s).findSome? (checkRegistration deps body) =
      some msg) : (validateAndSaveRegistrationAttributes deps realm.toRealm uid body).run s =
      (.error (badRequest msg), s) := by
  unfold registrationAttributes at wrong
  simp only [validateAndSaveRegistrationAttributes, run_read_bind, wrong, Prog.run_fail]

theorem username_free {uname email : String} :
    ((findUser realm.id uname s).isSome || emailTaken realm.toRealm (some email) s) = false ↔
      findUser realm.id uname s = none ∧ emailTaken realm.toRealm (some email) s = false := by
  simp [Option.isSome_eq_false_iff]

theorem terms_accepted {asked accepted : Bool} :
    (!(asked && !accepted)) = true ↔ (asked = true → accepted = true) := by
  cases asked <;> simp

theorem emailDomain_eq (email : String) : (emailDomain deps email).getD "" =
    domainAsked deps email := by
  rw [emailDomain, split_getElem?_one, domainAsked]

theorem formDomainAllowed_iff :
    formDomainAllowed deps realm dto.email = true ↔ ¬Foreign deps realm dto := by
  simp [formDomainAllowed, emailDomain_eq, Foreign, or_iff_not_imp_left]

/-- The API takes no blank domain, even where the list has one. -/
theorem domainAllowed_iff : domainAllowed deps realm dto.email = true ↔ ¬Foreign deps realm dto ∧
      (realm.allowedEmailDomains ≠ [] → domainAsked deps dto.email ≠ "") := by
  rw [← emailDomain_eq, Foreign, ← emailDomain_eq, domainAllowed]
  cases realm.allowedEmailDomains with
  | nil => simp
  | cons d rest =>
    cases emailDomain deps dto.email with
    | none => simp [given]
    | some domain =>
      by_cases blank : domain = ""
      · subst blank
        simp [given, Option.filter]
      · have named : given (some domain) = some domain := by simp [given, Option.filter, blank]
        rw [named]
        simp [blank, or_iff_not_imp_left]

theorem api_creates (keys : UserKeys w.store) :
    CreatesUser (registerController deps realm isEmail captcha mail dto captchaProvider) w ↔
      Eligible realm dto w.store ∧ ¬Foreign deps realm dto ∧
        ApiAccepts deps realm isEmail captcha dto captchaProvider := by
  have admits : Admits w
      (registerController deps realm isEmail captcha mail dto captchaProvider) w _ :=
    .after (.require rfl) fun _ => .after (.require rfl) fun _ => .after
      (Checks.onStore (verifyCaptcha_checks.bind fun _ => checks_require.bind fun _ =>
        checks_require.bind fun _ => checks_read.bind fun _ => checks_require.bind fun _ =>
        checks_read.bind fun _ => checks_require.bind fun _ => checks_require)) fun _ =>
    .after checks_hash.onStore fun _ => .opening ((findUser realm.id dto.username w.store).isSome ||
      emailTaken realm.toRealm (some dto.email) w.store)
      (fun free => by
        refine ⟨newAccount realm dto (deps.hashPassword dto.password) w.store, _,
          by simp only [accountOpened, free]; rfl, ?_⟩
        apply Admits.of_keeps mem_cons_self (newcomer_isNew keys rfl)
        refine .bind (onStore_users (storeAttributes_calm _ _)) fun _ => ?_
        refine .bind (onStore_users (recordHistory_calm _ _ _ _)) fun _ => ?_
        dsimp only
        split
        · exact .bind (sendVerificationEmail_users _ _) fun _ => trivial
        · trivial)
      fun taken => by simp [accountOpened, taken]
  rw [admits.creates, domainAllowed_iff, username_free, terms_accepted]
  constructor
  · intro asked
    obtain ⟨valid, terms, ⟨captcha, allowed, ⟨domestic, somewhere⟩, _, _, _, _, pol⟩, ⟨len, _⟩,
      ⟨uname, email⟩, _⟩ := asked
    simp only [validDto, and_eq_true, decide_eq_true_eq, all_eq_true] at valid
    obtain ⟨⟨⟨long, chars⟩, address⟩, strong⟩ := valid
    exact ⟨⟨allowed, terms, uname, email, pol, of_decide_eq_true len⟩, domestic,
      ⟨long, chars, address, strong, captcha, somewhere⟩⟩
  · rintro ⟨eligible, domestic, accepts⟩
    have valid : validDto isEmail dto = true := by
      simp only [validDto, and_eq_true, decide_eq_true_eq, all_eq_true]
      exact ⟨⟨⟨accepts.username, accepts.characters⟩, accepts.address⟩, accepts.password⟩
    refine ⟨valid, eligible.terms, ⟨accepts.captcha, eligible.allowed,
      ⟨domestic, accepts.somewhere⟩, trivial, ?_, trivial, ?_, eligible.policy⟩,
      ⟨decide_eq_true eligible.length, trivial⟩, ⟨eligible.username, eligible.email⟩, trivial⟩
    · rw [eligible.username]
      rfl
    · rw [eligible.email]
      simp

theorem checkRegistration_none {defn : CustomAttribute}
    (same : formValue body defn = attributeValue dto defn) :
    checkRegistration deps body defn = none ↔
      if attributeValue dto defn = "" then defn.required = false
      else validateAttributeValue deps defn (attributeValue dto defn) = none := by
  unfold checkRegistration
  rw [same]
  dsimp only
  split
  · cases defn.required <;> simp
  · exact Iff.rfl

/-- The account goes again when its attributes are not valid. -/
theorem attributes_admit (keys : UserKeys w.store)
    (valued : ∀ row ∈ w.store.userAttributes, row.userId < w.store.supply) {user : User}
    (isNext : user.id = w.store.supply) {rid : Nat} {hash : String} {count : Int} {ev : Event}
    {f : Failure} {rest : Run User} (keeps : rest.Keeps SameUsers) :
    Admits w (do
      onStore (recordHistory user.id rid hash count)
      let saved ← (onStore
        (validateAndSaveRegistrationAttributes deps realm.toRealm user.id body)).attempt
      match saved with
      | .error _ => do
        modify (accountWithdrawn user.id)
        Prog.fail f
      | .ok () => rest)
      (w.write { w.store with supply := w.store.supply + 1, users := user :: w.store.users } ev)
      ((registrationAttributes realm w.store).findSome? (checkRegistration deps body) = none) := by
  let opened := w.write
    { w.store with supply := w.store.supply + 1, users := user :: w.store.users } ev
  let s := historyKept user.id rid hash count opened.store
  have tables : (s.users, s.userAttributes, s.customAttributes) =
      (user :: w.store.users, w.store.userAttributes, w.store.customAttributes) := by
    unfold s historyKept
    split <;> rfl
  obtain ⟨users, values, definitions⟩ := by simpa only [Prod.mk.injEq] using tables
  have noted : (onStore (recordHistory user.id rid hash count)).run opened =
      (.ok (), { opened with store := s }) := by
    rw [onStore_run, recordHistory_run]
  have sameAttributes : registrationAttributes realm s = registrationAttributes realm w.store := by
    simp only [registrationAttributes, realmAttributes, definitions]
  rw [← sameAttributes]
  constructor
  · intro complete
    have fresh : ∀ row ∈ s.userAttributes, row.userId ≠ user.id := by
      intro row isRow
      rw [values] at isRow
      rw [isNext]
      exact (valued row isRow).ne
    obtain ⟨s', saved, sameUsers⟩ := validateAndSave_saves deps fresh complete
    rw [run_bind, noted]
    dsimp only
    rw [run_attempt_bind, onStore_run, saved]
    have sent : SameUsers { opened with store := s' } (rest.run { opened with store := s' }).2 :=
      keeps.run .refl .trans _
    refine ⟨user, ?_, newcomer_isNew keys isNext⟩
    have isUser : user ∈ s'.users := by
      rw [sameUsers, users]
      exact mem_cons_self
    exact sent.symm ▸ isUser
  · intro wrong
    obtain ⟨msg, isWrong⟩ := Option.ne_none_iff_exists'.mp wrong
    rw [run_bind, noted]
    dsimp only
    rw [run_attempt_bind, onStore_run, validateAndSave_refuses isWrong]
    change s.users.filter (·.id ≠ user.id) = w.store.users
    rw [users]
    exact newcomer_leaves keys isNext

theorem form_creates (keys : UserKeys w.store)
    (valued : ∀ row ∈ w.store.userAttributes, row.userId < w.store.supply)
    (same : SameData realm w.store dto body) :
    CreatesUser (handleRegistration deps realm mail true body) w ↔
      Eligible realm dto w.store ∧ ¬Foreign deps realm dto ∧
        FormAccepts deps realm dto w.store := by
  have admits : Admits w (handleRegistration deps realm mail true body) w _ :=
    .after (Checks.onStore (checks_require.bind fun _ => checks_require.bind fun _ =>
      checks_require.bind fun _ => checks_require.bind fun _ => checks_require.bind fun _ =>
      checks_require.bind fun _ => checks_require.bind fun _ => checks_require.bind fun _ =>
      checks_require.bind fun _ => checks_require)) fun _ =>
    .after (Checks.onStore (checks_read.bind fun _ => checks_complaint.bind fun _ =>
      checks_read.bind fun _ => checks_read.bind fun _ => checks_require)) fun _ =>
    .after checks_hash.onStore fun _ => .opening
      ((findUser realm.id (trimmed body "username") w.store).isSome ||
        emailTaken realm.toRealm (some (trimmed body "email")) w.store)
      (fun free => ⟨_, _, by simp only [formAccountOpened, free]; rfl,
        attributes_admit keys valued rfl (.bind (.attempt (sendVerificationEmail_users _ _))
          fun _ => trivial)⟩)
      fun taken => by simp [formAccountOpened, taken]
  have complete : (registrationAttributes realm w.store).findSome? (checkRegistration deps body) =
      none ↔ ∀ defn ∈ registrationAttributes realm w.store,
        if attributeValue dto defn = "" then defn.required = false
        else validateAttributeValue deps defn (attributeValue dto defn) = none := by
    rw [findSome?_eq_none_iff]
    exact forall₂_congr fun defn shown =>
      checkRegistration_none (same.attributes defn shown)
  have terms : (!(truthy realm.termsOfServiceUrl && field body "terms_accepted" = "")) = true ↔
      (truthy realm.termsOfServiceUrl = true → dto.acceptTerms.getD false = true) := by
    rw [← same.terms]
    cases truthy realm.termsOfServiceUrl <;> simp
  rw [admits.creates, terms, complete, same.username, same.email, same.firstName, same.lastName,
    same.password, same.confirmPassword, formDomainAllowed_iff, username_free]
  constructor
  · intro asked
    obtain ⟨⟨_, allowed, uname, angles, email, domestic, terms, pw, _, pol⟩, _, ⟨len, _⟩,
      ⟨byName, byEmail⟩, attrs⟩ := asked
    refine ⟨⟨allowed, terms, byName, byEmail, pol, of_decide_eq_true len⟩, domestic,
      ⟨of_decide_eq_true uname, ?_, ?_, ?_, attrs⟩⟩
    · simpa [and_assoc] using angles
    · simpa using email
    · simpa using pw
  · rintro ⟨eligible, domestic, accepts⟩
    have filled : (registrationAttributes realm w.store).findSome? (missingAttribute body) =
        none := by
      rw [findSome?_eq_none_iff]
      intro defn shown
      have known := accepts.attributes defn shown
      unfold missingAttribute
      rw [same.attributes defn shown]
      split at known
      case isTrue empty => simp [known]
      case isFalse some_ => simp [some_]
    have free := username_free.mpr ⟨eligible.username, eligible.email⟩
    refine ⟨⟨rfl, eligible.allowed, decide_eq_true accepts.username, ?_, ?_, domestic,
      eligible.terms, ?_, ?_, eligible.policy⟩, ⟨trivial, filled, trivial, trivial, ?_⟩,
      ⟨decide_eq_true eligible.length, trivial⟩, ⟨eligible.username, eligible.email⟩,
      accepts.attributes⟩
    · simpa [and_assoc] using accepts.angles
    · simpa using accepts.email
    · simpa using accepts.password
    · simp
    · rw [free]
      rfl

theorem lastDomain_eq {email : String} {front domain : List Char}
    (shape : email.toList = front ++ '@' :: domain) (absent : '@' ∉ domain) :
    lastDomain email = some (String.ofList domain) := by
  have last : (front ++ '@' :: domain).reverse.takeWhile (· ≠ '@') = domain.reverse := by
    rw [reverse_append, reverse_cons, append_assoc, takeWhile_append_of_pos]
    · simp
    · intro c mem
      simpa using fun same : c = '@' => absent (same ▸ mem_reverse.mp mem)
  rw [lastDomain, if_pos (by simp [shape]), shape, last, reverse_reverse]

/-- An address that has nothing behind the domain asked about is in a domain of the list. -/
theorem domainListed_iff (domestic : ¬Foreign deps realm dto)
    (somewhere : realm.allowedEmailDomains ≠ [] → domainAsked deps dto.email ≠ "") :
    DomainListed deps realm dto.email ↔
      (realm.allowedEmailDomains ≠ [] → Unquoted deps realm dto) := by
  refine forall_congr' fun listed => ⟨.inr, ?_⟩
  rintro (once | behind)
  · have named := somewhere listed
    have mem : domainAsked deps dto.email ∈ realm.allowedEmailDomains.map deps.toLowerCase := by
      by_contra out
      exact domestic ⟨listed, out⟩
    unfold domainAsked at named mem
    cases isSecond : second '@' dto.email.toList with
    | none => simp [isSecond] at named
    | some part =>
      obtain ⟨front, shape, absent⟩ := second_of_count once isSecond
      rw [isSecond] at mem
      exact ⟨_, lastDomain_eq shape absent, mem⟩
  · exact behind

def society : RegistrationRealm :=
  { id := 1, name := "society", allowedEmailDomains := ["society.example"] }

def societyWorld : World where
  store := { supply := 10 }

def applicant (email : String) : RegisterDto where
  username := "new"
  email := email
  password := "correct horse"

def application (email : String) : Body :=
  [("username", "new"), ("email", email), ("password", "correct horse"),
    ("confirmPassword", "correct horse")]

theorem societyWorld_keys : UserKeys societyWorld.store where
  unique := by simp [societyWorld]
  drawn := by simp [societyWorld]

theorem application_same (realm : RegistrationRealm) (email : String)
    (plain : trim email = email) (s : Store)
    (unasked : registrationAttributes realm s = []) :
    SameData realm s (applicant email) (application email) where
  username := by
    have read : field (application email) "username" = "new" := rfl
    rw [trimmed, read]
    rfl
  email := plain
  firstName := rfl
  lastName := rfl
  password := rfl
  confirmPassword := rfl
  terms := by
    have read : field (application email) "terms_accepted" = "" := rfl
    simp [read, applicant]
  attributes definition shown := by
    rw [unasked] at shown
    cases shown

/-- An address has an `@` somewhere. -/
def hasAt (text : String) : Bool := text.toList.contains '@'

def SocietyGated (realm : RegistrationRealm) (email : String) (w : World) : Prop :=
  Gated .transparent realm hasAt noCaptcha {} (applicant email) none (application email) w

theorem applicant_accepted (realm : RegistrationRealm) (email : String) (isAddress : hasAt email = true)
    (somewhere : domainAsked .transparent email ≠ "") :
    ApiAccepts .transparent realm hasAt noCaptcha (applicant email) none :=
  have name : ∀ c ∈ "new".toList, isUsernameChar c = true := List.all_eq_true.mp rfl
  have long : 3 ≤ utf16Length "new".toList := by decide
  have strong : 8 ≤ utf16Length "correct horse".toList := by decide
  ⟨long, name, isAddress, strong, by simp [given], fun _ => somewhere⟩

theorem society_fair :
    Fair .transparent society hasAt noCaptcha (applicant "new@society.example") none
      societyWorld.store :=
  .admitted (applicant_accepted _ _ rfl (by decide))
    ⟨by decide, by decide, by decide, by decide, fun _ shown => nomatch shown⟩ rfl
    fun _ => .inl (by decide)

def guarded : RegistrationRealm := { society with captchaEnabled := true }

end Idenplane.Registration
