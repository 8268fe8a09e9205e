import Idenplane.Lib.Sequential
import Idenplane.Registration.Approval

/-! # Identities and users

Whom two logins at providers both stand for.  An identity is looked up by provider and subject,
then by address, and then a user is created for it.  The record says how each was linked. -/

namespace Idenplane.Broker

open Atomic Auth Admin Registration

structure Login where
  idp : IdentityProvider
  answers : Answers

structure SignIn where
  providerId : Nat
  subject : Option Js
  userId : Nat

section

variable (realm : RegistrationRealm) (runtime : Js.Runtime) (hostname : String → Option String)

def Login.subject (login : Login) : Option Js :=
  login.answers.userinfo.bind fun data => claimOr runtime data "sub" "id"

def Login.run (login : Login) (w : World) : Option SignIn × World :=
  match (brokerLogin realm login.idp runtime hostname login.answers).run w with
  | (.ok user, w') => (some ⟨login.idp.id, login.subject runtime, user.id⟩, w')
  | (.error _, w') => (none, w')

def runLogins : List Login → World → List SignIn × World
  | [], w => ([], w)
  | login :: rest, w =>
    let first := login.run realm runtime hostname w
    let later := runLogins rest first.2
    (first.1.toList ++ later.1, later.2)

def SignIn.text (signIn : SignIn) : Option String := signIn.subject.bind (toStr runtime)

/-- The identity of `y` was linked when that of `x` had been, by an address of the user that was
verified on both sides. -/
def JoinedByEmail (log : List Event) (x y : SignIn) : Prop :=
  ∃ newer older subject email row other kind,
    log = newer ++ .linked y.providerId subject y.userId (.byEmail email row) :: older ∧
    y.text runtime = some subject ∧ row.email = some email ∧ row.emailVerified = true ∧
    x.text runtime = some other ∧ .linked x.providerId other x.userId kind ∈ older

/-- Nobody signs in without a subject, and two logins that end in one user have one subject at
one provider, or the identity of one was linked by a verified address. -/
structure Separate (signIns : List SignIn) (log : List Event) : Prop where
  usable : ∀ x ∈ signIns, ∃ text, x.text runtime = some text ∧ text ≠ ""
  apart : ∀ x ∈ signIns, ∀ y ∈ signIns, x.userId = y.userId →
    (x.providerId = y.providerId ∧ x.subject = y.subject) ∨
      JoinedByEmail runtime log x y ∨ JoinedByEmail runtime log y x

/-- The document has a subject, and a user who is still to be found by the address that the
provider asserts has verified it here. -/
structure SoundLogin (login : Login) (w : World) : Prop where
  subject : ∀ data, login.answers.userinfo = some data →
    ∃ text, usableSubject runtime data = some text ∧ text ≠ ""
  address : ∀ external, fetchExternalUserInfo runtime hostname login.idp login.answers =
      some external →
    findLinked login.idp external w = none → assertsAddress login.idp external = true →
    ∀ user ∈ w.store.users, user.realmId = realm.id → user.email = external.email →
      user.emailVerified = true

def SoundRun : List Login → World → Prop
  | [], _ => True
  | login :: rest, w =>
    SoundLogin realm runtime hostname login w ∧ SoundRun rest (login.run realm runtime hostname w).2

/-- Different subjects of one provider do not read the same, as `1` and `"1"` do. -/
def DistinctTexts (logins : List Login) : Prop :=
  ∀ a ∈ logins, ∀ b ∈ logins, a.idp.id = b.idp.id → ∀ v v', a.subject runtime = some v →
    b.subject runtime = some v' → toStr runtime v = toStr runtime v' → v = v'

end

/-- Every link is in the record, and whoever was found by an address had verified it. -/
structure LinkInv (w : World) : Prop where
  keys : UserKeys w.store
  recorded : ∀ identity ∈ w.federatedIdentities, ∃ kind,
    .linked identity.identityProviderId identity.externalUserId identity.userId kind ∈ w.log
  drawn : ∀ providerId subject userId kind, .linked providerId subject userId kind ∈ w.log →
    userId < w.store.supply
  matched : ∀ providerId subject userId email row,
    .linked providerId subject userId (.byEmail email row) ∈ w.log →
      row.email = some email ∧ row.emailVerified = true
  /-- A user who was created for an identity had no other before. -/
  first : ∀ newer older providerId subject userId,
    w.log = newer ++ .linked providerId subject userId .created :: older →
      ∀ other text kind, .linked other text userId kind ∉ older

def IsLinked (idp : IdentityProvider) (external : ExternalUserInfo) (userId : Nat) (w : World) :
    Prop :=
  ∃ kind, .linked idp.id external.sub userId kind ∈ w.log

variable {realm : RegistrationRealm} {idp : IdentityProvider} {external : ExternalUserInfo}
  {w w' : World} {ev : Event} {uid : Nat} {kind : LinkKind}

theorem IsLinked.mono (linked : IsLinked idp external uid w) (grown : w.log ⊆ w'.log) :
    IsLinked idp external uid w' := by
  obtain ⟨kind, e⟩ := linked
  exact ⟨kind, grown e⟩

theorem LinkInv.cons (inv : LinkInv w) (keys : UserKeys w'.store)
    (supply : w.store.supply ≤ w'.store.supply)
    (identities : w'.federatedIdentities = w.federatedIdentities) (log : w'.log = ev :: w.log)
    (other : ∀ providerId subject uid kind, ev ≠ .linked providerId subject uid kind) :
    LinkInv w' := by
  have old : ∀ providerId subject uid kind, .linked providerId subject uid kind ∈ w'.log →
      .linked providerId subject uid kind ∈ w.log := by
    intro providerId subject uid kind mem
    rw [log] at mem
    cases mem_cons.mp mem with
    | inl same => exact absurd same.symm (other _ _ _ _)
    | inr pre => exact pre
  constructor
  · exact keys
  · intro idn mem
    rw [identities] at mem
    obtain ⟨kind, e⟩ := inv.recorded idn mem
    exact ⟨kind, by simp [log, e]⟩
  · intro providerId subject uid kind mem
    have drawn := inv.drawn _ _ _ _ (old _ _ _ _ mem)
    omega
  · intro providerId subject uid email row mem
    exact inv.matched _ _ _ _ _ (old _ _ _ _ mem)
  · intro newer older providerId subject uid split
    rw [log] at split
    cases newer with
    | nil =>
      cases split
      exact absurd rfl (other _ _ _ _)
    | cons head rest =>
      injection split with _ split
      exact inv.first rest older providerId subject uid split

/-- A link to a user who is there: the user's first one, or one by a verified address. -/
theorem LinkInv.link (inv : LinkInv w)
    (created : kind = .created → ∀ other text pre, .linked other text uid pre ∉ w.log)
    (matched : ∀ email row, kind = .byEmail email row →
      row.email = some email ∧ row.emailVerified = true) :
    LinkInv (identityCreated idp external uid kind w).2 ∧
      ((identityCreated idp external uid kind w).1 = true →
        IsLinked idp external uid (identityCreated idp external uid kind w).2) := by
  unfold identityCreated
  dsimp only
  split
  case isTrue => exact ⟨inv, fun no => by cases no⟩
  case isFalse free =>
    simp only [or_eq_true, not_or, not_eq_true', not_eq_false] at free
    obtain ⟨u, stored, isUser⟩ := any_eq_true.mp free.2
    have drawn : uid < w.store.supply := by
      have known := inv.keys.drawn u stored
      simp only [decide_eq_true_eq] at isUser
      omega
    constructor
    · constructor
      · exact inv.keys
      · intro idn mem
        cases mem_cons.mp mem with
        | inl new =>
          subst new
          exact ⟨kind, mem_cons_self⟩
        | inr old =>
          obtain ⟨pre, e⟩ := inv.recorded idn old
          exact ⟨pre, .tail _ e⟩
      · intro providerId subject someone pre mem
        cases mem_cons.mp mem with
        | inl same =>
          cases same
          exact drawn
        | inr old => exact inv.drawn _ _ _ _ old
      · intro providerId subject someone email row mem
        cases mem_cons.mp mem with
        | inl same =>
          cases same
          exact matched email row rfl
        | inr old => exact inv.matched _ _ _ _ _ old
      · intro newer older providerId subject someone split
        cases newer with
        | nil =>
          cases split
          exact created rfl
        | cons head rest =>
          injection split with _ split
          exact inv.first rest older providerId subject someone split
    · exact fun _ => ⟨kind, mem_cons_self⟩

theorem identityCreated_log : w.log ⊆ (identityCreated idp external uid kind w).2.log := by
  unfold identityCreated
  dsimp only
  split
  · exact Subset.refl _
  · exact subset_cons_self ..

theorem profileSynced_inv (inv : LinkInv w) (uid : Nat) :
    LinkInv (profileSynced realm idp external uid w).2 := by
  have step : Step realm w (profileSynced realm idp external uid w).2 :=
    profileSynced_step idp external uid
  have keys := step.keys inv.keys
  unfold profileSynced World.updateRow at keys ⊢
  dsimp only at keys ⊢
  split
  case isTrue => exact inv
  case isFalse free =>
    cases hit : findUserById uid w.store with
    | none => exact inv
    | some row =>
      simp only [free, hit] at keys
      exact inv.cons keys le_rfl rfl rfl fun _ _ _ _ same => by cases same

def Linking (w t : World) : Prop := LinkInv t ∧ w.log ⊆ t.log

section

variable (inv : LinkInv w)

include inv

theorem syncUser_ensures {u : User} (linked : IsLinked idp external u.id w) :
    (syncUser realm idp external u).Ensures (Linking w)
      (fun u t => Linking w t ∧ IsLinked idp external u.id t) w := by
  unfold syncUser
  split
  case isFalse => exact ⟨⟨inv, Subset.refl _⟩, linked⟩
  case isTrue =>
    have kept : LinkInv (profileSynced realm idp external u.id w).2 :=
      profileSynced_inv inv u.id
    have grown : w.log ⊆ (profileSynced realm idp external u.id w).2.log :=
      (profileSynced_step idp external u.id).log
    apply Ensures.atomic_bind
    apply Ensures.require_bind ⟨kept, grown⟩
    exact fun _ => ⟨⟨kept, grown⟩, linked.mono grown⟩

theorem findLinked_linked {u : User}
    (hit : findLinked idp external w = some u) : IsLinked idp external u.id w := by
  obtain ⟨idn, isIdentity, isUser⟩ := bind_eq_some_iff.mp hit
  obtain ⟨kind, e⟩ := inv.recorded idn (mem_of_find?_eq_some isIdentity)
  have named := find?_some isIdentity
  simp only [and_eq_true, decide_eq_true_eq] at named
  rw [named.1, named.2, ← findUserById_id isUser] at e
  exact ⟨kind, e⟩

/-- A user who is found by the address has verified it; whoever is not leaves all as it was. -/
theorem claimUser_ensures (sound : assertsAddress idp external = true → ∀ u ∈ w.store.users,
      u.realmId = realm.id → u.email = external.email → u.emailVerified = true) :
    (claimUser realm idp external).Ensures (Linking w) (fun claimed t => match claimed with
        | some u => Linking w t ∧ IsLinked idp external u.id t
        | none => t = w) w := by
  unfold claimUser
  split
  case h_2 => exact rfl
  case h_1 email isEmail =>
    split
    case isFalse => exact rfl
    case isTrue asserted =>
      simp only [and_eq_true, decide_eq_true_eq] at asserted
      have asserts : assertsAddress idp external = true := by
        simp [assertsAddress, isEmail, asserted.1.2, asserted.2]
      apply Ensures.read_bind
      dsimp only [storePart]
      cases hit : w.store.users.find? fun u =>
          u.realmId = realm.id && u.email = some email with
      | none => exact rfl
      | some u =>
        have named := find?_some hit
        simp only [and_eq_true, decide_eq_true_eq] at named
        have verified : u.emailVerified = true :=
          sound asserts u (mem_of_find?_eq_some hit) named.1 (by rw [isEmail, named.2])
        have linked : LinkInv (identityCreated idp external u.id (.byEmail email u) w).2 ∧
            ((identityCreated idp external u.id (.byEmail email u) w).1 = true →
              IsLinked idp external u.id
                (identityCreated idp external u.id (.byEmail email u) w).2) :=
          inv.link (fun no => by cases no)
            (fun _ _ same => by cases same; exact ⟨named.2, verified⟩)
        have grown : w.log ⊆ (identityCreated idp external u.id (.byEmail email u) w).2.log :=
          identityCreated_log
        apply Ensures.atomic_bind
        apply Ensures.require_bind ⟨linked.1, grown⟩
        exact fun done => ⟨⟨linked.1, grown⟩, linked.2 done⟩

theorem createUser_ensures : (createUser realm idp external).Ensures (Linking w)
      (fun user t => Linking w t ∧ IsLinked idp external user.id t) w := by
  have same : Linking w w := ⟨inv, Subset.refl _⟩
  have step : Step realm w (userProvisioned realm idp external w).2 :=
    userProvisioned_step idp external
  have keys := step.keys inv.keys
  have noted := step.log
  apply Ensures.require_bind same
  intro _
  apply Ensures.atomic_bind
  unfold userProvisioned at keys noted ⊢
  split
  case isTrue => exact same
  case isFalse free =>
    simp only [free] at keys noted
    let user := newUser realm idp external w.store
    let opened := w.write
      { w.store with supply := w.store.supply + 1, users := user :: w.store.users }
      (.provisioned user)
    have kept : LinkInv opened := inv.cons keys (le_succ _) rfl rfl fun _ _ _ _ same => by
      cases same
    apply Ensures.orFail_bind ⟨kept, noted⟩
    intro _ isUser
    cases isUser
    have linked : LinkInv (identityCreated idp external user.id .created opened).2 ∧
        ((identityCreated idp external user.id .created opened).1 = true →
          IsLinked idp external user.id (identityCreated idp external user.id .created opened).2) := by
      apply kept.link
      · intro _ other text pre mem
        cases mem_cons.mp mem with
        | inl no => cases no
        | inr old => exact absurd (inv.drawn _ _ _ _ old) (lt_irrefl _)
      · intro _ _ no
        cases no
    have grown : w.log ⊆ (identityCreated idp external user.id .created opened).2.log :=
      Subset.trans noted identityCreated_log
    apply Ensures.atomic_bind
    apply Ensures.require_bind ⟨linked.1, grown⟩
    exact fun done => ⟨⟨linked.1, grown⟩, linked.2 done⟩

theorem linkOrCreateUser_ensures
    (sound : findLinked idp external w = none → assertsAddress idp external = true →
      ∀ u ∈ w.store.users, u.realmId = realm.id → u.email = external.email →
        u.emailVerified = true) : (linkOrCreateUser realm idp external).Ensures (Linking w)
      (fun u t => Linking w t ∧ IsLinked idp external u.id t) w := by
  apply Ensures.read_bind
  cases hit : findLinked idp external w with
  | some u => exact syncUser_ensures inv (findLinked_linked inv hit)
  | none =>
    apply Ensures.bind
    apply (claimUser_ensures inv (sound hit)).mono
    intro claimed t known
    cases claimed with
    | some u => exact known
    | none =>
      subst known
      exact createUser_ensures inv

end

def Recorded (runtime : Js.Runtime) (log : List Event) (x : SignIn) : Prop :=
  ∃ text kind, x.text runtime = some text ∧ text ≠ "" ∧
    .linked x.providerId text x.userId kind ∈ log

variable {runtime : Js.Runtime} {hostname : String → Option String} {login : Login}
  {logins : List Login} {log : List Event} {x y : SignIn}

theorem Recorded.mono {grown : List Event} (recorded : Recorded runtime log x)
    (subset : log ⊆ grown) : Recorded runtime grown x := by
  obtain ⟨text, kind, isText, usable, e⟩ := recorded
  exact ⟨text, kind, isText, usable, subset e⟩

open Login

theorem Login.run_spec (inv : LinkInv w) (sound : SoundLogin realm runtime hostname login w) :
    Linking w (login.run realm runtime hostname w).2 ∧ ∀ x ∈ (login.run realm runtime hostname w).1,
        Recorded runtime (login.run realm runtime hostname w).2.log x := by
  have same : Linking w w := ⟨inv, Subset.refl _⟩
  have ensures : (brokerLogin realm login.idp runtime hostname login.answers).Ensures (Linking w)
      (fun u t => Linking w t ∧
        Recorded runtime t.log ⟨login.idp.id, login.subject runtime, u.id⟩) w := by
    apply Ensures.orFail_bind same
    intro external fetched
    obtain ⟨data, isData, isSub⟩ := fetchExternalUserInfo_sub fetched
    obtain ⟨text, isText, usable⟩ := sound.subject data isData
    apply (linkOrCreateUser_ensures inv (sound.address external fetched)).mono
    intro u t linked
    obtain ⟨linking, kind, e⟩ := linked
    rw [isSub, isText] at e
    have reads : SignIn.text runtime ⟨login.idp.id, login.subject runtime, u.id⟩ = some text := by
      simpa [SignIn.text, subject, isData, usableSubject] using isText
    exact ⟨linking, text, kind, reads, usable, e⟩
  unfold run
  cases ran : (brokerLogin realm login.idp runtime hostname login.answers).run w with
  | mk out w' =>
    cases out with
    | error f => exact ⟨ensures.of_error ran, fun _ none => by cases none⟩
    | ok u =>
      have known := ensures.of_run ran
      refine ⟨known.1, fun x isX => ?_⟩
      cases isX
      exact known.2

theorem runLogins_spec (inv : LinkInv w) (sound : SoundRun realm runtime hostname logins w) :
    Linking w (runLogins realm runtime hostname logins w).2 ∧
      ∀ x ∈ (runLogins realm runtime hostname logins w).1,
        Recorded runtime (runLogins realm runtime hostname logins w).2.log x := by
  induction logins generalizing w with
  | nil => exact ⟨⟨inv, Subset.refl _⟩, fun x none => by cases none⟩
  | cons login rest ih =>
    obtain ⟨linking, recorded⟩ := run_spec inv sound.1
    obtain ⟨later, restRecorded⟩ := ih linking.1 sound.2
    refine ⟨⟨later.1, Subset.trans linking.2 later.2⟩, fun x mem => ?_⟩
    cases mem_append.mp mem with
    | inl first => exact (recorded x (mem_toList.mp first)).mono later.2
    | inr os => exact restRecorded x os

theorem runLogins_login (mem : x ∈ (runLogins realm runtime hostname logins w).1) :
    ∃ login ∈ logins, x.providerId = login.idp.id ∧ x.subject = login.subject runtime := by
  induction logins generalizing w with
  | nil => cases mem
  | cons login rest ih =>
    cases mem_append.mp mem with
    | inl first =>
      have isX : login.run realm runtime hostname w =
          (some x, (login.run realm runtime hostname w).2) := by
        rw [← mem_toList.mp first]
      refine ⟨login, mem_cons_self, ?_⟩
      unfold run at isX
      split at isX
      · cases isX
        exact ⟨rfl, rfl⟩
      · cases isX
    | inr os =>
      obtain ⟨other, isThere, known⟩ := ih os
      exact ⟨other, .tail _ isThere, known⟩

theorem ordered {α : Type} {a b : α} {xs : List α} (first : a ∈ xs) (snd : b ∈ xs)
    (ne : a ≠ b) : (∃ newer older, xs = newer ++ a :: older ∧ b ∈ older) ∨
      ∃ newer older, xs = newer ++ b :: older ∧ a ∈ older := by
  obtain ⟨newer, older, rfl⟩ := append_of_mem first
  cases mem_append.mp snd with
  | inl pre =>
    obtain ⟨front, back, rfl⟩ := append_of_mem pre
    exact .inr ⟨front, back ++ a :: older, by simp, by simp⟩
  | inr after =>
    cases mem_cons.mp after with
    | inl same => exact absurd same.symm ne
    | inr behind => exact .inl ⟨newer, older, rfl, behind⟩

/-- The later of two entries about one user is a link by a verified address. -/
theorem joined_of_later (inv : LinkInv w) {newer older : List Event} {other text : String}
    {kind pre : LinkKind} (isOther : x.text runtime = some other) (isText : y.text runtime = some text)
    (one : x.userId = y.userId)
    (split : w.log = newer ++ .linked y.providerId text y.userId kind :: older)
    (earlier : .linked x.providerId other x.userId pre ∈ older) :
    JoinedByEmail runtime w.log x y := by
  cases kind with
  | created => exact absurd (one ▸ earlier) (inv.first _ _ _ _ _ split _ _ _)
  | byEmail email row =>
    have matched := inv.matched y.providerId text y.userId email row (by simp [split])
    exact ⟨newer, older, text, email, row, other, pre, split, isText, matched.1, matched.2,
      isOther, earlier⟩

variable {signIns : List SignIn}

theorem LinkInv.separate (inv : LinkInv w) (recorded : ∀ x ∈ signIns, Recorded runtime w.log x)
    (distinct : ∀ x ∈ signIns, ∀ y ∈ signIns, x.providerId = y.providerId →
      x.text runtime = y.text runtime → x.subject = y.subject) :
    Separate runtime signIns w.log where
  usable x mem := by
    obtain ⟨text, _, isText, usable, _⟩ := recorded x mem
    exact ⟨text, isText, usable⟩
  apart x isX y isY one := by
    obtain ⟨other, pre, isOther, _, ofX⟩ := recorded x isX
    obtain ⟨text, kind, isText, _, ofY⟩ := recorded y isY
    by_cases same : Event.linked x.providerId other x.userId pre =
        .linked y.providerId text y.userId kind
    · injection same with provider texts
      have reads : x.text runtime = y.text runtime := by rw [isOther, isText, texts]
      exact .inl ⟨provider, distinct x isX y isY provider reads⟩
    · right
      cases ordered ofX ofY same with
      | inl later =>
        obtain ⟨newer, older, split, earlier⟩ := later
        exact .inr (joined_of_later inv isText isOther one.symm split earlier)
      | inr later =>
        obtain ⟨newer, older, split, earlier⟩ := later
        exact .inl (joined_of_later inv isOther isText one split earlier)

/-- Whatever logins follow one another, and whatever documents the providers send: if every
document has a subject, different subjects of a provider read differently, and an address that a
provider asserts is that of a user only where the user has verified it, then two logins end in
one user only as one identity or through an address that was verified on both sides. -/
theorem identities_stay_separate (realm : RegistrationRealm) (runtime : Js.Runtime)
    (hostname : String → Option String) (logins : List Login) (start : World)
    (keys : UserKeys start.store) (unlinked : start.federatedIdentities = [])
    (begins : start.log = []) (distinct : DistinctTexts runtime logins)
    (sound : SoundRun realm runtime hostname logins start) :
    Separate runtime (runLogins realm runtime hostname logins start).1
      (runLogins realm runtime hostname logins start).2.log := by
  have inv : LinkInv start := by
    constructor <;> simp [keys, unlinked, begins]
  obtain ⟨linking, recorded⟩ := runLogins_spec inv sound
  apply linking.1.separate recorded
  intro x isX y isY provider texts
  obtain ⟨a, isA, ofA, subjectA⟩ := runLogins_login isX
  obtain ⟨b, isB, ofB, subjectB⟩ := runLogins_login isY
  obtain ⟨text, _, isText, _⟩ := recorded x isX
  obtain ⟨v, isV, readsV⟩ := bind_eq_some_iff.mp isText
  obtain ⟨v', isV', readsV'⟩ := bind_eq_some_iff.mp (texts ▸ isText)
  have same := distinct a isA b isB (by rw [← ofA, ← ofB, provider]) v v'
    (by rw [← subjectA, isV]) (by rw [← subjectB, isV']) (by rw [readsV, readsV'])
  rw [isV, isV', same]

def clubMember : User :=
  { id := 1, realmId := 1, username := "old", email := some "old@club.example" }

def provider (id : Nat) : IdentityProvider :=
  { id := id, realmId := 1, alias_ := toString id, clientId := "club", authorizationUrl := ""
    trustEmail := true }

def loginAt (id : Nat) (claims : List (String × Js)) : Login where
  idp := provider id
  answers := { userinfo := some (.obj claims) }

def address (email : String) : List (String × Js) :=
  [("email", .str email), ("email_verified", .bool true)]

def runClub (logins : List Login) : List SignIn × World :=
  runLogins club clubServer.runtime clubServer.hostname logins clubStart

/-- A newcomer, who comes back through another provider and then through the first. -/
def comingBack : List Login :=
  [loginAt 5 (("sub", .str "a-1") :: address "ada@club.example"),
    loginAt 6 (("id", .num 77) :: address "ada@club.example"),
    loginAt 5 [("sub", .str "a-1")]]

theorem comingBack_distinct : DistinctTexts clubServer.runtime comingBack := by
  intro a isA b isB _ v v' isV isV' reads
  have texts : ∀ login ∈ comingBack, ∀ value, login.subject clubServer.runtime = some value →
      value = .str "a-1" ∨ value = .num 77 := by
    intro login mem value isValue
    simp only [comingBack, mem_cons, not_mem_nil, or_false] at mem
    rcases mem with rfl | rfl | rfl <;> cases isValue <;> simp
  rcases texts a isA v isV with rfl | rfl <;> rcases texts b isB v' isV' with rfl | rfl
  · rfl
  · exact absurd reads (by decide)
  · exact absurd reads (by decide)
  · rfl

theorem SoundLogin.of_address (addr : String) {data : Js} {text : String}
    (isData : login.answers.userinfo = some data)
    (isText : usableSubject runtime data = some text) (usable : text ≠ "")
    (isAddress : ∀ external, fetchExternalUserInfo runtime hostname login.idp login.answers =
      some external → external.email = some addr ∨ external.email = none)
    (verified : (w.store.users.all fun u =>
      u.email ≠ some addr || u.emailVerified) = true) :
    SoundLogin realm runtime hostname login w := by
  constructor
  · intro other isOther
    rw [isData] at isOther
    cases isOther
    exact ⟨text, isText, usable⟩
  · intro external fetched _ asserts u row _ sameEmail
    cases isAddress external fetched with
    | inl isEmail =>
      have checked := all_eq_true.mp verified u row
      simpa [sameEmail, isEmail] using checked
    | inr none => simp [assertsAddress, none] at asserts

open SoundLogin

theorem comingBack_sound :
    SoundRun club clubServer.runtime clubServer.hostname comingBack clubStart := by
  constructor
  · apply of_address "ada@club.example" rfl rfl (by decide)
    · intro external fetched
      cases fetched
      exact .inl rfl
    · rfl
  constructor
  · apply of_address "ada@club.example" rfl rfl (by decide)
    · intro external fetched
      cases fetched
      exact .inl rfl
    · rfl
  constructor
  · apply of_address "" rfl rfl (by decide)
    · intro external fetched
      cases fetched
      exact .inr rfl
    · rfl
  · trivial

/-- The newcomer is one user throughout. -/
theorem newcomer_comes_back :
    Separate clubServer.runtime (runClub comingBack).1 (runClub comingBack).2.log :=
  identities_stay_separate club clubServer.runtime clubServer.hostname comingBack clubStart
    clubStart_keys rfl rfl comingBack_distinct comingBack_sound

def nameless : List Login :=
  [loginAt 5 (address "ada@club.example"), loginAt 5 (address "bob@club.example")]

/-- Two people who are said to own the address that a member has not verified. -/
def squatting : List Login :=
  [loginAt 5 (("sub", .str "a-1") :: address "old@club.example"),
    loginAt 6 (("sub", .str "b-1") :: address "old@club.example")]

def lookalikes : List Login :=
  [loginAt 5 [("sub", .str "1")], loginAt 5 [("sub", .num 1)]]

theorem JoinedByEmail.verified (joined : JoinedByEmail runtime log x y) :
    ∃ providerId subject uid email row,
      .linked providerId subject uid (.byEmail email row) ∈ log ∧ row.emailVerified = true := by
  obtain ⟨newer, older, subject, email, row, _, _, split, _, _, verified, _⟩ := joined
  exact ⟨y.providerId, subject, y.userId, email, row, by simp [split], verified⟩

/-- Nobody was linked by an address in the record, or only someone who had not verified it. -/
def Unverified (log : List Event) : Prop :=
  ∀ providerId subject userId email row,
    .linked providerId subject userId (.byEmail email row) ∈ log → row.emailVerified = false

/-- Without a verified address only the same identity may end in the same user. -/
theorem Separate.same (separate : Separate runtime signIns log)
    (unverified : Unverified log) (isX : x ∈ signIns) (isY : y ∈ signIns)
    (one : x.userId = y.userId) : x.providerId = y.providerId ∧ x.subject = y.subject := by
  have unjoined : ∀ a b, ¬JoinedByEmail runtime log a b := by
    intro a b joined
    obtain ⟨_, _, _, _, _, e, verified⟩ := joined.verified
    rw [unverified _ _ _ _ _ e] at verified
    cases verified
  rcases separate.apart x isX y isY one with same | joined | joined
  · exact same
  · exact absurd joined (unjoined x y)
  · exact absurd joined (unjoined y x)

theorem squatting_log : (runClub squatting).2.log =
    [.linked 6 "b-1" 1 (.byEmail "old@club.example" clubMember),
      .linked 5 "a-1" 1 (.byEmail "old@club.example" clubMember)] := rfl

theorem lookalikes_log : (runClub lookalikes).2.log =
    [.synced (newUser club (provider 5) { sub := "1" } clubStart.store) none false,
      .linked 5 "1" 10 .created,
      .provisioned (newUser club (provider 5) { sub := "1" } clubStart.store)] := rfl

/-- Each time two people end in one user. -/
theorem strangers_are_merged :
    ¬Separate clubServer.runtime (runClub nameless).1 (runClub nameless).2.log ∧
      ¬Separate clubServer.runtime (runClub squatting).1 (runClub squatting).2.log ∧
      ¬Separate clubServer.runtime (runClub lookalikes).1 (runClub lookalikes).2.log := by
  refine ⟨?_, ?_, ?_⟩
  · intro separate
    obtain ⟨text, isText, _⟩ := separate.usable _ mem_cons_self
    cases isText
  · intro separate
    have unverified : Unverified (runClub squatting).2.log := by
      intro _ _ _ _ row e
      rw [squatting_log] at e
      simp only [mem_cons, not_mem_nil, or_false] at e
      rcases e with same | same <;> cases same <;> rfl
    have same := separate.same unverified mem_cons_self (.tail _ mem_cons_self) rfl
    exact absurd same.1 (by decide)
  · intro separate
    have unverified : Unverified (runClub lookalikes).2.log := by
      intro _ _ _ _ row e
      rw [lookalikes_log] at e
      simp at e
    have same := separate.same unverified mem_cons_self (.tail _ mem_cons_self) rfl
    cases same.2

end Idenplane.Broker
