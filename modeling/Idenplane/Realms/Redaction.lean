import Idenplane.Lib.Base64
import Idenplane.Realms.Freshness

/-! # Secrets that come back as a placeholder

A client reads a realm, changes something and sends everything back.  The secrets it never saw
have to be what they were, and it must not see them.
-/

namespace Idenplane.Realms

open Atomic Auth Admin Properties Realms Pool String Base64

inductive Secret where
  | smtpPassword
  | email (secret : String × String)
  | sms (field : String)

def secrets : List Secret :=
  .smtpPassword :: (emailSecretFields.map .email ++ smsSecretFields.map .sms)

def sectionOf (config : Js) (name : String) : Record :=
  (record? (property ((record? config).getD []) name)).getD []

def Secret.stored : Secret → RealmRow → Option String
  | .smtpPassword, row => given row.smtpPassword
  | .email secret, row =>
    storedText (property (sectionOf row.emailProviderConfig secret.1) secret.2)
  | .sms field, row => storedText (property ((record? row.smsProviderConfig).getD []) field)

def Secret.value (d : Deps) (secret : Secret) (row : RealmRow) : Option String :=
  (secret.stored row).map (decryptSecret d)

inductive Sent where
  | kept
  | cleared
  | fresh (text : String)

def sentText (value : Js) : Sent :=
  match storedText value with
  | none => .cleared
  | some text => if text = secretPlaceholder then .kept else .fresh text

/-- A configuration is sent as a whole: what it does not mention is cleared. -/
def Secret.sent : Secret → UpdateRealmDto → Sent
  | .smtpPassword, dto =>
    match given dto.smtpPassword with
    | none => .kept
    | some text => if text = secretPlaceholder then .kept else .fresh text
  | .email secret, dto =>
    match dto.emailProviderConfig with
    | none => .kept
    | some config => sentText (property (sectionOf (.obj config) secret.1) secret.2)
  | .sms field, dto =>
    match dto.smsProviderConfig with
    | none => .kept
    | some config =>
      if field = "webhookHeaders" && isEmptyJson (property config field) then .cleared
      else sentText (property config field)

def Sent.after (d : Deps) (before : Option String) : Sent → Option String
  | .kept => before
  | .cleared => none
  | .fresh text => some (decryptSecret d text)

def isPlaceholder : Js → Bool
  | .str text => text = secretPlaceholder
  | _ => false

/-- The update looks up what the placeholder stands for in the row that it has read. -/
def Secret.resolved : Secret → UpdateRealmDto → Bool
  | .smtpPassword, _ => false
  | .email secret, dto => dto.emailProviderConfig.any fun config =>
    isPlaceholder (property (sectionOf (.obj config) secret.1) secret.2)
  | .sms field, dto => dto.smsProviderConfig.any fun config => isPlaceholder (property config field)

def Secret.lastSet (d : Deps) (secret : Secret) (origin : Option String) :
    List UpdateRealmDto → Option String
  | [] => origin
  | dto :: earlier => (secret.sent dto).after d (secret.lastSet d origin earlier)

/-- The cipher opens what it has sealed, and an empty text was never sealed. -/
structure Envelopes (d : Deps) : Prop where
  opens : ∀ text, d.decrypt (d.encrypt text) = some text
  empty : d.decrypt "" = none

variable {d : Deps}

theorem Envelopes.encrypt_ne_empty (envs : Envelopes d) (text : String) : d.encrypt text ≠ "" := by
  intro isEmpty
  have opened := envs.opens text
  rw [isEmpty, envs.empty] at opened
  cases opened

/-- A secret is what it was before it was encrypted, whether it was an envelope or not. -/
theorem decryptSecret_encryptSecret (envs : Envelopes d) (text : String) :
    decryptSecret d (encryptSecret d text) = decryptSecret d text := by
  unfold encryptSecret
  split
  · rfl
  · split
    · rfl
    case isFalse notEmpty plain =>
      have isNone : d.decrypt text = none := by simpa using plain
      simp [decryptSecret, envs.encrypt_ne_empty, envs.opens, isNone, notEmpty]

theorem encryptSecret_encryptSecret (envs : Envelopes d) (text : String) :
    encryptSecret d (encryptSecret d text) = encryptSecret d text := by
  by_cases isEmpty : text = ""
  · simp [encryptSecret, isEmpty]
  · by_cases plain : (d.decrypt text).isSome
    · simp [encryptSecret, isEmpty, plain]
    · simp [encryptSecret, isEmpty, plain, envs.encrypt_ne_empty, envs.opens]

variable {text : String}

theorem decryptSecret_plain (plain : d.decrypt text = none) : decryptSecret d text = text := by
  simp [decryptSecret, plain]

theorem encryptSecret_eq_empty (envs : Envelopes d) : encryptSecret d text = "" ↔ text = "" := by
  unfold encryptSecret
  split
  · rfl
  · split
    · rfl
    case isFalse notEmpty plain => simp [envs.encrypt_ne_empty, notEmpty]

def secretText (d : Deps) (value : Js) : Option String :=
  (storedText value).map (decryptSecret d)

theorem secretText_encrypt (envs : Envelopes d) (text : String) :
    secretText d (.str (encryptSecret d text)) = secretText d (.str text) := by
  by_cases isEmpty : text = ""
  · simp [isEmpty, encryptSecret]
  · have kept : encryptSecret d text ≠ "" := (encryptSecret_eq_empty envs).not.mpr isEmpty
    simp [secretText, storedText, isEmpty, kept, decryptSecret_encryptSecret envs]

@[simp] theorem property_nil (key : String) : property [] key = .undefined := rfl

@[simp] theorem sectionOf_obj (record : Record) (name : String) :
    sectionOf (.obj record) name = (record? (property record name)).getD [] := rfl

@[simp] theorem property_set_self (record : Record) (key : String) (value : Js) :
    property (set record key value) key = value := by
  simp [property]

@[simp] theorem property_delete_self (record : Record) (key : String) :
    property (delete record key) key = .undefined := by
  simp [property]

theorem setSecret_text (envs : Envelopes d) (values : Record) (field : String) (value : Js) :
    secretText d (property (setSecret d values field (storedText value)) field) =
      secretText d value := by
  cases value with
  | str text =>
    by_cases isEmpty : text = ""
    · simp [setSecret, storedText, isEmpty, secretText]
    · simpa [setSecret, storedText, isEmpty] using secretText_encrypt envs text
  | _ => simp [setSecret, storedText, secretText]

theorem sentText_placeholder : sentText (.str secretPlaceholder) = .kept := rfl

open Sent

theorem sentText_text (typed : text ≠ secretPlaceholder) (pre : Option String) :
    (sentText (.str text)).after d pre = secretText d (.str text) := by
  by_cases isEmpty : text = ""
  · simp [sentText, storedText, secretText, isEmpty, after]
  · simp [sentText, storedText, secretText, isEmpty, typed, after]

theorem encryptSection_text (envs : Envelopes d) (field : String) (values previous : Record) :
    secretText d (property (encryptSection d field values previous) field) =
      (sentText (property values field)).after d (secretText d (property previous field)) := by
  unfold encryptSection
  cases property values field with
  | str text =>
    by_cases typed : text = secretPlaceholder
    · simp only [typed, if_true, sentText_placeholder, after]
      exact setSecret_text envs values field _
    · simp only [typed, if_false, sentText_text typed]
      exact setSecret_text envs values field _
  | _ => simp [sentText, storedText, secretText, after]

theorem encryptEmailSection_frame (incoming previous out : Record) (secret : String × String)
    (other : String) (ne : other ≠ secret.1) :
    get (encryptEmailSection d incoming previous out secret) other = get out other := by
  unfold encryptEmailSection
  split
  · rfl
  · exact get_set_of_ne ne

def EmailTurn (d : Deps) (incoming : Record) (stored : Js) (secret : String × String)
    (before after : Option Js) : Prop :=
  after = match record? (property incoming secret.1) with
    | none => before
    | some values => some (.obj (encryptSection d secret.2 values (sectionOf stored secret.1)))

theorem encryptEmailSection_turn (incoming : Record) (row : Js) (out : Record)
    (secret : String × String) : EmailTurn d incoming row secret (get out secret.1)
      (get (encryptEmailSection d incoming ((record? row).getD []) out secret) secret.1) := by
  unfold encryptEmailSection EmailTurn
  cases record? (property incoming secret.1) <;> simp [sectionOf]

variable {written : Record}

theorem encryptEmail_section (incoming : Record) (row : Js) {secret : String × String}
    (mem : secret ∈ emailSecretFields)
    (isWritten : encryptEmailProviderConfig d (some incoming) row = some written) :
    sectionOf (.obj written) secret.1 = match record? (property incoming secret.1) with
      | none => []
      | some values => encryptSection d secret.2 values (sectionOf row secret.1) := by
  obtain rfl := some.inj isWritten
  have turn : EmailTurn d incoming row secret (get incoming secret.1) (get
      (emailSecretFields.foldl (encryptEmailSection d incoming ((record? row).getD []))
        incoming) secret.1) :=
    get_foldl (encryptEmailSection_frame incoming _) (encryptEmailSection_turn incoming row)
      (by decide) mem
  change (record? (property (emailSecretFields.foldl _ incoming) secret.1)).getD [] = _
  rw [property, turn]
  cases isRecord : record? (property incoming secret.1) with
  | none =>
    rw [property] at isRecord
    simp [isRecord]
  | some values => rfl

theorem encryptEmail_text (envs : Envelopes d) (incoming : Record) (row : Js)
    {secret : String × String} (mem : secret ∈ emailSecretFields)
    (isWritten : encryptEmailProviderConfig d (some incoming) row = some written) :
    secretText d (property (sectionOf (.obj written) secret.1) secret.2) =
      (sentText (property (sectionOf (.obj incoming) secret.1) secret.2)).after d
        (secretText d (property (sectionOf row secret.1) secret.2)) := by
  rw [encryptEmail_section incoming row mem isWritten]
  cases isRecord : record? (property incoming secret.1) with
  | none => simp [isRecord, sentText, storedText, secretText, after]
  | some values =>
    rw [sectionOf_obj, isRecord]
    exact encryptSection_text envs secret.2 values _

def SmsTurn (d : Deps) (previous : Record) (field : String) (before after : Option Js) : Prop :=
  secretText d (after.getD .undefined) =
    (if field = "webhookHeaders" && isEmptyJson (before.getD .undefined) then cleared
      else sentText (before.getD .undefined)).after d (secretText d (property previous field))

theorem setSecret_frame (values : Record) (field : String) (value : Option String) (other : String)
    (ne : other ≠ field) : get (setSecret d values field value) other = get values other := by
  cases value with
  | none => exact get_delete_of_ne ne
  | some text => exact get_set_of_ne ne

theorem encryptSmsField_frame (previous out : Record) (field other : String) (ne : other ≠ field) :
    get (encryptSmsField d previous out field) other = get out other := by
  unfold encryptSmsField
  split
  · split
    · exact setSecret_frame out field _ other ne
    · split
      · exact get_delete_of_ne ne
      · exact get_set_of_ne ne
  · rfl

theorem encryptSmsField_turn (envs : Envelopes d) (previous out : Record) (field : String) :
    SmsTurn d previous field (get out field)
      (get (encryptSmsField d previous out field) field) := by
  change secretText d (property (encryptSmsField d previous out field) field) =
    (if field = "webhookHeaders" && isEmptyJson (property out field) then cleared
      else sentText (property out field)).after d (secretText d (property previous field))
  unfold encryptSmsField
  cases sent : property out field with
  | str text =>
    by_cases typed : text = secretPlaceholder
    · have full : isEmptyJson (.str secretPlaceholder) = false := by decide +kernel
      simp only [typed, if_true, full, Bool.and_false, false_eq_true, if_false,
        sentText_placeholder, after]
      exact setSecret_text envs out field _
    · by_cases blank : (field = "webhookHeaders" && isEmptyJson (.str text)) = true
      · simp [typed, blank, secretText, storedText, after]
      · simp only [typed, if_false, blank, false_eq_true, sentText_text typed, property_set_self]
        exact secretText_encrypt envs text
  | _ => simp [sent, isEmptyJson, sentText, storedText, secretText, after]

theorem encryptSms_text (envs : Envelopes d) (incoming : Record) (row : Js)
    {field : String} (mem : field ∈ smsSecretFields)
    (isWritten : encryptSmsProviderConfig d (some incoming) row = some written) :
    SmsTurn d ((record? row).getD []) field (get incoming field) (get written field) := by
  obtain rfl := some.inj isWritten
  exact get_foldl (encryptSmsField_frame _) (encryptSmsField_turn envs _) (by decide) mem

/-- What the update has read is what is stored, where the update uses it. -/
def Current (secret : Secret) (update : Update) (row : RealmRow) : Prop :=
  secret.resolved update.dto = true → secret.stored update.existing = secret.stored row

variable {value : Js}

theorem sentText_after_congr {pre pre' : Option String}
    (same : isPlaceholder value = true → pre = pre') :
    (sentText value).after d pre = (sentText value).after d pre' := by
  cases value with
  | str text =>
    by_cases typed : text = secretPlaceholder
    · rw [same (by simpa [isPlaceholder] using typed)]
    · rw [sentText_text typed, sentText_text typed]
  | _ => rfl

theorem newSmtpPassword_value (envs : Envelopes d) (sent row : Option String) :
    (given ((newSmtpPassword d sent).or row)).map (decryptSecret d) = (match given sent with
        | none => kept
        | some text => if text = secretPlaceholder then .kept else .fresh text).after d
        ((given row).map (decryptSecret d)) := by
  unfold newSmtpPassword
  cases isSent : given sent with
  | none => rfl
  | some text =>
    by_cases typed : text = secretPlaceholder
    · simp [typed, Option.filter, after]
    · have kept : encryptSecret d text ≠ "" :=
        (encryptSecret_eq_empty envs).not.mpr (given_eq_some.mp isSent).2
      have hit : given (some (encryptSecret d text)) = some (encryptSecret d text) :=
        given_eq_some.mpr ⟨rfl, kept⟩
      simp [typed, Option.filter, hit, decryptSecret_encryptSecret envs, after]

variable {row : RealmRow}

open Secret

theorem realmUpdated_value (envs : Envelopes d) {secret : Secret} (mem : secret ∈ secrets)
    {update : Update} (cur : Current secret update row) :
    secret.value d (realmUpdated update.dto (secretData d update.dto update.existing) row) =
      (secret.sent update.dto).after d (secret.value d row) := by
  obtain ⟨name, dto, old⟩ := update
  cases secret with
  | smtpPassword => exact newSmtpPassword_value envs dto.smtpPassword row.smtpPassword
  | email secret =>
    have mem : secret ∈ emailSecretFields := by simpa [secrets] using mem
    simp only [Current, resolved, stored] at cur
    simp only [Secret.value, stored, sent]
    cases config : dto.emailProviderConfig with
    | none => simp [realmUpdated, secretsWritten, secretData, encryptEmailProviderConfig, config,
        Settings.apply, after]
    | some incoming =>
      rw [config] at cur
      simp only [realmUpdated, secretsWritten, secretData, config]
      refine (encryptEmail_text envs incoming old.emailProviderConfig mem rfl).trans ?_
      exact sentText_after_congr fun asked =>
        congrArg (Option.map (decryptSecret d)) (cur asked)
  | sms field =>
    have mem : field ∈ smsSecretFields := by simpa [secrets] using mem
    simp only [Current, resolved, stored] at cur
    simp only [Secret.value, stored, sent]
    cases config : dto.smsProviderConfig with
    | none => simp [realmUpdated, secretsWritten, secretData, encryptSmsProviderConfig, config,
        Settings.apply, after]
    | some incoming =>
      rw [config] at cur
      simp only [realmUpdated, secretsWritten, secretData, config]
      refine (encryptSms_text envs incoming old.smsProviderConfig mem rfl).trans ?_
      change (if field = "webhookHeaders" && isEmptyJson (property incoming field) then _
        else sentText (property incoming field)).after d _ = _
      split
      · rfl
      · exact sentText_after_congr fun asked =>
        congrArg (Option.map (decryptSecret d)) (cur asked)

def dtosOf (name : String) (updates : List Update) : List UpdateRealmDto :=
  (updates.filter (·.name = name)).map (·.dto)

/-- An update that is sent a placeholder writes while the row that it has read is current. -/
def Resolved (secret : Secret) (s s' : State) : Prop :=
  ∀ update row, s'.updates = update :: s.updates → s.find update.name = some row →
    Current secret update row

/-- The secret is what the updates have made of it. -/
def Held (d : Deps) (secret : Secret) (name : String) (origin : Option String) (s : State) :
    Prop :=
  ∃ row, s.find name = some row ∧
    secret.value d row = secret.lastSet d origin (dtosOf name s.updates)

def Request.edits : Request → Prop
  | .lookup _ _ | .update _ _ => True
  | .remove _ | .importRealm _ _ => False

section Runs

variable {ι : Type} {i : ι} {avail : List String} {secret : Secret} {name : String}
  {o : Option String} {s : State}

def holding (ι : Type) (d : Deps) (secret : Secret) (name : String) (origin : Option String) :
    Protocol ι State where
  inv := Held d secret name origin
  rely _ _ _ := True
  refl _ _ := trivial
  trans _ _ _ _ := fun _ _ => trivial

theorem Secret.value_stamped (secret : Secret) (row : RealmRow) (version : Nat) :
    secret.value d { row with version := version } = secret.value d row := by
  cases secret <;> rfl

theorem written_held (envs : Envelopes d) (mem : secret ∈ secrets) (other : String)
    (dto : UpdateRealmDto) (old : RealmRow) (held : Held d secret name o s)
    (resolved : Resolved secret s (realmWritten d other dto old s).2) :
    Held d secret name o (realmWritten d other dto old s).2 := by
  obtain ⟨row, hit, isValue⟩ := held
  rw [Held, find_written, hit]
  by_cases own : name = other
  · subst own
    refine ⟨_, rfl, ?_⟩
    have current := resolved ⟨name, dto, old⟩ row rfl hit
    have updated := realmUpdated_value envs mem current
    simp only [if_true, Secret.value_stamped]
    rw [updated, isValue]
    simp [realmWritten, dtosOf, lastSet]
  · refine ⟨row, by simp [own], ?_⟩
    simpa [realmWritten, dtosOf, Ne.symm own] using isValue

theorem findByNameRaw_held (asked : String) (s : State) :
    (findByNameRaw asked).Sat (holding ι d secret name o) (Resolved secret) i
      (onOk fun _ _ => True) s := by
  refine .read_bind fun t _ _ => ?_
  cases t.byName asked with
  | some row => exact fun _ _ _ => trivial
  | none =>
    refine .read_bind fun u _ _ => .orFail_bind (fun row _ => ?_) (fun _ _ _ _ => trivial)
    refine .modify_bind fun v _ held _ => ⟨held, fun _ _ => trivial, ?_⟩
    exact .modify_bind fun w _ held' _ => ⟨held', fun _ _ => trivial, fun _ _ _ => trivial⟩

theorem invalidate_held {α : Type} {f : Unit → Call α} {post : Except Failure α → State → Prop}
    (id : Nat) (asked : String)
    (rest : ∀ t, (f ()).Sat (holding ι d secret name o) (Resolved secret) i post t) :
    (invalidateRealmCache id asked >>= f).Sat (holding ι d secret name o) (Resolved secret)
      i post s := by
  unfold invalidateRealmCache
  rw [bind_assoc]
  refine .modify_bind fun t _ held _ => ⟨held, fun _ _ => trivial, ?_⟩
  exact .modify_bind fun u _ held' _ => ⟨held', fun _ _ => trivial, rest _⟩

theorem update_held (envs : Envelopes d) (mem : secret ∈ secrets) (asked : String)
    (dto : UpdateRealmDto) (s : State) :
    (update d avail asked dto).Sat (holding ι d secret name o)
      (Resolved secret) i (onOk fun _ _ => True) s := by
  refine .ok_bind (findByNameRaw_held asked s) (fun old t _ => ?_) (fun _ _ => trivial)
  rcases checkSms_cases dto old with passed | ⟨f, refused⟩
  · rw [passed]
    rcases checkThemes_cases avail dto.themes with passed | ⟨f, refused⟩
    · rw [passed]
      refine .atomic_bind fun u _ held resolved => ?_
      refine ⟨written_held envs mem asked dto old held resolved, fun _ _ => trivial, ?_⟩
      refine .orFail_bind (fun ans _ => ?_) (fun _ _ _ _ => trivial)
      exact invalidate_held old.id asked fun _ _ _ _ => trivial
    · rw [refused]
      exact fun _ _ _ => trivial
  · rw [refused]
    exact fun _ _ _ => trivial

theorem Request.held (envs : Envelopes d) (mem : secret ∈ secrets) {req : Request}
    (edits : req.edits) (s : State) :
    (req.call d avail).Sat (holding ι d secret name o) (Resolved secret) i
      (onOk fun _ _ => True) s := by
  cases req with
  | lookup kind asked =>
    refine .ok_bind ?_ (fun _ _ (_ : True) _ _ _ => trivial) (fun _ _ => trivial)
    cases kind with
    | findByNameRaw => exact findByNameRaw_held asked s
    | findByName =>
      refine .ok_bind (findByNameRaw_held asked s) ?_ (fun _ _ => trivial)
      exact fun _ _ _ _ _ _ => trivial
  | update asked dto =>
    refine .ok_bind (update_held envs mem asked dto s) ?_ (fun _ _ => trivial)
    exact fun _ _ _ _ _ _ => trivial
  | remove => cases edits
  | importRealm => cases edits

/-- Whatever the order of the requests, a secret is what the last update that said something
about it has set it to. -/
theorem held_through [DecidableEq ι] (envs : Envelopes d) (mem : secret ∈ secrets)
    {c c' : Pool ι State Failure Answer}
    (reqs : ∀ i, ∃ req : Request, req.edits ∧ c.procs i = req.call d avail)
    (start : c.state.find name = some row) (fresh : c.state.updates = [])
    (reached : Pool.Reaches Expires (Resolved secret) c c') :
    Held d secret name (secret.value d row) c'.state := by
  have init : (holding ι d secret name (secret.value d row)).inv c.state :=
    ⟨row, start, by rw [fresh]; rfl⟩
  have threads (i : ι) : (c.procs i).Sat (holding ι d secret name (secret.value d row))
      (Resolved secret) i (onOk fun _ _ => True) c.state := by
    obtain ⟨req, edits, isRequest⟩ := reqs i
    rw [isRequest]
    exact Request.held envs mem edits c.state
  refine (sound init threads (fun s s' held expires => ⟨?_, fun _ => trivial⟩) reached).1
  obtain ⟨row, hit, isValue⟩ := held
  refine ⟨row, ?_, ?_⟩
  · rw [State.find, expires.realms]
    exact hit
  · rw [expires.updates]
    exact isValue

end Runs

def Redacted (row : RealmRow) : Prop := ∃ stored, row = redactSecrets stored

theorem findByName_redacted (name : String) : (findByName name).Returns Redacted :=
  .bind (.any _) fun row _ => ⟨row, rfl⟩

theorem findAll_redacted : findAll.Returns fun rows => ∀ row ∈ rows, Redacted row := by
  refine .bind (.any _) fun rows _ row mem => ?_
  obtain ⟨stored, _, rfl⟩ := mem_map.mp mem
  exact ⟨stored, rfl⟩

theorem update_redacted (avail : List String) (name : String) (dto : UpdateRealmDto) :
    (update d avail name dto).Returns fun ans => Redacted ans.2 := by
  refine .bind (.any _) fun old _ => .bind (.any _) fun _ _ => .bind (.any _) fun _ _ => ?_
  refine .bind (.any _) fun written _ => .bind (.any _) fun (pre, r) _ => ?_
  exact .bind (.any _) fun _ _ => ⟨r, rfl⟩

theorem remove_redacted (name : String) :
    (remove name).Returns fun ans => Redacted ans.2 := by
  refine .bind (.any _) fun old _ => .bind (.any _) fun _ _ => .bind (.any _) fun _ _ => ?_
  exact .bind (.any _) fun r _ => ⟨r, rfl⟩

theorem create_redacted (name : String) (dto : UpdateRealmDto) :
    (create d name dto).Returns Redacted := by
  refine .bind (.any _) fun old _ => .bind (.any _) fun _ _ => .bind (.any _) fun _ _ => ?_
  exact .bind (.any _) fun _ _ => .bind (.any _) fun r _ => ⟨r, rfl⟩

def Secret.put (text : String) : Secret → RealmRow → RealmRow
  | .smtpPassword, row => { row with smtpPassword := some text }
  | .email secret, row => { row with
      emailProviderConfig := .obj (set ((record? row.emailProviderConfig).getD []) secret.1
        (.obj (set (sectionOf row.emailProviderConfig secret.1) secret.2 (.str text)))) }
  | .sms field, row => { row with
      smsProviderConfig :=
        .obj (set ((record? row.smsProviderConfig).getD []) field (.str text)) }

theorem Secret.stored_put (given : text ≠ "") (secret : Secret) (row : RealmRow) :
    secret.stored (secret.put text row) = some text := by
  cases secret with
  | smtpPassword => exact given_eq_some.mpr ⟨rfl, given⟩
  | email secret => simp [stored, put, record?, storedText, given]
  | sms field => simp [stored, put, record?, storedText, given]

theorem storedText_eq_some (row : storedText value = some text) :
    value = .str text ∧ text ≠ "" := by
  cases value with
  | str hit =>
    by_cases isEmpty : hit = ""
    · simp [storedText, isEmpty] at row
    · simp only [storedText, isEmpty, if_false, some.injEq] at row
      exact ⟨congrArg _ row, row ▸ isEmpty⟩
  | _ => cases row

variable {record : Record}

theorem get_of_property {key : String}
    (hit : property record key = value) (defined : value ≠ .undefined) :
    get record key = some value := by
  unfold property at hit
  cases isEntry : get record key with
  | none =>
    rw [isEntry] at hit
    exact absurd hit.symm defined
  | some row =>
    rw [isEntry] at hit
    exact congrArg some hit

theorem record?_eq_some (isRecord : record? value = some record) : value = .obj record := by
  cases value with
  | obj properties => exact congrArg Js.obj (some.inj isRecord)
  | _ => cases isRecord

theorem redactSmsField_frame (out : Record) (field other : String) (ne : other ≠ field) :
    get (redactSmsField out field) other = get out other := by
  unfold redactSmsField
  split
  · exact get_set_of_ne ne
  · rfl

theorem property_set_of_ne {key other : String}
    (ne : other ≠ key) : property (set record key value) other = property record other := by
  rw [property, get_set_of_ne ne, property]

variable {out : Record}

theorem redactSmsField_set {field other : String} (ne : other ≠ field) :
    redactSmsField (set out field value) other = set (redactSmsField out other) field value := by
  unfold redactSmsField
  rw [property_set_of_ne ne]
  split
  case isTrue isSet =>
    have present : get out other = some (property out other) := by
      refine get_of_property rfl fun isUndefined => ?_
      rw [isUndefined] at isSet
      cases isSet
    exact set_comm ne (by rw [present]; rfl)
  case isFalse => rfl

theorem redactSms_hides {field text text' : String} (mem : field ∈ smsSecretFields)
    (row : storedText (property out field) = some text) (given : text' ≠ "") :
    smsSecretFields.foldl redactSmsField (set out field (.str text')) =
      smsSecretFields.foldl redactSmsField out := by
  obtain ⟨isText, notEmpty⟩ := storedText_eq_some row
  have absorbs (out : Record) (pre : get out field = some (.str text)) :
      redactSmsField (set out field (.str text')) field = redactSmsField out field := by
    simp [redactSmsField, property, pre, Js.truthy, given, notEmpty]
  exact foldl_set redactSmsField_frame absorbs (fun _ _ ne => redactSmsField_set ne)
    (by decide) mem (get_of_property isText (by simp))

theorem redactEmailSection_frame (out : Record) (secret : String × String) (other : String)
    (ne : other ≠ secret.1) : get (redactEmailSection out secret) other = get out other := by
  unfold redactEmailSection
  split
  · rfl
  · split
    · exact get_set_of_ne ne
    · rfl

theorem redactEmailSection_set {name : String} {secret : String × String}
    (ne : secret.1 ≠ name) : redactEmailSection (set out name value) secret =
      set (redactEmailSection out secret) name value := by
  unfold redactEmailSection
  rw [property_set_of_ne ne]
  cases isRecord : record? (property out secret.1) with
  | none => rfl
  | some values =>
    by_cases isSet : (property values secret.2).truthy = true
    · simp only [isSet, if_true]
      have present := get_of_property (record?_eq_some isRecord) (by simp)
      exact set_comm ne (by rw [present]; rfl)
    · simp [isSet]

theorem redactEmail_hides {out values : Record} {secret : String × String} {text text' : String}
    (mem : secret ∈ emailSecretFields) (isSection : get out secret.1 = some (.obj values))
    (row : storedText (property values secret.2) = some text) (given : text' ≠ "") :
    emailSecretFields.foldl redactEmailSection
        (set out secret.1 (.obj (set values secret.2 (.str text')))) =
      emailSecretFields.foldl redactEmailSection out := by
  obtain ⟨isText, notEmpty⟩ := storedText_eq_some row
  have absorbs (out : Record) (pre : get out secret.1 = some (.obj values)) :
      redactEmailSection (set out secret.1 (.obj (set values secret.2 (.str text')))) secret =
        redactEmailSection out secret := by
    have hit : property out secret.1 = .obj values := by rw [property, pre]; rfl
    simp [redactEmailSection, hit, isText, record?, Js.truthy, given, notEmpty]
  exact foldl_set redactEmailSection_frame absorbs
    (fun _ _ ne => redactEmailSection_set ne) (by decide) mem isSection

theorem redactSmsProviderConfig_put {config : Js} {field text text' : String}
    (mem : field ∈ smsSecretFields)
    (row : storedText (property ((record? config).getD []) field) = some text)
    (given : text' ≠ "") :
    redactSmsProviderConfig (.obj (set ((record? config).getD []) field (.str text'))) =
      redactSmsProviderConfig config := by
  unfold redactSmsProviderConfig
  cases isRecord : record? config with
  | none =>
    rw [isRecord] at row
    cases row
  | some record =>
    rw [isRecord] at row
    exact congrArg Js.obj (redactSms_hides mem row given)

theorem redactEmailProviderConfig_put {config : Js} {secret : String × String}
    {text text' : String} (mem : secret ∈ emailSecretFields)
    (row : storedText (property (sectionOf config secret.1) secret.2) = some text)
    (given : text' ≠ "") : redactEmailProviderConfig (.obj (set ((record? config).getD []) secret.1
        (.obj (set (sectionOf config secret.1) secret.2 (.str text'))))) =
      redactEmailProviderConfig config := by
  unfold redactEmailProviderConfig sectionOf at *
  cases isRecord : record? config with
  | none =>
    rw [isRecord] at row
    cases row
  | some record =>
    rw [isRecord, getD_some] at row
    cases isSection : record? (property record secret.1) with
    | none =>
      rw [isSection] at row
      cases row
    | some values =>
      rw [isSection] at row
      have isEntry := get_of_property (record?_eq_some isSection) (by simp)
      simp only [getD_some, isSection]
      exact congrArg Js.obj (redactEmail_hides mem isEntry row given)

/-- An answer does not tell one stored secret from another. -/
theorem redactSecrets_hides {secret : Secret} (mem : secret ∈ secrets)
    {text text' : String} (stored : secret.stored row = some text) (given : text' ≠ "") :
    redactSecrets (secret.put text' row) = redactSecrets row := by
  cases secret with
  | smtpPassword =>
    obtain ⟨isText, notEmpty⟩ := given_eq_some.mp stored
    simp [redactSecrets, put, truthy, isText, notEmpty, given]
  | email secret =>
    have mem : secret ∈ emailSecretFields := by simpa [secrets] using mem
    simp only [redactSecrets, put, redactEmailProviderConfig_put mem stored given]
    rfl
  | sms field =>
    have mem : field ∈ smsSecretFields := by simpa [secrets] using mem
    simp only [redactSecrets, put, redactSmsProviderConfig_put mem stored given]
    rfl

/-- Secrets survive the round trip, and the answers do not depend on them. -/
theorem secrets_round_trip {ι : Type} [DecidableEq ι] (d : Deps) (envs : Envelopes d)
    (avail : List String) :
    (∀ (c c' : Pool ι State Failure Answer) (secret : Secret) (name : String) (row : RealmRow),
      secret ∈ secrets →
      (∀ i, ∃ req : Request, req.edits ∧ c.procs i = req.call d avail) →
      c.state.find name = some row → c.state.updates = [] →
      Pool.Reaches Expires (Resolved secret) c c' →
      Held d secret name (secret.value d row) c'.state) ∧
    ((findAll.Returns fun rows => ∀ row ∈ rows, Redacted row) ∧
      (∀ name, (findByName name).Returns Redacted) ∧
      (∀ name dto, (create d name dto).Returns Redacted) ∧
      (∀ name dto, (update d avail name dto).Returns fun ans =>
        Redacted ans.2) ∧ ∀ name, (remove name).Returns fun ans => Redacted ans.2) ∧
    (∀ secret ∈ secrets, ∀ row text text', secret.stored row = some text → text' ≠ "" →
      secret.stored (secret.put text' row) = some text' ∧
        redactSecrets (secret.put text' row) = redactSecrets row) ∧
    (∀ text, decryptSecret d (encryptSecret d text) = decryptSecret d text ∧
      (d.decrypt text = none → decryptSecret d text = text) ∧
      encryptSecret d (encryptSecret d text) = encryptSecret d text) := by
  refine ⟨?_, ⟨findAll_redacted, findByName_redacted, create_redacted,
    update_redacted avail, remove_redacted⟩, ?_, ?_⟩
  · intro c c' secret name row mem reqs start fresh reached
    exact held_through envs mem reqs start fresh reached
  · intro secret mem row text text' stored given
    exact ⟨secret.stored_put given row, redactSecrets_hides mem stored given⟩
  · intro text
    exact ⟨decryptSecret_encryptSecret envs text, decryptSecret_plain,
      encryptSecret_encryptSecret envs text⟩

open List

theorem Resolved.quiet {secret : Secret} {s s' : State} (same : s'.updates = s.updates) :
    Resolved secret s s' := by
  intro update row isUpdate
  rw [same] at isUpdate
  exact absurd isUpdate.symm (cons_ne_self _ _)

def markedDeps : Deps :=
  { Deps.transparent with
    encrypt := ("#" ++ ·)
    decrypt := fun text => match text.toList with
      | '#' :: sealed => some (ofList sealed)
      | _ => none }

theorem markedDeps_envelopes : Envelopes markedDeps where
  opens text := by
    have marked : ("#" ++ text).toList = '#' :: text.toList := by simp
    simp only [markedDeps, marked, ofList_toList]
  empty := rfl

def tokenAcme : RealmRow :=
  { acme with
    smsProviderConfig := .obj [("twilioAccountSid", .str "AC1"), ("twilioAuthToken", .str "#tok")]
    recaptchaSecretKey := some "#cap" }

open Cache

def tokenState : State :=
  { realms := [tokenAcme], byName := put empty "acme" tokenAcme }

def formSent : UpdateRealmDto :=
  { smsProviderConfig := some [("twilioAccountSid", .str "AC2"),
      ("twilioAuthToken", .str secretPlaceholder)] }

def formPool : Pool Nat State Failure Answer where
  state := tokenState
  procs _ := (Request.update "acme" formSent).call markedDeps []

theorem form_reached : Pool.Reaches Expires (Resolved (.sms "twilioAuthToken")) formPool
    (formPool.schedule [0, 0, 0, 0]) := by
  have looked : Pool.Reaches Expires (Resolved (.sms "twilioAuthToken")) formPool
      (formPool.advance 0) := reaches_turn .refl (.quiet rfl)
  have written : Pool.Reaches Expires (Resolved (.sms "twilioAuthToken")) formPool
      ((formPool.advance 0).advance 0) := by
    refine reaches_turn looked fun update row isUpdate hit _ => ?_
    cases isUpdate
    cases hit
    rfl
  have config := reaches_turn (i := 0) written (.quiet rfl)
  exact reaches_turn (i := 0) config (.quiet rfl)

theorem token_is_kept : Held markedDeps (.sms "twilioAuthToken") "acme" (some "tok")
        (formPool.schedule [0, 0, 0, 0]).state ∧
      lastSet markedDeps (.sms "twilioAuthToken") (some "tok")
        (dtosOf "acme" (formPool.schedule [0, 0, 0, 0]).state.updates) = some "tok" :=
  ⟨(secrets_round_trip markedDeps markedDeps_envelopes []).1 formPool _ (.sms "twilioAuthToken")
    "acme" tokenAcme (by simp [secrets, smsSecretFields])
    (fun _ => ⟨.update "acme" formSent, trivial, rfl⟩) rfl rfl form_reached, rfl⟩

/-- An update that leaves a field of a configuration out clears it, and the key of the captcha is
handed out as it is stored. -/
theorem token_is_lost : ∃ pre ans,
    Secret.value markedDeps (.sms "twilioAuthToken") tokenAcme = some "tok" ∧
      (update markedDeps [] "acme"
        { smsProviderConfig := some [("twilioAccountSid", .str "AC2")] }).run tokenState =
          (.ok (pre, ans), { tokenState with
            writes := 1
            byName := drop tokenState.byName "acme"
            configs := drop tokenState.configs 1
            updates := [⟨"acme", { smsProviderConfig := some [("twilioAccountSid", .str "AC2")] },
              tokenAcme⟩]
            realms := [ans] }) ∧
      Secret.value markedDeps (.sms "twilioAuthToken") ans = none ∧
      ans.recaptchaSecretKey = some "#cap" ∧ markedDeps.decrypt "#cap" = some "cap" :=
  ⟨_, _, rfl, rfl, rfl, rfl, rfl⟩

section Envelope

/-- AES-256-GCM under the key of the server: a ciphertext with its tag, and what it stands for. -/
structure Gcm where
  sealed : (iv : List UInt8) → String → List UInt8 × List UInt8
  opened : (iv tag encrypted : List UInt8) → Option String

def IV_BYTES : Nat := 12

def TAG_BYTES : Nat := 16

/-- `CryptoService.encrypt`, with the initialization vector that it draws. -/
def encrypt (gcm : Gcm) (iv : List UInt8) (plaintext : String) : String :=
  let (encrypted, tag) := gcm.sealed iv plaintext
  ofList (encode (iv ++ tag ++ encrypted))

/-- `CryptoService.decrypt`; nothing when it throws. -/
def decrypt (gcm : Gcm) (ciphertext : String) : Option String :=
  let packed := decode ciphertext.toList
  gcm.opened (packed.take IV_BYTES) ((packed.drop IV_BYTES).take TAG_BYTES)
    (packed.drop (IV_BYTES + TAG_BYTES))

/-- With a cipher that opens what it has sealed, and nothing under an empty vector, an envelope is
opened, and what is assumed of envelopes holds. -/
theorem envelopes_open (gcm : Gcm)
    (opens : ∀ iv text, iv.length = IV_BYTES → (gcm.sealed iv text).2.length = TAG_BYTES ∧
      gcm.opened iv (gcm.sealed iv text).2 (gcm.sealed iv text).1 = some text)
    (empty : ∀ tag encrypted, gcm.opened [] tag encrypted = none) :
    (∀ iv text, iv.length = IV_BYTES → decrypt gcm (encrypt gcm iv text) = some text) ∧
      ∀ (d : Deps) (iv : String → List UInt8), (∀ text, (iv text).length = IV_BYTES) →
        (∀ text, d.encrypt text = encrypt gcm (iv text) text) → d.decrypt = decrypt gcm →
        Envelopes d := by
  have trip (iv : List UInt8) (text : String) (drawn : iv.length = IV_BYTES) :
      decrypt gcm (encrypt gcm iv text) = some text := by
    obtain ⟨size, isText⟩ := opens iv text drawn
    rw [decrypt, encrypt, toList_ofList, decode_encode, ← drop_drop,
      append_assoc, ← drawn, take_left, drop_left, ← size, take_left,
      drop_left]
    exact isText
  refine ⟨trip, fun d iv drawn encrypts decrypts => ⟨fun text => ?_, ?_⟩⟩
  · rw [encrypts, decrypts, trip _ _ (drawn text)]
  · rw [decrypts]
    exact empty _ _

def plainGcm : Gcm where
  sealed _ text := (text.toUTF8.data.toList, replicate TAG_BYTES 0)
  opened iv _ encrypted :=
    if iv = [] then none else fromUTF8? ⟨encrypted.toArray⟩

theorem ada_is_opened :
    decrypt plainGcm (encrypt plainGcm (replicate 12 0) "ada") = some "ada" := by
  apply (envelopes_open plainGcm (fun iv text drawn => ⟨by simp [plainGcm], ?_⟩) fun _ _ => rfl).1
  · rfl
  have notEmpty : iv ≠ [] := by
    rintro rfl
    cases drawn
  exact (if_neg notEmpty).trans (dif_pos text.isValidUTF8)

end Envelope

end Idenplane.Realms
