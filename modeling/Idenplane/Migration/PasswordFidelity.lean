import Mathlib.Data.List.TakeWhile
import Idenplane.Migration.Passwords

/-! # What the source would have accepted

An imported password is verified as the source verified it exactly if the parameters that are
read back from the stored text are those of the record. -/

namespace Idenplane.Migration

open Authorization List Text Numerals Nat String Char

theorem hexDigit_of_isDigit {c : Char} (digit : c.isDigit = true) :
    hexDigit c = some (c.toNat - '0'.toNat) := by
  have bounds : '0' ≤ c ∧ c ≤ '9' := by
    simpa [isDigit, le_def] using digit
  rw [hexDigit, if_pos bounds]

theorem foldl_magnitude {ds : List Char} (each : ∀ c ∈ ds, c.isDigit = true) (n : Nat) :
    ds.foldl (fun (n : Int) c => 10 * n + (c.toNat - '0'.toNat)) n =
      (ds.foldl (fun v c => 10 * v + (hexDigit c).getD 0) n : Nat) := by
  induction ds generalizing n with
  | nil => rfl
  | cons c rest ih =>
    have digit := each c mem_cons_self
    have atLeast : '0'.toNat ≤ c.toNat := by
      simp only [isDigit, and_eq_true, decide_eq_true_eq, ge_iff_le,
        UInt32.le_iff_toNat_le] at digit
      exact digit.1
    have later := ih (fun d mem => each d (.tail _ mem)) (10 * n + (c.toNat - '0'.toNat))
    rw [foldl_cons, foldl_cons, hexDigit_of_isDigit digit, getD_some, ← later]
    congr 1
    omega

theorem digit_of_numeral {n : Nat} : ∀ c ∈ numeral 10 n,
    c.isDigit = true ∧ isSpace c = false ∧ c ≠ '+' ∧ c ≠ '-' ∧ c ≠ '$' ∧ c ≠ ':' := by
  intro c mem
  obtain ⟨d, small, rfl⟩ := mem_numeral (by omega) (by omega) mem
  have each : ∀ d < 10, (digitChar d).isDigit = true ∧
      isSpace (digitChar d) = false ∧ digitChar d ≠ '+' ∧ digitChar d ≠ '-' ∧
        digitChar d ≠ '$' ∧ digitChar d ≠ ':' := by
    decide
  exact each d small

theorem numeral_ne_nil (n : Nat) : numeral 10 n ≠ [] := by
  unfold numeral
  split
  case isTrue => simp
  case isFalse positive => simpa [digits_eq_nil_iff_eq_zero] using positive

theorem parseDecimal_numeral (n : Nat) : parseDecimal (numeral 10 n) = some (n : Int) := by
  have each : ∀ c ∈ numeral 10 n, c.isDigit = true := fun c mem =>
    (digit_of_numeral c mem).1
  have whole : (numeral 10 n).takeWhile isDigit = numeral 10 n :=
    takeWhile_eq_self_iff.mpr each
  have magnitude := foldl_magnitude each 0
  have isValue : value 10 (numeral 10 n) = n :=
    value_numeral (by omega) (by omega) n
  rw [value] at isValue
  rw [isValue] at magnitude
  obtain ⟨c, rest, isText⟩ := exists_cons_of_ne_nil (numeral_ne_nil n)
  have mem : c ∈ numeral 10 n := by
    rw [isText]
    exact mem_cons_self
  obtain ⟨_, noSpace, noPlus, noMinus, _⟩ := digit_of_numeral c mem
  rw [isText] at whole magnitude ⊢
  unfold parseDecimal
  simp only [dropWhile_cons, noSpace, false_eq_true, if_false]
  split
  case h_1 sign => exact absurd (cons.inj sign).1 noPlus
  case h_2 sign => exact absurd (cons.inj sign).1 noMinus
  case h_3 => simpa [whole, noMinus] using magnitude

/-- A credential record of Keycloak, or a password text of Authentik. -/
inductive SourcePassword where
  | keycloak (algorithm : Option String) (hashIterations : Option Number)
      (salt hashedSaltedValue : String)
  | authentik (raw : String)

/-- The encodings of Authentik that the importer says it supports. -/
def SourcePassword.Supported : SourcePassword → Prop
  | .keycloak _ _ _ _ => True
  | .authentik raw =>
    "argon2$argon2".toList <+: raw.toList ∨ "pbkdf2_sha256$".toList <+: raw.toList

def SourcePassword.extracted : SourcePassword → Extracted
  | .keycloak algorithm hashIterations salt hashedSaltedValue =>
    extractKeycloakPassword [{ hashedSaltedValue := some hashedSaltedValue
                               salt := some salt
                               hashIterations := hashIterations
                               algorithm := algorithm }]
  | .authentik raw => extractAuthentikPassword (some raw)

open Base64

def IsBase64 (text : List Char) : Prop := encode (decode text) = text

instance : DecidablePred IsBase64 := fun text =>
  inferInstanceAs (Decidable (encode (decode text) = text))

/-- The natural number that it is, if a key can be derived in so many iterations. -/
def Number.count? (number : Number) : Option Nat :=
  if number.value.den = 1 ∧ isCount number.value.num = true then some number.value.num.toNat
  else none

/-- A record without a number of iterations has the one that Keycloak starts from. -/
def countOf (hashIterations : Option Number) : Option Nat :=
  (hashIterations.getD (.ofNat 27500)).count?

def keycloakRequest (algorithm : Option String) (hashIterations : Option Number)
    (salt hashedSaltedValue : String) : Option Request :=
  if IsBase64 salt.toList ∧ IsBase64 hashedSaltedValue.toList ∧
      decode hashedSaltedValue.toList ≠ [] then
    (countOf hashIterations).map fun iterations =>
      ⟨algorithm.getD "pbkdf2-sha256", decode salt.toList, iterations,
        decode hashedSaltedValue.toList⟩
  else none

def djangoEncode (kdfs : Kdfs) (password : String) (salt : List Char) (iterations : Nat) :
    List Char :=
  "pbkdf2_sha256".toList ++ '$' :: (numeral 10 iterations ++ '$' :: (salt ++ '$' ::
    encode (kdfs.derive "pbkdf2-sha256" password (utf8 salt) iterations 32)))

def SourcePassword.Accepts (kdfs : Kdfs) (password : String) : SourcePassword → Prop
  | .keycloak algorithm hashIterations salt hashedSaltedValue =>
    Meets kdfs password (keycloakRequest algorithm hashIterations salt hashedSaltedValue)
  | .authentik raw =>
    (∃ phc, raw = "argon2" ++ phc ∧ kdfs.argon2Verify phc password = some true) ∨
      ∃ salt iterations, '$' ∉ salt ∧ isCount (iterations : Nat) = true ∧
        raw.toList = djangoEncode kdfs password salt iterations

def SourcePassword.Verifies (kdfs : Kdfs) (password : String) (source : SourcePassword) : Prop :=
  ∃ storedHash, source.extracted.hash = some storedHash ∧
    verifyMigratedPassword kdfs password storedHash source.extracted.algorithm = some true

def SourcePassword.readBack (source : SourcePassword) : Option Request :=
  if source.extracted.algorithm = "pbkdf2-sha256" then
    source.extracted.hash.bind fun storedHash => Migration.readBack storedHash.toList
  else none

variable {kdfs : Kdfs} {password : String} {algorithm : Option String}
  {hashIterations : Option Number} {salt hashedSaltedValue raw : String}

theorem mem_encode {bytes : List UInt8} {c : Char} (mem : c ∈ encode bytes) :
    c ≠ '$' ∧ c ≠ ':' := by
  have each : ∀ n < 64, digit n ≠ '$' ∧ digit n ≠ ':' := by decide +kernel
  rw [encode, mem_append] at mem
  cases mem with
  | inl mem =>
    obtain ⟨n, isSextet, rfl⟩ := mem_map.mp mem
    exact each n (sextets_lt isSextet)
  | inr mem =>
    rw [eq_of_mem_replicate mem]
    decide

variable {text : List Char}

theorem IsBase64.no_dollar (isBase64 : IsBase64 text) : '$' ∉ text := by
  intro mem
  rw [← isBase64] at mem
  exact (mem_encode mem).1 rfl

theorem no_dollar_numeral (n : Nat) : '$' ∉ numeral 10 n := by
  intro mem
  exact (digit_of_numeral '$' mem).2.2.2.2.1 rfl

theorem readBack_parts {its salt hash : List Char} (noIterations : '$' ∉ its)
    (noSalt : '$' ∉ salt) (noHash : '$' ∉ hash) :
    readBack (its ++ '$' :: (salt ++ '$' :: hash)) = requestOf (parseDecimal its) salt hash := by
  unfold readBack
  rw [split_append noIterations, split_append noSalt, split_of_not_mem noHash]

theorem requestOf_numeral (n : Nat) (salt hash : List Char) :
    requestOf (parseDecimal (numeral 10 n)) salt hash = if isCount n = true ∧ decode hash ≠ [] then
        some ⟨"pbkdf2-sha256", decode salt, n, decode hash⟩
      else none := by
  rw [parseDecimal_numeral, requestOf]
  by_cases asks : isCount n = true ∧ decode hash ≠ []
  · simp [Option.filter, asks]
  · simp [Option.filter, asks]

/-- A number of iterations is written in decimal digits. -/
theorem Number.text_of_count {number : Number} {n : Nat} (isCount_ : number.count? = some n) :
    number.text = decimal n ∧ isCount n = true := by
  unfold Number.count? at isCount_
  split at isCount_
  case isFalse => cases isCount_
  case isTrue proper =>
    obtain ⟨whole, count⟩ := proper
    have isNat : (n : Int) = number.value.num := by
      cases isCount_
      simp only [isCount, and_eq_true, decide_eq_true_eq] at count
      omega
    have small : n < 10 ^ 21 := by
      simp only [isCount, and_eq_true, decide_eq_true_eq] at count
      omega
    have same : number.value = n := by
      rw [← Rat.num_div_den number.value, whole, ← isNat]
      simp
    exact ⟨number.plain n same small, isNat ▸ count⟩

open SourcePassword

theorem keycloak_stored (isSalt : salt ≠ "") (isHash : hashedSaltedValue ≠ "") :
    (keycloak algorithm hashIterations salt hashedSaltedValue).extracted =
      { hash := some ((hashIterations.getD (.ofNat 27500)).text ++ "$" ++ salt ++ "$" ++
          hashedSaltedValue)
        algorithm := "pbkdf2-sha256" } := by
  have hash : given (some hashedSaltedValue) = some hashedSaltedValue :=
    given_eq_some.mpr ⟨rfl, isHash⟩
  have salt' : given (some salt) = some salt := given_eq_some.mpr ⟨rfl, isSalt⟩
  simp [extracted, extractKeycloakPassword, hash, salt']

theorem keycloak_dropped (missing : salt = "" ∨ hashedSaltedValue = "") :
    (keycloak algorithm hashIterations salt hashedSaltedValue).extracted = {} := by
  cases missing with
  | inl missing => simp [extracted, extractKeycloakPassword, given, missing]
  | inr missing => simp [extracted, extractKeycloakPassword, given, missing]

theorem verifies_keycloak : (keycloak algorithm hashIterations salt hashedSaltedValue).Verifies kdfs
        password ↔ Meets kdfs password
        (keycloak algorithm hashIterations salt hashedSaltedValue).readBack := by
  by_cases missing : salt = "" ∨ hashedSaltedValue = ""
  · simp [SourcePassword.Verifies, SourcePassword.readBack, keycloak_dropped missing, Meets]
  · rw [not_or] at missing
    simp [SourcePassword.Verifies, SourcePassword.readBack, keycloak_stored missing.1 missing.2,
      verifyMigratedPassword, verifyPbkdf2_iff]

structure KeycloakKept (algorithm : Option String) (hashIterations : Option Number)
    (salt hashedSaltedValue : String) : Prop where
  algorithm : algorithm.getD "pbkdf2-sha256" = "pbkdf2-sha256"
  iterations : (countOf hashIterations).isSome
  salt : salt ≠ "" ∧ IsBase64 salt.toList
  hash : hashedSaltedValue ≠ "" ∧ IsBase64 hashedSaltedValue.toList

theorem IsBase64.decode_ne_nil {text : String} (isBase64 : IsBase64 text.toList)
    (isText : text ≠ "") : decode text.toList ≠ [] := by
  intro empty
  rw [IsBase64, empty] at isBase64
  apply isText
  exact toList_eq_nil_iff.mp isBase64.symm

theorem keycloak_readBack {n : Nat} (count : countOf hashIterations = some n)
    (isSalt : salt ≠ "" ∧ IsBase64 salt.toList)
    (isHash : hashedSaltedValue ≠ "" ∧ IsBase64 hashedSaltedValue.toList) :
    (keycloak algorithm hashIterations salt hashedSaltedValue).readBack =
      some ⟨"pbkdf2-sha256", decode salt.toList, n, decode hashedSaltedValue.toList⟩ := by
  obtain ⟨isText, proper⟩ := Number.text_of_count count
  have stored : ((hashIterations.getD (.ofNat 27500)).text ++ "$" ++ salt ++ "$" ++
      hashedSaltedValue).toList =
        numeral 10 n ++ '$' :: (salt.toList ++ '$' :: hashedSaltedValue.toList) := by
    simp [isText, decimal, toList_append]
  rw [SourcePassword.readBack, keycloak_stored isSalt.1 isHash.1, if_pos rfl, bind_some,
    stored, readBack_parts (no_dollar_numeral _) isSalt.2.no_dollar isHash.2.no_dollar,
    requestOf_numeral, if_pos ⟨proper, isHash.2.decode_ne_nil isHash.1⟩]

variable {req : Request}

theorem keycloakRequest_some
    (isRequest : keycloakRequest algorithm hashIterations salt hashedSaltedValue = some req) :
    ∃ n, countOf hashIterations = some n ∧ IsBase64 salt.toList ∧
      IsBase64 hashedSaltedValue.toList ∧ decode hashedSaltedValue.toList ≠ [] ∧
        req = ⟨algorithm.getD "pbkdf2-sha256", decode salt.toList, n,
          decode hashedSaltedValue.toList⟩ := by
  unfold keycloakRequest at isRequest
  split at isRequest
  case isTrue proper =>
    obtain ⟨n, count, rfl⟩ := map_eq_some_iff.mp isRequest
    exact ⟨n, count, proper.1, proper.2.1, proper.2.2, rfl⟩
  case isFalse => cases isRequest

theorem keycloakRequest_hash
    (isRequest : keycloakRequest algorithm hashIterations salt hashedSaltedValue = some req) :
    req.hash ≠ [] := by
  obtain ⟨n, -, -, -, nonempty, rfl⟩ := keycloakRequest_some isRequest
  exact nonempty

/-- The record's own parameters are read back exactly if they survive, or there are none. -/
theorem keycloak_same_iff : (keycloak algorithm hashIterations salt hashedSaltedValue).readBack =
        keycloakRequest algorithm hashIterations salt hashedSaltedValue ↔
      KeycloakKept algorithm hashIterations salt hashedSaltedValue ∨
        keycloakRequest algorithm hashIterations salt hashedSaltedValue = none ∧
    (keycloak algorithm hashIterations salt hashedSaltedValue).readBack = none := by
  constructor
  · intro same
    cases isRequest : keycloakRequest algorithm hashIterations salt hashedSaltedValue with
    | none => exact .inr ⟨rfl, same.trans isRequest⟩
    | some req =>
      left
      obtain ⟨n, count, saltText, hashText, -, isReq⟩ := keycloakRequest_some isRequest
      have present : ¬(salt = "" ∨ hashedSaltedValue = "") := by
        intro missing
        rw [isRequest, SourcePassword.readBack, keycloak_dropped missing] at same
        cases same
      rw [not_or] at present
      rw [keycloak_readBack count ⟨present.1, saltText⟩ ⟨present.2, hashText⟩, isRequest,
        isReq] at same
      refine ⟨?_, isSome_iff_exists.mpr ⟨n, count⟩, ⟨present.1, saltText⟩, ⟨present.2, hashText⟩⟩
      exact (congrArg Request.algorithm (some.inj same)).symm
  · intro cond
    cases cond with
    | inl kept =>
      obtain ⟨n, count⟩ := isSome_iff_exists.mp kept.iterations
      have nonempty := kept.hash.2.decode_ne_nil kept.hash.1
      rw [keycloak_readBack count kept.salt kept.hash, keycloakRequest, count,
        if_pos ⟨kept.salt.2, kept.hash.2, nonempty⟩, map_some, kept.algorithm]
    | inr lost => rw [lost.1, lost.2]

/-- The parameters of a text that `PBKDF2PasswordHasher` can have written. -/
def djangoRequest (raw : List Char) : Option Request :=
  match Text.split '$' raw with
  | [name, iterations, salt, hash] =>
    let count := ((parseDecimal iterations).getD 0).toNat
    if name = "pbkdf2_sha256".toList ∧ iterations = numeral 10 count ∧
        isCount count = true ∧ IsBase64 hash ∧ (decode hash).length = 32 then
      some ⟨"pbkdf2-sha256", utf8 salt, count, decode hash⟩
    else none
  | _ => none

theorem no_dollar_encode (bytes : List UInt8) : '$' ∉ encode bytes := by
  intro mem
  exact (mem_encode mem).1 rfl

theorem split_django {its salt hash : List Char} (noIterations : '$' ∉ its)
    (noSalt : '$' ∉ salt) (noHash : '$' ∉ hash) :
    split '$' ("pbkdf2_sha256".toList ++ '$' :: (its ++ '$' :: (salt ++ '$' :: hash))) =
      ["pbkdf2_sha256".toList, its, salt, hash] := by
  rw [split_append (by decide), split_append noIterations, split_append noSalt,
    split_of_not_mem noHash]

theorem djangoRequest_eq {salt hash : List Char} {iterations : Nat} (noSalt : '$' ∉ salt)
    (count : isCount iterations = true) (isBase64 : IsBase64 hash)
    (long : (decode hash).length = 32) :
    djangoRequest ("pbkdf2_sha256".toList ++ '$' :: (numeral 10 iterations ++ '$' ::
        (salt ++ '$' :: hash))) =
      some ⟨"pbkdf2-sha256", utf8 salt, iterations, decode hash⟩ := by
  have number : ((parseDecimal (numeral 10 iterations)).getD 0).toNat = iterations := by
    rw [parseDecimal_numeral, getD_some, Int.toNat_natCast]
  rw [djangoRequest, split_django (no_dollar_numeral iterations) noSalt isBase64.no_dollar]
  simp only [number, count, isBase64, long, and_self, if_true]

theorem djangoRequest_some (isRequest : djangoRequest text = some req) :
    ∃ salt hash, '$' ∉ salt ∧ isCount req.iterations = true ∧ IsBase64 hash ∧ req.hash.length = 32 ∧
        req = ⟨"pbkdf2-sha256", utf8 salt, req.iterations, decode hash⟩ ∧
          text = "pbkdf2_sha256".toList ++ '$' :: (numeral 10 req.iterations ++ '$' ::
            (salt ++ '$' :: hash)) := by
  unfold djangoRequest at isRequest
  split at isRequest
  case h_1 name iterations salt hash isSplit =>
    obtain ⟨proper, same⟩ := Option.ite_none_right_eq_some.mp isRequest
    obtain ⟨isName, isNumeral, count, isBase64, long⟩ := proper
    obtain ⟨isText, _, noSalt, _⟩ := split_four isSplit
    have isSame := some.inj same
    subst isSame
    rw [isName, isNumeral] at isText
    exact ⟨salt, hash, noSalt, count, isBase64, long, rfl, isText⟩
  case h_2 => cases isRequest

theorem django_accepts : (∃ salt its, '$' ∉ salt ∧ isCount (its : Nat) = true ∧
        raw.toList = djangoEncode kdfs password salt its) ↔
      Meets kdfs password (djangoRequest raw.toList) := by
  constructor
  · intro encoded
    obtain ⟨salt, its, noSalt, count, isText⟩ := encoded
    have derived := kdfs.length "pbkdf2-sha256" password (utf8 salt) its 32
    have isBase64 : IsBase64 (encode
        (kdfs.derive "pbkdf2-sha256" password (utf8 salt) its 32)) := by
      rw [IsBase64, decode_encode]
    rw [isText]
    unfold djangoEncode
    rw [djangoRequest_eq noSalt count isBase64 (by rw [decode_encode, derived])]
    simp only [Meets, decode_encode, derived]
  · intro meets
    cases isRequest : djangoRequest raw.toList with
    | none =>
      rw [isRequest] at meets
      exact meets.elim
    | some req =>
      rw [isRequest] at meets
      obtain ⟨salt, hash, noSalt, count, isBase64, long, same, isText⟩ :=
        djangoRequest_some isRequest
      refine ⟨salt, req.iterations, noSalt, count, ?_⟩
      simp only [Meets, long] at meets
      rw [isText]
      unfold djangoEncode
      have isHash : req.hash = decode hash := congrArg Request.hash same
      have isSalt : req.salt = utf8 salt := congrArg Request.salt same
      have isAlgorithm : req.algorithm = "pbkdf2-sha256" := congrArg Request.algorithm same
      rw [isAlgorithm, isSalt, isHash] at meets
      rw [meets, isBase64]

theorem starts_iff {start : String} : start.toList.isPrefixOf text = true ↔ start.toList <+: text :=
  isPrefixOf_iff_prefix

theorem not_both (argon2 : "argon2$argon2".toList <+: text) :
    ¬"pbkdf2_sha256$".toList <+: text := by
  intro pbkdf2
  obtain ⟨rest, rfl⟩ := argon2
  obtain ⟨other, same⟩ := pbkdf2
  exact absurd (cons.inj same).1 (by decide)

theorem authentik_argon2 (argon2 : "argon2$argon2".toList <+: raw.toList) :
    (authentik raw).extracted = { hash := some (ofList (raw.toList.drop 6)) } := by
  have present : given (some raw) = some raw := by
    apply given_eq_some.mpr
    refine ⟨rfl, ?_⟩
    rintro rfl
    exact absurd (prefix_nil.mp argon2) (by decide)
  simp only [extracted, extractAuthentikPassword, present, starts_iff.mpr argon2, if_true]

theorem authentik_pbkdf2 (pbkdf2 : "pbkdf2_sha256$".toList <+: raw.toList) :
    (authentik raw).extracted = ofDjangoParts (split '$' raw.toList) := by
  have present : given (some raw) = some raw := by
    apply given_eq_some.mpr
    refine ⟨rfl, ?_⟩
    rintro rfl
    exact absurd (prefix_nil.mp pbkdf2) (by decide)
  have other : "argon2$argon2".toList.isPrefixOf raw.toList = false := by
    rw [eq_false_iff]
    intro argon2
    exact not_both (starts_iff.mp argon2) pbkdf2
  simp only [extracted, extractAuthentikPassword, present, other, starts_iff.mpr pbkdf2, if_true]
  rfl

theorem drop_argon2 {phc : String} (isRaw : raw = "argon2" ++ phc) :
    ofList (raw.toList.drop 6) = phc := by
  have six : ("argon2" : String).toList = ['a', 'r', 'g', 'o', 'n', '2'] := toList_ofList
  rw [isRaw, toList_append, six]
  simp

theorem accepts_argon2 (argon2 : "argon2$argon2".toList <+: raw.toList) :
    (authentik raw).Accepts kdfs password ↔
      kdfs.argon2Verify (ofList (raw.toList.drop 6)) password = some true := by
  constructor
  · intro accepts
    cases accepts with
    | inl accepts =>
      obtain ⟨phc, isRaw, verified⟩ := accepts
      rw [drop_argon2 isRaw]
      exact verified
    | inr accepts =>
      obtain ⟨salt, its, _, _, isText⟩ := accepts
      exfalso
      apply not_both argon2
      have start : "pbkdf2_sha256$".toList = "pbkdf2_sha256".toList ++ ['$'] := by decide
      rw [isText, start]
      exact prefix_append _ _
  · intro verified
    left
    refine ⟨ofList (raw.toList.drop 6), ?_, verified⟩
    obtain ⟨rest, isText⟩ := argon2
    have start : "argon2$argon2".toList = "argon2".toList ++ "$argon2".toList := by decide
    have six : "argon2".toList.length = 6 := by decide
    apply toList_injective
    rw [toList_append, ← isText, start, append_assoc, ← six, drop_left,
      @toList_ofList ("$argon2".toList ++ rest)]

theorem accepts_pbkdf2 (pbkdf2 : "pbkdf2_sha256$".toList <+: raw.toList) :
    (authentik raw).Accepts kdfs password ↔ Meets kdfs password (djangoRequest raw.toList) := by
  rw [← django_accepts]
  constructor
  · intro accepts
    cases accepts with
    | inl accepts =>
      obtain ⟨phc, isRaw, _⟩ := accepts
      obtain ⟨rest, isText⟩ := pbkdf2
      rw [isRaw, toList_append] at isText
      exact absurd (cons.inj isText).1 (by decide)
    | inr accepts => exact accepts
  · exact .inr

theorem verifies_argon2 (argon2 : "argon2$argon2".toList <+: raw.toList) :
    (authentik raw).Verifies kdfs password ↔ utf16Length password.toList ≤ maxPasswordLength ∧
        kdfs.argon2Verify (ofList (raw.toList.drop 6)) password = some true := by
  simp only [SourcePassword.Verifies, authentik_argon2 argon2, verifyMigratedPassword,
    verifyPassword, if_true, some.injEq, exists_eq_left']
  by_cases long : utf16Length password.toList > maxPasswordLength
  · simp [long, not_le.mpr long]
  · simp [long, not_lt.mp long]

theorem verifies_pbkdf2 (pbkdf2 : "pbkdf2_sha256$".toList <+: raw.toList) :
    (authentik raw).Verifies kdfs password ↔ Meets kdfs password (authentik raw).readBack := by
  simp only [SourcePassword.Verifies, SourcePassword.readBack, authentik_pbkdf2 pbkdf2]
  unfold ofDjangoParts
  split
  · simp [verifyMigratedPassword, verifyPbkdf2_iff]
  · simp [Meets]

def DjangoText (raw : List Char) : Prop :=
  ∃ salt iterations bytes, '$' ∉ salt ∧ isCount (iterations : Nat) = true ∧
    (bytes : List UInt8).length = 32 ∧
      raw = "pbkdf2_sha256".toList ++ '$' :: (numeral 10 iterations ++ '$' ::
        (salt ++ '$' :: encode bytes))

theorem authentik_same_iff (pbkdf2 : "pbkdf2_sha256$".toList <+: raw.toList) :
    (authentik raw).readBack = djangoRequest raw.toList ↔
      DjangoText raw.toList ∨ (authentik raw).readBack = none := by
  have kept (text : DjangoText raw.toList) :
      (authentik raw).readBack = djangoRequest raw.toList := by
    obtain ⟨salt, its, bytes, noSalt, count, long, isText⟩ := text
    have isBase64 : IsBase64 (encode bytes) := by rw [IsBase64, decode_encode]
    rw [SourcePassword.readBack, authentik_pbkdf2 pbkdf2, isText,
      split_django (no_dollar_numeral its) noSalt (no_dollar_encode bytes),
      djangoRequest_eq noSalt count isBase64 (by rw [decode_encode, long])]
    simp only [ofDjangoParts, if_true, bind_some, toList_ofList]
    have nonempty : decode (encode bytes) ≠ [] := by
      rw [decode_encode]
      rintro rfl
      cases long
    rw [readBack_parts (no_dollar_numeral its) (no_dollar_encode _) (no_dollar_encode _),
      requestOf_numeral, if_pos ⟨count, nonempty⟩, decode_encode]
  constructor
  · intro same
    cases isRequest : djangoRequest raw.toList with
    | none => exact .inr (same.trans isRequest)
    | some req =>
      left
      obtain ⟨salt, hash, noSalt, count, isBase64, long, isSame, isText⟩ :=
        djangoRequest_some isRequest
      have isHash : req.hash = decode hash := congrArg Request.hash isSame
      refine ⟨salt, req.iterations, decode hash, noSalt, count, ?_, ?_⟩
      · rw [← isHash]
        exact long
      · rw [isBase64]
        exact isText
  · intro cond
    cases cond with
    | inl text => exact kept text
    | inr lost =>
      cases isRequest : djangoRequest raw.toList with
      | none => exact lost
      | some req =>
        obtain ⟨salt, hash, noSalt, count, isBase64, long, isSame, isText⟩ :=
          djangoRequest_some isRequest
        have isHash : req.hash = decode hash := congrArg Request.hash isSame
        rw [← isRequest]
        apply kept
        refine ⟨salt, req.iterations, decode hash, noSalt, count, ?_, ?_⟩
        · rw [← isHash]
          exact long
        · rw [isBase64]
          exact isText

/-- The parameters survive the import, or no password fits them before and after it.  A password
that Argon2 is asked about is not too long. -/
def SourcePassword.KeepsParameters (password : String) : SourcePassword → Prop
  | .keycloak algorithm hashIterations salt hashedSaltedValue =>
    KeycloakKept algorithm hashIterations salt hashedSaltedValue ∨
      keycloakRequest algorithm hashIterations salt hashedSaltedValue = none ∧
        (keycloak algorithm hashIterations salt hashedSaltedValue).readBack = none
  | .authentik raw =>
    ("argon2$argon2".toList <+: raw.toList → Text.utf16Length password.toList ≤ maxPasswordLength) ∧
      ("pbkdf2_sha256$".toList <+: raw.toList →
        DjangoText raw.toList ∨ (authentik raw).readBack = none)

def permissive : Kdfs where
  derive _ _ _ _ size := List.replicate size 0
  length _ _ _ _ _ := List.length_replicate
  argon2Verify _ _ := some true
  bcryptCompare _ _ := some true

theorem djangoRequest_hash (isRequest : djangoRequest text = some req) : req.hash ≠ [] := by
  obtain ⟨_, _, _, _, _, long, _⟩ := djangoRequest_some isRequest
  intro empty
  rw [empty] at long
  cases long

def plainRecord (hashedSaltedValue : String) : SourcePassword :=
  .keycloak (some "pbkdf2-sha256") (some (.ofNat 27500)) "c2FsdA==" hashedSaltedValue

def sha512Record : SourcePassword :=
  .keycloak (some "pbkdf2-sha512") (some (.ofNat 210000)) "c2FsdA==" "aGFzaA=="

theorem sha512_request :
    keycloakRequest (some "pbkdf2-sha512") (some (.ofNat 210000)) "c2FsdA==" "aGFzaA==" =
      some ⟨"pbkdf2-sha512", [115, 97, 108, 116], 210000, [104, 97, 115, 104]⟩ := by
  decide +kernel

/-- The hash is malformed, but enough of it can be read. -/
theorem damaged_readBack : (plainRecord "aG*FzaA==").readBack =
    some ⟨"pbkdf2-sha256", [115, 97, 108, 116], 27500, [104, 97, 115, 104]⟩ := by
  decide +kernel

theorem damaged_request : keycloakRequest (some "pbkdf2-sha256") (some (.ofNat 27500)) "c2FsdA=="
    "aG*FzaA==" = none := by
  decide +kernel

end Idenplane.Migration
