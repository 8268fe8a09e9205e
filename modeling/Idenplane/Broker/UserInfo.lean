import Idenplane.Lib.Js
import Idenplane.Lib.Text
import Idenplane.Store

/-! # What a provider says about a user

`fetchExternalUserInfo` reads an untyped document. -/

namespace Idenplane.Broker

structure ExternalUserInfo where
  sub : String
  email : Option String := none
  emailVerified : Option Bool := none
  (name givenName familyName preferredUsername : Option String := none)
  deriving DecidableEq

structure GithubEmail where
  email : String
  (primary verified : Bool := false)
  deriving DecidableEq

/-- What comes back over HTTP; `none` where the request fails. -/
structure Answers where
  userinfo : Option Js
  /-- `https://api.github.com/user/emails`. -/
  githubEmails : Option (List GithubEmail) := none

section

variable (rt : Js.Runtime)

def toStr : Js → Option String
  | .str text => if text = "" then none else some text
  | .num number => some (rt.numberText number)
  | .bool flag => some (if flag then "true" else "false")
  | _ => none

/-- `data[first] ?? data[second]`. -/
def claimOr (data : Js) (first second : String) : Option Js := do
  let value ← data.get rt first
  if value.isNullish then data.get rt second else some value

def usableSubject (data : Js) : Option String :=
  (claimOr rt data "sub" "id").bind (toStr rt)

def splitName (name : String) : Option String × Option String :=
  let trimmed := (Text.trim name).toList
  match trimmed.findIdx? Text.isSpace with
  | none => (if trimmed.isEmpty then none else some (String.ofList trimmed), none)
  | some firstSpace =>
    let rest := Text.trim (String.ofList (trimmed.drop (firstSpace + 1)))
    (some (String.ofList (trimmed.take firstSpace)), if rest = "" then none else some rest)

def namesOf (name givenName familyName : Option String) : Option String × Option String :=
  match name with
  | some full => if givenName.isNone && familyName.isNone then splitName full
      else (givenName, familyName)
  | none => (givenName, familyName)

/-- The claim `email_verified`, as a flag or as a text. -/
def verifiedFlag : Js → Option Bool
  | .bool flag => some flag
  | .str text => if text = "true" then some true else if text = "false" then some false else none
  | _ => none

def githubPrimaryEmail (emails : List GithubEmail) : Option GithubEmail :=
  ((emails.find? (·.primary)).or (emails.find? (·.verified))).or emails.head?

def GITHUB_API_HOST : String := "api.github.com"

/-- `hostname url` is `new URL(url).hostname`, where that does not throw. -/
def isGithub (hostname : String → Option String) (idp : IdentityProvider) : Bool :=
  match idp.userinfoUrl.filter (· != "") with
  | some url => hostname url = some GITHUB_API_HOST
  | none => false

/-- The address and its flag, with GitHub's list of addresses as the last resort. -/
def addressOf (hostname : String → Option String) (idp : IdentityProvider) (answers : Answers)
    (email : Option String) (emailVerified : Option Bool) : Option String × Option Bool :=
  if email.isNone && isGithub hostname idp then
    match answers.githubEmails.bind githubPrimaryEmail with
    | some primary => (some primary.email, some primary.verified)
    | none => (email, emailVerified)
  else (email, emailVerified)

/-- `fetchExternalUserInfo`; `none` where it throws. -/
def fetchExternalUserInfo (hostname : String → Option String) (idp : IdentityProvider)
    (answers : Answers) : Option ExternalUserInfo := do
  let data ← answers.userinfo
  let subject ← claimOr rt data "sub" "id"
  let name ← data.get rt "name"
  let givenName ← claimOr rt data "given_name" "first_name"
  let familyName ← claimOr rt data "family_name" "last_name"
  let preferredUsername ← claimOr rt data "preferred_username" "login"
  let email ← data.get rt "email"
  let emailVerified ← data.get rt "email_verified"
  let names := namesOf (toStr rt name) (toStr rt givenName) (toStr rt familyName)
  let address := addressOf hostname idp answers (toStr rt email) (verifiedFlag emailVerified)
  some { sub := (toStr rt subject).getD ""
         email := address.1
         emailVerified := address.2
         name := toStr rt name
         givenName := names.1
         familyName := names.2
         preferredUsername := toStr rt preferredUsername }

end

theorem fetchExternalUserInfo_sub {rt : Js.Runtime} {host : String → Option String}
    {idp : IdentityProvider} {answers : Answers} {ext : ExternalUserInfo}
    (fetched : fetchExternalUserInfo rt host idp answers = some ext) :
    ∃ data, answers.userinfo = some data ∧ ext.sub = (usableSubject rt data).getD "" := by
  unfold fetchExternalUserInfo at fetched
  simp only [bind_eq_bind, bind_eq_some_iff] at fetched
  obtain ⟨data, isData, subject, isSubject, _, _, _, _, _, _, _, _, _, _, _, _, isExternal⟩ := fetched
  refine ⟨data, isData, ?_⟩
  cases isExternal
  simp [usableSubject, isSubject]

end Idenplane.Broker
