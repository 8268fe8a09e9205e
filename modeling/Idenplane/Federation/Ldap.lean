import Idenplane.Deps

/-! # The LDAP client

`LdapClientWrapper` finds the entry of a name as the service account and binds as that
entry.  The servers are behind `Network`. -/

namespace Idenplane.Federation

/-- What `ldapts` returns for an attribute. -/
inductive LdapValue where
  | text (value : String)
  | many (values : List String)
  /-- A `Buffer`, by its UTF-8 reading. -/
  | bytes (utf8 : String)
  deriving DecidableEq

structure SearchEntry where
  dn : String
  attributes : List (String × LdapValue) := []
  deriving DecidableEq

/-- The LDAP servers, by their `connectionUrl`, as `ldapts` reaches them. -/
structure Network where
  /-- `bind(dn, password)` resolves. -/
  bind : String → String → String → Bool
  /-- `unbind()` resolves, on a connection bound as this DN. -/
  unbind : String → String → Bool
  /-- `search(base, { scope: 'sub', filter, sizeLimit: 1 })` of the service account; `none`
  where it throws. -/
  search : String → String → String → Option (List SearchEntry)

def isLdapSpecial (c : Char) : Bool :=
  c == '\\' || c == '*' || c == '(' || c == ')' || c == '\x00' || c == '/'

/-- `charCodeAt(0).toString(16).padStart(2, '0')` after a backslash, for a special character. -/
def escapeLdapChar (c : Char) : List Char :=
  if isLdapSpecial c then
    ['\\', Nat.digitChar (c.toNat / 16), Nat.digitChar (c.toNat % 16)]
  else [c]

def escapeLdap (s : String) : String := String.ofList (s.toList.flatMap escapeLdapChar)

def buildUserFilter (federation : UserFederation) (username : String) : String :=
  let base := "(&(objectClass=" ++ federation.userObjectClass ++ ")(" ++
    federation.usernameLdapAttr ++ "=" ++ escapeLdap username ++ "))"
  match given federation.searchFilter with
  | some searchFilter => "(&" ++ base ++ searchFilter ++ ")"
  | none => base

/-- The `str` of `mapEntry`. -/
def LdapValue.str : LdapValue → String
  | .text value => value
  | .many values => values.headD ""
  | .bytes utf8 => utf8

def SearchEntry.str (e : SearchEntry) (name : String) : Option String :=
  (e.attributes.lookup name).map LdapValue.str

def mapEntry (federation : UserFederation) (e : SearchEntry) : LdapUser :=
  { uid := (e.str federation.usernameLdapAttr).getD "", email := e.str "mail",
    firstName := e.str "givenName", lastName := e.str "sn" }

variable (network : Network)

def searchEntries (federation : UserFederation) (username : String) : Option (List SearchEntry) :=
  if network.bind federation.connectionUrl federation.bindDn federation.bindCredential then
    network.search federation.connectionUrl federation.usersDn (buildUserFilter federation username)
  else none

def unbindService (federation : UserFederation) : Bool :=
  network.unbind federation.connectionUrl federation.bindDn

def authenticate (federation : UserFederation) (username password : String) : Bool :=
  match searchEntries network federation username with
  | some (e :: _) =>
    unbindService network federation && network.bind federation.connectionUrl e.dn password &&
      network.unbind federation.connectionUrl e.dn
  | _ => false

def searchUser (federation : UserFederation) (username : String) : Option LdapUser :=
  match searchEntries network federation username with
  | some (e :: _) =>
    if unbindService network federation then some (mapEntry federation e) else none
  | _ => none

def BoundAs (federation : UserFederation) (username password : String) : Prop :=
  ∃ e rest, searchEntries network federation username = some (e :: rest) ∧
    network.bind federation.connectionUrl e.dn password = true

def TreatsAlike (federation : UserFederation) (username variant : String) : Prop :=
  searchEntries network federation variant = searchEntries network federation username

variable {network} {fed : UserFederation} {username variant password : String}

theorem authenticate_bound (ok : authenticate network fed username password = true) :
    BoundAs network fed username password := by
  unfold authenticate at ok
  split at ok
  case h_1 e rest hit =>
    simp only [and_eq_true] at ok
    exact ⟨e, rest, hit, ok.1.2⟩
  case h_2 => cases ok

theorem TreatsAlike.authenticate (alike : TreatsAlike network fed username variant) :
    Federation.authenticate network fed variant password =
      Federation.authenticate network fed username password := by
  unfold Federation.authenticate
  rw [alike]

end Idenplane.Federation
