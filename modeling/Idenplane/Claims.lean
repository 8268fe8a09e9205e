import Idenplane.Names
import Mathlib.Data.List.Basic
import Mathlib.Algebra.Order.Group.Int

/-! # Names, claims and signed tokens

Identifiers and secrets are fresh names.  `uuid()` values and the hex texts of
`randomBytes` are drawn from one supply, so an identifier or a secret is a natural
number and two draws never agree.  A digest of a secret is kept symbolic.  Times
are integers, the milliseconds of `Date.now()`.

A signed token is symbolic too: it names the key that signed it, so that it
verifies under that key and no other, and it carries its payload in the clear.
-/

namespace Idenplane

/-- The stored digest of a secret. -/
structure Sha256 where
  preimage : Nat
  deriving DecidableEq

/-- `crypto.sha256` of a secret the server generated. -/
def sha256 (secret : Nat) : Sha256 := ⟨secret⟩

@[simp] theorem sha256_inj {a b : Nat} : sha256 a = sha256 b ↔ a = b := by
  simp [sha256]

def truthy : Option String → Bool
  | none => false
  | some text => text != ""

/-- A text that is present and not empty. -/
def given (text : Option String) : Option String := text.filter (· != "")

theorem given_eq_some {text : Option String} {v : String} :
    given text = some v ↔ text = some v ∧ v ≠ "" := by
  simp [given, filter_eq_some_iff]

/-- The JSON values the services put into a token. -/
inductive Value where
  | str (text : String)
  | bool (flag : Bool)
  | num (number : Int)
  | id (id : Nat)
  | texts (items : List String)
  /-- The object `{ roles }`. -/
  | access (roles : List String)
  /-- The object that maps a client to its `{ roles }`. -/
  | resources (entries : List (String × List String))
  /-- Any other value, as a plugin may add it. -/
  | json (text : String)
  deriving DecidableEq

/-- JavaScript truthiness.  `null` is the JSON text. -/
def Value.truthy : Value → Bool
  | .str text => text != ""
  | .bool flag => flag
  | .num number => number != 0
  | .json text => text != "null"
  | _ => true

def Value.toKey : Value → String
  | .str text => text
  | .bool flag => if flag then "true" else "false"
  | .num number => toString number
  | .id uuid => toString uuid
  | .texts items => ",".intercalate items
  | .json text => text
  | .access _ | .resources _ => "[object Object]"

/-- A JSON object: the value of each property it has. -/
abbrev Claims := String → Option Value

namespace Claims

def empty : Claims := fun _ => none

/-- `claims[key] = value`.  Assigning a text to `__proto__` adds no property. -/
def assign (claims : Claims) (key : String) (value : Value) : Claims :=
  fun k => if k = key ∧ key ≠ "__proto__" then some value else claims k

def literal : List (String × Value) → Claims
  | [] => empty
  | (key, value) :: rest => fun k => (literal rest k).or (if k = key then some value else none)

/-- `{ ...first, ...second }`. -/
def spread (first second : Claims) : Claims :=
  fun k => (second k).or (first k)

def spreadIf (first : Claims) (condition : Bool) (second : Claims) : Claims :=
  if condition then first.spread second else first

@[simp] theorem empty_apply (k : String) : empty k = none := rfl

@[simp] theorem assign_self {claims : Claims} {key : String} {value : Value}
    (h : key ≠ "__proto__") : claims.assign key value key = some value := by
  simp [assign, h]

@[simp] theorem assign_of_ne {claims : Claims} {key k : String} {v : Value}
    (h : k ≠ key) : claims.assign key v k = claims k := by
  simp [assign, h]

@[simp] theorem literal_nil : literal [] = empty := rfl

@[simp] theorem literal_cons (key : String) (v : Value) (rest : List (String × Value))
    (k : String) : literal ((key, v) :: rest) k =
      (literal rest k).or (if k = key then some v else none) := rfl

variable {first snd : Claims} {k : String}

theorem spread_eq_some {v : Value} :
    first.spread snd k = some v ↔ snd k = some v ∨ snd k = none ∧ first k = some v := by
  simp [spread, Option.or_eq_some_iff]

@[simp] theorem spread_of_none (h : snd k = none) : first.spread snd k = first k := by
  simp [spread, h]

theorem spreadIf_of_none (cond : Bool)
    (h : snd k = none) : first.spreadIf cond snd k = first k := by
  cases cond <;> simp [spreadIf, h]

end Claims

/-- Which function of the server signed a token, and for whom. -/
inductive Origin where
  | adminLogin (userId : Nat)
  | adminSession
  | accessToken (userId sessionId : Nat)
  | idToken (userId sessionId : Nat)
  | clientToken (clientId : Nat)
  | impersonation (userId sessionId : Nat)
  | brokerState
  | logoutToken
  deriving DecidableEq

/-- A signed token.  `origin` records who signed it; the server cannot read it. -/
structure Jwt where
  key : Nat
  payload : Claims
  origin : Origin

/-- What `validateAdminToken` and the guards know of the caller. -/
structure AdminUser where
  userId : Option Value
  roles : List String
  deriving DecidableEq

end Idenplane
