import Idenplane.Names
import Mathlib.Data.Rat.Floor
import Idenplane.Lib.Js
import Idenplane.Lib.Text

/-! # Policy conditions

Conditions of access policies are raw JSON, compared with a context that the caller of the
policy engine brings.  Nothing checks their shape before they are evaluated, so evaluating
one may throw: no condition, no field, or a value that cannot be turned into text.  A
function that may throw returns an option.
-/

namespace Idenplane.Authorization

open Js (Number Runtime)

section Conditions

variable (rt : Runtime)

def resolveParts : List String → Js → Option Js
  | [], current => some current
  | part :: rest, current =>
    if current.isNullish then some .undefined
    else (current.get rt part).bind (resolveParts rest)

def resolveField (ctx : Js) (field : String) : Option Js :=
  resolveParts rt ((Text.split '.' field.toList).map String.ofList) ctx

def parseDecimal (text : List Char) : Option Int :=
  let trimmed := text.dropWhile Text.isSpace
  let digits := match trimmed with
    | '+' :: rest | '-' :: rest => rest
    | rest => rest
  let number := digits.takeWhile Char.isDigit
  if number.isEmpty then none
  else
    let magnitude : Int := number.foldl (fun n c => 10 * n + (c.toNat - '0'.toNat)) 0
    some (if trimmed.head? = some '-' then -magnitude else magnitude)

/-- The four numbers of an address, as `ipToInt` reads them. -/
def octet (text : List Char) : Option Nat :=
  match rt.numberOfText (String.ofList text) with
  | .finite number => if 0 ≤ number ∧ number ≤ 255 then some ⌊number⌋.toNat else none
  | _ => none

def ipToInt (address : List Char) : Option Nat := do
  let parts := Text.split '.' address
  if parts.length ≠ 4 then none
  else
    let octets ← parts.mapM (octet rt)
    some (octets.foldl (fun value octet => 256 * value + octet) 0)

def ipInCidr (ip cidr : String) : Bool :=
  match Text.split '/' cidr.toList with
  | range :: bits :: _ =>
    if range.isEmpty || bits.isEmpty then false
    else
      match parseDecimal bits with
      | none => false
      | some bits =>
        if bits < 0 || bits > 32 then false
        else
          match ipToInt rt ip.toList, ipToInt rt range with
          | some ip, some range =>
            let mask := if bits = 0 then 0 else 2 ^ 32 - 2 ^ (32 - bits.toNat)
            ip &&& mask = range &&& mask
          | _, _ => false
  | _ => false

structure ConditionResult where
  passed : Bool
  reason : String
  deriving DecidableEq

def quoted (text : String) : String := "\"" ++ text ++ "\""

def verdict (passed : Bool) (yes no : String) : Option ConditionResult :=
  some { passed := passed, reason := if passed then yes else no }

def refused (reason : String) : Option ConditionResult := some { passed := false, reason := reason }

/-- The comparisons of the operators `greaterThan` and `lessThan`. -/
def compareNumbers (field : String) (sign : String) (actual expected : Js)
    (holds : Number → Number → Bool) : Option ConditionResult := do
  let a ← actual.toNumber rt
  let e ← expected.toNumber rt
  if a = .nan || e = .nan then refused (quoted field ++ " or value is not numeric")
  else
    verdict (holds a e) (quoted field ++ " (" ++ a.text rt ++ ") " ++ sign ++ " " ++ e.text rt)
      (quoted field ++ " (" ++ a.text rt ++ ") is not " ++ sign ++ " " ++ e.text rt)

open Js

def evaluateOperator (field : String) (operator actual expected : Js) : Option ConditionResult :=
  match operator with
  | .str "equals" => do
    let e ← expected.toText rt
    if actual.strictEquals expected then verdict true (quoted field ++ " equals " ++ quoted e) ""
    else
      let a ← actual.toText rt
      verdict false "" (quoted field ++ " is " ++ quoted a ++ ", expected " ++ quoted e)
  | .str "notEquals" => do
    let e ← expected.toText rt
    verdict (!actual.strictEquals expected) (quoted field ++ " is not " ++ quoted e)
      (quoted field ++ " equals " ++ quoted e ++ " but should not")
  | .str "contains" => do
    let e ← expected.toText rt
    let passed := match actual with
      | .str text => text.toList.tails.any (e.toList.isPrefixOf ·)
      | .arr items => includes items expected
      | _ => false
    verdict passed (quoted field ++ " contains " ++ quoted e)
      (quoted field ++ " does not contain " ++ quoted e)
  | .str "in" =>
    match expected with
    | .arr items => do
      let all ← join rt items ", "
      if includes items actual then verdict true (quoted field ++ " is in [" ++ all ++ "]") ""
      else
        let a ← actual.toText rt
        verdict false "" (quoted field ++ " (" ++ quoted a ++ ") is not in [" ++ all ++ "]")
    | _ => refused "operator \"in\" requires an array value"
  | .str "notIn" =>
    match expected with
    | .arr items => do
      let all ← join rt items ", "
      if includes items actual then
        let a ← actual.toText rt
        verdict false "" (quoted field ++ " (" ++ quoted a ++ ") is in [" ++ all ++ "]")
      else verdict true (quoted field ++ " is not in [" ++ all ++ "]") ""
    | _ => refused "operator \"notIn\" requires an array value"
  | .str "greaterThan" =>
    compareNumbers rt field ">" actual expected fun a e => e.less a
  | .str "lessThan" => compareNumbers rt field "<" actual expected Number.less
  | .str "matches" =>
    match actual with
    | .str text => do
      let e ← expected.toText rt
      match rt.regExp e with
      | none => refused ("invalid regex: " ++ quoted e)
      | some test =>
        verdict (test text) (quoted field ++ " matches /" ++ e ++ "/")
          (quoted field ++ " (" ++ quoted text ++ ") does not match /" ++ e ++ "/")
    | _ => refused (quoted field ++ " is not a string")
  | .str "ipInRange" =>
    match actual with
    | .str text => do
      let cidr ← expected.toText rt
      verdict (ipInCidr rt text cidr) ("IP " ++ quoted text ++ " is in range " ++ quoted cidr)
        ("IP " ++ quoted text ++ " is not in range " ++ quoted cidr)
    | _ => refused (quoted field ++ " is not a string IP")
  | operator => do
    let text ← operator.toText rt
    refused ("unknown operator " ++ quoted text)

/-- Anything but a string has no `split`. -/
def fieldText : Js → Option String
  | .str field => some field
  | _ => none

def evaluateCondition (condition ctx : Js) : Option ConditionResult := do
  let field ← condition.get rt "field"
  let field ← fieldText field
  let actual ← resolveField rt ctx field
  let expected ← condition.get rt "value"
  let operator ← condition.get rt "operator"
  evaluateOperator rt field operator actual expected

def comparable (operator actual expected : Js) : Bool :=
  match operator with
  | .str "equals" | .str "greaterThan" | .str "lessThan" => actual.printable && expected.printable
  | .str "notEquals" | .str "contains" => expected.printable
  | .str "in" =>
    match expected with
    | .arr _ => actual.printable && expected.printable
    | _ => true
  | .str "notIn" =>
    match expected with
    | .arr _ => expected.printable
    | _ => true
  | .str "matches" | .str "ipInRange" =>
    match actual with
    | .str _ => expected.printable
    | _ => true
  | operator => operator.printable

def wellFormed (condition ctx : Js) : Bool :=
  match condition.get rt "field", condition.get rt "value", condition.get rt "operator" with
  | some (.str field), some expected, some operator =>
    match resolveField rt ctx field with
    | some actual => comparable operator actual expected
    | none => false
  | _, _, _ => false

theorem compareNumbers_isSome (field sign : String) (actual expected : Js)
    (holds : Number → Number → Bool) :
    (compareNumbers rt field sign actual expected holds).isSome =
      (actual.printable && expected.printable) := by
  rw [← toNumber_isSome rt actual, ← toNumber_isSome rt expected, compareNumbers]
  cases actual.toNumber rt with
  | none => rfl
  | some a =>
    cases expected.toNumber rt with
    | none => rfl
    | some e =>
      simp only [bind_eq_bind, bind_some]
      split <;> rfl

theorem printable_of_includes {xs : List Js} {v : Js}
    (hit : includes xs v = true) : v.printable = true := by
  obtain ⟨item, -, same⟩ := any_eq_true.mp hit
  cases item <;> cases v <;> simp_all [strictEquals, printable]

theorem join_isSome (items : List Js) (sep : String) :
    (join rt items sep).isSome = allPrintable items := by
  simp [join, joinTexts_isSome]

theorem evaluateOperator_isSome (field : String) (operator actual expected : Js) :
    (evaluateOperator rt field operator actual expected).isSome =
      comparable operator actual expected := by
  unfold evaluateOperator comparable
  split
  · rw [← toText_isSome rt actual, ← toText_isSome rt expected]
    cases texts : expected.toText rt with
    | none => simp
    | some e =>
      by_cases same : actual.strictEquals expected = true
      · have known := printable_of_strictEquals same
        rw [← toText_isSome rt actual] at known
        simp [same, known, verdict]
      · cases actual.toText rt <;> simp [same, verdict]
  · rw [← toText_isSome rt expected]
    cases expected.toText rt <;> rfl
  · rw [← toText_isSome rt expected]
    cases expected.toText rt <;> rfl
  · cases expected with
    | arr xs =>
      rw [printable, ← join_isSome rt xs ", "]
      cases joined : join rt xs ", " with
      | none => simp [joined]
      | some all =>
        by_cases hit : includes xs actual = true
        · simp [joined, hit, printable_of_includes hit, verdict]
        · rw [← toText_isSome rt actual]
          cases actual.toText rt <;> simp [joined, hit, verdict]
    | _ => rfl
  · cases expected with
    | arr xs =>
      rw [printable, ← join_isSome rt xs ", "]
      cases joined : join rt xs ", " with
      | none => simp [joined]
      | some all =>
        by_cases hit : includes xs actual = true
        · have known := printable_of_includes hit
          rw [← toText_isSome rt actual, isSome_iff_exists] at known
          obtain ⟨a, known⟩ := known
          simp [joined, hit, known, verdict]
        · simp [joined, hit, verdict]
    | _ => rfl
  · exact compareNumbers_isSome rt _ _ _ _ _
  · exact compareNumbers_isSome rt _ _ _ _ _
  · cases actual with
    | str text =>
      rw [← toText_isSome rt expected]
      cases expected.toText rt with
      | none => rfl
      | some e => cases h : rt.regExp e <;> simp [h, refused, verdict]
    | _ => rfl
  · cases actual with
    | str text =>
      rw [← toText_isSome rt expected]
      cases expected.toText rt <;> rfl
    | _ => rfl
  · -- no operator is known by this name
    split
    all_goals first | contradiction | skip
    rw [← toText_isSome rt]
    cases toText rt _ <;> rfl

theorem evaluateCondition_isSome (cond ctx : Js) : (evaluateCondition rt cond ctx).isSome =
      wellFormed rt cond ctx := by
  unfold evaluateCondition wellFormed
  cases cond.get rt "field" with
  | none => rfl
  | some field =>
    cases field with
    | str field =>
      simp only [fieldText, bind_eq_bind, bind_some]
      cases cond.get rt "value" with
      | none => cases resolveField rt ctx field <;> rfl
      | some expected =>
        cases cond.get rt "operator" with
        | none => cases resolveField rt ctx field <;> rfl
        | some operator =>
          simp only [bind_some]
          cases resolveField rt ctx field with
          | none => rfl
          | some actual => exact evaluateOperator_isSome rt field operator actual expected
    | _ => rfl

end Conditions

end Idenplane.Authorization
