import Mathlib.Data.Rat.Defs
import Mathlib.Algebra.Order.Ring.Rat

/-! # JavaScript values

The values that JSON gives rise to, and the conversions between them.  A conversion that
may throw returns an option.
-/

/-- The values that JSON and the built-in objects give rise to. -/
inductive Js where
  | undefined
  | null
  | bool (flag : Bool)
  | num (number : ℚ)
  | str (text : String)
  | arr (items : List Js)
  | obj (properties : List (String × Js))
  /-- A function or an object of the language, known by name. -/
  | builtin (name : String)

namespace Js

/-- The result of `Number(value)`. -/
inductive Number where
  | nan
  | finite (number : ℚ)
  | infinite (negative : Bool)
  deriving DecidableEq

/-- What is used of the language and is not about JSON. -/
structure Runtime where
  /-- The property of this name that a value has without it being written there. -/
  inherited : Js → String → Option Js
  /-- `Number(text)`. -/
  numberOfText : String → Number
  /-- `String(number)`. -/
  numberText : ℚ → String
  /-- `String(value)` of a built-in object. -/
  builtinText : String → String
  /-- `new RegExp(source)`, when the source is valid, and its `test`. -/
  regExp : String → Option (String → Bool)

variable (rt : Runtime)

def truthy : Js → Bool
  | undefined | null => false
  | bool flag => flag
  | num number => number ≠ 0
  | str text => text ≠ ""
  | arr _ | obj _ | builtin _ => true

def isNullish : Js → Bool
  | undefined | null => true
  | _ => false

/-- `a === b`.  Two arrays or two objects from different places are never the same. -/
def strictEquals : Js → Js → Bool
  | undefined, undefined => true
  | null, null => true
  | bool a, bool b => a = b
  | num a, num b => a = b
  | str a, str b => a = b
  | builtin a, builtin b => a = b
  | _, _ => false

def includes (items : List Js) (value : Js) : Bool := items.any (strictEquals · value)

/-- `value[key]`. -/
def get (value : Js) (key : String) : Option Js :=
  match value with
  | undefined | null => none
  | obj properties =>
    match properties.lookup key with
    | some property => some property
    | none => rt.inherited value key
  | arr items =>
    if key = "length" then some (num items.length)
    else
      match key.toNat? with
      | some index =>
        if toString index = key then some (items.getD index undefined)
        else rt.inherited value key
      | none => rt.inherited value key
  | _ => rt.inherited value key

mutual

/-- `String(value)`.  An object whose `toString` is a JSON value has no text. -/
def toText : Js → Option String
  | undefined => some "undefined"
  | null => some "null"
  | bool flag => some (if flag then "true" else "false")
  | num number => some (rt.numberText number)
  | str text => some text
  | arr items => (joinTexts items).map (",".intercalate ·)
  | obj properties =>
    if properties.any (·.1 = "toString") then none else some "[object Object]"
  | builtin name => some (rt.builtinText name)

/-- The texts of the items, as `join` puts them together. -/
def joinTexts : List Js → Option (List String)
  | [] => some []
  | undefined :: rest | null :: rest => (joinTexts rest).map ("" :: ·)
  | item :: rest => do
    let text ← toText item
    let texts ← joinTexts rest
    some (text :: texts)

end

def join (items : List Js) (separator : String) : Option String :=
  (joinTexts rt items).map (separator.intercalate ·)

def toNumber : Js → Option Number
  | undefined => some .nan
  | null => some (.finite 0)
  | bool flag => some (.finite (if flag then 1 else 0))
  | num number => some (.finite number)
  | str text => some (rt.numberOfText text)
  | value => (toText rt value).map rt.numberOfText

namespace Number

def text (rt : Runtime) : Number → String
  | nan => "NaN"
  | finite number => rt.numberText number
  | infinite negative => if negative then "-Infinity" else "Infinity"

/-- `a < b`. -/
def less : Number → Number → Bool
  | finite a, finite b => a < b
  | infinite true, finite _ => true
  | infinite true, infinite false => true
  | finite _, infinite false => true
  | _, _ => false

end Number

mutual

def printable : Js → Bool
  | arr items => allPrintable items
  | obj properties => !properties.any (·.1 = "toString")
  | _ => true

def allPrintable : List Js → Bool
  | [] => true
  | item :: rest => printable item && allPrintable rest

end

theorem isSome_both {α β γ : Type} (x : Option α) (y : Option β) (f : α → β → γ) :
    (x.bind fun a => y.bind fun b => some (f a b)).isSome = (x.isSome && y.isSome) := by
  cases x <;> cases y <;> rfl

mutual

theorem toText_isSome (value : Js) : (value.toText rt).isSome = value.printable := by
  cases value with
  | undefined | null | bool | num | str | builtin => simp [toText, printable]
  | arr items => simp [toText, printable, joinTexts_isSome items]
  | obj properties =>
    rw [toText, printable]
    cases properties.any (·.1 = "toString") <;> simp
termination_by sizeOf value

theorem joinTexts_isSome (items : List Js) : (joinTexts rt items).isSome = allPrintable items := by
  match items with
  | [] => simp [joinTexts, allPrintable]
  | item :: rest =>
    have first := toText_isSome item
    have others := joinTexts_isSome rest
    rw [allPrintable, ← first, ← others]
    cases item with
    | undefined | null => simp [joinTexts, toText]
    | bool | num | str | arr | obj | builtin =>
      simp only [joinTexts, Option.bind_eq_bind, isSome_both]
termination_by sizeOf items

end

theorem toNumber_isSome (v : Js) : (v.toNumber rt).isSome = v.printable := by
  cases v with
  | undefined | null | bool | num | str => simp [toNumber, printable]
  | arr | obj | builtin => simp [toNumber, toText_isSome]

/-- Only values that have a text are ever the same. -/
theorem printable_of_strictEquals {a b : Js} (same : a.strictEquals b = true) :
    a.printable = true := by
  cases a <;> cases b <;> simp_all [strictEquals, printable]

end Js
