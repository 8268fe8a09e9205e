import Mathlib.Data.Rat.Floor
import Mathlib.Tactic.Ring
import Mathlib.Tactic.FieldSimp
import Idenplane.Lib.Js
import Idenplane.Lib.Numerals

/-! # Numbers read from text

`Number(text)` reads a decimal or a radix literal and rounds it to the nearest double, to the
even one of two that are equally near.
-/

namespace Js

open List Text Numerals Char Nat

def power (base : Nat) : Int → ℚ
  | .ofNat n => (Nat.pow base n : Nat)
  | .negSucc n => 1 / (Nat.pow base (n + 1) : Nat)

def leadingBit (q : ℚ) : Int :=
  let place : Int := (log2 q.num.natAbs : Int) - (log2 q.den : Int)
  if |q| < power 2 place then place - 1 else place

def nearestEven (q : ℚ) : Int :=
  let below := ⌊q⌋
  if q - below < 1 / 2 then below
  else if 1 / 2 < q - below then below + 1
  else if below % 2 = 0 then below
  else below + 1

/-- The double nearest to a number. -/
def toDouble (q : ℚ) : Number :=
  if q = 0 then .finite 0
  else
    -- 53 bits, and no bit below the smallest subnormal
    let unit := power 2 (max (leadingBit q - 52) (-1074))
    let rounded := nearestEven (q / unit) * unit
    if power 2 1024 ≤ |rounded| then .infinite (rounded < 0) else .finite rounded

/-- The number after the `e` of a decimal literal. -/
def exponentOf : List Char → Int
  | [] => 0
  | _ :: '-' :: digits => -(value 10 digits : Int)
  | _ :: '+' :: digits => value 10 digits
  | _ :: digits => value 10 digits

def decimalValue (text : List Char) : ℚ :=
  let whole := text.takeWhile Char.isDigit
  match text.dropWhile Char.isDigit with
  | '.' :: rest =>
    let fraction := rest.takeWhile Char.isDigit
    value 10 (whole ++ fraction) *
      power 10 (exponentOf (rest.dropWhile Char.isDigit) - fraction.length)
  | rest => value 10 whole * power 10 (exponentOf rest)

def unsignedNumber (text : List Char) : Number :=
  if text = Text.infinity then .infinite false else toDouble (decimalValue text)

def Number.negate : Number → Number
  | .nan => .nan
  | .finite number => .finite (-number)
  | .infinite negative => .infinite !negative

def numberOfText (text : String) : Number :=
  if !Text.isNumber text then .nan
  else
    match (Text.trim text).toList with
    | [] => .finite 0
    | '+' :: rest => unsignedNumber rest
    | '-' :: rest => (unsignedNumber rest).negate
    | '0' :: radix :: rest =>
      match radix with
      | 'x' | 'X' => toDouble (value 16 rest)
      | 'o' | 'O' => toDouble (value 8 rest)
      | 'b' | 'B' => toDouble (value 2 rest)
      | _ => unsignedNumber ('0' :: radix :: rest)
    | text => unsignedNumber text

def Runtime.standard (rt : Runtime) : Runtime :=
  { rt with numberOfText := Js.numberOfText }

@[simp] theorem Runtime.standard_numberOfText (rt : Runtime) :
    rt.standard.numberOfText = Js.numberOfText := by
  rw [Runtime.standard]

theorem nearestEven_intCast (n : Int) : nearestEven n = n := by
  simp [nearestEven]

theorem leadingBit_natCast {n : Nat} (positive : n ≠ 0) : leadingBit n = log2 n := by
  have atLeast : ¬|(n : ℚ)| < power 2 (log2 n : Nat) := by
    rw [not_lt, abs_of_nonneg (cast_nonneg n)]
    exact cast_le.mpr (log2_self_le positive)
  exact if_neg atLeast

/-- A unit below one divides every whole number. -/
theorem power_two_sub {k : Nat} (small : k ≤ 52) :
    power 2 ((k : Int) - 52) = 1 / ((Nat.pow 2 (52 - k) : Nat) : ℚ) := by
  obtain equal | below := Nat.eq_or_lt_of_le small
  · subst equal
    norm_num [power]
  · have asNegSucc : (k : Int) - 52 = .negSucc (52 - k - 1) := by omega
    rw [asNegSucc, power, show 52 - k - 1 + 1 = 52 - k by omega]

/-- A whole number of at most 53 bits is a double. -/
theorem toDouble_natCast {n : Nat} (small : n < 2 ^ 53) : toDouble n = .finite n := by
  by_cases zero : n = 0
  · simp [toDouble, zero]
  have places : log2 n ≤ 52 := by
    have := (Nat.log2_lt zero).mpr small
    omega
  have unit : max (leadingBit n - 52) (-1074) = (log2 n : Int) - 52 := by
    rw [leadingBit_natCast zero]
    omega
  have shifted : (n : ℚ) / (1 / ((Nat.pow 2 (52 - log2 n) : Nat) : ℚ)) =
      ((n * Nat.pow 2 (52 - log2 n) : Nat) : Int) := by
    push_cast
    rw [div_div_eq_mul_div, div_one]
  have back : (((n * Nat.pow 2 (52 - log2 n) : Nat) : Int) : ℚ) *
      (1 / ((Nat.pow 2 (52 - log2 n) : Nat) : ℚ)) = n := by
    have : ((Nat.pow 2 (52 - log2 n) : Nat) : ℚ) ≠ 0 :=
      Nat.cast_ne_zero.mpr (Nat.pos_iff_ne_zero.mp (Nat.two_pow_pos _))
    push_cast at this ⊢
    field_simp
  have finite : ¬power 2 1024 ≤ |(n : ℚ)| := by
    rw [not_le, abs_of_nonneg (Nat.cast_nonneg n)]
    refine Nat.cast_lt.mpr (lt_trans small ?_)
    exact Nat.pow_lt_pow_right Nat.one_lt_two (show 53 < 1024 by decide)
  have nonzero : (n : ℚ) ≠ 0 := Nat.cast_ne_zero.mpr zero
  simp only [toDouble, nonzero, if_false, unit, power_two_sub places, shifted, nearestEven_intCast,
    back, finite]

theorem ascii_of_isDigit {c : Char} (isDigit : c.isDigit = true) : c.toNat < 128 := by
  simp only [Char.isDigit, Bool.and_eq_true, decide_eq_true_eq, UInt32.le_iff_toNat_le] at isDigit
  have := isDigit.2
  change c.toNat ≤ 57 at this
  omega

/-- What holds of the ten digits holds of every digit. -/
theorem forall_digit {P : Char → Prop}
    (each : ∀ n < 128, (ofNat n).isDigit = true → P (ofNat n)) {c : Char}
    (isDigit : c.isDigit = true) : P c := by
  have ascii := forall_ascii (P := fun c => c.isDigit = true → P c) each c (ascii_of_isDigit isDigit)
  exact ascii isDigit

variable {digits : List Char}

section

variable (all : digits.all isDigit = true)

include all

theorem trim_digits : (trim (String.ofList digits)).toList = digits := by
  have noSpace : ∀ c ∈ digits, isSpace c = false := by
    intro c mem
    exact forall_digit (P := fun c => isSpace c = false) (by decide)
      (all_eq_true.mp all c mem)
  have stop : ∀ text : List Char, (∀ c ∈ text, isSpace c = false) →
      text.dropWhile isSpace = text := by
    intro text none_
    cases text with
    | nil => rfl
    | cons c rest => rw [dropWhile_cons, if_neg (by simp [none_ c mem_cons_self])]
  rw [trim, String.toList_ofList, String.toList_ofList, stop digits noSpace,
    stop digits.reverse fun c mem => noSpace c (mem_reverse.mp mem), reverse_reverse]

theorem takeWhile_digits : digits.takeWhile isDigit = digits ∧ digits.dropWhile isDigit = [] := by
  induction digits with
  | nil => exact ⟨rfl, rfl⟩
  | cons c rest ih =>
    rw [all_cons, Bool.and_eq_true] at all
    rw [takeWhile_cons, dropWhile_cons, if_pos all.1, if_pos all.1, (ih all.2).1]
    exact ⟨rfl, (ih all.2).2⟩

theorem unsignedNumber_digits (small : value 10 digits < 2 ^ 53) :
    unsignedNumber digits = .finite (value 10 digits) := by
  have notInfinity : digits ≠ infinity := by
    rintro rfl
    revert all
    decide
  have v : decimalValue digits = (value 10 digits : Nat) := by
    simp [decimalValue, takeWhile_digits all, exponentOf, power]
  rw [unsignedNumber, if_neg notInfinity, v, toDouble_natCast small]

theorem isDecimal_digits (some_ : digits ≠ []) : isDecimal digits = true := by
  simp [isDecimal, takeWhile_digits all, isExponent, some_]

theorem numberOfText_digits (some_ : digits ≠ []) (small : value 10 digits < 2 ^ 53) :
    numberOfText (String.ofList digits) = .finite (value 10 digits) := by
  have decimal := isDecimal_digits all some_
  have number := unsignedNumber_digits all small
  have trimmed := trim_digits all
  have plain : ∀ c ∈ digits, c ∉ "+-xXoObB".toList := by
    intro c mem
    exact forall_digit (P := fun c => c ∉ "+-xXoObB".toList) (by decide)
      (all_eq_true.mp all c mem)
  have isNumber : isNumber (String.ofList digits) = true := by
    unfold isNumber
    rw [trimmed]
    split
    · rfl
    · exact absurd (by decide) (plain _ mem_cons_self)
    · exact absurd (by decide) (plain _ mem_cons_self)
    · have second := plain _ (.tail _ mem_cons_self)
      split <;> first | exact absurd (by decide) second | simp [decimal]
    · simp [decimal]
  rw [numberOfText, isNumber, trimmed]
  simp only [Bool.not_true, Bool.false_eq_true, if_false]
  split
  · exact absurd rfl some_
  · exact absurd (by decide) (plain _ mem_cons_self)
  · exact absurd (by decide) (plain _ mem_cons_self)
  · have second := plain _ (.tail _ mem_cons_self)
    split <;> first | exact absurd (by decide) second | exact number
  · exact number

end

end Js
