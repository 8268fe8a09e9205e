import Mathlib.Data.Nat.Digits.Defs
import Mathlib.Data.Nat.Digits.Lemmas
import Mathlib.Data.Nat.Bitwise
import Idenplane.Lib.Text

/-! # Numerals and address blocks

Numbers written in a base up to sixteen, and blocks of numbers that agree in their leading
bits.
-/

namespace Numerals

open List Text Nat

def value (base : Nat) (text : List Char) : Nat :=
  text.foldl (fun v c => base * v + (Text.hexDigit c).getD 0) 0

def numeral (base n : Nat) : List Char :=
  if n = 0 then ['0'] else (Nat.digits base n).reverse.map Nat.digitChar

theorem hexDigit_digitChar {d : Nat} (small : d < 16) : hexDigit (digitChar d) = some d := by
  interval_cases d <;> rfl

theorem foldl_value (base : Nat) (ds : List Nat) (small : ∀ d ∈ ds, d < 16) :
    (ds.reverse.map digitChar).foldl
      (fun v c => base * v + (hexDigit c).getD 0) 0 = ofDigits base ds := by
  induction ds with
  | nil => rfl
  | cons d ds ih =>
    have rest := ih fun e mem => small e (.tail _ mem)
    have digit := hexDigit_digitChar (small d mem_cons_self)
    simp only [reverse_cons, map_append, map_cons, map_nil,
      foldl_append, foldl_cons, foldl_nil, rest, digit, Option.getD_some,
      ofDigits_cons]
    omega

theorem value_numeral {base : Nat} (atLeast : 2 ≤ base) (atMost : base ≤ 16) (n : Nat) :
    value base (numeral base n) = n := by
  unfold value numeral
  by_cases zero : n = 0
  · subst zero
    rfl
  · rw [if_neg zero, foldl_value, ofDigits_digits]
    intro d mem
    have := digits_lt_base atLeast mem
    omega

theorem numeral_length {base k n : Nat} (atLeast : 2 ≤ base) (positive : 0 < k)
    (small : n < base ^ k) : 1 ≤ (numeral base n).length ∧ (numeral base n).length ≤ k := by
  unfold numeral
  by_cases zero : n = 0
  · simp [zero]
    omega
  · rw [if_neg zero, length_map, length_reverse]
    constructor
    · exact length_pos_of_ne_nil (digits_ne_nil_iff_ne_zero.mpr zero)
    · exact (digits_length_le_iff (by omega) n).mpr small

theorem mem_numeral {base n : Nat} (atLeast : 2 ≤ base) (atMost : base ≤ 16) {c : Char}
    (mem : c ∈ numeral base n) : ∃ d, d < base ∧ c = digitChar d := by
  unfold numeral at mem
  by_cases zero : n = 0
  · rw [if_pos zero, mem_singleton] at mem
    exact ⟨0, by omega, mem⟩
  · rw [if_neg zero, mem_map] at mem
    obtain ⟨d, isDigit, rfl⟩ := mem
    exact ⟨d, digits_lt_base atLeast (mem_reverse.mp isDigit), rfl⟩

theorem hexDigit_lt {c : Char} {d : Nat} (isDigit : hexDigit c = some d) : d < 16 := by
  have upTo : ∀ {c e : Char}, c ≤ e → c.toNat ≤ e.toNat := fun le => UInt32.le_iff_toNat_le.mp le
  unfold hexDigit at isDigit
  split at isDigit
  · rename_i range
    have := upTo range.2
    simp at isDigit this
    omega
  · split at isDigit
    · rename_i range
      have := upTo range.2
      simp at isDigit this
      omega
    · split at isDigit
      · rename_i range
        have := upTo range.2
        simp at isDigit this
        omega
      · cases isDigit

theorem value_lt (text : List Char) : value 16 text < 16 ^ text.length := by
  have digit : ∀ c, (hexDigit c).getD 0 < 16 := by
    intro c
    cases isDigit : hexDigit c with
    | none => simp
    | some d => exact hexDigit_lt isDigit
  unfold value
  induction text using reverseRecOn with
  | nil => simp
  | append_singleton text c ih =>
    rw [foldl_append, foldl_cons, foldl_nil, length_append, length_singleton, pow_succ]
    have := digit c
    omega

def InBlock (width network prefixLength n : Nat) : Prop :=
  n / 2 ^ (width - prefixLength) = network / 2 ^ (width - prefixLength)

instance (width network prefixLength n : Nat) : Decidable (InBlock width network prefixLength n) :=
  inferInstanceAs (Decidable (_ = _))

def mask (width prefixLength : Nat) : Nat :=
  ((2 ^ width - 1) <<< (width - prefixLength)) &&& (2 ^ width - 1)

theorem testBit_mask (width len i : Nat) :
    (mask width len).testBit i = (decide (width - len ≤ i) && decide (i < width)) := by
  rw [mask, testBit_and, testBit_shiftLeft, testBit_two_pow_sub_one, testBit_two_pow_sub_one]
  by_cases low : width - len ≤ i <;> by_cases high : i < width <;> simp [low, high]
  omega

/-- The number with its low bits cleared. -/
def leading (width prefixLength n : Nat) : Nat :=
  n / 2 ^ (width - prefixLength) * 2 ^ (width - prefixLength)

theorem leading_le (width len n : Nat) : leading width len n ≤ n := div_mul_le_self n _

theorem leading_self (width n : Nat) : leading width width n = n := by simp [leading]

theorem and_mask {width len n : Nat} (small : n < 2 ^ width) :
    n &&& mask width len = leading width len n := by
  rw [leading, ← shiftRight_eq_div_pow, ← shiftLeft_eq]
  apply eq_of_testBit_eq
  intro i
  rw [testBit_and, testBit_mask, testBit_shiftLeft, testBit_shiftRight]
  by_cases low : width - len ≤ i
  · rw [Nat.add_sub_cancel' low]
    by_cases high : i < width
    · simp [low, high]
    · have out : 2 ^ width ≤ 2 ^ i := Nat.pow_le_pow_right (by omega) (by omega)
      simp [testBit_lt_two_pow (lt_of_lt_of_le small out)]
  · simp [low]

theorem and_mask_eq_iff {width len n net : Nat} (small : n < 2 ^ width)
    (smallNetwork : net < 2 ^ width) :
    n &&& mask width len = net &&& mask width len ↔
      InBlock width net len n := by
  have positive : 0 < 2 ^ (width - len) := Nat.pow_pos (by decide)
  rw [and_mask small, and_mask smallNetwork, leading, leading, InBlock]
  exact ⟨Nat.eq_of_mul_eq_mul_right positive, congrArg (· * _)⟩

end Numerals
