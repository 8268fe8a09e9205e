import Mathlib.Data.List.Basic

/-! # Base64

Bytes as groups of six bits.  Decoding undoes encoding; it skips what is not in the alphabet and
reads the alphabet for URLs too. -/

namespace Base64

open List UInt8

def alphabet : List Char :=
  "ABCDEFGHIJKLMNOPQRSTUVWXYZabcdefghijklmnopqrstuvwxyz0123456789+/".toList

def digit (n : Nat) : Char := alphabet.getD n 'A'

def value (c : Char) : Option Nat :=
  if c = '-' then some 62 else if c = '_' then some 63 else alphabet.findIdx? (· = c)

/-- The groups of six bits, the last of them filled up with zeros. -/
def sextets : List UInt8 → List Nat
  | a :: b :: c :: rest =>
    a.toNat / 4 :: (a.toNat % 4 * 16 + b.toNat / 16) :: (b.toNat % 16 * 4 + c.toNat / 64) ::
      c.toNat % 64 :: sextets rest
  | [a, b] => [a.toNat / 4, a.toNat % 4 * 16 + b.toNat / 16, b.toNat % 16 * 4]
  | [a] => [a.toNat / 4, a.toNat % 4 * 16]
  | [] => []

def padding (length : Nat) : List Char := List.replicate ((3 - length % 3) % 3) '='

def encode (bytes : List UInt8) : List Char :=
  (sextets bytes).map digit ++ padding bytes.length

def ofSextets : List Nat → List UInt8
  | a :: b :: c :: d :: rest =>
    ofNat (a * 4 + b / 16) :: ofNat (b % 16 * 16 + c / 4) ::
      ofNat (c % 4 * 64 + d) :: ofSextets rest
  | [a, b, c] => [ofNat (a * 4 + b / 16), ofNat (b % 16 * 16 + c / 4)]
  | [a, b] => [ofNat (a * 4 + b / 16)]
  | _ => []

def decode (text : List Char) : List UInt8 :=
  ofSextets ((text.takeWhile (· ≠ '=')).filterMap value)

variable {n : Nat}

theorem sextets_lt {bytes : List UInt8} (mem : n ∈ sextets bytes) : n < 64 := by
  fun_induction sextets bytes with
  | case1 a b c rest ih =>
    have smallA := a.toNat_lt
    have smallB := b.toNat_lt
    have smallC := c.toNat_lt
    simp only [mem_cons] at mem
    rcases mem with rfl | rfl | rfl | rfl | later
    · omega
    · omega
    · omega
    · omega
    · exact ih later
  | case2 a b =>
    have smallA := a.toNat_lt
    have smallB := b.toNat_lt
    simp only [mem_cons, not_mem_nil, or_false] at mem
    omega
  | case3 a =>
    have smallA := a.toNat_lt
    simp only [mem_cons, not_mem_nil, or_false] at mem
    omega
  | case4 => simp at mem

theorem ofNat_eq {a : UInt8} (same : n = a.toNat) : ofNat n = a := by
  rw [same, UInt8.ofNat_toNat]

theorem ofSextets_sextets (bytes : List UInt8) : ofSextets (sextets bytes) = bytes := by
  fun_induction sextets bytes with
  | case1 a b c rest ih =>
    have smallB := b.toNat_lt
    have smallC := c.toNat_lt
    rw [ofSextets, ih, ofNat_eq (a := a) (by omega), ofNat_eq (a := b) (by omega),
      ofNat_eq (a := c) (by omega)]
  | case2 a b =>
    have smallB := b.toNat_lt
    rw [ofSextets, ofNat_eq (a := a) (by omega), ofNat_eq (a := b) (by omega)]
  | case3 a =>
    rw [ofSextets, ofNat_eq (a := a) (by omega)]
  | case4 => rfl

theorem value_digit (small : n < 64) : value (digit n) = some n := by
  have each : ∀ n < 64, value (digit n) = some n := by decide +kernel
  exact each n small

theorem digit_ne (small : n < 64) : digit n ≠ '=' := by
  have each : ∀ n < 64, digit n ≠ '=' := by decide +kernel
  exact each n small

theorem takeWhile_padding (len : Nat) : (padding len).takeWhile (· ≠ '=') = [] := by
  unfold padding
  cases (3 - len % 3) % 3 with
  | zero => rfl
  | succ n => simp [replicate_succ]

theorem decode_encode (bytes : List UInt8) : decode (encode bytes) = bytes := by
  have digits : ∀ c ∈ (sextets bytes).map digit, decide (c ≠ '=') = true := by
    intro c mem
    obtain ⟨n, isSextet, rfl⟩ := mem_map.mp mem
    exact decide_eq_true (digit_ne (sextets_lt isSextet))
  have values : ((sextets bytes).map digit).filterMap value = sextets bytes := by
    rw [filterMap_map]
    conv => rhs; rw [← filterMap_some (l := sextets bytes)]
    apply filterMap_congr
    intro n isSextet
    exact value_digit (sextets_lt isSextet)
  unfold decode encode
  rw [takeWhile_append_of_pos digits, takeWhile_padding, append_nil, values, ofSextets_sextets]

end Base64
