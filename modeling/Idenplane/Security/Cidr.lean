import Idenplane.Lib.Doubles
import Idenplane.Authorization.Conditions
import Idenplane.Security.Classifier

/-! # Matching an address with a block

Three services match an address with a block by hand: the policy engine
(`Authorization.ipInCidr`), the list of trusted proxies and the ranges of a certificate or an
API key.  They read the parts of an address differently, and agree on well-formed texts.
-/

namespace Idenplane.Security

open Numerals Text String
open Authorization (parseDecimal)

variable {rt : Js.Runtime} {part : List Char} {a b c d n : Nat} {ip cidr : String}

def prefixMask (prefixLength : Nat) : BitVec 32 :=
  if prefixLength = 0 then 0 else (~~~(0 : BitVec 32)) <<< (32 - prefixLength)

/-- What `parseInt` reads as a number up to 255. -/
def decimalOctet (part : List Char) : Option Nat :=
  match parseDecimal part with
  | none => none
  | some octet => if octet < 0 || octet > 255 then none else some octet.toNat

namespace TrustedProxies

/-- The loop of `parseCidr`. -/
def readBase : List (List Char) → BitVec 32 → Option (BitVec 32)
  | [], base => some base
  | part :: rest, base =>
    match decimalOctet part with
    | none => none
    | some octet => readBase rest ((base <<< 8) ||| BitVec.ofNat 32 octet)

structure Block where
  (base mask : BitVec 32)

def readPrefixLen (pieces : List (List Char)) : Option Int :=
  match pieces.tail.head? with
  | some digits => parseDecimal digits
  | none => some 32

def parseCidr (cidr : String) : Option Block := do
  let pieces := split '/' cidr.toList
  let parts := split '.' (pieces.headD [])
  if parts.length ≠ 4 then none
  else
    let base ← readBase parts 0
    let prefixLen ← readPrefixLen pieces
    if prefixLen < 0 || prefixLen > 32 then none
    else
      let mask := prefixMask prefixLen.toNat
      some { base := base &&& mask, mask := mask }

def ipInCidr (ip cidr : String) : Bool :=
  match parseCidr cidr, parseCidr ip with
  | some range, some host => host.base &&& range.mask = range.base
  | _, _ => false

end TrustedProxies

def octetsInPlace (a b c d : Nat) : BitVec 32 :=
  (BitVec.ofNat 32 a <<< 24) ||| (BitVec.ofNat 32 b <<< 16) ||| (BitVec.ofNat 32 c <<< 8) |||
    BitVec.ofNat 32 d

/-- The same code matches the ranges of certificates and of API keys. -/
def ipMatchesRange (ip range : String) : Bool :=
  if '/' ∉ range.toList then ip = range
  else
    let pieces := split '/' range.toList
    let addr := pieces.headD []
    match parseDecimal (pieces.tail.headD []) with
    | none => false
    | some prefixLen =>
      if addr.isEmpty || prefixLen < 0 || prefixLen > 32 then false
      else
        let ipParts := split '.' ip.toList
        let rangeParts := split '.' addr
        if ipParts.length ≠ 4 || rangeParts.length ≠ 4 then false
        else
          match ipParts.map decimalOctet, rangeParts.map decimalOctet with
          | [some a, some b, some c, some d], [some e, some f, some g, some h] =>
            let mask := prefixMask prefixLen.toNat
            octetsInPlace a b c d &&& mask = octetsInPlace e f g h &&& mask
          | _, _ => false

variable {digits : List Char}

section Reading

variable {read : List Char → Option Nat} {addr : List Char} {n : Nat}

/-- Four parts with dots between them, each read as a number up to 255, and their value. -/
def ReadAs (read : List Char → Option Nat) (address : List Char) (n : Nat) : Prop :=
  ∃ a b c d, (split '.' address).map read = [some a, some b, some c, some d] ∧
    (a ≤ 255 ∧ b ≤ 255 ∧ c ≤ 255 ∧ d ≤ 255) ∧ n = ipv4 a b c d

theorem ReadAs.lt (reads : ReadAs read addr n) : n < 2 ^ 32 := by
  obtain ⟨a, b, c, d, -, small, rfl⟩ := reads
  unfold ipv4
  omega

theorem ReadAs.unique {m : Nat} (reads : ReadAs read addr n) (also : ReadAs read addr m) :
    n = m := by
  obtain ⟨a, b, c, d, parts, -, rfl⟩ := reads
  obtain ⟨a', b', c', d', parts', -, rfl⟩ := also
  rw [parts] at parts'
  obtain ⟨rfl, rfl, rfl, rfl⟩ := parts'
  rfl

theorem Quad.split_text (q : Quad) :
    split '.' q.text = [q.a.text, q.b.text, q.c.text, q.d.text] := by
  rw [Quad.text, split_append (q.a.not_mem rfl), split_append (q.b.not_mem rfl),
    split_append (q.c.not_mem rfl), split_of_not_mem (q.d.not_mem rfl)]

/-- A reader that is right about octets is right about dotted quads. -/
theorem readAs_quad (octets : ∀ o : Octet, read o.text = some o.value) (q : Quad) :
    ReadAs read q.text q.value := by
  refine ⟨q.a.value, q.b.value, q.c.value, q.d.value, ?_,
    ⟨q.a.small, q.b.small, q.c.small, q.d.small⟩, rfl⟩
  simp [Quad.split_text, octets]

theorem Octet.all_isDigit (o : Octet) : o.text.all Char.isDigit = true := by
  have ok := o.isOctet
  simp only [isOctetText, and_eq_true] at ok
  exact ok.1.1

theorem Octet.text_ne_nil (o : Octet) : o.text ≠ [] := by
  have ok := o.isOctet
  rintro empty
  simp [isOctetText, empty] at ok

theorem value_eq_foldl (all : digits.all Char.isDigit = true) : (value 10 digits : Int) =
      digits.foldl (fun n c => 10 * n + ((c.toNat : Int) - ('0'.toNat : Int))) 0 := by
  have digit : ∀ c ∈ digits, ((Text.hexDigit c).getD 0 : Int) = (c.toNat : Int) - ('0'.toNat : Int) := by
    intro c mem
    exact Js.forall_digit (P := fun c => ((Text.hexDigit c).getD 0 : Int) =
      (c.toNat : Int) - ('0'.toNat : Int)) (by decide) (all_eq_true.mp all c mem)
  unfold value
  clear all
  induction digits using List.reverseRecOn with
  | nil => rfl
  | append_singleton rest c ih =>
    have before := ih fun d mem => digit d (mem_append_left _ mem)
    have last := digit c (mem_append_right _ mem_cons_self)
    simp only [foldl_append, foldl_cons, foldl_nil]
    rw [← before, ← last]
    push_cast
    rfl

theorem parseDecimal_digits (all : digits.all Char.isDigit = true)
    (some_ : digits ≠ []) : parseDecimal digits = some (value 10 digits : Int) := by
  have plain : ∀ c ∈ digits, isSpace c = false ∧ c ≠ '+' ∧ c ≠ '-' := by
    intro c mem
    exact Js.forall_digit (P := fun c => isSpace c = false ∧ c ≠ '+' ∧ c ≠ '-') (by decide)
      (all_eq_true.mp all c mem)
  obtain ⟨c, rest, rfl⟩ := exists_cons_of_ne_nil some_
  obtain ⟨noSpace, noPlus, noMinus⟩ := plain c mem_cons_self
  have trimmed : (c :: rest).dropWhile isSpace = c :: rest := by
    rw [List.dropWhile_cons, if_neg (by simp [noSpace])]
  have unsigned : ((c :: rest).head? = some '-') = False := by simp [noMinus]
  simp only [parseDecimal, trimmed, unsigned, if_false]
  split
  · rename_i same
    exact absurd (cons.inj same).1 noPlus
  · rename_i same
    exact absurd (cons.inj same).1 noMinus
  · rw [(Js.takeWhile_digits all).1, value_eq_foldl all]
    rfl

theorem decimalOctet_text (o : Octet) : decimalOctet o.text = some o.value := by
  have small := o.small
  rw [decimalOctet, parseDecimal_digits o.all_isDigit o.text_ne_nil]
  simp [Octet.value, small]

theorem octet_text (rt : Js.Runtime) (o : Octet) :
    Authorization.octet rt.standard o.text = some o.value := by
  have small := o.small
  have number := Js.numberOfText_digits o.all_isDigit o.text_ne_nil
    (lt_of_le_of_lt small (by norm_num))
  have inRange : (0 : ℚ) ≤ (value 10 o.text : Nat) ∧ ((value 10 o.text : Nat) : ℚ) ≤ 255 :=
    ⟨Nat.cast_nonneg _, by exact_mod_cast small⟩
  simp only [Authorization.octet, Js.Runtime.standard_numberOfText, number, inRange, Octet.value]
  simp

theorem octet_le (reads : Authorization.octet rt part = some a) : a ≤ 255 := by
  unfold Authorization.octet at reads
  split at reads
  · split at reads
    · rename_i n _ inRange
      have below : ⌊n⌋ ≤ 255 := Int.floor_le_iff.mpr (by push_cast; linarith [inRange.2])
      cases reads
      omega
    · cases reads
  · cases reads

theorem decimalOctet_le (reads : decimalOctet part = some a) : a ≤ 255 := by
  unfold decimalOctet at reads
  split at reads
  · cases reads
  · split at reads
    · cases reads
    · rename_i inRange
      simp at inRange reads
      omega

theorem octets_le (octets : ∀ part a, read part = some a → a ≤ 255)
    (parts : (split '.' addr).map read = [some a, some b, some c, some d]) :
    a ≤ 255 ∧ b ≤ 255 ∧ c ≤ 255 ∧ d ≤ 255 := by
  have small : ∀ n, some n ∈ [some a, some b, some c, some d] → n ≤ 255 := by
    intro n mem
    rw [← parts, mem_map] at mem
    obtain ⟨part, -, reads⟩ := mem
    exact octets part n reads
  exact ⟨small a (by simp), small b (by simp), small c (by simp), small d (by simp)⟩

theorem readAs_of_parts (octets : ∀ part a, read part = some a → a ≤ 255)
    (parts : (split '.' addr).map read = [some a, some b, some c, some d]) :
    ReadAs read addr (ipv4 a b c d) :=
  ⟨a, b, c, d, parts, octets_le octets parts, rfl⟩

theorem four_of_length {α : Type} {xs : List α} (four : xs.length = 4) :
    ∃ w x y z, xs = [w, x, y, z] := by
  match xs, four with
  | [w, x, y, z], _ => exact ⟨w, x, y, z, rfl⟩

theorem ReadAs.length (reads : ReadAs read addr n) : (split '.' addr).length = 4 := by
  obtain ⟨a, b, c, d, parts, -⟩ := reads
  simpa using congrArg List.length parts

theorem ipToInt_iff : Authorization.ipToInt rt addr = some n ↔
      ReadAs (Authorization.octet rt) addr n := by
  unfold Authorization.ipToInt
  by_cases four : (split '.' addr).length = 4
  · obtain ⟨w, x, y, z, parts⟩ := four_of_length four
    have v : ∀ a b c d : Nat, [a, b, c, d].foldl (fun v octet => 256 * v + octet) 0 =
        ipv4 a b c d := by
      simp only [foldl_cons, foldl_nil, ipv4]
      omega
    simp only [parts, length_cons, List.length_nil, ne_eq, not_true_eq_false, if_false,
      List.mapM_cons, List.mapM_nil, Option.pure_def, bind_eq_bind]
    constructor
    · intro res
      cases first : Authorization.octet rt w with
      | none => simp [first] at res
      | some a =>
      cases snd : Authorization.octet rt x with
      | none => simp [first, snd] at res
      | some b =>
      cases third : Authorization.octet rt y with
      | none => simp [first, snd, third] at res
      | some c =>
      cases fourth : Authorization.octet rt z with
      | none => simp [first, snd, third, fourth] at res
      | some d =>
      simp only [first, snd, third, fourth, bind_some, some.injEq, v] at res
      rw [← res]
      exact readAs_of_parts (fun _ _ => octet_le) (by simp [parts, first, snd, third, fourth])
    · rintro ⟨a, b, c, d, reads, -, rfl⟩
      simp only [parts, map_cons, List.map_nil, cons.injEq, and_true] at reads
      obtain ⟨first, snd, third, fourth⟩ := reads
      simp only [first, snd, third, fourth, bind_some, v]
  · simp only [ne_eq, four, not_false_eq_true, if_true]
    constructor
    · intro no
      cases no
    · intro reads
      exact absurd reads.length four

open TrustedProxies

theorem readBase_cons {rest : List (List Char)} (small : n < 2 ^ 24) :
    readBase (part :: rest) (BitVec.ofNat 32 n) =
      (decimalOctet part).bind fun a => readBase rest (BitVec.ofNat 32 (n * 256 + a)) := by
  rw [readBase]
  cases reads : decimalOctet part with
  | none => rfl
  | some a => rw [bind_some, ← shiftLeft_or small (decimalOctet_le reads)]

theorem readBase_iff {base : BitVec 32} (four : (split '.' addr).length = 4) :
    readBase (split '.' addr) 0 = some base ↔
      ∃ n, ReadAs decimalOctet addr n ∧ base = BitVec.ofNat 32 n := by
  obtain ⟨w, x, y, z, parts⟩ := four_of_length four
  have four : ∀ a b c d : Nat, ipv4 a b c d = (((0 * 256 + a) * 256 + b) * 256 + c) * 256 + d := by
    simp [ipv4]
  rw [parts, show (0 : BitVec 32) = BitVec.ofNat 32 0 from rfl, readBase_cons (by omega)]
  constructor
  · intro res
    obtain ⟨a, first, res⟩ := bind_eq_some_iff.mp res
    have := decimalOctet_le first
    rw [readBase_cons (by omega)] at res
    obtain ⟨b, snd, res⟩ := bind_eq_some_iff.mp res
    have := decimalOctet_le snd
    rw [readBase_cons (by omega)] at res
    obtain ⟨c, third, res⟩ := bind_eq_some_iff.mp res
    have := decimalOctet_le third
    rw [readBase_cons (by omega)] at res
    obtain ⟨d, fourth, res⟩ := bind_eq_some_iff.mp res
    refine ⟨ipv4 a b c d, readAs_of_parts (fun _ _ => decimalOctet_le)
      (by simp [parts, first, snd, third, fourth]), ?_⟩
    rw [readBase, ← four] at res
    exact (some.inj res).symm
  · rintro ⟨_, ⟨a, b, c, d, reads, small, rfl⟩, rfl⟩
    simp only [parts, map_cons, List.map_nil, cons.injEq, and_true] at reads
    obtain ⟨first, snd, third, fourth⟩ := reads
    rw [first, bind_some, readBase_cons (by omega), snd, bind_some,
      readBase_cons (by omega), third, bind_some, readBase_cons (by omega), fourth,
      bind_some, readBase, ← four]

end Reading

section Matching

open TrustedProxies

/-- The address and the block are read, and agree in as many bits as the length says. -/
def Matches (read : List Char → Option Nat) (address network digits : List Char) : Prop :=
  ∃ n base prefixLength : Nat, ReadAs read address n ∧ ReadAs read network base ∧
    parseDecimal digits = some (prefixLength : Int) ∧ prefixLength ≤ 32 ∧
    InBlock 32 base prefixLength n

theorem prefixMask_toNat {prefixLength : Nat} (atMost : prefixLength ≤ 32) :
    (prefixMask prefixLength).toNat = mask 32 prefixLength := toNat_mask32 atMost

theorem and_prefixMask_iff {n base len : Nat} (small : n < 2 ^ 32)
    (smallBase : base < 2 ^ 32) (atMost : len ≤ 32) :
    BitVec.ofNat 32 n &&& prefixMask len = BitVec.ofNat 32 base &&& prefixMask len ↔
      InBlock 32 base len n := by
  rw [← BitVec.toNat_inj, toNat_and, toNat_and, prefixMask_toNat atMost,
    toNat_ofNat, toNat_ofNat, mod_eq_of_lt small, mod_eq_of_lt smallBase,
    and_mask_eq_iff small smallBase]

theorem ReadAs.isEmpty {read : List Char → Option Nat} {addr : List Char}
    (reads : ReadAs read addr n) : addr.isEmpty = false := by
  cases addr with
  | nil => cases reads.length
  | cons c rest => rfl

theorem isEmpty_of_parseDecimal {n : Int}
    (reads : parseDecimal digits = some n) : digits.isEmpty = false := by
  cases digits with
  | nil => cases reads
  | cons c rest => rfl

theorem exists_prefixLength {bits : Int} (atLeast : ¬(decide (bits < 0) || decide (bits > 32)) = true) :
    ∃ len : Nat, bits = len ∧ len ≤ 32 := by
  simp only [or_eq_true, decide_eq_true_eq, not_or, not_lt] at atLeast
  exact ⟨bits.toNat, by omega, by omega⟩

theorem not_outside {len : Nat} (atMost : len ≤ 32) :
    (decide ((len : Int) < 0) || decide ((len : Int) > 32)) = false := by
  simp
  omega

theorem policy_mask {prefixLength : Nat} (atMost : prefixLength ≤ 32) :
    (if (prefixLength : Int) = 0 then 0 else 2 ^ 32 - 2 ^ (32 - (prefixLength : Int).toNat)) =
      mask 32 prefixLength := by
  interval_cases prefixLength <;> rfl

theorem policyEngine_iff : Authorization.ipInCidr rt ip cidr = true ↔
      ∃ net digits rest, split '/' cidr.toList = net :: digits :: rest ∧
        Matches (Authorization.octet rt) ip.toList net digits := by
  unfold Authorization.ipInCidr
  constructor
  · intro ok
    split at ok
    · rename_i net digits rest pieces
      refine ⟨net, digits, rest, pieces, ?_⟩
      split at ok
      · cases ok
      split at ok
      · cases ok
      · rename_i bits reads
        split at ok
        · cases ok
        rename_i inRange
        obtain ⟨len, rfl, atMost⟩ := exists_prefixLength inRange
        split at ok
        · rename_i n base readsIp readsNetwork
          rw [ipToInt_iff] at readsIp readsNetwork
          rw [decide_eq_true_eq] at ok
          rw [policy_mask atMost, and_mask_eq_iff readsIp.lt readsNetwork.lt] at ok
          exact ⟨n, base, len, readsIp, readsNetwork, reads, atMost, ok⟩
        · cases ok
    · cases ok
  · rintro ⟨net, digits, rest, pieces, n, base, len, readsIp, readsNetwork, reads, atMost, same⟩
    have smallIp := readsIp.lt
    have smallNetwork := readsNetwork.lt
    have someNetwork := readsNetwork.isEmpty
    rw [← ipToInt_iff] at readsIp readsNetwork
    simp only [pieces, someNetwork, isEmpty_of_parseDecimal reads, reads, not_outside atMost, readsIp,
      readsNetwork, policy_mask atMost, Bool.or_self, false_eq_true, if_false, decide_eq_true_eq]
    exact (and_mask_eq_iff smallIp smallNetwork).mpr same

theorem octetsInPlace_eq (small : a ≤ 255 ∧ b ≤ 255 ∧ c ≤ 255 ∧ d ≤ 255) :
    octetsInPlace a b c d = BitVec.ofNat 32 (ipv4 a b c d) := by
  obtain ⟨smallA, smallB, smallC, smallD⟩ := small
  rw [ipv4, ← shiftLeft_or (by omega) smallD, ← shiftLeft_or (by omega) smallC,
    ← shiftLeft_or (by omega) smallB, octetsInPlace, BitVec.shiftLeft_or_distrib,
    BitVec.shiftLeft_or_distrib, BitVec.shiftLeft_or_distrib, ← BitVec.shiftLeft_add,
    ← BitVec.shiftLeft_add, ← BitVec.shiftLeft_add]

theorem ipMatchesRange_iff {ip range : String} : ipMatchesRange ip range = true ↔
      ('/' ∉ range.toList ∧ ip = range) ∨
        ∃ net digits rest, split '/' range.toList = net :: digits :: rest ∧
          Matches decimalOctet ip.toList net digits := by
  unfold ipMatchesRange
  by_cases present : '/' ∈ range.toList
  · obtain ⟨net, digits, rest, pieces⟩ := exists_split_of_mem present
    simp only [present, not_true_eq_false, if_false, pieces, List.headD_cons, List.tail_cons,
      false_and, false_or]
    constructor
    · intro ok
      refine ⟨net, digits, rest, rfl, ?_⟩
      split at ok
      · cases ok
      rename_i bits reads
      split at ok
      · cases ok
      rename_i inRange
      rw [Bool.or_assoc, or_eq_true, not_or] at inRange
      obtain ⟨len, rfl, atMost⟩ := exists_prefixLength inRange.2
      split at ok
      · cases ok
      split at ok
      · rename_i a b c d e f g h readsIp readsNetwork
        have ipRead := readAs_of_parts (fun _ _ => decimalOctet_le) readsIp
        have networkRead := readAs_of_parts (fun _ _ => decimalOctet_le) readsNetwork
        rw [decide_eq_true_eq, octetsInPlace_eq (octets_le (fun _ _ => decimalOctet_le) readsIp),
          octetsInPlace_eq (octets_le (fun _ _ => decimalOctet_le) readsNetwork), Int.toNat_natCast,
          and_prefixMask_iff ipRead.lt networkRead.lt atMost] at ok
        exact ⟨_, _, len, ipRead, networkRead, reads, atMost, ok⟩
      · cases ok
    · rintro ⟨net', digits', rest', same, n, base, len, readsIp, readsNetwork, reads,
        atMost, inBlock⟩
      obtain ⟨rfl, rfl, rfl⟩ : net = net' ∧ digits = digits' ∧ rest = rest' := by
        simpa using same
      rw [← and_prefixMask_iff readsIp.lt readsNetwork.lt atMost] at inBlock
      have someNetwork := readsNetwork.isEmpty
      have fourIp := readsIp.length
      have fourNetwork := readsNetwork.length
      obtain ⟨a, b, c, d, ipParts, ipSmall, rfl⟩ := readsIp
      obtain ⟨e, f, g, h, networkParts, networkSmall, rfl⟩ := readsNetwork
      rw [← octetsInPlace_eq ipSmall, ← octetsInPlace_eq networkSmall] at inBlock
      simp only [reads, someNetwork, Bool.false_or, not_outside atMost, false_eq_true, if_false,
        fourIp, fourNetwork, ne_eq, not_true_eq_false, decide_false, Bool.or_self, ipParts, networkParts,
        Int.toNat_natCast, inBlock, decide_true]
  · have single := split_of_not_mem present
    simp [present, single]

theorem parseCidr_iff {block : Block} : parseCidr cidr = some block ↔
      ∃ n len : Nat, ReadAs decimalOctet ((split '/' cidr.toList).headD []) n ∧
        readPrefixLen (split '/' cidr.toList) = some (len : Int) ∧ len ≤ 32 ∧
        block = { base := BitVec.ofNat 32 n &&& prefixMask len,
                  mask := prefixMask len } := by
  unfold parseCidr
  generalize split '/' cidr.toList = pieces
  by_cases four : (split '.' (pieces.headD [])).length = 4
  · simp only [ne_eq, four, not_true_eq_false, if_false, bind_eq_bind]
    constructor
    · intro res
      obtain ⟨base, readsBase, res⟩ := bind_eq_some_iff.mp res
      obtain ⟨bits, readsPrefix, res⟩ := bind_eq_some_iff.mp res
      obtain ⟨n, reads, rfl⟩ := (readBase_iff four).mp readsBase
      split at res
      · cases res
      · rename_i inRange
        obtain ⟨len, rfl, atMost⟩ := exists_prefixLength inRange
        exact ⟨n, len, reads, readsPrefix, atMost, (some.inj res).symm⟩
    · rintro ⟨n, len, reads, readsPrefix, atMost, rfl⟩
      have readsBase := (readBase_iff four).mpr ⟨n, reads, rfl⟩
      simp only [readsBase, readsPrefix, bind_some, not_outside atMost, false_eq_true,
        if_false, Int.toNat_natCast]
  · simp only [ne_eq, four, not_false_eq_true, if_true]
    constructor
    · intro no
      cases no
    · rintro ⟨n, len, reads, -⟩
      exact absurd reads.length four

/-- How the trusted proxies read a text: four parts that `parseInt` takes for numbers up to 255,
and the length between the first two slashes, 32 without a slash. -/
inductive TrustedProxies.Reads (text : String) (n : Nat) : Nat → Prop
  | host (plain : '/' ∉ text.toList) (address : ReadAs decimalOctet text.toList n) : Reads text n 32
  | block {net digits : List Char} {rest : List (List Char)} {len : Nat}
      (pieces : split '/' text.toList = net :: digits :: rest)
      (address : ReadAs decimalOctet net n) (length : parseDecimal digits = some (len : Int))
      (atMost : len ≤ 32) : Reads text n len

theorem reads_iff {text : String} {len : Nat} : Reads text n len ↔
      ReadAs decimalOctet ((split '/' text.toList).headD []) n ∧
        readPrefixLen (split '/' text.toList) = some (len : Int) ∧ len ≤ 32 := by
  constructor
  · intro reads
    cases reads with
    | host plain address =>
      rw [split_of_not_mem plain]
      exact ⟨address, rfl, le_rfl⟩
    | block pieces address length atMost =>
      rw [pieces]
      exact ⟨address, length, atMost⟩
  · rintro ⟨address, length, atMost⟩
    by_cases slash : '/' ∈ text.toList
    · obtain ⟨net, digits, rest, pieces⟩ := exists_split_of_mem slash
      rw [pieces] at address length
      exact .block pieces address length atMost
    · rw [split_of_not_mem slash] at address length
      obtain rfl : len = 32 := by
        have := some.inj length
        omega
      exact .host slash address

theorem ofNat_and_prefixMask {len : Nat} (small : n < 2 ^ 32) (atMost : len ≤ 32) :
    BitVec.ofNat 32 n &&& prefixMask len = BitVec.ofNat 32 (leading 32 len n) := by
  have stays := lt_of_le_of_lt (leading_le 32 len n) small
  rw [← BitVec.toNat_inj, toNat_and, prefixMask_toNat atMost, toNat_ofNat, toNat_ofNat,
    mod_eq_of_lt small, mod_eq_of_lt stays, and_mask small]

/-- The low bits of an address that is itself written with a length do not count. -/
theorem trustedProxies_iff : ipInCidr ip cidr = true ↔ ∃ n own base len : Nat,
      Reads ip n own ∧ Reads cidr base len ∧ InBlock 32 base len (leading 32 own n) := by
  constructor
  · intro ok
    unfold ipInCidr at ok
    split at ok
    · rename_i range host readsRange readsHost
      obtain ⟨base, len, readsBase, readsPrefix, atMost, rfl⟩ := parseCidr_iff.mp readsRange
      obtain ⟨n, own, readsIp, readsOwn, ownAtMost, rfl⟩ := parseCidr_iff.mp readsHost
      have stays := lt_of_le_of_lt (leading_le 32 own n) readsIp.lt
      rw [decide_eq_true_eq, ofNat_and_prefixMask readsIp.lt ownAtMost,
        and_prefixMask_iff stays readsBase.lt atMost] at ok
      exact ⟨n, own, base, len, reads_iff.mpr ⟨readsIp, readsOwn, ownAtMost⟩,
        reads_iff.mpr ⟨readsBase, readsPrefix, atMost⟩, ok⟩
    · cases ok
  · rintro ⟨n, own, base, len, readsIp, readsRange, inBlock⟩
    obtain ⟨address, ownLength, ownAtMost⟩ := reads_iff.mp readsIp
    obtain ⟨network, length, atMost⟩ := reads_iff.mp readsRange
    have readsHost := parseCidr_iff.mpr ⟨n, own, address, ownLength, ownAtMost, rfl⟩
    have readsCidr := parseCidr_iff.mpr ⟨base, len, network, length, atMost, rfl⟩
    have stays := lt_of_le_of_lt (leading_le 32 own n) address.lt
    rw [← and_prefixMask_iff stays network.lt atMost,
      ← ofNat_and_prefixMask address.lt ownAtMost] at inBlock
    simp only [ipInCidr, readsCidr, readsHost, inBlock, decide_true]

/-- Whatever the trusted proxies match is read, on both sides. -/
theorem readAs_of_ipInCidr (ok : ipInCidr ip cidr = true) :
    ∃ n base len : Nat, ReadAs decimalOctet ((split '/' ip.toList).headD []) n ∧
      ReadAs decimalOctet ((split '/' cidr.toList).headD []) base ∧
      readPrefixLen (split '/' cidr.toList) = some (len : Int) ∧ len ≤ 32 ∧
      ('/' ∉ ip.toList → InBlock 32 base len n) := by
  obtain ⟨n, own, base, len, readsIp, readsRange, inBlock⟩ := trustedProxies_iff.mp ok
  obtain ⟨network, length, atMost⟩ := reads_iff.mp readsRange
  refine ⟨n, base, len, (reads_iff.mp readsIp).1, network, length, atMost, ?_⟩
  intro plain
  cases readsIp with
  | host _ _ =>
    rw [leading_self] at inBlock
    exact inBlock
  | block pieces _ _ _ =>
    rw [split_of_not_mem plain] at pieces
    cases pieces

end Matching

section WellFormed

open TrustedProxies

structure Cidr where
  network : Quad
  digits : List Char
  someDigits : digits ≠ []
  allDigits : digits.all Char.isDigit = true
  atMost : value 10 digits ≤ 32

namespace Cidr

def prefixLength (range : Cidr) : Nat := value 10 range.digits

def text (range : Cidr) : List Char := range.network.text ++ '/' :: range.digits

theorem split_text (range : Cidr) : split '/' range.text = [range.network.text, range.digits] := by
  have absent : '/' ∉ range.digits := by
    intro mem
    have := all_eq_true.mp range.allDigits '/' mem
    revert this
    decide
  rw [text, split_append (range.network.not_mem rfl (by decide)), split_of_not_mem absent]

theorem parseDecimal_digits (range : Cidr) :
    parseDecimal range.digits = some (range.prefixLength : Int) :=
  Security.parseDecimal_digits range.allDigits range.someDigits

/-- A reader that is right about octets matches a well-formed block by its leading bits. -/
theorem matches_iff {read : List Char → Option Nat} (octets : ∀ o : Octet, read o.text = some o.value)
    (addr : Quad) (range : Cidr) : Matches read addr.text range.network.text range.digits ↔
      InBlock 32 range.network.value range.prefixLength addr.value := by
  constructor
  · rintro ⟨n, base, len, readsIp, readsNetwork, reads, -, inBlock⟩
    rw [range.parseDecimal_digits, some.injEq, Nat.cast_inj] at reads
    rw [readsIp.unique (readAs_quad octets addr),
      readsNetwork.unique (readAs_quad octets range.network), ← reads] at inBlock
    exact inBlock
  · intro inBlock
    exact ⟨_, _, _, readAs_quad octets addr, readAs_quad octets range.network,
      range.parseDecimal_digits, range.atMost, inBlock⟩

end Cidr

theorem Quad.no_slash (q : Quad) : '/' ∉ q.text := q.not_mem rfl (by decide)

theorem policyEngine_quad (rt : Js.Runtime) (addr : Quad) (range : Cidr) :
    Authorization.ipInCidr rt.standard (ofList addr.text) (ofList range.text) =
        true ↔ InBlock 32 range.network.value range.prefixLength addr.value := by
  rw [policyEngine_iff, toList_ofList, toList_ofList, range.split_text,
    ← Cidr.matches_iff (octet_text rt)]
  simp

theorem Quad.reads (q : Quad) : Reads (ofList q.text) q.value 32 := by
  have address := readAs_quad decimalOctet_text q
  exact .host (by rw [toList_ofList]; exact q.no_slash) (by rw [toList_ofList]; exact address)

theorem Quad.reads_iff {q : Quad} {len : Nat} :
    Reads (ofList q.text) n len ↔ n = q.value ∧ len = 32 := by
  constructor
  · intro reads
    cases reads with
    | host _ address =>
      rw [toList_ofList] at address
      exact ⟨address.unique (readAs_quad decimalOctet_text q), rfl⟩
    | block pieces _ _ _ =>
      rw [toList_ofList, split_of_not_mem q.no_slash] at pieces
      cases pieces
  · rintro ⟨rfl, rfl⟩
    exact q.reads

theorem Cidr.reads_iff {range : Cidr} {len : Nat} : Reads (ofList range.text) n len ↔
      n = range.network.value ∧ len = range.prefixLength := by
  rw [Security.reads_iff, toList_ofList, range.split_text]
  constructor
  · rintro ⟨address, length, -⟩
    rw [readPrefixLen, List.tail_cons, List.head?_cons] at length
    refine ⟨address.unique (readAs_quad decimalOctet_text range.network), ?_⟩
    exact Int.ofNat.inj (some.inj (length.symm.trans range.parseDecimal_digits))
  · rintro ⟨rfl, rfl⟩
    exact ⟨readAs_quad decimalOctet_text range.network, range.parseDecimal_digits, range.atMost⟩

theorem trustedProxies_quad (addr : Quad) (range : Cidr) :
    ipInCidr (ofList addr.text) (ofList range.text) = true ↔
      InBlock 32 range.network.value range.prefixLength addr.value := by
  simp only [trustedProxies_iff, Quad.reads_iff, Cidr.reads_iff]
  constructor
  · rintro ⟨_, _, _, _, ⟨rfl, rfl⟩, ⟨rfl, rfl⟩, inBlock⟩
    rw [leading_self] at inBlock
    exact inBlock
  · intro inBlock
    refine ⟨_, _, _, _, ⟨rfl, rfl⟩, ⟨rfl, rfl⟩, ?_⟩
    rw [leading_self]
    exact inBlock

theorem trustedProxies_host (addr host : Quad) :
    ipInCidr (ofList addr.text) (ofList host.text) = true ↔
      addr.value = host.value := by
  simp only [trustedProxies_iff, Quad.reads_iff]
  constructor
  · rintro ⟨_, _, _, _, ⟨rfl, rfl⟩, ⟨rfl, rfl⟩, inBlock⟩
    simpa [InBlock, leading_self] using inBlock
  · intro same
    refine ⟨_, _, _, _, ⟨rfl, rfl⟩, ⟨rfl, rfl⟩, ?_⟩
    rw [leading_self, same]
    rfl

theorem ipMatchesRange_quad (addr : Quad) (range : Cidr) :
    ipMatchesRange (ofList addr.text) (ofList range.text) = true ↔
      InBlock 32 range.network.value range.prefixLength addr.value := by
  have slash : '/' ∈ range.text := by simp [Cidr.text]
  rw [ipMatchesRange_iff, toList_ofList, toList_ofList, range.split_text,
    ← Cidr.matches_iff decimalOctet_text]
  simp [slash]

theorem ipv4IntInCidr_quad (addr : Quad) (range : Cidr) : ∃ v, ipv4ToInt addr.text = some v ∧
      (ipv4IntInCidr v (ofList range.network.text) range.prefixLength = true ↔
        InBlock 32 range.network.value range.prefixLength addr.value) := by
  refine ⟨_, ipv4ToInt_text addr, ipv4IntInCidr_iff ?_ addr.value_lt range.network.value_lt
    range.atMost⟩
  rw [toList_ofList]
  exact ipv4ToInt_text range.network

/-- On well-formed texts the matchers compare the leading bits, as the range guard does; the
trusted proxies take a plain address for a block of one, and `ipMatchesRange` compares a range
without a slash as it is.  Nothing matches unless it is read: four parts that the matcher takes
for numbers up to 255, and a length up to 32. -/
theorem cidr_matchers_agree (rt : Js.Runtime) : (∀ (addr : Quad) (range : Cidr),
      (Authorization.ipInCidr rt.standard (ofList addr.text)
          (ofList range.text) = true ↔
        InBlock 32 range.network.value range.prefixLength addr.value) ∧
      (ipInCidr (ofList addr.text) (ofList range.text) = true ↔
        InBlock 32 range.network.value range.prefixLength addr.value) ∧
      (ipMatchesRange (ofList addr.text) (ofList range.text) = true ↔
        InBlock 32 range.network.value range.prefixLength addr.value) ∧
      ∃ v, ipv4ToInt addr.text = some v ∧
        (ipv4IntInCidr v (ofList range.network.text) range.prefixLength = true ↔
          InBlock 32 range.network.value range.prefixLength addr.value)) ∧
    (∀ addr host : Quad,
      ipInCidr (ofList addr.text) (ofList host.text) = true ↔
        addr.value = host.value) ∧
    (∀ ip range : String, '/' ∉ range.toList → (ipMatchesRange ip range = true ↔ ip = range)) ∧
    (∀ ip cidr : String, Authorization.ipInCidr rt.standard ip cidr = true →
      ∃ net digits rest, split '/' cidr.toList = net :: digits :: rest ∧
        Matches (Authorization.octet rt.standard) ip.toList net digits) ∧
    (∀ ip cidr : String, ipInCidr ip cidr = true →
      ∃ n base len : Nat, ReadAs decimalOctet ((split '/' ip.toList).headD []) n ∧
        ReadAs decimalOctet ((split '/' cidr.toList).headD []) base ∧
        readPrefixLen (split '/' cidr.toList) = some (len : Int) ∧
        len ≤ 32 ∧ ('/' ∉ ip.toList → InBlock 32 base len n)) ∧
    (∀ ip range : String, '/' ∈ range.toList → ipMatchesRange ip range = true →
      ∃ net digits rest, split '/' range.toList = net :: digits :: rest ∧
        Matches decimalOctet ip.toList net digits) := by
  refine ⟨fun addr range => ⟨policyEngine_quad rt addr range,
    trustedProxies_quad addr range, ipMatchesRange_quad addr range,
    ipv4IntInCidr_quad addr range⟩, trustedProxies_host, ?_, ?_, ?_, ?_⟩
  · intro ip range noSlash
    simp [ipMatchesRange, noSlash]
  · intro ip cidr ok
    exact policyEngine_iff.mp ok
  · intro ip cidr ok
    exact readAs_of_ipInCidr ok
  · intro ip range slash ok
    cases ipMatchesRange_iff.mp ok with
    | inl plain => exact absurd slash plain.1
    | inr block => exact block

/-- A trusted proxy may be listed without a prefix length, and a range may be an address of the
sixth version. -/
theorem cidr_matchers_match_other_texts : (ipInCidr "10.0.0.1" "10.0.0.1" = true ∧
      ¬∃ range : Cidr, range.text = "10.0.0.1".toList) ∧
    (ipMatchesRange "::1" "::1" = true ∧ ¬∃ addr : Quad, addr.text = "::1".toList) := by
  refine ⟨⟨by decide +kernel, ?_⟩, by decide +kernel, ?_⟩
  · rintro ⟨range, same⟩
    have slash : '/' ∈ "10.0.0.1".toList := by
      rw [← same]
      simp [Cidr.text]
    revert slash
    decide
  · rintro ⟨addr, same⟩
    have dot : '.' ∈ "::1".toList := by
      rw [← same]
      simp [Quad.text]
    revert dot
    decide

end WellFormed

end Idenplane.Security
