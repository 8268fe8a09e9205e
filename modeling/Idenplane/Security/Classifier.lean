import Idenplane.Security.IpLiterals

/-! # The classifier is right about every spelling

Whatever its spelling, the classifier reads an address as its value, and compares the value
with the blocks by masks.  Both agree with the documented blocks.
-/

namespace Idenplane.Security

open Numerals Text List Nat

section Documentation

def ipv4 (a b c d : Nat) : Nat := ((a * 256 + b) * 256 + c) * 256 + d

/-- The blocks of the fourth version that are documented as blocked. -/
def documentedIpv4 : List (Nat × Nat) :=
  [(ipv4 0 0 0 0, 8), (ipv4 10 0 0 0, 8), (ipv4 100 64 0 0, 10), (ipv4 127 0 0 0, 8),
    (ipv4 169 254 0 0, 16), (ipv4 172 16 0 0, 12), (ipv4 192 0 0 0, 24), (ipv4 192 0 2 0, 24),
    (ipv4 192 168 0 0, 16), (ipv4 198 18 0 0, 15), (ipv4 198 51 100 0, 24),
    (ipv4 203 0 113 0, 24), (ipv4 224 0 0 0, 4), (ipv4 240 0 0 0, 4),
    (ipv4 255 255 255 255, 32)]

/-- The blocks of the sixth version that are documented as blocked. -/
def documentedIpv6 : List (Nat × Nat) :=
  [(1, 128), (0, 128), (0xfc00 * 2 ^ 112, 7), (0xfe80 * 2 ^ 112, 10), (0xff00 * 2 ^ 112, 8),
    (0x20010db8 * 2 ^ 96, 32), (0x64ff9b * 2 ^ 96, 96)]

inductive Address where
  | v4 (value : Nat)
  | v6 (value : Nat)

/-- In a documented block, directly or by the address that is embedded in it. -/
def BlockedV4 (n : Nat) : Prop := ∃ block ∈ documentedIpv4, InBlock 32 block.1 block.2 n

def BlockedV6 (n : Nat) : Prop :=
  (∃ block ∈ documentedIpv6, InBlock 128 block.1 block.2 n) ∨
    (InBlock 128 (0xffff * 2 ^ 32) 96 n ∧ BlockedV4 (n % 2 ^ 32)) ∨
    (InBlock 128 0 96 n ∧ BlockedV4 (n % 2 ^ 32)) ∨
    (InBlock 128 (0x2002 * 2 ^ 112) 16 n ∧ BlockedV4 (n / 2 ^ 80 % 2 ^ 32))

def Blocked : Address → Prop
  | .v4 n => BlockedV4 n
  | .v6 n => BlockedV6 n

/-- What an address literal stands for. -/
inductive Denotes : List Char → Address → Prop where
  | quad (q : Quad) : isIP q.text = 4 → Denotes q.text (.v4 q.value)
  | literal (l : Ipv6Literal) : isIP l.text = 6 → Denotes l.text (.v6 l.value)

end Documentation

variable {c : Char}

section Ipv4

theorem shiftLeft_or {n octet : Nat} (small : n < 2 ^ 24) (isOctet : octet ≤ 255) :
    (BitVec.ofNat 32 n <<< 8) ||| BitVec.ofNat 32 octet = BitVec.ofNat 32 (n * 256 + octet) := by
  apply BitVec.eq_of_toNat_eq
  have shifted : (BitVec.ofNat 32 n <<< 8).toNat = n <<< 8 := by
    rw [BitVec.toNat_shiftLeft, toNat_ofNat, mod_eq_of_lt (by omega), shiftLeft_eq]
    omega
  rw [BitVec.toNat_or, shifted, toNat_ofNat, mod_eq_of_lt (by omega),
    ← Nat.shiftLeft_add_eq_or_of_lt (by omega), toNat_ofNat, shiftLeft_eq]
  omega

theorem Octet.not_mem (o : Octet) (noDigit : c.isDigit = false) : c ∉ o.text := by
  intro mem
  have ok := o.isOctet
  simp only [isOctetText, and_eq_true, all_eq_true] at ok
  simp [ok.1.1 c mem] at noDigit

theorem readOctets_cons {o : Octet} {rest : List (List Char)} {n : Nat} (small : n < 2 ^ 24) :
    readOctets (o.text :: rest) (BitVec.ofNat 32 n) =
      readOctets rest (BitVec.ofNat 32 (n * 256 + o.value)) := by
  have notAbove : ¬Numerals.value 10 o.text > 255 := by
    have := o.small
    omega
  rw [readOctets, o.isOctet]
  simp only [Bool.not_true, false_eq_true, if_false, notAbove]
  rw [shiftLeft_or small o.small]
  rfl

theorem Quad.value_lt (q : Quad) : q.value < 2 ^ 32 := by
  have a : q.a.value ≤ 255 := q.a.small
  have b : q.b.value ≤ 255 := q.b.small
  have c : q.c.value ≤ 255 := q.c.small
  have d : q.d.value ≤ 255 := q.d.small
  unfold Quad.value
  omega

theorem ipv4ToInt_text (q : Quad) : ipv4ToInt q.text = some (BitVec.ofNat 32 q.value) := by
  have a : q.a.value ≤ 255 := q.a.small
  have b : q.b.value ≤ 255 := q.b.small
  have c : q.c.value ≤ 255 := q.c.small
  have parts : split '.' q.text = [q.a.text, q.b.text, q.c.text, q.d.text] := by
    rw [Quad.text, split_append (q.a.not_mem rfl), split_append (q.b.not_mem rfl),
      split_append (q.c.not_mem rfl), split_of_not_mem (q.d.not_mem rfl)]
  unfold ipv4ToInt
  rw [parts]
  simp only [length_cons, length_nil, ne_eq, not_true_eq_false, if_false]
  rw [show (0 : BitVec 32) = BitVec.ofNat 32 0 from rfl, readOctets_cons (by omega),
    readOctets_cons (by omega), readOctets_cons (by omega), readOctets_cons (by omega), readOctets]
  simp [Quad.value]

theorem toNat_mask32 {prefixLength : Nat} (atMost : prefixLength ≤ 32) :
    (if prefixLength = 0 then 0 else (~~~(0 : BitVec 32)) <<< (32 - prefixLength)).toNat =
      mask 32 prefixLength := by
  interval_cases prefixLength <;> rfl

theorem ipv4IntInCidr_iff {net : String} {len n base : Nat}
    (read : ipv4ToInt net.toList = some (BitVec.ofNat 32 base)) (small : n < 2 ^ 32)
    (smallBase : base < 2 ^ 32) (atMost : len ≤ 32) :
    ipv4IntInCidr (BitVec.ofNat 32 n) net len = true ↔
      InBlock 32 base len n := by
  rw [ipv4IntInCidr, read]
  simp only [decide_eq_true_eq]
  rw [← BitVec.toNat_inj, toNat_and, toNat_and, toNat_mask32 atMost,
    toNat_ofNat, toNat_ofNat, mod_eq_of_lt small, mod_eq_of_lt smallBase,
    and_mask_eq_iff small smallBase]

theorem any_iff_of_forall₂ {ranges : List (String × Nat)} {blocks : List (Nat × Nat)}
    {test : String × Nat → Bool} {P : Nat × Nat → Prop}
    (same : List.Forall₂ (fun range block => test range = true ↔ P block) ranges blocks) :
    ranges.any test = true ↔ ∃ block ∈ blocks, P block := by
  induction same with
  | nil => simp
  | cons first _ ih => simp [first, ih]

theorem isBlockedIpv4_iff (q : Quad) : isBlockedIpv4 q.text = true ↔ BlockedV4 q.value := by
  rw [isBlockedIpv4, ipv4ToInt_text]
  have reads : List.Forall₂ (fun (range : String × Nat) (block : Nat × Nat) =>
      ipv4ToInt range.1.toList = some (BitVec.ofNat 32 block.1) ∧ range.2 = block.2 ∧
        block.1 < 2 ^ 32 ∧ block.2 ≤ 32) IPV4_BLOCKED_RANGES documentedIpv4 := by
    repeat' first
      | apply List.Forall₂.nil
      | apply List.Forall₂.cons
      | exact ⟨rfl, rfl, by decide, by decide⟩
  apply any_iff_of_forall₂
  refine reads.imp fun range block ⟨read, same, small, atMost⟩ => ?_
  rw [same]
  exact ipv4IntInCidr_iff read q.value_lt small atMost

def octetOfNat (n : Nat) (small : n < 256) : Octet where
  text := numeral 10 n
  isOctet := by
    obtain ⟨atLeast, atMost⟩ := numeral_length (show 2 ≤ 10 by omega) (show 0 < 3 by omega)
      (show n < 10 ^ 3 by omega)
    simp only [isOctetText, and_eq_true, all_eq_true, decide_eq_true_eq]
    refine ⟨⟨fun c mem => ?_, atLeast⟩, atMost⟩
    obtain ⟨d, below, rfl⟩ := mem_numeral (by omega) (by omega) mem
    interval_cases d <;> rfl
  small := by
    rw [value_numeral (by omega) (by omega)]
    omega

theorem shiftRight_and_toNat (m shift : Nat) (small : m < 2 ^ 32) :
    ((BitVec.ofNat 32 m >>> shift) &&& 0xff).toNat = m / 2 ^ shift % 256 := by
  have low : (0xff : BitVec 32).toNat = 2 ^ 8 - 1 := rfl
  rw [toNat_and, low, and_two_pow_sub_one_eq_mod, BitVec.toNat_ushiftRight,
    toNat_ofNat, mod_eq_of_lt small, shiftRight_eq_div_pow]

theorem bigIntToIpv4_eq (n : Nat) : ∃ q : Quad, bigIntToIpv4 n = q.text ∧ q.value = n % 2 ^ 32 := by
  have low : n &&& 0xffffffff = n % 2 ^ 32 := and_two_pow_sub_one_eq_mod n 32
  have small : n % 2 ^ 32 < 2 ^ 32 := Nat.mod_lt _ (by omega)
  have octet : ∀ shift, n % 2 ^ 32 / 2 ^ shift % 256 < 256 := fun _ => Nat.mod_lt _ (by omega)
  refine ⟨⟨octetOfNat _ (octet 24), octetOfNat _ (octet 16), octetOfNat _ (octet 8),
    octetOfNat _ (octet 0)⟩, ?_, ?_⟩
  · unfold bigIntToIpv4
    simp only [low, shiftRight_and_toNat _ _ small]
    simp [Quad.text, octetOfNat]
  · simp only [Quad.value, Octet.value, octetOfNat, value_numeral (show 2 ≤ 10 by omega)
      (show 10 ≤ 16 by omega)]
    omega

end Ipv4

section Ipv6

theorem Group.not_mem (g : Group) (noDigit : Text.hexDigit c = none) : c ∉ g.text := by
  intro mem
  have ok := g.isGroup
  simp only [isGroupText, and_eq_true, all_eq_true] at ok
  have isDigit := ok.1.1 c mem
  simp [noDigit] at isDigit

theorem Group.text_ne_nil (g : Group) : g.text ≠ [] := by
  intro empty
  have ok := g.isGroup
  simp [isGroupText, empty] at ok

/-- Fields that a colon separates: not empty, and without colons. -/
def Field (text : List Char) : Prop := text ≠ [] ∧ ':' ∉ text

theorem field_of_group (g : Group) : Field g.text := ⟨g.text_ne_nil, g.not_mem rfl⟩

variable {fields : List (List Char)}

theorem split_joined (some_ : fields ≠ [])
    (ok : ∀ f ∈ fields, Field f) : split ':' (joined fields) = fields := by
  induction fields with
  | nil => exact absurd rfl some_
  | cons f rest ih =>
    cases rest with
    | nil => exact split_of_not_mem (ok f mem_cons_self).2
    | cons g rest =>
      rw [joined_cons_cons, split_append (ok f mem_cons_self).2,
        ih (by simp) fun h mem => ok h (.tail _ mem)]

/-- A text without colons in front of a text is passed over. -/
theorem splitAtDoubleColon_append {f : List Char} (noColon : ':' ∉ f) (rest : List Char) :
    splitAtDoubleColon (f ++ rest) =
      (splitAtDoubleColon rest).map fun split => (f ++ split.1, split.2) := by
  induction f with
  | nil => simp
  | cons c f ih =>
    rw [mem_cons, not_or] at noColon
    rw [cons_append, splitAtDoubleColon, ih noColon.2, Option.map_map]
    · rfl
    · intro _ isColon
      exact absurd isColon.symm noColon.1

theorem splitAtDoubleColon_colon {f rest : List Char} (field : Field f) :
    splitAtDoubleColon (':' :: (f ++ rest)) =
      (splitAtDoubleColon (f ++ rest)).map fun split => (':' :: split.1, split.2) := by
  obtain ⟨c, f, rfl⟩ := exists_cons_of_ne_nil field.1
  rw [cons_append, splitAtDoubleColon]
  intro _ _ isColon
  have same : c = ':' := (cons.inj isColon).1
  exact field.2 (by simp [same])

theorem joined_cons_append (f : List Char) (fields : List (List Char)) (rest : List Char) :
    ∃ more, joined (f :: fields) ++ rest = f ++ more := by
  cases fields with
  | nil => exact ⟨rest, rfl⟩
  | cons g fields => exact ⟨_, by rw [joined_cons_cons, append_assoc]⟩

section

variable (ok : ∀ f ∈ fields, Field f)

include ok

theorem splitAtDoubleColon_joined (rest : List Char) : splitAtDoubleColon (joined fields ++ rest) =
      (splitAtDoubleColon rest).map fun split => (joined fields ++ split.1, split.2) := by
  induction fields with
  | nil => simp [joined]
  | cons f fields ih =>
    have noColon := (ok f mem_cons_self).2
    cases fields with
    | nil => exact splitAtDoubleColon_append noColon rest
    | cons g fields =>
      obtain ⟨more, starts⟩ := joined_cons_append g fields rest
      have later := ih fun h mem => ok h (.tail _ mem)
      rw [joined_cons_cons, append_assoc, splitAtDoubleColon_append noColon,
        cons_append, starts, splitAtDoubleColon_colon (ok g (by simp)), ← starts, later,
        Option.map_map, Option.map_map]
      congr 1
      funext split
      simp

theorem splitAtDoubleColon_joined_none : splitAtDoubleColon (joined fields) = none := by
  have all := splitAtDoubleColon_joined ok []
  simpa [splitAtDoubleColon] using all

theorem splitAtDoubleColon_colon_joined : splitAtDoubleColon (':' :: joined fields) = none := by
  cases fields with
  | nil => rfl
  | cons f fields =>
    obtain ⟨more, starts⟩ := joined_cons_append f fields []
    have none_ := splitAtDoubleColon_joined_none ok
    rw [append_nil] at starts
    rw [starts] at none_ ⊢
    rw [splitAtDoubleColon_colon (ok f mem_cons_self), none_]
    rfl

theorem splitAtDoubleColon_around (right : List Char) :
    splitAtDoubleColon (joined fields ++ ':' :: ':' :: right) = some (joined fields, right) := by
  rw [splitAtDoubleColon_joined ok]
  simp [splitAtDoubleColon]

end

theorem joined_ne_nil {f : List Char} (field : Field f) : joined (f :: fields) ≠ [] := by
  obtain ⟨more, starts⟩ := joined_cons_append f fields []
  rw [append_nil] at starts
  rw [starts]
  simp [field.1]

theorem colonParts_joined (ok : ∀ f ∈ fields, Field f) : colonParts (joined fields) = fields := by
  cases fields with
  | nil => rfl
  | cons f fields =>
    have some_ : (joined (f :: fields)).isEmpty = false := by
      simpa using joined_ne_nil (ok f mem_cons_self)
    rw [colonParts, some_]
    exact split_joined (by simp) ok

theorem splitGroups_full (ok : ∀ f ∈ fields, Field f)
    (eight : fields.length = 8) : splitGroups (joined fields) = some fields := by
  rw [splitGroups, splitAtDoubleColon_joined_none ok]
  have some_ : fields ≠ [] := by
    rintro rfl
    simp at eight
  simp [split_joined some_ ok, eight]

theorem splitGroups_compressed {left right : List (List Char)} (okLeft : ∀ f ∈ left, Field f)
    (okRight : ∀ f ∈ right, Field f) (count : left.length + right.length ≤ 8) :
    splitGroups (joined left ++ ':' :: ':' :: joined right) =
      some (left ++ replicate (8 - (left.length + right.length)) ['0'] ++ right) := by
  rw [splitGroups, splitAtDoubleColon_around okLeft]
  simp only [splitAtDoubleColon_colon_joined okRight, Option.isSome_none, false_eq_true,
    if_false, colonParts_joined okLeft, colonParts_joined okRight]
  rw [if_neg (by omega)]

theorem mem_joined (mem : c ∈ joined fields) : c = ':' ∨ ∃ f ∈ fields, c ∈ f := by
  induction fields with
  | nil => cases mem
  | cons f rest ih =>
    cases rest with
    | nil => exact .inr ⟨f, mem_cons_self, mem⟩
    | cons g rest =>
      rw [joined_cons_cons, mem_append, mem_cons] at mem
      rcases mem with here | isColon | later
      · exact .inr ⟨f, mem_cons_self, here⟩
      · exact .inl isColon
      · rcases ih later with isColon | ⟨g, isField, inside⟩
        · exact .inl isColon
        · exact .inr ⟨g, .tail _ isField, inside⟩

theorem afterLastColon_append {start f : List Char} (noColon : ':' ∉ f) :
    afterLastColon (start ++ ':' :: f) = f := by
  have all : ∀ c ∈ f.reverse, decide (c ≠ ':') = true := by
    intro c mem
    simp only [decide_eq_true_eq]
    rintro rfl
    exact noColon (mem_reverse.mp mem)
  rw [afterLastColon, reverse_append, reverse_cons, append_assoc,
    takeWhile_append_of_pos all]
  simp

theorem throughLastColon_append {start f : List Char} (noColon : ':' ∉ f) :
    throughLastColon (start ++ ':' :: f) = start ++ [':'] := by
  have all : ∀ c ∈ f.reverse, decide (c ≠ ':') = true := by
    intro c mem
    simp only [decide_eq_true_eq]
    rintro rfl
    exact noColon (mem_reverse.mp mem)
  rw [throughLastColon, reverse_append, reverse_cons, append_assoc,
    dropWhile_append_of_pos all]
  simp

theorem isGroupText_numeral {n : Nat} (small : n < 65536) : isGroupText (numeral 16 n) = true := by
  obtain ⟨atLeast, atMost⟩ := numeral_length (show 2 ≤ 16 by omega) (show 0 < 4 by omega)
    (show n < 16 ^ 4 by omega)
  simp only [isGroupText, and_eq_true, all_eq_true, decide_eq_true_eq]
  refine ⟨⟨fun c mem => ?_, atLeast⟩, atMost⟩
  obtain ⟨d, below, rfl⟩ := mem_numeral (by omega) (by omega) mem
  rw [hexDigit_digitChar below]
  rfl

def groupOfNat (n : Nat) (small : n < 65536) : Group where
  text := numeral 16 n
  isGroup := isGroupText_numeral small

theorem groupOfNat_value (n : Nat) (small : n < 65536) : (groupOfNat n small).value = n :=
  value_numeral (by omega) (by omega) n

def Quad.groups (q : Quad) : List Group :=
  [groupOfNat (q.value / 65536) (by have := q.value_lt; omega),
    groupOfNat (q.value % 65536) (by omega)]

theorem Quad.not_mem (q : Quad) (noDigit : c.isDigit = false) (noDot : c ≠ '.') : c ∉ q.text := by
  simp [Quad.text, noDot, q.a.not_mem noDigit, q.b.not_mem noDigit, q.c.not_mem noDigit,
    q.d.not_mem noDigit]

theorem replaceDottedTail_of_quad (start : List Char) (q : Quad) :
    replaceDottedTail (start ++ ':' :: q.text) =
      some (start ++ ':' :: joined (q.groups.map Group.text)) := by
  have noColon : ':' ∉ q.text := q.not_mem rfl (by decide)
  have dotted : '.' ∈ q.text := by simp [Quad.text]
  have low : (0xffff : BitVec 32).toNat = 2 ^ 16 - 1 := rfl
  have v : (BitVec.ofNat 32 q.value).toNat = q.value := by
    rw [toNat_ofNat, mod_eq_of_lt q.value_lt]
  have hi : ((BitVec.ofNat 32 q.value >>> 16) &&& 0xffff).toNat = q.value / 65536 := by
    rw [toNat_and, low, and_two_pow_sub_one_eq_mod, BitVec.toNat_ushiftRight, v,
      shiftRight_eq_div_pow]
    omega
  have lo : (BitVec.ofNat 32 q.value &&& 0xffff).toNat = q.value % 65536 := by
    rw [toNat_and, low, and_two_pow_sub_one_eq_mod, v]
  rw [replaceDottedTail, afterLastColon_append noColon, throughLastColon_append noColon]
  simp only [dotted, if_true, ipv4ToInt_text, hi, lo]
  simp [Quad.groups, groupOfNat, joined]

theorem replaceDottedTail_of_not_mem {addr : List Char} (noDot : '.' ∉ addr) :
    replaceDottedTail addr = some addr := by
  have absent : '.' ∉ afterLastColon addr := by
    intro mem
    rw [afterLastColon, mem_reverse] at mem
    exact noDot (mem_reverse.mp ((List.takeWhile_prefix _).subset mem))
  rw [replaceDottedTail]
  simp [absent]

namespace Ipv6Literal

def bodyWith (l : Ipv6Literal) (fields : List (List Char)) : List Char :=
  match l.right with
  | none => joined (l.left.map Group.text ++ fields)
  | some right => joined (l.left.map Group.text) ++ ':' :: ':' :: joined (right.map Group.text ++ fields)

theorem body_eq (l : Ipv6Literal) : l.body = l.bodyWith (l.tail.toList.map Quad.text) := rfl

theorem exists_start (l : Ipv6Literal) {q : Quad} (isTail : l.tail = some q) :
    ∃ start, ∀ fields, fields ≠ [] → l.bodyWith fields = start ++ ':' :: joined fields := by
  have count := l.count
  unfold bodyWith
  cases isRight : l.right with
  | none =>
    simp only [isRight, isTail, toList_some, length_cons, length_nil] at count
    have some_ := map_text_ne_nil (show 0 < l.left.length by omega)
    exact ⟨_, fun fields os => joined_append some_ os⟩
  | some right =>
    cases right with
    | nil =>
      refine ⟨joined (l.left.map Group.text) ++ [':'], fun fields _ => ?_⟩
      simp
    | cons g right =>
      refine ⟨joined (l.left.map Group.text) ++ ':' :: ':' ::
        joined ((g :: right).map Group.text), fun fields os => ?_⟩
      simp only
      rw [joined_append (map_text_ne_nil (by simp)) os]
      simp

def tailGroups (l : Ipv6Literal) : List Group := l.tail.toList.flatMap Quad.groups

theorem mem_bodyWith {l : Ipv6Literal} (mem : c ∈ l.bodyWith fields) :
    c = ':' ∨ (∃ g : Group, c ∈ g.text) ∨ ∃ f ∈ fields, c ∈ f := by
  have inFields : ∀ gs : List Group, c ∈ joined (gs.map Group.text ++ fields) →
      c = ':' ∨ (∃ g : Group, c ∈ g.text) ∨ ∃ f ∈ fields, c ∈ f := by
    intro gs inside
    rcases mem_joined inside with isColon | ⟨f, isField, inField⟩
    · exact .inl isColon
    · rcases mem_append.mp isField with isGroup | isOther
      · obtain ⟨g, -, rfl⟩ := mem_map.mp isGroup
        exact .inr (.inl ⟨g, inField⟩)
      · exact .inr (.inr ⟨f, isOther, inField⟩)
  unfold bodyWith at mem
  cases isRight : l.right with
  | none =>
    rw [isRight] at mem
    exact inFields _ mem
  | some right =>
    simp only [isRight, mem_append, mem_cons] at mem
    rcases mem with inLeft | isColon | isColon | inRight
    · rcases mem_joined inLeft with isColon | ⟨f, isField, inField⟩
      · exact .inl isColon
      · obtain ⟨g, -, rfl⟩ := mem_map.mp isField
        exact .inr (.inl ⟨g, inField⟩)
    · exact .inl isColon
    · exact .inl isColon
    · exact inFields _ inRight

theorem replaceDottedTail_body (l : Ipv6Literal) :
    replaceDottedTail l.body = some (l.bodyWith (l.tailGroups.map Group.text)) := by
  rw [body_eq, tailGroups]
  cases isTail : l.tail with
  | none =>
    apply replaceDottedTail_of_not_mem
    intro mem
    rcases mem_bodyWith mem with isColon | ⟨g, inside⟩ | ⟨f, isField, -⟩
    · exact absurd isColon (by decide)
    · exact g.not_mem rfl inside
    · simp at isField
  | some q =>
    obtain ⟨start, ends⟩ := l.exists_start isTail
    rw [ends _ (by simp), ends _ (by simp [Quad.groups])]
    exact replaceDottedTail_of_quad start q

theorem takeWhile_text (l : Ipv6Literal) : l.text.takeWhile (· ≠ '%') = l.body := by
  have all : ∀ c ∈ l.body, decide (c ≠ '%') = true := by
    intro c mem
    simp only [decide_eq_true_eq]
    rintro rfl
    rcases mem_bodyWith mem with isColon | ⟨g, inside⟩ | ⟨f, isField, inside⟩
    · exact absurd isColon (by decide)
    · exact g.not_mem rfl inside
    · obtain ⟨q, -, rfl⟩ := mem_map.mp isField
      exact q.not_mem rfl (by decide) inside
  rw [text, takeWhile_append_of_pos all]
  cases l.zone <;> simp

def zero : Group := ⟨['0'], rfl⟩

def groups (l : Ipv6Literal) : List Group :=
  match l.right with
  | none => l.left ++ l.tailGroups
  | some right =>
    l.left ++ replicate (8 - (l.left.length + (right ++ l.tailGroups).length)) zero ++
      (right ++ l.tailGroups)

section

variable (l : Ipv6Literal)

include l

theorem length_tailGroups : l.tailGroups.length = 2 * l.tail.toList.length := by
  cases isTail : l.tail <;> simp [tailGroups, isTail, Quad.groups]

theorem length_groups : l.groups.length = 8 := by
  have count := l.count
  have two := l.length_tailGroups
  unfold groups
  cases isRight : l.right with
  | none =>
    simp only [isRight] at count
    simp only [length_append]
    omega
  | some right =>
    simp only [isRight] at count
    simp only [length_append, length_replicate]
    omega

theorem splitGroups_bodyWith :
    splitGroups (l.bodyWith (l.tailGroups.map Group.text)) = some (l.groups.map Group.text) := by
  have eight := l.length_groups
  have fields : ∀ gs : List Group, ∀ f ∈ gs.map Group.text, Field f := by
    intro gs f mem
    obtain ⟨g, -, rfl⟩ := mem_map.mp mem
    exact field_of_group g
  have count := l.count
  have two := l.length_tailGroups
  unfold bodyWith groups at *
  cases isRight : l.right with
  | none =>
    simp only [isRight] at eight ⊢
    rw [← map_append]
    exact splitGroups_full (fields _) (by simpa using eight)
  | some right =>
    simp only [isRight] at count ⊢
    rw [← map_append, splitGroups_compressed (fields _) (fields _)
      (by simp only [length_map, length_append]; omega)]
    simp [zero]

theorem groups_value : l.groups.map Group.value = l.groupValues := by
  have zeroValue : zero.value = 0 := rfl
  have two := l.length_tailGroups
  have tail : l.tailGroups.map Group.value = l.tailValues := by
    cases isTail : l.tail <;> simp [tailGroups, tailValues, isTail, Quad.groups, groupOfNat_value]
  unfold groups groupValues
  cases l.right with
  | none => simp [tail]
  | some right =>
    simp only [map_append, map_replicate, zeroValue, tail, length_append, two, Nat.add_assoc]

theorem expandIpv6Groups_text : expandIpv6Groups l.text = some (l.groups.map Group.text) := by
  have all : (l.groups.map Group.text).all isGroupText = true := by
    rw [all_map, all_eq_true]
    exact fun g _ => g.isGroup
  rw [expandIpv6Groups, takeWhile_text, replaceDottedTail_body, bind_eq_bind,
    bind_some, splitGroups_bodyWith, bind_eq_bind, bind_some]
  simp [all, l.length_groups]

end

end Ipv6Literal

theorem Group.value_lt (g : Group) : g.value < 65536 := by
  have ok := g.isGroup
  simp only [isGroupText, and_eq_true, decide_eq_true_eq] at ok
  calc g.value < 16 ^ g.text.length := Numerals.value_lt g.text
    _ ≤ 16 ^ 4 := Nat.pow_le_pow_right (by omega) ok.2
    _ = 65536 := by norm_num

/-- The groups are read from the left, sixteen bits each. -/
theorem foldl_groups (gs : List Group) (n : Nat) :
    (gs.map Group.text).foldl (fun value group => (value <<< 16) ||| Numerals.value 16 group) n =
      (gs.map Group.value).foldl (fun v g => v * 65536 + g) n := by
  induction gs generalizing n with
  | nil => rfl
  | cons g gs ih =>
    have step : (n <<< 16) ||| Numerals.value 16 g.text = n * 65536 + g.value := by
      have small : Numerals.value 16 g.text < 2 ^ 16 := g.value_lt
      rw [← Nat.shiftLeft_add_eq_or_of_lt small, shiftLeft_eq]
      rfl
    rw [map_cons, map_cons, foldl_cons, foldl_cons, step, ih]

theorem foldl_lt (gs : List Group) (n k : Nat) (small : n < 65536 ^ k) :
    (gs.map Group.value).foldl (fun v g => v * 65536 + g) n < 65536 ^ (k + gs.length) := by
  induction gs generalizing n k with
  | nil => simpa using small
  | cons g gs ih =>
    have below := g.value_lt
    have next : n * 65536 + g.value < 65536 ^ (k + 1) := by
      omega
    have rest := ih _ _ next
    rw [map_cons, foldl_cons, length_cons]
    rwa [show k + (gs.length + 1) = k + 1 + gs.length by omega]

theorem ipv6ToBigInt_text (l : Ipv6Literal) : ipv6ToBigInt l.text = some l.value := by
  rw [ipv6ToBigInt, l.expandIpv6Groups_text, map_some, foldl_groups, l.groups_value]
  rfl

theorem Ipv6Literal.value_lt (l : Ipv6Literal) : l.value < 2 ^ 128 := by
  have below := foldl_lt l.groups 0 0 (by decide)
  rw [l.length_groups, l.groups_value] at below
  exact below

theorem ipv6PrefixMask_eq {prefixLength : Nat} (atMost : prefixLength ≤ 128) :
    ipv6PrefixMask prefixLength = mask 128 prefixLength := by
  have full : FULL_128_MASK = 2 ^ 128 - 1 := rfl
  rw [ipv6PrefixMask, mask, full]
  split
  · subst prefixLength
    decide
  · split
    · have all : prefixLength = 128 := by omega
      subst all
      decide
    · rfl

theorem and_ipv6PrefixMask_iff {len n base : Nat} (small : n < 2 ^ 128)
    (smallBase : base < 2 ^ 128) (atMost : len ≤ 128) :
    n &&& ipv6PrefixMask len = base &&& ipv6PrefixMask len ↔
      InBlock 128 base len n := by
  rw [ipv6PrefixMask_eq atMost, and_mask_eq_iff small smallBase]

theorem any_ipv6InCidr_iff {n : Nat} (small : n < 2 ^ 128) :
    (IPV6_BLOCKED_RANGES.any fun range => ipv6InCidr n range.1 range.2) = true ↔
      ∃ block ∈ documentedIpv6, InBlock 128 block.1 block.2 n := by
  have reads : List.Forall₂ (fun (range : String × Nat) (block : Nat × Nat) =>
      ipv6ToBigInt range.1.toList = some block.1 ∧ range.2 = block.2 ∧
        block.1 < 2 ^ 128 ∧ block.2 ≤ 128) IPV6_BLOCKED_RANGES documentedIpv6 := by
    repeat' first
      | apply List.Forall₂.nil
      | apply List.Forall₂.cons
      | exact ⟨rfl, rfl, by decide, by decide⟩
  apply any_iff_of_forall₂
  refine reads.imp fun range block ⟨read, same, smallBlock, atMost⟩ => ?_
  rw [ipv6InCidr, read, same]
  simp only [decide_eq_true_eq]
  exact and_ipv6PrefixMask_iff small smallBlock atMost

theorem isBlockedIpv4_bigIntToIpv4 (n : Nat) :
    isBlockedIpv4 (bigIntToIpv4 (n &&& 0xffffffff)) = true ↔ BlockedV4 (n % 2 ^ 32) := by
  have low : n &&& 0xffffffff = n % 2 ^ 32 := and_two_pow_sub_one_eq_mod n 32
  obtain ⟨q, isText, isValue⟩ := bigIntToIpv4_eq (n &&& 0xffffffff)
  rw [isText, isBlockedIpv4_iff, isValue, low, Nat.mod_mod]

theorem isBlockedIpv6_iff (l : Ipv6Literal) : isBlockedIpv6 l.text = true ↔ BlockedV6 l.value := by
  have small := l.value_lt
  have mapped : ipv6ToBigInt "::ffff:0:0".toList = some (0xffff * 2 ^ 32) := rfl
  have sixToFour : ipv6ToBigInt "2002::".toList = some (0x2002 * 2 ^ 112) := rfl
  have compatible := and_ipv6PrefixMask_iff small (show 0 < 2 ^ 128 by decide)
    (show 96 ≤ 128 by decide)
  rw [Nat.zero_and] at compatible
  rw [isBlockedIpv6, ipv6ToBigInt_text]
  simp only [mapped, sixToFour, decide_eq_true_eq, any_ipv6InCidr_iff small, compatible,
    and_ipv6PrefixMask_iff small (show 0xffff * 2 ^ 32 < 2 ^ 128 by decide) (show 96 ≤ 128 by decide),
    and_ipv6PrefixMask_iff small (show 0x2002 * 2 ^ 112 < 2 ^ 128 by decide)
      (show 16 ≤ 128 by decide)]
  unfold BlockedV6
  by_cases documented : ∃ block ∈ documentedIpv6, InBlock 128 block.1 block.2 l.value
  · simp [documented]
  · simp only [documented, if_false, false_or]
    by_cases isMapped : InBlock 128 (0xffff * 2 ^ 32) 96 l.value
    · have notCompatible : ¬InBlock 128 0 96 l.value := by
        unfold InBlock at *
        omega
      have notSixToFour : ¬InBlock 128 (0x2002 * 2 ^ 112) 16 l.value := by
        unfold InBlock at *
        omega
      simp only [isMapped, notCompatible, notSixToFour, if_true, true_and, false_and, or_false]
      exact isBlockedIpv4_bigIntToIpv4 _
    · by_cases isCompatible : InBlock 128 0 96 l.value
      · have notSixToFour : ¬InBlock 128 (0x2002 * 2 ^ 112) 16 l.value := by
          unfold InBlock at *
          omega
        simp only [isMapped, isCompatible, notSixToFour, if_true, if_false, true_and, false_and,
          or_false, false_or]
        exact isBlockedIpv4_bigIntToIpv4 _
      · by_cases isSixToFour : InBlock 128 (0x2002 * 2 ^ 112) 16 l.value
        · simp only [isMapped, isCompatible, isSixToFour, if_true, if_false, true_and, false_and,
            false_or]
          rw [isBlockedIpv4_bigIntToIpv4, shiftRight_eq_div_pow]
        · simp only [isMapped, isCompatible, isSixToFour, if_false, false_and, or_false,
            false_eq_true]

end Ipv6

section Verdict

variable {text : List Char}

theorem Denotes.unique {first second : Address} (one : Denotes text first)
    (other : Denotes text second) : first = second := by
  generalize isText : text = text' at other
  cases one with
  | quad q isFour =>
    cases other with
    | quad q' _ =>
      have same : some (BitVec.ofNat 32 q.value) = some (BitVec.ofNat 32 q'.value) := by
        rw [← ipv4ToInt_text, ← ipv4ToInt_text, isText]
      have values := congrArg BitVec.toNat (some.inj same)
      rw [toNat_ofNat, toNat_ofNat, mod_eq_of_lt q.value_lt, mod_eq_of_lt q'.value_lt] at values
      rw [values]
    | literal l isSix =>
      rw [isText, isSix] at isFour
      cases isFour
  | literal l isSix =>
    cases other with
    | quad q isFour =>
      rw [isText, isFour] at isSix
      cases isSix
    | literal l' _ =>
      have same : some l.value = some l'.value := by
        rw [← ipv6ToBigInt_text, ← ipv6ToBigInt_text, isText]
      rw [some.inj same]

theorem exists_denotes (ok : isIP text ≠ 0) : ∃ address, Denotes text address := by
  rcases isIP_family text with none_ | isFour | isSix
  · exact absurd none_ ok
  · obtain ⟨q, rfl⟩ := exists_quad_of_isIP isFour
    exact ⟨_, .quad q isFour⟩
  · obtain ⟨l, rfl⟩ := exists_literal_of_isIP isSix
    exact ⟨_, .literal l isSix⟩

theorem isBlockedIp_iff {address : Address} (denotes : Denotes text address) :
    isBlockedIp text = true ↔ Blocked address := by
  cases denotes with
  | quad q isFour =>
    rw [isBlockedIp, if_pos isFour]
    exact isBlockedIpv4_iff q
  | literal l isSix =>
    rw [isBlockedIp, if_neg (by omega), if_pos isSix]
    exact isBlockedIpv6_iff l

theorem isBlockedIp_congr {text spelling : List Char} {addr : Address}
    (denotes : Denotes text addr) (same : Denotes spelling addr) :
    isBlockedIp spelling = isBlockedIp text := by
  rw [Bool.eq_iff_iff, isBlockedIp_iff denotes, isBlockedIp_iff same]

/-- A text that is accepted denotes one address; it is blocked when the address is in a
documented block, and so is every other spelling of the address. -/
theorem ip_classifier_is_correct (text : List Char) (ok : isIP text ≠ 0) :
    ∃ addr, (∀ other, Denotes text other ↔ other = addr) ∧
      (isBlockedIp text = true ↔ Blocked addr) ∧
      ∀ spelling, Denotes spelling addr → isBlockedIp spelling = isBlockedIp text := by
  obtain ⟨addr, denotes⟩ := exists_denotes ok
  refine ⟨addr, fun other => ⟨fun also => also.unique denotes, ?_⟩, isBlockedIp_iff denotes,
    fun spelling same => isBlockedIp_congr denotes same⟩
  rintro rfl
  exact denotes

theorem ip_classifier_is_correct_loopback :
    ∃ addr, Denotes "::1".toList addr ∧ (isBlockedIp "::1".toList = true ↔ Blocked addr) := by
  have accepted : isIP "::1".toList ≠ 0 := by decide +kernel
  obtain ⟨addr, denotes, verdict, -⟩ := ip_classifier_is_correct "::1".toList accepted
  exact ⟨addr, (denotes addr).mpr rfl, verdict⟩

end Verdict

end Idenplane.Security
