import Idenplane.Security.IpRangeGuard

/-! # Addresses and their texts

An address literal is its parts: the octets of a dotted quad, or the groups on both sides of
`::`, a dotted quad in place of the last two groups, and a zone.  It has a text and a value.
Everything that `isIP` takes for an address is the text of a literal.
-/

namespace Idenplane.Security

open RegularExpression Language

structure Octet where
  text : List Char
  isOctet : isOctetText text = true
  small : Numerals.value 10 text ≤ 255

def Octet.value (o : Octet) : Nat := Numerals.value 10 o.text

structure Quad where
  (a b c d : Octet)

def Quad.text (q : Quad) : List Char :=
  q.a.text ++ '.' :: (q.b.text ++ '.' :: (q.c.text ++ '.' :: q.d.text))

def Quad.value (q : Quad) : Nat :=
  ((q.a.value * 256 + q.b.value) * 256 + q.c.value) * 256 + q.d.value

structure Group where
  text : List Char
  isGroup : isGroupText text = true

def Group.value (g : Group) : Nat := Numerals.value 16 g.text

def joined : List (List Char) → List Char
  | [] => []
  | [field] => field
  | field :: rest => field ++ ':' :: joined rest

structure Ipv6Literal where
  left : List Group
  /-- The groups after `::`, if there is one. -/
  right : Option (List Group)
  tail : Option Quad
  zone : Option (List Char)
  count : match right with
    | none => left.length + 2 * tail.toList.length = 8
    | some right => left.length + right.length + 2 * tail.toList.length ≤ 7

namespace Ipv6Literal

def body (l : Ipv6Literal) : List Char :=
  let tail := l.tail.toList.map Quad.text
  match l.right with
  | none => joined (l.left.map Group.text ++ tail)
  | some right => joined (l.left.map Group.text) ++ ':' :: ':' :: joined (right.map Group.text ++ tail)

def text (l : Ipv6Literal) : List Char :=
  l.body ++ match l.zone with
    | none => []
    | some zone => '%' :: zone

def tailValues (l : Ipv6Literal) : List Nat :=
  l.tail.toList.flatMap fun q => [q.value / 65536, q.value % 65536]

def groupValues (l : Ipv6Literal) : List Nat :=
  match l.right with
  | none => l.left.map Group.value ++ l.tailValues
  | some right =>
    l.left.map Group.value ++
      List.replicate (8 - (l.left.length + right.length + 2 * l.tail.toList.length)) 0 ++
      (right.map Group.value ++ l.tailValues)

def value (l : Ipv6Literal) : Nat := l.groupValues.foldl (fun v g => v * 65536 + g) 0

end Ipv6Literal

section Joining

theorem joined_cons_cons (field next : List Char) (rest : List (List Char)) :
    joined (field :: next :: rest) = field ++ ':' :: joined (next :: rest) := rfl

theorem joined_append {fields more : List (List Char)} (some_ : fields ≠ []) (os : more ≠ []) :
    joined (fields ++ more) = joined fields ++ ':' :: joined more := by
  induction fields with
  | nil => exact absurd rfl some_
  | cons field rest ih =>
    cases rest with
    | nil =>
      cases more with
      | nil => exact absurd rfl os
      | cons next more => rfl
    | cons next rest =>
      have later := ih (by simp)
      simp only [cons_append] at later ⊢
      rw [joined_cons_cons, later, joined_cons_cons, append_assoc]
      rfl

variable {fields : List (List Char)}

theorem flatMap_colon_after (some_ : fields ≠ []) :
    fields.flatMap (· ++ [':']) = joined fields ++ [':'] := by
  induction fields with
  | nil => exact absurd rfl some_
  | cons field rest ih =>
    cases rest with
    | nil => simp [joined]
    | cons next rest =>
      rw [List.flatMap_cons, ih (by simp), joined_cons_cons]
      simp

theorem flatMap_colon_before (some_ : fields ≠ []) :
    fields.flatMap (':' :: ·) = ':' :: joined fields := by
  induction fields with
  | nil => exact absurd rfl some_
  | cons field rest ih =>
    cases rest with
    | nil => simp [joined]
    | cons next rest =>
      rw [List.flatMap_cons, ih (by simp), joined_cons_cons]
      simp

end Joining

section Grammar

variable {x : List Char}

theorem mem_char {c : Char} : x ∈ (char c).matches' ↔ x = [c] := Iff.rfl

theorem mem_anyOf {characters : String} :
    x ∈ (anyOf characters).matches' ↔ ∃ c ∈ characters.toList, x = [c] := by
  unfold anyOf
  induction characters.toList with
  | nil => simp [matches'_zero, notMem_zero]
  | cons c rest ih =>
    rw [map_cons, List.sum_cons, matches'_add, mem_add, ih, mem_char]
    simp

variable {m n : Nat}

theorem mem_times {P : RegularExpression Char} (h : x ∈ (times P m n).matches') :
    ∃ k, m ≤ k ∧ k ≤ n ∧ x ∈ P.matches' ^ k := by
  have sums : ∀ ks : List Nat, x ∈ (ks.map fun k => P ^ (m + k)).sum.matches' →
      ∃ k ∈ ks, x ∈ P.matches' ^ (m + k) := by
    intro ks
    induction ks with
    | nil => simp [matches'_zero, notMem_zero]
    | cons k ks ih =>
      rw [map_cons, List.sum_cons, matches'_add, mem_add, matches'_pow]
      rintro (here | later)
      · exact ⟨k, mem_cons_self, here⟩
      · obtain ⟨k', mem, there⟩ := ih later
        exact ⟨k', .tail _ mem, there⟩
  obtain ⟨k, mem, there⟩ := sums _ h
  rw [List.mem_range] at mem
  exact ⟨m + k, by omega, by omega, there⟩

/-- A repetition is made of the texts that one round matches. -/
theorem mem_pow_of {L : Language Char} {α : Type} (f : α → List Char)
    (rounds : ∀ y ∈ L, ∃ a, f a = y) {k : Nat} (h : x ∈ L ^ k) :
    ∃ as : List α, as.length = k ∧ x = as.flatMap f := by
  obtain ⟨S, rfl, len, each⟩ := mem_pow.mp h
  have covered : S ∈ Set.range (List.map f) := by
    rw [Set.range_list_map]
    exact fun y mem => rounds y (each y mem)
  obtain ⟨as, rfl⟩ := covered
  exact ⟨as, by simpa using len, by simp [List.flatMap]⟩

def isOctet (x : List Char) : Bool := isOctetText x && Numerals.value 10 x ≤ 255

/-- The platform takes no octet with a leading zero. -/
def isCanonical (x : List Char) : Bool := isOctet x && (x == ['0'] || x.head? != some '0')

theorem exists_octet (h : x ∈ v4Seg.matches') :
    ∃ o : Octet, o.text = x ∧ isCanonical o.text = true := by
  suffices ok : isCanonical x = true by
    have octet := ok
    simp only [isCanonical, isOctet, and_eq_true, decide_eq_true_eq] at octet
    exact ⟨⟨x, octet.1.1, octet.1.2⟩, rfl, ok⟩
  simp only [v4Seg, digit, matches'_add, matches'_mul, mem_add, mem_mul, mem_anyOf, mem_char] at h
  rcases h with (((⟨_, ⟨_, rfl, _, rfl, rfl⟩, _, ⟨c, isC, rfl⟩, rfl⟩ |
    ⟨_, ⟨_, rfl, _, ⟨c, isC, rfl⟩, rfl⟩, _, ⟨d, isD, rfl⟩, rfl⟩) |
    ⟨_, ⟨_, rfl, _, ⟨c, isC, rfl⟩, rfl⟩, _, ⟨d, isD, rfl⟩, rfl⟩) |
    ⟨_, ⟨c, isC, rfl⟩, _, ⟨d, isD, rfl⟩, rfl⟩) | ⟨c, isC, rfl⟩
  · have all : ("012345".toList.all fun c => isCanonical (['2'] ++ ['5'] ++ [c])) = true := by decide
    exact all_eq_true.mp all c isC
  · have all : ("01234".toList.all fun c => "0123456789".toList.all fun d =>
        isCanonical (['2'] ++ [c] ++ [d])) = true := by decide +kernel
    exact all_eq_true.mp (all_eq_true.mp all c isC) d isD
  · have all : ("0123456789".toList.all fun c => "0123456789".toList.all fun d =>
        isCanonical (['1'] ++ [c] ++ [d])) = true := by decide +kernel
    exact all_eq_true.mp (all_eq_true.mp all c isC) d isD
  · have all : ("123456789".toList.all fun c => "0123456789".toList.all fun d =>
        isCanonical ([c] ++ [d])) = true := by decide +kernel
    exact all_eq_true.mp (all_eq_true.mp all c isC) d isD
  · have all : ("0123456789".toList.all fun c => isCanonical [c]) = true := by decide
    exact all_eq_true.mp all c isC

theorem exists_quad (h : x ∈ v4Str.matches') : ∃ q : Quad, q.text = x ∧
    ∀ o ∈ [q.a, q.b, q.c, q.d], isCanonical o.text = true := by
  obtain ⟨start, isStart, last, isLast, rfl⟩ := h
  rw [matches'_pow, matches'_mul] at isStart
  obtain ⟨octets, len, rfl⟩ := mem_pow_of (fun o : { o : Octet // isCanonical o.text = true } =>
    o.1.text ++ ['.']) (by
    intro y mem
    obtain ⟨part, isPart, dot, isDot, rfl⟩ := mem_mul.mp mem
    obtain ⟨o, rfl, canonical⟩ := exists_octet isPart
    exact ⟨⟨o, canonical⟩, by rw [mem_char.mp isDot]⟩) isStart
  obtain ⟨d, rfl, canonical⟩ := exists_octet isLast
  match octets, len with
  | [a, b, c], _ =>
    exact ⟨⟨a, b, c, d⟩, by simp [Quad.text], by simp [a.2, b.2, c.2, canonical]⟩

theorem exists_group (h : x ∈ v6Seg.matches') : ∃ g : Group, g.text = x := by
  obtain ⟨k, positive, atMost, repeated⟩ := mem_times h
  obtain ⟨characters, len, rfl⟩ := mem_pow_of
    (fun c : { c : Char // c ∈ "0123456789abcdefABCDEF".toList } => [c.val]) (by
      intro y mem
      obtain ⟨c, isC, rfl⟩ := mem_anyOf.mp mem
      exact ⟨⟨c, isC⟩, rfl⟩) repeated
  have digits : ∀ c ∈ "0123456789abcdefABCDEF".toList, (Text.hexDigit c).isSome = true :=
    all_eq_true.mp (by decide +kernel)
  have isGroup : isGroupText (characters.flatMap fun c => [c.val]) = true := by
    rw [← map_eq_flatMap]
    simp only [isGroupText, and_eq_true, all_eq_true, decide_eq_true_eq, length_map]
    refine ⟨⟨?_, by omega⟩, by omega⟩
    intro c mem
    obtain ⟨listed, -, rfl⟩ := mem_map.mp mem
    exact digits listed.val listed.property
  exact ⟨⟨_, isGroup⟩, rfl⟩

theorem exists_opening {k : Nat} (h : x ∈ (v6Opening k).matches') :
    ∃ gs : List Group, gs.length = k ∧ x = (gs.map Group.text).flatMap (· ++ [':']) := by
  rw [v6Opening, matches'_pow, matches'_mul] at h
  obtain ⟨gs, len, rfl⟩ := mem_pow_of (fun g : Group => g.text ++ [':']) (by
    intro y mem
    obtain ⟨part, isPart, colon, isColon, rfl⟩ := mem_mul.mp mem
    obtain ⟨g, rfl⟩ := exists_group isPart
    exact ⟨g, by rw [mem_char.mp isColon]⟩) h
  exact ⟨gs, len, by rw [List.flatMap_map]⟩

theorem exists_closing (h : x ∈ (v6Closing m n).matches') :
    ∃ gs : List Group, m ≤ gs.length ∧ gs.length ≤ n ∧
      x = (gs.map Group.text).flatMap (':' :: ·) := by
  obtain ⟨k, atLeast, atMost, repeated⟩ := mem_times h
  obtain ⟨gs, len, rfl⟩ := mem_pow_of (fun g : Group => ':' :: g.text) (by
    intro y mem
    obtain ⟨colon, isColon, part, isPart, rfl⟩ := mem_mul.mp mem
    obtain ⟨g, rfl⟩ := exists_group isPart
    exact ⟨g, by rw [mem_char.mp isColon]; rfl⟩) repeated
  exact ⟨gs, by omega, by omega, by rw [List.flatMap_map]⟩

theorem map_text_ne_nil {left : List Group} (some_ : 0 < left.length) :
    left.map Group.text ≠ [] := by
  intro empty
  rw [List.map_eq_nil_iff] at empty
  simp [empty] at some_

/-- What stands after the groups that open a compressed address, from the second colon on. -/
def closingFields (right : List Group) (tail : Option Quad) : List (List Char) :=
  right.map Group.text ++ tail.toList.map Quad.text

theorem exists_compressed_closing
    (h : x ∈ (v6Closing 0 m * char ':' * v4Str + v6Closing 1 n + char ':').matches') :
    ∃ (right : List Group) (tail : Option Quad), x = ':' :: joined (closingFields right tail) ∧
      right.length + 2 * tail.toList.length ≤ max (m + 2) n := by
  rcases h with (⟨_, ⟨_, isMiddle, _, isColon, rfl⟩, _, isQuad, rfl⟩ | isRight) | isColon
  · obtain ⟨gs, -, atMost, rfl⟩ := exists_closing isMiddle
    obtain ⟨q, rfl, -⟩ := exists_quad isQuad
    rw [mem_char.mp isColon]
    refine ⟨gs, some q, ?_, by simp; omega⟩
    rw [closingFields, ← flatMap_colon_before (by simp)]
    simp
  · obtain ⟨gs, atLeast, atMost, rfl⟩ := exists_closing isRight
    refine ⟨gs, none, ?_, by simp; omega⟩
    have some_ := map_text_ne_nil (show 0 < gs.length by omega)
    rw [closingFields, flatMap_colon_before some_]
    simp
  · exact ⟨[], none, by simp [mem_char.mp isColon, closingFields, joined], by simp⟩

open Ipv6Literal

theorem exists_compressed (left right : List Group) (tail : Option Quad)
    (count : left.length + right.length + 2 * tail.toList.length ≤ 7) :
    ∃ l : Ipv6Literal, l.body = (joined (left.map Group.text) ++ [':']) ++
      ':' :: joined (closingFields right tail) :=
  ⟨⟨left, some right, tail, none, count⟩, by simp [body, closingFields]⟩

theorem exists_body_compressed {k : Nat} (positive : 0 < k) (small : k ≤ 5)
    (h : x ∈ (v6Compressed k).matches') : ∃ l : Ipv6Literal, l.body = x := by
  obtain ⟨_, isOpening, _, isClosing, rfl⟩ := h
  obtain ⟨left, len, rfl⟩ := exists_opening isOpening
  obtain ⟨right, tail, rfl, count⟩ := exists_compressed_closing isClosing
  obtain ⟨l, isBody⟩ := exists_compressed left right tail (by omega)
  refine ⟨l, ?_⟩
  have some_ := map_text_ne_nil (show 0 < left.length by omega)
  rw [isBody, flatMap_colon_after some_]

theorem exists_body_full (h : x ∈ (v6Opening 7 * (v6Seg + char ':')).matches') :
    ∃ l : Ipv6Literal, l.body = x := by
  obtain ⟨_, isOpening, _, isLast | isColon, rfl⟩ := h
  · obtain ⟨left, len, rfl⟩ := exists_opening isOpening
    obtain ⟨g, rfl⟩ := exists_group isLast
    refine ⟨⟨left ++ [g], none, none, none, by simp [len]⟩, ?_⟩
    have some_ := map_text_ne_nil (show 0 < left.length by omega)
    rw [flatMap_colon_after some_]
    simp [body, joined_append some_, joined]
  · obtain ⟨left, len, rfl⟩ := exists_opening isOpening
    obtain ⟨l, isBody⟩ := exists_compressed left [] none (by simp [len])
    refine ⟨l, ?_⟩
    have some_ := map_text_ne_nil (show 0 < left.length by omega)
    rw [isBody, flatMap_colon_after some_, mem_char.mp isColon]
    rfl

theorem exists_body_six (h : x ∈ (v6Opening 6 * (v4Str + char ':' * v6Seg + char ':')).matches') :
    ∃ l : Ipv6Literal, l.body = x := by
  obtain ⟨_, isOpening, _, (isQuad | ⟨_, isColon, _, isGroup, rfl⟩) | isColon, rfl⟩ := h
  · obtain ⟨left, len, rfl⟩ := exists_opening isOpening
    obtain ⟨q, rfl, -⟩ := exists_quad isQuad
    refine ⟨⟨left, none, some q, none, by simp [len]⟩, ?_⟩
    have some_ := map_text_ne_nil (show 0 < left.length by omega)
    rw [flatMap_colon_after some_]
    simp [body, joined_append some_, joined]
  · obtain ⟨left, len, rfl⟩ := exists_opening isOpening
    obtain ⟨g, rfl⟩ := exists_group isGroup
    obtain ⟨l, isBody⟩ := exists_compressed left [g] none (by simp [len])
    refine ⟨l, ?_⟩
    have some_ := map_text_ne_nil (show 0 < left.length by omega)
    rw [isBody, flatMap_colon_after some_, mem_char.mp isColon]
    simp [closingFields, joined]
  · obtain ⟨left, len, rfl⟩ := exists_opening isOpening
    obtain ⟨l, isBody⟩ := exists_compressed left [] none (by simp [len])
    refine ⟨l, ?_⟩
    have some_ := map_text_ne_nil (show 0 < left.length by omega)
    rw [isBody, flatMap_colon_after some_, mem_char.mp isColon]
    rfl

theorem exists_body_none
    (h : x ∈ (char ':' * (v6Closing 0 5 * char ':' * v4Str + v6Closing 1 7 + char ':')).matches') :
    ∃ l : Ipv6Literal, l.body = x := by
  obtain ⟨_, isColon, _, isClosing, rfl⟩ := h
  obtain ⟨right, tail, rfl, count⟩ := exists_compressed_closing isClosing
  obtain ⟨l, isBody⟩ := exists_compressed [] right tail (by simpa using count)
  exact ⟨l, by rw [isBody, mem_char.mp isColon]; rfl⟩

theorem exists_body (h : x ∈ v6Body.matches') : ∃ l : Ipv6Literal, l.body = x := by
  rcases h with ((((((full | six) | five) | four) | three) | two) | one) | none_
  · exact exists_body_full full
  · exact exists_body_six six
  · exact exists_body_compressed (by decide) (by decide) five
  · exact exists_body_compressed (by decide) (by decide) four
  · exact exists_body_compressed (by decide) (by decide) three
  · exact exists_body_compressed (by decide) (by decide) two
  · exact exists_body_compressed (by decide) (by decide) one
  · exact exists_body_none none_

theorem exists_literal (h : x ∈ (v6Body * v6Zone).matches') : ∃ l : Ipv6Literal, l.text = x := by
  rw [matches'_mul, mem_mul] at h
  obtain ⟨_, isBody, zone, isZone, rfl⟩ := h
  obtain ⟨l, rfl⟩ := exists_body isBody
  rw [v6Zone, matches'_add, mem_add, matches'_epsilon, mem_one] at isZone
  rcases isZone with rfl | isZone
  · exact ⟨{ l with zone := none }, rfl⟩
  · rw [matches'_mul, mem_mul] at isZone
    obtain ⟨_, isPercent, name, -, rfl⟩ := isZone
    rw [mem_char.mp isPercent]
    exact ⟨{ l with zone := some name }, rfl⟩

theorem isIP_family (x : List Char) : isIP x = 0 ∨ isIP x = 4 ∨ isIP x = 6 := by
  unfold isIP
  split
  · exact .inr (.inl rfl)
  · split
    · exact .inr (.inr rfl)
    · exact .inl rfl

theorem exists_quad_of_isIP (h : isIP x = 4) : ∃ q : Quad, q.text = x := by
  unfold isIP at h
  split at h
  · rename_i matched
    exact (exists_quad ((rmatch_iff_matches' _ _).mp matched)).imp fun _ hit => hit.1
  · split at h <;> cases h

theorem exists_literal_of_isIP (h : isIP x = 6) : ∃ l : Ipv6Literal, l.text = x := by
  unfold isIP at h
  split at h
  · cases h
  · split at h
    · rename_i matched
      exact exists_literal ((rmatch_iff_matches' _ _).mp matched)
    · cases h

end Grammar

end Idenplane.Security
