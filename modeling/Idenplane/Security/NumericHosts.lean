import Idenplane.Security.SafePost

/-! # Hosts that are numbers

The network takes `0x7f.1` and `2130706433` for addresses.  The platform does not, and the
classifier of hostnames reads them itself.
-/

namespace Idenplane.Security

open RegularExpression Numerals Text Char List

/-- A number in decimal, octal or hexadecimal. -/
inductive Part : List Char → Nat → Prop where
  | decimal {text : List Char} : text ≠ [] → (∀ c ∈ text, c.isDigit = true) →
      text = ['0'] ∨ text.head? ≠ some '0' → Part text (value 10 text)
  | octal {digits : List Char} : digits ≠ [] → (∀ c ∈ digits, '0' ≤ c ∧ c ≤ '7') →
      Part ('0' :: digits) (value 8 digits)
  | hex {x : Char} {digits : List Char} : x = 'x' ∨ x = 'X' → digits ≠ [] →
      (∀ c ∈ digits, (Text.hexDigit c).isSome = true) → Part ('0' :: x :: digits) (value 16 digits)

/-- Parts with dots between them. -/
inductive Dotted : List Char → List Nat → Prop where
  | one {a : List Char} {i : Nat} : Part a i → Dotted a [i]
  | cons {a rest : List Char} {i : Nat} {values : List Nat} : Part a i → Dotted rest values →
      Dotted (a ++ '.' :: rest) (i :: values)

/-- The last of up to four parts fills the bytes that are left. -/
inductive Fills : List Nat → Nat → Prop where
  | one {i : Nat} : i < 4294967296 → Fills [i] i
  | two {i j : Nat} : i < 256 → j < 16777216 → Fills [i, j] (i * 16777216 + j)
  | three {i j k : Nat} : i < 256 → j < 256 → k < 65536 →
      Fills [i, j, k] ((i * 256 + j) * 65536 + k)
  | four {i j k l : Nat} : i < 256 → j < 256 → k < 256 → l < 256 →
      Fills [i, j, k, l] (((i * 256 + j) * 256 + k) * 256 + l)

/-- What `inet_aton` reads as the address. -/
def Spelling (text : List Char) (n : Nat) : Prop := ∃ values, Dotted text values ∧ Fills values n

section Parts

variable {text : List Char} {n : Nat} {c : Char}

def PartChar (c : Char) : Prop := (Text.hexDigit c).isSome = true ∨ c = 'x' ∨ c = 'X'

instance (c : Char) : Decidable (PartChar c) := inferInstanceAs (Decidable (_ ∨ _))

theorem isDigit_of_octal (octal : '0' ≤ c ∧ c ≤ '7') : c.isDigit = true := by
  simp only [isDigit, and_eq_true, decide_eq_true_eq]
  exact ⟨octal.1, UInt32.le_trans octal.2 (by decide)⟩

theorem Part.chars (part : Part text n) (mem : c ∈ text) : PartChar c := by
  cases part with
  | decimal _ ds => exact .inl (hexDigit_of_isDigit (ds c mem))
  | octal _ ds =>
    rcases mem_cons.mp mem with rfl | inDigits
    · exact .inl rfl
    · exact .inl (hexDigit_of_isDigit (isDigit_of_octal (ds c inDigits)))
  | hex isX _ ds =>
    simp only [mem_cons] at mem
    rcases mem with rfl | rfl | inDigits
    · exact .inl rfl
    · exact .inr isX
    · exact .inl (ds c inDigits)

theorem Part.ne_nil (part : Part text n) : text ≠ [] := by
  cases part with
  | decimal given => exact given
  | octal => exact cons_ne_nil _ _
  | hex => exact cons_ne_nil _ _

theorem partChar_cases {P : Char → Prop} (isChar : PartChar c)
    (each : ∀ n < 128, PartChar (ofNat n) → P (ofNat n)) : P c := by
  have ascii : c.toNat < 128 := by
    rcases isChar with isDigit | rfl | rfl
    · exact hexDigit_ascii isDigit
    · decide
    · decide
  exact Text.forall_ascii (P := fun c => PartChar c → P c) each c ascii isChar

theorem Part.not_mem (part : Part text n) (other : ¬ PartChar c) : c ∉ text :=
  fun mem => other (part.chars mem)

theorem Part.lower (part : Part text n) : Part (text.map toLower) n := by
  have digits_lower {digits : List Char} (digits_ : ∀ c ∈ digits, c.isDigit = true) :
      digits.map toLower = digits := by
    rw [map_congr_left fun c mem => toLower_of_isDigit (digits_ c mem), map_id']
  cases part with
  | decimal given digits leading =>
    rw [digits_lower digits]
    exact .decimal given digits leading
  | @octal ds given digits =>
    have zero : toLower '0' = '0' := by decide
    rw [map_cons, zero, digits_lower fun c mem => isDigit_of_octal (digits c mem)]
    exact .octal given digits
  | @hex x ds isX given digits =>
    have zero : toLower '0' = '0' := by decide
    have isX' : x.toLower = 'x' := by rcases isX with rfl | rfl <;> decide
    rw [map_cons, map_cons, zero, isX', ← value_lower digits]
    refine .hex (.inl rfl) (by simpa using given) fun c mem => ?_
    obtain ⟨d, isDigit, rfl⟩ := mem_map.mp mem
    rw [hexDigit_toLower (digits d isDigit)]
    exact digits d isDigit

theorem parse_part (part : Part text n) : parseNumericIpv4Segment text = some n := by
  cases part with
  | decimal given digits leading =>
    rcases leading with rfl | leading
    · rfl
    · obtain ⟨c, rest, rfl⟩ := exists_cons_of_ne_nil given
      have other : c ≠ '0' := by simpa using leading
      have all : (c.isDigit && rest.all isDigit) = true := by simpa using digits
      rw [parseNumericIpv4Segment, all, if_pos rfl]
      · simp [other]
      · simp [other]
  | @octal ds given digits =>
    obtain ⟨d, rest, rfl⟩ := exists_cons_of_ne_nil given
    have notX : ¬(d = 'x' ∨ d = 'X') := by
      have isDigit := isDigit_of_octal (digits d mem_cons_self)
      rintro (rfl | rfl) <;> cases isDigit
    rw [parseNumericIpv4Segment]
    simp only [notX, false_and, if_false]
    rw [if_pos (by simpa using digits)]
  | @hex x ds isX given digits =>
    rw [parseNumericIpv4Segment]
    have isHex : (!ds.isEmpty && ds.all fun c => (Text.hexDigit c).isSome) = true := by
      simpa [given] using digits
    simp only [isX, isHex, and_self, if_true]

end Parts

section Spellings

variable {text : List Char} {n : Nat} {values : List Nat}

theorem ofNat_shiftLeft (n shift : Nat) :
    BitVec.ofNat 32 n <<< shift = BitVec.ofNat 32 (n * 2 ^ shift) := by
  apply BitVec.eq_of_toNat_eq
  simp [Nat.shiftLeft_eq]

theorem ofNat_or {n m : Nat} (shift : Nat) (aligned : 2 ^ shift ∣ n) (small : m < 2 ^ shift)
    (total : n + m < 2 ^ 32) :
    BitVec.ofNat 32 n ||| BitVec.ofNat 32 m = BitVec.ofNat 32 (n + m) := by
  obtain ⟨high, rfl⟩ := aligned
  apply BitVec.eq_of_toNat_eq
  rw [BitVec.toNat_or, toNat_ofNat, toNat_ofNat, toNat_ofNat,
    mod_eq_of_lt (by omega), mod_eq_of_lt (by omega), mod_eq_of_lt total,
    Nat.two_pow_add_eq_or_of_lt small]

theorem Fills.combined (fills : Fills values n) :
    combineSegments values = some (BitVec.ofNat 32 n) := by
  cases fills with
  | one i =>
    rw [combineSegments, if_neg (by omega)]
  | two i j =>
    rw [combineSegments, if_neg (by omega), ofNat_shiftLeft,
      ofNat_or 24 (by omega) (by omega) (by omega)]
    exact congrArg (fun n => some (BitVec.ofNat 32 n)) (by omega)
  | three i j k =>
    rw [combineSegments, if_neg (by omega), ofNat_shiftLeft, ofNat_shiftLeft,
      ofNat_or 24 (by omega) (by omega) (by omega), ofNat_or 16 (by omega) (by omega) (by omega)]
    exact congrArg (fun n => some (BitVec.ofNat 32 n)) (by omega)
  | four i j k l =>
    rw [combineSegments, if_neg (by omega), ofNat_shiftLeft, ofNat_shiftLeft, ofNat_shiftLeft,
      ofNat_or 24 (by omega) (by omega) (by omega), ofNat_or 16 (by omega) (by omega) (by omega),
      ofNat_or 8 (by omega) (by omega) (by omega)]
    exact congrArg (fun n => some (BitVec.ofNat 32 n)) (by omega)

namespace Dotted

variable (dotted : Dotted text values)

include dotted

theorem chars : ∀ c ∈ text, PartChar c ∨ c = '.' := by
  induction dotted with
  | one part => exact fun _ mem => .inl (part.chars mem)
  | cons part _ ih =>
    intro c mem
    rcases mem_append.mp mem with inPart | inRest
    · exact .inl (part.chars inPart)
    · exact (mem_cons.mp inRest).elim .inr (ih c)

theorem lower : Dotted (text.map toLower) values := by
  induction dotted with
  | one part => exact .one part.lower
  | cons part _ ih =>
    rw [map_append]
    exact .cons part.lower ih

theorem ends : ∃ c, text.getLast? = some c ∧ c ≠ '.' := by
  induction dotted with
  | one part =>
    refine ⟨_, getLast?_eq_some_getLast part.ne_nil, fun isDot => ?_⟩
    exact part.not_mem (by decide) (isDot ▸ getLast_mem part.ne_nil)
  | cons _ _ ih =>
    obtain ⟨c, isLast, other⟩ := ih
    exact ⟨c, by simp [getLast?_append, getLast?_cons, isLast], other⟩

theorem parsed : (split '.' text).length = values.length ∧
    (split '.' text).mapM parseNumericIpv4Segment = some values := by
  induction dotted with
  | one part =>
    rw [Text.split_of_not_mem (part.not_mem (by decide))]
    simp [parse_part part]
  | cons part _ ih =>
    rw [Text.split_append (part.not_mem (by decide))]
    simp [parse_part part, ih]

end Dotted

/-- Numbers with a dot or without are read as the address that they spell. -/
theorem normalize_spelling (spelled : Spelling text n) :
    normalizeNumericIpv4Literal text = some (bigIntToIpv4 (BitVec.ofNat 32 n).toNat) := by
  obtain ⟨values, dotted, fills⟩ := spelled
  obtain ⟨len, parsed⟩ := dotted.parsed
  have atMost : values.length ≤ 4 := by cases fills <;> simp
  rw [normalizeNumericIpv4Literal, if_neg (by omega), parsed]
  simp [fills.combined]

theorem Spelling.small (spelled : Spelling text n) : n < 2 ^ 32 := by
  obtain ⟨values, -, fills⟩ := spelled
  cases fills <;> omega

theorem Spelling.unique {m : Nat} (spelled : Spelling text n) (other : Spelling text m) : n = m := by
  have small := spelled.small
  have small' := other.small
  obtain ⟨values, dotted, fills⟩ := spelled
  obtain ⟨values', dotted', fills'⟩ := other
  obtain rfl : values = values' :=
    some.inj (dotted.parsed.2.symm.trans dotted'.parsed.2)
  have same := congrArg BitVec.toNat (some.inj (fills.combined.symm.trans fills'.combined))
  simp only [toNat_ofNat] at same
  omega

theorem part_of_canonical {o : Octet} (canonical : isCanonical o.text = true) : Part o.text o.value := by
  simp only [isCanonical, isOctet, isOctetText, and_eq_true, decide_eq_true_eq,
    or_eq_true, beq_iff_eq, bne_iff_ne] at canonical
  refine .decimal ?_ o.digits canonical.2
  rintro isNil
  simp [isNil] at canonical

/-- What the platform calls an address is spelled in the decimal way. -/
theorem quad_spelling {q : Quad}
    (canonical : ∀ o ∈ [q.a, q.b, q.c, q.d], isCanonical o.text = true) :
    Spelling q.text q.value := by
  have part {o : Octet} (mem : o ∈ [q.a, q.b, q.c, q.d]) : Part o.text o.value :=
    part_of_canonical (canonical o mem)
  have small (o : Octet) : o.value < 256 := Nat.lt_succ_of_le o.small
  exact ⟨[q.a.value, q.b.value, q.c.value, q.d.value],
    .cons (part (by simp)) (.cons (part (by simp)) (.cons (part (by simp)) (.one (part (by simp))))),
    .four (small _) (small _) (small _) (small _)⟩

theorem Ipv6Literal.colon_mem (l : Ipv6Literal) : ':' ∈ l.text := by
  have two (fields : List (List Char)) (atLeast : 2 ≤ fields.length) : ':' ∈ joined fields := by
    match fields, atLeast with
    | f :: g :: rest, _ => simp [joined]
  apply mem_append_left
  have count := l.count
  unfold Ipv6Literal.body
  cases isRight : l.right with
  | none =>
    rw [isRight] at count
    apply two
    simp only [length_append, length_map]
    omega
  | some right => simp

/-- The host is classified as its address is, whether the platform reads it or not. -/
theorem host_blocked (spelled : Spelling text n) : (if isIP text ≠ 0 then isBlockedIp text
    else match normalizeNumericIpv4Literal text with
      | some normalized => isBlockedIpv4 normalized
      | none => false) = true ↔ BlockedV4 n := by
  have small := spelled.small
  rcases isIP_family text with isName | isFour | isSix
  · obtain ⟨q, isText, isValue⟩ := bigIntToIpv4_eq (BitVec.ofNat 32 n).toNat
    have same : q.value = n := by
      rw [isValue, toNat_ofNat]
      omega
    simp only [isName, ne_eq, not_true_eq_false, if_false, normalize_spelling spelled, isText]
    rw [isBlockedIpv4_iff, same]
  · have matched : v4Str.rmatch text = true := by
      by_contra other
      rw [isIP, if_neg other] at isFour
      split at isFour <;> cases isFour
    obtain ⟨q, rfl, canonical⟩ := exists_quad ((rmatch_iff_matches' _ _).mp matched)
    rw [if_pos (by omega), isBlockedIp, if_pos isFour, isBlockedIpv4_iff,
      (quad_spelling canonical).unique spelled]
  · obtain ⟨l, rfl⟩ := exists_literal_of_isIP isSix
    obtain ⟨values, dotted, -⟩ := spelled
    exact absurd (dotted.chars ':' l.colon_mem) (by decide)

/-- Every way to spell an address, in any case, with spaces around it and a dot behind it, is
blocked exactly when the address is. -/
theorem numeric_hosts_closed {toLowerCase : List Char → List Char}
    (ascii : ∀ text, (∀ c ∈ text, c.val < 128) → toLowerCase text = text.map toLower)
    {left right dot : List Char} (pre : ∀ c ∈ left, isSpace c = true)
    (after : ∀ c ∈ right, isSpace c = true) (optional_ : dot = [] ∨ dot = ['.'])
    (spelled : Spelling text n) :
    isBlockedHostnameLiteral toLowerCase (left ++ (text ++ dot) ++ right) = true ↔ BlockedV4 n := by
  obtain ⟨values, dotted, fills⟩ := spelled
  have lowered := dotted.lower
  obtain ⟨c, isLast, other⟩ := lowered.ends
  have each {P : Char → Prop} (point : P '.')
      (rest : ∀ n < 128, PartChar (ofNat n) → P (ofNat n)) : ∀ c ∈ text ++ dot, P c := by
    intro c mem
    rcases mem_append.mp mem with inText | inDot
    · rcases dotted.chars c inText with isChar | rfl
      · exact partChar_cases isChar rest
      · exact point
    · rcases optional_ with rfl | rfl
      · cases inDot
      · rwa [mem_singleton.mp inDot]
  have given : text ≠ [] := by
    rintro rfl
    cases isLast
  have trimmed := trim_around pre after (by simp [given] : text ++ dot ≠ [])
    (each (P := fun c => isSpace c = false) (by decide) (by decide +kernel))
  have lowerCase := ascii (text ++ dot)
    (each (P := fun c => c.val < 128) (by decide) (by decide +kernel))
  have absent {d : Char} (point : '.' ≠ d)
      (rest : ∀ n < 128, PartChar (ofNat n) → (ofNat n).toLower ≠ d) :
      d ∉ (text ++ dot).map toLower := by
    intro mem
    obtain ⟨c, inHost, isD⟩ := mem_map.mp mem
    exact each (P := fun c => c.toLower ≠ d) point rest c inHost isD
  have noBracket : '[' ∉ (text ++ dot).map toLower := absent (by decide) (by decide +kernel)
  have noL : 'l' ∉ text.map toLower := by
    intro mem
    exact absent (by decide) (by decide +kernel) (map_append ▸ mem_append_left _ mem)
  have isHost : withoutRootDot (withoutBrackets ((text ++ dot).map toLower)) =
      text.map toLower := by
    rw [withoutBrackets, if_neg fun both => noBracket (mem_of_head? both.1), withoutRootDot,
      map_append]
    rcases optional_ with rfl | rfl
    · simp [isLast, other]
    · have point : toLower '.' = '.' := by decide
      have long : 1 < (text.map toLower ++ ['.']).length := by
        have := length_pos_of_ne_nil given
        simpa
      rw [map_singleton, point, if_pos ⟨getLast?_concat, long⟩, dropLast_concat]
  have some_ : (text.map toLower).isEmpty = false := by simpa using given
  rw [isBlockedHostnameLiteral, trimmed, lowerCase, isHost]
  simp only [some_, false_eq_true, if_false, if_neg (not_localhost noL)]
  exact host_blocked ⟨values, lowered, fills⟩

/-- `0x7F.1` is the loopback address. -/
theorem hex_loopback_blocked :
    isBlockedHostnameLiteral (·.map toLower) " 0x7F.1. ".toList = true := by
  have part : Part "0x7F".toList 127 :=
    .hex (.inl rfl) (by decide) (all_eq_true.mp (by decide : "7F".toList.all _ = true))
  have last : Part "1".toList 1 :=
    .decimal (by decide) (all_eq_true.mp (by decide : "1".toList.all _ = true)) (.inr (by decide))
  have space : ∀ c ∈ [' '], isSpace c = true := forall_mem_singleton.mpr rfl
  exact (numeric_hosts_closed (fun _ _ => rfl) space space (.inr rfl)
    ⟨_, .cons part (.one last), .two (by decide) (by decide)⟩).mpr
    ⟨(ipv4 127 0 0 0, 8), by decide, by decide⟩

end Spellings

end Idenplane.Security
