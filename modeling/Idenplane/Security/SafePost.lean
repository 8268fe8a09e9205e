import Idenplane.Security.SafeHttpClient

/-! # Requests go to the addresses that were validated

The classifier of hostnames answers for an address as the classifier of addresses does, also
after it has lowered the letters.  So a target that is validated has an address that is not
blocked, and the connection of a hop is made to the address of its target.
-/

namespace Idenplane.Security

open RegularExpression List Numerals Char Text

variable {c : Char} {hop : Nat} {rawUrl : String} {tgt : SafeTarget}

/-- What is relied on of the platform: the host of a web address has no percent sign, which is
forbidden in domains, and the case mapping is the usual one on ASCII texts. -/
structure Platform.Conforms (platform : Platform) : Prop where
  hostname_plain : ∀ text base url, platform.parseUrl text base = some url →
    url.protocol = "http:" ∨ url.protocol = "https:" → '%' ∉ url.hostname
  toLowerCase_ascii : ∀ text, (∀ c ∈ text, c.val < 128) →
    platform.toLowerCase text = text.map toLower

variable {text : List Char}

section Lowering

/-- What is matched is matched with its letters lowered. -/
def LowerClosed (P : RegularExpression Char) : Prop :=
  ∀ x ∈ P.matches', x.map toLower ∈ P.matches'

variable {P Q : RegularExpression Char}

section

variable (hP : LowerClosed P)

include hP

theorem LowerClosed.add (hQ : LowerClosed Q) : LowerClosed (P + Q) := by
  intro x mem
  exact mem.imp (hP x) (hQ x)

theorem LowerClosed.mul (hQ : LowerClosed Q) : LowerClosed (P * Q) := by
  intro x mem
  obtain ⟨a, inP, b, inQ, rfl⟩ := mem
  exact ⟨_, hP a inP, _, hQ b inQ, by rw [map_append]⟩

theorem LowerClosed.pow (k : Nat) : LowerClosed (P ^ k) := by
  intro x mem
  rw [matches'_pow, Language.mem_pow] at mem ⊢
  obtain ⟨S, rfl, len, each⟩ := mem
  refine ⟨S.map (map toLower), by simp [map_flatten], by simpa using len, ?_⟩
  intro y isRound
  obtain ⟨z, inS, rfl⟩ := mem_map.mp isRound
  exact hP z (each z inS)

theorem LowerClosed.times (m n : Nat) : LowerClosed (times P m n) := by
  unfold Security.times
  induction range (n + 1 - m) with
  | nil =>
    intro x mem
    simp [matches'_zero, Language.notMem_zero] at mem
  | cons k ks ih =>
    exact (hP.pow _).add ih

end

theorem lowerClosed_char (lower : c.toLower = c) : LowerClosed (char c) := by
  intro x mem
  rw [mem_char] at mem ⊢
  rw [mem, map_singleton, lower]

theorem lowerClosed_anyOf {characters : String}
    (closed : (characters.toList.all fun c => characters.toList.contains c.toLower) = true) :
    LowerClosed (anyOf characters) := by
  intro x mem
  rw [mem_anyOf] at mem ⊢
  obtain ⟨c, listed, rfl⟩ := mem
  exact ⟨c.toLower, contains_iff_mem.mp (all_eq_true.mp closed c listed), rfl⟩

theorem lowerClosed_v4Str : LowerClosed v4Str := by
  have digit_ : LowerClosed digit := lowerClosed_anyOf (by decide +kernel)
  have segment : LowerClosed v4Seg :=
    ((((((lowerClosed_char (by decide)).mul (lowerClosed_char (by decide))).mul
      (lowerClosed_anyOf (by decide +kernel))).add
      (((lowerClosed_char (by decide)).mul (lowerClosed_anyOf (by decide +kernel))).mul digit_)).add
      (((lowerClosed_char (by decide)).mul digit_).mul digit_)).add
      ((lowerClosed_anyOf (by decide +kernel)).mul digit_)).add digit_
  exact ((segment.mul (lowerClosed_char (by decide))).pow 3).mul segment

theorem lowerClosed_v6Body : LowerClosed v6Body := by
  have colon : LowerClosed (char ':') := lowerClosed_char (by decide)
  have segment : LowerClosed v6Seg := .times (lowerClosed_anyOf (by decide +kernel)) 1 4
  have opening : ∀ k, LowerClosed (v6Opening k) := fun k => (segment.mul colon).pow k
  have closing : ∀ m n, LowerClosed (v6Closing m n) := fun m n => (colon.mul segment).times m n
  have ending : ∀ m n, LowerClosed (v6Closing 0 m * char ':' * v4Str + v6Closing 1 n + char ':') :=
    fun m n => ((((closing 0 m).mul colon).mul lowerClosed_v4Str).add (closing 1 n)).add colon
  have compressed : ∀ k, LowerClosed (v6Compressed k) := fun k => (opening k).mul (ending _ _)
  have full := (opening 7).mul (segment.add colon)
  have six := (opening 6).mul ((lowerClosed_v4Str.add (colon.mul segment)).add colon)
  exact ((((((full.add six).add (compressed 5)).add (compressed 4)).add (compressed 3)).add
    (compressed 2)).add (compressed 1)).add (colon.mul (ending 5 7))

theorem hexDigit_ascii (isDigit : (Text.hexDigit c).isSome = true) : c.toNat < 128 := by
  have upTo : ∀ {d : Char}, c ≤ d → c.toNat ≤ d.toNat := fun le => UInt32.le_iff_toNat_le.mp le
  unfold Text.hexDigit at isDigit
  split at isDigit
  · rename_i range
    exact lt_of_le_of_lt (upTo range.2) (by decide)
  · split at isDigit
    · rename_i range
      exact lt_of_le_of_lt (upTo range.2) (by decide)
    · split at isDigit
      · rename_i range
        exact lt_of_le_of_lt (upTo range.2) (by decide)
      · cases isDigit

theorem hexDigit_toLower (isDigit : (Text.hexDigit c).isSome = true) :
    Text.hexDigit c.toLower = Text.hexDigit c := by
  have each := forall_ascii (P := fun c => (Text.hexDigit c).isSome = true →
    Text.hexDigit c.toLower = Text.hexDigit c) (by decide +kernel)
  exact each c (hexDigit_ascii isDigit) isDigit

theorem hexDigit_of_isDigit (isDigit : c.isDigit = true) : (Text.hexDigit c).isSome = true := by
  simp only [Char.isDigit, and_eq_true, decide_eq_true_eq] at isDigit
  have range : '0' ≤ c ∧ c ≤ '9' := isDigit
  simp [Text.hexDigit, range]

theorem toLower_of_isDigit (isDigit : c.isDigit = true) : c.toLower = c := by
  have each := forall_ascii (P := fun c => c.isDigit = true → c.toLower = c) (by decide +kernel)
  exact each c (hexDigit_ascii (hexDigit_of_isDigit isDigit)) isDigit

theorem Group.digits (g : Group) : ∀ c ∈ g.text, (Text.hexDigit c).isSome = true := by
  have ok := g.isGroup
  simp only [isGroupText, and_eq_true, all_eq_true] at ok
  exact ok.1.1

def Group.lower (g : Group) : Group where
  text := g.text.map toLower
  isGroup := by
    have ok := g.isGroup
    simp only [isGroupText, and_eq_true, all_eq_true, decide_eq_true_eq, length_map] at ok ⊢
    refine ⟨⟨?_, ok.1.2⟩, ok.2⟩
    intro c mem
    obtain ⟨d, inText, rfl⟩ := mem_map.mp mem
    rw [hexDigit_toLower (g.digits d inText)]
    exact g.digits d inText

theorem value_lower (all : ∀ c ∈ text, (Text.hexDigit c).isSome = true) :
    value 16 (text.map toLower) = value 16 text := by
  rw [value, value, foldl_map]
  apply foldl_ext
  intro n c mem
  rw [hexDigit_toLower (all c mem)]

theorem Group.value_lower (g : Group) : g.lower.value = g.value :=
  Security.value_lower g.digits

theorem Octet.digits (o : Octet) : ∀ c ∈ o.text, c.isDigit = true := by
  have ok := o.isOctet
  simp only [isOctetText, and_eq_true, all_eq_true] at ok
  exact ok.1.1

theorem Octet.lower_text (o : Octet) : o.text.map toLower = o.text := by
  rw [map_congr_left fun c mem => toLower_of_isDigit (o.digits c mem), map_id']

theorem Quad.lower_text (q : Quad) : q.text.map toLower = q.text := by
  have dot : toLower '.' = '.' := by decide
  simp [Quad.text, Octet.lower_text, dot]

theorem lower_joined (fs : List (List Char)) :
    (joined fs).map toLower = joined (fs.map (map toLower)) := by
  have colon : toLower ':' = ':' := by decide
  induction fs with
  | nil => rfl
  | cons f rest ih =>
    cases rest with
    | nil => rfl
    | cons g rest =>
      rw [joined_cons_cons, map_append, map_cons, ih, colon]
      rfl

def Ipv6Literal.lower (l : Ipv6Literal) : Ipv6Literal where
  left := l.left.map Group.lower
  right := l.right.map (List.map Group.lower)
  tail := l.tail
  zone := l.zone.map (List.map toLower)
  count := by
    have count := l.count
    cases isRight : l.right <;> simpa [isRight] using count

section Fields

variable (l : Ipv6Literal)

theorem Ipv6Literal.lower_left : l.lower.left = l.left.map Group.lower := rfl

theorem Ipv6Literal.lower_right : l.lower.right = l.right.map (List.map Group.lower) := rfl

theorem Ipv6Literal.lower_tail : l.lower.tail = l.tail := rfl

theorem Ipv6Literal.lower_zone : l.lower.zone = l.zone.map (List.map toLower) := rfl

end Fields

theorem Ipv6Literal.text_lower (l : Ipv6Literal) : l.lower.text = l.text.map toLower := by
  have colon : toLower ':' = ':' := by decide
  have percent : toLower '%' = '%' := by decide
  have groups : ∀ gs : List Group,
      (gs.map Group.lower).map Group.text = (gs.map Group.text).map (List.map toLower) := by
    simp [Group.lower]
  have tails : l.tail.toList.map Quad.text =
      (l.tail.toList.map Quad.text).map (List.map toLower) := by
    cases l.tail <;> simp [Quad.lower_text]
  have bodies : l.lower.body = l.body.map toLower := by
    rw [body, body, lower_left, lower_right, lower_tail]
    cases l.right with
    | none =>
      simp only [Option.map_none]
      rw [groups, tails, ← map_append, ← lower_joined, ← tails]
    | some right =>
      simp only [map_some]
      rw [groups, groups, tails, ← map_append, ← lower_joined, ← lower_joined, ← tails]
      simp [colon]
  rw [text, text, bodies, map_append]
  rw [lower_zone]
  cases l.zone <;> simp [percent]

theorem Ipv6Literal.value_lower (l : Ipv6Literal) : l.lower.value = l.value := by
  have values : ∀ gs : List Group, (gs.map Group.lower).map Group.value = gs.map Group.value := by
    simp [Group.value_lower]
  have same : l.lower.groupValues = l.groupValues := by
    rw [groupValues, groupValues, tailValues, tailValues, lower_left, lower_right, lower_tail,
      values]
    cases l.right with
    | none => rfl
    | some right => simp only [map_some, length_map, values]
  rw [value, value, same]

end Lowering

section Hostnames

def AddressChar (c : Char) : Prop := (Text.hexDigit c).isSome = true ∨ c = ':' ∨ c = '.'

theorem addressChar_cases {P : Char → Prop} (isChar : AddressChar c)
    (each : ∀ n < 128, AddressChar (ofNat n) → P (ofNat n)) : P c := by
  have ascii : c.toNat < 128 := by
    rcases isChar with isDigit | rfl | rfl
    · exact hexDigit_ascii isDigit
    · decide
    · decide
  exact forall_ascii (P := fun c => AddressChar c → P c) each c ascii isChar

instance (c : Char) : Decidable (AddressChar c) := inferInstanceAs (Decidable (_ ∨ _))

theorem Quad.mem_text {q : Quad} (mem : c ∈ q.text) : c.isDigit = true ∨ c = '.' := by
  simp only [Quad.text, mem_append, mem_cons] at mem
  rcases mem with inA | isDot | inB | isDot | inC | isDot | inD
  · exact .inl (q.a.digits c inA)
  · exact .inr isDot
  · exact .inl (q.b.digits c inB)
  · exact .inr isDot
  · exact .inl (q.c.digits c inC)
  · exact .inr isDot
  · exact .inl (q.d.digits c inD)

theorem Quad.addressChar {q : Quad} (mem : c ∈ q.text) : AddressChar c := by
  rcases Quad.mem_text mem with isDigit | isDot
  · exact .inl (hexDigit_of_isDigit isDigit)
  · exact .inr (.inr isDot)

variable {l : Ipv6Literal}

theorem Ipv6Literal.zone_eq_none (plain : '%' ∉ l.text) : l.zone = none := by
  cases isZone : l.zone with
  | none => rfl
  | some zone => simp [text, isZone] at plain

theorem Ipv6Literal.text_eq_body (plain : '%' ∉ l.text) : l.text = l.body := by
  simp [text, zone_eq_none plain]

theorem Ipv6Literal.addressChar (plain : '%' ∉ l.text) (mem : c ∈ l.text) : AddressChar c := by
  rw [text_eq_body plain, body_eq] at mem
  rcases mem_bodyWith mem with rfl | ⟨g, inside⟩ | ⟨f, isField, inside⟩
  · exact .inr (.inl rfl)
  · exact .inl (g.digits c inside)
  · obtain ⟨q, -, rfl⟩ := mem_map.mp isField
    exact Quad.addressChar inside

theorem Quad.getLast?_text (q : Quad) : q.text.getLast? ≠ some '.' := by
  have some_ : q.d.text ≠ [] := by
    intro empty
    have ok := q.d.isOctet
    simp [isOctetText, empty] at ok
  have same : q.text.getLast? = q.d.text.getLast? := by
    obtain ⟨c, rest, isText⟩ := exists_cons_of_ne_nil some_
    simp [Quad.text, getLast?_append, getLast?_cons, isText]
  rw [same]
  intro isDot
  have isDigit := q.d.digits '.' (mem_of_getLast? isDot)
  cases isDigit

theorem Ipv6Literal.getLast?_text (plain : '%' ∉ l.text) : l.text.getLast? ≠ some '.' := by
  rw [text_eq_body plain, body_eq]
  cases isTail : l.tail with
  | none =>
    intro isDot
    rcases mem_bodyWith (mem_of_getLast? isDot) with isColon | ⟨g, inside⟩ | ⟨f, isField, -⟩
    · exact absurd isColon (by decide)
    · exact g.not_mem rfl inside
    · simp at isField
  | some q =>
    obtain ⟨start, ends⟩ := l.exists_start isTail
    have same : (start ++ ':' :: q.text).getLast? = q.text.getLast? := by
      obtain ⟨c, rest, isText⟩ : ∃ c rest, q.text = c :: rest :=
        exists_cons_of_ne_nil (by simp [Quad.text])
      simp [getLast?_append, getLast?_cons, isText]
    rw [toList_some, map_singleton, ends _ (by simp), joined, same]
    exact q.getLast?_text

theorem isIP_eq_six_iff {x : List Char} :
    isIP x = 6 ↔ x ∉ v4Str.matches' ∧ x ∈ (v6Body * v6Zone).matches' := by
  rw [← rmatch_iff_matches', ← rmatch_iff_matches', isIP]
  grind

theorem mem_v6Body_of_plain {x : List Char} (mem : x ∈ (v6Body * v6Zone).matches')
    (plain : '%' ∉ x) : x ∈ v6Body.matches' := by
  rw [matches'_mul, Language.mem_mul] at mem
  obtain ⟨start, isBody, zone, isZone, rfl⟩ := mem
  rw [v6Zone, matches'_add, Language.mem_add, matches'_epsilon, Language.mem_one] at isZone
  rcases isZone with rfl | isZone
  · simpa using isBody
  · rw [matches'_mul, Language.mem_mul] at isZone
    obtain ⟨_, isPercent, name, -, rfl⟩ := isZone
    rw [mem_char.mp isPercent] at plain
    simp at plain

open Ipv6Literal

theorem isIP_lower (isSix : isIP l.text = 6) (plain : '%' ∉ l.text) : isIP l.lower.text = 6 := by
  obtain ⟨notFour, isBody⟩ := isIP_eq_six_iff.mp isSix
  have lowered := lowerClosed_v6Body _ (mem_v6Body_of_plain isBody plain)
  rw [l.text_lower]
  refine isIP_eq_six_iff.mpr ⟨fun isFour => notFour ?_, ?_⟩
  · -- the text would be made of digits and dots, which are not changed
    obtain ⟨q, isText, -⟩ := exists_quad isFour
    have same : l.text.map toLower = l.text := by
      refine (map_congr_left fun c mem => ?_).trans (map_id _)
      have isLowered : c.toLower ∈ q.text := by
        rw [isText]
        exact mem_map_of_mem mem
      have unchanged := addressChar_cases (P := fun c => c.toLower.isDigit = true ∨
        c.toLower = '.' → c.toLower = c) (addressChar plain mem) (by decide +kernel)
      exact unchanged (Quad.mem_text isLowered)
    rwa [same] at isFour
  · rw [matches'_mul, Language.mem_mul]
    exact ⟨_, lowered, [], by simp [v6Zone, matches'_add, Language.mem_add, Language.mem_one], by simp⟩

/-- An address without a zone denotes the same with its letters lowered. -/
theorem Denotes.lower {address : Address} (denotes : Denotes text address)
    (plain : '%' ∉ text) : Denotes (text.map toLower) address := by
  cases denotes with
  | quad q isFour =>
    rw [q.lower_text]
    exact .quad q isFour
  | literal l isSix =>
    rw [← l.text_lower, ← l.value_lower]
    exact .literal l.lower (isIP_lower isSix plain)

variable {addr : Address}

theorem Denotes.addressChar (denotes : Denotes text addr)
    (plain : '%' ∉ text) : ∀ c ∈ text, AddressChar c := by
  cases denotes with
  | quad q _ => exact fun c mem => Quad.addressChar mem
  | literal l _ => exact fun c mem => addressChar plain mem

theorem Denotes.getLast? (denotes : Denotes text addr)
    (plain : '%' ∉ text) : text.getLast? ≠ some '.' := by
  cases denotes with
  | quad q _ => exact q.getLast?_text
  | literal l _ => exact getLast?_text plain

theorem Denotes.isIP_ne_zero (denotes : Denotes text addr) : isIP text ≠ 0 := by
  cases denotes with
  | quad q isFour => omega
  | literal l isSix => omega

theorem trim_around {left text right : List Char} (pre : ∀ c ∈ left, isSpace c = true)
    (after : ∀ c ∈ right, isSpace c = true) (some_ : text ≠ [])
    (noSpace : ∀ c ∈ text, isSpace c = false) :
    (trim (String.ofList (left ++ text ++ right))).toList = text := by
  have kept : ∀ xs ys : List Char, xs ≠ [] → (∀ c ∈ xs, isSpace c = false) →
      (xs ++ ys).dropWhile isSpace = xs ++ ys := by
    intro xs ys isSome none_
    cases xs with
    | nil => exact absurd rfl isSome
    | cons c xs => simp [none_ c (by simp)]
  rw [trim, toList_ofList, toList_ofList, append_assoc,
    dropWhile_append_of_pos pre, kept text right some_ noSpace, reverse_append,
    dropWhile_append_of_pos fun c mem => after c (mem_reverse.mp mem)]
  have whole := kept text.reverse [] (by simpa using some_) fun c mem =>
    noSpace c (mem_reverse.mp mem)
  rw [append_nil] at whole
  rw [whole, reverse_reverse]

theorem lowered_ne (isChar : ∀ c ∈ text, AddressChar c) {d : Char}
    (other : ∀ n < 128, AddressChar (ofNat n) → (ofNat n).toLower ≠ d) :
    d ∉ text.map toLower := by
  intro mem
  obtain ⟨c, inText, lowered⟩ := mem_map.mp mem
  exact addressChar_cases (P := fun c => c.toLower ≠ d) (isChar c inText) other lowered

theorem withoutBrackets_lower {text host : List Char} (isChar : ∀ c ∈ text, AddressChar c)
    (spelled : host = text ∨ host = '[' :: (text ++ [']'])) :
    withoutBrackets (host.map toLower) = text.map toLower := by
  cases spelled with
  | inl bare =>
    have noBracket := lowered_ne isChar (d := '[') (by decide +kernel)
    rw [bare, withoutBrackets, if_neg fun both => noBracket (mem_of_head? both.1)]
  | inr bracketed =>
    have opening : toLower '[' = '[' := by decide
    have closing : toLower ']' = ']' := by decide
    rw [bracketed, map_cons, map_append, map_singleton, opening, closing]
    have last : ('[' :: (text.map toLower ++ [']'])).getLast? = some ']' := by
      rw [← cons_append, getLast?_concat]
    rw [withoutBrackets, if_pos ⟨rfl, last⟩, drop_succ_cons, drop_zero, dropLast_concat]

theorem withoutRootDot_lower (denotes : Denotes text addr)
    (plain : '%' ∉ text) : withoutRootDot (text.map toLower) = text.map toLower := by
  have last : (text.map toLower).getLast? ≠ some '.' := by
    intro isDot
    rw [getLast?_map, map_eq_some_iff] at isDot
    obtain ⟨c, isLast, lowered⟩ := isDot
    have unchanged := addressChar_cases (P := fun c => c.toLower = '.' → c = '.')
      (denotes.addressChar plain c (mem_of_getLast? isLast)) (by decide +kernel)
    rw [unchanged lowered] at isLast
    exact denotes.getLast? plain isLast
  rw [withoutRootDot, if_neg fun both => last both.1]

theorem not_localhost {host : List Char} (noL : 'l' ∉ host) :
    ¬(String.ofList host ∈ BLOCKED_HOSTNAME_LITERALS ∨ ".localhost".toList.isSuffixOf host = true) := by
  rintro (mem | suffix)
  · simp only [BLOCKED_HOSTNAME_LITERALS, mem_cons, not_mem_nil, or_false] at mem
    rcases mem with same | same <;>
    · rw [← toList_ofList (l := host), same] at noL
      exact noL (by decide)
  · exact noL ((isSuffixOf_iff_suffix.mp suffix).subset (by decide))

/-- A hostname that is an address, in brackets or not, is classified as the address is. -/
theorem isBlockedHostnameLiteral_address {platform : Platform} (conforms : platform.Conforms)
    {text host : List Char} (isAddress : isIP text ≠ 0) (plain : '%' ∉ text)
    (spelled : host = text ∨ host = '[' :: (text ++ [']'])) :
    isBlockedHostnameLiteral platform.toLowerCase host = isBlockedIp text := by
  obtain ⟨addr, denotes⟩ := exists_denotes isAddress
  have isChar := denotes.addressChar plain
  have lowered := denotes.lower plain
  have each {P : Char → Prop} (opening : P '[') (closing : P ']')
      (rest : ∀ n < 128, AddressChar (ofNat n) → P (ofNat n)) : ∀ c ∈ host, P c := by
    intro c mem
    rcases spelled with rfl | rfl
    · exact addressChar_cases (isChar c mem) rest
    · simp only [mem_cons, mem_append, not_mem_nil, or_false] at mem
      rcases mem with rfl | inText | rfl
      · exact opening
      · exact addressChar_cases (isChar c inText) rest
      · exact closing
  have given : host ≠ [] := by
    rcases spelled with rfl | rfl
    · rintro rfl
      exact isAddress (by decide +kernel)
    · exact cons_ne_nil _ _
  have trimmed := @trim_around [] host [] (by simp) (by simp) given
    (each (P := fun c => isSpace c = false) (by decide) (by decide) (by decide +kernel))
  rw [nil_append, append_nil] at trimmed
  have ascii := conforms.toLowerCase_ascii host
    (each (P := fun c => c.val < 128) (by decide) (by decide) (by decide +kernel))
  have noName := not_localhost (lowered_ne isChar (d := 'l') (by decide +kernel))
  have some_ : (text.map toLower).isEmpty = false := by
    cases isText : text with
    | nil => exact absurd (by rw [isText]; decide +kernel) isAddress
    | cons c text => rfl
  rw [isBlockedHostnameLiteral, trimmed, ascii, withoutBrackets_lower isChar spelled,
    withoutRootDot_lower denotes plain]
  simp only [some_, false_eq_true, if_false, if_neg noName, lowered.isIP_ne_zero, ne_eq,
    not_false_eq_true, if_true]
  exact isBlockedIp_congr denotes lowered

theorem not_blocked_of_hostname {platform : Platform} (conforms : platform.Conforms)
    {host : List Char} (isAddress : isIP host ≠ 0) (plain : '%' ∉ host)
    (passes : isBlockedHostnameLiteral platform.toLowerCase host = false) :
    isBlockedIp host = false := by
  rwa [isBlockedHostnameLiteral_address conforms isAddress plain (.inl rfl)] at passes

end Hostnames

section Targets

variable {process : Process} {network : Network}

theorem resolveName_not_blocked (closed : process.allowPrivateTargets ≠ some "true")
    {ans : Option (List LookupAddress)} {record : LookupAddress}
    (resolved : resolveName process ans = .ok record) : isBlockedIp record.address = false := by
  have notAllowed : privateTargetsAllowed process.allowPrivateTargets = false := by
    simpa [privateTargetsAllowed] using closed
  unfold resolveName at resolved
  split at resolved
  · cases resolved
  · cases resolved
  · simp only [notAllowed, false_eq_true, if_false] at resolved
    split at resolved
    · cases resolved
    · rename_i found
      cases resolved
      simpa using find?_some found

/-- A target is validated by its hostname, when that is an address, or by the answer of the
lookup. -/
theorem resolveSafeTarget_cases
    (resolved : resolveSafeTarget process network hop rawUrl = .ok tgt) :
    process.platform.parseUrl rawUrl none = some tgt.url ∧
      (tgt.url.protocol = "http:" ∨ tgt.url.protocol = "https:") ∧
      (privateTargetsAllowed process.allowPrivateTargets = true ∨
        isBlockedHostnameLiteral process.platform.toLowerCase tgt.url.hostname = false) ∧
      ((isIP tgt.url.hostname ≠ 0 ∧ tgt.pinnedAddress = tgt.url.hostname) ∨
        (isIP tgt.url.hostname = 0 ∧ ∃ record,
          resolveName process (network.lookup hop tgt.url.hostname) = .ok record ∧
          tgt.pinnedAddress = record.address)) := by
  unfold resolveSafeTarget at resolved
  split at resolved
  · cases resolved
  · rename_i url parsed
    split at resolved
    · cases resolved
    · rename_i web
      split at resolved
      · cases resolved
      · rename_i passes
        have protocol : url.protocol = "http:" ∨ url.protocol = "https:" := by
          by_contra other
          exact web (not_or.mp other)
        have passes : privateTargetsAllowed process.allowPrivateTargets = true ∨
            isBlockedHostnameLiteral process.platform.toLowerCase url.hostname = false := by
          simpa [or_iff_not_imp_left] using passes
        simp only at resolved
        split at resolved
        · rename_i isAddress
          have accepted : isIP url.hostname ≠ 0 := by omega
          cases resolved
          exact ⟨parsed, protocol, passes, .inl ⟨accepted, rfl⟩⟩
        · rename_i isName
          split at resolved
          · cases resolved
          · rename_i record isRecord
            have isZero : isIP url.hostname = 0 := (isIP_family url.hostname).resolve_right isName
            cases resolved
            exact ⟨parsed, protocol, passes, .inr ⟨isZero, record, isRecord, rfl⟩⟩

theorem pinnedAddress_not_blocked (conforms : process.platform.Conforms)
    (closed : process.allowPrivateTargets ≠ some "true")
    (resolved : resolveSafeTarget process network hop rawUrl = .ok tgt) :
    isBlockedIp tgt.pinnedAddress = false := by
  have notAllowed : privateTargetsAllowed process.allowPrivateTargets = false := by
    simpa [privateTargetsAllowed] using closed
  obtain ⟨parsed, web, passes, addr⟩ := resolveSafeTarget_cases resolved
  rcases addr with ⟨isAddress, pinned⟩ | ⟨-, record, isRecord, pinned⟩
  · have passes : isBlockedHostnameLiteral process.platform.toLowerCase tgt.url.hostname = false := by
      simpa [notAllowed] using passes
    rw [pinned]
    exact not_blocked_of_hostname conforms isAddress
      (conforms.hostname_plain _ _ _ parsed web) passes
  · rw [pinned]
    exact resolveName_not_blocked closed isRecord

theorem connectAddress_eq (resolved : resolveSafeTarget process network hop rawUrl = .ok tgt)
    {headers : List (String × String)} {addr : List Char}
    (connects : connectAddress (requestOptions tgt headers) = some addr) :
    addr = tgt.pinnedAddress := by
  obtain ⟨-, -, -, pinned⟩ := resolveSafeTarget_cases resolved
  have localhost : isIP "localhost".toList = 0 := by decide +kernel
  have answered : (if isIP tgt.pinnedAddress ≠ 0 then some tgt.pinnedAddress else none) =
      some addr → addr = tgt.pinnedAddress := by
    intro ans
    split at ans
    · exact (some.inj ans).symm
    · cases ans
  unfold connectAddress requestOptions at connects
  by_cases empty : tgt.url.hostname.isEmpty = true
  · simp only [empty, if_true, localhost, ne_eq, not_true_eq_false, if_false] at connects
    exact answered connects
  · simp only [empty, false_eq_true, if_false] at connects
    rcases pinned with ⟨isAddress, pinned⟩ | ⟨isName, -⟩
    · rw [if_pos isAddress] at connects
      rw [pinned]
      exact (some.inj connects).symm
    · rw [if_neg (not_not_intro isName)] at connects
      exact answered connects

end Targets

section Runs

variable (process : Process) (network : Network)

/-- The hop went where the validation that was made for it allows. -/
structure Hop.Sound (hop : Hop) : Prop where
  validated : resolveSafeTarget process network hop.number hop.rawUrl = .ok hop.target
  connected : ∀ address, hop.connection = some address →
    address = hop.target.pinnedAddress ∧ isBlockedIp address = false

variable {process network}

theorem sendPinnedRequest_sound (conforms : process.platform.Conforms)
    (closed : process.allowPrivateTargets ≠ some "true") (body : String)
    (headers : List (String × String))
    (resolved : resolveSafeTarget process network hop rawUrl = .ok tgt) :
    (sendPinnedRequest network hop rawUrl tgt body headers).1.number = hop ∧
      (sendPinnedRequest network hop rawUrl tgt body headers).1.Sound process network := by
  unfold sendPinnedRequest
  simp only
  split
  · exact ⟨rfl, resolved, fun _ none_ => by cases none_⟩
  · split
    · exact ⟨rfl, resolved, fun _ none_ => by cases none_⟩
    · rename_i address connects
      refine ⟨rfl, resolved, fun _ made => ?_⟩
      cases made
      have pinned := connectAddress_eq resolved connects
      rw [pinned]
      exact ⟨rfl, pinnedAddress_not_blocked conforms closed resolved⟩

theorem afterResponse_next {tgt next : SafeTarget} {res : PinnedRequestResult} {nextUrl : String}
    (follows : afterResponse process network hop tgt res = .next nextUrl next) :
    hop < MAX_REDIRECT_HOPS ∧ resolveSafeTarget process network (hop + 1) nextUrl = .ok next := by
  unfold afterResponse at follows
  split at follows
  · cases follows
  · split at follows
    · cases follows
    · split at follows
      · cases follows
      · rename_i below
        split at follows
        · cases follows
        · split at follows
          · cases follows
          · rename_i resolved
            cases follows
            exact ⟨by omega, resolved⟩

/-- What a round of the loop does: it ends the loop, or goes on to a target that was validated. -/
theorem safePostLoop_cases (process : Process) (network : Network) (body : String)
    (headers : List (String × String)) (hop : Nat) (rawUrl : String) (tgt : SafeTarget) :
    (∃ out, ∀ fuel, safePostLoop process network body headers (fuel + 1) hop rawUrl tgt =
      some ([(sendPinnedRequest network hop rawUrl tgt body headers).1], out)) ∨
    ∃ nextUrl next, hop < MAX_REDIRECT_HOPS ∧
      resolveSafeTarget process network (hop + 1) nextUrl = .ok next ∧
      ∀ fuel, safePostLoop process network body headers (fuel + 1) hop rawUrl tgt =
        (safePostLoop process network body headers fuel (hop + 1) nextUrl next).map
          fun (hops, out) =>
            ((sendPinnedRequest network hop rawUrl tgt body headers).1 :: hops, out) := by
  cases response : (sendPinnedRequest network hop rawUrl tgt body headers).2 with
  | error f => exact .inl ⟨.error .transport, fun fuel => by simp only [safePostLoop, response]⟩
  | ok res =>
    cases follows : afterResponse process network hop tgt res with
    | done out => exact .inl ⟨out, fun fuel => by simp only [safePostLoop, response, follows]⟩
    | next nextUrl next =>
      obtain ⟨below, resolved⟩ := afterResponse_next follows
      exact .inr ⟨_, _, below, resolved, fun fuel => by
        simp only [safePostLoop, response, follows]⟩

theorem safePostLoop_sound (conforms : process.platform.Conforms)
    (closed : process.allowPrivateTargets ≠ some "true") (body : String)
    (headers : List (String × String)) (left : Nat) :
    ∀ {hop : Nat} {rawUrl : String} {tgt : SafeTarget}, hop + left = MAX_REDIRECT_HOPS →
      resolveSafeTarget process network hop rawUrl = .ok tgt → ∃ hops out, (∀ fuel, left < fuel →
          safePostLoop process network body headers fuel hop rawUrl tgt = some (hops, out)) ∧
        hops.length ≤ left + 1 ∧ hops.map Hop.number = range' hop hops.length ∧
        ∀ h ∈ hops, h.Sound process network := by
  -- on the redirects that are left
  induction left using Nat.strong_induction_on with
  | _ left ih =>
    intro hop rawUrl tgt cnt resolved
    obtain ⟨n, sound⟩ := sendPinnedRequest_sound conforms closed body headers resolved
    rcases safePostLoop_cases process network body headers hop rawUrl tgt with
      ⟨out, ends⟩ | ⟨nextUrl, next, below, validated, goes⟩
    · refine ⟨[(sendPinnedRequest network hop rawUrl tgt body headers).1], out,
        fun fuel enough => ?_, by simp, by simp [n], by simpa using sound⟩
      obtain ⟨fuel, rfl⟩ := Nat.exists_eq_succ_of_ne_zero (show fuel ≠ 0 by omega)
      exact ends fuel
    · obtain ⟨hops, out, runs, len, numbers, all⟩ :=
        ih (left - 1) (by omega) (show hop + 1 + (left - 1) = MAX_REDIRECT_HOPS by omega) validated
      refine ⟨(sendPinnedRequest network hop rawUrl tgt body headers).1 :: hops, out,
        fun fuel enough => ?_, ?_, ?_, ?_⟩
      · obtain ⟨fuel, rfl⟩ := Nat.exists_eq_succ_of_ne_zero (show fuel ≠ 0 by omega)
        rw [goes, runs fuel (by omega), map_some]
      · rw [length_cons]
        omega
      · rw [map_cons, length_cons, range'_succ, n, numbers]
      · rw [forall_mem_cons]
        exact ⟨sound, all⟩

/-- Whatever the names resolve to and whatever the servers answer, the loop ends after at most
four requests, and every connection is made to the address that was validated for its hop, which
is not blocked. -/
theorem safePost_connects_to_validated_addresses (process : Process) (network : Network)
    (conforms : process.platform.Conforms) (closed : process.allowPrivateTargets ≠ some "true")
    (rawUrl body : String) (headers : List (String × String)) : ∃ hops out,
      (∀ fuel, MAX_REDIRECT_HOPS < fuel →
        safePost process network fuel rawUrl body headers = some (hops, out)) ∧
      hops.length ≤ MAX_REDIRECT_HOPS + 1 ∧ hops.map Hop.number = List.range hops.length ∧
      ∀ hop ∈ hops, resolveSafeTarget process network hop.number hop.rawUrl = .ok hop.target ∧
        ∀ addr, hop.connection = some addr →
          addr = hop.target.pinnedAddress ∧ isBlockedIp addr = false := by
  cases resolved : resolveSafeTarget process network 0 rawUrl with
  | error f =>
    exact ⟨[], .error f, fun fuel _ => by simp only [safePost, resolved], by simp, rfl, by simp⟩
  | ok tgt =>
    obtain ⟨hops, out, runs, len, numbers, all⟩ :=
      safePostLoop_sound conforms closed body headers MAX_REDIRECT_HOPS (Nat.zero_add _) resolved
    refine ⟨hops, out, fun fuel enough => ?_, len, ?_, fun hop mem => ?_⟩
    · simpa only [safePost, resolved] using runs fuel enough
    · rw [numbers, List.range_eq_range']
    · exact ⟨(all hop mem).validated, (all hop mem).connected⟩

def twoAddresses : Platform where
  parseUrl text _ :=
    if text = "http://93.184.216.34/" then
      some ⟨"http:", "93.184.216.34".toList, "", "/", "", "http://93.184.216.34/"⟩
    else if text = "http://127.0.0.1/" then
      some ⟨"http:", "127.0.0.1".toList, "", "/", "", "http://127.0.0.1/"⟩
    else none
  toLowerCase text := text.map toLower

def redirecting : Network where
  lookup _ _ := none
  reuses _ _ := false
  respond _ _ _ := .ok ⟨302, "", some (.text "http://127.0.0.1/")⟩

theorem safePost_connects_to_validated_addresses_redirected : ∃ hops out,
      safePost ⟨twoAddresses, none⟩ redirecting 4 "http://93.184.216.34/" "" [] = some (hops, out) ∧
      ∀ hop ∈ hops, ∀ addr, hop.connection = some addr → isBlockedIp addr = false := by
  have conforms : twoAddresses.Conforms := by
    constructor
    · intro text base url parsed _
      simp only [twoAddresses] at parsed
      split at parsed
      · cases parsed
        decide
      · split at parsed
        · cases parsed
          decide
        · cases parsed
    · intro text _
      rfl
  obtain ⟨hops, out, runs, -, -, all⟩ := safePost_connects_to_validated_addresses
    ⟨twoAddresses, none⟩ redirecting conforms (by simp) "http://93.184.216.34/" "" []
  exact ⟨hops, out, runs 4 (by decide), fun hop mem addr made => ((all hop mem).2 addr made).2⟩

end Runs

end Idenplane.Security
