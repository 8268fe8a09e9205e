import Idenplane.Lib.Numerals

/-! # Search filters of directories

The grammar of the text form of LDAP search filters.  The value of an item is made of octets, which
are written in UTF-8 or as `\hh`; its pieces stand between asterisks.
-/

namespace LdapFilters

open List Text Option

inductive Connective where
  | and
  | or

def Connective.sign : Connective → Char
  | .and => '&'
  | .or => '|'

inductive Filter where
  | list (connective : Connective) (parts : List Filter)
  | not (part : Filter)
  /-- The attribute with what else stands before the `=`, and the pieces of the value. -/
  | item (left : List Char) (pieces : List (List UInt8))

def isSpecial (c : Char) : Bool :=
  c == '\x00' || c == '(' || c == ')' || c == '*' || c == '\\'

def octets : List Char → Option (List UInt8)
  | [] => some []
  | '\\' :: a :: b :: rest => do
    let high ← hexDigit a
    let low ← hexDigit b
    let more ← octets rest
    some (UInt8.ofNat (16 * high + low) :: more)
  | c :: rest =>
    if isSpecial c then none else (octets rest).map (String.utf8EncodeChar c ++ ·)

/-- These are the values of the pieces. -/
def IsValue (text : List Char) (pieces : List (List UInt8)) : Prop :=
  (split '*' text).map octets = pieces.map some

def isKeychar (c : Char) : Bool := c.isAlphanum || c == '-'

def isDescr : List Char → Bool
  | [] => false
  | c :: rest => c.isAlpha && rest.all isKeychar

def isNumber (text : List Char) : Bool :=
  text.all Char.isDigit && (text.length == 1 || !text.isEmpty && text.head? != some '0')

def isOid (text : List Char) : Bool :=
  isDescr text || (2 ≤ (split '.' text).length && (split '.' text).all isNumber)

/-- An attribute description: an object identifier and options. -/
def isAttribute (text : List Char) : Bool :=
  isOid ((split ';' text).headD []) &&
    (split ';' text).tail.all fun option => !option.isEmpty && option.all isKeychar

/-- What may stand before the `=`, and whether asterisks may then stand in the value. -/
inductive Left : Bool → List Char → Prop where
  | equal {attr : List Char} (isAttr : isAttribute attr) : Left true attr
  | order {attr : List Char} (isAttr : isAttribute attr) {c : Char} (isOrder : c ∈ ['~', '>', '<']) :
    Left false (attr ++ [c])
  | extensible {attr dn rule : List Char} (isAttr : attr = [] ∨ isAttribute attr)
      (isDn : dn = [] ∨ dn.map Char.toLower = [':', 'd', 'n'])
      (isRule : rule = [] ∨ ∃ oid, isOid oid ∧ rule = ':' :: oid) (some_ : attr ≠ [] ∨ rule ≠ []) :
    Left false (attr ++ dn ++ rule ++ [':'])

/-- The text is a filter, and this is its tree. -/
inductive Derives : Filter → List Char → Prop where
  | list (connective : Connective) (parts : List (Filter × List Char)) (some_ : parts ≠ [])
      (each : ∀ p ∈ parts, Derives p.1 p.2) :
    Derives (.list connective (parts.map Prod.fst))
      ('(' :: connective.sign :: (parts.flatMap Prod.snd ++ [')']))
  | not {part : Filter} {text : List Char} (inner : Derives part text) :
    Derives (.not part) ('(' :: '!' :: (text ++ [')']))
  | item {free : Bool} {left right : List Char} {pieces : List (List UInt8)}
      (isLeft : Left free left) (isValue : IsValue right pieces)
      (plain : free = true ∨ pieces.length = 1) :
    Derives (.item left pieces) ('(' :: (left ++ '=' :: (right ++ [')'])))

/-- The characters that structure a filter. -/
def isMark (c : Char) : Bool := c ∈ ['(', ')', '&', '|', '!', '=']

variable {c : Char} {text : List Char}

theorem cut_inj {as bs cs ds : List Char} (absent : c ∉ as) (absent' : c ∉ bs)
    (same : as ++ c :: cs = bs ++ c :: ds) : as = bs ∧ cs = ds := by
  induction as generalizing bs with
  | nil =>
    cases bs with
    | nil => exact ⟨rfl, (cons.inj same).2⟩
    | cons b bs => exact absurd ((cons.inj same).1 ▸ mem_cons_self) absent'
  | cons a as ih =>
    cases bs with
    | nil => exact absurd ((cons.inj same).1 ▸ mem_cons_self) absent
    | cons b bs =>
      obtain ⟨first, rest⟩ := cons.inj same
      obtain ⟨same, tails⟩ := ih (fun mem => absent (.tail _ mem)) (fun mem => absent' (.tail _ mem)) rest
      exact ⟨by rw [first, same], tails⟩

theorem mem_split {sep : Char} (mem : c ∈ text) (other : c ≠ sep) :
    ∃ piece ∈ split sep text, c ∈ piece := by
  induction text with
  | nil => cases mem
  | cons d rest ih =>
    rw [split]
    split
    case isTrue same =>
      rcases mem_cons.mp mem with rfl | mem
      · exact absurd same other
      · obtain ⟨piece, isPiece, inside⟩ := ih mem
        exact ⟨piece, .tail _ isPiece, inside⟩
    case isFalse =>
      obtain ⟨piece, more, isSplit⟩ := exists_cons_of_ne_nil (split_ne_nil sep rest)
      rw [isSplit]
      rcases mem_cons.mp mem with rfl | mem
      · exact ⟨c :: piece, mem_cons_self, mem_cons_self⟩
      · obtain ⟨p, isPiece, inside⟩ := ih mem
        rw [isSplit] at isPiece
        rcases mem_cons.mp isPiece with rfl | isPiece
        · exact ⟨d :: p, mem_cons_self, .tail _ inside⟩
        · exact ⟨p, .tail _ isPiece, inside⟩

theorem isMark_apart (mark : isMark c) : isKeychar c = false ∧ c.isDigit = false ∧ c.isAlpha = false ∧
    c.toLower = c ∧ c ≠ '.' ∧ c ≠ ';' ∧ c ≠ ':' ∧ c ∉ ['~', '>', '<'] ∧ c ≠ 'd' ∧ c ≠ 'n' := by
  simp only [isMark, decide_eq_true_eq, mem_cons, not_mem_nil, or_false] at mark
  rcases mark with rfl | rfl | rfl | rfl | rfl | rfl <;> decide

theorem isOid_absent (mark : isMark c) (isOid : isOid text) : c ∉ text := by
  obtain ⟨noKey, noDigit, noAlpha, -, noDot, -⟩ := isMark_apart mark
  intro mem
  simp only [LdapFilters.isOid, Bool.or_eq_true, Bool.and_eq_true] at isOid
  rcases isOid with descr | ⟨-, numbers⟩
  · cases text with
    | nil => cases mem
    | cons d rest =>
      simp only [isDescr, Bool.and_eq_true] at descr
      rcases mem_cons.mp mem with rfl | mem
      · exact absurd (noAlpha.symm.trans descr.1) (by decide)
      · exact absurd (noKey.symm.trans (all_eq_true.mp descr.2 c mem)) (by decide)
  · obtain ⟨piece, isPiece, inside⟩ := mem_split mem noDot
    have number := all_eq_true.mp numbers piece isPiece
    simp only [isNumber, Bool.and_eq_true] at number
    exact absurd (noDigit.symm.trans (all_eq_true.mp number.1 c inside)) (by decide)

theorem isAttribute_absent (mark : isMark c) (isAttr : isAttribute text) : c ∉ text := by
  obtain ⟨noKey, -, -, -, -, noSemicolon, -⟩ := isMark_apart mark
  intro mem
  obtain ⟨piece, isPiece, inside⟩ := mem_split mem noSemicolon
  simp only [isAttribute, Bool.and_eq_true] at isAttr
  obtain ⟨oid, options⟩ := isAttr
  cases isSplit : split ';' text with
  | nil => exact split_ne_nil _ _ isSplit
  | cons first rest =>
    rw [isSplit] at isPiece oid options
    rcases mem_cons.mp isPiece with rfl | isPiece
    · exact isOid_absent mark oid inside
    · have option := all_eq_true.mp options piece isPiece
      simp only [Bool.and_eq_true] at option
      exact absurd (noKey.symm.trans (all_eq_true.mp option.2 c inside)) (by decide)

theorem Left.absent {free : Bool} (left : Left free text) (mark : isMark c) : c ∉ text := by
  obtain ⟨-, -, -, lower, -, -, noColon, noOrder, noD, noN⟩ := isMark_apart mark
  cases left with
  | equal isAttr => exact isAttribute_absent mark isAttr
  | order isAttr isOrder =>
    simp only [mem_append, mem_singleton, not_or]
    exact ⟨isAttribute_absent mark isAttr, fun same => noOrder (same ▸ isOrder)⟩
  | @extensible attr dn rule isAttr isDn isRule =>
    simp only [mem_append, mem_singleton, not_or]
    refine ⟨⟨⟨?_, ?_⟩, ?_⟩, noColon⟩
    · rcases isAttr with rfl | isAttr
      · exact not_mem_nil
      · exact isAttribute_absent mark isAttr
    · rcases isDn with rfl | isDn
      · exact not_mem_nil
      · intro mem
        have image := mem_map_of_mem (f := Char.toLower) mem
        rw [isDn, lower] at image
        simp [noColon, noD, noN] at image
    · rcases isRule with rfl | ⟨oid, isOid, rfl⟩
      · exact not_mem_nil
      · rw [mem_cons, not_or]
        exact ⟨noColon, isOid_absent mark isOid⟩

theorem octets_absent {values : List UInt8} (paren : c = '(' ∨ c = ')')
    (isValue : octets text = some values) : c ∉ text := by
  induction text using octets.induct generalizing values with
  | case1 => exact not_mem_nil
  | case2 a b rest ih =>
    simp only [octets, bind_eq_bind, bind_eq_some_iff] at isValue
    obtain ⟨high, isHigh, low, isLow, more, isMore, -⟩ := isValue
    simp only [mem_cons, not_or]
    refine ⟨?_, ?_, ?_, ih isMore⟩
    · rcases paren with rfl | rfl <;> decide
    · rintro rfl
      rcases paren with rfl | rfl <;> cases isHigh
    · rintro rfl
      rcases paren with rfl | rfl <;> cases isLow
  | case3 d rest other special =>
    rw [octets, if_pos special] at isValue
    · cases isValue
    · exact other
  | case4 d rest other plain ih =>
    rw [octets, if_neg plain] at isValue
    · obtain ⟨more, isMore, -⟩ := map_eq_some_iff.mp isValue
      rw [mem_cons, not_or]
      refine ⟨?_, ih isMore⟩
      rintro rfl
      rcases paren with rfl | rfl <;> exact plain rfl
    · exact other

theorem octets_escape {a b : Char} {rest : List Char} {high low : Nat}
    (isHigh : hexDigit a = some high) (isLow : hexDigit b = some low) :
    octets ('\\' :: a :: b :: rest) = (octets rest).map (UInt8.ofNat (16 * high + low) :: ·) := by
  rw [octets, isHigh, isLow]
  cases octets rest with
  | none => rfl
  | some values => rfl

theorem IsValue.absent {pieces : List (List UInt8)} (isValue : IsValue text pieces)
    (paren : c = '(' ∨ c = ')') : c ∉ text := by
  intro mem
  have other : c ≠ '*' := by
    rcases paren with rfl | rfl <;> decide
  obtain ⟨piece, isPiece, inside⟩ := mem_split mem other
  have image := mem_map_of_mem (f := octets) isPiece
  rw [isValue] at image
  obtain ⟨values, -, same⟩ := mem_map.mp image
  exact octets_absent paren same.symm inside

theorem IsValue.unique {values values' : List (List UInt8)} (isValue : IsValue text values)
    (isValue' : IsValue text values') : values = values' :=
  (some_injective _).list_map (isValue.symm.trans isValue')

theorem Derives.opens {f : Filter} (derives : Derives f text) : ∃ rest, text = '(' :: rest := by
  cases derives with
  | list => exact ⟨_, rfl⟩
  | not => exact ⟨_, rfl⟩
  | item => exact ⟨_, rfl⟩

variable {f f' : Filter}

theorem Derives.pair {text' : List Char} (connective : Connective)
    (derives : Derives f text) (derives' : Derives f' text') :
    Derives (.list connective [f, f']) ('(' :: connective.sign :: (text ++ (text' ++ [')']))) := by
  have each : ∀ p ∈ [(f, text), (f', text')], Derives p.1 p.2 := by
    simp [derives, derives']
  simpa using Derives.list connective [(f, text), (f', text')] (by simp) each

theorem Left.apart {free : Bool} {left rest rest' ys ys' : List Char} (isLeft : Left free left)
    (mark : isMark c) (other : c ≠ '=') :
    '(' :: c :: rest ++ ys ≠ '(' :: (left ++ '=' :: rest') ++ ys' := by
  intro same
  have tails := (cons.inj same).2
  cases left with
  | nil => exact other (cons.inj tails).1
  | cons d left => exact isLeft.absent mark ((cons.inj tails).1 ▸ mem_cons_self)

theorem Connective.sign_mark (connective : Connective) :
    isMark connective.sign ∧ connective.sign ≠ '=' ∧ connective.sign ≠ '!' := by
  cases connective <;> decide

/-- Two lists of filters before a closing parenthesis are the same, when the first one's filters
can be told from all others. -/
theorem parts_unique {parts parts' : List (Filter × List Char)} {ys ys' : List Char}
    (opens : ∀ p ∈ parts, ∃ rest, p.2 = '(' :: rest) (each' : ∀ p ∈ parts', Derives p.1 p.2)
    (told : ∀ p ∈ parts, ∀ {f text ys ys'}, Derives f text → p.2 ++ ys = text ++ ys' →
      p.1 = f ∧ p.2 = text)
    (same : parts.flatMap Prod.snd ++ ')' :: ys = parts'.flatMap Prod.snd ++ ')' :: ys') :
    parts = parts' := by
  induction parts generalizing parts' with
  | nil =>
    cases parts' with
    | nil => rfl
    | cons p' parts' =>
      obtain ⟨rest, isText⟩ := (each' p' mem_cons_self).opens
      simp [isText] at same
  | cons p parts ih =>
    cases parts' with
    | nil =>
      obtain ⟨rest, isText⟩ := opens p mem_cons_self
      simp [isText] at same
    | cons p' parts' =>
      simp only [flatMap_cons, append_assoc] at same
      obtain ⟨tree, isText⟩ := told p mem_cons_self (each' p' mem_cons_self) same
      rw [isText] at same
      rw [Prod.ext tree isText, ih (fun q mem => opens q (.tail _ mem))
        (fun q mem => each' q (.tail _ mem)) (fun q mem => told q (.tail _ mem))
        (append_cancel_left same)]

/-- The grammar is unambiguous, and no filter is the beginning of another. -/
theorem Derives.unique {text' ys ys' : List Char} (derives : Derives f text)
    (derives' : Derives f' text') (same : text ++ ys = text' ++ ys') : f = f' ∧ text = text' := by
  induction derives generalizing f' text' ys ys' with
  | list connective parts some_ each ih =>
    cases derives' with
    | list connective' parts' some_' each' =>
      simp only [cons_append, append_assoc, cons.injEq, true_and, nil_append] at same
      obtain ⟨sign, same⟩ := same
      have connectives : connective = connective' := by
        cases connective <;> cases connective' <;> first | rfl | cases sign
      rw [parts_unique (fun p mem => (each p mem).opens) each'
        (fun p mem => ih p mem) same, connectives]
      exact ⟨rfl, rfl⟩
    | not => exact absurd (cons.inj (cons.inj same).2).1 connective.sign_mark.2.2
    | item isLeft =>
      exact absurd same (isLeft.apart connective.sign_mark.1 connective.sign_mark.2.1)
  | not inner ih =>
    cases derives' with
    | list connective =>
      exact absurd (cons.inj (cons.inj same).2).1.symm connective.sign_mark.2.2
    | not inner' =>
      simp only [cons_append, append_assoc, cons.injEq, true_and] at same
      obtain ⟨rfl, rfl⟩ := ih inner' same
      exact ⟨rfl, rfl⟩
    | item isLeft => exact absurd same (isLeft.apart rfl (by decide))
  | item isLeft isValue plain =>
    cases derives' with
    | list connective =>
      exact absurd same.symm (isLeft.apart connective.sign_mark.1 connective.sign_mark.2.1)
    | not => exact absurd same.symm (isLeft.apart rfl (by decide))
    | item isLeft' isValue' =>
      simp only [cons_append, append_assoc, cons.injEq, true_and, nil_append] at same
      obtain ⟨rfl, rights⟩ := cut_inj (isLeft.absent rfl) (isLeft'.absent rfl) same
      obtain ⟨rfl, -⟩ := cut_inj (isValue.absent (.inr rfl)) (isValue'.absent (.inr rfl)) rights
      rw [isValue.unique isValue']
      exact ⟨rfl, rfl⟩

theorem Derives.tree_unique (derives : Derives f text) (derives' : Derives f' text) : f = f' :=
  (derives.unique derives' (rfl : text ++ [] = text ++ [])).1

end LdapFilters
