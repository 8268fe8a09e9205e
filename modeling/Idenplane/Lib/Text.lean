import Mathlib.Data.List.Basic
import Mathlib.Data.List.TakeWhile

/-! # Text

The few operations on JavaScript strings that the services use, by recursion on
the characters.
-/

namespace Text

open List Char

/-- `text.split(separator)` for a one-character separator. -/
def split (separator : Char) : List Char → List (List Char)
  | [] => [[]]
  | c :: rest =>
    if c = separator then [] :: split separator rest
    else
      match split separator rest with
      | [] => [[c]]
      | piece :: more => (c :: piece) :: more

variable {sep : Char}

theorem split_of_not_mem {text : List Char} (absent : sep ∉ text) : split sep text = [text] := by
  induction text with
  | nil => rfl
  | cons c rest ih =>
    rw [mem_cons, not_or] at absent
    rw [split, if_neg (Ne.symm absent.1), ih absent.2]

theorem split_append {piece : List Char} (absent : sep ∉ piece) (rest : List Char) :
    split sep (piece ++ sep :: rest) = piece :: split sep rest := by
  induction piece with
  | nil => simp [split]
  | cons c piece ih =>
    rw [mem_cons, not_or] at absent
    rw [cons_append, split, if_neg (Ne.symm absent.1), ih absent.2]

theorem split_ne_nil (sep : Char) (text : List Char) : split sep text ≠ [] := by
  cases text with
  | nil => simp [split]
  | cons c rest =>
    unfold split
    split
    · simp
    · split <;> simp

/-- The pieces around a separator are the pieces before it and those after it. -/
theorem split_joined (sep : Char) (text rest : List Char) :
    split sep (text ++ sep :: rest) = split sep text ++ split sep rest := by
  induction text with
  | nil => simp [split]
  | cons c text ih =>
    rw [cons_append, split, split, ih]
    by_cases here : c = sep
    · rw [if_pos here, if_pos here, cons_append]
    · rw [if_neg here, if_neg here]
      obtain ⟨piece, more, isSplit⟩ := exists_cons_of_ne_nil (split_ne_nil sep text)
      rw [isSplit, cons_append, cons_append]

theorem head?_split (text : List Char) :
    (split sep text).head? = some (text.takeWhile (· ≠ sep)) := by
  induction text with
  | nil => rfl
  | cons c text ih =>
    rw [split]
    by_cases here : c = sep
    · simp [here]
    · obtain ⟨piece, more, isSplit⟩ := exists_cons_of_ne_nil (split_ne_nil sep text)
      rw [isSplit, head?_cons, Option.some.injEq] at ih
      simp [here, isSplit, ih]

/-- What stands between the first separator and the next. -/
def second (separator : Char) (text : List Char) : Option (List Char) :=
  match text.dropWhile (· ≠ separator) with
  | [] => none
  | _ :: rest => some (rest.takeWhile (· ≠ separator))

theorem split_getElem?_one (text : List Char) : (split sep text)[1]? = second sep text := by
  unfold second
  induction text with
  | nil => rfl
  | cons c text ih =>
    rw [split]
    by_cases here : c = sep
    · simp [here, ← head?_eq_getElem?, head?_split]
    · obtain ⟨piece, more, isSplit⟩ := exists_cons_of_ne_nil (split_ne_nil sep text)
      rw [isSplit] at ih
      simpa [here, isSplit] using ih

/-- With one separator the rest of the text is all there is behind it. -/
theorem second_of_count {text part : List Char} (once : text.count sep ≤ 1)
    (isSecond : second sep text = some part) :
    ∃ front, text = front ++ sep :: part ∧ sep ∉ part := by
  unfold second at isSecond
  split at isSecond
  · cases isSecond
  · rename_i c rest dropped
    have isSep : c = sep := by
      have stops := head?_dropWhile_not (· ≠ sep) text
      rw [dropped] at stops
      simpa using stops
    subst isSep
    have parts : text = text.takeWhile (· ≠ c) ++ c :: rest := by
      rw [← dropped, takeWhile_append_dropWhile]
    have absent : c ∉ rest := by
      rw [parts, count_append, count_cons_self] at once
      exact count_eq_zero.mp (by omega)
    have whole : rest.takeWhile (· ≠ c) = rest := by
      apply takeWhile_eq_self_iff.mpr
      intro d mem
      simpa using fun same : d = c => absent (same ▸ mem)
    rw [whole, Option.some.injEq] at isSecond
    rw [← isSecond]
    exact ⟨_, parts, absent⟩

theorem exists_split_of_mem {text : List Char} (present : sep ∈ text) :
    ∃ first snd rest, split sep text = first :: snd :: rest := by
  induction text with
  | nil => cases present
  | cons c text ih =>
    rw [split]
    by_cases here : c = sep
    · obtain ⟨snd, rest, pieces⟩ := exists_cons_of_ne_nil (split_ne_nil sep text)
      exact ⟨[], snd, rest, by rw [if_pos here, pieces]⟩
    · have later : sep ∈ text := by
        cases present with
        | head => exact absurd rfl here
        | tail _ later => exact later
      obtain ⟨first, snd, rest, pieces⟩ := ih later
      exact ⟨c :: first, snd, rest, by rw [if_neg here, pieces]⟩

/-- A text is its pieces and what stands between them. -/
theorem split_cons {text piece : List Char} {rest : List (List Char)}
    (isSplit : split sep text = piece :: rest) :
    sep ∉ piece ∧ (rest = [] ∧ text = piece ∨
      ∃ later, text = piece ++ sep :: later ∧ split sep later = rest) := by
  induction text generalizing piece rest with
  | nil =>
    cases isSplit
    exact ⟨not_mem_nil, .inl ⟨rfl, rfl⟩⟩
  | cons c text ih =>
    rw [split] at isSplit
    by_cases here : c = sep
    · rw [if_pos here] at isSplit
      cases isSplit
      exact ⟨not_mem_nil, .inr ⟨text, by rw [here]; rfl, rfl⟩⟩
    · rw [if_neg here] at isSplit
      obtain ⟨first, more, isMore⟩ :=
        exists_cons_of_ne_nil (split_ne_nil sep text)
      rw [isMore] at isSplit
      cases isSplit
      obtain ⟨absent, shape⟩ := ih isMore
      refine ⟨?_, ?_⟩
      · intro mem
        cases mem with
        | head => exact here rfl
        | tail _ mem => exact absent mem
      · cases shape with
        | inl whole => exact .inl ⟨whole.1, by rw [whole.2]⟩
        | inr parts =>
          obtain ⟨later, isText, isRest⟩ := parts
          exact .inr ⟨later, by rw [isText, cons_append], isRest⟩

theorem split_four {text a b c d : List Char} (isSplit : split sep text = [a, b, c, d]) :
    text = a ++ sep :: (b ++ sep :: (c ++ sep :: d)) ∧ sep ∉ b ∧ sep ∉ c ∧ sep ∉ d := by
  obtain ⟨_, ⟨none_, _⟩ | ⟨first, isText, isFirst⟩⟩ := split_cons isSplit
  · cases none_
  · obtain ⟨noB, ⟨none_, _⟩ | ⟨snd, isFirst', isSecond⟩⟩ := split_cons isFirst
    · cases none_
    · obtain ⟨noC, ⟨none_, _⟩ | ⟨third, isSecond', isThird⟩⟩ := split_cons isSecond
      · cases none_
      · obtain ⟨noD, ⟨_, isThird'⟩ | ⟨_, _, more⟩⟩ := split_cons isThird
        · rw [isText, isFirst', isSecond', isThird']
          exact ⟨rfl, noB, noC, noD⟩
        · exact absurd more (split_ne_nil _ _)

def words (separator : Char) (text : String) : List String :=
  ((split separator text.toList).filter (!·.isEmpty)).map String.ofList

/-- Joining pieces without the separator and splitting the text again gives the pieces. -/
theorem split_intercalate {pieces : List (List Char)}
    (absent : ∀ piece ∈ pieces, sep ∉ piece) (some_ : pieces ≠ []) :
    split sep ([sep].intercalate pieces) = pieces := by
  induction pieces with
  | nil => exact absurd rfl some_
  | cons piece rest ih =>
    have here := absent piece mem_cons_self
    cases rest with
    | nil => rw [intercalate_singleton, split_of_not_mem here]
    | cons next more =>
      have later := ih (fun piece mem => absent piece (.tail _ mem)) (cons_ne_nil _ _)
      rw [intercalate_cons_cons, append_assoc, singleton_append, split_append here, later]

theorem words_intercalate {names : List String}
    (plain : ∀ name ∈ names, ' ' ∉ name.toList ∧ name ≠ "") :
    words ' ' (" ".intercalate names) = names := by
  cases names with
  | nil => rfl
  | cons name rest =>
    have absent : ∀ piece ∈ (name :: rest).map String.toList, ' ' ∉ piece := by
      intro piece mem
      obtain ⟨name, isName, rfl⟩ := mem_map.mp mem
      exact (plain name isName).1
    have nonempty : ∀ piece ∈ (name :: rest).map String.toList, (!piece.isEmpty) = true := by
      intro piece mem
      obtain ⟨name, isName, rfl⟩ := mem_map.mp mem
      simpa using (plain name isName).2
    rw [words, String.toList_intercalate]
    rw [show " ".toList = [' '] from rfl, split_intercalate absent (by simp),
      filter_eq_self.mpr nonempty, map_map]
    simp

theorem words_joined (ns : List String) :
    words ' ' (" ".intercalate ns) = ns.flatMap (words ' ') := by
  have pieces (parts : List (List Char)) :
      (split ' ' ([' '].intercalate parts)).filter (!·.isEmpty) =
        parts.flatMap fun part => (split ' ' part).filter (!·.isEmpty) := by
    induction parts with
    | nil => rfl
    | cons part rest ih =>
      cases rest with
      | nil => rw [intercalate_singleton, flatMap_singleton]
      | cons next more =>
        rw [intercalate_cons_cons, append_assoc, singleton_append, split_joined, filter_append, ih]
        rfl
  rw [words, String.toList_intercalate, show " ".toList = [' '] from rfl, pieces, flatMap_map,
    map_flatMap]
  rfl

/-- The characters `\s` matches and `trim` removes. -/
def isSpace (c : Char) : Bool :=
  c.val ∈ [0x9, 0xa, 0xb, 0xc, 0xd, 0x20, 0xa0, 0x1680, 0x2028, 0x2029, 0x202f, 0x205f, 0x3000,
    0xfeff] || (0x2000 ≤ c.val && c.val ≤ 0x200a)

def trim (text : String) : String :=
  String.ofList (((text.toList.dropWhile isSpace).reverse.dropWhile isSpace).reverse)

def removeSpaces (text : String) : String :=
  String.ofList (text.toList.filter (!isSpace ·))

/-- `text.length`, counted in UTF-16 units. -/
def utf16Length (text : List Char) : Nat :=
  text.foldl (fun units c => units + if c.val < 0x10000 then 1 else 2) 0

/-- `Buffer.from(text).length`. -/
def utf8Length (text : List Char) : Nat :=
  text.foldl (fun bytes c => bytes + c.utf8Size) 0

def isExponent : List Char → Bool
  | [] => true
  | e :: rest =>
    let digits := match rest with
      | '+' :: digits | '-' :: digits => digits
      | digits => digits
    (e == 'e' || e == 'E') && !digits.isEmpty && digits.all isDigit

def isDecimal (text : List Char) : Bool :=
  let whole := text.takeWhile isDigit
  match text.dropWhile isDigit with
  | '.' :: rest =>
    let fraction := rest.takeWhile isDigit
    !(whole.isEmpty && fraction.isEmpty) && isExponent (rest.dropWhile isDigit)
  | rest => !whole.isEmpty && isExponent rest

def infinity : List Char := "Infinity".toList

theorem forall_ascii {P : Char → Prop} (each : ∀ n < 128, P (ofNat n)) (c : Char)
    (ascii : c.toNat < 128) : P c := by
  have here := each c.toNat ascii
  rwa [ofNat_toNat] at here

def hexDigit (c : Char) : Option Nat :=
  if '0' ≤ c ∧ c ≤ '9' then some (c.toNat - '0'.toNat)
  else if 'a' ≤ c ∧ c ≤ 'f' then some (c.toNat - 'a'.toNat + 10)
  else if 'A' ≤ c ∧ c ≤ 'F' then some (c.toNat - 'A'.toNat + 10)
  else none

def isRadixDigit (radix : Nat) (c : Char) : Bool :=
  match hexDigit c with
  | some value => value < radix
  | none => false

/-- `!isNaN(Number(text))`. -/
def isNumber (text : String) : Bool :=
  let unsigned (text : List Char) : Bool := text == infinity || isDecimal text
  match (trim text).toList with
  | [] => true
  | '+' :: rest | '-' :: rest => unsigned rest
  | '0' :: radix :: rest =>
    let digits (radix : Nat) : Bool := !rest.isEmpty && rest.all (isRadixDigit radix)
    match radix with
    | 'x' | 'X' => digits 16
    | 'o' | 'O' => digits 8
    | 'b' | 'B' => digits 2
    | _ => unsigned ('0' :: radix :: rest)
  | text => unsigned text

/-- `Buffer.from(text, 'hex')`: the bytes up to the first pair that is none. -/
def ofHex : List Char → List Nat
  | high :: low :: rest =>
    match hexDigit high, hexDigit low with
    | some h, some l => (16 * h + l) :: ofHex rest
    | _, _ => []
  | _ => []

def base64urlAlphabet : List Char :=
  "ABCDEFGHIJKLMNOPQRSTUVWXYZabcdefghijklmnopqrstuvwxyz0123456789-_".toList

def base64urlDigit (n : Nat) : Char := base64urlAlphabet.getD n 'A'

/-- `bytes.toString('base64url')`, without padding. -/
def base64url : List Nat → List Char
  | a :: b :: c :: rest =>
    base64urlDigit (a / 4) :: base64urlDigit (a % 4 * 16 + b / 16) ::
      base64urlDigit (b % 16 * 4 + c / 64) :: base64urlDigit (c % 64) :: base64url rest
  | [a, b] => [base64urlDigit (a / 4), base64urlDigit (a % 4 * 16 + b / 16),
      base64urlDigit (b % 16 * 4)]
  | [a] => [base64urlDigit (a / 4), base64urlDigit (a % 4 * 16)]
  | [] => []

end Text
