import Idenplane.Auth.Authorize
import Idenplane.Lib.DotSegments

/-! # Where a registered redirect URI leads

A pattern is compared with the text of a URI; the browser follows the URI only after it has
removed the dot segments.
-/

namespace Idenplane.Auth

open DotSegments List Text

structure RedirectTarget where
  (scheme authority : List Char)
  segments : List (List Char)

def endsAuthority (c : Char) : Bool := c = '/' || c = '?' || c = '#'

def endsPath (c : Char) : Bool := c = '?' || c = '#'

def segmentsOf : List Char → List (List Char)
  | [] => []
  | _ :: path => split '/' path

def parseTarget (uri : List Char) : RedirectTarget :=
  let hierarchical := (uri.dropWhile (· != ':')).drop 3
  { scheme := uri.takeWhile (· != ':')
    authority := hierarchical.takeWhile (!endsAuthority ·)
    segments := segmentsOf ((hierarchical.dropWhile (!endsAuthority ·)).takeWhile (!endsPath ·)) }

/-- The pattern `scheme://authority/path/*`.  The path is empty or begins with a slash. -/
structure Wildcard where
  (scheme authority path : List Char)
  schemeEnds : ∀ c ∈ scheme, (c != ':') = true
  authorityEnds : ∀ c ∈ authority, (!endsAuthority c) = true
  pathEnds : ∀ c ∈ path, (!endsPath c) = true
  rooted : path = [] ∨ ∃ rest, path = '/' :: rest

namespace Wildcard

def base (w : Wildcard) : List Char := w.scheme ++ "://".toList ++ w.authority ++ w.path

def pattern (w : Wildcard) : String := .ofList (w.base ++ "/*".toList)

/-- The browser goes to the path of the pattern, or below. -/
def Confines (w : Wildcard) (uri : String) : Prop :=
  (parseTarget uri.toList).scheme = w.scheme ∧ (parseTarget uri.toList).authority = w.authority ∧
    walk [] (segmentsOf w.path) <+: removeDotSegments (parseTarget uri.toList).segments

/-- What follows the base, up to the query, goes no higher than the base, or comes back to it. -/
def StaysBelow (w : Wildcard) (uri : String) : Prop :=
  ∀ rest, uri.toList = w.base ++ '/' :: rest →
    Returns (walk [] (segmentsOf w.path)) (split '/' (rest.takeWhile (!endsPath ·)))

variable (w : Wildcard)

theorem parseTarget_base {tail : List Char} (isTail : tail = [] ∨ ∃ rest, tail = '/' :: rest) :
    parseTarget (w.base ++ tail) = { scheme := w.scheme, authority := w.authority
                                     segments := segmentsOf (w.path ++ tail.takeWhile (!endsPath ·)) } := by
  have hierarchical : ((w.base ++ tail).dropWhile (· != ':')).drop 3 =
      w.authority ++ (w.path ++ tail) := by
    simp [base, dropWhile_append_of_pos w.schemeEnds]
  have scheme : (w.base ++ tail).takeWhile (· != ':') = w.scheme := by
    simp [base, takeWhile_append_of_pos w.schemeEnds]
  have ends : (w.path ++ tail).takeWhile (!endsAuthority ·) = [] ∧
      (w.path ++ tail).dropWhile (!endsAuthority ·) = w.path ++ tail := by
    rcases w.rooted with none_ | ⟨rest, some_⟩
    · rcases isTail with rfl | ⟨rest, rfl⟩ <;> simp [none_, endsAuthority]
    · simp [some_, endsAuthority]
  rw [parseTarget, hierarchical, scheme]
  simp only [takeWhile_append_of_pos w.authorityEnds, ends.1, append_nil,
    dropWhile_append_of_pos w.authorityEnds, ends.2,
    takeWhile_append_of_pos w.pathEnds]

theorem segmentsOf_below (rest : List Char) :
    segmentsOf (w.path ++ '/' :: rest) = segmentsOf w.path ++ split '/' rest := by
  rcases w.rooted with none_ | ⟨path, some_⟩
  · rw [none_]
    rfl
  · rw [some_]
    exact split_joined '/' path rest

theorem matches_pattern (uri : String) : matchesRedirectUri uri [w.pattern] = true ↔
    uri.toList = w.base ∨ ∃ rest, uri.toList = w.base ++ '/' :: rest := by
  have ends : "/*".toList.isSuffixOf w.pattern.toList = true := by
    simp only [isSuffixOf_iff_suffix, pattern, toList_ofList]
    exact suffix_append _ _
  have isBase : w.pattern.toList.dropLast = w.base ++ ['/'] := by
    simp [pattern]
  simp only [matchesRedirectUri, any_cons, any_nil, Bool.or_false, ends, if_true, isBase,
    dropLast_concat, or_eq_true, decide_eq_true_eq, isPrefixOf_iff_prefix]
  refine or_congr_right ⟨?_, ?_⟩
  · rintro ⟨rest, same⟩
    exact ⟨rest, by rw [← same, append_assoc]; rfl⟩
  · rintro ⟨rest, same⟩
    exact ⟨rest, by rw [same, append_assoc]; rfl⟩

theorem confines_iff {uri : String} (ok : matchesRedirectUri uri [w.pattern] = true) :
    w.Confines uri ↔ w.StaysBelow uri := by
  unfold Confines StaysBelow
  rcases (w.matches_pattern uri).mp ok with same | ⟨rest, same⟩
  · have target := w.parseTarget_base (.inl rfl : [] = [] ∨ ∃ rest, [] = '/' :: rest)
    rw [append_nil] at target
    rw [same, target]
    constructor
    · intro _ rest longer
      simp at longer
    · intro _
      refine ⟨rfl, rfl, ?_⟩
      rw [takeWhile_nil, append_nil]
      exact prefix_append _ _
  · rw [same, w.parseTarget_base (.inr ⟨rest, rfl⟩), takeWhile_cons_of_pos (by rfl),
      w.segmentsOf_below]
    simp only [true_and, append_cancel_left_eq, cons.injEq, forall_eq']
    exact prefix_iff_returns _ (split_ne_nil _ _)

end Wildcard

theorem matches_exact {uri pattern : String}
    (exact_ : "/*".toList.isSuffixOf pattern.toList = false) :
    matchesRedirectUri uri [pattern] = true ↔ uri = pattern := by
  simp only [matchesRedirectUri, any_cons, any_nil, Bool.or_false, exact_,
    false_eq_true, if_false, decide_eq_true_eq]
  exact eq_comm

/-- A URI that a wildcard accepts leads to the path of the pattern, or below, exactly when what
follows does not climb higher and stay away.  Any other pattern accepts only itself. -/
theorem redirects_confined_iff (w : Wildcard) (uri : String)
    (ok : matchesRedirectUri uri [w.pattern] = true) :
    (w.Confines uri ↔ w.StaysBelow uri) ∧ ∀ uri pattern : String,
      "/*".toList.isSuffixOf pattern.toList = false →
        (matchesRedirectUri uri [pattern] = true ↔ uri = pattern) :=
  ⟨w.confines_iff ok, fun _ _ => matches_exact⟩

section Example

/-- `https://app.example/cb/*` -/
def callbacks : Wildcard where
  scheme := "https".toList
  authority := "app.example".toList
  path := "/cb".toList
  schemeEnds := all_eq_true.mp (by decide)
  authorityEnds := all_eq_true.mp (by decide)
  pathEnds := all_eq_true.mp (by decide)
  rooted := .inr ⟨_, rfl⟩

theorem callback_confined : callbacks.Confines "https://app.example/cb/a/../b?x=/.." := by
  refine ((redirects_confined_iff callbacks _ (by decide)).1).mpr fun rest same => ?_
  have isRest : "a/../b?x=/..".toList = rest := by
    have tails : '/' :: "a/../b?x=/..".toList = '/' :: rest := append_cancel_left
      (show callbacks.base ++ _ = callbacks.base ++ _ from same)
    exact (cons.inj tails).2
  rw [← isRest]
  decide

theorem callback_escapes : callbacks.pattern = "https://app.example/cb/*" ∧
      matchesRedirectUri "https://app.example/cb/%2e%2E/login" [callbacks.pattern] = true ∧
      ¬callbacks.Confines "https://app.example/cb/%2e%2E/login" := by
  unfold Wildcard.Confines
  decide

end Example

end Idenplane.Auth
