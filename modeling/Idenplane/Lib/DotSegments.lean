import Mathlib.Data.List.Induction

/-! # Dot segments

The segments of a path, and what is left of them once `.` and `..` are followed.  A dot may be
percent-encoded.
-/

namespace DotSegments

open List

def decodeDots : List Char → List Char
  | [] => []
  | '%' :: '2' :: 'e' :: rest => '.' :: decodeDots rest
  | '%' :: '2' :: 'E' :: rest => '.' :: decodeDots rest
  | c :: rest => c :: decodeDots rest

def isDot (segment : List Char) : Bool := decodeDots segment = ['.']

def isDoubleDot (segment : List Char) : Bool := decodeDots segment = ['.', '.']

def follow (path : List (List Char)) (segment : List Char) : List (List Char) :=
  if isDoubleDot segment then path.dropLast else if isDot segment then path else path ++ [segment]

def walk (path segments : List (List Char)) : List (List Char) := segments.foldl follow path

/-- What follows the last `/`: nothing, after a dot segment. -/
def ending (segments : List (List Char)) : List (List Char) :=
  if segments.getLast?.any fun segment => isDot segment || isDoubleDot segment then [[]] else []

def removeDotSegments (segments : List (List Char)) : List (List Char) :=
  walk [] segments ++ ending segments

/-- How many segments of the path before are taken off, and which are put in their place. -/
def climb (segments : List (List Char)) : Nat × List (List Char) :=
  segments.foldl (fun done_ segment =>
    if isDoubleDot segment && done_.2.isEmpty then (done_.1 + 1, [])
    else (done_.1, follow done_.2 segment)) (0, [])

theorem climb_snoc (segments : List (List Char)) (segment : List Char) :
    climb (segments ++ [segment]) =
      if isDoubleDot segment && (climb segments).2.isEmpty then ((climb segments).1 + 1, [])
      else ((climb segments).1, follow (climb segments).2 segment) := by
  rw [climb, foldl_append]
  rfl

theorem walk_append (path first second : List (List Char)) :
    walk path (first ++ second) = walk (walk path first) second := foldl_append ..

theorem walk_eq (path segments : List (List Char)) : walk path segments =
    path.take (path.length - (climb segments).1) ++ (climb segments).2 := by
  induction segments using reverseRecOn with
  | nil => simp [walk, climb]
  | append_singleton segments segment ih =>
    rw [walk_append, ih, climb_snoc]
    cases isUp : isDoubleDot segment with
    | true =>
      cases kept : (climb segments).2 with
      | nil =>
        simp only [walk, foldl_cons, foldl_nil, follow, isUp, if_true, append_nil,
          isEmpty_nil, Bool.and_self, dropLast_eq_take, take_take, length_take]
        congr 1
        omega
      | cons first rest =>
        simp [walk, follow, isUp, dropLast_append_of_ne_nil]
    | false =>
      cases isHere : isDot segment <;> simp [walk, follow, isUp, isHere]

/-- What the segments take off the path, they put back. -/
def Returns (path segments : List (List Char)) : Prop :=
  path.drop (path.length - (climb segments).1) <+: (climb segments).2 ++ ending segments

instance (path segments : List (List Char)) : Decidable (Returns path segments) :=
  inferInstanceAs (Decidable (_ <+: _))

variable {segments : List (List Char)}

theorem ending_append (path : List (List Char))
    (some_ : segments ≠ []) : ending (path ++ segments) = ending segments := by
  rw [ending, ending, getLast?_append, getLast?_eq_some_getLast some_, Option.some_or]

theorem prefix_iff_returns (path : List (List Char))
    (some_ : segments ≠ []) : walk [] path <+: removeDotSegments (path ++ segments) ↔
      Returns (walk [] path) segments := by
  have parts := take_append_drop ((walk [] path).length - (climb segments).1) (walk [] path)
  rw [removeDotSegments, ending_append path some_, walk_append, walk_eq (walk [] path),
    append_assoc]
  nth_rewrite 1 [← parts]
  rw [prefix_append_right_inj]
  rfl

end DotSegments
