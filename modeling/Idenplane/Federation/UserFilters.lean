import Idenplane.Federation.Ldap
import Idenplane.Lib.LdapFilters

/-! # The filter that a name is searched with

The name is an assertion value of the filter, whatever is in it; the rest of the tree comes from
the configuration.
-/

namespace Idenplane.Federation

open LdapFilters String Derives

def utf8 (text : String) : List UInt8 := text.toList.flatMap String.utf8EncodeChar

/-- The configuration is well-formed: the class is an assertion value, the attribute can stand
before its `=`, and the filter, if there is one, is a filter. -/
structure WellFormed (federation : UserFederation) (classes : List (List UInt8))
    (search : Option Filter) : Prop where
  objectClass : IsValue federation.userObjectClass.toList classes
  attr : ∃ free, Left free federation.usernameLdapAttr.toList
  searchFilter : Option.Rel (fun text filter => Derives filter text.toList)
    (given federation.searchFilter) search

/-- The tree of the filter for a name of these octets. -/
def userFilter (federation : UserFederation) (classes : List (List UInt8)) (search : Option Filter)
    (name : List UInt8) : Filter :=
  let base := .list .and [.item "objectClass".toList classes,
    .item federation.usernameLdapAttr.toList [name]]
  match search with
  | some filter => .list .and [base, filter]
  | none => base

variable {fed : UserFederation} {classes : List (List UInt8)} {search : Option Filter}

theorem utf8_inj {s t : String} (same : utf8 s = utf8 t) : s = t := by
  apply toByteArray_inj.mp
  rw [← ofList_toList (s := s), ← ofList_toList (s := t), toByteArray_ofList, toByteArray_ofList]
  exact congrArg List.toByteArray same

theorem isLdapSpecial_ascii {c : Char} (special : isLdapSpecial c) :
    c.toNat < 256 ∧ utf8EncodeChar c = [UInt8.ofNat c.toNat] := by
  simp only [isLdapSpecial, or_eq_true, beq_iff_eq] at special
  rcases special with ((((rfl | rfl) | rfl) | rfl) | rfl) | rfl <;> decide

theorem octets_escapeLdapChar (c : Char) (rest : List Char) :
    octets (escapeLdapChar c ++ rest) = (octets rest).map (utf8EncodeChar c ++ ·) := by
  unfold escapeLdapChar
  split
  case isTrue special =>
    obtain ⟨small, encoded⟩ := isLdapSpecial_ascii special
    have isHigh := Numerals.hexDigit_digitChar (d := c.toNat / 16) (by omega)
    have isLow := Numerals.hexDigit_digitChar (d := c.toNat % 16) (by omega)
    rw [encoded, cons_append, cons_append, cons_append, nil_append, octets_escape isHigh isLow,
      Nat.div_add_mod]
    rfl
  case isFalse plain =>
    rw [singleton_append, octets, if_neg]
    · intro special
      simp_all [isSpecial, isLdapSpecial]
    · rintro a b more rfl
      exact absurd rfl plain

theorem octets_escapeLdap (name : String) : octets (escapeLdap name).toList = some (utf8 name) := by
  rw [escapeLdap, toList_ofList, utf8]
  induction name.toList with
  | nil => rfl
  | cons c rest ih => rw [List.flatMap_cons, octets_escapeLdapChar, ih, map_some, List.flatMap_cons]

theorem not_mem_escapeLdapChar (c : Char) : '*' ∉ escapeLdapChar c := by
  unfold escapeLdapChar
  split
  case isTrue special =>
    simp only [isLdapSpecial, or_eq_true, beq_iff_eq] at special
    rcases special with ((((rfl | rfl) | rfl) | rfl) | rfl) | rfl <;> decide
  case isFalse plain =>
    intro mem
    cases mem_singleton.mp mem
    exact plain rfl

theorem isValue_escapeLdap (name : String) : IsValue (escapeLdap name).toList [utf8 name] := by
  have absent : '*' ∉ (escapeLdap name).toList := by
    rw [escapeLdap, toList_ofList, mem_flatMap]
    rintro ⟨c, -, mem⟩
    exact not_mem_escapeLdapChar c mem
  rw [IsValue, Text.split_of_not_mem absent, List.map_singleton, octets_escapeLdap]
  rfl

theorem derives_userFilter (formed : WellFormed fed classes search) (name : String) :
    Derives (userFilter fed classes search (utf8 name)) (buildUserFilter fed name).toList := by
  obtain ⟨objectClass, ⟨free, isLeft⟩, searchFilter⟩ := formed
  have isClass : Left true "objectClass".toList := .equal (by decide +kernel)
  have first := item isClass objectClass (.inl rfl)
  have second := item isLeft (isValue_escapeLdap name) (.inr rfl)
  have base := first.pair .and second
  unfold buildUserFilter userFilter
  generalize given fed.searchFilter = text at searchFilter ⊢
  cases searchFilter with
  | none => simpa [Connective.sign] using base
  | some derives => simpa [Connective.sign] using base.pair .and derives

/-- Every name gives a filter with the tree of the configuration, in which only the octets of the
name are the name's, and the filter of no other name. -/
theorem name_is_a_value (formed : WellFormed fed classes search) :
    (∀ name tree, Derives tree (buildUserFilter fed name).toList ↔
      tree = userFilter fed classes search (utf8 name)) ∧
    Function.Injective (buildUserFilter fed) := by
  constructor
  · intro name tree
    constructor
    · intro derives
      exact derives.tree_unique (derives_userFilter formed name)
    · rintro rfl
      exact derives_userFilter formed name
  · intro name name' same
    have derives := derives_userFilter formed name
    rw [same] at derives
    have trees := derives.tree_unique (derives_userFilter formed name')
    apply utf8_inj
    unfold userFilter at trees
    cases search with
    | none => simpa using trees
    | some filter => simpa using trees

/-- Only the staff may sign in. -/
def staffOnly : UserFederation := { id := 1, realmId := 1, searchFilter := some "(ou=staff)" }

theorem staff_name_is_a_value : (∀ name tree, Derives tree (buildUserFilter staffOnly name).toList ↔
      tree = userFilter staffOnly [utf8 "inetOrgPerson"] (some (.item "ou".toList [utf8 "staff"]))
        (utf8 name)) ∧
    Function.Injective (buildUserFilter staffOnly) := by
  have isAttr : isAttribute "ou".toList := by decide +kernel
  have isValue : IsValue "staff".toList [utf8 "staff"] := by unfold IsValue; decide +kernel
  have onlyStaff : Derives (.item "ou".toList [utf8 "staff"]) "(ou=staff)".toList := by
    simpa using item (.equal isAttr) isValue (.inl rfl)
  exact name_is_a_value ⟨by unfold IsValue; decide +kernel, ⟨true, .equal (by decide +kernel)⟩,
    .some onlyStaff⟩

end Idenplane.Federation
