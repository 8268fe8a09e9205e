import Idenplane.Lib.Atomic
import Mathlib.Data.List.Nodup

/-! # Names in common use

Lemmas on lists and options, and the steps of programs, under their last names.
-/

namespace Idenplane

export List (mem_cons mem_cons_self mem_cons_of_mem mem_map mem_map_of_mem mem_filter
  mem_of_mem_filter mem_singleton mem_append mem_append_left mem_append_right mem_of_find?_eq_some
  find?_some find?_eq_none any_eq_true all_eq_true map_cons foldl_cons inj_on_of_nodup_map
  filter_sublist append_nil append_assoc nodup_cons not_mem_nil map_append map_map contains_iff_mem
  cons_append mem_flatMap mem_filterMap mem_of_getElem? subset_cons_self map_congr_left
  singleton_append length_cons countP_cons mem_reverse exists_cons_of_ne_nil Subset.refl cons.inj
  nil_append find?_append length_map pairwise_cons find?_cons any_eq_false length_append
  filter_filter any_cons find?_map cons.injEq map_eq_flatMap mem_of_ne_of_mem mem_iff_getElem?
  nodup_append foldl_append Subset.trans append_of_mem foldl_nil filter_eq_self countP_eq_zero
  suffix_rfl nodup_singleton forall_mem_cons)
export Option (map_eq_some_iff bind_eq_some_iff filter_eq_some_iff isSome_iff_exists some.inj
  some.injEq bind_some map_some bind_eq_bind getD_some none_or filter_some some_or mem_toList
  isSome_some toList_some)
export Bool (and_eq_true false_eq_true or_eq_true not_eq_true not_eq_true' eq_false_iff not_eq_false
  not_eq_false' or_eq_true_iff)
export Nat (le_succ lt_succ_self lt_succ_of_lt le_add_right mod_eq_of_lt)
export String (toList_ofList toList_append)
export Except (ok.injEq)
export BitVec (toNat_ofNat toNat_and)
export Function (update update_of_ne update_self comp_apply)
export Atomic.Prog (read modify pure_def bind_assoc)

end Idenplane
