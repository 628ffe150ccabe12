import Mathlib.Data.List.Sort
import Mathlib.Data.String.Basic
import SchemaGrammar.Text.NameOrder

/-!
# Names in order, said by membership

Being in order, once each, and having the same members determine a list of names.
-/
namespace SchemaGrammar.Text

variable {names sorted : List String} {name : String}

theorem nodup_eraseDups (names : List String) : names.eraseDups.Nodup := by
  induction hn : names.length using Nat.strong_induction_on generalizing names with
  | h n ih =>
    cases names with
    | nil => simp
    | cons name names =>
      rw [List.eraseDups_cons, List.nodup_cons]
      have hlength := List.length_filter_le (fun b => !b == name) names
      rw [List.length_cons] at hn
      exact ⟨by simp, ih _ (by omega) _ rfl⟩

theorem mem_sortedNames : name ∈ sortedNames names ↔ name ∈ names := by
  rw [sortedNames, List.mem_mergeSort, List.mem_eraseDups]

theorem pairwise_sortedNames (names : List String) : (sortedNames names).Pairwise (· < ·) := by
  have hsorted : (sortedNames names).Pairwise fun a b => decide (a ≤ b) = true := by
    apply List.pairwise_mergeSort
    · intro a b c hab hbc
      exact decide_eq_true (le_trans (of_decide_eq_true hab) (of_decide_eq_true hbc))
    · intro a b
      simpa using le_total a b
  have hnodup : (sortedNames names).Nodup :=
    (List.mergeSort_perm _ _).nodup_iff.mpr (nodup_eraseDups names)
  exact (hsorted.and hnodup).imp fun h => lt_of_le_of_ne (of_decide_eq_true h.1) h.2

theorem eq_sortedNames_iff :
    sorted = sortedNames names ↔
      sorted.Pairwise (· < ·) ∧ ∀ name, name ∈ sorted ↔ name ∈ names := by
  constructor
  · rintro rfl
    exact ⟨pairwise_sortedNames names, fun name => mem_sortedNames⟩
  · rintro ⟨hsorted, hmem⟩
    refine hsorted.eq_of_mem_iff (pairwise_sortedNames names) fun name => ?_
    rw [hmem, mem_sortedNames]

theorem mem_repeatedNames : name ∈ repeatedNames names ↔ 1 < names.count name := by
  rw [repeatedNames, List.mem_filter, List.mem_eraseDups, decide_eq_true_eq]
  constructor
  · exact And.right
  · intro h
    exact ⟨List.count_pos_iff.mp (by omega), h⟩

theorem repeatedNames_eq_nil_iff : repeatedNames names = [] ↔ names.Nodup := by
  rw [List.eq_nil_iff_forall_not_mem, List.nodup_iff_count_le_one]
  simp only [mem_repeatedNames, Nat.not_lt]

end SchemaGrammar.Text
