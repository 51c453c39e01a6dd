import Mathlib.Data.List.Sort
import Gamebook.IdSet

/-! Laws of sets of identifiers: unions of several sets, and lists in increasing order. -/

namespace Gamebook

namespace IdSet

/-- Sets with the same members are equal. -/
theorem eq_of_mem_iff {a b : IdSet} (same : ∀ id, id ∈ a ↔ id ∈ b) : a = b := by
  -- Both lists are increasing, so that the same members stand in the same order.
  have ids : a.ids = b.ids := a.increasing.eq_of_mem_iff b.increasing same
  cases a
  cases b
  cases ids
  rfl

/-- Whether a set has no member, by its members. -/
theorem isEmpty_iff {set : IdSet} : set.isEmpty = true ↔ ∀ id, id ∉ set := by
  rw [isEmpty, List.isEmpty_iff, List.eq_nil_iff_forall_not_mem]
  exact Iff.rfl

/-- The list of a set has no member exactly when the set has none. -/
theorem ids_eq_nil_iff {set : IdSet} : set.ids = [] ↔ ∀ id, id ∉ set := by
  rw [← isEmpty_iff, isEmpty, List.isEmpty_iff]

/-- The union of a set with several others has the members of each of them. -/
theorem mem_foldl_union {id : String} {sets : List IdSet} {first : IdSet} :
    id ∈ sets.foldl union first ↔ id ∈ first ∨ ∃ set ∈ sets, id ∈ set := by
  induction sets generalizing first with
  | nil => simp
  | cons set rest ih =>
    -- The first set is joined to what the others are joined to.
    rw [List.foldl_cons, ih, mem_union]
    simp only [List.mem_cons, exists_eq_or_imp, or_assoc]

end IdSet

/-- Sorting keeps the members. -/
@[simp] theorem mem_sortIds {id : String} {ids : List String} : id ∈ sortIds ids ↔ id ∈ ids :=
  List.mem_mergeSort

/-- Sorted identifiers never decrease. -/
theorem pairwise_sortIds (ids : List String) : (sortIds ids).Pairwise (· ≤ ·) := by
  -- The order of identifiers is total, which is all that sorting asks for.
  have transitive : ∀ a b c : String, decide (a ≤ b) → decide (b ≤ c) → decide (a ≤ c) := by
    intro a b c below above
    simp only [decide_eq_true_eq] at below above ⊢
    exact String.le_trans below above
  have total : ∀ a b : String, decide (a ≤ b) || decide (b ≤ a) := by
    intro a b
    simpa using String.le_total a b
  simpa [sortIds] using List.pairwise_mergeSort transitive total ids

/-- Identifiers that never decrease are sorted. -/
theorem sortIds_eq_self {ids : List String} (sorted : ids.Pairwise (· ≤ ·)) : sortIds ids = ids :=
  List.mergeSort_of_pairwise (by simpa using sorted)

/-- Identifiers that are all different are strictly increasing once sorted. -/
theorem increasing_sortIds {ids : List String} (distinct : ids.Nodup) :
    (sortIds ids).Pairwise (· < ·) := by
  have different : (sortIds ids).Nodup := (List.mergeSort_perm ids _).symm.nodup distinct
  refine (List.pairwise_and_iff.2 ⟨pairwise_sortIds ids, different⟩).imp ?_
  intro a b ⟨below, apart⟩
  -- A pair that is in order and not equal is strictly in order.
  by_cases less : a < b
  · exact less
  · exact absurd (String.le_antisymm below (String.not_lt.1 less)) apart

/-- Lists with the same identifiers in another order are equal once sorted. -/
theorem sortIds_eq_of_perm {first second : List String} (perm : first.Perm second) :
    sortIds first = sortIds second := by
  -- Two sorted lists of the same ids are equal.
  have sorted : (sortIds first).Perm (sortIds second) :=
    (List.mergeSort_perm first _).trans (perm.trans (List.mergeSort_perm second _).symm)
  exact sorted.eq_of_pairwise' (pairwise_sortIds first) (pairwise_sortIds second)

/-- It makes no difference whether identifiers are left out before or after sorting. -/
theorem sortIds_filter (keep : String → Bool) (ids : List String) :
    sortIds (ids.filter keep) = (sortIds ids).filter keep := by
  -- Both sides are sorted lists of the same ids.
  have same : (sortIds (ids.filter keep)).Perm ((sortIds ids).filter keep) :=
    (List.mergeSort_perm _ _).trans ((List.mergeSort_perm ids _).symm.filter keep)
  exact same.eq_of_pairwise' (pairwise_sortIds _) ((pairwise_sortIds ids).filter keep)

end Gamebook
