import Mathlib.Data.List.Lex
import Mathlib.Data.List.Sort
import Mathlib.Data.Prod.Lex
import Mathlib.Data.String.Basic
import Gamebook.Schema.Registry

/-! The messages of a check do not depend on the order in which its violations are found.

Remarks are sorted by a key that two of them can share, as a step into a list and a member of an
object may have the same text. Remarks with the same key have the same message, so it makes no
difference which of them comes first. -/

namespace Gamebook.Schema

/-- To come no later, text by text, is the order of lists of texts. -/
theorem notAfter_iff {first second : List String} :
    notAfter first second = true ↔ first ≤ second := by
  induction first generalizing second with
  | nil => simpa [notAfter] using not_lt.1 (List.not_lt_nil second)
  | cons a rest ih =>
    cases second with
    | nil => simp [notAfter]
    | cons b others =>
      simp only [notAfter, Bool.or_eq_true, decide_eq_true_eq, Bool.and_eq_true, beq_iff_eq, ih]
      rw [← not_lt, ← not_lt, List.cons_lt_cons_iff]
      -- Only one of the three orders of the first texts can hold.
      rcases lt_trichotomy a b with less | rfl | greater
      · simp [less, less.not_gt, less.ne']
      · simp
      · simp [greater, greater.not_gt, greater.ne']

namespace Remark

/-- What remarks are sorted by. -/
def key (remark : Remark) : Lex (List String × String) := toLex (remark.steps, remark.text)

/-- The message of the remarks with a key. -/
def messageOf (label : String) (key : Lex (List String × String)) : String :=
  s!"{label}:{Pointer.written (ofLex key).1} - {(ofLex key).2}"

variable {a b : Remark} {remarks others : List Remark}

/-- The message of a remark depends on its key only. -/
theorem message_eq_messageOf (label : String) (remark : Remark) :
    message label remark = messageOf label remark.key := rfl

/-- A remark comes no later than another one exactly when its key is no greater. -/
theorem isNotAfter_iff : isNotAfter a b = true ↔ a.key ≤ b.key := by
  rw [key, key, Prod.Lex.toLex_le_toLex, isNotAfter]
  -- Remarks with one path are in order of their texts.
  by_cases same : a.steps = b.steps
  · simp [same]
  · rw [if_neg same, notAfter_iff]
    simp [same, le_iff_lt_or_eq]

/-- Sorted remarks never decrease in their keys. -/
theorem pairwise_mergeSort (remarks : List Remark) :
    (remarks.mergeSort isNotAfter).Pairwise fun a b => a.key ≤ b.key := by
  -- The order by keys is a linear one, so sorting by it puts every remark in its place.
  have transitive (a b c : Remark) (below : isNotAfter a b = true) (above : isNotAfter b c = true) :
      isNotAfter a c = true :=
    isNotAfter_iff.2 (le_trans (isNotAfter_iff.1 below) (isNotAfter_iff.1 above))
  have total (a b : Remark) : (isNotAfter a b || isNotAfter b a) = true := by
    rw [Bool.or_eq_true, isNotAfter_iff, isNotAfter_iff]
    exact le_total a.key b.key
  exact (List.pairwise_mergeSort transitive total remarks).imp isNotAfter_iff.1

/-- The same remarks in another order have the same keys once sorted. -/
theorem map_key_mergeSort_of_perm (same : remarks.Perm others) :
    (remarks.mergeSort isNotAfter).map key = (others.mergeSort isNotAfter).map key := by
  have perm :
      ((remarks.mergeSort isNotAfter).map key).Perm ((others.mergeSort isNotAfter).map key) :=
    ((List.mergeSort_perm remarks _).trans
      (same.trans (List.mergeSort_perm others _).symm)).map key
  have sorted (remarks : List Remark) :
      ((remarks.mergeSort isNotAfter).map key).Pairwise (· ≤ ·) :=
    List.pairwise_map.2 (pairwise_mergeSort remarks)
  -- A list is sorted in one way only, as keys are in a linear order.
  exact perm.eq_of_pairwise' (sorted remarks) (sorted others)

/-- The messages of remarks are those of their sorted keys. -/
theorem messages_eq_map_messageOf (label : String) (remarks : List Remark) :
    messages label remarks = ((remarks.mergeSort isNotAfter).map key).map (messageOf label) := by
  rw [messages, List.map_map]
  exact List.map_congr_left fun remark _ => message_eq_messageOf label remark

/-- The same remarks have the same messages, in whichever order they are made: one for each of them,
by paths that never decrease. So a check has these messages in whichever order it finds what is
wrong. -/
theorem messages_of_perm (label : String) (same : remarks.Perm others) :
    messages label remarks = messages label others ∧
    (messages label remarks).length = remarks.length ∧
    (∃ arranged : List Remark, arranged.Perm remarks ∧
      messages label remarks = arranged.map (message label) ∧
      arranged.Pairwise fun a b => a.steps ≤ b.steps) ∧
    ∀ findings : Findings, findings.obstacle = .none →
      findings.violations.map Violation.remark = others →
        findings.messages label = .ok (messages label remarks) := by
  have alike : messages label remarks = messages label others := by
    rw [messages_eq_map_messageOf, messages_eq_map_messageOf, map_key_mergeSort_of_perm same]
  refine ⟨alike, length_messages label remarks, ?_, ?_⟩
  · refine ⟨remarks.mergeSort isNotAfter, List.mergeSort_perm remarks _, rfl, ?_⟩
    -- The path is what comes first in a key.
    exact (pairwise_mergeSort remarks).imp fun less => Prod.Lex.monotone_fst _ _ less
  · intro findings complete found
    rw [Findings.messages, complete, alike, ← found]
    rfl

/-- Two steps with the same text, and one remark made twice. -/
theorem messages_of_perm_tied :
    let remarks : List Remark :=
      [⟨[.index 0], "m"⟩, ⟨[.key "b"], "m"⟩, ⟨[.key "0"], "m"⟩, ⟨[], "m"⟩, ⟨[.key "b"], "m"⟩]
    let others : List Remark :=
      [⟨[.key "0"], "m"⟩, ⟨[.key "b"], "m"⟩, ⟨[.index 0], "m"⟩, ⟨[.key "b"], "m"⟩, ⟨[], "m"⟩]
    remarks.Perm others ∧ messages "doc" remarks = messages "doc" others := by
  intro remarks others
  -- Two remarks are equal, and two have one message at places that differ.
  have same : remarks.Perm others := by decide
  exact ⟨same, (messages_of_perm "doc" same).1⟩

end Remark

end Gamebook.Schema
